import FactLayout.Files.Tree
import Mathlib.Tactic.Tauto

/-
  Names within a directory of a tree.

  A path that leads to a directory leads to the same place in
  every tree in which it does.  What stands at a name within
  the directory is the node at this name in that place, and
  changes at other names leave it as it is.

  Key definitions include:
    * `FileTree.follow`
    * `FileTree.IsName`
    * `FileTree.target?`
    * `FileTree.stateIn`
    * `FileTree.edited`

  Main results:
    * `FileTree.walk_append`
    * `FileTree.view_joinPath`
    * `FileTree.view_edited`
-/

------------------------------------------------------------
-- Nodes
------------------------------------------------------------

namespace FactLayout

/- What does not concern a key keeps what it stands for. -/
theorem lookup_filter_of_pos
    {α β : Type}
    [BEq α]
    [LawfulBEq α]
    {p : α → Bool}
    {key : α}
    (hKey : p key = true)
    (entries : List (α × β)) :
    (entries.filter fun entry => p entry.1).lookup key =
      entries.lookup key := by
  induction entries with
  | nil => rfl
  | cons entry entries ih =>
      rcases entry with ⟨other, b⟩
      by_cases hSame : key = other
      · subst hSame
        simp [hKey]
      · have hBeq : (key == other) = false :=
          beq_eq_false_iff_ne.mpr hSame
        cases hOther : p other <;>
          simp [List.lookup_cons, hBeq, hOther, ih]

namespace FileTree

variable {t u : FileTree}

/- A node is put at one place only. -/
theorem node?_put_of_ne
    {place other : Place}
    (hOther : other ≠ place)
    (t : FileTree)
    (node : FileNode) :
    (t.put place node).node? other = t.node? other := by
  have hLookup :=
    lookup_filter_of_pos (p := (· != place))
      (bne_iff_ne.mpr hOther) t.nodes
  have hBeq : (other == place) = false :=
    beq_eq_false_iff_ne.mpr hOther
  unfold put node?
  simp only [List.lookup_cons, hBeq, hLookup]

/- Only a place and what is below it is removed. -/
theorem node?_drop_of_not_suffix
    {place other : Place}
    (hOther : ¬ place <:+ other)
    (t : FileTree) :
    (t.drop place).node? other = t.node? other := by
  have hKey : (!(place.isSuffixOf other)) = true := by
    rw [Bool.not_eq_true', Bool.eq_false_iff]
    exact fun hSuffix =>
      hOther (List.isSuffixOf_iff_suffix.mp hSuffix)
  have hLookup :=
    lookup_filter_of_pos
      (p := fun other => !(place.isSuffixOf other)) hKey
      t.nodes
  unfold drop node?
  simp only [hLookup]

/- Directories are made on the way to a place only. -/
theorem node?_makeDirectories_of_not_suffix
    {place other : Place}
    (hOther : ¬ other <:+ place)
    (t : FileTree) :
    (t.makeDirectories place).node? other = t.node? other := by
  induction place with
  | nil => rfl
  | cons name above ih =>
      have hNe : other ≠ name :: above := by
        rintro rfl
        exact hOther List.suffix_rfl
      have hAbove : ¬ other <:+ above := fun hSuffix =>
        hOther (hSuffix.trans (List.suffix_cons name above))
      unfold makeDirectories
      dsimp only
      split
      · exact ih hAbove
      · rw [node?_put_of_ne hNe, ih hAbove]

------------------------------------------------------------
-- Following Paths
------------------------------------------------------------

/-
  Where a part of a path leads from a directory.  There is no
  place outside of the tree.
-/
def enter
    (place : Option Place)
    (part : String) : Option Place :=
  if part = "" ∨ part = "." then place
  else if part = ".." then
    match place with
    | some (_ :: above) => some above
    | _ => none
  else place.map (part :: ·)

/- Where the parts of a path lead through directories. -/
def follow : Option Place → List String → Option Place :=
  List.foldl enter

/- Why a part of a path leads nowhere from a directory. -/
def refusal?
    (place : Option Place)
    (part : String) : Option FileFault :=
  if part = "" ∨ part = "." ∨ part = ".." then none
  else if maxNameSize < part.utf8ByteSize then
    some .nameTooLong
  else if place = none then some .notFound
  else none

/- No part leads back into the tree. -/
theorem follow_none
    (parts : List String) :
    follow none parts = none := by
  induction parts with
  | nil => rfl
  | cons part rest ih =>
      have hEnter : enter none part = none := by
        unfold enter
        split
        · rfl
        · split <;> rfl
      unfold follow at ih ⊢
      rw [List.foldl_cons, hEnter, ih]

/- Inside the tree the parts lead to where files are put. -/
theorem placeOf_of_follow
    {place found : Place}
    {parts : List String}
    (hFollow : follow (some place) parts = some found) :
    placeOf place parts = found := by
  induction parts generalizing place with
  | nil => exact Option.some.inj hFollow
  | cons part rest ih =>
      change follow (enter (some place) part) rest =
        some found at hFollow
      unfold placeOf
      unfold enter at hFollow
      split at hFollow
      · rename_i hEmpty
        rw [if_pos hEmpty]
        exact ih hFollow
      · rename_i hEmpty
        rw [if_neg hEmpty]
        split at hFollow
        · rename_i hUp
          rw [if_pos hUp]
          cases place with
          | nil =>
              rw [follow_none] at hFollow
              cases hFollow
          | cons name above => exact ih hFollow
        · rename_i hUp
          rw [if_neg hUp]
          exact ih hFollow

/- A part is followed from a directory, if it can be. -/
theorem walk_cons
    (t : FileTree)
    (place : Option Place)
    (part : String)
    (rest : List String) :
    t.walk place (part :: rest) =
      match t.walk place [] with
      | .directory =>
          match refusal? place part with
          | some cause => .absent cause
          | none => t.walk (enter place part) rest
      | .file _ => .absent .notDirectory
      | .absent cause => .absent cause := by
  have hEnter :
      (if part = "" ∨ part = "." then t.walk place rest
      else if part = ".." then
        match place with
        | some (_ :: above) => t.walk (some above) rest
        | _ => t.walk none rest
      else if maxNameSize < part.utf8ByteSize then
        .absent .nameTooLong
      else
        match place with
        | none => .absent .notFound
        | some place => t.walk (some (part :: place)) rest) =
        match refusal? place part with
        | some cause => .absent cause
        | none => t.walk (enter place part) rest := by
    unfold refusal? enter
    by_cases hEmpty : part = "" ∨ part = "."
    · have hSpecial : part = "" ∨ part = "." ∨ part = ".." := by
        tauto
      rw [if_pos hEmpty, if_pos hSpecial, if_pos hEmpty]
    · rw [if_neg hEmpty, if_neg hEmpty]
      by_cases hUp : part = ".."
      · have hSpecial :
            part = "" ∨ part = "." ∨ part = ".." := by
          tauto
        rw [if_pos hUp, if_pos hUp, if_pos hSpecial]
        rcases place with _ | _ | ⟨name, above⟩ <;> rfl
      · have hPlain :
            ¬ (part = "" ∨ part = "." ∨ part = "..") := by
          tauto
        rw [if_neg hUp, if_neg hUp, if_neg hPlain]
        by_cases hLong : maxNameSize < part.utf8ByteSize
        · rw [if_pos hLong, if_pos hLong]
        · rw [if_neg hLong, if_neg hLong]
          cases place <;> rfl
  cases place with
  | none =>
      simp only [walk, Option.map_none]
      exact hEnter
  | some place =>
      cases hNode : t.node? place with
      | none => simp only [walk, Option.map_some, hNode]
      | some node =>
          cases node with
          | file content =>
              simp only [walk, Option.map_some, hNode]
          | directory =>
              simp only [walk, Option.map_some, hNode]
              exact hEnter

/-
  More parts are followed from where the first ones lead, if
  this is a directory.
-/
theorem walk_append
    (t : FileTree)
    (place : Option Place)
    (parts more : List String) :
    t.walk place (parts ++ more) =
      match t.walk place parts, more with
      | state, [] => state
      | .directory, more => t.walk (follow place parts) more
      | .file _, _ :: _ => .absent .notDirectory
      | .absent cause, _ :: _ => .absent cause := by
  induction parts generalizing place with
  | nil =>
      cases more with
      | nil => rfl
      | cons part rest =>
          rw [List.nil_append, walk_cons]
          cases hHere : t.walk place [] with
          | directory =>
              change _ = t.walk place (part :: rest)
              rw [walk_cons, hHere]
          | file content => rfl
          | absent cause => rfl
  | cons part rest ih =>
      rw [List.cons_append, walk_cons, walk_cons]
      cases hHere : t.walk place [] with
      | directory =>
          cases hRefusal : refusal? place part with
          | some cause => cases more <;> rfl
          | none => exact ih (enter place part)
      | file content => cases more <;> rfl
      | absent cause => cases more <;> rfl

/- Where parts lead to a directory, one stands. -/
theorem walk_follow
    {place : Option Place}
    {parts : List String}
    (hDirectory : t.walk place parts = .directory) :
    t.walk (follow place parts) [] = .directory := by
  induction parts generalizing place with
  | nil => exact hDirectory
  | cons part rest ih =>
      rw [walk_cons] at hDirectory
      cases hHere : t.walk place [] with
      | directory =>
          rw [hHere] at hDirectory
          cases hRefusal : refusal? place part with
          | some cause =>
              rw [hRefusal] at hDirectory
              cases hDirectory
          | none =>
              rw [hRefusal] at hDirectory
              exact ih hDirectory
      | file content =>
          rw [hHere] at hDirectory
          cases hDirectory
      | absent cause =>
          rw [hHere] at hDirectory
          cases hDirectory

------------------------------------------------------------
-- Parts of Paths
------------------------------------------------------------

/- A name that a path takes one step down with. -/
structure IsName (name : String) : Prop where
  slash : '/' ∉ name.toList
  null : '\x00' ∉ name.toList
  plain : ¬ (name = "" ∨ name = "." ∨ name = "..")
  size : name.utf8ByteSize ≤ maxNameSize

/- The names of layout files are such names. -/
theorem isName_of_mem_layoutNames
    {name : String}
    (hMem : name ∈ layoutNames) :
    IsName name := by
  simp only [layoutNames, List.mem_cons, List.not_mem_nil,
    or_false] at hMem
  rcases hMem with rfl | rfl | rfl <;>
    exact ⟨by decide, by decide, by decide, by decide⟩

/- A name leads one step down. -/
theorem enter_of_isName
    {name : String}
    (hName : IsName name)
    (place : Option Place) :
    enter place name = place.map (name :: ·) := by
  have hPlain := hName.plain
  unfold enter
  rw [if_neg (by tauto), if_neg (by tauto)]

/- Where a path begins: in the tree, or outside of it. -/
def origin (path : String) : Option Place :=
  if path.toList.head? = some '/' then none else some []

/- The place that the path of a directory leads to. -/
def target? (directory : String) : Option Place :=
  follow (origin directory) (parts directory)

theorem parts_append_slash
    (front back : String) :
    parts (front ++ "/" ++ back) =
      parts front ++ parts back := by
  unfold parts
  rw [← List.map_append]
  congr 1
  have hText :
      (front ++ "/" ++ back).toList =
        front.toList ++ '/' :: back.toList := by
    simp
  rw [hText, List.splitOn_eq_splitOnP,
    List.splitOn_eq_splitOnP, List.splitOn_eq_splitOnP]
  exact List.splitOnP_append_cons _ _ (beq_self_eq_true '/')

theorem parts_of_isName
    {name : String}
    (hName : IsName name) :
    parts name = [name] := by
  have hSlash :
      ∀ c ∈ name.toList, (c == '/') = false := by
    intro c hMem
    rw [beq_eq_false_iff_ne]
    rintro rfl
    exact hName.slash hMem
  unfold parts
  rw [List.splitOn_eq_splitOnP,
    List.splitOnP_eq_singleton hSlash]
  simp

/-
  The parts of a path within a directory are those of the
  directory and the name.  A slash that ends the directory
  makes no part between them.
-/
theorem exists_parts_joinPath
    {name : String}
    (hName : IsName name)
    {directory : String}
    (hSome : directory ≠ "") :
    ∃ above,
      parts (joinPath directory name) = above ++ [name] ∧
        (parts directory = above ∨
          parts directory = above ++ [""]) := by
  by_cases hSlash : directory.toList.getLast? = some '/'
  · rcases List.getLast?_eq_some_iff.mp hSlash with
      ⟨front, hFront⟩
    have hDirectory :
        directory = String.ofList front ++ "/" ++ "" := by
      apply String.toList_injective
      simp [hFront]
    have hPath :
        joinPath directory name =
          String.ofList front ++ "/" ++ name := by
      unfold joinPath
      rw [if_pos (Or.inr hSlash), hDirectory,
        String.append_empty]
    refine ⟨parts (String.ofList front), ?_, Or.inr ?_⟩
    · rw [hPath, parts_append_slash, parts_of_isName hName]
    · rw [hDirectory, parts_append_slash]
      rfl
  · have hPath :
        joinPath directory name = directory ++ "/" ++ name := by
      unfold joinPath
      rw [if_neg (by simp [hSome, hSlash])]
    refine ⟨parts directory, ?_, Or.inl rfl⟩
    rw [hPath, parts_append_slash, parts_of_isName hName]

------------------------------------------------------------
-- Names Within a Directory
------------------------------------------------------------

variable {directory name later : String}

/- A path leads to a directory part by part. -/
theorem walk_of_view_directory
    (hDirectory : t.view directory = .directory) :
    '\x00' ∉ directory.toList ∧ directory ≠ "" ∧
      t.walk (origin directory) (parts directory) =
        .directory := by
  change t.state directory = .directory at hDirectory
  unfold state at hDirectory
  split at hDirectory
  · cases hDirectory
  rename_i hNull
  split at hDirectory
  · cases hDirectory
  rename_i hSome
  split at hDirectory
  · cases hDirectory
  refine ⟨by simpa using hNull, hSome, ?_⟩
  unfold origin
  simpa using hDirectory

/- A slash between them or not, both texts are kept. -/
theorem toList_joinPath
    (directory name : String) :
    ∃ slash, (slash = [] ∨ slash = ['/']) ∧
      (joinPath directory name).toList =
        directory.toList ++ slash ++ name.toList := by
  unfold joinPath
  split
  · exact ⟨[], Or.inl rfl, by simp⟩
  · exact ⟨['/'], Or.inr rfl, by simp⟩

/- A path within a directory begins where that one does. -/
theorem origin_joinPath
    (hSome : directory ≠ "") :
    origin (joinPath directory name) = origin directory := by
  rcases toList_joinPath directory name with
    ⟨slash, -, hText⟩
  have hChars : directory.toList ≠ [] := by
    simpa using hSome
  rcases List.exists_cons_of_ne_nil hChars with
    ⟨first, rest, hCons⟩
  unfold origin
  rw [hText, hCons]
  rfl

/-
  The parts above a name lead to where the path of the
  directory leads.
-/
theorem exists_walk_joinPath
    (hName : IsName name)
    (hDirectory : t.view directory = .directory) :
    ∃ above,
      parts (joinPath directory name) = above ++ [name] ∧
        t.walk (origin directory) above = .directory ∧
        follow (origin directory) above =
          target? directory := by
  rcases walk_of_view_directory hDirectory with
    ⟨-, hSome, hWalk⟩
  rcases exists_parts_joinPath hName hSome with
    ⟨above, hPath, hAbove⟩
  refine ⟨above, hPath, ?_⟩
  unfold target?
  rcases hAbove with hAbove | hAbove
  · rw [hAbove] at hWalk ⊢
    exact ⟨hWalk, rfl⟩
  · rw [hAbove] at hWalk ⊢
    constructor
    · rw [walk_append] at hWalk
      cases hFront : t.walk (origin directory) above with
      | directory => rfl
      | file content =>
          rw [hFront] at hWalk
          cases hWalk
      | absent cause =>
          rw [hFront] at hWalk
          cases hWalk
    · unfold follow
      rw [List.foldl_append]
      rfl

/-
  What stands at a name in a place.  Nothing is found outside
  of the tree.
-/
def stateIn
    (t : FileTree)
    (place : Option Place)
    (name : String) : PathState :=
  match place with
  | none => .absent .notFound
  | some place => t.walk (some (name :: place)) []

/- A name is looked up in the place of the directory. -/
theorem walk_name
    {place : Option Place}
    (hName : IsName name)
    (hHere : t.walk place [] = .directory) :
    t.walk place [name] = t.stateIn place name := by
  have hSize : ¬ maxNameSize < name.utf8ByteSize :=
    Nat.not_lt.mpr hName.size
  rw [walk_cons, hHere]
  unfold refusal?
  rw [if_neg hName.plain, if_neg hSize,
    enter_of_isName hName]
  cases place <;> rfl

/-
  What stands at a name within a directory is what stands at
  this name in the place that the directory leads to.
-/
theorem view_joinPath
    (hName : IsName name)
    (hDirectory : t.view directory = .directory) :
    t.view (joinPath directory name) =
      if maxPathSize ≤
        (joinPath directory name).utf8ByteSize then
        .absent .nameTooLong
      else t.stateIn (target? directory) name := by
  rcases walk_of_view_directory hDirectory with
    ⟨hNull, hSome, -⟩
  rcases exists_walk_joinPath hName hDirectory with
    ⟨above, hPath, hAbove, hTarget⟩
  rcases toList_joinPath directory name with
    ⟨slash, hSlash, hText⟩
  have hNullPath :
      (joinPath directory name).toList.contains '\x00' =
        false := by
    have hNameNull := hName.null
    rcases hSlash with rfl | rfl <;>
      simp [hText, hNull, hNameNull]
  have hSomePath : joinPath directory name ≠ "" := by
    intro hEmpty
    rw [hEmpty] at hText
    have hNil : directory.toList = [] := by
      simp_all
    exact hSome (by simpa using hNil)
  have hWalk :
      t.walk (origin directory) (above ++ [name]) =
        t.stateIn (target? directory) name := by
    rw [walk_append, hAbove, ← hTarget]
    exact walk_name hName (walk_follow hAbove)
  have hOrigin :
      (if (joinPath directory name).toList.head? = some '/'
        then none else some []) = origin directory :=
    origin_joinPath hSome
  change t.state (joinPath directory name) = _
  unfold state
  rw [hNullPath, if_neg Bool.false_ne_true,
    if_neg hSomePath]
  dsimp only
  simp only [hOrigin]
  rw [hPath, hWalk]

/-
  Two trees with the same node at a name in a directory have
  the same there.
-/
theorem view_joinPath_congr
    (hName : IsName name)
    (hDirectory : t.view directory = .directory)
    (hOther : u.view directory = .directory)
    (hNode :
      ∀ place, target? directory = some place →
        u.node? (name :: place) = t.node? (name :: place)) :
    u.view (joinPath directory name) =
      t.view (joinPath directory name) := by
  rw [view_joinPath hName hOther,
    view_joinPath hName hDirectory]
  cases hTarget : target? directory with
  | none => rfl
  | some place =>
      have hSame := hNode place hTarget
      simp only [stateIn, walk, Option.map_some, hSame]

/- A file is put where its directory leads, at its name. -/
theorem placeOf_joinPath
    {place : Place}
    (hName : IsName name)
    (hDirectory : t.view directory = .directory)
    (hTarget : target? directory = some place) :
    placeOf [] (parts (joinPath directory name)) =
      name :: place := by
  rcases exists_walk_joinPath hName hDirectory with
    ⟨above, hPath, -, hAbove⟩
  have hFollow :
      follow (origin directory) (above ++ [name]) =
        some (name :: place) := by
    unfold follow at hAbove ⊢
    rw [List.foldl_append, hAbove, hTarget]
    exact enter_of_isName hName (some place)
  have hOrigin : origin directory = some [] := by
    unfold origin at hFollow ⊢
    split at hFollow
    · rw [follow_none] at hFollow
      cases hFollow
    · rename_i hHead
      rw [if_neg hHead]
  rw [hOrigin] at hFollow
  rw [hPath]
  exact placeOf_of_follow hFollow

/- A name is not on the way to another one beside it. -/
theorem not_suffix_of_ne
    (hNe : name ≠ later)
    (place : Place) :
    ¬ name :: place <:+ later :: place := by
  intro hSuffix
  have hEq : name :: place = later :: place :=
    hSuffix.eq_of_length rfl
  exact hNe (List.cons.inj hEq).1

------------------------------------------------------------
-- Edits
------------------------------------------------------------

/- A change of what stands at a path. -/
inductive Edit where
| write (path : String) (content : Option ByteArray)
| remove (path : String)

namespace Edit

/- The path at which there is a change. -/
def path : Edit → String
| write path _ => path
| remove path => path

/- A tree after a change. -/
def apply (t : FileTree) : Edit → FileTree
| write path content => t.write path content
| remove path => t.remove path

end Edit

/- A tree after changes, one after another. -/
def edited
    (t : FileTree)
    (edits : List Edit) : FileTree :=
  edits.foldl Edit.apply t

/- An edit at a name keeps the node at any name beside it. -/
theorem node?_apply_of_ne
    {e : Edit}
    {place : Place}
    (hNe : name ≠ later)
    (hPlace : placeOf [] (parts e.path) = later :: place)
    (t : FileTree) :
    (e.apply t).node? (name :: place) =
      t.node? (name :: place) := by
  have hWay := not_suffix_of_ne hNe place
  cases e with
  | remove path =>
      change placeOf [] (parts path) = _ at hPlace
      simp only [Edit.apply, remove, hPlace]
      exact node?_drop_of_not_suffix
        (not_suffix_of_ne hNe.symm place) t
  | write path content =>
      change placeOf [] (parts path) = _ at hPlace
      simp only [Edit.apply, write, hPlace]
      cases content with
      | none =>
          exact node?_makeDirectories_of_not_suffix hWay t
      | some content =>
          have hAbove : ¬ name :: place <:+ place :=
            fun hSuffix =>
              hWay
                (hSuffix.trans (List.suffix_cons later place))
          have hOther : name :: place ≠ later :: place :=
            fun hEq => hNe (List.cons.inj hEq).1
          dsimp only [List.tail_cons]
          rw [node?_put_of_ne hOther,
            node?_makeDirectories_of_not_suffix hAbove]

/-
  Edits at some names in a directory keep the nodes at all
  other names in it.
-/
theorem node?_edited
    {place : Place}
    {edits : List Edit}
    (hEdits :
      ∀ e ∈ edits, ∃ later,
        name ≠ later ∧
          placeOf [] (parts e.path) = later :: place)
    (t : FileTree) :
    (t.edited edits).node? (name :: place) =
      t.node? (name :: place) := by
  induction edits generalizing t with
  | nil => rfl
  | cons e edits ih =>
      rcases hEdits e (by simp) with ⟨later, hNe, hPlace⟩
      have hRest :=
        ih (fun e hMem => hEdits e (by simp [hMem]))
          (e.apply t)
      exact hRest.trans (node?_apply_of_ne hNe hPlace t)

/-
  Edits at some names in a directory leave what stands at the
  other names in it, as long as the directory stays one.
-/
theorem view_edited
    {edits : List Edit}
    (hName : IsName name)
    (hDirectory : t.view directory = .directory)
    (hEdits :
      ∀ e ∈ edits, ∃ later,
        IsName later ∧ name ≠ later ∧
          e.path = joinPath directory later)
    (hStill : (t.edited edits).view directory = .directory) :
    (t.edited edits).view (joinPath directory name) =
      t.view (joinPath directory name) := by
  apply view_joinPath_congr hName hDirectory hStill
  intro place hTarget
  apply node?_edited
  intro e hMem
  rcases hEdits e hMem with ⟨later, hLater, hNe, hPath⟩
  refine ⟨later, hNe, ?_⟩
  rw [hPath, placeOf_joinPath hLater hDirectory hTarget]

end FileTree

end FactLayout
