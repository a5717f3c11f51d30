import FactLayout.Json.Token
import FactLayout.Yaml.Cursor

/-
  What may be said about a node or a document.

  An anchor names a node and a tag gives its kind.  Directives
  before a document state the version of the language, or
  shorten tags.  A tag is a sequence of octets, since its
  escape sequences need not stand for text.

  Key definitions include:
    * `Yaml.anchor?`
    * `Yaml.TagName`
    * `Yaml.tag?`
    * `Yaml.Pragma`
    * `Yaml.pragma?`
-/

------------------------------------------------------------
-- Anchors
------------------------------------------------------------

namespace FactLayout

namespace Yaml

/- Read word characters, possibly none. -/
def word (c : Cursor) : List Char × Cursor :=
  (c.rest.takeWhile isWord, c.skipWhile isWord)

/- A character that may stand right behind an anchor. -/
def endsAnchor (c : Char) : Bool :=
  ['?', ':', ',', ']', '}', '%', '@', '\x60'].contains c

/- Read the name of an anchor behind its first mark. -/
def anchor? (c : Cursor) : Option (String × Cursor) :=
  let (name, next) := word c
  if name ≠ [] ∧
      (atGap next.rest ||
        next.rest.head?.any endsAnchor) then
    some (String.ofList name, next)
  else none

theorem length_le_of_anchor?
    {c next : Cursor}
    {name : String}
    (hAnchor : anchor? c = some (name, next)) :
    next.rest.length ≤ c.rest.length := by
  unfold anchor? word at hAnchor
  simp only at hAnchor
  split at hAnchor <;> cases hAnchor
  exact Cursor.length_skipWhile_le c isWord

------------------------------------------------------------
-- Octets of Tags
------------------------------------------------------------

/-
  A character of a tag.  Some marks are meant literally only
  where nothing else can be meant.
-/
def isTagChar
    (literal : Bool)
    (c : Char) : Bool :=
  isWord c || ";/?:@&=+$.!~*'()".contains c ||
    literal && (c == ',' || c == '[' || c == ']')

/-
  The number of octets that a character has, by the first of
  them.
-/
def octetCount? (octet : Nat) : Option Nat :=
  if octet < 0x80 then some 1
  else if octet < 0xc0 then none
  else if octet < 0xe0 then some 2
  else if octet < 0xf0 then some 3
  else if octet < 0xf8 then some 4
  else none

/-
  Read the octets of a tag behind those already read, which
  are in reverse.  An escaped character may need a number of
  further octets, which must be escaped as well.
-/
def octetsFrom?
    (literal : Bool) :
    List Char → Mark → Nat → List UInt8 →
      Option (List UInt8 × Cursor)
| '%' :: high :: low :: rest, mark, needed, read =>
    match Json.Token.hexValue? high,
        Json.Token.hexValue? low with
    | some high, some low =>
        let octet := high * 16 + low
        let needed? :=
          if needed = 0 then octetCount? octet
          else if 0x80 ≤ octet ∧ octet < 0xc0 then
            some needed
          else none
        match needed? with
        | some needed =>
            octetsFrom? literal rest (mark.forward 3)
              (needed - 1) (octet.toUInt8 :: read)
        | none => none
    | _, _ => none
| c :: rest, mark, needed, read =>
    if needed ≠ 0 ∨ c = '%' then none
    else if isTagChar literal c then
      octetsFrom? literal rest (mark.forward 1) 0
        (c.toNat.toUInt8 :: read)
    else some (read.reverse, ⟨c :: rest, mark⟩)
| [], mark, needed, read =>
    if needed ≠ 0 then none
    else some (read.reverse, ⟨[], mark⟩)

/- Read the octets of a tag. -/
def octets?
    (literal : Bool)
    (c : Cursor) : Option (List UInt8 × Cursor) :=
  octetsFrom? literal c.rest c.mark 0 []

theorem length_le_of_octetsFrom?
    {literal : Bool}
    {rest : List Char}
    {mark : Mark}
    {needed : Nat}
    {read octets : List UInt8}
    {next : Cursor}
    (hOctets :
      octetsFrom? literal rest mark needed read =
        some (octets, next)) :
    next.rest.length ≤ rest.length := by
  fun_induction octetsFrom? literal rest mark needed read with
  | case1 =>
      rename_i ih
      exact Nat.le_trans (ih hOctets) (by simp; omega)
  | case2 | case3 | case4 | case7 => cases hOctets
  | case5 =>
      rename_i ih
      exact Nat.le_succ_of_le (ih hOctets)
  | case6 | case8 =>
      cases hOctets
      exact Nat.le_refl _

/- A zero octet ends a tag. -/
def upToZero (octets : List UInt8) : List UInt8 :=
  octets.takeWhile (· != 0)

------------------------------------------------------------
-- Tags
------------------------------------------------------------

/-
  A tag as it is written: in full, or as a handle that stands
  for the first part, and the rest.
-/
inductive TagName where
| full (octets : List UInt8)
| short (handle : String) (rest : List UInt8)
deriving DecidableEq, Repr

namespace TagName

/- The mark that begins a tag. -/
def mark : UInt8 := '!'.toNat.toUInt8

end TagName

/-
  Read a tag behind its first mark.  A mark by itself is a
  tag in full.
-/
def tagName? (c : Cursor) : Option (TagName × Cursor) := do
  if c.rest.head? = some '<' then
    let (octets, next) ← octets? true (c.skip 1)
    if octets ≠ [] ∧ next.rest.head? = some '>' then
      pure (.full (upToZero octets), next.skip 1)
    else none
  else
    let (name, next) := word c
    if next.rest.head? = some '!' then
      let (octets, next) ← octets? false (next.skip 1)
      if octets ≠ [] then
        let handle := String.ofList ('!' :: name ++ ['!'])
        pure (.short handle (upToZero octets), next)
      else none
    else
      let (octets, next) ← octets? false c
      match upToZero octets with
      | [] => pure (.full [TagName.mark], next)
      | octets => pure (.short "!" octets, next)

/- Read a tag and check what stands right behind it. -/
def tag?
    (flow : Bool)
    (c : Cursor) : Option (TagName × Cursor) := do
  let (name, next) ← tagName? c
  if atGap next.rest ||
      flow && next.rest.head? == some ',' then
    pure (name, next)
  else none

theorem length_le_of_octets?
    {literal : Bool}
    {c next : Cursor}
    {octets : List UInt8}
    (hOctets : octets? literal c = some (octets, next)) :
    next.rest.length ≤ c.rest.length :=
  length_le_of_octetsFrom? hOctets

theorem length_le_of_tagName?
    {c next : Cursor}
    {name : TagName}
    (hTag : tagName? c = some (name, next)) :
    next.rest.length ≤ c.rest.length := by
  have hWord := Cursor.length_skipWhile_le c isWord
  unfold tagName? word at hTag
  simp only [Option.bind_eq_bind, Option.pure_def] at hTag
  split at hTag
  · obtain ⟨⟨_, _⟩, hOctets, hTag⟩ :=
      Option.bind_eq_some_iff.mp hTag
    have hLess := length_le_of_octets? hOctets
    split at hTag <;> cases hTag
    simp at hLess ⊢
    omega
  · split at hTag
    · obtain ⟨⟨_, _⟩, hOctets, hTag⟩ :=
        Option.bind_eq_some_iff.mp hTag
      have hLess := length_le_of_octets? hOctets
      split at hTag <;> cases hTag
      simp at hLess ⊢
      omega
    · obtain ⟨⟨_, _⟩, hOctets, hTag⟩ :=
        Option.bind_eq_some_iff.mp hTag
      have hLess := length_le_of_octets? hOctets
      split at hTag <;> cases hTag <;> exact hLess

theorem length_le_of_tag?
    {flow : Bool}
    {c next : Cursor}
    {name : TagName}
    (hTag : tag? flow c = some (name, next)) :
    next.rest.length ≤ c.rest.length := by
  unfold tag? at hTag
  simp only [Option.bind_eq_bind, Option.pure_def] at hTag
  obtain ⟨⟨_, _⟩, hName, hTag⟩ :=
    Option.bind_eq_some_iff.mp hTag
  split at hTag <;> cases hTag
  exact length_le_of_tagName? hName

------------------------------------------------------------
-- Directives
------------------------------------------------------------

/- A statement about a document as a whole. -/
inductive Pragma where
| version (major minor : Nat)
| shorthand (handle : String) (start : List UInt8)
deriving DecidableEq, Repr

/- Read a number of at most nine digits. -/
def versionNumber? (c : Cursor) : Option (Nat × Cursor) :=
  let digits := c.rest.takeWhile Char.isDigit
  if 0 < digits.length ∧ digits.length ≤ 9 then
    let number :=
      digits.foldl
        (fun n d => n * 10 + (d.toNat - '0'.toNat)) 0
    some (number, c.skipWhile Char.isDigit)
  else none

/- Read a version, which is two numbers. -/
def version? (c : Cursor) : Option (Pragma × Cursor) := do
  let (major, c) ← versionNumber? c.skipBlanks
  if c.rest.head? = some '.' then
    let (minor, c) ← versionNumber? (c.skip 1)
    pure (.version major minor, c)
  else none

/- Read the handle of a shorthand, and a blank behind it. -/
def handle? (c : Cursor) : Option (String × Cursor) :=
  if c.rest.head? = some '!' then
    let (name, next) := word (c.skip 1)
    if next.rest.head? = some '!' then
      some (String.ofList ('!' :: name ++ ['!']), next.skip 1)
    else if name = [] then some ("!", next)
    else none
  else none

/- Read a shorthand: a handle and what it stands for. -/
def shorthand? (c : Cursor) : Option (Pragma × Cursor) := do
  let (handle, c) ← handle? c.skipBlanks
  if c.rest.head?.any isBlank then
    let (octets, c) ← octets? true c.skipBlanks
    if octets ≠ [] ∧ atGap c.rest then
      pure (.shorthand handle (upToZero octets), c)
    else none
  else none

/- Read the content of a directive by its name. -/
def content?
    (name : List Char)
    (c : Cursor) : Option (Pragma × Cursor) :=
  if !atGap c.rest then none
  else if name = "YAML".toList then version? c
  else if name = "TAG".toList then shorthand? c
  else none

/- Read a directive behind its mark, and end its line. -/
def pragma? (c : Cursor) : Option (Pragma × Cursor) := do
  let (name, next) := word c
  let (pragma, next) ← content? name next
  pure (pragma, ← next.endLine?)

theorem length_le_of_versionNumber?
    {c next : Cursor}
    {n : Nat}
    (hNumber : versionNumber? c = some (n, next)) :
    next.rest.length ≤ c.rest.length := by
  unfold versionNumber? at hNumber
  simp only at hNumber
  split at hNumber <;> cases hNumber
  exact Cursor.length_skipWhile_le c _

theorem length_le_of_version?
    {c next : Cursor}
    {p : Pragma}
    (hVersion : version? c = some (p, next)) :
    next.rest.length ≤ c.rest.length := by
  have hBlanks := Cursor.length_skipWhile_le c isBlank
  unfold version? at hVersion
  simp only [Option.bind_eq_bind, Option.pure_def]
    at hVersion
  obtain ⟨⟨_, _⟩, hMajor, hVersion⟩ :=
    Option.bind_eq_some_iff.mp hVersion
  have hFirst := length_le_of_versionNumber? hMajor
  split at hVersion
  · obtain ⟨⟨_, _⟩, hMinor, hVersion⟩ :=
      Option.bind_eq_some_iff.mp hVersion
    have hSecond := length_le_of_versionNumber? hMinor
    cases hVersion
    simp [Cursor.skipBlanks] at hFirst hSecond ⊢
    omega
  · cases hVersion

theorem length_le_of_handle?
    {c next : Cursor}
    {handle : String}
    (hHandle : handle? c = some (handle, next)) :
    next.rest.length ≤ c.rest.length := by
  have hWord := Cursor.length_skipWhile_le (c.skip 1) isWord
  unfold handle? word at hHandle
  simp only at hHandle
  split at hHandle
  · split at hHandle
    · cases hHandle
      simp at hWord ⊢
      omega
    · split at hHandle <;> cases hHandle
      simp at hWord
      omega
  · cases hHandle

theorem length_le_of_shorthand?
    {c next : Cursor}
    {p : Pragma}
    (hShorthand : shorthand? c = some (p, next)) :
    next.rest.length ≤ c.rest.length := by
  have hBlanks := Cursor.length_skipWhile_le c isBlank
  unfold shorthand? at hShorthand
  simp only [Option.bind_eq_bind, Option.pure_def]
    at hShorthand
  obtain ⟨⟨_, after⟩, hHandle, hShorthand⟩ :=
    Option.bind_eq_some_iff.mp hShorthand
  have hFirst := length_le_of_handle? hHandle
  have hSecond := Cursor.length_skipWhile_le after isBlank
  split at hShorthand
  · obtain ⟨⟨_, _⟩, hOctets, hShorthand⟩ :=
      Option.bind_eq_some_iff.mp hShorthand
    have hThird := length_le_of_octets? hOctets
    split at hShorthand <;> cases hShorthand
    simp only [Cursor.skipBlanks] at hFirst hThird ⊢
    omega
  · cases hShorthand

theorem length_le_of_content?
    {name : List Char}
    {c next : Cursor}
    {p : Pragma}
    (hContent : content? name c = some (p, next)) :
    next.rest.length ≤ c.rest.length := by
  unfold content? at hContent
  split at hContent
  · cases hContent
  · split at hContent
    · exact length_le_of_version? hContent
    · split at hContent
      · exact length_le_of_shorthand? hContent
      · cases hContent

theorem length_le_of_pragma?
    {c next : Cursor}
    {p : Pragma}
    (hPragma : pragma? c = some (p, next)) :
    next.rest.length ≤ c.rest.length := by
  have hWord := Cursor.length_skipWhile_le c isWord
  unfold pragma? word at hPragma
  simp only [Option.bind_eq_bind, Option.pure_def]
    at hPragma
  obtain ⟨⟨_, _⟩, hContent, hPragma⟩ :=
    Option.bind_eq_some_iff.mp hPragma
  obtain ⟨_, hEnd, hPragma⟩ :=
    Option.bind_eq_some_iff.mp hPragma
  cases hPragma
  have hLine := Cursor.length_le_of_endLine? hEnd
  have hFirst := length_le_of_content? hContent
  exact Nat.le_trans hLine (Nat.le_trans hFirst hWord)

end Yaml

end FactLayout
