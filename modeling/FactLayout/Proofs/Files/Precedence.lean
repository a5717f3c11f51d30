import FactLayout.Files.View

/-
  Layout files by precedence.

  Of the layout files in a directory the first one is loaded,
  and what it holds settles everything.  The files behind it
  are not looked at, even if it cannot be read or understood.

  Key definitions include:
    * `FileView.IsFirst`

  Main results:
    * `FileView.findLayout?_eq_some_iff`
    * `FileView.layout_of_isFirst`
    * `FileView.layout_congr_of_isFirst`
    * `FileView.layout_congr`
-/

------------------------------------------------------------
-- The First Layout File
------------------------------------------------------------

namespace FactLayout

namespace FileView

variable {view other : FileView}
variable {directory path : String}
variable {earlier : List String}

/-
  A path is the first at which one of the layout files of a
  directory stands.  At the earlier paths there is none, but
  there may be a directory.
-/
structure IsFirst
    (view : FileView)
    (directory : String)
    (earlier : List String)
    (path : String) : Prop where
  paths : earlier ++ [path] <+: layoutPaths directory
  earlier : ∀ p ∈ earlier, (view p).isFile = false
  isFile : (view path).isFile = true

/- The first layout file is the one that is found. -/
theorem findLayout?_eq_some_iff :
    view.findLayout? directory = some path ↔
      ∃ earlier, view.IsFirst directory earlier path := by
  unfold findLayout?
  rw [List.find?_eq_some_iff_append]
  constructor
  · rintro ⟨hFile, earlier, later, hPaths, hEarlier⟩
    refine ⟨earlier, ⟨later, ?_⟩, ?_, hFile⟩
    · rw [hPaths, List.append_assoc]
      rfl
    · intro p hMem
      simpa using hEarlier p hMem
  · rintro ⟨earlier, ⟨later, hPaths⟩, hEarlier, hFile⟩
    refine ⟨hFile, earlier, later, ?_, ?_⟩
    · rw [← hPaths, List.append_assoc]
      rfl
    · intro p hMem
      simpa using hEarlier p hMem

/- Nothing is found if no layout file is there. -/
theorem findLayout?_eq_none_iff :
    view.findLayout? directory = none ↔
      ∀ p ∈ layoutPaths directory,
        (view p).isFile = false := by
  unfold findLayout?
  simp

/- One of the layout files in a directory is the first. -/
theorem exists_isFirst
    (hSome :
      ∃ p ∈ layoutPaths directory,
        (view p).isFile = true) :
    ∃ earlier path, view.IsFirst directory earlier path := by
  cases hFound : view.findLayout? directory with
  | none =>
      rcases hSome with ⟨p, hMem, hFile⟩
      have hNone := findLayout?_eq_none_iff.mp hFound p hMem
      rw [hFile] at hNone
      cases hNone
  | some path =>
      rcases findLayout?_eq_some_iff.mp hFound with
        ⟨earlier, hFirst⟩
      exact ⟨earlier, path, hFirst⟩

/- A change behind the first layout file keeps it first. -/
theorem IsFirst.congr
    (hFirst : view.IsFirst directory earlier path)
    (hSame : ∀ p ∈ earlier ++ [path], other p = view p) :
    other.IsFirst directory earlier path := by
  refine ⟨hFirst.paths, ?_, ?_⟩
  · intro p hMem
    rw [hSame p (by simp [hMem])]
    exact hFirst.earlier p hMem
  · rw [hSame path (by simp)]
    exact hFirst.isFile

------------------------------------------------------------
-- What Is Loaded
------------------------------------------------------------

/- The path of a file is loaded as that file. -/
theorem load_of_isFile
    (hFile : (view path).isFile = true) :
    view.load path = view.loadFile path := by
  unfold load
  split
  · rename_i hDirectory
    rw [hDirectory] at hFile
    cases hFile
  · rfl

/- A directory is loaded as its first layout file. -/
theorem load_of_isFirst
    (hDirectory : view directory = .directory)
    (hFirst : view.IsFirst directory earlier path) :
    view.load directory = view.loadFile path := by
  have hFound : view.findLayout? directory = some path :=
    findLayout?_eq_some_iff.mpr ⟨earlier, hFirst⟩
  unfold load
  simp only [hDirectory, hFound]

/- A directory without layout files is refused. -/
theorem load_of_no_file
    (hDirectory : view directory = .directory)
    (hNone :
      ∀ p ∈ layoutPaths directory,
        (view p).isFile = false) :
    view.load directory =
      .fail (.layout
        (.notInDirectory directory layoutNames)) := by
  unfold load
  simp only [hDirectory, findLayout?_eq_none_iff.mpr hNone]

/- What a file holds is all that counts about it. -/
theorem loadFile_congr
    (hSame : other path = view path) :
    other.loadFile path = view.loadFile path := by
  unfold loadFile
  rw [hSame]

/- A file that is the same holds the same layout. -/
theorem layout_congr_of_isFile
    (hFile : (view path).isFile = true)
    (hSame : other path = view path) :
    other.layout path = view.layout path := by
  have hOther : (other path).isFile = true := by
    rw [hSame]
    exact hFile
  unfold layout
  rw [load_of_isFile hFile, load_of_isFile hOther,
    loadFile_congr hSame]

/- The layout of a directory is that of its first file. -/
theorem layout_of_isFirst
    (hDirectory : view directory = .directory)
    (hFirst : view.IsFirst directory earlier path) :
    view.layout directory = view.layout path := by
  unfold layout
  rw [load_of_isFirst hDirectory hFirst,
    load_of_isFile hFirst.isFile]

/-
  Views that agree on a directory, on its first layout file
  and on the paths before it have the same layout there.
-/
theorem layout_congr_of_isFirst
    (hDirectory : view directory = .directory)
    (hFirst : view.IsFirst directory earlier path)
    (hOther : other directory = .directory)
    (hSame : ∀ p ∈ earlier ++ [path], other p = view p) :
    other.layout directory = view.layout directory := by
  rw [layout_of_isFirst hDirectory hFirst,
    layout_of_isFirst hOther (hFirst.congr hSame)]
  exact
    layout_congr_of_isFile hFirst.isFile
      (hSame path (by simp))

------------------------------------------------------------
-- What Is Looked At
------------------------------------------------------------

/- A directory is searched at the paths of layout files. -/
theorem findLayout?_congr
    (hSame :
      ∀ p ∈ layoutPaths directory, other p = view p) :
    other.findLayout? directory =
      view.findLayout? directory := by
  apply Option.ext
  intro found
  rw [findLayout?_eq_some_iff, findLayout?_eq_some_iff]
  constructor
  · rintro ⟨earlier, hFirst⟩
    refine ⟨earlier, hFirst.congr ?_⟩
    intro p hMem
    exact (hSame p (hFirst.paths.subset hMem)).symm
  · rintro ⟨earlier, hFirst⟩
    refine ⟨earlier, hFirst.congr ?_⟩
    intro p hMem
    exact hSame p (hFirst.paths.subset hMem)

/-
  Only what stands at a path and at the paths of layout files
  in it is looked at.
-/
theorem layout_congr
    (hSelf : other path = view path)
    (hPaths : ∀ p ∈ layoutPaths path, other p = view p) :
    other.layout path = view.layout path := by
  have hLoad : other.load path = view.load path := by
    unfold load
    rw [hSelf, findLayout?_congr hPaths,
      loadFile_congr hSelf]
    cases hFound : view.findLayout? path with
    | none => rfl
    | some found =>
        have hMem : found ∈ layoutPaths path :=
          List.mem_of_find?_eq_some hFound
        simp only [loadFile_congr (hPaths found hMem)]
  unfold layout
  rw [hLoad]

end FileView

end FactLayout
