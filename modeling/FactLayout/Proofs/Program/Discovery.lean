import FactLayout.Proofs.Files.Tree
import FactLayout.Proofs.Program.Outcome

/-
  Finding a layout by the names of files.

  The first layout file in a directory stands for the
  directory, whatever it holds.  Without the path of a layout
  a run comes to the same as with that of the current
  directory, unless there is no layout file at all.

  Key definitions include:
    * `FileView.readContent`

  Main results:
    * `FileView.layout_of_content`
    * `FileTree.layout_edited`
    * `Program.layout_currentDirectory`
    * `Program.run_congr_config`
    * `Program.discovery_by_precedence`
-/

------------------------------------------------------------
-- Directories and Files
------------------------------------------------------------

namespace FactLayout

variable {directory path : String}
variable {earlier : List String}

namespace FileView

variable {view : FileView}

/- The layout in what a file holds, if that can be read. -/
def readContent :
    Except FileFault ByteArray → Attempt Layout
| .ok content => decode content >>= readLayout
| .error cause => .fail (.file cause)

/- A file is loaded from what it holds, and from nothing else. -/
theorem layout_of_content
    {content : Except FileFault ByteArray}
    (hContent : view path = .file content) :
    view.layout path =
      Attempt.report (.loading path) >>= fun _ =>
        readContent content := by
  have hFile : (view path).isFile = true := by
    rw [hContent]
    rfl
  unfold layout
  rw [load_of_isFile hFile]
  unfold loadFile
  rw [hContent, bind_assoc]
  cases content <;> rfl

end FileView

namespace FileTree

/-
  Edits behind the first layout file in a directory leave the
  layout there, as long as the directory stays one.
-/
theorem layout_edited
    {t : FileTree}
    {edits : List Edit}
    (hDirectory : t.view directory = .directory)
    (hFirst : t.view.IsFirst directory earlier path)
    (hEdits :
      ∀ e ∈ edits,
        e.path ∈ layoutPaths directory ∧
          e.path ∉ earlier ++ [path])
    (hStill : (t.edited edits).view directory = .directory) :
    (t.edited edits).view.layout directory =
      t.view.layout directory := by
  apply FileView.layout_congr_of_isFirst hDirectory hFirst
    hStill
  intro p hMem
  rcases List.mem_map.mp (hFirst.paths.subset hMem) with
    ⟨name, hName, rfl⟩
  apply view_edited (isName_of_mem_layoutNames hName)
    hDirectory ?_ hStill
  intro e hEdit
  rcases hEdits e hEdit with ⟨hPath, hBehind⟩
  rcases List.mem_map.mp hPath with ⟨later, hLater, hJoin⟩
  refine ⟨later, isName_of_mem_layoutNames hLater, ?_,
    hJoin.symm⟩
  rintro rfl
  exact hBehind (hJoin ▸ hMem)

/- A tree has its own directory at its top. -/
theorem view_currentDirectory
    (t : FileTree) :
    t.view Program.currentDirectory = .directory := rfl

end FileTree

------------------------------------------------------------
-- The Current Directory
------------------------------------------------------------

namespace Program

variable {view : FileView}
variable {w : Surroundings}
variable {o : Options}
variable {words words' : List String}

/-
  With a layout file in the current directory the path of the
  directory says nothing more than no path does.
-/
theorem layout_currentDirectory
    (hDirectory : view currentDirectory = .directory)
    (hFirst : view.IsFirst currentDirectory earlier path) :
    layout view (some currentDirectory) =
      layout view none := by
  have hFound :
      view.findLayout? currentDirectory = some path :=
    FileView.findLayout?_eq_some_iff.mpr ⟨earlier, hFirst⟩
  unfold layout
  simp only [hFound]
  exact FileView.layout_of_isFirst hDirectory hFirst

/- A layout that is not found is all there is to tell. -/
theorem run_of_layout_fail
    {fault : Fault}
    (hParse : CommandLine.parse words = .ok o)
    (hNeeds : NeedsLayout o)
    (hLayout : layout w.files o.config = .fail fault) :
    run w words =
      { code := 1
        complaint := fault.message ++ "\n" } := by
  have hReport : report w o = .fail fault := by
    rw [report_of_needsLayout hNeeds]
    unfold renderLayout
    rw [hLayout]
    rfl
  rw [run_of_parse hParse]
  unfold execute
  rw [hReport]
  rfl

/-
  Runs that differ in the path of a layout only come to the
  same if both paths have the same layout.
-/
theorem run_congr_config
    {config config' : Option String}
    (hParse :
      CommandLine.parse words = .ok { o with config })
    (hParse' :
      CommandLine.parse words' =
        .ok { o with config := config' })
    (hNeeds : NeedsLayout o)
    (hLayout :
      layout w.files config' = layout w.files config) :
    run w words' = run w words := by
  have hReport :
      report w { o with config := config' } =
        report w { o with config } := by
    rw [report_of_needsLayout (o := { o with config }) hNeeds,
      report_of_needsLayout
        (o := { o with config := config' }) hNeeds]
    unfold renderLayout
    rw [hLayout]
  rw [run_of_parse hParse, run_of_parse hParse']
  exact execute_congr rfl rfl hReport

/-
  A directory is loaded as the first layout file in it.  What
  this file holds settles the layout, its faults and records,
  and nothing behind it counts: neither in another view that
  agrees up to this file, nor in a tree that was edited behind
  it.  A run without the path of a layout comes to the same as
  one with the path of the current directory, but they fail
  for different reasons if there is no layout file.
-/
theorem discovery_by_precedence
    (view : FileView)
    (directory : String)
    (hDirectory : view directory = .directory) :
    ((∃ p ∈ layoutPaths directory,
          (view p).isFile = true) →
        ∃ earlier path,
          view.IsFirst directory earlier path) ∧
      (∀ earlier path,
        view.IsFirst directory earlier path →
          view.layout directory = view.layout path ∧
            (∀ content, view path = .file content →
              view.layout directory =
                Attempt.report (.loading path) >>= fun _ =>
                  FileView.readContent content) ∧
            (∀ other : FileView,
              other directory = .directory →
              (∀ p ∈ earlier ++ [path],
                other p = view p) →
              other.layout directory =
                view.layout directory) ∧
            (∀ (t : FileTree) (edits : List FileTree.Edit),
              t.view = view →
              (∀ e ∈ edits,
                e.path ∈ layoutPaths directory ∧
                  e.path ∉ earlier ++ [path]) →
              (t.edited edits).view directory =
                .directory →
              (t.edited edits).view.layout directory =
                view.layout directory)) ∧
      (directory = currentDirectory →
        ∀ input o words words',
          NeedsLayout o →
          CommandLine.parse words =
            .ok { o with config := none } →
          CommandLine.parse words' =
            .ok { o with config := some directory } →
          ((∃ p ∈ layoutPaths directory,
              (view p).isFile = true) →
            run ⟨view, input⟩ words' =
              run ⟨view, input⟩ words) ∧
          ((∀ p ∈ layoutPaths directory,
              (view p).isFile = false) →
            run ⟨view, input⟩ words =
              { code := 1
                complaint :=
                  Fault.nothingToRender.message ++ "\n" } ∧
            run ⟨view, input⟩ words' =
              { code := 1
                complaint :=
                  (Fault.layout (.notInDirectory directory
                    layoutNames)).message ++ "\n" })) := by
  refine ⟨FileView.exists_isFirst, ?settled, ?run⟩
  case settled =>
    intro earlier path hFirst
    have hLayout :=
      FileView.layout_of_isFirst hDirectory hFirst
    refine ⟨hLayout, ?_, ?_, ?_⟩
    · intro content hContent
      rw [hLayout, FileView.layout_of_content hContent]
    · intro other hOther hSame
      exact
        FileView.layout_congr_of_isFirst hDirectory hFirst
          hOther hSame
    · rintro t edits rfl hEdits hStill
      exact
        FileTree.layout_edited hDirectory hFirst hEdits hStill
  case run =>
    rintro rfl input o words words' hNeeds hParse hParse'
    constructor
    · intro hSome
      rcases FileView.exists_isFirst hSome with
        ⟨earlier, path, hFirst⟩
      exact
        run_congr_config hParse hParse' hNeeds
          (layout_currentDirectory hDirectory hFirst)
    · intro hNone
      have hFound :
          view.findLayout? currentDirectory = none :=
        FileView.findLayout?_eq_none_iff.mpr hNone
      constructor
      · apply run_of_layout_fail hParse hNeeds
        unfold layout
        simp only [hFound]
      · apply run_of_layout_fail hParse' hNeeds
        unfold layout FileView.layout
        dsimp only
        rw [FileView.load_of_no_file hDirectory hNone]
        rfl

/-
  A directory with the first name is passed over, and a file
  that is no text is not.
-/
theorem discovery_by_precedence_undecodable_file :
    let t : FileTree :=
      { nodes :=
          [(["fetchfmt.json"], .directory),
            (["fetchfmt.yml"], .file ⟨#[255]⟩),
            (["fetchfmt.yaml"], .file ⟨#[123, 125]⟩)] }
    let edits : List FileTree.Edit :=
      [.write "./fetchfmt.yaml" (some ⟨#[]⟩),
        .remove "./fetchfmt.yaml"]
    let input : Except FileFault ByteArray := .ok ⟨#[]⟩
    let empty : FileTree := {}
    t.view.layout "." =
        ⟨[.loading "./fetchfmt.yml"],
          .error (.file .notText)⟩ ∧
      (t.edited edits).view.layout "." =
        t.view.layout "." ∧
      run ⟨t.view, input⟩ ["--config=."] =
        run ⟨t.view, input⟩ [] ∧
      run ⟨empty.view, input⟩ [] =
        { code := 1
          complaint :=
            Fault.nothingToRender.message ++ "\n" } ∧
      run ⟨empty.view, input⟩ ["--config=."] =
        { code := 1
          complaint :=
            (Fault.layout (.notInDirectory "."
              layoutNames)).message ++ "\n" } := by
  intro t edits input empty
  have hFirst :
      t.view.IsFirst "." ["./fetchfmt.json"]
        "./fetchfmt.yml" := by
    refine ⟨⟨["./fetchfmt.yaml"], by rfl⟩, ?_, by rfl⟩
    intro p hMem
    rw [List.mem_singleton.mp hMem]
    rfl
  have hNone :
      ∀ p ∈ layoutPaths ".",
        (empty.view p).isFile = false := by
    intro p hMem
    simp only [layoutPaths, layoutNames, List.map_cons,
      List.map_nil, List.mem_cons, List.not_mem_nil,
      or_false] at hMem
    rcases hMem with rfl | rfl | rfl <;> rfl
  have hParse :
      CommandLine.parse [] =
        .ok { ({} : Options) with config := none } := by
    rfl
  have hParse' :
      CommandLine.parse ["--config=."] =
        .ok { ({} : Options) with config := some "." } := by
    rfl
  rcases discovery_by_precedence t.view "."
      t.view_currentDirectory with
    ⟨-, hSettled, hRun⟩
  rcases discovery_by_precedence empty.view "."
      empty.view_currentDirectory with
    ⟨-, -, hRunEmpty⟩
  rcases hSettled _ _ hFirst with
    ⟨-, hContent, -, hEdited⟩
  have hSome :
      ∃ p ∈ layoutPaths ".", (t.view p).isFile = true :=
    ⟨"./fetchfmt.yml", hFirst.paths.subset (by simp),
      hFirst.isFile⟩
  have hEdits :
      ∀ e ∈ edits,
        e.path ∈ layoutPaths "." ∧
          e.path ∉ ["./fetchfmt.json"] ++
            ["./fetchfmt.yml"] := by
    intro e hMem
    simp only [edits, List.mem_cons, List.not_mem_nil,
      or_false] at hMem
    rcases hMem with rfl | rfl <;>
      exact ⟨by decide, by decide⟩
  rcases hRunEmpty rfl input {} [] ["--config=."]
      (Or.inl rfl) hParse hParse' with
    ⟨-, hMissing⟩
  refine ⟨?_, ?_, ?_, hMissing hNone⟩
  · exact hContent (.ok ⟨#[255]⟩) (by rfl)
  · exact
      hEdited t edits rfl hEdits
        (t.edited edits).view_currentDirectory
  · exact
      (hRun rfl input {} [] ["--config=."] (Or.inl rfl)
        hParse hParse').1 hSome

end Program

end FactLayout
