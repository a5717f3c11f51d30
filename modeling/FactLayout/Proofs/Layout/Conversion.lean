import FactLayout.Layout.Reading
import FactLayout.Proofs.Layout.Entry
import Mathlib.Data.List.Find
import Mathlib.Data.List.TakeWhile

/-
  Conversions of many entries.

  Entries are converted in the order of the document, over
  all modules.  Either all of them are converted, or the
  first one that does not fit is reported with its module,
  and there is no result.  The records are those of the
  entries up to there.

  Key definitions include:
    * `Entry.Converts`
    * `IsConversion`
    * `ModuleSource.IsConvertedTo`
    * `LayoutSource.IsConvertedTo`
    * `LayoutSource.entries`

  Main results:
    * `IsConversion.bind`
    * `isConversion_mapM`
    * `LayoutSource.isConversion_toLayout`
    * `readLayout_isConversion`
-/

------------------------------------------------------------
-- Work in Sequence
------------------------------------------------------------

namespace FactLayout

namespace Attempt

variable {α β γ : Type}

/- Work in sequence may be grouped in any way. -/
theorem bind_assoc
    (x : Attempt α)
    (f : α → Attempt β)
    (g : β → Attempt γ) :
    x >>= f >>= g = x >>= fun a => f a >>= g := by
  cases hResult : x.result with
  | error fault =>
      rw [bind_of_error f hResult, bind_of_error g rfl,
        bind_of_error _ hResult]
  | ok a =>
      rw [bind_of_ok f hResult, bind_of_ok _ hResult]
      cases hNext : (f a).result with
      | error fault =>
          rw [bind_of_error g hNext, bind_of_error g rfl]
      | ok b =>
          rw [bind_of_ok g hNext, bind_of_ok g rfl,
            List.append_assoc]

theorem pure_bind
    (a : α)
    (f : α → Attempt β) :
    pure a >>= f = f a := by
  rw [bind_of_ok f (result_pure a)]
  rfl

theorem bind_pure
    (x : Attempt α) :
    x >>= pure = x := by
  rcases x with ⟨log, result⟩
  cases result with
  | error fault => rw [bind_of_error _ rfl]
  | ok a =>
      rw [bind_of_ok _ rfl, log_pure, List.append_nil]
      rfl

instance : LawfulMonad Attempt :=
  LawfulMonad.mk'
    Attempt
    bind_pure
    pure_bind
    bind_assoc

end Attempt

------------------------------------------------------------
-- Conversions
------------------------------------------------------------

/- There is a cell that an entry stands for. -/
def Entry.converts (e : Entry) : Bool :=
  e.toCell.result.isOk

/- The records of the entries of unknown types. -/
def Entry.unknownTypes
    (entries : List Entry) : List Record :=
  entries.flatMap fun e =>
    if (EntryType.ofName? e.kind).isNone then
      [.unknownType e.kind]
    else []

/-
  Work that converts the entries at places, all or none.  It
  reports the entries of unknown types in order, up to the
  first entry that does not fit.  The fault of that entry,
  reworded for its place, is the fault of the work.
-/
structure IsConversion
    {α P : Type}
    (places : List P)
    (entry : P → Entry)
    (reword : P → ArgumentFault → ArgumentFault)
    (Result : α → Prop)
    (work : Attempt α) : Prop where
  log :
    work.log =
      Entry.unknownTypes
        ((places.map entry).takeWhile Entry.converts)
  complete :
    (∀ p ∈ places, (entry p).converts = true) →
      ∃ a, work.result = .ok a ∧ Result a
  first :
    ∀ p, places.find? (fun q => !(entry q).converts) =
        some p →
      ∃ cause,
        (entry p).toCell.result =
            .error (.argument cause) ∧
          work.result = .error (.argument (reword p cause))

namespace IsConversion

section

variable {α β P Q : Type}
variable {entry : P → Entry}
variable {reword : P → ArgumentFault → ArgumentFault}

/- Without entries there is nothing to convert. -/
theorem pure
    {a : α}
    {Result : α → Prop}
    (hResult : Result a) :
    IsConversion [] entry reword Result (Pure.pure a) where
  log := rfl
  complete _ := ⟨a, rfl, hResult⟩
  first p hFirst := by cases hFirst

/- Conversions one after the other are one conversion. -/
theorem bind
    {places more : List P}
    {Result : α → Prop}
    {Final : β → Prop}
    {work : Attempt α}
    {next : α → Attempt β}
    (hWork : IsConversion places entry reword Result work)
    (hNext : ∀ a, Result a →
      IsConversion more entry reword Final (next a)) :
    IsConversion (places ++ more) entry reword Final
      (work >>= next) := by
  by_cases hAll : ∀ p ∈ places, (entry p).converts = true
  · rcases hWork.complete hAll with ⟨a, hOk, hResult⟩
    have hMore := hNext a hResult
    have hEntries :
        ∀ e ∈ places.map entry, e.converts = true :=
      List.forall_mem_map.mpr hAll
    have hNone :
        places.find? (fun q => !(entry q).converts) = none :=
      List.find?_eq_none.mpr fun p hPlace => by
        simp [hAll p hPlace]
    rw [Attempt.bind_of_ok next hOk]
    constructor
    · rw [hWork.log, hMore.log, List.map_append,
        List.takeWhile_append_of_pos hEntries,
        List.takeWhile_eq_self_iff.mpr hEntries]
      exact List.flatMap_append.symm
    · intro hEvery
      exact hMore.complete fun p hPlace =>
        hEvery p (List.mem_append_right places hPlace)
    · intro p hFirst
      rw [List.find?_append, hNone, Option.none_or] at hFirst
      exact hMore.first p hFirst
  · have hSome :
        (places.find?
          (fun q => !(entry q).converts)).isSome := by
      simpa using hAll
    rcases Option.isSome_iff_exists.mp hSome with
      ⟨first, hFirst⟩
    rcases hWork.first first hFirst with
      ⟨cause, hEntry, hError⟩
    rw [Attempt.bind_of_error next hError]
    constructor
    · have hShort :
          ¬ ((places.map entry).takeWhile
            Entry.converts).length =
              (places.map entry).length := by
        intro hLength
        have hEntries :=
          List.takeWhile_eq_self_iff.mp
            ((List.takeWhile_prefix _).eq_of_length hLength)
        exact hAll (List.forall_mem_map.mp hEntries)
      rw [hWork.log, List.map_append, List.takeWhile_append,
        if_neg hShort]
    · intro hEvery
      exact absurd
        (fun p hPlace =>
          hEvery p (List.mem_append_left more hPlace)) hAll
    · intro p hPlace
      rw [List.find?_append, hFirst, Option.some_or] at hPlace
      cases hPlace
      exact ⟨cause, hEntry, rfl⟩

/- Every item of a list is converted, in order. -/
theorem mapM
    {items : List Q}
    {places : Q → List P}
    {Result : Q → α → Prop}
    {convert : Q → Attempt α}
    (hItems : ∀ q,
      IsConversion (places q) entry reword (Result q)
        (convert q)) :
    IsConversion (items.flatMap places) entry reword
      (List.Forall₂ Result items) (items.mapM convert) := by
  induction items with
  | nil => exact pure .nil
  | cons item items ih =>
      rw [List.flatMap_cons, List.mapM_cons]
      apply bind (hItems item)
      intro a hResult
      rw [← List.append_nil (items.flatMap places)]
      apply bind ih
      intro rest hRest
      exact pure (.cons hResult hRest)

/- The fault of a conversion can be reworded. -/
theorem mapFault
    {places : List P}
    {Result : α → Prop}
    {work : Attempt α}
    {f : Fault → Fault}
    {reworded : P → ArgumentFault → ArgumentFault}
    (hWork : IsConversion places entry reword Result work)
    (hFault : ∀ p cause,
      f (.argument (reword p cause)) =
        .argument (reworded p cause)) :
    IsConversion places entry reworded Result
      (work.mapFault f) where
  log := hWork.log
  complete hAll := by
    rcases hWork.complete hAll with ⟨a, hOk, hResult⟩
    refine ⟨a, ?_, hResult⟩
    rw [Attempt.mapFault, hOk]
    rfl
  first p hFirst := by
    rcases hWork.first p hFirst with ⟨cause, hEntry, hError⟩
    refine ⟨cause, hEntry, ?_⟩
    rw [Attempt.mapFault, hError, ← hFault]
    rfl

/- Places can be found inside of greater ones. -/
theorem map
    {places : List Q}
    {g : Q → P}
    {Result : α → Prop}
    {work : Attempt α}
    (hWork :
      IsConversion places (fun q => entry (g q))
        (fun q => reword (g q)) Result work) :
    IsConversion (places.map g) entry reword Result work where
  log := by
    rw [List.map_map]
    exact hWork.log
  complete hAll :=
    hWork.complete (List.forall_mem_map.mp hAll)
  first p hFirst := by
    rw [List.find?_map] at hFirst
    rcases Option.map_eq_some_iff.mp hFirst with
      ⟨q, hPlace, rfl⟩
    exact hWork.first q hPlace

end

end IsConversion

------------------------------------------------------------
-- Lists of Entries
------------------------------------------------------------

/- Cells that entries stand for, one by one. -/
def Entry.AreConvertedTo
    (entries : List Entry)
    (cells : List Cell) : Prop :=
  List.Forall₂ (fun e c => e.toCell.result = .ok c)
    entries cells

/- An entry is reported if its type is unknown. -/
theorem Entry.log_toCell
    (e : Entry) :
    e.toCell.log = unknownTypes [e] := by
  rw [unknownTypes, List.flatMap_cons, List.flatMap_nil,
    List.append_nil]
  by_cases hKnown : ∃ t : EntryType, t.name = e.kind
  · rcases hKnown with ⟨t, hName⟩
    rw [EntryType.ofName?_eq_some_iff.mpr hName,
      toCell_of_name hName]
    cases t.read? e.value <;> rfl
  · have hUnknown := not_exists.mp hKnown
    rw [EntryType.ofName?_eq_none_iff.mpr hUnknown,
      toCell_of_unknown hUnknown]
    rfl

/- Entries that do not fit are of known types. -/
theorem Entry.log_toCell_of_error
    {e : Entry}
    {fault : Fault}
    (hError : e.toCell.result = .error fault) :
    e.toCell.log = [] := by
  rcases toCell_eq_error_iff.mp hError with
    ⟨-, t, hName, -⟩
  rw [log_toCell, unknownTypes, List.flatMap_cons,
    EntryType.ofName?_eq_some_iff.mpr hName]
  rfl

/- An entry is a conversion of itself alone. -/
theorem Entry.isConversion_toCell
    (e : Entry) :
    IsConversion [e] id (fun _ cause => cause)
      (fun c => e.toCell.result = .ok c) e.toCell := by
  cases hResult : e.toCell.result with
  | ok c =>
      have hConverts : e.converts = true := by
        rw [converts, hResult]
        rfl
      constructor
      · rw [List.map_id,
          List.takeWhile_cons_of_pos hConverts]
        exact e.log_toCell
      · intro _
        exact ⟨c, hResult, rfl⟩
      · intro p hFirst
        simp [hConverts] at hFirst
  | error fault =>
      rcases toCell_eq_error_iff.mp hResult with ⟨rfl, -⟩
      have hRefused : ¬ e.converts = true := by
        rw [converts, hResult]
        exact Bool.false_ne_true
      constructor
      · rw [List.map_id,
          List.takeWhile_cons_of_neg hRefused]
        exact log_toCell_of_error hResult
      · intro hAll
        exact absurd (hAll e (List.mem_singleton_self e))
          hRefused
      · intro p hFirst
        have hSame :=
          List.mem_singleton.mp (List.mem_of_find?_eq_some hFirst)
        cases hSame
        exact ⟨_, hResult, hResult⟩

/- Cells are converted from entries one by one. -/
theorem Entry.isConversion_toCells
    (entries : List Entry) :
    IsConversion entries id (fun _ cause => cause)
      (AreConvertedTo entries) (toCells entries) := by
  have hCells :
      IsConversion (entries.flatMap fun e => [e]) id
        (fun _ cause => cause) (AreConvertedTo entries)
        (toCells entries) :=
    IsConversion.mapM isConversion_toCell
  rw [List.flatMap_singleton'] at hCells
  exact hCells

------------------------------------------------------------
-- Layouts
------------------------------------------------------------

/- A module with its entries converted, and nothing else. -/
structure ModuleSource.IsConvertedTo
    (source : ModuleSource)
    (m : Module) : Prop where
  key : m.key = source.key
  format : m.format = source.format
  help : m.help = source.help
  cells : Entry.AreConvertedTo source.entries m.cells

/-
  A layout with the same names in the same order, its modules
  converted, and the separator that is given, if any.
-/
structure LayoutSource.IsConvertedTo
    (source : LayoutSource)
    (l : Layout) : Prop where
  modules :
    List.Forall₂
      (fun (given : String × ModuleSource)
          (made : String × Module) =>
        made.1 = given.1 ∧ given.2.IsConvertedTo made.2)
      source.modules l.modules
  separator : l.separator = source.separator.getD ": "

/-
  The entries of all modules in the order of the document,
  each with the name of its module.
-/
def LayoutSource.entries
    (source : LayoutSource) : List (String × Entry) :=
  source.modules.flatMap fun (name, m) =>
    m.entries.map fun e => (name, e)

/- The cause that names a module. -/
def ArgumentFault.ofPlace
    (place : String × Entry)
    (cause : ArgumentFault) : ArgumentFault :=
  .inModule place.1 cause

/- A module is a conversion of its own entries. -/
theorem ModuleSource.isConversion_toModule
    (source : ModuleSource)
    (name : String) :
    IsConversion
      (source.entries.map fun e => (name, e))
      Prod.snd .ofPlace source.IsConvertedTo
      (source.toModule name) := by
  rw [← List.append_nil (source.entries.map _)]
  have hCells :
      IsConversion source.entries id
        (fun _ => ArgumentFault.inModule name)
        (Entry.AreConvertedTo source.entries)
        ((Entry.toCells source.entries).mapFault
          (.inModule name)) :=
    (Entry.isConversion_toCells source.entries).mapFault
      fun _ _ => rfl
  apply IsConversion.bind
    (IsConversion.map (g := fun e => (name, e)) hCells)
  intro cells hConverted
  exact IsConversion.pure ⟨rfl, rfl, rfl, hConverted⟩

/- A layout is a conversion of the entries of its modules. -/
theorem LayoutSource.isConversion_toLayout
    (source : LayoutSource) :
    IsConversion source.entries Prod.snd .ofPlace
      source.IsConvertedTo source.toLayout := by
  rw [← List.append_nil source.entries]
  have hModules :
      ∀ given : String × ModuleSource,
        IsConversion
          (given.2.entries.map fun e => (given.1, e))
          Prod.snd .ofPlace
          (fun made : String × Module =>
            made.1 = given.1 ∧ given.2.IsConvertedTo made.2)
          (do pure (given.1, ← given.2.toModule given.1)) := by
    intro given
    rw [← List.append_nil (given.2.entries.map _)]
    apply IsConversion.bind
      (given.2.isConversion_toModule given.1)
    intro m hConverted
    exact IsConversion.pure ⟨rfl, hConverted⟩
  apply IsConversion.bind (IsConversion.mapM hModules)
  intro modules hConverted
  exact IsConversion.pure ⟨hConverted, rfl⟩

/-
  A layout that can be read is converted as a whole, or the
  first entry that does not fit is reported in the name of
  its module.  The same goes for a list of entries, without a
  module.
-/
theorem readLayout_isConversion
    (text : String) :
    (∀ source, readLayoutSource? text = some source →
      IsConversion source.entries Prod.snd .ofPlace
        source.IsConvertedTo (readLayout text)) ∧
    (∀ entries, readEntries? text = some entries →
      IsConversion entries id (fun _ cause => cause)
        (Entry.AreConvertedTo entries)
        (readArguments text)) ∧
    ∀ name e cause,
      (ArgumentFault.ofPlace (name, e) cause).text =
        "module '" ++ name ++ "': " ++ cause.text := by
  refine ⟨?_, ?_, fun _ _ _ => rfl⟩
  · intro source hSource
    unfold readLayout
    rw [hSource]
    exact source.isConversion_toLayout
  · intro entries hEntries
    unfold readArguments
    rw [hEntries]
    exact Entry.isConversion_toCells entries

/-
  Two modules with entries of unknown types.  In between
  those of the second one, a truth value is given as a text.
-/
def misfits : String :=
  "\x7b\"modules\": \x7b" ++
    "\"cpu\": [null, null, [[\"clock\"]]], " ++
    "\"disk\": [null, null, " ++
      "[[\"unit\"], [\"bool\", \"off\"], [\"later\"]]]" ++
  "\x7d\x7d"

/- The last of the entries is not reported any more. -/
theorem readLayout_isConversion_misfits :
    readLayoutSource? misfits =
        some ⟨[("cpu", ⟨none, none, [⟨"clock", .null⟩], []⟩),
          ("disk", ⟨none, none, [⟨"unit", .null⟩,
            ⟨"bool", .text "off"⟩, ⟨"later", .null⟩], []⟩)],
          none⟩ ∧
      readLayout misfits =
        ⟨[.unknownType "clock", .unknownType "unit"],
          .error (.argument (.inModule "disk"
            (.mismatch (.text "off") "bool")))⟩ := by
  have hSource :
      readLayoutSource? misfits =
        some ⟨[("cpu", ⟨none, none, [⟨"clock", .null⟩], []⟩),
          ("disk", ⟨none, none, [⟨"unit", .null⟩,
            ⟨"bool", .text "off"⟩, ⟨"later", .null⟩], []⟩)],
          none⟩ := by
    cbv
  have hConversion :=
    (readLayout_isConversion misfits).1 _ hSource
  refine ⟨hSource, ?_⟩
  have hLog :
      (readLayout misfits).log =
        [.unknownType "clock", .unknownType "unit"] :=
    hConversion.log
  rcases hConversion.first ("disk", ⟨"bool", .text "off"⟩)
      rfl with
    ⟨cause, hEntry, hError⟩
  cases hEntry
  calc
    readLayout misfits
    _ = ⟨(readLayout misfits).log,
          (readLayout misfits).result⟩ := rfl
    _ = _ := by
      rw [hLog, hError]
      rfl

end FactLayout
