import FactLayout.CommandLine
import FactLayout.Proofs.Text.Trim
import Mathlib.Data.List.Forall2
import Mathlib.Data.List.Nodup
import Mathlib.Tactic.Choose

/-
  Command lines spelled out for given options.

  Each switch that the options need is spelled by one word,
  and so is the path of the layout.  The words come in any
  order; two dashes and the texts follow.  Such a command
  line is read back as the options, whatever the texts are.

  Key definitions include:
    * `Options.IsExpressible`
    * `Options.needs`
    * `Options.Spells`
    * `Options.IsSpelledBy`
    * `Options.restrict`

  Main results:
    * `CommandLine.step_of_spells`
    * `CommandLine.foldlM_step_of_spells`
    * `CommandLine.foldlM_step_texts`
    * `CommandLine.parse_spelled`
-/

------------------------------------------------------------
-- Words for Options
------------------------------------------------------------

namespace FactLayout

namespace Options

open CommandLine (Switch)

/-
  Options that a command line can ask for.  Arguments and
  input need a format, and a path is not empty.
-/
structure IsExpressible (o : Options) : Prop where
  args : o.args ≠ [] → o.format.isSome
  stdin : o.stdin = true → o.format.isSome
  config : o.config ≠ some ""

/- Options need a switch that they do not have by default. -/
def needs (o : Options) : Switch → Bool
| .stdin => o.stdin
| .formatHelp => o.formatHelp
| .noNewline => o.noNewline
| .verbose => o.verbose
| .config => o.config.isSome
| .help => false
| .version => false

/- The switches that options need. -/
def switches (o : Options) : List Switch :=
  Switch.all.filter o.needs

/- The format, if there is one, and its arguments. -/
def texts (o : Options) : List String :=
  o.format.toList ++ o.args

/-
  A word spells a switch.  Flags have a long name, and some
  of them have a short one; a path follows its long name.
-/
inductive Spells (o : Options) : Switch → String → Prop
| long
    {s : Switch}
    (hFlag : s ≠ .config)
    (hNeeds : o.needs s = true) :
    Spells o s ("--" ++ s.longName)
| short
    {s : Switch}
    {c : Char}
    (hFlag : s ≠ .config)
    (hNeeds : o.needs s = true)
    (hName : s.shortName? = some c) :
    Spells o s (String.ofList ['-', c])
| path
    {value : String}
    (hConfig : o.config = some value) :
    Spells o .config ("--config=" ++ value)

/- Words spell every switch once, in any order. -/
def IsSpelledBy
    (o : Options)
    (words : List String) : Prop :=
  ∃ switches : List Switch,
    switches.Perm o.switches ∧
      List.Forall₂ o.Spells switches words

theorem mem_switches_iff
    {o : Options}
    {s : Switch} :
    s ∈ o.switches ↔ o.needs s = true := by
  unfold switches
  rw [List.mem_filter]
  constructor
  · exact And.right
  · exact fun hNeeds => ⟨by cases s <;> decide, hNeeds⟩

theorem nodup_switches (o : Options) : o.switches.Nodup :=
  List.Nodup.filter _ (by decide)

/- A switch that is needed can be spelled. -/
theorem exists_spells
    {o : Options}
    {s : Switch}
    (hNeeds : o.needs s = true) :
    ∃ word, o.Spells s word := by
  by_cases hFlag : s = .config
  · subst hFlag
    rcases Option.isSome_iff_exists.mp hNeeds with
      ⟨value, hConfig⟩
    exact ⟨_, .path hConfig⟩
  · exact ⟨_, .long hFlag hNeeds⟩

theorem exists_isSpelledBy
    (o : Options) :
    ∃ words, o.IsSpelledBy words := by
  have hEach :
      ∀ s ∈ o.switches, ∃ word, o.Spells s word :=
    fun s hMem => exists_spells (mem_switches_iff.mp hMem)
  choose! word hWord using hEach
  refine ⟨o.switches.map word, o.switches, .refl _, ?_⟩
  rw [List.forall₂_map_right_iff, List.forall₂_same]
  exact hWord

------------------------------------------------------------
-- Options as Far as They Are Read
------------------------------------------------------------

/- What switches tell about options, without any texts. -/
def restrict
    (o : Options)
    (seen : List Switch) : Options where
  config := if .config ∈ seen then o.config else none
  stdin := decide (.stdin ∈ seen) && o.stdin
  formatHelp := decide (.formatHelp ∈ seen) && o.formatHelp
  noNewline := decide (.noNewline ∈ seen) && o.noNewline
  verbose := decide (.verbose ∈ seen) && o.verbose

/- Without switches nothing is known yet. -/
theorem restrict_nil
    (o : Options) :
    o.restrict [] = {} := rfl

/- All switches tell everything but the texts. -/
theorem restrict_of_perm
    {o : Options}
    {seen : List Switch}
    (hOrder : seen.Perm o.switches) :
    o.restrict seen =
      { o with format := none, args := [] } := by
  have hSeen : ∀ s, s ∈ seen ↔ o.needs s = true := by
    intro s
    rw [hOrder.mem_iff, mem_switches_iff]
  unfold restrict
  simp only [hSeen, needs]
  cases o.config <;> simp

end Options

------------------------------------------------------------
-- Names of Switches
------------------------------------------------------------

namespace CommandLine

theorem Switch.ofLong?_longName
    (s : Switch) :
    Switch.ofLong? s.longName = some s := by
  cases s <;> decide

theorem Switch.ofShort?_of_shortName?
    {s : Switch}
    {c : Char}
    (hName : s.shortName? = some c) :
    Switch.ofShort? c = some s := by
  cases s <;> cases hName <;> decide

/- The name of a switch ends where its value begins. -/
theorem splitValue_longName
    (s : Switch)
    (value : List Char) :
    splitValue s.longName.toList =
        (s.longName.toList, none) ∧
      splitValue (s.longName.toList ++ '=' :: value) =
        (s.longName.toList, some value) := by
  have hName :
      ∀ c ∈ s.longName.toList, (c != '=') = true := by
    cases s <;> exact List.all_eq_true.mp (by decide)
  have hValue :
      ∀ c ∈ ('=' :: value).head?, (c != '=') = false := by
    rintro c ⟨⟩
    rfl
  have hNone :
      ∀ c ∈ ([] : List Char).head?, (c != '=') = false := by
    rintro c ⟨⟩
  rcases takeWhile_dropWhile_append hName hValue with
    ⟨hTaken, hLeft⟩
  rcases takeWhile_dropWhile_append hName hNone with
    ⟨hAll, hNothing⟩
  rw [List.append_nil] at hAll hNothing
  unfold splitValue
  constructor
  · rw [hAll, hNothing]
  · rw [hTaken, hLeft]

/- The long name of a flag raises it. -/
theorem long_longName
    {s : Switch}
    (hFlag : s ≠ .config)
    (p : Progress) :
    long p s.longName.toList = p.flag s := by
  unfold long
  rw [(splitValue_longName s []).1]
  simp only [String.ofList_toList, Switch.ofLong?_longName]

/- The long name of the path takes what follows it. -/
theorem long_config
    (p : Progress)
    (value : List Char) :
    long p (Switch.config.longName.toList ++ '=' :: value) =
      p.option (String.ofList value) := by
  unfold long
  rw [(splitValue_longName .config value).2]
  simp only [String.ofList_toList, Switch.ofLong?_longName]

/- The short name of a flag raises it. -/
theorem cluster_shortName
    {s : Switch}
    {c : Char}
    (hFlag : s ≠ .config)
    (hName : s.shortName? = some c)
    (p : Progress) :
    cluster p [c] = p.flag s := by
  simp only [cluster, Switch.ofShort?_of_shortName? hName]
  exact bind_pure _

/- A word behind two dashes is a long name. -/
theorem step_long
    {o : Options}
    {word : String}
    {name : List Char}
    (hWord : word.toList = '-' :: '-' :: name)
    (hName : name ≠ []) :
    step { options := o } word = long { options := o } name := by
  have hDashes : word ≠ "--" := by
    rintro rfl
    apply hName
    simpa using hWord.symm
  unfold step
  rw [if_neg Bool.false_ne_true, if_neg hDashes]
  simp only [hWord]

/- A word behind one dash is a cluster of short names. -/
theorem step_short
    {o : Options}
    {word : String}
    {c : Char}
    (hWord : word.toList = ['-', c])
    (hName : c ≠ '-') :
    step { options := o } word =
      cluster { options := o } [c] := by
  have hDashes : word ≠ "--" := by
    rintro rfl
    apply hName
    simpa using hWord.symm
  unfold step
  rw [if_neg Bool.false_ne_true, if_neg hDashes]
  simp only [hWord]

------------------------------------------------------------
-- Words in Front of the Dashes
------------------------------------------------------------

section

variable {o : Options}
variable {seen : List Switch}

/- A flag that has not been raised yet is raised. -/
theorem flag_restrict
    {s : Switch}
    (hFlag : s ≠ .config)
    (hNeeds : o.needs s = true)
    (hNew : s ∉ seen) :
    Progress.flag { options := o.restrict seen } s =
      .ok { options := o.restrict (s :: seen) } := by
  have hSet :
      setFlag (o.restrict seen) s =
        .ok (o.restrict (s :: seen)) := by
    cases s
    case config => exact absurd rfl hFlag
    case help => cases hNeeds
    case version => cases hNeeds
    all_goals
      simp_all [setFlag, Options.restrict, Options.needs,
        pure, Except.pure]
  change setFlag (o.restrict seen) s >>= _ = _
  rw [hSet]
  rfl

/- A path that has not been given yet is set. -/
theorem option_restrict
    {value : String}
    (hConfig : o.config = some value)
    (hValue : value ≠ "")
    (hNew : .config ∉ seen) :
    Progress.option { options := o.restrict seen } value =
      .ok { options := o.restrict (.config :: seen) } := by
  have hSet :
      setConfig (o.restrict seen) value =
        .ok (o.restrict (.config :: seen)) := by
    simp [setConfig, Options.restrict, hConfig, hValue, hNew,
      pure, Except.pure]
  change setConfig (o.restrict seen) value >>= _ = _
  rw [hSet]
  rfl

/-
  The word of a switch that has not been seen yet tells what
  the options say about it.
-/
theorem step_of_spells
    {s : Switch}
    {word : String}
    (hConfig : o.config ≠ some "")
    (hSpells : o.Spells s word)
    (hNew : s ∉ seen) :
    step { options := o.restrict seen } word =
      .ok { options := o.restrict (s :: seen) } := by
  cases hSpells with
  | long hFlag hNeeds =>
      have hName : s.longName.toList ≠ [] := by
        cases s <;> decide
      rw [step_long (by simp) hName, long_longName hFlag]
      exact flag_restrict hFlag hNeeds hNew
  | @short _ c hFlag hNeeds hName =>
      have hDash : c ≠ '-' := by
        cases s <;> cases hName <;> decide
      rw [step_short (by simp) hDash,
        cluster_shortName hFlag hName]
      exact flag_restrict hFlag hNeeds hNew
  | @path value hPath =>
      have hValue : value ≠ "" := by
        rintro rfl
        exact hConfig hPath
      have hWord :
          ("--config=" ++ value).toList =
            '-' :: '-' :: (Switch.config.longName.toList ++
              '=' :: value.toList) := by
        simp [Switch.longName]
      rw [step_long hWord (by simp), long_config,
        String.ofList_toList]
      exact option_restrict hPath hValue hNew

/-
  Words that spell switches one after the other tell what
  the options say about all of them.
-/
theorem foldlM_step_of_spells
    {switches : List Switch}
    {words : List String}
    (hConfig : o.config ≠ some "")
    (hSpells : List.Forall₂ o.Spells switches words)
    (hOnce : (switches.reverse ++ seen).Nodup) :
    words.foldlM step { options := o.restrict seen } =
      .ok { options :=
        o.restrict (switches.reverse ++ seen) } := by
  induction hSpells generalizing seen with
  | nil => rfl
  | @cons s word switches words hSpells _ ih =>
      rw [List.reverse_cons, List.append_assoc,
        List.singleton_append] at hOnce ⊢
      have hNew : s ∉ seen :=
        (List.nodup_cons.mp
          (List.Nodup.of_append_right hOnce)).1
      rw [List.foldlM_cons,
        step_of_spells hConfig hSpells hNew]
      exact ih hOnce

end

------------------------------------------------------------
-- Texts behind the Dashes
------------------------------------------------------------

/- Behind the dashes a word is a text, whatever it is. -/
theorem foldlM_step_texts
    (o : Options)
    (texts : List String) :
    texts.foldlM step { options := o, trailing := true } =
      .ok
        { options := texts.foldl addText o
          trailing := true } := by
  induction texts generalizing o with
  | nil => rfl
  | cons text texts ih => exact ih (addText o text)

/- The first text is the format, the others are arguments. -/
theorem foldl_addText
    {o : Options}
    {format : String}
    (hFormat : o.format = some format)
    (texts : List String) :
    texts.foldl addText o =
      { o with args := o.args ++ texts } := by
  induction texts generalizing o with
  | nil => simp
  | cons text texts ih =>
      have hText :
          addText o text =
            { o with args := o.args ++ [text] } := by
        simp only [addText, hFormat]
      rw [List.foldl_cons, hText, ih (by exact hFormat)]
      simp

/- The texts of options complete what the switches tell. -/
theorem foldl_addText_texts
    {o : Options}
    (hArgs : o.args ≠ [] → o.format.isSome) :
    o.texts.foldl addText
        { o with format := none, args := [] } = o := by
  unfold Options.texts
  cases hFormat : o.format with
  | none =>
      have hNone : o.args = [] := by
        by_contra hSome
        have hFound := hArgs hSome
        rw [hFormat] at hFound
        cases hFound
      rw [hNone]
      change { o with format := none, args := [] } = o
      rw [← hFormat, ← hNone]
  | some format =>
      change o.args.foldl addText
        { o with format := some format, args := [] } = o
      rw [foldl_addText rfl, ← hFormat]
      rfl

------------------------------------------------------------
-- Command Lines Read Back
------------------------------------------------------------

/- Words that spell options tell all but their texts. -/
theorem foldlM_step_of_isSpelledBy
    {o : Options}
    {words : List String}
    (hConfig : o.config ≠ some "")
    (hSpelled : o.IsSpelledBy words) :
    words.foldlM step {} =
      .ok { options :=
        { o with format := none, args := [] } } := by
  rcases hSpelled with ⟨switches, hOrder, hSpells⟩
  have hAll : switches.reverse.Perm o.switches :=
    (List.reverse_perm switches).trans hOrder
  have hOnce : (switches.reverse ++ []).Nodup := by
    rw [List.append_nil]
    exact hAll.nodup_iff.mpr o.nodup_switches
  have hWords := foldlM_step_of_spells hConfig hSpells hOnce
  rw [List.append_nil, Options.restrict_nil,
    Options.restrict_of_perm hAll] at hWords
  exact hWords

/-
  Options that can be asked for at all can be spelled.  The
  words of their switches, two dashes and their texts are
  read back as the same options; if the options need input
  and the texts are left out, the format is missed.
-/
theorem parse_spelled
    {o : Options}
    (hExpressible : o.IsExpressible) :
    (∃ words, o.IsSpelledBy words) ∧
      ∀ words, o.IsSpelledBy words →
        parse (words ++ "--" :: o.texts) = .ok o ∧
          (o.stdin = true →
            parse words =
                .error (.usage .missingRequiredArgument) ∧
              parse (words ++ ["--"]) =
                .error (.usage .missingRequiredArgument)) := by
  refine ⟨o.exists_isSpelledBy, ?_⟩
  intro words hSpelled
  have hWords :=
    foldlM_step_of_isSpelledBy hExpressible.config hSpelled
  constructor
  · unfold parse
    rw [List.foldlM_append, hWords]
    change (o.texts.foldlM step
      { options := { o with format := none, args := [] }
        trailing := true }) >>= finish = _
    rw [foldlM_step_texts,
      foldl_addText_texts hExpressible.args]
    have hFormat :
        ¬ (o.stdin = true ∧ o.format.isNone = true) := by
      rintro ⟨hStdin, hNone⟩
      have hSome := hExpressible.stdin hStdin
      rw [Option.isNone_iff_eq_none.mp hNone] at hSome
      cases hSome
    exact if_neg hFormat
  · intro hStdin
    unfold parse
    rw [List.foldlM_append, hWords]
    constructor
    · exact if_pos ⟨hStdin, rfl⟩
    · exact if_pos ⟨hStdin, rfl⟩

/-
  Switches in another order than they are listed, a path with
  an equals sign, and texts that are empty or look like
  switches.
-/
theorem parse_spelled_switches_in_texts :
    let o : Options :=
      { format := some "--"
        args := ["", "--config", "-s=1"]
        config := some "a=b"
        stdin := true
        formatHelp := true
        noNewline := true
        verbose := true }
    let words : List String :=
      ["-n", "--config=a=b", "--stdin", "--format-help", "-v"]
    o.IsExpressible ∧
      o.IsSpelledBy words ∧
      parse (words ++ ["--", "--", "", "--config", "-s=1"]) =
        .ok o ∧
      parse words =
        .error (.usage .missingRequiredArgument) := by
  intro o words
  have hExpressible : o.IsExpressible :=
    ⟨fun _ => rfl, fun _ => rfl, by decide⟩
  have hSpelled : o.IsSpelledBy words := by
    refine ⟨[.noNewline, .config, .stdin, .formatHelp,
      .verbose], by decide, ?_⟩
    exact
      .cons (.short (by decide) rfl rfl) <|
      .cons (@Options.Spells.path o "a=b" rfl) <|
      .cons (.long (by decide) rfl) <|
      .cons (.long (by decide) rfl) <|
      .cons (.short (by decide) rfl rfl) .nil
  rcases (parse_spelled hExpressible).2 words hSpelled with
    ⟨hRead, hMissing⟩
  exact ⟨hExpressible, hSpelled, hRead, (hMissing rfl).1⟩

end CommandLine

end FactLayout
