import RpcSchema.Proofs.LogIndependence
import Mathlib.Data.List.Nodup

/-! # The order and the spelling of options

Arguments that write the same choices ask for the same run: options can stand anywhere
between the positional arguments, in any order and in any of their spellings. -/
namespace RpcSchema.ArgumentOrder
open Occurrence LogIndependence ArgumentReading

section Settings

/-- An option with what is chosen by it. -/
inductive Setting where
  | config (path : Text)
  | output (path : Text)
  | logLevel (filter : Text)
  | logFormat (format : LogFormat)
  | printConfig

namespace Setting

/-- The option and the value of a setting that has a value. -/
def valued? : Setting → Option (ValueOption × Text)
  | config path => some (.config, path)
  | output path => some (.output, path)
  | logLevel filter => some (.logLevel, filter)
  | logFormat format => some (.logFormat, formatName format)
  | printConfig => none

/-- The option of a setting, or none for the flag. -/
def option? (s : Setting) : Option ValueOption := s.valued?.map Prod.fst

def occurrence (s : Setting) (attached : Bool) : Occurrence :=
  match s.valued? with
  | some (o, value) => .option o (some value) attached
  | none => .flag .printConfig

/-- The choices with one more setting. -/
def choose (c : Choices) : Setting → Choices
  | config path => { c with config := some path }
  | output path => { c with output := some path }
  | logLevel filter => { c with logLevel := some filter }
  | logFormat format => { c with logFormat := some format }
  | printConfig => { c with printConfig := true }

/-- Nothing has been chosen in the place of a setting. -/
def IsFree (c : Choices) : Setting → Prop
  | config _ => c.config = none
  | output _ => c.output = none
  | logLevel _ => c.logLevel = none
  | logFormat _ => c.logFormat = none
  | printConfig => c.printConfig = false

/-- The ways to write a setting. -/
inductive Spelled : Setting → List Text → Prop
  | apart {s : Setting} {o : ValueOption} {value : Text} (h : s.valued? = some (o, value)) :
      Spelled s ["--".toList ++ o.name, value]
  | attached {s : Setting} {o : ValueOption} {value : Text} (h : s.valued? = some (o, value)) :
      Spelled s ["--".toList ++ o.name ++ '=' :: value]
  | letterApart (path : Text) : Spelled (output path) ["-o".toList, path]
  | letterAttached (path : Text) : Spelled (output path) ["-o".toList ++ path]
  | letterEquals (path : Text) : Spelled (output path) ["-o=".toList ++ path]
  | flag : Spelled printConfig ["--print-config".toList]

end Setting

/-- Arguments that write some settings and some positional values, each in order. -/
inductive Interleaved : List Setting → List Text → List Text → Prop
  | nil : Interleaved [] [] []
  | setting {s : Setting} {words : List Text} {settings : List Setting}
      {positionals arguments : List Text} (hs : s.Spelled words)
      (h : Interleaved settings positionals arguments) :
      Interleaved (s :: settings) positionals (words ++ arguments)
  | positional {settings : List Setting} {positionals arguments : List Text} (value : Text)
      (h : Interleaved settings positionals arguments) :
      Interleaved settings (value :: positionals) (value :: arguments)

/-- The settings of some choices. -/
def settings (c : Choices) : List Setting :=
  (c.config.map .config).toList ++ (c.output.map .output).toList ++
    (c.logLevel.map .logLevel).toList ++ (c.logFormat.map .logFormat).toList ++
      if c.printConfig then [.printConfig] else []

/-- Arguments that write some choices, the settings in any order. -/
def Writes (c : Choices) (arguments : List Text) : Prop :=
  ∃ own, own.Perm (settings c) ∧ Interleaved own c.positionals arguments

/-- A value that cannot be taken for an option or for what attaches a value to one. -/
def IsPlainValue (value : Text) : Prop :=
  ∃ first rest, value = first :: rest ∧ first ≠ '-' ∧ first ≠ '='

/-- An argument that cannot be taken for an option. -/
def IsPlainPositional (value : Text) : Prop := ∃ first rest, value = first :: rest ∧ first ≠ '-'

/-- Choices of plain values only. -/
structure IsPlain (c : Choices) : Prop where
  config : ∀ value ∈ c.config, IsPlainValue value
  output : ∀ value ∈ c.output, IsPlainValue value
  logLevel : ∀ value ∈ c.logLevel, IsPlainValue value
  positional : ∀ value ∈ c.positionals, IsPlainPositional value

end Settings

section Reading

variable {argument : Text}

theorem readArgument_positional {value : Text} (h : IsPlainPositional value) :
    readArgument value = .value := by
  obtain ⟨first, rest, rfl, hfirst⟩ := h
  unfold readArgument
  split <;> simp_all

theorem IsPlainValue.isValue {value : Text} (h : IsPlainValue value) : isValue value = true := by
  obtain ⟨first, rest, rfl, hfirst, -⟩ := h
  simp [Occurrence.isValue, hfirst]

theorem readArgument_letterAttached {path : Text} (h : IsPlainValue path) :
    readArgument ("-o".toList ++ path) = .complete (.option .output (some path) true) := by
  obtain ⟨first, rest, rfl, -, hfirst⟩ := h
  change readShort 'o' (first :: rest) = _
  unfold readShort
  rw [if_pos rfl]
  split <;> simp_all

/-- The words of a setting say just what it chooses. -/
theorem ofArguments_spelled {s : Setting} {words : List Text} (h : s.Spelled words)
    (hs : ∀ o value, s.valued? = some (o, value) → IsPlainValue value) (rest : List Text) :
    ∃ attached, ofArguments (words ++ rest) = s.occurrence attached :: ofArguments rest := by
  cases h with
  | @apart _ o value h =>
    have hread : readArgument ("--".toList ++ o.name) = .awaiting o := by cases o <;> rfl
    refine ⟨false, ?_⟩
    rw [Setting.occurrence, h]
    exact ofArguments_awaiting hread (hs o value h).isValue rest
  | @attached _ o value h =>
    have hread : readArgument ("--".toList ++ o.name ++ '=' :: value) =
        .complete (.option o (some value) true) := by cases o <;> rfl
    refine ⟨true, ?_⟩
    rw [Setting.occurrence, h]
    exact ofArguments_complete hread rest
  | letterApart path =>
    exact ⟨false, ofArguments_awaiting rfl (hs .output path rfl).isValue rest⟩
  | letterAttached path =>
    exact ⟨true, ofArguments_complete (readArgument_letterAttached (hs .output path rfl)) rest⟩
  | letterEquals path => exact ⟨true, ofArguments_complete rfl rest⟩
  | flag => exact ⟨false, ofArguments_complete rfl rest⟩

end Reading

section Runs
open Setting

variable {c : Choices} {s u : Setting}

/-- The choices with some settings and positional values. -/
def completed (c : Choices) (own : List Setting) (positionals : List Text) : Choices :=
  { own.foldl choose c with positionals := c.positionals ++ positionals }

theorem valued_plain {own : List Setting} (hc : IsPlain c) (hown : own.Perm (settings c)) :
    ∀ s ∈ own, ∀ o value, s.valued? = some (o, value) → IsPlainValue value := by
  intro s hs o value hvalued
  have hmem := hown.mem_iff.1 hs
  simp only [settings, List.mem_append, Option.mem_toList, Option.map_eq_some_iff] at hmem
  rcases hmem with (((⟨v, hv, rfl⟩ | ⟨v, hv, rfl⟩) | ⟨v, hv, rfl⟩) | ⟨v, hv, rfl⟩) | hprint
  · cases hvalued
    exact hc.config _ hv
  · cases hvalued
    exact hc.output _ hv
  · cases hvalued
    exact hc.logLevel _ hv
  · cases hvalued
    cases v <;> exact ⟨_, _, rfl, by decide, by decide⟩
  · cases hprint' : c.printConfig with
    | false => simp [hprint'] at hprint
    | true =>
      obtain rfl : s = .printConfig := by simpa [hprint'] using hprint
      cases hvalued

/-- A setting in a free place is chosen. -/
theorem add_occurrence (hfree : s.IsFree c)
    (hs : ∀ o value, s.valued? = some (o, value) → IsPlainValue value) (attached : Bool) :
    c.add (s.occurrence attached) = .ok (choose c s) := by
  have hne {o : ValueOption} {value : Text} (h : s.valued? = some (o, value)) : value ≠ [] := by
    obtain ⟨first, rest, rfl, -⟩ := hs o value h
    exact List.cons_ne_nil first rest
  cases s with
  | config path =>
    have hpath : path ≠ [] := hne rfl
    have hfree : c.config = none := hfree
    simp [occurrence, valued?, Choices.add, Choices.setOption, Choices.once, Choices.path, hfree,
      hpath, Except.map, choose]
  | output path =>
    have hpath : path ≠ [] := hne rfl
    have hfree : c.output = none := hfree
    simp [occurrence, valued?, Choices.add, Choices.setOption, Choices.once, Choices.path, hfree,
      hpath, Except.map, choose]
  | logLevel filter =>
    have hfree : c.logLevel = none := hfree
    simp [occurrence, valued?, Choices.add, Choices.setOption, Choices.once, hfree, Except.map,
      choose]
  | logFormat format =>
    have hfree : c.logFormat = none := hfree
    have hformat : Choices.format (formatName format) = .ok format := by cases format <;> rfl
    simp [occurrence, valued?, Choices.add, Choices.setOption, Choices.once, hfree, hformat,
      Except.map, choose]
  | printConfig =>
    have hfree : c.printConfig = false := hfree
    simp [occurrence, valued?, Choices.add, hfree, choose]

theorem isFree_choose (h : s.option? ≠ u.option?) (hu : u.IsFree c) : u.IsFree (choose c s) := by
  cases s <;> cases u <;> simp [option?, valued?] at h <;> exact hu

theorem choose_comm (h : s.option? ≠ u.option?) (c : Choices) :
    choose (choose c s) u = choose (choose c u) s := by
  cases s <;> cases u <;> simp [option?, valued?] at h <;> rfl

theorem foldl_choose_positionals (own : List Setting) (positionals : List Text) (c : Choices) :
    own.foldl choose { c with positionals := positionals } =
      { own.foldl choose c with positionals := positionals } := by
  induction own generalizing c with
  | nil => rfl
  | cons s own ih =>
    have hs : choose { c with positionals := positionals } s =
        { choose c s with positionals := positionals } := by cases s <;> rfl
    rw [List.foldl_cons, List.foldl_cons, hs, ih]

theorem completed_cons_setting (c : Choices) (s : Setting) (own : List Setting)
    (positionals : List Text) :
    completed c (s :: own) positionals = completed (choose c s) own positionals := by
  have hs : (choose c s).positionals = c.positionals := by cases s <;> rfl
  rw [completed, completed, List.foldl_cons, hs]

theorem completed_cons_positional (c : Choices) (own : List Setting) (value : Text)
    (positionals : List Text) :
    completed c own (value :: positionals) =
      completed { c with positionals := c.positionals ++ [value] } own positionals := by
  rw [completed, completed, foldl_choose_positionals own (c.positionals ++ [value]) c]
  simp

/-- Settings that do not get in each other's way are all chosen, and so are the positional
values between them. -/
theorem settle_interleaved {own : List Setting} {positionals arguments : List Text}
    (h : Interleaved own positionals arguments)
    (hvalues : ∀ s ∈ own, ∀ o value, s.valued? = some (o, value) → IsPlainValue value)
    (hpositionals : ∀ value ∈ positionals, IsPlainPositional value)
    (hdistinct : (own.map option?).Nodup) (hfree : ∀ s ∈ own, s.IsFree c)
    (hfiles : [] ∉ c.positionals) :
    c.settle (ofArguments arguments) = .ok (.run (completed c own positionals)) := by
  induction h generalizing c with
  | nil =>
    rw [completed, List.append_nil]
    rfl
  | @setting s words own positionals arguments hs h ih =>
    obtain ⟨hvalue, hvalues⟩ := List.forall_mem_cons.1 hvalues
    obtain ⟨hown, hfree⟩ := List.forall_mem_cons.1 hfree
    rw [List.map_cons, List.nodup_cons] at hdistinct
    obtain ⟨attached, hwords⟩ := ofArguments_spelled hs hvalue arguments
    have hadd := add_occurrence hown hvalue attached
    have hfree' : ∀ u ∈ own, u.IsFree (choose c s) := by
      intro u hu
      refine isFree_choose (fun heq => hdistinct.1 ?_) (hfree u hu)
      exact heq ▸ List.mem_map_of_mem hu
    have hfiles' : [] ∉ (choose c s).positionals := by cases s <;> exact hfiles
    have hhelp : s.occurrence attached ≠ .flag .help ∧ s.occurrence attached ≠ .flag .version := by
      cases s <;> exact ⟨nofun, nofun⟩
    rw [hwords, settle_of_add hhelp.1 hhelp.2 hadd, completed_cons_setting,
      ih hvalues hpositionals hdistinct.2 hfree' hfiles']
  | @positional own positionals arguments value h ih =>
    obtain ⟨hvalue, hpositionals⟩ := List.forall_mem_cons.1 hpositionals
    have hne : value ≠ [] := by
      obtain ⟨first, rest, rfl, -⟩ := hvalue
      exact List.cons_ne_nil first rest
    have hall : [] ∉ c.positionals ++ [value] := by simp [hfiles, hne.symm]
    have hfree' : ∀ u ∈ own, u.IsFree { c with positionals := c.positionals ++ [value] } := by
      intro u hu
      cases u <;> exact hfree _ hu
    rw [ofArguments_value (readArgument_positional hvalue),
      settle_prependPositional fun hmem => hall (List.mem_of_mem_tail hmem),
      completed_cons_positional, ih hvalues hpositionals hdistinct hfree' hall]

theorem nodup_options (c : Choices) : ((settings c).map option?).Nodup := by
  obtain ⟨config, output, logLevel, logFormat, printConfig, positionals⟩ := c
  cases config <;> cases output <;> cases logLevel <;> cases logFormat <;> cases printConfig <;>
    simp [settings, option?, valued?]

theorem foldl_settings (c : Choices) :
    (settings c).foldl choose .initial = { c with positionals := [] } := by
  obtain ⟨config, output, logLevel, logFormat, printConfig, positionals⟩ := c
  cases config <;> cases output <;> cases logLevel <;> cases logFormat <;> cases printConfig <;>
    rfl

theorem request_of_writes (hc : IsPlain c) {arguments : List Text} (h : Writes c arguments) :
    Request.ofArguments arguments = .ok (.run c) := by
  obtain ⟨own, hown, h⟩ := h
  have hdistinct : (own.map option?).Nodup := (hown.map option?).nodup_iff.2 (nodup_options c)
  have hcomm : ∀ s ∈ own, ∀ u ∈ own, ∀ d, choose (choose d s) u = choose (choose d u) s := by
    intro s hs u hu d
    by_cases hsame : s.option? = u.option?
    · rw [List.inj_on_of_nodup_map hdistinct hs hu hsame]
    · exact choose_comm hsame d
  have hchosen : completed .initial own c.positionals = c := by
    rw [completed, hown.foldl_eq' hcomm, foldl_settings]
    rfl
  have hfree : ∀ s ∈ own, s.IsFree .initial := by
    intro s _
    cases s <;> rfl
  rw [Request.ofArguments, settle_interleaved h (valued_plain hc hown) hc.positional hdistinct hfree
    List.not_mem_nil, hchosen]

/-- Two ways to write the same choices are the same to a run: all that can be seen of it and
the files it leaves. -/
theorem order_irrelevant (hc : IsPlain c) {as bs : List Text} (ha : Writes c as)
    (hb : Writes c bs) (environment : Option Text) (files : FileTree) (d : Diagnosis) :
    Request.ofArguments as = .ok (.run c) ∧
      runCommand as environment files d = runCommand bs environment files d := by
  have has := request_of_writes hc ha
  refine ⟨has, ?_⟩
  rw [runCommand, runCommand, has, request_of_writes hc hb]

/-- A document that is written to a file, with all steps logged. -/
def savedChoices : Choices where
  config := none
  output := some "a.proto".toList
  logLevel := some "debug".toList
  logFormat := some .json
  printConfig := false
  positionals := ["S".toList, "a.go".toList]

def leadingOptions : List Text :=
  ["-oa.proto".toList, "--log-format=json".toList, "--log-level".toList, "debug".toList,
    "S".toList, "a.go".toList]

def scatteredOptions : List Text :=
  ["S".toList, "--log-level=debug".toList, "a.go".toList, "--output".toList, "a.proto".toList,
    "--log-format".toList, "json".toList]

theorem order_irrelevant_scattered :
    IsPlain savedChoices ∧ Writes savedChoices leadingOptions ∧
      Writes savedChoices scatteredOptions ∧
      Request.ofArguments leadingOptions = .ok (.run savedChoices) ∧
      runCommand leadingOptions none oneFile = runCommand scatteredOptions none oneFile := by
  have hplain : IsPlain savedChoices := by
    refine ⟨nofun, ?_, ?_, ?_⟩
    · rintro _ ⟨⟩
      exact ⟨_, _, rfl, by decide, by decide⟩
    · rintro _ ⟨⟩
      exact ⟨_, _, rfl, by decide, by decide⟩
    · intro value hvalue
      simp only [savedChoices, List.mem_cons, List.not_mem_nil, or_false] at hvalue
      rcases hvalue with rfl | rfl <;> exact ⟨_, _, rfl, by decide⟩
  have houtput : (output "a.proto".toList).valued? = some (.output, "a.proto".toList) := rfl
  have hlevel : (logLevel "debug".toList).valued? = some (.logLevel, "debug".toList) := rfl
  have hformat : (logFormat .json).valued? = some (.logFormat, "json".toList) := rfl
  have hleading : Writes savedChoices leadingOptions := by
    refine ⟨[.output "a.proto".toList, .logFormat .json, .logLevel "debug".toList], ?_, ?_⟩
    · exact .cons _ (.swap _ _ [])
    · exact .setting (.letterAttached "a.proto".toList) <| .setting (.attached hformat) <|
        .setting (.apart hlevel) <| .positional _ <| .positional _ .nil
  have hscattered : Writes savedChoices scatteredOptions := by
    refine ⟨[.logLevel "debug".toList, .output "a.proto".toList, .logFormat .json], ?_, ?_⟩
    · exact .swap _ _ _
    · exact .positional _ <| .setting (.attached hlevel) <| .positional _ <|
        .setting (.apart houtput) <| .setting (.apart hformat) .nil
  obtain ⟨hrequest, hrun⟩ := order_irrelevant hplain hleading hscattered none oneFile
    .whole
  exact ⟨hplain, hleading, hscattered, hrequest, hrun⟩

end Runs

end RpcSchema.ArgumentOrder
