import RpcSchema.CommandRun
import RpcSchema.Proofs.DocumentLines

/-! # What is said of faults

The texts for all that can go wrong with a file or with a run, cause by cause. The first words
of a report tell the kind of fault, so that no report fits faults of two kinds. -/
namespace RpcSchema.FaultReports
open DocumentLines

section Files

/-- The words for what the system refuses. -/
inductive SystemWords : AccessError → Text → Prop
  | notFound : SystemWords .notFound "No such file or directory (os error 2)".toList
  | notDirectory : SystemWords .notDirectory "Not a directory (os error 20)".toList
  | isDirectory : SystemWords .isDirectory "Is a directory (os error 21)".toList
  | notText : SystemWords .notText "stream did not contain valid UTF-8".toList
  | refused {words : Text} : SystemWords (.refused words) words

theorem systemWords_message (e : AccessError) : SystemWords e e.message := by
  cases e <;> constructor

/-- The place that a text is blamed at when it is no file of the language: the first mark in
its tree, or the item that is out of place. -/
inductive Blamed (recovery : Recovery) (source : Text) : SourcePosition → Prop
  | ungrammatical (hread : GoSourceFile.read source = none) :
      Blamed recovery source ((recovery.tree source).marks.head?.getD ⟨0, 0⟩)
  | misplaced {items : List Item} {rest : Text} (hread : GoSourceFile.read source = some items)
      (hfault : GoLayout.fault? .start items = some (.misplaced rest)) :
      Blamed recovery source (.ofRest source rest)
  | noPackage {items : List Item} (hread : GoSourceFile.read source = some items)
      (hfault : GoLayout.fault? .start items = some .noPackage) : Blamed recovery source ⟨1, 1⟩

/-- Why a file is skipped. -/
inductive SkipReason (recovery : Recovery) (sources : Sources) (path : Text) : Text → Prop
  | refused {e : AccessError} {words : Text} (hsource : sources path = .error e)
      (hwords : SystemWords e words) :
      SkipReason recovery sources path ("I/O error: ".toList ++ words)
  | blamed {source : Text} {line column : Nat} (hsource : sources path = .ok source)
      (hplace : Blamed recovery source ⟨line, column⟩) :
      SkipReason recovery sources path
        ("Syntax error at ".toList ++ Text.ofNat line ++ ':' :: Text.ofNat column)

variable {recovery : Recovery} {sources : Sources} {path source : Text}

theorem blamed_of_signaturesOf {f : SyntaxFault} (h : signaturesOf source = .error f) :
    Blamed recovery source (f.position recovery source) := by
  unfold signaturesOf at h
  split at h
  · next hread =>
    cases h
    rw [SyntaxFault.position, Recovery.blame_eq]
    exact .ungrammatical hread
  · next items hread =>
    split at h
    · next fault hfault =>
      cases h
      cases fault with
      | misplaced rest => exact .misplaced hread hfault
      | noPackage => exact .noPackage hread hfault
    · cases h

theorem skipReason_message {e : ScanError} (h : scanFile sources path = .error e) :
    SkipReason recovery sources path (e.message recovery) := by
  unfold scanFile at h
  cases hsource : sources path with
  | error own =>
    simp only [hsource, Except.error.injEq] at h
    subst h
    exact .refused hsource (systemWords_message own)
  | ok source =>
    cases hsignatures : signaturesOf source with
    | ok signatures => simp [hsource, hsignatures, Except.mapError] at h
    | error fault =>
      simp only [hsource, hsignatures, Except.mapError, Except.error.injEq] at h
      subst h
      have hplace : Blamed recovery source
          ⟨(fault.position recovery source).line, (fault.position recovery source).column⟩ :=
        blamed_of_signaturesOf hsignatures
      have hreason := SkipReason.blamed hsource hplace
      rwa [List.append_assoc] at hreason

end Files

section Runs

/-- The order in which the faults of a run are reported. -/
def rank : Failure → Nat
  | .configuration _ => 0
  | .missing .service => 1
  | .missing .files => 2
  | .generation _ _ => 3
  | .writing _ _ => 4

/-- A text of several lines, the further ones moved in. -/
def movedIn (width : Nat) (t : Text) : Text :=
  Text.join ('\n' :: List.replicate width ' ') (t.splitAt '\n')

/-- What is said of the configuration in the file at a path. -/
inductive ConfigurationWords (toml : Text → TomlFault) : ConfigurationError → Text → Text → Prop
  | unreadable {path words : Text} {e : AccessError} (hwords : SystemWords e words) :
      ConfigurationWords toml (.unreadable path e) path words
  | notToml {source path cause : Text} {extent : Extent} (hfault : toml source = ⟨extent, cause⟩) :
      ConfigurationWords toml (@ConfigurationError.notToml source path) path
        (SourceExcerpt.text source extent ++ cause ++ "\n".toList)
  | shape {source path found expected : Text} {extent : Extent} :
      ConfigurationWords toml (.shape path source ⟨found, expected, extent⟩) path
        (SourceExcerpt.text source extent ++ "invalid type: ".toList ++ found ++
          ", expected ".toList ++ expected ++ "\n".toList)

/-- The report on a fault, from its heading to the end of its last line. -/
inductive Reported (diagnosis : Diagnosis) : Failure → Text → Prop
  | configuration {e : ConfigurationError} {path words : Text}
      (hwords : ConfigurationWords diagnosis.toml e path words) :
      Reported diagnosis (.configuration e)
        ("Error: Config error: ".toList ++ path ++ ": ".toList ++ words ++ "\n".toList)
  | service : Reported diagnosis (.missing .service)
      "Error: Usage error: missing service name\n".toList
  | files : Reported diagnosis (.missing .files)
      "Error: Usage error: missing source files\n".toList
  | generation {service function type : Text} :
      Reported diagnosis (.generation service ⟨function, type⟩)
        ("Error: Failed to generate service ".toList ++ service ++
          "\n\nCaused by:\n    ".toList ++ movedIn 4 ("Unsupported type `".toList ++ type ++
          "` in function ".toList ++ function) ++ "\n".toList)
  | writing {path words : Text} {e : AccessError} (hwords : SystemWords e words) :
      Reported diagnosis (.writing path e)
        ("Error: Failed to write ".toList ++ path ++
          "\n\nCaused by:\n    0: ".toList ++ movedIn 7 ("I/O error: ".toList ++ words) ++
          "\n    1: ".toList ++ movedIn 7 words ++ "\n".toList)

theorem indented_eq (width : Nat) (t : Text) : Failure.indented width t = movedIn width t := by
  induction t with
  | nil => rfl
  | cons c t ih =>
    unfold Failure.indented movedIn at ih ⊢
    rw [List.flatMap_cons, ih]
    obtain ⟨l, ls, hl⟩ := List.exists_cons_of_ne_nil (splitAt_ne_nil '\n' t)
    by_cases hc : c = '\n'
    · simp [Text.splitAt, hc, hl, Text.join]
    · cases ls <;> simp [Text.splitAt, hc, hl, Text.join]

variable {diagnosis : Diagnosis} {f g : Failure} {report : Text}

theorem causesText_single (cause : Text) :
    Failure.causesText [cause] = "\n\nCaused by:\n    ".toList ++ movedIn 4 cause := by
  rw [← indented_eq]
  rfl

theorem causesText_two (first second : Text) :
    Failure.causesText [first, second] =
      "\n\nCaused by:\n    0: ".toList ++ movedIn 7 first ++
        ("\n    1: ".toList ++ movedIn 7 second) := by
  have hzero : Text.ofNat 0 = ['0'] := by decide +kernel
  have hone : Text.ofNat 1 = ['1'] := by decide +kernel
  have hnumbered : Failure.numbered 0 [first, second] =
      "\n    0: ".toList ++ movedIn 7 first ++ ("\n    1: ".toList ++ movedIn 7 second) := by
    unfold Failure.numbered Failure.numbered Failure.numbered
    simp only [hzero, hone, ← indented_eq, List.append_nil, List.append_assoc]
    rfl
  change "\n\nCaused by:".toList ++ Failure.numbered 0 [first, second] = _
  rw [hnumbered]
  rfl

theorem exists_configurationWords (toml : Text → TomlFault) (e : ConfigurationError) :
    ∃ path words, ConfigurationWords toml e path words ∧
      e.message toml = "Config error: ".toList ++ path ++ ": ".toList ++ words := by
  cases e with
  | unreadable path e => exact ⟨path, _, .unreadable (systemWords_message e), rfl⟩
  | notToml path => exact ⟨path, _, .notToml rfl, rfl⟩
  | shape path source e => exact ⟨path, _, .shape, rfl⟩

theorem reported_report (diagnosis : Diagnosis) (f : Failure) :
    Reported diagnosis f (f.report diagnosis) := by
  cases f with
  | configuration e =>
    obtain ⟨path, words, hwords, hmessage⟩ := exists_configurationWords diagnosis.toml e
    have h := Reported.configuration hwords
    change Reported diagnosis _ ("Error: ".toList ++ e.message diagnosis.toml ++ [] ++ ['\n'])
    rw [hmessage]
    simp only [List.append_assoc, List.nil_append] at h ⊢
    exact h
  | missing argument =>
    cases argument with
    | service => exact .service
    | files => exact .files
  | generation service e =>
    have h := @Reported.generation diagnosis service e.function e.type
    have hmessage : e.message = "Unsupported type `".toList ++ e.type ++
      "` in function ".toList ++ e.function := rfl
    change Reported diagnosis _ ("Error: ".toList ++
      ("Failed to generate service ".toList ++ service) ++
        Failure.causesText [e.message] ++ ['\n'])
    rw [causesText_single, hmessage]
    simp only [List.append_assoc] at h ⊢
    exact h
  | writing path e =>
    have h := @Reported.writing diagnosis path e.message e (systemWords_message e)
    change Reported diagnosis _ ("Error: ".toList ++ ("Failed to write ".toList ++ path) ++
        Failure.causesText ["I/O error: ".toList ++ e.message, e.message] ++ ['\n'])
    rw [causesText_two]
    simp only [List.append_assoc] at h ⊢
    exact h

/-- How the reports begin, by rank. -/
def headlines : List Text :=
  ["Error: Config error: ".toList, "Error: Usage error: missing service name".toList,
    "Error: Usage error: missing source files".toList,
    "Error: Failed to generate service ".toList, "Error: Failed to write ".toList]

/-- No headline is the beginning of another one. -/
theorem eq_of_headlines_prefix : ∀ i < 5, ∀ j < 5, ∀ l ∈ headlines[i]?, ∀ m ∈ headlines[j]?,
    l <+: m → i = j := by
  decide +kernel

theorem headline_prefix (h : Reported diagnosis f report) :
    ∃ l ∈ headlines[rank f]?, l <+: report := by
  cases h with
  | service => exact ⟨_, rfl, List.prefix_append _ ['\n']⟩
  | files => exact ⟨_, rfl, List.prefix_append _ ['\n']⟩
  | _ =>
    simp only [List.append_assoc]
    exact ⟨_, rfl, List.prefix_append _ _⟩

theorem rank_lt (f : Failure) : rank f < 5 := by
  cases f with
  | missing argument => cases argument <;> simp [rank]
  | _ => simp [rank]

/-- The kind of a fault can be told from its report. -/
theorem rank_eq_of_reported (hf : Reported diagnosis f report)
    (hg : Reported diagnosis g report) : rank f = rank g := by
  obtain ⟨l, hl, hlreport⟩ := headline_prefix hf
  obtain ⟨m, hm, hmreport⟩ := headline_prefix hg
  have hone := eq_of_headlines_prefix _ (rank_lt f) _ (rank_lt g) l hl m hm
  have hother := eq_of_headlines_prefix _ (rank_lt g) _ (rank_lt f) m hm l hl
  exact (List.prefix_or_prefix_of_prefix hlreport hmreport).elim hone fun h => (hother h).symm

end Runs

end RpcSchema.FaultReports
