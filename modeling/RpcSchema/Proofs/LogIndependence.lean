import RpcSchema.CommandRun
import RpcSchema.Proofs.ArgumentReading
import RpcSchema.Proofs.DocumentLines

/-! # Logging does not interfere

What a run leaves behind, its log apart, does not depend on what is logged and how. The
values of the log options are kept apart from the other choices: with these values
forgotten, two runs whose arguments differ in them only make the same choices. -/
namespace RpcSchema.LogIndependence

section Filters

/-- A level by its name, in any case; `off` is the level of nothing. -/
def IsLevelName (t : Text) : Prop :=
  t.map Char.toUpper ∈ "OFF".toList :: LogLevel.all.map LogLevel.name

/-- A level for everything, or one for a target. -/
inductive IsDirective : Text → Prop
  | level {t : Text} (h : IsLevelName t) : IsDirective t
  | target {target t : Text} (htarget : LogRule.isTarget target = true) (hcomma : ',' ∉ target)
      (hsign : '=' ∉ target) (h : IsLevelName t) : IsDirective (target ++ '=' :: t)

/-- Directives with commas between them. -/
def IsFilter (t : Text) : Prop :=
  ∃ directives, directives ≠ [] ∧ (∀ d ∈ directives, IsDirective d) ∧
    t = Text.join [','] directives

variable {t : Text} {directives : List Text}

theorem exists_level (h : IsLevelName t) : ∃ upTo, LogRule.level? t = some upTo := by
  rcases List.mem_cons.1 h with h | h
  · exact ⟨none, by simp [LogRule.level?, h]⟩
  · obtain ⟨level, hlevel, hname⟩ := List.mem_map.1 h
    have hfound : (LogLevel.all.find? fun level =>
        level.name == t.map Char.toUpper || Text.ofNat level.detail == t).isSome = true := by
      rw [List.find?_isSome]
      exact ⟨level, hlevel, by simp [hname]⟩
    obtain ⟨found, hfound⟩ := Option.isSome_iff_exists.1 hfound
    by_cases hoff : t.map Char.toUpper = "OFF".toList ∨ t = ['0']
    · exact ⟨none, if_pos hoff⟩
    · exact ⟨some found, (if_neg hoff).trans (by rw [hfound]; rfl)⟩

/-- No comma and nothing empty is the name of a level. -/
theorem IsLevelName.plain (h : IsLevelName t) : ',' ∉ t ∧ t ≠ [] := by
  have hall : ∀ name ∈ "OFF".toList :: LogLevel.all.map LogLevel.name,
      ',' ∉ name ∧ name ≠ [] := by decide
  obtain ⟨hcomma, hne⟩ := hall _ h
  refine ⟨fun hc => hcomma ?_, fun ht => hne (by rw [ht]; rfl)⟩
  exact List.mem_map.2 ⟨',', hc, by decide⟩

theorem IsDirective.plain (h : IsDirective t) : ',' ∉ t ∧ t ≠ [] := by
  cases h with
  | level h => exact h.plain
  | target _ hcomma _ h => exact ⟨by simp [hcomma, h.plain.1], by simp⟩

theorem exists_rule (h : IsDirective t) : ∃ r, LogRule.read? t = some r := by
  cases h with
  | level h =>
    obtain ⟨upTo, hlevel⟩ := exists_level h
    exact ⟨⟨[], upTo⟩, by simp [LogRule.read?, hlevel]⟩
  | @target target t htarget _ hsign h =>
    obtain ⟨upTo, hlevel⟩ := exists_level h
    have hchars : ∀ c ∈ target, (c != '=') = true := by
      intro c hc
      rw [bne_iff_ne]
      rintro rfl
      exact hsign hc
    have htake : (target ++ '=' :: t).takeWhile (· != '=') = target := by
      rw [List.takeWhile_append_of_pos hchars]
      simp
    have hdrop : (target ++ '=' :: t).dropWhile (· != '=') = '=' :: t := by
      rw [List.dropWhile_append_of_pos hchars]
      simp
    unfold LogRule.read?
    split
    · exact ⟨_, rfl⟩
    · obtain ⟨c, u, ht⟩ := List.exists_cons_of_ne_nil h.plain.2
      rw [htake, hdrop]
      subst ht
      exact ⟨⟨target, upTo⟩, by simp [htarget, hlevel]⟩

/-- The directives are what stands between the commas. -/
theorem splitAt_join (h : directives ≠ []) (hcomma : ∀ d ∈ directives, ',' ∉ d) :
    (Text.join [','] directives).splitAt ',' = directives := by
  induction directives with
  | nil => exact absurd rfl h
  | cons d directives ih =>
    obtain ⟨hd, hcomma⟩ := List.forall_mem_cons.1 hcomma
    cases directives with
    | nil => exact DocumentLines.splitAt_of_notMem hd
    | cons d' directives =>
      have hjoin : Text.join [','] (d :: d' :: directives) =
          d ++ ',' :: Text.join [','] (d' :: directives) := by simp [Text.join]
      rw [hjoin, DocumentLines.splitAt_append, DocumentLines.splitAt_of_notMem hd,
        ih (List.cons_ne_nil _ _) hcomma]
      rfl

theorem exists_rules (h : ∀ d ∈ directives, IsDirective d) :
    ∃ rules, directives.mapM LogRule.read? = some rules := by
  induction directives with
  | nil => exact ⟨[], rfl⟩
  | cons d directives ih =>
    obtain ⟨hd, h⟩ := List.forall_mem_cons.1 h
    obtain ⟨r, hr⟩ := exists_rule hd
    obtain ⟨rules, hrules⟩ := ih h
    exact ⟨r :: rules, by simp [hr, hrules]⟩

theorem exists_filter (h : IsFilter t) : ∃ f, LogFilter.read? t = some f := by
  obtain ⟨directives, hne, hall, rfl⟩ := h
  obtain ⟨rules, hrules⟩ := exists_rules hall
  have hpieces : LogFilter.pieces (Text.join [','] directives) = directives := by
    rw [LogFilter.pieces, splitAt_join hne fun d hd => (hall d hd).plain.1, List.filter_eq_self]
    intro d hd
    simpa using (hall d hd).plain.2
  exact ⟨.ofRules rules, by rw [LogFilter.read?, hpieces, hrules]; rfl⟩

/-- A filter that the environment sets goes before whatever has been chosen. -/
theorem choose_of_isFilter (h : IsFilter t) (chosen chosen' : Text) :
    LogFilter.choose (some t) chosen = LogFilter.choose (some t) chosen' := by
  obtain ⟨f, hf⟩ := exists_filter h
  simp [LogFilter.choose, hf]

end Filters

section Arguments

def levelArgument (filter : Text) : Text := "--log-level=".toList ++ filter

def formatName : LogFormat → Text
  | .text => "text".toList
  | .json => "json".toList

def formatArgument (format : LogFormat) : Text := "--log-format=".toList ++ formatName format

/-- Two argument lists that differ in the values of log options only. Behind two hyphens alone
there are no options, so from there on the lists are the same. -/
inductive Alike : List Text → List Text → Prop
  | nil : Alike [] []
  | separated (rest : List Text) : Alike (['-', '-'] :: rest) (['-', '-'] :: rest)
  | same {argument : Text} {as bs : List Text} (h : argument ≠ ['-', '-']) :
      Alike as bs → Alike (argument :: as) (argument :: bs)
  | level {f f' : Text} {as bs : List Text} (hf : IsFilter f) (hf' : IsFilter f') :
      Alike as bs → Alike (levelArgument f :: as) (levelArgument f' :: bs)
  | format (x x' : LogFormat) {as bs : List Text} :
      Alike as bs → Alike (formatArgument x :: as) (formatArgument x' :: bs)

end Arguments

section Muting
open Occurrence ArgumentReading

/-- A log form that can be chosen, or else what stands in its place. -/
def mutedFormat (value : Text) : Text :=
  match Choices.format value with
  | .ok _ => "text".toList
  | .error _ => value

/-- An occurrence with the value of a log option forgotten. -/
def mutedOccurrence : Occurrence → Occurrence
  | .option .logLevel (some _) attached => .option .logLevel (some []) attached
  | .option .logFormat (some value) attached =>
    .option .logFormat (some (mutedFormat value)) attached
  | o => o

/-- Choices without what is logged and how. Whether it has been chosen is kept. -/
def mutedChoices (c : Choices) : Choices :=
  { c with logLevel := c.logLevel.map fun _ => [], logFormat := c.logFormat.map fun _ => .text }

def mutedRequest : Request → Request
  | .run c => .run (mutedChoices c)
  | request => request

variable {c c' : Choices} {as bs : List Text}

theorem waits_muted (o : Occurrence) : (mutedOccurrence o).waits = o.waits := by
  unfold mutedOccurrence
  split <;> rfl

theorem notUnderstood_muted (o : Occurrence) :
    Choices.notUnderstood (mutedOccurrence o) = Choices.notUnderstood o := by
  unfold mutedOccurrence
  split <;> rfl

theorem setOption_muted (c : Choices) (o : ValueOption) (value : Text) (attached : Bool) :
    (mutedChoices c).add (mutedOccurrence (.option o (some value) attached)) =
      (c.setOption o value).map mutedChoices := by
  cases o with
  | config =>
    change ((Choices.once .config c.config _).map _) = _
    unfold Choices.setOption
    cases Choices.once .config c.config (Choices.path .config value) <;> rfl
  | output =>
    change ((Choices.once .output c.output _).map _) = _
    unfold Choices.setOption
    cases Choices.once .output c.output (Choices.path .output value) <;> rfl
  | logLevel =>
    obtain ⟨config, output, logLevel, logFormat, printConfig, positionals⟩ := c
    cases logLevel <;> rfl
  | logFormat =>
    obtain ⟨config, output, logLevel, logFormat, printConfig, positionals⟩ := c
    cases logFormat with
    | some x => rfl
    | none =>
      cases hvalue : Choices.format value with
      | ok x =>
        simp [mutedOccurrence, mutedFormat, Choices.add, Choices.setOption, mutedChoices, hvalue,
          Choices.once, Except.map]
        rfl
      | error e =>
        simp [mutedOccurrence, mutedFormat, Choices.add, Choices.setOption, mutedChoices, hvalue,
          Choices.once, Except.map]

/-- Choosing and forgetting what was chosen for the log can be done in either order. -/
theorem add_muted (c : Choices) (o : Occurrence) :
    (mutedChoices c).add (mutedOccurrence o) = (c.add o).map mutedChoices := by
  cases o with
  | option o value attached =>
    cases value with
    | none => cases o <;> rfl
    | some value => exact setOption_muted c o value attached
  | flag f =>
    cases f with
    | printConfig =>
      obtain ⟨config, output, logLevel, logFormat, printConfig, positionals⟩ := c
      cases printConfig <;> rfl
    | help => rfl
    | version => rfl
  | positional values =>
    change (mutedChoices c).addPositionals values = (c.addPositionals values).map mutedChoices
    unfold Choices.addPositionals
    by_cases hempty : [] ∈ (c.positionals ++ values).tail
    · rw [if_pos hempty]
      exact if_pos hempty
    · rw [if_neg hempty]
      exact if_neg hempty
  | unknown argument => rfl
  | unwanted f value => rfl

theorem next_muted (c : Choices) (o : Occurrence) (rest : List Occurrence) :
    (mutedChoices c).next (mutedOccurrence o) (rest.map mutedOccurrence) =
      (c.next o rest).map mutedChoices := by
  have hhead : (rest.map mutedOccurrence).head?.bind Choices.notUnderstood =
      rest.head?.bind Choices.notUnderstood := by
    cases rest with
    | nil => rfl
    | cons o rest => exact notUnderstood_muted o
  unfold Choices.next
  rw [waits_muted, hhead, add_muted]
  split <;> rfl

theorem eq_of_muted_flag {o : Occurrence} {f : Flag} (h : mutedOccurrence o = .flag f) :
    o = .flag f := by
  unfold mutedOccurrence at h
  split at h
  · cases h
  · cases h
  · exact h

theorem settle_muted (c : Choices) (os : List Occurrence) :
    (mutedChoices c).settle (os.map mutedOccurrence) = (c.settle os).map mutedRequest := by
  induction os generalizing c with
  | nil => rfl
  | cons o os ih =>
    by_cases hhelp : o = .flag .help
    · subst hhelp
      rfl
    by_cases hversion : o = .flag .version
    · subst hversion
      rfl
    have hhelp' : mutedOccurrence o ≠ .flag .help := fun h => hhelp (eq_of_muted_flag h)
    have hversion' : mutedOccurrence o ≠ .flag .version := fun h => hversion (eq_of_muted_flag h)
    rw [List.map_cons, settle_cons hhelp' hversion', settle_cons hhelp hversion, next_muted]
    cases c.next o os with
    | error e => rfl
    | ok c => exact ih c

end Muting

section Occurrences
open Occurrence ArgumentReading

variable {as bs : List Text}

theorem prependPositional_muted (value : Text) (os : List Occurrence) :
    (prependPositional value os).map mutedOccurrence =
      prependPositional value (os.map mutedOccurrence) := by
  cases os with
  | nil => rfl
  | cons o os =>
    cases o with
    | option o value attached => cases o <;> cases value <;> rfl
    | _ => rfl

theorem ofArguments_level (f : Text) (as : List Text) :
    ofArguments (levelArgument f :: as) = .option .logLevel (some f) true :: ofArguments as :=
  ofArguments_complete rfl as

theorem ofArguments_format (x : LogFormat) (as : List Text) :
    ofArguments (formatArgument x :: as) =
      .option .logFormat (some (formatName x)) true :: ofArguments as :=
  ofArguments_complete rfl as

theorem isValue_level (f : Text) : isValue (levelArgument f) = false := rfl

theorem isValue_format (x : LogFormat) : isValue (formatArgument x) = false := rfl

/-- What is behind an option that waits for a value begins alike, too, so its value is the same
or there is none. -/
theorem muted_awaiting (h : Alike as bs) (o : ValueOption)
    (hall : (ofArguments as).map mutedOccurrence = (ofArguments bs).map mutedOccurrence)
    (htail : (ofArguments as.tail).map mutedOccurrence = (ofArguments bs.tail).map mutedOccurrence)
    {argument : Text} (ha : readArgument argument = .awaiting o) :
    (ofArguments (argument :: as)).map mutedOccurrence =
      (ofArguments (argument :: bs)).map mutedOccurrence := by
  cases h with
  | nil => rfl
  | separated rest => rfl
  | @same next as bs hne h =>
    cases hnext : isValue next with
    | false =>
      rw [ofArguments_lacking ha hnext, ofArguments_lacking ha hnext, List.map_cons,
        List.map_cons, hall]
    | true =>
      rw [ofArguments_awaiting ha hnext, ofArguments_awaiting ha hnext, List.map_cons,
        List.map_cons]
      exact congrArg _ htail
  | level hf hf' h =>
    rw [ofArguments_lacking ha (isValue_level _), ofArguments_lacking ha (isValue_level _),
      List.map_cons, List.map_cons, hall]
  | format x x' h =>
    rw [ofArguments_lacking ha (isValue_format x), ofArguments_lacking ha (isValue_format x'),
      List.map_cons, List.map_cons, hall]

/-- Alike arguments say the same, and so do the arguments behind the first of them. -/
theorem ofArguments_muted (h : Alike as bs) :
    (ofArguments as).map mutedOccurrence = (ofArguments bs).map mutedOccurrence ∧
      (ofArguments as.tail).map mutedOccurrence = (ofArguments bs.tail).map mutedOccurrence := by
  induction h with
  | nil => exact ⟨rfl, rfl⟩
  | separated rest => exact ⟨rfl, rfl⟩
  | @same argument as bs hne h ih =>
    refine ⟨?_, ih.1⟩
    cases ha : readArgument argument with
    | separator => exact absurd (eq_of_readArgument ha) hne
    | value =>
      rw [ofArguments_value ha, ofArguments_value ha, prependPositional_muted,
        prependPositional_muted, ih.1]
    | complete o =>
      rw [ofArguments_complete ha, ofArguments_complete ha, List.map_cons, List.map_cons, ih.1]
    | awaiting o => exact muted_awaiting h o ih.1 ih.2 ha
  | level hf hf' h ih =>
    refine ⟨?_, ih.1⟩
    rw [ofArguments_level, ofArguments_level, List.map_cons, List.map_cons, ih.1]
    rfl
  | format x x' h ih =>
    refine ⟨?_, ih.1⟩
    rw [ofArguments_format, ofArguments_format, List.map_cons, List.map_cons, ih.1]
    cases x <;> cases x' <;> rfl

theorem request_muted (h : Alike as bs) :
    (Request.ofArguments as).map mutedRequest = (Request.ofArguments bs).map mutedRequest := by
  unfold Request.ofArguments
  rw [← settle_muted, ← settle_muted, (ofArguments_muted h).1]

end Occurrences

section Runs

variable {c c' : Choices} {as bs : List Text} {environment environment' : Option Text}

/-- A run without its log: its outcome and the tree are the same whatever is logged, and so are
the events of which some are logged. -/
theorem exists_run (h : mutedChoices c = mutedChoices c') (files : FileTree) (d : Diagnosis) :
    ∃ (events : List LogEvent) (outcome : Outcome) (after : FileTree),
      (∀ environment, c.run d environment files =
        ({ outcome with log := c.logLines environment events }, after)) ∧
      ∀ environment, c'.run d environment files =
        ({ outcome with log := c'.logLines environment events }, after) := by
  have hprepare : c'.prepare d files.sources = c.prepare d files.sources := by
    change (mutedChoices c').prepare d files.sources = (mutedChoices c).prepare d files.sources
    rw [h]
  unfold Choices.run
  rw [hprepare]
  rcases c.prepare d files.sources with ⟨events, f | text | ⟨path, text⟩⟩
  · exact ⟨events, .ofResult d [] (.error f), files, fun _ => rfl, fun _ => rfl⟩
  · exact ⟨events, .ofResult d [] (.ok text), files, fun _ => rfl, fun _ => rfl⟩
  · cases hwrite : files.write path text.bytes with
    | error e =>
      refine ⟨events, .ofResult d [] (.error (.writing path e)), files, ?_, ?_⟩ <;>
        exact fun _ => by simp only [hwrite]; rfl
    | ok after =>
      refine ⟨events ++ [writtenEvent path], .ofResult d [] (.ok []), after, ?_, ?_⟩ <;>
        exact fun _ => by simp only [hwrite]; rfl

/-- The form of the log that the arguments choose, or the usual one. -/
def chosenFormat (arguments : List Text) : LogFormat :=
  match Request.ofArguments arguments with
  | .ok (.run c) => c.logFormat.getD .text
  | _ => .text

theorem logLines_of_set {t : Text} (h : IsFilter t)
    (hformat : c.logFormat.getD .text = c'.logFormat.getD .text) (events : List LogEvent) :
    c.logLines (some t) events = c'.logLines (some t) events := by
  unfold Choices.logLines Choices.filter
  rw [hformat, choose_of_isFilter h (c.logLevel.getD _) (c'.logLevel.getD _)]

/-- Alike arguments ask for the same thing, or for runs that differ in the log only. -/
theorem request_cases (h : Alike as bs) :
    (Request.ofArguments as = Request.ofArguments bs ∧
        ∀ c, Request.ofArguments as ≠ .ok (.run c)) ∨
      ∃ c c', Request.ofArguments as = .ok (.run c) ∧ Request.ofArguments bs = .ok (.run c') ∧
        mutedChoices c = mutedChoices c' := by
  have hmuted := request_muted h
  rcases ha : Request.ofArguments as with e | (_ | _ | c) <;>
    rcases hb : Request.ofArguments bs with e' | (_ | _ | c') <;>
      simp [ha, hb, Except.map, mutedRequest] at hmuted ⊢ <;> exact hmuted

/-- Two commands whose arguments differ in the values of log options only leave the same
behind, whatever filters their environments set: the code, what is printed, the report behind
the log, and the files. When both environments set the same filter and the log has the same
form, the log is the same, too. -/
theorem logging_independent (h : Alike as bs) (files : FileTree) (d : Diagnosis) :
    (∀ environment environment',
      (runCommand as environment files d).1.code =
        (runCommand bs environment' files d).1.code ∧
      (runCommand as environment files d).1.stdout =
        (runCommand bs environment' files d).1.stdout ∧
      (runCommand as environment files d).1.stderr =
        (runCommand bs environment' files d).1.stderr ∧
      (runCommand as environment files d).2 = (runCommand bs environment' files d).2) ∧
    ∀ t, IsFilter t → chosenFormat as = chosenFormat bs →
      runCommand as (some t) files d = runCommand bs (some t) files d := by
  unfold runCommand chosenFormat
  rcases request_cases h with ⟨hsame, hno⟩ | ⟨c, c', hc, hc', hmuted⟩
  · rw [hsame] at hno ⊢
    cases hb : Request.ofArguments bs with
    | error e => simp
    | ok request =>
      cases request with
      | run c => exact absurd hb (hno c)
      | _ => simp
  · obtain ⟨events, outcome, after, hrun, hrun'⟩ := exists_run hmuted files d
    simp only [hc, hc', hrun, hrun', and_self, implies_true, true_and]
    intro t ht hformat
    rw [logLines_of_set ht hformat]

/-- A file with one function. -/
def oneFile : FileTree where
  entries := [(["a.go".toList], .file (Text.bytes "package p\nfunc F() \x7b\x7d\n".toList))]

def quietArguments : List Text :=
  [levelArgument "error".toList, "S".toList, "a.go".toList]

def loudArguments : List Text :=
  [levelArgument "debug,protogen=TRACE".toList, "S".toList, "a.go".toList]

theorem logging_independent_levels :
    Alike quietArguments loudArguments ∧ IsFilter "protogen=trace,info".toList ∧
      chosenFormat quietArguments = chosenFormat loudArguments ∧
      (runCommand quietArguments none oneFile).1.log ≠
        (runCommand loudArguments none oneFile).1.log ∧
      (runCommand quietArguments none oneFile).1.stdout =
        (runCommand loudArguments none oneFile).1.stdout ∧
      runCommand quietArguments (some "protogen=trace,info".toList) oneFile =
        runCommand loudArguments (some "protogen=trace,info".toList) oneFile := by
  have hinfo : IsDirective "info".toList := .level (by unfold IsLevelName; decide)
  have htrace {t : Text} (h : t.map Char.toUpper = "TRACE".toList) :
      IsDirective ("protogen".toList ++ '=' :: t) :=
    .target (by decide) (by decide) (by decide) (by unfold IsLevelName; rw [h]; decide)
  have hset : IsFilter "protogen=trace,info".toList :=
    ⟨["protogen=trace".toList, "info".toList], by decide,
      List.forall_mem_cons.2 ⟨htrace (by decide), List.forall_mem_singleton.2 hinfo⟩, rfl⟩
  have hquiet : IsFilter "error".toList :=
    ⟨["error".toList], by decide,
      List.forall_mem_singleton.2 (.level (by unfold IsLevelName; decide)), rfl⟩
  have hloud : IsFilter "debug,protogen=TRACE".toList :=
    ⟨["debug".toList, "protogen=TRACE".toList], by decide,
      List.forall_mem_cons.2 ⟨.level (by unfold IsLevelName; decide),
        List.forall_mem_singleton.2 (htrace (by decide))⟩, rfl⟩
  have halike : Alike quietArguments loudArguments :=
    .level hquiet hloud (.same (by decide) (.same (by decide) .nil))
  have hformat : chosenFormat quietArguments = chosenFormat loudArguments := by decide +kernel
  obtain ⟨hproduct, hlog⟩ := logging_independent halike oneFile .whole
  exact ⟨halike, hset, hformat, by decide +kernel, (hproduct none none).2.1,
    hlog _ hset hformat⟩

end Runs

end RpcSchema.LogIndependence
