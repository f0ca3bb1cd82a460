import RpcSchema.Proofs.FaultReports
import RpcSchema.Proofs.FileWriting
import RpcSchema.Proofs.FirstRefusal

/-! # How a run ends

A run ends with the report on the first of its faults and leaves everything as it was, or it
has none and delivers what it was asked for, once: a printed text or one written file. -/
namespace RpcSchema.RunOutcome
open FaultReports

section Endings

variable (d : Diagnosis) (c : Choices) (files : FileTree)

/-- The configuration of a run: what is loaded from the file that it names, if it does. -/
inductive Configured : Configuration → Prop
  | standard (hconfig : c.config = none) : Configured .standard
  | loaded {path : Text} {configuration : Configuration} (hconfig : c.config = some path)
      (hload : Configuration.load files.sources path = .ok configuration) :
      Configured configuration

/-- The document of the service and the files that a run names. -/
inductive Generated : Text → Prop
  | document {service document : Text} {configuration : Configuration}
      (hservice : c.service = some service) (hfiles : c.files ≠ [])
      (hconfigured : Configured c files configuration)
      (hdocument : (generate files.sources service c.files configuration.naming
        d.recovery).document = .ok document) :
      Generated document

/-- What is printed without a fault, and the tree afterwards. -/
inductive Delivered : Text → FileTree → Prop
  | configuration {configuration : Configuration} (hprint : c.printConfig = true)
      (hconfigured : Configured c files configuration) :
      Delivered (configuration.text ++ ['\n']) files
  | printed {document : Text} (hprint : c.printConfig = false) (houtput : c.output = none)
      (hgenerated : Generated d c files document) : Delivered (document ++ ['\n']) files
  | saved {document path : Text} {after : FileTree} (hprint : c.printConfig = false)
      (houtput : c.output = some path) (hgenerated : Generated d c files document)
      (hwrote : files.Wrote after path (document ++ ['\n']).bytes) : Delivered [] after

/-- What is wrong with a run, each fault told by itself. Whether the files hold a type that
cannot be sent does not depend on the naming of results, and the service is only quoted. -/
inductive Fault : Failure → Prop
  | configuration {path : Text} {e : ConfigurationError} (hconfig : c.config = some path)
      (hload : Configuration.load files.sources path = .error e) : Fault (.configuration e)
  | service (hprint : c.printConfig = false) (hservice : c.service = none) :
      Fault (.missing .service)
  | files (hprint : c.printConfig = false) (hfiles : c.files = []) : Fault (.missing .files)
  | generation {service : Text} {naming : ReplyNaming} {e : UnsupportedType}
      (hprint : c.printConfig = false) (hservice : ∀ own, c.service = some own → service = own)
      (hdocument : (generate files.sources service c.files naming
        d.recovery).document = .error e) :
      Fault (.generation service e)
  | writing {path : Text} {e : AccessError} (hprint : c.printConfig = false)
      (houtput : c.output = some path) (htarget : files.target path = .error e) :
      Fault (.writing path e)

/-- The two ends of a run. -/
inductive Ends : Outcome → FileTree → Prop
  | delivered {log : List Text} {stdout : Text} {after : FileTree}
      (hnone : ∀ f, ¬Fault d c files f)
      (hdelivered : Delivered d c files stdout after) : Ends ⟨0, stdout, log, []⟩ after
  | failed {log : List Text} {f : Failure} {report : Text} (hfault : Fault d c files f)
      (hfirst : ∀ g, Fault d c files g → rank f ≤ rank g)
      (hreport : Reported d f report) : Ends ⟨1, [], log, report⟩ files

/-- No fault before some rank. -/
def Clear (n : Nat) : Prop := ∀ f, Fault d c files f → n ≤ rank f

end Endings

variable {d : Diagnosis} {c : Choices} {files : FileTree} {configuration : Configuration}
  {service : Text}

theorem Clear.succ {n : Nat} (h : Clear d c files n)
    (hn : ∀ f, Fault d c files f → rank f ≠ n) : Clear d c files (n + 1) :=
  fun f hf => Nat.lt_of_le_of_ne (h f hf) (hn f hf).symm

theorem Clear.no_fault (h : Clear d c files 5) (f : Failure) : ¬Fault d c files f := by
  intro hf
  have hle := h f hf
  have hlt := rank_lt f
  omega

theorem configured_of_ok (h : c.configuration files.sources = .ok configuration) :
    Configured c files configuration := by
  unfold Choices.configuration at h
  cases hconfig : c.config with
  | none =>
    simp only [hconfig, Except.ok.injEq] at h
    exact h ▸ .standard hconfig
  | some path => exact .loaded hconfig (by simpa [hconfig] using h)

theorem fault_of_error {e : ConfigurationError}
    (h : c.configuration files.sources = .error e) : Fault d c files (.configuration e) := by
  unfold Choices.configuration at h
  cases hconfig : c.config with
  | none => simp [hconfig] at h
  | some path => exact .configuration hconfig (by simpa [hconfig] using h)

section Stages

theorem clear_configuration (h : c.configuration files.sources = .ok configuration) :
    Clear d c files 1 := by
  refine Clear.succ (fun f _ => Nat.zero_le _) fun f hf hrank => ?_
  cases hf with
  | configuration hconfig hload => simp [Choices.configuration, hconfig, hload] at h
  | _ => simp [rank] at hrank

/-- Nothing but the configuration matters to a run that only prints it. -/
theorem clear_printConfig (h : Clear d c files 1) (hprint : c.printConfig = true) :
    Clear d c files 5 := by
  intro f hf
  have hrank := h f hf
  cases hf with
  | configuration => simp [rank] at hrank
  | service hp => simp [hp] at hprint
  | files hp => simp [hp] at hprint
  | generation hp => simp [hp] at hprint
  | writing hp => simp [hp] at hprint

theorem clear_service (h : Clear d c files 1) (hservice : c.service = some service) :
    Clear d c files 2 := by
  refine h.succ fun f hf hrank => ?_
  cases hf with
  | service _ hnone => simp [hnone] at hservice
  | _ => simp [rank] at hrank

theorem clear_files (h : Clear d c files 2) (hfiles : c.files ≠ []) : Clear d c files 3 := by
  refine h.succ fun f hf hrank => ?_
  cases hf with
  | files _ hnil => exact hfiles hnil
  | _ => simp [rank] at hrank

/-- A document for some service and naming is one for all of them. -/
theorem clear_generation {naming : ReplyNaming} {document : Text} (h : Clear d c files 3)
    (hdocument : (generate files.sources service c.files naming d.recovery).document =
      .ok document) :
    Clear d c files 4 := by
  refine h.succ fun f hf hrank => ?_
  cases hf with
  | generation _ _ herror =>
    -- neither the name of the service nor the naming of results matters to a refusal
    have hrefusal := FirstRefusal.render_error_iff.1 herror
    cases hdocument.symm.trans (FirstRefusal.render_error_iff.2 hrefusal)
  | _ => simp [rank] at hrank

theorem clear_writing (h : Clear d c files 4)
    (htarget : ∀ path, c.output = some path → ∃ place, files.target path = .ok place) :
    Clear d c files 5 := by
  refine h.succ fun f hf hrank => ?_
  cases hf with
  | writing _ houtput herror =>
    obtain ⟨place, hplace⟩ := htarget _ houtput
    simp [hplace] at herror
  | _ => simp [rank] at hrank

end Stages

section Runs

variable (environment : Option Text)

theorem ends_of_error {f : Failure} (hprepare : (c.prepare d files.sources).2 = .error f)
    (hfault : Fault d c files f) (hclear : Clear d c files (rank f)) :
    Ends d c files (c.run d environment files).1 (c.run d environment files).2 := by
  have hrun : c.run d environment files =
      (.ofResult d (c.logLines environment (c.prepare d files.sources).1) (.error f), files) := by
    unfold Choices.run
    rw [show c.prepare d files.sources = ((c.prepare d files.sources).1, .error f) from
      Prod.ext rfl hprepare]
  rw [hrun]
  exact .failed hfault hclear (reported_report d f)

theorem ends_of_printed {text : Text}
    (hprepare : (c.prepare d files.sources).2 = .ok (.printed text)) (hclear : Clear d c files 5)
    (hdelivered : Delivered d c files text files) :
    Ends d c files (c.run d environment files).1 (c.run d environment files).2 := by
  have hrun : c.run d environment files =
      (.ofResult d (c.logLines environment (c.prepare d files.sources).1) (.ok text), files) := by
    unfold Choices.run
    rw [show c.prepare d files.sources = ((c.prepare d files.sources).1, .ok (.printed text)) from
      Prod.ext rfl hprepare]
  rw [hrun]
  exact .delivered hclear.no_fault hdelivered

theorem ends_of_saved {path document : Text}
    (hprepare : (c.prepare d files.sources).2 = .ok (.saved path (document ++ ['\n'])))
    (hclear : Clear d c files 4) (hprint : c.printConfig = false) (houtput : c.output = some path)
    (hgenerated : Generated d c files document) :
    Ends d c files (c.run d environment files).1 (c.run d environment files).2 := by
  unfold Choices.run
  rw [show c.prepare d files.sources =
    ((c.prepare d files.sources).1, .ok (.saved path (document ++ ['\n']))) from
      Prod.ext rfl hprepare]
  cases hwrite : files.write path (document ++ ['\n']).bytes with
  | error e =>
    have htarget : files.target path = .error e := by
      unfold FileTree.write at hwrite
      cases ht : files.target path with
      | error e' => simpa [ht, Except.map] using hwrite
      | ok place => simp [ht, Except.map] at hwrite
    simp only [hwrite]
    exact .failed (.writing hprint houtput htarget) hclear (reported_report d _)
  | ok after =>
    have hwrote := FileTree.write_ok hwrite
    obtain ⟨place, htarget, -⟩ := hwrote.others
    have hall : ∀ other, c.output = some other → ∃ place, files.target other = .ok place := by
      intro other hother
      obtain rfl := Option.some.inj (houtput.symm.trans hother)
      exact ⟨place, htarget⟩
    simp only [hwrite]
    exact .delivered (clear_writing hclear hall).no_fault
      (.saved hprint houtput hgenerated hwrote)

/-- A run that has its arguments together. -/
theorem ends_document (hclear : Clear d c files 3)
    (hconfiguration : c.configuration files.sources = .ok configuration)
    (hprint : c.printConfig = false) (hservice : c.service = some service)
    (hfiles : c.files ≠ []) :
    Ends d c files (c.run d environment files).1 (c.run d environment files).2 := by
  have hprepare : c.prepare d files.sources = c.document d files.sources configuration service := by
    simp [Choices.prepare, hconfiguration, hprint, hservice, hfiles]
  cases hdocument : (generate files.sources service c.files configuration.naming
      d.recovery).document with
  | error e =>
    have hfault : Fault d c files (.generation service e) :=
      .generation hprint (fun own hown => Option.some.inj (hservice.symm.trans hown)) hdocument
    exact ends_of_error environment (by simp [hprepare, Choices.document, hdocument]) hfault
      hclear
  | ok document =>
    have hclear := clear_generation hclear hdocument
    have hgenerated : Generated d c files document :=
      .document hservice hfiles (configured_of_ok hconfiguration) hdocument
    have hdeliver : (c.prepare d files.sources).2 = .ok (c.deliver document) := by
      simp [hprepare, Choices.document, hdocument]
    cases houtput : c.output with
    | none =>
      have hnone : Clear d c files 5 := clear_writing hclear (by simp [houtput])
      refine ends_of_printed environment ?_ hnone (.printed hprint houtput hgenerated)
      simp [hdeliver, Choices.deliver, houtput]
    | some path =>
      refine ends_of_saved environment ?_ hclear hprint houtput hgenerated
      simp [hdeliver, Choices.deliver, houtput]

theorem run_ends : Ends d c files (c.run d environment files).1 (c.run d environment files).2 := by
  cases hconfiguration : c.configuration files.sources with
  | error e =>
    refine ends_of_error environment ?_ (fault_of_error hconfiguration) fun f _ => Nat.zero_le _
    simp [Choices.prepare, hconfiguration]
  | ok configuration =>
    have hclear : Clear d c files 1 := clear_configuration hconfiguration
    cases hprint : c.printConfig with
    | true =>
      refine ends_of_printed environment ?_ (clear_printConfig hclear hprint)
        (.configuration hprint (configured_of_ok hconfiguration))
      simp [Choices.prepare, hconfiguration, hprint]
    | false =>
      cases hservice : c.service with
      | none =>
        refine ends_of_error environment ?_ (.service hprint hservice) hclear
        simp [Choices.prepare, hconfiguration, hprint, hservice]
      | some service =>
        have hclear := clear_service hclear hservice
        by_cases hfiles : c.files = []
        · refine ends_of_error environment ?_ (.files hprint hfiles) hclear
          simp [Choices.prepare, hconfiguration, hprint, hservice, hfiles]
        · exact ends_document environment (clear_files hclear hfiles) hconfiguration hprint
            hservice hfiles

end Runs

theorem Ends.of_failure {o : Outcome} {after : FileTree} (h : Ends d c files o after)
    (hcode : o.code ≠ 0) : o.stdout = [] ∧ after = files := by
  cases h with
  | delivered => simp at hcode
  | failed => exact ⟨rfl, rfl⟩

theorem Ends.of_success {o : Outcome} {after : FileTree} (h : Ends d c files o after)
    (hcode : o.code = 0) : Delivered d c files o.stdout after := by
  cases h with
  | delivered _ hdelivered => exact hdelivered
  | failed => simp at hcode

/-- A command that fails prints nothing but its report and leaves all files as they are.
One that succeeds tells about itself or delivers what was asked for. A run fails just if
something is wrong with it, with a report on the first of its faults, and no report fits faults
of different rank. -/
theorem command_settled (arguments : List Text) (environment : Option Text) (files : FileTree)
    (d : Diagnosis) :
    ((runCommand arguments environment files d).1.code ≠ 0 →
      (runCommand arguments environment files d).1.stdout = [] ∧
        (runCommand arguments environment files d).2 = files) ∧
    ((runCommand arguments environment files d).1.code = 0 →
      Request.ofArguments arguments = .ok .help ∨ Request.ofArguments arguments = .ok .version ∨
        ∃ c, Request.ofArguments arguments = .ok (.run c) ∧
          Delivered d c files (runCommand arguments environment files d).1.stdout
            (runCommand arguments environment files d).2) ∧
    (∀ c, Request.ofArguments arguments = .ok (.run c) →
      Ends d c files (runCommand arguments environment files d).1
        (runCommand arguments environment files d).2) ∧
    ∀ f g report, Reported d f report → Reported d g report → rank f = rank g := by
  have hkinds : ∀ f g report, Reported d f report → Reported d g report → rank f = rank g :=
    fun _ _ _ => rank_eq_of_reported
  unfold runCommand
  cases hrequest : Request.ofArguments arguments with
  | error e => exact ⟨fun _ => ⟨rfl, rfl⟩, nofun, nofun, hkinds⟩
  | ok request =>
    cases request with
    | help => exact ⟨fun hcode => absurd rfl hcode, fun _ => .inl rfl, nofun, hkinds⟩
    | version =>
      exact ⟨fun hcode => absurd rfl hcode, fun _ => .inr (.inl rfl), nofun, hkinds⟩
    | run c =>
      have hends : Ends d c files (c.run d environment files).1 (c.run d environment files).2 :=
        run_ends environment
      refine ⟨hends.of_failure, fun hcode => ?_, ?_, hkinds⟩
      · exact .inr (.inr ⟨c, rfl, hends.of_success hcode⟩)
      · rintro _ ⟨⟩
        exact hends

end RpcSchema.RunOutcome
