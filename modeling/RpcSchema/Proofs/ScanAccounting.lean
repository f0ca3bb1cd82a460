import RpcSchema.Proofs.FaultReports
import Mathlib.Algebra.GroupWithZero.Nat
import Mathlib.Data.List.Forall2

/-! # What a scan tells and what it delivers

Every path has one report: an event, and the functions that its file adds. The events of a
scan, the counts of its summary and the methods of its document all follow from these
reports. -/
namespace RpcSchema.ScanAccounting
open DocumentReferences DocumentLines FaultReports

section Filters

variable {filter : LogFilter}

/-- An event is admitted with any other of the same target that has no less detail. -/
theorem admits_of_detail_le {e e' : LogEvent} (htarget : e.target = e'.target)
    (hdetail : e.level.detail ≤ e'.level.detail) (h : filter.admits e' = true) :
    filter.admits e = true := by
  have hcovers : filter.filter (·.covers e) = filter.filter (·.covers e') := by
    simp [LogRule.covers, htarget]
  unfold LogFilter.admits at h ⊢
  rw [hcovers]
  cases hrules : filter.filter (·.covers e') with
  | nil => simp [hrules] at h
  | cons rule rules =>
    simp only [hrules, LogRule.admits] at h ⊢
    cases hlevel : (rules.foldl LogRule.stronger rule).upTo with
    | none => simp [hlevel] at h
    | some level =>
      simp only [hlevel, decide_eq_true_eq] at h ⊢
      omega

/-- The filter admits the program's events of some level, whatever part they come from. -/
def LetsThrough (filter : LogFilter) (level : LogLevel) : Prop :=
  ∀ part message, filter.admits ⟨level, "protogen::".toList ++ part, message⟩ = true

theorem LetsThrough.admits {level : LogLevel} (h : LetsThrough filter level) {e : LogEvent}
    (htarget : "protogen::".toList <+: e.target) (hdetail : e.level.detail ≤ level.detail) :
    filter.admits e = true := by
  obtain ⟨part, hpart⟩ := htarget
  exact admits_of_detail_le hpart.symm hdetail (h part e.message)

theorem letsThrough_everywhere (level : LogLevel) : LetsThrough [⟨[], some level⟩] level := by
  intro part message
  simp [LogFilter.admits, LogRule.covers, LogRule.admits]

end Filters

/-- What comes of one path. -/
structure Report where
  event : LogEvent
  functions : List Signature

def scannerEvent (message : Text) : LogEvent := ⟨.debug, "protogen::scanner".toList, message⟩

/-- The functions of a file are counted, or the reason to skip it is told. -/
inductive Reports (recovery : Recovery) (sources : Sources) (path : Text) : Report → Prop
  | counted {functions : List Signature} (h : scanFile sources path = .ok functions) :
      Reports recovery sources path
        ⟨scannerEvent (path ++ ": ".toList ++ Text.ofNat functions.length ++
          " function(s)".toList), functions⟩
  | skipped {e : ScanError} {reason : Text} (h : scanFile sources path = .error e)
      (hreason : SkipReason recovery sources path reason) :
      Reports recovery sources path
        ⟨scannerEvent ("Skipping ".toList ++ path ++ ": ".toList ++ reason), []⟩

def summaryEvent (service : Text) (functions files : Nat) : LogEvent :=
  ⟨.info, "protogen::pipeline".toList, Text.ofNat functions ++ " function(s) from ".toList ++
    Text.ofNat files ++ " file(s) into service ".toList ++ service⟩

variable {recovery : Recovery} {sources : Sources}

theorem exists_report (recovery : Recovery) (sources : Sources) (path : Text) :
    ∃ r, Reports recovery sources path r ∧
      Generation.fileEvent recovery sources path = r.event ∧
      contribution sources path = r.functions := by
  cases h : scanFile sources path with
  | ok functions =>
    exact ⟨_, .counted h, by simp [Generation.fileEvent, h, scannerEvent],
      by simp [contribution, h]⟩
  | error e =>
    exact ⟨_, .skipped h (skipReason_message h), by simp [Generation.fileEvent, h, scannerEvent],
      by simp [contribution, h]⟩

theorem exists_reports (recovery : Recovery) (sources : Sources) (paths : List Text) :
    ∃ reports, List.Forall₂ (Reports recovery sources) paths reports ∧
      paths.map (Generation.fileEvent recovery sources) = reports.map Report.event ∧
      scan sources paths = reports.flatMap Report.functions := by
  induction paths with
  | nil => exact ⟨[], .nil, rfl, rfl⟩
  | cons path paths ih =>
    obtain ⟨r, hr, hevent, hfunctions⟩ := exists_report recovery sources path
    obtain ⟨reports, hreports, hevents, hscan⟩ := ih
    refine ⟨r :: reports, .cons hr hreports, by simp [hevent, hevents], ?_⟩
    unfold scan at hscan ⊢
    simp [hfunctions, hscan]

theorem scannerEvent_target {reports : List Report} {paths : List Text}
    (h : List.Forall₂ (Reports recovery sources) paths reports) :
    ∀ e ∈ reports.map Report.event, ∃ message, e = scannerEvent message := by
  induction h with
  | nil => simp
  | cons hr _ ih =>
    rw [List.map_cons]
    refine List.forall_mem_cons.2 ⟨?_, ih⟩
    cases hr with
    | counted => exact ⟨_, rfl⟩
    | skipped => exact ⟨_, rfl⟩

/-- A filter for details lets the report on each file and the summary through. -/
theorem filter_events {filter : LogFilter} (hfilter : LetsThrough filter .debug)
    {paths : List Text} {reports : List Report}
    (h : List.Forall₂ (Reports recovery sources) paths reports) (service : Text)
    (functions files : Nat) :
    (reports.map Report.event ++ [summaryEvent service functions files]).filter filter.admits =
      reports.map Report.event ++ [summaryEvent service functions files] := by
  rw [List.filter_eq_self]
  intro e he
  rcases List.mem_append.1 he with he | he
  · obtain ⟨message, rfl⟩ := scannerEvent_target h e he
    exact hfilter.admits ⟨"scanner".toList, rfl⟩ (Nat.le_refl _)
  · obtain rfl := List.mem_singleton.1 he
    have hdetail : LogLevel.info.detail ≤ LogLevel.debug.detail := by decide
    exact hfilter.admits ⟨"pipeline".toList, rfl⟩ hdetail

theorem hasPlainNames_of_mem_scan {paths : List Text} {s : Signature}
    (h : s ∈ scan sources paths) : PlainNames.HasPlainNames s := by
  obtain ⟨path, -, hs⟩ := List.mem_flatMap.1 h
  unfold contribution scanFile at hs
  cases hsource : sources path with
  | error e => simp [hsource] at hs
  | ok source =>
    cases hread : signaturesOf source with
    | error e => simp [hsource, hread, Except.mapError] at hs
    | ok signatures =>
      simp only [hsource, hread, Except.mapError] at hs
      exact QuotedSource.hasPlainNames_of_signaturesOf hread s hs

/-- The file at a path can be read and has a list of functions. -/
def scannable (sources : Sources) (path : Text) : Bool := (scanFile sources path).isOk

/-- A file that fails adds nothing. -/
theorem scan_filter_scannable (sources : Sources) (paths : List Text) :
    scan sources (paths.filter (scannable sources)) = scan sources paths := by
  induction paths with
  | nil => rfl
  | cons path paths ih =>
    unfold scan at ih ⊢
    cases h : scanFile sources path with
    | ok functions => simp [scannable, h, Except.isOk, Except.toBool, ih]
    | error reason => simp [scannable, h, Except.isOk, Except.toBool, ih, contribution]

/-- A run over some paths accounts for each of them: under a filter that lets details
through, one event for each path and then the summary of their counts; in the document, one
method line for each function of the files, behind those that the name of the service brings
along. Paths that fail make no difference to the document. -/
theorem scan_accounted (sources : Sources) (service : Text) (paths : List Text)
    (naming : ReplyNaming) (recovery : Recovery) {filter : LogFilter}
    (hfilter : LetsThrough filter .debug) :
    ∃ reports, List.Forall₂ (Reports recovery sources) paths reports ∧
      (generate sources service paths naming recovery).events.filter filter.admits =
        reports.map Report.event ++
          [summaryEvent service (reports.map fun r => r.functions.length).sum paths.length] ∧
      (∀ document, (generate sources service paths naming recovery).document = .ok document →
        methodLines document =
            nameLines service ++ (reports.flatMap Report.functions).map methodLine ∧
          ((methodLines document).length = (reports.map fun r => r.functions.length).sum ↔
            nameLines service = []) ∧
          ('\n' ∉ service → nameLines service = [])) ∧
      ∀ others, paths.filter (scannable sources) = others.filter (scannable sources) →
        (generate sources service paths naming recovery).document =
          (generate sources service others naming recovery).document := by
  obtain ⟨reports, hreports, hevents, hscan⟩ := exists_reports recovery sources paths
  have hcount : (scan sources paths).length = (reports.map fun r => r.functions.length).sum := by
    rw [hscan, List.length_flatMap]
  refine ⟨reports, hreports, ?_, fun document hdocument => ?_, fun others hothers => ?_⟩
  · rw [← hcount, ← filter_events hfilter hreports, ← hevents]
    rfl
  · have hplain : ∀ s ∈ scan sources paths, PlainNames.HasPlainNames s :=
      fun s hs => hasPlainNames_of_mem_scan hs
    have hlines := methodLines_render hplain hdocument
    refine ⟨hscan ▸ hlines, ?_, nameLines_eq_nil⟩
    rw [hlines, List.length_append, List.length_map, hcount, Nat.add_eq_right,
      List.length_eq_zero_iff]
  · have hsame : scan sources paths = scan sources others := by
      rw [← scan_filter_scannable, hothers, scan_filter_scannable]
    simp only [generate, hsame]

/-- A file with a function, a file that is no text, one that is no source, and a directory. -/
def mixedTree : FileTree where
  entries := [(["a.go".toList], .file (Text.bytes "package p\nfunc F() \x7b\x7d\n".toList)),
    (["b.go".toList], .file ⟨#[0xff]⟩), (["c.go".toList], .file (Text.bytes "func".toList)),
    (["d".toList], .directory)]

def mixedPaths : List Text :=
  ["a.go".toList, "b.go".toList, "c.go".toList, "d".toList, "e.go".toList, "a.go".toList]

def mixedDocument : Text :=
  opening "S".toList ++ (List.replicate 2 (methodLine ⟨"F".toList, [], []⟩ ++ ['\n'])).flatten ++
    ['\x7d']

theorem scan_accounted_mixed :
    LetsThrough [⟨[], some .debug⟩] .debug ∧
      ∃ reports, List.Forall₂ (Reports .whole mixedTree.sources) mixedPaths reports ∧
        (generate mixedTree.sources "S".toList mixedPaths .shared .whole).events.filter
            (LogFilter.admits [⟨[], some .debug⟩]) =
          reports.map Report.event ++ [summaryEvent "S".toList 2 6] ∧
        (generate mixedTree.sources "S".toList mixedPaths .shared .whole).document =
          .ok mixedDocument ∧
        (generate mixedTree.sources "S".toList ["a.go".toList, "a.go".toList] .shared
          .whole).document = .ok mixedDocument := by
  have hfilter := letsThrough_everywhere .debug
  have hdocument : (generate mixedTree.sources "S".toList mixedPaths .shared .whole).document =
    .ok mixedDocument := by decide +kernel
  obtain ⟨reports, hreports, hevents, hlines, hsame⟩ :=
    scan_accounted mixedTree.sources "S".toList mixedPaths .shared .whole hfilter
  obtain ⟨-, hcount, hname⟩ := hlines _ hdocument
  have hsum : (reports.map fun r => r.functions.length).sum = 2 := by
    rw [← hcount.2 (hname (by decide))]
    decide +kernel
  have htwice := hsame ["a.go".toList, "a.go".toList] (by decide +kernel)
  exact ⟨hfilter, reports, hreports, hsum ▸ hevents, hdocument, htwice ▸ hdocument⟩

/-- A name that goes on with a method and another service. -/
def severalLines : Text :=
  "A \x7b\n\t rpc X(google.protobuf.Empty) ".toList ++
    "returns (google.protobuf.Empty) \x7b\x7d\n\x7d\n\nservice B".toList

def severalDocument : Text :=
  opening severalLines ++ methodLine ⟨"F".toList, [], []⟩ ++ ['\n', '\x7d']

/-- The summary counts one function, and the document has two method lines. -/
theorem method_in_service_name :
    summaryEvent severalLines 1 1 ∈
        (generate mixedTree.sources severalLines ["a.go".toList] .shared .whole).events ∧
      (generate mixedTree.sources severalLines ["a.go".toList] .shared .whole).document =
        .ok severalDocument ∧
      (scan mixedTree.sources ["a.go".toList]).length = 1 ∧
      (methodLines severalDocument).length = 2 := by
  decide +kernel

end RpcSchema.ScanAccounting
