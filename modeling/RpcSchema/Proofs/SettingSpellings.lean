import RpcSchema.Configuration
import RpcSchema.Proofs.TomlBuilding

/-! # Spellings of the setting

The one setting of the configuration can be written under a header, with a dotted key, between
braces or in a list. It is read alike each time, whatever other settings, comments and tables
stand around it. -/
namespace RpcSchema.SettingSpellings
open Toml PrintedToml TomlReading TomlLines TomlBuilding

section Documents

def namingKey : BareKey := ⟨"naming".toList, by decide, by decide⟩

def settingKey : BareKey := ⟨"unique_result_names".toList, by decide, by decide⟩

/-- How the setting is written. -/
inductive Spelling where
  /-- Under a header, behind some lines of the section. -/
  | header (inside : List PrintedLine)
  | dotted
  | braces
  | list

namespace Spelling

/-- The line that gives the setting a value. -/
def line (v : Value) : Spelling → PrintedLine
  | header _ => .entry settingKey (.scalar v)
  | dotted => .dotted namingKey settingKey (.scalar v)
  | braces => .entry namingKey (.braces settingKey v)
  | list => .entry namingKey (.list v)

/-- The name that the line sets. -/
def name : Spelling → Text
  | header _ => settingKey.text
  | dotted => namingKey.text
  | braces => namingKey.text
  | list => namingKey.text

theorem name?_line (s : Spelling) (v : Value) : (s.line v).name? = some s.name := by
  cases s <;> rfl

end Spelling

/-- A configuration with other lines before and behind the setting, and tables behind these. -/
structure Surroundings where
  spelling : Spelling
  before : List PrintedLine
  after : List PrintedLine
  tables : List PrintedTable

namespace Surroundings

variable (s : Surroundings)

/-- The setting with what follows it; without a value the line of the setting is left out. -/
def lines (value : Option Value) : List PrintedLine :=
  (value.map (s.spelling.line ·)).toList ++ s.after

def document (value : Option Value) : PrintedDocument :=
  match s.spelling with
  | .header inside => ⟨s.before, ⟨namingKey, inside ++ s.lines value⟩ :: s.tables⟩
  | _ => ⟨s.before ++ s.lines value, s.tables⟩

/-- The names at the root. -/
def rootNames : List Text :=
  match s.spelling with
  | .header _ => names s.before ++ namingKey.text :: s.tables.map (·.name.text)
  | _ => names s.before ++ namingKey.text :: (names s.after ++ s.tables.map (·.name.text))

/-- The names in the section of the setting, if it has one. -/
def sectionNames : List Text :=
  match s.spelling with
  | .header inside => names inside ++ settingKey.text :: names s.after
  | _ => []

/-- No name is set twice, and none but the setting has its name. -/
structure IsFresh : Prop where
  root : s.rootNames.Nodup
  inside : s.sectionNames.Nodup
  tables : ∀ t ∈ s.tables, (names t.lines).Nodup

end Surroundings

end Documents

section Names

variable {s : Surroundings} {value : Option Value}

theorem names_append (ls ls' : List PrintedLine) : names (ls ++ ls') = names ls ++ names ls' :=
  List.filterMap_append

theorem names_lines (s : Surroundings) (value : Option Value) :
    (names (s.lines value)).Sublist (s.spelling.name :: names s.after) := by
  cases value with
  | none => exact List.sublist_cons_self _ _
  | some v =>
    have hnames : names (s.lines (some v)) = s.spelling.name :: names s.after :=
      List.filterMap_cons_some (s.spelling.name?_line v)
    rw [hnames]

theorem isDistinct_document (h : s.IsFresh) (value : Option Value) :
    (s.document value).IsDistinct := by
  have hlines := names_lines s value
  obtain ⟨spelling, before, after, tables⟩ := s
  obtain ⟨hroot, hinside, htables⟩ := h
  cases spelling with
  | header inside =>
    refine ⟨hroot, List.forall_mem_cons.2 ⟨?_, htables⟩⟩
    rw [names_append]
    exact hinside.sublist (hlines.append_left _)
  | dotted | braces | list =>
    refine ⟨?_, htables⟩
    refine hroot.sublist ?_
    have hnames := (hlines.append_left (names before)).append_right (tables.map (·.name.text))
    rw [← names_append, List.append_assoc] at hnames
    exact hnames

end Names

section Setting

/-- What stands behind the value where `r` stands behind its line. -/
def Spelling.behindValue (r : Text) : Spelling → Text
  | header _ => '\n' :: r
  | dotted => '\n' :: r
  | braces => ' ' :: '\x7d' :: '\n' :: r
  | list => ']' :: '\n' :: r

theorem text_line (s : Spelling) (v : Value) (r : Text) :
    ∃ before, (s.line v).text ++ r = before ++ (v.text ++ s.behindValue r) := by
  cases s with
  | header inside =>
    refine ⟨settingKey.text ++ [' ', '=', ' '], ?_⟩
    simp [Spelling.line, PrintedLine.text, PrintedItem.text, Spelling.behindValue]
  | dotted =>
    refine ⟨namingKey.text ++ '.' :: (settingKey.text ++ [' ', '=', ' ']), ?_⟩
    simp [Spelling.line, PrintedLine.text, PrintedItem.text, Spelling.behindValue]
  | braces =>
    refine ⟨namingKey.text ++
      [' ', '=', ' ', '\x7b', ' '] ++ settingKey.text ++ [' ', '=', ' '], ?_⟩
    simp [Spelling.line, PrintedLine.text, PrintedItem.text, Spelling.behindValue]
  | list =>
    refine ⟨namingKey.text ++ [' ', '=', ' ', '['], ?_⟩
    simp [Spelling.line, PrintedLine.text, PrintedItem.text, Spelling.behindValue]

/-- What stands behind the value in the document. -/
def Surroundings.behindValue (s : Surroundings) : Text :=
  s.spelling.behindValue (linesText s.after ++ tablesText s.tables)

theorem text_document (s : Surroundings) (v : Value) :
    ∃ before, (s.document (some v)).text = before ++ (v.text ++ s.behindValue) := by
  obtain ⟨before, hline⟩ := text_line s.spelling v (linesText s.after ++ tablesText s.tables)
  obtain ⟨front, htext⟩ : ∃ front, (s.document (some v)).text =
      front ++ ((s.spelling.line v).text ++ (linesText s.after ++ tablesText s.tables)) := by
    unfold Surroundings.document Surroundings.lines
    cases s.spelling with
    | header inside =>
      refine ⟨linesText s.before ++
        '[' :: (namingKey.text ++ ']' :: '\n' :: linesText inside), ?_⟩
      simp [PrintedDocument.text, linesText, tablesText, PrintedTable.text]
    | dotted | braces | list =>
      refine ⟨linesText s.before, ?_⟩
      simp [PrintedDocument.text, linesText]
  refine ⟨front ++ before, ?_⟩
  rw [htext, hline, List.append_assoc]
  rfl

variable {s : Surroundings} {es : Entries} {key : Key} {item : Toml.Item}

theorem ofEntries_of_mem (hnodup : (entryNames es).Nodup) (hkey : key.name = "naming".toList)
    (hmem : (key, item) ∈ es) :
    Configuration.ofEntries es = Configuration.ofNaming key.extent item := by
  have hfind := find?_of_mem hnodup hmem
  rw [hkey] at hfind
  unfold Configuration.ofEntries
  rw [hfind]

theorem ofNamingEntries_of_mem (hnodup : (entryNames es).Nodup)
    (hkey : key.name = "unique_result_names".toList) (hmem : (key, item) ∈ es) :
    Configuration.ofNamingEntries es =
      (Configuration.boolean key.extent item).map Configuration.mk := by
  have hfind := find?_of_mem hnodup hmem
  rw [hkey] at hfind
  unfold Configuration.ofNamingEntries
  rw [hfind]

/-- The setting is read from the value alone, with an extent to blame in its absence. -/
theorem ofEntries_document (h : s.IsFresh) (v : Value) :
    ∃ lead, Configuration.ofEntries (documentEntries (s.document (some v))) =
      (Configuration.boolean lead (valueAs v s.behindValue)).map Configuration.mk := by
  have hnodup : (entryNames (documentEntries (s.document (some v)))).Nodup := by
    rw [entryNames_documentEntries]
    exact (isDistinct_document h (some v)).root
  obtain ⟨spelling, before, after, tables⟩ := s
  let r := linesText after ++ tablesText tables
  -- under its header the setting is one entry among others; elsewhere its line is all of it
  cases spelling with
  | header inside =>
    have hinside : (entryNames (entriesAs (tablesText tables)
        (inside ++ .entry settingKey (.scalar v) :: after))).Nodup := by
      rw [entryNames_entriesAs, names_append]
      exact h.inside
    have hsetting : (keyAs settingKey (behindKey (.scalar v) r), valueAs v ('\n' :: r)) ∈
        entriesAs (tablesText tables) (inside ++ .entry settingKey (.scalar v) :: after) :=
      mem_entriesAs inside after rfl
    rw [ofEntries_of_mem hnodup rfl (List.mem_append_right _ List.mem_cons_self)]
    exact ⟨_, ofNamingEntries_of_mem hinside rfl hsetting⟩
  | dotted | braces | list =>
    rw [ofEntries_of_mem hnodup rfl (List.mem_append_left _ (mem_entriesAs before after rfl))]
    exact ⟨_, rfl⟩

/-- Without the setting nothing is read. -/
theorem ofEntries_without (h : s.IsFresh) :
    Configuration.ofEntries (documentEntries (s.document none)) = .ok Configuration.standard := by
  have hdistinct := isDistinct_document h none
  have hnodup : (entryNames (documentEntries (s.document none))).Nodup := by
    rw [entryNames_documentEntries]
    exact hdistinct.root
  obtain ⟨spelling, before, after, tables⟩ := s
  cases spelling with
  | header inside =>
    have habsent : "unique_result_names".toList ∉
        entryNames (entriesAs (tablesText tables) (inside ++ after)) := by
      rw [entryNames_entriesAs, names_append]
      exact (List.nodup_middle.1 h.inside).notMem
    refine (ofEntries_of_mem hnodup rfl (List.mem_append_right _ List.mem_cons_self)).trans ?_
    change Configuration.ofNamingEntries (entriesAs (tablesText tables) (inside ++ after)) = _
    unfold Configuration.ofNamingEntries
    rw [find?_of_notMem habsent]
  | dotted | braces | list =>
    have habsent : "naming".toList ∉
        entryNames (documentEntries ⟨before ++ after, tables⟩) := by
      rw [entryNames_documentEntries, PrintedDocument.rootNames, names_append, List.append_assoc]
      exact (List.nodup_middle.1 h.root).notMem
    change Configuration.ofEntries (documentEntries ⟨before ++ after, tables⟩) = _
    unfold Configuration.ofEntries
    rw [find?_of_notMem habsent]

end Setting

section Loading

variable {s : Surroundings} {sources : Sources} {path : Text} {value : Option Value}

theorem load_document (h : s.IsFresh) (hsource : sources path = .ok (s.document value).text) :
    Configuration.load sources path =
      (Configuration.ofEntries (documentEntries (s.document value))).mapError
        (.shape path (s.document value).text) := by
  unfold Configuration.load
  rw [hsource]
  simp only [read_text (isDistinct_document h value)]

/-- Any other value is refused, and its extent is blamed. -/
theorem boolean_valueAs {v : Value} (h : ∀ b, v ≠ .boolean b) (lead : Extent) (r : Text) :
    Configuration.boolean lead (valueAs v r) =
      .error ⟨v.scalar.description, "a boolean".toList, ⟨v.text ++ r, r⟩⟩ := by
  cases v with
  | integer n => rfl
  | boolean b => exact absurd rfl (h b)
  | string t => rfl

/-- In every spelling the setting is its value, whatever surrounds it. Without the setting it is
off, and a value of another kind is refused where it stands. -/
theorem setting_loaded (h : s.IsFresh) (hsource : sources path = .ok (s.document value).text) :
    (value = none → Configuration.load sources path = .ok ⟨false⟩) ∧
      (∀ b, value = some (.boolean b) → Configuration.load sources path = .ok ⟨b⟩) ∧
      (∀ v, value = some v → (∀ b, v ≠ .boolean b) →
        ∃ before after, (s.document value).text = before ++ (v.text ++ after) ∧
          Configuration.load sources path = .error (.shape path (s.document value).text
            ⟨v.scalar.description, "a boolean".toList, ⟨v.text ++ after, after⟩⟩)) ∧
      ∀ c, Configuration.load sources path = .ok c →
        (c.naming = .positional ↔ value = some (.boolean true)) := by
  rw [load_document h hsource]
  cases value with
  | none =>
    rw [ofEntries_without h]
    refine ⟨fun _ => rfl, fun b hb => ?_, fun v hv => ?_, fun c hc => ?_⟩
    · cases hb
    · cases hv
    · obtain rfl := Except.ok.inj hc
      exact iff_of_false (by decide) (by simp)
  | some v =>
    obtain ⟨lead, hread⟩ := ofEntries_document h v
    obtain ⟨before, htext⟩ := text_document s v
    rw [hread]
    refine ⟨fun hv => ?_, fun b hb => ?_, fun w hw hother => ?_, fun c hc => ?_⟩
    · cases hv
    · obtain rfl := Option.some.inj hb
      rfl
    · obtain rfl := Option.some.inj hw
      refine ⟨before, s.behindValue, htext, ?_⟩
      rw [boolean_valueAs hother]
      rfl
    · cases v with
      | boolean b =>
        obtain rfl := Except.ok.inj hc
        cases b <;> simp [Configuration.naming]
      | integer n =>
        rw [boolean_valueAs (by simp)] at hc
        cases hc
      | string t =>
        rw [boolean_valueAs (by simp)] at hc
        cases hc

/-- A comment and a list before the section, two numbers around the setting, and a table. -/
def crowded : Surroundings where
  spelling := .header [.entry ⟨"level".toList, by decide, by decide⟩
    (.scalar (.integer ⟨.minus, 7, by decide⟩))]
  before := [.comment ⟨" naming = [true]".toList, by decide⟩,
    .entry ⟨"flags".toList, by decide, by decide⟩ (.list (.boolean true))]
  after := [.entry ⟨"width".toList, by decide, by decide⟩
    (.scalar (.integer ⟨.none, 80, by decide⟩))]
  tables := [⟨⟨"other".toList, by decide, by decide⟩,
    [.entry ⟨"naming".toList, by decide, by decide⟩ (.scalar (.string ⟨"x".toList, by decide⟩))]⟩]

def crowdedText (value : Text) : Text :=
  "# naming = [true]\nflags = [true]\n[naming]\nlevel = -7\nunique_result_names = ".toList ++
    value ++ "\nwidth = 80\n[other]\nnaming = \"x\"\n".toList

theorem setting_loaded_crowded :
    crowded.IsFresh ∧
      Configuration.load (fun _ => .ok (crowdedText "true".toList)) [] = .ok ⟨true⟩ ∧
      ∃ e, Configuration.load (fun _ => .ok (crowdedText "1".toList)) [] = .error e := by
  have hfresh : crowded.IsFresh := ⟨by decide, by decide, by decide⟩
  let one : Value := .integer ⟨.none, 1, by decide⟩
  let sources (value : Value) : Sources := fun _ => .ok (crowded.document (some value)).text
  have hsource (value : Value) : sources value [] = .ok (crowded.document (some value)).text := rfl
  have htrue : crowdedText "true".toList = (crowded.document (some (.boolean true))).text := by
    decide +kernel
  have hone : crowdedText "1".toList = (crowded.document (some one)).text := by
    decide +kernel
  rw [htrue, hone]
  refine ⟨hfresh, (setting_loaded hfresh (hsource _)).2.1 true rfl, ?_⟩
  obtain ⟨before, after, -, hload⟩ :=
    (setting_loaded hfresh (hsource _)).2.2.1 one rfl (by simp [one])
  exact ⟨_, hload⟩

end Loading

end RpcSchema.SettingSpellings
