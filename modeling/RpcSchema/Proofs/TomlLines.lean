import RpcSchema.Proofs.TomlReading

/-! # Printed documents are read line by line

Every line is read as the setting that it makes, if it makes one, and every header as the
beginning of a section. -/
namespace RpcSchema.TomlLines
open Toml PrintedToml ReaderRun TomlReading
open Reader (exactly)

variable {s r : Text} {c : Char} {found : List Line}

section Lines

/-- What stands behind the key of a line. -/
def behindKey (i : PrintedItem) (r : Text) : Text := ' ' :: '=' :: ' ' :: (i.text ++ '\n' :: r)

/-- The setting that a line is read as where `r` stands behind it. -/
def settingAs? (r : Text) : PrintedLine → Option Setting
  | .blank _ => none
  | .comment _ => none
  | .entry k i => some ⟨[keyAs k (behindKey i r)], itemAs ('\n' :: r) i⟩
  | .dotted table k i =>
    some ⟨[keyAs table ('.' :: (k.text ++ behindKey i r)), keyAs k (behindKey i r)],
      itemAs ('\n' :: r) i⟩

def lineAs (r : Text) (l : PrintedLine) : Line :=
  (settingAs? r l).elim .nothing .setting

theorem reads_lineBreak : Reads lineBreak ('\n' :: r) () r :=
  Reads.orElse (Reads.exactly ['\n'] r)

theorem reads_lineEnd : Reads lineEnd ('\n' :: r) () r :=
  (reads_noBlanks (by decide)).bind
    ((refuses_comment (by decide)).optional.bind reads_lineBreak.orElse)

theorem refuses_header {closing : Text} {isRepeated : Bool} {second : Text} (hc : c ≠ '[') :
    Refuses (header ('[' :: second) closing isRepeated) (c :: s) :=
  (refuses_located (Refuses.exactly hc.symm).bind).bind

/-- A line that begins like a key makes a setting. -/
theorem reads_settingLine {st : Setting} (hc : isBareKeyCharacter c = true)
    (h : Reads (setting (value depthLimit)) (c :: s) st ('\n' :: r)) :
    Reads line (c :: s) (.setting st) r := by
  have hne {d : Char} (hd : isBareKeyCharacter d = false) : c ≠ d := ne_of_isBare hc hd
  have hbreak : Refuses lineBreak (c :: s) :=
    refuses_lineBreak (hne (by decide)) (hne (by decide))
  refine (reads_noBlanks (notBlank_of_isBare hc)).bind ?_
  refine (refuses_comment (hne (by decide))).bind.orElse (hbreak.bind.orElse ?_)
  refine (refuses_header (hne (by decide))).orElse
    ((refuses_header (hne (by decide))).orElse ?_)
  exact h.bind (reads_lineEnd.bind .pure)

theorem reads_line (l : PrintedLine) : Reads line (l.text ++ r) (lineAs r l) r := by
  have hspace : ∀ c ∈ [' '], isBlank c = true := by decide
  cases l with
  | blank b =>
    have htext : (PrintedLine.blank b).text ++ r = b.text ++ '\n' :: r := by
      simp [PrintedLine.text]
    have hcomment : Refuses comment ('\n' :: r) := refuses_comment (by decide)
    rw [htext]
    refine (reads_blanks b.text b.isBlank (forall_head (by decide))).bind ?_
    refine hcomment.bind.orElse (Reads.orElse ?_)
    exact reads_lineBreak.bind .pure
  | comment t =>
    have htext : (PrintedLine.comment t).text ++ r = '#' :: (t.text ++ '\n' :: r) := by
      simp [PrintedLine.text]
    have hcomment : Reads comment ('#' :: (t.text ++ '\n' :: r)) () ('\n' :: r) :=
      Reads.mark.bind ((Reads.span t.isPlain (forall_head (by decide))).bind .pure)
    rw [htext]
    refine (reads_noBlanks (by decide)).bind (Reads.orElse ?_)
    exact hcomment.bind (reads_lineBreak.orElse.bind .pure)
  | entry k i =>
    have htext : (PrintedLine.entry k i).text ++ r = k.text ++ behindKey i r := by
      simp [PrintedLine.text, behindKey]
    have hkey : Reads key (k.text ++ behindKey i r) [keyAs k (behindKey i r)]
        ('=' :: ' ' :: (i.text ++ '\n' :: r)) :=
      reads_key [] [' '] k (by simp) hspace (by decide) (by decide)
    have hsetting := reads_setting hkey (notBlank_item i _) (reads_item (n := 78) i)
    obtain ⟨c, u, hfront, hc⟩ := exists_front_key k (behindKey i r)
    rw [htext]
    rw [hfront] at hsetting ⊢
    exact reads_settingLine hc hsetting
  | dotted table k i =>
    have htext : (PrintedLine.dotted table k i).text ++ r =
        table.text ++ '.' :: (k.text ++ behindKey i r) := by
      simp [PrintedLine.text, behindKey]
    have hkey : Reads key (table.text ++ '.' :: (k.text ++ behindKey i r))
        [keyAs table ('.' :: (k.text ++ behindKey i r)), keyAs k (behindKey i r)]
        ('=' :: ' ' :: (i.text ++ '\n' :: r)) :=
      reads_dottedKey [' '] table k hspace (by decide) (by decide)
    have hsetting := reads_setting hkey (notBlank_item i _) (reads_item (n := 78) i)
    obtain ⟨c, u, hfront, hc⟩ := exists_front_key table ('.' :: (k.text ++ behindKey i r))
    rw [htext]
    rw [hfront] at hsetting ⊢
    exact reads_settingLine hc hsetting

/-- What the header of a table is read as. -/
def headerAs (name : BareKey) (r : Text) : Header :=
  ⟨[keyAs name (']' :: '\n' :: r)], false, ⟨'[' :: (name.text ++ ']' :: '\n' :: r), '\n' :: r⟩⟩

theorem reads_header (name : BareKey) :
    Reads line ('[' :: (name.text ++ ']' :: '\n' :: r)) (.header (headerAs name r)) r := by
  have hrepeated : ¬['[', '['] <+: '[' :: (name.text ++ ']' :: '\n' :: r) := by
    intro hp
    obtain ⟨c, u, hfront, hc⟩ := exists_front_key name (']' :: '\n' :: r)
    rw [hfront] at hp
    have hsecond := (List.cons_prefix_cons.1 (List.cons_prefix_cons.1 hp).2).1
    exact ne_of_isBare hc (by decide) hsecond.symm
  have hkey : Reads key (name.text ++ ']' :: '\n' :: r) [keyAs name (']' :: '\n' :: r)]
      (']' :: '\n' :: r) :=
    reads_key [] [] name (by simp) (by simp) (by decide) (by decide)
  have hpath : Reads (do exactly ['[']; let path ← key; exactly [']']; return path)
      ('[' :: (name.text ++ ']' :: '\n' :: r)) [keyAs name (']' :: '\n' :: r)] ('\n' :: r) :=
    (Reads.exactly ['['] _).bind (hkey.bind ((Reads.exactly [']'] _).bind .pure))
  refine (reads_noBlanks (by decide)).bind ?_
  refine (refuses_comment (by decide)).bind.orElse
    ((refuses_lineBreak (by decide) (by decide)).bind.orElse ?_)
  refine Refuses.orElse (refuses_located (Refuses.exactly_of_not hrepeated).bind).bind ?_
  exact Reads.orElse ((reads_located hpath).bind (reads_lineEnd.bind .pure))

end Lines

section Documents

/-- What lines are read as where `r` stands behind them. -/
def linesAs (r : Text) : List PrintedLine → List Line
  | [] => []
  | l :: ls => lineAs (linesText ls ++ r) l :: linesAs r ls

def tablesAs : List PrintedTable → List Line
  | [] => []
  | t :: ts =>
    .header (headerAs t.name (linesText t.lines ++ tablesText ts)) ::
      (linesAs (tablesText ts) t.lines ++ tablesAs ts)

theorem length_text_pos (l : PrintedLine) : 0 < l.text.length := by
  cases l <;> simp only [PrintedLine.text, List.length_append, List.length_cons] <;> omega

theorem chain_lines (h : Chain (single line) () r found s) (ls : List PrintedLine) :
    Chain (single line) () (linesText ls ++ r) (linesAs r ls ++ found) s := by
  induction ls with
  | nil => exact h
  | cons l ls ih =>
    have htext : linesText (l :: ls) ++ r = l.text ++ (linesText ls ++ r) := by
      simp [linesText]
    have hpositive := length_text_pos l
    rw [htext]
    refine .step_many (reads_line l) ?_ ih
    simp only [List.length_append]
    omega

theorem chain_tables (ts : List PrintedTable) :
    Chain (single line) () (tablesText ts) (tablesAs ts) [] := by
  induction ts with
  | nil => exact .stop_many rfl
  | cons t ts ih =>
    have htext : tablesText (t :: ts) =
        '[' :: (t.name.text ++ ']' :: '\n' :: (linesText t.lines ++ tablesText ts)) := by
      simp [tablesText, PrintedTable.text]
    rw [htext]
    refine .step_many (reads_header t.name) ?_ (chain_lines ih t.lines)
    simp only [List.length_append, List.length_cons]
    omega

theorem front_line_ne (l : PrintedLine) (s : Text) : ∀ c ∈ (l.text ++ s).head?, c ≠ '\ufeff' := by
  have hkey (k : BareKey) (s : Text) : ∀ c ∈ (k.text ++ s).head?, c ≠ '\ufeff' := by
    obtain ⟨c, u, hfront, hc⟩ := exists_front_key k s
    exact hfront ▸ forall_head (ne_of_isBare hc (by decide))
  cases l with
  | blank b =>
    obtain ⟨text, hblank⟩ := b
    cases text with
    | nil => exact forall_head (by decide)
    | cons c text =>
      refine forall_head ?_
      rintro rfl
      exact absurd (hblank _ List.mem_cons_self) (by decide)
  | comment t => exact forall_head (by decide)
  | entry k i =>
    rw [PrintedLine.text, List.append_assoc]
    exact hkey k _
  | dotted table k i =>
    rw [PrintedLine.text, List.append_assoc]
    exact hkey table _

/-- No document begins with a byte order mark. -/
theorem front_text_ne (d : PrintedDocument) : ∀ c ∈ d.text.head?, c ≠ '\ufeff' := by
  obtain ⟨root, tables⟩ := d
  cases root with
  | cons l ls =>
    have htext : PrintedDocument.text ⟨l :: ls, tables⟩ =
        l.text ++ (linesText ls ++ tablesText tables) := by
      simp [PrintedDocument.text, linesText]
    rw [htext]
    exact front_line_ne l _
  | nil =>
    cases tables with
    | nil => exact fun c hc => by cases hc
    | cons t ts => exact forall_head (by decide)

theorem reads_document (d : PrintedDocument) :
    Reads Toml.lines d.text (linesAs (tablesText d.tables) d.root ++ tablesAs d.tables) [] := by
  have hmark : Refuses (exactly ['\ufeff']) d.text := by
    refine .exactly_of_not fun hp => ?_
    obtain ⟨u, hu⟩ := hp
    exact front_text_ne d '\ufeff' (by rw [← hu]; rfl) rfl
  have hblanks : Reads blanks [] () [] := rfl
  have hend : Reads endOfText [] () [] := rfl
  exact hmark.optional.bind ((chain_lines (chain_tables d.tables) d.root).many.bind
    (hblanks.bind (hend.bind .pure)))

end Documents

section Sections

/-- The settings of some lines. -/
def settingsAs (r : Text) : List PrintedLine → List Setting
  | [] => []
  | l :: ls => (settingAs? (linesText ls ++ r) l).toList ++ settingsAs r ls

def sectionAs (t : PrintedTable) (r : Text) : Toml.Section :=
  ⟨headerAs t.name (linesText t.lines ++ r), settingsAs r t.lines⟩

def sectionsAs : List PrintedTable → List Toml.Section
  | [] => []
  | t :: ts => sectionAs t (tablesText ts) :: sectionsAs ts

theorem sections_lines (r : Text) (ls : List PrintedLine) (found : List Line) :
    sections (linesAs r ls ++ found) =
      (settingsAs r ls ++ (sections found).1, (sections found).2) := by
  induction ls with
  | nil => rfl
  | cons l ls ih =>
    rw [linesAs, List.cons_append, lineAs, settingsAs]
    cases settingAs? (linesText ls ++ r) l with
    | none => exact ih
    | some st =>
      rw [Option.elim_some, sections, ih]
      rfl

theorem sections_tables (ts : List PrintedTable) :
    sections (tablesAs ts) = ([], sectionsAs ts) := by
  induction ts with
  | nil => rfl
  | cons t ts ih =>
    rw [tablesAs, sections, sections_lines, ih, List.append_nil]
    rfl

/-- A document is built from the settings of its lines and its tables. -/
theorem read_eq (d : PrintedDocument) : Toml.read d.text =
    entriesOf (settingsAs (tablesText d.tables) d.root) (sectionsAs d.tables) := by
  have hlines : Toml.lines.run d.text =
      some (linesAs (tablesText d.tables) d.root ++ tablesAs d.tables, []) := reads_document d
  have hsections := sections_lines (tablesText d.tables) d.root (tablesAs d.tables)
  rw [sections_tables, List.append_nil] at hsections
  unfold Toml.read
  rw [hlines]
  simp only [hsections]

end Sections

end RpcSchema.TomlLines
