import RpcSchema.Proofs.TomlLines
import Mathlib.Data.List.Nodup

/-! # Tables of fresh names

Where no name is set twice, a document has one entry for each setting and for each table, in
order. -/
namespace RpcSchema.TomlBuilding
open Toml PrintedToml TomlReading TomlLines

variable {es : Entries} {key : Key} {item : Toml.Item} {name : Text} {r : Text}

section Fresh

def entryNames (es : Entries) : List Text := es.map fun e => e.1.name

theorem entryNames_append (es es' : Entries) :
    entryNames (es ++ es') = entryNames es ++ entryNames es' :=
  List.map_append

section Names

variable {rest : List Text} (h : (entryNames es ++ key.name :: rest).Nodup)
include h

theorem fresh_of_nodup : key.name ∉ entryNames es :=
  fun hm => (List.nodup_append.1 h).2.2 _ hm _ List.mem_cons_self rfl

/-- The names stay distinct with the first of them set. -/
theorem nodup_concat : (entryNames (es ++ [(key, item)]) ++ rest).Nodup := by
  rw [entryNames_append, List.append_assoc]
  exact h

end Names

theorem find?_of_notMem (h : name ∉ entryNames es) :
    es.find? (fun e => e.1.name == name) = none := by
  refine List.find?_eq_none.2 fun e he hname => h ?_
  exact List.mem_map.2 ⟨e, he, eq_of_beq hname⟩

theorem get?_of_notMem (h : name ∉ entryNames es) : es.get? name = none := by
  unfold Entries.get?
  rw [find?_of_notMem h, Option.map_none]

/-- The tables that a dotted key makes on the way to its value. -/
def wayTo (item : Toml.Item) : List Key → Toml.Item
  | [] => item
  | key :: path => .table .dottedKey none [(key, wayTo item path)]

theorem define_fresh (path : List Key) (h : key.name ∉ entryNames es) :
    es.define item (key :: path) = some (es ++ [(key, wayTo item path)]) := by
  induction path generalizing key es with
  | nil => rw [Entries.define, get?_of_notMem h]; rfl
  | cons next path ih =>
    have hinner : Entries.define item (next :: path) [] = some [(next, wayTo item path)] :=
      ih List.not_mem_nil
    rw [Entries.define, get?_of_notMem h]
    simp only [hinner]
    rfl

theorem defineAll_cons_fresh {path : List Key} {settings : List Setting}
    (h : key.name ∉ entryNames es) : es.defineAll (⟨key :: path, item⟩ :: settings) =
      Entries.defineAll (es ++ [(key, wayTo item path)]) settings := by
  rw [Entries.defineAll, define_fresh path h, Option.bind_some]

theorem atHeader_fresh {change : Option Toml.Item → Option Toml.Item}
    (h : key.name ∉ entryNames es) (hitem : change none = some item) :
    es.atHeader change [key] = some (es ++ [(key, item)]) := by
  rw [Entries.atHeader, get?_of_notMem h]
  simp only [hitem]
  rfl

/-- An entry is found by its name. -/
theorem find?_of_mem (hnodup : (entryNames es).Nodup) (hmem : (key, item) ∈ es) :
    es.find? (fun e => e.1.name == key.name) = some (key, item) := by
  induction es with
  | nil => cases hmem
  | cons e es ih =>
    obtain ⟨hfresh, hnodup⟩ := List.nodup_cons.1 hnodup
    rcases List.mem_cons.1 hmem with rfl | hmem
    · exact List.find?_cons_of_pos (by simp)
    · have hne : e.1.name ≠ key.name := by
        intro hname
        exact hfresh (List.mem_map.2 ⟨_, hmem, hname.symm⟩)
      rw [List.find?_cons_of_neg (by simpa using hne)]
      exact ih hnodup hmem

end Fresh

section Documents

/-- The entry that a line makes where `r` stands behind it. -/
def entryAs? (r : Text) : PrintedLine → Option (Key × Toml.Item)
  | .blank _ => none
  | .comment _ => none
  | .entry k i => some (keyAs k (behindKey i r), itemAs ('\n' :: r) i)
  | .dotted table k i =>
    some (keyAs table ('.' :: (k.text ++ behindKey i r)),
      .table .dottedKey none [(keyAs k (behindKey i r), itemAs ('\n' :: r) i)])

/-- The entries of some lines where `r` stands behind them. -/
def entriesAs (r : Text) : List PrintedLine → Entries
  | [] => []
  | l :: ls => (entryAs? (linesText ls ++ r) l).toList ++ entriesAs r ls

def tableAs (t : PrintedTable) (r : Text) : Toml.Item :=
  .table .header (some (sectionAs t r).extent) (entriesAs r t.lines)

def tableEntriesAs : List PrintedTable → Entries
  | [] => []
  | t :: ts => (keyAs t.name (']' :: '\n' :: (linesText t.lines ++ tablesText ts)),
      tableAs t (tablesText ts)) :: tableEntriesAs ts

def documentEntries (d : PrintedDocument) : Entries :=
  entriesAs (tablesText d.tables) d.root ++ tableEntriesAs d.tables

theorem entryNames_entriesAs (r : Text) (ls : List PrintedLine) :
    entryNames (entriesAs r ls) = names ls := by
  induction ls with
  | nil => rfl
  | cons l ls ih =>
    rw [entriesAs, entryNames_append, ih]
    cases l <;> rfl

theorem entryNames_tableEntriesAs (ts : List PrintedTable) :
    entryNames (tableEntriesAs ts) = ts.map (·.name.text) := by
  induction ts with
  | nil => rfl
  | cons t ts ih => exact congrArg (t.name.text :: ·) ih

theorem entryNames_documentEntries (d : PrintedDocument) :
    entryNames (documentEntries d) = d.rootNames := by
  rw [documentEntries, entryNames_append, entryNames_entriesAs, entryNames_tableEntriesAs]
  rfl

/-- The entry of a line is told by what stands behind the line. -/
theorem mem_entriesAs {l : PrintedLine} {e : Key × Toml.Item} (before after : List PrintedLine)
    (h : entryAs? (linesText after ++ r) l = some e) :
    e ∈ entriesAs r (before ++ l :: after) := by
  induction before with
  | nil =>
    rw [List.nil_append, entriesAs, h]
    exact List.mem_cons_self
  | cons l' before ih => exact List.mem_append_right _ ih

theorem defineAll_settingsAs (r : Text) (ls : List PrintedLine)
    (h : (entryNames es ++ names ls).Nodup) :
    es.defineAll (settingsAs r ls) = some (es ++ entriesAs r ls) := by
  induction ls generalizing es with
  | nil => rw [entriesAs, List.append_nil]; rfl
  | cons l ls ih =>
    -- both kinds of setting are a path with a fresh first key
    have hset (key : Key) (item : Toml.Item) (path : List Key)
        (h : (entryNames es ++ key.name :: names ls).Nodup) :
        es.defineAll (⟨key :: path, item⟩ :: settingsAs r ls) =
          some (es ++ (key, wayTo item path) :: entriesAs r ls) := by
      rw [defineAll_cons_fresh (fresh_of_nodup h), ih (nodup_concat h), List.append_assoc]
      rfl
    cases l with
    | blank b => exact ih h
    | comment t => exact ih h
    | entry k i => exact hset _ _ [] h
    | dotted table k i => exact hset _ _ [_] h

theorem foldlM_sectionsAs (ts : List PrintedTable)
    (h : (entryNames es ++ ts.map (·.name.text)).Nodup) (hts : ∀ t ∈ ts, (names t.lines).Nodup) :
    (sectionsAs ts).foldlM (fun es s => Entries.atHeader s.place s.header.path es) es =
      some (es ++ tableEntriesAs ts) := by
  induction ts generalizing es with
  | nil => rw [tableEntriesAs, List.append_nil]; rfl
  | cons t ts ih =>
    obtain ⟨ht, hts⟩ := List.forall_mem_cons.1 hts
    let key := keyAs t.name (']' :: '\n' :: (linesText t.lines ++ tablesText ts))
    have htable : (sectionAs t (tablesText ts)).place none = some (tableAs t (tablesText ts)) := by
      have hentries : Entries.defineAll [] (settingsAs (tablesText ts) t.lines) =
          some (entriesAs (tablesText ts) t.lines) := defineAll_settingsAs _ _ ht
      unfold Toml.Section.place Toml.Section.table
      change ((Entries.defineAll [] (settingsAs (tablesText ts) t.lines)).map _).map _ = _
      rw [hentries]
      rfl
    rw [sectionsAs, List.foldlM_cons, tableEntriesAs]
    change (es.atHeader _ [key]).bind _ = _
    rw [atHeader_fresh (fresh_of_nodup h) htable, Option.bind_some, ih (nodup_concat h) hts,
      List.append_assoc]
    rfl

/-- A document in which no name is set twice has the entries that it shows. -/
theorem read_text {d : PrintedDocument} (h : d.IsDistinct) :
    Toml.read d.text = some (documentEntries d) := by
  have hroot : (entryNames [] ++ names d.root).Nodup := (List.nodup_append.1 h.root).1
  have hall : (entryNames (entriesAs (tablesText d.tables) d.root) ++
      d.tables.map (·.name.text)).Nodup := by
    rw [entryNames_entriesAs]
    exact h.root
  rw [read_eq, entriesOf, defineAll_settingsAs _ _ hroot, Option.bind_some, List.nil_append]
  exact foldlM_sectionsAs d.tables hall h.tables

end Documents

end RpcSchema.TomlBuilding
