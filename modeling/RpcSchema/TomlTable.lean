import RpcSchema.TomlSyntax

/-! Building tables from settings and headers. No key is set twice, and nothing is added
to what has been completed elsewhere; then there is no table. -/
namespace RpcSchema.Toml

structure Setting where
  path : List Key
  value : Item

structure Header where
  path : List Key
  /-- A header in double brackets begins one more table of a list. -/
  repeated : Bool
  extent : Extent

structure Section where
  header : Header
  settings : List Setting

namespace Entries

def get? (entries : Entries) (name : Text) : Option Item :=
  (entries.find? fun entry => entry.1.name == name).map Prod.snd

def replace (entries : Entries) (name : Text) (item : Item) : Entries :=
  entries.map fun entry => if entry.1.name = name then (entry.1, item) else entry

/-- Sets a value. On the way to it a dotted key makes the tables that it names, and goes
on in tables that only a way has made. It adds its value to a table of dotted keys only. -/
def define (value : Item) : List Key → Entries → Option Entries
  | [], _ => none
  | [key], entries =>
    match get? entries key.name with
    | none => some (entries ++ [(key, value)])
    | some _ => none
  | key :: next :: rest, entries =>
    match get? entries key.name with
    | none =>
      (define value (next :: rest) []).map fun inner =>
        entries ++ [(key, .table .dottedKey none inner)]
    | some (.table .dottedKey extent inner) =>
      (define value (next :: rest) inner).map fun inner =>
        replace entries key.name (.table .dottedKey extent inner)
    | some (.table .longerHeader extent inner) =>
      if rest = [] then none
      else
        (define value (next :: rest) inner).map fun inner =>
          replace entries key.name (.table .longerHeader extent inner)
    | some (.tables items) =>
      match rest, items.getLast? with
      | _ :: _, some (.table origin extent inner) =>
        (define value (next :: rest) inner).map fun inner =>
          replace entries key.name (.tables (items.dropLast ++ [.table origin extent inner]))
      | _, _ => none
    | some _ => none

def defineAll (entries : Entries) : List Setting → Option Entries
  | [] => some entries
  | s :: settings => (define s.value s.path entries).bind fun next => defineAll next settings

/-- Changes what stands at the end of a header's path. On the way a header makes the
tables that it names, and goes on in any table but those between braces. -/
def atHeader (change : Option Item → Option Item) : List Key → Entries → Option Entries
  | [], _ => none
  | [key], entries =>
    match get? entries key.name with
    | none => (change none).map fun item => entries ++ [(key, item)]
    | some item => (change (some item)).map (replace entries key.name)
  | key :: next :: rest, entries =>
    match get? entries key.name with
    | none =>
      (atHeader change (next :: rest) []).map fun inner =>
        entries ++ [(key, .table .longerHeader none inner)]
    | some (.table .braces _ _) => none
    | some (.table origin extent inner) =>
      (atHeader change (next :: rest) inner).map fun inner =>
        replace entries key.name (.table origin extent inner)
    | some (.tables items) =>
      match items.getLast? with
      | some (.table origin extent inner) =>
        (atHeader change (next :: rest) inner).map fun inner =>
          replace entries key.name (.tables (items.dropLast ++ [.table origin extent inner]))
      | _ => none
    | some _ => none

end Entries

namespace Section

/-- A section reaches from its header to its last value. -/
def extent (s : Section) : Extent :=
  match s.settings.getLast?.bind fun setting => setting.value.extent? with
  | none => s.header.extent
  | some last => ⟨s.header.extent.start, last.stop⟩

/-- The table of a section, begun with some entries. -/
def table (s : Section) (entries : Entries) : Option Item :=
  (entries.defineAll s.settings).map (.table .header (some s.extent))

/-- What a section makes of what stands at its path. A table gets its header once. -/
def place (s : Section) : Option Item → Option Item
  | none => (s.table []).map fun t => if s.header.repeated then .tables [t] else t
  | some (.table .longerHeader _ entries) => if s.header.repeated then none else s.table entries
  | some (.tables items) =>
    if s.header.repeated then (s.table []).map fun t => .tables (items ++ [t]) else none
  | some _ => none

end Section

/-- The entries of a document: settings before the first header, then sections. -/
def entriesOf (settings : List Setting) (sections : List Section) : Option Entries :=
  (Entries.defineAll [] settings).bind fun entries =>
    sections.foldlM (fun entries s => entries.atHeader s.place s.header.path) entries

end RpcSchema.Toml
