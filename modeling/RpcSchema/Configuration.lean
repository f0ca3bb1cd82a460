import RpcSchema.FileTree
import RpcSchema.ProtoNaming
import RpcSchema.SourceExcerpt
import RpcSchema.TomlDocument

/-! The configuration: one setting, `naming.unique_result_names`. A list in place of the
naming table gives its settings by position. All other keys are passed over. -/
namespace RpcSchema

structure Configuration where
  uniqueResultNames : Bool
deriving DecidableEq, Repr

/-- What stands where something else is expected. -/
structure ShapeError where
  found : Text
  expected : Text
  extent : Extent
deriving DecidableEq, Repr

/-- What a reader of TOML says of a text that it refuses. -/
structure TomlFault where
  extent : Extent
  cause : Text
deriving DecidableEq, Repr

/-- A text that is blamed as a whole. -/
def TomlFault.whole (source : Text) : TomlFault := ⟨⟨source, []⟩, "not a document".toList⟩

inductive ConfigurationError where
  | unreadable (path : Text) (e : AccessError)
  | notToml {source : Text} (path : Text)
  | shape (path source : Text) (e : ShapeError)
deriving DecidableEq, Repr

namespace Configuration

def standard : Configuration := ⟨false⟩

def naming (c : Configuration) : ReplyNaming :=
  if c.uniqueResultNames then .positional else .shared

/-- The configuration as it would be written. -/
def text (c : Configuration) : Text :=
  "[naming]\nunique_result_names = ".toList ++
    (if c.uniqueResultNames then "true" else "false").toList ++ ['\n']

/-- A refusal of an item, blamed on the item or else on what leads to it. -/
def refuse {α : Type} (item : Toml.Item) (expected : String) (lead : Extent) :
    Except ShapeError α :=
  .error ⟨item.description, expected.toList, item.extent?.getD lead⟩

def boolean (lead : Extent) : Toml.Item → Except ShapeError Bool
  | .scalar (.boolean b) _ => .ok b
  | item => refuse item "a boolean" lead

def ofNamingEntries (entries : Toml.Entries) : Except ShapeError Configuration :=
  match entries.find? fun entry => entry.1.name == "unique_result_names".toList with
  | none => .ok standard
  | some (key, item) => (boolean key.extent item).map Configuration.mk

/-- The setting that comes first in a list. -/
def ofNamingItems (lead : Extent) : List Toml.Item → Except ShapeError Configuration
  | [] => .ok standard
  | item :: _ => (boolean lead item).map Configuration.mk

/-- Dates and times count as tables without a known key. -/
def ofNaming (lead : Extent) : Toml.Item → Except ShapeError Configuration
  | .table _ _ entries => ofNamingEntries entries
  | .array items _ => ofNamingItems lead items
  | .tables items => ofNamingItems lead items
  | .scalar .moment _ => .ok standard
  | item => refuse item "struct NamingConfig" lead

def ofEntries (entries : Toml.Entries) : Except ShapeError Configuration :=
  match entries.find? fun entry => entry.1.name == "naming".toList with
  | none => .ok standard
  | some (key, item) => ofNaming key.extent item

def load (sources : Sources) (path : Text) : Except ConfigurationError Configuration :=
  match sources path with
  | .error e => .error (.unreadable path e)
  | .ok source =>
    match Toml.read source with
    | none => .error (@ConfigurationError.notToml source path)
    | some entries => (ofEntries entries).mapError (.shape path source)

end Configuration

def TomlFault.report (source : Text) (fault : TomlFault) : Text :=
  SourceExcerpt.text source fault.extent ++ fault.cause ++ ['\n']

def ShapeError.report (source : Text) (e : ShapeError) : Text :=
  SourceExcerpt.text source e.extent ++ "invalid type: ".toList ++ e.found ++
    ", expected ".toList ++ e.expected ++ ['\n']

/-- What is wrong with a text that is not TOML is told by `toml`. -/
def ConfigurationError.message (e : ConfigurationError) (toml : Text → TomlFault := .whole) :
    Text :=
  match e with
  | unreadable path e => "Config error: ".toList ++ path ++ ": ".toList ++ e.message
  | @notToml source path =>
    "Config error: ".toList ++ path ++ ": ".toList ++ (toml source).report source
  | shape path source e =>
    "Config error: ".toList ++ path ++ ": ".toList ++ e.report source

end RpcSchema
