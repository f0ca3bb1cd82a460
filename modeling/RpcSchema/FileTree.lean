import RpcSchema.Text

/-! Files and directories below a working directory, and what comes of reading and
writing at a path. A path is a text: names between slashes, where `.` stays, `..`
goes up, and a slash at the end asks for a directory. -/
namespace RpcSchema

inductive AccessError where
  | notFound
  | notDirectory
  | isDirectory
  /-- The bytes of the file are not the UTF-8 form of a text. -/
  | notText
  /-- Any other refusal, in the words of the system. -/
  | refused (words : Text)
deriving DecidableEq, Repr

def AccessError.message : AccessError → Text
  | notFound => "No such file or directory (os error 2)".toList
  | notDirectory => "Not a directory (os error 20)".toList
  | isDirectory => "Is a directory (os error 21)".toList
  | notText => "stream did not contain valid UTF-8".toList
  | refused words => words

abbrev Sources := Text → Except AccessError Text

namespace Text

def bytes (t : Text) : ByteArray := (String.ofList t).toUTF8

def ofBytes? (b : ByteArray) : Option Text := (String.fromUTF8? b).map String.toList

theorem ofBytes?_bytes (t : Text) : ofBytes? t.bytes = some t := by
  have h : (String.ofList t).toByteArray.IsValidUTF8 := (String.ofList t).isValidUTF8
  have e : String.fromUTF8? (String.ofList t).toByteArray = some (String.ofList t) := dif_pos h
  have e' : ofBytes? t.bytes = (some (String.ofList t)).map String.toList := congrArg _ e
  rw [e', Option.map_some, String.toList_ofList]

end Text

/-- Names from the working directory down. -/
abbrev Place := List Text

inductive Entry where
  | file (bytes : ByteArray)
  | directory

def Entry.isDirectory : Entry → Bool
  | file _ => false
  | directory => true

def Entry.holds (bytes : ByteArray) : Entry → Bool
  | file own => own.data == bytes.data
  | directory => false

/-- What stands at each place. Every entry stands in a directory of the tree. -/
structure FileTree where
  entries : List (Place × Entry)

namespace FileTree

def empty : FileTree := ⟨[]⟩

/-- What stands at a place; the working directory is always there. -/
def entry? (t : FileTree) (place : Place) : Option Entry :=
  if place = [] then some .directory else t.entries.lookup place

def put (t : FileTree) (place : Place) (entry : Entry) : FileTree :=
  ⟨(place, entry) :: t.entries.filter (·.1 != place)⟩

def names (path : Text) : List Text := (path.splitAt '/').filter (!·.isEmpty)

def endsInSlash (path : Text) : Bool := path.getLast? == some '/'

/-- The place that a name leads to. Nothing is known above the working directory. -/
def step (place : Place) (name : Text) : Option Place :=
  if name = ['.'] then some place
  else if name = ['.', '.'] then if place = [] then none else some place.dropLast
  else some (place ++ [name])

/-- The place that names lead to. One can only go on from a directory. -/
def follow (t : FileTree) (place : Place) : List Text → Except AccessError Place
  | [] => .ok place
  | name :: rest =>
    match t.entry? place, step place name with
    | some .directory, some next => follow t next rest
    | some (.file _), _ => .error .notDirectory
    | _, _ => .error .notFound

def read (t : FileTree) (path : Text) : Except AccessError ByteArray :=
  if path = [] then .error .notFound
  else
    match t.follow [] (names path ++ if endsInSlash path then [['.']] else []) with
    | .error e => .error e
    | .ok place =>
      match t.entry? place with
      | none => .error .notFound
      | some .directory => .error .isDirectory
      | some (.file bytes) => .ok bytes

def sources (t : FileTree) : Sources := fun path =>
  match t.read path with
  | .error e => .error e
  | .ok bytes =>
    match Text.ofBytes? bytes with
    | none => .error .notText
    | some text => .ok text

/-- The place where a file is to be written: a new name, or a file, in a directory. -/
def target (t : FileTree) (path : Text) : Except AccessError Place :=
  match (names path).getLast? with
  | none => .error (if path = [] then .notFound else .isDirectory)
  | some last =>
    match t.follow [] ((names path).dropLast ++ [['.']]) with
    | .error e => .error e
    | .ok place =>
      if endsInSlash path || last = ['.'] || last = ['.', '.']
        || (t.entry? (place ++ [last])).any Entry.isDirectory then .error .isDirectory
      else .ok (place ++ [last])

def write (t : FileTree) (path : Text) (bytes : ByteArray) : Except AccessError FileTree :=
  (t.target path).map fun place => t.put place (.file bytes)

/-- The tree with an entry some names below a place, and directories on the way. -/
def putBelow (entry : Entry) (t : FileTree) (place : Place) : List Text → FileTree
  | [] => t
  | [name] => t.put (place ++ [name]) entry
  | name :: rest =>
    let next := place ++ [name]
    let t := if (t.entry? next).isNone then t.put next .directory else t
    putBelow entry t next rest

/-- The tree with an entry at a path, and directories on the way. -/
def create (t : FileTree) (path : Text) (entry : Entry) : FileTree :=
  putBelow entry t [] (names path)

def remove (t : FileTree) (path : Text) : FileTree :=
  ⟨t.entries.filter (·.1 != names path)⟩

/-- The files that are new or have other bytes than before. -/
def changes (before after : FileTree) : List (Text × ByteArray) :=
  after.entries.filterMap fun (place, entry) =>
    match entry with
    | .directory => none
    | .file bytes =>
      if (before.entry? place).any (Entry.holds bytes) then none
      else some (Text.join ['/'] place, bytes)

end FileTree

end RpcSchema
