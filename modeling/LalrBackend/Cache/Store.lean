import LalrBackend.Cache.Place
import LalrBackend.Packed.Units

/-!
# The table cache

The store is a directory of files, which is there only after something was cached. A file holds the
packed units of three tables as one entry. An entry may also lie in a directory above.
-/

namespace LalrBackend.Cache

open Text

/-- What an attempt to create the directory comes to. -/
inductive Creation where
  | works
  | readOnly
  | refused (reason : Refusal)
  deriving Repr, DecidableEq

/-- The cache directory: its files by name, if it is there, the files above it, and what creating it
would come to. -/
structure Store where
  files : Option (List (String × String))
  outside : List (Place × String)
  creation : Creation
  deriving Repr, DecidableEq

namespace Store

/-- The store before anything was cached. -/
def fresh : Store :=
  ⟨none, [], .works⟩

/-- The text of the file at a place. Without the directory no path leads anywhere. -/
def textAt? (s : Store) (place : Place) : Option String :=
  s.files.bind fun files =>
    if place.above = 0 then files.lookup place.name else s.outside.lookup place

/-- The place that a path leads to. -/
def place (s : Store) (path : String) : Except Fault Place :=
  placeOf (fun p => (s.textAt? p).isSome) path

/-- The text of the file that a path leads to. -/
def read? (s : Store) (path : String) : Option String :=
  (s.place path).toOption.bind s.textAt?

/-- Puts a file in its place in the order of names. -/
def insertFile (name text : String) : List (String × String) → List (String × String)
  | [] => [(name, text)]
  | f :: fs =>
    if pointsOf name < pointsOf f.1 then (name, text) :: f :: fs
    else if name = f.1 then (name, text) :: fs
    else f :: insertFile name text fs

/-- Puts a file at a place. -/
def putAt (s : Store) (place : Place) (text : String) : Store :=
  if place.above = 0 then
    { s with files := some (insertFile place.name text (s.files.getD [])) }
  else { s with outside := (place, text) :: s.outside }

/-- Puts a file where a path leads to, the directory being there. A path that leads nowhere is
refused. -/
def put (s : Store) (path text : String) : Store × Option Fault :=
  match s.place path with
  | .ok place => (s.putAt place text, none)
  | .error fault => (s, some fault)

/-- Writes a file, after creating the directory if it is missing. On a read-only file system
nothing is written. -/
def write (s : Store) (path text : String) : Store × Option Fault :=
  match s.files, s.creation with
  | some _, _ => s.put path text
  | none, .works => ({ s with files := some [] } : Store).put path text
  | none, .readOnly => (s, none)
  | none, .refused reason => (s, some (.refused reason))

/-- The names of the files, in order. -/
def names (s : Store) : List String :=
  (s.files.getD []).map (·.1)

/-- Overwrites the file at a position. A text with a surrogate cannot be written: it leaves the file
empty, and a fault. -/
def overwrite (s : Store) (position : Nat) (text : String) : Store × Option Fault :=
  let fits := !hasSurrogate text
  let put := fun files : List (String × String) =>
    files.modify position fun f => (f.1, if fits then text else "")
  ({ s with files := s.files.map put }, if fits then none else some .loneSurrogate)

/-- Replaces the files of a store that has some. -/
def mapFiles (s : Store) (f : List (String × String) → List (String × String)) : Store :=
  { s with files := s.files.map f }

end Store

/-- Packed units of the three tables and the sizes that are reported. The units of a table that
came from an entry may turn out not to be numbers. -/
structure PackedTables where
  sizes : List (String × Nat)
  production : Except Fault (List Int)
  action : Except Fault (List Int)
  reduce : Except Fault (List Int)

/-- The three tables packed anew, each on its own; the first one that does not fit is reported. -/
def packAll (t : Tables) : Except GeneratorError Tables := do
  return {
    production := ← Packed.encode t.production
    action := ← Packed.encode t.action
    reduce := ← Packed.encode t.reduce }

/-- The sizes of packed tables, by key. -/
def unitCounts (units : Tables) : List (String × Nat) :=
  units.members.map fun (key, us) => (key, us.length)

/-- Freshly packed tables. -/
def PackedTables.ofUnits (units : Tables) : PackedTables :=
  ⟨unitCounts units, .ok units.production, .ok units.action, .ok units.reduce⟩

/-- The entry that stands for packed tables. -/
def entryOf (units : Tables) : JsonValue :=
  .object (units.members.map fun (key, us) => (pointsOf key, .ofInts us))

/-- The members of an object. -/
def membersOf : JsonValue → Except Fault (List (CodePoints × JsonValue))
  | .object members => .ok members
  | _ => .error .wrongKind

/-- The units that an entry holds for a key. -/
def unitsOf (data : JsonValue) (key : String) : Except Fault (List Int) := do
  match ← memberOf key data with
  | .list items => items.mapM unitOf
  | _ => .error .wrongKind

/-- Packed tables from an entry; every member has its size reported. -/
def PackedTables.ofEntry (data : JsonValue) : Except Fault PackedTables := do
  let members ← membersOf data
  let sizes ← members.mapM fun (key, v) => do return (stringOf key, ← sizeOf v)
  return {
    sizes := sizes
    production := unitsOf data "production_table"
    action := unitsOf data "action_table"
    reduce := unitsOf data "reduce_table" }

/-- The entry in a file, if there is one; the JSON null counts as none. -/
def lookup (s : Store) (file : String) : Except Fault (Option JsonValue) :=
  match s.read? file with
  | none => .ok none
  | some text =>
    match JsonValue.ofText text with
    | .error e => .error (.ofReading e)
    | .ok .null => .ok none
    | .ok data => .ok (some data)

/-- The entry in a file, if there is one and it can stand for the tables. -/
def lookupValid (s : Store) (file : String) (t : Tables) : Except Fault (Option JsonValue) := do
  match ← lookup s file with
  | none => return none
  | some data => if ← isValid data t then return some data else return none

/-- The file that belongs to tables under a cache identifier. -/
def fileOf (id : String) (t : Tables) (compact : Bool) : String :=
  fileName id (key t (flagOf compact))

end LalrBackend.Cache
