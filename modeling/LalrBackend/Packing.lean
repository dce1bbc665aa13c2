import LalrBackend.Cache.Store
import LalrBackend.Config
import LalrBackend.EmitError

/-!
# Packing with a cache

The three tables of a parser are packed, or taken from the cache if it has an entry that can stand
for them. What is packed anew under a cache identifier is stored.
-/

namespace LalrBackend

open Cache

/-- What packing comes to: the packed tables or a failure, whether an entry of the cache was taken,
and the cache afterwards. -/
structure Packing where
  result : Except EmitError PackedTables
  hit : Bool
  store : Store

/-- Packs tables without a cache. -/
def packPlain (s : Store) (t : Tables) : Packing :=
  match packAll t with
  | .ok units => ⟨.ok (.ofUnits units), false, s⟩
  | .error e => ⟨.error (.refused e), false, s⟩

/-- Packs tables anew and stores them. -/
def packAndStore (s : Store) (file : String) (t : Tables) : Packing :=
  match packAll t with
  | .error e => ⟨.error (.refused e), false, s⟩
  | .ok units =>
    match s.write file (entryOf units).toText with
    | (s', none) => ⟨.ok (.ofUnits units), false, s'⟩
    | (s', some fault) => ⟨.error (.cache fault), false, s'⟩

/-- Packs tables with a cache: an entry that can stand for them is taken. Tables with a number that
is too long to be written have no key. -/
def packCached (s : Store) (file : String) (t : Tables) : Packing :=
  if !t.isWritable then ⟨.error (.cache .tooLong), false, s⟩
  else
    match lookupValid s file t with
    | .error fault => ⟨.error (.cache fault), false, s⟩
    | .ok none => packAndStore s file t
    | .ok (some data) => ⟨(PackedTables.ofEntry data).mapError .cache, true, s⟩

/-- Packs tables as a configuration asks for it. -/
def pack (c : Config) (s : Store) (t : Tables) : Packing :=
  match c.cacheId with
  | none => packPlain s t
  | some id => packCached s (fileOf id t c.compactReduces) t

end LalrBackend
