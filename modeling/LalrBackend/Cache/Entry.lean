import LalrBackend.Cache.Key
import LalrBackend.Json.Reader

/-!
# Cache entries

An entry is a JSON object with the packed units of the three tables. An entry that was found is
used if, for each table, it has as many units as the packed table would have and the same low unit
of the length. Its other units are taken as they are. Looking into a value of another shape is a
fault, not a refusal.
-/

namespace LalrBackend.Cache

open Text

/-- Why the system refuses to make or to name a file or a directory. -/
inductive Refusal where
  | denied
  | parentMissing
  | occupied
  | isDirectory
  | notDirectory
  | interrupted
  | wouldBlock
  | noChild
  | brokenPipe
  | connectionAborted
  | connectionRefused
  | connectionReset
  | noProcess
  | timedOut
  | other
  deriving Repr, DecidableEq

/-- What can go wrong with the cache beyond a missing entry: what a file holds is no JSON, is nested
too deeply, has too long a number or is of the wrong shape, the system refuses a file or a
directory, a text or a name cannot be encoded, or a name holds the character zero. -/
inductive Fault where
  | notJson
  | tooDeep
  | tooLong
  | wrongKind
  | noMember
  | refused (reason : Refusal)
  | loneSurrogate
  | zeroInName
  deriving Repr, DecidableEq

/-- The fault of a text that cannot be read as JSON. -/
def Fault.ofReading : JsonValue.ReadError → Fault
  | .malformed => .notJson
  | .tooDeep => .tooDeep
  | .tooLong => .tooLong

/-- The keys of an entry, each with its table. -/
def Tables.members (t : Tables) : List (String × List Int) :=
  [("production_table", t.production), ("action_table", t.action), ("reduce_table", t.reduce)]

/-- Whether a list of code points stands somewhere in another one. -/
def occursIn (needle : CodePoints) : CodePoints → Bool
  | [] => needle.isEmpty
  | p :: ps => needle.isPrefixOf (p :: ps) || occursIn needle ps

/-- Whether a value is the given text. -/
def isText (points : CodePoints) : JsonValue → Bool
  | .text other => points == other
  | _ => false

/-- Whether a key is found in a value: as a member of an object, an item of a list or a part of a
text. -/
def hasKey (key : String) : JsonValue → Except Fault Bool
  | .object members => .ok (JsonValue.member? members (pointsOf key)).isSome
  | .list items => .ok (items.any (isText (pointsOf key)))
  | .text points => .ok (occursIn (pointsOf key) points)
  | _ => .error .wrongKind

/-- The value of a key, which only an object has. -/
def memberOf (key : String) : JsonValue → Except Fault JsonValue
  | .object members =>
    match JsonValue.member? members (pointsOf key) with
    | some v => .ok v
    | none => .error .noMember
  | _ => .error .wrongKind

/-- How many parts a value has. -/
def sizeOf : JsonValue → Except Fault Nat
  | .list items => .ok items.length
  | .text points => .ok points.length
  | .object members => .ok members.length
  | _ => .error .wrongKind

/-- Whether the second of the units is the low unit of a length. A text has characters there, which
equal no number; an object has no second unit. -/
def lowUnitIs (length : Nat) : JsonValue → Except Fault Bool
  | .list items =>
    match items[1]? with
    | some v => .ok (v.isNumber (length % 0x10000 : Nat))
    | none => .error .noMember
  | .text _ => .ok false
  | _ => .error .noMember

/-- Whether an entry has units for one table. -/
def memberFits (data : JsonValue) (key : String) (table : List Int) : Except Fault Bool := do
  if !(← hasKey key data) then return false
  let units ← memberOf key data
  if (← sizeOf units) ≠ table.length + 3 then return false
  lowUnitIs table.length units

/-- Whether an entry has units for all of several tables; the first one that it lacks decides. -/
def allFit (data : JsonValue) : List (String × List Int) → Except Fault Bool
  | [] => .ok true
  | (key, table) :: rest => do
    if ← memberFits data key table then allFit data rest else return false

/-- Whether an entry can stand for the given tables. -/
def isValid (data : JsonValue) (t : Tables) : Except Fault Bool :=
  allFit data t.members

/-- A unit as the number that it is written as; the truth values count as one and zero. -/
def unitOf : JsonValue → Except Fault Int
  | .int n => .ok n
  | .bool b => .ok (if b then 1 else 0)
  | _ => .error .wrongKind

end LalrBackend.Cache
