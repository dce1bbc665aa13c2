import LalrBackend.Json.Writer
import LalrBackend.Sha1

/-!
# Keys of cached tables

Cached tables are found under the digest of what they were packed from: the three tables written as
JSON lists one after the other, then one byte for the way the action table was compressed.
-/

namespace LalrBackend.Cache

open Text

/-- The three tables that a parser needs. -/
structure Tables where
  production : List Int
  action : List Int
  reduce : List Int
  deriving Repr, DecidableEq

/-- The characters of the three tables, one after the other. -/
def Tables.written (t : Tables) : List Char :=
  JsonValue.writeInts t.production ++ JsonValue.writeInts t.action ++
    JsonValue.writeInts t.reduce

/-- Whether all numbers of the tables are short enough to be written. -/
def Tables.isWritable (t : Tables) : Bool :=
  (t.production ++ t.action ++ t.reduce).all Text.isWritable

/-- The bytes that are digested. -/
def keyBytes (t : Tables) (flag : UInt8) : List UInt8 :=
  t.written.map (fun c => UInt8.ofNat c.toNat) ++ [flag]

/-- The key of tables. -/
def key (t : Tables) (flag : UInt8) : String :=
  Sha1.hexDigest (keyBytes t flag)

/-- The key of tables under a flag given as a number; a flag that fits no byte has no key. -/
def keyOfNumber? (t : Tables) (flag : Int) : Option String :=
  if 0 ≤ flag ∧ flag < 256 then some (key t (UInt8.ofNat flag.toNat)) else none

/-- The byte of a truth value. -/
def flagOf (compact : Bool) : UInt8 :=
  if compact then 1 else 0

/-- The version of the stored form. -/
def version : Nat := 1

/-- The name of the file that holds the tables of a cache identifier and a key. -/
def fileName (id : String) (key : String) : String :=
  id ++ "-" ++ decimal version ++ "-" ++ key ++ ".json"

end LalrBackend.Cache
