import LalrBackend.Decimal.Binary64
import LalrBackend.Text.CodePoint

/-!
# JSON values

Text is kept as a list of code points, because an escape may name a surrogate on its own. The
members of an object keep their order; a later member replaces an earlier one of the same key.
-/

namespace LalrBackend

open Text

/-- A JSON value. -/
inductive JsonValue where
  | null
  | bool (b : Bool)
  | int (n : Int)
  | real (x : Binary64)
  | text (points : CodePoints)
  | list (items : List JsonValue)
  | object (members : List (CodePoints × JsonValue))
  deriving Inhabited

namespace JsonValue

/-- The value of a key. -/
def member? (members : List (CodePoints × JsonValue)) (key : CodePoints) : Option JsonValue :=
  members.lookup key

/-- Sets a key: in its place if it is there, else at the end. -/
def setMember (key : CodePoints) (value : JsonValue) :
    List (CodePoints × JsonValue) → List (CodePoints × JsonValue)
  | [] => [(key, value)]
  | m :: ms => if m.1 = key then (key, value) :: ms else m :: setMember key value ms

/-- A list of integers. -/
def ofInts (ns : List Int) : JsonValue :=
  .list (ns.map .int)

/-- Whether a value is a number equal to an integer; the truth values count as one and zero. -/
def isNumber (k : Int) : JsonValue → Bool
  | .int n => n == k
  | .bool b => (if b then 1 else 0) == k
  | .real x => x.equalsInt k
  | _ => false

end JsonValue

end LalrBackend
