import LalrBackend.Json.Writer
import LalrBackend.Position

/-!
# Editing JSON

One value within another is replaced: first a member or an item of the whole is found by its key,
then a member or an item of that one is set. Only lists have items by position and only objects
have members; a key of an object that is no text is set as a new member under its written form.
-/

namespace LalrBackend

open Text

namespace JsonValue

/-- Why a value cannot be edited. -/
inductive EditError where
  | wrongKind
  | noMember
  | noSlot
  deriving Repr, DecidableEq

/-- The integer that a position is given by; a truth value counts as one or zero. -/
def index? : JsonValue → Option Int
  | .int n => some n
  | .bool b => some (if b then 1 else 0)
  | _ => none

/-- The place that a key names among `count` items. -/
def placeOf (count : Nat) (key : JsonValue) : Except EditError Nat :=
  match key.index? with
  | none => .error .wrongKind
  | some n =>
    match position? count n with
    | some k => .ok k
    | none => .error .noSlot

/-- Whether a value can be a key: neither a list nor an object can. -/
def isKey : JsonValue → Bool
  | .list _ => false
  | .object _ => false
  | _ => true

/-- The text of a key of an object. -/
def keyText : JsonValue → CodePoints
  | .text points => points
  | v => v.write.map Char.toNat

/-- Changes the member or item under a key. -/
def changeAt (key : JsonValue) (change : JsonValue → Except EditError JsonValue) :
    JsonValue → Except EditError JsonValue
  | .object members =>
    match key with
    | .text points =>
      match member? members points with
      | some v => do return .object (setMember points (← change v) members)
      | none => .error .noMember
    | key => .error (if key.isKey then .noMember else .wrongKind)
  | .list items => do
    let k ← placeOf items.length key
    return .list (items.set k (← change (items[k]?.getD .null)))
  | .text points => do
    let k ← placeOf points.length key
    let _ ← change (.text [points[k]?.getD 0])
    throw .wrongKind
  | _ => .error .wrongKind

/-- Whether a key is a number that is too large for any position. -/
def isFarIndex (key : JsonValue) : Bool :=
  (key.index?.map fun n => decide (n < -0x8000000000000000 ∨ 0x8000000000000000 ≤ n)).getD false

/-- Sets the member or item under a key. -/
def setAt (key value : JsonValue) : JsonValue → Except EditError JsonValue
  | .object members =>
    match key with
    | .text points => .ok (.object (setMember points value members))
    | key =>
      if key.isKey then .ok (.object (members ++ [(key.keyText, value)])) else .error .wrongKind
  | .list items => do return .list (items.set (← placeOf items.length key) value)
  | .text _ => .error (if key.isFarIndex then .noSlot else .wrongKind)
  | _ => .error .wrongKind

/-- Sets what stands under `inner` in what stands under `key`. -/
def edit (key inner value data : JsonValue) : Except EditError JsonValue :=
  changeAt key (setAt inner value) data

end JsonValue

end LalrBackend
