import LalrBackend.GeneratorError

/-!
# Packed units

A table of signed 16-bit values is packed into unsigned units: two units for its length, one for
the offset that makes all values non-negative, then the shifted values. Unpacking takes the units
apart again and refuses a list that ends too early; what follows the announced values is ignored.
-/

namespace LalrBackend.Packed

/-- The values that a table can hold. -/
def fits (value : Int) : Bool :=
  -0x8000 ≤ value && value ≤ 0x7fff

/-- The least value of a table, or zero if none is negative. -/
def lowest (values : List Int) : Int :=
  values.foldl min 0

/-- The length in two units, then the offset. -/
def header (values : List Int) : List Int :=
  [(values.length / 0x10000 : Nat), (values.length % 0x10000 : Nat), -lowest values]

/-- Packs a table; the first value that does not fit is reported. -/
def encode (values : List Int) : Except GeneratorError (List Int) :=
  match values.find? fun v => !fits v with
  | some v => .error (.valueTooWide v)
  | none =>
    let low := lowest values
    .ok (header values ++ values.map (· - low))

/-- Why units cannot be unpacked. -/
inductive DecodeError where
  | noHeader
  | truncated (expected : Int) (got : Nat)
  deriving Repr, DecidableEq

/-- The wording of an unpacking error; a missing header has none, and neither has a length that is
too long to be written. -/
def DecodeError.message? : DecodeError → Option String
  | .noHeader => none
  | .truncated expected got =>
    if Text.isWritable expected then
      some ("Packed table truncated: expected " ++ Text.decimal expected ++ " values, got " ++
        Text.decimal got)
    else none

/-- Bitwise disjunction of integers in two's complement. -/
def bitOr : Int → Int → Int
  | .ofNat a, .ofNat b => .ofNat (a ||| b)
  | .ofNat a, .negSucc b => .negSucc (b - (b &&& a))
  | .negSucc a, .ofNat b => .negSucc (a - (a &&& b))
  | .negSucc a, .negSucc b => .negSucc (a &&& b)

/-- The length that the two first units announce. -/
def announced (high low : Int) : Int :=
  bitOr (high * 0x10000) low

/-- Where a cut ends in a list of the given size; a negative end counts from the back. -/
def cutEnd (size : Nat) (stop : Int) : Nat :=
  if stop < 0 then (stop + size).toNat else stop.toNat

/-- The units after the header, up to the announced length. -/
def body (units : List Int) (length : Int) : List Int :=
  (units.take (cutEnd units.length (3 + length))).drop 3

/-- Unpacks a table. -/
def decode (units : List Int) : Except DecodeError (List Int) :=
  match units with
  | high :: low :: offset :: _ =>
    let length := announced high low
    let shifted := body units length
    if (shifted.length : Int) = length then .ok (shifted.map (· - offset))
    else .error (.truncated length shifted.length)
  | _ => .error .noHeader

/-- Unpacks a table from a text whose code points are the units. -/
def decodeText (text : String) : Except DecodeError (List Int) :=
  decode ((Text.pointsOf text).map Int.ofNat)

end LalrBackend.Packed
