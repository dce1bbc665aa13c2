import LalrBackend.Json.Value

/-!
# Writing JSON

A value is written on one line in ASCII, with a blank after each comma and colon.
-/

namespace LalrBackend

open Text

namespace JsonValue

/-- An escape of four hexadecimal digits. -/
def unitEscape (unit : Nat) : List Char :=
  '\\' :: 'u' :: paddedNumeral 16 4 unit

/-- One code point between the quotes of a JSON text; what lies beyond the first plane is escaped
as a pair of surrogates. -/
def writePoint (point : Nat) : List Char :=
  if point = 34 then ['\\', '"']
  else if point = 92 then ['\\', '\\']
  else if point = 10 then ['\\', 'n']
  else if point = 13 then ['\\', 'r']
  else if point = 9 then ['\\', 't']
  else if point = 12 then ['\\', 'f']
  else if point = 8 then ['\\', 'b']
  else if 32 ≤ point ∧ point < 127 then [Char.ofNat point]
  else if point < 0x10000 then unitEscape point
  else
    let offset := point - 0x10000
    unitEscape (0xd800 + offset / 0x400) ++ unitEscape (0xdc00 + offset % 0x400)

/-- A text between quotes. -/
def writeText (points : CodePoints) : List Char :=
  '"' :: points.flatMap writePoint ++ ['"']

/-- A floating-point number; infinity and what is not a number have names. -/
def writeReal : Binary64 → List Char
  | .notANumber => "NaN".toList
  | .infinite negative => (if negative then "-Infinity" else "Infinity").toList
  | x => x.toChars

/-- What stands between two items. -/
def itemMark : List Char := [',', ' ']

/-- A list of integers. -/
def writeInts (ns : List Int) : List Char :=
  '[' :: itemMark.intercalate (ns.map decimalChars) ++ [']']

mutual

/-- A value as it is written. -/
def write : JsonValue → List Char
  | .null => "null".toList
  | .bool b => (if b then "true" else "false").toList
  | .int n => decimalChars n
  | .real x => writeReal x
  | .text points => writeText points
  | .list items => '[' :: itemMark.intercalate (writeItems items) ++ [']']
  | .object members => '\x7b' :: itemMark.intercalate (writeMembers members) ++ ['\x7d']

/-- The items of a list as they are written. -/
def writeItems : List JsonValue → List (List Char)
  | [] => []
  | v :: vs => write v :: writeItems vs

/-- The members of an object as they are written. -/
def writeMembers : List (CodePoints × JsonValue) → List (List Char)
  | [] => []
  | (key, v) :: ms => (writeText key ++ ':' :: ' ' :: write v) :: writeMembers ms

end

/-- A value as a string. -/
def toText (v : JsonValue) : String :=
  String.ofList v.write

end JsonValue

end LalrBackend
