import LalrBackend.Json.Value
import LalrBackend.Text.Numeral

/-!
# Reading JSON

A text is read as one value, with blanks around it and nothing else. Besides the JSON numbers,
infinity, minus infinity and what is not a number are read by name. A reader of a part gives the
value with the characters that follow it, or tells why there is none. Each character is a code
point. Of the numbers that the readers of values carry, the first bounds how long they run, for
which the length of the text is always enough, and the second how deep they go.
-/

namespace LalrBackend

open Text

namespace JsonValue

/-- The blanks of JSON. -/
def isJsonBlank (c : Char) : Bool :=
  c == ' ' || c == '\t' || c == '\n' || c == '\r'

/-- Drops blanks at the front. -/
def skipBlanks (cs : List Char) : List Char :=
  cs.dropWhile isJsonBlank

/-- The value of a hexadecimal digit. -/
def hexValue? (c : Char) : Option Nat :=
  if '0' ≤ c ∧ c ≤ '9' then some (c.toNat - '0'.toNat)
  else if 'a' ≤ c ∧ c ≤ 'f' then some (c.toNat - 'a'.toNat + 10)
  else if 'A' ≤ c ∧ c ≤ 'F' then some (c.toNat - 'A'.toNat + 10)
  else none

/-- Reads the four digits of an escape. -/
def readUnit? : List Char → Option (Nat × List Char)
  | a :: b :: c :: d :: cs => do
    let a ← hexValue? a
    let b ← hexValue? b
    let c ← hexValue? c
    let d ← hexValue? d
    return (((a * 16 + b) * 16 + c) * 16 + d, cs)
  | _ => none

/-- The code point of a letter escape. -/
def letterEscape? (c : Char) : Option Nat :=
  match c with
  | '"' => some 34
  | '\\' => some 92
  | '/' => some 47
  | 'b' => some 8
  | 'f' => some 12
  | 'n' => some 10
  | 'r' => some 13
  | 't' => some 9
  | _ => none

/-- Puts a unit that an escape named before the code points that follow: a high surrogate joins a
low one that an escape named next. -/
def joinUnit (unit : Nat) (next : Option Nat) : Option Nat :=
  match next with
  | some low =>
    if 0xd800 ≤ unit ∧ unit ≤ 0xdbff ∧ 0xdc00 ≤ low ∧ low ≤ 0xdfff then
      some (0x10000 + (unit - 0xd800) * 0x400 + (low - 0xdc00))
    else none
  | none => none

/-- The unit of the escape at the front, if there is one. -/
def peekUnit? : List Char → Option Nat
  | '\\' :: 'u' :: cs => (readUnit? cs).map (·.1)
  | _ => none

/-- Reads a text after its opening quote. -/
def readText? : Nat → List Char → Option (CodePoints × List Char)
  | 0, _ => none
  | _ + 1, [] => none
  | _ + 1, '"' :: cs => some ([], cs)
  | fuel + 1, '\\' :: 'u' :: cs => do
    let (unit, rest) ← readUnit? cs
    match joinUnit unit (peekUnit? rest) with
    | some point =>
      let (points, rest) ← readText? fuel (rest.drop 6)
      return (point :: points, rest)
    | none =>
      let (points, rest) ← readText? fuel rest
      return (unit :: points, rest)
  | fuel + 1, '\\' :: c :: cs => do
    let point ← letterEscape? c
    let (points, rest) ← readText? fuel cs
    return (point :: points, rest)
  | fuel + 1, c :: cs =>
    if c.toNat < 32 ∨ c = '\\' then none
    else do
      let (points, rest) ← readText? fuel cs
      return (c.toNat :: points, rest)

/-- Whether the characters after the digits of an integer make it a floating-point number. -/
def isFractional : List Char → Bool
  | '.' :: c :: _ => c.isDigit
  | e :: c :: cs =>
    (e == 'e' || e == 'E') &&
      (c.isDigit || ((c == '+' || c == '-') && (cs.head?.map Char.isDigit).getD false))
  | _ => false

/-- Why a text cannot be read: it is not JSON, or one of its parts is nested too deeply or is too
long a number. -/
inductive ReadError where
  | malformed
  | tooDeep
  | tooLong
  deriving Repr, DecidableEq

/-- A part that there may be, with what follows it. -/
def due {α : Type} (part : Option α) : Except ReadError α :=
  match part with
  | some a => .ok a
  | none => .error .malformed

/-- The integer that digits spell. -/
def ofDigits (digits : List Char) : Nat :=
  digits.foldl (fun n c => n * 10 + (c.toNat - '0'.toNat)) 0

/-- Reads a number after its sign. A leading zero stands alone. -/
def readNumber (mostDigits : Nat) (negative : Bool) (cs : List Char) :
    Except ReadError (JsonValue × List Char) :=
  let digits := cs.takeWhile Char.isDigit
  let rest := cs.dropWhile Char.isDigit
  match digits with
  | [] => .error .malformed
  | d :: ds =>
    let whole := if d = '0' then ['0'] else d :: ds
    let rest := if d = '0' then ds ++ rest else rest
    if isFractional rest then
      due ((Binary64.readUnsigned? negative (whole ++ rest)).map fun (x, rest) => (.real x, rest))
    else if mostDigits < whole.length then .error .tooLong
    else
      let n := ofDigits whole
      .ok (.int (if negative then -(n : Int) else n), rest)

/-- The words of JSON and what they stand for. -/
def words : List (String × JsonValue) := [
  ("null", .null), ("true", .bool true), ("false", .bool false), ("NaN", .real .notANumber),
  ("Infinity", .real (.infinite false)), ("-Infinity", .real (.infinite true))]

/-- Reads a word. -/
def readWord? (cs : List Char) : Option (JsonValue × List Char) :=
  words.findSome? fun (word, v) =>
    if word.toList.isPrefixOf cs then some (v, cs.drop word.length) else none

/-- Reads a word or a number. -/
def readScalar (mostDigits : Nat) (cs : List Char) : Except ReadError (JsonValue × List Char) :=
  match readWord? cs with
  | some r => .ok r
  | none =>
    match cs with
    | '-' :: ds => readNumber mostDigits true ds
    | ds => readNumber mostDigits false ds

mutual

/-- Reads a value, which may be nested as deep as `room` says. -/
def readValue (mostDigits : Nat) : Nat → Nat → List Char → Except ReadError (JsonValue × List Char)
  | 0, _, _ => .error .malformed
  | fuel + 1, room, cs =>
    match cs with
    | '"' :: rest =>
      due ((readText? (rest.length + 1) rest).map fun (points, rest) => (.text points, rest))
    | '[' :: rest =>
      match room with
      | 0 => .error .tooDeep
      | room + 1 =>
        match skipBlanks rest with
        | ']' :: rest => .ok (.list [], rest)
        | rest =>
          (readItems mostDigits fuel room rest).map fun (items, rest) => (.list items, rest)
    | '\x7b' :: rest =>
      match room with
      | 0 => .error .tooDeep
      | room + 1 =>
        match skipBlanks rest with
        | '\x7d' :: rest => .ok (.object [], rest)
        | rest =>
          (readMembers mostDigits fuel room [] rest).map fun (members, rest) =>
            (.object members, rest)
    | cs => readScalar mostDigits cs

/-- Reads the items of a list up to the bracket that closes it. -/
def readItems (mostDigits : Nat) :
    Nat → Nat → List Char → Except ReadError (List JsonValue × List Char)
  | 0, _, _ => .error .malformed
  | fuel + 1, room, cs => do
    let (v, rest) ← readValue mostDigits fuel room cs
    match skipBlanks rest with
    | ']' :: rest => return ([v], rest)
    | ',' :: rest =>
      let (vs, rest) ← readItems mostDigits fuel room (skipBlanks rest)
      return (v :: vs, rest)
    | _ => throw .malformed

/-- Reads the members of an object up to the brace that closes it, after those read before. -/
def readMembers (mostDigits : Nat) : Nat → Nat → List (CodePoints × JsonValue) → List Char →
    Except ReadError (List (CodePoints × JsonValue) × List Char)
  | 0, _, _, _ => .error .malformed
  | fuel + 1, room, members, cs =>
    match cs with
    | '"' :: rest => do
      let (key, rest) ← due (readText? (rest.length + 1) rest)
      match skipBlanks rest with
      | ':' :: rest =>
        let (v, rest) ← readValue mostDigits fuel room (skipBlanks rest)
        let members := setMember key v members
        match skipBlanks rest with
        | '\x7d' :: rest => return (members, rest)
        | ',' :: rest => readMembers mostDigits fuel room members (skipBlanks rest)
        | _ => throw .malformed
      | _ => throw .malformed
    | _ => .error .malformed

end

/-- Reads a whole text whose parts may be nested as deep as `room` says and whose integers may have
`mostDigits` digits. -/
def readWhole (room mostDigits : Nat) (cs : List Char) : Except ReadError JsonValue := do
  let (v, rest) ← readValue mostDigits (cs.length + 1) room (skipBlanks cs)
  if (skipBlanks rest).isEmpty then return v else throw .malformed

/-- Reads characters without a limit. -/
def ofChars? (cs : List Char) : Option JsonValue :=
  (readWhole cs.length cs.length cs).toOption

/-- How deep the parts of a stored text may be nested. -/
def mostNested : Nat := 985

/-- Reads a stored text. -/
def ofText (text : String) : Except ReadError JsonValue :=
  readWhole mostNested mostDigits ((pointsOf text).map Char.ofNat)

end JsonValue

end LalrBackend
