import LalrBackend.Text.CodePoint
import LalrBackend.Text.Printable

/-!
# Quoted text

A text is shown between single quotes, or between double ones if it holds a single quote and no
double one. The backslash, the quote in use, line feed, carriage return and tab are escaped by a
letter or by themselves, other characters without a printed form by their code point.
-/

namespace LalrBackend.Text

/-- A code point in lower-case hexadecimal digits, filled up to a width. -/
def hexPoint (width point : Nat) : List Char :=
  let digits := Nat.toDigits 16 point
  List.replicate (width - digits.length) '0' ++ digits

/-- The shortest escape that can hold a code point. -/
def pointEscape (point : Nat) : List Char :=
  if point < 256 then '\\' :: 'x' :: hexPoint 2 point
  else if point < 65536 then '\\' :: 'u' :: hexPoint 4 point
  else '\\' :: 'U' :: hexPoint 8 point

/-- One character between the given quotes. -/
def quotedChar (mark c : Char) : List Char :=
  if c = mark ∨ c = '\\' then ['\\', c]
  else if c = '\n' then ['\\', 'n']
  else if c = '\r' then ['\\', 'r']
  else if c = '\t' then ['\\', 't']
  else if isPrintable c then [c]
  else pointEscape c.toNat

/-- One code point between the given quotes. A surrogate is no character and has no printed form. -/
def quotedPoint (mark : Char) (point : Nat) : List Char :=
  if isSurrogate point then pointEscape point else quotedChar mark (Char.ofNat point)

/-- The quote to use around a text. -/
def quoteMark (cs : List Char) : Char :=
  if '\'' ∈ cs ∧ '"' ∉ cs then '"' else '\''

/-- A text between quotes, as a list of characters. -/
def quotedChars (cs : List Char) : List Char :=
  quoteMark cs :: (pointsOfChars cs).flatMap (quotedPoint (quoteMark cs)) ++ [quoteMark cs]

/-- A text between quotes. -/
def quoted (s : String) : String :=
  String.ofList (quotedChars s.toList)

end LalrBackend.Text
