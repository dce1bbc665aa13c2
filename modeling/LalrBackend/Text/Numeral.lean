import LalrBackend.Text.Blank
import LalrBackend.Text.Digit

/-!
# Numerals

Integers are written in a base of up to sixteen, with lower-case digits, a minus sign where it is
needed and zeros after the sign up to a least width. Reading is more generous than writing: blanks
around the numeral, a sign of either kind, a base mark, single underscores between digits, digits
of either case and decimal digits of every script are accepted.
-/

namespace LalrBackend.Text

/-- The sign of a numeral as it is written. -/
def signText (n : Int) : List Char :=
  if n < 0 then ['-'] else []

/-- An integer in base ten. -/
def decimalChars (n : Int) : List Char :=
  signText n ++ Nat.toDigits 10 n.natAbs

/-- How many digits an integer may have to be written or read in base ten. -/
def mostDigits : Nat := 4300

/-- Whether an integer is short enough to be written in base ten. -/
def isWritable (n : Int) : Bool :=
  n.natAbs < Nat.pow 10 mostDigits

/-- An integer in base ten, as a string. -/
def decimal (n : Int) : String :=
  String.ofList (decimalChars n)

/-- An integer in a base, filled up with zeros after the sign until it has the given width. -/
def paddedNumeral (base width : Nat) (n : Int) : List Char :=
  let digits := Nat.toDigits base n.natAbs
  signText n ++ List.replicate (width - (signText n).length - digits.length) '0' ++ digits

/-- The ASCII digit of the same value as a decimal digit; any other character is kept. -/
def plainDigit (c : Char) : Char :=
  match decimalValue? c with
  | some d => Nat.digitChar d
  | none => c

/-- The value of a digit, letters counting from ten. -/
def digitValue? (c : Char) : Option Nat :=
  if '0' ≤ c ∧ c ≤ '9' then some (c.toNat - '0'.toNat)
  else if 'a' ≤ c ∧ c ≤ 'z' then some (c.toNat - 'a'.toNat + 10)
  else if 'A' ≤ c ∧ c ≤ 'Z' then some (c.toNat - 'A'.toNat + 10)
  else none

/-- The value of a digit in a base. -/
def digitIn? (base : Nat) (c : Char) : Option Nat :=
  (digitValue? c).filter (· < base)

/-- Reads digits of a base that may be parted by single underscores, going on from the value
`acc`. A digit is due first if `due`, and at the end none may be. -/
def readDigits? (base : Nat) : Nat → Bool → List Char → Option Nat
  | acc, due, [] => if due then none else some acc
  | acc, due, c :: cs =>
    if c = '_' then
      if due then none else readDigits? base acc true cs
    else
      match digitIn? base c with
      | some d => readDigits? base (acc * base + d) false cs
      | none => none

/-- Whether a character marks a base after a leading zero. -/
def marksBase (base : Nat) (c : Char) : Bool :=
  (base == 8 && (c == 'o' || c == 'O')) || (base == 16 && (c == 'x' || c == 'X'))

/-- Reads an unsigned numeral, with or without a base mark; one underscore may follow the mark. -/
def readNatural? (base : Nat) : List Char → Option Nat
  | '0' :: c :: cs =>
    if marksBase base c then
      match cs with
      | '_' :: ds => readDigits? base 0 true ds
      | ds => readDigits? base 0 true ds
    else readDigits? base 0 true ('0' :: c :: cs)
  | cs => readDigits? base 0 true cs

/-- The blanks that may stand around a numeral in ASCII. The separator controls are not among
them. -/
def isNumeralBlank (c : Char) : Bool :=
  c == ' ' || (9 ≤ c.toNat && c.toNat ≤ 13)

/-- A numeral in ASCII: beyond it, every blank becomes a space and every decimal digit the plain
one. -/
def plainNumeral (cs : List Char) : List Char :=
  cs.map fun c => if c.toNat < 128 then c else if isBlank c then ' ' else plainDigit c

/-- A numeral in ASCII without the blanks around it. -/
def bareNumeral (cs : List Char) : List Char :=
  trimBoth isNumeralBlank (plainNumeral cs)

/-- Reads an integer in a base. -/
def readInt? (base : Nat) (cs : List Char) : Option Int :=
  match bareNumeral cs with
  | '-' :: ds => (readNatural? base ds).map fun n => -(n : Int)
  | '+' :: ds => (readNatural? base ds).map fun n => (n : Int)
  | ds => (readNatural? base ds).map fun n => (n : Int)

end LalrBackend.Text
