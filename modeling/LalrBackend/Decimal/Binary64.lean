import LalrBackend.Text.Numeral

/-!
# Binary floating point

Numbers of 53 significant bits with a bounded binary exponent. A decimal is read as the nearest
such number, a tie going to the even one; a number is written with the fewest digits that read
back as it.
-/

namespace LalrBackend

open Text

/-- A floating-point number. A finite one is its mantissa times a power of two, with the mantissa
of at most 53 bits and the exponent the least that it can be. -/
inductive Binary64 where
  | finite (negative : Bool) (mantissa : Nat) (exponent : Int)
  | infinite (negative : Bool)
  | notANumber
  deriving Repr, DecidableEq

namespace Binary64

/-- The quotient to the nearest integer, a tie going to the even one. -/
def roundHalfEven (n d : Nat) : Nat :=
  let q := n / d
  let r := n % d
  if d < 2 * r ∨ (2 * r = d ∧ q % 2 = 1) then q + 1 else q

/-- Scales a fraction by a power of a base. -/
def scale (base : Nat) (power : Int) (n d : Nat) : Nat × Nat :=
  if 0 ≤ power then (n * Nat.pow base power.toNat, d) else (n, d * Nat.pow base (-power).toNat)

/-- The least number of more than 53 bits. -/
def mantissaLimit : Nat := 0x20000000000000

/-- The number nearest to a positive fraction. -/
def nearest (negative : Bool) (n d : Nat) : Binary64 :=
  let guess : Int := (n.log2 : Int) - d.log2 - 53
  let (gn, gd) := scale 2 (-guess) n d
  let exponent := max (if gd * mantissaLimit ≤ gn then guess + 1 else guess) (-1074)
  let (sn, sd) := scale 2 (-exponent) n d
  let mantissa := roundHalfEven sn sd
  let (mantissa, exponent) :=
    if mantissa = mantissaLimit then (mantissaLimit / 2, exponent + 1) else (mantissa, exponent)
  if 971 < exponent then .infinite negative else .finite negative mantissa exponent

/-- Zero with a sign. -/
def signedZero (negative : Bool) : Binary64 :=
  .finite negative 0 (-1074)

/-- The number nearest to `digits` times ten to a power. -/
def ofDecimal (negative : Bool) (digits : Nat) (power : Int) : Binary64 :=
  let size : Int := (Nat.toDigits 10 digits).length + power
  if digits = 0 ∨ size < -400 then signedZero negative
  else if 400 < size then .infinite negative
  else
    let (n, d) := scale 10 power digits 1
    nearest negative n d

/-- The power of ten just above a positive fraction. -/
def decimalPoint (n d : Nat) : Int :=
  let guess : Int := (Nat.toDigits 10 n).length - (Nat.toDigits 10 d).length
  let (sn, sd) := scale 10 (-guess) n d
  if sd ≤ sn then guess + 1 else guess

/-- The decimal with the given number of digits that is nearest to a fraction among the two beside
it which read back as `x`, the even one on a tie: its digits, if there is one. -/
def digitsOf? (x : Binary64) (n d : Nat) (point : Int) (count : Nat) : Option Nat :=
  let power := point - count
  let (sn, sd) := scale 10 (-power) n d
  let low := sn / sd
  let reads := fun digits => decide (ofDecimal false digits power = x)
  match reads low, reads (low + 1) with
  | true, true => some (roundHalfEven sn sd)
  | true, false => some low
  | false, true => some (low + 1)
  | false, false => none

/-- The fewest digits that read back as `x`, with the power of ten that they are multiples of. -/
def shortest (x : Binary64) (n d : Nat) : Nat × Int :=
  let point := decimalPoint n d
  let found := (List.range 17).findSome? fun count =>
    (digitsOf? x n d point (count + 1)).map fun digits => (digits, point - (count + 1))
  found.getD (n, 0)

/-- Digits as they are written: positional with a fractional part between 10^-4 and 10^16, with an
exponent of at least two digits elsewhere. -/
def writeDigits (digits : List Char) (point : Int) : List Char :=
  if -4 < point ∧ point ≤ 16 then
    if point ≤ 0 then '0' :: '.' :: List.replicate (-point).toNat '0' ++ digits
    else
      let whole := digits.take point.toNat
      let fraction := digits.drop point.toNat
      whole ++ List.replicate (point.toNat - whole.length) '0' ++ '.' ::
        (if fraction.isEmpty then ['0'] else fraction)
  else
    let power := point - 1
    let sign := if power < 0 then '-' else '+'
    let tail := digits.drop 1
    digits.take 1 ++ (if tail.isEmpty then [] else '.' :: tail) ++
      'e' :: sign :: paddedNumeral 10 2 power.natAbs

/-- A number as it is written. -/
def toChars : Binary64 → List Char
  | .notANumber => ['n', 'a', 'n']
  | .infinite negative => signText (if negative then -1 else 1) ++ ['i', 'n', 'f']
  | .finite negative mantissa exponent =>
    signText (if negative then -1 else 1) ++
      if mantissa = 0 then ['0', '.', '0']
      else
        let (n, d) := scale 2 exponent mantissa 1
        let (digits, power) := shortest (.finite false mantissa exponent) n d
        let all := Nat.toDigits 10 digits
        let digits := dropEnd (· == '0') all
        writeDigits digits (power + all.length)

/-- A number with the other sign. -/
def negated : Binary64 → Binary64
  | .finite negative mantissa exponent => .finite (!negative) mantissa exponent
  | .infinite negative => .infinite (!negative)
  | .notANumber => .notANumber

/-- Whether a number is equal to an integer. -/
def equalsInt : Binary64 → Int → Bool
  | .finite negative mantissa exponent, k =>
    let (n, d) := scale 2 exponent mantissa 1
    k * (d : Int) == (if negative then -(n : Int) else n)
  | _, _ => false

/-- Whether two numbers are equal: zero equals minus zero, and what is not a number equals
nothing. -/
def equals : Binary64 → Binary64 → Bool
  | .notANumber, _ => false
  | .finite _ 0 _, .finite _ 0 _ => true
  | a, b => decide (a = b)

/-- A finite number as a fraction. -/
def fraction? : Binary64 → Option (Int × Nat)
  | .finite negative mantissa exponent =>
    let (n, d) := scale 2 exponent mantissa 1
    some (if negative then -(n : Int) else n, d)
  | _ => none

/-- How a number stands to a fraction, if there is an order. -/
def order? (x : Binary64) (n : Int) (d : Nat) : Option Ordering :=
  match x, x.fraction? with
  | .infinite negative, _ => some (if negative then .lt else .gt)
  | _, some (m, e) => some (compare (m * d) (n * e))
  | _, none => none

/-- Reads an unsigned decimal with an optional fraction and an optional exponent. The digits
before the point, those after it and the exponent's are given with what follows them. -/
def readUnsigned? (negative : Bool) (cs : List Char) : Option (Binary64 × List Char) :=
  let whole := cs.takeWhile Char.isDigit
  let rest := cs.dropWhile Char.isDigit
  let (fraction, rest) :=
    match rest with
    | '.' :: more => (more.takeWhile Char.isDigit, more.dropWhile Char.isDigit)
    | _ => ([], rest)
  let value := fun (power : Int) =>
    let digits := (whole ++ fraction).foldl (fun n c => n * 10 + (c.toNat - '0'.toNat)) 0
    ofDecimal negative digits (power - fraction.length)
  if whole.isEmpty ∧ fraction.isEmpty then none
  else match rest with
    | e :: more =>
      if e = 'e' ∨ e = 'E' then
        let (sign, digits) : Int × List Char :=
          match more with
          | '-' :: ds => (-1, ds)
          | '+' :: ds => (1, ds)
          | ds => (1, ds)
        let power := digits.takeWhile Char.isDigit
        if power.isEmpty then some (value 0, rest)
        else
          let size := power.foldl (fun n c => n * 10 + (c.toNat - '0'.toNat)) 0
          some (value (sign * size), digits.dropWhile Char.isDigit)
      else some (value 0, rest)
    | [] => some (value 0, [])

/-- Takes out underscores, each of which must stand between two digits. The character before, if
there is one, is given. -/
def joinDigits? (before : Option Char) : List Char → Option (List Char)
  | [] => some []
  | '_' :: cs =>
    if (before.map Char.isDigit).getD false && (cs.head?.map Char.isDigit).getD false then
      joinDigits? none cs
    else none
  | c :: cs => (joinDigits? (some c) cs).map (c :: ·)

/-- Reads a whole text without a sign, infinity and what is not a number also by name. -/
def ofUnsigned? (negative : Bool) (cs : List Char) : Option Binary64 :=
  let word := String.ofList (cs.map Char.toLower)
  if word = "inf" ∨ word = "infinity" then some (.infinite negative)
  else if word = "nan" then some .notANumber
  else match readUnsigned? negative cs with
    | some (x, []) => some x
    | _ => none

/-- Reads a whole text as a number: blanks around it, a sign, digits of every script and single
underscores between digits are accepted. -/
def ofText? (text : String) : Option Binary64 := do
  match ← joinDigits? none (bareNumeral text.toList) with
  | '-' :: cs => ofUnsigned? true cs
  | '+' :: cs => ofUnsigned? false cs
  | cs => ofUnsigned? false cs

end Binary64

end LalrBackend
