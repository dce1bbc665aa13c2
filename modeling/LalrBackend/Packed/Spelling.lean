/-!
# The value of a literal expression

What the generated module's own language makes of a sum of string literals in parentheses: an
escape of up to three octal digits, or of `u` and four hexadecimal digits, is one character, any
other character but the quote stands for itself, and the pieces are joined. Characters are given
by their code points.
-/

namespace LalrBackend.Packed

/-- The value of an octal digit. -/
def octalDigit? (c : Char) : Option Nat :=
  if '0' ≤ c ∧ c ≤ '7' then some (c.toNat - '0'.toNat) else none

/-- The value of a hexadecimal digit. -/
def hexDigit? (c : Char) : Option Nat :=
  if '0' ≤ c ∧ c ≤ '9' then some (c.toNat - '0'.toNat)
  else if 'a' ≤ c ∧ c ≤ 'f' then some (c.toNat - 'a'.toNat + 10)
  else if 'A' ≤ c ∧ c ≤ 'F' then some (c.toNat - 'A'.toNat + 10)
  else none

/-- Where the reading of a literal expression stands. -/
inductive SpellingState where
  | outside
  | inside
  | escape
  | octal (left value : Nat)
  | hex (left value : Nat)
  deriving Repr, DecidableEq

/-- Reads the characters of a literal expression one after the other, up to the parenthesis that
closes it, and gives the code points of its value. -/
def spelled? : SpellingState → List Char → Option (List Nat)
  | _, [] => none
  | .outside, c :: cs =>
    if c = '"' then spelled? .inside cs
    else if c = ')' then some []
    else if c = ' ' ∨ c = '+' ∨ c = '\n' then spelled? .outside cs
    else none
  | .inside, c :: cs =>
    if c = '"' then spelled? .outside cs
    else if c = '\\' then spelled? .escape cs
    else if c = '\n' then none
    else (spelled? .inside cs).map (c.toNat :: ·)
  | .escape, c :: cs =>
    if c = 'u' then spelled? (.hex 4 0) cs
    else match octalDigit? c with
      | some d => spelled? (.octal 2 d) cs
      | none => none
  | .octal left value, c :: cs =>
    match left, octalDigit? c with
    | left + 1, some d => spelled? (.octal left (value * 8 + d)) cs
    | _, _ =>
      if c = '"' then (spelled? .outside cs).map (value :: ·)
      else if c = '\\' then (spelled? .escape cs).map (value :: ·)
      else if c = '\n' then none
      else (spelled? .inside cs).map (value :: c.toNat :: ·)
  | .hex left value, c :: cs =>
    match left, hexDigit? c with
    | left + 1, some d =>
      if left = 0 then (spelled? .inside cs).map ((value * 16 + d) :: ·)
      else spelled? (.hex left (value * 16 + d)) cs
    | _, _ => none

/-- The code points of the text that literal lines spell. -/
def spelledLines? (lines : List String) : Option (List Nat) :=
  spelled? .outside (lines.flatMap fun l => l.toList ++ ['\n'])

end LalrBackend.Packed
