import LalrBackend.Decimal.Binary64

/-!
# Arithmetic of binary floating point

Sums, products and quotients. What two finite numbers give is the exact result, a fraction, rounded
once; an infinite number takes part as a limit would, and where there is none the result is not a
number.
-/

namespace LalrBackend.Binary64

/-- The number nearest to a fraction. An exact zero has the given sign. -/
def ofFraction (zeroIsNegative : Bool) (n : Int) (d : Nat) : Binary64 :=
  if n = 0 then signedZero zeroIsNegative else nearest (n < 0) n.natAbs d

/-- The number nearest to an integer. -/
def ofInt (n : Int) : Binary64 :=
  ofFraction false n 1

/-- Whether a number has the sign of negative ones; a zero may have it too. -/
def isNegative : Binary64 → Bool
  | .finite negative _ _ => negative
  | .infinite negative => negative
  | .notANumber => false

/-- The sum of two numbers. Zeros that cancel out are positive unless both are negative. -/
def plus (x y : Binary64) : Binary64 :=
  match x, y, x.fraction?, y.fraction? with
  | _, _, some (m, d), some (n, e) =>
    ofFraction (x.isNegative && y.isNegative) (m * e + n * d) (d * e)
  | .infinite a, .infinite b, _, _ => if a = b then .infinite a else .notANumber
  | .infinite a, .finite _ _ _, _, _ => .infinite a
  | .finite _ _ _, .infinite b, _, _ => .infinite b
  | _, _, _, _ => .notANumber

/-- The difference of two numbers. -/
def minus (x y : Binary64) : Binary64 :=
  x.plus y.negated

/-- The product of two numbers. There is none of zero and an infinite number. -/
def times (x y : Binary64) : Binary64 :=
  let negative := x.isNegative != y.isNegative
  match x.fraction?, y.fraction? with
  | some (m, d), some (n, e) => ofFraction negative (m * n) (d * e)
  | _, _ =>
    if x = .notANumber ∨ y = .notANumber ∨ x.equalsInt 0 ∨ y.equalsInt 0 then .notANumber
    else .infinite negative

/-- The quotient of a number and another one that is not zero. There is none of two infinite
numbers. -/
def dividedBy (x y : Binary64) : Binary64 :=
  let negative := x.isNegative != y.isNegative
  match x, y, x.fraction?, y.fraction? with
  | _, _, some (m, d), some (n, e) =>
    ofFraction negative (m * e * (if n < 0 then -1 else 1)) (d * n.natAbs)
  | .infinite _, .finite _ _ _, _, _ => .infinite negative
  | .finite _ _ _, .infinite _, _, _ => signedZero negative
  | _, _, _, _ => .notANumber

end LalrBackend.Binary64
