/-!
# Positions

A position in a sequence is given by a number from its front or, if negative, from its end.
-/

namespace LalrBackend

/-- The position that a number names among `count` places. -/
def position? (count : Nat) (number : Int) : Option Nat :=
  let fromFront := if number < 0 then number + count else number
  if 0 ≤ fromFront ∧ fromFront < count then some fromFront.toNat else none

theorem lt_of_position?_eq_some {count p : Nat} {number : Int}
    (h : position? count number = some p) : p < count := by
  unfold position? at h
  simp only [Option.ite_none_right_eq_some, Option.some.injEq] at h
  omega

theorem position?_of_nonneg {count : Nat} {number : Int} (hnonneg : 0 ≤ number)
    (hlt : number < count) : position? count number = some number.toNat := by
  have hfront : ¬ number < 0 := by omega
  unfold position?
  simp [hfront, hnonneg, hlt]

theorem position?_of_neg {count : Nat} {number : Int} (hneg : number < 0)
    (hle : -(count : Int) ≤ number) :
    position? count number = some (number + count).toNat := by
  have hpos : 0 ≤ number + count ∧ number + count < count := by omega
  unfold position?
  simp only [hneg, if_true, if_pos hpos]

end LalrBackend
