import LalrBackend.Text.Numeral
import Mathlib.Tactic.Common
import Mathlib.Tactic.IntervalCases

/-!
# Digits of a fixed width

A numeral that is filled up with zeros spells a number that fits into its width
digit by digit, the highest one first. Escapes of every kind are read in this
form: each of their digits has a value, and the values make up the number again.
-/

namespace LalrBackend.Text

/-- The digits of a number in a base, exactly `width` of them. -/
def fixedDigits (base : Nat) : Nat → Nat → List Char
  | 0, _ => []
  | width + 1, n => fixedDigits base width (n / base) ++ [Nat.digitChar (n % base)]

theorem fixedDigits_length (base : Nat) :
    ∀ width n : Nat, (fixedDigits base width n).length = width := by
  intro width
  induction width with
  | zero => intro n; rfl
  | succ width ih =>
      intro n
      rw [fixedDigits, List.length_append, ih]
      rfl

theorem fixedDigits_zero (base : Nat) :
    ∀ width : Nat, fixedDigits base width 0 = List.replicate width '0' := by
  intro width
  induction width with
  | zero => rfl
  | succ width ih =>
      rw [fixedDigits, Nat.zero_div, Nat.zero_mod, ih, List.replicate_succ']
      rfl

/-- Zeros in front of the digits of a number fill them up to the width. -/
theorem replicate_append_toDigits {base : Nat} (hbase : 1 < base) :
    ∀ {width n : Nat}, n < base ^ (width + 1) →
      List.replicate (width + 1 - (Nat.toDigits base n).length) '0' ++
          Nat.toDigits base n = fixedDigits base (width + 1) n := by
  intro width
  induction width with
  | zero =>
      intro n hn
      rw [Nat.zero_add, Nat.pow_one] at hn
      rw [Nat.toDigits_of_lt_base hn, fixedDigits, Nat.mod_eq_of_lt hn]
      rfl
  | succ width ih =>
      intro n hn
      rw [fixedDigits]
      -- A number of one digit is filled up at once, any other one before its last digit.
      by_cases hsmall : n < base
      · have hdiv : n / base = 0 := Nat.div_eq_of_lt hsmall
        rw [Nat.toDigits_of_lt_base hsmall, hdiv, fixedDigits_zero,
          Nat.mod_eq_of_lt hsmall]
        rfl
      · have hquot : n / base < base ^ (width + 1) := by
          rw [Nat.div_lt_iff_lt_mul (Nat.lt_trans Nat.zero_lt_one hbase)]
          rwa [Nat.pow_succ] at hn
        rw [Nat.toDigits_of_base_le hbase (Nat.le_of_not_lt hsmall), ← ih hquot,
          List.length_append, List.length_singleton, Nat.add_sub_add_right,
          List.append_assoc]

/-- A number that fits into the width is written with exactly that many digits. -/
theorem paddedNumeral_natCast {base width n : Nat} (hbase : 1 < base)
    (hn : n < base ^ (width + 1)) :
    paddedNumeral base (width + 1) (n : Int) = fixedDigits base (width + 1) n := by
  have hsign : signText (n : Int) = [] := by
    rw [signText, if_neg (by omega)]
  rw [← replicate_append_toDigits hbase hn, paddedNumeral, hsign, Int.natAbs_natCast]
  rfl

/-! ## Decimal numerals -/

/-- Digits of a number other than zero do not begin with zero. -/
theorem head_toDigits_ne_zero : ∀ {n : Nat}, 0 < n →
    (Nat.toDigits 10 n).head? ≠ some '0' := by
  intro n
  induction n using Nat.strongRecOn with
  | ind n ih =>
      intro hpos
      by_cases hsmall : n < 10
      · rw [Nat.toDigits_of_lt_base hsmall]
        intro h
        have hzero : Nat.digitChar n = '0' := by simpa using h
        interval_cases n <;> exact absurd hzero (by decide)
      · have hrest := ih (n / 10) (by omega) (by omega)
        rw [Nat.toDigits_of_base_le (by omega) (by omega), List.head?_append]
        cases hdigits : Nat.toDigits 10 (n / 10) with
        | nil => exact absurd hdigits Nat.toDigits_ne_nil
        | cons d ds =>
            rw [hdigits] at hrest
            exact hrest

/-- A decimal numeral is a sign, or none, and digits. -/
theorem decimalChars_eq (n : Int) :
    decimalChars n = Nat.toDigits 10 n.natAbs ∨
      decimalChars n = '-' :: Nat.toDigits 10 n.natAbs := by
  unfold decimalChars signText
  split
  · exact Or.inr rfl
  · exact Or.inl rfl

theorem isDigit_of_mem_decimalChars {n : Int} {c : Char} (h : c ∈ decimalChars n) :
    c = '-' ∨ c.isDigit = true := by
  have hdigit : c ∈ Nat.toDigits 10 n.natAbs → c.isDigit = true :=
    Nat.isDigit_of_mem_toDigits (by decide) (by decide)
  rcases decimalChars_eq n with heq | heq
  · rw [heq] at h
    exact Or.inr (hdigit h)
  · rw [heq] at h
    rcases List.mem_cons.mp h with rfl | h
    · exact Or.inl rfl
    · exact Or.inr (hdigit h)

theorem decimalChars_ne_nil (n : Int) : decimalChars n ≠ [] := by
  rcases decimalChars_eq n with heq | heq
  · rw [heq]
    exact Nat.toDigits_ne_nil
  · rw [heq]
    simp

end LalrBackend.Text
