import LalrBackend.Text.CodePoint
import Mathlib.Tactic.Common

/-!
# Code points of plain text

The characters of ASCII are their own code points, whatever stands before them. Every
text is made of code points that may be written.
-/

namespace LalrBackend.Text

/-- Whether all characters belong to ASCII. -/
def AreAscii (cs : List Char) : Prop :=
  ∀ c ∈ cs, c.toNat < 128

instance (cs : List Char) : Decidable (AreAscii cs) :=
  List.decidableBAll (fun c : Char => c.toNat < 128) cs

variable {cs ds : List Char}

theorem ne_surrogateMark {c : Char} (h : c.toNat < 128) : c ≠ surrogateMark := by
  rintro rfl
  exact absurd h (by decide)

theorem not_isSurrogate_unshifted {c : Char} (h : c.toNat < 128) :
    isSurrogate (c.toNat - spellingShift) = false := by
  have hzero : c.toNat - spellingShift = 0 := by
    simp only [spellingShift]
    omega
  rw [hzero]
  rfl

/-- The code points of characters in ASCII are theirs. -/
theorem pointsOfChars_ascii (h : AreAscii cs) : pointsOfChars cs = cs.map Char.toNat := by
  induction cs with
  | nil => rfl
  | cons c cs ih =>
      rw [pointsOfChars_cons (ne_surrogateMark (h c List.mem_cons_self)),
        ih fun d hd => h d (List.mem_cons_of_mem _ hd)]
      rfl

/-- Characters of ASCII spell nothing together with what stands before them. -/
theorem pointsOfChars_append (h : AreAscii ds) :
    pointsOfChars (cs ++ ds) = pointsOfChars cs ++ pointsOfChars ds := by
  cases ds with
  | nil => simp [pointsOfChars]
  | cons d ds =>
      -- What follows is no mark and no second half of a spelling.
      have hd : d.toNat < 128 := h d List.mem_cons_self
      have hmark := ne_surrogateMark hd
      have hsurrogate := not_isSurrogate_unshifted hd
      fun_induction pointsOfChars cs with
      | case1 => rfl
      | case2 c =>
          by_cases hc : c = surrogateMark
          · simp [pointsOfChars, hc, hmark, hsurrogate]
          · simp [pointsOfChars, hc]
      | case3 cs ih => simpa [pointsOfChars] using ih
      | case4 d' cs hmark' hsurrogate' ih => simpa [pointsOfChars, hmark', hsurrogate'] using ih
      | case5 d' cs hmark' hsurrogate' ih => simpa [pointsOfChars, hmark', hsurrogate'] using ih
      | case6 c d' cs hc ih => simpa [pointsOfChars, hc] using ih

theorem isPoint_toNat (c : Char) : isPoint c.toNat = true := by
  have hvalid : c.toNat.isValidChar := c.valid
  unfold Nat.isValidChar at hvalid
  simp only [isPoint, decide_eq_true_eq]
  omega

theorem isPoint_of_mem_pointsOfChars : ∀ p ∈ pointsOfChars cs, isPoint p = true := by
  fun_induction pointsOfChars cs with
  | case1 => simp
  | case2 c =>
      intro p hp
      rw [List.mem_singleton.mp hp]
      exact isPoint_toNat c
  | case3 cs ih =>
      intro p hp
      rcases List.mem_cons.mp hp with rfl | hp
      · exact isPoint_toNat surrogateMark
      · exact ih p hp
  | case4 d cs hmark hsurrogate ih =>
      intro p hp
      rcases List.mem_cons.mp hp with heq | hp
      · simp only [isSurrogate, Bool.and_eq_true, decide_eq_true_eq] at hsurrogate
        rw [heq]
        simp only [isPoint, decide_eq_true_eq]
        omega
      · exact ih p hp
  | case5 d cs hmark hsurrogate ih =>
      intro p hp
      rcases List.mem_cons.mp hp with rfl | hp
      · exact isPoint_toNat surrogateMark
      · exact ih p hp
  | case6 c d cs hc ih =>
      intro p hp
      rcases List.mem_cons.mp hp with rfl | hp
      · exact isPoint_toNat c
      · exact ih p hp

/-! ## Strings -/

theorem isPoint_of_mem_pointsOf {s : String} : ∀ p ∈ pointsOf s, isPoint p = true :=
  isPoint_of_mem_pointsOfChars

theorem pointsOf_append {a b : String} (h : AreAscii b.toList) :
    pointsOf (a ++ b) = pointsOf a ++ pointsOf b := by
  rw [pointsOf, String.toList_append]
  exact pointsOfChars_append h

theorem pointsOf_ascii {s : String} (h : AreAscii s.toList) :
    pointsOf s = s.toList.map Char.toNat :=
  pointsOfChars_ascii h

end LalrBackend.Text
