import LalrBackend.Text.Blank
import Mathlib.Data.List.DropRight
import Mathlib.Tactic.Common

/-!
# Trimming

What trimming leaves of a list is told by its two ends: the members around it are of the
kind that is dropped, its first and its last one are not. There is exactly one such part
of a list.
-/

namespace LalrBackend.Text

variable {α : Type} {p : α → Bool} {whole core front back : List α}

/-- What is left of a list once the members of a kind are dropped from both of its ends. -/
structure Trimmed (p : α → Bool) (whole core : List α) : Prop where
  around : ∃ front back, whole = front ++ core ++ back ∧ (∀ a ∈ front, p a = true) ∧
    ∀ a ∈ back, p a = true
  first : ∀ a ∈ core.head?, p a = false
  last : ∀ a ∈ core.getLast?, p a = false

theorem dropWhile_eq_self (h : ∀ a ∈ core.head?, p a = false) : core.dropWhile p = core := by
  cases core with
  | nil => rfl
  | cons a as => exact List.dropWhile_cons_of_neg (by simp [h a rfl])

theorem rdropWhile_eq_self (h : ∀ a ∈ core.getLast?, p a = false) :
    core.rdropWhile p = core := by
  rw [List.rdropWhile, dropWhile_eq_self (by simpa only [List.head?_reverse] using h),
    List.reverse_reverse]

theorem rdropWhile_append_eq (hback : ∀ a ∈ back, p a = true) (as : List α) :
    (as ++ back).rdropWhile p = as.rdropWhile p := by
  rw [List.rdropWhile, List.reverse_append,
    List.dropWhile_append_of_pos fun a ha => hback a (List.mem_reverse.mp ha)]
  rfl

theorem trimmed_dropWhile (p : α → Bool) (whole : List α) :
    Trimmed p whole ((whole.dropWhile p).rdropWhile p) where
  around := by
    refine ⟨whole.takeWhile p, (whole.dropWhile p).rtakeWhile p, ?_,
      fun a ha => List.mem_takeWhile_imp ha, fun a ha => List.mem_rtakeWhile_imp ha⟩
    rw [List.append_assoc, List.rdropWhile_append_rtakeWhile, List.takeWhile_append_dropWhile]
  first a ha := by
    obtain ⟨as, has⟩ := List.rdropWhile_prefix p (whole.dropWhile p)
    have hhead : (whole.dropWhile p).head? = some a := by
      rw [← has, List.head?_append, ha]
      rfl
    have hnot := List.head?_dropWhile_not p whole
    rwa [hhead] at hnot
  last a ha := by
    obtain ⟨hne, rfl⟩ := List.mem_getLast?_eq_getLast ha
    simpa using List.rdropWhile_last_not p _ hne

/-- A list is trimmed to one part only, the one that dropping from the front and then from
the end comes to. -/
theorem trimmed_iff : Trimmed p whole core ↔ (whole.dropWhile p).rdropWhile p = core := by
  constructor
  · rintro ⟨⟨front, back, rfl, hfront, hback⟩, hfirst, hlast⟩
    rw [List.append_assoc, List.dropWhile_append_of_pos hfront]
    cases core with
    | nil =>
        have hnone : back.dropWhile p = [] := List.dropWhile_eq_nil_iff.mpr hback
        rw [List.nil_append, hnone, List.rdropWhile_nil]
    | cons a as =>
        have hkept : ((a :: as) ++ back).dropWhile p = (a :: as) ++ back :=
          dropWhile_eq_self (by simpa using hfirst)
        rw [hkept, rdropWhile_append_eq hback, rdropWhile_eq_self hlast]
  · rintro rfl
    exact trimmed_dropWhile p whole

/-! ## Texts -/

theorem trimBoth_eq_iff {p : Char → Bool} {cs core : List Char} :
    trimBoth p cs = core ↔ Trimmed p cs core :=
  trimmed_iff.symm

end LalrBackend.Text
