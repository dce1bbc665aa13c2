import LalrBackend.Reduction.Plain
import Mathlib.Tactic.Common

/-!
# Names in reductions

A reduction binds names of its own, which begin with a mark, the name of the result,
and for each label the label itself and the label with a suffix for each end. The
labels of a production stand apart if no two of these names can meet.
-/

namespace LalrBackend.Reduction

open Code

/-! ## Marked names -/

/-- Whether a name begins with the mark of the generated code. -/
def IsMarked (name : String) : Prop :=
  (internal "").toList <+: name.toList

theorem isMarked_internal (name : String) : IsMarked (internal name) := by
  refine ⟨name.toList, ?_⟩
  simp [internal]

theorem Slot.isMarked (slot : Slot) : IsMarked slot.name := by
  cases slot with
  | right => exact isMarked_internal "right"
  | left => exact isMarked_internal "left"
  | labelled label => exact isMarked_internal ("sym" ++ label)

theorem not_isMarked_resultName : ¬ IsMarked resultName := by
  unfold IsMarked
  decide

/-- The suffix for the position at which a symbol begins. -/
def leftSuffix : String := "left"

/-- The suffix for the position at which a symbol ends. -/
def rightSuffix : String := "right"

/-- A suffix does not complete a mark: no character of the mark begins a suffix. -/
theorem not_isMarked_append {label suffix : String}
    (hsuffix : suffix = leftSuffix ∨ suffix = rightSuffix) (h : ¬ IsMarked label) :
    ¬ IsMarked (label ++ suffix) := by
  unfold IsMarked at h ⊢
  rw [String.toList_append]
  intro hmark
  -- Either the label has the whole mark, or the suffix would have to go on with it.
  rcases List.prefix_or_prefix_of_prefix hmark (List.prefix_append _ _) with hlabel | hlabel
  · exact h hlabel
  · obtain ⟨rest, hrest⟩ := hlabel
    rw [← hrest, List.prefix_append_right_inj] at hmark
    cases rest with
    | nil =>
        rw [List.append_nil] at hrest
        exact h (hrest ▸ List.prefix_rfl)
    | cons c rest =>
        have hc : c ∈ (internal "").toList := by
          rw [← hrest]
          simp
        obtain ⟨tail, htail⟩ := hmark
        have hhead : suffix.toList.head? = some c := by
          rw [← htail]
          rfl
        have hmark : (internal "").toList = ['C', 'U', 'P', '_'] := by decide
        rw [hmark] at hc
        rcases hsuffix with rfl | rfl
        · have hl : c = 'l' := by simpa [leftSuffix] using hhead.symm
          subst hl
          exact absurd hc (by decide)
        · have hr : c = 'r' := by simpa [rightSuffix] using hhead.symm
          subst hr
          exact absurd hc (by decide)

theorem append_leftSuffix_ne_rightSuffix (a b : String) :
    a ++ leftSuffix ≠ b ++ rightSuffix := by
  intro h
  have hends := congrArg (fun s : String => s.toList.reverse.take 2) h
  simp [leftSuffix, rightSuffix] at hends

theorem append_suffix_inj {a b : String} (suffix : String) (h : a ++ suffix = b ++ suffix) :
    a = b := by
  have hlists := congrArg String.toList h
  rw [String.toList_append, String.toList_append] at hlists
  exact String.toList_inj.mp (List.append_cancel_right hlists)

theorem Slot.name_inj {a b : Slot} (h : a.name = b.name) : a = b := by
  have hlists := congrArg String.toList h
  cases a <;> cases b <;> simp [Slot.name, internal] at hlists ⊢
  exact String.toList_inj.mp hlists

/-! ## Labels that stand apart -/

/-- Two spellings of one name. -/
def SameName (a b : String) : Prop :=
  nameOf a = nameOf b

/-- Names that the generated code has for itself. -/
def IsInternal (name : String) : Prop :=
  IsMarked name ∨ name = resultName ∨ name ∈ reservedNames

end LalrBackend.Reduction

namespace LalrBackend

open Reduction Code

theorem Production.part_eq (p : Production) (i : Nat) : p.part i =
    match p.base.rhs[i]? with
    | some (.part part) => .ok part
    | some (.bare _) => .error .notAPart
    | none => .error (.refused (.positionOutOfRange i p.base.shown)) := by
  rw [part, resolve, if_neg (by omega), Int.toNat_natCast]
  cases p.base.rhs[i]? with
  | none => rfl
  | some entry =>
      cases entry with
      | part part => rfl
      | bare shown => rfl

/-- The label of the part at a position of a right side. -/
def Production.labelAt? (p : Production) (position : Nat) : Option String :=
  match p.part position with
  | .ok part => if position < p.length then part.label else none
  | .error _ => none

theorem Production.labelAt?_eq_some {p : Production} {i : Nat} {label : String}
    (h : p.labelAt? i = some label) :
    i < p.length ∧ ∃ part, p.part i = .ok part ∧ part.label = some label := by
  unfold labelAt? at h
  cases hpart : p.part i with
  | error e => simp [hpart] at h
  | ok part =>
      simp only [hpart, Option.ite_none_right_eq_some] at h
      exact ⟨h.1, part, rfl, h.2⟩

theorem Production.labelAt?_of_part {p : Production} {part : Part} {i : Nat} {label : String}
    (hi : i < p.length) (hpart : p.part i = .ok part)
    (hlabel : part.label = some label) : p.labelAt? i = some label := by
  rw [labelAt?, hpart]
  simp only
  rw [if_pos hi, hlabel]

/-- The labels of a production are different names, none is another one with a suffix,
and none is a name of the generated code. -/
structure Production.LabelsApart (p : Production) : Prop where
  distinct : ∀ {i j : Nat} {a b : String}, p.labelAt? i = some a → p.labelAt? j = some b →
    i ≠ j → ¬ SameName a b
  left : ∀ {i j : Nat} {a b : String}, p.labelAt? i = some a → p.labelAt? j = some b →
    ¬ SameName (a ++ leftSuffix) b
  right : ∀ {i j : Nat} {a b : String}, p.labelAt? i = some a → p.labelAt? j = some b →
    ¬ SameName (a ++ rightSuffix) b
  own : ∀ {i : Nat} {a : String}, p.labelAt? i = some a →
    ¬ IsInternal a ∧ ¬ IsInternal (nameOf a)

namespace Production.LabelsApart

variable {p : Production} {i j : Nat} {a b : String}

theorem position_eq (h : p.LabelsApart) (ha : p.labelAt? i = some a)
    (hb : p.labelAt? j = some a) : i = j := by
  by_contra hne
  exact h.distinct ha hb hne rfl

theorem ne_left (h : p.LabelsApart) (ha : p.labelAt? i = some a)
    (hb : p.labelAt? j = some b) : b ≠ a ++ leftSuffix := by
  rintro rfl
  exact h.left ha hb rfl

theorem ne_right (h : p.LabelsApart) (ha : p.labelAt? i = some a)
    (hb : p.labelAt? j = some b) : b ≠ a ++ rightSuffix := by
  rintro rfl
  exact h.right ha hb rfl

theorem not_isMarked (h : p.LabelsApart) (ha : p.labelAt? i = some a) : ¬ IsMarked a :=
  fun hmarked => (h.own ha).1 (Or.inl hmarked)

theorem ne_resultName (h : p.LabelsApart) (ha : p.labelAt? i = some a) : a ≠ resultName :=
  fun hresult => (h.own ha).1 (Or.inr (Or.inl hresult))

end Production.LabelsApart

end LalrBackend
