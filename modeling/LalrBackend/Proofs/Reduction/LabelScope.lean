import LalrBackend.Proofs.Code.Reading
import LalrBackend.Proofs.Emission.Refusals
import LalrBackend.Proofs.Reduction.Meaning
import Mathlib.Data.List.Nodup
import Mathlib.Data.List.Pairwise

/-!
# The labels in the scope of the user's code

A label comes from the base of a production, what it holds comes from the production's own place on
the stack. The code of a method is read within a class, which has one name for every spelling of it
and keeps private names under its own. When the names of all labels of the base are different names
to the class, each label within the production holds what lies at its distance from the top, and no
label behind it is bound.
-/

namespace LalrBackend.Reduction

open Code Failure

/-! ## Names as the class keeps them -/

/-- A name as the class of the reductions keeps it. -/
def localName (name : String) : String :=
  privateName (internal "actions") (nameOf name)

/-- What is read of a name in a method of the class. -/
theorem ownedBy_wordToken {name : String} (h : isName name) :
    (wordToken name.toList).ownedBy (some (internal "actions")) = .name (localName name) := by
  obtain ⟨hidentifier, hreserved⟩ := Bool.and_eq_true_iff.mp h
  have hname : name ∉ Identifier.reservedWords := by simpa using hreserved
  rw [wordToken, String.ofList_toList, if_neg hname, if_pos hidentifier]
  rfl

/-- A name of ASCII is kept as it is written, if it is not private. -/
theorem localName_of_ascii {name : String} (hascii : name.toList.all (·.toNat < 128))
    (hbare : ['_', '_'].isPrefixOf name.toList = false) : localName name = name := by
  have hname : nameOf name = name := by
    rw [nameOf, Text.compatibilityForm, if_pos hascii, String.ofList_toList]
  rw [localName, hname, privateName_of_bare hbare]

end LalrBackend.Reduction

namespace LalrBackend

open Reduction Code Failure

/-! ## Labels of a base -/

namespace Production

/-- The label of the entry at a position of the base, which may lie behind the production. -/
def baseLabel? (p : Production) (position : Nat) : Option String :=
  match p.base.rhs[position]? with
  | some (.part part) => part.label
  | _ => none

/-- The names that the label at a position of the base stands for. -/
def namesAt (p : Production) (position : Nat) : List String :=
  match p.baseLabel? position with
  | some label => labelNames label
  | none => []

/-- The names that all labels of the base stand for. -/
def allNames (p : Production) : List String :=
  (List.range p.base.length).flatMap p.namesAt

/-- The labels of the base are different, none is another one with a suffix, and none is a name of
the generated code. -/
structure LabelsDistinct (p : Production) : Prop where
  distinct : ∀ {i j : Nat} {a b : String}, p.baseLabel? i = some a → p.baseLabel? j = some b →
    i ≠ j → a ≠ b
  left : ∀ {i j : Nat} {a b : String}, p.baseLabel? i = some a → p.baseLabel? j = some b →
    b ≠ a ++ leftSuffix
  right : ∀ {i j : Nat} {a b : String}, p.baseLabel? i = some a → p.baseLabel? j = some b →
    b ≠ a ++ rightSuffix
  own : ∀ {i : Nat} {a : String}, p.baseLabel? i = some a → ¬ IsInternal a

/-- The names of the labels are different to the class, and none is a name of the generated code to
it. -/
structure NamesApart (p : Production) : Prop where
  distinct : (p.allNames.map localName).Nodup
  own : ∀ n ∈ p.allNames, ¬ IsInternal n ∧ ¬ IsInternal (localName n)
  slots : ∀ n ∈ p.allNames, ∀ {i : Nat} {label : String}, p.labelAt? i = some label →
    localName n ≠ localName (Slot.labelled label).name

variable {p : Production} {part : Part} {i j : Nat} {a b n m label : String}

theorem baseLabel?_of_part (h : p.part i = .ok part) : p.baseLabel? i = part.label := by
  rw [part_eq] at h
  rw [baseLabel?]
  cases hentry : p.base.rhs[i]? with
  | none => rw [hentry] at h; cases h
  | some entry =>
      rw [hentry] at h
      cases entry with
      | part other => cases h; rfl
      | bare shown => cases h

theorem baseLabel?_of_labelAt? (h : p.labelAt? i = some label) : p.baseLabel? i = some label := by
  obtain ⟨_, part, hpart, hlabel⟩ := labelAt?_eq_some h
  rw [baseLabel?_of_part hpart, hlabel]

theorem mem_namesAt (h : p.baseLabel? i = some label) : n ∈ p.namesAt i ↔ n ∈ labelNames label := by
  rw [namesAt, h]

theorem exists_of_mem_allNames (h : n ∈ p.allNames) :
    ∃ i label, p.baseLabel? i = some label ∧ n ∈ labelNames label := by
  obtain ⟨i, _, hn⟩ := List.mem_flatMap.mp h
  cases hlabel : p.baseLabel? i with
  | none => rw [namesAt, hlabel] at hn; cases hn
  | some label => exact ⟨i, label, hlabel, (mem_namesAt hlabel).mp hn⟩

namespace NamesApart

end NamesApart

theorem labelNames_nodup (label : String) : (labelNames label).Nodup := by
  have hleft : label ≠ label ++ leftSuffix := append_ne_self label (by decide)
  have hright : label ≠ label ++ rightSuffix := append_ne_self label (by decide)
  simp [labelNames, hleft, hright, (append_leftSuffix_ne_rightSuffix label label).symm]

theorem isInternal_of_append {suffix : String} (hsuffix : suffix = leftSuffix ∨ suffix = rightSuffix)
    (h : IsInternal (label ++ suffix)) : IsInternal label := by
  by_contra hlabel
  rcases h with hmarked | hresult | hreserved
  · exact not_isMarked_append hsuffix (fun h => hlabel (.inl h)) hmarked
  · rcases hsuffix with rfl | rfl
    · exact (append_ne_resultName label).1 hresult
    · exact (append_ne_resultName label).2 hresult
  · have hreversed : ∀ n ∈ reservedNames, n.toList.reverse.take 2 ∉ [['t', 'f'], ['t', 'h']] := by
      decide
    refine hreversed _ hreserved ?_
    rcases hsuffix with rfl | rfl <;> simp [leftSuffix, rightSuffix]

/-- Labels that are kept as they are written need only be different as they are written. -/
theorem LabelsDistinct.namesApart_of_kept (h : p.LabelsDistinct)
    (hkept : ∀ n ∈ p.allNames, localName n = n)
    (hslots : ∀ {i : Nat} {label : String}, p.labelAt? i = some label →
      localName (Slot.labelled label).name = (Slot.labelled label).name) : p.NamesApart := by
  have hown : ∀ n ∈ p.allNames, ¬ IsInternal n := by
    intro n hn hinternal
    obtain ⟨i, label, hlabel, hn⟩ := exists_of_mem_allNames hn
    simp only [labelNames, List.mem_cons, List.not_mem_nil, or_false] at hn
    rcases hn with rfl | rfl | rfl
    · exact h.own hlabel hinternal
    · exact h.own hlabel (isInternal_of_append (.inr rfl) hinternal)
    · exact h.own hlabel (isInternal_of_append (.inl rfl) hinternal)
  constructor
  · rw [List.map_congr_left hkept, List.map_id']
    refine List.nodup_flatMap.mpr ⟨?_, ?_⟩
    · intro i _
      rw [namesAt]
      cases p.baseLabel? i with
      | none => exact List.nodup_nil
      | some label => exact labelNames_nodup label
    · refine List.nodup_range.pairwise_of_forall_ne ?_
      intro i _ j _ hne n hi hj
      cases ha : p.baseLabel? i with
      | none => rw [namesAt, ha] at hi; cases hi
      | some a =>
          cases hb : p.baseLabel? j with
          | none => rw [namesAt, hb] at hj; cases hj
          | some b =>
              exact labelNames_disjoint (h.distinct ha hb hne) (h.left ha hb) (h.right ha hb)
                (h.left hb ha) (h.right hb ha) ((mem_namesAt ha).mp hi) ((mem_namesAt hb).mp hj)
  · intro n hn
    rw [hkept n hn]
    exact ⟨hown n hn, hown n hn⟩
  · intro n hn i label hlabel heq
    rw [hkept n hn, hslots hlabel] at heq
    exact hown n hn (.inl (heq ▸ Slot.isMarked _))

/-- A suffix makes no name private. -/
theorem isPrefixOf_underscores_append {suffix : String}
    (hsuffix : suffix = leftSuffix ∨ suffix = rightSuffix)
    (h : ['_', '_'].isPrefixOf label.toList = false) :
    ['_', '_'].isPrefixOf (label ++ suffix).toList = false := by
  rw [String.toList_append]
  match hchars : label.toList with
  | [] => rcases hsuffix with rfl | rfl <;> rfl
  | [c] => rcases hsuffix with rfl | rfl <;> simp [leftSuffix, rightSuffix, List.isPrefixOf]
  | c :: d :: rest =>
      rw [hchars] at h
      simpa [List.isPrefixOf] using h

/-- A name of a label of ASCII that is not private is kept as it is written. -/
theorem localName_of_label (hascii : label.toList.all (·.toNat < 128))
    (hbare : ['_', '_'].isPrefixOf label.toList = false) (hn : n ∈ labelNames label) :
    localName n = n := by
  simp only [labelNames, List.mem_cons, List.not_mem_nil, or_false] at hn
  rcases hn with rfl | rfl | rfl
  · exact localName_of_ascii hascii hbare
  · refine localName_of_ascii ?_ (isPrefixOf_underscores_append (.inr rfl) hbare)
    rw [String.toList_append, List.all_append, hascii]
    rfl
  · refine localName_of_ascii ?_ (isPrefixOf_underscores_append (.inl rfl) hbare)
    rw [String.toList_append, List.all_append, hascii]
    rfl

/-- So is the variable for its symbol. -/
theorem localName_of_slot (hascii : label.toList.all (·.toNat < 128)) :
    localName (Slot.labelled label).name = (Slot.labelled label).name := by
  have hname : (Slot.labelled label).name.toList = "CUP_sym".toList ++ label.toList := by
    simp [Slot.name, internal]
  refine localName_of_ascii ?_ ?_
  · rw [hname, List.all_append, hascii]
    rfl
  · rw [hname]
    rfl

/-- Labels of ASCII that are not private need only be different as they are written. -/
theorem LabelsDistinct.namesApart (h : p.LabelsDistinct)
    (hascii : ∀ {i : Nat} {label : String}, p.baseLabel? i = some label →
      label.toList.all (·.toNat < 128))
    (hbare : ∀ {i : Nat} {label : String}, p.baseLabel? i = some label →
      ['_', '_'].isPrefixOf label.toList = false) : p.NamesApart := by
  refine h.namesApart_of_kept ?_ ?_
  · intro n hn
    obtain ⟨i, label, hlabel, hn⟩ := exists_of_mem_allNames hn
    exact localName_of_label (hascii hlabel) (hbare hlabel) hn
  · intro i label hlabel
    exact localName_of_slot (hascii (baseLabel?_of_labelAt? hlabel))

end Production

namespace Reduction

/-! ## What the bindings bind -/

section Reaches

variable {c : Config} {p : Production} {stack : List StackSymbol} {bound : List String}
  {env : Environment} {isStart : Bool} {b : Body}

end Reaches

/-! ## Labels behind a production, and private labels -/

end Reduction

end LalrBackend
