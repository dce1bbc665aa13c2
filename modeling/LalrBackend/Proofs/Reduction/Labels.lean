import LalrBackend.Proofs.Reduction.Environment

/-!
# What the user's code finds

When the user's code begins, the result holds its start, and each label that stands
apart from the others holds what the stack has for it. The variables of the generated
code hold symbols that are needed once more after the user's code.
-/

namespace LalrBackend.Reduction

open Code

/-! ## Lookups -/

section Lookup

variable {n name : String} {v : Value} {env : Environment}

theorem lookup_binding :
    ((name, v) :: env).lookup n = if n = name then some v else env.lookup n := by
  rw [List.lookup_cons]
  by_cases h : n = name
  · simp [h]
  · simp [h, beq_false_of_ne h]

/-- A name that only one part of an environment binds is looked up there. -/
theorem lookup_flatMap_of_unique {positions : List Nat} {f : Nat → Environment} {i : Nat}
    (hi : i ∈ positions) (hothers : ∀ j ∈ positions, j ≠ i → (f j).lookup n = none) :
    (positions.flatMap f).lookup n = (f i).lookup n := by
  induction positions with
  | nil => cases hi
  | cons j rest ih =>
      rw [List.flatMap_cons, List.lookup_append]
      -- The position may come again, so its part is looked up in the rest first.
      by_cases hmem : i ∈ rest
      · rw [ih hmem fun j hj => hothers j (List.mem_cons_of_mem _ hj)]
        by_cases hji : j = i
        · rw [hji, Option.or_self]
        · rw [hothers j List.mem_cons_self hji, Option.none_or]
      · rcases List.mem_cons.mp hi with rfl | hrest
        · have hnone : (rest.flatMap f).lookup n = none := by
            rw [List.lookup_eq_none_iff]
            intro binding hbinding
            obtain ⟨j, hj, hbinding⟩ := List.mem_flatMap.mp hbinding
            have hne : j ≠ i := by
              rintro rfl
              exact hmem hj
            exact List.lookup_eq_none_iff.mp
              (hothers j (List.mem_cons_of_mem _ hj) hne) binding hbinding
          rw [hnone, Option.or_none]
        · exact absurd hrest hmem

theorem lookup_flatMap_of_none {positions : List Nat} {f : Nat → Environment}
    (hnone : ∀ j ∈ positions, (f j).lookup n = none) :
    (positions.flatMap f).lookup n = none := by
  rw [List.lookup_eq_none_iff]
  intro binding hbinding
  obtain ⟨j, hj, hbinding⟩ := List.mem_flatMap.mp hbinding
  exact List.lookup_eq_none_iff.mp (hnone j hj) binding hbinding

end Lookup

/-! ## The names of a label -/

/-- The names that a label stands for. -/
def labelNames (label : String) : List String :=
  [label, label ++ rightSuffix, label ++ leftSuffix]

section Labels

variable {c : Config} {p : Production} {stack : List StackSymbol} {i j : Nat}
  {part : Part} {a b n label : String} {valueType : Option String} {s : StackSymbol}

theorem mem_labelNames (label : String) : label ∈ labelNames label := by
  simp [labelNames]

theorem right_mem_labelNames (label : String) : label ++ rightSuffix ∈ labelNames label := by
  simp [labelNames]

theorem left_mem_labelNames (label : String) : label ++ leftSuffix ∈ labelNames label := by
  simp [labelNames]

theorem append_ne_resultName (label : String) :
    label ++ leftSuffix ≠ resultName ∧ label ++ rightSuffix ≠ resultName := by
  constructor
  · intro h
    have hends := congrArg (fun s : String => s.toList.reverse.take 2) h
    simp [leftSuffix, resultName] at hends
  · intro h
    have hends := congrArg (fun s : String => s.toList.reverse.take 2) h
    simp [rightSuffix, resultName] at hends

theorem labelNames_not_isMarked (h : ¬ IsMarked label) (hn : n ∈ labelNames label) :
    ¬ IsMarked n := by
  simp only [labelNames, List.mem_cons, List.not_mem_nil, or_false] at hn
  rcases hn with rfl | rfl | rfl
  · exact h
  · exact not_isMarked_append (Or.inr rfl) h
  · exact not_isMarked_append (Or.inl rfl) h

theorem labelNames_ne_resultName (h : label ≠ resultName) (hn : n ∈ labelNames label) :
    n ≠ resultName := by
  simp only [labelNames, List.mem_cons, List.not_mem_nil, or_false] at hn
  rcases hn with rfl | rfl | rfl
  · exact h
  · exact (append_ne_resultName label).2
  · exact (append_ne_resultName label).1

/-- Two labels have no names in common if neither is the other one, with or without a suffix. -/
theorem labelNames_disjoint (hne : a ≠ b) (hleft : b ≠ a ++ leftSuffix)
    (hright : b ≠ a ++ rightSuffix) (hleft' : a ≠ b ++ leftSuffix) (hright' : a ≠ b ++ rightSuffix)
    (hn : n ∈ labelNames a) : n ∉ labelNames b := by
  simp only [labelNames, List.mem_cons, List.not_mem_nil, or_false] at hn ⊢
  rcases hn with rfl | rfl | rfl
  · rintro (h | h | h)
    · exact hne h
    · exact hright' h
    · exact hleft' h
  · rintro (h | h | h)
    · exact hright h.symm
    · exact hne (append_suffix_inj _ h)
    · exact append_leftSuffix_ne_rightSuffix _ _ h.symm
  · rintro (h | h | h)
    · exact hleft h.symm
    · exact append_leftSuffix_ne_rightSuffix _ _ h
    · exact hne (append_suffix_inj _ h)

/-- Labels at different positions have no names in common. -/
theorem labelNames_disjoint_of_apart (hapart : p.LabelsApart) (ha : p.labelAt? i = some a)
    (hb : p.labelAt? j = some b) (hne : i ≠ j) (hn : n ∈ labelNames a) : n ∉ labelNames b := by
  have hab : a ≠ b := by
    rintro rfl
    exact hne (hapart.position_eq ha hb)
  exact labelNames_disjoint hab (hapart.ne_left ha hb) (hapart.ne_right ha hb)
    (hapart.ne_left hb ha) (hapart.ne_right hb ha) hn

/-! ## Environments of labels and positions -/

theorem labelEnvironment_lookup_eq_none (hn : n ∉ labelNames label) :
    (labelEnvironment c label valueType s).lookup n = none := by
  simp only [labelNames, List.mem_cons, List.not_mem_nil, or_false, not_or] at hn
  obtain ⟨hvalue, hright, hleft⟩ := hn
  unfold labelEnvironment
  cases valueType.isSome <;> cases c.trackPositions <;>
    simp [lookup_binding, hvalue, hright, hleft]

theorem append_ne_self (label : String) {suffix : String} (h : suffix ≠ "") :
    label ≠ label ++ suffix := by
  intro heq
  have hlengths := congrArg String.length heq
  rw [String.length_append] at hlengths
  have hzero : suffix.length = 0 := by omega
  exact h (String.length_eq_zero_iff.mp hzero)

theorem labelEnvironment_lookup_label :
    (labelEnvironment c label valueType s).lookup label =
      if valueType.isSome then some s.value else none := by
  have hright : label ≠ label ++ rightSuffix := append_ne_self label (by decide)
  have hleft : label ≠ label ++ leftSuffix := append_ne_self label (by decide)
  unfold labelEnvironment
  cases valueType.isSome <;> cases c.trackPositions <;>
    simp [lookup_binding, hright, hleft]

theorem labelEnvironment_lookup_left :
    (labelEnvironment c label valueType s).lookup (label ++ leftSuffix) =
      if c.trackPositions then some s.left else none := by
  have hvalue : label ++ leftSuffix ≠ label :=
    (append_ne_self label (by decide)).symm
  have hright := append_leftSuffix_ne_rightSuffix label label
  unfold labelEnvironment
  cases valueType.isSome <;> cases c.trackPositions <;>
    simp [lookup_binding, hvalue, hright]

theorem labelEnvironment_lookup_right :
    (labelEnvironment c label valueType s).lookup (label ++ rightSuffix) =
      if c.trackPositions then some s.right else none := by
  have hvalue : label ++ rightSuffix ≠ label :=
    (append_ne_self label (by decide)).symm
  unfold labelEnvironment
  cases valueType.isSome <;> cases c.trackPositions <;>
    simp [lookup_binding, hvalue]

/-- A name that does not belong to the generated code is bound at a position only as a
name of the label there. -/
theorem positionEnvironment_lookup_unmarked (hn : ¬ IsMarked n) (hpart : p.part i = .ok part) :
    (positionEnvironment c p stack i).lookup n =
      part.label.bind fun label =>
        (labelEnvironment c label part.symbol.valueType
          (slotAt stack (p.length - i))).lookup n := by
  have hslot : ∀ slot : Slot, n ≠ slot.name := by
    rintro slot rfl
    exact hn slot.isMarked
  unfold positionEnvironment partEnvironment holder?
  rw [hpart]
  cases hlabel : part.label with
  | none =>
      cases endSlot? c p i with
      | none => simp [hlabel]
      | some slot => simp [hlabel, lookup_binding, hslot]
  | some label =>
      cases endSlot? c p i with
      | none => simp [hlabel, lookup_binding, hslot, List.lookup_append]
      | some slot => simp [hlabel, lookup_binding, hslot, List.lookup_append]

/-- The variables of the generated code are bound by positions alone. -/
theorem positionEnvironment_lookup_slot (hapart : p.LabelsApart) (hi : i < p.length)
    (hpart : p.part i = .ok part) (slot : Slot) :
    (positionEnvironment c p stack i).lookup slot.name =
      if holder? c p i part.label = some slot then
        some (slotAt stack (p.length - i)).toValue
      else none := by
  have hlabel : ∀ label, part.label = some label → slot.name ∉ labelNames label := by
    intro label hl hmem
    have hunmarked := hapart.not_isMarked (Production.labelAt?_of_part hi hpart hl)
    exact labelNames_not_isMarked hunmarked hmem slot.isMarked
  have hname : ∀ slot' : Slot, slot.name = slot'.name ↔ slot' = slot := by
    intro slot'
    exact ⟨fun h => (Slot.name_inj h).symm, fun h => h ▸ rfl⟩
  unfold positionEnvironment partEnvironment
  rw [hpart]
  simp only
  cases holder? c p i part.label with
  | none => simp
  | some slot' =>
      cases hl : part.label with
      | none => simp [lookup_binding, hname]
      | some label =>
          simp [lookup_binding, hname, List.lookup_append,
            labelEnvironment_lookup_eq_none (hlabel label hl)]

/-! ## The whole environment -/

theorem startEnvironment_lookup_of_ne (hn : n ≠ resultName) :
    (startEnvironment p stack).lookup n = none := by
  unfold startEnvironment
  cases p.rule.lhs.valueType with
  | none => rfl
  | some t => rw [lookup_binding, if_neg hn, List.lookup_nil]

/-- A name of a label is bound by its own position alone. -/
theorem positions_lookup_label (hapart : p.LabelsApart) (hi : i < p.length)
    (hpart : p.part i = .ok part) (hlabel : part.label = some label)
    (hn : n ∈ labelNames label) :
    ((List.range p.length).flatMap (positionEnvironment c p stack)).lookup n =
      (labelEnvironment c label part.symbol.valueType
        (slotAt stack (p.length - i))).lookup n := by
  have hat := Production.labelAt?_of_part hi hpart hlabel
  have hunmarked := labelNames_not_isMarked (hapart.not_isMarked hat) hn
  have hothers : ∀ j ∈ List.range p.length, j ≠ i →
      (positionEnvironment c p stack j).lookup n = none := by
    intro j hj hne
    cases hother : p.part j with
    | error e => simp [positionEnvironment, hother]
    | ok other =>
        rw [positionEnvironment_lookup_unmarked hunmarked hother, Option.bind_eq_none_iff]
        intro b hb
        have hatj := Production.labelAt?_of_part (List.mem_range.mp hj) hother hb
        exact labelEnvironment_lookup_eq_none
          (labelNames_disjoint_of_apart hapart hat hatj hne.symm hn)
  rw [lookup_flatMap_of_unique (List.mem_range.mpr hi) hothers,
    positionEnvironment_lookup_unmarked hunmarked hpart, hlabel, Option.bind_some]

/-- A name of a label holds what its position gives it. -/
theorem environment_lookup_label (hapart : p.LabelsApart) (hi : i < p.length)
    (hpart : p.part i = .ok part) (hlabel : part.label = some label)
    (hn : n ∈ labelNames label) :
    (environment c p stack).lookup n =
      (labelEnvironment c label part.symbol.valueType
        (slotAt stack (p.length - i))).lookup n := by
  have hat := Production.labelAt?_of_part hi hpart hlabel
  have hresult := labelNames_ne_resultName (hapart.ne_resultName hat) hn
  rw [environment, List.lookup_append, startEnvironment_lookup_of_ne hresult, Option.or_none,
    positions_lookup_label hapart hi hpart hlabel hn]

theorem environment_lookup_result (hapart : p.LabelsApart) :
    (environment c p stack).lookup resultName =
      if p.rule.lhs.valueType.isSome then some (startValue p stack) else none := by
  have hpositions : ∀ j ∈ List.range p.length,
      (positionEnvironment c p stack j).lookup resultName = none := by
    intro j hj
    cases hother : p.part j with
    | error e => simp [positionEnvironment, hother]
    | ok other =>
        rw [positionEnvironment_lookup_unmarked not_isMarked_resultName hother,
          Option.bind_eq_none_iff]
        intro b hb
        have hat := Production.labelAt?_of_part (List.mem_range.mp hj) hother hb
        apply labelEnvironment_lookup_eq_none
        intro hmem
        exact labelNames_ne_resultName (hapart.ne_resultName hat) hmem rfl
  rw [environment, List.lookup_append, lookup_flatMap_of_none hpositions, Option.none_or]
  unfold startEnvironment
  cases p.rule.lhs.valueType with
  | none => rfl
  | some t => rw [lookup_binding, if_pos rfl]; rfl

/-- A variable that one position fills holds the symbol there. -/
theorem environment_lookup_slot (hapart : p.LabelsApart) {slot : Slot} (hi : i < p.length)
    (hpart : p.part i = .ok part) (hholder : holder? c p i part.label = some slot)
    (hothers : ∀ j other, j < p.length → j ≠ i → p.part j = .ok other →
      holder? c p j other.label ≠ some slot) :
    (environment c p stack).lookup slot.name =
      some (slotAt stack (p.length - i)).toValue := by
  have hresult : slot.name ≠ resultName := by
    intro h
    exact not_isMarked_resultName (h ▸ slot.isMarked)
  have hnone : ∀ j ∈ List.range p.length, j ≠ i →
      (positionEnvironment c p stack j).lookup slot.name = none := by
    intro j hj hne
    cases hother : p.part j with
    | error e => simp [positionEnvironment, hother]
    | ok other =>
        rw [positionEnvironment_lookup_slot hapart (List.mem_range.mp hj) hother,
          if_neg (hothers j other (List.mem_range.mp hj) hne hother)]
  rw [environment, List.lookup_append, startEnvironment_lookup_of_ne hresult, Option.or_none,
    lookup_flatMap_of_unique (List.mem_range.mpr hi) hnone,
    positionEnvironment_lookup_slot hapart hi hpart, if_pos hholder]

/-- What the user's code of a production finds: the result with its start, if the left
side has a type, and for each label the value of its symbol, if that has a type, and the
ends of its symbol, if positions are tracked. -/
structure Finds (c : Config) (p : Production) (stack : List StackSymbol)
    (env : Environment) : Prop where
  result : env.lookup resultName =
    if p.rule.lhs.valueType.isSome then some (startValue p stack) else none
  value : ∀ {i : Nat} {part : Part} {label : String}, i < p.length → p.part i = .ok part →
    part.label = some label →
    env.lookup label = if part.symbol.valueType.isSome then
      some (slotAt stack (p.length - i)).value else none
  left : ∀ {i : Nat} {part : Part} {label : String}, i < p.length → p.part i = .ok part →
    part.label = some label →
    env.lookup (label ++ leftSuffix) = if c.trackPositions then
      some (slotAt stack (p.length - i)).left else none
  right : ∀ {i : Nat} {part : Part} {label : String}, i < p.length → p.part i = .ok part →
    part.label = some label →
    env.lookup (label ++ rightSuffix) = if c.trackPositions then
      some (slotAt stack (p.length - i)).right else none

theorem environment_finds (hapart : p.LabelsApart) :
    Finds c p stack (environment c p stack) where
  result := environment_lookup_result hapart
  value hi hpart hlabel := by
    rw [environment_lookup_label hapart hi hpart hlabel (mem_labelNames _),
      labelEnvironment_lookup_label]
  left hi hpart hlabel := by
    rw [environment_lookup_label hapart hi hpart hlabel (left_mem_labelNames _),
      labelEnvironment_lookup_left]
  right hi hpart hlabel := by
    rw [environment_lookup_label hapart hi hpart hlabel (right_mem_labelNames _),
      labelEnvironment_lookup_right]

end Labels

end LalrBackend.Reduction
