import LalrBackend.Proofs.Reduction.Meaning

/-!
# Assignment before use

The statements that a reduction body has of its own, without the user's code between them: which
of the generated names each of them assigns and uses, and from which distance it reads the stack.
Every name is assigned before it is used, and no distance lies outside of the right side.
-/

namespace LalrBackend.Reduction

open Failure

/-- A name of the generated code whose value a statement may need. -/
inductive OwnName where
  | slot (slot : Slot)
  | result
  deriving DecidableEq

namespace Statement

/-- The name that a statement assigns. -/
def assigned? : Statement → Option OwnName
  | .startResult .. => some .result
  | .bindSlot slot _ => some (.slot slot)
  | _ => none

/-- The names whose values a statement needs. -/
def used : Statement → List OwnName
  | .bindLeft _ slot => [.slot slot]
  | .bindRight _ slot => [.slot slot]
  | .bindValue _ _ slot => [.slot slot]
  | .construct _ _ extent withResult =>
    (match extent with
      | none => []
      | some (first, last) => [.slot first, .slot last]) ++ if withResult then [.result] else []
  | _ => []

/-- The distance from which a statement reads the stack. -/
def distance? : Statement → Option Int
  | .startResult _ distance => distance
  | .bindSlot _ distance => some distance
  | _ => none

end Statement

/-- The statements of a body without the user's code. -/
def Body.own (b : Body) : List Statement :=
  b.start ++ b.bindings ++ b.extentBindings ++ b.ending

/-- Each statement uses only names that one before it assigns, those seen already included. -/
def Ordered (seen : List Statement) : List Statement → Prop
  | [] => True
  | s :: rest =>
    (∀ name ∈ s.used, ∃ a ∈ seen, a.assigned? = some name) ∧ Ordered (seen ++ [s]) rest

section Ordered

variable {seen before after : List Statement} {s : Statement} {name : OwnName}

theorem ordered_append {first second : List Statement} :
    Ordered seen (first ++ second) ↔ Ordered seen first ∧ Ordered (seen ++ first) second := by
  induction first generalizing seen with
  | nil => simp [Ordered]
  | cons s first ih => simp [Ordered, ih, and_assoc]

/-- Statements that use nothing are ordered behind any others. -/
theorem ordered_of_unused {statements : List Statement} (h : ∀ s ∈ statements, s.used = []) :
    Ordered seen statements := by
  induction statements generalizing seen with
  | nil => trivial
  | cons s rest ih =>
      obtain ⟨hs, hrest⟩ := List.forall_mem_cons.mp h
      refine ⟨?_, ih hrest⟩
      rw [hs]
      exact List.forall_mem_nil _

/-- Statements that use one name are ordered behind an assignment of it. -/
theorem ordered_of_assigned {statements : List Statement}
    (h : ∀ s ∈ statements, ∀ n ∈ s.used, n = name)
    (hseen : ∃ a ∈ seen, a.assigned? = some name) : Ordered seen statements := by
  induction statements generalizing seen with
  | nil => trivial
  | cons s rest ih =>
      obtain ⟨hs, hrest⟩ := List.forall_mem_cons.mp h
      refine ⟨fun n hn => hs n hn ▸ hseen, ih hrest ?_⟩
      obtain ⟨a, ha, hassigned⟩ := hseen
      exact ⟨a, List.mem_append_left _ ha, hassigned⟩

/-- What a statement of an ordered list uses is assigned in front of it. -/
theorem Ordered.assigned (h : Ordered [] (before ++ s :: after)) (hname : name ∈ s.used) :
    ∃ a ∈ before, a.assigned? = some name :=
  (ordered_append.mp h).2.1 name hname

end Ordered

section Body

variable {c : Config} {p : Production} {isStart : Bool} {b : Body} {s : Statement} {i : Nat}
  {part : Part}

/-! ## The bindings of the right side -/

/-- The statements for a position: its symbol is put into its variable, and what a label binds is
taken from there. -/
theorem mem_positionBindings (h : s ∈ positionBindings c p i part) :
    ∃ slot, holder? c p i part.label = some slot ∧
      (s = .bindSlot slot (p.length - i) ∨ ∃ label, part.label = some label ∧
        (c.trackPositions ∧ (s = .bindLeft label slot ∨ s = .bindRight label slot) ∨
          ∃ t, part.symbol.valueType = some t ∧ s = .bindValue label t slot)) := by
  rw [positionBindings_eq] at h
  cases hslot : holder? c p i part.label with
  | none =>
      rw [hslot] at h
      cases h
  | some slot =>
      rw [hslot] at h
      refine ⟨slot, rfl, ?_⟩
      rcases List.mem_cons.mp h with rfl | h
      · exact .inl rfl
      · cases hlabel : part.label with
        | none =>
            rw [hlabel] at h
            cases h
        | some label =>
            rw [hlabel] at h
            refine .inr ⟨label, rfl, ?_⟩
            rcases List.mem_append.mp h with h | h
            · by_cases htrack : c.trackPositions
              · rw [if_pos htrack] at h
                exact .inl ⟨htrack, by simpa using h⟩
              · rw [if_neg htrack] at h
                cases h
            · cases htype : part.symbol.valueType with
              | none =>
                  rw [htype] at h
                  cases h
              | some t =>
                  rw [htype] at h
                  exact .inr ⟨t, rfl, List.mem_singleton.mp h⟩

theorem mem_bindingsAt {positions : List Nat} {statements : List Statement}
    (h : bindingsAt c p positions = .ok statements) :
    s ∈ statements ↔ ∃ i ∈ positions, ∃ part, p.part i = .ok part ∧
      s ∈ positionBindings c p i part := by
  induction positions generalizing statements with
  | nil =>
      cases h
      simp
  | cons first rest ih =>
      obtain ⟨part, hpart, h⟩ := bind_eq_ok.mp h
      obtain ⟨others, hothers, h⟩ := bind_eq_ok.mp h
      cases h
      rw [List.mem_append, ih hothers]
      simp only [List.mem_cons, exists_eq_or_imp, hpart, Except.ok.injEq, exists_eq_left']

/-- The statements for one position use what the first of them assigns. -/
theorem ordered_positionBindings (seen : List Statement) :
    Ordered seen (positionBindings c p i part) := by
  have huses : ∀ slot label, ∀ s ∈ labelBindings c label part.symbol.valueType slot,
      ∀ n ∈ s.used, n = .slot slot := by
    intro slot label s hs n hn
    rcases List.mem_append.mp hs with hs | hs
    · split at hs
      · obtain rfl | rfl : s = .bindLeft label slot ∨ s = .bindRight label slot := by
          simpa using hs
        · exact List.mem_singleton.mp hn
        · exact List.mem_singleton.mp hn
      · cases hs
    · split at hs
      · cases hs
      · obtain rfl := List.mem_singleton.mp hs
        exact List.mem_singleton.mp hn
  rw [positionBindings_eq]
  cases holder? c p i part.label with
  | none => trivial
  | some slot =>
      refine ⟨List.forall_mem_nil _, ?_⟩
      cases part.label with
      | none => trivial
      | some label =>
          exact ordered_of_assigned (huses slot label)
            ⟨_, List.mem_append_right _ (List.mem_singleton_self _), rfl⟩

theorem ordered_bindingsAt {positions : List Nat} {statements : List Statement}
    (h : bindingsAt c p positions = .ok statements) (seen : List Statement) :
    Ordered seen statements := by
  induction positions generalizing statements seen with
  | nil =>
      cases h
      trivial
  | cons first rest ih =>
      obtain ⟨part, hpart, h⟩ := bind_eq_ok.mp h
      obtain ⟨others, hothers, h⟩ := bind_eq_ok.mp h
      cases h
      exact ordered_append.mpr ⟨ordered_positionBindings seen, ih hothers _⟩

/-! ## The statements of a body -/

theorem body_own (h : body c p isStart = .ok b) :
    bindingsAt c p (positionsDown p) = .ok b.bindings ∧
      b.own = startOf p ++ b.bindings ++ extentBindingsOf c p ++ endingOf c p isStart := by
  obtain ⟨bindings, hbindings, h⟩ := bind_eq_ok.mp h
  cases h
  exact ⟨hbindings, rfl⟩

/-- A statement of the right side belongs to one of its positions. -/
theorem exists_position (h : body c p isStart = .ok b) (hs : s ∈ b.bindings) :
    ∃ i < p.length, ∃ part, p.part i = .ok part ∧ s ∈ positionBindings c p i part := by
  obtain ⟨i, hi, hpart⟩ := (mem_bindingsAt (body_own h).1).mp hs
  exact ⟨i, by simpa [positionsDown] using hi, hpart⟩

theorem mem_startOf : s ∈ startOf p ↔ ∃ t, p.rule.lhs.valueType = some t ∧ s = .startResult t
    (if p.intermediate = -1 then none else some (p.length - p.intermediate)) := by
  unfold startOf
  cases p.rule.lhs.valueType with
  | none => simp
  | some t =>
      by_cases hnone : p.intermediate = -1
      · simp [hnone]
      · simp [hnone]

theorem mem_extentBindingsOf : s ∈ extentBindingsOf c p ↔
    c.trackPositions ∧ ((p.length = 0 ∨ p.isDerived) ∧ s = .bindSlot .right 1 ∨
      2 ≤ p.length ∧ p.isDerived ∧ s = .bindSlot .left p.length) := by
  unfold extentBindingsOf
  cases c.trackPositions with
  | false => simp
  | true =>
      by_cases hzero : p.length = 0
      · simp [hzero]
      · by_cases hderived : p.isDerived
        · by_cases htwo : 2 ≤ p.length
          · simp [hzero, hderived, htwo]
          · simp [hzero, hderived, htwo]
        · simp [hzero, hderived]

/-- The making of the symbol uses the ends of the right side and the result. -/
theorem mem_used_construct {label : String} {index : Int} {withResult : Bool} {name : OwnName}
    (h : name ∈ (Statement.construct label index (extentOf c p) withResult).used) :
    (∃ slot, name = .slot slot ∧ c.trackPositions ∧ (slot = .right ∨ slot = .left ∧ 2 ≤ p.length)) ∨
      name = .result ∧ withResult := by
  rcases List.mem_append.mp h with h | h
  · rw [extentOf] at h
    by_cases htrack : c.trackPositions
    · rw [if_pos htrack] at h
      by_cases hshort : p.length < 2
      · exact .inl ⟨.right, by simpa [hshort] using h, htrack, .inl rfl⟩
      · have hends : name = .slot .left ∨ name = .slot .right := by simpa [hshort] using h
        rcases hends with rfl | rfl
        · exact .inl ⟨.left, rfl, htrack, .inr ⟨rfl, by omega⟩⟩
        · exact .inl ⟨.right, rfl, htrack, .inl rfl⟩
    · rw [if_neg htrack] at h
      cases h
  · split at h
    · next hresult => exact .inr ⟨List.mem_singleton.mp h, hresult⟩
    · cases h

/-- A variable of an end is assigned: where the right side is bound if the production is its own
base, and otherwise behind the user's code. -/
theorem exists_assigned_slot (h : body c p isStart = .ok b) (htrack : c.trackPositions)
    {slot : Slot} (hslot : slot = .right ∨ slot = .left ∧ 2 ≤ p.length) :
    ∃ a ∈ b.bindings ++ extentBindingsOf c p, a.assigned? = some (.slot slot) := by
  by_cases hbound : p.length = 0 ∨ p.isDerived
  · refine ⟨.bindSlot slot (if slot = .left then p.length else 1),
      List.mem_append_right _ (mem_extentBindingsOf.mpr ⟨htrack, ?_⟩), rfl⟩
    rcases hslot with rfl | ⟨rfl, htwo⟩
    · exact .inl ⟨hbound, rfl⟩
    · exact .inr ⟨htwo, hbound.resolve_left (by omega), rfl⟩
  · rw [not_or, Bool.not_eq_true] at hbound
    -- The ends of a production that is its own base are held at its last and first position.
    obtain ⟨i, hi, hend⟩ : ∃ i < p.length, endSlot? c p i = some slot := by
      rcases hslot with rfl | ⟨rfl, htwo⟩
      · refine ⟨p.length - 1, by omega, ?_⟩
        rw [endSlot?, if_neg (by simp [hbound.2, htrack]), if_pos (by omega)]
      · refine ⟨0, by omega, ?_⟩
        rw [endSlot?, if_neg (by simp [hbound.2, htrack]), if_neg (by omega), if_pos rfl]
    obtain ⟨part, hpart⟩ := exists_part_of_body h hi
    refine ⟨.bindSlot slot (p.length - i), List.mem_append_left _ ?_, rfl⟩
    refine (mem_bindingsAt (body_own h).1).mpr
      ⟨i, by simpa [positionsDown] using hi, part, hpart, ?_⟩
    rw [positionBindings_eq, holder?, hend]
    exact List.mem_cons_self

/-- A body assigns each of its names before it uses it. -/
theorem ordered_own (h : body c p isStart = .ok b) : Ordered [] b.own := by
  obtain ⟨hbindings, hown⟩ := body_own h
  rw [hown, List.append_assoc, List.append_assoc, ordered_append, ordered_append, ordered_append]
  refine ⟨ordered_of_unused ?_, ordered_bindingsAt hbindings _, ordered_of_unused ?_, ?_⟩
  · intro s hs
    obtain ⟨t, -, rfl⟩ := mem_startOf.mp hs
    rfl
  · intro s hs
    rcases (mem_extentBindingsOf.mp hs).2 with ⟨-, rfl⟩ | ⟨-, -, rfl⟩
    · rfl
    · rfl
  · refine ⟨?_, ordered_of_unused ?_⟩
    · intro name hname
      rw [List.nil_append, List.append_assoc]
      rcases mem_used_construct hname with ⟨slot, rfl, htrack, hslot⟩ | ⟨rfl, hresult⟩
      · obtain ⟨a, ha, hassigned⟩ := exists_assigned_slot h htrack hslot
        exact ⟨a, List.mem_append_right _ ha, hassigned⟩
      · obtain ⟨t, ht⟩ := Option.isSome_iff_exists.mp hresult
        exact ⟨_, List.mem_append_left _ (mem_startOf.mpr ⟨t, ht, rfl⟩), rfl⟩
    · intro s hs
      have hending : s = .announce ∨ s = .accept ∨ s = .finish := by
        cases isStart with
        | false => exact .inr (.inr (by simpa using hs))
        | true => simpa using hs
      rcases hending with rfl | rfl | rfl <;> rfl

/-! ## Reads, names and acceptance -/

theorem mem_own (h : body c p isStart = .ok b) : s ∈ b.own ↔
    s ∈ startOf p ∨ s ∈ b.bindings ∨ s ∈ extentBindingsOf c p ∨ s ∈ endingOf c p isStart := by
  rw [(body_own h).2]
  simp only [List.mem_append, or_assoc]

theorem mem_endingOf : s ∈ endingOf c p isStart ↔
    s = .construct p.rule.lhs.name p.rule.lhs.index (extentOf c p) p.rule.lhs.valueType.isSome ∨
      isStart ∧ (s = .announce ∨ s = .accept) ∨ s = .finish := by
  cases isStart with
  | false => simp [endingOf]
  | true => simp [endingOf, or_assoc]

/-- The stack is read within the right side only, or at its top if the right side is empty. -/
theorem own_distance (h : body c p isStart = .ok b)
    (hfits : intermediateFits p.length p.base.length p.intermediate) (hs : s ∈ b.own) {d : Int}
    (hd : s.distance? = some d) :
    1 ≤ d ∧ d ≤ max p.length 1 ∧ (p.length = 0 → c.trackPositions) := by
  rcases (mem_own h).mp hs with hs | hs | hs | hs
  · obtain ⟨t, -, rfl⟩ := mem_startOf.mp hs
    by_cases hnone : p.intermediate = -1
    · simp [hnone, Statement.distance?] at hd
    · obtain rfl : p.length - p.intermediate = d := by
        simpa [hnone, Statement.distance?] using hd
      have hbounds : 0 ≤ p.intermediate ∧ p.intermediate < p.length := by
        simp [intermediateFits, hnone] at hfits
        omega
      omega
  · obtain ⟨i, hi, part, -, hs⟩ := exists_position h hs
    obtain ⟨slot, -, rfl | ⟨label, -, ⟨-, rfl | rfl⟩ | ⟨t, -, rfl⟩⟩⟩ := mem_positionBindings hs
    · obtain rfl : (p.length : Int) - i = d := Option.some.inj hd
      omega
    · cases hd
    · cases hd
    · cases hd
  · obtain ⟨htrack, ⟨-, rfl⟩ | ⟨htwo, -, rfl⟩⟩ := mem_extentBindingsOf.mp hs
    · obtain rfl : 1 = d := Option.some.inj hd
      exact ⟨Int.le_refl 1, by omega, fun _ => htrack⟩
    · obtain rfl : (p.length : Int) = d := Option.some.inj hd
      exact ⟨by omega, by omega, fun _ => htrack⟩
  · rcases mem_endingOf.mp hs with rfl | ⟨-, rfl | rfl⟩ | rfl <;> cases hd

/-- Where a name of the generated code has a place: the end symbols only if positions are tracked,
the first one only if it is not the last, a variable of a label only for a label of the right side,
and the result only if the left side has a type. -/
def OwnName.HasPlace (c : Config) (p : Production) : OwnName → Prop
  | .slot .right => c.trackPositions
  | .slot .left => c.trackPositions ∧ 2 ≤ p.length
  | .slot (.labelled label) => ∃ i, p.labelAt? i = some label
  | .result => p.rule.lhs.valueType.isSome

theorem hasPlace_of_holder {slot : Slot} (hi : i < p.length) (hpart : p.part i = .ok part)
    (h : holder? c p i part.label = some slot) : (OwnName.slot slot).HasPlace c p := by
  unfold holder? endSlot? at h
  by_cases hown : p.isDerived ∨ !c.trackPositions
  · rw [if_pos hown] at h
    obtain ⟨label, hlabel, rfl⟩ := Option.map_eq_some_iff.mp h
    exact ⟨i, Production.labelAt?_of_part hi hpart hlabel⟩
  · rw [if_neg hown] at h
    have htrack : c.trackPositions := by
      rw [not_or] at hown
      simpa using hown.2
    by_cases hlast : i + 1 = p.length
    · rw [if_pos hlast] at h
      cases h
      exact htrack
    · rw [if_neg hlast] at h
      by_cases hfirst : i = 0
      · rw [if_pos hfirst] at h
        cases h
        exact ⟨htrack, by omega⟩
      · rw [if_neg hfirst] at h
        obtain ⟨label, hlabel, rfl⟩ := Option.map_eq_some_iff.mp h
        exact ⟨i, Production.labelAt?_of_part hi hpart hlabel⟩

/-- A body assigns and uses only names that have a place in it. -/
theorem own_hasPlace (h : body c p isStart = .ok b) (hs : s ∈ b.own) {name : OwnName}
    (hname : s.assigned? = some name ∨ name ∈ s.used) : name.HasPlace c p := by
  rcases (mem_own h).mp hs with hs | hs | hs | hs
  · obtain ⟨t, ht, rfl⟩ := mem_startOf.mp hs
    obtain rfl : .result = name := by simpa [Statement.assigned?, Statement.used] using hname
    exact Option.isSome_iff_exists.mpr ⟨t, ht⟩
  · obtain ⟨i, hi, part, hpart, hs⟩ := exists_position h hs
    obtain ⟨slot, hholder, hs⟩ := mem_positionBindings hs
    have hslot : name = .slot slot := by
      rcases hs with rfl | ⟨label, -, ⟨-, rfl | rfl⟩ | ⟨t, -, rfl⟩⟩ <;>
        simpa [Statement.assigned?, Statement.used, eq_comm] using hname
    exact hslot ▸ hasPlace_of_holder hi hpart hholder
  · obtain ⟨htrack, ⟨-, rfl⟩ | ⟨htwo, -, rfl⟩⟩ := mem_extentBindingsOf.mp hs
    · obtain rfl : .slot .right = name := by
        simpa [Statement.assigned?, Statement.used] using hname
      exact htrack
    · obtain rfl : .slot .left = name := by
        simpa [Statement.assigned?, Statement.used] using hname
      exact ⟨htrack, htwo⟩
  · rcases mem_endingOf.mp hs with rfl | ⟨-, rfl | rfl⟩ | rfl
    · rcases mem_used_construct (hname.resolve_left (by simp [Statement.assigned?])) with
        ⟨slot, rfl, htrack, rfl | ⟨rfl, htwo⟩⟩ | ⟨rfl, hresult⟩
      · exact htrack
      · exact ⟨htrack, htwo⟩
      · exact hresult
    all_goals simp [Statement.assigned?, Statement.used] at hname

/-- The statements before the ending bind names. -/
theorem bound_ne_nil (h : body c p isStart = .ok b)
    (hs : s ∈ startOf p ++ b.bindings ++ extentBindingsOf c p) : s.bound ≠ [] := by
  rcases List.mem_append.mp hs with hs | hs
  · rcases List.mem_append.mp hs with hs | hs
    · obtain ⟨t, -, rfl⟩ := mem_startOf.mp hs
      exact List.cons_ne_nil _ _
    · obtain ⟨i, -, part, -, hs⟩ := exists_position h hs
      obtain ⟨slot, -, rfl | ⟨label, -, ⟨-, rfl | rfl⟩ | ⟨t, -, rfl⟩⟩⟩ :=
        mem_positionBindings hs <;> exact List.cons_ne_nil _ _
  · obtain ⟨-, ⟨-, rfl⟩ | ⟨-, -, rfl⟩⟩ := mem_extentBindingsOf.mp hs <;>
      exact List.cons_ne_nil _ _

theorem accept_not_mem (h : body c p isStart = .ok b) :
    .accept ∉ startOf p ++ b.bindings ++ extentBindingsOf c p :=
  fun hs => bound_ne_nil h hs rfl

/-- Only the start production accepts. -/
theorem isStart_of_accept (h : body c p isStart = .ok b) (hs : .accept ∈ b.own) : isStart := by
  rw [(body_own h).2] at hs
  rcases List.mem_append.mp hs with hs | hs
  · exact absurd hs (accept_not_mem h)
  · rcases mem_endingOf.mp hs with heq | ⟨hstart, -⟩ | heq
    · cases heq
    · exact hstart
    · cases heq

/-- The start production accepts once, right before its body ends. -/
theorem own_accept (h : body c p true = .ok b) :
    ∃ first, b.own = first ++ [.accept, .finish] ∧ .accept ∉ first := by
  refine ⟨startOf p ++ b.bindings ++ extentBindingsOf c p ++ [.construct p.rule.lhs.name
    p.rule.lhs.index (extentOf c p) p.rule.lhs.valueType.isSome, .announce], ?_, ?_⟩
  · rw [(body_own h).2, List.append_assoc _ [_, _]]
    rfl
  · intro hs
    rcases List.mem_append.mp hs with hs | hs
    · exact accept_not_mem h hs
    · simp at hs

end Body

end LalrBackend.Reduction
