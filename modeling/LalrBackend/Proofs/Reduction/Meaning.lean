import LalrBackend.Proofs.Reduction.Labels

/-!
# The meaning of a reduction body

A body is run with the user's code as a parameter: whatever that code makes of the
names that it finds, as long as it gives a value to no name but the result. The symbol
that the body makes then depends on the production, the stack and the final result
alone. User code that is made of assignments is one of the meanings that user code may have:
it assigns nothing but the result if all its targets are the result. A body with such
code is run as the reduction that it stands for.
-/

namespace LalrBackend.Reduction

open Failure

/-! ## User code as a parameter -/

/-- What user code makes of the names that are bound. -/
abbrev UserCode := Environment → Except Fault Environment

/-- Nothing but the result was assigned. -/
structure AssignsResult (env after : Environment) : Prop where
  others : ∀ n, n ≠ resultName → after.lookup n = env.lookup n
  kept : (env.lookup resultName).isSome → (after.lookup resultName).isSome

/-- Runs a body, the user's code in its place. -/
def Body.run (bound : List String) (code : UserCode) (b : Body) (stack : List Value) :
    Except Fault Value := do
  let env ← (b.start ++ b.bindings).foldlM (Statement.run bound stack) []
  let env ← code env
  let env ← (b.extentBindings ++ b.ending).foldlM (Statement.run bound stack) env
  valueOf bound env symbolName

/-- The symbol that a reduction makes: it has the index and the name of the left side and
the result as its value, if the left side has a type. It extends from the first to the last
symbol of the right side, or over the symbol on top of the stack if there is none, if
positions are tracked. -/
def reducedSymbol (c : Config) (p : Production) (stack : List StackSymbol)
    (after : Environment) : Value :=
  .symbol (.int p.rule.lhs.index)
    (if p.rule.lhs.valueType.isSome then (after.lookup resultName).getD .null else .null)
    (if c.trackPositions then (slotAt stack (max p.length 1)).left else .int (-1))
    (if c.trackPositions then (slotAt stack 1).right else .int (-1))
    (.text p.rule.lhs.name)

section Body

variable {c : Config} {p : Production} {stack : List StackSymbol} {bound : List String}
  {env after : Environment} {isStart : Bool} {b : Body}

/-! ## Bodies that could be made -/

theorem exists_part_of_bindingsAt {positions : List Nat} {statements : List Statement}
    (h : bindingsAt c p positions = .ok statements) :
    ∀ position ∈ positions, ∃ part, p.part position = .ok part := by
  induction positions generalizing statements with
  | nil =>
      intro position hposition
      cases hposition
  | cons first rest ih =>
      unfold bindingsAt at h
      obtain ⟨part, hpart, h⟩ := bind_eq_ok.mp h
      obtain ⟨others, hothers, _⟩ := bind_eq_ok.mp h
      intro position hposition
      rcases List.mem_cons.mp hposition with rfl | hrest
      · exact ⟨part, hpart⟩
      · exact ih hothers position hrest

theorem exists_part_of_body (h : body c p isStart = .ok b) {i : Nat} (hi : i < p.length) :
    ∃ part, p.part i = .ok part := by
  unfold body at h
  obtain ⟨bindings, hbindings, _⟩ := bind_eq_ok.mp h
  exact exists_part_of_bindingsAt hbindings i (by simpa [positionsDown] using hi)

theorem body_parts (h : body c p isStart = .ok b) :
    b.userLines = userLinesOf p ∧ b.extentBindings = extentBindingsOf c p ∧
      b.ending = endingOf c p isStart := by
  unfold body at h
  obtain ⟨bindings, _, h⟩ := bind_eq_ok.mp h
  cases h
  exact ⟨rfl, rfl, rfl⟩

/-- The user's lines stand in a body behind the bindings. -/
theorem lines_of_body (h : body c p isStart = .ok b) :
    b.lines c = (b.start ++ b.bindings).map (Statement.line c) ++ userLinesOf p ++
      (b.extentBindings ++ b.ending).map (Statement.line c) := by
  have huser : (b.userLines.map Statement.user).map (Statement.line c) = userLinesOf p := by
    rw [List.map_map, (body_parts h).1]
    exact List.map_id _
  rw [Body.lines, Body.statements, List.append_assoc _ b.extentBindings, List.map_append,
    List.map_append, huser]

/-! ## The ends of the right side -/

/-- A production that is its own base has its last symbol in a variable before the user's
code, and its first one too if that is another one. -/
theorem environment_lookup_ends (hbody : body c p isStart = .ok b)
    (hapart : p.LabelsApart) (hown : p.isDerived = false) (htrack : c.trackPositions = true)
    (hpos : 1 ≤ p.length) :
    (environment c p stack).lookup Slot.right.name = some (slotAt stack 1).toValue ∧
      (2 ≤ p.length → (environment c p stack).lookup Slot.left.name =
        some (slotAt stack p.length).toValue) := by
  have hend : ∀ position, endSlot? c p position =
      if position + 1 = p.length then some .right
      else if position = 0 then some .left else none := by
    intro position
    simp [endSlot?, hown, htrack]
  constructor
  · obtain ⟨part, hpart⟩ := exists_part_of_body hbody (i := p.length - 1) (by omega)
    have hholder : holder? c p (p.length - 1) part.label = some .right := by
      rw [holder?, hend, if_pos (by omega)]
    have hothers : ∀ j other, j < p.length → j ≠ p.length - 1 → p.part j = .ok other →
        holder? c p j other.label ≠ some .right := by
      intro j other hj hne _
      rw [holder?, hend, if_neg (by omega)]
      by_cases hzero : j = 0
      · simp [hzero]
      · simp [hzero]
    have hlast : p.length - (p.length - 1) = 1 := by omega
    rw [environment_lookup_slot hapart (by omega) hpart hholder hothers, hlast]
  · intro htwo
    obtain ⟨part, hpart⟩ := exists_part_of_body hbody (i := 0) (by omega)
    have hholder : holder? c p 0 part.label = some .left := by
      rw [holder?, hend, if_neg (by omega), if_pos rfl]
    have hothers : ∀ j other, j < p.length → j ≠ 0 → p.part j = .ok other →
        holder? c p j other.label ≠ some .left := by
      intro j other hj hne _
      rw [holder?, hend]
      by_cases hlast : j + 1 = p.length
      · simp [hlast]
      · simp [hlast, hne]
    rw [environment_lookup_slot hapart (by omega) hpart hholder hothers, Nat.sub_zero]

theorem endsOf_eq_ok {first last : Slot} {s t : StackSymbol}
    (hfirst : env.lookup first.name = some s.toValue)
    (hlast : env.lookup last.name = some t.toValue) :
    endsOf bound env (some (first, last)) = .ok (s.toValue, t.toValue) := by
  simp only [endsOf, valueOf, hfirst, hlast]
  rfl

theorem resultName_ne_slot (slot : Slot) : resultName ≠ slot.name := by
  intro h
  exact not_isMarked_resultName (h ▸ slot.isMarked)

/-- The symbol on top of the stack as both ends of the new one. -/
theorem run_bindTop (hpos : 1 ≤ stack.length) :
    ∃ env, [Statement.bindSlot .right 1].foldlM
        (Statement.run bound (stack.map StackSymbol.toValue)) after = .ok env ∧
      env.lookup resultName = after.lookup resultName ∧
      endsOf bound env (some (.right, .right)) =
        .ok ((slotAt stack 1).toValue, (slotAt stack 1).toValue) := by
  have hone : (1 : Int) = ((1 : Nat) : Int) := rfl
  refine ⟨(Slot.right.name, (slotAt stack 1).toValue) :: after, ?_, ?_, ?_⟩
  · rw [List.foldlM_cons, hone, run_bindSlot (by omega) hpos]
    rfl
  · rw [lookup_binding, if_neg (resultName_ne_slot _)]
  · exact endsOf_eq_ok (by simp) (by simp)

/-- Two symbols of the stack as the ends of the new one. -/
theorem run_bindEnds {k : Nat} (hpos : 1 ≤ k) (hlen : k ≤ stack.length) :
    ∃ env, [Statement.bindSlot .right 1, .bindSlot .left k].foldlM
        (Statement.run bound (stack.map StackSymbol.toValue)) after = .ok env ∧
      env.lookup resultName = after.lookup resultName ∧
      endsOf bound env (some (.left, .right)) =
        .ok ((slotAt stack k).toValue, (slotAt stack 1).toValue) := by
  have hone : (1 : Int) = ((1 : Nat) : Int) := rfl
  have hleftRight : Slot.right.name ≠ Slot.left.name := by
    intro h
    cases Slot.name_inj h
  refine ⟨(Slot.left.name, (slotAt stack k).toValue) ::
    (Slot.right.name, (slotAt stack 1).toValue) :: after, ?_, ?_, ?_⟩
  · rw [List.foldlM_cons, hone, run_bindSlot (by omega) (by omega), ok_bind, List.foldlM_cons,
      run_bindSlot hpos hlen]
    rfl
  · rw [lookup_binding, if_neg (resultName_ne_slot _), lookup_binding,
      if_neg (resultName_ne_slot _)]
  · refine endsOf_eq_ok (by simp) ?_
    rw [lookup_binding, if_neg hleftRight, lookup_binding, if_pos rfl]

/-- After the bindings that come behind the user's code, the ends of the new symbol are in
variables, whichever of them were bound before, and the result is as the user's code left
it. -/
theorem run_extentBindings (hbody : body c p isStart = .ok b) (hapart : p.LabelsApart)
    (hlen : max p.length 1 ≤ stack.length)
    (hafter : ∀ slot : Slot, after.lookup slot.name =
      (environment c p stack).lookup slot.name) :
    ∃ env, (extentBindingsOf c p).foldlM
        (Statement.run bound (stack.map StackSymbol.toValue)) after = .ok env ∧
      env.lookup resultName = after.lookup resultName ∧
      endsOf bound env (extentOf c p) = .ok
        (if c.trackPositions then
          ((slotAt stack (max p.length 1)).toValue, (slotAt stack 1).toValue)
        else (.null, .null)) := by
  unfold extentBindingsOf extentOf
  cases htrack : c.trackPositions with
  | false => exact ⟨after, rfl, rfl, rfl⟩
  | true =>
      simp only [Bool.not_true, Bool.false_eq_true, if_false, if_true]
      by_cases hzero : p.length = 0
      · -- An empty right side has bound nothing yet.
        rw [if_pos hzero, if_pos (by omega), hzero]
        exact run_bindTop (by omega)
      · rw [if_neg hzero]
        have hmax : max p.length 1 = p.length := by omega
        rw [hmax]
        cases hderived : p.isDerived with
        | true =>
            -- Neither has a derived production: it is not at the ends of its base rule.
            rw [if_pos rfl]
            by_cases htwo : 2 ≤ p.length
            · rw [if_pos htwo, if_neg (by omega)]
              exact run_bindEnds (by omega) (by omega)
            · have honly : p.length = 1 := by omega
              rw [if_neg htwo, if_pos (by omega), honly]
              exact run_bindTop (by omega)
        | false =>
            -- Otherwise the ends were bound before the user's code, which left them.
            obtain ⟨hright, hleft⟩ := environment_lookup_ends hbody hapart hderived htrack
              (by omega)
            rw [← hafter] at hright
            refine ⟨after, rfl, rfl, ?_⟩
            by_cases htwo : 2 ≤ p.length
            · have hleft := hleft htwo
              rw [← hafter] at hleft
              rw [if_neg (by omega)]
              exact endsOf_eq_ok hleft hright
            · have honly : p.length = 1 := by omega
              rw [if_pos (by omega), honly]
              exact endsOf_eq_ok hright hright

/-! ## The new symbol -/

theorem run_construct {name : String} {index : Int} {extent : Option (Slot × Slot)}
    {withResult : Bool} {values : List Value} {first last value s : Value}
    (hends : endsOf bound env extent = .ok (first, last))
    (hvalue : (if withResult then valueOf bound env resultName else .ok .null) = .ok value)
    (hsymbol : Value.symbolBetween? (.text name) (.int index) first last value = some s) :
    (Statement.construct name index extent withResult).run bound values env =
      .ok ((symbolName, s) :: env) := by
  rw [Statement.run, hends, ok_bind]
  cases withResult with
  | false =>
      cases hvalue
      simp only [Bool.false_eq_true, if_false, ok_bind, hsymbol]
      rfl
  | true =>
      rw [if_pos rfl] at hvalue
      simp only [if_true, hvalue, ok_bind, hsymbol]
      rfl

/-- The ending makes the symbol and gives it back. -/
theorem run_endingOf {values : List Value} {s : Value} {env' : Environment}
    (hconstruct : (Statement.construct p.rule.lhs.name p.rule.lhs.index (extentOf c p)
      p.rule.lhs.valueType.isSome).run bound values env = .ok ((symbolName, s) :: env')) :
    (endingOf c p isStart).foldlM (Statement.run bound values) env =
      .ok ((symbolName, s) :: env') := by
  unfold endingOf
  cases isStart with
  | false =>
      simp only [Bool.false_eq_true, if_false, List.append_nil, List.singleton_append]
      rw [List.foldlM_cons, hconstruct]
      rfl
  | true =>
      simp only [if_true, List.cons_append]
      rw [List.foldlM_cons, hconstruct]
      rfl

theorem symbolBetween?_eq_some (c : Config) (name : String) (index : Int)
    (first last : StackSymbol) (value : Value) :
    (if c.trackPositions then
        Value.symbolBetween? (.text name) (.int index) first.toValue last.toValue value
      else Value.symbolBetween? (.text name) (.int index) .null .null value) =
      some (.symbol (.int index) value
        (if c.trackPositions then first.left else .int (-1))
        (if c.trackPositions then last.right else .int (-1)) (.text name)) := by
  cases c.trackPositions with
  | false => rfl
  | true => rfl

/-- **The meaning of a body.** If the user's code ends and assigns nothing but the result,
the body gives back the symbol of the reduction. -/
theorem Body.run_eq_ok (hbody : body c p isStart = .ok b)
    (hfits : intermediateFits p.length p.base.length p.intermediate)
    (hapart : p.LabelsApart) (hlen : max p.length 1 ≤ stack.length) {code : UserCode}
    (hcode : code (environment c p stack) = .ok after)
    (hassigns : AssignsResult (environment c p stack) after) :
    b.run bound code (stack.map StackSymbol.toValue) =
      .ok (reducedSymbol c p stack after) := by
  have hslots : ∀ slot : Slot, after.lookup slot.name =
      (environment c p stack).lookup slot.name := by
    intro slot
    exact hassigns.others _ (resultName_ne_slot slot).symm
  obtain ⟨_, hextent, hending⟩ := body_parts hbody
  obtain ⟨env, hrun, hresult, hends⟩ :=
    run_extentBindings hbody hapart hlen hslots
  have hvalue : (if p.rule.lhs.valueType.isSome then valueOf bound env resultName
      else .ok .null) =
      .ok (if p.rule.lhs.valueType.isSome then (after.lookup resultName).getD .null
        else .null) := by
    cases htyped : p.rule.lhs.valueType.isSome with
    | false => rfl
    | true =>
        have hbound : (after.lookup resultName).isSome := by
          apply hassigns.kept
          rw [environment_lookup_result hapart, htyped]
          rfl
        obtain ⟨v, hv⟩ := Option.isSome_iff_exists.mp hbound
        rw [if_pos rfl, if_pos rfl, valueOf, hresult, hv]
        rfl
  have hsymbol := symbolBetween?_eq_some c p.rule.lhs.name p.rule.lhs.index
    (slotAt stack (max p.length 1)) (slotAt stack 1)
    (if p.rule.lhs.valueType.isSome then (after.lookup resultName).getD .null else .null)
  have hconstruct : (Statement.construct p.rule.lhs.name p.rule.lhs.index (extentOf c p)
      p.rule.lhs.valueType.isSome).run bound (stack.map StackSymbol.toValue) env =
      .ok ((symbolName, reducedSymbol c p stack after) :: env) := by
    cases htrack : c.trackPositions with
    | false =>
        rw [htrack] at hends hsymbol
        refine run_construct hends hvalue ?_
        rw [reducedSymbol, htrack]
        exact hsymbol
    | true =>
        rw [htrack] at hends hsymbol
        refine run_construct hends hvalue ?_
        rw [reducedSymbol, htrack]
        exact hsymbol
  unfold Body.run
  rw [run_before hbody hfits (by omega) hapart, ok_bind, hcode, ok_bind, hextent, hending,
    List.foldlM_append, hrun, ok_bind, run_endingOf hconstruct, ok_bind, valueOf,
    lookup_binding, if_pos rfl]

end Body

/-! ## Plain user code -/

section Plain

variable {c : Config} {p : Production} {stack : List StackSymbol} {b : Body}

/-- What assignments make of the names that are bound. -/
def assignmentsCode (bound : List String) (code : List Assignment) : UserCode :=
  fun env => code.foldlM (Assignment.run bound) env

theorem assignsResult_of_targets {targets : List String} {v : Value} {env : Environment}
    (h : ∀ n ∈ targets, n = resultName) :
    AssignsResult env (targets.foldl (fun env name => (name, v) :: env) env) := by
  induction targets generalizing env with
  | nil => exact ⟨fun _ _ => rfl, fun h => h⟩
  | cons target rest ih =>
      obtain rfl : target = resultName := h target List.mem_cons_self
      obtain ⟨hothers, hkept⟩ : AssignsResult ((resultName, v) :: env) _ :=
        ih fun n hn => h n (List.mem_cons_of_mem _ hn)
      refine ⟨?_, ?_⟩
      · intro n hn
        rw [List.foldl_cons, hothers n hn, lookup_binding, if_neg hn]
      · intro _
        exact hkept (by simp)

/-- Assignments to the result assign nothing but the result. -/
theorem assignsResult_of_assignments {bound : List String} {code : List Assignment}
    {env after : Environment} (hcode : assignmentsCode bound code env = .ok after)
    (htargets : ∀ a ∈ code, ∀ n ∈ a.targets, n = resultName) : AssignsResult env after := by
  induction code generalizing env with
  | nil =>
      cases hcode
      exact ⟨fun _ _ => rfl, fun h => h⟩
  | cons a code ih =>
      rw [assignmentsCode, List.foldlM_cons] at hcode
      obtain ⟨next, hnext, hcode⟩ := bind_eq_ok.mp hcode
      obtain ⟨v, _, hnext⟩ := bind_eq_ok.mp hnext
      cases hnext
      have hfirst : AssignsResult env _ :=
        assignsResult_of_targets (v := v) (htargets a List.mem_cons_self)
      have hrest := ih hcode fun a ha => htargets a (List.mem_cons_of_mem _ ha)
      refine ⟨?_, ?_⟩
      · intro n hn
        rw [hrest.others n hn, hfirst.others n hn]
      · intro hsome
        exact hrest.kept (hfirst.kept hsome)

/-! ## Bodies as plain reductions -/

/-- The reduction that a body stands for, with the user's lines read as assignments. -/
def Body.method (b : Body) (code : List Assignment) : Method :=
  ⟨b.start ++ b.bindings, code, b.extentBindings ++ b.ending⟩

theorem method?_eq_some {isTaken : String → Bool} {method : Method}
    (h : b.method? isTaken = some method) :
    ∃ code, b.userLines.mapM assignmentsOn? = some code ∧ method = b.method code.flatten := by
  unfold Body.method? at h
  obtain ⟨code, hcode, h⟩ := Option.bind_eq_some_iff.mp h
  refine ⟨code, hcode, ?_⟩
  simp only at h
  split at h
  · cases h
    rfl
  · cases h

theorem run_method (b : Body) (code : List Assignment) (stack : List Value) :
    (b.method code).run stack =
      b.run (b.method code).bound (assignmentsCode (b.method code).bound code) stack := rfl

/-- A reduction accepts the parse exactly if it is by the start production. -/
theorem accept_mem_ending {isStart : Bool} (hbody : body c p isStart = .ok b) :
    .accept ∈ b.ending ↔ isStart = true := by
  obtain ⟨_, _, hending⟩ := body_parts hbody
  rw [hending]
  cases isStart with
  | false => simp [endingOf]
  | true => simp [endingOf]

theorem accept_not_mem_extentBindings : .accept ∉ extentBindingsOf c p := by
  unfold extentBindingsOf
  split
  · simp
  · split
    · simp
    · split
      · split <;> simp
      · simp

theorem accepts_method {isStart : Bool} (hbody : body c p isStart = .ok b)
    (code : List Assignment) : (b.method code).accepts = isStart := by
  obtain ⟨_, hextent, _⟩ := body_parts hbody
  rw [Method.accepts, Bool.eq_iff_iff, List.contains_iff_mem, Body.method, hextent,
    List.mem_append, accept_mem_ending hbody]
  simp [accept_not_mem_extentBindings]

end Plain

end LalrBackend.Reduction
