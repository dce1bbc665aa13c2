import LalrBackend.Proofs.Failure
import LalrBackend.Proofs.Reduction.Names
import LalrBackend.Reduction.Run

/-!
# The names that a reduction binds before the user's code

The statements before the user's code bind names for one position of the right side
after the other, the last position first. Written out as a list, the latest binding
first, the names of the first position stand in front and the start of the result at
the end. The top of the stack has distance one; a reduction that finds enough symbols on
the stack reads exactly the symbol at the distance that it names.
-/

namespace LalrBackend.Reduction

open Failure

/-! ## Slots of the stack -/

section Slots

variable {stack : List StackSymbol} {distance : Nat}

/-- The symbol at a distance from the top of a stack that is long enough. -/
def slotAt (stack : List StackSymbol) (distance : Nat) : StackSymbol :=
  stack.reverse.getD (distance - 1) { sym := .null }

theorem slotAt_eq_getElem (hpos : 1 ≤ distance) (hlen : distance ≤ stack.length) :
    slotAt stack distance = stack[stack.length - distance] := by
  have hlt : distance - 1 < stack.reverse.length := by
    rw [List.length_reverse]
    omega
  rw [slotAt, List.getD_eq_getElem?_getD, List.getElem?_eq_getElem hlt, Option.getD_some,
    List.getElem_reverse]
  congr 1
  omega

@[simp] theorem symbol?_toValue (s : StackSymbol) : s.toValue.symbol? = some s := rfl

theorem atDistance_toValue (hpos : 1 ≤ distance) (hlen : distance ≤ stack.length) :
    atDistance (stack.map StackSymbol.toValue) distance =
      .ok (slotAt stack distance).toValue := by
  -- The top is addressed from the end, every other slot from the bottom.
  have hposition : position? stack.length
      (if (distance : Int) = 1 then -1 else stack.length - (distance : Int)) =
      some (stack.length - distance) := by
    by_cases htop : (distance : Int) = 1
    · rw [if_pos htop, position?_of_neg (by omega) (by omega)]
      congr 1
      omega
    · rw [if_neg htop, position?_of_nonneg (by omega) (by omega)]
      congr 1
      omega
  unfold atDistance
  simp only [List.length_map, hposition, Option.bind_some]
  rw [List.getElem?_map, List.getElem?_eq_getElem (by omega), slotAt_eq_getElem hpos hlen]
  rfl

end Slots

/-! ## What statements take -/

section Taken

variable {bound : List String} {env : Environment} {n : String} {v w : Value}

theorem eq_some_of_orFail {α : Type} {fault : Fault} {a? : Option α} {a : α}
    (h : orFail fault a? = .ok a) : a? = some a := by
  cases a? with
  | none => cases h
  | some a' =>
      cases h
      rfl

theorem lookup_of_valueOf (h : valueOf bound env n = .ok v) : env.lookup n = some v := by
  unfold valueOf at h
  cases hfound : env.lookup n with
  | none =>
      rw [hfound] at h
      cases h
  | some w =>
      rw [hfound] at h
      cases h
      rfl

theorem endsOf_eq_ok_iff {first last : Slot} :
    endsOf bound env (some (first, last)) = .ok (v, w) ↔
      valueOf bound env first.name = .ok v ∧ valueOf bound env last.name = .ok w := by
  rw [endsOf]
  constructor
  · intro h
    obtain ⟨x, hx, h⟩ := bind_eq_ok.mp h
    obtain ⟨y, hy, h⟩ := bind_eq_ok.mp h
    cases h
    exact ⟨hx, hy⟩
  · rintro ⟨hfirst, hlast⟩
    rw [hfirst, ok_bind, hlast]
    rfl

theorem eq_toValue_of_symbol? {t : StackSymbol} (h : v.symbol? = some t) : v = t.toValue := by
  cases v with
  | symbol sym value left right name =>
      cases h
      rfl
  | _ => cases h

/-- What has parts is a symbol. -/
theorem partOf_eq_ok {slot : Slot} {part : StackSymbol → Value}
    (h : partOf bound env slot part = .ok v) :
    ∃ t : StackSymbol, valueOf bound env slot.name = .ok t.toValue ∧ v = part t := by
  obtain ⟨x, hx, h⟩ := bind_eq_ok.mp h
  obtain ⟨t, ht, h⟩ := bind_eq_ok.mp h
  cases h
  obtain rfl := eq_toValue_of_symbol? (eq_some_of_orFail ht)
  exact ⟨t, hx, rfl⟩

/-- A symbol is made between its ends. -/
theorem run_construct_eq_ok {name : String} {index : Int} {extent : Option (Slot × Slot)}
    {withResult : Bool} {values : List Value} {env' : Environment}
    (h : (Statement.construct name index extent withResult).run bound values env = .ok env') :
    ∃ first last value v, endsOf bound env extent = .ok (first, last) ∧
      (if withResult then valueOf bound env resultName else .ok .null) = .ok value ∧
      Value.symbolBetween? (.text name) (.int index) first last value = some v ∧
      env' = (symbolName, v) :: env := by
  obtain ⟨⟨first, last⟩, hends, h⟩ := bind_eq_ok.mp h
  have hmade : ∀ value, (do
      let s ← orFail .noPart (Value.symbolBetween? (.text name) (.int index) first last value)
      return (symbolName, s) :: env) = .ok env' →
      ∃ v, Value.symbolBetween? (.text name) (.int index) first last value = some v ∧
        env' = (symbolName, v) :: env := by
    intro value hvalue
    obtain ⟨v, hv, hvalue⟩ := bind_eq_ok.mp hvalue
    cases hvalue
    exact ⟨v, eq_some_of_orFail hv, rfl⟩
  cases withResult with
  | false =>
      obtain ⟨v, hv, heq⟩ := hmade .null h
      exact ⟨first, last, .null, v, hends, rfl, hv, heq⟩
  | true =>
      obtain ⟨value, hvalue, h⟩ := bind_eq_ok.mp h
      obtain ⟨v, hv, heq⟩ := hmade value h
      exact ⟨first, last, value, v, hends, hvalue, hv, heq⟩

end Taken

/-! ## The bindings, written out -/

/-- The value that the result starts with. -/
def startValue (p : Production) (stack : List StackSymbol) : Value :=
  if p.intermediate = -1 then .null
  else (slotAt stack (p.length - p.intermediate).toNat).value

/-- The start of the result. -/
def startEnvironment (p : Production) (stack : List StackSymbol) : Environment :=
  match p.rule.lhs.valueType with
  | none => []
  | some _ => [(resultName, startValue p stack)]

/-- The names that a label stands for, with what they hold of a symbol. -/
def labelEnvironment (c : Config) (label : String) (valueType : Option String)
    (s : StackSymbol) : Environment :=
  (if valueType.isSome then [(label, s.value)] else []) ++
    if c.trackPositions then
      [(label ++ rightSuffix, s.right), (label ++ leftSuffix, s.left)]
    else []

/-- The variable that holds the symbol at a position, if any does. -/
def holder? (c : Config) (p : Production) (position : Nat) (label : Option String) :
    Option Slot :=
  match endSlot? c p position with
  | some slot => some slot
  | none => label.map Slot.labelled

/-- The names that are bound for one position. -/
def partEnvironment (c : Config) (p : Production) (position : Nat) (part : Part)
    (s : StackSymbol) : Environment :=
  match holder? c p position part.label with
  | none => []
  | some slot =>
    (match part.label with
      | none => []
      | some label => labelEnvironment c label part.symbol.valueType s) ++
      [(slot.name, s.toValue)]

/-- The names that are bound for the symbol of a position. -/
def positionEnvironment (c : Config) (p : Production) (stack : List StackSymbol)
    (position : Nat) : Environment :=
  match p.part position with
  | .ok part => partEnvironment c p position part (slotAt stack (p.length - position))
  | .error _ => []

/-- The names that are bound when the user's code begins. -/
def environment (c : Config) (p : Production) (stack : List StackSymbol) : Environment :=
  (List.range p.length).flatMap (positionEnvironment c p stack) ++ startEnvironment p stack

/-! ## Running the bindings -/

section Run

variable {c : Config} {p : Production} {stack : List StackSymbol} {bound : List String}
  {env : Environment}

theorem partOf_toValue {slot : Slot} {s : StackSymbol} {part : StackSymbol → Value}
    (h : env.lookup slot.name = some s.toValue) :
    partOf bound env slot part = .ok (part s) := by
  unfold partOf valueOf
  rw [h]
  rfl

/-- A name without the mark does not hide a variable. -/
theorem lookup_slot_cons {slot : Slot} {name : String} {v : Value}
    (hname : ¬ IsMarked name) :
    ((name, v) :: env).lookup slot.name = env.lookup slot.name := by
  have hne : slot.name ≠ name := by
    rintro rfl
    exact hname slot.isMarked
  rw [List.lookup_cons, beq_false_of_ne hne]

theorem run_bindLeft {label : String} {slot : Slot} {s : StackSymbol} {values : List Value}
    (h : env.lookup slot.name = some s.toValue) :
    (Statement.bindLeft label slot).run bound values env =
      .ok ((label ++ leftSuffix, s.left) :: env) := by
  rw [Statement.run, partOf_toValue h]
  rfl

theorem run_bindRight {label : String} {slot : Slot} {s : StackSymbol} {values : List Value}
    (h : env.lookup slot.name = some s.toValue) :
    (Statement.bindRight label slot).run bound values env =
      .ok ((label ++ rightSuffix, s.right) :: env) := by
  rw [Statement.run, partOf_toValue h]
  rfl

theorem run_bindValue {label valueType : String} {slot : Slot} {s : StackSymbol}
    {values : List Value} (h : env.lookup slot.name = some s.toValue) :
    (Statement.bindValue label valueType slot).run bound values env =
      .ok ((label, s.value) :: env) := by
  rw [Statement.run, partOf_toValue h]
  rfl

theorem run_bindSlot {slot : Slot} {distance : Nat} (hpos : 1 ≤ distance)
    (hlen : distance ≤ stack.length) :
    (Statement.bindSlot slot distance).run bound (stack.map StackSymbol.toValue) env =
      .ok ((slot.name, (slotAt stack distance).toValue) :: env) := by
  rw [Statement.run, atDistance_toValue hpos hlen]
  rfl

theorem run_labelBindings {label : String} {valueType : Option String} {slot : Slot}
    {s : StackSymbol} {values : List Value} (hlabel : ¬ IsMarked label)
    (hslot : env.lookup slot.name = some s.toValue) :
    (labelBindings c label valueType slot).foldlM (Statement.run bound values) env =
      .ok (labelEnvironment c label valueType s ++ env) := by
  -- The value is bound last, over whatever the ends have bound before.
  have hvalue : ∀ env : Environment, env.lookup slot.name = some s.toValue →
      (match valueType with
        | none => []
        | some t => [Statement.bindValue label t slot]).foldlM
          (Statement.run bound values) env =
        .ok ((if valueType.isSome then [(label, s.value)] else []) ++ env) := by
    intro env hslot
    cases valueType with
    | none => rfl
    | some t =>
        rw [List.foldlM_cons, run_bindValue hslot]
        rfl
  unfold labelBindings labelEnvironment
  rw [List.foldlM_append, List.append_assoc]
  cases c.trackPositions with
  | false => exact hvalue env hslot
  | true =>
      have hleft : ((label ++ leftSuffix, s.left) :: env).lookup slot.name =
          some s.toValue := by
        rw [lookup_slot_cons (not_isMarked_append (Or.inl rfl) hlabel), hslot]
      have hright : ((label ++ rightSuffix, s.right) :: (label ++ leftSuffix, s.left) ::
          env).lookup slot.name = some s.toValue := by
        rw [lookup_slot_cons (not_isMarked_append (Or.inr rfl) hlabel), hleft]
      rw [if_pos rfl, if_pos rfl, List.foldlM_cons, run_bindLeft hslot, ok_bind,
        List.foldlM_cons, run_bindRight hleft, ok_bind]
      exact hvalue _ hright

theorem positionBindings_eq (c : Config) (p : Production) (position : Nat) (part : Part) :
    positionBindings c p position part =
      match holder? c p position part.label with
      | none => []
      | some slot => .bindSlot slot (p.length - position) ::
        match part.label with
        | none => []
        | some label => labelBindings c label part.symbol.valueType slot := by
  unfold positionBindings holder?
  cases endSlot? c p position with
  | some slot =>
      cases part.label with
      | none => rfl
      | some label => rfl
  | none =>
      cases part.label with
      | none => rfl
      | some label => rfl

/-- A variable is that of a label only where the label is. -/
theorem label_of_holder {label : Option String} {l : String} {position : Nat}
    (h : holder? c p position label = some (.labelled l)) : label = some l := by
  have hend : endSlot? c p position ≠ some (.labelled l) := by
    unfold endSlot?
    split_ifs <;> simp
  unfold holder? at h
  split at h
  · next slot hslot =>
      cases h
      exact absurd hslot hend
  · simpa using h

/-- One position: its symbol is put into a variable, and its label is bound to what the
variable holds. -/
theorem run_positionBindings {position : Nat} {part : Part} (hposition : position < p.length)
    (hlen : p.length ≤ stack.length)
    (hlabel : ∀ label, part.label = some label → ¬ IsMarked label) :
    (positionBindings c p position part).foldlM
        (Statement.run bound (stack.map StackSymbol.toValue)) env =
      .ok (partEnvironment c p position part (slotAt stack (p.length - position)) ++ env) := by
  have hdistance :
      ((p.length : Int) - (position : Int)) = ((p.length - position : Nat) : Int) := by
    omega
  rw [positionBindings_eq]
  unfold partEnvironment
  cases holder? c p position part.label with
  | none => rfl
  | some slot =>
      simp only
      rw [hdistance, List.foldlM_cons, run_bindSlot (by omega) (by omega), ok_bind,
        List.append_assoc]
      cases hpart : part.label with
      | none => rfl
      | some label =>
          exact run_labelBindings (hlabel label hpart) (by simp)

/-- Several positions, one after the other. -/
theorem run_bindingsAt {positions : List Nat} {statements : List Statement}
    (hbindings : bindingsAt c p positions = .ok statements)
    (hpositions : ∀ position ∈ positions, position < p.length)
    (hlen : p.length ≤ stack.length) (hapart : p.LabelsApart) :
    statements.foldlM (Statement.run bound (stack.map StackSymbol.toValue)) env =
      .ok (positions.reverse.flatMap (positionEnvironment c p stack) ++ env) := by
  induction positions generalizing statements env with
  | nil =>
      cases hbindings
      rfl
  | cons position rest ih =>
      unfold bindingsAt at hbindings
      obtain ⟨part, hpart, hbindings⟩ := bind_eq_ok.mp hbindings
      obtain ⟨others, hothers, hbindings⟩ := bind_eq_ok.mp hbindings
      cases hbindings
      have hposition : position < p.length := hpositions position List.mem_cons_self
      have hlabel : ∀ label, part.label = some label → ¬ IsMarked label := by
        intro label hl
        exact hapart.not_isMarked (Production.labelAt?_of_part hposition hpart hl)
      rw [List.foldlM_append, run_positionBindings hposition hlen hlabel, ok_bind,
        ih hothers fun position hmem => hpositions position (List.mem_cons_of_mem _ hmem)]
      simp [positionEnvironment, hpart]

theorem run_startOf (hfits : intermediateFits p.length p.base.length p.intermediate)
    (hlen : p.length ≤ stack.length) :
    (startOf p).foldlM (Statement.run bound (stack.map StackSymbol.toValue)) [] =
      .ok (startEnvironment p stack) := by
  unfold startOf startEnvironment startValue
  cases p.rule.lhs.valueType with
  | none => rfl
  | some t =>
      by_cases hnone : p.intermediate = -1
      · simp only [if_pos hnone]
        rfl
      · have hbounds : 0 ≤ p.intermediate ∧ p.intermediate < p.length := by
          simp [intermediateFits, hnone] at hfits
          omega
        have hdistance : (p.length : Int) - p.intermediate =
            (((p.length : Int) - p.intermediate).toNat : Int) := by
          omega
        simp only [if_neg hnone]
        rw [List.foldlM_cons, Statement.run, hdistance,
          atDistance_toValue (by omega) (by omega)]
        rfl

/-- What comes before the user's code binds the names of the environment. -/
theorem run_before {isStart : Bool} {b : Body} (hbody : body c p isStart = .ok b)
    (hfits : intermediateFits p.length p.base.length p.intermediate)
    (hlen : p.length ≤ stack.length) (hapart : p.LabelsApart) :
    (b.start ++ b.bindings).foldlM (Statement.run bound (stack.map StackSymbol.toValue)) [] =
      .ok (environment c p stack) := by
  unfold body at hbody
  obtain ⟨bindings, hbindings, hbody⟩ := bind_eq_ok.mp hbody
  cases hbody
  have hpositions : ∀ position ∈ positionsDown p, position < p.length := by
    intro position hmem
    simpa [positionsDown] using hmem
  rw [List.foldlM_append, run_startOf hfits hlen, ok_bind,
    run_bindingsAt hbindings hpositions hlen hapart]
  rw [environment, positionsDown, List.reverse_reverse]

end Run

end LalrBackend.Reduction
