import LalrBackend.Proofs.Reduction.MethodRun

/-!
# Bodies as they run

A program runs the code that was printed for a body. Where the names of its scope stand for the
names that are bound, each statement that the body has of its own comes to what it means, so they
stand for the names that are bound then. The method of a production gives back what its body means,
whatever code of the user stands in between, as long as that code computes what it is said to mean.
-/

namespace LalrBackend.Reduction

open Code Failure

/-! ## Scopes that stand for environments -/

/-- A name of the generated code as it is written. -/
def OwnName.text : OwnName → String
  | .slot holder => holder.name
  | .result => resultName

/-- The names that statements bind. -/
def boundNames (ss : List Statement) : List String :=
  ss.flatMap Statement.bound

/-- The names that statements bind are different names to the class. -/
def KeptApart (ss : List Statement) : Prop :=
  ∀ n ∈ boundNames ss, ∀ n' ∈ boundNames ss, localName n = localName n' → n = n'

/-- The names of a scope stand for what an environment binds, as far as statements bind it. -/
def Reflects (ss : List Statement) (s : Code.Store) (names : List (String × Datum))
    (env : Environment) : Prop :=
  ∀ n ∈ boundNames ss, ∀ v, env.lookup n = some v →
    ∃ d, names.lookup (localName n) = some d ∧ s.StandsFor v d

/-- What bodies look up beside their names: the type of symbols has nothing that would stand for a
part of a symbol, and its name is that of something where checkers of types are told about it. -/
structure SeesSymbols (c : Config) (f : Frame) (s : Code.Store) : Prop where
  parts : s.LeavesParts
  name : c.genericStack = false → "Symbol" ∉ f.shared ∧ "Symbol" ∉ f.scope.1
  type : c.genericStack = false → ∃ d, s.globals.lookup "Symbol" = some d

/-- A reduction that is under way mirrors an environment: its names stand for what this binds, and
the items of its list for the stack. -/
structure Mirrors (c : Config) (r : ReductionCall) (f : Frame) (own : List Statement)
    (env : Environment) (names : List (String × Datum)) (s : Code.Store) : Prop where
  underway : Underway c r names s
  sees : SeesSymbols c f s
  stack : s.StandForAll r.stack r.items
  reflects : Reflects own s names env

section Scopes

variable {c : Config} {r : ReductionCall} {f : Frame} {own : List Statement} {st : Statement}
  {s s' : Code.Store} {names : List (String × Datum)} {env : Environment} {n : String}
  {v : Value} {d : Datum} {noted : Option Nat} {scope : Nat}

theorem mem_boundNames (hst : st ∈ own) (hn : n ∈ st.bound) : n ∈ boundNames own :=
  List.mem_flatMap.mpr ⟨st, hst, hn⟩

theorem Reflects.spares (hspares : s.Spares noted scope s')
    (hparser : ∀ n ∈ noted, ∃ number own, s.cells[n]? = some (.object (.cell number) own))
    (h : Reflects own s names env) : Reflects own s' names env := by
  intro n hn v hv
  obtain ⟨d, hlookup, hd⟩ := h n hn v hv
  exact ⟨d, hlookup, hd.spares hspares hparser⟩

theorem reflects_nil : Reflects own s names [] :=
  fun _ _ _ hv => nomatch hv

/-- A name that is bound stands for its new value, and the others for what they were. -/
theorem Reflects.bind {name : String} (hname : ∀ n' ∈ boundNames own, localName n' = name ↔ n' = n)
    (h : Reflects own s names env) (hd : s.StandsFor v d) :
    Reflects own s (setEntry name d names) ((n, v) :: env) := by
  intro n' hn' w hw
  rw [lookup_binding] at hw
  by_cases hsame : n' = n
  · rw [if_pos hsame] at hw
    cases hw
    exact ⟨d, (hname n' hn').mpr hsame ▸ lookup_setEntry_self _ _ _, hd⟩
  · rw [if_neg hsame] at hw
    obtain ⟨e, hlookup, he⟩ := h n' hn' w hw
    exact ⟨e, (lookup_setEntry_ne fun heq => hsame ((hname n' hn').mp heq)).trans hlookup, he⟩

theorem KeptApart.eq_iff (hapart : KeptApart own) (hn : n ∈ boundNames own) :
    ∀ n' ∈ boundNames own, localName n' = localName n ↔ n' = n :=
  fun n' hn' => ⟨hapart n' hn' n hn, congrArg localName⟩

theorem SeesSymbols.spares (hspares : s.Spares noted scope s') (h : SeesSymbols c f s) :
    SeesSymbols c f s' where
  parts := by
    unfold Store.LeavesParts
    rw [hspares.marks]
    exact h.parts
  name := h.name
  type := by rw [hspares.globals]; exact h.type

theorem Mirrors.mono (hgrows : s.Grows s') (h : Mirrors c r f own env names s) :
    Mirrors c r f own env names s' where
  underway := h.underway.mono hgrows
  sees := h.sees.spares (hgrows.spares : s.Spares none 0 s')
  stack := h.stack.mono hgrows
  reflects := h.reflects.spares (hgrows.spares : s.Spares none 0 s') nofun

/-- A name of the body gets a value. -/
theorem Mirrors.bind (hf : Admits c r f own) (hapart : KeptApart own) (hst : st ∈ own)
    (hn : n ∈ st.bound) (h : Mirrors c r f own env names s) (hd : s.StandsFor v d) :
    ∃ s', execIn f (bindName (localName n) d) s = (.ok (), s') ∧ s.Spares none r.scope s' ∧
      Mirrors c r f own ((n, v) :: env) (setEntry (localName n) d names) s' := by
  obtain ⟨s', hbind, hspares, hunderway⟩ := h.underway.bind hf hst hn d
  refine ⟨s', hbind, hspares, hunderway, h.sees.spares hspares, h.stack.spares hspares nofun, ?_⟩
  exact (h.reflects.bind (hapart.eq_iff (mem_boundNames hst hn)) hd).spares hspares nofun

end Scopes

/-! ## What is read -/

section Reading

variable {c : Config} {r : ReductionCall} {f : Frame} {own : List Statement}
  {s s' s'' : Code.Store} {names : List (String × Datum)} {env : Environment} {bound : List String}
  {n : String} {v w : Value} {d : Datum} {depth : Nat}

/-- The item of a list at an index. -/
theorem exec_itemOf_list {list : Nat} {items : List Datum} {index : Int} {i : Nat}
    (hlist : s.cells[list]? = some (.list items)) (hi : position? items.length index = some i)
    (hd : items[i]? = some d) : exec (itemOf (.cell list) (.int index)) s = (.ok d, s) := by
  have hindex : exec (Code.orFail .typeMismatch (Datum.int index).integer?) s =
      (.ok index, s) := rfl
  have hitem : (position? items.length index).bind (items[·]?) = some d := by
    rw [hi]
    exact hd
  rw [itemOf, exec_bind_ok (exec_cellAt hlist)]
  simp only
  rw [itemAt, exec_bind_ok hindex]
  exact exec_orFail hitem

/-- A name of the body is read as what it stands for. -/
theorem Reflects.exec_name (hf : Admits c r f own) (hunderway : Underway c r names s)
    (h : Reflects own s names env) (hn : n ∈ boundNames own) (hv : valueOf bound env n = .ok v)
    (call : Code.Call) :
    ∃ d, execIn f ((nameCode n).eval call) s = (.ok d, s) ∧ s.StandsFor v d := by
  obtain ⟨st, hst, hn'⟩ := List.mem_flatMap.mp hn
  obtain ⟨hshared, hlocal, _⟩ := hf.bound st hst n hn'
  obtain ⟨d, hd, hstands⟩ := h n hn v (lookup_of_valueOf hv)
  refine ⟨d, (execIn_eval_name _).trans (execIn_readName_local hshared hlocal ?_ hd), hstands⟩
  rw [hf.scope]
  exact hunderway.scope

namespace Mirrors

/-- A symbol of the stack is looked up as the one at its distance. -/
theorem exec_accessCode (hf : Admits c r f own) (h : Mirrors c r f own env names s)
    {distance : Int} (hv : atDistance r.stack distance = .ok v) :
    ∃ d, execIn f ((accessCode c distance).eval (callAt (depth + 1))) s = (.ok d, s) ∧
      s.StandsFor v d := by
  obtain ⟨i, hi, hat⟩ := Option.bind_eq_some_iff.mp (eq_some_of_orFail hv)
  obtain ⟨d, hd, hstands⟩ := h.stack.getElem? hat
  rw [← h.stack.length] at hi
  have hitem : execIn f ((itemCode distance).eval (callAt (depth + 1))) s = (.ok d, s) :=
    (h.underway.execIn_itemCode hf _ distance).trans (exec_itemOf_list h.underway.items hi hd)
  refine ⟨d, ?_, hstands⟩
  unfold accessCode
  simp only
  split
  · exact hitem
  · -- What checkers of types are told is read as well, and the cast gives back the symbol.
    rename_i hgeneric
    have hgeneric : c.genericStack = false := by simpa using hgeneric
    obtain ⟨hshared, hlocal⟩ := h.sees.name hgeneric
    obtain ⟨type, htype⟩ := h.sees.type hgeneric
    have hsymbol : execIn f ((Expr.name "Symbol").eval (callAt (depth + 1))) s =
        (.ok type, s) :=
      (execIn_eval_name _).trans (execIn_readName_global hshared hlocal hf.around (by decide)
        (by rw [htype]; rfl))
    have hargs := execIn_evalArguments_cons rfl hsymbol
      (execIn_evalArguments_cons rfl hitem execIn_evalArguments_nil)
    exact (execIn_eval_call (h.underway.execIn_cast hf hgeneric _) hargs nofun).trans
      (exec_callCast [type, d] [])

/-- A part of a symbol that a variable holds. -/
theorem exec_part (hf : Admits c r f own) (h : Mirrors c r f own env names s) {slot : Slot}
    {name : String} {part : StackSymbol → Value} (hslot : slot.name ∈ boundNames own)
    (hattribute : ∀ {t : StackSymbol} {d : Datum}, s.StandsFor t.toValue d →
      ∃ a, exec (attributeOf d name) s = (.ok a, s) ∧ s.StandsFor (part t) a)
    (hv : partOf bound env slot part = .ok v) (call : Code.Call) :
    ∃ a, execIn f ((Expr.attribute (nameCode slot.name) name).eval call) s = (.ok a, s) ∧
      s.StandsFor v a := by
  obtain ⟨t, ht, rfl⟩ := partOf_eq_ok hv
  obtain ⟨d, hd, hstands⟩ := h.reflects.exec_name hf h.underway hslot ht call
  obtain ⟨a, ha, hpart⟩ := hattribute hstands
  exact ⟨a, (execIn_eval_attribute hd name).trans ha, hpart⟩

/-- The arguments of a new symbol are its name and its index, the ends between which it extends if
there are any, and the result if it has a value. -/
theorem exec_argumentCode (hf : Admits c r f own) (h : Mirrors c r f own env names s)
    {name : String} {index : Int} {extent : Option (Slot × Slot)} {withResult : Bool}
    {first last value : Value}
    (hused : ∀ n ∈ (Statement.construct name index extent withResult).used,
      n.text ∈ boundNames own)
    (hends : endsOf bound env extent = .ok (first, last))
    (hvalue : (if withResult then valueOf bound env resultName else .ok .null) = .ok value)
    (call : Code.Call) (self : Datum) :
    ∃ args named left right d, execIn f (evalArguments call
        (.constant (.text name) :: numberCode index :: argumentCode extent withResult)) s =
        (.ok (args, named), s) ∧
      arguments? makerParameters (self :: args) named =
        some [self, .text name, .int index, left, right, d] ∧
      s.StandsFor first left ∧ s.StandsFor last right ∧ s.StandsFor value d := by
  -- The name and the index come first; the ends are given by position, the result by its name.
  have hfront : ∀ {args named}, execIn f (evalArguments call (argumentCode extent withResult)) s =
      (.ok (args, named), s) → execIn f (evalArguments call
        (.constant (.text name) :: numberCode index :: argumentCode extent withResult)) s =
        (.ok (.text name :: .int index :: args, named), s) := fun hargs =>
    execIn_evalArguments_cons rfl (execIn_eval_constant _) (execIn_evalArguments_cons
      (isPositional_numberCode _) (execIn_numberCode _ _) hargs)
  have hresult : withResult = true →
      ∃ d, execIn f ((nameCode resultName).eval call) s = (.ok d, s) ∧ s.StandsFor value d := by
    rintro rfl
    exact h.reflects.exec_name hf h.underway (hused .result (by simp [Statement.used])) hvalue call
  have hnone : withResult = false → s.StandsFor value .null := by
    rintro rfl
    cases hvalue
    rfl
  cases extent with
  | none =>
      cases hends
      cases withResult with
      | false =>
          exact ⟨_, _, .null, .null, .null, hfront execIn_evalArguments_nil, rfl, rfl, rfl,
            hnone rfl⟩
      | true =>
          obtain ⟨d, hd, hstands⟩ := hresult rfl
          have hargs := execIn_evalArguments_named "value" hd execIn_evalArguments_nil
          exact ⟨_, _, .null, .null, d, hfront hargs, rfl, rfl, rfl, hstands⟩
  | some ends =>
      obtain ⟨hfirst, hlast⟩ := endsOf_eq_ok_iff.mp hends
      obtain ⟨left, hleft, hl⟩ := h.reflects.exec_name hf h.underway
        (hused (.slot ends.1) (by simp [Statement.used])) hfirst call
      obtain ⟨right, hright, hr⟩ := h.reflects.exec_name hf h.underway
        (hused (.slot ends.2) (by simp [Statement.used])) hlast call
      cases withResult with
      | false =>
          have hargs := execIn_evalArguments_cons rfl hleft
            (execIn_evalArguments_cons rfl hright execIn_evalArguments_nil)
          exact ⟨_, _, left, right, .null, hfront hargs, rfl, hl, hr, hnone rfl⟩
      | true =>
          obtain ⟨d, hd, hstands⟩ := hresult rfl
          have hargs := execIn_evalArguments_cons rfl hleft (execIn_evalArguments_cons rfl hright
            (execIn_evalArguments_cons rfl hd execIn_evalArguments_nil))
          exact ⟨_, _, left, right, d, hfront hargs, rfl, hl, hr, hstands⟩

/-- The symbol that a body makes is the one between its ends. -/
theorem exec_constructCode (hf : Admits c r f own) (h : Mirrors c r f own env names s)
    {name : String} {index : Int} {extent : Option (Slot × Slot)} {withResult : Bool}
    {first last value : Value}
    (hused : ∀ n ∈ (Statement.construct name index extent withResult).used,
      n.text ∈ boundNames own)
    (hends : endsOf bound env extent = .ok (first, last))
    (hvalue : (if withResult then valueOf bound env resultName else .ok .null) = .ok value)
    (hv : Value.symbolBetween? (.text name) (.int index) first last value = some v)
    (depth : Nat) :
    ∃ d s', execIn f ((constructCode name index extent withResult).eval (callAt (depth + 3))) s =
      (.ok d, s') ∧ s.Grows s' ∧ s'.StandsFor v d := by
  obtain ⟨factory, hmaker⟩ := h.underway.execIn_makerCode hf (depth + 2)
  obtain ⟨args, named, left, right, d, hargs, hgiven, hl, hr, hd⟩ :=
    h.exec_argumentCode hf hused hends hvalue (callAt (depth + 3)) (.cell factory)
  have hname : s.StandsFor (.text name) (.text name) := rfl
  have hindex : s.StandsFor (.int index) (.int index) := rfl
  obtain ⟨a, s', hmade, hgrows, ha⟩ :=
    h.underway.base.newSymbol_returns depth h.sees.parts hgiven hname hindex hl hr hd hv
  exact ⟨a, s', (execIn_eval_callBound hmaker hargs).trans hmade, hgrows, ha⟩

end Mirrors

end Reading

/-! ## Statements -/

section Statements

variable {c : Config} {r : ReductionCall} {f : Frame} {own ss : List Statement} {st : Statement}
  {s s' : Code.Store} {names : List (String × Datum)} {env env' : Environment}
  {bound : List String} {n : String} {v : Value} {d : Datum} {types : String → Expr}

/-- The value that a statement binds in a program stands for the one that it binds. -/
theorem Mirrors.exec_binding (hf : Admits c r f own) (h : Mirrors c r f own env names s)
    (hused : ∀ n ∈ st.used, n.text ∈ boundNames own) {valueType : Option String} {e : Expr}
    (hbinding : st.binding? c = some (n, valueType, e))
    (hrun : st.run bound r.stack env = .ok env') (depth : Nat) :
    ∃ v d s', env' = (n, v) :: env ∧ execIn f (e.eval (callAt (depth + 3))) s = (.ok d, s') ∧
      s.Grows s' ∧ s'.StandsFor v d := by
  have hgrows := Store.Grows.refl s
  cases st with
  | startResult t distance =>
      cases distance with
      | none =>
          cases hbinding
          cases hrun
          exact ⟨.null, .null, s, rfl, execIn_eval_constant _, hgrows, rfl⟩
      | some distance =>
          cases hbinding
          obtain ⟨x, hx, hrun⟩ := bind_eq_ok.mp hrun
          obtain ⟨t, ht, hrun⟩ := bind_eq_ok.mp hrun
          cases hrun
          obtain rfl := eq_toValue_of_symbol? (eq_some_of_orFail ht)
          obtain ⟨d, hd, hstands⟩ := h.exec_accessCode hf hx
          obtain ⟨⟨a, ha, hpart⟩, _⟩ := Store.StandsFor.exec_parts h.sees.parts hstands
          exact ⟨_, a, s, rfl, (execIn_eval_attribute hd _).trans ha, hgrows, hpart⟩
  | bindSlot slot distance =>
      cases hbinding
      obtain ⟨v, hv, hrun⟩ := bind_eq_ok.mp hrun
      cases hrun
      obtain ⟨d, hd, hstands⟩ := h.exec_accessCode hf hv
      exact ⟨v, d, s, rfl, hd, hgrows, hstands⟩
  | bindLeft label slot =>
      cases hbinding
      obtain ⟨v, hv, hrun⟩ := bind_eq_ok.mp hrun
      cases hrun
      obtain ⟨a, ha, hpart⟩ := h.exec_part hf (hused (.slot slot) (List.mem_singleton_self _))
        (fun hd => (Store.StandsFor.exec_parts h.sees.parts hd).2.1) hv (callAt (depth + 3))
      exact ⟨v, a, s, rfl, ha, hgrows, hpart⟩
  | bindRight label slot =>
      cases hbinding
      obtain ⟨v, hv, hrun⟩ := bind_eq_ok.mp hrun
      cases hrun
      obtain ⟨a, ha, hpart⟩ := h.exec_part hf (hused (.slot slot) (List.mem_singleton_self _))
        (fun hd => (Store.StandsFor.exec_parts h.sees.parts hd).2.2) hv (callAt (depth + 3))
      exact ⟨v, a, s, rfl, ha, hgrows, hpart⟩
  | bindValue label t slot =>
      cases hbinding
      obtain ⟨v, hv, hrun⟩ := bind_eq_ok.mp hrun
      cases hrun
      obtain ⟨a, ha, hpart⟩ := h.exec_part hf (hused (.slot slot) (List.mem_singleton_self _))
        (fun hd => (Store.StandsFor.exec_parts h.sees.parts hd).1) hv (callAt (depth + 3))
      exact ⟨v, a, s, rfl, ha, hgrows, hpart⟩
  | construct name index extent withResult =>
      cases hbinding
      obtain ⟨first, last, value, v, hends, hvalue, hv, rfl⟩ := run_construct_eq_ok hrun
      obtain ⟨d, s', hd, hgrows', hstands⟩ :=
        h.exec_constructCode hf hused hends hvalue hv depth
      exact ⟨v, d, s', rfl, hd, hgrows', hstands⟩
  | _ => cases hbinding

/-- A statement that binds no name means nothing. -/
theorem run_of_binding?_none {values : List Value} (h : st.binding? c = none) :
    st.run bound values env = .ok env := by
  cases st with
  | startResult t distance => cases distance <;> cases h
  | user line => rfl
  | announce => rfl
  | accept => rfl
  | finish => rfl
  | _ => cases h

/-- A statement of a body comes to what it means. -/
theorem Mirrors.run_code (hf : Admits c r f own) (hapart : KeptApart own)
    (h : Mirrors c r f own env names s) (hst : st ∈ own) (haccept : st ≠ .accept)
    (hfinish : st ≠ .finish) (hused : ∀ n ∈ st.used, n.text ∈ boundNames own)
    (hrun : st.run bound r.stack env = .ok env') (types : String → Expr) (depth : Nat) :
    ∃ names' s', execIn f (runAll (callAt (depth + 3)) (st.code c types)) s = (.ok .next, s') ∧
      s.Spares none r.scope s' ∧ Mirrors c r f own env' names' s' := by
  cases hbinding : st.binding? c with
  | none =>
      cases hrun.symm.trans (run_of_binding?_none hbinding)
      rw [(code_of_binding?_none types hbinding haccept hfinish).1]
      exact ⟨names, s, execIn_runAll_nil, (Store.Grows.refl s).spares, h⟩
  | some binding =>
      obtain ⟨n, valueType, e⟩ := binding
      obtain ⟨v, d, s₁, rfl, hvalue, hgrows, hstands⟩ := h.exec_binding hf hused hbinding hrun depth
      have hn : n ∈ st.bound := by
        rw [bound_of_binding? hbinding]
        exact List.mem_singleton_self n
      obtain ⟨s₂, hbind, hspares, h₂⟩ := (h.mono hgrows).bind hf hapart hst hn hstands
      exact ⟨_, s₂, run_code_of_binding? hbinding hf.place hvalue hbind,
        hgrows.spares.trans hspares, h₂⟩

/-- The own statements of a body come to what they mean, one after the other. -/
theorem Mirrors.run_ownCode (hf : Admits c r f own) (hapart : KeptApart own)
    (h : Mirrors c r f own env names s)
    (hss : ∀ st ∈ ss, st ∈ own ∧ st ≠ .accept ∧ st ≠ .finish)
    (hused : ∀ st ∈ own, ∀ n ∈ st.used, n.text ∈ boundNames own)
    (hrun : ss.foldlM (Statement.run bound r.stack) env = .ok env') (types : String → Expr)
    (depth : Nat) :
    ∃ names' s', execIn f (runAll (callAt (depth + 3)) (ownCode c types ss)) s = (.ok .next, s') ∧
      s.Spares none r.scope s' ∧ Mirrors c r f own env' names' s' := by
  -- What a statement needs of those before it is that the names mirror what they have bound.
  induction ss generalizing env names s with
  | nil =>
      cases hrun
      exact ⟨names, s, execIn_runAll_nil, (Store.Grows.refl s).spares, h⟩
  | cons st ss ih =>
      obtain ⟨hst, haccept, hfinish⟩ := hss st List.mem_cons_self
      rw [List.foldlM_cons] at hrun
      obtain ⟨env₁, hfirst, hrest⟩ := bind_eq_ok.mp hrun
      obtain ⟨names₁, s₁, hrun₁, hspares₁, h₁⟩ :=
        h.run_code hf hapart hst haccept hfinish (hused st hst) hfirst types depth
      obtain ⟨names₂, s₂, hrun₂, hspares₂, h₂⟩ :=
        ih h₁ (fun st hst => hss st (List.mem_cons_of_mem _ hst)) hrest
      refine ⟨names₂, s₂, ?_, hspares₁.trans hspares₂, h₂⟩
      rw [ownCode_cons, execIn_runAll_append, hrun₁]
      exact hrun₂

/-- What a body uses, it binds. -/
theorem text_mem_boundNames {p : Production} {b : Body} {isStart : Bool}
    (hbody : body c p isStart = .ok b) (hst : st ∈ b.own) {name : OwnName}
    (hname : name ∈ st.used) : name.text ∈ boundNames b.own := by
  obtain ⟨before, after, hown⟩ := List.append_of_mem hst
  have hordered := ordered_own hbody
  rw [hown] at hordered
  obtain ⟨a, ha, hassigned⟩ := hordered.assigned hname
  have ha : a ∈ b.own := by
    rw [hown]
    exact List.mem_append_left _ ha
  refine mem_boundNames ha ?_
  cases a with
  | startResult t distance =>
      cases hassigned
      exact List.mem_singleton_self _
  | bindSlot slot distance =>
      cases hassigned
      exact List.mem_singleton_self _
  | _ => cases hassigned

end Statements

/-! ## Bodies -/

/-- The user's code in a method computes something: on the names that it finds bound it comes to
those that are bound then. -/
structure UserPart.Computes (u : UserPart) (m : ParserModule) (made : Made) (i : Nat)
    (code : UserCode) : Prop where
  atOnce : ∀ {p : Production} {b : Body}, m.actions[i]? = some ⟨p, .ok b⟩ →
    callKind false (u.codeOf m.config b i) = .atOnce
  computes : ∀ {p : Production} {b : Body}, m.actions[i]? = some ⟨p, .ok b⟩ →
    ∀ (r : ReductionCall) (names : List (String × Datum)) (done : Bool) (s : Code.Store)
      (env after : Environment), r.parser = made.parser → u.Rests m made r done s →
    Underway m.config r names s → Reflects b.own s names env → code env = .ok after →
    ∃ s', execIn (frameOf made.actionsClass methodParameters (u.codeOf m.config b i) r.scope)
        (runAll (callAt (mostCalls - 3)) (u.statements i)) s = (.ok .next, s') ∧
      ∀ names', Underway m.config r names' s' → Reflects b.own s' names' after

/-- The user's code leaves alone what bodies look up beside their names, and it has not taken the
name of the type of symbols. -/
structure UserPart.LeavesSymbols (u : UserPart) (m : ParserModule) : Prop where
  spares : u.sparesSymbols
  parts : ∀ {s : Code.Store}, u.relies s → s.LeavesParts
  type : m.config.genericStack = false → ∀ {s : Code.Store}, u.relies s →
    ∃ d, s.globals.lookup "Symbol" = some d
  name : m.config.genericStack = false → ∀ {i : Nat} {p : Production} {b : Body},
    m.actions[i]? = some ⟨p, .ok b⟩ →
    "Symbol" ∉ globalsOf (u.codeOf m.config b i) ∧
      "Symbol" ∉ localNames methodParameters (u.codeOf m.config b i)

section Bodies

variable {u : UserPart} {m : ParserModule} {made : Made} {r : ReductionCall} {done : Bool}
  {s s' : Code.Store} {names : List (String × Datum)} {i : Nat} {p : Production} {b : Body}
  {isStart : Bool} {code : UserCode} {env : Environment} {bound : List String} {v : Value}

/-- A body that ends has run what stands before the user's code, that code, and what makes the
symbol; its ending binds nothing. -/
theorem Body.exists_of_run (hbody : body m.config p isStart = .ok b) {stack : List Value}
    (h : b.run bound code stack = .ok v) : ∃ env after env',
      (startOf p ++ b.bindings).foldlM (Statement.run bound stack) [] = .ok env ∧
      code env = .ok after ∧
      (extentBindingsOf m.config p ++ [constructOf m.config p]).foldlM
        (Statement.run bound stack) after = .ok env' ∧
      valueOf bound env' symbolName = .ok v := by
  obtain ⟨bindings, -, hparts⟩ := bind_eq_ok.mp hbody
  cases hparts
  obtain ⟨env, hbefore, h⟩ := bind_eq_ok.mp h
  obtain ⟨after, hcode, h⟩ := bind_eq_ok.mp h
  obtain ⟨env', hafter, hv⟩ := bind_eq_ok.mp h
  refine ⟨env, after, env', hbefore, hcode, ?_, hv⟩
  rw [append_endingOf, List.foldlM_append] at hafter
  obtain ⟨env₂, hmade, hended⟩ := bind_eq_ok.mp hafter
  rw [hmade]
  cases isStart <;> exact hended

/-- The own statements of a body that are not its ending come to what they mean. -/
theorem UserPart.Rests.run_own {ss : List Statement} {env' : Environment}
    (hu : u.LeavesAlone m made) (hsymbols : u.LeavesSymbols m) (hparser : r.parser = made.parser)
    (ha : m.actions[i]? = some ⟨p, .ok b⟩) (hbody : body m.config p isStart = .ok b)
    (hapart : KeptApart b.own)
    (hss : ∀ st ∈ ss, st ∈ startOf p ++ b.bindings ++ extentBindingsOf m.config p ++
      [constructOf m.config p])
    (hunderway : Underway m.config r names s) (h : u.Rests m made r done s)
    (hreflects : Reflects b.own s names env)
    (hrun : ss.foldlM (Statement.run bound r.stack) env = .ok env') :
    ∃ names' s', execIn (frameOf made.actionsClass methodParameters (u.codeOf m.config b i) r.scope)
        (runAll (callAt (mostCalls - 3)) (ownCode m.config u.types ss)) s = (.ok .next, s') ∧
      u.Rests m made r done s' ∧ Underway m.config r names' s' ∧ Reflects b.own s' names' env' := by
  have hmirrors : Mirrors m.config r
      (frameOf made.actionsClass methodParameters (u.codeOf m.config b i) r.scope) b.own env
      names s :=
    { underway := hunderway
      sees :=
        { parts := hsymbols.parts h.relied
          name := fun hgeneric => hsymbols.name hgeneric ha
          type := fun hgeneric => hsymbols.type hgeneric h.relied }
      stack := h.symbols hsymbols.spares
      reflects := hreflects }
  obtain ⟨names', s', hran, hspares, hmirrors'⟩ := hmirrors.run_ownCode
    ((hu.names ha).admits made.actionsClass r) hapart
    (fun st hst => mem_own_of_binds hbody (hss st hst))
    (fun _ hst _ hn => text_mem_boundNames hbody hst hn) hrun u.types (mostCalls - 6)
  exact ⟨names', s', hran, h.spares hu hparser hunderway hspares, hmirrors'.underway,
    hmirrors'.reflects⟩

/-- **A method gives back what its body means.** -/
theorem UserPart.Rests.run_body (hu : u.LeavesAlone m made) (hsymbols : u.LeavesSymbols m)
    (hparser : r.parser = made.parser) (ha : m.actions[i]? = some ⟨p, .ok b⟩)
    (hbody : body m.config p isStart = .ok b) (hapart : KeptApart b.own)
    (hcode : u.Computes m made i code) (hunderway : Underway m.config r names s)
    (h : u.Rests m made r done s) (hrun : b.run bound code r.stack = .ok v) :
    ∃ d s', execIn (frameOf made.actionsClass methodParameters (u.codeOf m.config b i) r.scope)
        (runAll (callAt (mostCalls - 3)) (u.codeOf m.config b i)) s = (.ok (.gives d), s') ∧
      u.Rests m made r (done || isStart) s' ∧ s'.StandsFor v d := by
  obtain ⟨env, after, env', hbefore, hafter, hmade, hv⟩ := Body.exists_of_run hbody hrun
  -- The scope stands for the environment that the body has reached, up to each cut of its code.
  obtain ⟨names₁, s₁, hrun₁, h₁, hunderway₁, hreflects₁⟩ := h.run_own hu hsymbols hparser ha hbody
    hapart (fun st hst => List.mem_append_left _ (List.mem_append_left _ hst)) hunderway reflects_nil
    hbefore
  obtain ⟨s₂, hrun₂, hreflects⟩ := hcode.computes ha r names₁ done s₁ env after hparser h₁ hunderway₁
    hreflects₁ hafter
  obtain ⟨result, names₂, s₂', huser, h₂, hunderway₂⟩ :=
    hu.leaves ha (hcode.atOnce ha) r names₁ done s₁ hparser h₁ hunderway₁
  cases hrun₂.symm.trans huser
  obtain ⟨names₃, s₃, hrun₃, h₃, hunderway₃, hreflects₃⟩ := h₂.run_own hu hsymbols hparser ha hbody
    hapart (fun st hst => by
      rw [List.append_assoc]
      exact List.mem_append_right _ hst) hunderway₂ (hreflects _ hunderway₂) hmade
  have hsymbol : symbolName ∈ boundNames b.own :=
    mem_boundNames (construct_mem_own hbody) (List.mem_singleton_self _)
  obtain ⟨d, hnamed, hstands⟩ := hreflects₃ symbolName hsymbol v (lookup_of_valueOf hv)
  have hf : Admits m.config r
      (frameOf made.actionsClass methodParameters (u.codeOf m.config b i) r.scope) b.own :=
    (hu.names ha).admits made.actionsClass r
  obtain ⟨s₄, hrun₄, h₄, hkept⟩ := h₃.run_ending hu hparser hbody hf hunderway₃ hnamed
  refine ⟨d, s₄, ?_, h₄, hkept v d hstands⟩
  generalize frameOf made.actionsClass methodParameters (u.codeOf m.config b i) r.scope = f
    at hrun₁ hrun₂ hrun₃ hrun₄ ⊢
  rw [UserPart.codeOf, code_of_body hbody]
  exact (execIn_runAll_behind hrun₁).trans ((execIn_runAll_behind hrun₂).trans
    ((execIn_runAll_behind hrun₃).trans hrun₄))

/-- A program answers the number of a production with what the body of the production means, as far
as values are looked into. -/
theorem UserPart.Idle.call_returns {q : Program} {stack : List Value} (hu : u.LeavesAlone m made)
    (hsymbols : u.LeavesSymbols m) (hself : q.self = .cell made.parser)
    (ha : m.actions[i]? = some ⟨p, .ok b⟩) (hbody : body m.config p isStart = .ok b)
    (hapart : KeptApart b.own) (hcode : u.Computes m made i code)
    (h : u.Idle m made done q.store) (hrun : b.run bound code stack = .ok v)
    (hdepth : v.depth ≤ depthLimit) :
    ∃ list items q', q.HandsIn (.int i) stack list items ∧
      q.call "do_action" [.int i, .list stack] = (.ok v, q') ∧
      u.Answers m made stack list items (done || isStart) q' := by
  obtain ⟨list, items, s, hin, hgrows, hlist, hitems, hanswered⟩ :=
    Program.call_answered hself h.ready.dispatches (List.getElem?_eq_some_iff.mp ha).1 stack
  have hidle := h.mono hu hgrows
  obtain ⟨names, s₁, hcall, hgrows₁, hunderway⟩ :=
    hidle.call_method hu ha (hcode.atOnce ha) hlist hitems
  obtain ⟨d, s₂, hran, hrests, hstands⟩ := ((hidle.rests hlist hitems).mono hu hgrows₁).run_body hu
    hsymbols rfl ha hbody hapart hcode hunderway hrun
  have hreturns := Program.reduceBy_returns (p := { q with store := s }) hself
    (hcall.trans (exec_bind_ok hran _))
  rw [hstands.toValue hdepth] at hreturns
  exact ⟨list, items, _, hin, hanswered.trans hreturns, hself ▸ hrests.answers⟩

end Bodies

/-! ## Names that are kept as they are written -/

section Kept

variable {c : Config} {p : Production} {b : Body} {isStart : Bool} {n : String}

/-- The names that a body binds are that of the result, that of the new symbol, the variables of the
ends, and for each label within the production its variable and its names. -/
theorem name_of_mem_boundNames (hbody : body c p isStart = .ok b) (hn : n ∈ boundNames b.own) :
    n ∈ [resultName, symbolName, Slot.right.name, Slot.left.name] ∨
      ∃ i label, p.labelAt? i = some label ∧
        (n = (Slot.labelled label).name ∨ n ∈ labelNames label) := by
  obtain ⟨st, hst, hn⟩ := List.mem_flatMap.mp hn
  rcases (mem_own hbody).mp hst with hst | hst | hst | hst
  · obtain ⟨t, -, rfl⟩ := mem_startOf.mp hst
    obtain rfl := List.mem_singleton.mp hn
    exact .inl (by simp)
  · obtain ⟨i, hi, part, hpart, hst⟩ := exists_position hbody hst
    obtain ⟨slot, hholder, rfl | ⟨label, hlabel, hst⟩⟩ := mem_positionBindings hst
    · obtain rfl := List.mem_singleton.mp hn
      have hplace := hasPlace_of_holder hi hpart hholder
      cases slot with
      | right => exact .inl (by simp)
      | left => exact .inl (by simp)
      | labelled label =>
          obtain ⟨j, hat⟩ := hplace
          exact .inr ⟨j, label, hat, .inl rfl⟩
    · refine .inr ⟨i, label, Production.labelAt?_of_part hi hpart hlabel, .inr ?_⟩
      rcases hst with ⟨-, rfl | rfl⟩ | ⟨t, -, rfl⟩
      · rw [List.mem_singleton.mp hn]
        exact left_mem_labelNames label
      · rw [List.mem_singleton.mp hn]
        exact right_mem_labelNames label
      · rw [List.mem_singleton.mp hn]
        exact mem_labelNames label
  · obtain ⟨-, ⟨-, rfl⟩ | ⟨-, -, rfl⟩⟩ := mem_extentBindingsOf.mp hst
    · obtain rfl := List.mem_singleton.mp hn
      exact .inl (by simp)
    · obtain rfl := List.mem_singleton.mp hn
      exact .inl (by simp)
  · rcases mem_endingOf.mp hst with rfl | ⟨-, rfl | rfl⟩ | rfl
    · obtain rfl := List.mem_singleton.mp hn
      exact .inl (by simp)
    all_goals cases hn

/-- Names that are kept as they are written are different names to the class. -/
theorem keptApart_of_ascii (hbody : body c p isStart = .ok b)
    (hascii : ∀ {i : Nat} {label : String}, p.labelAt? i = some label →
      label.toList.all (·.toNat < 128))
    (hbare : ∀ {i : Nat} {label : String}, p.labelAt? i = some label →
      ['_', '_'].isPrefixOf label.toList = false) : KeptApart b.own := by
  have hkept : ∀ n ∈ boundNames b.own, localName n = n := by
    intro n hn
    rcases name_of_mem_boundNames hbody hn with hn | ⟨i, label, hat, rfl | hn⟩
    · have hnames : ∀ n ∈ [resultName, symbolName, Slot.right.name, Slot.left.name],
          localName n = n := by decide
      exact hnames n hn
    · exact Production.localName_of_slot (hascii hat)
    · exact Production.localName_of_label (hascii hat) (hbare hat) hn
  intro n hn n' hn' hsame
  rwa [hkept n hn, hkept n' hn'] at hsame

end Kept

end LalrBackend.Reduction
