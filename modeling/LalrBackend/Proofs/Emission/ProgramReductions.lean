import LalrBackend.Proofs.Emission.StartProduction
import LalrBackend.Proofs.Reduction.Simulation

/-!
# Reductions of a program

A module that is run as a program reduces as its bodies mean it. Code of the user that only assigns
terms computes in a program what the terms mean, so the meaning of a reduction is that of the
production: the new symbol has the index and the name of the left side, the result as its value, and
extends between the symbols that it replaces.
-/

namespace LalrBackend.Reduction

open Code Failure

/-! ## Terms -/

section Plain

variable {c : Config} {r : ReductionCall} {f : Frame} {own : List Statement}
  {s s' : Code.Store} {names : List (String × Datum)} {env env' : Environment}
  {bound : List String} {n : String} {v : Value} {d : Datum} {e e' : Expr} {es : List Expr}
  {t t' : Term} {ts : List Term} {call : Code.Call}

theorem Reflects.mono (hgrows : s.Grows s') (h : Reflects own s names env) :
    Reflects own s' names env :=
  h.spares (hgrows.spares : s.Spares none 0 s') nofun

/-- The names are names that the body binds, written as the class keeps them. -/
def OnlyNames (own : List Statement) (ns : List String) : Prop :=
  ∀ n ∈ ns, n ∈ boundNames own ∧ localName n = n

/-- An expression comes to the value of a term. -/
def ComesTo (c : Config) (r : ReductionCall) (f : Frame) (own : List Statement)
    (bound : List String) (call : Code.Call) (e : Expr) (t : Term) : Prop :=
  ∀ (names : List (String × Datum)) (env : Environment) (s : Code.Store) (v : Value),
    Underway c r names s → Reflects own s names env → t.eval bound env = .ok v →
    ∃ d s', execIn f (e.eval call) s = (.ok d, s') ∧ s.Grows s' ∧ s'.StandsFor v d

/-- Expressions come to the values of terms one by one. -/
def AllComeTo (c : Config) (r : ReductionCall) (f : Frame) (own : List Statement)
    (bound : List String) (call : Code.Call) (es : List Expr) (ts : List Term) : Prop :=
  ∀ (names : List (String × Datum)) (env : Environment) (s : Code.Store) (vs : List Value),
    Underway c r names s → Reflects own s names env → evalAll bound env ts = .ok vs →
    ∃ ds s', execIn f (evalItems call es) s = (.ok ds, s') ∧ s.Grows s' ∧ s'.StandForAll vs ds

/-- What is read of an expression comes to its value. -/
def ReadsAsTerm (c : Config) (r : ReductionCall) (f : Frame) (own : List Statement)
    (bound : List String) (call : Code.Call) (e : Expr) : Prop :=
  ∀ t, Term.ofExpr? e = some t → OnlyNames own t.names → ComesTo c r f own bound call e t

/-- What is read of expressions comes to their values. -/
def ReadAsTerms (c : Config) (r : ReductionCall) (f : Frame) (own : List Statement)
    (bound : List String) (call : Code.Call) (es : List Expr) : Prop :=
  ∀ ts, Term.ofExprs? es = some ts → OnlyNames own (namesOf ts) →
    AllComeTo c r f own bound call es ts

/-- A name has the value that it stands for. -/
theorem readsAsTerm_name (hf : Admits c r f own) (n : String) :
    ReadsAsTerm c r f own bound call (.name n) := by
  intro t ht hnames names env s v hunderway hreflects hv
  rw [Term.ofExpr?] at ht
  cases ht
  obtain ⟨hn, hlocal⟩ := hnames n (List.mem_singleton_self n)
  obtain ⟨d, hd, hstands⟩ := hreflects.exec_name hf hunderway hn hv call
  rw [nameCode, hlocal] at hd
  exact ⟨d, s, hd, .refl s, hstands⟩

theorem standsFor_constant {k : Constant} (h : constantValue? k = some v) :
    s.StandsFor v k.datum := by
  cases k <;> cases h <;> rfl

theorem readsAsTerm_constant (k : Constant) :
    ReadsAsTerm c r f own bound call (.constant k) := by
  intro t ht _ names env s v _ _ hv
  rw [Term.ofExpr?] at ht
  obtain ⟨w, hw, rfl⟩ := Option.map_eq_some_iff.mp ht
  cases hv
  exact ⟨_, s, execIn_eval_constant _, .refl s, standsFor_constant hw⟩

/-- A list is made in a new cell. -/
theorem ReadAsTerms.list (hes : ReadAsTerms c r f own bound call es) :
    ReadsAsTerm c r f own bound call (.list es) := by
  intro t ht hnames names env s v hunderway hreflects hv
  rw [Term.ofExpr?] at ht
  obtain ⟨ts, hts, rfl⟩ := Option.map_eq_some_iff.mp ht
  rw [Term.eval] at hv
  obtain ⟨vs, hvs, hv⟩ := bind_eq_ok.mp hv
  cases hv
  obtain ⟨ds, s₁, hds, hgrows, hstand⟩ := hes ts hts hnames names env s vs hunderway hreflects hvs
  obtain ⟨d, s₂, hd, hgrows', hlist⟩ := exec_makeList hstand
  refine ⟨d, s₂, ?_, hgrows.trans hgrows', hlist⟩
  rw [Expr.eval, execIn_bind_ok hds]
  exact hd

theorem ReadsAsTerm.negative (he : ReadsAsTerm c r f own bound call e) :
    ReadsAsTerm c r f own bound call (.sign .minus e) := by
  intro t ht hnames names env s v hunderway hreflects hv
  rw [Term.ofExpr?] at ht
  obtain ⟨t, ht', rfl⟩ := Option.map_eq_some_iff.mp ht
  rw [Term.eval] at hv
  obtain ⟨x, hx, hv⟩ := bind_eq_ok.mp hv
  obtain ⟨m, hm, hv⟩ := bind_eq_ok.mp hv
  cases hv
  obtain ⟨a, s₁, ha, hgrows, hstands⟩ := he t ht' hnames names env s x hunderway hreflects hx
  refine ⟨_, s₁, ?_, hgrows, rfl⟩
  rw [Expr.eval, execIn_bind_ok ha]
  exact hstands.exec_signed (eq_some_of_orFail hm)

/-- An operator makes of two terms what it makes of their values. -/
theorem ReadsAsTerm.binary {op : Operator} {make : Term → Term → Term}
    {combine : Value → Value → Option Value}
    (hop : ∀ {s : Code.Store} {v w x : Value} {a b : Datum}, s.StandsFor v a → s.StandsFor w b →
      combine v w = some x → ∃ d s', exec (operatorResult op a b) s = (.ok d, s') ∧ s.Grows s' ∧
        s'.StandsFor x d)
    (hread : Term.ofExpr? (.binary op e e') =
      do return make (← Term.ofExpr? e) (← Term.ofExpr? e'))
    (hmake : ∀ t t', (make t t').names = t.names ++ t'.names ∧ ∀ env,
      (make t t').eval bound env = do
        let v ← t.eval bound env
        orFail .typeMismatch (combine v (← t'.eval bound env)))
    (he : ReadsAsTerm c r f own bound call e) (he' : ReadsAsTerm c r f own bound call e') :
    ReadsAsTerm c r f own bound call (.binary op e e') := by
  intro t'' hboth hnames names env s v hunderway hreflects hv
  rw [hread] at hboth
  obtain ⟨t, ht, hmade⟩ := Option.bind_eq_some_iff.mp hboth
  obtain ⟨t', ht', hmade⟩ := Option.bind_eq_some_iff.mp hmade
  cases hmade
  rw [(hmake t t').1] at hnames
  rw [(hmake t t').2] at hv
  obtain ⟨x, hx, hv⟩ := bind_eq_ok.mp hv
  obtain ⟨y, hy, hv⟩ := bind_eq_ok.mp hv
  -- The second operand may add cells; what the first one has come to stays.
  obtain ⟨a, s₁, ha, hgrows₁, hxa⟩ :=
    he t ht (fun n hn => hnames n (List.mem_append_left _ hn)) names env s x hunderway hreflects hx
  obtain ⟨b, s₂, hb, hgrows₂, hyb⟩ := he' t' ht'
    (fun n hn => hnames n (List.mem_append_right _ hn)) names env s₁ y (hunderway.mono hgrows₁)
    (hreflects.mono hgrows₁) hy
  obtain ⟨d, s₃, hd, hgrows₃, hvd⟩ := hop (hxa.mono hgrows₂) hyb (eq_some_of_orFail hv)
  exact ⟨d, s₃, (execIn_eval_binary ha hb).trans hd, hgrows₁.trans (hgrows₂.trans hgrows₃), hvd⟩

theorem readAsTerms_nil : ReadAsTerms c r f own bound call [] := by
  intro ts hts _ names env s vs _ _ hvs
  cases hts
  cases hvs
  exact ⟨[], s, rfl, .refl s, rfl⟩

/-- Expressions are computed one after the other, each in what the ones before have added. -/
theorem ReadAsTerms.cons (he : ReadsAsTerm c r f own bound call e)
    (hes : ReadAsTerms c r f own bound call es) :
    ReadAsTerms c r f own bound call (e :: es) := by
  intro ts' hall hnames names env s vs' hunderway hreflects hvalues
  rw [Term.ofExprs?] at hall
  obtain ⟨t, ht, hrest⟩ := Option.bind_eq_some_iff.mp hall
  obtain ⟨ts, hts, hmade⟩ := Option.bind_eq_some_iff.mp hrest
  cases hmade
  rw [namesOf] at hnames
  rw [evalAll] at hvalues
  obtain ⟨v, hv, hvalues⟩ := bind_eq_ok.mp hvalues
  obtain ⟨vs, hvs, hmade⟩ := bind_eq_ok.mp hvalues
  cases hmade
  obtain ⟨d, s₁, hd, hgrows₁, hstands⟩ := he t ht
    (fun n hn => hnames n (List.mem_append_left _ hn)) names env s v hunderway hreflects hv
  obtain ⟨ds, s₂, hds, hgrows₂, hstand⟩ := hes ts hts
    (fun n hn => hnames n (List.mem_append_right _ hn)) names env s₁ vs
    (hunderway.mono hgrows₁) (hreflects.mono hgrows₁) hvs
  refine ⟨d :: ds, s₂, execIn_evalItems_cons ?_ hd hds, hgrows₁.trans hgrows₂, d, ds, rfl,
    hstands.mono hgrows₂, hstand⟩
  rintro e' rfl
  simp [Term.ofExpr?] at ht

/-- What is read as a term comes to its value. -/
theorem readsAsTerm (hf : Admits c r f own) (call : Code.Call) (e : Expr) :
    ReadsAsTerm c r f own bound call e := by
  refine Term.ofExpr?.induct (ReadsAsTerm c r f own bound call)
    (ReadAsTerms c r f own bound call) (readsAsTerm_name hf) readsAsTerm_constant
    (fun _ => ReadAsTerms.list) (fun _ => ReadsAsTerm.negative) ?sum ?difference ?product ?other
    readAsTerms_nil (fun _ _ => ReadAsTerms.cons) e
  case sum =>
    exact fun _ _ => ReadsAsTerm.binary Store.StandsFor.exec_add (by rw [Term.ofExpr?])
      fun _ _ => ⟨by rw [Term.names], fun _ => by rw [Term.eval]⟩
  case difference =>
    exact fun _ _ => ReadsAsTerm.binary Store.StandsFor.exec_sub (by rw [Term.ofExpr?])
      fun _ _ => ⟨by rw [Term.names], fun _ => by rw [Term.eval]⟩
  case product =>
    exact fun _ _ => ReadsAsTerm.binary Store.StandsFor.exec_mul (by rw [Term.ofExpr?])
      fun _ _ => ⟨by rw [Term.names], fun _ => by rw [Term.eval]⟩
  case other =>
    intro e _ _ _ _ _ _ _ t ht
    rw [Term.ofExpr?] at ht
    · cases ht
    all_goals assumption

/-! ## Assignments -/

/-- A name that the user's code may assign: it is of the scope and no parameter, and no name that
the body binds goes by it unless it is written so. -/
structure Assignable (f : Frame) (own : List Statement) (n : String) : Prop where
  shared : n ∉ f.shared
  inScope : n ∈ f.scope.1
  noParameter : n ∉ usedParameters
  apart : ∀ n' ∈ boundNames own, localName n' = n ↔ n' = n

theorem eq_name_of_targetName? (h : targetName? e = some n) : e = .name n := by
  cases e <;> cases h
  rfl

theorem Assignment.eq_assign_of_ofStatement? {st : Code.Statement} {a : Assignment}
    (h : Assignment.ofStatement? st = some a) : ∃ targets e, st = .assign targets e ∧
      List.Forall₂ (targetName? · = some ·) targets a.targets ∧ Term.ofExpr? e = some a.term := by
  unfold Assignment.ofStatement? at h
  split at h
  · split at h
    · obtain ⟨ns, hns, h⟩ := Option.bind_eq_some_iff.mp h
      obtain ⟨t, ht, h⟩ := Option.bind_eq_some_iff.mp h
      cases h
      exact ⟨_, _, rfl, pairs_of_mapM hns, ht⟩
    · cases h
  · cases h

/-- The names that a value is given to stand for it then. -/
theorem run_targets (hscope : f.scope.2 = r.scope) {targets : List Expr} {ns : List String}
    (htargets : List.Forall₂ (targetName? · = some ·) targets ns)
    (hns : ∀ n ∈ ns, Assignable f own n) (hunderway : Underway c r names s)
    (hreflects : Reflects own s names env) (hd : s.StandsFor v d) (call : Code.Call) :
    ∃ names' s', execIn f (assignAll call d targets) s = (.ok (), s') ∧
      s.Spares none r.scope s' ∧ Underway c r names' s' ∧
      Reflects own s' names' (ns.foldl (fun env name => (name, v) :: env) env) := by
  induction htargets generalizing names s env with
  | nil => exact ⟨names, s, rfl, (Store.Grows.refl s).spares, hunderway, hreflects⟩
  | @cons e n targets ns hn _ ih =>
      obtain rfl := eq_name_of_targetName? hn
      obtain ⟨hshared, hinScope, hparameter, hapart⟩ := hns n List.mem_cons_self
      obtain ⟨s₁, hbind, hspares₁, hunderway₁⟩ :=
        hunderway.bindLocal hshared hinScope hparameter hscope d
      have hreflects₁ : Reflects own s₁ (setEntry n d names) ((n, v) :: env) :=
        (hreflects.bind hapart hd).spares hspares₁ nofun
      obtain ⟨names₂, s₂, hrun, hspares₂, hunderway₂, hreflects₂⟩ :=
        ih (fun n hn => hns n (List.mem_cons_of_mem _ hn)) hunderway₁ hreflects₁
          (hd.spares hspares₁ nofun)
      refine ⟨names₂, s₂, ?_, hspares₁.trans hspares₂, hunderway₂, hreflects₂⟩
      rw [assignAll, execIn_bind_ok ((execIn_assign_name n).trans hbind)]
      exact hrun

/-- An assignment that is run binds what it means. -/
theorem run_assignment (hf : Admits c r f own) {st : Code.Statement} {a : Assignment}
    (ha : Assignment.ofStatement? st = some a) (hread : OnlyNames own a.term.names)
    (hassign : ∀ n ∈ a.targets, Assignable f own n) (hunderway : Underway c r names s)
    (hreflects : Reflects own s names env) (hrun : a.run bound env = .ok env') (call : Code.Call) :
    ∃ names' s', execIn f (st.run call) s = (.ok .next, s') ∧ s.Spares none r.scope s' ∧
      Underway c r names' s' ∧ Reflects own s' names' env' := by
  obtain ⟨targets, e, rfl, htargets, ht⟩ := Assignment.eq_assign_of_ofStatement? ha
  obtain ⟨v, hv, hbound⟩ := bind_eq_ok.mp hrun
  cases hbound
  obtain ⟨d, s₁, hd, hgrows, hstands⟩ :=
    readsAsTerm hf call e a.term ht hread names env s v hunderway hreflects hv
  obtain ⟨names', s₂, hall, hspares, hunderway', hreflects'⟩ :=
    run_targets hf.scope htargets hassign (hunderway.mono hgrows) (hreflects.mono hgrows) hstands
      call
  refine ⟨names', s₂, ?_, hgrows.spares.trans hspares, hunderway', hreflects'⟩
  rw [Code.Statement.run, execIn_bind_ok hd, execIn_bind_ok hall]
  rfl

/-- Assignments that are run one after the other bind what they mean. -/
theorem run_assignments (hf : Admits c r f own) {ss : List Code.Statement} {as : List Assignment}
    (has : List.Forall₂ (Assignment.ofStatement? · = some ·) ss as)
    (hread : ∀ a ∈ as, OnlyNames own a.term.names)
    (hassign : ∀ a ∈ as, ∀ n ∈ a.targets, Assignable f own n) (hunderway : Underway c r names s)
    (hreflects : Reflects own s names env) (hrun : assignmentsCode bound as env = .ok env')
    (call : Code.Call) :
    ∃ names' s', execIn f (runAll call ss) s = (.ok .next, s') ∧ s.Spares none r.scope s' ∧
      Underway c r names' s' ∧ Reflects own s' names' env' := by
  induction has generalizing names s env with
  | nil =>
      cases hrun
      exact ⟨names, s, rfl, (Store.Grows.refl s).spares, hunderway, hreflects⟩
  | @cons st a ss as ha _ ih =>
      rw [assignmentsCode, List.foldlM_cons] at hrun
      obtain ⟨env₁, hfirst, hrun⟩ := bind_eq_ok.mp hrun
      obtain ⟨names₁, s₁, hrun₁, hspares₁, hunderway₁, hreflects₁⟩ :=
        run_assignment hf ha (hread a List.mem_cons_self) (hassign a List.mem_cons_self) hunderway
          hreflects hfirst call
      obtain ⟨names₂, s₂, hrun₂, hspares₂, hunderway₂, hreflects₂⟩ :=
        ih (fun a ha => hread a (List.mem_cons_of_mem _ ha))
          (fun a ha => hassign a (List.mem_cons_of_mem _ ha)) hunderway₁ hreflects₁ hrun
      exact ⟨names₂, s₂, (execIn_runAll_next hrun₁).trans hrun₂, hspares₁.trans hspares₂,
        hunderway₂, hreflects₂⟩

end Plain

theorem targetNamesOf_of_targets {targets : List Expr} {ns : List String}
    (h : List.Forall₂ (targetName? · = some ·) targets ns) : targetNamesOf targets = ns := by
  induction h with
  | nil => rfl
  | cons hn _ ih =>
      obtain rfl := eq_name_of_targetName? hn
      rw [targetNamesOf, Expr.targetNames, ih]
      rfl

/-- Assignments take no names from elsewhere, and they bind their targets. -/
theorem binds_of_assignments {ss : List Code.Statement} {as : List Assignment}
    (has : List.Forall₂ (Assignment.ofStatement? · = some ·) ss as) :
    globalsOf ss = [] ∧ borrowedOf ss = [] ∧ ∀ a ∈ as, ∀ n ∈ a.targets, n ∈ bindsOfAll ss := by
  induction has with
  | nil => exact ⟨rfl, rfl, nofun⟩
  | @cons st a ss as ha _ ih =>
      obtain ⟨targets, e, rfl, htargets, -⟩ := Assignment.eq_assign_of_ofStatement? ha
      obtain ⟨hglobals, hborrowed, hbinds⟩ := ih
      have hbound : (Code.Statement.assign targets e).targetNames = a.targets :=
        targetNamesOf_of_targets htargets
      refine ⟨hglobals, hborrowed, fun a' ha' n hn => List.mem_flatMap.mpr ?_⟩
      rcases List.mem_cons.mp ha' with rfl | ha'
      · exact ⟨_, List.mem_cons_self, List.mem_append_left _ (hbound ▸ hn)⟩
      · obtain ⟨st, hst, hn⟩ := List.mem_flatMap.mp (hbinds a' ha' n hn)
        exact ⟨st, List.mem_cons_of_mem _ hst, hn⟩

/-- **Assignments compute what they mean.** In the method of a production they read the names that
its body binds and assign names that are no others to the class. -/
theorem UserPart.computes_of_assignments {u : UserPart} {m : ParserModule} {made : Made} {i : Nat}
    {p : Production} {b : Body} (hu : u.LeavesAlone m made)
    (ha : m.actions[i]? = some ⟨p, .ok b⟩)
    (hatOnce : callKind false (u.codeOf m.config b i) = .atOnce) {as : List Assignment}
    (has : (u.statements i).mapM Assignment.ofStatement? = some as)
    (hread : ∀ a ∈ as, OnlyNames b.own a.term.names)
    (hassign : ∀ a ∈ as, ∀ n ∈ a.targets, n ∉ usedParameters ∧
      ∀ n' ∈ boundNames b.own, localName n' = n ↔ n' = n) (bound : List String) :
    u.Computes m made i (assignmentsCode bound as) where
  atOnce ha' := by
    cases ha.symm.trans ha'
    exact hatOnce
  computes ha' r names done s env after hparser hrests hunderway hreflects hcode := by
    cases ha.symm.trans ha'
    have has := pairs_of_mapM has
    obtain ⟨hglobals, hborrowed, hbinds⟩ := binds_of_assignments has
    have hassignable : ∀ a ∈ as, ∀ n ∈ a.targets, Assignable
        (frameOf made.actionsClass methodParameters (u.codeOf m.config b i) r.scope) b.own n := by
      intro a ha n hn
      obtain ⟨hparameter, hapart⟩ := hassign a ha n hn
      have hnone : n ∉ globalsOf (u.codeOf m.config b i) ∧
          n ∉ borrowedOf (u.codeOf m.config b i) := by
        rw [UserPart.codeOf, shared_body.1, shared_body.2, hglobals, hborrowed]
        exact ⟨List.not_mem_nil, List.not_mem_nil⟩
      refine ⟨hnone.1, List.mem_append_right _ (List.mem_filter.mpr ⟨?_, ?_⟩), hparameter, hapart⟩
      · rw [UserPart.codeOf, Body.code, bindsOfAll_append, bindsOfAll_append]
        exact List.mem_append_right _ (List.mem_append_left _ (hbinds a ha n hn))
      · simpa using hnone
    obtain ⟨names', s', hrun, -, hunderway', hreflects'⟩ := run_assignments
      ((hu.names ha).admits made.actionsClass r) has hread hassignable hunderway hreflects hcode
      (callAt (mostCalls - 3))
    -- The scope of the method is one cell, so there is one list of names in it.
    refine ⟨s', hrun, fun names'' hunderway'' => ?_⟩
    cases hunderway'.scope.symm.trans hunderway''.scope
    exact hreflects'

end LalrBackend.Reduction

namespace LalrBackend

open Reduction Code

/-! ## Generated reductions -/

/-- **The meaning of a generated reduction in a program.** Whatever calls came before, a parser that
a program has made of the classes that were printed answers the number of a production with the
symbol that the production means, and it notes the end of the parse if that is the start production.
The code of the user has to leave the names and parts alone that reductions look up, to compute what
it is said to mean, and to assign nothing but the result. -/
theorem program_reduction_meaning {c : Config} {g : Grammar} {action : ActionSource}
    {reduce : GotoSource} {r : Report} {s : Cache.Store}
    (hwritten : (emitParser c g action reduce r s).outcome.draft.failure = none)
    {i : Nat} {p : Production} (hp : g.productions[i]? = some p)
    (hfits : intermediateFits p.length p.base.length p.intermediate)
    (hapart : p.LabelsApart) {stack : List StackSymbol}
    (hlen : max p.length 1 ≤ stack.length) :
    ∃ m b env, (emitParser c g action reduce r s).module? = some m ∧ m.bodyOf? i = some b ∧
      b.userLines = userLinesOf p ∧ Finds c p stack env ∧
      ∀ (q : Program) (s : Code.Store) scanner (made : Made),
        q.IsMadeIn s m.config.parserClass scanner → s.Offers m made →
        ∃ parser actions, q.self = .cell parser ∧ ∀ u : UserPart,
          u.LeavesAlone m { made with parser := parser, actions := actions } →
          u.LeavesSymbols m → u.relies q.store → KeptApart b.own →
          ∀ (code : UserCode) (after : Environment),
          u.Computes m { made with parser := parser, actions := actions } i code →
          code env = .ok after → AssignsResult env after →
          (reducedSymbol c p stack after).depth ≤ depthLimit →
          ∀ calls, ∃ q' done q'', (Parser.program q).after calls = .program q' ∧
            (Parser.program q').isDone = .ok (.bool done) ∧
            (Parser.program q').doAction (.int i) (stack.map StackSymbol.toValue) =
              (.ok (reducedSymbol c p stack after), .program q'') ∧
            (Parser.program q'').isDone = .ok (.bool (done || g.start == some i)) := by
  obtain ⟨start, packed, hstart, _, hmodule, hdraft⟩ := emitParser_written hwritten
  rw [hdraft] at hwritten
  have hindex : ∀ (j : Nat) (q : Production), g.productions[j]? = some q → q.index = j :=
    fun j q hq => index_of_checkedStart hstart hq
  have hbodies := ParserModule.hasBodies_ofGrammar (fun hp => hindex _ _ hp) hwritten
  obtain ⟨b, hbody, hat, hbodyOf⟩ := ParserModule.bodyOf?_ofGrammar hindex hwritten hp
  refine ⟨_, b, environment c p stack, hmodule, hbodyOf, (body_parts hbody).1,
    environment_finds hapart, ?_⟩
  intro q s scanner made hmade hoffers
  obtain ⟨parser, actions, hself, hidle⟩ := hbodies.idle_of_made hmade hoffers
  refine ⟨parser, actions, hself, ?_⟩
  intro u hu hsymbols hrelied hkept code after hcomputes hcode hassigns hdepth calls
  obtain ⟨done, ⟨q', hafter, hself', hidle'⟩, -⟩ :=
    Parser.after_of_step (I := ParserModule.IdleProgram u _ _) (hbodies.step_idle hu)
      ⟨q, rfl, hself, hidle u hrelied⟩ calls
  have hmeans : b.run [] code (stack.map StackSymbol.toValue) =
      .ok (reducedSymbol c p stack after) :=
    Body.run_eq_ok hbody hfits hapart hlen hcode hassigns
  obtain ⟨list, items, q'', hin, hcall, hanswers⟩ :=
    hidle'.call_returns hu hsymbols hself' hat hbody hkept hcomputes hmeans hdepth
  refine ⟨q', done, q'', hafter, ?_, ?_, ?_⟩
  · exact ParserModule.IdleProgram.isDone ⟨q', rfl, hself', hidle'⟩
  · rw [Parser.doAction, hcall]
    rfl
  · exact ParserModule.IdleProgram.isDone ⟨q'', rfl, hanswers.self, hanswers.idle⟩

/-! ### A production whose code gives the result a value -/

section StartWith

theorem isReadAs_giving : IsReadAs "RESULT = 7" (giving "RESULT" 7) where
  lines := by decide +kernel
  body := by
    refine readFunction?_startWithLines [.name "RESULT", .mark "=", .constant (.int 7)] ?_
      rfl rfl rfl rfl rfl
    rw [linesOf, toList_codeOf, startWithLines]
    simp only [List.flatMap_cons, List.flatMap_nil, String.toList_append]
    repeat rw [String.toList_ofList]
    decide +kernel

/-- The code, which relies on that symbols are left as they are. -/
def givingPart : UserPart :=
  (startWithPart (giving "RESULT" 7)).relying Code.Store.LeavesParts

theorem leavesAlone_giving (packed : Cache.PackedTables) (made : Made) :
    givingPart.LeavesAlone (startWithModule "RESULT = 7" packed) made := by
  refine startWithPart_leavesAlone (fun hspares hparts => ?_) isReadAs_giving packed made
    ⟨rfl, rfl⟩ fun r names s hunderway => ?_
  · unfold Code.Store.LeavesParts
    rw [hspares.marks]
    exact hparts
  · obtain ⟨s', hrun, hspares, hunderway'⟩ :=
      run_giving hunderway (n := "RESULT") (by decide) 7 made.actionsClass _
    exact ⟨_, _, s', hrun, hspares, hunderway'⟩

theorem leavesSymbols_giving (packed : Cache.PackedTables) :
    givingPart.LeavesSymbols (startWithModule "RESULT = 7" packed) where
  spares := trivial
  parts h := h
  type := nofun
  name := nofun

theorem computes_giving (packed : Cache.PackedTables) (made : Made) :
    givingPart.Computes (startWithModule "RESULT = 7" packed) made 0
      (assignmentsCode [] [⟨["RESULT"], .constant (.int 7)⟩]) := by
  have ha : (startWithModule "RESULT = 7" packed).actions[0]? = some ⟨_, .ok _⟩ := rfl
  refine UserPart.computes_of_assignments (leavesAlone_giving packed made) ha ?_ rfl ?_ ?_ []
  · rw [givingPart, UserPart.codeOf_relying, startWith_codeOf ha]
    rfl
  · simp [OnlyNames, Term.names]
  · rw [startWith_own ha]
    intro a ha' n hn
    obtain rfl := List.mem_singleton.mp ha'
    obtain rfl := List.mem_singleton.mp hn
    decide

/-- Making a parser of the program leaves symbols as they are. -/
theorem leavesParts_giving {q : Program}
    (h : q.IsMadeIn (startWithStore (giving "RESULT" 7)) "parser" none) :
    q.store.LeavesParts := by
  have hmarks : (exec (Program.create (.cell 0) none)
      (startWithStore (giving "RESULT" 7))).2.marks.isEmpty = true := by decide +kernel
  obtain ⟨cls, hcls, hcreate⟩ := h
  cases hcls
  rw [hcreate, List.isEmpty_iff] at hmarks
  intro part _
  rw [hmarks]
  rfl

/-- The left side has no type, so the new symbol has no value, whatever the result is. The parse is
done then. -/
theorem program_reduction_meaning_giving :
    ∃ m, (emitParser untracked (startWith "RESULT = 7") (.fixed []) (.fixed []) {}
        Cache.Store.fresh).module? = some m ∧
      (startWithStore (giving "RESULT" 7)).Offers m startWithMade ∧
      ∃ q : Program, q.IsMadeIn (startWithStore (giving "RESULT" 7)) m.config.parserClass none ∧
        ∃ q', (Parser.program q).doAction (.int 0) [.symbol (.int 4) .null .null .null .null] =
            (.ok (.symbol (.int 0) .null (.int (-1)) (.int (-1)) (.text "s")), .program q') ∧
          (Parser.program q').isDone = .ok (.bool true) := by
  have hwritten : (emitParser untracked (startWith "RESULT = 7") (.fixed []) (.fixed []) {}
      Cache.Store.fresh).outcome.draft.failure = none := rfl
  have hp : (startWith "RESULT = 7").productions[0]? = some _ := rfl
  have hlen : 1 ≤ [(⟨.int 4, .null, .null, .null, .null⟩ : StackSymbol)].length := Nat.le_refl 1
  obtain ⟨m, b, env, hm, hb, -, -, hprogram⟩ :=
    program_reduction_meaning hwritten hp rfl ⟨nofun, nofun, nofun, nofun⟩ hlen
  obtain ⟨packed, hpacked⟩ : ∃ packed,
      (emitParser untracked (startWith "RESULT = 7") (.fixed []) (.fixed []) {}
        Cache.Store.fresh).module? = some (startWithModule "RESULT = 7" packed) := ⟨_, rfl⟩
  obtain rfl : startWithModule "RESULT = 7" packed = m := Option.some.inj (hpacked.symm.trans hm)
  have hoffers := startWithStore_offers isReadAs_giving packed
  obtain ⟨q, hmade⟩ := exists_isMadeIn_startWithStore (giving "RESULT" 7) (by decide +kernel)
  obtain ⟨parser, actions, hself, hdone⟩ := hprogram q _ none _ hmade hoffers
  have hbody : body untracked ⟨0, ⟨⟨.nonTerminal, "s", 0, none⟩, []⟩, some "RESULT = 7", some 1,
      .own⟩ true = .ok b := by
    cases hb
    rfl
  have hapart : KeptApart b.own := keptApart_of_ascii hbody nofun nofun
  have htargets : ∀ n ∈ ["RESULT"], n = resultName := fun _ hn => List.mem_singleton.mp hn
  have hassigns : AssignsResult env (("RESULT", .int 7) :: env) :=
    assignsResult_of_targets htargets
  have hdepth : (Value.symbol (.int 0) .null (.int (-1)) (.int (-1)) (.text "s")).depth ≤
      depthLimit := by decide
  obtain ⟨q', done, q'', hafter, -, hreduced, hends⟩ := hdone givingPart
    (leavesAlone_giving packed _) (leavesSymbols_giving packed) (leavesParts_giving hmade) hapart
    _ _ (computes_giving packed _) rfl hassigns hdepth []
  cases hafter
  refine ⟨_, hm, hoffers, q, hmade, q'', hreduced, hends.trans ?_⟩
  rw [show (startWith "RESULT = 7").start = some 0 from rfl, beq_self_eq_true, Bool.or_true]

end StartWith

end LalrBackend
