import LalrBackend.Proofs.Code.ProgramCalls
import LalrBackend.Proofs.Reduction.Execution
import LalrBackend.Proofs.Reduction.Order

/-!
# Runs of the methods that reduce

The method of a production runs its own statements around those of the user. What the user's code
may rely on, and what it has to leave alone, is told by an invariant of its own. Then a call leaves
the stack as it was, and it notes the end of the parse only if it is a call of the method of the
start production that returns. Code of the user that leaves this method by itself keeps it from
that.
-/

namespace LalrBackend.Reduction

open Code Failure

/-! ## The names of a body -/

section Names

variable {c : Config} {b : Body} {types : String → Expr} {user : List Code.Statement}
  {st : Statement} {ss : List Statement} {n : String}

theorem allOf_append (xs ys : List Code.Statement) : allOf (xs ++ ys) = allOf xs ++ allOf ys := by
  induction xs with
  | nil => rw [List.nil_append, allOf, List.nil_append]
  | cons x xs ih => rw [List.cons_append, allOf, allOf, ih, List.append_assoc]

theorem bindsOfAll_append (xs ys : List Code.Statement) :
    bindsOfAll (xs ++ ys) = bindsOfAll xs ++ bindsOfAll ys := by
  rw [bindsOfAll, allOf_append, List.flatMap_append, bindsOfAll, bindsOfAll]

theorem globalsOf_append (xs ys : List Code.Statement) :
    globalsOf (xs ++ ys) = globalsOf xs ++ globalsOf ys := by
  rw [globalsOf, allOf_append, List.flatMap_append, globalsOf, globalsOf]

theorem borrowedOf_append (xs ys : List Code.Statement) :
    borrowedOf (xs ++ ys) = borrowedOf xs ++ borrowedOf ys := by
  rw [borrowedOf, allOf_append, List.flatMap_append, borrowedOf, borrowedOf]

theorem binding?_of_bound (hn : n ∈ st.bound) (c : Config) :
    ∃ valueType e, st.binding? c = some (n, valueType, e) := by
  cases st with
  | startResult t distance =>
      obtain rfl := List.mem_singleton.mp hn
      cases distance <;> exact ⟨_, _, rfl⟩
  | user line => cases hn
  | announce => cases hn
  | accept => cases hn
  | finish => cases hn
  | _ =>
      obtain rfl := List.mem_singleton.mp hn
      exact ⟨_, _, rfl⟩

/-- A statement binds its name where it stands. -/
theorem mem_bindsOfAll_code (hn : n ∈ st.bound) : localName n ∈ bindsOfAll (st.code c types) := by
  obtain ⟨valueType, e, hbinding⟩ := binding?_of_bound hn c
  unfold Statement.code
  rw [hbinding]
  cases valueType with
  | none => simp [bindsOfAll, allOf, Code.Statement.all, Code.Statement.targetNames,
      Code.Statement.targets, targetNamesOf, nameCode, Expr.targetNames]
  | some t => simp [bindsOfAll, allOf, Code.Statement.all, Code.Statement.targetNames, nameCode]

/-- No statement of a body takes a name from the module or from a function around. -/
theorem shared_code (c : Config) (types : String → Expr) (st : Statement) :
    globalsOf (st.code c types) = [] ∧ borrowedOf (st.code c types) = [] := by
  unfold Statement.code
  split <;> exact ⟨rfl, rfl⟩

theorem shared_ownCode (c : Config) (types : String → Expr) (ss : List Statement) :
    globalsOf (ownCode c types ss) = [] ∧ borrowedOf (ownCode c types ss) = [] := by
  induction ss with
  | nil => exact ⟨rfl, rfl⟩
  | cons st ss ih =>
      obtain ⟨hglobal, hborrowed⟩ := shared_code c types st
      rw [ownCode_cons, globalsOf_append, borrowedOf_append, hglobal, hborrowed, ih.1, ih.2]
      exact ⟨rfl, rfl⟩

/-- Only the user's code takes names from elsewhere. -/
theorem shared_body : globalsOf (b.code c types user) = globalsOf user ∧
    borrowedOf (b.code c types user) = borrowedOf user := by
  have hown := shared_ownCode c types
  rw [Body.code, globalsOf_append, globalsOf_append, borrowedOf_append, borrowedOf_append,
    (hown _).1, (hown _).2, (hown _).1, (hown _).2]
  simp

/-- A name that a statement of a body binds is bound in the code of the body. -/
theorem mem_bindsOfAll_body (hst : st ∈ b.own) (hn : n ∈ st.bound) :
    localName n ∈ bindsOfAll (b.code c types user) := by
  have hcode : ∀ ss, st ∈ ss → localName n ∈ bindsOfAll (ownCode c types ss) := by
    intro ss hss
    obtain ⟨before, after, rfl⟩ := List.append_of_mem hss
    rw [ownCode_append, ownCode_cons, bindsOfAll_append, bindsOfAll_append]
    exact List.mem_append_right _ (List.mem_append_left _ (mem_bindsOfAll_code hn))
  rw [Body.own, List.append_assoc (b.start ++ b.bindings)] at hst
  rw [Body.code, bindsOfAll_append, bindsOfAll_append]
  rcases List.mem_append.mp hst with hst | hst
  · exact List.mem_append_left _ (hcode _ hst)
  · exact List.mem_append_right _ (List.mem_append_right _ (hcode _ hst))

/-- The labels of a production and the user's code leave the names alone that the statements of a
body use: no label is a parameter of the method, and no such name is taken from elsewhere. -/
structure LeavesNames (c : Config) (b : Body) (types : String → Expr)
    (user : List Code.Statement) : Prop where
  labels : ∀ st ∈ b.own, ∀ n ∈ st.bound, localName n ∉ usedParameters
  shared : ∀ n ∈ usedParameters ++ (b.own.flatMap Statement.bound).map localName,
    n ∉ globalsOf user ∧ n ∉ borrowedOf user
  cast : c.genericStack = false →
    "cast" ∉ globalsOf user ∧ "cast" ∉ localNames methodParameters (b.code c types user)

/-- The frame of a method admits the statements of its body. -/
theorem LeavesNames.admits (h : LeavesNames c b types user) (owner : Nat) (r : ReductionCall) :
    Admits c r (frameOf owner methodParameters (b.code c types user) r.scope) b.own where
  place := rfl
  scope := rfl
  around := rfl
  parameters n hn := by
    refine ⟨?_, List.mem_append_left _ (List.mem_cons_of_mem _ hn)⟩
    rw [frameOf, shared_body.1]
    exact (h.shared n (List.mem_append_left _ hn)).1
  bound st hst n hn := by
    obtain ⟨hglobal, hborrowed⟩ := h.shared (localName n) (List.mem_append_right _
      (List.mem_map_of_mem (List.mem_flatMap.mpr ⟨st, hst, hn⟩)))
    refine ⟨?_, ?_, h.labels st hst n hn⟩
    · rw [frameOf, shared_body.1]
      exact hglobal
    · refine List.mem_append_right _ (List.mem_filter.mpr ⟨mem_bindsOfAll_body hst hn, ?_⟩)
      rw [shared_body.1, shared_body.2]
      simp [hglobal, hborrowed]
  cast hc := by
    obtain ⟨hglobal, hlocal⟩ := h.cast hc
    rw [frameOf, shared_body.1]
    exact ⟨hglobal, hlocal⟩

end Names

/-! ## The ending of a body -/

section Ending

variable {c : Config} {p : Production} {b : Body} {types : String → Expr}
  {user : List Code.Statement} {st : Statement} {isStart : Bool}

/-- The statement that makes the symbol of a production. -/
def constructOf (c : Config) (p : Production) : Statement :=
  .construct p.rule.lhs.name p.rule.lhs.index (extentOf c p) p.rule.lhs.valueType.isSome

theorem construct_mem_own (hbody : body c p isStart = .ok b) : constructOf c p ∈ b.own :=
  (mem_own hbody).mpr (.inr (.inr (.inr (mem_endingOf.mpr (.inl rfl)))))

/-- The statements up to that one bind names, so none of them accepts or finishes. -/
theorem mem_own_of_binds (hbody : body c p isStart = .ok b)
    (hst : st ∈ startOf p ++ b.bindings ++ extentBindingsOf c p ++ [constructOf c p]) :
    st ∈ b.own ∧ st ≠ .accept ∧ st ≠ .finish := by
  have hbound : st.bound ≠ [] := by
    rcases List.mem_append.mp hst with hst | hst
    · exact bound_ne_nil hbody hst
    · obtain rfl := List.mem_singleton.mp hst
      exact List.cons_ne_nil _ _
  refine ⟨?_, ?_, ?_⟩
  · rw [(body_own hbody).2, endingOf, List.append_assoc [_], ← List.append_assoc]
    exact List.mem_append_left _ hst
  · rintro rfl
    exact hbound rfl
  · rintro rfl
    exact hbound rfl

/-- The statements behind the user's code, cut where nothing more is bound. -/
theorem append_endingOf (c : Config) (p : Production) (isStart : Bool) :
    extentBindingsOf c p ++ endingOf c p isStart =
      extentBindingsOf c p ++ [constructOf c p] ++
        (if isStart then [.announce, .accept, .finish] else [.finish]) := by
  cases isStart <;> simp [endingOf, constructOf]

/-- The code of a body, cut where the user's code stands and where nothing more is bound. -/
theorem code_of_body (hbody : body c p isStart = .ok b) :
    b.code c types user = ownCode c types (startOf p ++ b.bindings) ++
      (user ++ (ownCode c types (extentBindingsOf c p ++ [constructOf c p]) ++
        ownCode c types (if isStart then [.announce, .accept, .finish] else [.finish]))) := by
  obtain ⟨bindings, -, heq⟩ := bind_eq_ok.mp hbody
  cases heq
  rw [Body.code, append_endingOf, ownCode_append c types (_ ++ [_])]

end Ending

/-! ## The code of the user -/

/-- A parser can take action numbers, and it has noted whether the parse is done. -/
structure Ready (m : ParserModule) (made : Made) (done : Bool) (s : Code.Store) : Prop where
  dispatches : s.Dispatches m made
  base : s.KeepsBase made.parser
  notes : s.NotesDone made.parser done
  cast : m.config.genericStack = false → s.globals.lookup "cast" = some (.known castFunction)

/-- The code of the user in the methods of a module: what its types are read as, its statements by
the number of the production, what it relies on, and whether it leaves the symbols on a stack alone
and not just the stack. -/
structure UserPart where
  types : String → Expr
  statements : Nat → List Code.Statement
  relies : Code.Store → Prop
  sparesSymbols : Prop

/-- Nothing that a reduction was called with has changed, and what the user's code relies on
holds. -/
structure UserPart.Rests (u : UserPart) (m : ParserModule) (made : Made) (r : ReductionCall)
    (done : Bool) (s : Code.Store) : Prop where
  ready : Ready m made done s
  items : s.cells[r.list]? = some (.list r.items)
  symbols : u.sparesSymbols → s.StandForAll r.stack r.items
  relied : u.relies s

/-- The code of a method with a body. -/
def UserPart.codeOf (u : UserPart) (c : Config) (b : Body) (i : Nat) : List Code.Statement :=
  b.code c u.types (u.statements i)

/-- The same code, but it relies on something else. -/
def UserPart.relying (u : UserPart) (relies : Code.Store → Prop) : UserPart :=
  { u with relies := relies }

@[simp] theorem UserPart.codeOf_relying (u : UserPart) (relies : Code.Store → Prop) (c : Config)
    (b : Body) (i : Nat) : (u.relying relies).codeOf c b i = u.codeOf c b i :=
  rfl

/-- The user's code is statements of its own that touch neither the parser nor the stack and leave
all generated names alone. What it relies on does not depend on what generated code does. -/
structure UserPart.LeavesAlone (u : UserPart) (m : ParserModule) (made : Made) : Prop where
  grows : ∀ {s s' : Code.Store}, s.Grows s' → u.relies s → u.relies s'
  spares : ∀ {r : ReductionCall} {names : List (String × Datum)} {s s' : Code.Store},
    r.parser = made.parser → Underway m.config r names s →
    s.Spares (some made.parser) r.scope s' → u.relies s → u.relies s'
  read : ∀ {i : Nat} {p : Production} {b : Body}, m.actions[i]? = some ⟨p, .ok b⟩ →
    ∃ name types, readFunction? (internal "actions")
      (ActionMethod.draft m.config ⟨p, .ok b⟩).lines =
        some (.define false name { plain := methodParameters } [] [] types
          (u.codeOf m.config b i))
  names : ∀ {i : Nat} {p : Production} {b : Body}, m.actions[i]? = some ⟨p, .ok b⟩ →
    LeavesNames m.config b u.types (u.statements i)
  leaves : ∀ {i : Nat} {p : Production} {b : Body}, m.actions[i]? = some ⟨p, .ok b⟩ →
    callKind false (u.codeOf m.config b i) = .atOnce →
    ∀ (r : ReductionCall) (names : List (String × Datum)) (done : Bool) (s : Code.Store),
    r.parser = made.parser → u.Rests m made r done s → Underway m.config r names s →
    ∃ result names' s', execIn (frameOf made.actionsClass methodParameters
        (u.codeOf m.config b i) r.scope)
        (runAll (callAt (mostCalls - 3)) (u.statements i)) s = (result, s') ∧
      u.Rests m made r done s' ∧ Underway m.config r names' s'

/-- The user's code in the method of a production does not leave the method by itself: it gives
nothing back, neither at once nor bit by bit, so its statements end or fail. -/
structure UserPart.StaysAt (u : UserPart) (m : ParserModule) (made : Made) (i : Nat) : Prop where
  atOnce : ∀ {p : Production} {b : Body}, m.actions[i]? = some ⟨p, .ok b⟩ →
    callKind false (u.codeOf m.config b i) = .atOnce
  ends : ∀ {p : Production} {b : Body}, m.actions[i]? = some ⟨p, .ok b⟩ →
    ∀ (r : ReductionCall) (names : List (String × Datum)) (done : Bool) (s : Code.Store),
    r.parser = made.parser → u.Rests m made r done s → Underway m.config r names s →
    Ends (execIn (frameOf made.actionsClass methodParameters (u.codeOf m.config b i) r.scope)
      (runAll (callAt (mostCalls - 3)) (u.statements i)) s).1

/-! ## What is noted -/

/-- What a run does to what a parser has noted about the end of the parse. It takes nothing back, it
notes the end only if it accepts and returns, and if it stays it does so always. -/
structure Notes (stays accepts returns : Prop) (done done' : Bool) : Prop where
  kept : done = true → done' = true
  only : done' = true → done = true ∨ accepts ∧ returns
  always : stays → accepts → returns → done' = true

section Notes

variable {stays accepts accepts' returns returns' : Prop} {done done' : Bool}

/-- A run that does not accept, does not return or does not stay need not note anything. -/
theorem Notes.refl (h : stays → accepts → ¬ returns) : Notes stays accepts returns done done :=
  ⟨id, .inl, fun hstays haccepts hreturns => absurd hreturns (h hstays haccepts)⟩

theorem Notes.congr (h : Notes stays accepts returns done done') (haccepts : accepts ↔ accepts')
    (hreturns : returns ↔ returns') : Notes stays accepts' returns' done done' := by
  rwa [← propext haccepts, ← propext hreturns]

end Notes

/-! ## Running a body -/

section Run

variable {u : UserPart} {m : ParserModule} {made : Made} {r : ReductionCall} {done : Bool}
  {s s' : Code.Store} {names : List (String × Datum)} {i : Nat} {p : Production} {b : Body}
  {isStart : Bool} {call : Code.Call} {f : Frame}

theorem Ready.spares {scope : Nat} (hspares : s.Spares none scope s') (h : Ready m made done s) :
    Ready m made done s' where
  dispatches := h.dispatches.spares hspares
  base := h.base.spares hspares
  notes := h.notes.spares hspares
  cast hc := by rw [hspares.globals]; exact h.cast hc

theorem Ready.mono (hgrows : s.Grows s') (h : Ready m made done s) : Ready m made done s' :=
  h.spares (hgrows.spares : s.Spares none 0 s')

/-- What generated code changes in its scope takes nothing away. -/
theorem UserPart.Rests.spares (hu : u.LeavesAlone m made) (hparser : r.parser = made.parser)
    (hunderway : Underway m.config r names s) (hspares : s.Spares none r.scope s')
    (h : u.Rests m made r done s) : u.Rests m made r done s' where
  ready := h.ready.spares hspares
  items := hspares.other rfl rfl h.items
  symbols hsymbols := (h.symbols hsymbols).spares hspares nofun
  relied := hu.spares hparser hunderway hspares.weaken h.relied

/-- The end of the parse is noted, and nothing else changes. -/
theorem UserPart.Rests.run_accept (hu : u.LeavesAlone m made) (hparser : r.parser = made.parser)
    {own : List Statement} (hf : Admits m.config r f own)
    (hunderway : Underway m.config r names s) (h : u.Rests m made r done s) (depth : Nat) :
    ∃ s', execIn f (runAll (callAt (depth + 1)) (Statement.code m.config u.types .accept)) s =
        (.ok .next, s') ∧
      u.Rests m made r true s' ∧ s'.cells[r.scope]? = some (.scope names) ∧
      ∀ v d, s.StandsFor v d → s'.StandsFor v d := by
  obtain ⟨cls, own, hobject, hdone⟩ := hunderway.base.exec_doneParsing depth
  have hrun := (execIn_eval_callMethod (hunderway.execIn_baseMethod hf (callAt (depth + 1))
    (n := "done_parsing") (by decide))).trans hdone
  have hspares : s.Spares (some r.parser) r.scope
      (s.put r.parser (.object cls (setEntry doneName (.bool true) own))) :=
    Store.spares_putDone hobject
  have hkept : ∀ n ∈ some r.parser, ∃ number own',
      s.cells[n]? = some (.object (.cell number) own') := by
    obtain ⟨number, own', _, _, hnotes, _⟩ := h.ready.notes
    rintro n hn
    cases hn
    exact ⟨number, own', hparser ▸ hnotes⟩
  refine ⟨_, (execIn_runAll_next (execIn_compute hrun)).trans execIn_runAll_nil, ?_, ?_,
    fun _ _ hd => hd.spares hspares hkept⟩
  · rw [hparser] at hspares hobject hkept ⊢
    refine
      { ready :=
          { dispatches := h.ready.dispatches.spares hspares
            base := h.ready.base.spares hspares
            notes := ?_
            cast := h.ready.cast }
        items := hspares.other rfl rfl h.items
        symbols := fun hsymbols => (h.symbols hsymbols).spares hspares hkept
        relied := hu.spares hparser hunderway hspares h.relied }
    obtain ⟨number, own', called, members, hnotes, _, hcls, hmember, hmark⟩ := h.ready.notes
    cases hobject.symm.trans hnotes
    exact ⟨number, _, called, members, Store.put_at hobject, lookup_setEntry_self _ _ _,
      hspares.other rfl rfl hcls, hmember, hmark⟩
  · refine Store.put_other ?_ hunderway.scope
    intro heq
    rw [heq, hunderway.scope] at hobject
    cases hobject

/-- Code of a method comes to something: nothing that the reduction was called with has changed, and
what is noted about the end goes by whether the method accepts. -/
def UserPart.Settles (u : UserPart) (m : ParserModule) (made : Made) (r : ReductionCall)
    (stays accepts : Prop) (done : Bool) (f : Frame) (code : List Code.Statement)
    (s : Code.Store) : Prop :=
  ∃ result s' done', execIn f (runAll (callAt (mostCalls - 3)) code) s = (result, s') ∧
    u.Rests m made r done' s' ∧ Notes stays accepts (∃ outcome, result = .ok outcome) done done'

/-- Statements that note nothing and end by themselves leave it to the others what is noted. -/
theorem UserPart.Settles.behind {before after : List Code.Statement} {stays accepts : Prop}
    {result : Except Code.Fault Code.Outcome}
    (hrun : execIn f (runAll (callAt (mostCalls - 3)) before) s = (result, s'))
    (hends : stays → Ends result) (hrests : u.Rests m made r done s')
    (hafter : result = .ok .next → u.Settles m made r stays accepts done f after s') :
    u.Settles m made r stays accepts done f (before ++ after) s := by
  unfold UserPart.Settles
  rw [execIn_runAll_append, hrun]
  by_cases hnext : result = .ok .next
  · rw [hnext]
    exact hafter hnext
  · -- What follows does not run, so it is only to be shown that staying code does not end so.
    refine ⟨result, s', done, ?_, hrests, .refl ?_⟩
    · cases result with
      | error fault => rfl
      | ok outcome =>
          cases outcome with
          | next => exact absurd rfl hnext
          | _ => rfl
    · rintro hstays - ⟨outcome, rfl⟩
      obtain ⟨fault, hfault⟩ := (hends hstays).resolve_left hnext
      cases hfault

/-- The symbol is given back. -/
theorem run_finish {c : Config} {own : List Statement} {st : Statement} {d : Datum}
    (call : Code.Call) (types : String → Expr) (hf : Admits c r f own) (hst : st ∈ own)
    (hsymbol : symbolName ∈ st.bound)
    (hscope : s.cells[r.scope]? = some (.scope names))
    (hnamed : names.lookup (localName symbolName) = some d) :
    execIn f (runAll call (Statement.code c types .finish)) s = (.ok (.gives d), s) := by
  obtain ⟨hshared, hlocal, _⟩ := hf.bound st hst symbolName hsymbol
  have hread : execIn f ((nameCode symbolName).eval call) s = (.ok d, s) :=
    (execIn_eval_name _).trans
      (execIn_readName_local hshared hlocal (by rw [hf.scope]; exact hscope) hnamed)
  exact execIn_runAll_ended (execIn_giveBack hread) nofun

/-- The ending of a body notes the end of the parse if it is that of the start production, and it
gives the symbol back. -/
theorem UserPart.Rests.run_ending {d : Datum} (hu : u.LeavesAlone m made)
    (hparser : r.parser = made.parser) (hbody : body m.config p isStart = .ok b)
    (hf : Admits m.config r f b.own) (hunderway : Underway m.config r names s)
    (h : u.Rests m made r done s) (hnamed : names.lookup (localName symbolName) = some d) :
    ∃ s', execIn f (runAll (callAt (mostCalls - 3)) (ownCode m.config u.types
        (if isStart then [.announce, .accept, .finish] else [.finish]))) s =
        (.ok (.gives d), s') ∧
      u.Rests m made r (done || isStart) s' ∧ ∀ v d, s.StandsFor v d → s'.StandsFor v d := by
  have hconstruct := construct_mem_own hbody
  have hsymbol : symbolName ∈ (constructOf m.config p).bound := List.mem_singleton_self _
  cases isStart with
  | false =>
      rw [Bool.or_false]
      exact ⟨s, run_finish _ u.types hf hconstruct hsymbol hunderway.scope hnamed, h, fun _ _ => id⟩
  | true =>
      rw [Bool.or_true]
      obtain ⟨s', haccept, hrests, hscope, hkept⟩ :=
        h.run_accept hu hparser hf hunderway (mostCalls - 4)
      have hfinish := run_finish (callAt (mostCalls - 3)) u.types hf hconstruct hsymbol hscope hnamed
      have hcode : ownCode m.config u.types [.announce, .accept, .finish] =
          Statement.code m.config u.types .accept ++ Statement.code m.config u.types .finish := rfl
      have hdepth : mostCalls - 4 + 1 = mostCalls - 3 := rfl
      rw [hdepth] at haccept
      refine ⟨s', ?_, hrests, hkept⟩
      rw [if_pos rfl, hcode, execIn_runAll_append, haccept]
      exact hfinish

/-- The ending of a body notes the end in the method of the start production alone. -/
theorem UserPart.Rests.settles_ending {stays : Prop} (hu : u.LeavesAlone m made)
    (hparser : r.parser = made.parser)
    (hbody : body m.config p isStart = .ok b) (hf : Admits m.config r f b.own)
    (hunderway : Underway m.config r names s) (h : u.Rests m made r done s)
    (hnamed : (names.lookup (localName symbolName)).isSome) :
    u.Settles m made r stays (isStart = true) done f
      (ownCode m.config u.types (if isStart then [.announce, .accept, .finish] else [.finish]))
      s := by
  obtain ⟨d, hd⟩ := Option.isSome_iff_exists.mp hnamed
  obtain ⟨s', hrun, hrests, -⟩ := h.run_ending hu hparser hbody hf hunderway hd
  refine ⟨_, s', done || isStart, hrun, hrests, fun hdone => ?_, fun hdone => ?_,
    fun _ haccepts _ => ?_⟩
  · simp [hdone]
  · exact (Bool.or_eq_true_iff.mp hdone).imp_right fun haccepts => ⟨haccepts, _, rfl⟩
  · simp [haccepts]

/-- The own statements of a body that are not its ending leave it to the others what is noted. -/
theorem UserPart.Rests.settles_own (hu : u.LeavesAlone m made) (hparser : r.parser = made.parser)
    {own ss : List Statement} {after : List Code.Statement} {stays accepts : Prop}
    (hss : ∀ st ∈ ss, st ∈ own ∧ st ≠ .accept ∧ st ≠ .finish) (hf : Admits m.config r f own)
    (hunderway : Underway m.config r names s) (h : u.Rests m made r done s)
    (hafter : ∀ names' s', Underway m.config r names' s' → u.Rests m made r done s' →
      (∀ n ∈ ss.flatMap Statement.bound, (names'.lookup (localName n)).isSome) →
      u.Settles m made r stays accepts done f after s') :
    u.Settles m made r stays accepts done f (ownCode m.config u.types ss ++ after) s := by
  obtain ⟨result, names', s', hrun, hgoes⟩ :=
    hunderway.run_ownCode hf hss u.types (mostCalls - 6)
  have hrests := h.spares hu hparser hunderway hgoes.spares
  exact .behind hrun (fun _ => hgoes.ends) hrests fun hended =>
    hafter names' s' hgoes.underway hrests (hgoes.bound hended)

/-- **A method notes the end only if it is that of the start and returns.** If the user's code does
not leave the method by itself, it does so always. -/
theorem UserPart.Rests.settles (hu : u.LeavesAlone m made) (hparser : r.parser = made.parser)
    (ha : m.actions[i]? = some ⟨p, .ok b⟩) (hbody : body m.config p isStart = .ok b)
    (hatOnce : callKind false (u.codeOf m.config b i) = .atOnce)
    (hunderway : Underway m.config r names s) (h : u.Rests m made r done s) :
    u.Settles m made r (u.StaysAt m made i) (isStart = true) done
      (frameOf made.actionsClass methodParameters (u.codeOf m.config b i) r.scope)
      (u.codeOf m.config b i) s := by
  have hf := (hu.names ha).admits made.actionsClass r
  rw [← UserPart.codeOf] at hf
  have hleaves := fun names s => hu.leaves ha hatOnce r names done s
  have hends := fun names s (hstays : u.StaysAt m made i) => hstays.ends ha r names done s
  generalize frameOf made.actionsClass methodParameters (u.codeOf m.config b i) r.scope = f
    at hf hleaves hends ⊢
  -- The user's code stands between own statements: `hleaves` carries what rests across it.
  rw [UserPart.codeOf, code_of_body hbody]
  refine h.settles_own hu hparser (fun st hst => mem_own_of_binds hbody ?_) hf hunderway
    fun names₁ s₁ hunderway₁ h₁ _ => ?_
  · exact List.mem_append_left _ (List.mem_append_left _ hst)
  obtain ⟨result, names₂, s₂, huser, h₂, hunderway₂⟩ :=
    hleaves names₁ s₁ hparser h₁ hunderway₁
  refine .behind huser (fun hstays => ?_) h₂ fun _ => ?_
  · have hended := hends names₁ s₁ hstays hparser h₁ hunderway₁
    rwa [huser] at hended
  refine h₂.settles_own hu hparser (fun st hst => mem_own_of_binds hbody ?_) hf hunderway₂
    fun names₃ s₃ hunderway₃ h₃ hnamed => ?_
  · rw [List.append_assoc]
    exact List.mem_append_right _ hst
  refine h₃.settles_ending hu hparser hbody hf hunderway₃ (hnamed symbolName ?_)
  rw [List.flatMap_append]
  exact List.mem_append_right _ (List.mem_singleton_self _)

end Run

/-! ## Calls of programs -/

/-- Between two calls a parser is idle: it can take action numbers, it has noted whether the parse
is done, and what the user's code relies on holds. -/
structure UserPart.Idle (u : UserPart) (m : ParserModule) (made : Made) (done : Bool)
    (s : Code.Store) : Prop where
  ready : Ready m made done s
  relied : u.relies s

/-- What a call comes to, on a list that a stack was handed in as: the parser is idle again, the
list holds the items that it held, and these stand for the stack if the user's code spares
symbols. -/
structure UserPart.Answers (u : UserPart) (m : ParserModule) (made : Made) (stack : List Value)
    (list : Nat) (items : List Datum) (done : Bool) (p : Program) : Prop where
  self : p.self = .cell made.parser
  idle : u.Idle m made done p.store
  held : p.store.cells[list]? = some (.list items)
  symbols : u.sparesSymbols → p.store.StandForAll stack items

section Calls

variable {u : UserPart} {m : ParserModule} {made : Made} {done : Bool} {s s' : Code.Store}
  {i list : Nat} {items : List Datum} {stack : List Value} {p : Program} {production : Production}
  {b : Body} {isStart : Bool}

theorem UserPart.Idle.mono (hu : u.LeavesAlone m made) (hgrows : s.Grows s')
    (h : u.Idle m made done s) : u.Idle m made done s' :=
  ⟨h.ready.mono hgrows, hu.grows hgrows h.relied⟩

/-- What was handed in to a reduction is all that is asked about it. -/
theorem UserPart.Rests.answers {r : ReductionCall} (h : u.Rests m made r done s) :
    u.Answers m made r.stack r.list r.items done ⟨s, .cell made.parser⟩ :=
  ⟨rfl, ⟨h.ready, h.relied⟩, h.items, h.symbols⟩

theorem UserPart.Rests.mono {r : ReductionCall} (hu : u.LeavesAlone m made) (hgrows : s.Grows s')
    (h : u.Rests m made r done s) : u.Rests m made r done s' where
  ready := h.ready.mono hgrows
  items := hgrows.cells h.items
  symbols hsymbols := (h.symbols hsymbols).mono hgrows
  relied := hu.grows hgrows h.relied

/-- A call that a stack is handed in to. -/
def reductionOn (made : Made) (stack : List Value) (list : Nat) (items : List Datum)
    (s : Code.Store) : ReductionCall :=
  ⟨made.parser, stack, list, items, s.cells.size⟩

theorem UserPart.Idle.rests (h : u.Idle m made done s)
    (hlist : s.cells[list]? = some (.list items)) (hitems : s.StandForAll stack items) :
    u.Rests m made (reductionOn made stack list items s) done s :=
  ⟨h.ready, hlist, fun _ => hitems, h.relied⟩

/-- A call of the method of a production that runs at once runs its body, in a new scope that holds
what it was called with. -/
theorem UserPart.Idle.call_method (hu : u.LeavesAlone m made)
    (ha : m.actions[i]? = some ⟨production, .ok b⟩)
    (hatOnce : callKind false (u.codeOf m.config b i) = .atOnce) (h : u.Idle m made done s)
    (hlist : s.cells[list]? = some (.list items)) (hitems : s.StandForAll stack items) :
    ∃ names s', exec (callAt (mostCalls - 2)
        (.bound (.cell made.actions) (.cell (made.method i)))
        [.cell made.parser, .cell list, .int stack.length] []) s =
        exec (runBody (callAt (mostCalls - 3)) (u.codeOf m.config b i) (frameOf made.actionsClass
          methodParameters (u.codeOf m.config b i) s.cells.size)) s' ∧ s.Grows s' ∧
      Underway m.config (reductionOn made stack list items s) names s' := by
  obtain ⟨name, types, hread⟩ := hu.read ha
  have hfunction := (h.ready.dispatches.functions.methodPrinted ha).isFunction hread
  have hdepth : mostCalls - 2 = mostCalls - 3 + 1 := rfl
  rw [hdepth, hfunction.exec_call hatOnce (by decide) rfl]
  generalize hnames : methodParameters.zip
    [Datum.cell made.actions, .cell made.parser, .cell list, .int stack.length] = names
  have hgrows := s.grows_push (.scope names)
  exact ⟨names, _, rfl, hgrows,
    { scope := Store.push_new s _
      parser := by rw [← hnames]; rfl
      stack := by rw [← hnames]; rfl
      size := by rw [← hnames, reductionOn, hitems.length]; rfl
      items := hgrows.cells hlist
      base := h.ready.base.spares (hgrows.spares : s.Spares none 0 _)
      cast := fun hc => h.ready.cast hc }⟩

/-- A call of the method of a production. -/
theorem UserPart.Idle.run_method (hu : u.LeavesAlone m made)
    (ha : m.actions[i]? = some ⟨production, .ok b⟩)
    (hbody : body m.config production isStart = .ok b) (h : u.Idle m made done s)
    (hlist : s.cells[list]? = some (.list items)) (hitems : s.StandForAll stack items) :
    ∃ result s' done', exec (callAt (mostCalls - 2)
        (.bound (.cell made.actions) (.cell (made.method i)))
        [.cell made.parser, .cell list, .int stack.length] []) s = (result, s') ∧
      u.Rests m made (reductionOn made stack list items s) done' s' ∧
      Notes (u.StaysAt m made i) (isStart = true) (∃ d, result = .ok d) done done' := by
  have hrests := h.rests hlist hitems
  by_cases hatOnce : callKind false (u.codeOf m.config b i) = .atOnce
  · obtain ⟨names, s₁, hcall, hgrows, hunderway⟩ := h.call_method hu ha hatOnce hlist hitems
    obtain ⟨result, s', done', hrun, hrests', hnotes⟩ :=
      (hrests.mono hu hgrows).settles hu rfl ha hbody hatOnce hunderway
    cases result with
    | ok outcome =>
        obtain ⟨d, hgiven⟩ := exec_runBody_ok hrun
        exact ⟨_, s', done', hcall.trans hgiven, hrests',
          hnotes.congr .rfl ⟨fun _ => ⟨d, rfl⟩, fun _ => ⟨outcome, rfl⟩⟩⟩
    | error fault =>
        exact ⟨_, s', done', hcall.trans (exec_runBody_fails hrun), hrests',
          hnotes.congr .rfl (by simp)⟩
  · -- Nothing of the body runs in a call that makes a stream.
    obtain ⟨name, types, hread⟩ := hu.read ha
    have hfunction := (h.ready.dispatches.functions.methodPrinted ha).isFunction hread
    have hdepth : mostCalls - 2 = mostCalls - 3 + 1 := rfl
    obtain ⟨d, s', hcall, hgrows⟩ : ∃ d s', exec (callAt (mostCalls - 3 + 1)
        (.bound (.cell made.actions) (.cell (made.method i)))
        [.cell made.parser, .cell list, .int stack.length] []) s = (.ok d, s') ∧ s.Grows s' :=
      hfunction.exec_call_later hatOnce (by decide) rfl
    exact ⟨_, s', done, hdepth ▸ hcall, hrests.mono hu hgrows,
      .refl fun hstays => absurd (hstays.atOnce ha) hatOnce⟩

/-- The run of a method is told apart by whether it fails. -/
theorem UserPart.Idle.reduceBy (hu : u.LeavesAlone m made) (hself : p.self = .cell made.parser)
    (ha : m.actions[i]? = some ⟨production, .ok b⟩)
    (hbody : body m.config production isStart = .ok b) (h : u.Idle m made done p.store)
    (hlist : p.store.cells[list]? = some (.list items))
    (hitems : p.store.StandForAll stack items) :
    ∃ answer p' done', p.reduceBy made i list stack.length = (answer, p') ∧
      u.Answers m made stack list items done' p' ∧
      Notes (u.StaysAt m made i) (isStart = true) (∃ v, answer = .ok v) done done' := by
  obtain ⟨result, s', done', hrun, hrests, hnotes⟩ := h.run_method hu ha hbody hlist hitems
  cases result with
  | error fault =>
      obtain ⟨failure, hfails⟩ := Program.reduceBy_fails hself hrun
      have hanswers := (hrests.mono hu (onlyGrows_failure fault s')).answers
      exact ⟨_, _, done', hfails, hself ▸ hanswers, hnotes.congr .rfl (by simp)⟩
  | ok d =>
      exact ⟨_, _, done', Program.reduceBy_returns hself hrun, hself ▸ hrests.answers,
        hnotes.congr .rfl ⟨fun _ => ⟨_, rfl⟩, fun _ => ⟨d, rfl⟩⟩⟩

end Calls

end LalrBackend.Reduction
