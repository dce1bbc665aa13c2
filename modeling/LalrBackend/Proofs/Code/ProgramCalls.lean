import LalrBackend.Parser
import LalrBackend.Proofs.Code.Keeping

/-!
# Action numbers of programs

What a program does with an action number, as long as it keeps what its generated code has made.
The number of a production is answered by a run of the function that was printed for it, on the
stack that was handed in. Anything else is refused, and the program holds all that it held before.
-/

namespace LalrBackend.Code

open Reduction (internal methodName)

/-! ## The function of the parser -/

section Forward

variable {s : Store} {cell owner parser actions dispatch : Nat}

/-- The function of the parser hands the number on to the actions. -/
theorem exec_forward (depth : Nat) (number stack : Datum)
    (hfunction : s.IsFunction cell owner "do_action" forwardParameters forwardBody)
    (hactions : s.HasOwn parser "action_obj" (.cell actions))
    (hdispatch : s.HasMethod actions (internal "do_action") dispatch) :
    ∃ s', s.Grows s' ∧
      exec (callAt (depth + 1) (.bound (.cell parser) (.cell cell)) [number, stack] []) s =
        exec (callAt depth (.bound (.cell actions) (.cell dispatch))
          [number, .cell parser, stack] []) s' := by
  have hgrows := s.grows_push
    (.scope [("self", .cell parser), ("act_num", number), ("stack", stack)])
  have hread : ∀ n d, n ∈ localNames forwardParameters forwardBody →
      [("self", Datum.cell parser), ("act_num", number), ("stack", stack)].lookup n = some d →
      execIn (frameOf owner forwardParameters forwardBody s.cells.size)
          ((Expr.name n).eval (callAt depth)) (s.push (.scope
            [("self", .cell parser), ("act_num", number), ("stack", stack)])) =
        (.ok d, s.push (.scope
          [("self", .cell parser), ("act_num", number), ("stack", stack)])) := by
    intro n d hlocal hd
    exact (execIn_eval_name n).trans (execIn_local (by decide) hlocal hd)
  have hself := hread "self" (.cell parser) (by decide) rfl
  have hnumber := hread "act_num" number (by decide) rfl
  have hstack := hread "stack" stack (by decide) rfl
  have hobject := (execIn_eval_attribute hself "action_obj").trans
    ((hactions.mono hgrows).exec_attributeOf (by decide))
  have hmethod := (execIn_eval_attribute hobject (internal "do_action")).trans
    ((hdispatch.mono hgrows).exec_attributeOf (by decide))
  have hargs := execIn_evalArguments_cons (by rfl) hnumber
    (execIn_evalArguments_cons (by rfl) hself
      (execIn_evalArguments_cons (by rfl) hstack execIn_evalArguments_nil))
  refine ⟨_, hgrows, ?_⟩
  rw [hfunction.exec_call (by decide) (by decide) rfl]
  exact (exec_runBody_next (execIn_compute (execIn_eval_constant _))).trans
    ((exec_runBody_giveBack _).trans (execIn_eval_call hmethod hargs nofun))

end Forward

/-! ## Runs to their ends -/

namespace Program

section Runs

variable {α : Type} {s s' s'' : Store} {act : Machine α} {a : α} {fault : Fault}

theorem runOn_eq (s : Store) (act : Machine α) :
    runOn s act =
      match exec act s with
      | (.ok a, s') => (.ok a, s')
      | (.error fault, s') =>
        match exec fault.failure s' with
        | (.ok failure, s'') => (.error failure, s'')
        | (.error fault, s'') => (.error (.raised fault.typeName), s'') := rfl

theorem runOn_ok (h : exec act s = (.ok a, s')) : runOn s act = (.ok a, s') := by
  rw [runOn_eq, h]

theorem runOn_error {failure : Failure} (h : exec act s = (.error fault, s'))
    (hfailure : exec fault.failure s' = (.ok failure, s'')) :
    runOn s act = (.error failure, s'') := by
  rw [runOn_eq, h]
  simp only [hfailure]

/-- A run that fails fails for whoever asked for it, once it has been told how. -/
theorem runOn_fails (h : exec act s = (.error fault, s')) :
    ∃ failure, runOn s act = (.error failure, (exec fault.failure s').2) := by
  rw [runOn_eq, h]
  cases htold : exec fault.failure s' with
  | mk told s'' =>
      cases told with
      | ok failure => exact ⟨failure, by simp only [htold]⟩
      | error other => exact ⟨.raised other.typeName, by simp only [htold]⟩

/-- Runs that come to the same and leave the same store end in the same way. -/
theorem runOn_congr {act' : Machine α} (h : exec act s = exec act' s') :
    runOn s act = runOn s' act' := by
  rw [runOn_eq, runOn_eq, h]

end Runs

/-! ## Whether the parse is done -/

/-- What a program notes about its end is what it answers. -/
theorem isDone_of_notesDone {p : Program} {parser : Nat} {b : Bool}
    (hself : p.self = .cell parser) (h : p.store.NotesDone parser b) :
    (Parser.program p).isDone = .ok (.bool b) := by
  obtain ⟨cls, own, called, members, hobject, hown, hcls, hmember, hmark⟩ := h
  obtain ⟨k, hk, hcomputed⟩ : ∃ k, runtimeMember? (runtimeType "LRParser") "is_done" = some k ∧
      (k.name == computedMember) = true :=
    ⟨⟨runtimePath, computedMember, .routine, [.settable]⟩, by decide +kernel, by decide⟩
  have hfound : p.store.member? "is_done" depthLimit (.cell cls) = some (.known k) := by
    have hbase : (p.store.marks.lookup ((runtimeType "LRParser").path,
        (runtimeType "LRParser").name, "is_done")) = none := hmark
    rw [depthLimit, Store.member?, hcls]
    simp only [hmember, Option.none_or, List.findSome?_cons]
    rw [Store.member?, hbase, hk]
    · rfl
    · simp
  have hattribute : exec (attributeOf p.self "is_done") p.store = (.ok (.bool b), p.store) := by
    rw [hself, exec_attributeOf_object (by decide) hobject, objectAttribute,
      exec_bind_ok (exec_classMember? _ _ _), hfound]
    simp only [isComputed, hcomputed, if_true, hown]
    rfl
  have hmemberRun : p.member "is_done" = .ok (.bool b) := by
    have hrun := runOn_ok ((exec_bind_ok hattribute handOut).trans rfl)
    rw [member, perform, hrun]
    rfl
  rw [Parser.isDone, hmemberRun]
  rfl

/-! ## Numbers of productions -/

/-- Runs the function that was made for a production, on a list of a size. -/
def reduceBy (p : Program) (made : Made) (i list size : Nat) :
    Except Failure Value × Program :=
  p.perform fun self => do
    handOut (← callAt (mostCalls - 2) (.bound (.cell made.actions) (.cell (made.method i)))
      [self, .cell list, .int size] [])

section Reductions

variable {p : Program} {made : Made} {i list size : Nat} {s' : Store} {d : Datum} {fault : Fault}

/-- A function that returns hands its value out. -/
theorem reduceBy_returns (hself : p.self = .cell made.parser)
    (hrun : exec (callAt (mostCalls - 2) (.bound (.cell made.actions) (.cell (made.method i)))
      [.cell made.parser, .cell list, .int size] []) p.store = (.ok d, s')) :
    p.reduceBy made i list size = (.ok (s'.toValue depthLimit d), { p with store := s' }) := by
  rw [reduceBy, perform, hself, runOn_ok ((exec_bind_ok hrun handOut).trans rfl)]

/-- A function that fails is told how. -/
theorem reduceBy_fails (hself : p.self = .cell made.parser)
    (hrun : exec (callAt (mostCalls - 2) (.bound (.cell made.actions) (.cell (made.method i)))
      [.cell made.parser, .cell list, .int size] []) p.store = (.error fault, s')) :
    ∃ failure, p.reduceBy made i list size =
      (.error failure, { p with store := (exec fault.failure s').2 }) := by
  obtain ⟨failure, hfails⟩ := runOn_fails (exec_bind_error hrun handOut)
  exact ⟨failure, by rw [reduceBy, perform, hself, hfails]⟩

end Reductions

/-- The list in which a stack is handed in along with an action number, and its items. -/
def HandsIn (p : Program) (number : Value) (stack : List Value) (list : Nat)
    (items : List Datum) : Prop :=
  ∃ d s, exec (ofValues [number, .list stack]) p.store = (.ok [d, .cell list], s) ∧
    s.cells[list]? = some (.list items)

section Numbers

variable {p : Program} {m : ParserModule} {made : Made} {stack : List Value}

/-- What a program hands in and asks the actions for, when it is asked about an action number. -/
theorem call_doAction (hself : p.self = .cell made.parser) (h : p.store.Dispatches m made)
    (number : Value) (stack : List Value) :
    ∃ d list items s', p.HandsIn number stack list items ∧ p.store.Grows s' ∧
      s'.StandsFor number d ∧ s'.cells[list]? = some (.list items) ∧
      s'.StandForAll stack items ∧
      p.call "do_action" [number, .list stack] =
        ({ p with store := s' } : Program).perform (fun self =>
          callAt (mostCalls - 1) (.bound (.cell made.actions) (.cell made.dispatch))
            [d, self, .cell list] [] >>= handOut) := by
  obtain ⟨ds, s₁, hin, hgrows₁, d, _, rfl, hd, dstack, _, rfl, hstack, rfl⟩ :=
    exec_ofValues [number, .list stack] p.store
  obtain ⟨list, items, rfl, hlist, hitems⟩ := hstack
  have h₁ := h.mono hgrows₁
  have hfunction := h₁.functions.forwardPrinted.isFunction (readFunction?_forwardLines _)
  obtain ⟨s₂, hgrows₂, hforward⟩ := exec_forward (mostCalls - 1) d (.cell list) hfunction
    h₁.actions h₁.functions.dispatch
  refine ⟨d, list, items, s₂, ⟨d, s₁, hin, hlist⟩, hgrows₁.trans hgrows₂, hd.mono hgrows₂,
    hgrows₂.cells hlist, hitems.mono hgrows₂, ?_⟩
  have hattribute := h.functions.forward.exec_attributeOf (by decide)
  have hcalls : callDatum = callAt (mostCalls - 1 + 1) := by rw [callDatum]; rfl
  have hasked : exec (do
      let f ← attributeOf (.cell made.parser) "do_action"
      handOut (← callDatum f (← ofValues [number, .list stack]) [])) p.store =
      exec (callAt (mostCalls - 1) (.bound (.cell made.actions) (.cell made.dispatch))
        [d, .cell made.parser, .cell list] [] >>= handOut) s₂ := by
    rw [exec_bind_ok hattribute, exec_bind_ok hin, hcalls, exec_bind, hforward, ← exec_bind]
  rw [call, perform, perform, hself, runOn_congr hasked]

/-- The number of a production is answered by the function that was made for it, on the list that
was handed in. -/
theorem call_answered (hself : p.self = .cell made.parser) (h : p.store.Dispatches m made)
    {i : Nat} (hi : i < m.actions.length) (stack : List Value) :
    ∃ list items s', p.HandsIn (.int i) stack list items ∧ p.store.Grows s' ∧
      s'.cells[list]? = some (.list items) ∧ s'.StandForAll stack items ∧
      p.call "do_action" [.int i, .list stack] =
        ({ p with store := s' } : Program).reduceBy made i list stack.length := by
  obtain ⟨d, list, items, s₁, hin, hgrows₁, rfl, hlist, hitems, hcall⟩ :=
    call_doAction hself h (.int i) stack
  have h₁ := h.mono hgrows₁
  obtain ⟨types, hread⟩ := readFunction?_dispatchLines m.config.genericStack
  have hfunction := h₁.functions.dispatchPrinted.isFunction hread
  obtain ⟨table, htable, hmethods⟩ := h₁.table
  have hmethod : ((List.range m.actions.length).map fun n =>
      Datum.bound (.cell made.actions) (.cell (made.method n)))[i]? =
      some (.bound (.cell made.actions) (.cell (made.method i))) := by
    rw [List.getElem?_map, List.getElem?_range hi]
    rfl
  obtain ⟨s₂, hgrows₂, hanswered⟩ := exec_dispatch_answered (mostCalls - 3)
    (.cell made.parser) hfunction h₁.names htable hmethods hmethod rfl hlist
  refine ⟨list, items, s₂, hin, hgrows₁.trans hgrows₂, hgrows₂.cells hlist,
    hitems.mono hgrows₂, ?_⟩
  have hdepth : mostCalls - 3 + 2 = mostCalls - 1 := rfl
  have hdepth' : mostCalls - 3 + 1 = mostCalls - 2 := rfl
  rw [hdepth, hdepth'] at hanswered
  have hrun : exec (callAt (mostCalls - 1) (.bound (.cell made.actions) (.cell made.dispatch))
      [.int i, .cell made.parser, .cell list] [] >>= handOut) s₁ =
      exec (callAt (mostCalls - 2) (.bound (.cell made.actions) (.cell (made.method i)))
        [.cell made.parser, .cell list, .int stack.length] [] >>= handOut) s₂ := by
    rw [exec_bind, hanswered, hitems.length, ← exec_bind]
  rw [hcall, reduceBy, perform, perform, hself, runOn_congr hrun]

/-- What is no number of a production is refused, and nothing changes. -/
theorem call_refused (hself : p.self = .cell made.parser) (h : p.store.Dispatches m made)
    {number : Value} (hnumber : ∀ i < m.actions.length, number ≠ .int (i : Nat))
    (stack : List Value) :
    ∃ d list items s', p.HandsIn number stack list items ∧ p.store.Grows s' ∧
      s'.StandsFor number d ∧ s'.cells[list]? = some (.list items) ∧
      s'.StandForAll stack items ∧
      p.call "do_action" [number, .list stack] =
        (.error (.refused ParserError.badNumber (s'.toValue depthLimit d)),
          { p with store := s' }) := by
  obtain ⟨d, list, items, s₁, hin, hgrows₁, hd, hlist, hitems, hcall⟩ :=
    call_doAction hself h number stack
  have h₁ := h.mono hgrows₁
  obtain ⟨types, hread⟩ := readFunction?_dispatchLines m.config.genericStack
  have hfunction := h₁.functions.dispatchPrinted.isFunction hread
  obtain ⟨table, htable, hmethods⟩ := h₁.table
  obtain ⟨s₂, n, hrefused, hgrows₂, hrefusal⟩ := exec_dispatch_refused (mostCalls - 4)
    (.cell made.parser) (.cell list) hfunction h₁.names htable hmethods hd
    (by simpa using hnumber)
  have hdepth : mostCalls - 4 + 3 = mostCalls - 1 := rfl
  rw [hdepth] at hrefused
  have hrun := runOn_error (exec_bind_error hrefused handOut)
    (exec_failure_refusal (h₁.names.leaves.mono hgrows₂) hrefusal)
  refine ⟨d, list, items, s₂, hin, hgrows₁.trans hgrows₂, hd.mono hgrows₂, hgrows₂.cells hlist,
    hitems.mono hgrows₂, ?_⟩
  rw [hcall, perform, hself, hrun]
  rfl

end Numbers

end Program

end LalrBackend.Code
