import LalrBackend.Proofs.Code.Calls

/-!
# Expressions and statements

What expressions and statements come to, told from what their parts come to. These are the forms
that generated functions are made of.
-/

namespace LalrBackend.Code

section Equations

-- All proofs below open these functions by their equations. They are asked for here once, since
-- proofs that are checked side by side would otherwise each wait for them.
attribute [local simp] Expr.eval evalArguments evalChain Expr.assign assignAll Statement.run

end Equations

variable {call : Call} {f : Frame} {s s' s'' : Store} {d d' : Datum} {e e' : Expr}

/-! ## Expressions -/

@[simp] theorem execIn_eval_name (name : String) :
    execIn f ((Expr.name name).eval call) s = execIn f (readName name) s := by
  rw [Expr.eval]

@[simp] theorem execIn_eval_constant (c : Constant) :
    execIn f ((Expr.constant c).eval call) s = (.ok c.datum, s) := by
  rw [Expr.eval, execIn_pure]

theorem execIn_eval_attribute (h : execIn f (e.eval call) s = (.ok d, s')) (name : String) :
    execIn f ((Expr.attribute e name).eval call) s = exec (attributeOf d name) s' := by
  rw [Expr.eval, execIn_bind_ok h, execIn_lift]

theorem execIn_eval_binary {op : Operator} (h : execIn f (e.eval call) s = (.ok d, s'))
    (h' : execIn f (e'.eval call) s' = (.ok d', s'')) :
    execIn f ((Expr.binary op e e').eval call) s = exec (operatorResult op d d') s'' := by
  rw [Expr.eval, execIn_bind_ok h, execIn_bind_ok h', execIn_lift]

/-- An item that is one value, before others. -/
theorem execIn_evalItems_cons {es : List Expr} {ds : List Datum} (he : ∀ e', e ≠ .spread e')
    (h : execIn f (e.eval call) s = (.ok d, s'))
    (hrest : execIn f (evalItems call es) s' = (.ok ds, s'')) :
    execIn f (evalItems call (e :: es)) s = (.ok (d :: ds), s'') := by
  rw [evalItems]
  · rw [execIn_bind_ok h, execIn_bind_ok hrest]
    rfl
  · exact he

/-- A call with values by position. -/
theorem execIn_eval_call {args : List Expr} {ds : List Datum}
    (hf : execIn f (e.eval call) s = (.ok d, s'))
    (hargs : execIn f (evalArguments call args) s' = (.ok (ds, []), s'')) (hds : ds ≠ []) :
    execIn f ((Expr.call e args).eval call) s = exec (call d ds []) s'' := by
  rw [Expr.eval, execIn_bind_ok hf, execIn_bind_ok hargs]
  -- A call without arguments may be one that sees an object from above; this one has some.
  simp only
  split
  · exact absurd rfl hds
  · rw [execIn_lift]

/-- A call of what is bound to an object. -/
theorem execIn_eval_callBound {self routine : Datum} {args : List Expr} {ds : List Datum}
    {named : List (String × Datum)} (hf : execIn f (e.eval call) s = (.ok (.bound self routine), s'))
    (hargs : execIn f (evalArguments call args) s' = (.ok (ds, named), s'')) :
    execIn f ((Expr.call e args).eval call) s =
      exec (call (.bound self routine) ds named) s'' := by
  rw [Expr.eval, execIn_bind_ok hf, execIn_bind_ok hargs]
  rfl

@[simp] theorem execIn_evalArguments_nil :
    execIn f (evalArguments call []) s = (.ok ([], []), s) := by
  rw [evalArguments, execIn_pure]

/-- Whether an argument is given by position and is one value. -/
def Expr.isPositional : Expr → Bool
  | .spread _ => false
  | .spreadEntries _ => false
  | .argument _ _ => false
  | _ => true

/-- An argument by position, before others. -/
theorem execIn_evalArguments_cons {es : List Expr} {ds : List Datum}
    {named : List (String × Datum)} (he : e.isPositional = true)
    (h : execIn f (e.eval call) s = (.ok d, s'))
    (hrest : execIn f (evalArguments call es) s' = (.ok (ds, named), s'')) :
    execIn f (evalArguments call (e :: es)) s = (.ok (d :: ds, named), s'') := by
  rw [evalArguments, execIn_bind_ok h, execIn_bind_ok hrest]
  · rfl
  all_goals
    intros
    subst_vars
    cases he

/-- An argument by name, before others. -/
theorem execIn_evalArguments_named {es : List Expr} {ds : List Datum}
    {named : List (String × Datum)} (name : String)
    (h : execIn f (e.eval call) s = (.ok d, s'))
    (hrest : execIn f (evalArguments call es) s' = (.ok (ds, named), s'')) :
    execIn f (evalArguments call (.argument name e :: es)) s =
      (.ok (ds, (name, d) :: named), s'') := by
  rw [evalArguments, execIn_bind_ok h, execIn_bind_ok hrest]
  rfl

@[simp] theorem execIn_evalChain_nil :
    execIn f (evalChain call d [] []) s = (.ok true, s) := by
  rw [evalChain, execIn_pure]
  nofun

/-- Whether one thing is the same as another one. -/
theorem execIn_eval_same (h : execIn f (e.eval call) s = (.ok d, s'))
    (h' : execIn f (e'.eval call) s' = (.ok d', s'')) :
    execIn f ((Expr.compare e [.same] [e']).eval call) s = (.ok (.bool (d.isSame d')), s'') := by
  have hcompare : execIn f (liftM (compareData .same d d')) s'' =
      (.ok (d.isSame d'), s'') := rfl
  have hchain : execIn f (evalChain call d [.same] [e']) s' = (.ok (d.isSame d'), s'') := by
    rw [evalChain, execIn_bind_ok h', execIn_bind_ok hcompare]
    cases d.isSame d' with
    | true => rw [if_pos rfl, execIn_evalChain_nil]
    | false => rfl
  rw [Expr.eval, execIn_bind_ok h, execIn_bind_ok hchain, execIn_pure]

/-! ## Statements -/

theorem execIn_compute (h : execIn f (e.eval call) s = (.ok d, s')) :
    execIn f ((Statement.compute e).run call) s = (.ok .next, s') := by
  rw [Statement.run, execIn_bind_ok h, execIn_pure]

theorem execIn_giveBack (h : execIn f (e.eval call) s = (.ok d, s')) :
    execIn f ((Statement.giveBack (some e)).run call) s = (.ok (.gives d), s') := by
  rw [Statement.run, execIn_bind_ok h]
  rfl

/-- An assignment to one target. -/
theorem execIn_assign (h : execIn f (e.eval call) s = (.ok d, s'))
    (hassign : execIn f (e'.assign call d) s' = (.ok (), s'')) :
    execIn f ((Statement.assign [e'] e).run call) s = (.ok .next, s'') := by
  have hall : execIn f (assignAll call d [e']) s' = (.ok (), s'') := by
    rw [assignAll, execIn_bind_ok hassign, assignAll, execIn_pure]
  rw [Statement.run, execIn_bind_ok h, execIn_bind_ok hall, execIn_pure]

/-- An assignment to a target that cannot be assigned to. -/
theorem execIn_assign_error {fault : Fault} (h : execIn f (e.eval call) s = (.ok d, s'))
    (hassign : execIn f (e'.assign call d) s' = (.error fault, s'')) :
    execIn f ((Statement.assign [e'] e).run call) s = (.error fault, s'') := by
  have hall : execIn f (assignAll call d [e']) s' = (.error fault, s'') := by
    rw [assignAll, execIn_bind_error hassign]
  rw [Statement.run, execIn_bind_ok h, execIn_bind_error hall]

/-- An assignment of what has no value. -/
theorem execIn_assign_noValue {fault : Fault} {targets : List Expr}
    (h : execIn f (e.eval call) s = (.error fault, s')) :
    execIn f ((Statement.assign targets e).run call) s = (.error fault, s') := by
  rw [Statement.run, execIn_bind_error h]

/-- An assignment with a type, which a function does not look at. -/
theorem execIn_annotate {bare : Bool} {type : Expr} (hplace : f.place.isInFunction = true)
    (h : execIn f (e.eval call) s = (.ok d, s'))
    (hassign : execIn f (e'.assign call d) s' = (.ok (), s'')) :
    execIn f ((Statement.annotate e' bare type (some e)).run call) s = (.ok .next, s'') := by
  rw [Statement.run]
  simp only
  rw [execIn_bind_ok h, execIn_bind_ok hassign, execIn_bind_ok (execIn_read s''), hplace]
  rfl

theorem execIn_annotate_noValue {fault : Fault} {bare : Bool} {type : Expr}
    (h : execIn f (e.eval call) s = (.error fault, s')) :
    execIn f ((Statement.annotate e' bare type (some e)).run call) s = (.error fault, s') := by
  rw [Statement.run]
  exact execIn_bind_error h _

@[simp] theorem execIn_assign_name (name : String) :
    execIn f ((Expr.name name).assign call d) s = execIn f (bindName name d) s := by
  rw [Expr.assign]

theorem execIn_assign_attribute (h : execIn f (e.eval call) s = (.ok d, s')) (name : String) :
    execIn f ((Expr.attribute e name).assign call d') s = exec (setAttribute d name d') s' := by
  rw [Expr.assign, execIn_bind_ok h, execIn_lift]

/-- A condition that is a truth value decides which block runs. -/
theorem execIn_branch {b : Bool} {yes no : List Statement}
    (h : execIn f (e.eval call) s = (.ok (.bool b), s')) :
    execIn f ((Statement.branch e yes no).run call) s =
      execIn f (runAll call (if b then yes else no)) s' := by
  have htrue : execIn f (liftM (isTrue (.bool b))) s' = (.ok b, s') := rfl
  rw [Statement.run, execIn_bind_ok h, execIn_bind_ok htrue]
  cases b with
  | true => rfl
  | false => rfl

@[simp] theorem execIn_runAll_nil : execIn f (runAll call []) s = (.ok .next, s) := by
  rw [runAll, execIn_pure]

theorem execIn_runAll_next {st : Statement} {rest : List Statement}
    (h : execIn f (st.run call) s = (.ok .next, s')) :
    execIn f (runAll call (st :: rest)) s = execIn f (runAll call rest) s' := by
  rw [runAll, execIn_bind_ok h]

/-- A statement that is not followed by the next one ends all of them. -/
theorem execIn_runAll_ended {st : Statement} {rest : List Statement} {outcome : Outcome}
    (h : execIn f (st.run call) s = (.ok outcome, s')) (hended : outcome ≠ .next) :
    execIn f (runAll call (st :: rest)) s = (.ok outcome, s') := by
  rw [runAll, execIn_bind_ok h]
  cases outcome with
  | next => exact absurd rfl hended
  | _ => rfl

theorem execIn_runAll_error {st : Statement} {rest : List Statement} {fault : Fault}
    (h : execIn f (st.run call) s = (.error fault, s')) :
    execIn f (runAll call (st :: rest)) s = (.error fault, s') := by
  rw [runAll, execIn_bind_error h]

/-- Some statements and then others. -/
theorem execIn_runAll_append (before after : List Statement) :
    execIn f (runAll call (before ++ after)) s =
      match execIn f (runAll call before) s with
      | (.ok .next, s') => execIn f (runAll call after) s'
      | ended => ended := by
  induction before generalizing s with
  | nil => rw [List.nil_append, execIn_runAll_nil]
  | cons st rest ih =>
      rw [List.cons_append]
      cases hrun : execIn f (st.run call) s with
      | mk result s' =>
          cases result with
          | error fault => rw [execIn_runAll_error hrun, execIn_runAll_error hrun]
          | ok outcome =>
              by_cases hended : outcome = .next
              · subst hended
                rw [execIn_runAll_next hrun, execIn_runAll_next hrun, ih]
              · rw [execIn_runAll_ended hrun hended, execIn_runAll_ended hrun hended]
                cases outcome with
                | next => exact absurd rfl hended
                | _ => rfl

/-- Statements that end by themselves are followed by those behind them. -/
theorem execIn_runAll_behind {before after : List Statement}
    (h : execIn f (runAll call before) s = (.ok .next, s')) :
    execIn f (runAll call (before ++ after)) s = execIn f (runAll call after) s' := by
  rw [execIn_runAll_append, h]

/-- A datum that is raised for its own sake. -/
theorem execIn_raise {fault : Fault} (h : execIn f (e.eval call) s = (.ok d, s'))
    (hraise : exec (raiseDatum call d .null) s' = (.error fault, s'')) :
    execIn f ((Statement.raise (some e) none).run call) s = (.error fault, s'') := by
  have hcause : execIn f (pure .null : Step Datum) s' = (.ok .null, s') := rfl
  rw [Statement.run, execIn_bind_ok h]
  simp only
  rw [execIn_bind_ok hcause, execIn_bind_error ((execIn_lift _ _).trans hraise)]

end LalrBackend.Code
