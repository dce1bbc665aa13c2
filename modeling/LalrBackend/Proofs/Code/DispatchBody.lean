import LalrBackend.Proofs.Code.Handing
import LalrBackend.Proofs.Code.Refusal

/-!
# The dispatch of a generated parser

What the two functions of a generated parser do that take an action number to the method of a
production: that of the parser hands the number on to the actions, and that of the actions looks
it up in their table. A number that is in the table is answered by the method that stands there;
anything else is refused, and all that there was before stays as it was.
-/

namespace LalrBackend.Code

open Reduction (internal)

/-! ## The code of the functions -/

/-- The parameters of the function of the actions. -/
def dispatchParameters : List String :=
  ["self", internal "act_num", internal "parser", internal "stack"]

/-- Whether the action number is an integer, and nothing that only amounts to one. -/
def isInteger : Expr :=
  .compare (.call (.name "type") [.name (internal "act_num")]) [.same] [.name "int"]

/-- The method of the action number, if there is one. -/
def lookUp : Statement :=
  .assign [.name "action"]
    (.call (.attribute (.attribute (.name "self") (internal "dispatch")) "get")
      [.name (internal "act_num")])

/-- Whether there is no method. -/
def isNothing : Expr :=
  .compare (.name "action") [.same] [.constant .null]

/-- The refusal of the action number. -/
def refuse : Statement :=
  .raise (some (.call (.name "ParseTableError")
    [.constant (.text "Invalid action number found in internal parse table"),
      .name (internal "act_num")])) none

/-- The body of the function of the actions. -/
def dispatchBody : List Statement := [
  .compute (.constant (.text "Method with the actual generated action code.")),
  .assign [.name "action"] (.constant .null),
  .branch isInteger [lookUp] [],
  .branch isNothing [refuse] [],
  .giveBack (some (.call (.name "action")
    [.name (internal "parser"), .name (internal "stack"),
      .call (.name "len") [.name (internal "stack")]]))]

/-- The parameters of the function of the parser. -/
def forwardParameters : List String :=
  ["self", "act_num", "stack"]

/-- The body of the function of the parser. -/
def forwardBody : List Statement := [
  .compute (.constant (.text "Invoke a user supplied parse action.")),
  .giveBack (some (.call
    (.attribute (.attribute (.name "self") "action_obj") (internal "do_action"))
    [.name "act_num", .name "self", .name "stack"]))]

/-! ## Functions of classes -/

/-- A function of a class of a module that takes its values by position. -/
def functionOf (owner : Nat) (name : String) (parameters : List String)
    (body : List Statement) : Routine :=
  ⟨name, { plain := parameters }, [], body, callKind false body, [], some owner⟩

/-- A cell holds a function of a class. -/
def Store.IsFunction (s : Store) (cell owner : Nat) (name : String) (parameters : List String)
    (body : List Statement) : Prop :=
  ∃ attributes, s.cells[cell]? = some (.routine (functionOf owner name parameters body) attributes)

/-- The frame in which such a function runs. -/
def frameOf (owner : Nat) (parameters : List String) (body : List Statement) (scope : Nat) :
    Frame where
  place := .function
  scope := (localNames parameters body, scope)
  shared := globalsOf body
  around := []
  owner := some owner
  first := parameters.head?

section Functions

variable {s s' : Store} {cell owner depth : Nat} {name : String} {parameters : List String}
  {body : List Statement} {self : Datum} {args : List Datum}

/-- A call of a bound function runs its body, with one call less to go. -/
theorem Store.IsFunction.exec_call (h : s.IsFunction cell owner name parameters body)
    (hkind : callKind false body = .atOnce) (hdistinct : parameters.Nodup)
    (hlength : args.length + 1 = parameters.length) :
    exec (callAt (depth + 1) (.bound self (.cell cell)) args []) s =
      exec (runBody (callAt depth) body (frameOf owner parameters body s.cells.size))
        (s.push (.scope (parameters.zip (self :: args)))) := by
  obtain ⟨attributes, h⟩ := h
  have hparameters : (functionOf owner name parameters body).parameters =
      { plain := parameters } := rfl
  have hatOnce : (functionOf owner name parameters body).kind = .atOnce := hkind
  have hframe : (functionOf owner name parameters body).frameAt s.cells.size =
      frameOf owner parameters body s.cells.size := by
    rw [Routine.frameAt, hatOnce, frameOf]
    simp [functionOf, Parameters.names]
  have hargs : (self :: args).length = parameters.length := hlength
  rw [exec_callAt_bound h, Code.exec_call hatOnce hparameters hdistinct hargs, hframe]
  rfl

/-- A call of a bound function that does not run at once makes an object that may run it later. -/
theorem Store.IsFunction.exec_call_later (h : s.IsFunction cell owner name parameters body)
    (hkind : callKind false body ≠ .atOnce) (hdistinct : parameters.Nodup)
    (hlength : args.length + 1 = parameters.length) :
    ∃ d s', exec (callAt (depth + 1) (.bound self (.cell cell)) args []) s = (.ok d, s') ∧
      s.Grows s' := by
  obtain ⟨attributes, h⟩ := h
  have hbindings : exec ((functionOf owner name parameters body).bindings (self :: args) []) s =
      (.ok (parameters.zip (self :: args)), s) := exec_bindings rfl hdistinct hlength
  have hgrows := s.grows_push (.scope (parameters.zip (self :: args)))
  have hframe : exec ((functionOf owner name parameters body).frame
      (parameters.zip (self :: args))) s =
      (.ok ((functionOf owner name parameters body).frameAt s.cells.size),
        s.push (.scope (parameters.zip (self :: args)))) := rfl
  have hmakes : (functionOf owner name parameters body).kind = callKind false body := rfl
  rw [exec_callAt_bound h, Routine.call, exec_bind_ok hbindings, exec_bind_ok hframe, hmakes]
  cases hlater : callKind false body with
  | atOnce => exact absurd hlater hkind
  | stream => exact ⟨_, _, rfl, hgrows.trans (Store.grows_push _ _)⟩
  | waiting => exact ⟨_, _, rfl, hgrows⟩

/-! ## Names in functions -/

section Names

variable {names : List (String × Datum)} {n : String} {d : Datum}

/-- A name of a function that has a value. -/
theorem execIn_local (hshared : globalsOf body = []) (hlocal : n ∈ localNames parameters body)
    (hd : names.lookup n = some d) :
    execIn (frameOf owner parameters body s.cells.size) (readName n) (s.push (.scope names)) =
      (.ok d, s.push (.scope names)) := by
  refine execIn_readName_local ?_ hlocal (Store.push_new s _) hd
  rw [frameOf, hshared]
  exact List.not_mem_nil

/-- A name of the module, or one that needs no import. -/
theorem execIn_global (hshared : globalsOf body = []) (hlocal : n ∉ localNames parameters body)
    (hname : n ≠ ownerName) (hd : (s.globals.lookup n).or (builtinValue? n) = some d) :
    execIn (frameOf owner parameters body s.cells.size) (readName n) (s.push (.scope names)) =
      (.ok d, s.push (.scope names)) := by
  refine execIn_readName_global ?_ hlocal rfl hname hd
  rw [frameOf, hshared]
  exact List.not_mem_nil

/-- A name of a function gets a value. -/
theorem execIn_bindLocal (hshared : globalsOf body = [])
    (hlocal : n ∈ localNames parameters body) :
    execIn (frameOf owner parameters body s.cells.size) (bindName n d) (s.push (.scope names)) =
      (.ok (), s.push (.scope (setEntry n d names))) := by
  rw [execIn_bindName_local ?_ hlocal (Store.push_new s (.scope names))]
  · rw [frameOf, put_push]
  · rw [frameOf, hshared]
    exact List.not_mem_nil

end Names

end Functions

/-! ## What a program keeps -/

/-- The names that the function of the actions uses mean what they mean in a module that binds
them to nothing else. -/
structure Store.KeepsNames (s : Store) : Prop where
  type : s.globals.lookup "type" = none
  int : s.globals.lookup "int" = none
  len : s.globals.lookup "len" = none
  refusal : s.globals.lookup "ParseTableError" = some (.known refusalType)
  leaves : s.LeavesRefusals

theorem Store.KeepsNames.mono {s s' : Store} (hgrows : s.Grows s') (h : s.KeepsNames) :
    s'.KeepsNames where
  type := by rw [hgrows.globals]; exact h.type
  int := by rw [hgrows.globals]; exact h.int
  len := by rw [hgrows.globals]; exact h.len
  refusal := by rw [hgrows.globals]; exact h.refusal
  leaves := h.leaves.mono hgrows

/-! ## The function of the actions -/

section Dispatch

variable {s : Store} {cell owner actions table depth : Nat} {methods : List Datum}
  {number parser stack : Datum}

/-- The names of the function of the actions, with what they stand for. -/
def dispatchNames (actions : Nat) (number parser stack action : Datum) :
    List (String × Datum) :=
  [("self", .cell actions), (internal "act_num", number), (internal "parser", parser),
    (internal "stack", stack), ("action", action)]

/-- The frame in which the function of the actions runs. -/
def dispatchFrame (owner scope : Nat) : Frame :=
  frameOf owner dispatchParameters dispatchBody scope

/-- The store while the function of the actions runs. -/
def duringDispatch (s : Store) (actions : Nat) (number parser stack action : Datum) : Store :=
  s.push (.scope (dispatchNames actions number parser stack action))

theorem grows_duringDispatch {action : Datum} :
    s.Grows (duringDispatch s actions number parser stack action) :=
  s.grows_push _

/-- The name of the action number stands for the number. -/
theorem execIn_number {call : Call} {action : Datum} :
    execIn (dispatchFrame owner s.cells.size) ((Expr.name (internal "act_num")).eval call)
        (duringDispatch s actions number parser stack action) =
      (.ok number, duringDispatch s actions number parser stack action) :=
  (execIn_eval_name _).trans (execIn_local (by decide) (by decide) rfl)

/-- A call with the action number alone. -/
theorem execIn_callNumber {call : Call} {e : Expr} {d action : Datum}
    (he : execIn (dispatchFrame owner s.cells.size) (e.eval call)
        (duringDispatch s actions number parser stack action) =
      (.ok d, duringDispatch s actions number parser stack action)) :
    execIn (dispatchFrame owner s.cells.size)
        ((Expr.call e [.name (internal "act_num")]).eval call)
        (duringDispatch s actions number parser stack action) =
      exec (call d [number] []) (duringDispatch s actions number parser stack action) :=
  execIn_eval_call he
    (execIn_evalArguments_cons (by rfl) execIn_number execIn_evalArguments_nil) nofun

/-- The function begins without a method for the number. -/
theorem exec_dispatch (hfunction : s.IsFunction cell owner (internal "do_action")
      dispatchParameters dispatchBody) :
    exec (callAt (depth + 1) (.bound (.cell actions) (.cell cell)) [number, parser, stack] []) s =
      exec (runBody (callAt depth) (dispatchBody.drop 2) (dispatchFrame owner s.cells.size))
        (duringDispatch s actions number parser stack .null) := by
  have hbind : execIn (dispatchFrame owner s.cells.size) (bindName "action" .null)
      (s.push (.scope (dispatchParameters.zip [.cell actions, number, parser, stack]))) =
      (.ok (), duringDispatch s actions number parser stack .null) :=
    execIn_bindLocal (by decide) (by decide)
  rw [hfunction.exec_call (by decide) (by decide) rfl]
  exact (exec_runBody_next (execIn_compute (execIn_eval_constant _))).trans
    (exec_runBody_next (execIn_assign (execIn_eval_constant _)
      ((execIn_assign_name _).trans hbind)))

/-- It asks whether the number is of the type of integers. -/
theorem execIn_isInteger (hnames : s.KeepsNames) {type : Datum}
    (htype : exec (typeOf number) (duringDispatch s actions number parser stack .null) =
      (.ok type, duringDispatch s actions number parser stack .null)) :
    execIn (dispatchFrame owner s.cells.size) (isInteger.eval (callAt (depth + 1)))
        (duringDispatch s actions number parser stack .null) =
      (.ok (.bool (type.isSame (.known integerType))),
        duringDispatch s actions number parser stack .null) := by
  have htypeName : (s.globals.lookup "type").or (builtinValue? "type") =
      some (.known typeType) := by
    rw [hnames.type, builtinValue?_type]
    rfl
  have hintName : (s.globals.lookup "int").or (builtinValue? "int") =
      some (.known integerType) := by
    rw [hnames.int, builtinValue?_int]
    rfl
  refine execIn_eval_same ?_ ((execIn_eval_name _).trans
    (execIn_global (by decide) (by decide) (by decide) hintName))
  exact (execIn_callNumber ((execIn_eval_name _).trans
    (execIn_global (by decide) (by decide) (by decide) htypeName))).trans
      (exec_callType.trans htype)

/-- An integer is looked up in the table of the actions. -/
theorem execIn_lookUp (htable : s.HasOwn actions (internal "dispatch") (.cell table))
    (hmethods : s.cells[table]? = some (.table (numbered 0 methods))) {n : Int} :
    execIn (dispatchFrame owner s.cells.size) (lookUp.run (callAt (depth + 1)))
        (duringDispatch s actions (.int n) parser stack .null) =
      (.ok .next, duringDispatch s actions (.int n) parser stack
        ((if n < 0 then none else methods[n.toNat]?).getD .null)) := by
  have hgrows : s.Grows (duringDispatch s actions (.int n) parser stack .null) :=
    grows_duringDispatch
  have hself : execIn (dispatchFrame owner s.cells.size) (readName "self")
      (duringDispatch s actions (.int n) parser stack .null) =
      (.ok (.cell actions), duringDispatch s actions (.int n) parser stack .null) :=
    execIn_local (by decide) (by decide) rfl
  have hdispatch : execIn (dispatchFrame owner s.cells.size)
      ((Expr.attribute (.name "self") (internal "dispatch")).eval (callAt (depth + 1)))
      (duringDispatch s actions (.int n) parser stack .null) =
      (.ok (.cell table), duringDispatch s actions (.int n) parser stack .null) :=
    (execIn_eval_attribute ((execIn_eval_name _).trans hself) (internal "dispatch")).trans
      ((htable.mono hgrows).exec_attributeOf (by decide))
  have hget := (execIn_eval_attribute hdispatch "get").trans
    (exec_attributeOf_get (hgrows.cells hmethods))
  have hvalue := (execIn_callNumber hget).trans (exec_callGet (hgrows.cells hmethods))
  exact execIn_assign hvalue ((execIn_assign_name _).trans
    (execIn_bindLocal (by decide) (by decide)))

/-- Whether the number has a method decides whether it is refused. -/
theorem execIn_isNothing {call : Call} {action : Datum} :
    execIn (dispatchFrame owner s.cells.size) (isNothing.eval call)
        (duringDispatch s actions number parser stack action) =
      (.ok (.bool (action.isSame .null)),
        duringDispatch s actions number parser stack action) :=
  execIn_eval_same ((execIn_eval_name _).trans (execIn_local (by decide) (by decide) rfl))
    (execIn_eval_constant _)

/-- A number without a method is refused. -/
theorem exec_refuse (hnames : s.KeepsNames) :
    exec (runBody (callAt (depth + 2)) (dispatchBody.drop 3)
        (dispatchFrame owner s.cells.size))
        (duringDispatch s actions number parser stack .null) =
      (.error (.raised (.cell (duringDispatch s actions number parser stack .null).cells.size)),
        (duringDispatch s actions number parser stack .null).push
          (refusalCell (.text "Invalid action number found in internal parse table") number)) := by
  have hgrows : s.Grows (duringDispatch s actions number parser stack .null) :=
    grows_duringDispatch
  have htypeName : (s.globals.lookup "ParseTableError").or (builtinValue? "ParseTableError") =
      some (.known refusalType) := by
    rw [hnames.refusal]
    rfl
  have hmade : execIn (dispatchFrame owner s.cells.size)
      ((Expr.call (.name "ParseTableError")
        [.constant (.text "Invalid action number found in internal parse table"),
          .name (internal "act_num")]).eval (callAt (depth + 2)))
      (duringDispatch s actions number parser stack .null) =
      (.ok (.cell (duringDispatch s actions number parser stack .null).cells.size),
        (duringDispatch s actions number parser stack .null).push
          (refusalCell (.text "Invalid action number found in internal parse table") number)) := by
    have hargs : execIn (dispatchFrame owner s.cells.size)
        (evalArguments (callAt (depth + 2))
          [.constant (.text "Invalid action number found in internal parse table"),
            .name (internal "act_num")])
        (duringDispatch s actions number parser stack .null) =
        (.ok ([.text "Invalid action number found in internal parse table", number], []),
          duringDispatch s actions number parser stack .null) :=
      execIn_evalArguments_cons (by rfl)
        (execIn_eval_constant (.text "Invalid action number found in internal parse table"))
        (execIn_evalArguments_cons (by rfl) execIn_number execIn_evalArguments_nil)
    refine (execIn_eval_call ((execIn_eval_name _).trans
      (execIn_global (by decide) (by decide) (by decide) htypeName)) hargs nofun).trans ?_
    exact exec_callRefusal (hnames.leaves.mono hgrows)
  have hraise := execIn_raise hmade (exec_raiseRefusal (Store.push_new _ _))
  exact exec_runBody_error ((execIn_branch execIn_isNothing).trans (execIn_runAll_error hraise))

/-- A method that was found is called with the parser, the stack and its length. -/
theorem exec_answer (hnames : s.KeepsNames) {list : Nat} {items : List Datum} {action : Datum}
    (hlist : s.cells[list]? = some (.list items)) (haction : action.isSame .null = false) :
    exec (runBody (callAt (depth + 1)) (dispatchBody.drop 3) (dispatchFrame owner s.cells.size))
        (duringDispatch s actions number parser (.cell list) action) =
      exec (callAt (depth + 1) action [parser, .cell list, .int items.length] [])
        (duringDispatch s actions number parser (.cell list) action) := by
  have hgrows : s.Grows (duringDispatch s actions number parser (.cell list) action) :=
    grows_duringDispatch
  have hlengthName : (s.globals.lookup "len").or (builtinValue? "len") =
      some (.known lengthFunction) := by
    rw [hnames.len, builtinValue?_len]
    rfl
  have hread : ∀ n d, n ∈ localNames dispatchParameters dispatchBody →
      (dispatchNames actions number parser (.cell list) action).lookup n = some d →
      execIn (dispatchFrame owner s.cells.size) ((Expr.name n).eval (callAt (depth + 1)))
          (duringDispatch s actions number parser (.cell list) action) =
        (.ok d, duringDispatch s actions number parser (.cell list) action) := by
    intro n d hlocal hd
    exact (execIn_eval_name n).trans (execIn_local (by decide) hlocal hd)
  have hfound := hread "action" action (by decide) rfl
  have hparser := hread (internal "parser") parser (by decide) rfl
  have hstack := hread (internal "stack") (.cell list) (by decide) rfl
  have hlength : execIn (dispatchFrame owner s.cells.size)
      ((Expr.call (.name "len") [.name (internal "stack")]).eval (callAt (depth + 1)))
      (duringDispatch s actions number parser (.cell list) action) =
      (.ok (.int items.length), duringDispatch s actions number parser (.cell list) action) :=
    (execIn_eval_call ((execIn_eval_name _).trans
      (execIn_global (by decide) (by decide) (by decide) hlengthName))
      (execIn_evalArguments_cons (by rfl) hstack execIn_evalArguments_nil) nofun).trans
        (exec_callLength (hgrows.cells hlist))
  have hargs := execIn_evalArguments_cons (by rfl) hparser
    (execIn_evalArguments_cons (by rfl) hstack
      (execIn_evalArguments_cons (by rfl) hlength execIn_evalArguments_nil))
  have hskip : execIn (dispatchFrame owner s.cells.size)
      ((Statement.branch isNothing [refuse] []).run (callAt (depth + 1)))
      (duringDispatch s actions number parser (.cell list) action) =
      (.ok .next, duringDispatch s actions number parser (.cell list) action) := by
    rw [execIn_branch execIn_isNothing, haction]
    exact execIn_runAll_nil
  exact (exec_runBody_next hskip).trans ((exec_runBody_giveBack _).trans
    (execIn_eval_call hfound hargs nofun))

/-- **What the function of the actions does.** With what is no integer of a method, it raises a
refusal that carries it, and all that there was before stays as it was. -/
theorem exec_dispatch_refused (depth : Nat) (parser stack : Datum) (hfunction : s.IsFunction cell owner (internal "do_action")
      dispatchParameters dispatchBody) (hnames : s.KeepsNames)
    (htable : s.HasOwn actions (internal "dispatch") (.cell table))
    (hmethods : s.cells[table]? = some (.table (numbered 0 methods))) {v : Value}
    (hnumber : s.StandsFor v number) (hv : ∀ i < methods.length, v ≠ .int (i : Nat)) :
    ∃ s' n, exec (callAt (depth + 3) (.bound (.cell actions) (.cell cell))
        [number, parser, stack] []) s = (.error (.raised (.cell n)), s') ∧ s.Grows s' ∧
      s'.cells[n]? = some (refusalCell
        (.text "Invalid action number found in internal parse table") number) := by
  have hgrows : s.Grows (duringDispatch s actions number parser stack .null) :=
    grows_duringDispatch
  obtain ⟨type, htype, hinteger⟩ := (hnumber.mono hgrows).exec_typeOf
  refine ⟨_, _, ?_, hgrows.trans (Store.grows_push _ _), Store.push_new _ _⟩
  rw [exec_dispatch hfunction, ← exec_refuse hnames]
  refine exec_runBody_next ((execIn_branch (execIn_isInteger hnames htype)).trans ?_)
  cases hsame : type.isSame (.known integerType) with
  | false => exact execIn_runAll_nil
  | true =>
      -- An integer that has no method is looked up, and nothing is found.
      obtain ⟨n, rfl⟩ := hinteger.mp hsame
      obtain rfl : number = .int n := hnumber
      have hnone : (if n < 0 then none else methods[n.toNat]?) = none := by
        split
        · rfl
        · rename_i hnonneg
          rw [List.getElem?_eq_none]
          by_contra hlt
          refine hv n.toNat (by omega) ?_
          rw [Int.toNat_of_nonneg (by omega)]
      have hlookUp : execIn (dispatchFrame owner s.cells.size) (lookUp.run (callAt (depth + 2)))
          (duringDispatch s actions (.int n) parser stack .null) =
          (.ok .next, duringDispatch s actions (.int n) parser stack .null) := by
        rw [execIn_lookUp htable hmethods, hnone]
        rfl
      exact (execIn_runAll_next hlookUp).trans execIn_runAll_nil

/-- With the number of a method it calls that method and nothing else, and gives back what the
method gives. -/
theorem exec_dispatch_answered (depth : Nat) (parser : Datum) (hfunction : s.IsFunction cell owner (internal "do_action")
      dispatchParameters dispatchBody) (hnames : s.KeepsNames)
    (htable : s.HasOwn actions (internal "dispatch") (.cell table))
    (hmethods : s.cells[table]? = some (.table (numbered 0 methods))) {i : Nat} {method : Datum}
    (hmethod : methods[i]? = some method) (hsomething : method.isSame .null = false)
    {list : Nat} {items : List Datum} (hlist : s.cells[list]? = some (.list items)) :
    ∃ s', s.Grows s' ∧
      exec (callAt (depth + 2) (.bound (.cell actions) (.cell cell))
          [.int i, parser, .cell list] []) s =
        exec (callAt (depth + 1) method [parser, .cell list, .int items.length] []) s' := by
  have hgrows : s.Grows (duringDispatch s actions (.int i) parser (.cell list) .null) :=
    grows_duringDispatch
  have htype : exec (typeOf (.int i)) (duringDispatch s actions (.int i) parser (.cell list)
      .null) = (.ok (.known integerType),
        duringDispatch s actions (.int i) parser (.cell list) .null) := by
    rw [← builtinType_int]
    rfl
  have hfound : (if (i : Int) < 0 then none else methods[(i : Int).toNat]?) = some method := by
    rw [if_neg (by omega), Int.toNat_natCast, hmethod]
  have hlookUp : execIn (dispatchFrame owner s.cells.size) (lookUp.run (callAt (depth + 1)))
      (duringDispatch s actions (.int i) parser (.cell list) .null) =
      (.ok .next, duringDispatch s actions (.int i) parser (.cell list) method) := by
    rw [execIn_lookUp htable hmethods, hfound, Option.getD_some]
  refine ⟨duringDispatch s actions (.int i) parser (.cell list) method,
    grows_duringDispatch, ?_⟩
  rw [exec_dispatch hfunction]
  refine (exec_runBody_next ((execIn_branch (execIn_isInteger hnames htype)).trans ?_)).trans
    (exec_answer hnames hlist hsomething)
  exact (execIn_runAll_next hlookUp).trans execIn_runAll_nil

end Dispatch

end LalrBackend.Code
