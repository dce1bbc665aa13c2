import LalrBackend.Code.Failure
import LalrBackend.Proofs.Code.Builtins

/-!
# Refusals

What happens when a generated function refuses an action number: an object is made of the type
that the runtime has for that, with the wording and the number, and it is raised. Whoever asked
for the run is told the wording and the number.
-/

namespace LalrBackend.Code

/-- The type of what is raised for an action number that belongs to no production. -/
def refusalType : Known :=
  ⟨runtimePath, "ParseTableError", .type, [.settable, .base, .raised]⟩

/-- What starts an object of this type. -/
def refusalStart : Known :=
  ⟨runtimePath, "ParseTableError.__init__", .routine, [.settable]⟩

/-- The object that is raised, with its wording and the action number. -/
def refusalCell (message number : Datum) : Cell :=
  .object (.known refusalType) [("message", message), ("act_num", number)]

/-- Nothing was set on the type of refusals. -/
def Store.LeavesRefusals (s : Store) : Prop :=
  ∀ name, s.marks.lookup (runtimePath, "ParseTableError", name) = none

variable {s s' : Store} {message number : Datum} {depth : Nat}

theorem Store.LeavesRefusals.mono (hgrows : s.Grows s') (h : s.LeavesRefusals) :
    s'.LeavesRefusals := by
  intro name
  rw [hgrows.marks]
  exact h name

theorem put_push (s : Store) (c c' : Cell) : (s.push c).put s.cells.size c' = s.push c' := by
  have hcells : (s.cells.push c).setIfInBounds s.cells.size c' = s.cells.push c' := by
    apply Array.ext_getElem?
    intro i
    rw [Array.getElem?_setIfInBounds, Array.getElem?_push, Array.getElem?_push, Array.size_push]
    by_cases hi : i = s.cells.size
    · simp [hi]
    · rw [if_neg (Ne.symm hi), if_neg hi, if_neg hi]
  rw [Store.put, Store.push, hcells]
  rfl

/-! ## Making a refusal -/

theorem member?_refusal (h : s.LeavesRefusals) (name : String) (fuel : Nat) :
    s.member? name (fuel + 1) (.known refusalType) =
      (runtimeMember? refusalType name).map .known := by
  have hmark : s.marks.lookup (refusalType.path, refusalType.name, name) = none := h name
  rw [Store.member?, hmark, Option.none_or]
  simp

/-- An attribute that the type of an object says nothing about is set on the object. -/
theorem exec_setOnRefusal {n : Nat} {own : List (String × Datum)} {name : String} {v : Datum}
    (h : s.LeavesRefusals) (hobject : s.cells[n]? = some (.object (.known refusalType) own))
    (hname : isSpecial name = false) (hcalled : name ≠ calledName)
    (hmember : runtimeMember? refusalType name = none) :
    exec (setAttribute (.cell n) name v) s =
      (.ok (), s.put n (.object (.known refusalType) (setEntry name v own))) := by
  rw [exec_setAttribute hname hcalled hobject, depthLimit, member?_refusal h, hmember]
  rfl

theorem callRuntime_refusalStart (call : Call) (args : List Datum) (named : List (String × Datum)) :
    callRuntime call refusalStart.name args named = (do
      let args ← takeArguments [("self", none), ("message", none), ("act_num", some .null)]
        args named
      setAttribute (argument args 0) "message" (argument args 1)
      setAttribute (argument args 0) "act_num" (argument args 2)
      return .null) := by
  rfl

theorem callKnown_refusalType (call : Call) (args : List Datum)
    (named : List (String × Datum)) : callKnown call refusalType args named =
      instantiate call (.known refusalType) args named := by
  have hpath : refusalType.path = runtimePath := rfl
  rw [callKnown, if_neg (by decide), if_neg (by decide), if_pos (Or.inl hpath)]

/-- A refusal is made with its wording and the action number, and nothing else changes. -/
theorem exec_callRefusal (h : s.LeavesRefusals) :
    exec (callAt (depth + 2) (.known refusalType) [message, number] []) s =
      (.ok (.cell s.cells.size), s.push (refusalCell message number)) := by
  have hempty := Store.push_new s (.object (.known refusalType) [])
  have hleaves : ∀ own, (s.push (.object (.known refusalType) own)).LeavesRefusals := fun own =>
    h.mono (s.grows_push _)
  have hstart : exec (classMember? (.known refusalType) startName)
      (s.push (.object (.known refusalType) [])) =
      (.ok (some (.known refusalStart)), s.push (.object (.known refusalType) [])) := by
    rw [exec_classMember?, depthLimit, member?_refusal (hleaves [])]
    rfl
  have hmessage : exec (setAttribute (.cell s.cells.size) "message" message)
      (s.push (.object (.known refusalType) [])) =
      (.ok (), s.push (.object (.known refusalType) [("message", message)])) := by
    rw [exec_setOnRefusal (hleaves []) hempty (by decide) (by decide) (by decide +kernel),
      put_push]
    rfl
  have hnumber : exec (setAttribute (.cell s.cells.size) "act_num" number)
      (s.push (.object (.known refusalType) [("message", message)])) =
      (.ok (), s.push (refusalCell message number)) := by
    rw [exec_setOnRefusal (hleaves _) (Store.push_new s _) (by decide) (by decide)
      (by decide +kernel), put_push]
    rfl
  have hinit : exec (callAt (depth + 1) (.bound (.cell s.cells.size) (.known refusalStart))
      [message, number] []) (s.push (.object (.known refusalType) [])) =
      (.ok .null, s.push (refusalCell message number)) := by
    rw [exec_callAt_boundKnown (ne_of_path (by decide)), callKnown, if_neg (by decide),
      if_pos ⟨rfl, rfl⟩, callRuntime_refusalStart]
    have hargs : exec (takeArguments [("self", none), ("message", none), ("act_num", some .null)]
        [.cell s.cells.size, message, number] []) (s.push (.object (.known refusalType) [])) =
        (.ok [.cell s.cells.size, message, number],
          s.push (.object (.known refusalType) [])) := rfl
    rw [exec_bind_ok hargs]
    simp only [argument, List.getD_cons_zero, List.getD_cons_succ]
    rw [exec_bind_ok hmessage, exec_bind_ok hnumber, exec_pure]
  have hbind : exec (bindMember (.cell s.cells.size) (.known refusalStart))
      (s.push (.object (.known refusalType) [])) =
      (.ok (.bound (.cell s.cells.size) (.known refusalStart)),
        s.push (.object (.known refusalType) [])) := by
    rw [bindMember, if_pos (by decide), exec_pure]
  rw [exec_callAt_known (ne_of_path (by decide)), callKnown_refusalType, instantiate,
    exec_bind_ok (exec_makeCell _ _), exec_bind_ok hstart]
  simp only
  rw [exec_bind_ok hbind, exec_bind_ok hinit, exec_pure]

/-! ## Raising it -/

theorem foreignBases_refusalType (s : Store) :
    s.foreignBases depthLimit (.known refusalType) = [refusalType] := by
  rw [depthLimit, Store.foreignBases]
  simp

theorem foreignBases_object {n : Nat} {cls : Datum} {own : List (String × Datum)}
    (hobject : s.cells[n]? = some (.object cls own)) :
    s.foreignBases depthLimit (.cell n) = [] := by
  rw [depthLimit, Store.foreignBases, hobject]

/-- A refusal is raised as it is. -/
theorem exec_raiseRefusal {n : Nat} {call : Call}
    (hobject : s.cells[n]? = some (refusalCell message number)) :
    exec (raiseDatum call (.cell n) .null) s = (.error (.raised (.cell n)), s) := by
  have hname : exec (raisedName? (.cell n)) s = (.ok none, s) := by
    rw [raisedName?, exec_bind_ok (exec_get s), foreignBases_object hobject]
    rfl
  have htype : exec (typeOf (.cell n)) s = (.ok (.known refusalType), s) := by
    rw [typeOf, exec_bind_ok (exec_cellAt hobject)]
    rfl
  have htypeName : exec (raisedName? (.known refusalType)) s =
      (.ok (some refusalType.name), s) := by
    rw [raisedName?, exec_bind_ok (exec_get s), foreignBases_refusalType]
    rfl
  have hexception : exec (exceptionOf call (.cell n)) s = (.ok (.cell n), s) := by
    rw [exceptionOf, exec_bind_ok hname, exec_bind_ok htype, exec_bind_ok htypeName]
    rfl
  rw [raiseDatum, exec_bind_ok hexception]
  rfl

/-- Who asked for the run is told the wording and the action number. -/
theorem exec_failure_refusal {n : Nat} {wording : String} (h : s.LeavesRefusals)
    (hobject : s.cells[n]? = some (refusalCell (.text wording) number)) :
    exec (Fault.raised (.cell n)).failure s =
      (.ok (.refused wording (s.toValue depthLimit number)), s) := by
  have htype : exec (typeOf (.cell n)) s = (.ok (.known refusalType), s) := by
    rw [typeOf, exec_bind_ok (exec_cellAt hobject)]
    rfl
  have hbelow : exec (isObjectOf "ParseTableError" (.cell n)) s = (.ok true, s) := by
    rw [isObjectOf, exec_bind_ok (exec_get s), exec_bind_ok htype]
    rfl
  have hattribute : ∀ name d, isSpecial name = false → runtimeMember? refusalType name = none →
      [("message", Datum.text wording), ("act_num", number)].lookup name = some d →
      exec (attributeOf (.cell n) name) s = (.ok d, s) := by
    intro name d hname hmember hd
    rw [exec_attributeOf_object hname hobject, objectAttribute,
      exec_bind_ok (exec_classMember? _ _ _), depthLimit, member?_refusal h, hmember]
    simp only [Option.map_none, isComputed, Bool.false_eq_true, if_false, hd]
    rfl
  have hmessage := hattribute "message" (.text wording) (by decide) (by decide +kernel) rfl
  have hnumber := hattribute "act_num" number (by decide) (by decide +kernel) rfl
  have htext : exec (handOut (.text wording)) s = (.ok (.text wording), s) := rfl
  have hout : exec (handOut number) s = (.ok (s.toValue depthLimit number), s) := rfl
  rw [Fault.failure, exec_bind_ok hbelow, if_pos rfl, exec_bind_ok hmessage,
    exec_bind_ok htext, exec_bind_ok hnumber, exec_bind_ok hout]
  rfl

end LalrBackend.Code
