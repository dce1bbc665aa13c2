import LalrBackend.Position
import LalrBackend.Reduction.Assignment
import LalrBackend.Reduction.Printer
import LalrBackend.StackSymbol

/-!
# Running reductions

What the method that reduces by a production does with the parse stack. It binds names one after the
other, first those for the symbols that it replaces, then those of the user's code, and gives back
the new symbol.
-/

namespace LalrBackend.Reduction

/-- Why a reduction fails: the stack is too short, a value lacks a part that only symbols have, a
name is read that is bound nowhere or only later, or an operation takes no such values. -/
inductive Fault where
  | noSlot
  | noPart
  | unbound
  | unassigned
  | typeMismatch
  deriving Repr, DecidableEq

/-- The names that are bound, the last one first. -/
abbrev Environment := List (String × Value)

/-- A reduction in its parts: what comes before the user's code, that code, and what comes after
it. -/
structure Method where
  before : List Statement
  code : List Assignment
  after : List Statement
  deriving Repr

/-- The name of the result. -/
def resultName : String := "RESULT"

/-- The name of the new symbol. -/
def symbolName : String := internal "result"

/-- A thing that there may be, or a failure. -/
def orFail {α : Type} (fault : Fault) (a : Option α) : Except Fault α :=
  match a with
  | some a => .ok a
  | none => .error fault

/-- The names that a statement of a reduction binds. -/
def Statement.bound : Statement → List String
  | .startResult .. => [resultName]
  | .bindSlot slot _ => [slot.name]
  | .bindLeft label _ => [label ++ "left"]
  | .bindRight label _ => [label ++ "right"]
  | .bindValue label _ _ => [label]
  | .construct .. => [symbolName]
  | _ => []

/-- The names that a reduction binds somewhere. -/
def Method.bound (m : Method) : List String :=
  m.before.flatMap Statement.bound ++ m.code.flatMap (·.targets) ++
    m.after.flatMap Statement.bound

/-- The value of a name. One that is bound nowhere is told apart from one that is bound later. -/
def valueOf (bound : List String) (env : Environment) (name : String) : Except Fault Value :=
  match env.lookup name with
  | some v => .ok v
  | none => .error (if name ∈ bound then .unassigned else .unbound)

mutual

/-- The value of a term. -/
def Term.eval (bound : List String) (env : Environment) : Term → Except Fault Value
  | .name n => valueOf bound env n
  | .constant v => .ok v
  | .list items => do return .list (← evalAll bound env items)
  | .negative t => do
    let n ← orFail .typeMismatch (← t.eval bound env).integer?
    return .int (-n)
  | .sum a b => do
    let v ← a.eval bound env
    orFail .typeMismatch (v.add? (← b.eval bound env))
  | .difference a b => do
    let v ← a.eval bound env
    orFail .typeMismatch (v.sub? (← b.eval bound env))
  | .product a b => do
    let v ← a.eval bound env
    orFail .typeMismatch (v.mul? (← b.eval bound env))

/-- The values of terms. -/
def evalAll (bound : List String) (env : Environment) : List Term → Except Fault (List Value)
  | [] => .ok []
  | t :: ts => do
    let v ← t.eval bound env
    return v :: (← evalAll bound env ts)

end

/-- Runs an assignment. -/
def Assignment.run (bound : List String) (env : Environment) (a : Assignment) :
    Except Fault Environment := do
  let v ← a.term.eval bound env
  return a.targets.foldl (fun env name => (name, v) :: env) env

/-- The value on the stack at a distance from behind its end. A distance beyond its bottom counts
from its end again, as far as there are values. -/
def atDistance (stack : List Value) (distance : Int) : Except Fault Value :=
  let index := if distance = 1 then -1 else stack.length - distance
  orFail .noSlot ((position? stack.length index).bind (stack[·]?))

/-- A part of the symbol that a slot holds. -/
def partOf (bound : List String) (env : Environment) (slot : Slot) (part : StackSymbol → Value) :
    Except Fault Value := do
  let v ← valueOf bound env slot.name
  return part (← orFail .noPart v.symbol?)

/-- The ends between which a new symbol extends; there are none if positions are not tracked. -/
def endsOf (bound : List String) (env : Environment) (extent : Option (Slot × Slot)) :
    Except Fault (Value × Value) :=
  match extent with
  | none => .ok (.null, .null)
  | some (first, last) => do
    let v ← valueOf bound env first.name
    return (v, ← valueOf bound env last.name)

/-- Runs a statement of a reduction. -/
def Statement.run (bound : List String) (stack : List Value) (env : Environment) :
    Statement → Except Fault Environment
  | .startResult _ none => .ok ((resultName, .null) :: env)
  | .startResult _ (some distance) => do
    let s ← orFail .noPart (← atDistance stack distance).symbol?
    return (resultName, s.value) :: env
  | .bindSlot slot distance => do return (slot.name, ← atDistance stack distance) :: env
  | .bindLeft label slot => do
    return (label ++ "left", ← partOf bound env slot (·.left)) :: env
  | .bindRight label slot => do
    return (label ++ "right", ← partOf bound env slot (·.right)) :: env
  | .bindValue label _ slot => do return (label, ← partOf bound env slot (·.value)) :: env
  | .construct name index extent withResult => do
    let (first, last) ← endsOf bound env extent
    let value ← if withResult then valueOf bound env resultName else .ok .null
    let s ← orFail .noPart (Value.symbolBetween? (.text name) (.int index) first last value)
    return (symbolName, s) :: env
  | .user _ => .ok env
  | .announce => .ok env
  | .accept => .ok env
  | .finish => .ok env

/-- Whether a reduction accepts the parse. -/
def Method.accepts (m : Method) : Bool :=
  m.after.contains .accept

/-- Runs a reduction: the new symbol. -/
def Method.run (m : Method) (stack : List Value) : Except Fault Value := do
  let env ← m.before.foldlM (Statement.run m.bound stack) []
  let env ← m.code.foldlM (Assignment.run m.bound) env
  let env ← m.after.foldlM (Statement.run m.bound stack) env
  valueOf m.bound env symbolName

end LalrBackend.Reduction
