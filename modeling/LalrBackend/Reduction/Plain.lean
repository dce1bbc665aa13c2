import LalrBackend.Code.Scope
import LalrBackend.Code.Soundness
import LalrBackend.Reduction.Run

/-!
# Plain reductions

When a reduction body can be run without reading its text: its labels are names that do not meet
those of the generated code, its types are expressions, and the user's code only computes.
-/

namespace LalrBackend.Reduction

open Code

/-- The names of the generated code that do not begin with its mark. -/
def reservedNames : List String :=
  ["self", "cast", "Symbol"]

/-- Whether a spelling is a name that is written only so and does not meet generated ones. -/
def isPlainName (name : String) : Bool :=
  isName name && nameOf name == name && !name.startsWith "__" && !name.startsWith (internal "") &&
    !(name ∈ reservedNames)

/-- Whether an expression is not nested deep and has no effect on the names around it. -/
def isQuiet (e : Expr) : Bool :=
  e.nesting ≤ mostLevels && e.binds.isEmpty && !e.yields && !e.waits && e.keepsScope { place := .function }

/-- Whether a type is an expression that stands on one line and has no effect. -/
def isPlainType (valueType : String) : Bool :=
  isOneLine valueType && !('#' ∈ valueType.toList) &&
    match linesOf valueType with
    | [line] =>
      match readOne? line.tokens with
      | some (e, []) => isQuiet e
      | _ => false
    | _ => false

/-- Whether a statement is what its line says. -/
def Statement.isPlain : Statement → Bool
  | .startResult valueType _ => isPlainType valueType
  | .bindSlot (.labelled label) _ => isPlainName label
  | .bindLeft label _ => isPlainName label
  | .bindRight label _ => isPlainName label
  | .bindValue label valueType _ => isPlainName label && isPlainType valueType
  | _ => true

/-- Whether an assignment gives values to plain names and reads no names but plain ones; those that
are not bound by the reduction may not be taken outside of it. -/
def Assignment.isPlain (bound : List String) (isTaken : String → Bool) (a : Assignment) : Bool :=
  a.targets.all isPlainName &&
    a.term.names.all fun n => isPlainName n && (n ∈ bound || !isTaken n)

/-- The reduction that a body stands for, if it is plain. -/
def Body.method? (isTaken : String → Bool) (b : Body) : Option Method := do
  let code ← b.userLines.mapM assignmentsOn?
  let m : Method := ⟨b.start ++ b.bindings, code.flatten, b.extentBindings ++ b.ending⟩
  if m.before.all Statement.isPlain && m.after.all Statement.isPlain &&
      m.code.all (Assignment.isPlain m.bound isTaken) then
    some m
  else none

end LalrBackend.Reduction
