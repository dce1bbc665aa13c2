import LalrBackend.Code.Nesting
import LalrBackend.Code.SimpleStatement
import LalrBackend.Value

/-!
# Assignments in reductions

The user's code that a reduction runs, where it only computes: each statement gives the value of a
term to names. A term is made of names, constants and lists by signs, sums, differences and
products.
-/

namespace LalrBackend.Reduction

open Code (Expr Token)

/-- A term. -/
inductive Term where
  | name (name : String)
  | constant (v : Value)
  | list (items : List Term)
  | negative (t : Term)
  | sum (a b : Term)
  | difference (a b : Term)
  | product (a b : Term)
  deriving Repr

/-- A statement that gives the value of a term to names. -/
structure Assignment where
  targets : List String
  term : Term
  deriving Repr

/-- The value of a constant that terms may hold. -/
def constantValue? : Code.Constant → Option Value
  | .null => some .null
  | .bool b => some (.bool b)
  | .int n => some (.int n)
  | .text s => some (.text s)
  | _ => none

mutual

/-- The term that an expression is. -/
def Term.ofExpr? : Expr → Option Term
  | .name n => some (.name n)
  | .constant c => (constantValue? c).map .constant
  | .list items => (Term.ofExprs? items).map .list
  | .sign .minus e => (Term.ofExpr? e).map .negative
  | .binary .add a b => do return .sum (← Term.ofExpr? a) (← Term.ofExpr? b)
  | .binary .sub a b => do return .difference (← Term.ofExpr? a) (← Term.ofExpr? b)
  | .binary .mul a b => do return .product (← Term.ofExpr? a) (← Term.ofExpr? b)
  | _ => none

/-- The terms that expressions are. -/
def Term.ofExprs? : List Expr → Option (List Term)
  | [] => some []
  | e :: es => do return (← Term.ofExpr? e) :: (← Term.ofExprs? es)

end

mutual

/-- The names in a term. -/
def Term.names : Term → List String
  | .name n => [n]
  | .constant _ => []
  | .list items => namesOf items
  | .negative t => t.names
  | .sum a b => a.names ++ b.names
  | .difference a b => a.names ++ b.names
  | .product a b => a.names ++ b.names

/-- The names in terms. -/
def namesOf : List Term → List String
  | [] => []
  | t :: ts => t.names ++ namesOf ts

end

/-- The name that a target is. -/
def targetName? : Expr → Option String
  | .name n => some n
  | _ => none

/-- How many levels a term may have that is computed without being run as code. -/
def mostLevels : Nat := 1000

/-- The assignment that a statement is. -/
def Assignment.ofStatement? : Code.Statement → Option Assignment
  | .assign targets e =>
    if e.nesting ≤ mostLevels then do
      return ⟨← targets.mapM targetName?, ← Term.ofExpr? e⟩
    else none
  | _ => none

/-- Whether code stands on one line and joins no other. -/
def isOneLine (code : String) : Bool :=
  code.toList.all fun c => c != '\n' && c != '\r' && c != '\\'

/-- Whether code begins at the margin. -/
def isAtMargin (code : String) : Bool :=
  match code.toList.head? with
  | some c => !(c == ' ' || c == '\t' || c == '\x0c')
  | none => true

/-- The assignments on a line of code. -/
def assignmentsOn? (line : String) : Option (List Assignment) :=
  if isOneLine line then
    match Code.linesOf line with
    | [] => some []
    | [l] =>
      if isAtMargin line then
        (Code.readStatements? l.tokens).bind fun ss => ss.mapM Assignment.ofStatement?
      else none
    | _ => none
  else none

end LalrBackend.Reduction
