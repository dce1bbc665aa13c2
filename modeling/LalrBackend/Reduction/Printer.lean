import LalrBackend.Reduction.Body

/-!
# Printed reduction bodies

The line that each statement of a reduction body is written as. Names of the generated code begin
with a mark that keeps them apart from the user's.
-/

namespace LalrBackend.Reduction

open Text

/-- A name of the generated code. -/
def internal (name : String) : String :=
  "CUP_" ++ name

/-- The name of a variable for a symbol of the stack. -/
def Slot.name : Slot → String
  | .right => internal "right"
  | .left => internal "left"
  | .labelled label => internal ("sym" ++ label)

/-- The expression for the symbol at a distance from the top of the stack. -/
def stackAccess (c : Config) (distance : Int) : String :=
  let access :=
    if distance = 1 then internal "stack" ++ "[-1]"
    else internal "stack" ++ "[" ++ internal "size" ++ " - " ++ decimal distance ++ "]"
  if c.genericStack then access else "cast(Symbol, " ++ access ++ ")"

/-- The name of the method that reduces by the production of an index. -/
def methodName (index : Int) : String :=
  internal ("act_" ++ decimal index)

/-- The arguments that give the extent and the value of a new symbol. -/
def argumentText (extent : Option (Slot × Slot)) (withResult : Bool) : String :=
  (match extent with
    | some (first, last) => ", " ++ first.name ++ ", " ++ last.name
    | none => "") ++
  (if withResult then (if extent.isSome then ", RESULT" else ", value=RESULT") else "")

/-- The line of a statement. -/
def Statement.line (c : Config) : Statement → String
  | .startResult valueType distance =>
    let value := match distance with
      | none => "None"
      | some d => stackAccess c d ++ ".value"
    "RESULT: " ++ valueType ++ " = " ++ value
  | .bindSlot slot distance => slot.name ++ " = " ++ stackAccess c distance
  | .bindLeft label slot => label ++ "left = " ++ slot.name ++ ".left"
  | .bindRight label slot => label ++ "right = " ++ slot.name ++ ".right"
  | .bindValue label valueType slot => label ++ ": " ++ valueType ++ " = " ++ slot.name ++ ".value"
  | .user line => line
  | .construct name index extent withResult =>
    internal "result" ++ " = " ++ internal "parser" ++ ".get_symbol_factory().new_symbol(" ++
      quoted name ++ ", " ++ decimal index ++ argumentText extent withResult ++ ")"
  | .announce => "# ACCEPT"
  | .accept => internal "parser" ++ ".done_parsing()"
  | .finish => "return " ++ internal "result"

/-- The lines of a body. -/
def Body.lines (c : Config) (b : Body) : List String :=
  b.statements.map (Statement.line c)

end LalrBackend.Reduction
