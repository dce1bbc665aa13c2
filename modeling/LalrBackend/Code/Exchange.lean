import LalrBackend.Code.Attribute

/-!
# Data and values

Running code is given values and gives values back. A value that can change becomes a cell when it
is handed in; a datum is looked through when it is handed out, down to a depth that no answer
reaches.
-/

namespace LalrBackend.Code

/-- The attributes of a symbol in the order of its parts. -/
def symbolParts : List String :=
  ["sym", "value", "left", "right", "name"]

/-- Makes an object of a type that generated parsers are based on. -/
def makeObject (type : String) (members : List (String × Datum)) : Machine Datum :=
  makeCell (.object (.known (runtimeType type)) members)

/-- Makes a symbol. -/
def makeSymbol (sym value left right name : Datum) : Machine Datum :=
  makeObject "Symbol" (symbolParts.zip [sym, value, left, right, name])

mutual

/-- Hands a value in. -/
def ofValue : Value → Machine Datum
  | .null => return .null
  | .bool b => return .bool b
  | .int n => return .int n
  | .member n shown => return .member n shown
  | .real x => return .real x
  | .text s => return .text s
  | .list items => do makeList (← ofValues items)
  | .tuple items => do return .tuple (← ofValues items)
  | .symbol sym value left right name => do
    makeSymbol (← ofValue sym) (← ofValue value) (← ofValue left) (← ofValue right)
      (← ofValue name)
  | .other name => return .opaqueOf name

/-- Hands values in. -/
def ofValues : List Value → Machine (List Datum)
  | [] => return []
  | v :: vs => do return (← ofValue v) :: (← ofValues vs)

end

/-- What a datum is called that is no plain value. -/
def Store.nameOf (s : Store) : Datum → String
  | .known k => k.name
  | .bound _ _ => "bound method"
  | .above _ _ => "super"
  | .cell n =>
    match s.cells[n]? with
    | some (.type name _ _) => name
    | some (.routine r _) => r.name
    | some (.object (.cell m) _) =>
      match s.cells[m]? with
      | some (.type name _ _) => name
      | _ => "object"
    | some (.object (.known k) _) => k.name
    | _ => "object"
  | _ => "object"

/-- Hands a datum out. -/
def Store.toValue (s : Store) : Nat → Datum → Value
  | 0, d => .other (s.nameOf d)
  | fuel + 1, d =>
    match d with
    | .null => .null
    | .bool b => .bool b
    | .int n => .int n
    | .member n shown => .member n shown
    | .real x => .real x
    | .text t => .text t
    | .tuple items => .tuple (items.map (s.toValue fuel))
    | .cell n =>
      match s.cells[n]? with
      | some (.list items) => .list (items.map (s.toValue fuel))
      | some (.object cls members) =>
        let part := fun name => ((members.lookup name).map (s.toValue fuel)).getD .null
        if s.isBelow (.known (runtimeType "Symbol")) depthLimit cls then
          .symbol (part "sym") (part "value") (part "left") (part "right") (part "name")
        else .other (s.nameOf d)
      | _ => .other (s.nameOf d)
    | _ => .other (s.nameOf d)

/-- Hands a datum out of a run. -/
def handOut (d : Datum) : Machine Value := do
  return (← get).toValue depthLimit d

end LalrBackend.Code
