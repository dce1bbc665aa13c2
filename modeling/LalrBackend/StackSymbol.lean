import LalrBackend.Value

/-!
# Symbols of the parse stack

A symbol on the stack of a running parser has the index of its grammar symbol, a value, the
positions at which it begins and ends in the input, and perhaps a name. A reduction makes a new
symbol that extends from the first to the last of the symbols that it replaces.
-/

namespace LalrBackend

/-- A symbol of the parse stack. -/
structure StackSymbol where
  sym : Value
  value : Value := .null
  left : Value := .int (-1)
  right : Value := .int (-1)
  name : Value := .null
  deriving Repr

namespace StackSymbol

/-- A symbol as a value. -/
def toValue (s : StackSymbol) : Value :=
  .symbol s.sym s.value s.left s.right s.name

/-- A symbol from its parts in their order, of which the index alone may not be missing. -/
def ofParts? : List Value → Option StackSymbol
  | [sym] => some { sym }
  | [sym, value] => some { sym, value }
  | [sym, value, left] => some { sym, value, left }
  | [sym, value, left, right] => some { sym, value, left, right }
  | [sym, value, left, right, name] => some ⟨sym, value, left, right, name⟩
  | _ => none

end StackSymbol

namespace Value

/-- The symbol that a value is. -/
def symbol? : Value → Option StackSymbol
  | .symbol sym value left right name => some ⟨sym, value, left, right, name⟩
  | _ => none

/-- The place of a position at an end of a new symbol: that of the symbol there, or minus one where
there is none. A value that is no symbol has no positions. -/
def endOf? (position : StackSymbol → Value) (v : Value) : Option Value :=
  match v with
  | .null => some (.int (-1))
  | v => v.symbol?.map position

/-- The new symbol between two symbols. -/
def symbolBetween? (name sym first last value : Value) : Option Value := do
  let left ← endOf? (·.left) first
  let right ← endOf? (·.right) last
  return .symbol sym value left right name

end Value

end LalrBackend
