import LalrBackend.Config
import LalrBackend.Grammar.Basic
import LalrBackend.Text.Indent

/-!
# Reduction bodies

The body of the method that reduces by a production. It reads symbols from the parse stack, whose
top has distance one, binds the labels of the right side from the last entry to the first, runs the
user's code and makes the symbol of the left side. Distances are counted on the production's own
right side, labels and types are those of its base rule.
-/

namespace LalrBackend.Reduction

open Text

/-- A variable that holds a symbol of the stack: the last or the first one of the right side, or
the one of a label. -/
inductive Slot where
  | right
  | left
  | labelled (label : String)
  deriving Repr, DecidableEq

/-- A statement of a body. -/
inductive Statement where
  | startResult (valueType : String) (distance : Option Int)
  | bindSlot (slot : Slot) (distance : Int)
  | bindLeft (label : String) (slot : Slot)
  | bindRight (label : String) (slot : Slot)
  | bindValue (label valueType : String) (slot : Slot)
  | user (line : String)
  | construct (name : String) (index : Int) (extent : Option (Slot × Slot)) (withResult : Bool)
  | announce
  | accept
  | finish
  deriving Repr, DecidableEq

/-- A body in its parts: the start of the result, the bindings, the user's lines, the bindings that
only the position of the new symbol needs, and the making of the symbol. -/
structure Body where
  start : List Statement
  bindings : List Statement
  userLines : List String
  extentBindings : List Statement
  ending : List Statement
  deriving Repr, DecidableEq

/-- All statements of a body in their order. -/
def Body.statements (b : Body) : List Statement :=
  b.start ++ b.bindings ++ b.userLines.map .user ++ b.extentBindings ++ b.ending

/-- The start of the result: nothing, or the value of an intermediate result. -/
def startOf (p : Production) : List Statement :=
  match p.rule.lhs.valueType with
  | none => []
  | some valueType =>
    if p.intermediate = -1 then [.startResult valueType none]
    else [.startResult valueType (some (p.length - p.intermediate))]

/-- The variable that the symbol at a position has apart from its label. Only a production that is
its own base has one for its ends, and only if positions are tracked. -/
def endSlot? (c : Config) (p : Production) (position : Nat) : Option Slot :=
  if p.isDerived ∨ !c.trackPositions then none
  else if position + 1 = p.length then some .right
  else if position = 0 then some .left
  else none

/-- The bindings of a label, once its symbol is in a variable. -/
def labelBindings (c : Config) (label : String) (valueType : Option String) (slot : Slot) :
    List Statement :=
  (if c.trackPositions then [.bindLeft label slot, .bindRight label slot] else []) ++
    match valueType with
    | none => []
    | some t => [.bindValue label t slot]

/-- The bindings for one position of the right side. -/
def positionBindings (c : Config) (p : Production) (position : Nat) (part : Part) :
    List Statement :=
  let distance : Int := p.length - position
  match endSlot? c p position, part.label with
  | some slot, none => [.bindSlot slot distance]
  | some slot, some label =>
    .bindSlot slot distance :: labelBindings c label part.symbol.valueType slot
  | none, none => []
  | none, some label =>
    .bindSlot (.labelled label) distance ::
      labelBindings c label part.symbol.valueType (.labelled label)

/-- The bindings for several positions, in the given order. -/
def bindingsAt (c : Config) (p : Production) : List Nat → Except GrammarError (List Statement)
  | [] => .ok []
  | position :: rest => do
    let part ← p.part position
    return positionBindings c p position part ++ (← bindingsAt c p rest)

/-- The positions of a right side, the last one first. -/
def positionsDown (p : Production) : List Nat :=
  (List.range p.length).reverse

/-- The user's lines, moved to the margin; a production without code has none. -/
def userLinesOf (p : Production) : List String :=
  if hasCode p.action then
    (lines (reindent (p.action.getD "") "").toList).map String.ofList
  else []

/-- The bindings of the end symbols that are still missing for the position of the new symbol. An
empty right side takes the position of the symbol on top of the stack. -/
def extentBindingsOf (c : Config) (p : Production) : List Statement :=
  if !c.trackPositions then []
  else if p.length = 0 then [.bindSlot .right 1]
  else if p.isDerived then
    .bindSlot .right 1 :: (if 2 ≤ p.length then [.bindSlot .left p.length] else [])
  else []

/-- The symbols between which the new one extends. -/
def extentOf (c : Config) (p : Production) : Option (Slot × Slot) :=
  if c.trackPositions then some (if p.length < 2 then .right else .left, .right) else none

/-- The making of the symbol; the start production also ends the parse. -/
def endingOf (c : Config) (p : Production) (isStart : Bool) : List Statement :=
  [.construct p.rule.lhs.name p.rule.lhs.index (extentOf c p) p.rule.lhs.valueType.isSome] ++
    (if isStart then [.announce, .accept] else []) ++ [.finish]

/-- The body of a production. It fails if the right side is longer than that of the base rule. -/
def body (c : Config) (p : Production) (isStart : Bool) : Except GrammarError Body := do
  let bindings ← bindingsAt c p (positionsDown p)
  return {
    start := startOf p
    bindings := bindings
    userLines := userLinesOf p
    extentBindings := extentBindingsOf c p
    ending := endingOf c p isStart }

end LalrBackend.Reduction
