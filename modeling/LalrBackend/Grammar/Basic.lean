import LalrBackend.GeneratorError
import LalrBackend.Grammar.Production
import LalrBackend.Position

/-!
# Grammars

A grammar registers terminals, non-terminals and productions and numbers each kind from zero. The
end of input and the error terminal are registered first, and no two symbols share a name. An
operation that is refused leaves the grammar as it was. Symbols that no production uses and
productions that are never reduced are known as far as their counts are. The symbol, label and type
that belong to a position of a right side are those of the base rule at that position.
-/

namespace LalrBackend

open Text

/-- A registered symbol and how often productions use it, if that is known. -/
structure Declared where
  symbol : GrammarSymbol
  useCount : Option Int
  deriving Repr, DecidableEq

/-- A registry of symbols and productions. A name leads to the symbol that was registered under it
last; the start production is kept by its position. -/
structure Grammar where
  terminals : List Declared
  nonTerminals : List Declared
  productions : List Production
  start : Option Nat
  names : List (String × GrammarSymbol) :=
    (terminals ++ nonTerminals).map fun d => (d.symbol.name, d.symbol)
  deriving Repr, DecidableEq

/-- Why an operation on a grammar is refused. -/
inductive GrammarError where
  | refused (error : GeneratorError)
  | notAPair
  | noSuchProduction
  | notAPart
  deriving Repr, DecidableEq

/-- A step of registering: it gives a result or is refused, and leaves a grammar behind in either
case. -/
abbrev Registration (ε α : Type) :=
  EStateM ε Grammar α

namespace Registration

variable {ε α : Type}

/-- Asks the grammar for something that it may refuse, and leaves it as it is. -/
def ask (question : Grammar → Except ε α) : Registration ε α := do
  match question (← get) with
  | .ok answer => return answer
  | .error e => throw e

/-- The grammar that a registration leaves, unless it is refused. -/
def outcome (step : Registration ε α) (g : Grammar) : Except ε Grammar :=
  match step.run g with
  | .ok _ g' => .ok g'
  | .error e _ => .error e

end Registration

namespace Grammar

/-- The grammar without any symbol. -/
def blank : Grammar :=
  ⟨[], [], [], none, []⟩

/-- The name of the end of input. -/
def endName : String := "EOF"

/-- The name of the error terminal. -/
def errorName : String := "error"

/-- All registered symbols, terminals first. -/
def symbols (g : Grammar) : List GrammarSymbol :=
  (g.terminals ++ g.nonTerminals).map Declared.symbol

/-- The symbol that a name leads to. -/
def symbol? (g : Grammar) (name : String) : Option GrammarSymbol :=
  g.names.lookup name

/-- The symbol that a name leads to, as an error if there is none. -/
def symbol (g : Grammar) (name : String) : Except GeneratorError GrammarSymbol :=
  match g.symbol? name with
  | some s => .ok s
  | none => .error (.unknownSymbol name)

/-- Puts a terminal at the end of the terminals. -/
def appendTerminal (g : Grammar) (d : Declared) : Grammar :=
  { g with terminals := g.terminals ++ [d] }

/-- Puts a non-terminal at the end of the non-terminals. -/
def appendNonTerminal (g : Grammar) (d : Declared) : Grammar :=
  { g with nonTerminals := g.nonTerminals ++ [d] }

/-- Makes a name lead to a symbol. -/
def bindName (g : Grammar) (name : String) (s : GrammarSymbol) : Grammar :=
  { g with names := (name, s) :: g.names }

/-- Fails if a name is taken. -/
def needFree (g : Grammar) (name : String) : Except GeneratorError Unit :=
  match g.symbol? name with
  | some _ => .error (.alreadyDefined name)
  | none => .ok ()

/-- Fails if a name is that of a terminal. -/
def needNoTerminal (g : Grammar) (name : String) : Except GeneratorError Unit :=
  match g.symbol? name with
  | some s => if s.isNonTerminal then .ok () else .error (.illegalRuleName name)
  | none => .ok ()

/-- Registers a terminal under a new name: it becomes the last terminal, then its name is bound. -/
def registerTerminal (name : String) (valueType : Option String) (useCount : Option Int) :
    Registration GeneratorError Declared := do
  Registration.ask (·.needFree name)
  let d := ⟨⟨.terminal, name, (← get).terminals.length, valueType⟩, useCount⟩
  modify (·.appendTerminal d)
  modify (·.bindName name d.symbol)
  return d

/-- Registers a non-terminal under a new name, which may not be that of a terminal. -/
def registerNonTerminal (name : String) (valueType : Option String) (useCount : Option Int) :
    Registration GeneratorError Declared := do
  Registration.ask (·.needNoTerminal name)
  Registration.ask (·.needFree name)
  let d := ⟨⟨.nonTerminal, name, (← get).nonTerminals.length, valueType⟩, useCount⟩
  modify (·.appendNonTerminal d)
  modify (·.bindName name d.symbol)
  return d

/-- The grammar with a terminal more. -/
def addTerminal (g : Grammar) (name : String) (valueType : Option String)
    (useCount : Option Int) : Except GeneratorError Grammar :=
  Registration.outcome (registerTerminal name valueType useCount) g

/-- The grammar with a non-terminal more. -/
def addNonTerminal (g : Grammar) (name : String) (valueType : Option String)
    (useCount : Option Int) : Except GeneratorError Grammar :=
  Registration.outcome (registerNonTerminal name valueType useCount) g

/-- A terminal that a new grammar is to have. -/
structure TerminalRequest where
  name : String
  valueType : Option String := none
  useCount : Option Int := none

/-- The grammar of the end of input, the error terminal and the given terminals. -/
def ofTerminals (requests : List TerminalRequest) : Except GeneratorError Grammar :=
  ({ name := endName } :: { name := errorName } :: requests).foldlM
    (fun g r => g.addTerminal r.name r.valueType r.useCount) blank

/-- The index of the end of input. -/
def endIndex : Int := 0

/-- The index of the error terminal. -/
def errorIndex : Int := 1

/-- Sets how often a symbol is used. -/
def setUseCount (g : Grammar) (name : String) (useCount : Option Int) :
    Except GeneratorError Grammar := do
  let _ ← g.symbol name
  let update := fun (d : Declared) =>
    if d.symbol.name = name then { d with useCount := useCount } else d
  return { g with terminals := g.terminals.map update, nonTerminals := g.nonTerminals.map update }

/-! ## Unused declarations -/

/-- The terminals that no production uses; the two that are always there do not count. -/
def unusedTerminals (g : Grammar) : List GrammarSymbol :=
  ((g.terminals.drop 2).filter (·.useCount == some 0)).map Declared.symbol

/-- The non-terminals that no production uses. -/
def unusedNonTerminals (g : Grammar) : List GrammarSymbol :=
  (g.nonTerminals.filter (·.useCount == some 0)).map Declared.symbol

/-- The productions that are never reduced. -/
def neverReduced (g : Grammar) : List Production :=
  g.productions.filter (·.reduced == some 0)

end Grammar

/-! ## Parts of a production -/

/-- The entry of the base rule that lies at a position of a right side. -/
def Production.resolve (p : Production) (position : Int) : Except GeneratorError Entry :=
  if position < 0 then .error (.positionOutOfRange position p.base.shown)
  else match p.base.rhs[position.toNat]? with
    | some e => .ok e
    | none => .error (.positionOutOfRange position p.base.shown)

/-- The part of the base rule that lies at a position of a right side. -/
def Production.part (p : Production) (position : Int) : Except GrammarError Part := do
  match ← (p.resolve position).mapError .refused with
  | .part part => return part
  | .bare _ => throw .notAPart

end LalrBackend
