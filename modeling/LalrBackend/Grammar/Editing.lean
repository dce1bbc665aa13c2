import LalrBackend.Grammar.Basic

/-!
# Registering productions

Productions are registered with a left side and entries that are named or given, derived ones also
with a base. One production of the grammar is made the start production, once and for all.
-/

namespace LalrBackend

open Text

/-- An entry of a right side as it is asked for: by name, as a name with a label, or as a part
whose symbol need not be registered. A name may be missing. -/
inductive EntryRequest where
  | named (name : Option String)
  | tuple (fields : List (Option String))
  | given (p : Part)
  deriving Repr, DecidableEq

/-- A name as it is shown, which may be missing. -/
def showName (name : Option String) : String :=
  (name.map quoted).getD "None"

/-- An entry that no grammar was asked about: names stay bare. -/
def EntryRequest.unresolved : EntryRequest → Entry
  | .named name => .bare (showName name)
  | .tuple fields =>
    let shown := fields.map showName
    match shown with
    | [one] => .bare ("(" ++ one ++ ",)")
    | _ => .bare ("(" ++ ", ".intercalate shown ++ ")")
  | .given p => .part p

namespace Grammar

/-- The non-terminal of a name. -/
def leftSide (g : Grammar) (name : String) : Except GeneratorError GrammarSymbol := do
  let s ← g.symbol name
  if s.isNonTerminal then return s else throw (.illegalRuleName name)

/-- The registered symbol of a name that may be missing. -/
def symbolOf (g : Grammar) : Option String → Except GeneratorError GrammarSymbol
  | some name => g.symbol name
  | none => .error .namelessSymbol

/-- The registered symbol of a name, as a part. -/
def namedPart (g : Grammar) (name label : Option String) : Except GrammarError Entry :=
  match g.symbolOf name with
  | .ok s => .ok (.part ⟨s, label⟩)
  | .error e => .error (.refused e)

/-- The entry that is asked for. -/
def entry (g : Grammar) : EntryRequest → Except GrammarError Entry
  | .named name => g.namedPart name none
  | .tuple [name, label] => g.namedPart name label
  | .tuple _ => .error .notAPair
  | .given p => .ok (.part p)

/-- The rule that is asked for; the left side is looked at first, then the entries in order. -/
def rule (g : Grammar) (lhs : String) (rhs : List EntryRequest) : Except GrammarError Rule := do
  let lhs ← (g.leftSide lhs).mapError .refused
  let entries ← rhs.mapM g.entry
  return ⟨lhs, entries⟩

/-- Puts a production at the end, without any check. -/
def append (g : Grammar) (p : Production) : Grammar :=
  { g with productions := g.productions ++ [p] }

/-- Registers a production. -/
def registerProduction (lhs : String) (rhs : List EntryRequest) (action : Option String)
    (reduced : Option Int) : Registration GrammarError Production := do
  let rule ← Registration.ask (·.rule lhs rhs)
  let p := ⟨(← get).productions.length, rule, action, reduced, .own⟩
  modify (·.append p)
  return p

/-- The grammar with a production more. -/
def addProduction (g : Grammar) (lhs : String) (rhs : List EntryRequest)
    (action : Option String) (reduced : Option Int) : Except GrammarError Grammar :=
  Registration.outcome (registerProduction lhs rhs action reduced) g

/-- The position of a production. -/
def position (g : Grammar) (number : Int) : Except GrammarError Nat :=
  match position? g.productions.length number with
  | some position => .ok position
  | none => .error .noSuchProduction

/-- The production at a position. -/
def production (g : Grammar) (number : Int) : Except GrammarError Production := do
  match g.productions[← g.position number]? with
  | some p => return p
  | none => throw .noSuchProduction

end Grammar

/-- A production that is handed to a grammar: one of its own, by its number, or one from elsewhere,
by the index that it has there, its rule and, if it is derived, the index of its base. -/
inductive ProductionChoice where
  | own (number : Int)
  | foreign (index : Nat) (rule : Rule) (baseIndex : Option Int)
  deriving Repr, DecidableEq

/-- A rule with the kind of its production; that of a derived one also with the index of the
base. -/
def Rule.shownWith (r : Rule) : Option Int → String
  | none => "Production(" ++ r.shown ++ ")"
  | some baseIndex => "DerivedProduction(" ++ r.shown ++ ", base=" ++ decimal baseIndex ++ ")"

namespace Grammar

/-- The position and the rule of a base. -/
def base (g : Grammar) : ProductionChoice → Except GrammarError (Nat × Rule)
  | .own number => do
    let position ← g.position number
    return (position, (← g.production number).rule)
  | .foreign index rule _ => .ok (index, rule)

/-- Fails unless an intermediate result lies within the base and within the rule itself. -/
def needFit (rule base : Rule) (intermediate : Int) : Except GrammarError Unit :=
  if intermediateFits rule.length base.length intermediate then .ok ()
  else .error (.refused (.intermediateOutOfRange intermediate base.shown))

/-- Registers a production that is derived from another one, which need not be of this grammar. -/
def registerDerived (lhs : String) (rhs : List EntryRequest) (base : ProductionChoice)
    (intermediate : Int) (action : Option String) (reduced : Option Int) :
    Registration GrammarError Production := do
  let (position, baseRule) ← Registration.ask (·.base base)
  let rule ← Registration.ask (·.rule lhs rhs)
  Registration.ask fun _ => needFit rule baseRule intermediate
  let origin := .derived position baseRule intermediate
  let p := ⟨(← get).productions.length, rule, action, reduced, origin⟩
  modify (·.append p)
  return p

/-- The grammar with a derived production more. -/
def addDerived (g : Grammar) (lhs : String) (rhs : List EntryRequest) (base : Int)
    (intermediate : Int) (action : Option String) (reduced : Option Int) :
    Except GrammarError Grammar :=
  Registration.outcome (registerDerived lhs rhs (.own base) intermediate action reduced) g

/-- The start production. -/
def startProduction? (g : Grammar) : Option Production :=
  g.start.bind (g.productions[·]?)

/-- Fails if there is a start production already. -/
def needNoStart (g : Grammar) : Except GrammarError Unit :=
  match g.startProduction? with
  | some p => .error (.refused (.startAlreadySpecified p.shown))
  | none => .ok ()

/-- Makes the production at a position the start production. -/
def withStart (g : Grammar) (position : Nat) : Grammar :=
  { g with start := some position }

/-- The refusal of a start production that is none of the grammar's own. -/
def refuseStart (g : Grammar) (rule : Rule) (baseIndex : Option Int) : GrammarError :=
  match g.needNoStart with
  | .error e => e
  | .ok () => .refused (.notOfThisGrammar (rule.shownWith baseIndex))

/-- Makes a production of the grammar the start production, once and for all. -/
def registerStart : ProductionChoice → Registration GrammarError Unit
  | .own number => do
    let position ← Registration.ask (·.position number)
    Registration.ask needNoStart
    modify (·.withStart position)
  | .foreign _ rule baseIndex => do throw ((← get).refuseStart rule baseIndex)

/-- The grammar with a start production. -/
def setStart (g : Grammar) (number : Int) : Except GrammarError Grammar :=
  Registration.outcome (registerStart (.own number)) g

/-- Replaces the production at a position. -/
def modify (g : Grammar) (number : Int) (f : Production → Production) :
    Except GrammarError Grammar := do
  return { g with productions := g.productions.modify (← g.position number) f }

/-- A production with its kind; a derived one also with the index of its base. -/
def showProduction (g : Grammar) (p : Production) : String :=
  match p.origin with
  | .own => p.rule.shownWith none
  | .derived position _ _ =>
    p.rule.shownWith (some ((g.productions[position]?.map Production.index).getD position))

/-- The left index and the length of each production, in order. -/
def productionTable (g : Grammar) : List Int :=
  g.productions.flatMap fun p => [p.rule.lhs.index, (p.length : Int)]

end Grammar

end LalrBackend
