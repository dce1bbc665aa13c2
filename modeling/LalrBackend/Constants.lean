import LalrBackend.Config
import LalrBackend.Draft
import LalrBackend.EmitError
import LalrBackend.Identifier
import LalrBackend.SourceText

/-!
# Symbol constants

A class with one constant for each terminal and, if that is asked for, for each non-terminal. The
constant of a symbol has its name turned into an identifier; two symbols with one identifier are
refused.
-/

namespace LalrBackend

open Text

namespace Constants

/-- A symbol with its identifier. -/
structure Named where
  identifier : String
  symbol : GrammarSymbol
  deriving Repr, DecidableEq

/-- Gives a symbol its identifier. -/
def Named.ofSymbol (s : GrammarSymbol) : Named :=
  ⟨Identifier.ofName s.name, s⟩

/-- The line of a constant. -/
def Named.line (n : Named) : String :=
  step ++ n.identifier ++ " = " ++ decimal n.symbol.index

/-- The first of several symbols that has an identifier already. -/
def holder? (before : List Named) (identifier : String) : Option Named :=
  before.find? (·.identifier == identifier)

/-- The lines of several symbols, up to the first whose identifier is taken. -/
def draft (before : List Named) : List Named → Draft EmitError
  | [] => Draft.ofLines []
  | n :: ns =>
    match holder? before n.identifier with
    | some other =>
      Draft.fail (.refused (.constantClash other.symbol.name n.symbol.name n.identifier))
    | none => Draft.ofLines [n.line] ++ draft (before ++ [n]) ns

/-- The terminals of a grammar with their identifiers. -/
def terminals (g : Grammar) : List Named :=
  g.terminals.map fun d => .ofSymbol d.symbol

/-- The non-terminals of a grammar with their identifiers. -/
def nonTerminals (g : Grammar) : List Named :=
  g.nonTerminals.map fun d => .ofSymbol d.symbol

/-- The lines before the first constant. -/
def opening (c : Config) : List String :=
  heading ++ ["", "", "class " ++ c.constantsClass ++ ":",
    docLine 1 "Generated class containing symbol constants.", step ++ "# terminals"]

/-- The class of constants. -/
def classDraft (c : Config) (g : Grammar) : Draft EmitError :=
  let terms := terminals g
  Draft.ofLines (opening c) ++ draft [] terms ++
    (if c.withNonTerminals then
      Draft.ofLines ["", step ++ "# non terminals"] ++ draft terms (nonTerminals g)
    else Draft.ofLines [])

end Constants

end LalrBackend
