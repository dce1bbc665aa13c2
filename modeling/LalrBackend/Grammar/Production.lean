import LalrBackend.Text.Numeral
import LalrBackend.Text.Quoted

/-!
# Symbols and productions

A symbol is a terminal or a non-terminal with a name, an index among the symbols of its kind and
the type of the value that it carries, if it carries one. A rule is a left side and a list of
entries. A production is a rule with an index, user code and a count of its reductions. A derived
production stands for the part of a base rule up to some point of it; labels and types of its
entries are those of the base rule.
-/

namespace LalrBackend

open Text

/-- The two kinds of grammar symbols. -/
inductive SymbolKind where
  | terminal
  | nonTerminal
  deriving Repr, DecidableEq

/-- A terminal or non-terminal. -/
structure GrammarSymbol where
  kind : SymbolKind
  name : String
  index : Int
  valueType : Option String
  deriving Repr, DecidableEq

/-- Whether a symbol may stand on the left side of a production. -/
def GrammarSymbol.isNonTerminal (s : GrammarSymbol) : Bool :=
  s.kind == .nonTerminal

/-- The word for a kind of symbol. -/
def SymbolKind.word : SymbolKind → String
  | .terminal => "Terminal"
  | .nonTerminal => "NonTerminal"

/-- A symbol as it is shown: kind, name and index. -/
def GrammarSymbol.shown (s : GrammarSymbol) : String :=
  s.kind.word ++ "(" ++ quoted s.name ++ ", " ++ decimal s.index ++ ")"

/-- A symbol on a right side, with the label under which user code knows it. -/
structure Part where
  symbol : GrammarSymbol
  label : Option String
  deriving Repr, DecidableEq

/-- A part as it is shown: the symbol's name and, after a colon, the label. -/
def Part.shown (p : Part) : String :=
  match p.label with
  | none => p.symbol.name
  | some label => p.symbol.name ++ ":" ++ label

/-- An entry of a right side. An entry that is no part can only come from outside the grammar; it
stands for no symbol and is kept as it is shown. -/
inductive Entry where
  | part (p : Part)
  | bare (shown : String)
  deriving Repr, DecidableEq

/-- An entry as it is shown. -/
def Entry.shown : Entry → String
  | .part p => p.shown
  | .bare shown => shown

/-- A left side and the entries of a right side. -/
structure Rule where
  lhs : GrammarSymbol
  rhs : List Entry
  deriving Repr, DecidableEq

/-- A rule as it is shown, without blanks at the end. -/
def Rule.shown (r : Rule) : String :=
  let text := r.lhs.name ++ " ::= " ++ " ".intercalate (r.rhs.map Entry.shown)
  String.ofList (dropEnd isBlank text.toList)

/-- How many entries the right side has. -/
def Rule.length (r : Rule) : Nat :=
  r.rhs.length

/-- Where a production comes from. A derived one knows the position and the rule of its base, and
how many entries of the base were consumed when the intermediate result came about, or minus one
if there is no such result. -/
inductive Origin where
  | own
  | derived (position : Nat) (base : Rule) (intermediate : Int)
  deriving Repr, DecidableEq

/-- A rule of a grammar together with what belongs to its reduction. -/
structure Production where
  index : Int
  rule : Rule
  action : Option String
  reduced : Option Int
  origin : Origin
  deriving Repr, DecidableEq

namespace Production

/-- The rule that labels and types are taken from. -/
def base (p : Production) : Rule :=
  match p.origin with
  | .own => p.rule
  | .derived _ base _ => base

/-- How many entries were consumed when the intermediate result came about, or minus one. -/
def intermediate (p : Production) : Int :=
  match p.origin with
  | .own => -1
  | .derived _ _ intermediate => intermediate

/-- Whether a production has a base of its own. -/
def isDerived (p : Production) : Bool :=
  match p.origin with
  | .own => false
  | .derived .. => true

/-- The rule of a production as it is shown. -/
def shown (p : Production) : String :=
  p.rule.shown

/-- How many entries the right side has. -/
def length (p : Production) : Nat :=
  p.rule.length

end Production

/-- Whether an intermediate result lies within a base rule and within the entries of the derived
production itself. -/
def intermediateFits (length baseLength : Nat) (intermediate : Int) : Bool :=
  intermediate == -1 ||
    (0 ≤ intermediate && intermediate ≤ baseLength && intermediate < length)

end LalrBackend
