import LalrBackend.Text.Numeral
import LalrBackend.Text.Quoted

/-!
# Generator errors

The ways in which a grammar, a parse table or an emission can be refused, and the wording of each.
-/

namespace LalrBackend

open Text

/-- Why the generator refuses its input. Productions are kept as they are shown. -/
inductive GeneratorError where
  | valueTooWide (value : Int)
  | alreadyDefined (name : String)
  | illegalRuleName (name : String)
  | unknownSymbol (name : String)
  | namelessSymbol
  | intermediateOutOfRange (position : Int) (base : String)
  | positionOutOfRange (position : Int) (base : String)
  | startAlreadySpecified (start : String)
  | notOfThisGrammar (production : String)
  | terminalOutOfRange (index : Int)
  | nonTerminalOutOfRange (index : Int)
  | conflictingActions (state terminal : Int)
  | noStart
  | misplaced (production : String) (index : Int) (expected : Nat)
  | constantClash (first second identifier : String)
  deriving Repr, DecidableEq

/-- Whether an error can be worded: a value that does not fit may be too long to be written. -/
def GeneratorError.isWritable : GeneratorError → Bool
  | .valueTooWide value => Text.isWritable value
  | _ => true

/-- The wording of a generator error. -/
def GeneratorError.message : GeneratorError → String
  | .valueTooWide value => "Table value " ++ decimal value ++ " doesn't fit in 16 bits"
  | .alreadyDefined name => "Symbol " ++ quoted name ++ " is already defined"
  | .illegalRuleName name => "Illegal rule name " ++ quoted name
  | .unknownSymbol name => "Symbol " ++ quoted name ++ " doesn't exist"
  | .namelessSymbol => "Symbol None doesn't exist"
  | .intermediateOutOfRange position base =>
    "Intermediate result index " ++ decimal position ++ " out of range for " ++ base
  | .positionOutOfRange position base =>
    "Right hand side position " ++ decimal position ++ " out of range for base production " ++ base
  | .startAlreadySpecified start => "Start production already specified: " ++ start
  | .notOfThisGrammar production => production ++ " is not a production of this grammar"
  | .terminalOutOfRange index => "Terminal index " ++ decimal index ++ " out of range"
  | .nonTerminalOutOfRange index => "Non terminal index " ++ decimal index ++ " out of range"
  | .conflictingActions state terminal =>
    "Conflicting actions in state " ++ decimal state ++ " on terminal " ++ decimal terminal
  | .noStart => "No start production has been specified"
  | .misplaced production index expected =>
    "Production " ++ production ++ " has index " ++ decimal index ++ ", expected " ++
      decimal expected
  | .constantClash first second identifier =>
    "Symbols " ++ quoted first ++ " and " ++ quoted second ++ " both map to constant " ++
      quoted identifier

/-- The wording of a generator error that can be worded; the other ones end as failed conversions
of a number. -/
def GeneratorError.message? (e : GeneratorError) : Option String :=
  if e.isWritable then some e.message else none

end LalrBackend
