import LalrBackend.Cache.Entry
import LalrBackend.Grammar.Basic

/-!
# Emission errors

An emission fails if the generator refuses its input, if the cache cannot be used, or if an entry
of a right side is no part.
-/

namespace LalrBackend

/-- Why an emission fails. -/
inductive EmitError where
  | refused (error : GeneratorError)
  | cache (fault : Cache.Fault)
  | notAPart
  deriving Repr, DecidableEq

/-- The failure of an emission that a failed question to the grammar comes to. -/
def EmitError.ofGrammar : GrammarError → EmitError
  | .refused e => .refused e
  | _ => .notAPart

end LalrBackend
