import LalrBackend.Cache.Store
import LalrBackend.EmitError
import LalrBackend.Grammar.Editing
import LalrBackend.Packed.Literal
import LalrBackend.Reduction.Printer

/-!
# Generated parser modules

A generated module holds a parser class with the three packed tables and some accessors, and a
class with one method for each production. It is kept as data: it can be printed, and the parser
class can be run. Tables that cannot be written and bodies that cannot be made stay in their place
as failures, because what comes before them is printed.
-/

namespace LalrBackend

/-- A method that returns a packed table. -/
structure TableMethod where
  name : String
  doc : String
  literal : Except EmitError (List String)

/-- A method that reduces by a production. -/
structure ActionMethod where
  production : Production
  body : Except EmitError Reduction.Body

/-- A generated module. -/
structure ParserModule where
  config : Config
  productionTable : TableMethod
  actionTable : TableMethod
  reduceTable : TableMethod
  startProduction : Int
  actions : List ActionMethod

namespace ParserModule

/-- The literal lines of units that may have failed to be numbers. -/
def literalOf (units : Except Cache.Fault (List Int)) : Except EmitError (List String) :=
  match units with
  | .ok us => .ok (Packed.literalLines us)
  | .error fault => .error (.cache fault)

/-- The methods of all productions; `start` is the position of the start production. -/
def actionMethods (c : Config) (start : Option Nat) (ps : List Production) : List ActionMethod :=
  ps.zipIdx.map fun (p, position) =>
    ⟨p, (Reduction.body c p (start == some position)).mapError .ofGrammar⟩

/-- The module of a grammar with packed tables. -/
def ofGrammar (c : Config) (g : Grammar) (startProduction : Int) (packed : Cache.PackedTables) :
    ParserModule where
  config := c
  productionTable := ⟨"production_table", "Return production table", literalOf packed.production⟩
  actionTable := ⟨"action_table", "Return action table", literalOf packed.action⟩
  reduceTable := ⟨"reduce_table", "Return reduce-goto table", literalOf packed.reduce⟩
  startProduction := startProduction
  actions := actionMethods c g.start g.productions

end ParserModule

end LalrBackend
