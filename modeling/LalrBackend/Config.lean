import LalrBackend.Text.Numeral
import LalrBackend.Text.Quoted

/-!
# Configurations

What the user of the generator decides: names of the generated classes, what is written and what is
left out, and snippets of code that are put into the generated module.
-/

namespace LalrBackend

open Text

/-- The settings of one generation. -/
structure Config where
  constantsClass : String := "sym"
  parserClass : String := "parser"
  withNonTerminals : Bool := false
  suppressScanner : Bool := false
  compactReduces : Bool := false
  trackPositions : Bool := true
  genericStack : Bool := true
  startState : Int := 0
  actionCode : Option String := none
  parserCode : Option String := none
  initCode : Option String := none
  scanCode : Option String := none
  imports : List String := []
  noWarnings : Bool := false
  cacheId : Option String := none
  deriving Repr, DecidableEq

namespace Config

/-- A truth value as it is shown. -/
def showBool (b : Bool) : String :=
  if b then "True" else "False"

/-- An optional text as it is shown. -/
def showOptional : Option String → String
  | none => "None"
  | some s => quoted s

/-- A fixed sequence as it is shown; one item alone is followed by a comma. -/
def showSequence : List String → String
  | [s] => "(" ++ s ++ ",)"
  | ss => "(" ++ ", ".intercalate ss ++ ")"

/-- The settings with their values as they are shown, in order. -/
def settings (c : Config) : List (String × String) := [
  ("symbol_const_class_name", quoted c.constantsClass),
  ("parser_class_name", quoted c.parserClass),
  ("emit_non_terms", showBool c.withNonTerminals),
  ("suppress_scanner", showBool c.suppressScanner),
  ("compact_reduces", showBool c.compactReduces),
  ("lr_values", showBool c.trackPositions),
  ("generic_stack", showBool c.genericStack),
  ("start_state", decimal c.startState),
  ("action_code", showOptional c.actionCode),
  ("parser_code", showOptional c.parserCode),
  ("init_code", showOptional c.initCode),
  ("scan_code", showOptional c.scanCode),
  ("import_list", showSequence (c.imports.map quoted)),
  ("nowarn", showBool c.noWarnings),
  ("cache_id", showOptional c.cacheId)]

/-- A configuration as it is shown. -/
def shown (c : Config) : String :=
  "GenerationConfig(" ++
    ", ".intercalate (c.settings.map fun (name, value) => name ++ "=" ++ value) ++ ")"

end Config

end LalrBackend
