import LalrBackend.Draft
import LalrBackend.Module.Basic
import LalrBackend.SourceText

/-!
# Printed parser modules

The text of a generated module, as a draft that ends where a table cannot be written or a body
cannot be made.
-/

namespace LalrBackend

open Text Reduction

/-- A method that returns one expression. -/
def returning (name : String) (value : String) : List String := [
  "",
  step ++ "def " ++ name ++ "(self):",
  margin 2 ++ "return " ++ value]

/-- The line of an import: a module's name, or a whole statement. -/
def importLine (item : String) : String :=
  if ' ' ∈ item.toList then item else "import " ++ item

/-- A snippet of the user, if there is code in it, after the lines of its frame. -/
def snippetLines (snippet : Option String) (frame : List String) (levels : Nat) : List String :=
  if hasCode snippet then frame ++ [reindent (snippet.getD "") (margin levels)] else []

/-- A table method. -/
def TableMethod.draft (t : TableMethod) : Draft EmitError :=
  Draft.ofLines ["", step ++ "def " ++ t.name ++ "(self):", docLine 2 t.doc,
    margin 2 ++ "return ("] ++
  Draft.ofExcept (t.literal.map fun ls => ls.map (margin 3 ++ ·))

/-- A line of a body, indented unless it is empty. -/
def bodyLine (line : String) : String :=
  if line.isEmpty then "" else margin 2 ++ line

/-- The lines that begin the method of a production. -/
def ActionMethod.opening (p : Production) : List String := [
  "",
  step ++ "# " ++ p.shown,
  step ++ "def " ++ methodName p.index ++ "(self, " ++ internal "parser" ++ ", " ++
    internal "stack" ++ ", " ++ internal "size" ++ "):"]

/-- The method of a production. -/
def ActionMethod.draft (c : Config) (m : ActionMethod) : Draft EmitError :=
  Draft.ofLines (ActionMethod.opening m.production) ++
    Draft.ofExcept (m.body.map fun b => (b.lines c).map bodyLine)

namespace ParserModule

/-- The lines of the class of actions before its methods. -/
def actionsOpening (c : Config) (indices : List Int) : List String :=
  ["", "", "class " ++ internal "actions" ++ ":",
    docLine 1 "Generated class to encapsulate user supplied action code."] ++
  snippetLines c.actionCode [""] 1 ++
  ["", step ++ "def __init__(self, parser):", margin 2 ++ "self.parser = parser",
    margin 2 ++ "self." ++ internal "dispatch" ++ " = \x7b"] ++
  indices.map (fun i => margin 3 ++ decimal i ++ ": self." ++ methodName i ++ ",") ++
  [margin 2 ++ "\x7d", "",
    step ++ "def " ++ internal "do_action" ++ "(self, " ++ internal "act_num" ++ ", " ++
      internal "parser" ++ ", " ++ internal "stack" ++ ": " ++
      (if c.genericStack then "List[Symbol]" else "list") ++ ") -> Symbol:",
    docLine 2 "Method with the actual generated action code.",
    margin 2 ++ "action = None",
    margin 2 ++ "if type(" ++ internal "act_num" ++ ") is int:",
    margin 3 ++ "action = self." ++ internal "dispatch" ++ ".get(" ++ internal "act_num" ++ ")",
    margin 2 ++ "if action is None:",
    margin 3 ++ "raise ParseTableError(",
    margin 4 ++ "\"Invalid action number found in internal parse table\", " ++
      internal "act_num" ++ ")",
    margin 2 ++ "# Stack size for peeking into the stack",
    margin 2 ++ "return action(" ++ internal "parser" ++ ", " ++ internal "stack" ++ ", len(" ++
      internal "stack" ++ "))"]

/-- The class of actions. -/
def actionsDraft (c : Config) (actions : List ActionMethod) : Draft EmitError :=
  Draft.ofLines (actionsOpening c (actions.map (·.production.index))) ++
    Draft.concat (actions.map (ActionMethod.draft c))

/-- The lines before the parser class. -/
def importLines (c : Config) : List String :=
  heading ++
  ["from typing import List, cast", "",
    "from " ++ runtimePath ++ " import LRParser, ParseTableError, Symbol"] ++
  c.imports.map importLine

/-- The constructor of the parser class. -/
def constructorLines (c : Config) : List String :=
  if c.suppressScanner then
    [step ++ "def __init__(self):", docLine 2 "Default constructor.",
      margin 2 ++ "super().__init__()"]
  else
    [step ++ "def __init__(self, scanner=None, symbol_factory=None):",
      docLine 2 "Default constructor, optionally setting the default scanner.",
      margin 2 ++ "super().__init__(scanner, symbol_factory)"]

/-- The parser class up to its tables. -/
def classOpening (c : Config) : List String :=
  importLines c ++
  ["", "", "class " ++ c.parserClass ++ "(LRParser):", docLine 1 (title ++ " generated parser."),
    ""] ++
  constructorLines c

/-- The parser class after its tables, up to the user's snippets. -/
def accessorLines (c : Config) (startProduction : Int) : List String :=
  ["", step ++ "def init_actions(self):",
    docLine 2 "Action encapsulation object initializer.",
    margin 2 ++ "self.action_obj = " ++ internal "actions" ++ "(self)",
    "", step ++ "def do_action(self, act_num, stack):",
    docLine 2 "Invoke a user supplied parse action.",
    margin 2 ++ "return self.action_obj." ++ internal "do_action" ++ "(act_num, self, stack)"] ++
  returning "start_state" (decimal c.startState) ++
  returning "start_production" (decimal startProduction) ++
  returning "EOF_sym" (decimal Grammar.endIndex) ++
  returning "error_sym" (decimal Grammar.errorIndex)

/-- The user's snippets in the parser class. -/
def snippets (c : Config) : List String :=
  snippetLines c.initCode
    ["", step ++ "def user_init(self):", docLine 2 "User initialization code."] 2 ++
  snippetLines c.scanCode
    ["", step ++ "def scan(self):", docLine 2 "Scan to get the next Symbol."] 2 ++
  snippetLines c.parserCode [""] 1

/-- The parser class alone. -/
def parserDraft (m : ParserModule) : Draft EmitError :=
  Draft.ofLines (classOpening m.config) ++
    m.productionTable.draft ++ m.actionTable.draft ++ m.reduceTable.draft ++
    Draft.ofLines (accessorLines m.config m.startProduction ++ snippets m.config)

/-- The whole module. -/
def draft (m : ParserModule) : Draft EmitError :=
  m.parserDraft ++ actionsDraft m.config m.actions

end ParserModule

end LalrBackend
