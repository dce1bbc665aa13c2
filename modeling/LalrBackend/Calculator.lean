import LalrBackend.Emission

/-!
# A calculator

A grammar of sums and products of numbers with its parse tables, and the two modules that are
emitted for it.
-/

namespace LalrBackend.Calculator

/-- The rules of the calculator: a left side, a right side with labels, and the code. -/
def rules : List (String × List (String × Option String) × String) := [
  ("$START", [("expr", some "e"), ("EOF", none)], "RESULT = e"),
  ("expr", [("expr", some "e"), ("PLUS", none), ("term", some "t")], "RESULT = e + t"),
  ("expr", [("term", some "t")], "RESULT = t"),
  ("term", [("term", some "t"), ("TIMES", none), ("NUMBER", some "n")], "RESULT = t * n"),
  ("term", [("NUMBER", some "n")], "RESULT = n")]

/-- The symbols of the calculator. -/
def symbols : Except GeneratorError Grammar := do
  let g ← Grammar.ofTerminals
    [{ name := "NUMBER", valueType := some "int" }, { name := "PLUS" }, { name := "TIMES" }]
  ["$START", "expr", "term"].foldlM (fun g name => g.addNonTerminal name (some "int") none) g

/-- The grammar of the calculator. -/
def grammar : Except GrammarError Grammar := do
  let g ← symbols.mapError .refused
  let g ← rules.foldlM (fun g (lhs, rhs, code) =>
    g.addProduction lhs (rhs.map fun (name, label) => .tuple [some name, label]) (some code) none) g
  g.setStart 0

/-- The shifts of the calculator: state, terminal, target. -/
def shifts : List (Int × Int × Int) := [
  (0, 2, 3), (1, 3, 4), (1, 0, 8), (2, 4, 6), (4, 2, 3), (5, 4, 6), (6, 2, 7)]

/-- The reductions of the calculator: state, terminal, production. -/
def reductions : List (Int × Int × Int) := [
  (2, 0, 2), (3, 0, 4), (5, 0, 1), (7, 0, 3), (2, 3, 2), (3, 3, 4), (5, 3, 1), (7, 3, 3),
  (3, 4, 4), (7, 4, 3), (8, 0, 0)]

/-- The action table of the calculator. -/
def actionTable : Except Table.TableError ActionTable := do
  let t ← shifts.foldlM (fun t (state, terminal, target) => t.shift state terminal target)
    (ActionTable.empty 9 5)
  reductions.foldlM (fun t (state, terminal, production) => t.reduce state terminal production) t

/-- The goto table of the calculator. -/
def gotoTable : Except Table.TableError GotoTable :=
  [(0, 1, 1), (0, 2, 2), (4, 2, 5)].foldlM
    (fun t (state, nonTerminal, target) => t.store state nonTerminal target) (GotoTable.empty 9 3)

/-- How the calculator is emitted. -/
def config : Config where
  parserClass := "CalcParser"
  withNonTerminals := true
  compactReduces := true

/-- The emitted texts, the file that each belongs in, and the line that sums them up. -/
structure Emitted where
  constants : Outcome
  parser : ParserOutcome

/-- The names of the files. -/
def fileNames : String × String :=
  ("calc_sym.py", "calc_parser.py")

/-- Emits the calculator; there is nothing if its grammar or its tables are refused. -/
def emitted? : Option Emitted :=
  match grammar, actionTable, gotoTable with
  | .ok g, .ok action, .ok reduce =>
    some ⟨emitSymbols config g {}, emitParser config g (.table action) (.table reduce) {} .fresh⟩
  | _, _, _ => none

/-- The summary of a report. -/
def summary (r : Report) : String :=
  let sizes := r.tableSizes.map fun (key, size) => Text.quoted key ++ ": " ++ Text.decimal size
  "productions=" ++ Text.decimal r.productions ++ " tables=\x7b" ++ ", ".intercalate sizes ++ "\x7d"

end LalrBackend.Calculator
