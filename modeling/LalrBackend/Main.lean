import LalrBackend.Calculator

/-!
# Command line

Emits the calculator into a directory, the current one if none is named.
-/

open LalrBackend

/-- Writes the two modules of the calculator and prints the summary. -/
def main (args : List String) : IO Unit := do
  let directory := args.headD "."
  match Calculator.emitted? with
  | none => throw (IO.userError "the calculator cannot be emitted")
  | some e =>
    let (constantsFile, parserFile) := Calculator.fileNames
    IO.FS.writeFile (directory ++ "/" ++ constantsFile) e.constants.draft.text
    IO.FS.writeFile (directory ++ "/" ++ parserFile) e.parser.outcome.draft.text
    IO.println (Calculator.summary e.parser.outcome.report)
