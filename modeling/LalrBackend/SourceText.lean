/-!
# Generated text

What all generated texts have in common: their heading, the width of a level of indentation, and
lines of documentation.
-/

namespace LalrBackend

/-- The indentation of one level. -/
def step : String := "    "

/-- The indentation of several levels. -/
def margin (levels : Nat) : String :=
  String.join (List.replicate levels step)

/-- What generated text says about its maker. -/
def title : String := "cupemit LALR parser generator"

/-- The module that generated parsers are based on. -/
def runtimePath : String := "cupemit.runtime"

/-- The rule above and below the heading. -/
def ruler : String := "#----------------------------------------------------"

/-- The lines at the head of generated text. -/
def heading : List String := [
  ruler,
  "# The following code was generated by " ++ title,
  ruler]

/-- A documentation line at a level of indentation. -/
def docLine (levels : Nat) (doc : String) : String :=
  margin levels ++ "\"\"\"" ++ doc ++ "\"\"\""

end LalrBackend
