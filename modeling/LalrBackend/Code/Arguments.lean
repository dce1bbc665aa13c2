import LalrBackend.Code.Object

/-!
# Arguments

How something is called, and which parameter takes which argument. An argument by position is for the
first parameter that has none, one by name for the parameter of that name, and what is left takes its
default.
-/

namespace LalrBackend.Code

/-- How something is called: with values, and with values for names. -/
abbrev Call := Datum → List Datum → List (String × Datum) → Machine Datum

/-- The value of each parameter, in order, if each has exactly one. The values at hand are for the
first parameters, the named ones for those that they name; what is left takes its default. -/
def arguments? (parameters : List (String × Option Datum)) (args : List Datum)
    (named : List (String × Datum)) : Option (List Datum) :=
  if parameters.length < args.length then none
  else if named.any fun n => !((parameters.drop args.length).any (·.1 == n.1)) then none
  else do
    let rest ← (parameters.drop args.length).mapM fun p => (named.lookup p.1).or p.2
    return args ++ rest

/-- The values of parameters, or a failure. -/
def takeArguments (parameters : List (String × Option Datum)) (args : List Datum)
    (named : List (String × Datum)) : Machine (List Datum) :=
  orFail .typeMismatch (arguments? parameters args named)

/-- An argument that is known to be there. -/
def argument (args : List Datum) (i : Nat) : Datum :=
  args.getD i .null

end LalrBackend.Code
