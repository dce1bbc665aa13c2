import LalrBackend.Grammar.Basic

/-!
# Reports and warnings

A report counts what a generation dealt with. One report may be handed from call to call; each call
fills in its own part. Warnings name what a grammar declares and never uses.
-/

namespace LalrBackend

open Text

/-- The counts of a generation. -/
structure Report where
  terminals : Nat := 0
  nonTerminals : Nat := 0
  productions : Nat := 0
  notReduced : Nat := 0
  unusedTerminals : Nat := 0
  unusedNonTerminals : Nat := 0
  tableSizes : List (String × Nat) := []
  cacheHit : Bool := false
  deriving Repr, DecidableEq

/-- The report with the counts of what a grammar never uses. -/
def Report.withUnused (r : Report) (g : Grammar) : Report :=
  { r with
    notReduced := g.neverReduced.length
    unusedTerminals := g.unusedTerminals.length
    unusedNonTerminals := g.unusedNonTerminals.length }

/-- A declaration without use. -/
inductive Warning where
  | neverReduced (production : String)
  | unusedTerminal (name : String)
  | unusedNonTerminal (name : String)
  deriving Repr, DecidableEq

/-- The wording of a warning. -/
def Warning.message : Warning → String
  | .neverReduced production => "Production " ++ quoted production ++ " is never reduced"
  | .unusedTerminal name => "Terminal " ++ quoted name ++ " is unused"
  | .unusedNonTerminal name => "Non terminal " ++ quoted name ++ " is unused"

/-- The warnings that a grammar gives rise to, in the order in which they are issued. -/
def Grammar.warnings (g : Grammar) : List Warning :=
  g.neverReduced.map (fun p => .neverReduced p.shown) ++
    g.unusedTerminals.map (fun s => .unusedTerminal s.name) ++
    g.unusedNonTerminals.map (fun s => .unusedNonTerminal s.name)

end LalrBackend
