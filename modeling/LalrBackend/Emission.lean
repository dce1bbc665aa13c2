import LalrBackend.Constants
import LalrBackend.Module.Printer
import LalrBackend.Packing
import LalrBackend.Report
import LalrBackend.Table.Action
import LalrBackend.Table.Goto

/-!
# Emission

An emission writes the symbol constants or the parser module of a grammar. Its outcome holds what
was written, the warnings and the report, also if it failed on the way.
-/

namespace LalrBackend

open Cache

/-- What an emission comes to. -/
structure Outcome where
  draft : Draft EmitError
  warnings : List Warning
  report : Report

/-- The report with the numbers of symbols. -/
def Report.withSymbols (r : Report) (g : Grammar) : Report :=
  { r with terminals := g.terminals.length, nonTerminals := g.nonTerminals.length }

/-- Writes the symbol constants. A failure leaves the report as it was. -/
def emitSymbols (c : Config) (g : Grammar) (r : Report) : Outcome :=
  let draft := Constants.classDraft c g
  ⟨draft, [], if draft.failure.isNone then r.withSymbols g else r⟩

/-- Writes the class of actions alone. -/
def emitActions (c : Config) (g : Grammar) : Draft EmitError :=
  ParserModule.actionsDraft c (ParserModule.actionMethods c g.start g.productions)

/-- A table of actions as a generation takes it: as built, or already compressed. -/
inductive ActionSource where
  | table (t : ActionTable)
  | fixed (values : List Int)

/-- The compressed values. -/
def ActionSource.values (compact : Bool) : ActionSource → List Int
  | .table t => t.compress compact
  | .fixed values => values

/-- A table of transitions as a generation takes it: as built, or already compressed. -/
inductive GotoSource where
  | table (t : GotoTable)
  | fixed (values : List Int)

/-- The compressed values. -/
def GotoSource.values : GotoSource → List Int
  | .table t => t.compress
  | .fixed values => values

/-- The tables that a parser module embeds. -/
def tablesOf (c : Config) (g : Grammar) (action : ActionSource) (reduce : GotoSource) : Tables :=
  ⟨g.productionTable, action.values c.compactReduces, reduce.values⟩

/-- The first production that is not at the position of its index. -/
def misplaced? (position : Nat) : List Production → Option (Production × Nat)
  | [] => none
  | p :: ps => if p.index = position then misplaced? (position + 1) ps else some (p, position)

/-- The start production of a grammar whose productions are all in their places. -/
def checkedStart (g : Grammar) : Except GeneratorError Production :=
  match g.startProduction? with
  | none => .error .noStart
  | some start =>
    match misplaced? 0 g.productions with
    | some (p, position) => .error (.misplaced p.shown p.index position)
    | none => .ok start

/-- What a whole emission of a parser comes to: the outcome, the module if there is one, and the
cache afterwards. -/
structure ParserOutcome where
  outcome : Outcome
  module? : Option ParserModule
  store : Store

/-- Writes the parser module of a grammar. The checks come first, then the packing, then the
writing. The unused counts are reported once the checks are passed, the sizes of the tables once
they are packed, the number of productions once all is written. A hit of the cache is noted in the
report and stays noted. -/
def emitParser (c : Config) (g : Grammar) (action : ActionSource) (reduce : GotoSource)
    (r : Report) (s : Store) : ParserOutcome :=
  match checkedStart g with
  | .error e => ⟨⟨Draft.fail (.refused e), [], r⟩, none, s⟩
  | .ok start =>
    let r := r.withUnused g
    let warnings := if c.noWarnings then [] else g.warnings
    let packing := pack c s (tablesOf c g action reduce)
    let r := if packing.hit then { r with cacheHit := true } else r
    match packing.result with
    | .error e => ⟨⟨Draft.fail e, warnings, r⟩, none, packing.store⟩
    | .ok packed =>
      let m := ParserModule.ofGrammar c g start.index packed
      let r := { r with tableSizes := packed.sizes }
      let draft := m.draft
      let r := if draft.failure.isNone then { r with productions := g.productions.length } else r
      ⟨⟨draft, warnings, r⟩, some m, packing.store⟩

end LalrBackend
