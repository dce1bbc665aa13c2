import LalrBackend.Proofs.Emission.EmbeddedTables
import LalrBackend.Proofs.Emission.Refusals
import Mathlib.Data.List.Induction

/-!
# Sessions

A session edits a grammar and calls the emitter in any order, without a cache and with one
report for all calls. A call fills in its own fields of the report, as far as it comes, and
leaves the other ones. So each field holds what was the case when the last call that came as
far as this field was made, whatever failed or was edited since.
-/

namespace LalrBackend

open Cache Packed

/-! ## How far a call comes -/

/-- How far a call for a parser comes: the checks refuse it, a table cannot be packed, a
method cannot be written, or all is written. -/
inductive Stage where
  | refused
  | unpacked
  | unfinished
  | written
  deriving DecidableEq

namespace Stage

/-- The stage at which a call for a grammar and its tables ends. -/
def Reached (g : Grammar) (t : Tables) : Stage → Prop
  | .refused => ¬ g.IsPlaced
  | .unpacked => g.IsPlaced ∧ ¬ t.InRange
  | .unfinished => g.IsPlaced ∧ t.InRange ∧ ¬ g.HasParts
  | .written => g.IsPlaced ∧ t.InRange ∧ g.HasParts

/-- What a call fails for at each stage. -/
def FailsFor (g : Grammar) (t : Tables) : Stage → Option EmitError → Prop
  | .refused, failure => ∃ e, g.RefusedFor e ∧ failure = some (.refused e)
  | .unpacked, failure =>
    ∃ v, FirstOutOfRange t.values v ∧ failure = some (.refused (.valueTooWide v))
  | .unfinished, failure =>
    ∃ p ∈ g.productions, ∃ i < p.length, ∃ e, p.part i = .error e ∧
      failure = some (.ofGrammar e)
  | .written, failure => failure = none

/-- The warnings that were issued at each stage: one for each production that is never
reduced, then one for each terminal and one for each non-terminal that no production uses. -/
def warnings (c : Config) (g : Grammar) : Stage → List Warning
  | .refused => []
  | _ =>
    if c.noWarnings then []
    else
      (g.productions.filter (·.reduced == some 0)).map (fun p => .neverReduced p.shown) ++
        ((g.terminals.drop 2).filter (·.useCount == some 0)).map
          (fun d => .unusedTerminal d.symbol.name) ++
        (g.nonTerminals.filter (·.useCount == some 0)).map
          (fun d => .unusedNonTerminal d.symbol.name)

theorem Reached.unique {g : Grammar} {t : Tables} {a b : Stage} (ha : a.Reached g t)
    (hb : b.Reached g t) : a = b := by
  cases a <;> cases b <;> simp_all [Reached]

end Stage

/-- How many productions are never reduced, and how many terminals and non-terminals no
production uses. The two terminals that are always there do not count. -/
def Grammar.unusedCounts (g : Grammar) : Nat × Nat × Nat :=
  (g.productions.countP (·.reduced == some 0),
    (g.terminals.drop 2).countP (·.useCount == some 0),
    g.nonTerminals.countP (·.useCount == some 0))

/-- The sizes of packed tables: three units more than there are values. -/
def Cache.Tables.packedSizes (t : Tables) : List (String × Nat) :=
  t.members.map fun (key, values) => (key, values.length + 3)

namespace Report

/-- The counts of what is never used. -/
def unusedCounts (r : Report) : Nat × Nat × Nat :=
  (r.notReduced, r.unusedTerminals, r.unusedNonTerminals)

/-- The report with the given counts of what is never used. -/
def withCounts (r : Report) (counts : Nat × Nat × Nat) : Report :=
  { r with
    notReduced := counts.1
    unusedTerminals := counts.2.1
    unusedNonTerminals := counts.2.2 }

/-- The report that a call leaves that ends at a stage. -/
def atStage (r : Report) (g : Grammar) (t : Tables) : Stage → Report
  | .refused => r
  | .unpacked => r.withCounts g.unusedCounts
  | .unfinished => { r.withCounts g.unusedCounts with tableSizes := t.packedSizes }
  | .written =>
    { r.withCounts g.unusedCounts with
      tableSizes := t.packedSizes
      productions := g.productions.length }

theorem withUnused_eq (r : Report) (g : Grammar) :
    r.withUnused g = r.withCounts g.unusedCounts := by
  simp only [withUnused, withCounts, Grammar.unusedCounts, Grammar.neverReduced,
    Grammar.unusedTerminals, Grammar.unusedNonTerminals, List.length_map,
    List.countP_eq_length_filter]

end Report

/-! ## Calls -/

/-- What a call for a parser comes to at the stage that it reaches. Of the report it changes
only the fields of this stage. -/
structure Stage.Describes (stage : Stage) (c : Config) (g : Grammar) (t : Tables) (r : Report)
    (o : Outcome) : Prop where
  reached : stage.Reached g t
  failure : stage.FailsFor g t o.draft.failure
  report : o.report = r.atStage g t stage
  warnings : o.warnings = stage.warnings c g

/-- What a call for the symbol constants comes to. -/
structure DescribesSymbols (g : Grammar) (r : Report) (o : Outcome) : Prop where
  success : o.draft.failure = none → o.report =
    { r with terminals := g.terminals.length, nonTerminals := g.nonTerminals.length }
  failure : o.draft.failure ≠ none → o.report = r
  warnings : o.warnings = []

section Calls

variable {c : Config} {g : Grammar} {r : Report}

theorem describesSymbols_emitSymbols (c : Config) (g : Grammar) (r : Report) :
    DescribesSymbols g r (emitSymbols c g r) where
  success h := by
    have hwritten : (Constants.classDraft c g).failure = none := h
    rw [emitSymbols]
    simp only [hwritten, Option.isNone_none, if_true]
    rfl
  failure h := by
    have hfailed : (Constants.classDraft c g).failure ≠ none := h
    rw [emitSymbols]
    simp only [Option.isNone_iff_eq_none, hfailed, if_false]
  warnings := rfl

theorem warnings_eq_issued {stage : Stage} (h : stage ≠ .refused) :
    stage.warnings c g = c.issued g := by
  have hwarnings : c.issued g = Stage.warnings c g .written := by
    simp only [Stage.warnings, Config.issued, Grammar.warnings, Grammar.neverReduced,
      Grammar.unusedTerminals, Grammar.unusedNonTerminals, List.map_map]
    rfl
  rw [hwarnings]
  cases stage with
  | refused => exact absurd rfl h
  | unpacked => rfl
  | unfinished => rfl
  | written => rfl

/-- There are as many warnings as unused declarations are counted. -/
theorem Stage.Describes.length_warnings {stage : Stage} {t : Tables} {o : Outcome}
    (h : stage.Describes c g t r o) (hplaced : g.IsPlaced) (hwarn : c.noWarnings = false) :
    o.warnings.length =
      o.report.notReduced + o.report.unusedTerminals + o.report.unusedNonTerminals := by
  have hreached := h.reached
  rw [h.warnings, h.report]
  cases stage with
  | refused => exact absurd hplaced hreached
  | unpacked | unfinished | written =>
      simp [Stage.warnings, Report.atStage, Report.withCounts, Grammar.unusedCounts, hwarn,
        List.countP_eq_length_filter]
      omega

theorem Report.afterPacking_packPlain (r : Report) (g : Grammar) (s : Store) (t : Tables) :
    r.afterPacking g (packPlain s t) = r.withCounts g.unusedCounts := by
  rw [Report.afterPacking, packPlain_hit, Report.withUnused_eq]
  rfl

theorem sizes_ofUnits (t : Tables) : (PackedTables.ofUnits t.units).sizes = t.packedSizes := by
  simp only [PackedTables.ofUnits, unitCounts, Tables.units, Tables.members,
    Tables.packedSizes, List.map_cons, List.map_nil, unitsFor_length]

/-- A call for a parser without a cache ends at one of the stages. -/
theorem exists_stage_describes (hcache : c.cacheId = none) (g : Grammar)
    (action : ActionSource) (reduce : GotoSource) (r : Report) (s : Store) :
    ∃ stage : Stage, stage.Describes c g (tablesOf c g action reduce) r
      (emitParser c g action reduce r s).outcome := by
  have hpack : pack c s (tablesOf c g action reduce) =
      packPlain s (tablesOf c g action reduce) := by
    rw [pack, hcache]
  by_cases hplaced : g.IsPlaced
  · obtain ⟨start, hstart⟩ := Grammar.isPlaced_iff.mp hplaced
    by_cases hrange : (tablesOf c g action reduce).InRange
    · have hresult : (pack c s (tablesOf c g action reduce)).result =
          .ok (.ofUnits (tablesOf c g action reduce).units) := by
        rw [hpack, packPlain, packAll_of_inRange hrange]
      have hfailure := ParserModule.draft_failure_eq_none_iff c g start.index
        (tablesOf c g action reduce).units
      rw [emitParser_of_packed hstart hresult, hpack]
      simp only [Report.afterPacking_packPlain, sizes_ofUnits]
      by_cases hparts : g.HasParts
      · have hwritten := hfailure.mpr hparts
        refine ⟨.written, ⟨hplaced, hrange, hparts⟩, hwritten, ?_,
          (warnings_eq_issued (by decide)).symm⟩
        simp only [hwritten]
        rfl
      · obtain ⟨e, he⟩ := Option.ne_none_iff_exists'.mp (mt hfailure.mp hparts)
        obtain ⟨p, hp, i, hi, e', hpart, rfl⟩ := ParserModule.exists_of_draft_failure he
        refine ⟨.unfinished, ⟨hplaced, hrange, hparts⟩, ⟨p, hp, i, hi, e', hpart, he⟩, ?_,
          (warnings_eq_issued (by decide)).symm⟩
        simp only [he]
        rfl
    · obtain ⟨v, hv, hunits⟩ := packAll_of_not_inRange hrange
      have hresult : (pack c s (tablesOf c g action reduce)).result =
          .error (.refused (.valueTooWide v)) := by
        rw [hpack, packPlain, hunits]
      rw [emitParser_of_unpacked hstart hresult, hpack, Report.afterPacking_packPlain]
      exact ⟨.unpacked, ⟨hplaced, hrange⟩, ⟨v, hv, rfl⟩, rfl,
        (warnings_eq_issued (by decide)).symm⟩
  · cases hstart : checkedStart g with
    | ok start => exact absurd (Grammar.isPlaced_iff.mpr ⟨start, hstart⟩) hplaced
    | error e =>
        rw [emitParser_of_refused hstart]
        exact ⟨.refused, hplaced, ⟨e, refusedFor_of_checkedStart hstart, rfl⟩, rfl, rfl⟩

end Calls

/-! ## Sessions -/

/-- A step of a session: an edit of the grammar, a call for the symbol constants or a call
for a parser. -/
inductive SessionStep where
  | edit (change : Grammar → Grammar)
  | symbols
  | parser (action : ActionSource) (reduce : GotoSource)

/-- What a session has between two steps. -/
structure Session where
  grammar : Grammar
  report : Report
  store : Store

namespace Session

/-- What a call for the symbol constants comes to. -/
def symbolsCall (c : Config) (st : Session) : Outcome :=
  emitSymbols c st.grammar st.report

/-- What a call for a parser comes to. -/
def parserCall (c : Config) (st : Session) (action : ActionSource) (reduce : GotoSource) :
    ParserOutcome :=
  emitParser c st.grammar action reduce st.report st.store

/-- One step of a session. -/
def step (c : Config) (st : Session) : SessionStep → Session
  | .edit change => { st with grammar := change st.grammar }
  | .symbols => { st with report := (st.symbolsCall c).report }
  | .parser action reduce =>
    let call := st.parserCall c action reduce
    { st with report := call.outcome.report, store := call.store }

/-- The session after some steps. -/
def after (c : Config) (first : Session) (steps : List SessionStep) : Session :=
  steps.foldl (step c) first

theorem after_snoc (c : Config) (first : Session) (steps : List SessionStep)
    (last : SessionStep) :
    first.after c (steps ++ [last]) = (first.after c steps).step c last := by
  rw [after, List.foldl_append]
  rfl

end Session

/-! ## What was filled in last -/

section Latest

variable {α : Type} {c : Config} {first : Session} {steps : List SessionStep}
  {fills : Session → SessionStep → α → Prop} {i : Nat} {v : α}

/-- The step at a position of a session fills in a value. -/
def FillsAt (c : Config) (first : Session) (steps : List SessionStep)
    (fills : Session → SessionStep → α → Prop) (i : Nat) (v : α) : Prop :=
  ∃ step, steps[i]? = some step ∧ fills (first.after c (steps.take i)) step v

/-- A value is the one that was filled in last, or the one at first if there was none. -/
def IsLatest (c : Config) (first : Session) (steps : List SessionStep)
    (fills : Session → SessionStep → α → Prop) (atFirst v : α) : Prop :=
  (∃ i, FillsAt c first steps fills i v ∧
      ∀ j w, FillsAt c first steps fills j w → j ≤ i) ∨
    v = atFirst ∧ ∀ i w, ¬ FillsAt c first steps fills i w

theorem fillsAt_lt (h : FillsAt c first steps fills i v) : i < steps.length := by
  obtain ⟨step, hstep, _⟩ := h
  exact (List.getElem?_eq_some_iff.mp hstep).1

theorem fillsAt_snoc {last : SessionStep} : FillsAt c first (steps ++ [last]) fills i v ↔
    FillsAt c first steps fills i v ∨
      i = steps.length ∧ fills (first.after c steps) last v := by
  rcases Nat.lt_trichotomy i steps.length with hlt | rfl | hgt
  · rw [FillsAt, List.getElem?_append_left hlt, List.take_append_of_le_length hlt.le]
    simp [FillsAt, hlt.ne]
  · simp [FillsAt]
  · have hnone : (steps ++ [last])[i]? = none := by
      rw [List.getElem?_eq_none_iff, List.length_append, List.length_singleton]
      omega
    have hbefore : ¬ FillsAt c first steps fills i v := fun h => by
      have hlt := fillsAt_lt h
      omega
    simp [FillsAt, hnone, hgt.ne', List.getElem?_eq_none hgt.le]

/-- What every step either fills in or leaves alone holds what was filled in last. -/
theorem isLatest_after (field : Session → α)
    (hfill : ∀ st step v, fills st step v → field (st.step c step) = v)
    (hkeep : ∀ st step, (∀ v, ¬ fills st step v) → field (st.step c step) = field st)
    (first : Session) (steps : List SessionStep) :
    IsLatest c first steps fills (field first) (field (first.after c steps)) := by
  induction steps using List.reverseRecOn with
  | nil => exact Or.inr ⟨rfl, fun i v h => absurd (fillsAt_lt h) (Nat.not_lt_zero i)⟩
  | append_singleton steps last ih =>
      rw [Session.after_snoc]
      by_cases hlast : ∃ v, fills (first.after c steps) last v
      · obtain ⟨v, hv⟩ := hlast
        rw [hfill _ _ v hv]
        refine Or.inl ⟨steps.length, fillsAt_snoc.mpr (Or.inr ⟨rfl, hv⟩), ?_⟩
        intro j w h
        have hlt := fillsAt_lt h
        rw [List.length_append, List.length_singleton] at hlt
        omega
      · rw [not_exists] at hlast
        rw [hkeep _ _ hlast]
        -- The last step fills in nothing, so what fills in are the steps before it.
        have hsame : ∀ i v, FillsAt c first (steps ++ [last]) fills i v ↔
            FillsAt c first steps fills i v := by
          intro i v
          rw [fillsAt_snoc]
          simp [hlast]
        simpa only [IsLatest, hsame] using ih

end Latest

/-! ## Fields of the report -/

/-- A call for the symbol constants that is written to its end fills in their numbers. -/
inductive FillsSymbols (c : Config) (st : Session) : SessionStep → Nat × Nat → Prop where
  | symbols (h : (st.symbolsCall c).draft.failure = none) :
      FillsSymbols c st .symbols (st.grammar.terminals.length, st.grammar.nonTerminals.length)

/-- A call for a parser that ends at one of some stages fills in a value that depends on the
grammar and the tables. -/
inductive FillsFrom {α : Type} (c : Config) (stages : List Stage)
    (value : Grammar → Tables → α) (st : Session) : SessionStep → α → Prop where
  | parser {action : ActionSource} {reduce : GotoSource} {stage : Stage}
      (h : stage.Reached st.grammar (tablesOf c st.grammar action reduce))
      (hstage : stage ∈ stages) :
      FillsFrom c stages value st (.parser action reduce)
        (value st.grammar (tablesOf c st.grammar action reduce))

/-- What the fields of a shared report hold after a session: each what was filled in last,
as it was when it was filled in. -/
structure Session.FieldsAreLatest (c : Config) (first : Session) (steps : List SessionStep)
    (r : Report) : Prop where
  symbols : IsLatest c first steps (FillsSymbols c)
    (first.report.terminals, first.report.nonTerminals) (r.terminals, r.nonTerminals)
  counts : IsLatest c first steps
    (FillsFrom c [.unpacked, .unfinished, .written] fun g _ => g.unusedCounts)
    first.report.unusedCounts r.unusedCounts
  sizes : IsLatest c first steps
    (FillsFrom c [.unfinished, .written] fun _ t => t.packedSizes)
    first.report.tableSizes r.tableSizes
  productions : IsLatest c first steps
    (FillsFrom c [.written] fun g _ => g.productions.length)
    first.report.productions r.productions
  hit : r.cacheHit = first.report.cacheHit

section Fields

variable {c : Config} (hcache : c.cacheId = none)
include hcache

theorem Session.exists_step_parser (st : Session) (action : ActionSource)
    (reduce : GotoSource) :
    ∃ stage : Stage, stage.Reached st.grammar (tablesOf c st.grammar action reduce) ∧
      (st.step c (.parser action reduce)).report =
        st.report.atStage st.grammar (tablesOf c st.grammar action reduce) stage := by
  obtain ⟨stage, h⟩ :=
    exists_stage_describes hcache st.grammar action reduce st.report st.store
  exact ⟨stage, h.reached, h.report⟩

/-- A field that calls for a parser fill in at some stages, and nothing else touches, holds
what was filled in last. -/
theorem isLatest_field {α : Type} {field : Report → α} {stages : List Stage}
    {value : Grammar → Tables → α}
    (hstage : ∀ (r : Report) (g : Grammar) (t : Tables) (stage : Stage),
      field (r.atStage g t stage) = if stage ∈ stages then value g t else field r)
    (hsymbols : ∀ (r : Report) (terminals nonTerminals : Nat),
      field { r with terminals := terminals, nonTerminals := nonTerminals } = field r)
    (first : Session) (steps : List SessionStep) :
    IsLatest c first steps (FillsFrom c stages value) (field first.report)
      (field (first.after c steps).report) := by
  refine isLatest_after (fun st => field st.report) ?_ ?_ first steps
  · rintro st _ _ ⟨hreached, hmem⟩
    obtain ⟨stage, hreached', hreport⟩ := Session.exists_step_parser hcache st _ _
    obtain rfl := hreached.unique hreached'
    rw [hreport, hstage, if_pos hmem]
  · intro st step hnone
    cases step with
    | edit change => rfl
    | symbols =>
        have hcall := describesSymbols_emitSymbols c st.grammar st.report
        show field (emitSymbols c st.grammar st.report).report = _
        by_cases hwritten : (emitSymbols c st.grammar st.report).draft.failure = none
        · rw [hcall.success hwritten, hsymbols]
        · rw [hcall.failure hwritten]
    | parser action reduce =>
        obtain ⟨stage, hreached, hreport⟩ := Session.exists_step_parser hcache st action reduce
        rw [hreport, hstage, if_neg fun hmem => hnone _ (.parser hreached hmem)]

theorem isLatest_symbols (first : Session) (steps : List SessionStep) :
    IsLatest c first steps (FillsSymbols c)
      (first.report.terminals, first.report.nonTerminals)
      ((first.after c steps).report.terminals, (first.after c steps).report.nonTerminals) := by
  refine isLatest_after (fun st => (st.report.terminals, st.report.nonTerminals)) ?_ ?_ first
    steps
  · rintro st _ _ ⟨hwritten⟩
    show ((st.symbolsCall c).report.terminals, (st.symbolsCall c).report.nonTerminals) = _
    rw [Session.symbolsCall, (describesSymbols_emitSymbols c _ _).success hwritten]
  · intro st step hnone
    cases step with
    | edit change => rfl
    | symbols =>
        have hfailed : (st.symbolsCall c).draft.failure ≠ none := fun h => hnone _ (.symbols h)
        show ((st.symbolsCall c).report.terminals, (st.symbolsCall c).report.nonTerminals) = _
        rw [Session.symbolsCall, (describesSymbols_emitSymbols c _ _).failure hfailed]
    | parser action reduce =>
        obtain ⟨stage, _, hreport⟩ := Session.exists_step_parser hcache st action reduce
        simp only [hreport]
        cases stage <;> rfl

theorem cacheHit_after_session (first : Session) (steps : List SessionStep) :
    (first.after c steps).report.cacheHit = first.report.cacheHit := by
  induction steps using List.reverseRecOn with
  | nil => rfl
  | append_singleton steps last ih =>
      rw [Session.after_snoc, ← ih]
      cases last with
      | edit change => rfl
      | symbols =>
          show (if _ then _ else _ : Report).cacheHit = _
          split <;> rfl
      | parser action reduce =>
          obtain ⟨stage, _, hreport⟩ :=
            Session.exists_step_parser hcache (first.after c steps) action reduce
          rw [hreport]
          cases stage <;> rfl

theorem fieldsAreLatest_after (first : Session) (steps : List SessionStep) :
    first.FieldsAreLatest c steps (first.after c steps).report where
  symbols := isLatest_symbols hcache first steps
  counts := isLatest_field hcache (fun r g t stage => by cases stage <;> rfl)
    (fun _ _ _ => rfl) first steps
  sizes := isLatest_field hcache (fun r g t stage => by cases stage <;> rfl)
    (fun _ _ _ => rfl) first steps
  productions := isLatest_field hcache (fun r g t stage => by cases stage <;> rfl)
    (fun _ _ _ => rfl) first steps
  hit := cacheHit_after_session hcache first steps

end Fields

/-- **A shared report is coherent.** Whatever was edited and called before, a call for the
symbol constants changes only their numbers, and only if it is written to its end; a call for
a parser changes the fields of the stage that it reaches, fails for what ends this stage and
warns of what is unused once its checks pass. So after a session each field holds what was
filled in last. -/
theorem shared_report_coherent {c : Config} (hcache : c.cacheId = none) (first : Session)
    (steps : List SessionStep) :
    let st := first.after c steps
    DescribesSymbols st.grammar st.report (st.symbolsCall c) ∧
      (∀ action reduce, ∃ stage : Stage,
        stage.Describes c st.grammar (tablesOf c st.grammar action reduce) st.report
          (st.parserCall c action reduce).outcome) ∧
      first.FieldsAreLatest c steps st.report :=
  ⟨describesSymbols_emitSymbols c _ _, fun _ _ => exists_stage_describes hcache _ _ _ _ _,
    fieldsAreLatest_after hcache first steps⟩

/-- A session for a grammar that has no start production yet. -/
def startlessSession : Session :=
  ⟨{ emptyStart with start := none }, {}, .fresh⟩

/-- The first call is refused and the last one cannot pack its table, after a terminal without
use was added. -/
def startlessSteps : List SessionStep := [
  .parser (.fixed []) (.fixed []),
  .edit fun g => { g with start := some 0 },
  .symbols,
  .parser (.fixed [7]) (.fixed []),
  .edit fun g => { g with terminals := g.terminals ++ [⟨⟨.terminal, "ID", 2, none⟩, some 0⟩] },
  .parser (.fixed [40000]) (.fixed [])]

/-- The report keeps the numbers of symbols, the sizes and the number of productions of the
calls that succeeded, and counts the terminal that the last call found. -/
theorem shared_report_coherent_startless :
    startlessSession.FieldsAreLatest {} startlessSteps
      { terminals := 2, nonTerminals := 1, productions := 1, unusedTerminals := 1,
        tableSizes := [("production_table", 5), ("action_table", 4), ("reduce_table", 3)] } := by
  have hreport : (startlessSession.after {} startlessSteps).report =
      { terminals := 2, nonTerminals := 1, productions := 1, unusedTerminals := 1,
        tableSizes :=
          [("production_table", 5), ("action_table", 4), ("reduce_table", 3)] } := by
    decide +kernel
  have hcache : ({} : Config).cacheId = none := rfl
  obtain ⟨_, _, h⟩ := shared_report_coherent hcache startlessSession startlessSteps
  rwa [hreport] at h

end LalrBackend
