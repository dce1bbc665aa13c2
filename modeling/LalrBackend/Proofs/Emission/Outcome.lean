import LalrBackend.Emission
import Mathlib.Tactic.Common

/-!
# Outcomes of emissions

An emission of a parser ends in one of three ways: a check fails and nothing is
written, the packing fails and nothing is written, or a module is written as far
as it can be. Everything else about an emission is read off these three.
-/

namespace LalrBackend

/-! ## Drafts -/

namespace Draft

variable {ε : Type}

theorem append_of_failure_eq_none {a : Draft ε} (h : a.failure = none) (b : Draft ε) :
    a ++ b = ⟨a.lines ++ b.lines, b.failure⟩ := by
  show Draft.append a b = _
  rw [Draft.append, h]

theorem append_of_failure_eq_some {a : Draft ε} {e : ε} (h : a.failure = some e)
    (b : Draft ε) : a ++ b = a := by
  show Draft.append a b = _
  rw [Draft.append, h]

/-- A draft after another one is finished exactly if both are. -/
theorem append_failure_eq_none {a b : Draft ε} :
    (a ++ b).failure = none ↔ a.failure = none ∧ b.failure = none := by
  cases ha : a.failure with
  | none => rw [append_of_failure_eq_none ha]; simp
  | some e => rw [append_of_failure_eq_some ha, ha]; simp

/-- Several drafts are finished if each of them is. -/
theorem concat_failure_eq_none {ds : List (Draft ε)} :
    (concat ds).failure = none ↔ ∀ d ∈ ds, d.failure = none := by
  induction ds with
  | nil => simp [concat]
  | cons d ds ih =>
      have hcons : concat (d :: ds) = d ++ concat ds := rfl
      rw [hcons, append_failure_eq_none, ih]
      simp

@[simp] theorem ofLines_lines (ls : List String) :
    (ofLines ls : Draft ε).lines = ls := rfl

@[simp] theorem ofLines_failure (ls : List String) :
    (ofLines ls : Draft ε).failure = none := rfl

@[simp] theorem fail_failure (e : ε) : (fail e).failure = some e := rfl

end Draft

/-! ## Emissions of parsers -/

section Parser

variable {c : Config} {g : Grammar} {action : ActionSource} {reduce : GotoSource}
  {r : Report} {s : Cache.Store}

/-- The report of an emission once its tables are packed. -/
def Report.afterPacking (r : Report) (g : Grammar) (packing : Packing) : Report :=
  if packing.hit then { r.withUnused g with cacheHit := true } else r.withUnused g

/-- The warnings of an emission whose checks pass. -/
def Config.issued (c : Config) (g : Grammar) : List Warning :=
  if c.noWarnings then [] else g.warnings

theorem packPlain_hit (s : Cache.Store) (t : Cache.Tables) : (packPlain s t).hit = false := by
  rw [packPlain]
  split <;> rfl

theorem emitParser_of_refused {e : GeneratorError} (h : checkedStart g = .error e) :
    emitParser c g action reduce r s = ⟨⟨Draft.fail (.refused e), [], r⟩, none, s⟩ := by
  unfold emitParser
  rw [h]

theorem emitParser_of_unpacked {start : Production} {e : EmitError}
    (hstart : checkedStart g = .ok start)
    (hpack : (pack c s (tablesOf c g action reduce)).result = .error e) :
    emitParser c g action reduce r s =
      ⟨⟨Draft.fail e, c.issued g,
          r.afterPacking g (pack c s (tablesOf c g action reduce))⟩,
        none, (pack c s (tablesOf c g action reduce)).store⟩ := by
  unfold emitParser
  rw [hstart]
  simp only [hpack]
  rfl

theorem emitParser_of_packed {start : Production} {packed : Cache.PackedTables}
    (hstart : checkedStart g = .ok start)
    (hpack : (pack c s (tablesOf c g action reduce)).result = .ok packed) :
    emitParser c g action reduce r s =
      let m := ParserModule.ofGrammar c g start.index packed
      let after := { r.afterPacking g (pack c s (tablesOf c g action reduce)) with
        tableSizes := packed.sizes }
      ⟨⟨m.draft, c.issued g, if m.draft.failure.isNone then
          { after with productions := g.productions.length } else after⟩,
        some m, (pack c s (tablesOf c g action reduce)).store⟩ := by
  unfold emitParser
  rw [hstart]
  simp only [hpack]
  rfl

/-- What is written to its end is a module: its start production was found in its
place and its tables could be packed. -/
theorem emitParser_written
    (h : (emitParser c g action reduce r s).outcome.draft.failure = none) :
    ∃ start packed, checkedStart g = .ok start ∧
      (pack c s (tablesOf c g action reduce)).result = .ok packed ∧
      (emitParser c g action reduce r s).module? =
        some (ParserModule.ofGrammar c g start.index packed) ∧
      (emitParser c g action reduce r s).outcome.draft =
        (ParserModule.ofGrammar c g start.index packed).draft := by
  cases hstart : checkedStart g with
  | error e =>
      rw [emitParser_of_refused hstart, Draft.fail_failure] at h
      cases h
  | ok start =>
      cases hpack : (pack c s (tablesOf c g action reduce)).result with
      | error e =>
          rw [emitParser_of_unpacked hstart hpack, Draft.fail_failure] at h
          cases h
      | ok packed =>
          refine ⟨start, packed, rfl, rfl, ?_, ?_⟩
          · rw [emitParser_of_packed hstart hpack]
          · rw [emitParser_of_packed hstart hpack]

end Parser

end LalrBackend
