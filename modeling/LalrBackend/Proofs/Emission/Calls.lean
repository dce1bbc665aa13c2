import LalrBackend.Proofs.Cache.Store
import LalrBackend.Proofs.Emission.Outcome

/-!
# Calls of the emitter

A call emits a parser into a text of its own. All that its outcome takes from the cache is
what the packing comes to and the note of a hit: no line of a module depends on the cache
identifier.
-/

namespace LalrBackend

open Cache

/-! ## Modules -/

/-- The settings without a cache identifier. -/
def Config.withoutCache (c : Config) : Config :=
  { c with cacheId := none }

section Modules

variable (c : Config)

theorem Reduction.bindingsAt_withoutCache (p : Production) (positions : List Nat) :
    bindingsAt c.withoutCache p positions = bindingsAt c p positions := by
  induction positions with
  | nil => rfl
  | cons position rest ih =>
      rw [bindingsAt, bindingsAt, ih]
      rfl

theorem Reduction.body_withoutCache (p : Production) (isStart : Bool) :
    body c.withoutCache p isStart = body c p isStart := by
  rw [body, body, bindingsAt_withoutCache]
  rfl

/-- No text of a module tells whether there was a cache. -/
theorem ParserModule.draft_withoutCache (g : Grammar) (start : Int) (packed : PackedTables) :
    (ofGrammar c.withoutCache g start packed).draft = (ofGrammar c g start packed).draft := by
  have hactions : actionMethods c.withoutCache g.start g.productions =
      actionMethods c g.start g.productions := by
    simp only [actionMethods, Reduction.body_withoutCache]
  rw [ofGrammar, ofGrammar, hactions]
  rfl

end Modules

/-! ## Calls -/

/-- A call that emits a parser, and whether the file system is read-only by then. -/
structure Call where
  config : Config
  grammar : Grammar
  action : ActionSource
  reduce : GotoSource
  readOnly : Bool

namespace Call

/-- The tables that a call packs. -/
def tables (call : Call) : Tables :=
  tablesOf call.config call.grammar call.action call.reduce

/-- The same call without a cache identifier. -/
def uncached (call : Call) : Call :=
  { call with config := call.config.withoutCache }

/-- The cache directory as a call finds it. -/
def found (call : Call) (s : Store) : Store :=
  { s with creation := if call.readOnly then .readOnly else .works }

/-- What a call comes to. -/
def emit (call : Call) (s : Store) : ParserOutcome :=
  emitParser call.config call.grammar call.action call.reduce {} (call.found s)

/-- What the packing of a call comes to. -/
def packing (call : Call) (s : Store) : Packing :=
  pack call.config (call.found s) call.tables

/-- The bytes that are digested for a call. -/
def digested (call : Call) : List UInt8 :=
  keyBytes call.tables (flagOf call.config.compactReduces)

/-- Whether the checks of a call pass. -/
def Passes (call : Call) : Prop :=
  ∃ start, checkedStart call.grammar = .ok start

/-- Whether a call comes to look into the cache: its checks pass and it has an identifier. -/
structure LooksUp (call : Call) : Prop where
  passes : call.Passes
  cached : call.config.cacheId.isSome = true

/-- Whether a call leaves the entry of its tables in the cache: it looks there, its tables
can be packed, and the directory is there or can be created. -/
structure Stores (call : Call) (s : Store) : Prop where
  looks : call.LooksUp
  packs : ∃ units, packAll call.tables = .ok units
  room : (call.found s).HasRoom

/-- Whether two calls ask for one entry: their identifiers have the same bytes, and their
tables and their ways of compressing are the same. -/
def SharesEntry (a b : Call) : Prop :=
  ∃ id id', a.config.cacheId = some id ∧ b.config.cacheId = some id' ∧
    bytesOf id = bytesOf id' ∧ a.tables = b.tables ∧
    a.config.compactReduces = b.config.compactReduces

/-- The name of the file that a call asks for. -/
def file? (call : Call) : Option String :=
  call.config.cacheId.map fun id =>
    systemName (fileOf id call.tables call.config.compactReduces)

end Call

/-! ## Outcomes of calls -/

section Outcomes

variable {call : Call} {s : Store}

theorem Call.emit_of_refused {e : GeneratorError} (h : checkedStart call.grammar = .error e)
    (s : Store) :
    call.emit s = ⟨⟨Draft.fail (.refused e), [], {}⟩, none, call.found s⟩ :=
  emitParser_of_refused h

theorem Call.emit_of_unpacked {first : Production} {e : EmitError}
    (hstart : checkedStart call.grammar = .ok first)
    (hresult : (call.packing s).result = .error e) :
    call.emit s = ⟨⟨Draft.fail e, call.config.issued call.grammar,
      ({} : Report).afterPacking call.grammar (call.packing s)⟩, none,
        (call.packing s).store⟩ :=
  emitParser_of_unpacked hstart hresult

/-- The module that a call writes from packed tables. -/
def Call.module (call : Call) (first : Production) (packed : PackedTables) : ParserModule :=
  ParserModule.ofGrammar call.config call.grammar first.index packed

/-- The report of a call once all is written, or as much as can be. -/
def Call.reportOf (call : Call) (written : Bool) (sizes : List (String × Nat))
    (packing : Packing) : Report :=
  let after := { ({} : Report).afterPacking call.grammar packing with tableSizes := sizes }
  if written then { after with productions := call.grammar.productions.length } else after

theorem Call.emit_of_packed {first : Production} {packed : PackedTables}
    (hstart : checkedStart call.grammar = .ok first)
    (hresult : (call.packing s).result = .ok packed) :
    call.emit s = ⟨⟨(call.module first packed).draft, call.config.issued call.grammar,
      call.reportOf (call.module first packed).draft.failure.isNone packed.sizes
        (call.packing s)⟩, some (call.module first packed), (call.packing s).store⟩ :=
  emitParser_of_packed hstart hresult

theorem Call.emit_store_of_not_passes (h : ¬ call.Passes) :
    (call.emit s).store = call.found s := by
  cases hstart : checkedStart call.grammar with
  | error e => rw [call.emit_of_refused hstart]
  | ok first => exact absurd ⟨first, hstart⟩ h

theorem Call.emit_store_of_passes (h : call.Passes) :
    (call.emit s).store = (call.packing s).store := by
  obtain ⟨first, hstart⟩ := h
  cases hresult : (call.packing s).result with
  | error e => rw [call.emit_of_unpacked hstart hresult]
  | ok packed => rw [call.emit_of_packed hstart hresult]

/-- A hit is noted in the report, and nothing else of the report depends on it. -/
theorem Report.afterPacking_hit (g : Grammar) (packing : Packing) :
    ({} : Report).afterPacking g packing =
      { ({} : Report).withUnused g with cacheHit := packing.hit } := by
  rw [Report.afterPacking]
  cases packing.hit <;> rfl

/-- What a packing comes to is all that an outcome takes from the cache, apart from the
note of a hit. -/
theorem Call.emit_of_packing (h : call.Passes →
      (call.packing s).result = (packPlain (call.found s) call.tables).result) :
    (call.emit s).outcome.draft = (call.uncached.emit s).outcome.draft ∧
      (call.emit s).outcome.warnings = (call.uncached.emit s).outcome.warnings ∧
      { (call.emit s).outcome.report with cacheHit := false } =
        (call.uncached.emit s).outcome.report ∧
      ((call.emit s).outcome.report.cacheHit = true ↔
        call.Passes ∧ (call.packing s).hit = true) := by
  -- Both calls end in the same of the three ways, since they pack the same.
  have hplain : call.uncached.packing s = packPlain (call.found s) call.tables := rfl
  have hmiss : (call.uncached.packing s).hit = false := packPlain_hit _ _
  rw [← hplain] at h
  cases hstart : checkedStart call.grammar with
  | error e =>
      have hfails : ¬ call.Passes := by
        rintro ⟨first, hpasses⟩
        rw [hstart] at hpasses
        cases hpasses
      rw [call.emit_of_refused hstart, call.uncached.emit_of_refused hstart]
      refine ⟨rfl, rfl, rfl, ?_⟩
      simp [hfails]
  | ok first =>
      have hpasses : call.Passes := ⟨first, hstart⟩
      have h := h hpasses
      cases hresult : (call.uncached.packing s).result with
      | error e =>
          rw [hresult] at h
          rw [call.emit_of_unpacked hstart h, call.uncached.emit_of_unpacked hstart hresult]
          refine ⟨rfl, rfl, ?_, ?_⟩
          · simp only [Report.afterPacking_hit, hmiss]
            rfl
          · simp only [Report.afterPacking_hit, hpasses, true_and]
      | ok packed =>
          rw [hresult] at h
          have hdraft : (call.uncached.module first packed).draft =
              (call.module first packed).draft :=
            ParserModule.draft_withoutCache call.config call.grammar first.index packed
          rw [call.emit_of_packed hstart h, call.uncached.emit_of_packed hstart hresult, hdraft]
          refine ⟨rfl, rfl, ?_, ?_⟩
          · simp only [Call.reportOf, Report.afterPacking_hit, hmiss]
            split <;> rfl
          · simp only [Call.reportOf, Report.afterPacking_hit, hpasses, true_and]
            split <;> rfl

theorem Call.textOf?_found (call : Call) (s : Store) (name : String) :
    (call.found s).textOf? name = s.textOf? name := rfl

/-- A call that passes and does not look into the cache has no identifier. -/
theorem Call.packing_of_not_looksUp (hpasses : call.Passes) (h : ¬ call.LooksUp) :
    call.config.cacheId = none ∧
      ∀ s, call.packing s = packPlain (call.found s) call.tables := by
  have hid : call.config.cacheId = none := by
    by_contra hsome
    exact h ⟨hpasses, Option.isSome_iff_ne_none.mpr hsome⟩
  refine ⟨hid, fun s => ?_⟩
  rw [Call.packing, pack, hid]

/-- A call that does not look into the cache leaves all files as they were. -/
theorem Call.textOf?_emit_of_not_looksUp (h : ¬ call.LooksUp) (name : String) :
    (call.emit s).store.textOf? name = s.textOf? name := by
  by_cases hpasses : call.Passes
  · rw [Call.emit_store_of_passes hpasses, (Call.packing_of_not_looksUp hpasses h).2, packPlain]
    split <;> rfl
  · rw [Call.emit_store_of_not_passes hpasses]
    rfl

end Outcomes

end LalrBackend
