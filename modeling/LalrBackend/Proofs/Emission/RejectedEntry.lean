import LalrBackend.Proofs.Cache.Rejected
import LalrBackend.Proofs.Emission.Calls
import LalrBackend.Proofs.Emission.EmbeddedTables

/-!
# Emissions over rejected entries

An emission that finds a value in the file of its tables which is no entry of them writes and
reports what it would without a cache, and leaves the entry there for the next one.
-/

namespace LalrBackend

open Cache JsonValue

section Parser

variable {c : Config} {g : Grammar} {action : ActionSource} {reduce : GotoSource}
  {r : Report} {s s' : Store}

theorem pack_withoutCache (c : Config) (s : Store) (t : Tables) :
    pack c.withoutCache s t = packPlain s t := rfl

/-- What is written to its end without a cache has passed the checks, and its tables can be
packed. -/
theorem exists_packAll_of_written
    (h : (emitParser c.withoutCache g action reduce r s).outcome.draft.failure = none) :
    ∃ start units, checkedStart g = .ok start ∧
      packAll (tablesOf c g action reduce) = .ok units := by
  obtain ⟨start, packed, hstart, hpack, _⟩ := emitParser_written h
  rw [pack_withoutCache] at hpack
  cases hunits : packAll (tablesOf c g action reduce) with
  | ok units => exact ⟨start, units, hstart, rfl⟩
  | error e =>
      have hplain : (packPlain s (tablesOf c g action reduce)).result =
          .error (.refused e) := by
        rw [packPlain, hunits]
      cases hplain.symm.trans hpack

/-- Where packing gives the freshly packed tables, a cache adds nothing to an outcome but the
note of a hit. -/
theorem emitParser_of_packs {start : Production} {units : Tables} {hit : Bool}
    (hstart : checkedStart g = .ok start)
    (hunits : packAll (tablesOf c g action reduce) = .ok units)
    (hpack : pack c s (tablesOf c g action reduce) = ⟨.ok (.ofUnits units), hit, s'⟩) :
    let plain := (emitParser c.withoutCache g action reduce r s).outcome
    let o := emitParser c g action reduce r s
    o.outcome.draft = (ParserModule.ofGrammar c g start.index (.ofUnits units)).draft ∧
      o.outcome.draft = plain.draft ∧ o.outcome.warnings = c.issued g ∧
      o.outcome.warnings = plain.warnings ∧ plain.report.cacheHit = r.cacheHit ∧
      o.outcome.report = { plain.report with cacheHit := r.cacheHit || hit } ∧ o.store = s' := by
  have hplain : pack c.withoutCache s (tablesOf c.withoutCache g action reduce) =
      ⟨.ok (.ofUnits units), false, s⟩ := by
    show packPlain s (tablesOf c g action reduce) = _
    rw [packPlain, hunits]
  have hdraft := ParserModule.draft_withoutCache c g start.index (.ofUnits units)
  rw [emitParser_of_packed hstart (congrArg Packing.result hpack),
    emitParser_of_packed hstart (congrArg Packing.result hplain), hpack, hplain]
  refine ⟨rfl, hdraft.symm, rfl, rfl, ?_, ?_, rfl⟩
  · simp only [Report.afterPacking]
    split <;> rfl
  · simp only [hdraft, Report.afterPacking]
    cases hit with
    | false =>
        rw [Bool.or_false]
        split <;> rfl
    | true =>
        rw [Bool.or_true]
        split <;> rfl

/-- The name of the file of tables has no slash but those of the identifier. -/
theorem slash_not_mem_fileOf {id : String} (h : '/' ∉ id.toList) (t : Tables) (compact : Bool) :
    '/' ∉ (fileOf id t compact).toList := by
  rw [fileOf, key, fileName_eq, String.toList_append, List.mem_append]
  rintro (hid | htail)
  · exact h hid
  · exact (isNameChar_of_mem_nameTail htail).2.1 rfl

/-- **A rejected cache entry heals itself.** Where the file of the tables holds a value that
is null or cannot stand for them, an emission that succeeds without a cache comes to the same
text, warnings and report with it. The file then holds the entry of the freshly packed tables
and no other file has changed, and the next emission of the same writes the same, notes a hit
and leaves all files as they are. -/
theorem rejected_entry_heals {id text : String} {data : JsonValue}
    (hid : c.cacheId = some id) (hslash : '/' ∉ id.toList)
    (hwritten : (emitParser c.withoutCache g action reduce r s).outcome.draft.failure = none)
    (hproduction : g.productionTable.length < 2 ^ 63)
    (haction : (action.values c.compactReduces).length < 2 ^ 63)
    (hreduce : reduce.values.length < 2 ^ 63)
    (hread : s.read? (fileOf id (tablesOf c g action reduce) c.compactReduces) = some text)
    (hdata : ofText text = .ok data) (hrejected : IsRejected data (tablesOf c g action reduce)) :
    let file := fileOf id (tablesOf c g action reduce) c.compactReduces
    let plain := (emitParser c.withoutCache g action reduce r s).outcome
    let now := emitParser c g action reduce r s
    now.outcome.draft = plain.draft ∧ now.outcome.warnings = plain.warnings ∧
      now.outcome.report = plain.report ∧ now.outcome.report.cacheHit = r.cacheHit ∧
      (∃ units, packAll (tablesOf c g action reduce) = .ok units ∧
        now.store.read? file = some (entryOf units).toText ∧
        ofText (entryOf units).toText = .ok (entryOf units)) ∧
      (∀ place, place ≠ ⟨0, systemName file⟩ →
        now.store.textAt? place = s.textAt? place) ∧
      ∀ r', let next := emitParser c g action reduce r' now.store
        next.outcome.draft = now.outcome.draft ∧
          next.outcome.warnings = now.outcome.warnings ∧
          next.outcome.report.cacheHit = true ∧ next.store = now.store := by
  intro file plain now
  obtain ⟨start, units, hstart, hunits⟩ := exists_packAll_of_written hwritten
  have ht : (tablesOf c g action reduce).IsStorable :=
    ⟨isWritable_of_packAll hunits, hproduction, haction, hreduce⟩
  obtain ⟨s', hmiss, hthere, hothers, hhit⟩ :=
    packCached_heals (slash_not_mem_fileOf hslash _ _) ht hunits hread hdata hrejected
  have hpack : ∀ s, pack c s (tablesOf c g action reduce) =
      packCached s file (tablesOf c g action reduce) := by
    intro s
    rw [pack, hid]
  -- The first emission misses and leaves the store `s'`, in which the next one hits.
  obtain ⟨hdraft, hsame, hwarnings, hsame', hplain, hreport, hstore⟩ :=
    emitParser_of_packs (r := r) hstart hunits ((hpack s).trans hmiss)
  rw [Bool.or_false] at hreport
  have hkeeps : now.outcome.report = plain.report := by
    rw [hreport, ← hplain]
  refine ⟨hsame, hsame', hkeeps, hkeeps ▸ hplain, ⟨units, hunits, ?_, ?_⟩, ?_, ?_⟩
  · rw [hstore]
    exact hthere
  · exact ofText_entryOf hunits ht
  · rw [hstore]
    exact hothers
  · intro r'
    obtain ⟨hdraft', _, hwarnings', _, _, hreport', hstore'⟩ :=
      emitParser_of_packs (r := r') hstart hunits ((hpack s').trans hhit)
    rw [hstore]
    exact ⟨hdraft'.trans hdraft.symm, hwarnings'.trans hwarnings.symm,
      by rw [hreport', Bool.or_true], hstore'⟩

end Parser

/-! ## An unfinished entry -/

/-- A store with a text in the file of some tables. -/
def Cache.Store.ofEntryText (id : String) (t : Tables) (text : String) : Store :=
  ⟨some [(systemName (fileOf id t false), text)], [], .works⟩

theorem Cache.Store.read?_ofEntryText {id : String} (h : NamesFiles id) (t : Tables)
    (text : String) : (Store.ofEntryText id t text).read? (fileOf id t false) = some text := by
  have hname : Nameable (fileOf id t false) := h.nameable _
  rw [Store.read?_of_nameable hname, Store.textOf?, Store.ofEntryText, Option.getD_some,
    List.lookup_cons_self]

/-- A configuration with a cache identifier. -/
def cachedConfig : Config := { cacheId := some "c" }

/-- The tables of a grammar with one production and of empty tables. -/
def emptyTables : Tables := tablesOf cachedConfig emptyStart (.fixed []) (.fixed [])

/-- An entry that has units for the first of three tables only. -/
def unfinishedEntry : List (Text.CodePoints × List Int) :=
  [(Text.pointsOf "production_table", [0, 2, 0, 0, 0])]

/-- A store in which this entry lies in the file of the tables. -/
def unfinishedStore : Store :=
  .ofEntryText "c" emptyTables (ofMembers unfinishedEntry).toText

theorem ofText_unfinishedEntry :
    ofText (ofMembers unfinishedEntry).toText = .ok (ofMembers unfinishedEntry) := by
  refine ofText_toText ⟨by decide, by decide, by decide, ?_⟩
  intro m hm
  obtain rfl := List.mem_singleton.mp hm
  simp only [AreReadable]
  decide

/-- An unfinished entry is replaced, and the new one is taken by the next emission. -/
theorem rejected_entry_heals_unfinished :
    isValid (ofMembers unfinishedEntry) emptyTables = .ok false ∧
      (emitParser cachedConfig emptyStart (.fixed []) (.fixed []) {}
        unfinishedStore).outcome.report.cacheHit = false ∧
      (∃ units, packAll emptyTables = .ok units ∧
        (emitParser cachedConfig emptyStart (.fixed []) (.fixed []) {}
          unfinishedStore).store.read? (fileOf "c" emptyTables false) =
            some (entryOf units).toText) ∧
      (emitParser cachedConfig emptyStart (.fixed []) (.fixed []) {}
        (emitParser cachedConfig emptyStart (.fixed []) (.fixed []) {}
          unfinishedStore).store).outcome.report.cacheHit = true := by
  have hid : cachedConfig.cacheId = some "c" := rfl
  have hnames : NamesFiles "c" := ⟨by decide, by decide, by decide, by decide⟩
  have hread : unfinishedStore.read? (fileOf "c" emptyTables false) =
      some (ofMembers unfinishedEntry).toText := Store.read?_ofEntryText hnames _ _
  have hrejected : isValid (ofMembers unfinishedEntry) emptyTables = .ok false := rfl
  have hwritten : (emitParser cachedConfig.withoutCache emptyStart (.fixed []) (.fixed []) {}
      unfinishedStore).outcome.draft.failure = none := rfl
  obtain ⟨_, _, _, hmiss, ⟨units, hunits, hthere, _⟩, _, hnext⟩ :=
    rejected_entry_heals hid (by decide) hwritten (by decide) (by decide) (by decide) hread
      ofText_unfinishedEntry (Or.inr hrejected)
  exact ⟨hrejected, hmiss, ⟨units, hunits, hthere⟩, (hnext {}).2.2.1⟩

end LalrBackend
