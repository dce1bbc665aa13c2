import LalrBackend.Proofs.Emission.CachedRuns
import LalrBackend.Proofs.Emission.Refusals

/-!
# The note of a hit in a shared report

Every other field that a call fills in is filled in anew by each call that comes so far. The
note of a hit is only ever set: in a report that several calls share it tells that one of
them took its tables from the cache, and not which one.
-/

namespace LalrBackend

open Cache

/-! ## Where tables come from -/

/-- A call takes its tables from an entry: its file holds one that can stand for them. -/
structure Call.Takes (call : Call) (s : Store) (data : JsonValue) : Prop where
  writable : call.tables.isWritable = true
  found : ∃ id, call.config.cacheId = some id ∧
    lookupValid (call.found s) (fileOf id call.tables call.config.compactReduces) call.tables =
      .ok (some data)

/-- What a packing comes to that takes no entry: nothing, or freshly packed units. -/
structure Packing.IsFresh (packing : Packing) (t : Tables) : Prop where
  hit : packing.hit = false
  units : ∀ packed, packing.result = .ok packed →
    ∃ units, packAll t = .ok units ∧ packed = .ofUnits units

section Packings

variable {call : Call} {s : Store} {file : String} {t : Tables}

theorem isFresh_packPlain (s : Store) (t : Tables) : (packPlain s t).IsFresh t := by
  rw [packPlain]
  cases hunits : packAll t with
  | error e => exact ⟨rfl, fun _ h => by cases h⟩
  | ok units => exact ⟨rfl, fun _ h => ⟨units, hunits, (Except.ok.inj h).symm⟩⟩

theorem isFresh_packAndStore (s : Store) (file : String) (t : Tables) :
    (packAndStore s file t).IsFresh t := by
  cases hunits : packAll t with
  | error e =>
      rw [packAndStore_of_error hunits]
      exact ⟨rfl, fun _ h => by cases h⟩
  | ok units =>
      match hwrite : s.write file (entryOf units).toText with
      | (s', none) =>
          rw [packAndStore_of_ok hunits hwrite]
          exact ⟨rfl, fun _ h => ⟨units, hunits, (Except.ok.inj h).symm⟩⟩
      | (s', some fault) =>
          rw [packAndStore, hunits]
          simp only [hwrite]
          exact ⟨rfl, fun _ h => by cases h⟩

/-- A packing takes an entry and is a hit, or takes none and packs anew. -/
theorem Call.packing_cases (call : Call) (s : Store) :
    (∃ data, call.Takes s data ∧ (call.packing s).hit = true ∧
      (call.packing s).result = (PackedTables.ofEntry data).mapError .cache) ∨
    (∀ data, ¬ call.Takes s data) ∧ (call.packing s).IsFresh call.tables := by
  rw [Call.packing, pack]
  cases hid : call.config.cacheId with
  | none =>
      refine Or.inr ⟨?_, isFresh_packPlain _ _⟩
      rintro data ⟨_, id, hsome, _⟩
      rw [hid] at hsome
      cases hsome
  | some id =>
      simp only [packCached]
      cases hwritable : call.tables.isWritable with
      | false =>
          refine Or.inr ⟨fun data h => ?_, rfl, fun _ h => by cases h⟩
          rw [h.writable] at hwritable
          cases hwritable
      | true =>
          -- What the look-up gives decides between the two.
          have hlookup : ∀ data, call.Takes s data → lookupValid (call.found s)
              (fileOf id call.tables call.config.compactReduces) call.tables =
                .ok (some data) := by
            rintro data ⟨_, id', hid', hfound⟩
            rw [hid] at hid'
            cases hid'
            exact hfound
          cases hvalid : lookupValid (call.found s)
              (fileOf id call.tables call.config.compactReduces) call.tables with
          | error fault =>
              refine Or.inr ⟨fun data h => ?_, rfl, fun _ h => by cases h⟩
              cases (hlookup data h).symm.trans hvalid
          | ok entry =>
              cases entry with
              | none =>
                  refine Or.inr ⟨fun data h => ?_, isFresh_packAndStore _ _ _⟩
                  cases (hlookup data h).symm.trans hvalid
              | some data => exact Or.inl ⟨data, ⟨hwritable, id, hid, hvalid⟩, rfl, rfl⟩

theorem Call.packing_hit_iff : (call.packing s).hit = true ↔ ∃ data, call.Takes s data := by
  rcases call.packing_cases s with ⟨data, htakes, hhit, _⟩ | ⟨hnone, hfresh⟩
  · exact ⟨fun _ => ⟨data, htakes⟩, fun _ => hhit⟩
  · constructor
    · intro hhit
      rw [hfresh.hit] at hhit
      cases hhit
    · rintro ⟨data, htakes⟩
      exact absurd htakes (hnone data)

end Packings

/-! ## Calls into one report -/

/-- What a call comes to that fills in a report which may be filled in already. -/
def Call.emitInto (call : Call) (r : Report) (s : Store) : ParserOutcome :=
  emitParser call.config call.grammar call.action call.reduce r (call.found s)

/-- The report and the cache after calls one after the other. -/
def sharedAfter (r : Report) (s : Store) (calls : List Call) : Report × Store :=
  calls.foldl
    (fun st call =>
      let o := call.emitInto st.1 st.2
      (o.outcome.report, o.store)) (r, s)

section Shared

variable {call : Call} {r : Report} {s : Store}

theorem sharedAfter_snoc (r : Report) (s : Store) (before : List Call) (call : Call) :
    sharedAfter r s (before ++ [call]) =
      let o := call.emitInto (sharedAfter r s before).1 (sharedAfter r s before).2
      (o.outcome.report, o.store) := by
  rw [sharedAfter, List.foldl_append]
  rfl

/-- Where a module gets its tables from. -/
theorem Call.module_emitInto {m : ParserModule}
    (h : (call.emitInto r s).module? = some m) :
    ∃ first packed, checkedStart call.grammar = .ok first ∧
      (call.packing s).result = .ok packed ∧ m = call.module first packed := by
  rw [Call.emitInto] at h
  cases hstart : checkedStart call.grammar with
  | error e =>
      rw [emitParser_of_refused hstart] at h
      cases h
  | ok first =>
      cases hresult : (call.packing s).result with
      | error e =>
          rw [emitParser_of_unpacked hstart hresult] at h
          cases h
      | ok packed =>
          rw [emitParser_of_packed hstart hresult] at h
          exact ⟨first, packed, rfl, rfl, (Option.some.inj h).symm⟩

/-- A call leaves the note of a hit set if it was set or if the call takes an entry. -/
theorem Call.cacheHit_emitInto : (call.emitInto r s).outcome.report.cacheHit = true ↔
    r.cacheHit = true ∨ call.Passes ∧ ∃ data, call.Takes s data := by
  rw [← Call.packing_hit_iff, Call.emitInto]
  cases hstart : checkedStart call.grammar with
  | error e =>
      have hfails : ¬ call.Passes := by
        rintro ⟨first, hpasses⟩
        rw [hstart] at hpasses
        cases hpasses
      rw [emitParser_of_refused hstart]
      simp [hfails]
  | ok first =>
      have hpasses : call.Passes := ⟨first, hstart⟩
      have hpacked : (r.afterPacking call.grammar (call.packing s)).cacheHit = true ↔
          r.cacheHit = true ∨ call.Passes ∧ (call.packing s).hit = true := by
        rw [Report.afterPacking]
        cases (call.packing s).hit <;> simp [hpasses, Report.withUnused]
      rw [← hpacked]
      cases hresult : (call.packing s).result with
      | error e =>
          rw [emitParser_of_unpacked hstart hresult]
          rfl
      | ok packed =>
          rw [emitParser_of_packed hstart hresult]
          simp only
          split <;> rfl

theorem Call.store_emitInto : (call.emitInto r s).store = (call.emit s).store := by
  rw [Call.emitInto, Call.emit]
  cases hstart : checkedStart call.grammar with
  | error e => rw [emitParser_of_refused hstart, emitParser_of_refused hstart]
  | ok first =>
      cases hresult : (call.packing s).result with
      | error e =>
          rw [emitParser_of_unpacked hstart hresult, emitParser_of_unpacked hstart hresult]
      | ok packed =>
          rw [emitParser_of_packed hstart hresult, emitParser_of_packed hstart hresult]

/-- The cache does not depend on the report. -/
theorem sharedAfter_store (r : Report) (s : Store) (calls : List Call) :
    (sharedAfter r s calls).2 = storeAfter s calls := by
  induction calls using List.reverseRecOn with
  | nil => rfl
  | append_singleton before call ih =>
      rw [sharedAfter_snoc, storeAfter_snoc, ← ih]
      exact Call.store_emitInto

/-- One of several calls took its tables from an entry. -/
def SomeTook (s : Store) (calls : List Call) : Prop :=
  ∃ earlier call data, earlier ++ [call] <+: calls ∧ call.Passes ∧
    call.Takes (storeAfter s earlier) data

theorem someTook_snoc {before : List Call} : SomeTook s (before ++ [call]) ↔
    SomeTook s before ∨ call.Passes ∧ ∃ data, call.Takes (storeAfter s before) data := by
  constructor
  · rintro ⟨earlier, last, data, hends, hpasses, htakes⟩
    rcases List.prefix_concat_iff.mp hends with heq | hends
    · obtain ⟨rfl, hlast⟩ := List.append_inj' heq rfl
      obtain rfl := List.singleton_inj.mp hlast
      exact Or.inr ⟨hpasses, data, htakes⟩
    · exact Or.inl ⟨earlier, last, data, hends, hpasses, htakes⟩
  · rintro (⟨earlier, last, data, hends, hrest⟩ | ⟨hpasses, data, htakes⟩)
    · exact ⟨earlier, last, data, hends.trans (List.prefix_append _ _), hrest⟩
    · exact ⟨before, call, data, List.prefix_rfl, hpasses, htakes⟩

theorem cacheHit_sharedAfter (r : Report) (s : Store) (calls : List Call) :
    (sharedAfter r s calls).1.cacheHit = true ↔ r.cacheHit = true ∨ SomeTook s calls := by
  induction calls using List.reverseRecOn with
  | nil =>
      have hnone : ¬ SomeTook s [] := by
        rintro ⟨earlier, call, _, hends, _⟩
        exact absurd (List.prefix_nil.mp hends) (by simp)
      simp [sharedAfter, hnone]
  | append_singleton before call ih =>
      rw [sharedAfter_snoc, someTook_snoc, ← or_assoc, ← ih, ← sharedAfter_store r]
      exact Call.cacheHit_emitInto

/-- **A hit stays noted.** In a report that calls share, the note of a hit is set after a call
if it was set at first or if this call or one before it took its tables from an entry. The
module of a call has its tables from an entry only if this very call took one, and has them
freshly packed otherwise. -/
theorem hit_stays_noted (r : Report) (s : Store) (before : List Call) (next : Call) :
    let st := sharedAfter r s before
    let o := next.emitInto st.1 st.2
    (o.outcome.report.cacheHit = true ↔ r.cacheHit = true ∨ SomeTook s (before ++ [next])) ∧
      ∀ m, o.module? = some m → ∃ first packed, m = next.module first packed ∧
        ((∃ data, next.Takes st.2 data ∧ PackedTables.ofEntry data = .ok packed) ∨
          (∀ data, ¬ next.Takes st.2 data) ∧
            ∃ units, packAll next.tables = .ok units ∧ packed = .ofUnits units) := by
  refine ⟨?_, ?_⟩
  · have hhit := cacheHit_sharedAfter r s (before ++ [next])
    rwa [sharedAfter_snoc] at hhit
  · intro m hm
    obtain ⟨first, packed, _, hresult, rfl⟩ := Call.module_emitInto hm
    refine ⟨first, packed, rfl, ?_⟩
    rcases next.packing_cases (sharedAfter r s before).2 with
      ⟨data, htakes, _, hentry⟩ | ⟨hnone, hfresh⟩
    · rw [hresult] at hentry
      exact Or.inl ⟨data, htakes, Failure.mapError_eq_ok.mp hentry.symm⟩
    · exact Or.inr ⟨hnone, hfresh.units packed hresult⟩

end Shared

/-! ## A note that outlives its call -/

/-- A call for the same grammar and identifier with another table of actions. -/
def Call.ofOtherTable : Call :=
  ⟨{ cacheId := some "c" }, emptyStart, .fixed [7], .fixed [], false⟩

/-- Two calls for the same tables. -/
def twiceTheSame : List Call :=
  [.ofEmptyStart "c" false, .ofEmptyStart "c" false]

theorem digested_ofOtherTable : Sha1.hexDigest (Call.ofEmptyStart "c" false).digested ≠
    Sha1.hexDigest Call.ofOtherTable.digested := by
  decide +kernel

theorem areCacheable_twiceTheSame : AreCacheable (twiceTheSame ++ [.ofOtherTable]) := by
  have hmem : ∀ call ∈ twiceTheSame ++ [.ofOtherTable],
      call = .ofEmptyStart "c" false ∨ call = .ofOtherTable := by
    simp [twiceTheSame]
  have hnames : NamesFiles "c" := ⟨by decide, by decide, by decide, by decide⟩
  refine ⟨?_, ?_, ?_⟩
  · intro call hcall _ id hid
    rcases hmem call hcall with rfl | rfl
    · obtain rfl : "c" = id := Option.some.inj hid
      exact hnames
    · obtain rfl : "c" = id := Option.some.inj hid
      exact hnames
  · intro call hcall _
    rcases hmem call hcall with rfl | rfl
    · have hstorable : Tables.IsStorable ⟨[0, 0], [], []⟩ :=
        ⟨by decide +kernel, by decide, by decide, by decide⟩
      exact hstorable
    · have hstorable : Tables.IsStorable ⟨[0, 0], [7], []⟩ :=
        ⟨by decide +kernel, by decide, by decide, by decide⟩
      exact hstorable
  · intro a ha b hb _ _ hdigest
    rcases hmem a ha with rfl | rfl <;> rcases hmem b hb with rfl | rfl
    · rfl
    · exact absurd hdigest digested_ofOtherTable
    · exact absurd hdigest.symm digested_ofOtherTable
    · rfl

/-- The second call takes the entry that the first one left. -/
theorem someTook_twiceTheSame : SomeTook .fresh twiceTheSame := by
  have hfresh : Store.fresh.files.getD [] = [] := rfl
  have hcacheable : AreCacheable ([.ofEmptyStart "c" false] ++ [.ofEmptyStart "c" false]) :=
    areCacheable_twiceTheSame.mono fun call hcall => List.mem_append_left _ hcall
  have hlooks : (Call.ofEmptyStart "c" false).LooksUp := ⟨⟨_, rfl⟩, rfl⟩
  have hhit := (packing_after hfresh hcacheable hlooks).2.mpr
    ⟨_, leftBy_ofEmptyStart _ [] "c", "c", "c", rfl, rfl, rfl, rfl, rfl⟩
  exact someTook_snoc.mpr (Or.inr ⟨hlooks.passes, Call.packing_hit_iff.mp hhit⟩)

/-- **The note of a hit may be untrue.** Of three calls into one report the second takes the
entry of the first. The third is for another table; it succeeds, takes no entry, and yet the
report has a hit noted. -/
theorem hit_outlives_call :
    let st := sharedAfter {} .fresh twiceTheSame
    let o := Call.ofOtherTable.emitInto st.1 st.2
    o.outcome.draft.failure = none ∧ (∀ data, ¬ Call.ofOtherTable.Takes st.2 data) ∧
      o.outcome.report.cacheHit = true := by
  have hfresh : Store.fresh.files.getD [] = [] := rfl
  have hcacheable := areCacheable_twiceTheSame
  have hlooks : Call.ofOtherTable.LooksUp := ⟨⟨_, rfl⟩, rfl⟩
  obtain ⟨hresult, hhit⟩ := packing_after hfresh hcacheable hlooks
  have hstart : checkedStart Call.ofOtherTable.grammar = .ok _ := rfl
  refine ⟨?_, ?_, ?_⟩
  · have hpacked : (Call.ofOtherTable.packing (sharedAfter {} .fresh twiceTheSame).2).result =
        .ok (.ofUnits Call.ofOtherTable.tables.units) := by
      rw [sharedAfter_store, hresult]
      rfl
    rw [Call.emitInto, emitParser_of_packed hstart hpacked]
    rfl
  · intro data htakes
    rw [sharedAfter_store] at htakes
    obtain ⟨earlier, hleft, id, id', _, _, _, htables, _⟩ :=
      hhit.mp (Call.packing_hit_iff.mpr ⟨data, htakes⟩)
    have hmem := (leftBy_mem hleft).1
    have hearlier : earlier = .ofEmptyStart "c" false := by simpa [twiceTheSame] using hmem
    rw [hearlier] at htables
    cases htables
  · have htook := (cacheHit_sharedAfter {} .fresh twiceTheSame).mpr (Or.inr someTook_twiceTheSame)
    exact Call.cacheHit_emitInto.mpr (Or.inl htook)

end LalrBackend
