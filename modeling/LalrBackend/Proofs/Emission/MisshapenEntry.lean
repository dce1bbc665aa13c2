import LalrBackend.Proofs.Cache.Shape
import LalrBackend.Proofs.Emission.RejectedEntry

/-!
# Emissions over values of another shape

A value that lies in the file of some tables without the shape of an entry is either refused, and
then the emission is what it would be without a cache, or cannot even be looked at, and then
the emission fails where it would have succeeded without a cache.
-/

namespace LalrBackend

open Cache JsonValue Failure

/-! ## Packing -/

section Packing

variable {s : Store} {file text : String} {t : Tables} {data : JsonValue} {fault : Fault}

/-- A value that is looked at without a fault and has not the shape is rejected. -/
theorem isRejected_of_no_fault (hshape : ¬ HasShape data t)
    (hnone : data = .null ∨ ∀ fault, ¬ ShapeFault data fault t.members) : IsRejected data t := by
  rcases hnone with hnull | hnone
  · exact .inl hnull
  · right
    cases hvalid : isValid data t with
    | error fault => exact absurd ((isValid_spec data t fault).2.mp hvalid) (hnone fault)
    | ok taken =>
        cases taken with
        | false => rfl
        | true => exact absurd ((isValid_spec data t .noMember).1.mp hvalid) hshape

/-- A value that cannot be looked at makes the packing fail; only the JSON null is not looked
at. -/
theorem packCached_of_fault (ht : t.isWritable = true) (hread : s.read? file = some text)
    (hdata : ofText text = .ok data) (hnull : data ≠ .null)
    (hfault : ShapeFault data fault t.members) :
    packCached s file t = ⟨.error (.cache fault), false, s⟩ := by
  have hlookup : lookup s file = .ok (some data) := by
    rw [lookup, hread]
    simp only [hdata]
  have hvalid : isValid data t = .error fault := (isValid_spec data t fault).2.mpr hfault
  have hnothing : lookupValid s file t = .error fault := by
    rw [lookupValid, hlookup]
    show (do if ← isValid data t then _ else _) = _
    rw [hvalid]
    rfl
  rw [packCached, if_neg (by simp [ht]), hnothing]

end Packing

/-! ## Emissions -/

/-- **A value of another shape is a miss only if it can be looked at.** A value is taken for the
entry of tables exactly if it has their shape, and looking at it is a fault exactly where it is of
the wrong kind on the way to the units. Where a value without the shape lies in the file of
the tables, an emission that succeeds without a cache comes to the same text, warnings and
report if there is no such fault, and leaves the entry of the tables there; it fails with the
fault and writes nothing if there is one. -/
theorem misshapen_value_fails_iff_fault {c : Config} {g : Grammar} {action : ActionSource}
    {reduce : GotoSource} {r : Report} {s : Store} {id text : String} {data : JsonValue}
    (hid : c.cacheId = some id) (hslash : '/' ∉ id.toList)
    (hwritten : (emitParser c.withoutCache g action reduce r s).outcome.draft.failure = none)
    (hproduction : g.productionTable.length < 2 ^ 63)
    (haction : (action.values c.compactReduces).length < 2 ^ 63)
    (hreduce : reduce.values.length < 2 ^ 63)
    (hread : s.read? (fileOf id (tablesOf c g action reduce) c.compactReduces) = some text)
    (hdata : ofText text = .ok data) (hshape : ¬ HasShape data (tablesOf c g action reduce)) :
    let t := tablesOf c g action reduce
    let plain := (emitParser c.withoutCache g action reduce r s).outcome
    let now := emitParser c g action reduce r s
    (∀ (data : JsonValue) (t : Tables) (fault : Fault),
      (isValid data t = .ok true ↔ HasShape data t) ∧
        (isValid data t = .error fault ↔ ShapeFault data fault t.members)) ∧
      (data = .null ∨ (∀ fault, ¬ ShapeFault data fault t.members) →
        now.outcome.draft = plain.draft ∧ now.outcome.draft.failure = none ∧
          now.outcome.warnings = plain.warnings ∧ now.outcome.report = plain.report ∧
          ∃ units, packAll t = .ok units ∧
            now.store.read? (fileOf id t c.compactReduces) = some (entryOf units).toText) ∧
      ∀ fault, data ≠ .null → ShapeFault data fault t.members →
        now.outcome.draft = Draft.fail (.cache fault) ∧ now.module? = none ∧
          now.outcome.warnings = plain.warnings ∧ now.store = s := by
  intro t plain now
  obtain ⟨start, units, hstart, hunits⟩ := exists_packAll_of_written hwritten
  have ht : t.IsStorable := ⟨isWritable_of_packAll hunits, hproduction, haction, hreduce⟩
  have hpack : pack c s t = packCached s (fileOf id t c.compactReduces) t := by
    rw [pack, hid]
  refine ⟨isValid_spec, ?_, ?_⟩
  · intro hnone
    obtain ⟨s', hmiss, hthere, _, _⟩ :=
      packCached_heals (slash_not_mem_fileOf hslash _ _) ht hunits hread hdata
        (isRejected_of_no_fault hshape hnone)
    obtain ⟨_, hdraft, _, hwarnings, hplain, hreport, hstore⟩ :=
      emitParser_of_packs (r := r) hstart hunits (hpack.trans hmiss)
    refine ⟨hdraft, (congrArg Draft.failure hdraft).trans hwritten, hwarnings, ?_,
      units, hunits, ?_⟩
    · rw [hreport, Bool.or_false, ← hplain]
    · rw [hstore]
      exact hthere
  -- What warnings there are is settled before anything is packed, so they stay those of the run
  -- without a cache.
  · intro fault hnull hfault
    have hfails : pack c s t = ⟨.error (.cache fault), false, s⟩ :=
      hpack.trans (packCached_of_fault ht.writable hread hdata hnull hfault)
    have hnow : now = _ := emitParser_of_unpacked (r := r) hstart (congrArg Packing.result hfails)
    obtain ⟨_, _, hissued, _⟩ :=
      emitParser_of_packs (c := c.withoutCache) (r := r) (s := s) hstart hunits
        (show packPlain s t = _ by rw [packPlain, hunits])
    refine ⟨by rw [hnow], by rw [hnow], ?_, ?_⟩
    · rw [hnow]
      exact hissued.symm
    · rw [hnow]
      exact congrArg Packing.store hfails

theorem ofText_true : ofText "true" = .ok (.bool true) := by
  have hpoints : (Text.pointsOf "true").map Char.ofNat = ['t', 'r', 'u', 'e'] := by decide
  have hword : readWord? ['t', 'r', 'u', 'e'] = some (.bool true, []) := rfl
  have hvalue : readValue Text.mostDigits 5 mostNested ['t', 'r', 'u', 'e'] =
      .ok (.bool true, []) := by
    rw [readValue, readScalar, hword] <;> simp
  rw [ofText, hpoints, readWhole]
  show (readValue _ 5 _ ['t', 'r', 'u', 'e'] >>= _) = _
  rw [hvalue]
  rfl

/-- A file with a truth value in it makes an emission fail that would succeed without a cache, while
an unfinished entry is packed anew. -/
theorem misshapen_value_fails_iff_fault_truth :
    ofText "true" = .ok (.bool true) ∧ ShapeFault (.bool true) .wrongKind emptyTables.members ∧
      (emitParser cachedConfig emptyStart (.fixed []) (.fixed []) {}
        (.ofEntryText "c" emptyTables "true")).outcome.draft = Draft.fail (.cache .wrongKind) ∧
      (∀ fault, ¬ ShapeFault (ofMembers unfinishedEntry) fault emptyTables.members) ∧
      (emitParser cachedConfig emptyStart (.fixed []) (.fixed []) {}
        unfinishedStore).outcome.draft.failure = none := by
  have hid : cachedConfig.cacheId = some "c" := rfl
  have hnames : NamesFiles "c" := ⟨by decide, by decide, by decide, by decide⟩
  have hwritten : ∀ s : Store, (emitParser cachedConfig.withoutCache emptyStart (.fixed [])
      (.fixed []) {} s).outcome.draft.failure = none := fun _ => rfl
  have hfault : ShapeFault (.bool true) .wrongKind emptyTables.members :=
    .here (.scalar (.bool true))
  have hshape : ¬ HasShape (.bool true) emptyTables := by
    intro h
    obtain ⟨_, _, hobject, _⟩ := h _ List.mem_cons_self
    cases hobject
  have hunfinished : isValid (ofMembers unfinishedEntry) emptyTables = .ok false := rfl
  have hlooks : ∀ fault, ¬ ShapeFault (ofMembers unfinishedEntry) fault emptyTables.members := by
    intro fault h
    cases hunfinished.symm.trans ((isValid_spec _ _ fault).2.mpr h)
  have hlacks : ¬ HasShape (ofMembers unfinishedEntry) emptyTables := by
    intro h
    cases hunfinished.symm.trans ((isValid_spec _ _ .noMember).1.mpr h)
  have htrue : (Store.ofEntryText "c" emptyTables "true").read?
      (fileOf "c" emptyTables false) = some "true" := Store.read?_ofEntryText hnames _ _
  have hentry : unfinishedStore.read? (fileOf "c" emptyTables false) =
      some (ofMembers unfinishedEntry).toText := Store.read?_ofEntryText hnames _ _
  obtain ⟨_, _, hfails⟩ :=
    misshapen_value_fails_iff_fault hid (by decide) (hwritten _) (by decide) (by decide)
      (by decide) htrue ofText_true hshape
  obtain ⟨_, hmisses, _⟩ :=
    misshapen_value_fails_iff_fault hid (by decide) (hwritten _) (by decide) (by decide)
      (by decide) hentry ofText_unfinishedEntry hlacks
  exact ⟨ofText_true, hfault, (hfails _ nofun hfault).1, hlooks, (hmisses (.inr hlooks)).2.1⟩

/-- Looking at a value that is not null may be a fault: at a number, at a list that has a key as
an item, and at an object with an object of the size of the units in it. -/
theorem looking_may_fail :
    ¬ (∀ (data : JsonValue) (t : Tables), data ≠ .null → ∃ taken, isValid data t = .ok taken) ∧
      isValid (.int 5) emptyTables = .error .wrongKind ∧
      isValid (.list [.text (Text.pointsOf "production_table")]) emptyTables =
        .error .wrongKind ∧
      isValid (.object [(Text.pointsOf "production_table",
          .object (List.replicate 5 ([], .null)))]) emptyTables = .error .noMember := by
  refine ⟨fun h => ?_, rfl, rfl, rfl⟩
  obtain ⟨taken, htaken⟩ := h (.int 5) emptyTables nofun
  cases htaken

end LalrBackend
