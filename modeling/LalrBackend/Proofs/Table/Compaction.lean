import LalrBackend.Proofs.Table.Layout

/-!
# Compaction of reductions

A compacted table leaves out the cells of each row's most frequent reduction and
has that reduction as the default of the row. A cell that was left out is answered
by the default, so every action stays; a cell without an action is answered by the
default as well, where the plain table reports an error.
-/

namespace LalrBackend

open Table

namespace Table

/-! ## The default of a row -/

section Default

variable {row : Row} {e : Int}

theorem Row.mem_reductions : e ∈ row.reductions ↔ e < 0 ∧ ∃ t, row.get? t = some e := by
  simp [reductions, entries, get?_eq_some_iff, and_comm]

theorem moreFrequent_eq (entries : List Int) (a b : Int) :
    moreFrequent entries a b = a ∨ moreFrequent entries a b = b := by
  unfold moreFrequent
  split
  · exact Or.inr rfl
  · exact Or.inl rfl

/-- A choice among entries is one of them. -/
theorem foldl_moreFrequent_mem (counted : List Int) : ∀ (es : List Int) (e : Int),
    es.foldl (moreFrequent counted) e ∈ e :: es := by
  intro es
  induction es with
  | nil => intro e; exact List.mem_singleton_self e
  | cons d ds ih =>
      intro e
      rw [List.foldl_cons]
      rcases moreFrequent_eq counted e d with h | h
      · rw [h]
        exact List.cons_subset_cons e (List.subset_cons_self d ds) (ih e)
      · rw [h]
        exact List.mem_cons_of_mem e (ih d)

/-- The default of a row is one of its reductions, if it has any. -/
theorem Row.defaultReduction_cases (row : Row) :
    row.defaultReduction = errorEntry ∨ row.defaultReduction ∈ row.reductions := by
  unfold defaultReduction
  split
  · exact Or.inl rfl
  next e es h =>
    right
    have hmem := foldl_moreFrequent_mem (e :: es) es e
    rwa [h]

/-- No shift becomes the default of a row. -/
theorem Row.defaultReduction_nonpos (row : Row) : row.defaultReduction ≤ 0 := by
  rcases row.defaultReduction_cases with h | h
  · rw [h]
    exact Int.le_refl 0
  · exact Int.le_of_lt (mem_reductions.mp h).1

end Default

/-! ## Answers of a row -/

/-- Leaving out the cells of an entry hides this entry and no other one. -/
theorem lookup_filter_entry {cells : List Cell} (h : Ascending cells) (dropped : Int) (t : Nat) :
    (cells.filter (·.2 ≠ dropped)).lookup t = (cells.lookup t).filter (· ≠ dropped) := by
  have hkept : Ascending (cells.filter (·.2 ≠ dropped)) := h.filter _
  apply Option.ext
  intro e
  rw [hkept.lookup_eq_some_iff, List.mem_filter, Option.filter_eq_some_iff, h.lookup_eq_some_iff]

/-- An entry that is hidden where it is the default anyway makes no difference. -/
theorem getD_filter_ne (stored : Option Int) (fallback : Int) :
    (stored.filter (· ≠ fallback)).getD fallback = stored.getD fallback := by
  cases stored with
  | none => rfl
  | some e =>
      by_cases h : e = fallback
      · simp [Option.filter, h]
      · simp [Option.filter, h]

/-- A compacted row answers with what is stored, or with its default reduction. -/
theorem Row.compressed_answer (row : Row) (t : Nat) :
    ((row.compressed true).cells.lookup t).getD (row.compressed true).fallback =
      (row.get? t).getD row.defaultReduction := by
  rw [Row.compressed, if_pos rfl]
  by_cases h : row.defaultReduction = errorEntry
  · simp only [h, if_true]
    rfl
  · simp only [h, if_false]
    rw [lookup_filter_entry row.ascending, getD_filter_ne]
    rfl

end Table

/-! ## Answers of a table -/

namespace ActionTable

variable {table : ActionTable} {st : Nat}

theorem defaultReduction_natCast (h : st < table.states) :
    table.defaultReduction st = .ok table.rows[st].defaultReduction := by
  have hposition : statePosition table.rows.length st = .ok st := by
    rw [statePosition, position?_of_nonneg (by omega) (by exact_mod_cast h)]
    rfl
  rw [defaultReduction, row, hposition]
  simp [Except.map, List.getElem?_eq_getElem h]

theorem lookupEntry_compress (compact : Bool) (h : st < table.states) (t : Nat) :
    lookupEntry (table.compress compact) st t =
      some (((table.rows[st].compressed compact).cells.lookup t).getD
        (table.rows[st].compressed compact).fallback) := by
  apply (layout_tiled _).lookupEntry
  simp [List.getElem?_eq_getElem h]

theorem lookupEntry_plain (h : st < table.states) (t : Nat) :
    lookupEntry (table.compress false) st t = some ((table.cell? st t).getD errorEntry) := by
  rw [lookupEntry_compress false h, cell?, Table.cell?, List.getElem?_eq_getElem h]
  rfl

theorem lookupEntry_compact (h : st < table.states) (t : Nat) :
    lookupEntry (table.compress true) st t =
      some ((table.cell? st t).getD table.rows[st].defaultReduction) := by
  rw [lookupEntry_compress true h, Row.compressed_answer, cell?, Table.cell?,
    List.getElem?_eq_getElem h]
  rfl

end ActionTable

/-! ## Histories of updates -/

namespace ActionCall

/-- The state that is shifted to, or the production that is reduced by. -/
def operand : ActionCall → Int
  | .shift _ _ target => target
  | .reduce _ _ production => production

/-- A stored entry was asked for by one of the updates. -/
theorem exists_of_stored {states terminals st t : Nat} {calls : List ActionCall} {e : Int}
    (h : stored states terminals calls st t = some e) :
    ∃ call ∈ calls, call.Names states terminals st t ∧ e = call.entry := by
  obtain ⟨call, hfirst, rfl⟩ := Option.map_eq_some_iff.mp h
  have hmem := List.mem_of_mem_head? (Option.mem_def.mpr hfirst)
  rw [List.mem_filter, decide_eq_true_eq] at hmem
  exact ⟨call, hmem.1, hmem.2, rfl⟩

variable {call : ActionCall}

/-- With operands that are not negative, no action is mistaken for an error. -/
theorem entry_ne_error (h : 0 ≤ call.operand) : call.entry ≠ errorEntry := by
  cases call <;> simp only [operand, entry, errorEntry] at * <;> omega

/-- With operands that are not negative, the negative entries are the reductions. -/
theorem entry_of_neg (h : 0 ≤ call.operand) (hneg : call.entry < 0) :
    ∃ state terminal production, call = .reduce state terminal production ∧
      call.entry = reduceEntry production := by
  cases call with
  | shift state terminal target =>
      simp only [operand, entry] at h hneg
      omega
  | reduce state terminal production => exact ⟨state, terminal, production, rfl, rfl⟩

end ActionCall

/-! ## Plain and compacted tables -/

/-- A default that a row of a plain table may be given: no action, or a reduction that the
row has for some terminal; in no case a shift. -/
def IsRowDefault (plain : List Int) (terminals st : Nat) (fallback : Int) : Prop :=
  (fallback = errorEntry ∨
    ∃ t < terminals, ∃ production, 0 ≤ production ∧ fallback = reduceEntry production ∧
      lookupEntry plain st t = some fallback) ∧
  ∀ target, 0 ≤ target → fallback ≠ shiftEntry target

section History

variable {states terminals : Int} {calls : List ActionCall} {st : Nat}

/-- The rows of a table after a history of updates. -/
theorem ActionTable.row_get?_run
    (hst : st < ((ActionTable.empty states terminals).run calls).states) (t : Nat) :
    ((ActionTable.empty states terminals).run calls).rows[st].get? t =
      ActionCall.stored states.toNat terminals.toNat calls st t := by
  rw [← ActionTable.cell?_run, ActionTable.cell?, Table.cell?, List.getElem?_eq_getElem hst]
  rfl

/-- The default reduction of a row was asked for by an update of this row. -/
theorem isRowDefault_run (hcalls : ∀ call ∈ calls, 0 ≤ call.operand)
    (hst : st < ((ActionTable.empty states terminals).run calls).states) :
    IsRowDefault (((ActionTable.empty states terminals).run calls).compress false)
      terminals.toNat st
      ((ActionTable.empty states terminals).run calls).rows[st].defaultReduction := by
  have hsign := Row.defaultReduction_nonpos
    ((ActionTable.empty states terminals).run calls).rows[st]
  constructor
  · rcases Row.defaultReduction_cases
      ((ActionTable.empty states terminals).run calls).rows[st] with hnone | hmem
    · exact Or.inl hnone
    · right
      obtain ⟨hneg, t, hcell⟩ := Row.mem_reductions.mp hmem
      have hplain := ActionTable.lookupEntry_plain hst t
      rw [ActionTable.row_get?_run hst] at hcell
      rw [ActionTable.cell?_run, hcell] at hplain
      obtain ⟨call, hcall, hnames, hentry⟩ := ActionCall.exists_of_stored hcell
      rw [hentry] at hneg
      obtain ⟨_, _, production, rfl, hreduce⟩ :=
        ActionCall.entry_of_neg (hcalls call hcall) hneg
      exact ⟨t, hnames.2.2, production, hcalls _ hcall, hentry.trans hreduce, hplain⟩
  · intro target htarget
    simp only [shiftEntry]
    omega

/-- One cell: the compacted table has its action, or the default of its row if it has
none. -/
theorem lookupEntry_compact_run (hcalls : ∀ call ∈ calls, 0 ≤ call.operand)
    (hst : st < ((ActionTable.empty states terminals).run calls).states) (t : Nat) :
    ∃ entry,
      lookupEntry (((ActionTable.empty states terminals).run calls).compress false) st t =
        some entry ∧
      lookupEntry (((ActionTable.empty states terminals).run calls).compress true) st t =
        some (if entry = errorEntry then
          ((ActionTable.empty states terminals).run calls).rows[st].defaultReduction
          else entry) := by
  refine ⟨_, ActionTable.lookupEntry_plain hst t, ?_⟩
  rw [ActionTable.lookupEntry_compact hst, ActionTable.cell?_run]
  cases hcell : ActionCall.stored states.toNat terminals.toNat calls st t with
  | none => simp
  | some e =>
      obtain ⟨call, hcall, _, rfl⟩ := ActionCall.exists_of_stored hcell
      have haction : call.entry ≠ errorEntry := ActionCall.entry_ne_error (hcalls call hcall)
      simp [haction]

/-- **Compaction of reductions preserves the automaton.** -/
theorem compress_true_keeps_actions (states terminals : Int)
    (hcalls : ∀ call ∈ calls, 0 ≤ call.operand) :
    let table := (ActionTable.empty states terminals).run calls
    let plain := table.compress false
    let compact := table.compress true
    (∀ st < states.toNat, ∃ fallback, table.defaultReduction st = .ok fallback ∧
      IsRowDefault plain terminals.toNat st fallback ∧
      ∀ t < terminals.toNat, ∃ entry, lookupEntry plain st t = some entry ∧
        lookupEntry compact st t = some (if entry = errorEntry then fallback else entry)) ∧
    ∀ queries : List (Nat × Nat),
      (∀ q ∈ queries, q.1 < states.toNat ∧ q.2 < terminals.toNat ∧
        lookupEntry plain q.1 q.2 ≠ some errorEntry) →
      queries.map (fun q => lookupEntry compact q.1 q.2) =
        queries.map (fun q => lookupEntry plain q.1 q.2) := by
  intro table plain compact
  have hstates : table.states = states.toNat :=
    (ActionTable.run_empty_sizes states terminals calls).1
  constructor
  · intro st hst
    have hrow : st < table.states := hstates ▸ hst
    exact ⟨_, ActionTable.defaultReduction_natCast hrow, isRowDefault_run hcalls hrow,
      fun t _ => lookupEntry_compact_run hcalls hrow t⟩
  · intro queries hqueries
    apply List.map_congr_left
    intro q hq
    obtain ⟨hst, _, haction⟩ := hqueries q hq
    obtain ⟨entry, hplain, hcompact⟩ :=
      lookupEntry_compact_run hcalls (hstates ▸ hst : q.1 < table.states) q.2
    have hentry : entry ≠ errorEntry := by
      rintro rfl
      exact haction hplain
    rw [if_neg hentry] at hcompact
    exact hcompact.trans hplain.symm

end History

/-- Updates of two rows: the second one has a reduction twice, another one once, and a
shift; one update is refused. -/
def twoRowCalls : List ActionCall := [
  .shift 0 2 1, .reduce 1 0 3, .reduce 1 1 3, .reduce 1 2 1, .shift 1 4 0, .reduce 1 4 3]

/-- In the second row, two cells are answered by the default, and so is one without an
action. -/
theorem compress_true_keeps_actions_twoRows :
    let table := (ActionTable.empty 2 5).run twoRowCalls
    (∀ call ∈ twoRowCalls, 0 ≤ call.operand) ∧
      table.compress true ≠ table.compress false ∧
      table.defaultReduction 1 = .ok (reduceEntry 3) ∧
      lookupEntry (table.compress true) 1 3 = some (reduceEntry 3) ∧
      [(0, 2), (1, 0), (1, 1), (1, 2), (1, 4)].map
          (fun q : Nat × Nat => lookupEntry (table.compress true) q.1 q.2) =
        [(0, 2), (1, 0), (1, 1), (1, 2), (1, 4)].map
          (fun q : Nat × Nat => lookupEntry (table.compress false) q.1 q.2) := by
  have hcalls : ∀ call ∈ twoRowCalls, 0 ≤ call.operand := by decide
  have hdefault : ((ActionTable.empty 2 5).run twoRowCalls).defaultReduction 1 =
      .ok (reduceEntry 3) := by decide
  obtain ⟨hcells, hruns⟩ := compress_true_keeps_actions 2 5 hcalls
  obtain ⟨fallback, hfallback, _, hrow⟩ := hcells 1 (by decide)
  obtain ⟨entry, hplain, hcompact⟩ := hrow 3 (by decide)
  obtain rfl : entry = errorEntry := by
    have hempty : lookupEntry (((ActionTable.empty 2 5).run twoRowCalls).compress false) 1 3 =
        some errorEntry := by decide
    exact Option.some.inj (hplain.symm.trans hempty)
  obtain rfl : fallback = reduceEntry 3 := Except.ok.inj (hfallback.symm.trans hdefault)
  exact ⟨hcalls, by decide, hdefault, hcompact, hruns _ (by decide)⟩

end LalrBackend
