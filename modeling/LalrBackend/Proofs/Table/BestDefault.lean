import LalrBackend.Proofs.Table.Order
import LalrBackend.Proofs.Table.Updates
import Mathlib.Algebra.BigOperators.Ring.List
import Mathlib.Algebra.Order.BigOperators.Group.List
import Mathlib.Algebra.Order.Ring.Nat

/-!
# The best default of a row

The default of a row is the reduction that the row has for most terminals, of several the
one by the earliest production. A cell that holds the default of its row is left out, which
saves two integers. So a compacted table is the shortest one that a choice of a default for
each row can lead to.
-/

namespace LalrBackend

open Table

namespace Table

/-! ## Counting cells -/

section Counting

variable {row : Row} {n : Nat} {e : Int}

/-- The cells of some kind are as many as the symbols that have an entry of this kind. -/
theorem Row.countP_entries (kind : Int → Bool) (h : ∀ t e, row.get? t = some e → t < n) :
    (List.range n).countP (fun t => (row.get? t).any kind) = row.entries.countP kind := by
  -- The symbols that are counted are those of the cells, in another order perhaps.
  have hsymbols : ((row.cells.filter fun c => kind c.2).map (·.1)).Nodup := by
    have hascending : Ascending (row.cells.filter fun c => kind c.2) := row.ascending.filter _
    exact List.pairwise_map.mpr hascending.distinct
  have hperm : ((List.range n).filter fun t => (row.get? t).any kind).Perm
      ((row.cells.filter fun c => kind c.2).map (·.1)) := by
    rw [List.perm_ext_iff_of_nodup (List.nodup_range.filter _) hsymbols]
    intro t
    simp only [List.mem_filter, List.mem_range, List.mem_map, Option.any_eq_true]
    constructor
    · rintro ⟨_, e, he, hkind⟩
      exact ⟨(t, e), ⟨Row.get?_eq_some_iff.mp he, hkind⟩, rfl⟩
    · rintro ⟨⟨t', e⟩, ⟨hmem, hkind⟩, rfl⟩
      have he := Row.get?_eq_some_iff.mpr hmem
      exact ⟨h _ e he, e, he, hkind⟩
  rw [List.countP_eq_length_filter, hperm.length_eq, List.length_map, entries, List.countP_map,
    List.countP_eq_length_filter]
  rfl

/-- Among the reductions of a row, an entry occurs as often as in the whole row. -/
theorem Row.count_reductions (hneg : e < 0) : row.reductions.count e = row.entries.count e :=
  List.count_filter (decide_eq_true hneg)

/-- The default of a row is preferred to each of its reductions. -/
theorem Row.preferred_defaultReduction (h : e ∈ row.reductions) :
    row.defaultReduction ∈ row.reductions ∧ Preferred row.entries row.defaultReduction e := by
  have hdefault : row.defaultReduction ∈ row.reductions := by
    rw [defaultReduction_eq]
    exact mostFrequent_mem (List.ne_nil_of_mem h)
  have hpreferred : Preferred row.reductions row.defaultReduction e := by
    rw [defaultReduction_eq]
    exact preferred_mostFrequent h
  unfold Preferred at hpreferred
  rw [count_reductions (mem_reductions.mp h).1,
    count_reductions (mem_reductions.mp hdefault).1] at hpreferred
  exact ⟨hdefault, hpreferred⟩

/-- A row without reductions, and no other one, has no action as its default. -/
theorem Row.defaultReduction_eq_error_iff :
    row.defaultReduction = errorEntry ↔ ∀ e, e ∉ row.reductions := by
  constructor
  · intro herror e he
    have hneg := (mem_reductions.mp (preferred_defaultReduction he).1).1
    rw [herror] at hneg
    exact absurd hneg (Int.lt_irrefl 0)
  · intro hnone
    rcases row.defaultReduction_cases with herror | hmem
    · exact herror
    · exact absurd hmem (hnone _)

end Counting

/-! ## Rows with a default of one's choice -/

section Choice

variable {row : Row}

/-- A row with some default, whose cells are left out. -/
def Row.withDefault (row : Row) (fallback : Int) : LayoutRow :=
  ⟨row.cells.filter (·.2 ≠ fallback), fallback⟩

/-- Each cell that holds the default saves two integers. -/
theorem Row.size_withDefault (row : Row) (fallback : Int) :
    (row.withDefault fallback).size + 2 * row.entries.count fallback =
      (row.compressed false).size := by
  have hcount : row.entries.count fallback = row.cells.countP fun c => c.2 == fallback := by
    rw [entries, List.count, List.countP_map]
    rfl
  have hkept : (row.withDefault fallback).cells.length =
      row.cells.countP fun c => decide ¬(c.2 == fallback) = true := by
    rw [withDefault, List.countP_eq_length_filter]
    simp
  have hall := List.length_eq_countP_add_countP (fun c : Cell => c.2 == fallback) (l := row.cells)
  rw [← hcount, ← hkept] at hall
  have hplain : (row.compressed false).size = 2 * row.cells.length + 2 := rfl
  rw [hplain, LayoutRow.size]
  omega

/-- Compaction gives a row its default reduction as its default. -/
theorem Row.compressed_true (h : ∀ c ∈ row.cells, c.2 ≠ errorEntry) :
    row.compressed true = row.withDefault row.defaultReduction := by
  rw [compressed, if_pos rfl, withDefault]
  by_cases hnone : row.defaultReduction = errorEntry
  · have hall : row.cells.filter (·.2 ≠ errorEntry) = row.cells := by
      rw [List.filter_eq_self]
      intro c hc
      exact decide_eq_true (h c hc)
    simp only [hnone, if_true, hall]
  · simp only [hnone, if_false]

theorem room_eq_sum (rows : List LayoutRow) : room rows = (rows.map LayoutRow.size).sum := by
  rw [room, List.length_flatMap]
  simp only [LayoutRow.toList_length]

end Choice

end Table

/-! ## Tables that hold actions -/

namespace ActionTable

variable {table : ActionTable} {st t : Nat} {e : Int}

/-- The row of a state; an empty one, if there is no such state. -/
def rowAt (table : ActionTable) (st : Nat) : Row :=
  table.rows.getD st Row.empty

/-- How many terminals of a state have an entry of some kind. -/
def countCells (table : ActionTable) (st : Nat) (kind : Int → Bool) : Nat :=
  (List.range table.terminals).countP fun t => (table.cell? st t).any kind

/-- How many terminals of a state have an entry. -/
def multiplicity (table : ActionTable) (st : Nat) (entry : Int) : Nat :=
  table.countCells st (· == entry)

/-- A table whose cells belong to its terminals and hold shifts to states and reductions by
productions that are not negative. -/
structure HoldsActions (table : ActionTable) : Prop where
  inRange : ∀ st t e, table.cell? st t = some e → t < table.terminals
  actions : ∀ st t e, table.cell? st t = some e →
    (∃ target, 0 ≤ target ∧ e = shiftEntry target) ∨
      ∃ production, 0 ≤ production ∧ e = reduceEntry production

/-- Updates with operands that are not negative leave such a table. -/
theorem holdsActions_run {states terminals : Int} {calls : List ActionCall}
    (hcalls : ∀ call ∈ calls, 0 ≤ call.operand) :
    ((empty states terminals).run calls).HoldsActions := by
  constructor
  · intro st t e h
    have hlt := lt_of_cell?_run h
    rw [(run_empty_sizes states terminals calls).2]
    omega
  · intro st t e h
    rw [cell?_run] at h
    obtain ⟨call, hcall, _, rfl⟩ := ActionCall.exists_of_stored h
    have hoperand := hcalls call hcall
    cases call with
    | shift state terminal target => exact .inl ⟨target, hoperand, rfl⟩
    | reduce state terminal production => exact .inr ⟨production, hoperand, rfl⟩

theorem cell?_eq_rowAt (table : ActionTable) (st t : Nat) :
    table.cell? st t = (table.rowAt st).get? t := by
  rw [cell?, Table.cell?, rowAt, List.getD_eq_getElem?_getD]
  cases table.rows[st]? with
  | none => rfl
  | some row => rfl

theorem rowAt_of_lt (h : st < table.states) : table.rowAt st = table.rows[st] := by
  rw [rowAt, List.getD_eq_getElem?_getD, List.getElem?_eq_getElem h]
  rfl

theorem mem_cells_rowAt {c : Cell} :
    c ∈ (table.rowAt st).cells ↔ table.cell? st c.1 = some c.2 := by
  rw [cell?_eq_rowAt]
  exact Row.get?_eq_some_iff.symm

/-- A table is laid out state by state. -/
theorem compress_eq_rowAt (table : ActionTable) (compact : Bool) :
    table.compress compact =
      layout ((List.range table.states).map fun st => (table.rowAt st).compressed compact) := by
  have hrows : table.rows = (List.range table.states).map table.rowAt := by
    apply List.ext_getElem
    · rw [List.length_map, List.length_range, states]
    · intro st hst _
      rw [List.getElem_map, List.getElem_range, rowAt_of_lt hst]
  rw [compress]
  conv_lhs => rw [hrows]
  rw [List.map_map]
  rfl

theorem HoldsActions.countCells_eq (h : table.HoldsActions) (st : Nat) (kind : Int → Bool) :
    table.countCells st kind = (table.rowAt st).entries.countP kind := by
  have hsymbols : ∀ t e, (table.rowAt st).get? t = some e → t < table.terminals := by
    intro t e he
    rw [← cell?_eq_rowAt] at he
    exact h.inRange st t e he
  rw [← Row.countP_entries kind hsymbols]
  simp only [countCells, cell?_eq_rowAt]

theorem HoldsActions.multiplicity_eq (h : table.HoldsActions) (st : Nat) (e : Int) :
    table.multiplicity st e = (table.rowAt st).entries.count e :=
  h.countCells_eq st _

theorem HoldsActions.ne_error (h : table.HoldsActions) (hcell : table.cell? st t = some e) :
    e ≠ errorEntry := by
  rcases h.actions st t e hcell with ⟨target, htarget, rfl⟩ | ⟨production, hproduction, rfl⟩
  · rw [shiftEntry, errorEntry]
    omega
  · rw [reduceEntry, errorEntry]
    omega

/-- An entry that no cell of a row holds occurs in it no time. -/
theorem multiplicity_eq_zero (h : ∀ t, table.cell? st t ≠ some e) :
    table.multiplicity st e = 0 := by
  rw [multiplicity, countCells, List.countP_eq_zero]
  intro t _ hany
  obtain ⟨stored, hstored, heq⟩ := (Option.any_eq_true _ _).mp hany
  exact h t ((eq_of_beq heq) ▸ hstored)

theorem HoldsActions.multiplicity_error (h : table.HoldsActions) (st : Nat) :
    table.multiplicity st errorEntry = 0 :=
  multiplicity_eq_zero fun _ hcell => h.ne_error hcell rfl

/-! ## The default of a state -/

/-- A state reduces by a production for some terminal. -/
def ReducesBy (table : ActionTable) (st : Nat) (production : Int) : Prop :=
  0 ≤ production ∧ ∃ t, table.cell? st t = some (reduceEntry production)

/-- A production that a state reduces by for the most terminals, and the earliest one of those
that it reduces by for as many. -/
structure IsMostFrequent (table : ActionTable) (st : Nat) (production : Int) : Prop where
  occurs : table.ReducesBy st production
  most : ∀ other, table.ReducesBy st other →
    table.multiplicity st (reduceEntry other) ≤ table.multiplicity st (reduceEntry production)
  earliest : ∀ other, table.ReducesBy st other →
    table.multiplicity st (reduceEntry other) = table.multiplicity st (reduceEntry production) →
      production ≤ other

theorem ReducesBy.mem_reductions {production : Int} (h : table.ReducesBy st production) :
    reduceEntry production ∈ (table.rowAt st).reductions := by
  obtain ⟨hproduction, t, hcell⟩ := h
  rw [cell?_eq_rowAt] at hcell
  refine Row.mem_reductions.mpr ⟨?_, t, hcell⟩
  rw [reduceEntry]
  omega

theorem HoldsActions.exists_of_mem_reductions (h : table.HoldsActions)
    (he : e ∈ (table.rowAt st).reductions) :
    ∃ production, e = reduceEntry production ∧ table.ReducesBy st production := by
  obtain ⟨hneg, t, hcell⟩ := Row.mem_reductions.mp he
  rw [← cell?_eq_rowAt] at hcell
  rcases h.actions st t e hcell with ⟨target, htarget, rfl⟩ | ⟨production, hproduction, rfl⟩
  · rw [shiftEntry] at hneg
    omega
  · exact ⟨production, rfl, hproduction, t, hcell⟩

theorem HoldsActions.default_eq_error_iff (h : table.HoldsActions) :
    (table.rowAt st).defaultReduction = errorEntry ↔
      ∀ production, ¬ table.ReducesBy st production := by
  rw [Row.defaultReduction_eq_error_iff]
  constructor
  · intro hnone production hreduces
    exact hnone _ hreduces.mem_reductions
  · intro hnone e he
    obtain ⟨production, _, hreduces⟩ := h.exists_of_mem_reductions he
    exact hnone production hreduces

/-- **The default of a state that reduces is its most frequent reduction.** -/
theorem HoldsActions.default_isMostFrequent (h : table.HoldsActions)
    (hsome : (table.rowAt st).defaultReduction ≠ errorEntry) :
    ∃ production, (table.rowAt st).defaultReduction = reduceEntry production ∧
      table.IsMostFrequent st production := by
  have hmem := (table.rowAt st).defaultReduction_cases.resolve_left hsome
  obtain ⟨production, hdefault, hreduces⟩ := h.exists_of_mem_reductions hmem
  have hpreferred : ∀ other, table.ReducesBy st other →
      Preferred (table.rowAt st).entries (reduceEntry production) (reduceEntry other) := by
    intro other hother
    rw [← hdefault]
    exact (Row.preferred_defaultReduction hother.mem_reductions).2
  refine ⟨production, hdefault, hreduces, ?_, ?_⟩
  · intro other hother
    have hmore := hpreferred other hother
    rw [h.multiplicity_eq, h.multiplicity_eq]
    unfold Preferred at hmore
    omega
  · -- Of two reductions the one by the earlier production has the larger entry.
    intro other hother hsame
    have hmore := hpreferred other hother
    rw [h.multiplicity_eq, h.multiplicity_eq] at hsame
    unfold Preferred at hmore
    rw [reduceEntry, reduceEntry] at *
    omega

/-! ## Lengths -/

/-- What a row may have as its default: no action, or a reduction. -/
def IsDefault (fallback : Int) : Prop :=
  fallback = errorEntry ∨ ∃ production, 0 ≤ production ∧ fallback = reduceEntry production

/-- The table in the compressed layout, with a default for each state that is chosen
beforehand; in each row the cells that hold it are left out. -/
def compressWith (table : ActionTable) (choice : Nat → Int) : List Int :=
  layout ((List.range table.states).map fun st => (table.rowAt st).withDefault (choice st))

/-- How many cells are left out of a row; none, if its default is no action. -/
def saving (table : ActionTable) (st : Nat) (fallback : Int) : Nat :=
  if fallback = errorEntry then 0 else table.multiplicity st fallback

theorem HoldsActions.saving_eq (h : table.HoldsActions) (st : Nat) (fallback : Int) :
    table.saving st fallback = table.multiplicity st fallback := by
  unfold saving
  split
  · rename_i herror
    rw [herror, h.multiplicity_error]
  · rfl

theorem HoldsActions.compress_true (h : table.HoldsActions) :
    table.compress true = table.compressWith fun st => (table.rowAt st).defaultReduction := by
  have hactions : ∀ st, ∀ c ∈ (table.rowAt st).cells, c.2 ≠ errorEntry :=
    fun st c hc => h.ne_error (mem_cells_rowAt.mp hc)
  rw [compress_eq_rowAt, compressWith]
  simp only [Row.compressed_true (hactions _)]

/-- A choice of defaults shortens the table by two integers for each cell that is left out. -/
theorem HoldsActions.compressWith_length (h : table.HoldsActions) (choice : Nat → Int) :
    (table.compressWith choice).length +
        2 * ((List.range table.states).map fun st => table.saving st (choice st)).sum =
      (table.compress false).length := by
  have hsizes : ∀ st, ((table.rowAt st).compressed false).size =
      ((table.rowAt st).withDefault (choice st)).size + 2 * table.saving st (choice st) := by
    intro st
    rw [h.saving_eq, h.multiplicity_eq, Row.size_withDefault]
  rw [compress_eq_rowAt, compressWith, layout_length, layout_length, room_eq_sum, room_eq_sum,
    List.map_map, List.map_map, List.length_map, List.length_map]
  simp only [Function.comp_def, hsizes]
  rw [List.sum_map_add, List.sum_map_mul_left, Nat.add_assoc]

/-- No default of a row saves more cells than its default reduction. -/
theorem HoldsActions.saving_le (h : table.HoldsActions) {fallback : Int}
    (hfallback : IsDefault fallback) :
    table.saving st fallback ≤ table.saving st (table.rowAt st).defaultReduction := by
  rw [h.saving_eq, h.saving_eq]
  rcases hfallback with rfl | ⟨production, hproduction, rfl⟩
  · rw [h.multiplicity_error]
    exact Nat.zero_le _
  · by_cases hreduces : table.ReducesBy st production
    · have hpreferred := (Row.preferred_defaultReduction hreduces.mem_reductions).2
      rw [h.multiplicity_eq, h.multiplicity_eq]
      unfold Preferred at hpreferred
      omega
    · -- A reduction that the row does not have saves nothing.
      have hzero : table.multiplicity st (reduceEntry production) = 0 :=
        multiplicity_eq_zero fun t hcell => hreduces ⟨hproduction, t, hcell⟩
      rw [hzero]
      exact Nat.zero_le _

theorem HoldsActions.compress_true_shortest (h : table.HoldsActions) {choice : Nat → Int}
    (hchoice : ∀ st < table.states, IsDefault (choice st)) :
    (table.compress true).length ≤ (table.compressWith choice).length := by
  have hsavings : ((List.range table.states).map fun st => table.saving st (choice st)).sum ≤
      ((List.range table.states).map fun st =>
        table.saving st (table.rowAt st).defaultReduction).sum := by
    apply List.sum_le_sum
    intro st hst
    exact h.saving_le (hchoice st (List.mem_range.mp hst))
  have hchosen := h.compressWith_length choice
  have hbest := h.compressWith_length fun st => (table.rowAt st).defaultReduction
  rw [← h.compress_true] at hbest
  omega

/-! ## Histories -/

/-- **Compaction picks the best default of each row.** After any history of updates, the
default of a state is its most frequent reduction, of several the one by the earliest
production, and no action exactly if the state has no reduction. Compaction saves two
integers for each cell that holds the default of its row, and no other choice of a default
for each row leads to a shorter table. -/
theorem compaction_picks_best (states terminals : Int) {calls : List ActionCall}
    (hcalls : ∀ call ∈ calls, 0 ≤ call.operand) :
    let table := (empty states terminals).run calls
    ∃ fallback : Nat → Int,
      (∀ st < states.toNat, table.defaultReduction st = .ok (fallback st) ∧
        (fallback st = errorEntry ↔ ∀ production, ¬ table.ReducesBy st production) ∧
        (fallback st ≠ errorEntry → ∃ production, fallback st = reduceEntry production ∧
          table.IsMostFrequent st production)) ∧
      table.compress true = table.compressWith fallback ∧
      (table.compress true).length +
          2 * ((List.range states.toNat).map fun st => table.saving st (fallback st)).sum =
        (table.compress false).length ∧
      ∀ choice : Nat → Int, (∀ st < states.toNat, IsDefault (choice st)) →
        (table.compress true).length ≤ (table.compressWith choice).length := by
  intro table
  have h : table.HoldsActions := holdsActions_run hcalls
  have hstates : table.states = states.toNat := (run_empty_sizes states terminals calls).1
  refine ⟨fun st => (table.rowAt st).defaultReduction, ?_, h.compress_true, ?_, ?_⟩
  · intro st hst
    have hrow : st < table.states := hstates ▸ hst
    refine ⟨?_, h.default_eq_error_iff, h.default_isMostFrequent⟩
    show table.defaultReduction st = .ok (table.rowAt st).defaultReduction
    rw [rowAt_of_lt hrow, defaultReduction_natCast hrow]
  · rw [h.compress_true, ← hstates]
    exact h.compressWith_length _
  · intro choice hchoice
    exact h.compress_true_shortest (hstates ▸ hchoice)

/-- Updates of three rows: the first one has no reduction, the second one has two that occur
twice each, the third one a single cell. -/
def threeRowCalls : List ActionCall := [
  .shift 0 2 1, .reduce 1 0 4, .reduce 1 1 2, .shift 1 4 0, .reduce 1 2 4, .reduce 1 3 2,
  .reduce 2 0 4]

/-- The tie is decided for the earlier production, and three cells are left out. The other
production of the tie would save as many cells, and no more. -/
theorem compaction_picks_best_threeRows :
    let table := (empty 3 5).run threeRowCalls
    (∀ call ∈ threeRowCalls, 0 ≤ call.operand) ∧
      table.IsMostFrequent 1 2 ∧
      (∀ production, ¬ table.ReducesBy 0 production) ∧
      (table.compress true).length + 6 = (table.compress false).length ∧
      (table.compress true).length ≤ (table.compressWith fun _ => reduceEntry 4).length := by
  have hcalls : ∀ call ∈ threeRowCalls, 0 ≤ call.operand := by decide
  obtain ⟨fallback, hdefaults, _, hlength, hshortest⟩ := compaction_picks_best 3 5 hcalls
  obtain ⟨hfirst, hnone, _⟩ := hdefaults 0 (by decide)
  obtain ⟨hsecond, _, hmost⟩ := hdefaults 1 (by decide)
  obtain ⟨hthird, _, _⟩ := hdefaults 2 (by decide)
  have hzero : fallback 0 = errorEntry := Except.ok.inj (hfirst.symm.trans (by decide))
  have hone : fallback 1 = reduceEntry 2 := Except.ok.inj (hsecond.symm.trans (by decide))
  have htwo : fallback 2 = reduceEntry 4 := Except.ok.inj (hthird.symm.trans (by decide))
  obtain ⟨production, hproduction, hfrequent⟩ := hmost (by rw [hone]; decide)
  obtain rfl : production = 2 := by
    rw [hone, reduceEntry, reduceEntry] at hproduction
    omega
  refine ⟨hcalls, hfrequent, hnone.mp hzero, ?_, ?_⟩
  · simp only [show List.range (Int.toNat 3) = [0, 1, 2] from rfl, List.map_cons, List.map_nil,
      hzero, hone, htwo] at hlength
    rw [← hlength]
    decide
  · exact hshortest _ fun _ _ => .inr ⟨4, by decide, rfl⟩

end ActionTable

end LalrBackend
