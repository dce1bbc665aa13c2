import LalrBackend.Proofs.Table.Compaction
import Mathlib.Data.List.Sort

/-!
# Tables do not depend on the order of their updates

A sequence of updates runs through without a refusal exactly if each of them names a cell
and those that name the same one ask for the same entry. This is said of the updates
without regard to their order, and so is what the cells hold in the end. The default of a
row and its layout are those of its cells, in whatever order these were filled.
-/

namespace LalrBackend

open Table Failure

namespace Table

/-! ## The most frequent of several entries -/

section Choice

variable {entries entries' : List Int} {a b c : Int}

/-- One entry is preferred to another if it occurs more often, or as often and is not
smaller. -/
def Preferred (entries : List Int) (a b : Int) : Prop :=
  entries.count b < entries.count a ∨ (entries.count b = entries.count a ∧ b ≤ a)

theorem Preferred.refl (entries : List Int) (a : Int) : Preferred entries a a :=
  .inr ⟨rfl, Int.le_refl a⟩

theorem Preferred.trans (h : Preferred entries a b) (h' : Preferred entries b c) :
    Preferred entries a c := by
  unfold Preferred at *
  omega

theorem Preferred.antisymm (h : Preferred entries a b) (h' : Preferred entries b a) : a = b := by
  unfold Preferred at *
  omega

/-- The more frequent of two entries is preferred to both of them. -/
theorem preferred_moreFrequent (entries : List Int) (a b : Int) :
    Preferred entries (moreFrequent entries a b) a ∧
      Preferred entries (moreFrequent entries a b) b := by
  unfold moreFrequent
  split
  · rename_i h
    refine ⟨?_, .refl _ _⟩
    unfold Preferred
    omega
  · rename_i h
    refine ⟨.refl _ _, ?_⟩
    unfold Preferred
    omega

/-- A choice among entries is preferred to each of them. -/
theorem preferred_foldl_moreFrequent (counted : List Int) : ∀ (es : List Int) (e : Int),
    ∀ x ∈ e :: es, Preferred counted (es.foldl (moreFrequent counted) e) x := by
  intro es
  induction es with
  | nil =>
      intro e x hx
      rw [List.mem_singleton.mp hx]
      exact .refl _ _
  | cons d ds ih =>
      intro e x hx
      obtain ⟨hleft, hright⟩ := preferred_moreFrequent counted e d
      have hchosen := ih (moreFrequent counted e d) _ List.mem_cons_self
      rw [List.foldl_cons]
      rcases List.mem_cons.mp hx with rfl | hx
      · exact hchosen.trans hleft
      rcases List.mem_cons.mp hx with rfl | hx
      · exact hchosen.trans hright
      · exact ih _ x (List.mem_cons_of_mem _ hx)

/-- The choice among entries that come one after the other; no action, if none comes. -/
def mostFrequent : List Int → Int
  | [] => errorEntry
  | e :: es => es.foldl (moreFrequent (e :: es)) e

theorem Row.defaultReduction_eq (row : Row) :
    row.defaultReduction = mostFrequent row.reductions := by
  unfold defaultReduction mostFrequent
  rfl

theorem mostFrequent_mem (h : entries ≠ []) : mostFrequent entries ∈ entries := by
  cases entries with
  | nil => exact absurd rfl h
  | cons e es => exact foldl_moreFrequent_mem _ es e

theorem preferred_mostFrequent (ha : a ∈ entries) : Preferred entries (mostFrequent entries) a := by
  cases entries with
  | nil => cases ha
  | cons e es => exact preferred_foldl_moreFrequent _ es e a ha

/-- **The choice does not depend on the order in which the entries come.** -/
theorem mostFrequent_perm (h : entries.Perm entries') :
    mostFrequent entries = mostFrequent entries' := by
  by_cases hempty : entries = []
  · rw [hempty] at h ⊢
    rw [List.nil_perm.mp h]
  · have hempty' : entries' ≠ [] := by
      rintro rfl
      exact hempty (List.perm_nil.mp h)
    have hfirst : Preferred entries (mostFrequent entries) (mostFrequent entries') :=
      preferred_mostFrequent (h.mem_iff.mpr (mostFrequent_mem hempty'))
    have hsecond : Preferred entries' (mostFrequent entries') (mostFrequent entries) :=
      preferred_mostFrequent (h.mem_iff.mp (mostFrequent_mem hempty))
    -- The entries occur equally often in both orders.
    have hcounts : Preferred entries (mostFrequent entries') (mostFrequent entries) := by
      unfold Preferred at hsecond ⊢
      rwa [h.count_eq, h.count_eq]
    exact hfirst.antisymm hcounts

end Choice

/-! ## Cells in any order -/

section Cells

variable {cells cells' : List Cell} {row row' : Row}

/-- Cells in the order of their symbols. -/
def sortCells (cells : List Cell) : List Cell :=
  cells.mergeSort fun a b => a.1 ≤ b.1

/-- The most frequent reduction of cells, whose entries are counted as they come. -/
def commonReduction (cells : List Cell) : Int :=
  mostFrequent ((cells.map (·.2)).filter (· < 0))

/-- A row as it is laid out from cells that come one after the other; they are put in the
order of their symbols last. -/
def laidOut (compact : Bool) (cells : List Cell) : LayoutRow :=
  let fallback := if compact then commonReduction cells else errorEntry
  ⟨sortCells (if fallback = errorEntry then cells else cells.filter (·.2 ≠ fallback)), fallback⟩

theorem Ascending.nodup (h : Ascending cells) : cells.Nodup := by
  refine h.imp ?_
  rintro a _ hlt rfl
  exact Nat.lt_irrefl _ hlt

/-- Ascending cells are the only ones among their orders that ascend. -/
theorem Ascending.eq_of_perm (h : Ascending cells)
    (hsorted : cells'.Pairwise fun a b => a.1 ≤ b.1) (hperm : cells'.Perm cells) :
    cells' = cells := by
  refine hperm.eq_of_pairwise ?_ hsorted (h.imp Nat.le_of_lt)
  intro a b ha hb hab hba
  have hsymbol : a.1 = b.1 := Nat.le_antisymm hab hba
  have hfirst := h.lookup_eq_some_iff.mpr (hperm.mem_iff.mp ha)
  have hsecond := h.lookup_eq_some_iff.mpr hb
  rw [hsymbol, hsecond] at hfirst
  exact Prod.ext hsymbol (Option.some.inj hfirst).symm

theorem sortCells_of_perm (h : Ascending cells) (hperm : cells'.Perm cells) :
    sortCells cells' = cells := by
  have hsorted : (sortCells cells').Pairwise fun a b => a.1 ≤ b.1 := by
    have hpairwise : (sortCells cells').Pairwise fun a b => decide (a.1 ≤ b.1) = true :=
      List.pairwise_mergeSort (by simp only [decide_eq_true_eq]; omega)
        (by simp only [Bool.or_eq_true, decide_eq_true_eq]; omega) cells'
    exact hpairwise.imp of_decide_eq_true
  exact h.eq_of_perm hsorted ((List.mergeSort_perm cells' _).trans hperm)

theorem commonReduction_of_perm (hperm : cells.Perm row.cells) :
    commonReduction cells = row.defaultReduction := by
  rw [Row.defaultReduction_eq]
  exact mostFrequent_perm ((hperm.map _).filter _)

/-- **A row is laid out in the same way in whatever order its cells come.** -/
theorem laidOut_of_perm (compact : Bool) (hperm : cells.Perm row.cells) :
    laidOut compact cells = row.compressed compact := by
  have hchoice := commonReduction_of_perm hperm
  cases compact with
  | false =>
      simp only [laidOut, Row.compressed, Bool.false_eq_true, if_false, if_true]
      rw [sortCells_of_perm row.ascending hperm]
  | true =>
      simp only [laidOut, Row.compressed, if_true, hchoice]
      by_cases hnone : row.defaultReduction = errorEntry
      · rw [if_pos hnone, if_pos hnone, sortCells_of_perm row.ascending hperm, hnone]
      · rw [if_neg hnone, if_neg hnone,
          sortCells_of_perm (row.ascending.filter _) (hperm.filter _)]

/-- Rows with the same entries are the same. -/
theorem Row.ext_get? (h : ∀ t, row.get? t = row'.get? t) : row = row' := by
  have hmem : ∀ c, c ∈ row.cells ↔ c ∈ row'.cells := by
    rintro ⟨t, e⟩
    rw [← Row.get?_eq_some_iff, ← Row.get?_eq_some_iff, h]
  have hperm := (List.perm_ext_iff_of_nodup row.ascending.nodup row'.ascending.nodup).mpr hmem
  have hcells := row'.ascending.eq_of_perm (row.ascending.imp Nat.le_of_lt) hperm
  cases row
  cases row'
  cases hcells
  rfl

end Cells

end Table

/-! ## Updates that agree -/

/-- Updates that may be performed in any order: each of them names a cell, and those that
name the same cell ask for the same entry. -/
structure Agree (states terminals : Nat) (calls : List ActionCall) : Prop where
  named : ∀ call ∈ calls, ∃ st t, call.Names states terminals st t
  same : ∀ call ∈ calls, ∀ call' ∈ calls, ∀ st t, call.Names states terminals st t →
    call'.Names states terminals st t → call.entry = call'.entry

section Agreement

variable {states terminals st t : Nat} {calls calls' : List ActionCall} {call : ActionCall}

theorem agree_nil : Agree states terminals [] :=
  ⟨nofun, nofun⟩

theorem Agree.perm (h : Agree states terminals calls) (hperm : calls.Perm calls') :
    Agree states terminals calls' where
  named call hcall := h.named call (hperm.mem_iff.mpr hcall)
  same call hcall call' hcall' :=
    h.same call (hperm.mem_iff.mpr hcall) call' (hperm.mem_iff.mpr hcall')

/-- What updates that agree leave in a cell is what any one of them asks for it. -/
theorem Agree.stored_eq_some (h : Agree states terminals calls) (hcall : call ∈ calls)
    (hnames : call.Names states terminals st t) :
    ActionCall.stored states terminals calls st t = some call.entry := by
  cases hstored : ActionCall.stored states terminals calls st t with
  | none =>
      rw [ActionCall.stored, Option.map_eq_none_iff, List.head?_eq_none_iff,
        List.filter_eq_nil_iff] at hstored
      exact absurd (decide_eq_true hnames) (hstored call hcall)
  | some e =>
      obtain ⟨call', hcall', hnames', rfl⟩ := ActionCall.exists_of_stored hstored
      rw [h.same call hcall call' hcall' st t hnames hnames']

theorem Agree.stored_perm (h : Agree states terminals calls) (hperm : calls.Perm calls')
    (st t : Nat) :
    ActionCall.stored states terminals calls st t =
      ActionCall.stored states terminals calls' st t := by
  apply Option.ext
  intro e
  constructor
  · intro hstored
    obtain ⟨call, hcall, hnames, rfl⟩ := ActionCall.exists_of_stored hstored
    exact (h.perm hperm).stored_eq_some (hperm.mem_iff.mp hcall) hnames
  · intro hstored
    obtain ⟨call, hcall, hnames, rfl⟩ := ActionCall.exists_of_stored hstored
    exact h.stored_eq_some (hperm.mem_iff.mpr hcall) hnames

/-- One update more agrees with others if it names a cell for which they ask nothing or
the same. -/
theorem agree_snoc_iff : Agree states terminals (calls ++ [call]) ↔
    Agree states terminals calls ∧ ∃ st t, call.Names states terminals st t ∧
      ∀ e, ActionCall.stored states terminals calls st t = some e → e = call.entry := by
  have hlast : call ∈ calls ++ [call] := List.mem_append_right _ List.mem_cons_self
  constructor
  · intro h
    obtain ⟨st, t, hnames⟩ := h.named call hlast
    refine ⟨⟨?_, ?_⟩, st, t, hnames, ?_⟩
    · exact fun c hc => h.named c (List.mem_append_left _ hc)
    · exact fun c hc c' hc' =>
        h.same c (List.mem_append_left _ hc) c' (List.mem_append_left _ hc')
    · intro e hstored
      obtain ⟨call', hcall', hnames', rfl⟩ := ActionCall.exists_of_stored hstored
      exact h.same call' (List.mem_append_left _ hcall') call hlast st t hnames' hnames
  · rintro ⟨h, st, t, hnames, hfree⟩
    -- An earlier update of the cell asks for what is stored there.
    have hearlier : ∀ c ∈ calls, c.Names states terminals st t → c.entry = call.entry :=
      fun c hc hn => hfree _ (h.stored_eq_some hc hn)
    constructor
    · intro c hc
      rcases List.mem_append.mp hc with hc | hc
      · exact h.named c hc
      · rw [List.mem_singleton.mp hc]
        exact ⟨st, t, hnames⟩
    · intro c hc c' hc' st' t' hn hn'
      rcases List.mem_append.mp hc with hc | hc
      · rcases List.mem_append.mp hc' with hc' | hc'
        · exact h.same c hc c' hc' st' t' hn hn'
        · rw [List.mem_singleton.mp hc'] at hn' ⊢
          obtain ⟨rfl, rfl⟩ := (Names.unique hnames).mp hn'
          exact hearlier c hc hn
      · rw [List.mem_singleton.mp hc] at hn ⊢
        obtain ⟨rfl, rfl⟩ := (Names.unique hnames).mp hn
        rcases List.mem_append.mp hc' with hc' | hc'
        · exact (hearlier c' hc' hn').symm
        · rw [List.mem_singleton.mp hc']

end Agreement

/-! ## Tables that are built without a refusal -/

namespace ActionTable

variable {table updated : ActionTable} {call : ActionCall} {calls calls' : List ActionCall}
variable {states terminals : Int}

/-- Performs updates one after the other, until one is refused. -/
def build (table : ActionTable) (calls : List ActionCall) : Except TableError ActionTable :=
  calls.foldlM ActionCall.perform table

theorem build_snoc (table : ActionTable) (calls : List ActionCall) (call : ActionCall) :
    table.build (calls ++ [call]) = table.build calls >>= (call.perform ·) := by
  unfold build
  rw [List.foldlM_append]
  exact bind_congr fun mid => bind_pure _

/-- An update is performed if it names a cell that is empty or holds its entry. -/
theorem perform_eq_ok_iff : call.perform table = .ok updated ↔
    (∃ st t, call.Names table.states table.terminals st t ∧
      ∀ e, table.cell? st t = some e → e = call.entry) ∧ updated = table.attempt call := by
  have hattempt : ∀ {result}, call.perform table = .ok result → result = table.attempt call := by
    intro result h
    rw [attempt, h]
  constructor
  · intro h
    refine ⟨?_, hattempt h⟩
    rw [ActionCall.perform_eq_store] at h
    by_cases hnames : ∃ st t, call.Names table.states table.terminals st t
    · obtain ⟨st, t, hnames⟩ := hnames
      refine ⟨st, t, hnames, ?_⟩
      intro e hcell
      rw [store_of_names hnames, hcell] at h
      by_contra hne
      simp only [if_neg hne] at h
      cases h
    · obtain ⟨e, herror⟩ : ∃ e, table.store call.state call.terminal call.entry = .error e :=
        store_of_not_names fun st t h' => hnames ⟨st, t, h'⟩
      rw [herror] at h
      cases h
  · rintro ⟨⟨st, t, hnames, hfree⟩, rfl⟩
    have hperform : ∃ result, call.perform table = .ok result := by
      rw [ActionCall.perform_eq_store, store_of_names hnames]
      cases hcell : table.cell? st t with
      | none => exact ⟨_, rfl⟩
      | some e => exact ⟨table, if_pos (hfree e hcell)⟩
    obtain ⟨result, hresult⟩ := hperform
    rw [hresult, hattempt hresult]

/-- **Updates run through without a refusal exactly if they agree.** -/
theorem build_eq_ok_iff {table : ActionTable} :
    (empty states terminals).build calls = .ok table ↔
      Agree states.toNat terminals.toNat calls ∧ table = (empty states terminals).run calls := by
  induction calls using List.reverseRecOn generalizing table with
  | nil =>
      constructor
      · intro h
        exact ⟨agree_nil, (Except.ok.inj h).symm⟩
      · rintro ⟨_, rfl⟩
        rfl
  | append_singleton calls call ih =>
      obtain ⟨hstates, hterminals⟩ := run_empty_sizes states terminals calls
      rw [build_snoc, bind_eq_ok, agree_snoc_iff, run_snoc]
      constructor
      · rintro ⟨mid, hmid, hcall⟩
        obtain ⟨hagree, rfl⟩ := ih.mp hmid
        obtain ⟨⟨st, t, hnames, hfree⟩, rfl⟩ := perform_eq_ok_iff.mp hcall
        rw [hstates, hterminals] at hnames
        rw [cell?_run] at hfree
        exact ⟨⟨hagree, st, t, hnames, hfree⟩, rfl⟩
      · rintro ⟨⟨hagree, st, t, hnames, hfree⟩, rfl⟩
        refine ⟨_, ih.mpr ⟨hagree, rfl⟩, perform_eq_ok_iff.mpr ⟨⟨st, t, ?_, ?_⟩, rfl⟩⟩
        · rwa [hstates, hterminals]
        · rwa [cell?_run]

theorem ext_of_rows (hterminals : table.terminals = updated.terminals)
    (hrows : table.rows = updated.rows) : table = updated := by
  cases table
  cases updated
  cases hterminals
  cases hrows
  rfl

/-- Updates that agree leave the same table in every order. -/
theorem run_perm (h : Agree states.toNat terminals.toNat calls) (hperm : calls.Perm calls') :
    (empty states terminals).run calls = (empty states terminals).run calls' := by
  obtain ⟨hstates, hterminals⟩ := run_empty_sizes states terminals calls
  obtain ⟨hstates', hterminals'⟩ := run_empty_sizes states terminals calls'
  have hrows : ((empty states terminals).run calls).rows =
      ((empty states terminals).run calls').rows := by
    apply List.ext_getElem (hstates.trans hstates'.symm)
    intro st hst hst'
    apply Row.ext_get?
    intro t
    rw [row_get?_run hst, row_get?_run hst', h.stored_perm hperm]
  exact ext_of_rows (hterminals.trans hterminals'.symm) hrows

/-- **Orders of the same updates are refused alike and build the same table.** -/
theorem build_perm (hperm : calls.Perm calls') {table : ActionTable} :
    (empty states terminals).build calls = .ok table ↔
      (empty states terminals).build calls' = .ok table := by
  rw [build_eq_ok_iff, build_eq_ok_iff]
  constructor
  · rintro ⟨hagree, rfl⟩
    exact ⟨hagree.perm hperm, run_perm hagree hperm⟩
  · rintro ⟨hagree, rfl⟩
    exact ⟨hagree.perm hperm.symm, run_perm hagree hperm.symm⟩

end ActionTable

end LalrBackend
