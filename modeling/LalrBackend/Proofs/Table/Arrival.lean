import LalrBackend.Proofs.Table.Order
import LalrBackend.Proofs.Table.Updates
import Mathlib.Tactic.TFAE

/-!
# Rows in the order of arrival

The rows of a table that is being built hold their cells in the order in which they came: a
new cell comes last, and one that is written once more stays where it is. Such a table
refuses the updates that a table with ordered rows refuses, and its defaults and its layout
are the ones of that table. So the order of the updates shows in neither.
-/

namespace LalrBackend

open Table Failure

namespace Table

/-! ## Cells as they come -/

/-- Writes an entry for a symbol: in the place of the one that is there, or else last. -/
def writeCell (symbol : Nat) (entry : Int) : List Cell → List Cell
  | [] => [(symbol, entry)]
  | c :: cs => if c.1 = symbol then (symbol, entry) :: cs else c :: writeCell symbol entry cs

section Cells

variable {cells came : List Cell} {symbol t : Nat} {entry e : Int}

theorem Distinct.perm (h : Distinct cells) (hperm : cells.Perm came) : Distinct came :=
  (hperm.pairwise_iff fun hne => Ne.symm hne).mp h

theorem writeCell_of_absent (h : ∀ c ∈ cells, c.1 ≠ symbol) :
    writeCell symbol entry cells = cells ++ [(symbol, entry)] := by
  induction cells with
  | nil => rfl
  | cons c cs ih =>
      rw [writeCell, if_neg (h c List.mem_cons_self),
        ih fun d hd => h d (List.mem_cons_of_mem _ hd)]
      rfl

theorem writeCell_of_mem (h : Distinct cells) (hmem : (symbol, entry) ∈ cells) :
    writeCell symbol entry cells = cells := by
  induction cells with
  | nil => cases hmem
  | cons c cs ih =>
      obtain ⟨hfirst, hrest⟩ := List.pairwise_cons.mp h
      rw [writeCell]
      rcases List.mem_cons.mp hmem with rfl | hmem
      · rw [if_pos rfl]
      · rw [if_neg (hfirst _ hmem), ih hrest hmem]

theorem insertCell_perm_of_absent (h : ∀ c ∈ cells, c.1 ≠ symbol) :
    (insertCell symbol entry cells).Perm ((symbol, entry) :: cells) := by
  induction cells with
  | nil => exact .refl _
  | cons c cs ih =>
      rw [insertCell]
      by_cases hlt : symbol < c.1
      · rw [if_pos hlt]
      · rw [if_neg hlt, if_neg (h c List.mem_cons_self)]
        have hrest := ih fun d hd => h d (List.mem_cons_of_mem _ hd)
        exact (hrest.cons c).trans (.swap _ _ _)

/-- Cells answer alike in every order. -/
theorem lookup_of_perm (h : Ascending cells) (hperm : came.Perm cells) (t : Nat) :
    came.lookup t = cells.lookup t := by
  apply Option.ext
  intro e
  rw [(h.distinct.perm hperm.symm).lookup_eq_some_iff, h.lookup_eq_some_iff, hperm.mem_iff]

theorem absent_of_lookup (h : cells.lookup symbol = none) : ∀ c ∈ cells, c.1 ≠ symbol := by
  intro c hc heq
  have hne := List.lookup_eq_none_iff.mp h c hc
  simp [heq] at hne

/-- A row that is written to where it has no cell stays a row, up to the order. -/
theorem writeCell_perm_insert {row : Row} (hperm : came.Perm row.cells)
    (hnone : row.get? symbol = none) :
    (writeCell symbol entry came).Perm (row.insert symbol entry).cells := by
  have habsent : ∀ c ∈ row.cells, c.1 ≠ symbol := absent_of_lookup hnone
  rw [writeCell_of_absent fun c hc => habsent c (hperm.mem_iff.mp hc)]
  have hlast : (came ++ [(symbol, entry)]).Perm ((symbol, entry) :: came) :=
    List.perm_append_comm
  exact (hlast.trans (hperm.cons _)).trans (insertCell_perm_of_absent habsent).symm

end Cells

end Table

/-! ## Tables as they are filled -/

theorem set_getD_self {α : Type} (as : List α) (i : Nat) (a : α) :
    as.set i (as.getD i a) = as := by
  by_cases h : i < as.length
  · rw [List.getD_eq_getElem?_getD, List.getElem?_eq_getElem h, Option.getD_some,
      List.set_getElem_self]
  · exact List.set_eq_of_length_le (Nat.le_of_not_lt h)

/-- An action table whose rows hold their cells in the order in which they came. -/
structure ArrivalTable where
  terminals : Nat
  rows : List (List Cell)

namespace ArrivalTable

/-- A table without actions. -/
def empty (states terminals : Int) : ArrivalTable :=
  ⟨terminals.toNat, List.replicate states.toNat []⟩

/-- The cells of a state, as they came. -/
def cells (table : ArrivalTable) (st : Nat) : List Cell :=
  table.rows.getD st []

/-- Writes an entry; the terminal is looked at first, then the state, then the cell. -/
def store (table : ArrivalTable) (state terminal entry : Int) :
    Except TableError ArrivalTable := do
  let symbol ← symbolIndex .terminalOutOfRange table.terminals terminal
  let position ← statePosition table.rows.length state
  ActionTable.needAgreement state terminal entry ((table.cells position).lookup symbol)
  let cells := writeCell symbol entry (table.cells position)
  return { table with rows := table.rows.set position cells }

/-- Performs updates one after the other, until one is refused. -/
def build (table : ArrivalTable) (calls : List ActionCall) : Except TableError ArrivalTable :=
  calls.foldlM (fun table call => table.store call.state call.terminal call.entry) table

/-- The default reduction of a state, chosen among the entries as they came. -/
def defaultReduction (table : ArrivalTable) (state : Int) : Except TableError Int :=
  (statePosition table.rows.length state).map fun position =>
    commonReduction (table.cells position)

/-- The table in the compressed layout: its rows are put in order last. -/
def compress (table : ArrivalTable) (compact : Bool) : List Int :=
  layout (table.rows.map (laidOut compact))

/-- A table as it is filled has the rows of an ordered one, up to the order of their cells. -/
structure Represents (came : ArrivalTable) (table : ActionTable) : Prop where
  terminals : came.terminals = table.terminals
  length : came.rows.length = table.rows.length
  cells : ∀ st, (came.cells st).Perm (table.rows.getD st Row.empty).cells

theorem represents_empty (states terminals : Int) :
    Represents (empty states terminals) (ActionTable.empty states terminals) where
  terminals := rfl
  length := by
    rw [empty, ActionTable.empty, List.length_replicate, List.length_replicate]
  cells st := by
    simp only [ArrivalTable.cells, empty, ActionTable.empty, List.getD_eq_getElem?_getD,
      List.getElem?_replicate]
    split <;> exact .refl _

/-- Two ways to go on that end alike: in the same refusal, or in tables of which one has the
rows of the other. -/
def EndAlike (came : Except TableError ArrivalTable) (built : Except TableError ActionTable) :
    Prop :=
  match came, built with
  | .ok came, .ok table => Represents came table
  | .error e, .error e' => e = e'
  | _, _ => False

section Represented

variable {came : ArrivalTable} {table : ActionTable}

theorem Represents.set (h : Represents came table) (st : Nat) {cells : List Cell} {row : Row}
    (hperm : cells.Perm row.cells) :
    Represents ⟨table.terminals, came.rows.set st cells⟩
      ⟨table.terminals, table.rows.set st row⟩ where
  terminals := rfl
  length := by
    rw [List.length_set, List.length_set, h.length]
  cells st' := by
    have hothers := h.cells st'
    simp only [ArrivalTable.cells, List.getD_eq_getElem?_getD, List.getElem?_set] at hothers ⊢
    by_cases hst : st = st'
    · subst hst
      rw [if_pos rfl, if_pos rfl, h.length]
      split
      · exact hperm
      · exact .refl _
    · rwa [if_neg hst, if_neg hst]

/-- **Writing an entry comes to the same in a table as it is filled.** -/
theorem Represents.store (h : Represents came table) (state terminal entry : Int) :
    EndAlike (came.store state terminal entry) (table.store state terminal entry) := by
  unfold ArrivalTable.store ActionTable.store
  rw [h.terminals, h.length]
  cases symbolIndex .terminalOutOfRange table.terminals terminal with
  | error e => rfl
  | ok symbol =>
      cases statePosition table.rows.length state with
      | error e => rfl
      | ok st =>
          have hperm := h.cells st
          have hlookup := lookup_of_perm (table.rows.getD st Row.empty).ascending hperm symbol
          simp only [ok_bind, hlookup]
          cases hcell : (table.rows.getD st Row.empty).get? symbol with
          | none =>
              rw [Row.get?] at hcell
              simp only [hcell, ActionTable.needAgreement, ok_bind, pure_eq_ok]
              exact h.set st (writeCell_perm_insert hperm hcell)
          | some stored =>
              -- An entry that agrees is written again, any other one is refused on both sides.
              have hmem := hperm.mem_iff.mpr (Row.get?_eq_some_iff.mp hcell)
              rw [Row.get?] at hcell
              simp only [hcell, ActionTable.needAgreement]
              by_cases heq : stored = entry
              · -- The cell is written once more, which leaves its row as it was.
                subst heq
                have hdistinct : Distinct (came.cells st) :=
                  (table.rows.getD st Row.empty).ascending.distinct.perm hperm.symm
                simp only [if_true, ok_bind, pure_eq_ok, writeCell_of_mem hdistinct hmem]
                have hset := h.set st hperm
                rwa [set_getD_self] at hset
              · simp only [if_neg heq]
                rfl

theorem Represents.build (h : Represents came table) (calls : List ActionCall) :
    EndAlike (came.build calls) (table.build calls) := by
  induction calls generalizing came table with
  | nil => exact h
  | cons call calls ih =>
      have hstore := h.store call.state call.terminal call.entry
      unfold ArrivalTable.build ActionTable.build
      rw [List.foldlM_cons, List.foldlM_cons, ActionCall.perform_eq_store]
      cases hcame : came.store call.state call.terminal call.entry with
      | error e =>
          cases htable : table.store call.state call.terminal call.entry with
          | error e' => rwa [hcame, htable] at hstore
          | ok table' =>
              rw [hcame, htable] at hstore
              cases hstore
      | ok came' =>
          cases htable : table.store call.state call.terminal call.entry with
          | error e' =>
              rw [hcame, htable] at hstore
              cases hstore
          | ok table' =>
              rw [hcame, htable] at hstore
              exact ih hstore

theorem Represents.defaultReduction (h : Represents came table) (state : Int) :
    came.defaultReduction state = table.defaultReduction state := by
  unfold ArrivalTable.defaultReduction ActionTable.defaultReduction ActionTable.row
  rw [h.length]
  cases statePosition table.rows.length state with
  | error e => rfl
  | ok st => exact congrArg Except.ok (commonReduction_of_perm (h.cells st))

theorem Represents.compress (h : Represents came table) (compact : Bool) :
    came.compress compact = table.compress compact := by
  have hrows : came.rows.map (laidOut compact) = table.rows.map (Row.compressed compact) := by
    apply List.ext_getElem
    · rw [List.length_map, List.length_map, h.length]
    · intro st hst hst'
      rw [List.length_map] at hst hst'
      have hperm := h.cells st
      simp only [ArrivalTable.cells, List.getD_eq_getElem?_getD, List.getElem?_eq_getElem hst,
        List.getElem?_eq_getElem hst', Option.getD_some] at hperm
      rw [List.getElem_map, List.getElem_map, laidOut_of_perm compact hperm]
  rw [ArrivalTable.compress, hrows, ActionTable.compress]

end Represented

/-- Rows as they come are built exactly if rows in order are, and then they represent
them. -/
theorem build_eq_ok_iff {states terminals : Int} {calls : List ActionCall} :
    (∃ came, (empty states terminals).build calls = .ok came) ↔
      ∃ table, (ActionTable.empty states terminals).build calls = .ok table := by
  have hends := (represents_empty states terminals).build calls
  cases hcame : (empty states terminals).build calls with
  | error e =>
      cases htable : (ActionTable.empty states terminals).build calls with
      | error e' => exact ⟨nofun, nofun⟩
      | ok table =>
          rw [hcame, htable] at hends
          cases hends
  | ok came =>
      cases htable : (ActionTable.empty states terminals).build calls with
      | error e' =>
          rw [hcame, htable] at hends
          cases hends
      | ok table => exact ⟨fun _ => ⟨table, rfl⟩, fun _ => ⟨came, rfl⟩⟩

theorem represents_of_build {states terminals : Int} {calls : List ActionCall}
    {came : ArrivalTable} {table : ActionTable}
    (hcame : (empty states terminals).build calls = .ok came)
    (htable : (ActionTable.empty states terminals).build calls = .ok table) :
    Represents came table := by
  have hends := (represents_empty states terminals).build calls
  rwa [hcame, htable] at hends

end ArrivalTable

/-! ## Orders of updates -/

namespace ActionTable

variable {states terminals : Int} {calls calls' : List ActionCall}

/-- Updates run through without a refusal and give these defaults and these arrays, whether
the rows are kept in order or as they come. -/
structure Yields (states terminals : Int) (calls : List ActionCall)
    (defaults : Int → Except TableError Int) (arrays : Bool → List Int) : Prop where
  ordered : ∃ table, (empty states terminals).build calls = .ok table ∧
    table.defaultReduction = defaults ∧ table.compress = arrays
  arrived : ∃ came, (ArrivalTable.empty states terminals).build calls = .ok came ∧
    came.defaultReduction = defaults ∧ came.compress = arrays

theorem yields_of_build {table : ActionTable}
    (h : (empty states terminals).build calls = .ok table) :
    Yields states terminals calls table.defaultReduction table.compress := by
  obtain ⟨came, hcame⟩ := ArrivalTable.build_eq_ok_iff.mpr ⟨table, h⟩
  have hrepresents := ArrivalTable.represents_of_build hcame h
  refine ⟨⟨table, h, rfl, rfl⟩, came, hcame, ?_, ?_⟩
  · exact funext hrepresents.defaultReduction
  · exact funext hrepresents.compress

/-- **The construction of an action table does not depend on the order of its updates.** Two
orders of the same updates are refused alike, and if they are not, they give the same
defaults and the same arrays. -/
theorem construction_order_free (states terminals : Int) (hperm : calls.Perm calls') :
    [∃ table, (empty states terminals).build calls = .ok table,
      ∃ table, (empty states terminals).build calls' = .ok table,
      ∃ came, (ArrivalTable.empty states terminals).build calls = .ok came,
      ∃ came, (ArrivalTable.empty states terminals).build calls' = .ok came].TFAE ∧
    ∀ table, (empty states terminals).build calls = .ok table →
      Yields states terminals calls table.defaultReduction table.compress ∧
        Yields states terminals calls' table.defaultReduction table.compress := by
  constructor
  · tfae_have 1 ↔ 2 := exists_congr fun _ => build_perm hperm
    tfae_have 3 ↔ 1 := ArrivalTable.build_eq_ok_iff
    tfae_have 4 ↔ 2 := ArrivalTable.build_eq_ok_iff
    tfae_finish
  · intro table htable
    exact ⟨yields_of_build htable, yields_of_build ((build_perm hperm).mp htable)⟩

/-- Updates of one row, with a tie of two reductions and an update that is repeated. -/
def tiedCalls : List ActionCall :=
  [.reduce 0 0 2, .reduce 0 3 1, .shift 0 1 4, .reduce 0 2 2, .reduce (-1) 4 1, .shift 0 1 4]

/-- The tie is decided for the earlier production, whichever of the two comes first. -/
theorem construction_order_free_tied :
    tiedCalls.Perm tiedCalls.reverse ∧
      ∃ table table', (empty 1 5).build tiedCalls = .ok table ∧
        (ArrivalTable.empty 1 5).build tiedCalls.reverse = .ok table' ∧
        table.defaultReduction 0 = .ok (reduceEntry 1) ∧
        table'.defaultReduction 0 = .ok (reduceEntry 1) ∧
        table'.compress true = table.compress true := by
  have hperm : tiedCalls.Perm tiedCalls.reverse := (List.reverse_perm _).symm
  obtain ⟨_, hyields⟩ := construction_order_free 1 5 hperm
  have hbuilt : (empty 1 5).build tiedCalls = .ok ((empty 1 5).run tiedCalls) := rfl
  have hdefault : ((empty 1 5).run tiedCalls).defaultReduction 0 = .ok (reduceEntry 1) := by
    decide
  obtain ⟨_, _, came, hcame, hdefaults, harrays⟩ := hyields _ hbuilt
  exact ⟨hperm, _, came, hbuilt, hcame, hdefault, hdefaults ▸ hdefault, congrFun harrays true⟩

end ActionTable

end LalrBackend
