import LalrBackend.Table.Action
import LalrBackend.Table.Goto
import LalrBackend.Proofs.Failure
import LalrBackend.Position
import LalrBackend.Proofs.Table.Row
import Mathlib.Data.List.Induction

/-!
# Runs of table updates

A table is built by updates, any of which may be refused. A refused update leaves
the table as it was. What a cell holds in the end is read off the history of
updates alone: an action table keeps the first entry that a cell was given, a
goto table the last one.
-/

namespace LalrBackend

open Table Failure

/-! ## Cells that an update names -/

namespace Table

/-- A state and a symbol name a cell of a table if the state has a row in it, counted
from the front or from the end, and the symbol is in range. -/
def Names (states symbols : Nat) (state symbol : Int) (st t : Nat) : Prop :=
  position? states state = some st ∧ symbol = (t : Int) ∧ t < symbols

instance (states symbols : Nat) (state symbol : Int) (st t : Nat) :
    Decidable (Names states symbols state symbol st t) :=
  inferInstanceAs (Decidable (_ ∧ _ ∧ _))

section Names

variable {states symbols st st' t t' : Nat} {state symbol : Int}

theorem Names.state_lt (h : Names states symbols state symbol st t) : st < states :=
  lt_of_position?_eq_some h.1

theorem Names.unique (h : Names states symbols state symbol st t) :
    Names states symbols state symbol st' t' ↔ st' = st ∧ t' = t := by
  obtain ⟨hstate, hsymbol, ht⟩ := h
  constructor
  · rintro ⟨hstate', hsymbol', _⟩
    rw [hstate] at hstate'
    cases hstate'
    exact ⟨rfl, by omega⟩
  · rintro ⟨rfl, rfl⟩
    exact ⟨hstate, hsymbol, ht⟩

theorem statePosition_of_names (h : Names states symbols state symbol st t) :
    statePosition states state = .ok st := by
  rw [statePosition, h.1]

theorem symbolIndex_of_names {error : Int → GeneratorError}
    (h : Names states symbols state symbol st t) :
    symbolIndex error symbols symbol = .ok t := by
  obtain ⟨_, rfl, ht⟩ := h
  rw [symbolIndex, if_pos (by omega)]
  rfl

/-- A state and a symbol that are both accepted name a cell. -/
theorem names_of_ok {error : Int → GeneratorError}
    (hsymbol : symbolIndex error symbols symbol = .ok t)
    (hstate : statePosition states state = .ok st) :
    Names states symbols state symbol st t := by
  unfold symbolIndex at hsymbol
  unfold statePosition at hstate
  split at hsymbol
  · split at hstate
    · cases hstate
      cases hsymbol
      refine ⟨by assumption, ?_, ?_⟩ <;> omega
    · cases hstate
  · cases hsymbol

end Names

end Table

/-! ## Action tables -/

/-- An update of an action table. -/
inductive ActionCall where
  | shift (state terminal target : Int)
  | reduce (state terminal production : Int)

namespace ActionCall

/-- The state whose row is updated. -/
def state : ActionCall → Int
  | .shift state _ _ => state
  | .reduce state _ _ => state

/-- The terminal whose cell is updated. -/
def terminal : ActionCall → Int
  | .shift _ terminal _ => terminal
  | .reduce _ terminal _ => terminal

/-- The entry that is asked for: a shift to `s` as `s + 1`, a reduction by `p` as
`-(p + 1)`. -/
def entry : ActionCall → Int
  | .shift _ _ target => target + 1
  | .reduce _ _ production => -(production + 1)

/-- Performs an update. -/
def perform (table : ActionTable) : ActionCall → Except TableError ActionTable
  | .shift state terminal target => table.shift state terminal target
  | .reduce state terminal production => table.reduce state terminal production

theorem perform_eq_store (table : ActionTable) (call : ActionCall) :
    call.perform table = table.store call.state call.terminal call.entry := by
  cases call <;> rfl

/-- The cell that an update names in a table. -/
def Names (states terminals : Nat) (call : ActionCall) (st t : Nat) : Prop :=
  Table.Names states terminals call.state call.terminal st t

instance (states terminals : Nat) (call : ActionCall) (st t : Nat) :
    Decidable (call.Names states terminals st t) :=
  inferInstanceAs (Decidable (Table.Names _ _ _ _ _ _))

/-- What a history of updates leaves in a cell: the entry of the first update that
names it. -/
def stored (states terminals : Nat) (calls : List ActionCall) (st t : Nat) : Option Int :=
  ((calls.filter (·.Names states terminals st t)).head?).map entry

theorem stored_snoc (states terminals : Nat) (calls : List ActionCall) (call : ActionCall)
    (st t : Nat) :
    stored states terminals (calls ++ [call]) st t =
      if call.Names states terminals st t then
        some ((stored states terminals calls st t).getD call.entry)
      else stored states terminals calls st t := by
  unfold stored
  rw [List.filter_append]
  by_cases hnames : call.Names states terminals st t
  · rw [if_pos hnames, List.head?_append]
    cases (calls.filter _).head? with
    | none => simp [hnames]
    | some first => rfl
  · rw [if_neg hnames]
    simp [hnames]

end ActionCall

namespace ActionTable

variable {table : ActionTable} {state terminal entry : Int} {st t : Nat}

/-- The entry in a cell. -/
def cell? (table : ActionTable) (st t : Nat) : Option Int :=
  Table.cell? table.rows st t

/-- A table with an entry put into one cell. -/
def put (table : ActionTable) (st t : Nat) (entry : Int) : ActionTable :=
  { table with rows := putCell table.rows st t entry }

/-- A store into a cell: an empty cell is filled, a filled one is only confirmed. -/
theorem store_of_names (h : Names table.states table.terminals state terminal st t) :
    table.store state terminal entry =
      match table.cell? st t with
      | none => .ok (table.put st t entry)
      | some stored =>
        if stored = entry then .ok table
        else .error (.refused (.conflictingActions state terminal)) := by
  have hst : st < table.rows.length := h.state_lt
  have hstate : statePosition table.rows.length state = .ok st := statePosition_of_names h
  unfold store
  rw [symbolIndex_of_names h, ok_bind, hstate, ok_bind]
  simp only [getD_get? hst]
  rw [ActionTable.cell?]
  cases Table.cell? table.rows st t with
  | none => rfl
  | some stored => rfl

/-- A store that names no cell is refused. -/
theorem store_of_not_names
    (h : ∀ st t, ¬ Names table.states table.terminals state terminal st t) :
    ∃ e, table.store state terminal entry = .error e := by
  unfold store
  cases hsymbol : symbolIndex .terminalOutOfRange table.terminals terminal with
  | error e => exact ⟨e, rfl⟩
  | ok t =>
      cases hstate : statePosition table.rows.length state with
      | error e => exact ⟨e, rfl⟩
      | ok st => exact absurd (names_of_ok hsymbol hstate) (h st t)

/-- An update that may be refused, and then changes nothing. -/
def attempt (table : ActionTable) (call : ActionCall) : ActionTable :=
  match call.perform table with
  | .ok updated => updated
  | .error _ => table

/-- A sequence of updates. -/
def run (table : ActionTable) (calls : List ActionCall) : ActionTable :=
  calls.foldl attempt table

theorem run_snoc (table : ActionTable) (calls : List ActionCall) (call : ActionCall) :
    table.run (calls ++ [call]) = (table.run calls).attempt call := by
  unfold run
  rw [List.foldl_append]
  rfl

/-- An update either leaves the table as it was or puts its entry into the cell that it
names, which was empty. -/
theorem attempt_cases (table : ActionTable) (call : ActionCall) :
    (table.attempt call = table ∧ ∀ st t, call.Names table.states table.terminals st t →
      table.cell? st t ≠ none) ∨
    ∃ st t, call.Names table.states table.terminals st t ∧ table.cell? st t = none ∧
      table.attempt call = table.put st t call.entry := by
  unfold attempt
  rw [call.perform_eq_store]
  by_cases hnames : ∃ st t, call.Names table.states table.terminals st t
  · obtain ⟨st, t, hnames⟩ := hnames
    rw [store_of_names hnames]
    cases hcell : table.cell? st t with
    | none => exact Or.inr ⟨st, t, hnames, hcell, rfl⟩
    | some stored =>
        -- Whether the update confirms the entry or conflicts with it, the table stays.
        left
        refine ⟨?_, ?_⟩
        · by_cases heq : stored = call.entry
          · simp [heq]
          · simp [heq]
        · intro st' t' hnames'
          obtain ⟨rfl, rfl⟩ := (Names.unique hnames).mp hnames'
          rw [hcell]
          exact Option.some_ne_none _
  · left
    have hnone : ∀ st t, ¬ call.Names table.states table.terminals st t :=
      fun st t h => hnames ⟨st, t, h⟩
    obtain ⟨e, he⟩ : ∃ e, table.store call.state call.terminal call.entry = .error e :=
      store_of_not_names hnone
    rw [he]
    exact ⟨rfl, fun st t h => absurd h (hnone st t)⟩

theorem attempt_sizes (table : ActionTable) (call : ActionCall) :
    (table.attempt call).states = table.states ∧
      (table.attempt call).terminals = table.terminals := by
  rcases table.attempt_cases call with ⟨h, _⟩ | ⟨st, t, _, _, h⟩
  · rw [h]
    exact ⟨rfl, rfl⟩
  · rw [h]
    exact ⟨putCell_length, rfl⟩

/-- One update: the cell that it names is filled if it was empty, every other cell
stays. -/
theorem cell?_attempt (table : ActionTable) (call : ActionCall) (st t : Nat) :
    (table.attempt call).cell? st t =
      if call.Names table.states table.terminals st t then
        some ((table.cell? st t).getD call.entry)
      else table.cell? st t := by
  rcases table.attempt_cases call with ⟨h, hfull⟩ | ⟨st', t', hnames, hempty, h⟩
  · rw [h]
    split
    · rename_i hnames
      cases hcell : table.cell? st t with
      | none => exact absurd hcell (hfull st t hnames)
      | some stored => rfl
    · rfl
  · have hcell : (table.put st' t' call.entry).cell? st t = _ :=
      cell?_putCell (Names.state_lt hnames)
    rw [h, hcell]
    by_cases hsame : st = st' ∧ t = t'
    · obtain ⟨rfl, rfl⟩ := hsame
      rw [if_pos ⟨rfl, rfl⟩, if_pos hnames, hempty]
      rfl
    · have hother : ¬ call.Names table.states table.terminals st t := by
        intro hnames'
        exact hsame ((Names.unique hnames).mp hnames')
      rw [if_neg hsame, if_neg hother]
      rfl

theorem run_empty_sizes (states terminals : Int) (calls : List ActionCall) :
    ((empty states terminals).run calls).states = states.toNat ∧
      ((empty states terminals).run calls).terminals = terminals.toNat := by
  induction calls using List.reverseRecOn with
  | nil => exact ⟨List.length_replicate, rfl⟩
  | append_singleton calls call ih =>
      obtain ⟨hstates, hterminals⟩ :=
        ((empty states terminals).run calls).attempt_sizes call
      rw [run_snoc]
      exact ⟨hstates.trans ih.1, hterminals.trans ih.2⟩

/-- After a run from the empty table, a cell holds the first entry that it was given. -/
theorem cell?_run (states terminals : Int) (calls : List ActionCall) (st t : Nat) :
    ((empty states terminals).run calls).cell? st t =
      ActionCall.stored states.toNat terminals.toNat calls st t := by
  induction calls using List.reverseRecOn with
  | nil => exact cell?_replicate_empty _
  | append_singleton calls call ih =>
      obtain ⟨hstates, hterminals⟩ := run_empty_sizes states terminals calls
      rw [run_snoc, cell?_attempt, ih, hstates, hterminals, ActionCall.stored_snoc]

end ActionTable

/-! ## Goto tables -/

/-- An update of a goto table. -/
structure GotoCall where
  state : Int
  nonTerminal : Int
  target : Int

namespace GotoCall

/-- Performs an update. -/
def perform (table : GotoTable) (call : GotoCall) : Except TableError GotoTable :=
  table.store call.state call.nonTerminal call.target

/-- The cell that an update names in a table. -/
def Names (states nonTerminals : Nat) (call : GotoCall) (st t : Nat) : Prop :=
  Table.Names states nonTerminals call.state call.nonTerminal st t

instance (states nonTerminals : Nat) (call : GotoCall) (st t : Nat) :
    Decidable (call.Names states nonTerminals st t) :=
  inferInstanceAs (Decidable (Table.Names _ _ _ _ _ _))

/-- What a history of updates leaves in a cell: the target of the last update that
names it. -/
def stored (states nonTerminals : Nat) (calls : List GotoCall) (st t : Nat) : Option Int :=
  ((calls.filter (·.Names states nonTerminals st t)).getLast?).map target

theorem stored_snoc (states nonTerminals : Nat) (calls : List GotoCall) (call : GotoCall)
    (st t : Nat) :
    stored states nonTerminals (calls ++ [call]) st t =
      if call.Names states nonTerminals st t then some call.target
      else stored states nonTerminals calls st t := by
  unfold stored
  rw [List.filter_append]
  by_cases hnames : call.Names states nonTerminals st t
  · rw [if_pos hnames]
    simp [hnames]
  · rw [if_neg hnames]
    simp [hnames]

end GotoCall

namespace GotoTable

variable {table : GotoTable} {state nonTerminal target : Int} {st t : Nat}

/-- The entry in a cell. -/
def cell? (table : GotoTable) (st t : Nat) : Option Int :=
  Table.cell? table.rows st t

/-- A table with an entry put into one cell. -/
def put (table : GotoTable) (st t : Nat) (entry : Int) : GotoTable :=
  { table with rows := putCell table.rows st t entry }

theorem store_of_names (h : Names table.states table.nonTerminals state nonTerminal st t) :
    table.store state nonTerminal target = .ok (table.put st t target) := by
  have hstate : statePosition table.rows.length state = .ok st := statePosition_of_names h
  unfold store
  rw [symbolIndex_of_names h, ok_bind, hstate, ok_bind]
  rfl

theorem store_of_not_names
    (h : ∀ st t, ¬ Names table.states table.nonTerminals state nonTerminal st t) :
    ∃ e, table.store state nonTerminal target = .error e := by
  unfold store
  cases hsymbol : symbolIndex .nonTerminalOutOfRange table.nonTerminals nonTerminal with
  | error e => exact ⟨e, rfl⟩
  | ok t =>
      cases hstate : statePosition table.rows.length state with
      | error e => exact ⟨e, rfl⟩
      | ok st => exact absurd (names_of_ok hsymbol hstate) (h st t)

/-- An update that may be refused, and then changes nothing. -/
def attempt (table : GotoTable) (call : GotoCall) : GotoTable :=
  match call.perform table with
  | .ok updated => updated
  | .error _ => table

/-- A sequence of updates. -/
def run (table : GotoTable) (calls : List GotoCall) : GotoTable :=
  calls.foldl attempt table

theorem run_snoc (table : GotoTable) (calls : List GotoCall) (call : GotoCall) :
    table.run (calls ++ [call]) = (table.run calls).attempt call := by
  unfold run
  rw [List.foldl_append]
  rfl

/-- An update puts its target into the cell that it names; without such a cell it leaves
the table as it was. -/
theorem attempt_cases (table : GotoTable) (call : GotoCall) :
    (table.attempt call = table ∧
      ∀ st t, ¬ call.Names table.states table.nonTerminals st t) ∨
    ∃ st t, call.Names table.states table.nonTerminals st t ∧
      table.attempt call = table.put st t call.target := by
  unfold attempt GotoCall.perform
  by_cases hnames : ∃ st t, call.Names table.states table.nonTerminals st t
  · obtain ⟨st, t, hnames⟩ := hnames
    rw [store_of_names hnames]
    exact Or.inr ⟨st, t, hnames, rfl⟩
  · have hnone : ∀ st t, ¬ call.Names table.states table.nonTerminals st t :=
      fun st t h => hnames ⟨st, t, h⟩
    obtain ⟨e, he⟩ : ∃ e, table.store call.state call.nonTerminal call.target = .error e :=
      store_of_not_names hnone
    rw [he]
    exact Or.inl ⟨rfl, hnone⟩

theorem attempt_sizes (table : GotoTable) (call : GotoCall) :
    (table.attempt call).states = table.states ∧
      (table.attempt call).nonTerminals = table.nonTerminals := by
  rcases table.attempt_cases call with ⟨h, _⟩ | ⟨st, t, _, h⟩
  · rw [h]
    exact ⟨rfl, rfl⟩
  · rw [h]
    exact ⟨putCell_length, rfl⟩

theorem run_empty_sizes (states nonTerminals : Int) (calls : List GotoCall) :
    ((empty states nonTerminals).run calls).states = states.toNat ∧
      ((empty states nonTerminals).run calls).nonTerminals = nonTerminals.toNat := by
  induction calls using List.reverseRecOn with
  | nil => exact ⟨List.length_replicate, rfl⟩
  | append_singleton calls call ih =>
      obtain ⟨hstates, hnonTerminals⟩ :=
        ((empty states nonTerminals).run calls).attempt_sizes call
      rw [run_snoc]
      exact ⟨hstates.trans ih.1, hnonTerminals.trans ih.2⟩

/-- One update: the cell that it names holds its target, every other cell stays. -/
theorem cell?_attempt (table : GotoTable) (call : GotoCall) (st t : Nat) :
    (table.attempt call).cell? st t =
      if call.Names table.states table.nonTerminals st t then some call.target
      else table.cell? st t := by
  rcases table.attempt_cases call with ⟨h, hnone⟩ | ⟨st', t', hnames, h⟩
  · rw [h, if_neg (hnone st t)]
  · have hcell : (table.put st' t' call.target).cell? st t = _ :=
      cell?_putCell (Names.state_lt hnames)
    rw [h, hcell]
    by_cases hsame : st = st' ∧ t = t'
    · obtain ⟨rfl, rfl⟩ := hsame
      rw [if_pos ⟨rfl, rfl⟩, if_pos hnames]
    · have hother : ¬ call.Names table.states table.nonTerminals st t := by
        intro hnames'
        exact hsame ((Names.unique hnames).mp hnames')
      rw [if_neg hsame, if_neg hother]
      rfl

/-- After a run from the empty table, a cell holds the last target that it was given. -/
theorem cell?_run (states nonTerminals : Int) (calls : List GotoCall) (st t : Nat) :
    ((empty states nonTerminals).run calls).cell? st t =
      GotoCall.stored states.toNat nonTerminals.toNat calls st t := by
  induction calls using List.reverseRecOn with
  | nil => exact cell?_replicate_empty _
  | append_singleton calls call ih =>
      obtain ⟨hstates, hnonTerminals⟩ := run_empty_sizes states nonTerminals calls
      rw [run_snoc, cell?_attempt, ih, hstates, hnonTerminals, GotoCall.stored_snoc]

end GotoTable

end LalrBackend
