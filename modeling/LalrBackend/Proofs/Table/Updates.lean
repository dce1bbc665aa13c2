import LalrBackend.Proofs.Table.Run

/-!
# Updates of an action table, statement by statement

An update looks at the terminal, at the row of the state and at the cell, and only then
writes its entry, also where the cell holds this entry already. Only the looks can refuse
it, so a refused update has written nothing. A cell keeps the first entry that it is given,
whatever the updates that follow come to.
-/

namespace LalrBackend

open Table Failure

/-! ## Writing what is there -/

namespace Table

variable {symbol st t : Nat} {entry : Int}

/-- Among ascending cells, one that is there is put in once more without a change. -/
theorem insertCell_of_mem {cells : List Cell} (h : Ascending cells)
    (hmem : (symbol, entry) ∈ cells) : insertCell symbol entry cells = cells := by
  induction cells with
  | nil => cases hmem
  | cons c cs ih =>
      obtain ⟨hfirst, hrest⟩ := List.pairwise_cons.mp h
      rw [insertCell]
      rcases List.mem_cons.mp hmem with heq | hmem
      · subst heq
        rw [if_neg (Nat.lt_irrefl symbol), if_pos rfl]
      · have hlt : c.1 < symbol := hfirst _ hmem
        rw [if_neg (Nat.lt_asymm hlt), if_neg (Nat.ne_of_lt hlt), ih hrest hmem]

theorem Row.insert_of_get? {row : Row} (h : row.get? symbol = some entry) :
    row.insert symbol entry = row := by
  have hcells := insertCell_of_mem row.ascending (Row.get?_eq_some_iff.mp h)
  cases row
  simp only [Row.insert, hcells]

theorem putCell_of_cell? {rows : List Row} (h : cell? rows st t = some entry) :
    putCell rows st t entry = rows := by
  obtain ⟨row, hrow, hentry⟩ := Option.bind_eq_some_iff.mp h
  have hgetD : rows.getD st Row.empty = row := by
    rw [List.getD_eq_getElem?_getD, hrow, Option.getD_some]
  obtain ⟨hst, rfl⟩ := List.getElem?_eq_some_iff.mp hrow
  rw [putCell, hgetD, Row.insert_of_get? hentry, List.set_getElem_self]

end Table

/-! ## Updates as they run -/

namespace ActionTable

variable {table : ActionTable} {state terminal entry : Int} {st t : Nat}

/-- Fails if a cell holds another entry than the one that it is to get. -/
def needAgreement (state terminal entry : Int) : Option Int → Except TableError Unit
  | some stored =>
    if stored = entry then .ok () else .error (.refused (.conflictingActions state terminal))
  | none => .ok ()

/-- What an update does to the table, one statement after the other. -/
def update (state terminal entry : Int) : EStateM TableError ActionTable Unit := do
  let table ← get
  let symbol ← look (symbolIndex .terminalOutOfRange table.terminals terminal)
  let position ← look (statePosition table.states state)
  look (needAgreement state terminal entry (table.cell? position symbol))
  set (table.put position symbol entry)

/-- An update ends as storing its entry does; where this fails, the table is left as it
was. -/
theorem run_update (table : ActionTable) (state terminal entry : Int) :
    (update state terminal entry).run table =
      match table.store state terminal entry with
      | .ok updated => .ok () updated
      | .error e => .error e table := by
  show EStateM.run (look _ >>= _) table = _
  rw [run_look_bind]
  cases hsymbol : symbolIndex .terminalOutOfRange table.terminals terminal with
  | error e =>
      rw [store, hsymbol]
      rfl
  | ok t =>
      show EStateM.run (look _ >>= _) table = _
      rw [run_look_bind]
      cases hstate : statePosition table.states state with
      | error e =>
          have hrows : statePosition table.rows.length state = .error e := hstate
          rw [store, hsymbol, ok_bind, hrows]
          rfl
      | ok st =>
          show EStateM.run (look _ >>= _) table = _
          rw [run_look_bind, store_of_names (names_of_ok hsymbol hstate)]
          cases hcell : table.cell? st t with
          | none => rfl
          | some stored =>
              by_cases heq : stored = entry
              · -- The entry is written once more.
                subst heq
                have hput : table.put st t stored = table := by
                  rw [put, putCell_of_cell? hcell]
                simp only [needAgreement, if_true]
                exact congrArg (EStateM.Result.ok ()) hput
              · simp only [needAgreement, if_neg heq]

end ActionTable

/-! ## Updates of states that are there -/

namespace ActionCall

/-- Runs an update. -/
def update (call : ActionCall) : EStateM TableError ActionTable Unit :=
  ActionTable.update call.state call.terminal call.entry

/-- The terminal of an update is one of a table. -/
def InRange (call : ActionCall) (table : ActionTable) : Prop :=
  0 ≤ call.terminal ∧ call.terminal < table.terminals

section Outcome

variable {call : ActionCall} {table : ActionTable}

end Outcome

end ActionCall

/-! ## Histories -/

namespace ActionTable

variable {table : ActionTable} {st t : Nat} {entry : Int}

theorem run_append (table : ActionTable) (first second : List ActionCall) :
    table.run (first ++ second) = (table.run first).run second := by
  rw [run, List.foldl_append, ← run, ← run]

/-- After a history, entries are stored for terminals that are in range. -/
theorem lt_of_cell?_run {states terminals : Int} {calls : List ActionCall}
    (h : ((empty states terminals).run calls).cell? st t = some entry) :
    (t : Int) < terminals := by
  induction calls using List.reverseRecOn with
  | nil =>
      have hempty : (empty states terminals).cell? st t = none := cell?_replicate_empty _
      rw [run, List.foldl_nil, hempty] at h
      cases h
  | append_singleton calls call ih =>
      -- The entry was stored by the last update or before it.
      rw [run_snoc, cell?_attempt] at h
      by_cases hnames : call.Names ((empty states terminals).run calls).states
          ((empty states terminals).run calls).terminals st t
      · have ht : t < ((empty states terminals).run calls).terminals := hnames.2.2
        rw [(run_empty_sizes states terminals calls).2] at ht
        omega
      · rw [if_neg hnames] at h
        exact ih h

end ActionTable

end LalrBackend
