import Mathlib.Data.Nat.Digits.Defs
import LalrBackend.Proofs.Code.Start

/-!
# Programs that keep what was generated

A generated parser is a program that may run any code of the user. As long as this code leaves
alone what the generated code has made, an action number goes the same way: the function of the
parser hands it to that of the actions, which looks it up in the table that the actions were
started with. So the number of a production is answered by the function that was printed for it,
and anything else is refused.
-/

namespace LalrBackend.Code

open Reduction (internal methodName)

/-! ## What generated code makes -/

/-- The cells of a parser, of its actions and of their classes, and those of the generated
functions that dispatch action numbers. -/
structure Made where
  parser : Nat
  actions : Nat
  parserClass : Nat
  actionsClass : Nat
  forward : Nat
  dispatch : Nat
  start : Nat
  method : Nat → Nat

/-- A cell holds the function of a class that printed lines are read as. -/
def Store.HoldsPrinted (s : Store) (cell owner : Nat) (ownerName : String)
    (lines : List String) : Prop :=
  ∃ name ps types body attributes,
    readFunction? ownerName lines = some (.define false name ps [] [] types body) ∧
      s.cells[cell]? = some (.routine ⟨name, ps, [], body, callKind false body, [], some owner⟩
        attributes)

/-- The classes of a parser and of its actions have the functions that were printed for a
module. -/
structure Store.KeepsFunctions (s : Store) (m : ParserModule) (made : Made) : Prop where
  forward : s.HasMethod made.parser "do_action" made.forward
  forwardPrinted : s.HoldsPrinted made.forward made.parserClass m.config.parserClass forwardLines
  dispatch : s.HasMethod made.actions (internal "do_action") made.dispatch
  dispatchPrinted : s.HoldsPrinted made.dispatch made.actionsClass (internal "actions")
    (dispatchLines m.config.genericStack)
  start : s.HasMethod made.actions startName made.start
  startPrinted : s.HoldsPrinted made.start made.actionsClass (internal "actions")
    (startLines (m.actions.map (·.production.index)))
  method : ∀ {i a}, m.actions[i]? = some a →
    s.HasMethod made.actions (methodName a.production.index) (made.method i)
  methodPrinted : ∀ {i a}, m.actions[i]? = some a →
    s.HoldsPrinted (made.method i) made.actionsClass (internal "actions")
      (a.draft m.config).lines

/-- A parser notes whether it is done, and its class leaves it to the base to tell. -/
def Store.NotesDone (s : Store) (parser : Nat) (b : Bool) : Prop :=
  ∃ cls own called members, s.cells[parser]? = some (.object (.cell cls) own) ∧
    own.lookup doneName = some (.bool b) ∧
    s.cells[cls]? = some (.type called [.known (runtimeType "LRParser")] members) ∧
    members.lookup "is_done" = none ∧
    s.marks.lookup (runtimePath, "LRParser", "is_done") = none

/-- A store keeps what the generated code of a module has made: its functions, the names that they
use, the actions of the parser, and the table that these were started with. -/
structure Store.Keeps (s : Store) (m : ParserModule) (made : Made) : Prop where
  functions : s.KeepsFunctions m made
  names : s.KeepsNames
  actions : s.HasOwn made.parser "action_obj" (.cell made.actions)
  table : ∃ before after d depth table, before.KeepsFunctions m made ∧
    exec (callAt (depth + 1) (.bound (.cell made.actions) (.cell made.start))
      [.cell made.parser] []) before = (.ok d, after) ∧
    after.HasOwn made.actions (internal "dispatch") (.cell table) ∧
    s.HasOwn made.actions (internal "dispatch") (.cell table) ∧
    ∀ c, after.cells[table]? = some c → s.cells[table]? = some c

section Growth

variable {s s' : Store} {m : ParserModule} {made : Made} {b : Bool}

theorem Store.HoldsPrinted.mono (hgrows : s.Grows s') {cell owner : Nat} {ownerName : String}
    {lines : List String} (h : s.HoldsPrinted cell owner ownerName lines) :
    s'.HoldsPrinted cell owner ownerName lines := by
  obtain ⟨name, ps, types, body, attributes, hread, hcell⟩ := h
  exact ⟨name, ps, types, body, attributes, hread, hgrows.cells hcell⟩

theorem Store.KeepsFunctions.mono (hgrows : s.Grows s') (h : s.KeepsFunctions m made) :
    s'.KeepsFunctions m made where
  forward := h.forward.mono hgrows
  forwardPrinted := h.forwardPrinted.mono hgrows
  dispatch := h.dispatch.mono hgrows
  dispatchPrinted := h.dispatchPrinted.mono hgrows
  start := h.start.mono hgrows
  startPrinted := h.startPrinted.mono hgrows
  method ha := (h.method ha).mono hgrows
  methodPrinted ha := (h.methodPrinted ha).mono hgrows

theorem Store.NotesDone.mono (hgrows : s.Grows s') {parser : Nat} (h : s.NotesDone parser b) :
    s'.NotesDone parser b := by
  obtain ⟨cls, own, called, members, hparser, hown, hcls, hmember, hmark⟩ := h
  exact ⟨cls, own, called, members, hgrows.cells hparser, hown, hgrows.cells hcls, hmember,
    by rw [hgrows.marks, hmark]⟩

theorem Store.Keeps.mono (hgrows : s.Grows s') (h : s.Keeps m made) : s'.Keeps m made where
  functions := h.functions.mono hgrows
  names := h.names.mono hgrows
  actions := h.actions.mono hgrows
  table := by
    obtain ⟨before, after, d, depth, table, hbefore, hran, hafter, hown, hcell⟩ := h.table
    exact ⟨before, after, d, depth, table, hbefore, hran, hafter, hown.mono hgrows,
      fun c hc => hgrows.cells (hcell c hc)⟩

end Growth

/-! ## The table -/

section Table

variable {s : Store} {m : ParserModule} {made : Made}

theorem Store.HoldsPrinted.isFunction {cell owner : Nat} {ownerName name : String}
    {lines : List String} {ps : List String} {types : List Expr} {body : List Statement}
    (h : s.HoldsPrinted cell owner ownerName lines)
    (hread : readFunction? ownerName lines =
      some (.define false name { plain := ps } [] [] types body)) :
    s.IsFunction cell owner name ps body := by
  obtain ⟨name', ps', types', body', attributes, hread', hcell⟩ := h
  cases hread.symm.trans hread'
  exact ⟨attributes, hcell⟩

/-- The numbers of a list of moderate length are not too long to be read. -/
theorem toDigits_length_le {n : Nat} (h : n < 2 ^ 32) :
    (Nat.toDigits 10 n).length ≤ Text.mostDigits :=
  (Nat.toDigits_length 10 n 10 (by decide) (by omega)).trans (by decide)

/-- The table that the actions keep takes the number of each production to its method. -/
theorem Store.Keeps.methods (h : s.Keeps m made)
    (hindices : m.actions.map (·.production.index) =
      (List.range m.actions.length).map Int.ofNat)
    (hfew : m.actions.length < 2 ^ 32) :
    ∃ table, s.HasOwn made.actions (internal "dispatch") (.cell table) ∧
      s.cells[table]? = some (methodTable made.actions made.method m.actions.length) := by
  obtain ⟨before, after, d, depth, table, hbefore, hran, hafter, hown, hcell⟩ := h.table
  have hstart : before.IsFunction made.start made.actionsClass startName startParameters
      (startBody (List.range m.actions.length)) := by
    have hprinted := hbefore.startPrinted
    rw [hindices] at hprinted
    exact hprinted.isFunction (readFunction?_startLines fun n hn =>
      toDigits_length_le ((List.mem_range.mp hn).trans hfew))
  have hmethods : ∀ n < m.actions.length,
      before.HasMethod made.actions (methodName n) (made.method n) := by
    intro n hn
    have hindex : m.actions[n].production.index = n := by
      have hat := congrArg (·[n]?) hindices
      simpa [List.getElem?_eq_getElem hn, hn] using hat
    rw [← hindex]
    exact hbefore.method (List.getElem?_eq_getElem hn)
  obtain ⟨cls, own, _, _, _, _, _, hobject, _⟩ := hbefore.start
  obtain ⟨own', table', hobject', hlookup, htable, _, _⟩ := exec_start hstart hobject hmethods hran
  obtain ⟨cls'', own'', _, _, _, hobject'', hlookup'', _⟩ := hafter
  cases hobject'.symm.trans hobject''
  cases hlookup.symm.trans hlookup''
  exact ⟨_, hown, hcell _ htable⟩

end Table

/-! ## What dispatches action numbers -/

/-- A store has all that takes an action number to the method of a production: the functions that
were printed for a module, the names that they use, the actions of the parser, and their table. -/
structure Store.Dispatches (s : Store) (m : ParserModule) (made : Made) : Prop where
  functions : s.KeepsFunctions m made
  names : s.KeepsNames
  actions : s.HasOwn made.parser "action_obj" (.cell made.actions)
  table : ∃ table, s.HasOwn made.actions (internal "dispatch") (.cell table) ∧
    s.cells[table]? = some (methodTable made.actions made.method m.actions.length)

section Dispatches

variable {s s' : Store} {m : ParserModule} {made : Made}

theorem Store.Keeps.dispatches (h : s.Keeps m made)
    (hindices : m.actions.map (·.production.index) =
      (List.range m.actions.length).map Int.ofNat)
    (hfew : m.actions.length < 2 ^ 32) : s.Dispatches m made where
  functions := h.functions
  names := h.names
  actions := h.actions
  table := h.methods hindices hfew

theorem Store.Dispatches.mono (hgrows : s.Grows s') (h : s.Dispatches m made) :
    s'.Dispatches m made where
  functions := h.functions.mono hgrows
  names := h.names.mono hgrows
  actions := h.actions.mono hgrows
  table := by
    obtain ⟨table, hown, hcell⟩ := h.table
    exact ⟨table, hown.mono hgrows, hgrows.cells hcell⟩

end Dispatches

end LalrBackend.Code
