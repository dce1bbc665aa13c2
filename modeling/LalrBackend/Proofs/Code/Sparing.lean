import LalrBackend.Proofs.Code.Keeping

/-!
# What a reduction leaves alone

While a generated function reduces, it binds its own names, makes new cells, and may note that the
parse is done. Everything else that was there before stays as it was, so what the generated code has
made is kept.
-/

namespace LalrBackend.Code

open Reduction (internal methodName)

/-- Whether a cell holds an object. -/
def Cell.isObject : Cell → Bool
  | .object _ _ => true
  | _ => false

/-- Whether a cell holds the names of a scope. -/
def Cell.isScope : Cell → Bool
  | .scope _ => true
  | _ => false

/-- From one store to another one nothing has changed but the names of a scope and, if a parser is
told, what it notes about its end. -/
structure Store.Spares (noted : Option Nat) (scope : Nat) (s s' : Store) : Prop where
  cells : ∀ {n : Nat} {c : Cell}, (noted = some n → c.isObject = false) →
    (n = scope → c.isScope = false) → s.cells[n]? = some c → s'.cells[n]? = some c
  parser : ∀ {n : Nat} {cls : Datum} {own : List (String × Datum)}, noted = some n →
    s.cells[n]? = some (.object cls own) → ∃ own', s'.cells[n]? = some (.object cls own') ∧
      ∀ name, name ≠ doneName → own'.lookup name = own.lookup name
  size : s.cells.size ≤ s'.cells.size
  globals : s'.globals = s.globals
  marks : s'.marks = s.marks
  handled : s'.handled = s.handled

namespace Store

variable {s s' s'' : Store} {noted : Option Nat} {parser scope n : Nat} {cls d : Datum}
  {own names names' : List (String × Datum)}

theorem Grows.spares (h : s.Grows s') : s.Spares noted scope s' where
  cells _ _ hn := h.cells hn
  parser _ hn := ⟨_, h.cells hn, fun _ _ => rfl⟩
  size := h.size
  globals := h.globals
  marks := h.marks
  handled := h.handled

theorem Spares.trans (h : s.Spares noted scope s') (h' : s'.Spares noted scope s'') :
    s.Spares noted scope s'' where
  cells hparser hscope hn := h'.cells hparser hscope (h.cells hparser hscope hn)
  parser hnoted hn := by
    obtain ⟨own', hn', hown'⟩ := h.parser hnoted hn
    obtain ⟨own'', hn'', hown''⟩ := h'.parser hnoted hn'
    exact ⟨own'', hn'', fun name hname => (hown'' name hname).trans (hown' name hname)⟩
  size := h.size.trans h'.size
  globals := h'.globals.trans h.globals
  marks := h'.marks.trans h.marks
  handled := h'.handled.trans h.handled

/-- Where no parser is told, none has noted anything. -/
theorem Spares.weaken (h : s.Spares none scope s') : s.Spares noted scope s' where
  cells _ hscope hn := h.cells nofun hscope hn
  parser _ hn := ⟨_, h.cells nofun (fun _ => rfl) hn, fun _ _ => rfl⟩
  size := h.size
  globals := h.globals
  marks := h.marks
  handled := h.handled

theorem put_other {c c' : Cell} (hne : scope ≠ n) (hn : s.cells[n]? = some c) :
    (s.put scope c').cells[n]? = some c := by
  rw [put, Array.getElem?_setIfInBounds_ne hne, hn]

theorem put_at {c c' : Cell} (hn : s.cells[n]? = some c) : (s.put n c').cells[n]? = some c' :=
  put_same _ (Array.getElem?_eq_some_iff.mp hn).1

/-- The names of a scope change. -/
theorem spares_putScope (hscope : s.cells[scope]? = some (.scope names)) :
    s.Spares none scope (s.put scope (.scope names')) where
  cells {k c} _ hkept hk := by
    refine put_other ?_ hk
    rintro rfl
    cases hscope.symm.trans hk
    cases hkept rfl
  parser := nofun
  size := by simp
  globals := rfl
  marks := rfl
  handled := rfl

/-- A parser notes something about its end. -/
theorem spares_putDone (hparser : s.cells[parser]? = some (.object cls own)) :
    s.Spares (some parser) scope (s.put parser (.object cls (setEntry doneName d own))) where
  cells {k c} hkept _ hk := by
    refine put_other ?_ hk
    rintro rfl
    cases hparser.symm.trans hk
    cases hkept rfl
  parser {k cls' own'} hnoted hk := by
    cases hnoted
    cases hparser.symm.trans hk
    exact ⟨_, put_at hparser, fun name hname => lookup_setEntry_ne hname⟩
  size := by simp
  globals := rfl
  marks := rfl
  handled := rfl

/-! ## What is kept -/

/-- An object keeps its class and, apart from the note about the end, what it has of its own. -/
theorem Spares.object (h : s.Spares noted scope s')
    (hn : s.cells[n]? = some (.object cls own)) :
    ∃ own', s'.cells[n]? = some (.object cls own') ∧
      ∀ name, name ≠ doneName → own'.lookup name = own.lookup name := by
  by_cases hnoted : noted = some n
  · exact h.parser hnoted hn
  · exact ⟨own, h.cells (fun heq => absurd heq hnoted) (fun _ => rfl) hn, fun _ _ => rfl⟩

/-- What is neither an object nor a scope is kept. -/
theorem Spares.other (h : s.Spares noted scope s') {c : Cell} (hobject : c.isObject = false)
    (hscope : c.isScope = false) (hn : s.cells[n]? = some c) : s'.cells[n]? = some c :=
  h.cells (fun _ => hobject) (fun _ => hscope) hn

section Kept

variable {object function : Nat} {name : String} {m : ParserModule} {made : Made}

theorem HasMethod.spares (hspares : s.Spares noted scope s') (hname : name ≠ doneName)
    (h : s.HasMethod object name function) : s'.HasMethod object name function := by
  obtain ⟨cls, own, called, bases, members, r, attributes, hobject, hown, hcls, hmember,
    hfunction⟩ := h
  obtain ⟨own', hobject', hown'⟩ := hspares.object hobject
  exact ⟨cls, own', called, bases, members, r, attributes, hobject',
    (hown' name hname).trans hown, hspares.other rfl rfl hcls, hmember,
    hspares.other rfl rfl hfunction⟩

theorem HasOwn.spares (hspares : s.Spares noted scope s') (hname : name ≠ doneName)
    (h : s.HasOwn object name d) : s'.HasOwn object name d := by
  obtain ⟨cls, own, called, bases, members, hobject, hown, hcls, hmember, hbases⟩ := h
  obtain ⟨own', hobject', hown'⟩ := hspares.object hobject
  refine ⟨cls, own', called, bases, members, hobject', (hown' name hname).trans hown,
    hspares.other rfl rfl hcls, hmember, ?_⟩
  rw [hspares.marks]
  exact hbases

theorem HoldsPrinted.spares (hspares : s.Spares noted scope s') {cell owner : Nat}
    {ownerName : String} {lines : List String} (h : s.HoldsPrinted cell owner ownerName lines) :
    s'.HoldsPrinted cell owner ownerName lines := by
  obtain ⟨name, ps, types, body, attributes, hread, hcell⟩ := h
  exact ⟨name, ps, types, body, attributes, hread, hspares.other rfl rfl hcell⟩

/-- The names of generated code are other names than that of the note about the end. -/
theorem internal_ne_doneName (name : String) : internal name ≠ doneName := by
  intro h
  have hlist := congrArg (fun n => n.toList.head?) h
  simp only [internal, String.toList_append] at hlist
  cases hlist

theorem KeepsFunctions.spares (hspares : s.Spares noted scope s')
    (h : s.KeepsFunctions m made) : s'.KeepsFunctions m made where
  forward := h.forward.spares hspares (by decide)
  forwardPrinted := h.forwardPrinted.spares hspares
  dispatch := h.dispatch.spares hspares (internal_ne_doneName _)
  dispatchPrinted := h.dispatchPrinted.spares hspares
  start := h.start.spares hspares (by decide)
  startPrinted := h.startPrinted.spares hspares
  method ha := (h.method ha).spares hspares (internal_ne_doneName _)
  methodPrinted ha := (h.methodPrinted ha).spares hspares

theorem KeepsNames.spares (hspares : s.Spares noted scope s') (h : s.KeepsNames) :
    s'.KeepsNames where
  type := by rw [hspares.globals]; exact h.type
  int := by rw [hspares.globals]; exact h.int
  len := by rw [hspares.globals]; exact h.len
  refusal := by rw [hspares.globals]; exact h.refusal
  leaves name := by rw [hspares.marks]; exact h.leaves name

theorem Dispatches.spares (hspares : s.Spares noted scope s') (h : s.Dispatches m made) :
    s'.Dispatches m made where
  functions := h.functions.spares hspares
  names := h.names.spares hspares
  actions := h.actions.spares hspares (by decide)
  table := by
    obtain ⟨table, hown, hcell⟩ := h.table
    exact ⟨table, hown.spares hspares (internal_ne_doneName _), hspares.other rfl rfl hcell⟩

/-- Where no parser has noted anything, what a parser notes is what it noted. -/
theorem NotesDone.spares (hspares : s.Spares none scope s') {b : Bool}
    (h : s.NotesDone parser b) : s'.NotesDone parser b := by
  obtain ⟨cls, own, called, members, hparser, hown, hcls, hmember, hmark⟩ := h
  exact ⟨cls, own, called, members, hspares.cells nofun (fun _ => rfl) hparser, hown,
    hspares.other rfl rfl hcls, hmember, by rw [hspares.marks, hmark]⟩

/-- The cells of values that were handed in are kept, since a parser is of a class of its own. -/
theorem Spares.handed (hspares : s.Spares noted scope s')
    (hparser : ∀ n ∈ noted, ∃ number own, s.cells[n]? = some (.object (.cell number) own))
    (k : Nat) (c : Cell) (hhanded : c.isHanded) (hk : s.cells[k]? = some c) :
    s'.cells[k]? = some c := by
  refine hspares.cells ?_ ?_ hk
  · intro hnoted
    obtain ⟨number, own, hobject⟩ := hparser k hnoted
    cases hobject.symm.trans hk
    cases hhanded
  · rintro -
    cases c <;> first | rfl | cases hhanded

/-- The values that were handed in are kept. -/
theorem StandForAll.spares (hspares : s.Spares noted scope s')
    (hparser : ∀ n ∈ noted, ∃ number own, s.cells[n]? = some (.object (.cell number) own))
    {vs : List Value} {ds : List Datum} (h : s.StandForAll vs ds) : s'.StandForAll vs ds :=
  h.of_cells (hspares.handed hparser)

theorem StandsFor.spares (hspares : s.Spares noted scope s')
    (hparser : ∀ n ∈ noted, ∃ number own, s.cells[n]? = some (.object (.cell number) own))
    {v : Value} (h : s.StandsFor v d) : s'.StandsFor v d :=
  h.of_cells (hspares.handed hparser)

end Kept

end Store

end LalrBackend.Code
