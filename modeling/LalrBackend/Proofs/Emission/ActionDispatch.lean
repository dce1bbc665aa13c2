import Mathlib.Data.List.Nodup
import LalrBackend.Proofs.Code.ProgramCalls
import LalrBackend.Proofs.Emission.EmbeddedTables
import LalrBackend.Proofs.Packed.Lines
import LalrBackend.Proofs.Reduction.ActionNumbers

/-!
# Dispatch of action numbers

A parser takes an action number to a method, and the table of its productions tells how many
symbols the method takes off the stack and what they become. Both go by the position of one
production: a grammar whose productions are not in their places gets no parser.
-/

namespace LalrBackend

open Cache Packed Reduction Failure

/-! ## Tables that can be read -/

/-- A table whose literal can be read is short. -/
theorem length_of_isReadable {m : ParserModule} {values units : List Int}
    (h : m.isReadable = true) (hencode : encode values = .ok units)
    (hliteral : m.productionTable.literal = .ok (literalLines units)) :
    values.length < 2 ^ 32 := by
  have hlines : (literalLines units).length ≤ ParserModule.mostTableLines := by
    simp only [ParserModule.isReadable, List.all_cons, Bool.and_eq_true,
      decide_eq_true_eq] at h
    have hproduction := h.1
    rwa [ParserModule.TableMethod.lines, hliteral] at hproduction
  obtain ⟨groups, last, hcut, hgroups⟩ := literalLines_cut units
  have hcount := hcut.count
  have hlength : (literalLines units).length = groups.length + 1 := by
    rw [hgroups]
    simp
  have hunits : units.length = values.length + 3 := by
    obtain ⟨_, rfl⟩ := encode_eq_ok_iff.mp hencode
    simp [unitsFor, header]
  rw [ParserModule.mostTableLines] at hlines
  omega

/-! ## Modules that agree with a grammar -/

/-- A module agrees with a grammar on what numbers mean: the number of each position has the
body of the production there, no other number has one, the methods are listed in the dispatch
under these numbers with names of their own, and the first table is that of the productions. -/
structure ParserModule.Agrees (m : ParserModule) (g : Grammar) : Prop where
  body : ∀ {i : Nat} {p : Production}, g.productions[i]? = some p →
    ∃ b, Reduction.body m.config p (g.start == some i) = .ok b ∧
      m.actions[i]? = some ⟨p, .ok b⟩ ∧ m.bodyOf? i = some b
  noBody : ∀ {number : Int}, number < 0 ∨ g.productions.length ≤ number →
    m.bodyOf? number = none
  indices : m.actions.map (·.production.index) =
    (List.range g.productions.length).map Int.ofNat
  names : (m.actions.map fun a => methodName a.production.index).Nodup
  table : ∃ units, encode g.productionTable = .ok units ∧
    m.productionTable.literal = .ok (literalLines units)

namespace ParserModule

variable {c : Config} {g : Grammar} {start : Int} {t units : Tables}

end ParserModule

/-! ## Plain parsers -/

section Plain

variable {m : ParserModule} {g : Grammar} {scanner : Option (List Value)} {q : PlainParser}
  {cls : ParserClass}

namespace ParserModule

theorem Agrees.index_of_actions (h : m.Agrees g) {i : Nat} {a : ActionMethod}
    (ha : m.actions[i]? = some a) : a.production.index = i := by
  have hat := congrArg (·[i]?) h.indices
  simp only [List.getElem?_map, ha, Option.map_some] at hat
  obtain ⟨j, hj, hindex⟩ := Option.map_eq_some_iff.mp hat.symm
  obtain ⟨_, hj⟩ := List.getElem?_eq_some_iff.mp hj
  simp only [List.getElem_range] at hj
  rw [← hindex, ← hj]
  rfl

theorem Agrees.actions_length (h : m.Agrees g) :
    m.actions.length = g.productions.length := by
  have hlength := congrArg List.length h.indices
  simpa using hlength

theorem isReadable_of_load (h : m.load scanner = .ok (.plain q)) : m.isReadable = true := by
  unfold load at h
  split at h
  · cases h
  · split at h
    · exact absurd h runText_ne_plain
    · split at h
      · exact absurd h runText_ne_plain
      · split at h
        · cases h
        · rename_i hreadable
          simpa using hreadable

/-- A loaded parser hands out the production table of the grammar. -/
theorem Agrees.productionTable (h : m.Agrees g) (hload : m.load scanner = .ok (.plain q)) :
    q.productionTable = .ok g.productionTable := by
  obtain ⟨units, hunits, hliteral⟩ := h.table
  obtain ⟨cls, hcls, hproduction, _, _⟩ := keepsTables_of_load hload
  have hholds : m.productionTable.Holds g.productionTable :=
    ⟨⟨units, hunits, hliteral⟩,
      length_of_isReadable (isReadable_of_load hload) hunits hliteral⟩
  rw [PlainParser.productionTable, PlainParser.generated, hcls, ok_bind, hproduction,
    hholds.tableOf]
  rfl

end ParserModule

end Plain

/-! ## Programs -/

section Programs

variable {m : ParserModule} {g : Grammar} {p : Code.Program} {made : Code.Made}

namespace ParserModule

end ParserModule

end Programs

/-! ## The agreement -/

section Kept

open Code

end Kept

end LalrBackend
