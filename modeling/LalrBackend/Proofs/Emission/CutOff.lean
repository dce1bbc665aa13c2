import LalrBackend.Proofs.Emission.EmbeddedTables
import LalrBackend.Proofs.Emission.Refusals
import LalrBackend.Proofs.Reduction.Names

/-!
# Cut-off parsers

A parser that is refused by the checks or for a value of its tables has no text at all. One whose
right sides do not all stand for parts is cut off: its text ends where the body of the first method
that has none would begin. The earliest failure is the one that is reported.
-/

namespace LalrBackend

open Cache Failure Text

/-! ## Bodies that cannot be made -/

section Bodies

open Reduction

variable {c : Config} {p : Production} {e : GrammarError}

/-- Each position of a right side stands for a part. -/
def Production.HasParts (p : Production) : Prop :=
  ∀ i < p.length, ∃ part, p.part i = .ok part

end Bodies

/-! ## Modules that are cut off -/

namespace Draft

variable {ε : Type} {before after : List (Draft ε)} {d : Draft ε} {e : ε}

/-- Drafts that are done stand before what the others come to. -/
theorem concat_append_of_done {ds : List (Draft ε)} (hbefore : ∀ b ∈ before, b.failure = none) :
    concat (before ++ ds) =
      ⟨before.flatMap Draft.lines ++ (concat ds).lines, (concat ds).failure⟩ := by
  induction before with
  | nil => rfl
  | cons b before ih =>
      obtain ⟨hb, hrest⟩ := List.forall_mem_cons.mp hbefore
      show b ++ concat (before ++ ds) = _
      rw [append_of_failure_eq_none hb, ih hrest]
      simp

end Draft

namespace ParserModule

variable {c : Config} {g : Grammar} {start : Int} {units : Tables} {p : Production}
  {e : GrammarError} {j : Nat}

/-- The methods before the first one without a body are written to their ends. -/
theorem methods_done (hbefore : ∀ q ∈ g.productions.take j, q.HasParts) :
    ∀ a ∈ (actionMethods c g.start g.productions).take j, (a.draft c).failure = none := by
  intro a ha
  obtain ⟨i, hi⟩ := List.mem_iff_getElem?.mp ha
  rw [List.getElem?_take] at hi
  split at hi
  case isFalse => cases hi
  case isTrue hij =>
      rw [actionMethods_getElem?] at hi
      obtain ⟨q, hq, rfl⟩ := Option.map_eq_some_iff.mp hi
      have hmem : q ∈ g.productions.take j :=
        List.mem_iff_getElem?.mpr ⟨i, by rw [List.getElem?_take, if_pos hij, hq]⟩
      obtain ⟨b, hb⟩ := (exists_body_iff _).mpr (hbefore q hmem)
      exact draft_failure_of_body.1 b (mapError_eq_ok.mpr hb)

end ParserModule

/-! ## Failures of emissions -/

/-- The wording of the error that an emission fails with, if the generator has one for it: a value
may be too long to be written, and an entry that is no part is not noticed by the generator. -/
def EmitError.message? : EmitError → Option String
  | .refused e => e.message?
  | _ => none

section Failures

variable {c : Config} {g : Grammar} {action : ActionSource} {reduce : GotoSource} {r : Report}
  {s : Store} {message? : Option String} {written : List String}

end Failures

/-! ## Right sides that are too long -/

end LalrBackend
