import Mathlib.Data.List.Induction
import LalrBackend.Proofs.Code.Instance
import LalrBackend.Proofs.Emission.ActionDispatch
import LalrBackend.Proofs.Reduction.MethodRun

/-!
# The end of a parse

A parser notes the end of the parse where it reduces by the start production, and nowhere else. So
it tells that the parse is done only if one of the calls for that production has returned, whatever
the other calls came to, and it goes on telling so. The note is the last thing that the method of
the start production does: where the user's code does not leave this method before, every such call
that has returned has noted the end.
-/

namespace LalrBackend

open Reduction Failure

/-! ## Calls one after the other -/

/-- A number is the index of the start production. -/
def Grammar.Starts (g : Grammar) (number : Value) : Prop :=
  ∃ i p, g.start = some i ∧ g.productions[i]? = some p ∧ number = .int p.index

namespace Parser

/-- A parser after calls for some action numbers, each with a stack, whatever they came to. -/
def after (parser : Parser) (calls : List (Value × List Value)) : Parser :=
  calls.foldl (fun q call => (q.doAction call.1 call.2).2) parser

/-- One of some calls was for the start production and returned. -/
def Accepts (g : Grammar) (parser : Parser) (calls : List (Value × List Value)) : Prop :=
  ∃ before number stack rest v, calls = before ++ (number, stack) :: rest ∧ g.Starts number ∧
    ((parser.after before).doAction number stack).1 = .ok v

variable {g : Grammar} {parser : Parser} {calls more : List (Value × List Value)}
  {number : Value} {stack : List Value}

theorem after_append : parser.after (calls ++ more) = (parser.after calls).after more :=
  List.foldl_append

theorem after_snoc : parser.after (calls ++ [(number, stack)]) =
    ((parser.after calls).doAction number stack).2 :=
  after_append

theorem Accepts.append (h : parser.Accepts g calls) : parser.Accepts g (calls ++ more) := by
  obtain ⟨before, number, stack, rest, v, rfl, hstarts, hv⟩ := h
  exact ⟨before, number, stack, rest ++ more, v, by simp, hstarts, hv⟩

theorem not_accepts_nil : ¬ parser.Accepts g [] := by
  rintro ⟨before, number, stack, rest, v, h, _⟩
  simp at h

/-- One more call: one of the others has accepted, or this one does. -/
theorem accepts_snoc : parser.Accepts g (calls ++ [(number, stack)]) ↔
    parser.Accepts g calls ∨
      g.Starts number ∧ ∃ v, ((parser.after calls).doAction number stack).1 = .ok v := by
  constructor
  · rintro ⟨before, number', stack', rest, v, hcalls, hstarts, hv⟩
    rcases List.eq_nil_or_concat rest with rfl | ⟨others, last, rfl⟩
    · obtain ⟨rfl, hlast⟩ := List.append_inj' hcalls rfl
      cases hlast
      exact .inr ⟨hstarts, v, hv⟩
    · rw [List.concat_eq_append, ← List.cons_append, ← List.append_assoc] at hcalls
      obtain ⟨rfl, _⟩ := List.append_inj' hcalls rfl
      exact .inl ⟨before, number', stack', others, v, rfl, hstarts, hv⟩
  · rintro (h | ⟨hstarts, v, hv⟩)
    · exact h.append
    · exact ⟨calls, number, stack, [], v, rfl, hstarts, hv⟩

section Runs

variable {I : Bool → Parser → Prop} {stays : Prop}
  (hstep : ∀ {done q} number stack, I done q → ∃ done', I done' (q.doAction number stack).2 ∧
    Notes stays (g.Starts number) (∃ v, (q.doAction number stack).1 = .ok v) done done')

include hstep

/-- What one call does to what a parser has noted decides what any calls do to it. -/
theorem after_of_step {done : Bool} (hnoted : I done parser) (calls : List (Value × List Value)) :
    ∃ done', I done' (parser.after calls) ∧
      Notes stays (parser.Accepts g calls) True done done' := by
  induction calls using List.reverseRecOn with
  | nil => exact ⟨done, hnoted, .refl fun _ haccepts _ => not_accepts_nil haccepts⟩
  | append_singleton calls call ih =>
      obtain ⟨number, stack⟩ := call
      obtain ⟨done₁, hnoted₁, hcalls⟩ := ih
      obtain ⟨done₂, hnoted₂, hcall⟩ := hstep number stack hnoted₁
      -- What is noted in the end was noted before the last call, as `ih` tells, or by it.
      refine ⟨done₂, after_snoc ▸ hnoted₂, hcall.kept ∘ hcalls.kept, fun hdone => ?_,
        fun hstays haccepts _ => ?_⟩
      · rw [accepts_snoc]
        rcases hcall.only hdone with hbefore | hnow
        · exact (hcalls.only hbefore).imp_right fun h => ⟨.inl h.1, trivial⟩
        · exact .inr ⟨.inr hnow, trivial⟩
      · rcases accepts_snoc.mp haccepts with hbefore | ⟨hstarts, hreturns⟩
        · exact hcall.kept (hcalls.always hstays hbefore trivial)
        · exact hcall.always hstays hstarts hreturns

variable (hfirst : I false parser) (htold : ∀ {done q}, I done q → q.isDone = .ok (.bool done))

include hfirst htold

end Runs

end Parser

/-! ## Bodies in their places -/

/-- Each production of a grammar is at the place of its index, and its method with its body is at
that place in a module. -/
structure ParserModule.HasBodies (m : ParserModule) (g : Grammar) : Prop where
  index : ∀ {i : Nat} {p : Production}, g.productions[i]? = some p → p.index = i
  length : m.actions.length = g.productions.length
  body : ∀ {i : Nat} {p : Production}, g.productions[i]? = some p →
    ∃ b, Reduction.body m.config p (g.start == some i) = .ok b ∧
      m.actions[i]? = some ⟨p, .ok b⟩

namespace ParserModule

variable {c : Config} {g : Grammar} {m : ParserModule} {start : Int} {i : Nat} {p : Production}
  {packed : Cache.PackedTables} {number : Value}

theorem hasBodies_ofGrammar (hindex : ∀ {i : Nat} {p : Production},
    g.productions[i]? = some p → p.index = i)
    (hwritten : (ofGrammar c g start packed).draft.failure = none) :
    (ofGrammar c g start packed).HasBodies g where
  index := hindex
  length := actions_length
  body hp := by
    obtain ⟨b, hbody, hat, _⟩ := bodyOf?_ofGrammar (fun _ _ => hindex) hwritten hp
    exact ⟨b, hbody, hat⟩

/-- The number of a production is that of the start production if its place is. -/
theorem HasBodies.starts_iff (h : m.HasBodies g) (hp : g.productions[i]? = some p) :
    g.Starts (.int i) ↔ (g.start == some i) = true := by
  rw [beq_iff_eq]
  constructor
  · rintro ⟨j, q, hstart, hq, heq⟩
    obtain rfl : i = j := by
      rw [h.index hq] at heq
      simpa using heq
    exact hstart
  · intro hstart
    exact ⟨i, p, hstart, hp, by rw [h.index hp]⟩

/-- What is no number of a production is not that of the start production. -/
theorem HasBodies.not_starts (h : m.HasBodies g)
    (hnumber : ∀ i < m.actions.length, number ≠ .int (i : Nat)) : ¬ g.Starts number := by
  rintro ⟨i, p, _, hp, rfl⟩
  refine hnumber i ?_ (by rw [h.index hp])
  rw [h.length]
  exact (List.getElem?_eq_some_iff.mp hp).1

/-- A value is the number of a production, or it is none. -/
theorem HasBodies.number_cases (h : m.HasBodies g) (number : Value) :
    (∃ (i : Nat) (p : Production), number = .int i ∧ g.productions[i]? = some p) ∨
      ∀ i < m.actions.length, number ≠ .int (i : Nat) := by
  by_cases hnumber : ∃ i < m.actions.length, number = .int (i : Nat)
  · obtain ⟨i, hi, rfl⟩ := hnumber
    rw [h.length] at hi
    exact .inl ⟨i, _, rfl, List.getElem?_eq_getElem hi⟩
  · exact .inr fun i hi heq => hnumber ⟨i, hi, heq⟩

/-! ## Plain parsers -/

theorem HasBodies.index_of_actions (h : m.HasBodies g) {a : ActionMethod}
    (ha : m.actions[i]? = some a) : a.production.index = i := by
  have hi : i < g.productions.length := by
    rw [← h.length]
    exact (List.getElem?_eq_some_iff.mp ha).1
  obtain ⟨b, _, hat⟩ := h.body (List.getElem?_eq_getElem hi)
  cases ha.symm.trans hat
  exact h.index (List.getElem?_eq_getElem hi)

theorem HasBodies.indices (h : m.HasBodies g) :
    m.actions.map (·.production.index) = (List.range m.actions.length).map Int.ofNat := by
  refine List.ext_getElem? fun i => ?_
  rw [List.getElem?_map, List.getElem?_map]
  by_cases hi : i < m.actions.length
  · rw [List.getElem?_range hi, List.getElem?_eq_getElem hi]
    exact congrArg some (h.index_of_actions (List.getElem?_eq_getElem hi))
  · rw [List.getElem?_eq_none (by simpa using hi), List.getElem?_eq_none (by simpa using hi)]
    rfl

section Programs

variable {u : UserPart} {made : Code.Made} {q : Code.Program} {done : Bool}

/-- A call leaves an idle parser idle, and the list that the stack was handed in as holds what it
held. -/
theorem HasBodies.call (h : m.HasBodies g) (hu : u.LeavesAlone m made)
    (hself : q.self = .cell made.parser) (hidle : u.Idle m made done q.store) (number : Value)
    (stack : List Value) :
    ∃ list items answer q' done', q.HandsIn number stack list items ∧
      q.call "do_action" [number, .list stack] = (answer, q') ∧
      u.Answers m made stack list items done' q' ∧
      Notes (∀ i, g.start = some i → u.StaysAt m made i) (g.Starts number)
        (∃ v, answer = .ok v) done done' := by
  rcases h.number_cases number with ⟨i, p, rfl, hp⟩ | hnumber
  · -- The method of the production reduces, from the store in which the stack was handed in.
    obtain ⟨b, hbody, hat⟩ := h.body hp
    obtain ⟨list, items, s, hin, hgrows, hlist, hitems, hcall⟩ := Code.Program.call_answered hself
      hidle.ready.dispatches (List.getElem?_eq_some_iff.mp hat).1 stack
    obtain ⟨answer, q', done', hreduce, hanswers, hnotes⟩ :=
      (hidle.mono hu hgrows).reduceBy hu (p := { q with store := s }) hself hat hbody hlist hitems
    have hstarts := h.starts_iff hp
    refine ⟨list, items, answer, q', done', hin, hcall.trans hreduce, hanswers, hnotes.kept,
      fun hdone => (hnotes.only hdone).imp_right (And.imp_left hstarts.mpr), ?_⟩
    intro hstays haccepts hreturns
    have haccepts := hstarts.mp haccepts
    exact hnotes.always (hstays i (by simpa using haccepts)) haccepts hreturns
  · -- Any other number is refused before a method is called, so nothing can be noted.
    obtain ⟨d, list, items, s, hin, hgrows, _, hlist, hitems, hcall⟩ :=
      Code.Program.call_refused hself hidle.ready.dispatches hnumber stack
    exact ⟨list, items, _, _, done, hin, hcall, ⟨hself, hidle.mono hu hgrows, hlist,
      fun _ => hitems⟩, .refl fun _ haccepts => absurd haccepts (h.not_starts hnumber)⟩

/-- A parser that is a program and is idle. -/
def IdleProgram (u : UserPart) (m : ParserModule) (made : Code.Made) (done : Bool)
    (parser : Parser) : Prop :=
  ∃ q, parser = .program q ∧ q.self = .cell made.parser ∧ u.Idle m made done q.store

theorem IdleProgram.isDone {parser : Parser} (h : IdleProgram u m made done parser) :
    parser.isDone = .ok (.bool done) := by
  obtain ⟨q, rfl, hself, hidle⟩ := h
  exact Code.Program.isDone_of_notesDone hself hidle.ready.notes

theorem HasBodies.step_idle (h : m.HasBodies g) (hu : u.LeavesAlone m made) {parser : Parser}
    (number : Value) (stack : List Value) (hidle : IdleProgram u m made done parser) :
    ∃ done', IdleProgram u m made done' (parser.doAction number stack).2 ∧
      Notes (∀ i, g.start = some i → u.StaysAt m made i) (g.Starts number)
        (∃ v, (parser.doAction number stack).1 = .ok v) done done' := by
  obtain ⟨q, rfl, hself, hidle⟩ := hidle
  obtain ⟨list, items, answer, q', done', _, hcall, hanswers, hnotes⟩ :=
    h.call hu hself hidle number stack
  refine ⟨done', ⟨q', by rw [Parser.doAction, hcall]; rfl, hanswers.self, hanswers.idle⟩,
    hnotes.congr .rfl ?_⟩
  rw [Parser.doAction, hcall]
  cases answer with
  | ok v => simp [Parser.ofProgram, Except.mapError]
  | error failure => simp [Parser.ofProgram, Except.mapError]

/-- A program that has been made of the classes of a store is idle. -/
theorem HasBodies.idle_of_made (h : m.HasBodies g) {s : Code.Store} {scanner : Option (List Value)}
    (hmade : q.IsMadeIn s m.config.parserClass scanner) (hoffers : s.Offers m made) :
    ∃ parser actions, q.self = .cell parser ∧
      ∀ u : UserPart, u.relies q.store →
        u.Idle m { made with parser := parser, actions := actions } false q.store := by
  obtain ⟨parser, actions, hself, hgrows, hdispatches, hbase, hnotes⟩ :=
    hmade.ready hoffers h.indices
  refine ⟨parser, actions, hself, fun u hrelied => ⟨⟨hdispatches, hbase, hnotes, ?_⟩, hrelied⟩⟩
  rw [hgrows.globals]
  exact hoffers.cast

end Programs

end ParserModule

end LalrBackend
