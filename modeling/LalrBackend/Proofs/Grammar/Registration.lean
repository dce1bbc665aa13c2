import LalrBackend.Grammar.Editing
import Mathlib.Tactic.Common

/-!
# Registrations that fail as a whole

A registration first asks the grammar whatever it needs to know and then changes it.
Only the questions can be refused, so a refused registration has changed nothing, and
one that is not refused has had all its questions answered.
-/

namespace LalrBackend

namespace Registration

variable {ε ε' α β : Type}

/-- Where the registration is refused, the grammar is as it was. -/
def Atomic (step : Registration ε α) : Prop :=
  ∀ g e g', step.run g = .error e g' → g' = g

theorem run_ask (question : Grammar → Except ε α) (g : Grammar) :
    (ask question).run g =
      match question g with
      | .ok answer => .ok answer g
      | .error e => .error e g := by
  change (match question g with
    | .ok answer => (pure answer : Registration ε α)
    | .error e => throw e) g = _
  cases question g <;> rfl

theorem run_ask_bind (question : Grammar → Except ε α) (next : α → Registration ε β)
    (g : Grammar) :
    (ask question >>= next).run g =
      match question g with
      | .ok answer => (next answer).run g
      | .error e => .error e g := by
  have hask := run_ask question g
  show EStateM.bind (ask question) next g = _
  unfold EStateM.run at hask
  unfold EStateM.bind
  rw [hask]
  cases question g <;> rfl

theorem ask_bind_eq_ok {question : Grammar → Except ε α} {next : α → Registration ε β}
    {g g' : Grammar} {b : β} :
    (ask question >>= next).run g = .ok b g' ↔
      ∃ answer, question g = .ok answer ∧ (next answer).run g = .ok b g' := by
  rw [run_ask_bind]
  cases question g <;> simp

theorem atomic_of_total {step : Registration ε α}
    (htotal : ∀ g, ∃ a g', step.run g = .ok a g') : Atomic step := by
  intro g e g' hfail
  obtain ⟨a, g'', hok⟩ := htotal g
  rw [hok] at hfail
  cases hfail

theorem atomic_ask (question : Grammar → Except ε α) : Atomic (ask question) := by
  intro g e g' hfail
  rw [run_ask] at hfail
  split at hfail
  · cases hfail
  · cases hfail
    rfl

theorem atomic_ask_bind {question : Grammar → Except ε α} {next : α → Registration ε β}
    (hnext : ∀ answer, Atomic (next answer)) : Atomic (ask question >>= next) := by
  intro g e g' hfail
  rw [run_ask_bind] at hfail
  split at hfail
  · exact hnext _ g e g' hfail
  · cases hfail
    rfl

end Registration

namespace Grammar

open Registration

variable {g g' : Grammar} {name lhs : String} {valueType action : Option String}
  {useCount reduced : Option Int} {rhs : List EntryRequest} {intermediate : Int}

/-! ## What a refusal leaves -/

theorem atomic_registerTerminal : Atomic (registerTerminal name valueType useCount) :=
  atomic_ask_bind fun _ => atomic_of_total fun _ => ⟨_, _, rfl⟩

theorem atomic_registerNonTerminal : Atomic (registerNonTerminal name valueType useCount) :=
  atomic_ask_bind fun _ => atomic_ask_bind fun _ => atomic_of_total fun _ => ⟨_, _, rfl⟩

theorem atomic_registerProduction : Atomic (registerProduction lhs rhs action reduced) :=
  atomic_ask_bind fun _ => atomic_of_total fun _ => ⟨_, _, rfl⟩

theorem atomic_registerDerived {base : ProductionChoice} :
    Atomic (registerDerived lhs rhs base intermediate action reduced) :=
  atomic_ask_bind fun _ => atomic_ask_bind fun _ => atomic_ask_bind fun _ =>
    atomic_of_total fun _ => ⟨_, _, rfl⟩

theorem atomic_registerStart (choice : ProductionChoice) : Atomic (registerStart choice) := by
  cases choice with
  | own number =>
    exact atomic_ask_bind fun _ => atomic_ask_bind fun _ => atomic_of_total fun _ => ⟨_, _, rfl⟩
  | foreign =>
    intro g e g' hfail
    cases hfail
    rfl

/-! ## What a registration does -/

theorem needFree_eq_ok : g.needFree name = .ok () ↔ g.symbol? name = none := by
  unfold needFree
  split <;> simp_all

theorem registerTerminal_eq_ok {d : Declared}
    (hok : (registerTerminal name valueType useCount).run g = .ok d g') :
    g.symbol? name = none ∧ d = ⟨⟨.terminal, name, g.terminals.length, valueType⟩, useCount⟩ ∧
      g' = (g.appendTerminal d).bindName name d.symbol := by
  obtain ⟨_, hfree, hrest⟩ := ask_bind_eq_ok.mp hok
  cases hrest
  exact ⟨needFree_eq_ok.mp hfree, rfl, rfl⟩

theorem registerNonTerminal_eq_ok {d : Declared}
    (hok : (registerNonTerminal name valueType useCount).run g = .ok d g') :
    g.symbol? name = none ∧
      d = ⟨⟨.nonTerminal, name, g.nonTerminals.length, valueType⟩, useCount⟩ ∧
      g' = (g.appendNonTerminal d).bindName name d.symbol := by
  obtain ⟨_, -, hrest⟩ := ask_bind_eq_ok.mp hok
  obtain ⟨_, hfree, hrest⟩ := ask_bind_eq_ok.mp hrest
  cases hrest
  exact ⟨needFree_eq_ok.mp hfree, rfl, rfl⟩

theorem registerProduction_eq_ok {p : Production}
    (hok : (registerProduction lhs rhs action reduced).run g = .ok p g') :
    ∃ rule, g.rule lhs rhs = .ok rule ∧
      p = ⟨g.productions.length, rule, action, reduced, .own⟩ ∧ g' = g.append p := by
  obtain ⟨rule, hrule, hrest⟩ := ask_bind_eq_ok.mp hok
  cases hrest
  exact ⟨rule, hrule, rfl, rfl⟩

theorem registerDerived_eq_ok {base : ProductionChoice} {p : Production}
    (hok : (registerDerived lhs rhs base intermediate action reduced).run g = .ok p g') :
    ∃ position baseRule rule, g.base base = .ok (position, baseRule) ∧
      g.rule lhs rhs = .ok rule ∧
      intermediateFits rule.length baseRule.length intermediate ∧
      p = ⟨g.productions.length, rule, action, reduced,
        .derived position baseRule intermediate⟩ ∧
      g' = g.append p := by
  obtain ⟨⟨position, baseRule⟩, hbase, hrest⟩ := ask_bind_eq_ok.mp hok
  obtain ⟨rule, hrule, hrest⟩ := ask_bind_eq_ok.mp hrest
  obtain ⟨_, hfit, hrest⟩ := ask_bind_eq_ok.mp hrest
  cases hrest
  have hfits : intermediateFits rule.length baseRule.length intermediate := by
    unfold needFit at hfit
    split at hfit
    · assumption
    · cases hfit
  exact ⟨position, baseRule, rule, hbase, hrule, hfits, rfl, rfl⟩

theorem registerStart_eq_ok {choice : ProductionChoice}
    (hok : (registerStart choice).run g = .ok () g') :
    ∃ number position, choice = .own number ∧ g.position number = .ok position ∧
      g.startProduction? = none ∧ g' = g.withStart position := by
  cases choice with
  | own number =>
    obtain ⟨position, hposition, hrest⟩ := ask_bind_eq_ok.mp hok
    obtain ⟨_, hnone, hrest⟩ := ask_bind_eq_ok.mp hrest
    cases hrest
    have hstart : g.startProduction? = none := by
      unfold needNoStart at hnone
      split at hnone
      · cases hnone
      · assumption
    exact ⟨number, position, rfl, hposition, hstart, rfl⟩
  | foreign => cases hok

end Grammar

end LalrBackend
