import LalrBackend.Proofs.Failure
import LalrBackend.Position
import LalrBackend.Proofs.Grammar.Consistent
import Mathlib.Data.List.Forall2
import Mathlib.Data.List.Induction

/-!
# Grammars under any sequence of calls

A grammar is built by a sequence of calls, any of which may be refused. Whatever the
sequence, the grammar is consistent after it and has lost nothing, each production is
what the call that made it asked for, and a refused call has left no trace.
-/

namespace LalrBackend

namespace Registration

variable {ε ε' α : Type} {f : ε → ε'} {step : Registration ε α}

/-- A registration of which only the effect and the refusal count. -/
def effect (f : ε → ε') (step : Registration ε α) : Registration ε' Unit := fun g =>
  match step.run g with
  | .ok _ g' => .ok () g'
  | .error e g' => .error (f e) g'

theorem run_effect (g : Grammar) :
    (effect f step).run g =
      match step.run g with
      | .ok _ g' => .ok () g'
      | .error e g' => .error (f e) g' := rfl

theorem effect_eq_ok {g g' : Grammar} (hok : (effect f step).run g = .ok () g') :
    ∃ a, step.run g = .ok a g' := by
  rw [run_effect] at hok
  split at hok
  · rename_i a _ hstep
    cases hok
    exact ⟨a, hstep⟩
  · cases hok

theorem Atomic.effect (hstep : Atomic step) : Atomic (effect f step) := by
  intro g e g' hfail
  rw [run_effect] at hfail
  split at hfail
  · cases hfail
  · rename_i hrefused
    cases hfail
    exact hstep _ _ _ hrefused

end Registration

/-- A call on a grammar. -/
inductive GrammarCall where
  | addTerminal (name : String) (valueType : Option String) (useCount : Option Int)
  | addNonTerminal (name : String) (valueType : Option String) (useCount : Option Int)
  | addProduction (lhs : String) (rhs : List EntryRequest) (action : Option String)
      (reduced : Option Int)
  | addDerived (lhs : String) (rhs : List EntryRequest) (base : ProductionChoice)
      (intermediate : Int) (action : Option String) (reduced : Option Int)
  | setStart (choice : ProductionChoice)
  | symbol (name : String)

open Registration Grammar in
/-- What a call does to a grammar, and how it is refused. -/
def GrammarCall.perform : GrammarCall → Registration GrammarError Unit
  | .addTerminal name valueType useCount =>
    effect .refused (registerTerminal name valueType useCount)
  | .addNonTerminal name valueType useCount =>
    effect .refused (registerNonTerminal name valueType useCount)
  | .addProduction lhs rhs action reduced => effect id (registerProduction lhs rhs action reduced)
  | .addDerived lhs rhs base intermediate action reduced =>
    effect id (registerDerived lhs rhs base intermediate action reduced)
  | .setStart choice => registerStart choice
  | .symbol name => effect .refused (ask (·.symbol name))

/-- The grammar that a call leaves, refused or not. -/
def GrammarCall.after (call : GrammarCall) (g : Grammar) : Grammar :=
  match call.perform.run g with
  | .ok _ g' => g'
  | .error _ g' => g'

/-- The call that registers a requested terminal. -/
def Grammar.TerminalRequest.asCall (r : TerminalRequest) : GrammarCall :=
  .addTerminal r.name r.valueType r.useCount

namespace Grammar

/-- The grammar after a sequence of calls. -/
def run (g : Grammar) (calls : List GrammarCall) : Grammar :=
  calls.foldl (fun g call => call.after g) g

/-- An entry of a right side is what was asked for: the registered symbol of the name. -/
inductive EntryFor (g : Grammar) : EntryRequest → Entry → Prop where
  | named {name : String} {s : GrammarSymbol} (hs : g.symbol name = .ok s) :
      EntryFor g (.named (some name)) (.part ⟨s, none⟩)
  | labelled {name : String} {label : Option String} {s : GrammarSymbol}
      (hs : g.symbol name = .ok s) : EntryFor g (.tuple [some name, label]) (.part ⟨s, label⟩)
  | given (p : Part) : EntryFor g (.given p) (.part p)

/-- A rule is what was asked for, on the left and at each place of the right side. -/
structure RuleFor (g : Grammar) (lhs : String) (rhs : List EntryRequest) (rule : Rule) :
    Prop where
  left : g.symbol lhs = .ok rule.lhs
  right : List.Forall₂ g.EntryFor rhs rule.rhs

/-- The position and the rule that a derived production keeps are those of its base. -/
inductive BaseFor (g : Grammar) : ProductionChoice → Nat → Rule → Prop where
  | own {number : Int} {position : Nat} {p : Production}
      (hp : g.productions[position]? = some p) : BaseFor g (.own number) position p.rule
  | foreign (index : Nat) (rule : Rule) (baseIndex : Option Int) :
      BaseFor g (.foreign index rule baseIndex) index rule

/-- A production is what a call asked for. -/
inductive Fulfils (g : Grammar) : GrammarCall → Production → Prop where
  | production {lhs : String} {rhs : List EntryRequest} {action : Option String}
      {reduced : Option Int} {index : Int} {rule : Rule} (hrule : g.RuleFor lhs rhs rule) :
      Fulfils g (.addProduction lhs rhs action reduced) ⟨index, rule, action, reduced, .own⟩
  | derived {lhs : String} {rhs : List EntryRequest} {base : ProductionChoice}
      {intermediate : Int} {action : Option String} {reduced : Option Int} {index : Int}
      {rule : Rule} {position : Nat} {baseRule : Rule} (hrule : g.RuleFor lhs rhs rule)
      (hbase : g.BaseFor base position baseRule) :
      Fulfils g (.addDerived lhs rhs base intermediate action reduced)
        ⟨index, rule, action, reduced, .derived position baseRule intermediate⟩

/-- A call succeeds, and the production that it adds is this one. -/
def Makes (g : Grammar) (call : GrammarCall) (p : Production) : Prop :=
  ∃ g', call.perform.run g = .ok () g' ∧ g'.productions = g.productions ++ [p]

variable {g g' : Grammar} {call : GrammarCall}

/-! ## What was asked for -/

theorem entryFor_of_entry {request : EntryRequest} {e : Entry}
    (he : g.entry request = .ok e) : g.EntryFor request e := by
  have hnamed : ∀ name label, g.namedPart name label = .ok e →
      ∃ n s, name = some n ∧ g.symbol n = .ok s ∧ e = .part ⟨s, label⟩ := by
    intro name label hpart
    unfold namedPart at hpart
    split at hpart
    · rename_i s hs
      cases hpart
      cases name with
      | none => cases hs
      | some n => exact ⟨n, s, rfl, hs, rfl⟩
    · cases hpart
  unfold entry at he
  split at he
  · obtain ⟨n, s, rfl, hs, rfl⟩ := hnamed _ _ he
    exact .named hs
  · obtain ⟨n, s, rfl, hs, rfl⟩ := hnamed _ _ he
    exact .labelled hs
  · cases he
  · cases he
    exact .given _

theorem ruleFor_of_rule {lhs : String} {rhs : List EntryRequest} {rule : Rule}
    (hrule : g.rule lhs rhs = .ok rule) :
    g.RuleFor lhs rhs rule ∧ rule.lhs.isNonTerminal := by
  obtain ⟨left, hleft, hrest⟩ := Failure.bind_eq_ok.mp hrule
  obtain ⟨entries, hentries, heq⟩ := Failure.bind_eq_ok.mp hrest
  cases heq
  obtain ⟨s, hs, hkind⟩ := Failure.bind_eq_ok.mp (Failure.mapError_eq_ok.mp hleft)
  split at hkind
  · rename_i hnonTerminal
    cases hkind
    refine ⟨⟨hs, ?_⟩, hnonTerminal⟩
    exact (Failure.forall₂_of_mapM hentries).imp fun _ _ => entryFor_of_entry
  · cases hkind

theorem baseFor_of_base {choice : ProductionChoice} {position : Nat} {rule : Rule}
    (hbase : g.base choice = .ok (position, rule)) : g.BaseFor choice position rule := by
  cases choice with
  | foreign =>
    cases hbase
    exact .foreign _ _ _
  | own number =>
    obtain ⟨position, hposition, hrest⟩ := Failure.bind_eq_ok.mp hbase
    obtain ⟨p, hp, heq⟩ := Failure.bind_eq_ok.mp hrest
    cases heq
    obtain ⟨position', hposition', hget⟩ := Failure.bind_eq_ok.mp hp
    obtain rfl : position = position' := by simpa [hposition] using hposition'
    split at hget
    · rename_i hp
      cases hget
      exact .own hp
    · cases hget

section Extending

variable (hextends : g.Extends g')
include hextends

theorem EntryFor.mono {request : EntryRequest} {e : Entry} (he : g.EntryFor request e) :
    g'.EntryFor request e := by
  cases he with
  | named hs => exact .named (hextends.names _ _ hs)
  | labelled hs => exact .labelled (hextends.names _ _ hs)
  | given p => exact .given p

theorem RuleFor.mono {lhs : String} {rhs : List EntryRequest} {rule : Rule}
    (hrule : g.RuleFor lhs rhs rule) : g'.RuleFor lhs rhs rule :=
  ⟨hextends.names _ _ hrule.left, hrule.right.imp fun _ _ he => he.mono hextends⟩

theorem BaseFor.mono {choice : ProductionChoice} {position : Nat} {rule : Rule}
    (hbase : g.BaseFor choice position rule) : g'.BaseFor choice position rule := by
  cases hbase with
  | foreign => exact .foreign _ _ _
  | own hp =>
    obtain ⟨later, hlater⟩ := hextends.productions
    refine .own (hlater ▸ ?_)
    rw [List.getElem?_append_left (List.getElem?_eq_some_iff.mp hp).1]
    exact hp

theorem Fulfils.mono {p : Production} (hp : g.Fulfils call p) : g'.Fulfils call p := by
  cases hp with
  | production hrule => exact .production (hrule.mono hextends)
  | derived hrule hbase => exact .derived (hrule.mono hextends) (hbase.mono hextends)

end Extending

/-! ## One call -/

theorem lt_of_position {number : Int} {position : Nat} (h : g.position number = .ok position) :
    position < g.productions.length := by
  unfold Grammar.position at h
  split at h
  · rename_i hposition
    cases h
    exact lt_of_position?_eq_some hposition
  · cases h

theorem Consistent.left_mem (hg : g.Consistent) {lhs : String} {rhs : List EntryRequest}
    {rule : Rule} (hrule : g.rule lhs rhs = .ok rule) :
    rule.lhs ∈ g.nonTerminals.map Declared.symbol := by
  obtain ⟨hfor, hkind⟩ := ruleFor_of_rule hrule
  exact hg.mem_nonTerminals ((hg.names.leads _ _).mp hfor.left).1 hkind

theorem intermediate_bounds {length baseLength : Nat} {intermediate : Int}
    (hfits : intermediateFits length baseLength intermediate) :
    intermediate = -1 ∨
      0 ≤ intermediate ∧ intermediate ≤ (length : Int) - 1 ∧ intermediate ≤ baseLength := by
  unfold intermediateFits at hfits
  simp only [Bool.or_eq_true, Bool.and_eq_true, beq_iff_eq, decide_eq_true_eq] at hfits
  omega

/-- A call that is not refused changes the grammar in one of the four ways, and a
production that it adds is what it asks for. -/
theorem effect_of_perform (hg : g.Consistent) (hok : call.perform.run g = .ok () g') :
    Change g g' ∧ (g'.productions = g.productions ∨
      ∃ p, g'.productions = g.productions ++ [p] ∧ g.Fulfils call p) := by
  cases call with
  | addTerminal name valueType useCount =>
    obtain ⟨d, hrun⟩ := Registration.effect_eq_ok hok
    obtain ⟨hfree, rfl, rfl⟩ := registerTerminal_eq_ok hrun
    exact ⟨.terminal _ rfl rfl hfree, .inl rfl⟩
  | addNonTerminal name valueType useCount =>
    obtain ⟨d, hrun⟩ := Registration.effect_eq_ok hok
    obtain ⟨hfree, rfl, rfl⟩ := registerNonTerminal_eq_ok hrun
    exact ⟨.nonTerminal _ rfl rfl hfree, .inl rfl⟩
  | addProduction lhs rhs action reduced =>
    obtain ⟨p, hrun⟩ := Registration.effect_eq_ok hok
    obtain ⟨rule, hrule, rfl, rfl⟩ := registerProduction_eq_ok hrun
    have hfor := (ruleFor_of_rule hrule).1
    exact ⟨.production _ rfl ⟨hg.left_mem hrule, .inl rfl⟩, .inr ⟨_, rfl, .production hfor⟩⟩
  | addDerived lhs rhs base intermediate action reduced =>
    obtain ⟨p, hrun⟩ := Registration.effect_eq_ok hok
    obtain ⟨position, baseRule, rule, hbase, hrule, hfits, rfl, rfl⟩ := registerDerived_eq_ok hrun
    have hfor := (ruleFor_of_rule hrule).1
    exact ⟨.production _ rfl ⟨hg.left_mem hrule, intermediate_bounds hfits⟩,
      .inr ⟨_, rfl, .derived hfor (baseFor_of_base hbase)⟩⟩
  | setStart choice =>
    obtain ⟨number, position, -, hposition, hnone, rfl⟩ := registerStart_eq_ok hok
    exact ⟨.start position (lt_of_position hposition) hnone, .inl rfl⟩
  | symbol name =>
    obtain ⟨s, hrun⟩ := Registration.effect_eq_ok hok
    rw [Registration.run_ask] at hrun
    split at hrun
    · cases hrun
      exact ⟨.nothing, .inl rfl⟩
    · cases hrun

/-- A refused call changes nothing. -/
theorem atomic_perform (call : GrammarCall) : Registration.Atomic call.perform := by
  cases call with
  | addTerminal => exact atomic_registerTerminal.effect
  | addNonTerminal => exact atomic_registerNonTerminal.effect
  | addProduction => exact atomic_registerProduction.effect
  | addDerived => exact atomic_registerDerived.effect
  | setStart choice => exact atomic_registerStart choice
  | symbol name => exact (Registration.atomic_ask _).effect

theorem after_of_error {e : GrammarError} (hfail : call.perform.run g = .error e g') :
    call.after g = g := by
  unfold GrammarCall.after
  rw [hfail]
  exact atomic_perform call g e g' hfail

theorem after_of_ok (hok : call.perform.run g = .ok () g') : call.after g = g' := by
  unfold GrammarCall.after
  rw [hok]

theorem change_after (hg : g.Consistent) (call : GrammarCall) : Change g (call.after g) := by
  cases hrun : call.perform.run g with
  | error e g' =>
    rw [after_of_error hrun]
    exact .nothing
  | ok _ g' =>
    rw [after_of_ok hrun]
    exact (effect_of_perform hg hrun).1

theorem made_after (hg : g.Consistent) {p : Production} (hp : p ∈ (call.after g).productions) :
    p ∈ g.productions ∨ g.Makes call p ∧ (call.after g).Fulfils call p := by
  cases hrun : call.perform.run g with
  | error e g' =>
    rw [after_of_error hrun] at hp
    exact .inl hp
  | ok _ g' =>
    rw [after_of_ok hrun] at hp ⊢
    obtain ⟨hchange, hsame | ⟨q, hadded, hfulfils⟩⟩ := effect_of_perform hg hrun
    · exact .inl (hsame ▸ hp)
    · rw [hadded, List.mem_append, List.mem_singleton] at hp
      rcases hp with hp | rfl
      · exact .inl hp
      · exact .inr ⟨⟨g', hrun, hadded⟩, hfulfils.mono hchange.extends⟩

/-! ## Any sequence of calls -/

theorem run_append (g : Grammar) (before after : List GrammarCall) :
    g.run (before ++ after) = (g.run before).run after :=
  List.foldl_append

theorem run_concat (g : Grammar) (calls : List GrammarCall) (call : GrammarCall) :
    g.run (calls ++ [call]) = call.after (g.run calls) := by
  rw [run_append]
  rfl

theorem Consistent.run (hg : g.Consistent) (calls : List GrammarCall) :
    (g.run calls).Consistent := by
  induction calls using List.reverseRecOn with
  | nil => exact hg
  | append_singleton calls call ih =>
    rw [run_concat]
    exact ih.change (change_after ih call)

theorem Consistent.extends_run (hg : g.Consistent) (calls : List GrammarCall) :
    g.Extends (g.run calls) := by
  induction calls using List.reverseRecOn with
  | nil => exact .refl g
  | append_singleton calls call ih =>
    rw [run_concat]
    exact ih.trans (change_after (hg.run calls) call).extends

/-- Each production of the grammar was there before all calls, or one of the calls made
it and is fulfilled by it. -/
theorem Consistent.made_run (hg : g.Consistent) (calls : List GrammarCall) :
    ∀ p ∈ (g.run calls).productions, p ∈ g.productions ∨
      ∃ before call after, calls = before ++ call :: after ∧
        (g.run before).Makes call p ∧ (g.run calls).Fulfils call p := by
  induction calls using List.reverseRecOn with
  | nil => exact fun p hp => .inl hp
  | append_singleton calls call ih =>
    intro p hp
    have hlater : (g.run calls).Extends (g.run (calls ++ [call])) := by
      rw [run_append]
      exact (hg.run calls).extends_run [call]
    rw [run_concat] at hp
    -- What earlier calls asked for is still there: the last one has only added to it.
    rcases made_after (hg.run calls) hp with hp | ⟨hmakes, hfulfils⟩
    · rcases ih p hp with hp | ⟨before, made, after, rfl, hmakes, hfulfils⟩
      · exact .inl hp
      · exact .inr ⟨before, made, after ++ [call], by simp, hmakes, hfulfils.mono hlater⟩
    · exact .inr ⟨calls, call, [], rfl, hmakes, run_concat g calls call ▸ hfulfils⟩

/-! ## Grammars as they are built -/

/-- The terminals that every grammar begins with. -/
def fixedTerminals : List Declared :=
  [⟨⟨.terminal, endName, 0, none⟩, none⟩, ⟨⟨.terminal, errorName, 1, none⟩, none⟩]

theorem consistent_blank : blank.Consistent where
  terminals _ _ h := by simp [blank] at h
  terminals_kind := by simp [blank]
  nonTerminals _ _ h := by simp [blank] at h
  nonTerminals_kind := by simp [blank]
  names := ⟨List.nodup_nil, fun _ _ => by simp [blank, symbol, symbol?, symbols]⟩
  productions _ _ h := by simp [blank] at h
  admitted := by simp [blank]
  start := by simp [blank]

theorem addTerminal_eq_ok {name : String} {valueType : Option String} {useCount : Option Int}
    (hok : g.addTerminal name valueType useCount = .ok g') :
    (GrammarCall.addTerminal name valueType useCount).after g = g' ∧
      g'.productions = g.productions := by
  unfold addTerminal Registration.outcome at hok
  split at hok
  · rename_i d _ hrun
    cases hok
    have hperform : (GrammarCall.addTerminal name valueType useCount).perform.run g =
        .ok () g' := by
      unfold GrammarCall.perform
      rw [Registration.run_effect, hrun]
    obtain ⟨-, -, rfl⟩ := registerTerminal_eq_ok hrun
    exact ⟨after_of_ok hperform, rfl⟩
  · cases hok

/-- Registering the requested terminals is a run of calls none of which is refused. -/
theorem foldlM_addTerminal {requests : List TerminalRequest}
    (hok : requests.foldlM (fun g r => g.addTerminal r.name r.valueType r.useCount) g = .ok g') :
    g.run (requests.map TerminalRequest.asCall) = g' ∧ g'.productions = g.productions := by
  induction requests generalizing g with
  | nil =>
    cases hok
    exact ⟨rfl, rfl⟩
  | cons r requests ih =>
    rw [List.foldlM_cons] at hok
    obtain ⟨first, hfirst, hrest⟩ := Failure.bind_eq_ok.mp hok
    obtain ⟨rfl, hsame⟩ := addTerminal_eq_ok hfirst
    obtain ⟨hrun, hproductions⟩ := ih hrest
    exact ⟨hrun, hproductions.trans hsame⟩

/-- A grammar that could be built is consistent, has no productions and begins with the fixed
terminals. -/
theorem built_of_ofTerminals {requests : List TerminalRequest}
    (hbuilt : ofTerminals requests = .ok g) :
    g.Consistent ∧ g.productions = [] ∧ fixedTerminals <+: g.terminals := by
  -- Building is a sequence of calls on the blank grammar that begins with the fixed terminals.
  obtain ⟨rfl, hproductions⟩ := foldlM_addTerminal hbuilt
  refine ⟨consistent_blank.run _, hproductions, ?_⟩
  exact ((consistent_blank.run [.addTerminal endName none none, .addTerminal errorName none none]
    ).extends_run (requests.map TerminalRequest.asCall)).terminals

theorem symbol_eq_error (hlead : g.NamesLead) {name : String}
    (hnew : ∀ s ∈ g.symbols, s.name ≠ name) : g.symbol name = .error (.unknownSymbol name) := by
  cases hs : g.symbol name with
  | ok s =>
    obtain ⟨hmem, hname⟩ := (hlead.leads name s).mp hs
    exact absurd hname (hnew s hmem)
  | error e =>
    unfold symbol at hs
    split at hs
    · cases hs
    · cases hs
      rfl

/-- **Whatever is called on a grammar, it stays a sound registry.** Let any sequence of
calls, refused ones among them, follow on a grammar that could be built. Then the lists,
the names and the start production agree, and the end of input and the error terminal
come first. A name that no symbol bears is refused. Each production is what one of the
calls asked for, under the names as they stand now. Nothing that was registered at some
point, and no start production, has changed since, and a refused call leaves the
grammar as it was. -/
theorem calls_keep_registry {requests : List TerminalRequest} {g₀ : Grammar}
    (hbuilt : ofTerminals requests = .ok g₀) (calls : List GrammarCall) :
    (g₀.run calls).Consistent ∧
    fixedTerminals <+: (g₀.run calls).terminals ∧
    (∀ name, (∀ s ∈ (g₀.run calls).symbols, s.name ≠ name) →
      (g₀.run calls).symbol name = .error (.unknownSymbol name)) ∧
    (∀ p ∈ (g₀.run calls).productions, ∃ before call after, calls = before ++ call :: after ∧
      (g₀.run before).Makes call p ∧ (g₀.run calls).Fulfils call p) ∧
    (∀ before after, calls = before ++ after → (g₀.run before).Extends (g₀.run calls)) ∧
    (∀ (call : GrammarCall) e g', call.perform.run (g₀.run calls) = .error e g' →
      g' = g₀.run calls) := by
  obtain ⟨hg, hempty, hfixed⟩ := built_of_ofTerminals hbuilt
  have hkept := hg.run calls
  refine ⟨hkept, ?_, ?_, ?_, ?_, ?_⟩
  · exact hfixed.trans (hg.extends_run calls).terminals
  · exact fun name hnew => symbol_eq_error hkept.names hnew
  · intro p hp
    rcases hg.made_run calls p hp with hold | hmade
    · rw [hempty] at hold
      cases hold
    · exact hmade
  · rintro before after rfl
    rw [run_append]
    exact (hg.run before).extends_run after
  · exact fun call e g' => atomic_perform call _ e g'

/-- A grammar of one terminal of its own, as it is built. -/
def oneTerminal : Grammar where
  terminals := fixedTerminals ++ [⟨⟨.terminal, "A", 2, none⟩, none⟩]
  nonTerminals := []
  productions := []
  start := none
  names := [("A", ⟨.terminal, "A", 2, none⟩), (errorName, ⟨.terminal, errorName, 1, none⟩),
    (endName, ⟨.terminal, endName, 0, none⟩)]

/-- Ten calls, of which six are refused, one of them half way through a right side. -/
def tenCalls : List GrammarCall :=
  [.addTerminal "A" none none, .addNonTerminal "s" none none, .addNonTerminal "A" none none,
    .addProduction "s" [.named (some "A"), .named (some "B")] none none,
    .addProduction "s" [.named (some "A"), .tuple [some "A", some "x"]] none none,
    .addDerived "s" [.named (some "A")] (.own 0) 1 none none,
    .addDerived "s" [.named (some "A")] (.own (-1)) 0 none none,
    .setStart (.own 1), .setStart (.own 0), .symbol "B"]

/-- The calls that are not refused leave two productions, of which the second one is
derived and the start production. -/
theorem calls_keep_registry_tenCalls :
    ofTerminals [{ name := "A" }] = .ok oneTerminal ∧
    (oneTerminal.run tenCalls).productions.map (fun p => (p.index, p.length, p.intermediate)) =
      [(0, 2, -1), (1, 1, 0)] ∧
    (oneTerminal.run tenCalls).start = some 1 ∧
    (oneTerminal.run tenCalls).Consistent ∧
    (oneTerminal.run tenCalls).symbol "B" = .error (.unknownSymbol "B") := by
  have hbuilt : ofTerminals [{ name := "A" }] = .ok oneTerminal := by decide +kernel
  obtain ⟨hkept, -, hunknown, -⟩ := calls_keep_registry hbuilt tenCalls
  exact ⟨hbuilt, by decide +kernel, by decide +kernel, hkept, hunknown "B" (by decide +kernel)⟩

end Grammar

end LalrBackend
