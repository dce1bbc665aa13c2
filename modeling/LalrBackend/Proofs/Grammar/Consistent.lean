import LalrBackend.Proofs.Grammar.Registration

/-!
# Consistent grammars

A grammar keeps three numbered lists and a map of names. In a consistent grammar they
agree: every member carries the number of its place, the names are distinct and lead to
the symbols that bear them, and productions use registered left sides. There are four
ways in which a grammar changes, and none of them breaks this or takes anything back.
-/

namespace LalrBackend

/-- Every member carries the number of its place. -/
def Numbered {α : Type} (number : α → Int) (members : List α) : Prop :=
  ∀ (i : Nat) x, members[i]? = some x → number x = i

theorem Numbered.concat {α : Type} {number : α → Int} {members : List α} {x : α}
    (hnumbered : Numbered number members) (hx : number x = members.length) :
    Numbered number (members ++ [x]) := by
  intro i y hy
  rcases Nat.lt_trichotomy i members.length with hlt | rfl | hgt
  · rw [List.getElem?_append_left hlt] at hy
    exact hnumbered i y hy
  · obtain rfl : x = y := by simpa using hy
    exact hx
  · rw [List.getElem?_eq_none (by simp; omega)] at hy
    cases hy

namespace Grammar

/-- The names of the symbols are distinct, and each leads to the symbol that bears it. -/
structure NamesLead (g : Grammar) : Prop where
  distinct : (g.symbols.map GrammarSymbol.name).Nodup
  leads : ∀ name s, g.symbol name = .ok s ↔ s ∈ g.symbols ∧ s.name = name

/-- The left side is a registered non-terminal. If there is an intermediate result, it
lies within the production and within its base. -/
structure Admits (g : Grammar) (p : Production) : Prop where
  left : p.rule.lhs ∈ g.nonTerminals.map Declared.symbol
  intermediate : p.intermediate = -1 ∨
    0 ≤ p.intermediate ∧ p.intermediate ≤ p.length - 1 ∧ p.intermediate ≤ p.base.length

/-- The lists, the names and the start production of a grammar agree with each other. -/
structure Consistent (g : Grammar) : Prop where
  terminals : Numbered (·.symbol.index) g.terminals
  terminals_kind : ∀ d ∈ g.terminals, d.symbol.kind = .terminal
  nonTerminals : Numbered (·.symbol.index) g.nonTerminals
  nonTerminals_kind : ∀ d ∈ g.nonTerminals, d.symbol.kind = .nonTerminal
  names : g.NamesLead
  productions : Numbered Production.index g.productions
  admitted : ∀ p ∈ g.productions, g.Admits p
  start : ∀ position, g.start = some position →
    ∃ p ∈ g.productions, g.startProduction? = some p

/-- Whatever one grammar has, the other one has in the same place. -/
structure Extends (g g' : Grammar) : Prop where
  terminals : g.terminals <+: g'.terminals
  nonTerminals : g.nonTerminals <+: g'.nonTerminals
  productions : g.productions <+: g'.productions
  names : ∀ name s, g.symbol name = .ok s → g'.symbol name = .ok s
  start : ∀ p, g.startProduction? = some p → g'.startProduction? = some p

/-- The ways in which a grammar changes. -/
inductive Change (g : Grammar) : Grammar → Prop where
  | nothing : Change g g
  | terminal (d : Declared) (hkind : d.symbol.kind = .terminal)
      (hindex : d.symbol.index = g.terminals.length)
      (hfree : g.symbol? d.symbol.name = none) :
      Change g ((g.appendTerminal d).bindName d.symbol.name d.symbol)
  | nonTerminal (d : Declared) (hkind : d.symbol.kind = .nonTerminal)
      (hindex : d.symbol.index = g.nonTerminals.length)
      (hfree : g.symbol? d.symbol.name = none) :
      Change g ((g.appendNonTerminal d).bindName d.symbol.name d.symbol)
  | production (p : Production) (hindex : p.index = g.productions.length)
      (hadmits : g.Admits p) : Change g (g.append p)
  | start (position : Nat) (hlt : position < g.productions.length)
      (hnone : g.startProduction? = none) : Change g (g.withStart position)

variable {g g' g'' : Grammar}

/-! ## Names -/

theorem symbol_eq_ok {name : String} {s : GrammarSymbol} :
    g.symbol name = .ok s ↔ g.symbol? name = some s := by
  unfold symbol
  split <;> simp_all

theorem symbol?_of_names {name name' : String} {s : GrammarSymbol}
    (hnames : g'.names = (name, s) :: g.names) :
    g'.symbol? name' = if name' = name then some s else g.symbol? name' := by
  unfold symbol?
  rw [hnames, List.lookup_cons]
  split <;> simp_all

/-- A new name may be bound in front of the others, wherever its symbol is put. -/
theorem NamesLead.enter {s : GrammarSymbol} (hlead : g.NamesLead)
    (hfree : g.symbol? s.name = none) (hnames : g'.names = (s.name, s) :: g.names)
    (hsymbols : g'.symbols.Perm (s :: g.symbols)) : g'.NamesLead := by
  have hnew : ∀ s' ∈ g.symbols, s'.name ≠ s.name := by
    intro s' hs' hname
    have hlookup := symbol_eq_ok.mp ((hlead.leads s.name s').mpr ⟨hs', hname⟩)
    rw [hfree] at hlookup
    cases hlookup
  constructor
  · rw [(hsymbols.map GrammarSymbol.name).nodup_iff, List.map_cons, List.nodup_cons]
    refine ⟨?_, hlead.distinct⟩
    simpa using hnew
  · intro name s'
    rw [symbol_eq_ok, symbol?_of_names hnames, hsymbols.mem_iff, List.mem_cons]
    by_cases hname : name = s.name
    · subst hname
      simp only [if_true, Option.some.injEq]
      constructor
      · rintro rfl
        exact ⟨.inl rfl, rfl⟩
      · rintro ⟨rfl | hs', hsame⟩
        · rfl
        · exact absurd hsame (hnew s' hs')
    · rw [if_neg hname, ← symbol_eq_ok, hlead.leads]
      constructor
      · rintro ⟨hs', hsame⟩
        exact ⟨.inr hs', hsame⟩
      · rintro ⟨rfl | hs', hsame⟩
        · exact absurd hsame.symm hname
        · exact ⟨hs', hsame⟩

theorem symbols_appendTerminal (d : Declared) :
    (g.appendTerminal d).symbols.Perm (d.symbol :: g.symbols) := by
  unfold symbols appendTerminal
  simp

theorem symbols_appendNonTerminal (d : Declared) :
    (g.appendNonTerminal d).symbols.Perm (d.symbol :: g.symbols) := by
  unfold symbols appendNonTerminal
  rw [← List.append_assoc, List.map_append]
  exact List.perm_append_singleton d.symbol _

theorem Consistent.mem_nonTerminals (hg : g.Consistent) {s : GrammarSymbol}
    (hs : s ∈ g.symbols) (hkind : s.isNonTerminal) :
    s ∈ g.nonTerminals.map Declared.symbol := by
  unfold symbols at hs
  rw [List.map_append, List.mem_append] at hs
  rcases hs with hs | hs
  · obtain ⟨d, hd, rfl⟩ := List.mem_map.mp hs
    simp [GrammarSymbol.isNonTerminal, hg.terminals_kind d hd] at hkind
  · exact hs

/-! ## The start production -/

theorem startProduction?_append {p q : Production} (hq : g.startProduction? = some q) :
    (g.append p).startProduction? = some q := by
  obtain ⟨position, hposition, hget⟩ := Option.bind_eq_some_iff.mp hq
  refine Option.bind_eq_some_iff.mpr ⟨position, hposition, ?_⟩
  obtain ⟨hlt, -⟩ := List.getElem?_eq_some_iff.mp hget
  rw [← hget]
  exact List.getElem?_append_left hlt

/-! ## Extension -/

theorem Extends.refl (g : Grammar) : g.Extends g :=
  ⟨List.prefix_rfl, List.prefix_rfl, List.prefix_rfl, fun _ _ h => h, fun _ h => h⟩

theorem Extends.trans (hfirst : g.Extends g') (hsecond : g'.Extends g'') : g.Extends g'' where
  terminals := hfirst.terminals.trans hsecond.terminals
  nonTerminals := hfirst.nonTerminals.trans hsecond.nonTerminals
  productions := hfirst.productions.trans hsecond.productions
  names name s h := hsecond.names name s (hfirst.names name s h)
  start p h := hsecond.start p (hfirst.start p h)

/-- A name that led somewhere still does after another one has been bound. -/
theorem symbol_of_enter {s : GrammarSymbol} (hfree : g.symbol? s.name = none)
    (hnames : g'.names = (s.name, s) :: g.names) (name : String) (s' : GrammarSymbol)
    (hs' : g.symbol name = .ok s') : g'.symbol name = .ok s' := by
  rw [symbol_eq_ok] at hs' ⊢
  rw [symbol?_of_names hnames, if_neg]
  · exact hs'
  · rintro rfl
    rw [hfree] at hs'
    cases hs'

/-! ## Every change -/

theorem Change.extends (hchange : Change g g') : g.Extends g' := by
  cases hchange with
  | nothing => exact .refl g
  | terminal d hkind hindex hfree =>
    exact ⟨List.prefix_append _ _, List.prefix_rfl, List.prefix_rfl, symbol_of_enter hfree rfl,
      fun _ h => h⟩
  | nonTerminal d hkind hindex hfree =>
    exact ⟨List.prefix_rfl, List.prefix_append _ _, List.prefix_rfl, symbol_of_enter hfree rfl,
      fun _ h => h⟩
  | production p hindex hadmits =>
    exact ⟨List.prefix_rfl, List.prefix_rfl, List.prefix_append _ _, fun _ _ h => h,
      fun _ h => startProduction?_append h⟩
  | start position hlt hnone =>
    refine ⟨List.prefix_rfl, List.prefix_rfl, List.prefix_rfl, fun _ _ h => h, fun p h => ?_⟩
    rw [hnone] at h
    cases h

theorem Admits.mono {p : Production} (hnonTerminals : g.nonTerminals <+: g'.nonTerminals)
    (hp : g.Admits p) : g'.Admits p :=
  ⟨(hnonTerminals.map Declared.symbol).mem hp.left, hp.intermediate⟩

/-- No change makes a consistent grammar inconsistent. -/
theorem Consistent.change (hg : g.Consistent) (hchange : Change g g') : g'.Consistent := by
  have hextends := hchange.extends
  -- No non-terminal is ever taken away, so what was admitted before still is.
  have hadmitted : ∀ p ∈ g.productions, g'.Admits p :=
    fun p hp => (hg.admitted p hp).mono hextends.nonTerminals
  cases hchange with
  | nothing => exact hg
  | terminal d hkind hindex hfree =>
    exact { hg with
      terminals := hg.terminals.concat hindex
      terminals_kind := by
        simpa [appendTerminal, bindName, or_imp, forall_and, hkind] using hg.terminals_kind
      names := hg.names.enter hfree rfl (symbols_appendTerminal (g := g) d)
      admitted := hadmitted }
  | nonTerminal d hkind hindex hfree =>
    exact { hg with
      nonTerminals := hg.nonTerminals.concat hindex
      nonTerminals_kind := by
        simpa [appendNonTerminal, bindName, or_imp, forall_and, hkind] using hg.nonTerminals_kind
      names := hg.names.enter hfree rfl (symbols_appendNonTerminal (g := g) d)
      admitted := hadmitted }
  | production p hindex hadmits =>
    exact { hg with
      names := ⟨hg.names.distinct, hg.names.leads⟩
      productions := hg.productions.concat hindex
      admitted := by
        intro q hq
        rcases List.mem_append.mp hq with hq | hq
        · exact hadmitted q hq
        · obtain rfl := List.mem_singleton.mp hq
          exact ⟨hadmits.left, hadmits.intermediate⟩
      start := by
        intro position hposition
        obtain ⟨q, hq, hstart⟩ := hg.start position hposition
        exact ⟨q, List.mem_append_left _ hq, startProduction?_append hstart⟩ }
  | start position hlt hnone =>
    exact { hg with
      names := ⟨hg.names.distinct, hg.names.leads⟩
      admitted := hadmitted
      start := by
        intro _ hposition
        obtain rfl := Option.some.inj hposition
        exact ⟨g.productions[position], List.getElem_mem hlt, List.getElem?_eq_getElem hlt⟩ }

end Grammar

end LalrBackend
