import LalrBackend.Proofs.Emission.Outcome
import LalrBackend.Proofs.Grammar.Calls
import LalrBackend.Proofs.Identifier
import LalrBackend.Proofs.Text.Digits
import Mathlib.Data.List.Nodup

/-!
# The identifiers of symbol constants

Constants are written one after the other as long as each identifier is a new one. Different
names may well have one identifier, through characters that may not stand in it, through a
digit in front or through a reserved word. So either all symbols get their constants, and the
identifiers tell them apart, or the writing stops at the first symbol whose identifier is
taken, and that symbol is named together with the one that took it.
-/

namespace LalrBackend.Constants

open Text

/-! ## Symbols in a row -/

section Row

variable {before ns : List Named} {owner taker : Named} {identifier : String}

/-- The first symbol of a row whose identifier is taken, with all symbols before it and the
one of them that took the identifier. -/
structure FirstClash (ns before : List Named) (owner taker : Named) : Prop where
  place : before ++ [taker] <+: ns
  distinct : (before.map Named.identifier).Nodup
  held : owner ∈ before
  same : owner.identifier = taker.identifier

theorem take_of_concat_prefix (h : before ++ [taker] <+: ns) :
    ns.take before.length = before ∧ before.length < ns.length := by
  constructor
  · exact (List.prefix_iff_eq_take.mp ((List.prefix_append _ _).trans h)).symm
  · have hle := h.length_le
    rw [List.length_append, List.length_singleton] at hle
    omega

/-- The failure at a symbol whose identifier is taken. -/
def refusal (owner taker : Named) : EmitError :=
  .refused (.constantClash owner.symbol.name taker.symbol.name taker.identifier)

/-- What the lines of a row of symbols come to behind other symbols: they are all written, or
those before the first clash. -/
inductive Ends (before ns : List Named) : Draft EmitError → Prop where
  | finished (hdistinct : ((before ++ ns).map Named.identifier).Nodup) :
      Ends before ns (.ofLines (ns.map Named.line))
  | refused {front : List Named} {owner taker : Named}
      (hclash : FirstClash (before ++ ns) (before ++ front) owner taker) :
      Ends before ns ⟨front.map Named.line, some (refusal owner taker)⟩

theorem holder?_eq_none :
    holder? before identifier = none ↔ identifier ∉ before.map Named.identifier := by
  unfold holder?
  rw [List.find?_eq_none, List.mem_map]
  simp

theorem holder?_eq_some (h : holder? before identifier = some owner) :
    owner ∈ before ∧ owner.identifier = identifier :=
  ⟨List.mem_of_find?_eq_some h, by simpa using List.find?_some h⟩

theorem FirstClash.not_nodup (h : FirstClash ns before owner taker) :
    ¬ (ns.map Named.identifier).Nodup := by
  intro hnodup
  have hfront : ((before ++ [taker]).map Named.identifier).Nodup :=
    hnodup.sublist (h.place.sublist.map _)
  rw [List.map_append, List.nodup_append] at hfront
  obtain ⟨_, _, hapart⟩ := hfront
  exact hapart _ (List.mem_map_of_mem h.held) _ (List.mem_map_of_mem List.mem_cons_self) h.same

theorem FirstClash.mono {ms : List Named} (h : FirstClash ns before owner taker)
    (hbegins : ns <+: ms) : FirstClash ms before owner taker :=
  { h with place := h.place.trans hbegins }

/-- Behind symbols whose identifiers are distinct, a row is written up to its first clash. -/
theorem ends_draft (hbefore : (before.map Named.identifier).Nodup) :
    Ends before ns (draft before ns) := by
  -- The symbols written so far grow along the row, and their identifiers stay distinct.
  induction ns generalizing before with
  | nil =>
      refine .finished ?_
      rw [List.append_nil]
      exact hbefore
  | cons n ns ih =>
      cases hholder : holder? before n.identifier with
      | some owner =>
          obtain ⟨hheld, hsame⟩ := holder?_eq_some hholder
          have hclash : FirstClash (before ++ n :: ns) (before ++ []) owner n := by
            rw [List.append_nil]
            exact ⟨⟨ns, by simp⟩, hbefore, hheld, hsame⟩
          rw [draft, hholder]
          exact .refused hclash
      | none =>
          have hnext : ((before ++ [n]).map Named.identifier).Nodup := by
            have hconcat := List.Nodup.concat (holder?_eq_none.mp hholder) hbefore
            rw [List.concat_eq_append] at hconcat
            rw [List.map_append]
            exact hconcat
          have hends := ih hnext
          rw [draft, hholder]
          generalize draft (before ++ [n]) ns = rest at hends
          cases hends with
          | finished hdistinct =>
              rw [← List.append_cons] at hdistinct
              exact .finished hdistinct
          | refused hclash =>
              rw [← List.append_cons, ← List.append_cons] at hclash
              exact .refused hclash

end Row

/-! ## The class of a grammar -/

section Class

variable {c : Config} {g : Grammar}

/-- The symbols that get constants, in the order in which they get them. -/
def members (c : Config) (g : Grammar) : List Named :=
  terminals g ++ if c.withNonTerminals then nonTerminals g else []

/-- The lines of the class in which only the first so many symbols have got their
constants. What separates the non-terminals from the terminals comes with the last terminal. -/
def linesUpTo (c : Config) (g : Grammar) (count : Nat) : List String :=
  opening c ++ ((terminals g).take count).map Named.line ++
    if c.withNonTerminals ∧ (terminals g).length ≤ count then
      ["", step ++ "# non terminals"] ++
        ((nonTerminals g).take (count - (terminals g).length)).map Named.line
    else []

theorem linesUpTo_of_lt {count : Nat} (h : count < (terminals g).length) :
    linesUpTo c g count = opening c ++ ((terminals g).take count).map Named.line := by
  rw [linesUpTo, if_neg, List.append_nil]
  rintro ⟨_, hle⟩
  omega

theorem linesUpTo_length (h : c.withNonTerminals = false) :
    linesUpTo c g (terminals g).length = opening c ++ (terminals g).map Named.line := by
  rw [linesUpTo, List.take_length, if_neg, List.append_nil]
  rintro ⟨hwanted, _⟩
  rw [h] at hwanted
  cases hwanted

theorem linesUpTo_add (h : c.withNonTerminals = true) (count : Nat) :
    linesUpTo c g ((terminals g).length + count) =
      opening c ++ (terminals g).map Named.line ++
        (["", step ++ "# non terminals"] ++ ((nonTerminals g).take count).map Named.line) := by
  rw [linesUpTo, List.take_of_length_le (Nat.le_add_right _ _), if_pos ⟨h, Nat.le_add_right _ _⟩,
    Nat.add_sub_cancel_left]

theorem classDraft_eq (c : Config) (g : Grammar) :
    classDraft c g = .ofLines (opening c) ++ draft [] (terminals g) ++
      if c.withNonTerminals then
        .ofLines ["", step ++ "# non terminals"] ++ draft (terminals g) (nonTerminals g)
      else .ofLines [] := rfl

/-- Either all symbols get their constants or those before the first clash do. -/
theorem classDraft_cases (c : Config) (g : Grammar) :
    ((members c g).map Named.identifier).Nodup ∧
        classDraft c g = .ofLines (linesUpTo c g (members c g).length) ∨
      ∃ before owner taker, FirstClash (members c g) before owner taker ∧
        classDraft c g = ⟨linesUpTo c g before.length, some (refusal owner taker)⟩ := by
  have hterminals : Ends [] (terminals g) (draft [] (terminals g)) := ends_draft List.nodup_nil
  rw [classDraft_eq]
  generalize draft [] (terminals g) = first at hterminals
  cases hterminals with
  | @refused front owner taker hclash =>
      -- The clash is among the terminals: nothing is written of the non-terminals.
      rw [List.nil_append, List.nil_append] at hclash
      obtain ⟨hfront, hlt⟩ := take_of_concat_prefix hclash.place
      refine .inr ⟨front, owner, taker, hclash.mono (List.prefix_append _ _), ?_⟩
      rw [linesUpTo_of_lt hlt, hfront]
      rfl
  | finished hdistinct =>
      rw [List.nil_append] at hdistinct
      cases hwanted : c.withNonTerminals with
      | false =>
          have hmembers : members c g = terminals g := by
            rw [members, hwanted]
            exact List.append_nil _
          rw [hmembers, linesUpTo_length hwanted, if_neg Bool.false_ne_true]
          exact .inl ⟨hdistinct, congrArg Draft.ofLines (List.append_nil _)⟩
      | true =>
          have hmembers : members c g = terminals g ++ nonTerminals g := by
            rw [members, hwanted]
            rfl
          have hnonTerminals : Ends (terminals g) (nonTerminals g)
              (draft (terminals g) (nonTerminals g)) := ends_draft hdistinct
          rw [if_pos rfl, hmembers]
          generalize draft (terminals g) (nonTerminals g) = second at hnonTerminals
          cases hnonTerminals with
          | finished hdistinct =>
              rw [List.length_append, linesUpTo_add hwanted, List.take_length]
              exact .inl ⟨hdistinct, rfl⟩
          | @refused front owner taker hclash =>
              -- All terminals are written, and the non-terminals before the clash.
              have hplace := hclash.place
              rw [List.append_assoc, List.prefix_append_right_inj] at hplace
              obtain ⟨hfront, _⟩ := take_of_concat_prefix hplace
              refine .inr ⟨terminals g ++ front, owner, taker, hclash, ?_⟩
              rw [List.length_append, linesUpTo_add hwanted, hfront]
              rfl

theorem members_sublist (c : Config) (g : Grammar) :
    (members c g).Sublist (terminals g ++ nonTerminals g) := by
  unfold members
  split
  · exact List.Sublist.refl _
  · exact (List.nil_sublist _).append_left _

theorem eq_ofSymbol_of_mem {n : Named} (h : n ∈ members c g) : n = .ofSymbol n.symbol := by
  have hall := (members_sublist c g).subset h
  rw [terminals, nonTerminals, ← List.map_append] at hall
  obtain ⟨d, _, rfl⟩ := List.mem_map.mp hall
  rfl

/-- Symbols that are numbered by their places still are once they have their identifiers. -/
theorem numbered_ofSymbol {ds : List Declared} (h : Numbered (·.symbol.index) ds) :
    Numbered (·.symbol.index) (ds.map fun d => Named.ofSymbol d.symbol) := by
  intro i n hn
  rw [List.getElem?_map] at hn
  obtain ⟨d, hd, rfl⟩ := Option.map_eq_some_iff.mp hn
  exact h i d hd

theorem nodup_members (hg : g.Consistent) (c : Config) : (members c g).Nodup := by
  have hnames : (terminals g ++ nonTerminals g).map (·.symbol.name) =
      g.symbols.map GrammarSymbol.name := by
    unfold terminals nonTerminals Grammar.symbols
    simp [Named.ofSymbol, Function.comp_def]
  have hdistinct := hg.names.distinct
  rw [← hnames] at hdistinct
  exact (List.Nodup.of_map _ hdistinct).sublist (members_sublist c g)

/-- The identifiers are distinct if no two symbols have the same one. -/
theorem nodup_identifiers_iff (hg : g.Consistent) :
    ((members c g).map Named.identifier).Nodup ↔
      ¬ ∃ a ∈ members c g, ∃ b ∈ members c g,
        a.symbol ≠ b.symbol ∧ a.identifier = b.identifier := by
  -- No symbol gets two constants, so what has one identifier in two places is two symbols.
  rw [List.nodup_map_iff_inj_on (nodup_members hg c)]
  constructor
  · rintro hinj ⟨a, ha, b, hb, hne, hsame⟩
    exact hne (congrArg Named.symbol (hinj a ha b hb hsame))
  · intro hnone a ha b hb hsame
    by_contra hne
    refine hnone ⟨a, ha, b, hb, ?_, hsame⟩
    intro hsymbol
    rw [eq_ofSymbol_of_mem ha, eq_ofSymbol_of_mem hb, hsymbol] at hne
    exact hne rfl

/-- A constant is written on one line. -/
theorem line_one_line {n : Named} (h : n ∈ members c g) : '\n' ∉ n.line.toList := by
  -- Between fixed texts there are only word characters and the characters of a numeral.
  have hword : isWordChar '\n' = false := by decide +kernel
  rw [eq_ofSymbol_of_mem h]
  intro hfeed
  simp only [Named.line, Named.ofSymbol, String.toList_append, List.mem_append] at hfeed
  rcases hfeed with ((hfeed | hfeed) | hfeed) | hfeed
  · revert hfeed
    decide
  · rw [Identifier.isWordChar_of_mem_ofName _ hfeed] at hword
    cases hword
  · revert hfeed
    decide
  · rw [decimal, String.toList_ofList] at hfeed
    rcases isDigit_of_mem_decimalChars hfeed with hsign | hdigit
    · cases hsign
    · cases hdigit

end Class

/-- **The constants are complete and told apart, or the first clash is named.** Whatever calls
built a grammar, both classes of symbols are numbered by their places. The writing of the
constants fails exactly if two of the symbols that are to get one have the same identifier.
Then the first of them whose identifier is taken is named together with the one that took it,
the symbols before it have their constants, and the report is as it was. Otherwise each of the
symbols has its constant, on a line of its own, and its identifier is that of no other. -/
theorem symbols_distinct_or_clash (c : Config) (r : Report)
    {requests : List Grammar.TerminalRequest} {g₀ : Grammar}
    (hbuilt : Grammar.ofTerminals requests = .ok g₀) (calls : List GrammarCall) :
    let g := g₀.run calls
    let out := emitSymbols c g r
    Numbered (·.symbol.index) (terminals g) ∧ Numbered (·.symbol.index) (nonTerminals g) ∧
    (out.draft.failure ≠ none ↔ ∃ a ∈ members c g, ∃ b ∈ members c g,
      a.symbol ≠ b.symbol ∧ a.identifier = b.identifier) ∧
    (∀ e, out.draft.failure = some e → ∃ before owner taker,
      FirstClash (members c g) before owner taker ∧ e = refusal owner taker ∧
      out.draft.lines = linesUpTo c g before.length ∧ out.report = r) ∧
    (out.draft.failure = none →
      out.draft.lines = linesUpTo c g (members c g).length ∧
      (∀ n ∈ members c g, '\n' ∉ n.line.toList) ∧
      ((members c g).map Named.identifier).Nodup ∧
      ∀ identifier ∈ (members c g).map Named.identifier,
        ∃! n, n ∈ members c g ∧ n.identifier = identifier) := by
  intro g out
  have hg : g.Consistent := (Grammar.built_of_ofTerminals hbuilt).1.run calls
  refine ⟨numbered_ofSymbol hg.terminals, numbered_ofSymbol hg.nonTerminals, ?_⟩
  have hdraft : out.draft = classDraft c g := rfl
  have hreport : out.report = if (classDraft c g).failure.isNone then r.withSymbols g else r := rfl
  rcases classDraft_cases c g with ⟨hdistinct, hwritten⟩ | ⟨before, owner, taker, hclash, hrefused⟩
  · rw [hdraft, hwritten]
    have hnone := (nodup_identifiers_iff hg).mp hdistinct
    refine ⟨⟨fun hfailure => absurd rfl hfailure, fun hsame => absurd hsame hnone⟩, nofun, ?_⟩
    intro _
    refine ⟨rfl, fun n hn => line_one_line hn, hdistinct, ?_⟩
    intro identifier hidentifier
    obtain ⟨n, hn, rfl⟩ := List.mem_map.mp hidentifier
    exact ⟨n, ⟨hn, rfl⟩, fun n' hn' => List.inj_on_of_nodup_map hdistinct hn'.1 hn hn'.2⟩
  · rw [hdraft, hreport, hrefused]
    have hsame : ∃ a ∈ members c g, ∃ b ∈ members c g,
        a.symbol ≠ b.symbol ∧ a.identifier = b.identifier := by
      by_contra hnone
      exact hclash.not_nodup ((nodup_identifiers_iff hg).mpr hnone)
    refine ⟨⟨fun _ => hsame, fun _ => nofun⟩, ?_, nofun⟩
    rintro _ ⟨⟩
    exact ⟨before, owner, taker, hclash, rfl, rfl, rfl⟩

/-- A terminal with a reserved name, and a non-terminal whose name only differs in a character
that may not stand in an identifier. -/
def reservedCalls : List GrammarCall :=
  [.addTerminal "if" none none, .addNonTerminal "if$" none none]

/-- The terminals alone have distinct identifiers. With the non-terminals they have not: the
constants of all terminals are written before the clash is noticed. -/
theorem symbols_distinct_or_clash_reserved :
    Grammar.ofTerminals [{ name := "A" }] = .ok Grammar.oneTerminal ∧
    (let g := Grammar.oneTerminal.run reservedCalls
    let terminalsOnly : Config := {}
    let all : Config := { withNonTerminals := true }
    (emitSymbols terminalsOnly g {}).draft =
        ⟨opening terminalsOnly ++
          ["    EOF = 0", "    error = 1", "    A = 2", "    if_ = 3"], none⟩ ∧
      ((members terminalsOnly g).map Named.identifier).Nodup ∧
      (emitSymbols all g {}).draft =
        ⟨opening all ++ ["    EOF = 0", "    error = 1", "    A = 2", "    if_ = 3",
            "", "    # non terminals"],
          some (.refused (.constantClash "if" "if$" "if_"))⟩ ∧
      ∃ a ∈ members all g, ∃ b ∈ members all g,
        a.symbol ≠ b.symbol ∧ a.identifier = b.identifier) := by
  have hbuilt : Grammar.ofTerminals [{ name := "A" }] = .ok Grammar.oneTerminal := by
    decide +kernel
  refine ⟨hbuilt, ?_⟩
  intro g terminalsOnly all
  have hwritten : (emitSymbols terminalsOnly g {}).draft =
      ⟨opening terminalsOnly ++
        ["    EOF = 0", "    error = 1", "    A = 2", "    if_ = 3"], none⟩ := by
    decide +kernel
  have hrefused : (emitSymbols all g {}).draft =
      ⟨opening all ++ ["    EOF = 0", "    error = 1", "    A = 2", "    if_ = 3",
          "", "    # non terminals"],
        some (.refused (.constantClash "if" "if$" "if_"))⟩ := by
    decide +kernel
  obtain ⟨-, -, -, -, hfinished⟩ :=
    symbols_distinct_or_clash terminalsOnly {} hbuilt reservedCalls
  obtain ⟨-, -, hfails, -⟩ := symbols_distinct_or_clash all {} hbuilt reservedCalls
  obtain ⟨-, -, hdistinct, -⟩ := hfinished (by rw [hwritten])
  exact ⟨hwritten, hdistinct, hrefused, hfails.mp (by rw [hrefused]; nofun)⟩

end LalrBackend.Constants
