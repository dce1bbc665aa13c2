import LalrBackend.Proofs.Calculator.Language
import LalrBackend.Proofs.Calculator.Reductions
import LalrBackend.Proofs.Parsing.Loop

/-!
# Runs of the calculator

A loop that shifts and reduces by the tables of the calculator goes from phase to phase: each move
of it is a shift, a reduction whose symbol carries what the code of the production says, or the
last one. So the loop ends, and it ends as the tokens ask for.
-/

namespace LalrBackend.Calculator

open Parsing Reduction

/-! ## Tokens -/

/-- A token as a scanner gives it: what it is, what it carries if it is a sign, and where it
lies. -/
structure Token where
  kind : Kind
  carried : Value
  left : Value
  right : Value
  name : Value

/-- The number of the terminal. -/
def Kind.terminal : Kind → Int
  | .number _ => numberSymbol.index
  | .plus => plusSymbol.index
  | .times => timesSymbol.index

/-- The integer that a token has to carry. -/
def Kind.item : Kind → Option Int
  | .number n => some n
  | .plus => none
  | .times => none

/-- A number carries itself. -/
def Token.lexeme (t : Token) : Lexeme where
  terminal := t.kind.terminal
  value := (t.kind.item.map Value.int).getD t.carried
  left := t.left
  right := t.right
  name := t.name

theorem carries_lexeme (t : Token) : Carries t.kind.item t.lexeme.symbol := by
  obtain ⟨kind, carried, left, right, name⟩ := t
  cases kind <;> simp [Carries, Kind.item, Token.lexeme, Lexeme.symbol]

/-! ## Moves -/

/-- The tables of the calculator and its start state. -/
def driver : Driver :=
  ⟨entries.production, entries.action, entries.reduce, 0⟩

/-- The number of the terminal that is read next. -/
def nextTerminal (ks : List Kind) : Int :=
  (ks.head?.map Kind.terminal).getD Grammar.endIndex

/-- A loop is in a phase, with some tokens still to be read. Below what it has pushed lie the
symbols that it began on. -/
structure Stands (cls : ParserClass) (scanner : Option (List Value)) (bottom : List StackSymbol)
    (s : Phase × List Token) (c : Configuration) : Prop where
  parser : c.parser = .plain ⟨some cls, scanner, s.1.isDone⟩
  symbols : ∃ top, c.symbols = (bottom ++ top).map StackSymbol.toValue ∧
    List.Forall₂ Carries s.1.items top
  states : c.states = s.1.states
  input : c.input = s.2.map Token.lexeme

/-- The production table has the left side and the length of each production. -/
theorem productionEntries_results {i : Nat} {r : Production × Term} (hr : results[i]? = some r) :
    driver.production[2 * i]? = some r.1.rule.lhs.index ∧
      driver.production[2 * i + 1]? = some (r.1.length : Int) := by
  have hall : ∀ i < results.length,
      driver.production[2 * i]? = results[i]?.map (·.1.rule.lhs.index) ∧
        driver.production[2 * i + 1]? = results[i]?.map fun r => (r.1.length : Int) := by
    decide
  have hlt : i < results.length := (List.getElem?_eq_some_iff.mp hr).1
  have hi := hall i hlt
  rw [hr] at hi
  exact hi

/-- One move leads to a phase in which some tokens are still to be read. -/
def Leads (cls : ParserClass) (scanner : Option (List Value)) (bottom : List StackSymbol)
    (finish : Lexeme) (c : Configuration) (ph : Phase) (ks : List Kind) : Prop :=
  ∃ rest c', driver.move finish c = .next c' ∧ Stands cls scanner bottom (ph, rest) c' ∧
    rest.map Token.kind = ks

section Moves

variable {units : Cache.Tables} {cls : ParserClass} {scanner : Option (List Value)}
  {bottom : List StackSymbol} {finish : Lexeme} {ph ph' : Phase} {rest : List Token}
  {ks : List Kind} {c : Configuration}

theorem Stands.isDone_eq (hc : Stands cls scanner bottom (ph, rest) c) :
    c.parser.isDone = .ok (.bool ph.isDone) := by
  rw [hc.parser]
  rfl

theorem Stands.lookahead_terminal (hc : Stands cls scanner bottom (ph, rest) c)
    (hfinish : finish.terminal = Grammar.endIndex) :
    (c.lookahead finish).terminal = nextTerminal (rest.map Token.kind) := by
  rw [Configuration.lookahead, hc.input]
  cases rest with
  | nil => exact hfinish
  | cons t rest => rfl

/-- A shift puts what comes next, and a state, on the stacks. -/
theorem Stands.shift (hc : Stands cls scanner bottom (ph, rest) c) (target : Nat)
    (item : Option Int) (hread : rest.map Token.kind = ks)
    (hfinish : finish.terminal = Grammar.endIndex) (hdone : ph.isDone = false)
    (hentry : entryOnTop? driver.action ph.states (nextTerminal ks) =
      some ((target + 1 : Nat) : Int))
    (hitem : Carries item ((rest.map Token.lexeme).headD finish).symbol)
    (hstates : ph'.states = (target : Int) :: ph.states)
    (hitems : ph'.items = ph.items ++ [item]) (hdone' : ph'.isDone = false) :
    Leads cls scanner bottom finish c ph' ks.tail := by
  obtain ⟨top, htop, hcarries⟩ := hc.symbols
  have hmove : driver.move finish c = .next (c.shift finish target) := by
    refine move_of_shift (hc.isDone_eq.trans (by rw [hdone])) ?_
    rw [hc.states, hc.lookahead_terminal hfinish, hread]
    exact hentry
  refine ⟨rest.tail, _, hmove, ⟨?_, ⟨top ++ [(c.lookahead finish).symbol], ?_, ?_⟩, ?_, ?_⟩, ?_⟩
  · rw [Configuration.shift, hc.parser, hdone, hdone']
  · simp [Configuration.shift, htop]
  · rw [hitems]
    refine List.rel_append hcarries (.cons ?_ .nil)
    rw [Configuration.lookahead, hc.input]
    exact hitem
  · rw [Configuration.shift, hc.states, hstates]
  · rw [Configuration.shift, hc.input, List.map_tail]
  · rw [← hread, List.map_tail]

/-- A shift of a token. -/
theorem Stands.read {k : Kind} (hc : Stands cls scanner bottom (ph, rest) c) (target : Nat)
    (hread : rest.map Token.kind = k :: ks) (hfinish : finish.terminal = Grammar.endIndex)
    (hdone : ph.isDone = false)
    (hentry : entryOnTop? driver.action ph.states k.terminal = some ((target + 1 : Nat) : Int))
    (hstates : ph'.states = (target : Int) :: ph.states)
    (hitems : ph'.items = ph.items ++ [k.item]) (hdone' : ph'.isDone = false) :
    Leads cls scanner bottom finish c ph' ks := by
  refine hc.shift target k.item hread hfinish hdone hentry ?_ hstates hitems hdone'
  obtain ⟨t, rest, rfl, rfl, _⟩ := List.map_eq_cons_iff.mp hread
  exact carries_lexeme t

theorem exists_split {items kept : List (Option Int)} {top : List StackSymbol}
    (h : List.Forall₂ Carries (kept ++ items) top) :
    ∃ below above, top = below ++ above ∧ List.Forall₂ Carries kept below ∧
      List.Forall₂ Carries items above := by
  refine ⟨top.take kept.length, top.drop kept.length, (List.take_append_drop _ _).symm, ?_, ?_⟩
  · simpa using List.forall₂_take kept.length h
  · simpa using List.forall₂_drop kept.length h

/-- The symbols that are replaced are those on top. -/
theorem symbols_replace {stack above : List StackSymbol} {p : Parser} {s : StackSymbol}
    {target : Int} (h : c.symbols = (stack ++ above).map StackSymbol.toValue) :
    (c.replace p above.length s.toValue target).symbols =
      (stack ++ [s]).map StackSymbol.toValue := by
  have hkept : c.symbols.length - above.length = (stack.map StackSymbol.toValue).length := by
    simp [h]
  rw [Configuration.replace, hkept, h, List.map_append, List.take_left, List.map_append]
  rfl

/-- A reduction puts a symbol that carries what its term comes to in the place of those that the
production replaces. -/
theorem Stands.reduce {r : Production × Term} {replaced : List (Option Int)} {v target : Int}
    (hc : Stands cls scanner bottom (ph, rest) c) (i : Nat) (kept : List (Option Int))
    (hcls : (moduleOf (.ofUnits units)).plainClass? = some cls)
    (hread : rest.map Token.kind = ks) (hfinish : finish.terminal = Grammar.endIndex)
    (hdone : ph.isDone = false)
    (hentry : entryOnTop? driver.action ph.states (nextTerminal ks) = some (Int.negSucc i))
    (hr : results[i]? = some r) (hgives : Gives r.1 r.2 replaced v)
    (hitems : ph.items = kept ++ replaced)
    (hgoto : entryOnTop? driver.reduce (ph.states.drop replaced.length) r.1.rule.lhs.index =
      some target)
    (hstates : ph'.states = target :: ph.states.drop replaced.length)
    (hitems' : ph'.items = kept ++ [some v]) (hdone' : ph'.isDone = (i == 0)) :
    Leads cls scanner bottom finish c ph' ks := by
  obtain ⟨top, htop, hcarries⟩ := hc.symbols
  rw [hitems] at hcarries
  obtain ⟨below, above, rfl, hbelow, habove⟩ := exists_split hcarries
  rw [← List.append_assoc] at htop
  obtain ⟨s, hs, haction⟩ :=
    doAction_of_gives scanner (bottom ++ below) hcls hr hgives habove
  obtain ⟨hlhs, hlength⟩ := productionEntries_results hr
  rw [hgives.length] at hlength
  have hmove : driver.move finish c = .next (c.replace (.plain ⟨some cls, scanner, i == 0⟩)
      replaced.length s.toValue target) := by
    refine move_of_reduce (hc.isDone_eq.trans (by rw [hdone])) ?_ ?_ hlhs hlength ?_
    · rw [hc.states, hc.lookahead_terminal hfinish, hread]
      exact hentry
    · rw [hc.parser, htop]
      simp only [hdone]
      exact haction
    · rw [hc.states]
      exact hgoto
  refine ⟨rest, _, hmove, ⟨?_, ⟨below ++ [s], ?_, ?_⟩, ?_, hc.input⟩, hread⟩
  · rw [hdone']
    rfl
  · rw [habove.length_eq, symbols_replace htop, List.append_assoc]
  · rw [hitems']
    exact List.rel_append hbelow (.cons hs .nil)
  · rw [hstates, Configuration.replace, hc.states]

end Moves

/-! ## Steps -/

theorem nextTerminal_mem (ks : List Kind) : nextTerminal ks ∈ ([0, 2, 3, 4] : List Int) := by
  rcases ks with _ | ⟨_ | _ | _, ks⟩ <;>
    simp [nextTerminal, Kind.terminal, numberSymbol, plusSymbol, timesSymbol, Grammar.endIndex]

theorem nextTerminal_mem_of_ne {ks : List Kind} (h : ∀ ks', ks = .times :: ks' → False) :
    nextTerminal ks ∈ ([0, 2, 3] : List Int) := by
  rcases ks with _ | ⟨_ | _ | _, ks⟩
  case cons.times => exact (h ks rfl).elim
  all_goals simp [nextTerminal, Kind.terminal, numberSymbol, plusSymbol, Grammar.endIndex]

/-- The states in which the whole row reduces by one production. -/
theorem action_reduces : ∀ terminal ∈ ([0, 2, 3, 4] : List Int),
    entryAt? driver.action 3 terminal = some (Int.negSucc 4) ∧
      entryAt? driver.action 7 terminal = some (Int.negSucc 3) ∧
      entryAt? driver.action 8 terminal = some (Int.negSucc 0) := by
  decide

/-- The states behind a product, unless a factor follows. -/
theorem action_reduces_term : ∀ terminal ∈ ([0, 2, 3] : List Int),
    entryAt? driver.action 2 terminal = some (Int.negSucc 2) ∧
      entryAt? driver.action 5 terminal = some (Int.negSucc 1) := by
  decide

/-- Without a phase that comes next, the parser is done or the action table has no action. -/
theorem action_of_next?_eq_none {ph : Phase} {ks : List Kind} (h : ph.next? ks = none)
    (hdone : ph.isDone = false) :
    entryOnTop? driver.action ph.states (nextTerminal ks) = some 0 := by
  cases ph with
  | fresh e? => rcases ks with _ | ⟨_ | _ | _, ks⟩ <;> cases e? <;> first | rfl | cases h
  | factor => cases h
  | term e? t => rcases ks with _ | ⟨_ | _ | _, ks⟩ <;> cases h
  | times e? t => rcases ks with _ | ⟨_ | _ | _, ks⟩ <;> first | rfl | cases h
  | product => cases h
  | sum e => rcases ks with _ | ⟨_ | _ | _, ks⟩ <;> first | rfl | cases h
  | ended => cases h
  | done => cases hdone

/-- A loop ends as a sequence of tokens asks for: with a symbol that carries its value, or, if it
has none, without accepting. -/
def Answers (v : Verdict) : Option Int → Prop
  | some n => ∃ s, v = .accepted s.toValue ∧ Carries (some n) s
  | none => v = .rejected

section Steps

variable {units : Cache.Tables} {cls : ParserClass} {scanner : Option (List Value)}
  {bottom : List StackSymbol} {finish : Lexeme} {ph ph' : Phase} {rest : List Token}
  {ks : List Kind} {c : Configuration}

/-- One move leads from a phase to the next one. -/
theorem Stands.move_next? (hc : Stands cls scanner bottom (ph, rest) c)
    (hcls : (moduleOf (.ofUnits units)).plainClass? = some cls)
    (hfinish : finish.terminal = Grammar.endIndex)
    (hnext : ph.next? (rest.map Token.kind) = some (ph', ks)) :
    Leads cls scanner bottom finish c ph' ks := by
  -- The kinds of the tokens are named, so that the cases of `Phase.next?` split them.
  obtain ⟨read, hread⟩ : ∃ read, rest.map Token.kind = read := ⟨_, rfl⟩
  have hfirst := action_reduces _ (nextTerminal_mem read)
  rw [hread] at hnext
  revert hnext
  fun_cases Phase.next? ph read with
  | case1 e? n ks =>
      rintro ⟨⟩
      exact hc.read 3 hread hfinish rfl (by cases e? <;> rfl) rfl rfl rfl
  | case2 e? n =>
      rintro ⟨⟩
      exact hc.reduce 4 _ hcls hread hfinish rfl hfirst.1 rfl (gives_term n) rfl
        (by cases e? <;> rfl) rfl rfl rfl
  | case3 e? t ks =>
      rintro ⟨⟩
      exact hc.read 6 hread hfinish rfl (by cases e? <;> rfl) rfl
        (by simp [Phase.items, Kind.item]) rfl
  | case4 e? t _ htimes =>
      rintro ⟨⟩
      have hterm := action_reduces_term _ (nextTerminal_mem_of_ne htimes)
      cases e? with
      | none =>
          exact hc.reduce 2 [] hcls hread hfinish rfl hterm.1 rfl
            (by simpa using gives_expr t) rfl rfl rfl rfl rfl
      | some e =>
          exact hc.reduce 1 [] hcls hread hfinish rfl hterm.2 rfl
            (gives_plus e t) rfl rfl rfl rfl rfl
  | case5 e? t n ks =>
      rintro ⟨⟩
      exact hc.read 7 hread hfinish rfl rfl rfl (by simp [Phase.items, Kind.item]) rfl
  | case6 e? t n =>
      rintro ⟨⟩
      exact hc.reduce 3 _ hcls hread hfinish rfl hfirst.2.1 rfl (gives_times t n) rfl
        (by cases e? <;> rfl) rfl rfl rfl
  | case7 e ks =>
      rintro ⟨⟩
      exact hc.read 4 hread hfinish rfl rfl rfl rfl rfl
  | case8 e =>
      rintro ⟨⟩
      exact hc.shift 8 none hread hfinish rfl rfl trivial rfl rfl rfl
  | case9 e =>
      rintro ⟨⟩
      exact hc.reduce 0 [] hcls hread hfinish rfl hfirst.2.2 rfl (gives_whole e)
        rfl rfl rfl rfl rfl
  | case10 => rintro ⟨⟩

/-- Where no phase comes next, the loop ends as it should. -/
theorem Stands.move_last (hc : Stands cls scanner bottom (ph, rest) c)
    (hfinish : finish.terminal = Grammar.endIndex)
    (hnext : ph.next? (rest.map Token.kind) = none) :
    ∃ v, driver.move finish c = .halt v ∧ Answers v (ph.value? (rest.map Token.kind)) := by
  cases hdone : ph.isDone with
  | false =>
      have hmove : driver.move finish c = .halt .rejected := by
        refine move_of_no_action (hc.isDone_eq.trans (by rw [hdone])) ?_
        rw [hc.states, hc.lookahead_terminal hfinish]
        exact action_of_next?_eq_none hnext hdone
      have hvalue : ph.value? (rest.map Token.kind) = none := by
        simpa [hdone] using Phase.value?_of_next?_eq_none hnext
      exact ⟨_, hmove, by rw [hvalue]; rfl⟩
  | true =>
      obtain ⟨e, rfl⟩ : ∃ e, ph = .done e := by
        cases ph with
        | done e => exact ⟨e, rfl⟩
        | _ => cases hdone
      obtain ⟨top, htop, hcarries⟩ := hc.symbols
      obtain ⟨s, _, hs, hnil, rfl⟩ := List.forall₂_cons_left_iff.mp hcarries
      obtain rfl := List.forall₂_nil_left_iff.mp hnil
      have hmove : driver.move finish c = .halt (.accepted s.toValue) :=
        move_of_done (hc.isDone_eq.trans (by rw [hdone])) (by simp [htop])
      exact ⟨_, hmove, s, rfl, hs⟩

/-- **Runs of the calculator.** From every phase, the loop ends as what was read and what is still
to come ask for. -/
theorem Stands.endsIn (hc : Stands cls scanner bottom (ph, rest) c)
    (hcls : (moduleOf (.ofUnits units)).plainClass? = some cls)
    (hfinish : finish.terminal = Grammar.endIndex) :
    ∃ v, driver.EndsIn finish c v ∧ Answers v (ph.value? (rest.map Token.kind)) := by
  refine exists_endsIn (Stands cls scanner bottom)
    (fun s v => Answers v (s.1.value? (s.2.map Token.kind)))
    (fun s => s.1.left (s.2.map Token.kind)) ?_ (s := (ph, rest)) hc
  -- The phase and the tokens are what decreases; that the loop stands in the phase is kept.
  rintro ⟨ph, rest⟩ c hc
  cases hnext : ph.next? (rest.map Token.kind) with
  | none => exact .inl (hc.move_last hfinish hnext)
  | some following =>
      obtain ⟨ph', ks⟩ := following
      obtain ⟨rest', c', hmove, hc', rfl⟩ := hc.move_next? hcls hfinish hnext
      refine .inr ⟨(ph', rest'), c', hmove, hc', Phase.left_next? hnext, ?_⟩
      intro v hv
      rwa [← Phase.value?_next? hnext]

end Steps

/-! ## The parser -/

/-- The parser of the calculator hands out its tables and its start state. -/
theorem driverOf?_moduleOf {units : Cache.Tables} {cls : ParserClass}
    {scanner : Option (List Value)} (h : Cache.packAll entries = .ok units)
    (hload : (moduleOf (.ofUnits units)).load scanner = .ok (.plain ⟨some cls, scanner, false⟩))
    (hstart : cls.startState = 0) :
    driverOf? (.plain ⟨some cls, scanner, false⟩) = some driver := by
  obtain ⟨hproduction, haction, hreduce⟩ := holds_entries h
  have htables := (keepsTables_of_load hload).tables hproduction haction hreduce
  have hconstants : (Parser.plain ⟨some cls, scanner, false⟩).constants.1 =
      .ok (.int cls.startState :: _) := rfl
  rw [hstart] at hconstants
  exact driverOf?_eq_some (congrArg Prod.fst htables) hconstants

/-- Before anything is read, nothing is on the stacks but what was there, and the start state. -/
theorem stands_begin (cls : ParserClass) (scanner : Option (List Value))
    (bottom : List StackSymbol) (tokens : List Token) :
    Stands cls scanner bottom (.fresh none, tokens)
      (driver.begin (.plain ⟨some cls, scanner, false⟩) (bottom.map StackSymbol.toValue)
        (tokens.map Token.lexeme)) where
  parser := rfl
  symbols := ⟨[], by rw [List.append_nil]; rfl, .nil⟩
  states := rfl
  input := rfl

/-- **The calculator computes arithmetic.** Its module is emitted and loaded, and its parser hands
out its tables. Whatever tokens are read, a loop that shifts and reduces ends in one way: it
accepts if they spell a sum of products of numbers and rejects them otherwise, and the symbol that
it accepts carries the value of the sum. -/
theorem calculator_computes : ∃ (e : Emitted) (m : ParserModule), emitted? = some e ∧
    e.parser.module? = some m ∧ ∀ scanner, ∃ p d, m.load scanner = .ok p ∧ driverOf? p = some d ∧
      ∀ (bottom : List StackSymbol) (tokens : List Token) (value left right name : Value),
        ∃ v, (∀ w, d.EndsIn ⟨Grammar.endIndex, value, left, right, name⟩
            (d.begin p (bottom.map StackSymbol.toValue) (tokens.map Token.lexeme)) w ↔ w = v) ∧
          v ≠ .stuck ∧
          ((∃ s, v = .accepted s) ↔ ∃ products, Spells products (tokens.map Token.kind)) ∧
          ∀ products, Spells products (tokens.map Token.kind) →
            ∃ s : StackSymbol, v = .accepted s.toValue ∧ s.value = .int (sumValue products) := by
  obtain ⟨e, units, hemitted, hunits, hmodule⟩ := exists_module
  obtain ⟨cls, hcls, hstart, _, hload⟩ := load_moduleOf hunits
  refine ⟨e, _, hemitted, hmodule, fun scanner => ?_⟩
  refine ⟨_, _, hload scanner, driverOf?_moduleOf hunits (hload scanner) hstart, ?_⟩
  intro bottom tokens value left right name
  have hfinish : (⟨Grammar.endIndex, value, left, right, name⟩ : Lexeme).terminal =
      Grammar.endIndex := rfl
  obtain ⟨v, hends, hanswers⟩ := (stands_begin cls scanner bottom tokens).endsIn hcls hfinish
  have hvalue : (Phase.fresh none).value? (tokens.map Token.kind) =
      value? (tokens.map Token.kind) := rfl
  rw [hvalue] at hanswers
  refine ⟨v, fun w => ⟨fun hw => hw.unique hends, fun hw => hw ▸ hends⟩, ?_⟩
  cases hspelled : value? (tokens.map Token.kind) with
  | none =>
      rw [hspelled] at hanswers
      have hno : ¬ ∃ products, Spells products (tokens.map Token.kind) := by
        rintro ⟨products, hproducts⟩
        cases hspelled.symm.trans (value?_eq_some_iff.mpr ⟨products, hproducts, rfl⟩)
      obtain rfl : v = .rejected := hanswers
      refine ⟨nofun, ⟨?_, fun h => absurd h hno⟩, fun products h => absurd ⟨_, h⟩ hno⟩
      rintro ⟨s, hs⟩
      cases hs
  | some n =>
      rw [hspelled] at hanswers
      obtain ⟨s, rfl, hs⟩ := hanswers
      obtain ⟨products, hproducts, rfl⟩ := value?_eq_some_iff.mp hspelled
      refine ⟨nofun, ⟨fun _ => ⟨products, hproducts⟩, fun _ => ⟨_, rfl⟩⟩, ?_⟩
      intro others hothers
      have hsame := hspelled.symm.trans (value?_eq_some_iff.mpr ⟨others, hothers, rfl⟩)
      exact ⟨s, rfl, by rw [← Option.some.inj hsame]; exact hs⟩

end LalrBackend.Calculator
