import LalrBackend.Parser
import LalrBackend.Proofs.Table.Layout

/-!
# A loop that shifts and reduces

The loop that runs a parser belongs to whoever uses it. Here is the usual one: it asks the parser
for its tables and its start state, and then shifts and reduces until the parser says that it is
done or the action table has no action. A table is read by scans of the rows; an action is zero for
none, the number after a state for a shift to it, and minus the number after a production for a
reduction by it. When all symbols are read, the end of input is read again and again.
-/

namespace LalrBackend.Parsing

open Table

/-- A symbol as a scanner gives it: the number of its terminal, and what else it carries. -/
structure Lexeme where
  terminal : Int
  value : Value
  left : Value
  right : Value
  name : Value

/-- The symbol that is pushed for a lexeme. -/
def Lexeme.symbol (l : Lexeme) : StackSymbol :=
  ⟨.int l.terminal, l.value, l.left, l.right, l.name⟩

/-- What a loop asks a parser for before it begins. -/
structure Driver where
  production : List Int
  action : List Int
  reduce : List Int
  start : Int

/-- The integer that a value is. -/
def plainInt? : Value → Option Int
  | .int n => some n
  | _ => none

/-- The entries of a table that a parser hands out. -/
def entries? : Value → Option (List Int)
  | .list items => items.mapM plainInt?
  | _ => none

/-- The tables and the start state of a parser. -/
def driverOf? (p : Parser) : Option Driver :=
  match p.tables.1, p.constants.1 with
  | .ok [production, action, reduce], .ok (start :: _) => do
    return {
      production := ← entries? production
      action := ← entries? action
      reduce := ← entries? reduce
      start := ← plainInt? start }
  | _, _ => none

/-- The entry of a table for a state and a symbol, of which neither may be negative. -/
def entryAt? (table : List Int) (state symbol : Int) : Option Int :=
  match state, symbol with
  | .ofNat st, .ofNat t => lookupEntry table st t
  | _, _ => none

/-- Where a loop stands: the parser, the symbols from the bottom of their stack to its top, the
states from the top of theirs, and the lexemes that are still to be read. -/
structure Configuration where
  parser : Parser
  symbols : List Value
  states : List Int
  input : List Lexeme

/-- How a loop ends. It is stuck where a parser and its tables do not fit together. -/
inductive Verdict where
  | accepted (symbol : Value)
  | rejected
  | stuck

/-- What one move of a loop comes to. -/
inductive Move where
  | next (c : Configuration)
  | halt (v : Verdict)

/-- Where a loop begins, on whatever symbols lie on the stack already. -/
def Driver.begin (d : Driver) (p : Parser) (bottom : List Value) (input : List Lexeme) :
    Configuration :=
  ⟨p, bottom, [d.start], input⟩

/-- The lexeme to be read next. -/
def Configuration.lookahead (finish : Lexeme) (c : Configuration) : Lexeme :=
  c.input.headD finish

/-- Pushes the lexeme that is read, and a state. -/
def Configuration.shift (finish : Lexeme) (c : Configuration) (target : Int) : Configuration where
  parser := c.parser
  symbols := c.symbols ++ [(c.lookahead finish).symbol.toValue]
  states := target :: c.states
  input := c.input.tail

/-- Puts a symbol and a state in the place of some others. -/
def Configuration.replace (c : Configuration) (p : Parser) (count : Nat) (symbol : Value)
    (target : Int) : Configuration where
  parser := p
  symbols := c.symbols.take (c.symbols.length - count) ++ [symbol]
  states := target :: c.states.drop count
  input := c.input

/-- The entry of a table in the row of the state on top. -/
def entryOnTop? (table : List Int) (states : List Int) (symbol : Int) : Option Int :=
  states.head?.bind (entryAt? table · symbol)

/-- Reduces by a production: the parser makes the symbol, and the goto table has the state. -/
def Driver.reduceBy (d : Driver) (c : Configuration) (production : Nat) : Move :=
  match c.parser.doAction (.int production) c.symbols, d.production[2 * production]?,
    d.production[2 * production + 1]? with
  | (.ok symbol, p), some lhs, some count =>
    match entryOnTop? d.reduce (c.states.drop count.toNat) lhs with
    | some target => .next (c.replace p count.toNat symbol target)
    | none => .halt .stuck
  | _, _, _ => .halt .stuck

/-- One move: it ends with the symbol on top when the parser is done, and otherwise does what the
action table says. -/
def Driver.move (d : Driver) (finish : Lexeme) (c : Configuration) : Move :=
  match c.parser.isDone with
  | .error _ => .halt .stuck
  | .ok done =>
    if done.isTrue then .halt ((c.symbols.getLast?.map .accepted).getD .stuck)
    else
      match entryOnTop? d.action c.states (c.lookahead finish).terminal with
      | none => .halt .stuck
      | some 0 => .halt .rejected
      | some (.ofNat (target + 1)) => .next (c.shift finish target)
      | some (.negSucc production) => d.reduceBy c production

/-- Makes some moves, unless the loop ends before. -/
def Driver.run (d : Driver) (finish : Lexeme) : Nat → Configuration → Option Verdict
  | 0, _ => none
  | moves + 1, c =>
    match d.move finish c with
    | .next c => d.run finish moves c
    | .halt v => some v

/-- A loop ends in a verdict. -/
def Driver.EndsIn (d : Driver) (finish : Lexeme) (c : Configuration) (v : Verdict) : Prop :=
  ∃ moves, d.run finish moves c = some v

/-! ## What a parser hands out -/

theorem mapM_plainInt? (entries : List Int) :
    (entries.map Value.int).mapM plainInt? = some entries := by
  induction entries with
  | nil => rfl
  | cons entry entries ih =>
      rw [List.map_cons, List.mapM_cons, ih]
      rfl

theorem driverOf?_eq_some {p : Parser} {production action reduce : List Int} {start : Int}
    {others : List Value}
    (htables : p.tables.1 = .ok ([production, action, reduce].map Parser.ofTable))
    (hconstants : p.constants.1 = .ok (.int start :: others)) :
    driverOf? p = some ⟨production, action, reduce, start⟩ := by
  simp only [driverOf?, htables, hconstants, List.map_cons, List.map_nil, Parser.ofTable,
    entries?, mapM_plainInt?]
  rfl

/-! ## Moves -/

section Moves

variable {d : Driver} {finish : Lexeme} {c c' : Configuration} {p : Parser} {v w : Verdict}
  {symbol : Value} {target : Nat} {production : Nat} {lhs count goto : Int}

theorem move_of_done (hdone : c.parser.isDone = .ok (.bool true))
    (htop : c.symbols.getLast? = some symbol) : d.move finish c = .halt (.accepted symbol) := by
  simp only [Driver.move, hdone, Value.isTrue, if_true, htop, Option.map_some, Option.getD_some]

theorem move_of_no_action (hdone : c.parser.isDone = .ok (.bool false))
    (hentry : entryOnTop? d.action c.states (c.lookahead finish).terminal = some 0) :
    d.move finish c = .halt .rejected := by
  simp only [Driver.move, hdone, Value.isTrue, Bool.false_eq_true, if_false, hentry]

theorem move_of_shift (hdone : c.parser.isDone = .ok (.bool false))
    (hentry : entryOnTop? d.action c.states (c.lookahead finish).terminal =
      some ((target + 1 : Nat) : Int)) :
    d.move finish c = .next (c.shift finish target) := by
  simp only [Driver.move, hdone, Value.isTrue, Bool.false_eq_true, if_false, hentry]

theorem move_of_reduce (hdone : c.parser.isDone = .ok (.bool false))
    (hentry : entryOnTop? d.action c.states (c.lookahead finish).terminal =
      some (Int.negSucc production))
    (haction : c.parser.doAction (.int production) c.symbols = (.ok symbol, p))
    (hlhs : d.production[2 * production]? = some lhs)
    (hcount : d.production[2 * production + 1]? = some count)
    (hgoto : entryOnTop? d.reduce (c.states.drop count.toNat) lhs = some goto) :
    d.move finish c = .next (c.replace p count.toNat symbol goto) := by
  simp only [Driver.move, hdone, Value.isTrue, Bool.false_eq_true, if_false, hentry,
    Driver.reduceBy, haction, hlhs, hcount, hgoto]

/-! ## Runs -/

theorem Driver.EndsIn.of_halt (h : d.move finish c = .halt v) : d.EndsIn finish c v :=
  ⟨1, by rw [Driver.run, h]⟩

theorem Driver.EndsIn.of_next (h : d.move finish c = .next c') (hrest : d.EndsIn finish c' v) :
    d.EndsIn finish c v := by
  obtain ⟨moves, hrun⟩ := hrest
  exact ⟨moves + 1, by rw [Driver.run, h]; exact hrun⟩

/-- More moves do not change how a loop ends. -/
theorem run_add {moves : Nat} (more : Nat) (h : d.run finish moves c = some v) :
    d.run finish (moves + more) c = some v := by
  induction moves generalizing c with
  | zero => cases h
  | succ moves ih =>
      rw [Nat.add_right_comm, Driver.run]
      rw [Driver.run] at h
      cases hmove : d.move finish c with
      | halt w =>
          rw [hmove] at h
          exact h
      | next c' =>
          rw [hmove] at h
          exact ih h

/-- A loop ends in one way only. -/
theorem Driver.EndsIn.unique (hv : d.EndsIn finish c v) (hw : d.EndsIn finish c w) : v = w := by
  obtain ⟨m, hm⟩ := hv
  obtain ⟨n, hn⟩ := hw
  have hleft := run_add n hm
  have hright := run_add m hn
  rw [Nat.add_comm, hleft] at hright
  exact Option.some.inj hright

/-- A loop ends as it should if every move of it either does so, or leads on with less left to
do. -/
theorem exists_endsIn {State : Type} (Stands : State → Configuration → Prop)
    (Ends : State → Verdict → Prop) (left : State → Nat)
    (hstep : ∀ s c, Stands s c → (∃ v, d.move finish c = .halt v ∧ Ends s v) ∨
      ∃ s' c', d.move finish c = .next c' ∧ Stands s' c' ∧ left s' < left s ∧
        ∀ v, Ends s' v → Ends s v)
    {s : State} (hc : Stands s c) : ∃ v, d.EndsIn finish c v ∧ Ends s v := by
  induction hn : left s using Nat.strongRecOn generalizing s c with
  | ind n ih =>
      rcases hstep s c hc with ⟨v, hmove, hv⟩ | ⟨s', c', hmove, hc', hless, hends⟩
      · exact ⟨v, .of_halt hmove, hv⟩
      · obtain ⟨v, hrun, hv⟩ := ih (left s') (hn ▸ hless) hc' rfl
        exact ⟨v, .of_next hmove hrun, hends v hv⟩

end Moves

end LalrBackend.Parsing
