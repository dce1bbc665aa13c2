import LalrBackend.Proofs.Code.Listed
import LalrBackend.Proofs.Emission.Loading
import LalrBackend.Proofs.Reduction.Dispatch
import LalrBackend.Calculator

/-!
# The module of the calculator

The grammar of the calculator and the tables that are compressed for it, written out. The module
that is emitted for them is plain: it is loaded as a parser of the class that it defines, whatever
scanner it is given.
-/

namespace LalrBackend.Calculator

open Reduction Code

/-! ## The grammar -/

def endSymbol : GrammarSymbol := ⟨.terminal, "EOF", 0, none⟩

def errorSymbol : GrammarSymbol := ⟨.terminal, "error", 1, none⟩

def numberSymbol : GrammarSymbol := ⟨.terminal, "NUMBER", 2, some "int"⟩

def plusSymbol : GrammarSymbol := ⟨.terminal, "PLUS", 3, none⟩

def timesSymbol : GrammarSymbol := ⟨.terminal, "TIMES", 4, none⟩

def startSymbol : GrammarSymbol := ⟨.nonTerminal, "$START", 0, some "int"⟩

def exprSymbol : GrammarSymbol := ⟨.nonTerminal, "expr", 1, some "int"⟩

def termSymbol : GrammarSymbol := ⟨.nonTerminal, "term", 2, some "int"⟩

/-- A production of its own, from its parts. -/
def ownProduction (index : Int) (lhs : GrammarSymbol) (parts : List Part) (code : String) :
    Production :=
  ⟨index, ⟨lhs, parts.map .part⟩, some code, none, .own⟩

def wholeProduction : Production :=
  ownProduction 0 startSymbol [⟨exprSymbol, some "e"⟩, ⟨endSymbol, none⟩] "RESULT = e"

def plusProduction : Production :=
  ownProduction 1 exprSymbol
    [⟨exprSymbol, some "e"⟩, ⟨plusSymbol, none⟩, ⟨termSymbol, some "t"⟩] "RESULT = e + t"

def exprProduction : Production :=
  ownProduction 2 exprSymbol [⟨termSymbol, some "t"⟩] "RESULT = t"

def timesProduction : Production :=
  ownProduction 3 termSymbol
    [⟨termSymbol, some "t"⟩, ⟨timesSymbol, none⟩, ⟨numberSymbol, some "n"⟩] "RESULT = t * n"

def termProduction : Production :=
  ownProduction 4 termSymbol [⟨numberSymbol, some "n"⟩] "RESULT = n"

/-- The grammar that the rules of the calculator come to. -/
def ruleGrammar : Grammar where
  terminals := [endSymbol, errorSymbol, numberSymbol, plusSymbol, timesSymbol].map (⟨·, none⟩)
  nonTerminals := [startSymbol, exprSymbol, termSymbol].map (⟨·, none⟩)
  productions :=
    [wholeProduction, plusProduction, exprProduction, timesProduction, termProduction]
  start := some 0
  names := [termSymbol, exprSymbol, startSymbol, timesSymbol, plusSymbol, numberSymbol,
    errorSymbol, endSymbol].map fun s => (s.name, s)

theorem grammar_eq : grammar = .ok ruleGrammar := rfl

/-! ## The tables -/

/-- The production table: for each production its left side and its length. -/
def productionEntries : List Int :=
  [0, 2, 1, 3, 1, 1, 2, 3, 2, 1]

/-- The action table: the offsets of nine rows, then the rows. -/
def actionEntries : List Int := [
  9, 13, 19, 23, 25, 29, 33, 37, 39,
  2, 4, -1, 0,
  0, 9, 3, 5, -1, 0,
  4, 7, -1, -3,
  -1, -5,
  2, 4, -1, 0,
  4, 7, -1, -2,
  2, 8, -1, 0,
  -1, -4,
  -1, -1]

/-- The goto table: the offsets of nine rows, then the rows. -/
def gotoEntries : List Int := [
  9, 15, 17, 19, 21, 25, 27, 29, 31,
  1, 1, 2, 2, -1, -1,
  -1, -1,
  -1, -1,
  -1, -1,
  2, 5, -1, -1,
  -1, -1,
  -1, -1,
  -1, -1,
  -1, -1]

/-- The tables that the calculator is emitted with. -/
def entries : Cache.Tables :=
  ⟨productionEntries, actionEntries, gotoEntries⟩

theorem productionTable_eq : ruleGrammar.productionTable = productionEntries := rfl

theorem compress_actionTable :
    actionTable.map (·.compress true) = .ok actionEntries := rfl

theorem compress_gotoTable : gotoTable.map (·.compress) = .ok gotoEntries := rfl

/-! ## The emission -/

/-- The module that the calculator comes to, with some packed tables. -/
def moduleOf (packed : Cache.PackedTables) : ParserModule :=
  .ofGrammar config ruleGrammar 0 packed

theorem emitted?_eq_some : ∃ (action : ActionTable) (reduce : GotoTable),
    tablesOf config ruleGrammar (.table action) (.table reduce) = entries ∧
      emitted? = some ⟨emitSymbols config ruleGrammar {},
        emitParser config ruleGrammar (.table action) (.table reduce) {} .fresh⟩ := by
  have haction := compress_actionTable
  have hreduce := compress_gotoTable
  cases hactions : actionTable with
  | error e => rw [hactions] at haction; cases haction
  | ok action =>
      cases hgotos : gotoTable with
      | error e => rw [hgotos] at hreduce; cases hreduce
      | ok reduce =>
          rw [hactions] at haction
          rw [hgotos] at hreduce
          refine ⟨action, reduce, ?_, ?_⟩
          · rw [tablesOf, productionTable_eq]
            exact congrArg₂ (Cache.Tables.mk productionEntries) (Except.ok.inj haction)
              (Except.ok.inj hreduce)
          · rw [emitted?, grammar_eq, hactions, hgotos]

theorem packAll_entries : (Cache.packAll entries).isOk = true := rfl

theorem exists_module : ∃ (e : Emitted) (units : Cache.Tables), emitted? = some e ∧
    Cache.packAll entries = .ok units ∧
    e.parser.module? = some (moduleOf (.ofUnits units)) := by
  obtain ⟨action, reduce, htables, hemitted⟩ := emitted?_eq_some
  cases hunits : Cache.packAll entries with
  | error e =>
      have hpacks := packAll_entries
      rw [hunits] at hpacks
      cases hpacks
  | ok units =>
      refine ⟨_, units, hemitted, rfl, ?_⟩
      have hpack : (pack config .fresh (tablesOf config ruleGrammar (.table action)
          (.table reduce))).result = .ok (.ofUnits units) := by
        rw [htables]
        show (packPlain .fresh entries).result = _
        rw [packPlain, hunits]
      have hstart : checkedStart ruleGrammar = .ok wholeProduction := rfl
      show (emitParser config ruleGrammar (.table action) (.table reduce) {} .fresh).module? = _
      rw [emitParser_of_packed hstart hpack]
      rfl

/-- The module is written to its end, whatever its tables are. -/
theorem moduleOf_written (units : Cache.Tables) :
    (moduleOf (.ofUnits units)).draft.failure = none := rfl

/-! ## The class -/

/-- The name of the class means nothing else in the module. -/
theorem parserClass_plain :
    isPlainName "CalcParser" = true ∧ ParserModule.isTaken "CalcParser" = false := by
  have hplain : isPlainName "CalcParser" = true ∧ "CalcParser".startsWith "_" = false := by
    decide +kernel
  have hplace : (builtinFamilies.map (Family.has "CalcParser")).findIdx? id = none := by
    unfold builtinFamilies languageContents builtinPath
    simp only [List.lookup_cons, String.reduceBEq, Option.getD_some, List.map_cons, List.map_nil,
      Family.has, List.any_cons, List.any_nil]
    repeat rw [String.toList_ofList]
    decide +kernel
  have hmember : moduleMember? builtinPath "CalcParser" = none :=
    moduleMember?_of_unlisted hplace hplain.2 (by decide) (by decide)
  have hvalue : builtinValue? "CalcParser" = none := by
    rw [builtinValue?, hmember]
    rfl
  have hown : "CalcParser" ∉ ParserModule.ownNames := by decide
  refine ⟨hplain.1, ?_⟩
  rw [ParserModule.isTaken, hvalue]
  simp [hown]

theorem hasPlainName_moduleOf (packed : Cache.PackedTables) :
    (moduleOf packed).hasPlainName = true := by
  show (isPlainName "CalcParser" && !ParserModule.isTaken "CalcParser") = true
  rw [parserClass_plain.1, parserClass_plain.2]
  rfl

theorem exists_mapM_eq_some {α β : Type} {f : α → Option β} {as : List α}
    (h : ∀ a ∈ as, (f a).isSome = true) : ∃ bs, as.mapM f = some bs := by
  induction as with
  | nil => exact ⟨[], rfl⟩
  | cons a as ih =>
      obtain ⟨b, hb⟩ := Option.isSome_iff_exists.mp (h a List.mem_cons_self)
      obtain ⟨bs, hbs⟩ := ih fun a' ha' => h a' (List.mem_cons_of_mem _ ha')
      exact ⟨b :: bs, by rw [List.mapM_cons, hb, hbs]; rfl⟩

/-- The methods of the module. -/
def methods : List ActionMethod :=
  ParserModule.actionMethods config ruleGrammar.start ruleGrammar.productions

theorem actions_moduleOf (packed : Cache.PackedTables) : (moduleOf packed).actions = methods :=
  rfl

/-- Nothing in a method depends on the tables. -/
theorem methodOf?_moduleOf (packed : Cache.PackedTables) :
    (moduleOf packed).methodOf? = (moduleOf ⟨[], .ok [], .ok [], .ok []⟩).methodOf? := rfl

/-- Each method is plain, and so are the texts that it has from the grammar. -/
theorem methods_plain : ∀ a ∈ methods,
    ((moduleOf ⟨[], .ok [], .ok [], .ok []⟩).methodOf? a).isSome = true ∧
      ∀ s ∈ a.texts, IsPlainAscii s.toList := by
  decide +kernel

theorem exists_plainClass (packed : Cache.PackedTables) : ∃ cls,
    (moduleOf packed).plainClass? = some cls ∧ cls.takesScanner = true ∧ cls.startState = 0 ∧
      cls.startProduction = 0 := by
  obtain ⟨plain, hmethods⟩ := exists_mapM_eq_some fun a ha => (methods_plain a ha).1
  rw [ParserModule.plainClass?, hasPlainName_moduleOf, actions_moduleOf, methodOf?_moduleOf,
    hmethods]
  exact ⟨_, rfl, rfl, rfl, rfl⟩

/-! ## Loading -/

theorem holds_entries {units : Cache.Tables} (h : Cache.packAll entries = .ok units) :
    (moduleOf (.ofUnits units)).productionTable.Holds entries.production ∧
      (moduleOf (.ofUnits units)).actionTable.Holds entries.action ∧
      (moduleOf (.ofUnits units)).reduceTable.Holds entries.reduce :=
  holds_of_packAll config ruleGrammar 0 h (by decide) (by decide) (by decide)

theorem isClean_moduleOf {units : Cache.Tables} (h : Cache.packAll entries = .ok units) :
    ParserModule.isClean (moduleOf (.ofUnits units)).draft.text = true := by
  obtain ⟨hproduction, haction, hreduce⟩ := holds_entries h
  have hname : IsPlainAscii "CalcParser".toList := by decide
  exact ParserModule.isClean_of_holds hproduction haction hreduce rfl rfl hname
    fun a ha => (methods_plain a ha).2

/-- The calculator is loaded as a parser of the class of its module, whatever scanner it is
given. -/
theorem load_moduleOf {units : Cache.Tables} (h : Cache.packAll entries = .ok units) :
    ∃ cls, (moduleOf (.ofUnits units)).plainClass? = some cls ∧ cls.startState = 0 ∧
      cls.startProduction = 0 ∧ ∀ scanner,
        (moduleOf (.ofUnits units)).load scanner = .ok (.plain ⟨some cls, scanner, false⟩) := by
  obtain ⟨cls, hcls, htakes, hstate, hproduction⟩ := exists_plainClass (.ofUnits units)
  obtain ⟨hp, ha, hr⟩ := holds_entries h
  have hreadable : (moduleOf (.ofUnits units)).isReadable = true :=
    ParserModule.isReadable_of_holds hp ha hr (by decide)
  exact ⟨cls, hcls, hstate, hproduction,
    ParserModule.load_eq_plain (moduleOf_written units) hcls rfl (isClean_moduleOf h) hreadable
      htakes⟩

end LalrBackend.Calculator
