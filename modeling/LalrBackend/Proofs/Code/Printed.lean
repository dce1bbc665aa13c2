import LalrBackend.Module.Printer
import LalrBackend.Proofs.Code.Tokens

/-!
# Generated functions as they are printed

The functions that take an action number to the method of a production, and the one that makes
the table of these methods, as lines of a module and as the tokens of these lines.
-/

namespace LalrBackend.Code

open Reduction (internal methodName)

deriving instance DecidableEq for Lexer

/-! ## Lines -/

/-- The text of lines. -/
def codeOf (lines : List String) : String :=
  String.join (lines.map (· ++ "\n"))

/-- The function of a parser that hands an action number on. -/
def forwardLines : List String := [
  step ++ "def do_action(self, act_num, stack):",
  docLine 2 "Invoke a user supplied parse action.",
  margin 2 ++ "return self.action_obj." ++ internal "do_action" ++ "(act_num, self, stack)"]

/-- The function of a parser that makes its actions. -/
def initLines : List String := [
  step ++ "def init_actions(self):",
  docLine 2 "Action encapsulation object initializer.",
  margin 2 ++ "self.action_obj = " ++ internal "actions" ++ "(self)"]

/-- The function of the actions that runs the method of an action number. -/
def dispatchLines (genericStack : Bool) : List String := [
  step ++ "def " ++ internal "do_action" ++ "(self, " ++ internal "act_num" ++ ", " ++
    internal "parser" ++ ", " ++ internal "stack" ++ ": " ++
    (if genericStack then "List[Symbol]" else "list") ++ ") -> Symbol:",
  docLine 2 "Method with the actual generated action code.",
  margin 2 ++ "action = None",
  margin 2 ++ "if type(" ++ internal "act_num" ++ ") is int:",
  margin 3 ++ "action = self." ++ internal "dispatch" ++ ".get(" ++ internal "act_num" ++ ")",
  margin 2 ++ "if action is None:",
  margin 3 ++ "raise ParseTableError(",
  margin 4 ++ "\"Invalid action number found in internal parse table\", " ++
    internal "act_num" ++ ")",
  margin 2 ++ "# Stack size for peeking into the stack",
  margin 2 ++ "return action(" ++ internal "parser" ++ ", " ++ internal "stack" ++ ", len(" ++
    internal "stack" ++ "))"]

/-- The function that starts the actions. -/
def startLines (indices : List Int) : List String :=
  [step ++ "def __init__(self, parser):", margin 2 ++ "self.parser = parser",
    margin 2 ++ "self." ++ internal "dispatch" ++ " = \x7b"] ++
  indices.map (fun i => margin 3 ++ Text.decimal i ++ ": self." ++ methodName i ++ ",") ++
  [margin 2 ++ "\x7d"]

/-- Where these functions stand in the class of actions. -/
theorem actionsOpening_eq (c : Config) (indices : List Int) :
    ParserModule.actionsOpening c indices =
      ["", "", "class " ++ internal "actions" ++ ":",
        docLine 1 "Generated class to encapsulate user supplied action code."] ++
      snippetLines c.actionCode [""] 1 ++
      "" :: startLines indices ++ "" :: dispatchLines c.genericStack := by
  simp [ParserModule.actionsOpening, startLines, dispatchLines]

/-- Where the functions of the parser stand in its class. -/
theorem accessorLines_eq (c : Config) (startProduction : Int) :
    ParserModule.accessorLines c startProduction =
      "" :: initLines ++
      "" :: forwardLines ++
      returning "start_state" (Text.decimal c.startState) ++
      returning "start_production" (Text.decimal startProduction) ++
      returning "EOF_sym" (Text.decimal Grammar.endIndex) ++
      returning "error_sym" (Text.decimal Grammar.errorIndex) := by
  simp [ParserModule.accessorLines, initLines, forwardLines]

/-! ## Tokens -/

theorem toList_codeOf (lines : List String) :
    (codeOf lines).toList = lines.flatMap fun l => l.toList ++ ['\n'] := by
  rw [codeOf, String.toList_join, List.flatMap_map]
  simp

theorem plainLineEnds_eq_self {cs : List Char} (h : '\r' ∉ cs) : plainLineEnds cs = cs := by
  induction cs with
  | nil => rfl
  | cons c cs ih =>
      obtain ⟨hc, hcs⟩ := not_or.mp (mt List.mem_cons.mpr h)
      rw [plainLineEnds, ih hcs]
      all_goals
        intros
        exact hc (Eq.symm (by assumption))

/-- The logical lines of a text without carriage returns. -/
theorem linesOf_codeOf {lines : List String} {cs : List Char}
    (h : (lines.flatMap fun l => l.toList ++ ['\n']) = cs) (hcs : '\r' ∉ cs) :
    linesOf (codeOf lines) = (cs.foldl Lexer.step Lexer.start).finish.lines.reverse := by
  rw [linesOf, toList_codeOf, h, plainLineEnds_eq_self hcs]

/-- The line of a parameter list and its types. -/
def dispatchHeader (types : List Token) : Line :=
  ⟨4, 4, [.keyword "def", .name "CUP_do_action", .mark "(", .name "self", .mark ",",
    .name "CUP_act_num", .mark ",", .name "CUP_parser", .mark ",", .name "CUP_stack", .mark ":"] ++
    types ++ [.mark ")", .mark "->", .name "Symbol", .mark ":"]⟩

theorem linesOf_forwardLines : linesOf (codeOf forwardLines) = [
    ⟨4, 4, [.keyword "def", .name "do_action", .mark "(", .name "self", .mark ",",
      .name "act_num", .mark ",", .name "stack", .mark ")", .mark ":"]⟩,
    ⟨8, 8, [.constant (.text "Invoke a user supplied parse action.")]⟩,
    ⟨8, 8, [.keyword "return", .name "self", .mark ".", .name "action_obj", .mark ".",
      .name "CUP_do_action", .mark "(", .name "act_num", .mark ",", .name "self", .mark ",",
      .name "stack", .mark ")"]⟩] := by
  rw [linesOf, toList_codeOf, forwardLines]
  simp only [List.flatMap_cons, List.flatMap_nil, String.toList_append, docLine, margin, step,
    internal, String.join, List.replicate, List.foldl]
  repeat rw [String.toList_ofList]
  decide +kernel

theorem linesOf_initLines : linesOf (codeOf initLines) = [
    ⟨4, 4, [.keyword "def", .name "init_actions", .mark "(", .name "self", .mark ")", .mark ":"]⟩,
    ⟨8, 8, [.constant (.text "Action encapsulation object initializer.")]⟩,
    ⟨8, 8, [.name "self", .mark ".", .name "action_obj", .mark "=", .name "CUP_actions", .mark "(",
      .name "self", .mark ")"]⟩] := by
  rw [linesOf, toList_codeOf, initLines]
  simp only [List.flatMap_cons, List.flatMap_nil, String.toList_append, docLine, margin, step,
    internal, String.join, List.replicate, List.foldl]
  repeat rw [String.toList_ofList]
  decide +kernel

/-- The lines of the function that starts a parser. -/
theorem linesOf_constructorLines (c : Config) : linesOf (codeOf (ParserModule.constructorLines c)) =
    if c.suppressScanner then [
      ⟨4, 4, [.keyword "def", .name "__init__", .mark "(", .name "self", .mark ")", .mark ":"]⟩,
      ⟨8, 8, [.constant (.text "Default constructor.")]⟩,
      ⟨8, 8, [.name "super", .mark "(", .mark ")", .mark ".", .name "__init__", .mark "(",
        .mark ")"]⟩]
    else [
      ⟨4, 4, [.keyword "def", .name "__init__", .mark "(", .name "self", .mark ",",
        .name "scanner", .mark "=", .keyword "None", .mark ",", .name "symbol_factory", .mark "=",
        .keyword "None", .mark ")", .mark ":"]⟩,
      ⟨8, 8, [.constant (.text "Default constructor, optionally setting the default scanner.")]⟩,
      ⟨8, 8, [.name "super", .mark "(", .mark ")", .mark ".", .name "__init__", .mark "(",
        .name "scanner", .mark ",", .name "symbol_factory", .mark ")"]⟩] := by
  cases hc : c.suppressScanner <;>
  · rw [linesOf, toList_codeOf, ParserModule.constructorLines, hc]
    simp only [List.flatMap_cons, List.flatMap_nil, String.toList_append, docLine, margin, step,
      String.join, List.replicate, List.foldl, if_true, if_false, Bool.false_eq_true]
    repeat rw [String.toList_ofList]
    decide +kernel

theorem linesOf_dispatchLines (genericStack : Bool) :
    linesOf (codeOf (dispatchLines genericStack)) = [
      dispatchHeader (if genericStack then [.name "List", .mark "[", .name "Symbol", .mark "]"]
        else [.name "list"]),
      ⟨8, 8, [.constant (.text "Method with the actual generated action code.")]⟩,
      ⟨8, 8, [.name "action", .mark "=", .keyword "None"]⟩,
      ⟨8, 8, [.keyword "if", .name "type", .mark "(", .name "CUP_act_num", .mark ")",
        .keyword "is", .name "int", .mark ":"]⟩,
      ⟨12, 12, [.name "action", .mark "=", .name "self", .mark ".", .name "CUP_dispatch",
        .mark ".", .name "get", .mark "(", .name "CUP_act_num", .mark ")"]⟩,
      ⟨8, 8, [.keyword "if", .name "action", .keyword "is", .keyword "None", .mark ":"]⟩,
      ⟨12, 12, [.keyword "raise", .name "ParseTableError", .mark "(",
        .constant (.text "Invalid action number found in internal parse table"), .mark ",",
        .name "CUP_act_num", .mark ")"]⟩,
      ⟨8, 8, [.keyword "return", .name "action", .mark "(", .name "CUP_parser", .mark ",",
        .name "CUP_stack", .mark ",", .name "len", .mark "(", .name "CUP_stack", .mark ")",
        .mark ")"]⟩] := by
  cases genericStack <;>
  · rw [linesOf, toList_codeOf, dispatchLines]
    simp only [List.flatMap_cons, List.flatMap_nil, String.toList_append, docLine, margin, step,
      internal, String.join, List.replicate, List.foldl, if_true, if_false, Bool.false_eq_true]
    repeat rw [String.toList_ofList]
    decide +kernel

/-! ## The table of the methods -/

/-- The characters before the table. -/
def startChars : List Char :=
  (codeOf ((startLines []).take 3)).toList

/-- The lines before the line of the table. -/
def startHeader : List Line := [
  ⟨4, 4, [.keyword "def", .name "__init__", .mark "(", .name "self", .mark ",",
    .name "parser", .mark ")", .mark ":"]⟩,
  ⟨8, 8, [.name "self", .mark ".", .name "parser", .mark "=", .name "parser"]⟩]

/-- The lexer before the first entry of the table. -/
def atTable : Lexer :=
  ⟨startHeader.reverse, [.mark "\x7b", .mark "=", .name "CUP_dispatch", .mark ".", .name "self"],
    8, 8, none, ['\x7d'], .between⟩

theorem foldl_startChars : startChars.foldl Lexer.step Lexer.start = atTable := by
  rw [startChars, toList_codeOf, startLines, List.map_nil]
  simp only [List.take, List.cons_append, List.nil_append, List.flatMap_cons, List.flatMap_nil,
    String.toList_append, margin, step, internal, String.join, List.replicate, List.foldl]
  repeat rw [String.toList_ofList]
  decide +kernel

theorem toList_entry (n : Nat) :
    (margin 3 ++ Text.decimal (n : Int) ++ ": self." ++ methodName n ++ ",").toList ++ ['\n'] =
      entryChars n := by
  have hdecimal : Text.decimal (n : Int) = String.ofList (Nat.toDigits 10 n) := rfl
  have hmargin : (margin 3).toList = List.replicate 12 ' ' := by decide
  rw [methodName_natCast, hdecimal]
  simp only [String.toList_append, String.toList_ofList, hmargin, entryChars, accessChars,
    List.append_assoc, List.cons_append, List.nil_append]
  repeat rw [String.toList_ofList]
  simp

theorem toList_startLines (ns : List Nat) :
    ((startLines (ns.map Int.ofNat)).flatMap fun l => l.toList ++ ['\n']) =
      startChars ++ (ns.flatMap entryChars ++ (List.replicate 8 ' ' ++ ['\x7d', '\n'])) := by
  have hend : (margin 2 ++ "\x7d").toList = List.replicate 8 ' ' ++ ['\x7d'] := by decide
  have hentries : ((ns.map Int.ofNat).map fun i =>
      margin 3 ++ Text.decimal i ++ ": self." ++ methodName i ++ ",").flatMap
        (fun l => l.toList ++ ['\n']) = ns.flatMap entryChars := by
    rw [List.map_map, List.flatMap_map]
    exact congrArg (ns.flatMap ·) (funext toList_entry)
  rw [startLines, List.flatMap_append, List.flatMap_append, hentries, startChars, toList_codeOf]
  simp [startLines, hend]

theorem foldl_entries {l : Lexer} {ns : List Nat} (hmode : l.mode = .between)
    (hopened : l.opened.isEmpty = false)
    (hns : ∀ n ∈ ns, (Nat.toDigits 10 n).length ≤ Text.mostDigits) :
    (ns.flatMap entryChars).foldl Lexer.step l = l.pushAll (ns.flatMap entryTokens) := by
  induction ns generalizing l with
  | nil =>
      obtain ⟨lines, tokens, column, narrowColumn, fixed, opened, mode⟩ := l
      cases hmode
      rfl
  | cons n ns ih =>
      rw [List.flatMap_cons, List.foldl_append,
        Lexer.foldl_entryChars hmode hopened (hns n List.mem_cons_self),
        ih (l := l.pushAll (entryTokens n)) rfl hopened
          fun k hk => hns k (List.mem_cons_of_mem n hk)]
      simp [Lexer.pushAll]

/-- The line of the table. -/
def tableLine (ns : List Nat) : Line :=
  ⟨8, 8, [.name "self", .mark ".", .name "CUP_dispatch", .mark "=", .mark "\x7b"] ++
    ns.flatMap entryTokens ++ [.mark "\x7d"]⟩

theorem return_not_mem_startChars : '\r' ∉ startChars := by
  rw [startChars, toList_codeOf, startLines, List.map_nil]
  simp only [List.take, List.cons_append, List.nil_append, List.flatMap_cons,
    List.flatMap_nil, String.toList_append, margin, step, internal, String.join,
    List.replicate, List.foldl]
  repeat rw [String.toList_ofList]
  decide

theorem return_not_mem_entryChars (n : Nat) : '\r' ∉ entryChars n := by
  have hword : isWordPart '\r' = false := rfl
  have hdigit : '\r' ∉ Nat.toDigits 10 n := fun h => by
    rw [isWordPart_of_isDigit (isDigit_of_mem_toDigits h)] at hword
    cases hword
  have hmethod : '\r' ∉ methodChars n := fun h => by
    rw [(methodChars_word h).1] at hword
    cases hword
  simp [entryChars, accessChars, hdigit, hmethod]

/-- The lines of the function that makes the table. -/
theorem linesOf_startLines {ns : List Nat}
    (hns : ∀ n ∈ ns, (Nat.toDigits 10 n).length ≤ Text.mostDigits) :
    linesOf (codeOf (startLines (ns.map Int.ofNat))) = startHeader ++ [tableLine ns] := by
  have hreturn : '\r' ∉ startChars ++ (ns.flatMap entryChars ++
      (List.replicate 8 ' ' ++ ['\x7d', '\n'])) := by
    rw [List.mem_append, List.mem_append, List.mem_flatMap]
    rintro (hc | ⟨n, _, hc⟩ | hc)
    · exact return_not_mem_startChars hc
    · exact return_not_mem_entryChars n hc
    · exact absurd hc (by decide)
  rw [linesOf_codeOf (toList_startLines ns) hreturn, List.foldl_append, foldl_startChars,
    List.foldl_append, foldl_entries rfl rfl hns, List.foldl_append,
    Lexer.foldl_blanks rfl]
  -- The bracket and the end of the line end the logical line.
  have hclose : ∀ ts, ['\x7d', '\n'].foldl Lexer.step (atTable.pushAll ts) =
      { Lexer.start with lines :=
        ⟨8, 8, (.mark "\x7d" :: (ts.reverse ++ atTable.tokens)).reverse⟩ :: atTable.lines } :=
    fun ts => rfl
  have hfinish : ∀ lines, ({ Lexer.start with lines := lines } : Lexer).finish.lines = lines :=
    fun lines => rfl
  rw [hclose, hfinish]
  simp [tableLine, atTable]

end LalrBackend.Code
