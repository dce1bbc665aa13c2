import LalrBackend.Code.Program
import LalrBackend.ParserClass

/-!
# Parsers

A parser is an instance of the class of a generated module, or of the bare class without a grammar.
It knows its scanner and whether the parse is done; the loop that shifts and reduces is not part of
it. The parser of a plain module is run on what the module was made from, any other one is a program
that its text gives.
-/

namespace LalrBackend

open Reduction

/-- Why a module makes no parser: it is not written to its end, one of its tables is too long to be
read, a scanner was given to a class that takes none, or its text gives no program. -/
inductive LoadError where
  | notWritten (error : EmitError)
  | tooLong
  | noScannerTaken
  | program (error : Code.ProgramError)
  deriving Repr

/-- Why a question to a parser fails. -/
inductive ParserError where
  | reduction (fault : Reduction.Fault)
  | program (type : String)
  | refused (message : String) (number : Value)
  | noScanner
  | scannerEmpty
  | noMember
  | noPosition
  | table (error : TableError)
  deriving Repr

/-- The wording for an action number that belongs to no production. -/
def ParserError.badNumber : String :=
  "Invalid action number found in internal parse table"

/-- A refusal of an action number as it is shown. -/
def ParserError.shownRefusal (message : String) (number : Value) : String :=
  "ParseTableError(" ++ Text.quoted message ++ ", " ++ number.shown ++ ")"

/-- The wording for a scanner that was not given. -/
def ParserError.scannerMissing : String :=
  "No scanner has been provided"

/-- The failure of a program as that of a parser. -/
def ParserError.ofProgram : Code.Failure → ParserError
  | .refused message number => .refused message number
  | .noScanner => .noScanner
  | .unpacking e => .table (.unpacking e)
  | .raised type => .program type

/-- A parser that is not run as a program: its class, if it comes from a module, what its scanner has
left, and whether the parse is done. -/
structure PlainParser where
  class? : Option ParserClass
  scanner : Option (List Value)
  done : Bool

namespace PlainParser

/-- The class of a parser that comes from a module. -/
def generated (p : PlainParser) : Except ParserError ParserClass :=
  match p.class? with
  | some cls => .ok cls
  | none => .error .noMember

/-- The method of an action number. The number must be an integer and nothing that only amounts to
one. -/
def method? (cls : ParserClass) : Value → Option Method
  | .int n => cls.methods.lookup n
  | _ => none

/-- Reduces by the production of an action number. -/
def doAction (p : PlainParser) (number : Value) (stack : List Value) :
    Except ParserError (Value × PlainParser) := do
  let cls ← p.generated
  match method? cls number with
  | none => throw (.refused ParserError.badNumber number)
  | some m =>
    let s ← (m.run stack).mapError .reduction
    return (s, { p with done := p.done || m.accepts })

/-- The production table. -/
def productionTable (p : PlainParser) : Except ParserError (List Int) := do
  (tableOf (← p.generated).productionText).mapError .table

/-- The action table. -/
def actionTable (p : PlainParser) : Except ParserError (List Int) := do
  (tableOf (← p.generated).actionText).mapError .table

/-- The goto table. -/
def reduceTable (p : PlainParser) : Except ParserError (List Int) := do
  (tableOf (← p.generated).reduceText).mapError .table

/-- The start state, the start production, and the indices of the end of input and of the error
terminal. -/
def constants (p : PlainParser) : Except ParserError (List Int) := do
  let cls ← p.generated
  return [cls.startState, cls.startProduction, Grammar.endIndex, Grammar.errorIndex]

/-- The next symbol of the scanner. -/
def scan (p : PlainParser) : Except ParserError (Value × PlainParser) :=
  match p.scanner with
  | none => .error .noScanner
  | some [] => .error .scannerEmpty
  | some (s :: rest) => .ok (s, { p with scanner := some rest })

end PlainParser

/-- A parser. -/
inductive Parser where
  | plain (p : PlainParser)
  | program (p : Code.Program)

/-- What a question to a parser comes to: an answer or a failure, and the parser afterwards. -/
abbrev Reply (α : Type) := Except ParserError α × Parser

namespace ParserModule

/-- The parser of a module as the program that its text gives. The text is read before its tables
are found too long. -/
def runText (m : ParserModule) (scanner : Option (List Value)) : Except LoadError Parser := do
  let statements ← (Code.Program.read m.draft.text).mapError .program
  if !m.isReadable then throw .tooLong
  (Code.Program.check statements).mapError .program
  return .program
    (← (Code.Program.start statements m.config.parserClass scanner).mapError .program)

/-- Whether a text can be read as code at all. -/
def isClean (text : String) : Bool :=
  !Text.hasSurrogate text && !text.toList.any (·.toNat == 0)

/-- Makes a parser. -/
def load (m : ParserModule) (scanner : Option (List Value)) : Except LoadError Parser := do
  match m.draft.failure with
  | some e => throw (.notWritten e)
  | none =>
    match m.plainClass? with
    | none => m.runText scanner
    | some cls =>
      if !m.isQuiet || !isClean m.draft.text then m.runText scanner
      else if !m.isReadable then throw .tooLong
      else if scanner.isSome && !cls.takesScanner then throw .noScannerTaken
      else return .plain ⟨some cls, scanner, false⟩

end ParserModule

namespace Parser

/-- A parser of the bare class. -/
def bare (scanner : Option (List Value)) : Parser :=
  .plain ⟨none, scanner, false⟩

/-- The reply of a parser that is no program. -/
def ofPlain {α : Type} (p : PlainParser) (r : Except ParserError (α × PlainParser)) : Reply α :=
  match r with
  | .ok (a, p) => (.ok a, .plain p)
  | .error e => (.error e, .plain p)

/-- The reply of a program. -/
def ofProgram {α : Type} (r : Except Code.Failure α × Code.Program) : Reply α :=
  (r.1.mapError .ofProgram, .program r.2)

/-- A table as a value. -/
def ofTable (entries : List Int) : Value :=
  .list (entries.map .int)

/-- Reduces by the production of an action number. -/
def doAction (number : Value) (stack : List Value) : Parser → Reply Value
  | .plain p => ofPlain p (p.doAction number stack)
  | .program p => ofProgram (p.call "do_action" [number, .list stack])

/-- The production table, the action table and the goto table. -/
def tables : Parser → Reply (List Value)
  | .plain p => ofPlain p do
    return ([← p.productionTable, ← p.actionTable, ← p.reduceTable].map ofTable, p)
  | .program p => ofProgram (p.callAll ["production_tab", "action_tab", "reduce_tab"])

/-- The start state, the start production, and the indices of the end of input and of the error
terminal. -/
def constants : Parser → Reply (List Value)
  | .plain p => ofPlain p do return ((← p.constants).map .int, p)
  | .program p =>
    ofProgram (p.callAll ["start_state", "start_production", "EOF_sym", "error_sym"])

/-- The next symbol of the scanner. -/
def scan : Parser → Reply Value
  | .plain p => ofPlain p p.scan
  | .program p => ofProgram (p.call "scan" [])

/-- Runs the user's initialization. -/
def userInit : Parser → Reply Value
  | .plain p => (.ok .null, .plain p)
  | .program p => ofProgram (p.call "user_init" [])

/-- Ends the parse. -/
def finish : Parser → Reply Value
  | .plain p => (.ok .null, .plain { p with done := true })
  | .program p => ofProgram (p.call "done_parsing" [])

/-- Unpacks a table from a text. -/
def unpack (text : String) : Parser → Reply Value
  | .plain p =>
    (((Packed.decodeText text).mapError fun e => .table (.unpacking e)).map ofTable, .plain p)
  | .program p => ofProgram (p.call "unpack_table" [.text text])

/-- Makes a symbol between two values. One of them that is neither a symbol nor missing has no
position. -/
def newSymbol (name sym left right value : Value) : Parser → Reply Value
  | .plain p =>
    (match Value.symbolBetween? name sym left right value with
      | some s => .ok s
      | none => .error .noPosition, .plain p)
  | .program p =>
    ofProgram (p.callOn "get_symbol_factory" "new_symbol" [name, sym, left, right, value])

/-- Whether the parse is done. -/
def isDone : Parser → Except ParserError Value
  | .plain p => .ok (.bool p.done)
  | .program p => (p.member "is_done").mapError .ofProgram

end Parser

end LalrBackend
