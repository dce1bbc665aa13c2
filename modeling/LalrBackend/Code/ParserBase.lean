import LalrBackend.Code.Arguments
import LalrBackend.Code.Item

/-!
# What parsers are based on

The methods of the types that generated parsers are based on: a parser starts without being done,
unpacks its tables when they are asked for, and makes symbols that reach from the left end of one
symbol to the right end of another one.
-/

namespace LalrBackend.Code

/-- Unpacks a table from a text, or from data that are texts of one character each. -/
def unpackTable (d : Datum) : Machine Datum := do
  let units ← (← itemsOf d).mapM fun (item : Datum) =>
    match item with
    | .text s =>
      match Text.pointsOf s with
      | [p] => return Int.ofNat p
      | _ => throw .typeMismatch
    | _ => throw .typeMismatch
  match Packed.decode units with
  | .ok values => makeList (values.map .int)
  | .error e => throw (.unpacking e)

/-- Calls a method of an object without arguments. -/
def callMethod (call : Call) (self : Datum) (name : String) : Machine Datum := do
  call (← attributeOf self name) [] []

/-- Gets a table of a parser: the result of one method, unpacked by another one. -/
def tableOf (call : Call) (self : Datum) (name : String) : Machine Datum := do
  let unpack ← attributeOf self "unpack_table"
  call unpack [← callMethod call self name] []

/-- The position at an end of a new symbol: that of a symbol, or minus one where there is none. -/
def endOf (name : String) (d : Datum) : Machine Datum :=
  match d with
  | .null => return .int (-1)
  | d => attributeOf d name

/-- Starts a parser. -/
def startParser (call : Call) (args : List Datum) (named : List (String × Datum)) :
    Machine Datum := do
  let args ← takeArguments
    [("self", none), ("scanner", some .null), ("symbol_factory", some .null)] args named
  let self := argument args 0
  setAttribute self "scanner" (argument args 1)
  let factory ←
    match argument args 2 with
    | .null => makeObject "SymbolFactory" []
    | d => pure d
  setAttribute self "symbol_factory" factory
  setAttribute self doneName (.bool false)
  let _ ← callMethod call self "init_actions"
  return .null

/-- Makes a symbol between two symbols. -/
def newSymbol (call : Call) (args : List Datum) (named : List (String × Datum)) :
    Machine Datum := do
  let args ← takeArguments [("self", none), ("name", none), ("sym", none), ("left", some .null),
    ("right", some .null), ("value", some .null)] args named
  let left ← endOf "left" (argument args 3)
  let right ← endOf "right" (argument args 4)
  call (.known (runtimeType "Symbol"))
    [argument args 2, argument args 5, left, right, argument args 1] []

/-- Takes the next symbol of a scanner. -/
def nextToken (self : Datum) : Machine Datum := do
  match ← attributeOf self "symbols" with
  | .cell n =>
    match ← cellAt n with
    | .list (item :: rest) => do
      setCell n (.list rest)
      return item
    | .list [] => throw .noSlot
    | _ => throw .noAttribute
  | _ => throw .noAttribute

/-- Calls something that generated parsers are based on. -/
def callRuntime (call : Call) (name : String) (args : List Datum)
    (named : List (String × Datum)) : Machine Datum := do
  let alone := do return argument (← takeArguments [("self", none)] args named) 0
  if name = "LRParser.__init__" then startParser call args named
  else if name = "LRParser.init_actions" ∨ name = "LRParser.user_init" then do
    let _ ← alone
    return .null
  else if name = "LRParser.get_symbol_factory" then do attributeOf (← alone) "symbol_factory"
  else if name = "LRParser.done_parsing" then do
    setAttribute (← alone) doneName (.bool true)
    return .null
  else if name = "LRParser.production_tab" then do tableOf call (← alone) "production_table"
  else if name = "LRParser.action_tab" then do tableOf call (← alone) "action_table"
  else if name = "LRParser.reduce_tab" then do tableOf call (← alone) "reduce_table"
  else if name = "LRParser.scan" then do
    match ← attributeOf (← alone) "scanner" with
    | .null => throw .noScanner
    | scanner => callMethod call scanner "next_token"
  else if name = freeMember ∨ name = "decode_string" then do
    unpackTable (argument (← takeArguments [("text", none)] args named) 0)
  else if name = "Symbol.__init__" then do
    let args ← takeArguments [("self", none), ("sym", none), ("value", some .null),
      ("left", some (.int (-1))), ("right", some (.int (-1))), ("name", some .null)] args named
    let _ ← (symbolParts.zip (args.drop 1)).mapM fun (part, v) =>
      setAttribute (argument args 0) part v
    return .null
  else if name = "SymbolFactory.new_symbol" then newSymbol call args named
  else if name = "ParseTableError.__init__" then do
    let args ← takeArguments [("self", none), ("message", none), ("act_num", some .null)]
      args named
    setAttribute (argument args 0) "message" (argument args 1)
    setAttribute (argument args 0) "act_num" (argument args 2)
    return .null
  else if name = "Scanner.next_token" then do nextToken (← alone)
  else throw .typeMismatch

end LalrBackend.Code
