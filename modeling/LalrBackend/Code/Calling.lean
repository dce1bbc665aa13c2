import LalrBackend.Code.Arguments
import LalrBackend.Code.Exchange
import LalrBackend.Code.Iteration
import LalrBackend.Code.ParserBase
import LalrBackend.Text.Numeral

/-!
# Calling what libraries provide

What calls of routines and types from libraries do. Of those that neither parsers are based on nor
data are made by, only is known what code can tell apart. An object of a class starts by the method
of that name, if the class or one of its bases has it, or else as the types of libraries allow that
the class is based on.
-/

namespace LalrBackend.Code

/-! ## Making objects -/

/-- The types of libraries that a class is based on. -/
def Store.foreignBases (s : Store) : Nat → Datum → List Known
  | 0, _ => []
  | fuel + 1, .cell n =>
    match s.cells[n]? with
    | some (.type _ bases _) => bases.flatMap (s.foreignBases fuel)
    | _ => []
  | _, .known k => [k]
  | _, _ => []

/-- Checks the arguments of an object whose classes do not say how it starts: without arguments, or
as a type that they are based on allows it. Data of which nothing is known may be started again with
anything. -/
def checkStart (cls : Datum) (count : Nat) : Machine Unit := do
  match (← get).foreignBases depthLimit cls with
  | [] => if count ≠ 0 then throw .typeMismatch
  | ks =>
    let allows := fun (k : Known) =>
      k.path == "" && k.name != "object type" ||
        k.path == runtimePath && count == 0 || count == 0 && .madePlain ∈ k.traits ||
        count == 2 && .madeWithTwo ∈ k.traits || .raised ∈ k.traits
    unless ks.all allows do throw .typeMismatch

/-- Makes an object of a class and starts it. -/
def instantiate (call : Call) (cls : Datum) (args : List Datum) (named : List (String × Datum)) :
    Machine Datum := do
  let self ← makeCell (.object cls [])
  match ← classMember? cls startName with
  | some start => do
    let _ ← call (← bindMember self start) args named
  | none => checkStart cls (args.length + named.length)
  return self

/-- Whether what is raised is something that can be raised; its name. -/
def raisedName? (cls : Datum) : Machine (Option String) := do
  let s ← get
  match (s.foreignBases depthLimit cls).find? (.raised ∈ ·.traits) with
  | some k =>
    match cls with
    | .cell _ => return some (s.nameOf cls)
    | _ => return some k.name
  | none => return none

/-! ## Calling -/

/-- Whether a library's routine or type can be called with some values. Of a call with more than
two, nothing is known. -/
def canTake (k : Known) (args : List Datum) : Machine Bool := do
  match args with
  | [] => return .takesNothing ∈ k.traits
  | [.cell n] =>
    match ← cellAt n with
    | .list _ => return .takesList ∈ k.traits
    | _ => return true
  | [_] => return .takesNumber ∈ k.traits
  | [_, _] => return .takesTwo ∈ k.traits
  | _ => return true

/-- Calls a method of which only is known how many values it takes and what type its answer has. -/
def callFamily (m : MethodFamily) (args : List Datum) : Machine Datum := do
  let count := args.length - 1
  unless m.most = anyNumber ∨ !args.isEmpty ∧ m.least ≤ count ∧ count ≤ m.most do
    throw .typeMismatch
  return if m.result = emptyTypeName then .null else .opaqueOf m.result

/-- The family of a method by its full name. -/
def methodNamed? (name : String) : Option MethodFamily :=
  match name.splitOn "." with
  | [type, method] => methodFamily? type method
  | _ => none

/-- Calls something of which only is known what it can be called with. -/
def callUnknown (k : Known) (args : List Datum) : Machine Datum := do
  match methodNamed? k.name with
  | some m => callFamily m args
  | none => do
    unless ← canTake k args do throw .typeMismatch
    return .opaqueOf (if k.path = builtinPath then answerType k.name else k.name)

/-- An integer of a datum. -/
def toInteger (d : Datum) : Machine Datum := do
  match d with
  | .text s =>
    match Text.readInt? 10 s.toList with
    | some n => return .int n
    | none => throw .badValue
  | .real _ => return .opaqueOf "int"
  | d =>
    if d.isResultOf ["bool", "bytes", "float", "int", "str"] then return .opaqueOf "int"
    else return .int (← orFail .typeMismatch d.integer?)

/-- The number of things that a datum holds. -/
def lengthOf (d : Datum) : Machine Datum := do
  let items ← itemsOf d
  return if d.resultType?.isSome then .opaqueOf "int" else .int items.length

/-- An integer without its sign; of a real number, only that there is one is known. -/
def absoluteOf (d : Datum) : Machine Datum := do
  if d.isReal then return .opaqueOf "float"
  else return .int (Int.ofNat (← orFail .typeMismatch d.integer?).natAbs)

/-- A datum as text. -/
def textOf (bare : Bool) (d : Datum) : Machine Datum := do
  return .text ((← handOut d).write bare)

/-- Calls something that needs no import with one value. -/
def callWithOne (k : Known) (d : Datum) : Machine Datum := do
  if k.name = "type" then typeOf d
  else if k.name = "len" then lengthOf d
  else if k.name = "int" then toInteger d
  else if k.name = "bool" then return .bool (← isTrue d)
  else if k.name = "str" then textOf true d
  else if k.name = "repr" then textOf false d
  else if k.name = "abs" then absoluteOf d
  else callUnknown k [d]

/-- Looks a key up in a table; what is not there has a default. -/
def getEntry (table key default : Datum) : Machine Datum := do
  match table with
  | .cell n =>
    match ← cellAt n with
    | .table entries => return (← entryOf? key entries).getD default
    | _ => throw .typeMismatch
  | _ => throw .typeMismatch

/-- Puts a datum at the end of a list. -/
def appendItem (list d : Datum) : Machine Datum := do
  match list with
  | .cell n =>
    match ← cellAt n with
    | .list items => do
      setCell n (.list (items ++ [d]))
      return .null
    | _ => throw .typeMismatch
  | _ => throw .typeMismatch

/-- Whether a datum is a type that is no alias of another one. -/
def isCheckable (d : Datum) : Machine Bool := do
  match d with
  | .known k => return k.nature ≠ .alias && (k.nature = .type || .indexed ∈ k.traits)
  | d => isChoice d

/-- Whether a class is below a type, or below one of several types. -/
def isOfType (cls : Datum) : Datum → Machine Bool
  | .tuple types => types.anyM (isBelowType cls)
  | type => isBelowType cls type
where
  /-- Whether a class is below a type. -/
  isBelowType (cls type : Datum) : Machine Bool := do
    if ← isCheckable type then return (← get).isBelow type depthLimit cls
    else throw .typeMismatch

/-- What takes three values or more, of the routines and types that need no import. -/
def takersOfMany : List String :=
  wordsOf ["__import__ bytearray bytes compile eval exec getattr map max min open pow print property",
    "range setattr slice str type zip"]

/-- Calls something that needs no import with three values or more. -/
def callWithMany (k : Known) (args : List Datum) : Machine Datum := do
  if k.name ∈ takersOfMany ∨ (methodNamed? k.name).isSome then callUnknown k args
  else throw .typeMismatch

/-- Whether a datum has an attribute. -/
def hasAttribute (d : Datum) (name : String) : Machine Datum :=
  tryCatch (do
    let _ ← attributeOf d name
    return .bool true) fun fault =>
      match fault with
      | .noAttribute => return .bool false
      | fault => throw fault

/-- Calls something that needs no import and does not run through data. -/
def callPlain (k : Known) (args : List Datum) : Machine Datum := do
  match args with
  | [d] => callWithOne k d
  | [] =>
    if k.name = "int" then return .int 0
    else if k.name = "bool" then return .bool false
    else if k.name = "str" then return .text ""
    else if k.name = "list" then makeList []
    else if k.name = "tuple" then return .tuple []
    else if k.name = "dict" then makeCell (.table [])
    else callUnknown k args
  | [self, index] =>
    if k.name = "dict.get" then getEntry self index .null
    else if k.name = "list.append" then appendItem self index
    else if k.name = "isinstance" then do return .bool (← isOfType (← typeOf self) index)
    else if k.name = "issubclass" then do return .bool (← isOfType self index)
    else if k.name = "getattr" ∨ k.name = "hasattr" then
      match index with
      | .text name => if k.name = "getattr" then attributeOf self name else hasAttribute self name
      | _ => throw .typeMismatch
    else if k.name = "int" then
      if self.isText ∧ index.integer?.isSome then throw .badValue else throw .typeMismatch
    else if k.name = "super" then
      match self with
      | .cell owner => return .above owner index
      | _ => throw .typeMismatch
    else callUnknown k args
  | [self, .text name, v] =>
    if k.name = "setattr" then do
      setAttribute self name v
      return .null
    else callWithMany k args
  | _ => callWithMany k args

/-- What takes arguments by name, of those that need no import. -/
def takersByName : List String :=
  wordsOf ["bytearray bytes compile complex dict dict.update enumerate int list.sort max min open",
    "pow property round sorted str str.encode str.expandtabs str.format str.rsplit str.split",
    "str.splitlines sum type zip"]

/-- Calls something that needs no import. Of what comes by name, nothing but tables is known. -/
def callBuiltin (call : Call) (k : Known) (args : List Datum) (named : List (String × Datum)) :
    Machine Datum := do
  if k.name = "print" then return .null
  else if !named.isEmpty then
    if k.name = "dict" ∧ args.isEmpty then makeTable (named.map fun (n, d) => (.text n, d))
    else if k.nature = .type ∧ .raised ∈ k.traits then throw .typeMismatch
    else if k.name ∈ takersByName then return .opaqueOf k.name
    else throw .typeMismatch
  else
    match callOver? call k.name args with
    | some act => act
    | none => callPlain k args

/-- Whether nothing is known of something that a library provides. -/
def isUnlisted (k : Known) : Bool :=
  k.path ≠ "" && (moduleContents.lookup k.path).isNone

/-- Calls something that a library provides. -/
def callKnown (call : Call) (k : Known) (args : List Datum) (named : List (String × Datum)) :
    Machine Datum := do
  if k.nature = .module then throw .typeMismatch
  else if k.path = runtimePath ∧ k.nature = .routine then callRuntime call k.name args named
  else if k.path = runtimePath ∨ .raised ∈ k.traits then instantiate call (.known k) args named
  else if k.path = "typing" ∧ k.name = "cast" then do
    return argument (← takeArguments [("typ", none), ("val", none)] args named) 1
  else if k == plainStart then do
    let self := argument args 0
    unless self.isFixed do checkStart (← typeOf self) (args.length - 1 + named.length)
    return .null
  else if k.path = builtinPath then callBuiltin call k args named
  else if isUnlisted k then return .opaqueOf k.name
  else callUnknown k args

end LalrBackend.Code
