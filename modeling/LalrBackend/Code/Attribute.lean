import LalrBackend.Code.Library.Ancestry
import LalrBackend.Code.Library.Methods
import LalrBackend.Code.Object

/-!
# Attributes

The attributes of data. An object has its own ones and those of its class; a class has its own ones
and those of its bases. A method that is found through an object is bound to it.
-/

namespace LalrBackend.Code

/-! ## What the runtime of parsers provides -/

/-- A type that generated parsers are based on. -/
def runtimeType (name : String) : Known :=
  ⟨runtimePath, name, .type, [.settable, .base]⟩

/-- The type of scanners. -/
def scannerType : Known :=
  ⟨"", "Scanner", .type, []⟩

/-- The members of the types that generated parsers are based on. -/
def runtimeMembers : List String := [
  "LRParser.__init__", "LRParser.init_actions", "LRParser.get_symbol_factory",
  "LRParser.done_parsing", "LRParser.is_done", "LRParser.unpack_table",
  "LRParser.production_tab", "LRParser.action_tab", "LRParser.reduce_tab",
  "LRParser.user_init", "LRParser.scan", "Symbol.__init__", "SymbolFactory.new_symbol",
  "ParseTableError.__init__", "Scanner.next_token"]

/-- The method that needs no object. -/
def freeMember : String := "LRParser.unpack_table"

/-- The member that is computed from another one. -/
def computedMember : String := "LRParser.is_done"

/-- The name of the method that starts an object. -/
def startName : String := "__init__"

/-- What every type has to start its objects with. -/
def plainStart : Known :=
  ⟨builtinPath, pathWithin "object" startName, .routine, [.bare]⟩

/-- The name under which a thing says what it is called. -/
def calledName : String := "__name__"

/-- The name under which a thing has all its members. -/
def membersName : String := "__dict__"

/-- Where a parser notes that it is done. -/
def doneName : String := "_done_parsing"

/-- A member of a type that generated parsers are based on. -/
def runtimeMember? (k : Known) (name : String) : Option Known :=
  let full := pathWithin k.name name
  if (k.path == runtimePath || k == scannerType) && full ∈ runtimeMembers then
    some ⟨runtimePath, full, .routine, [.settable]⟩
  else none

/-! ## Types of data -/

/-- The type of what is nothing. -/
def emptyType : Known :=
  ⟨"types", "NoneType", .type, []⟩

/-- The type of a datum. -/
def typeOf (d : Datum) : Machine Datum :=
  match d with
  | .null => return .known emptyType
  | .bool _ => return .known (builtinType "bool")
  | .int _ => return .known (builtinType "int")
  | .member _ shown => return .known ⟨"enum", shown ++ " type", .type, []⟩
  | .real _ => return .known (builtinType "float")
  | .text _ => return .known (builtinType "str")
  | .tuple _ => return .known (builtinType "tuple")
  | .bound _ _ => return .known ⟨"types", "MethodType", .type, []⟩
  | .above _ _ => return .known (builtinType "super")
  | .known k =>
    match k.nature with
    | .module => return .known ⟨"types", "ModuleType", .type, []⟩
    | .type => return .known (builtinType "type")
    | .routine => return .known ⟨"types", "FunctionType", .type, []⟩
    | .value => return .known ⟨k.path, k.name ++ " type", .type, []⟩
    | .alias => return .known ⟨"types", "GenericAlias", .type, []⟩
  | .cell n => do
    match ← cellAt n with
    | .list _ => return .known (builtinType "list")
    | .table _ => return .known (builtinType "dict")
    | .object cls _ => return cls
    | .type _ _ _ => return .known (builtinType "type")
    | .routine _ _ => return .known ⟨"types", "FunctionType", .type, []⟩
    | .stream _ => return .known ⟨"types", "GeneratorType", .type, []⟩
    | .scope _ => return .known (builtinType "object")

/-- A plain value of a module as a datum. -/
def ofFixed : FixedValue → Machine Datum
  | .nothing => return .null
  | .truth b => return .bool b
  | .number n => return .int n
  | .member n shown => return .member n shown
  | .real x => return .real x
  | .text s => return .text s
  | .texts items => makeList (items.map .text)
  | .textTuple items => return .tuple (items.map .text)

/-- What a module provides under a name: a plain value, or something that is only known by its
name. -/
def memberDatum? (path name : String) : Machine (Option Datum) :=
  match fixedValue? path name <|> packageValue? path name with
  | some v => some <$> ofFixed v
  | none => if name = calledName then return some (.text path) else
    match moduleMember? path name with
    | none => return none
    | some k =>
      match packageValue? k.path k.name with
      | some v => some <$> ofFixed v
      | none => return some (.known k)

/-! ## Members of classes -/

/-- What a class or one of its bases has under a name. -/
def Store.member? (s : Store) (name : String) : Nat → Datum → Option Datum
  | 0, _ => none
  | fuel + 1, .cell n =>
    match s.cells[n]? with
    | some (.type _ bases members) =>
      (members.lookup name).or (bases.findSome? (s.member? name fuel))
    | _ => none
  | _, .known k => (s.marks.lookup (k.path, k.name, name)).or ((runtimeMember? k name).map .known)
  | _, _ => none

/-- What a class has under a name. -/
def classMember? (cls : Datum) (name : String) : Machine (Option Datum) := do
  return (← get).member? name depthLimit cls

/-- Whether a class is another one or is based on it. All are based on that of all objects. -/
def Store.isBelow (s : Store) (base : Datum) : Nat → Datum → Bool
  | 0, _ => false
  | fuel + 1, cls =>
    cls.isSame base || (Datum.known (builtinType "object")).isSame base ||
      match cls with
      | .cell n =>
        match s.cells[n]? with
        | some (.type _ bases _) => bases.any (s.isBelow base fuel)
        | _ => false
      | .known k =>
        match k.base? with
        | some k => s.isBelow base fuel (.known k)
        | none => false
      | _ => false

/-- Whether a datum is an object of a type that generated parsers are based on. -/
def isObjectOf (name : String) (d : Datum) : Machine Bool := do
  return (← get).isBelow (.known (runtimeType name)) depthLimit (← typeOf d)

/-- A member of a class as an object has it. -/
def bindMember (self member : Datum) : Machine Datum := do
  match member with
  | .known k =>
    if k.nature = .routine ∧ .settable ∈ k.traits ∧ k.name ≠ freeMember then
      return .bound self member
    else return member
  | .cell n =>
    match ← cellAt n with
    | .routine _ _ => return .bound self member
    | _ => return member
  | _ => return member

/-- Whether a member of a class is computed. -/
def isComputed (member : Option Datum) : Bool :=
  match member with
  | some (.known k) => k.name == computedMember
  | _ => false

/-! ## Reading attributes -/

/-- The attributes that every integer has. -/
def integerPart? (n : Int) (name : String) : Option Int :=
  if name = "real" ∨ name = "numerator" then some n
  else if name = "imag" then some 0
  else if name = "denominator" then some 1
  else none

/-- A part or a method that a datum has from its type, as the datum has it. -/
def typeAttribute (type : String) (d : Datum) (name : String) : Machine Datum := do
  if name = startName then return .bound d (.known plainStart)
  else
    match partType? type name, methodFamily? type name with
    | some part, _ => return .opaqueOf part
    | none, some _ =>
      return .bound d (.known ⟨builtinPath, pathWithin type name, .routine, [.bare]⟩)
    | none, none => throw .noAttribute

/-- An attribute of a plain value. -/
def plainAttribute (d : Datum) (name : String) : Machine Datum := do
  match d.integer?.bind (integerPart? · name), ← typeOf d with
  | some n, _ => return .int n
  | none, .known k => typeAttribute k.name d name
  | none, _ => throw .noAttribute

/-- An attribute of something that a library provides. A type has its methods without an object. -/
def knownAttribute (k : Known) (name : String) : Machine Datum := do
  match (← get).member? name 1 (.known k) with
  | some d => return d
  | none =>
    match k.nature with
    | .module =>
      orFail .noAttribute (← memberDatum? k.path name)
    | .value =>
      if .bare ∈ k.traits then typeAttribute (if k.path = "" then k.name else "") (.known k) name
      else if name = startName then return .bound (.known k) (.known plainStart)
      else return .opaqueOf name
    | _ =>
      if name = calledName then return .text k.name
      else if (methodFamily? k.name name).isSome then
        return .known ⟨builtinPath, pathWithin k.name name, .routine, [.bare]⟩
      else if (partType? k.name name).isSome then return .opaqueOf name
      else throw .noAttribute

/-- An attribute of an object: what is computed comes first, then its own members, then those of
its class. -/
def objectAttribute (self cls : Datum) (members : List (String × Datum)) (name : String) :
    Machine Datum := do
  let found ← classMember? cls name
  let own := members.lookup (if isComputed found then doneName else name)
  match own, found with
  | some d, _ => return d
  | none, some member =>
    if isComputed found then throw .noAttribute else bindMember self member
  | none, none =>
    if name = startName then return .bound self (.known plainStart) else throw .noAttribute

/-- Whether a datum has attributes that are not just those of its type. -/
def hasMembers (d : Datum) : Machine Bool := do
  match d with
  | .known k => return k.nature = .module || k.nature = .type || .settable ∈ k.traits
  | .cell n =>
    match ← cellAt n with
    | .list _ => return false
    | .table _ => return false
    | .stream _ => return false
    | _ => return true
  | _ => return false

/-- An attribute of a datum. -/
def attributeOf (d : Datum) (name : String) : Machine Datum := do
  if name = "__class__" then typeOf d
  else if name = "__doc__" then return .opaqueOf name
  else if name = membersName && (← hasMembers d) then return .opaqueOf "dict"
  else
    match d with
    | .known k => knownAttribute k name
    | .bound self routine =>
      if name = "__self__" then return self
      else if name = "__func__" then return routine
      else
        match routine with
        | .known k => knownAttribute k name
        | .cell n =>
          match ← cellAt n with
          | .routine r members =>
            if name = calledName then return .text r.name
            else orFail .noAttribute (members.lookup name)
          | _ => throw .noAttribute
        | _ => throw .noAttribute
    | .above owner self =>
      match ← cellAt owner with
      | .type _ bases _ =>
        let s ← get
        match bases.findSome? (s.member? name depthLimit) with
        | some member => bindMember self member
        | none =>
          if name = startName then return .bound self (.known plainStart) else throw .noAttribute
      | _ => throw .noAttribute
    | .cell n =>
      match ← cellAt n with
      | .object cls members => objectAttribute d cls members name
      | .type called _ _ =>
        match ← classMember? d name with
        | some member => return member
        | none => if name = calledName then return .text called else throw .noAttribute
      | .routine r members =>
        if name = calledName then return .text r.name
        else orFail .noAttribute (members.lookup name)
      | _ => plainAttribute d name
    | _ => plainAttribute d name

/-! ## Setting attributes -/

/-- The failure of a change to attributes of something that does not allow it. -/
def refusal (k : Known) : Fault :=
  if .bare ∈ k.traits then .noAttribute else .typeMismatch

/-- Whether a datum is a table. -/
def isTable (d : Datum) : Machine Bool := do
  match d with
  | .cell n =>
    match ← cellAt n with
    | .table _ => return true
    | _ => return false
  | _ => return false

/-- Whether a datum is a text. -/
def Datum.isText : Datum → Bool
  | .text _ => true
  | _ => false

/-- Checks a new value of an attribute that has a meaning of its own. -/
def checkMeaning (nature : Nature) (name : String) (v : Datum) : Machine Unit := do
  if name = membersName then
    if nature = .type ∨ nature = .module then throw .noAttribute
    unless ← isTable v do throw .typeMismatch
  else if name = calledName then
    if (nature = .type ∨ nature = .routine) ∧ !v.isText then throw .typeMismatch
  else if name = "__class__" then throw .typeMismatch

/-- Changes the members of a cell. -/
def changeMembers (n : Nat) (f : List (String × Datum) → List (String × Datum)) :
    Machine Unit := do
  match ← cellAt n with
  | .object cls members => setCell n (.object cls (f members))
  | .type name bases members => setCell n (.type name bases (f members))
  | .routine r members => setCell n (.routine r (f members))
  | _ => throw .noAttribute

/-- What kind of thing a cell holds. -/
def natureOf (n : Nat) : Machine Nature := do
  match ← cellAt n with
  | .type _ _ _ => return .type
  | .routine _ _ => return .routine
  | _ => return .value

/-- Whether the members of a cell can be changed under a name. What a class computes cannot be
set. -/
def checkChange (n : Nat) (name : String) : Machine Unit := do
  match ← cellAt n with
  | .object cls _ => if isComputed (← classMember? cls name) then throw .noAttribute
  | _ => return ()

/-- Sets an attribute of a datum. -/
def setAttribute (d : Datum) (name : String) (v : Datum) : Machine Unit := do
  match d with
  | .known k =>
    if .settable ∈ k.traits then
      checkMeaning k.nature name v
      modify fun s => { s with marks := setEntry (k.path, k.name, name) v s.marks }
    else throw (refusal k)
  | .cell n => do
    checkChange n name
    checkMeaning (← natureOf n) name v
    changeMembers n (setEntry name v)
  | _ => throw .noAttribute

/-- Deletes an attribute of a datum. -/
def deleteAttribute (d : Datum) (name : String) : Machine Unit := do
  match d with
  | .known k =>
    if .settable ∈ k.traits then
      if (← get).marks.any (·.1 == (k.path, k.name, name)) then
        modify fun s => { s with marks := dropEntry (k.path, k.name, name) s.marks }
      else throw .noAttribute
    else throw (refusal k)
  | .cell n => do
    checkChange n name
    let members :=
      match ← cellAt n with
      | .object _ members => members
      | .type _ _ members => members
      | .routine _ members => members
      | _ => []
    if members.any (·.1 == name) then changeMembers n (dropEntry name) else throw .noAttribute
  | _ => throw .noAttribute

end LalrBackend.Code
