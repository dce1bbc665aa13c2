import LalrBackend.Code.Comparison
import LalrBackend.Code.SimpleStatement
import LalrBackend.Code.Soundness

/-!
# Generic types

Types that are indexed with other types, such as lists of integers, and choices between types. What
comes of indexing is an alias of the type; it can be indexed again if it has type variables. The
module of types checks what its types are given, all others take anything.
-/

namespace LalrBackend.Code

/-! ## Types in texts -/

/-- Whether a text is an expression that can be evaluated by itself. -/
def isEvaluableText (text : String) : Bool :=
  match linesOf text with
  | [line] =>
    line.column = 0 &&
      match readGroup? line.tokens with
      | some (e, []) => !e.yields && !e.waits && partsAreSound .module [e]
      | _ => false
  | _ => false

/-- Makes sure that a text can stand for a type: it is an expression, or one that is spread. -/
def checkTypeText (text : String) : Machine Unit := do
  if text.toList.any (·.toNat == 0) then throw .badValue
  let whole := if text.startsWith "*" then "(" ++ text ++ ",)[0]" else text
  unless isEvaluableText whole do throw .unreadable

/-- Makes sure that what is a text can stand for a type. -/
def checkText (d : Datum) : Machine Unit :=
  match d with
  | .text s => checkTypeText s
  | _ => return ()

/-! ## What generic types are given -/

/-- What a generic type is given: a number of types, types in a row, types to choose from, one type,
a type with notes, the parameters of a function and its result, the same where the parameters must
be listed, types before the parameters of a function, type variables, texts or other types, or
anything. -/
inductive Intake where
  | types (count : Nat)
  | row
  | choice
  | single
  | noted
  | function
  | listed
  | front
  | variables
  | loose
  | anything
  deriving Repr, DecidableEq

/-- The path of the module of types. -/
def typesPath : String := "typing"

/-- What the module of types has its types given. -/
def intakes : List (Intake × List String) := [
  (.types 0, [
    "BinaryIO ByteString Hashable Sized SupportsBytes SupportsComplex SupportsFloat",
    "SupportsIndex SupportsInt TextIO"]),
  (.types 1, [
    "AbstractSet AsyncContextManager AsyncIterable AsyncIterator Awaitable Collection Container",
    "ContextManager Counter Deque FrozenSet IO Iterable Iterator KeysView List MappingView Match",
    "MutableSequence MutableSet Pattern Reversible Sequence Set SupportsAbs SupportsRound Type",
    "ValuesView"]),
  (.types 2, [
    "AsyncGenerator ChainMap DefaultDict Dict ItemsView Mapping MutableMapping OrderedDict"]),
  (.types 3, ["Coroutine Generator"]),
  (.row, ["Tuple"]),
  (.choice, ["Union"]),
  (.single, ["ClassVar Final NotRequired Optional Required TypeGuard Unpack"]),
  (.noted, ["Annotated"]),
  (.function, ["Callable"]),
  (.front, ["Concatenate"]),
  (.variables, ["Generic Protocol"]),
  (.anything, ["Literal defaultdict"])]

/-- The type of functions outside the module of types. -/
def isFunctionType (k : Known) : Bool :=
  k.path = "collections.abc" && k.name = "Callable"

/-- What something from a library is given when it is indexed, if it can be indexed. -/
def intakeOf? (k : Known) : Option Intake :=
  let whenIndexed := fun intake => if .indexed ∈ k.traits then some intake else none
  if k.nature = .alias then whenIndexed (if k.path = typesPath then .loose else .anything)
  else if k.path = typesPath then
    (intakes.find? fun (_, names) => k.name ∈ wordsOf names).map (·.1)
  else if isFunctionType k then some .listed
  else whenIndexed .anything

/-- What a type is given one after the other. -/
def givenTypes : Datum → List Datum
  | .tuple items => items
  | d => [d]

/-- Whether something from a library is a type variable. -/
def isTypeVariable (k : Known) : Bool :=
  k.path = "" && k.name ∈ ["ParamSpec", "TypeVar", "TypeVarTuple"] ||
    k.path = typesPath &&
      k.name ∈ wordsOf ["AnyStr CT_co KT T T_co T_contra VT VT_co V_co"]

/-- Whether a datum stands for the parameters of a function. -/
def isParameterVariable (d : Datum) : Bool :=
  match d with
  | .known k => k.path = "" && k.name = "ParamSpec"
  | _ => false

/-- Whether a datum is the one that stands for anything in a row. -/
def isEllipsis (d : Datum) : Bool :=
  d.isSame (.known (builtinType "Ellipsis"))

/-- The names of forms that are no types unless they are indexed. -/
def plainForms : List String :=
  wordsOf ["ClassVar Concatenate Final Generic Literal NotRequired Optional Protocol Required",
    "TypeGuard Union Unpack"]

/-- Whether something from a library cannot stand among types. What marks variables of a class can
where notes are made. -/
def isRefusedForm (withNotes : Bool) (k : Known) : Bool :=
  k.path = typesPath &&
    !(withNotes && k.name ∈ ["ClassVar", "Final"]) &&
      if k.nature = .alias then k.name ∈ ["ClassVar", "Final", "Generic", "Protocol"]
      else k.name ∈ plainForms

/-- Makes sure that a datum can stand for a type. -/
def checkType (withNotes : Bool) (d : Datum) : Machine Unit := do
  match d with
  | .text s => checkTypeText s
  | .tuple _ => throw .typeMismatch
  | .known k => if isRefusedForm withNotes k then throw .typeMismatch
  | _ => return ()

/-- Whether a datum tells which module it comes from, itself or by its class. -/
def hasHome (d : Datum) : Machine Bool := do
  match d with
  | .null => return true
  | .text _ => return true
  | .known k =>
    return k.nature ∈ [.type, .routine, .alias] || k.path = typesPath || isTypeVariable k
  | .cell n =>
    match ← cellAt n with
    | .object _ _ => return true
    | .type _ _ _ => return true
    | .routine _ _ => return true
    | _ => return false
  | _ => return false

/-- The parameters that the type of a function lists; anything else is the only one. -/
def listedTypes (d : Datum) : Machine (List Datum) := do
  match d with
  | .cell n =>
    match ← cellAt n with
    | .list items => return items
    | _ => return [d]
  | d => return givenTypes d

/-- Whether a datum is a list or a tuple. -/
def isListing (d : Datum) : Machine Bool := do
  match d with
  | .tuple _ => return true
  | .cell n =>
    match ← cellAt n with
    | .list _ => return true
    | _ => return false
  | _ => return false

/-- Makes sure that a generic type can be given a datum. -/
def checkIntake (intake : Intake) (index : Datum) : Machine Unit := do
  let given := givenTypes index
  match intake with
  | .types count => do
    given.forM (checkType false)
    unless 0 < count && given.length = count do throw .typeMismatch
  | .row => given.forM (checkType false)
  | .choice => do
    if given.isEmpty then throw .typeMismatch
    given.forM (checkType false)
  | .single => checkType false index
  | .noted =>
    match given with
    | d :: _ :: _ => do
      checkType true d
      unless ← hasHome d do throw .noAttribute
    | _ => throw .typeMismatch
  | .function =>
    match index with
    | .tuple [parameters, result] => do
      checkType false result
      (← listedTypes parameters).forM checkText
    | _ => throw .typeMismatch
  | .listed =>
    match index with
    | .tuple [parameters, _] => do
      unless isEllipsis parameters || isParameterVariable parameters || (← isListing parameters) do
        throw .typeMismatch
    | _ => throw .typeMismatch
  | .front =>
    match given.getLast? with
    | some d => do
      unless isEllipsis d || isParameterVariable d do throw .typeMismatch
      given.dropLast.forM (checkType false)
    | none => throw .typeMismatch
  | .variables => do
    given.forM checkText
    let areVariables := given.all fun d =>
      match d with
      | .known k => isTypeVariable k
      | _ => false
    unless areVariables && !given.isEmpty do throw .typeMismatch
  | .loose => given.forM checkText
  | .anything => return ()

/-! ## Aliases -/

/-- Whether a type has type variables, itself or in what it lists. -/
def isOpenType (d : Datum) : Machine Bool := do
  return (← listedTypes d).any fun d =>
    match d with
    | .known k => isTypeVariable k || k.nature = .alias && .indexed ∈ k.traits
    | _ => false

/-- What an alias of a type allows: what the type itself allows, and what follows from what it is
given. -/
def aliasTraits (intake : Intake) (isOpen : Bool) (traits : List Trait) : List Trait :=
  (if isOpen then [.indexed] else []) ++
    (if intake = .variables then [.base, .madePlain] else []) ++ traits.filter (· ≠ .indexed)

/-- The only type of some types, if they are all the same. -/
def onlyType? (ds : List Datum) : Option Datum :=
  match ds with
  | .null :: ds => if ds.all Datum.null.isSame then some (.known emptyType) else none
  | .text _ :: _ => none
  | d :: ds => if ds.all d.isSame then some d else none
  | [] => none

/-- What comes of indexing something from a library. A choice of one type is that type. -/
def indexKnown (k : Known) (index : Datum) : Machine Datum := do
  let intake ← orFail .typeMismatch (intakeOf? k)
  checkIntake intake index
  let given := givenTypes index
  match intake, onlyType? given with
  | .choice, some d => return d
  | _, _ =>
    return .known { k with
      nature := .alias
      traits := aliasTraits intake (← given.anyM isOpenType) k.traits }

/-! ## Choices -/

/-- The form of a choice between types. -/
def choiceForm : Known :=
  ⟨typesPath, "Union", .value, [.bare, .indexed]⟩

/-- Whether a choice between a datum and others is one of the module of types. -/
def makesChoice (d : Datum) : Bool :=
  match d with
  | .known k => k.path = typesPath && k.nature ∈ [.value, .alias] || isTypeVariable k
  | _ => false

/-- Whether a datum is a class, or an alias of one that checks nothing. -/
def isChoice (d : Datum) : Machine Bool := do
  match d with
  | .known k => return k.nature = .type || k.nature = .alias && k.path ≠ typesPath
  | .cell n =>
    match ← cellAt n with
    | .type _ _ _ => return true
    | _ => return false
  | _ => return false

/-- A choice between two data, of which one may be nothing. -/
def choiceOf (a b : Datum) : Machine Datum := do
  if makesChoice a || makesChoice b then indexKnown choiceForm (.tuple [a, b])
  else
    let left ← isChoice a
    let right ← isChoice b
    if left && right || left && b.isSame .null || a.isSame .null && right then
      return (onlyType? [a, b]).getD (.known ⟨"types", "UnionType", .alias, []⟩)
    else throw .typeMismatch

end LalrBackend.Code
