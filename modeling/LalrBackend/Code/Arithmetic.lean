import LalrBackend.Code.Item
import LalrBackend.Decimal.Arithmetic

/-!
# Operators

What operators make of data. Of complex numbers, of powers and remainders of real ones, and of what
libraries provide, only that the operation is allowed is known.
-/

namespace LalrBackend.Code

/-- How large numbers may grow. -/
def mostBits : Nat := 1000000

/-- A power of an integer. -/
def powerOf (m n : Int) : Machine Datum :=
  if n < 0 then
    if m = 0 then throw .divisionByZero else return .opaqueOf "float"
  else if mostBits < n.toNat * m.natAbs.log2 then throw .badValue
  else return .int (Int.pow m n.toNat)

/-- Integers bit by bit; a negative one has no highest bit that is not set. -/
def bitwise (f : Bool → Bool → Bool) (m n : Int) : Int :=
  let width := max m.natAbs.log2 n.natAbs.log2 + 2
  let bit := fun (k : Int) (i : Nat) => (k / Int.pow 2 i) % 2 == 1
  let sum := ((List.range width).map fun i =>
    if f (bit m i) (bit n i) then Int.pow 2 i else 0).foldl (· + ·) 0
  if f (m < 0) (n < 0) then sum - Int.pow 2 width else sum

/-- What an operator makes of two integers. -/
def integerResult (op : Operator) (m n : Int) : Machine Datum :=
  match op with
  | .add => return .int (m + n)
  | .sub => return .int (m - n)
  | .mul => return .int (m * n)
  | .div =>
    if n = 0 then throw .divisionByZero
    else return .real (Binary64.ofFraction (m = 0 && n < 0) (m * n.sign) n.natAbs)
  | .floorDiv => if n = 0 then throw .divisionByZero else return .int (m.fdiv n)
  | .mod => if n = 0 then throw .divisionByZero else return .int (m.fmod n)
  | .power => powerOf m n
  | .matrix => throw .typeMismatch
  | .shiftLeft =>
    if n < 0 then throw .badValue
    else if m = 0 then return .int 0
    else if mostBits < n.toNat then throw .badValue
    else return .int (m * Int.pow 2 n.toNat)
  | .shiftRight =>
    if n < 0 then throw .badValue
    else return .int (m.fdiv (Int.pow 2 (min n.toNat (m.natAbs.log2 + 1))))
  | .both => return .int (bitwise (· && ·) m n)
  | .either => return .int (bitwise (· || ·) m n)
  | .differ => return .int (bitwise (· != ·) m n)

/-- The kinds of numbers, in the order in which they take in each other. -/
inductive NumberKind where
  | integer
  | real
  | complex
  deriving Repr, DecidableEq

/-- What kind of number a datum is. -/
def numberKind? (d : Datum) : Option NumberKind :=
  match d with
  | .real _ => some .real
  | .known k =>
    if k.path ≠ "" then none
    else if k.name = "float" then some .real
    else if k.name = "complex" then some .complex
    else if k.name = "int" ∨ k.name = "bool" then some .integer
    else none
  | d => d.integer?.map fun _ => .integer

/-- Whether a datum is a number that is known to be zero. -/
def isZero (d : Datum) : Bool :=
  match d with
  | .real x => x.equalsInt 0
  | d => d.integer? == some 0

/-- The real number that a datum amounts to. An integer that is too large for one has none. -/
def real? (d : Datum) : Option Binary64 :=
  match d with
  | .real x => some x
  | d => (d.integer?.map Binary64.ofInt).filter (·.fraction?.isSome)

/-- What an operator makes of two real numbers, of which the second one is no divisor that is
zero. -/
def realResult? (op : Operator) (x y : Binary64) : Option Binary64 :=
  match op with
  | .add => some (x.plus y)
  | .sub => some (x.minus y)
  | .mul => some (x.times y)
  | .div => some (x.dividedBy y)
  | _ => none

/-- What an operator makes of two numbers that are not both integers. -/
def realResult (op : Operator) (kind : NumberKind) (a b : Datum) : Machine Datum := do
  let known := do realResult? op (← real? a) (← real? b)
  let result := (known.map Datum.real).getD
    (.opaqueOf (if kind = .complex then "complex" else "float"))
  let quotient := if isZero b then throw .divisionByZero else return result
  match op with
  | .add | .sub | .mul | .power => return result
  | .div => quotient
  | .floorDiv | .mod => if kind = .complex then throw .typeMismatch else quotient
  | _ => throw .typeMismatch

/-- The kind of the result of an operation on two numbers that are not both integers. -/
def sharedKind? (a b : Datum) : Option NumberKind :=
  match numberKind? a, numberKind? b with
  | some .integer, some .integer => none
  | some .complex, some _ => some .complex
  | some _, some .complex => some .complex
  | some _, some _ => some .real
  | _, _ => none

/-- A datum several times over; a negative number counts as none. -/
def repeated (count : Int) (d : Datum) : Machine Datum := do
  let times := fun (items : List Datum) => (List.replicate count.toNat items).flatten
  match d with
  | .text s => return .text (String.join (List.replicate count.toNat s))
  | .tuple items => return .tuple (times items)
  | .cell n =>
    match ← cellAt n with
    | .list items => makeList (times items)
    | _ => throw .typeMismatch
  | d => if d.isResultOf orderedTypes then return d else throw .typeMismatch

/-- The name of the type of a datum, as far as it is known. -/
def typeNameOf (d : Datum) : Machine String := do
  match d.resultType?, ← typeOf d with
  | some type, _ => return type
  | none, .known k => return k.name
  | none, _ => return ""

/-- What comes of two data of one type, of which one is a result of which only the type is known. -/
def sharedResult (types : List String) (a b : Datum) : Machine Datum := do
  let type ← typeNameOf a
  if (a.isResultOf types || b.isResultOf types) && type == (← typeNameOf b) then
    return .opaqueOf type
  else throw .typeMismatch

/-- The sum of data that are no numbers: one after the other. -/
def joined (a b : Datum) : Machine Datum := do
  match a, b with
  | .text s, .text t => return .text (s ++ t)
  | .tuple as, .tuple bs => return .tuple (as ++ bs)
  | .cell m, .cell n =>
    match ← cellAt m, ← cellAt n with
    | .list as, .list bs => makeList (as ++ bs)
    | _, _ => throw .typeMismatch
  | a, b => sharedResult orderedTypes a b

/-- A table with the entries of two tables; of equal keys the later value counts. -/
def mergedTable (a b : Datum) : Machine Datum := do
  let table ← makeCell (.table [])
  for d in [a, b] do
    for key in ← itemsOf d do setItem table key (← itemOf d key)
  return table

/-- What an operator makes of two data that are not both numbers. -/
def otherResult (op : Operator) (a b : Datum) : Machine Datum := do
  match op with
  | .add => joined a b
  | .mul =>
    match a.integer?, b.integer? with
    | some n, _ => repeated n b
    | _, some n => repeated n a
    | _, _ => throw .typeMismatch
  | .either => do
    if a.isResultOf ["set"] then sharedResult ["set"] a b
    else if (← isTable a) && (← isTable b) then mergedTable a b
    else choiceOf a b
  | .sub => sharedResult ["set"] a b
  | .both => sharedResult ["set"] a b
  | .differ => sharedResult ["set"] a b
  | .mod =>
    match a with
    | .text _ => return .opaqueOf "str"
    | _ => throw .typeMismatch
  | _ => throw .typeMismatch

/-- What an operator makes of two integers of which one is not known. -/
def unknownInteger (op : Operator) (divisor : Datum) : Machine Datum :=
  match op with
  | .matrix => throw .typeMismatch
  | .div => if isZero divisor then throw .divisionByZero else return .opaqueOf "float"
  | .floorDiv => if isZero divisor then throw .divisionByZero else return .opaqueOf "int"
  | .mod => if isZero divisor then throw .divisionByZero else return .opaqueOf "int"
  | _ => return .opaqueOf "int"

/-- What an operator makes of two data. -/
def operatorResult (op : Operator) (a b : Datum) : Machine Datum := do
  match a, b, op with
  | .bool a, .bool b, .both => return .bool (a && b)
  | .bool a, .bool b, .either => return .bool (a || b)
  | .bool a, .bool b, .differ => return .bool (a != b)
  | a, b, op =>
    match a.integer?, b.integer?, sharedKind? a b with
    | some m, some n, _ => integerResult op m n
    | _, _, some kind => realResult op kind a b
    | _, _, none =>
      if numberKind? a = some .integer ∧ numberKind? b = some .integer then unknownInteger op b
      else otherResult op a b

/-- What an operator before a datum makes of it. -/
def signed (op : SignOperator) (d : Datum) : Machine Datum :=
  match op, d, numberKind? d with
  | .invert, _, some .real => throw .typeMismatch
  | .invert, _, some .complex => throw .typeMismatch
  | .minus, .real x, _ => return .real x.negated
  | _, d, some .real => return d
  | _, d, some .complex => return d
  | _, .known _, some .integer => return .opaqueOf "int"
  | op, d, _ => do
    let n ← orFail .typeMismatch d.integer?
    match op with
    | .plus => return .int n
    | .minus => return .int (-n)
    | .invert => return .int (-n - 1)

end LalrBackend.Code
