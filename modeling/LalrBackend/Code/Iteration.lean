import LalrBackend.Code.Arguments
import LalrBackend.Code.Arithmetic

/-!
# Running through data

Routines that run through the items of data. A stream is run through by asking for its values, after
which it holds nothing.
-/

namespace LalrBackend.Code

/-- What runs through a stream when it is called with it. -/
def streamReader : Known :=
  ⟨"", "stream reader", .routine, [.bare]⟩

/-- The items of a datum one after the other; those of a stream are asked for. -/
def itemsBy (call : Call) (d : Datum) : Machine (List Datum) := do
  match d with
  | .cell n =>
    match ← cellAt n with
    | .stream _ => do itemsOf (← call (.known streamReader) [d] [])
    | _ => itemsOf d
  | d => itemsOf d

/-! ## Order -/

/-- Puts a datum into a sorted list, after those that are not greater. -/
def insertSorted (d : Datum) : List Datum → Machine (List Datum)
  | [] => return [d]
  | e :: es => do
    if ← compareData .less d e then return d :: e :: es
    else return e :: (← insertSorted d es)

/-- Sorts data. -/
def sortData (ds : List Datum) : Machine (List Datum) :=
  ds.foldlM (fun sorted d => insertSorted d sorted) []

/-- The first of some data that comes before or after all others, as a comparison tells. -/
def extremeOf (op : Comparison) (ds : List Datum) : Machine Datum := do
  match ds with
  | [] => throw .badValue
  | d :: ds => ds.foldlM (fun best d => do
      return if ← compareData op d best then d else best) d

/-! ## Ranges -/

/-- How many integers a range may have that are made one by one. -/
def mostSteps : Nat := 100000

/-- The integers from one on, up to one that is no longer among them. -/
def rangeOf (start stop gap : Int) : Machine Datum := do
  if gap = 0 then throw .badValue
  let count := ((stop - start + gap - (if 0 < gap then 1 else -1)) / gap).toNat
  if mostSteps < count then return .opaqueOf "range"
  return .tuple ((List.range count).map fun (i : Nat) => .int (start + i * gap))

/-! ## Routines over items -/

/-- The columns of some rows, up to the end of the shortest row. -/
def columnsOf (rows : List (List Datum)) : List (List Datum) :=
  let width := ((rows.map List.length).min?).getD 0
  (List.range width).map fun i => rows.filterMap (·[i]?)

/-- Takes the next value of a stream. -/
def nextOf (call : Call) (d : Datum) : Machine (Option Datum) := do
  match d with
  | .cell n =>
    match ← cellAt n with
    | .stream _ => do
      match ← itemsBy call d with
      | [] => return none
      | item :: rest => do
        setCell n (.stream (.items rest))
        return some item
    | _ => throw .typeMismatch
  | _ => throw .typeMismatch

/-- A stream of the items of a datum, which may be a stream already. -/
def streamOf (call : Call) (d : Datum) : Machine Datum := do
  match d with
  | .cell n =>
    match ← cellAt n with
    | .stream _ => return d
    | _ => makeStream (← itemsBy call d)
  | d => makeStream (← itemsBy call d)

/-- Makes a table; of equal keys the last value counts. -/
def makeTable (entries : List (Datum × Datum)) : Machine Datum := do
  let table ← makeCell (.table [])
  for (k, v) in entries do setItem table k v
  return table

/-- Makes a set, of which only is known that it is one. -/
def makeSet (items : List Datum) : Machine Datum := do
  for d in items do unless ← isKey d do throw .typeMismatch
  return .opaqueOf "set"

/-- Makes a table of a datum: a table anew, or pairs. -/
def tableFrom (call : Call) (d : Datum) : Machine Datum := do
  if ← isTable d then
    makeTable (← (← itemsOf d).mapM fun k => do return (k, ← itemOf d k))
  else
    makeTable (← (← itemsBy call d).mapM fun pair => do
      match ← itemsBy call pair with
      | [k, v] => return (k, v)
      | _ => throw .badValue)

/-- Calls a routine that runs through data, if a name is that of one that takes some arguments. -/
def callOver? (call : Call) (name : String) (args : List Datum) : Option (Machine Datum) :=
  match name, args with
  | "list", [d] => some do makeList (← itemsBy call d)
  | "tuple", [d] => some do return .tuple (← itemsBy call d)
  | "set", [d] => some do makeSet (← itemsBy call d)
  | "dict", [d] => some (tableFrom call d)
  | "sorted", [d] => some do makeList (← sortData (← itemsBy call d))
  | "sum", [d] => some do (← itemsBy call d).foldlM (operatorResult .add) (.int 0)
  | "any", [d] => some do return .bool (← (← itemsBy call d).anyM isTrue)
  | "all", [d] => some do return .bool (← (← itemsBy call d).allM isTrue)
  | "min", [d] => some do extremeOf .less (← itemsBy call d)
  | "max", [d] => some do extremeOf .greater (← itemsBy call d)
  | "min", d :: ds => some (extremeOf .less (d :: ds))
  | "max", d :: ds => some (extremeOf .greater (d :: ds))
  | "iter", [d] => some (streamOf call d)
  | "reversed", [d] => some do makeStream (← itemsOf d).reverse
  | "enumerate", [d] => some do
    makeStream ((← itemsBy call d).zipIdx.map fun (d, i) => .tuple [.int i, d])
  | "zip", ds => some do
    makeStream ((columnsOf (← ds.mapM (itemsBy call))).map .tuple)
  | "map", f :: d :: ds => some do
    makeCell (.stream (.results f (columnsOf (← (d :: ds).mapM (itemsBy call)))))
  | "next", [d] => some do orFail .exhausted (← nextOf call d)
  | "next", [d, default] => some do return (← nextOf call d).getD default
  | "range", [stop] => some do rangeOf 0 (← orFail .typeMismatch stop.integer?) 1
  | "range", [start, stop] => some do
    rangeOf (← orFail .typeMismatch start.integer?) (← orFail .typeMismatch stop.integer?) 1
  | "range", [start, stop, gap] => some do
    rangeOf (← orFail .typeMismatch start.integer?) (← orFail .typeMismatch stop.integer?)
      (← orFail .typeMismatch gap.integer?)
  | _, _ => none

end LalrBackend.Code
