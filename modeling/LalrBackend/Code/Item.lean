import LalrBackend.Code.Generic
import LalrBackend.Position

/-!
# Items

The items of lists, tuples, texts and tables, and what data hold one after the other.
-/

namespace LalrBackend.Code

/-- The items of a datum one after the other. Of a result of which only the type is known, none
is. -/
def itemsOf (d : Datum) : Machine (List Datum) := do
  match d with
  | .known _ =>
    if d.isResultOf filledTypes then return [] else throw .typeMismatch
  | .tuple items => return items
  | .text s => return (Text.singles s).map .text
  | .cell n =>
    match ← cellAt n with
    | .list items => return items
    | .table entries => return entries.map (·.1)
    | _ => throw .typeMismatch
  | _ => throw .typeMismatch

/-- The item at an index. -/
def itemAt (items : List Datum) (index : Datum) : Machine Datum := do
  let n ← orFail .typeMismatch index.integer?
  orFail .noSlot ((position? items.length n).bind (items[·]?))

/-- An item of a result of which only the type is known. -/
def itemOfResult (type : String) (index : Datum) : Machine Datum := do
  if type ∈ orderedTypes ∧ index.integer?.isNone then throw .typeMismatch
  return .opaqueOf (if type = "str" then type else if type = "bytes" then "int" else "object")

/-- The item of a datum at an index. -/
def itemOf (d index : Datum) : Machine Datum := do
  match d with
  | .tuple items => itemAt items index
  | .text _ => itemAt (← itemsOf d) index
  | .known k =>
    match d.resultType? with
    | some type =>
      if type = "dict" ∨ type ∈ orderedTypes then itemOfResult type index else throw .typeMismatch
    | none => indexKnown k index
  | .cell n =>
    match ← cellAt n with
    | .list items => itemAt items index
    | .table entries => do orFail .noKey (← entryOf? index entries)
    | _ => throw .typeMismatch
  | _ => throw .typeMismatch

/-- The end of a slice: a number from the front, or from the end if it is negative. -/
def sliceEnd (count : Nat) (default : Int) (d : Datum) : Machine Int := do
  match d with
  | .null => return default
  | d => do
    let n ← orFail .typeMismatch d.integer?
    return if n < 0 then max (n + count) (-1) else min n count

/-- The positions of a slice. -/
def slicePositions (count : Nat) (start stop step : Datum) : Machine (List Nat) := do
  let gap ← match step with
    | .null => pure 1
    | d => orFail .typeMismatch d.integer?
  if gap = 0 then throw .badValue
  let first ← sliceEnd count (if gap < 0 then (count : Int) - 1 else 0) start
  let last ← sliceEnd count (if gap < 0 then -1 else (count : Int)) stop
  let first := if gap < 0 then min first ((count : Int) - 1) else max first 0
  return (List.range count).filterMap fun (i : Nat) =>
    let p := first + (i : Int) * gap
    if (if gap < 0 then last < p ∧ 0 ≤ p else p < last) then some p.toNat else none

/-- A slice of a datum. Something from a library takes the slice as an index. -/
def sliceOf (d start stop step : Datum) : Machine Datum := do
  match d with
  | .known k =>
    match d.resultType? with
    | some type => if type ∈ orderedTypes then return d else throw .typeMismatch
    | none => indexKnown k (.opaqueOf "slice")
  | d => do
    if ← isTable d then throw .typeMismatch
    let items ← itemsOf d
    let chosen := (← slicePositions items.length start stop step).filterMap (items[·]?)
    match d with
    | .tuple _ => return .tuple chosen
    | .text _ => return .text (String.join (chosen.map fun c =>
        match c with
        | .text s => s
        | _ => ""))
    | _ => makeList chosen

/-- Sets the item of a datum at an index. -/
def setItem (d index v : Datum) : Machine Unit := do
  match d with
  | .cell n =>
    match ← cellAt n with
    | .list items => do
      let i ← orFail .typeMismatch index.integer?
      let p ← orFail .noSlot (position? items.length i)
      setCell n (.list (items.set p v))
    | .table entries => do
      let s ← get
      match ← entryOf? index entries with
      | some _ =>
        setCell n (.table (entries.map fun (k, w) =>
          if s.equal depthLimit k index then (k, v) else (k, w)))
      | none => setCell n (.table (entries ++ [(index, v)]))
    | _ => throw .typeMismatch
  | _ => throw .typeMismatch

/-- Deletes the item of a datum at an index. -/
def deleteItem (d index : Datum) : Machine Unit := do
  match d with
  | .cell n =>
    match ← cellAt n with
    | .list items => do
      let i ← orFail .typeMismatch index.integer?
      let p ← orFail .noSlot (position? items.length i)
      setCell n (.list (items.eraseIdx p))
    | .table entries => do
      let s ← get
      let _ ← orFail .noKey (← entryOf? index entries)
      setCell n (.table (entries.filter fun (k, _) => !s.equal depthLimit k index))
    | _ => throw .typeMismatch
  | _ => throw .typeMismatch

/-- Replaces a slice of a list by the items of a datum. Only a slice without gaps can be replaced by
a different number of items. -/
def setSlice (d start stop step v : Datum) : Machine Unit := do
  match d with
  | .cell n =>
    match ← cellAt n with
    | .list items => do
      let new ← itemsOf v
      let ps ← slicePositions items.length start stop step
      match step with
      | .null =>
        let first := ((← sliceEnd items.length 0 start).toNat)
        setCell n (.list (items.take first ++ new ++ items.drop (first + ps.length)))
      | _ =>
        if ps.length ≠ new.length then throw .badValue
        setCell n (.list ((ps.zip new).foldl (fun items (p, v) => items.set p v) items))
    | _ => throw .typeMismatch
  | _ => throw .typeMismatch

end LalrBackend.Code
