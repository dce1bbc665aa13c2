import LalrBackend.Code.Evaluation

/-!
# Fitting patterns

Whether a datum fits a pattern, and which names get which data if it does. No name is bound before the
whole pattern is fitted.
-/

namespace LalrBackend.Code

/-- The names that a pattern gives to data. -/
abbrev Bindings := List (String × Datum)

/-- Whether a pattern takes all items that others leave. -/
def Pattern.isLeftOver : Pattern → Bool
  | .leftOver _ => true
  | _ => false

/-- The items of a datum that is a list or a tuple. -/
def sequenceItems? (d : Datum) : Machine (Option (List Datum)) := do
  return ((← get).orderedItems? d).map (·.2)

/-- Divides the items of a datum among patterns, if there are as many as they need. -/
def itemsForPatterns? (d : Datum) (ps : List Pattern) : Machine (Option (List Datum)) := do
  match ← sequenceItems? d with
  | none => return none
  | some items =>
    if ps.any Pattern.isLeftOver then
      let before := (ps.takeWhile (!·.isLeftOver)).length
      let after := ps.length - before - 1
      if items.length < before + after then return none
      else return some (← spreadItems before after items)
    else return if items.length = ps.length then some items else none

/-- The types whose objects are their own first part. -/
def wholeTypes : List String :=
  ["bool", "bytearray", "bytes", "dict", "float", "frozenset", "int", "list", "set", "str", "tuple"]

/-- An attribute of a datum, if it has it. -/
def attribute? (d : Datum) (name : String) : Machine (Option Datum) :=
  try some <$> attributeOf d name
  catch fault =>
    match fault with
    | .noAttribute => pure none
    | fault => throw fault

/-- The names under which objects of a class have their parts in order. -/
def partNames (cls : Datum) : Machine (List String) := do
  match ← classMember? cls "__match_args__" with
  | none => return []
  | some d =>
    match d with
    | .tuple names => names.mapM fun n =>
      match n with
      | .text s => return s
      | _ => throw .typeMismatch
    | _ => throw .typeMismatch

/-- Whether objects of a class are their own first part. -/
def isWhole (cls : Datum) : Machine Bool := do
  let s ← get
  return wholeTypes.any fun name => s.isBelow (.known (builtinType name)) depthLimit cls

/-- The parts of an object, if it has them: the first ones in order, and those of some names. -/
def partsOf? (cls d : Datum) (count : Nat) (names : List String) :
    Machine (Option (List Datum)) := do
  let inOrder ← partNames cls
  let whole ← isWhole cls
  if whole ∧ inOrder.isEmpty ∧ count = 1 then
    let parts ← names.mapM (attribute? d)
    return (parts.mapM id).map (d :: ·)
  else
    if inOrder.length < count then throw .typeMismatch
    let own := inOrder.take count
    if own.any (· ∈ names) then throw .typeMismatch
    return (← (own ++ names).mapM (attribute? d)).mapM id

/-- The values of some keys of a table and the entries of other keys, if it has all of them. -/
def entriesFor? (d : Datum) (keys : List Datum) :
    Machine (Option (List Datum × List (Datum × Datum))) := do
  if !(← isTable d) then return none
  let entries ← (← itemsOf d).mapM fun k => do return (k, ← itemOf d k)
  if entries.length < keys.length then return none
  let values ← keys.mapM fun k => entryOf? k entries
  let others ← entries.filterM fun (k, _) => do return !(← anyEqual k keys)
  return (values.mapM id).map (·, others)

mutual

/-- Fits a datum to a pattern. -/
def Pattern.fit (call : Call) (d : Datum) : Pattern → Step (Option Bindings)
  | .any => return some []
  | .value e => do
    return if ← areEqual d (← e.eval call) then some [] else none
  | .exactly c => return if d.isSame c.datum then some [] else none
  | .capture n => return some [(n, d)]
  | .named p n => do return (← p.fit call d).map (· ++ [(n, d)])
  | .oneOf ps => fitOne call d ps
  | .sequence ps => do
    match ← itemsForPatterns? d ps with
    | some items => fitAll call items ps
    | none => return none
  | .leftOver n => return some (n.toList.map (·, d))
  | .table keys ps rest => do
    match ← entriesFor? d (← evalItems call keys) with
    | some (values, others) => do
      let bound ← fitAll call values ps
      let others ← makeTable others
      return bound.map (· ++ rest.toList.map (·, others))
    | none => return none
  | .object cls ps names named => do
    let cls ← cls.eval call
    if !(← isOfType (← typeOf d) cls) then return none
    match ← partsOf? cls d ps.length names with
    | none => return none
    | some parts =>
      match ← fitAll call parts ps with
      | none => return none
      | some bound => return (← fitAll call (parts.drop ps.length) named).map (bound ++ ·)

/-- Fits data to patterns one by one. -/
def fitAll (call : Call) : List Datum → List Pattern → Step (Option Bindings)
  | d :: ds, p :: ps => do
    match ← p.fit call d with
    | none => return none
    | some bound => return (← fitAll call ds ps).map (bound ++ ·)
  | _, _ => return some []

/-- Fits a datum to the first of some patterns that it fits. -/
def fitOne (call : Call) (d : Datum) : List Pattern → Step (Option Bindings)
  | [] => return none
  | p :: ps => do
    match ← p.fit call d with
    | some bound => return some bound
    | none => fitOne call d ps

end

end LalrBackend.Code
