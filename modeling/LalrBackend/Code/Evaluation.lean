import LalrBackend.Code.Failure
import LalrBackend.Code.Frame

/-!
# Evaluating expressions

What expressions amount to, and how targets are assigned to. Calls are given from outside: a call may
run a function, and how deep calls may go is decided there. A stream gives out its values when
something runs through it.
-/

namespace LalrBackend.Code

/-- The datum of a constant. -/
def Constant.datum : Constant → Datum
  | .null => .null
  | .ellipsis => .known (builtinType "Ellipsis")
  | .bool b => .bool b
  | .int n => .int n
  | .real x => .real x
  | .imaginary _ => .opaqueOf "complex"
  | .text s => .text s
  | .bytes _ => .opaqueOf "bytes"

/-- The text of a datum within a formatted text. -/
def formattedPart (d : Datum) : Machine String := do
  return (← handOut d).write true

/-- The entries of a table. -/
def entriesOf (d : Datum) : Machine (List (Datum × Datum)) := do
  match d with
  | .cell n =>
    match ← cellAt n with
    | .table entries => return entries
    | _ => throw .typeMismatch
  | _ => throw .typeMismatch

/-- The entries of a table as arguments for names. -/
def namedOf (d : Datum) : Machine (List (String × Datum)) := do
  (← entriesOf d).mapM fun (k, v) =>
    match k with
    | .text name => return (name, v)
    | _ => throw .typeMismatch

/-- Makes a function. -/
def makeRoutine (isAsync : Bool) (name : String) (p : Parameters) (defaults : List Datum)
    (body : List Statement) : Step Datum := do
  let f ← read
  makeCell (.routine ⟨name, p, defaults, body, callKind isAsync body, f.enclosing, f.owner⟩ [])

/-- What waits for its items, or for what it makes of them. -/
def waitingStream : Datum :=
  .opaqueOf "async_generator"

/-- Gives a value out of the function that runs. -/
def giveOut (d : Datum) : Step Unit := do
  match (← read).outlet with
  | some list =>
    let _ ← appendItem (.cell list) d
  | none => return ()

/-- Whether the first clause of a gathering waits for its items. -/
def firstIsAsync : List Expr → Bool
  | .forEach isAsync _ _ :: _ => isAsync
  | _ => false

/-- The arguments of a call: by position, and by name. -/
abbrev Arguments := List Datum × List (String × Datum)

/-- Divides the items for a target that takes all that others leave. -/
def spreadItems (before after : Nat) (items : List Datum) : Machine (List Datum) := do
  if items.length < before + after then throw .badValue
  let middle := (items.drop before).take (items.length - before - after)
  return items.take before ++ [← makeList middle] ++ items.drop (items.length - after)

/-- Whether an expression takes all items that others leave. -/
def Expr.isSpread : Expr → Bool
  | .spread _ => true
  | _ => false

/-- The items of a datum for targets. -/
def itemsFor (call : Call) (targets : List Expr) (d : Datum) : Machine (List Datum) := do
  let items ← itemsBy call d
  if targets.any Expr.isSpread then
    let before := (targets.takeWhile (!·.isSpread)).length
    spreadItems before (targets.length - before - 1) items
  else if items.length = targets.length then return items
  else throw .badValue

mutual

/-- Evaluates an expression. -/
def Expr.eval (call : Call) : Expr → Step Datum
  | .name n => readName n
  | .constant c => return c.datum
  | .formatted parts => do return .text (String.join (← evalTexts call parts))
  | .list items => do makeList (← evalItems call items)
  | .tuple items => do return .tuple (← evalItems call items)
  | .set items => do makeSet (← evalItems call items)
  | .table entries => do makeTable (← evalEntries call entries)
  | .entry k v => do return .tuple [← k.eval call, ← v.eval call]
  | .spread e => e.eval call
  | .spreadEntries e => e.eval call
  | .argument _ e => e.eval call
  | .sign op e => do signed op (← e.eval call)
  | .negation e => do return .bool (!(← isTrue (← e.eval call)))
  | .binary op a b => do
    let a ← a.eval call
    operatorResult op a (← b.eval call)
  | .conjunction a b => do
    let a ← a.eval call
    if ← isTrue a then b.eval call else return a
  | .disjunction a b => do
    let a ← a.eval call
    if ← isTrue a then return a else b.eval call
  | .compare a ops es => do return .bool (← evalChain call (← a.eval call) ops es)
  | .choose c yes no => do
    if ← isTrue (← c.eval call) then yes.eval call else no.eval call
  | .lambda p defaults body => do
    makeRoutine false "<lambda>" p (← evalItems call defaults) [.giveBack (some body)]
  | .attribute e n => do attributeOf (← e.eval call) n
  | .item e (.slice a b c) => do
    let d ← e.eval call
    let a ← a.eval call
    let b ← b.eval call
    sliceOf d a b (← c.eval call)
  | .item e i => do
    let d ← e.eval call
    itemOf d (← i.eval call)
  | .slice a b c => do
    let _ ← a.eval call
    let _ ← b.eval call
    let _ ← c.eval call
    return .opaqueOf "slice"
  | .call f args => do
    let f ← f.eval call
    let (args, named) ← evalArguments call args
    match f, args with
    | .known ⟨"builtins", "super", _, _⟩, [] => seenFromAbove
    | f, args => call f args named
  | .gather kind e clauses => do
    let first ← evalFirst call clauses
    let frame ← Frame.ofGathering (← read) (clauseNames clauses)
    if kind = .stream then
      if firstIsAsync clauses then throw .typeMismatch
      else if gatheringWaits e clauses then return waitingStream
      else makeCell (.stream (.gathering frame e clauses first))
    else
      let items ← (evalGathered call (e.eval call) (some first) clauses).run frame
      match kind with
      | .set => makeSet items
      | .table => makeTable (← items.mapM fun d =>
          match d with
          | .tuple [k, v] => return (k, v)
          | _ => throw .typeMismatch)
      | _ => makeList items
  | .forEach _ _ e => e.eval call
  | .onlyIf e => e.eval call
  | .await e => e.eval call
  | .yield e => do
    giveOut (← e.eval call)
    return .null
  | .yieldFrom e => do
    for d in ← itemsBy call (← e.eval call) do giveOut d
    return .null
  | .bind n e => do
    let d ← e.eval call
    bindName n d
    return d

/-- Evaluates the parts of a formatted text. -/
def evalTexts (call : Call) : List Expr → Step (List String)
  | [] => return []
  | e :: es => do
    let s ← formattedPart (← e.eval call)
    return s :: (← evalTexts call es)

/-- Evaluates items of which some may be spread. -/
def evalItems (call : Call) : List Expr → Step (List Datum)
  | [] => return []
  | .spread e :: es => do
    let items ← itemsBy call (← e.eval call)
    return items ++ (← evalItems call es)
  | e :: es => do
    let d ← e.eval call
    return d :: (← evalItems call es)

/-- Evaluates the arguments of a call. -/
def evalArguments (call : Call) : List Expr → Step Arguments
  | [] => return ([], [])
  | .spread e :: es => do
    let items ← itemsBy call (← e.eval call)
    let (args, named) ← evalArguments call es
    return (items ++ args, named)
  | .spreadEntries e :: es => do
    let more ← namedOf (← e.eval call)
    let (args, named) ← evalArguments call es
    return (args, more ++ named)
  | .argument n e :: es => do
    let d ← e.eval call
    let (args, named) ← evalArguments call es
    return (args, (n, d) :: named)
  | e :: es => do
    let d ← e.eval call
    let (args, named) ← evalArguments call es
    return (d :: args, named)

/-- Evaluates the entries of a table. -/
def evalEntries (call : Call) : List Expr → Step (List (Datum × Datum))
  | [] => return []
  | .entry k v :: es => do
    let k ← k.eval call
    let v ← v.eval call
    return (k, v) :: (← evalEntries call es)
  | .spreadEntries e :: es => do
    let entries ← entriesOf (← e.eval call)
    return entries ++ (← evalEntries call es)
  | e :: es => do
    let _ ← e.eval call
    evalEntries call es

/-- Evaluates a chain of comparisons until one does not hold. -/
def evalChain (call : Call) (d : Datum) : List Comparison → List Expr → Step Bool
  | op :: ops, e :: es => do
    let d' ← e.eval call
    if ← compareData op d d' then evalChain call d' ops es else return false
  | _, _ => return true

/-- The items that the first clause of a gathering runs through. -/
def evalFirst (call : Call) : List Expr → Step (List Datum)
  | .forEach _ _ e :: _ => do itemsBy call (← e.eval call)
  | _ => return []

/-- Evaluates the elements of a gathering, each by the given step. The items of the first clause may
be given. -/
def evalGathered (call : Call) (element : Step Datum) (first : Option (List Datum)) :
    List Expr → Step (List Datum)
  | [] => do return [← element]
  | .forEach _ t e :: es => do
    let items ←
      match first with
      | some items => pure items
      | none => itemsBy call (← e.eval call)
    let parts ← items.mapM fun d => do
      t.assign call d
      evalGathered call element none es
    return parts.flatten
  | e :: es => do
    if ← isTrue (← e.eval call) then evalGathered call element none es else return []

/-- Assigns a datum to a target. -/
def Expr.assign (call : Call) : Expr → Datum → Step Unit
  | .name n, d => bindName n d
  | .attribute e n, d => do setAttribute (← e.eval call) n d
  | .item e (.slice a b c), d => do
    let list ← e.eval call
    let a ← a.eval call
    let b ← b.eval call
    setSlice list a b (← c.eval call) d
  | .item e i, d => do
    let container ← e.eval call
    setItem container (← i.eval call) d
  | .list items, d => do assignItems call items (← itemsFor call items d)
  | .tuple items, d => do assignItems call items (← itemsFor call items d)
  | .spread e, d => e.assign call d
  | _, _ => throw .typeMismatch

/-- Assigns data to targets one by one. -/
def assignItems (call : Call) : List Expr → List Datum → Step Unit
  | t :: ts, d :: ds => do
    t.assign call d
    assignItems call ts ds
  | _, _ => return ()

end

/-- Assigns a datum to several targets. -/
def assignAll (call : Call) (d : Datum) : List Expr → Step Unit
  | [] => return ()
  | t :: ts => do
    t.assign call d
    assignAll call d ts

/-- Evaluates what a target refers to, without assigning to it. -/
def Expr.visit (call : Call) : Expr → Step Unit
  | .attribute e _ => do
    let _ ← e.eval call
  | .item e i => do
    let _ ← e.eval call
    let _ ← i.eval call
  | _ => return ()

/-- Changes a target in place. -/
def Expr.augment (call : Call) (op : Operator) (value : Expr) : Expr → Step Unit
  | .attribute e n => do
    let d ← e.eval call
    let old ← attributeOf d n
    setAttribute d n (← operatorResult op old (← value.eval call))
  | .item e i => do
    let d ← e.eval call
    let i ← i.eval call
    let old ← itemOf d i
    setItem d i (← operatorResult op old (← value.eval call))
  | .name n => do
    let old ← readName n
    bindName n (← operatorResult op old (← value.eval call))
  | _ => throw .typeMismatch

/-- Deletes a target. -/
def Expr.delete (call : Call) : Expr → Step Unit
  | .name n => dropName n
  | .attribute e n => do deleteAttribute (← e.eval call) n
  | .item e i => do
    let d ← e.eval call
    deleteItem d (← i.eval call)
  | .list items => deleteAll call items
  | .tuple items => deleteAll call items
  | _ => throw .typeMismatch
where
  /-- Deletes targets. -/
  deleteAll (call : Call) : List Expr → Step Unit
    | [] => return ()
    | e :: es => do
      e.delete call
      deleteAll call es

end LalrBackend.Code
