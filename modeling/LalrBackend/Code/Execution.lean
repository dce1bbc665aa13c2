import LalrBackend.Code.Matching

/-!
# Running statements

What statements do, and what a call of a function does. A statement tells how it ends: whether the
next one follows, a loop is left or goes on with its next round, or a function gives a value back.
-/

namespace LalrBackend.Code

/-- How a statement ends. -/
inductive Outcome where
  | next
  | leavesLoop
  | nextRound
  | gives (d : Datum)

/-! ## Loops -/

/-- How often a loop may go round before a run counts as endless. -/
def mostRounds : Nat := 1000000

/-- Runs a body as long as a condition holds, and another block when it no longer does. -/
def runWhile (condition : Step Bool) (body otherwise : Step Outcome) : Nat → Step Outcome
  | 0 => throw .endless
  | fuel + 1 => do
    if ← condition then
      match ← body with
      | .leavesLoop => return .next
      | .gives d => return .gives d
      | _ => runWhile condition body otherwise fuel
    else otherwise

/-- Runs a body for data one after the other, and another block after them. -/
def runFor (body : Datum → Step Outcome) (otherwise : Step Outcome) :
    List Datum → Step Outcome
  | [] => otherwise
  | d :: ds => do
    match ← body d with
    | .leavesLoop => return .next
    | .gives d => return .gives d
    | _ => runFor body otherwise ds

/-! ## Attempts -/

/-- Runs something and gives what came of it, a fault included. -/
def capture {α : Type} (act : Step α) : Step (Except Fault α) :=
  try Except.ok <$> act catch fault => pure (.error fault)

/-- Runs something while a fault counts as being handled. -/
def whileHandling (fault : Fault) (act : Step Outcome) : Step Outcome := do
  let before := (← getThe Store).handled
  modifyThe Store fun s => { s with handled := some fault }
  let result ← capture act
  modifyThe Store fun s => { s with handled := before }
  liftExcept result

/-- Runs something, and then a block whatever came of it. A block that ends otherwise than by itself
decides how all of it ends. -/
def runFinally (act final : Step Outcome) : Step Outcome := do
  match ← capture act with
  | .ok outcome => do
    match ← final with
    | .next => return outcome
    | other => return other
  | .error fault => do
    match ← whileHandling fault final with
    | .next => throw fault
    | other => return other

/-- Runs a handler, in which the object that was raised may go by a name. -/
def runHandler (name : Option String) (fault : Fault) (made : Datum) (act : Step Outcome) :
    Step Outcome :=
  whileHandling fault do
    match name with
    | none => act
    | some name => do
      bindName name made
      runFinally act do
        let _ ← capture (dropName name)
        return .next

/-! ## Contexts -/

/-- Results of operations of which only the kind is known, and which are no contexts. -/
def plainResults : List String :=
  ["async_generator", "bytes", "complex", "dict", "float", "int", "range", "set", "slice", "str"]

/-- A method of the type of a context. What a library has made is a context as far as is known. -/
def contextMethod (d : Datum) (name : String) : Machine Datum := do
  match d with
  | .known k =>
    if k.nature = .value ∧ !(k.name ∈ plainResults) then return .opaqueOf name
    else throw .typeMismatch
  | _ =>
    match ← typeOf d with
    | .cell cls => do bindMember d (← orFail .typeMismatch (← classMember? (.cell cls) name))
    | _ => throw .typeMismatch

/-- Calls a method of a context; of one that a library has made, nothing is known to come of it. -/
def callContext (call : Call) (method : Datum) (args : List Datum) : Machine Datum :=
  match method with
  | .known _ => return .null
  | method => call method args []

/-- Runs something within a context, given the method that leaves it. -/
def runWithin (call : Call) (leave : Datum) (act : Step Outcome) : Step Outcome := do
  match ← capture act with
  | .ok outcome => do
    let _ ← callContext call leave [.null, .null, .null]
    return outcome
  | .error fault => do
    let made ← fault.object
    let answer ← callContext call leave [← typeOf made, made, .opaqueOf "traceback"]
    if ← isTrue answer then return .next else throw fault

/-! ## Classes -/

/-- Whether something can be a base of a class. -/
def canBeBase (d : Datum) : Machine Bool := do
  match d with
  | .known k => return .base ∈ k.traits
  | .cell n =>
    match ← cellAt n with
    | .type _ _ _ => return true
    | _ => return false
  | _ => return false

/-- Whether bases of a class are in order: no one stands before itself or before a class that is
based on it. -/
def Store.areOrdered (s : Store) : List Datum → Bool
  | [] => true
  | d :: ds => !ds.any (s.isBelow d depthLimit) && s.areOrdered ds

/-- Checks what is said of a class by name: only what makes it, and that it is made as usual. -/
def checkMaker (named : List (String × Datum)) : Machine Unit := do
  for (name, d) in named do
    unless name == "metaclass" && d.isSame (.known (builtinType "type")) do throw .typeMismatch

/-- Checks what a class is based on and what is said of it by name. -/
def checkClass (bases : List Datum) (named : List (String × Datum)) : Machine Unit := do
  checkMaker named
  for d in bases do unless ← canBeBase d do throw .typeMismatch
  unless (← get).areOrdered bases do throw .typeMismatch

/-- What becomes of a function or a class by what is applied to it, the last one first. -/
def wrapAll (call : Call) (d : Datum) : List Datum → Machine Datum
  | [] => return d
  | w :: ws => do call w [← wrapAll call d ws] []

/-! ## Statements -/

mutual

/-- Runs a statement. -/
def Statement.run (call : Call) : Statement → Step Outcome
  | .pass => return .next
  | .compute e => do
    let _ ← e.eval call
    return .next
  | .assign targets e => do
    assignAll call (← e.eval call) targets
    return .next
  | .augment target op e => do
    Expr.augment call op e target
    return .next
  | .annotate target _ type e => do
    match e with
    | some e => target.assign call (← e.eval call)
    | none => target.visit call
    if !(← read).place.isInFunction then
      let _ ← type.eval call
    return .next
  | .giveBack none => return .gives .null
  | .giveBack (some e) => do return .gives (← e.eval call)
  | .raise none _ => do throw ((← getThe Store).handled.getD .nothingRaised)
  | .raise (some e) cause => do
    let d ← e.eval call
    let cause ←
      match cause with
      | some cause => cause.eval call
      | none => pure .null
    raiseDatum call d cause
    return .next
  | .claim e otherwise => do
    unless ← isTrue (← e.eval call) do
      match otherwise with
      | some e => do
        let _ ← e.eval call
      | none => pure ()
      throw .claimFailed
    return .next
  | .delete targets => do
    for t in targets do t.delete call
    return .next
  | .load modules => do
    for m in modules do importModule m
    return .next
  | .loadFrom level path names => do
    importFrom level path names
    return .next
  | .makeGlobal _ => return .next
  | .makeOuter _ => return .next
  | .leaveLoop => return .leavesLoop
  | .nextRound => return .nextRound
  | .branch condition yes no => do
    if ← isTrue (← condition.eval call) then runAll call yes else runAll call no
  | .loop condition body no =>
    runWhile (do isTrue (← condition.eval call)) (runAll call body) (runAll call no) mostRounds
  | .forEach _ target source body no => do
    let items ← itemsBy call (← source.eval call)
    runFor (fun d => do
      target.assign call d
      runAll call body) (runAll call no) items
  | .attempt body handlers no final =>
    runFinally (do
      match ← capture (runAll call body) with
      | .ok .next => runAll call no
      | .ok outcome => return outcome
      | .error fault => runHandlers call fault (← fault.object) handlers) (runAll call final)
  | .handle _ _ _ body => runAll call body
  | .within _ e target body => do
    let context ← e.eval call
    let enter ← contextMethod context "__enter__"
    let leave ← contextMethod context "__exit__"
    let entered ← callContext call enter []
    runWithin call leave do
      match target with
      | some t => t.assign call entered
      | none => pure ()
      runAll call body
  | .select e cases => do runCases call (← e.eval call) cases
  | .inCase _ _ body => runAll call body
  | .define isAsync name p wrappers defaults types body => do
    let wrappers ← evalItems call wrappers
    let defaults ← evalItems call defaults
    let _ ← evalItems call types
    bindName name (← wrapAll call (← makeRoutine isAsync name p defaults body) wrappers)
    return .next
  | .makeClass name wrappers args body => do
    let wrappers ← evalItems call wrappers
    let (bases, named) ← evalArguments call args
    let number ← newCell (.type name bases [])
    let frame ← Frame.ofClass (← read) number body
    let _ ← (runAll call body).run frame
    checkClass bases named
    setCell number (.type name bases (← namesIn frame.scope.2))
    bindName name (← wrapAll call (.cell number) wrappers)
    return .next

/-- Runs statements one after the other as long as the next one follows. -/
def runAll (call : Call) : List Statement → Step Outcome
  | [] => return .next
  | s :: ss => do
    match ← s.run call with
    | .next => runAll call ss
    | outcome => return outcome

/-- Runs the first of some handlers that handles what was raised. -/
def runHandlers (call : Call) (fault : Fault) (made : Datum) : List Statement → Step Outcome
  | .handle _ none name body :: _ => runHandler name fault made (runAll call body)
  | .handle _ (some type) name body :: ss => do
    if ← isHandledBy made (← type.eval call) then
      runHandler name fault made (runAll call body)
    else runHandlers call fault made ss
  | _ :: ss => runHandlers call fault made ss
  | [] => throw fault

/-- Runs the first of some cases that a datum fits. The names of a pattern are bound before its
condition is looked at. -/
def runCases (call : Call) (d : Datum) : List Statement → Step Outcome
  | .inCase p guard body :: ss => do
    match ← p.fit call d with
    | none => runCases call d ss
    | some bound => do
      for (name, d) in bound do bindName name d
      let holds ←
        match guard with
        | some e => do isTrue (← e.eval call)
        | none => pure true
      if holds then runAll call body else runCases call d ss
  | _ => return .next

end

/-! ## Calls -/

/-- The parameters of a function that take one value each, with their defaults. -/
def Routine.signature (r : Routine) : List (String × Option Datum) :=
  let defaults := r.parameters.optional.zip r.defaults
  (r.parameters.plain ++ r.parameters.named).map fun n => (n, defaults.lookup n)

/-- The names that a function has when it is called. What no parameter takes goes to those that
take all further values. -/
def Routine.bindings (r : Routine) (args : List Datum) (named : List (String × Datum)) :
    Machine (List (String × Datum)) := do
  let p := r.parameters
  let further := args.drop p.plain.length
  let nameable := p.plain.drop p.placed ++ p.named
  let other := named.filter fun n => !(n.1 ∈ nameable)
  if (p.rest.isNone ∧ !further.isEmpty) ∨ (p.restNamed.isNone ∧ !other.isEmpty) then
    throw .typeMismatch
  let mine := named.filter fun n => n.1 ∈ nameable
  let own := p.plain.take args.length
  if mine.any fun n => n.1 ∈ own then throw .typeMismatch
  let given := own.zip args ++ mine
  let bound ← r.signature.mapM fun (name, default) => do
    return (name, ← orFail .typeMismatch ((given.lookup name).or default))
  let rest ← match p.rest with
    | some name => pure [(name, Datum.tuple further)]
    | none => pure []
  let restNamed ← match p.restNamed with
    | some name => do pure [(name, ← makeTable (other.map fun (n, d) => (.text n, d)))]
    | none => pure []
  return bound ++ rest ++ restNamed

/-- Runs the body of a function in a frame. -/
def runBody (call : Call) (body : List Statement) (frame : Frame) : Machine Datum := do
  match ← (runAll call body).run frame with
  | .gives d => return d
  | _ => return .null

/-- Calls a function. -/
def Routine.call (r : Routine) (call : Call) (args : List Datum)
    (named : List (String × Datum)) : Machine Datum := do
  let frame ← r.frame (← r.bindings args named)
  match r.kind with
  | .atOnce => runBody call r.body frame
  | .stream => makeCell (.stream (.body frame r.body))
  | .waiting => return .opaqueOf "coroutine"

/-- The values that a source gives out. -/
def Source.read (call : Call) : Source → Machine (List Datum)
  | .items ds => return ds
  | .results f args => args.mapM fun ds => call f ds []
  | .body frame statements => do
    let outlet ← newCell (.list [])
    let _ ← runBody call statements { frame with outlet := some outlet }
    itemsOf (.cell outlet)
  | .gathering frame element clauses first =>
    (evalGathered call (element.eval call) (some first) clauses).run frame

/-- Runs through a stream, which holds nothing afterwards. -/
def readStream (call : Call) (d : Datum) : Machine Datum := do
  match d with
  | .cell n =>
    match ← cellAt n with
    | .stream source => do
      setCell n (.stream (.items []))
      makeList (← source.read call)
    | _ => makeList []
  | _ => makeList []

/-- Calls something, with a limit on how deep calls go. -/
def callAt : Nat → Call
  | 0, _, _, _ => throw .endless
  | depth + 1, f, args, named => do
    let (f, args) :=
      match f with
      | .bound self routine => (routine, self :: args)
      | f => (f, args)
    match f with
    | .known k =>
      if k = streamReader then readStream (callAt depth) (argument args 0)
      else callKnown (callAt depth) k args named
    | .cell n =>
      match ← cellAt n with
      | .routine r _ => r.call (callAt depth) args named
      | .type _ _ _ => instantiate (callAt depth) f args named
      | .object cls _ =>
        match ← classMember? cls "__call__" with
        | some member => callAt depth (← bindMember f member) args named
        | none => throw .typeMismatch
      | _ => throw .typeMismatch
    | _ => throw .typeMismatch

/-- How deep calls go before a run counts as endless. -/
def mostCalls : Nat := 900

/-- Calls something. -/
def callDatum : Call :=
  callAt mostCalls

end LalrBackend.Code
