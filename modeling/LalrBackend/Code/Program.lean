import LalrBackend.Code.Block
import LalrBackend.Code.Execution
import LalrBackend.Code.Nesting
import LalrBackend.Code.Soundness

/-!
# Programs

A program is a module that has been run and an object that was made from one of its classes. It
answers calls of the object's methods, and keeps what they change even if they fail.
-/

namespace LalrBackend.Code

/-- Why a text gives no program: it holds a surrogate or a zero, it cannot be read or breaks a rule,
its parts are nested too deep to be read or to be understood, what it does fails, or the class goes
by another name than its own. -/
inductive ProgramError where
  | loneSurrogate
  | zeroCharacter
  | unreadable (error : ReadError)
  | tooDeepToRead
  | tooNested
  | run (failure : Failure)
  | otherName
  deriving Repr

/-- A program: all that it can change, and its object. -/
structure Program where
  store : Store
  self : Datum

namespace Program

/-- Runs something on a store to its end, and tells how it failed if it did. -/
def runOn {α : Type} (s : Store) (act : Machine α) : Except Failure α × Store :=
  match act.run.run s with
  | (.ok a, s) => (.ok a, s)
  | (.error fault, s) =>
    match fault.failure.run.run s with
    | (.ok failure, s) => (.error failure, s)
    | (.error fault, s) => (.error (.raised fault.typeName), s)

/-- Lets a program do something. -/
def perform {α : Type} (p : Program) (act : Datum → Machine α) : Except Failure α × Program :=
  let (r, s) := runOn p.store (act p.self)
  (r, { p with store := s })

/-- Reads the text of a module. -/
def read (text : String) : Except ProgramError (List Statement) := do
  if Text.hasSurrogate text then throw .loneSurrogate
  if text.toList.any (·.toNat == 0) then throw .zeroCharacter
  let code ← (readModule text).mapError .unreadable
  if isTooDeepToRead code then throw .tooDeepToRead
  return code

/-- Finds out whether statements are not nested too deep and keep all rules. -/
def check (statements : List Statement) : Except ProgramError Unit :=
  if isTooNested statements then .error .tooNested
  else if areSound {} [] statements then .ok ()
  else .error (.unreadable .malformed)

/-- The names that a module has before it is run. -/
def initialNames : List (String × Datum) :=
  [("__builtins__", .opaqueOf "dict")]

/-- Makes a scanner that gives out symbols. -/
def makeScanner (symbols : List Value) : Machine Datum := do
  makeCell (.object (.known scannerType) [("symbols", ← makeList (← ofValues symbols))])

/-- Runs a module and makes an object of the class of the given name, which may be given a
scanner. -/
def start (statements : List Statement) (className : String) (scanner : Option (List Value)) :
    Except ProgramError Program := do
  let store : Store := { Store.empty with globals := initialNames }
  let (r, store) := runOn store ((runAll callDatum statements).run {})
  let _ ← r.mapError .run
  match store.globals.lookup className with
  | none => throw .otherName
  | some cls =>
    let make : Machine Datum := do
      match scanner with
      | some symbols => callDatum cls [← makeScanner symbols] []
      | none => callDatum cls [] []
    let (r, store) := runOn store make
    return ⟨store, ← r.mapError .run⟩

/-- Calls a method of the object. -/
def call (p : Program) (method : String) (args : List Value) : Except Failure Value × Program :=
  p.perform fun self => do
    let f ← attributeOf self method
    handOut (← callDatum f (← ofValues args) [])

/-- Calls methods of the object without arguments, one after the other. -/
def callAll (p : Program) (methods : List String) : Except Failure (List Value) × Program :=
  p.perform fun self => methods.mapM fun method => do
    handOut (← callMethod callDatum self method)

/-- Calls a method of what a method of the object gives. -/
def callOn (p : Program) (first second : String) (args : List Value) :
    Except Failure Value × Program :=
  p.perform fun self => do
    let f ← attributeOf (← callMethod callDatum self first) second
    handOut (← callDatum f (← ofValues args) [])

/-- An attribute of the object of a program. -/
def member (p : Program) (name : String) : Except Failure Value :=
  (p.perform fun self => do handOut (← attributeOf self name)).1

end Program

end LalrBackend.Code
