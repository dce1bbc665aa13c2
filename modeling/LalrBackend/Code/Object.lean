import LalrBackend.Code.Library.Entry
import LalrBackend.Code.Scope
import LalrBackend.Packed.Units
import LalrBackend.Value

/-!
# Objects

What running code works with. A datum is a plain value, something that a library provides, or the
number of a cell; a cell of the store holds what can change: lists, tables, objects, classes,
functions, streams, and the names of a scope. A run changes the store and keeps its changes when it
fails.
-/

namespace LalrBackend.Code

/-- A datum. A member of a type of numbers is a number that is shown in a way of its own. What is bound has its first argument already; what is seen from above is an object as
the classes below a class see it. -/
inductive Datum where
  | null
  | bool (b : Bool)
  | int (n : Int)
  | member (n : Int) (shown : String)
  | real (x : Binary64)
  | text (s : String)
  | tuple (items : List Datum)
  | known (k : Known)
  | bound (self routine : Datum)
  | above (owner : Nat) (self : Datum)
  | cell (number : Nat)
  deriving Repr, Inhabited

/-- Local names with the number of the cell that holds their values. -/
abbrev Scope := List String × Nat

/-- Where code runs: in what, the scope with its names, the names that are given to the module, the
scopes of the functions around from the inside out, the class around, the first parameter of a
function, and the list that a function gives values out to. -/
structure Frame where
  place : Place := .module
  scope : Scope := ([], 0)
  shared : List String := []
  around : List Scope := []
  owner : Option Nat := none
  first : Option String := none
  outlet : Option Nat := none
  deriving Inhabited

/-- A function: what it takes and does, what a call of it makes, the scopes of the functions that it
was made in, and the class that it was made in. -/
structure Routine where
  name : String
  parameters : Parameters
  defaults : List Datum
  body : List Statement
  kind : CallKind
  around : List Scope
  owner : Option Nat
  deriving Inhabited

/-- What gives out the values of a stream: items that are at hand, the results of a function for some
arguments, the body of a function in a frame, or a gathering in a frame with what its first clause
runs through. -/
inductive Source where
  | items (ds : List Datum)
  | results (f : Datum) (args : List (List Datum))
  | body (frame : Frame) (statements : List Statement)
  | gathering (frame : Frame) (element : Expr) (clauses : List Expr) (first : List Datum)
  deriving Inhabited

/-- What a cell holds. Objects, classes and functions have attributes. -/
inductive Cell where
  | list (items : List Datum)
  | table (entries : List (Datum × Datum))
  | object (cls : Datum) (members : List (String × Datum))
  | type (name : String) (bases : List Datum) (members : List (String × Datum))
  | routine (r : Routine) (members : List (String × Datum))
  | stream (source : Source)
  | scope (names : List (String × Datum))
  deriving Inhabited

/-- Why a run ends early: there is no such item, key, attribute or name, values do not go together
or are none that an operation takes, something is divided by zero, a module or a member of one is
missing, no scanner was given, nothing was raised before, a stream holds nothing more, a run has no
end, a text that stands for a type is no expression, a table cannot be unpacked, or something was
raised. -/
inductive Fault where
  | noSlot
  | noKey
  | noAttribute
  | unbound
  | unassigned
  | typeMismatch
  | badValue
  | divisionByZero
  | noModule
  | noImport
  | noOwner
  | noScanner
  | nothingRaised
  | exhausted
  | claimFailed
  | endless
  | unreadable
  | unpacking (error : Packed.DecodeError)
  | raised (made : Datum)
  deriving Repr

/-- All that a run can change: the cells, the names of the module, the attributes that were set on
what libraries provide, and the fault that is being handled. -/
structure Store where
  cells : Array Cell
  globals : List (String × Datum)
  marks : List ((String × String × String) × Datum)
  handled : Option Fault

/-- A run over the store. -/
abbrev Machine := ExceptT Fault (StateM Store)

/-- Replaces the value of a key, or adds the key. -/
def setEntry {κ α : Type} [BEq κ] (key : κ) (v : α) : List (κ × α) → List (κ × α)
  | [] => [(key, v)]
  | m :: ms => if m.1 == key then (key, v) :: ms else m :: setEntry key v ms

/-- Removes a key. -/
def dropEntry {κ α : Type} [BEq κ] (key : κ) (ms : List (κ × α)) : List (κ × α) :=
  ms.filter fun m => !(m.1 == key)

/-- The store before anything was made. -/
def Store.empty : Store :=
  ⟨#[], [], [], none⟩

/-- Makes a cell and gives its number. -/
def newCell (c : Cell) : Machine Nat :=
  modifyGet fun s => (s.cells.size, { s with cells := s.cells.push c })

/-- Makes a cell. -/
def makeCell (c : Cell) : Machine Datum := do
  return .cell (← newCell c)

/-- What a cell holds. -/
def cellAt (number : Nat) : Machine Cell := do
  return (← get).cells.getD number (.list [])

/-- Changes what a cell holds. -/
def setCell (number : Nat) (c : Cell) : Machine Unit :=
  modify fun s => { s with cells := s.cells.setIfInBounds number c }

/-- Makes a list. -/
def makeList (items : List Datum) : Machine Datum :=
  makeCell (.list items)

/-- Makes a stream of items that are at hand. -/
def makeStream (items : List Datum) : Machine Datum :=
  makeCell (.stream (.items items))

/-- A thing that there may be, or a failure. -/
def orFail {α : Type} (fault : Fault) (a : Option α) : Machine α :=
  match a with
  | some a => return a
  | none => throw fault

/-- How deep data are looked into. -/
def depthLimit : Nat := 1000

namespace Datum

/-- The integer that a datum amounts to, if it is an integer or a truth value. -/
def integer? : Datum → Option Int
  | .int n => some n
  | .member n _ => some n
  | .bool b => some (if b then 1 else 0)
  | _ => none

/-- Whether a datum is made once for all, so that starting it again does nothing. -/
def isFixed : Datum → Bool
  | .known _ => false
  | .bound _ _ => false
  | .above _ _ => false
  | .cell _ => false
  | _ => true

/-- A datum of which nothing is known. -/
def opaqueOf (name : String) : Datum :=
  .known ⟨"", name, .value, [.bare]⟩

/-- The type of a result of which only the type is known. -/
def resultType? : Datum → Option String
  | .known k => if k.path = "" ∧ k.nature = .value then some k.name else none
  | _ => none

/-- Whether a datum is a result of which only is known that it has one of some types. -/
def isResultOf (types : List String) (d : Datum) : Bool :=
  match d.resultType? with
  | some type => type ∈ types
  | none => false

/-- Whether two data are the same thing. -/
def isSame : Datum → Datum → Bool
  | .null, .null => true
  | .bool a, .bool b => a == b
  | .int m, .int n => m == n
  | .member m a, .member n b => m == n && a == b
  | .text a, .text b => a == b
  | .known a, .known b =>
    a.path == b.path && a.name == b.name && (a.nature == .alias) == (b.nature == .alias)
  | .cell m, .cell n => m == n
  | .tuple [], .tuple [] => true
  | _, _ => false

end Datum

end LalrBackend.Code
