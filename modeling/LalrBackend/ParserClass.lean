import LalrBackend.Code.Frame
import LalrBackend.Module.Printer
import LalrBackend.Packed.Spelling
import LalrBackend.Reduction.Plain

/-!
# Parser classes

A parser class is what a plain generated module defines: the texts of the packed tables, some
constants and, for each production, the method that reduces by it. A module is plain if the user's
code neither adds to its classes nor imports anything, and if all of its reductions are plain.
-/

namespace LalrBackend

open Reduction

/-- The class that a plain module defines. -/
structure ParserClass where
  takesScanner : Bool
  productionText : List String
  actionText : List String
  reduceText : List String
  startState : Int
  startProduction : Int
  methods : List (Int × Method)

/-- Why a packed table cannot be had from its text. -/
inductive TableError where
  | badText
  | unpacking (error : Packed.DecodeError)
  deriving Repr, DecidableEq

/-- The table that literal lines spell. -/
def tableOf (text : List String) : Except TableError (List Int) :=
  match Packed.spelledLines? text with
  | none => .error .badText
  | some points => (Packed.decode (points.map Int.ofNat)).mapError .unpacking

namespace ParserModule

/-- The names that every generated module has. -/
def ownNames : List String :=
  ["List", "cast", "LRParser", "ParseTableError", "Symbol", internal "actions", "__builtins__"]

/-- Whether a name means something in a module apart from its parser class. -/
def isTaken (name : String) : Bool :=
  name ∈ ownNames || (Code.builtinValue? name).isSome

/-- Whether the class of a module goes by a name that means nothing else. -/
def hasPlainName (m : ParserModule) : Bool :=
  isPlainName m.config.parserClass && !isTaken m.config.parserClass

/-- Whether the user's code leaves the classes of a module alone and imports nothing. -/
def isQuiet (m : ParserModule) : Bool :=
  m.config.imports.isEmpty &&
    [m.config.actionCode, m.config.parserCode, m.config.initCode, m.config.scanCode].all
      fun snippet => !Text.hasCode snippet

/-- Whether the line that shows a production is one line. -/
def isShownOnOneLine (p : Production) : Bool :=
  p.shown.toList.all fun c => c != '\n' && c != '\r'

/-- The method of a production, if it is plain. -/
def methodOf? (m : ParserModule) (a : ActionMethod) : Option (Int × Method) :=
  match a.body with
  | .ok b =>
    if isShownOnOneLine a.production then
      (b.method? fun n => n == m.config.parserClass || isTaken n).map (a.production.index, ·)
    else none
  | .error _ => none

/-- The lines of a text that was written; there are none if it was not. -/
def TableMethod.lines (t : TableMethod) : List String :=
  match t.literal with
  | .ok ls => ls
  | .error _ => []

/-- The class that a module defines whose name and reductions are plain. -/
def plainClass? (m : ParserModule) : Option ParserClass := do
  if !m.hasPlainName then none
  return {
    takesScanner := !m.config.suppressScanner
    productionText := TableMethod.lines m.productionTable
    actionText := TableMethod.lines m.actionTable
    reduceText := TableMethod.lines m.reduceTable
    startState := m.config.startState
    startProduction := m.startProduction
    methods := ← m.actions.mapM m.methodOf? }

/-- How many lines the text of a table may have. -/
def mostTableLines : Nat := 2970

/-- Whether all texts of tables are short enough to be read. -/
def isReadable (m : ParserModule) : Bool :=
  [m.productionTable, m.actionTable, m.reduceTable].all fun t =>
    (TableMethod.lines t).length ≤ mostTableLines

end ParserModule

end LalrBackend
