import LalrBackend.Decimal.Binary64

/-!
# Generated code

The language of generated modules: expressions, statements, and the blocks of classes, functions,
conditions, loops and attempts. Targets of assignments, parameters of calls, entries of tables and
clauses of gatherings are expressions as well; where each may stand is told apart by the reader.
-/

namespace LalrBackend.Code

/-- A value that stands in code. The units of bytes are below 256. -/
inductive Constant where
  | null
  | ellipsis
  | bool (b : Bool)
  | int (n : Nat)
  | real (x : Binary64)
  | imaginary (x : Binary64)
  | text (s : String)
  | bytes (units : List Nat)
  deriving DecidableEq, Inhabited

/-- The value of a reserved word. -/
def Constant.ofWord? (word : String) : Option Constant :=
  if word = "None" then some .null
  else if word = "True" then some (.bool true)
  else if word = "False" then some (.bool false)
  else none

/-- An operator before one expression. -/
inductive SignOperator where
  | plus
  | minus
  | invert
  deriving Repr, DecidableEq

/-- An operator between two expressions. -/
inductive Operator where
  | add
  | sub
  | mul
  | div
  | floorDiv
  | mod
  | power
  | matrix
  | shiftLeft
  | shiftRight
  | both
  | either
  | differ
  deriving Repr, DecidableEq

/-- A comparison of two expressions. -/
inductive Comparison where
  | equal
  | different
  | less
  | atMost
  | greater
  | atLeast
  | same
  | notSame
  | among
  | notAmong
  deriving Repr, DecidableEq

/-- What a gathering makes of its elements. -/
inductive Gathering where
  | list
  | set
  | table
  | stream
  deriving Repr, DecidableEq

/-- The parameters of a function by kind: those that a position gives, the first `placed` of which no
name gives, the one that takes all further positions, those that only their name gives, and the one
that takes all further names. The optional ones have defaults, in their order. -/
structure Parameters where
  plain : List String := []
  placed : Nat := 0
  rest : Option String := none
  named : List String := []
  restNamed : Option String := none
  optional : List String := []
  deriving Repr, DecidableEq, Inhabited

/-- All names of parameters. -/
def Parameters.names (p : Parameters) : List String :=
  p.plain ++ p.rest.toList ++ p.named ++ p.restNamed.toList

/-- An expression. A part of a slice that is left out is the constant for nothing. -/
inductive Expr where
  | name (name : String)
  | constant (c : Constant)
  | formatted (parts : List Expr)
  | list (items : List Expr)
  | tuple (items : List Expr)
  | set (items : List Expr)
  | table (entries : List Expr)
  | entry (key value : Expr)
  | spread (e : Expr)
  | spreadEntries (e : Expr)
  | argument (name : String) (e : Expr)
  | sign (op : SignOperator) (e : Expr)
  | negation (e : Expr)
  | binary (op : Operator) (a b : Expr)
  | conjunction (a b : Expr)
  | disjunction (a b : Expr)
  | compare (first : Expr) (ops : List Comparison) (rest : List Expr)
  | choose (condition yes no : Expr)
  | lambda (parameters : Parameters) (defaults : List Expr) (body : Expr)
  | attribute (e : Expr) (name : String)
  | item (e index : Expr)
  | slice (start stop step : Expr)
  | call (f : Expr) (args : List Expr)
  | gather (kind : Gathering) (element : Expr) (clauses : List Expr)
  | forEach (isAsync : Bool) (target source : Expr)
  | onlyIf (condition : Expr)
  | await (e : Expr)
  | yield (e : Expr)
  | yieldFrom (e : Expr)
  | bind (name : String) (e : Expr)
  deriving Inhabited

/-- A name that an import binds: what is imported, and the name that it goes by. -/
structure Imported where
  path : String
  alias? : Option String
  deriving Repr, DecidableEq

/-- A pattern that a value fits or not: any value, one that equals another one or is the same as a
constant, one that gets a name, one of some patterns, a list by its items, of which those that are left
over may get a name, a table by some of its entries, or an object of a class by its parts. -/
inductive Pattern where
  | any
  | value (e : Expr)
  | exactly (c : Constant)
  | capture (name : String)
  | named (p : Pattern) (name : String)
  | oneOf (ps : List Pattern)
  | sequence (ps : List Pattern)
  | leftOver (name : Option String)
  | table (keys : List Expr) (ps : List Pattern) (leftOver : Option String)
  | object (cls : Expr) (ps : List Pattern) (names : List String) (named : List Pattern)
  deriving Inhabited

/-- A statement. An annotation is bare if its target is a name without parentheses. The names that
are imported from a module are missing if all are. An attempt has handlers for what is raised in its
body, a block for when nothing is, and one that is run in the end. Of the cases of a value, the first
one counts that the value fits. What stands before a function or a class is applied to it when it is
made. -/
inductive Statement where
  | pass
  | compute (e : Expr)
  | assign (targets : List Expr) (e : Expr)
  | augment (target : Expr) (op : Operator) (e : Expr)
  | annotate (target : Expr) (bare : Bool) (type : Expr) (e : Option Expr)
  | giveBack (e : Option Expr)
  | raise (e cause : Option Expr)
  | claim (e : Expr) (otherwise : Option Expr)
  | delete (targets : List Expr)
  | load (modules : List Imported)
  | loadFrom (level : Nat) (path : String) (names : Option (List Imported))
  | makeGlobal (names : List String)
  | makeOuter (names : List String)
  | leaveLoop
  | nextRound
  | branch (condition : Expr) (yes no : List Statement)
  | loop (condition : Expr) (body otherwise : List Statement)
  | forEach (isAsync : Bool) (target source : Expr) (body otherwise : List Statement)
  | attempt (body handlers otherwise final : List Statement)
  | handle (grouped : Bool) (type : Option Expr) (name : Option String) (body : List Statement)
  | within (isAsync : Bool) (context : Expr) (target : Option Expr) (body : List Statement)
  | select (subject : Expr) (cases : List Statement)
  | inCase (pattern : Pattern) (guard : Option Expr) (body : List Statement)
  | define (isAsync : Bool) (name : String) (parameters : Parameters)
      (wrappers defaults types : List Expr) (body : List Statement)
  | makeClass (name : String) (wrappers args : List Expr) (body : List Statement)
  deriving Inhabited

/-- Why code cannot be read: it is not well formed, its lines are not indented as their blocks
are, a block begins or ends where none may, a block that was announced is missing, or the indentation
depends on the width of a tab. -/
inductive ReadError where
  | malformed
  | misindented
  | unannounced
  | blockMissing
  | mixedBlanks
  deriving Repr, DecidableEq

end LalrBackend.Code
