/-!
# Entries of libraries

What libraries provide to code: modules, types, routines and other values, each with what code can
do to it.
-/

namespace LalrBackend.Code

/-- What kind of thing a library provides; an alias comes of indexing a type. -/
inductive Nature where
  | module
  | type
  | routine
  | value
  | alias
  deriving Repr, DecidableEq

/-- What code can do to a thing: set attributes of it, or find that it lacks those that are set,
index it with a type, take it for a base class, make objects of such a class without arguments or
with two, raise it, and call it with nothing, a number, a list, or a type and an object. What is
withheld comes only to those who ask for it by name. -/
inductive Trait where
  | settable
  | bare
  | indexed
  | base
  | madePlain
  | madeWithTwo
  | raised
  | takesNothing
  | takesNumber
  | takesList
  | takesTwo
  | withheld
  deriving Repr, DecidableEq

/-- Things of one kind, in lines of names. -/
structure Family where
  nature : Nature
  traits : List Trait
  names : List String

/-- Something that a library provides: the path of its module, and its name in there. A module has
the name of its path. -/
structure Known where
  path : String
  name : String
  nature : Nature
  traits : List Trait := []
  deriving Repr, DecidableEq

/-- The path of something within something else. -/
def pathWithin (path name : String) : String :=
  path ++ "." ++ name

/-- The words of some lines. -/
def wordsOf (lines : List String) : List String :=
  lines.flatMap fun line => (line.toList.splitOn ' ').map String.ofList

/-- What a family holds in the module of a path. -/
def Family.entries (path : String) (f : Family) : List Known :=
  (wordsOf f.names).map fun name => ⟨path, name, f.nature, f.traits⟩

end LalrBackend.Code
