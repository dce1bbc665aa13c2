import LalrBackend.Code.Syntax

/-!
# Scopes

Which names the parts of code read and bind in the scope that they stand in, and whether a function
gives values out while it runs. A function without a name and the inside of a gathering are scopes
of their own, but a name that is bound within a gathering belongs to the scope around it.
-/

namespace LalrBackend.Code

/-- The name that always has the same value. -/
def debugName : String := "__debug__"

/-- Where code stands. -/
inductive Place where
  | module
  | classBody
  | function
  | asyncFunction
  | gathering
  deriving Repr, DecidableEq

/-- Whether code may wait where it stands. -/
def Place.mayWait (place : Place) : Bool :=
  place = .asyncFunction || place = .gathering

/-- Whether code stands in a function. -/
def Place.isInFunction (place : Place) : Bool :=
  place = .function || place = .asyncFunction

mutual

/-- The names that an expression binds. -/
def Expr.binds : Expr → List String
  | .name _ => []
  | .constant _ => []
  | .formatted parts => bindsOf parts
  | .list items => bindsOf items
  | .tuple items => bindsOf items
  | .set items => bindsOf items
  | .table entries => bindsOf entries
  | .entry k v => k.binds ++ v.binds
  | .spread e => e.binds
  | .spreadEntries e => e.binds
  | .argument _ e => e.binds
  | .sign _ e => e.binds
  | .negation e => e.binds
  | .binary _ a b => a.binds ++ b.binds
  | .conjunction a b => a.binds ++ b.binds
  | .disjunction a b => a.binds ++ b.binds
  | .compare a _ es => a.binds ++ bindsOf es
  | .choose a b c => a.binds ++ b.binds ++ c.binds
  | .lambda _ defaults _ => bindsOf defaults
  | .attribute e _ => e.binds
  | .item e i => e.binds ++ i.binds
  | .slice a b c => a.binds ++ b.binds ++ c.binds
  | .call f args => f.binds ++ bindsOf args
  | .gather _ e clauses => e.binds ++ bindsOf clauses
  | .forEach _ t e => t.binds ++ e.binds
  | .onlyIf e => e.binds
  | .await e => e.binds
  | .yield e => e.binds
  | .yieldFrom e => e.binds
  | .bind n e => n :: e.binds

/-- The names that expressions bind. -/
def bindsOf : List Expr → List String
  | [] => []
  | e :: es => e.binds ++ bindsOf es

end

mutual

/-- The names that an expression reads in its own scope. -/
def Expr.reads : Expr → List String
  | .name n => [n]
  | .constant _ => []
  | .formatted parts => readsOf parts
  | .list items => readsOf items
  | .tuple items => readsOf items
  | .set items => readsOf items
  | .table entries => readsOf entries
  | .entry k v => k.reads ++ v.reads
  | .spread e => e.reads
  | .spreadEntries e => e.reads
  | .argument _ e => e.reads
  | .sign _ e => e.reads
  | .negation e => e.reads
  | .binary _ a b => a.reads ++ b.reads
  | .conjunction a b => a.reads ++ b.reads
  | .disjunction a b => a.reads ++ b.reads
  | .compare a _ es => a.reads ++ readsOf es
  | .choose a b c => a.reads ++ b.reads ++ c.reads
  | .lambda _ defaults _ => readsOf defaults
  | .attribute e _ => e.reads
  | .item e i => e.reads ++ i.reads
  | .slice a b c => a.reads ++ b.reads ++ c.reads
  | .call f args => f.reads ++ readsOf args
  | .gather _ _ clauses => firstReads clauses
  | .forEach _ _ e => e.reads
  | .onlyIf e => e.reads
  | .await e => e.reads
  | .yield e => e.reads
  | .yieldFrom e => e.reads
  | .bind _ e => e.reads

/-- The names that expressions read. -/
def readsOf : List Expr → List String
  | [] => []
  | e :: es => e.reads ++ readsOf es

/-- The names that the first clause of a gathering reads. -/
def firstReads : List Expr → List String
  | [] => []
  | e :: _ => e.reads

end

mutual

/-- Whether an expression gives a value out of the function that it stands in. -/
def Expr.yields : Expr → Bool
  | .yield _ => true
  | .yieldFrom _ => true
  | .name _ => false
  | .constant _ => false
  | .formatted parts => anyYields parts
  | .list items => anyYields items
  | .tuple items => anyYields items
  | .set items => anyYields items
  | .table entries => anyYields entries
  | .entry k v => k.yields || v.yields
  | .spread e => e.yields
  | .spreadEntries e => e.yields
  | .argument _ e => e.yields
  | .sign _ e => e.yields
  | .negation e => e.yields
  | .binary _ a b => a.yields || b.yields
  | .conjunction a b => a.yields || b.yields
  | .disjunction a b => a.yields || b.yields
  | .compare a _ es => a.yields || anyYields es
  | .choose a b c => a.yields || b.yields || c.yields
  | .lambda _ defaults _ => anyYields defaults
  | .attribute e _ => e.yields
  | .item e i => e.yields || i.yields
  | .slice a b c => a.yields || b.yields || c.yields
  | .call f args => f.yields || anyYields args
  | .gather _ e clauses => e.yields || anyYields clauses
  | .forEach _ t e => t.yields || e.yields
  | .onlyIf e => e.yields
  | .await e => e.yields
  | .bind _ e => e.yields

/-- Whether one of some expressions gives a value out of its function. -/
def anyYields : List Expr → Bool
  | [] => false
  | e :: es => e.yields || anyYields es

end

mutual

/-- Whether an expression waits for something in the function that it stands in. -/
def Expr.waits : Expr → Bool
  | .await _ => true
  | .name _ => false
  | .constant _ => false
  | .formatted parts => anyWaits parts
  | .list items => anyWaits items
  | .tuple items => anyWaits items
  | .set items => anyWaits items
  | .table entries => anyWaits entries
  | .entry k v => k.waits || v.waits
  | .spread e => e.waits
  | .spreadEntries e => e.waits
  | .argument _ e => e.waits
  | .sign _ e => e.waits
  | .negation e => e.waits
  | .binary _ a b => a.waits || b.waits
  | .conjunction a b => a.waits || b.waits
  | .disjunction a b => a.waits || b.waits
  | .compare a _ es => a.waits || anyWaits es
  | .choose a b c => a.waits || b.waits || c.waits
  | .lambda _ defaults _ => anyWaits defaults
  | .attribute e _ => e.waits
  | .item e i => e.waits || i.waits
  | .slice a b c => a.waits || b.waits || c.waits
  | .call f args => f.waits || anyWaits args
  | .gather .stream _ clauses => firstWaits clauses
  | .gather _ e clauses => e.waits || anyWaits clauses
  | .forEach isAsync t e => isAsync || t.waits || e.waits
  | .onlyIf e => e.waits
  | .yield e => e.waits
  | .yieldFrom e => e.waits
  | .bind _ e => e.waits

/-- Whether one of some expressions waits for something. -/
def anyWaits : List Expr → Bool
  | [] => false
  | e :: es => e.waits || anyWaits es

/-- Whether what the first clause of a gathering runs through waits for something. -/
def firstWaits : List Expr → Bool
  | .forEach _ _ e :: _ => e.waits
  | _ => false

end

/-- Whether a gathering waits, apart from what its first clause runs through. -/
def gatheringWaits (element : Expr) : List Expr → Bool
  | .forEach isAsync t _ :: es => isAsync || t.waits || element.waits || anyWaits es
  | es => element.waits || anyWaits es

mutual

/-- The names that a target binds, those within it included. -/
def Expr.targetNames : Expr → List String
  | .name n => [n]
  | .list items => targetNamesOf items
  | .tuple items => targetNamesOf items
  | .spread e => e.targetNames
  | .attribute e _ => e.binds
  | .item e i => e.binds ++ i.binds
  | _ => []

/-- The names that targets bind. -/
def targetNamesOf : List Expr → List String
  | [] => []
  | e :: es => e.targetNames ++ targetNamesOf es

end

/-- The names that run through the elements of a gathering. -/
def clauseNames : List Expr → List String
  | [] => []
  | .forEach _ t _ :: es => t.targetNames ++ clauseNames es
  | _ :: es => clauseNames es

mutual

/-- The names that a pattern binds. -/
def Pattern.binds : Pattern → List String
  | .any => []
  | .value _ => []
  | .exactly _ => []
  | .capture n => [n]
  | .named p n => p.binds ++ [n]
  | .oneOf ps => firstBinds ps
  | .sequence ps => patternBinds ps
  | .leftOver n => n.toList
  | .table _ ps rest => patternBinds ps ++ rest.toList
  | .object _ ps _ named => patternBinds ps ++ patternBinds named

/-- The names that patterns bind. -/
def patternBinds : List Pattern → List String
  | [] => []
  | p :: ps => p.binds ++ patternBinds ps

/-- The names that the first of some patterns binds. -/
def firstBinds : List Pattern → List String
  | [] => []
  | p :: _ => p.binds

end

mutual

/-- The expressions in a pattern. -/
def Pattern.parts : Pattern → List Expr
  | .value e => [e]
  | .named p _ => p.parts
  | .oneOf ps => patternParts ps
  | .sequence ps => patternParts ps
  | .table keys ps _ => keys ++ patternParts ps
  | .object cls ps _ named => cls :: patternParts ps ++ patternParts named
  | _ => []

/-- The expressions in patterns. -/
def patternParts : List Pattern → List Expr
  | [] => []
  | p :: ps => p.parts ++ patternParts ps

end

/-- The name that an import of a module binds. -/
def Imported.bound (m : Imported) : String :=
  m.alias?.getD ((m.path.splitOn ".").headD "")

/-- The expressions of a statement that are no targets and stand in its own scope. -/
def Statement.parts : Statement → List Expr
  | .compute e => [e]
  | .assign _ e => [e]
  | .augment _ _ e => [e]
  | .annotate _ _ type e => type :: e.toList
  | .giveBack e => e.toList
  | .raise e cause => e.toList ++ cause.toList
  | .claim e otherwise => e :: otherwise.toList
  | .branch e _ _ => [e]
  | .loop e _ _ => [e]
  | .forEach _ _ e _ _ => [e]
  | .handle _ type _ _ => type.toList
  | .within _ e _ _ => [e]
  | .select e _ => [e]
  | .inCase p guard _ => p.parts ++ guard.toList
  | .define _ _ _ wrappers defaults types _ => wrappers ++ defaults ++ types
  | .makeClass _ wrappers args _ => wrappers ++ args
  | _ => []

/-- The targets of a statement. -/
def Statement.targets : Statement → List Expr
  | .assign targets _ => targets
  | .augment target _ _ => [target]
  | .annotate target _ _ _ => [target]
  | .delete targets => targets
  | .forEach _ target _ _ _ => [target]
  | .within _ _ target _ => target.toList
  | _ => []

/-- The names that a statement binds by itself other than by expressions. An annotation without a
value binds a bare name only. -/
def Statement.targetNames : Statement → List String
  | .annotate (.name n) bare _ e => if bare || e.isSome then [n] else []
  | .load modules => modules.map Imported.bound
  | .loadFrom _ _ names => (names.getD []).map Imported.bound
  | .handle _ _ name _ => name.toList
  | .inCase p _ _ => p.binds
  | .define _ n _ _ _ _ _ => [n]
  | .makeClass n _ _ _ => [n]
  | s => targetNamesOf s.targets

mutual

/-- A statement and those in its blocks that stand in the same scope. -/
def Statement.all : Statement → List Statement
  | .branch e yes no => .branch e yes no :: (allOf yes ++ allOf no)
  | .loop e body no => .loop e body no :: (allOf body ++ allOf no)
  | .forEach a t e body no => .forEach a t e body no :: (allOf body ++ allOf no)
  | .attempt body handlers no final =>
    .attempt body handlers no final :: (allOf body ++ allOf handlers ++ allOf no ++ allOf final)
  | .handle g type name body => .handle g type name body :: allOf body
  | .within a e t body => .within a e t body :: allOf body
  | .select e cases => .select e cases :: allOf cases
  | .inCase p guard body => .inCase p guard body :: allOf body
  | s => [s]

/-- Some statements and those in their blocks. -/
def allOf : List Statement → List Statement
  | [] => []
  | s :: ss => s.all ++ allOf ss

end

/-- The names that statements bind in their scope. -/
def bindsOfAll (body : List Statement) : List String :=
  (allOf body).flatMap fun s => s.targetNames ++ bindsOf s.parts

/-- The names that statements give to the module. -/
def globalsOf (body : List Statement) : List String :=
  (allOf body).flatMap fun s =>
    match s with
    | .makeGlobal names => names
    | _ => []

/-- The names that statements take from a function around. -/
def borrowedOf (body : List Statement) : List String :=
  (allOf body).flatMap fun s =>
    match s with
    | .makeOuter names => names
    | _ => []

/-- The names that are local to a scope that binds some names by itself. -/
def localNames (own : List String) (body : List Statement) : List String :=
  let others := globalsOf body ++ borrowedOf body
  own ++ (bindsOfAll body).filter fun n => !(n ∈ others)

/-- The expressions of statements, in their own scope. -/
def allPartsOf (body : List Statement) : List Expr :=
  (allOf body).flatMap fun s => s.targets ++ s.parts

/-- Whether a statement gives a value back. -/
def Statement.givesBack : Statement → Bool
  | .giveBack e => e.isSome
  | _ => false

/-- What a call of a function makes: it runs its body, or is an object that runs it later and gives
values out, or is an object that waits while it runs. -/
inductive CallKind where
  | atOnce
  | stream
  | waiting
  deriving Repr, DecidableEq, Inhabited

/-- What a call of a function with a body makes. -/
def callKind (isAsync : Bool) (body : List Statement) : CallKind :=
  let parts := allPartsOf body
  if isAsync || anyWaits parts then .waiting
  else if anyYields parts then .stream
  else .atOnce

/-- Whether a function that waits and gives values out while it runs also gives a value back, which
it cannot. -/
def isTorn (isAsync : Bool) (body : List Statement) : Bool :=
  let parts := allPartsOf body
  anyYields parts && (isAsync || anyWaits parts) && (allOf body).any (·.givesBack)

end LalrBackend.Code
