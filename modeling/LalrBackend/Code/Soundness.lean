import LalrBackend.Code.Scope

/-!
# Rules beyond the grammar

Code that can be read may still break rules: about where a name may be bound, where a value may be
given out, and what may be spread. Types that a function states for its names are never evaluated,
so only the rules about scopes hold for them.
-/

namespace LalrBackend.Code

/-! ## Rules about scopes -/

/-- Whether the members of a list are distinct. -/
def areDistinct {α : Type} [DecidableEq α] : List α → Bool
  | [] => true
  | n :: ns => !(n ∈ ns) && areDistinct ns

/-- The names in the targets of a gathering. -/
def runningNames : List Expr → List String
  | [] => []
  | .forEach _ t _ :: es => t.reads ++ runningNames es
  | _ :: es => runningNames es

/-- Where an expression stands: in what, within a gathering or not, which names run through the
elements of the gatherings around it, whether it belongs to what a gathering runs through, and
whether it belongs to a target of a gathering. -/
structure Spot where
  place : Place
  gathered : Bool := false
  vars : List String := []
  runThrough : Bool := false
  inTarget : Bool := false

/-- The spot of an element of a gathering through whose elements some names run. -/
def Spot.inGathering (s : Spot) (names : List String) : Spot :=
  { s with gathered := true, vars := s.vars ++ names, inTarget := false }

/-- Whether a name may be bound within an expression. -/
def Spot.mayBind (s : Spot) (name : String) : Bool :=
  !s.runThrough && !s.inTarget && !(s.gathered && (s.place = .classBody || name ∈ s.vars))

mutual

/-- Whether an expression keeps the rules about scopes. -/
def Expr.keepsScope (s : Spot) : Expr → Bool
  | .name _ => true
  | .constant _ => true
  | .formatted parts => keepScope s parts
  | .list items => keepScope s items
  | .tuple items => keepScope s items
  | .set items => keepScope s items
  | .table entries => keepScope s entries
  | .entry k v => k.keepsScope s && v.keepsScope s
  | .spread e => e.keepsScope s
  | .spreadEntries e => e.keepsScope s
  | .argument _ e => e.keepsScope s
  | .sign _ e => e.keepsScope s
  | .negation e => e.keepsScope s
  | .binary _ a b => a.keepsScope s && b.keepsScope s
  | .conjunction a b => a.keepsScope s && b.keepsScope s
  | .disjunction a b => a.keepsScope s && b.keepsScope s
  | .compare a _ es => a.keepsScope s && keepScope s es
  | .choose a b c => a.keepsScope s && b.keepsScope s && c.keepsScope s
  | .lambda p defaults body =>
    areDistinct p.names && keepScope s defaults &&
      body.keepsScope { place := .function, runThrough := s.runThrough }
  | .attribute e _ => e.keepsScope s
  | .item e i => e.keepsScope s && i.keepsScope s
  | .slice a b c => a.keepsScope s && b.keepsScope s && c.keepsScope s
  | .call f args => f.keepsScope s && keepScope s args
  | .gather _ e clauses =>
    let inner := s.inGathering (runningNames clauses)
    !e.yields && e.keepsScope inner && clausesKeepScope inner s clauses
  | .forEach _ t e => t.keepsScope s && e.keepsScope s
  | .onlyIf e => e.keepsScope s
  | .await e => e.keepsScope s
  | .yield e => !s.gathered && e.keepsScope s
  | .yieldFrom e => !s.gathered && e.keepsScope s
  | .bind n e => s.mayBind n && e.keepsScope s

/-- Whether expressions keep the rules about scopes. -/
def keepScope (s : Spot) : List Expr → Bool
  | [] => true
  | e :: es => e.keepsScope s && keepScope s es

/-- Whether the clauses of a gathering keep the rules about scopes. What the first clause runs
through stands in another spot than the rest. -/
def clausesKeepScope (s outer : Spot) : List Expr → Bool
  | [] => true
  | .forEach _ t e :: es =>
    e.keepsScope { outer with runThrough := true } && t.keepsScope { s with inTarget := true } &&
      clausesKeepScope s s es
  | e :: es => e.keepsScope s && clausesKeepScope s s es

end

/-! ## Rules about what is evaluated -/

/-- The names of arguments that are given by name. -/
def argumentNames : List Expr → List String
  | [] => []
  | .argument n _ :: es => n :: argumentNames es
  | _ :: es => argumentNames es

mutual

/-- Whether an expression can be evaluated where it stands. -/
def Expr.isEvaluable (place : Place) : Expr → Bool
  | .name _ => true
  | .constant _ => true
  | .formatted parts => areEvaluable place parts
  | .list items => itemsAreEvaluable place items
  | .tuple items => itemsAreEvaluable place items
  | .set items => itemsAreEvaluable place items
  | .table entries => itemsAreEvaluable place entries
  | .entry k v => k.isEvaluable place && v.isEvaluable place
  | .spread _ => false
  | .spreadEntries _ => false
  | .argument n e => n != debugName && e.isEvaluable place
  | .sign _ e => e.isEvaluable place
  | .negation e => e.isEvaluable place
  | .binary _ a b => a.isEvaluable place && b.isEvaluable place
  | .conjunction a b => a.isEvaluable place && b.isEvaluable place
  | .disjunction a b => a.isEvaluable place && b.isEvaluable place
  | .compare a _ es => a.isEvaluable place && areEvaluable place es
  | .choose a b c => a.isEvaluable place && b.isEvaluable place && c.isEvaluable place
  | .lambda p defaults body =>
    !(debugName ∈ p.names) && areEvaluable place defaults && body.isEvaluable .function
  | .attribute e _ => e.isEvaluable place
  | .item e i => e.isEvaluable place && i.isEvaluable place
  | .slice a b c => a.isEvaluable place && b.isEvaluable place && c.isEvaluable place
  | .call f args =>
    areDistinct (argumentNames args) && f.isEvaluable place && itemsAreEvaluable place args
  | .gather kind e clauses =>
    (kind = .stream || place.mayWait || !gatheringWaits e clauses) &&
      e.isEvaluable .gathering && clausesAreEvaluable place clauses
  | .forEach _ t e => t.isAssignable place && e.isEvaluable place
  | .onlyIf e => e.isEvaluable place
  | .await e => place.mayWait && e.isEvaluable place
  | .yield e => place.isInFunction && e.isEvaluable place
  | .yieldFrom e => place = .function && e.isEvaluable place
  | .bind n e => n != debugName && e.isEvaluable place

/-- Whether expressions can be evaluated where they stand. -/
def areEvaluable (place : Place) : List Expr → Bool
  | [] => true
  | e :: es => e.isEvaluable place && areEvaluable place es

/-- Whether items, of which some may be spread, can be evaluated where they stand. -/
def itemsAreEvaluable (place : Place) : List Expr → Bool
  | [] => true
  | .spread e :: es => e.isEvaluable place && itemsAreEvaluable place es
  | .spreadEntries e :: es => e.isEvaluable place && itemsAreEvaluable place es
  | e :: es => e.isEvaluable place && itemsAreEvaluable place es

/-- Whether the clauses of a gathering can be evaluated. What the first one runs through is evaluated
outside. -/
def clausesAreEvaluable (place : Place) : List Expr → Bool
  | [] => true
  | .forEach _ t e :: es =>
    t.isAssignable .gathering && e.isEvaluable place && areEvaluable .gathering es
  | e :: es => e.isEvaluable .gathering && areEvaluable .gathering es

/-- Whether a target can be assigned to. -/
def Expr.isAssignable (place : Place) : Expr → Bool
  | .name n => n != debugName
  | .attribute e n => n != debugName && e.isEvaluable place
  | .item e i => e.isEvaluable place && i.isEvaluable place
  | .list items => itemsAreAssignable place false items
  | .tuple items => itemsAreAssignable place false items
  | _ => false

/-- Whether the items of a target can be assigned to. One of them may be spread. -/
def itemsAreAssignable (place : Place) (spread : Bool) : List Expr → Bool
  | [] => true
  | .spread e :: es => !spread && e.isAssignable place && itemsAreAssignable place true es
  | e :: es => e.isAssignable place && itemsAreAssignable place spread es

end

/-! ## Patterns -/

/-- The constants that a key of a table in a pattern is made of, each with its sign. -/
def keyParts? : Expr → Option (List (Bool × Constant))
  | .constant c => some [(true, c)]
  | .sign .minus e => (keyParts? e).map (·.map fun (sign, c) => (!sign, c))
  | .binary .add a b => do return (← keyParts? a) ++ (← keyParts? b)
  | .binary .sub a b => do
    return (← keyParts? a) ++ (← keyParts? b).map fun (sign, c) => (!sign, c)
  | _ => none

/-- Whether an expression is a text with expressions in it, which no pattern may be. -/
def isFormatted : Expr → Bool
  | .formatted _ => true
  | _ => false

/-- Whether a pattern takes what others leave. -/
def takesRest : Pattern → Bool
  | .leftOver _ => true
  | _ => false

/-- Whether patterns bind the same names, each of them once. -/
def bindAlike (ps : List Pattern) : Bool :=
  ps.all fun p => areDistinct p.binds && p.binds.all fun n => ps.all fun q => n ∈ q.binds

mutual

/-- Whether a pattern keeps the rules. What fits anything may stand only where nothing follows. -/
def Pattern.isSound (last : Bool) : Pattern → Bool
  | .any => last
  | .value e => !isFormatted e
  | .exactly _ => true
  | .capture n => last && n != debugName
  | .named p n => n != debugName && p.isSound last
  | .oneOf ps => bindAlike ps && choicesAreSound last ps
  | .sequence ps => (ps.filter takesRest).length ≤ 1 && patternsAreSound ps
  | .leftOver n => !(debugName ∈ n.toList)
  | .table keys ps rest =>
    !keys.any isFormatted && areDistinct (keys.filterMap keyParts?) && !(debugName ∈ rest.toList) && patternsAreSound ps
  | .object _ ps names named =>
    areDistinct names && !(debugName ∈ names) && patternsAreSound ps && patternsAreSound named

/-- Whether patterns within another one keep the rules. -/
def patternsAreSound : List Pattern → Bool
  | [] => true
  | p :: ps => p.isSound true && patternsAreSound ps

/-- Whether patterns of which one is to be fitted keep the rules. -/
def choicesAreSound (last : Bool) : List Pattern → Bool
  | [] => true
  | [p] => p.isSound last
  | p :: ps => p.isSound false && choicesAreSound last ps

end

/-- Whether the patterns of cases keep the rules: one that anything fits has a condition or is the
last one. -/
def casesAreSound : List Statement → Bool
  | [] => true
  | .inCase p guard _ :: ss =>
    areDistinct p.binds && p.isSound (guard.isSome || ss.isEmpty) && casesAreSound ss
  | _ :: ss => casesAreSound ss

/-! ## Statements -/

/-- Where a statement stands: in what, within a loop that it may leave, within a handler of groups,
and which names the scope has of its own, has from elsewhere, and could take from functions around.
-/
structure Site where
  place : Place := .module
  inLoop : Bool := false
  inGroup : Bool := false
  mine : List String := []
  outer : List String := []
  around : List String := []

/-- The site of the body of a function. -/
def Site.within (s : Site) (isAsync : Bool) (parameters : List String) (body : List Statement) :
    Site where
  place := if isAsync then .asyncFunction else .function
  mine := localNames parameters body
  outer := globalsOf body ++ borrowedOf body
  around := (s.mine ++ s.around).filter fun n => !(n ∈ globalsOf body)

/-- The site of the body of a class. A class has no names that functions in it could take. -/
def Site.withinClass (s : Site) (body : List Statement) : Site where
  place := .classBody
  outer := globalsOf body ++ borrowedOf body
  around := s.mine ++ s.around

/-- The site of the body of a loop. -/
def Site.looped (s : Site) : Site :=
  { s with inLoop := true }

/-- The site of the body of a handler. What handles groups is not left before its end. -/
def Site.handling (s : Site) (grouped : Bool) : Site :=
  if grouped then { s with inLoop := false, inGroup := true } else s

/-- Whether an import is allowed where it stands. Everything can be imported by a module only, and
the language can be changed at the beginning of a module only. -/
def loadIsSound (place : Place) (level : Nat) (path : String) (names : Option (List Imported)) :
    Bool :=
  (names.isSome || place = .module) && !(level = 0 && path = "__future__")

/-- Whether the type that a statement states is one that may be stated. -/
def typeIsSound (place : Place) (type : Expr) : Bool :=
  type.keepsScope { place := place } && (place.isInFunction || type.isEvaluable place)

/-- Whether a part of the index of a target is spread. -/
def spreadsIndex : Expr → Bool
  | .item _ (.tuple items) => items.any fun e =>
    match e with
    | .spread _ => true
    | _ => false
  | _ => false

/-- Whether the expressions of a statement keep all rules. -/
def partsAreSound (place : Place) (es : List Expr) : Bool :=
  keepScope { place := place } es && areEvaluable place es

/-- Whether targets can be assigned to and keep the rules about scopes. -/
def targetsAreSound (place : Place) (targets : List Expr) : Bool :=
  targets.all (·.isAssignable place) && keepScope { place := place } targets

/-- Whether one of some handlers that is not the last one handles everything. -/
def handlesAllEarly : List Statement → Bool
  | .handle _ none _ _ :: _ :: _ => true
  | _ :: ss => handlesAllEarly ss
  | [] => false

/-- Whether a statement imports something. -/
def Statement.isImport : Statement → Bool
  | .load _ => true
  | .loadFrom _ _ _ => true
  | _ => false

/-- The names that statements use in their scope, of which none may be given to another scope
afterwards. Those that are only imported may. -/
def usesOf (ss : List Statement) : List String :=
  ((allOf ss).filter (!·.isImport)).flatMap fun s =>
    s.targetNames ++ readsOf s.targets ++ readsOf s.parts ++ bindsOf s.parts

mutual

/-- Whether a statement keeps the rules, given the names that were used before it. -/
def Statement.isSound (site : Site) (used : List String) : Statement → Bool
  | .pass => true
  | .compute e => partsAreSound site.place [e]
  | .assign targets e => partsAreSound site.place [e] && targetsAreSound site.place targets
  | .augment target _ e => partsAreSound site.place [e] && targetsAreSound site.place [target]
  | .annotate target bare type e =>
    targetsAreSound site.place [target] && typeIsSound site.place type &&
      partsAreSound site.place e.toList && (e.isSome || !spreadsIndex target) &&
      !(bare && site.place != .module && target.targetNames.any (· ∈ site.outer))
  | .giveBack e =>
    site.place.isInFunction && !site.inGroup && partsAreSound site.place e.toList
  | .raise e cause => partsAreSound site.place (e.toList ++ cause.toList)
  | .claim e otherwise => partsAreSound site.place (e :: otherwise.toList)
  | .delete targets => targetsAreSound site.place targets
  | .load modules => !(debugName ∈ modules.map Imported.bound)
  | .loadFrom level path names =>
    loadIsSound site.place level path names &&
      !(debugName ∈ (names.getD []).map Imported.bound)
  | .makeGlobal names => names.all fun n => !(n ∈ used)
  | .makeOuter names =>
    site.place ≠ .module && names.all fun n =>
      !(n ∈ used) && n ∈ site.around
  | .leaveLoop => site.inLoop
  | .nextRound => site.inLoop
  | .branch e yes no =>
    partsAreSound site.place [e] && areSound site (used ++ e.reads ++ e.binds) yes &&
      areSound site (used ++ e.reads ++ e.binds ++ usesOf yes) no
  | .loop e body no =>
    partsAreSound site.place [e] && areSound site.looped (used ++ e.reads ++ e.binds) body &&
      areSound site (used ++ e.reads ++ e.binds ++ usesOf body) no
  | .forEach isAsync t e body no =>
    let used := used ++ t.targetNames ++ t.reads ++ e.reads ++ e.binds
    (!isAsync || site.place = .asyncFunction) && targetsAreSound site.place [t] &&
      partsAreSound site.place [e] && areSound site.looped used body &&
      areSound site (used ++ usesOf body) no
  | .attempt body handlers no final =>
    let before := used ++ usesOf body ++ usesOf no
    !handlesAllEarly handlers && areSound site used body &&
      areSound site (used ++ usesOf body) no && areSound site before handlers &&
      areSound site (before ++ usesOf handlers) final
  | .handle grouped type name body =>
    !(debugName ∈ name.toList) && partsAreSound site.place type.toList &&
      areSound (site.handling grouped) (used ++ name.toList ++ readsOf type.toList) body
  | .within isAsync e t body =>
    (!isAsync || site.place = .asyncFunction) && partsAreSound site.place [e] &&
      targetsAreSound site.place t.toList &&
      areSound site (used ++ e.reads ++ e.binds ++ targetNamesOf t.toList) body
  | .select e cases =>
    partsAreSound site.place [e] && casesAreSound cases &&
      areSound site (used ++ e.reads ++ e.binds) cases
  | .inCase p guard body =>
    let used := used ++ p.binds ++ readsOf p.parts
    partsAreSound site.place (p.parts ++ guard.toList) &&
      areSound site (used ++ readsOf guard.toList ++ bindsOf guard.toList) body
  | .define isAsync n p wrappers defaults types body =>
    n != debugName && !(debugName ∈ p.names) && areDistinct p.names && !isTorn isAsync body &&
      partsAreSound site.place (wrappers ++ defaults ++ types) &&
      !(globalsOf body).any (· ∈ borrowedOf body) &&
      areSound (site.within isAsync p.names body) p.names body
  | .makeClass n wrappers args body =>
    n != debugName && partsAreSound site.place wrappers && keepScope { place := site.place } args &&
      areDistinct (argumentNames args) && itemsAreEvaluable site.place args &&
      !(globalsOf body).any (· ∈ borrowedOf body) &&
      areSound (site.withinClass body) [] body

/-- Whether statements keep the rules. -/
def areSound (site : Site) (used : List String) : List Statement → Bool
  | [] => true
  | s :: ss => s.isSound site used && areSound site (used ++ usesOf [s]) ss

end

end LalrBackend.Code
