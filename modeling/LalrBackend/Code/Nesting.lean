import LalrBackend.Code.Scope

/-!
# Nesting

How deep expressions and statements are nested in each other, and how deep they may be. Chains that
are read as one whole, such as those of `and`, count as one level however long they are.
-/

namespace LalrBackend.Code

mutual

/-- The cost of the dearest way down an expression, where each expression on the way costs something
by itself. -/
def Expr.height (cost : Expr → Nat) : Expr → Nat
  | .name n => cost (.name n)
  | .constant c => cost (.constant c)
  | .formatted parts => cost (.formatted parts) + heightOf cost parts
  | .list items => cost (.list items) + heightOf cost items
  | .tuple items => cost (.tuple items) + heightOf cost items
  | .set items => cost (.set items) + heightOf cost items
  | .table entries => cost (.table entries) + heightOf cost entries
  | .entry k v => cost (.entry k v) + max (k.height cost) (v.height cost)
  | .spread e => cost (.spread e) + e.height cost
  | .spreadEntries e => cost (.spreadEntries e) + e.height cost
  | .argument n e => cost (.argument n e) + e.height cost
  | .sign op e => cost (.sign op e) + e.height cost
  | .negation e => cost (.negation e) + e.height cost
  | .binary op a b => cost (.binary op a b) + max (a.height cost) (b.height cost)
  | .conjunction a b => cost (.conjunction a b) + max (a.height cost) (b.height cost)
  | .disjunction a b => cost (.disjunction a b) + max (a.height cost) (b.height cost)
  | .compare a ops es => cost (.compare a ops es) + max (a.height cost) (heightOf cost es)
  | .choose a b c =>
    cost (.choose a b c) + max (a.height cost) (max (b.height cost) (c.height cost))
  | .lambda ps defaults e =>
    cost (.lambda ps defaults e) + max (heightOf cost defaults) (e.height cost)
  | .attribute e n => cost (.attribute e n) + e.height cost
  | .item e i => cost (.item e i) + max (e.height cost) (i.height cost)
  | .slice a b c =>
    cost (.slice a b c) + max (a.height cost) (max (b.height cost) (c.height cost))
  | .call f args => cost (.call f args) + max (f.height cost) (heightOf cost args)
  | .gather k e clauses => cost (.gather k e clauses) + max (e.height cost) (heightOf cost clauses)
  | .forEach a t e => cost (.forEach a t e) + max (t.height cost) (e.height cost)
  | .onlyIf e => cost (.onlyIf e) + e.height cost
  | .await e => cost (.await e) + e.height cost
  | .yield e => cost (.yield e) + e.height cost
  | .yieldFrom e => cost (.yieldFrom e) + e.height cost
  | .bind n e => cost (.bind n e) + e.height cost

/-- The cost of the dearest way down one of some expressions. -/
def heightOf (cost : Expr → Nat) : List Expr → Nat
  | [] => 0
  | e :: es => max (e.height cost) (heightOf cost es)

end

mutual

/-- The cost of the dearest way down a statement and what is in its blocks. -/
def Statement.height (level : Nat) (cost : Expr → Nat) : Statement → Nat
  | .branch e yes no =>
    level + max (e.height cost) (max (blockHeight level cost yes) (blockHeight level cost no))
  | .loop e body no =>
    level + max (e.height cost) (max (blockHeight level cost body) (blockHeight level cost no))
  | .forEach _ t e body no =>
    level + max (max (t.height cost) (e.height cost))
      (max (blockHeight level cost body) (blockHeight level cost no))
  | .attempt body handlers no final =>
    level + max (max (blockHeight level cost body) (blockHeight level cost handlers))
      (max (blockHeight level cost no) (blockHeight level cost final))
  | .handle _ type _ body => level + max (heightOf cost type.toList) (blockHeight level cost body)
  | .within _ e t body =>
    level + max (heightOf cost (e :: t.toList)) (blockHeight level cost body)
  | .select e cases => level + max (e.height cost) (blockHeight level cost cases)
  | .inCase p guard body =>
    level + max (heightOf cost (p.parts ++ guard.toList)) (blockHeight level cost body)
  | .define _ _ _ wrappers defaults types body =>
    level + max (heightOf cost (wrappers ++ defaults ++ types)) (blockHeight level cost body)
  | .makeClass _ wrappers args body =>
    level + max (heightOf cost (wrappers ++ args)) (blockHeight level cost body)
  | s => level + heightOf cost (s.targets ++ s.parts)

/-- The cost of the dearest way down one of some statements. -/
def blockHeight (level : Nat) (cost : Expr → Nat) : List Statement → Nat
  | [] => 0
  | s :: ss => max (s.height level cost) (blockHeight level cost ss)

end

/-- How many levels of nesting an expression adds. -/
def nestingCost : Expr → Nat
  | .entry _ _ => 0
  | .argument _ _ => 0
  | .conjunction _ _ => 0
  | .disjunction _ _ => 0
  | .forEach _ _ _ => 0
  | .onlyIf _ => 0
  | _ => 1

/-- How many rules wait for their end while the rest of an expression is read. -/
def readingCost : Expr → Nat
  | .sign _ _ => 1
  | .negation _ => 1
  | .choose _ _ _ => 1
  | .binary .power _ _ => 2
  | .lambda _ _ _ => 2
  | _ => 0

/-- How many levels of expressions an expression has. -/
def Expr.nesting (e : Expr) : Nat :=
  e.height nestingCost

/-- How many levels of statements and expressions code may have. -/
def mostNested : Nat := 2979

/-- How many rules may wait while code is read. -/
def mostWaiting : Nat := 5951

/-- Whether code is nested too deep to be understood. -/
def isTooNested (code : List Statement) : Bool :=
  mostNested < blockHeight 1 nestingCost code

/-- Whether code is nested too deep to be read at all. -/
def isTooDeepToRead (code : List Statement) : Bool :=
  mostWaiting < blockHeight 0 readingCost code

end LalrBackend.Code
