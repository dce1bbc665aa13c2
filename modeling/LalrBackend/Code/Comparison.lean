import LalrBackend.Code.Exchange

/-!
# Comparing data

Which data count as true, which are equal, and which come before others. Numbers of different kinds
are compared by what they amount to, symbols by their parts but for the name.
-/

namespace LalrBackend.Code

/-- Whether a datum counts as true: nothing, zero and what is empty do not. -/
def isTrue (d : Datum) : Machine Bool := do
  match d with
  | .null => return false
  | .bool b => return b
  | .int n => return n != 0
  | .member n _ => return n != 0
  | .real x => return !x.equalsInt 0
  | .text s => return !s.isEmpty
  | .tuple items => return !items.isEmpty
  | .cell n =>
    match ← cellAt n with
    | .list items => return !items.isEmpty
    | .table entries => return !entries.isEmpty
    | _ => return true
  | _ => return true

/-- Whether two lists are equal item by item. -/
def equalAll {α : Type} (same : α → α → Bool) (as bs : List α) : Bool :=
  as.length == bs.length && (as.zip bs).all fun (a, b) => same a b

/-- Whether two data are equal. -/
def Store.equal (s : Store) : Nat → Datum → Datum → Bool
  | 0, _, _ => false
  | fuel + 1, a, b =>
    match a, b with
    | .tuple as, .tuple bs => equalAll (s.equal fuel) as bs
    | .real x, .real y => x.equals y
    | .real x, d => (d.integer?.map x.equalsInt).getD false
    | d, .real x => (d.integer?.map x.equalsInt).getD false
    | .cell m, .cell n =>
      m == n ||
        match s.cells[m]?, s.cells[n]? with
        | some (.list as), some (.list bs) => equalAll (s.equal fuel) as bs
        | some (.table as), some (.table bs) =>
          as.length == bs.length &&
            as.all fun (k, v) => bs.any fun (k', v') => s.equal fuel k k' && s.equal fuel v v'
        | some (.object c as), some (.object d bs) =>
          let isSymbol := s.isBelow (.known (runtimeType "Symbol")) depthLimit
          isSymbol c && isSymbol d &&
            ["sym", "value", "left", "right"].all fun name =>
              match as.lookup name, bs.lookup name with
              | some a, some b => s.equal fuel a b
              | _, _ => false
        | _, _ => false
    | a, b => a.isSame b || (a.integer?.isSome && a.integer? == b.integer?)

/-- Whether two data are equal. -/
def areEqual (a b : Datum) : Machine Bool := do
  return (← get).equal depthLimit a b

/-- Whether one of some data equals a datum. -/
def anyEqual (d : Datum) (ds : List Datum) : Machine Bool := do
  let s ← get
  return ds.any fun e => e.isSame d || s.equal depthLimit e d

/-- Results of which only the kind is known and that can be no keys. -/
def keylessResults : List String :=
  ["bytearray", "dict", "set", "slice"]

/-- Whether a datum can be a key: nothing in it can change. -/
def isKeyWithin : Nat → Datum → Machine Bool
  | 0, _ => return true
  | fuel + 1, d => do
    match d with
    | .tuple items => items.allM (isKeyWithin fuel)
    | .known k => return !(k.path = "" && k.name ∈ keylessResults)
    | .cell n =>
      match ← cellAt n with
      | .list _ => return false
      | .table _ => return false
      | .object _ _ => return !(← isObjectOf "Symbol" d)
      | _ => return true
    | _ => return true

/-- Whether a datum can be a key. -/
def isKey (d : Datum) : Machine Bool :=
  isKeyWithin depthLimit d

/-- The value of a key in a table. -/
def entryOf? (key : Datum) (entries : List (Datum × Datum)) : Machine (Option Datum) := do
  unless ← isKey key do throw .typeMismatch
  let s ← get
  return (entries.find? fun (k, _) => s.equal depthLimit k key).map (·.2)

/-- Whether one text is a part of another one. -/
def isPart (part whole : List Char) : Bool :=
  match whole with
  | [] => part.isEmpty
  | c :: cs => part.isPrefixOf (c :: cs) || isPart part cs

/-- Whether a datum is among those of another one. -/
def isAmong (d container : Datum) : Machine Bool := do
  match container, d with
  | .tuple items, _ => anyEqual d items
  | .text s, .text part => return isPart part.toList s.toList
  | .cell n, _ =>
    match ← cellAt n with
    | .list items => anyEqual d items
    | .table entries => return (← entryOf? d entries).isSome
    | _ => throw .typeMismatch
  | container, _ =>
    if container.isResultOf filledTypes then return false
    else throw .typeMismatch

/-- The items of a datum that is ordered by its items, with the kind of the datum. -/
def Store.orderedItems? (s : Store) : Datum → Option (Bool × List Datum)
  | .tuple items => some (false, items)
  | .cell n =>
    match s.cells[n]? with
    | some (.list items) => some (true, items)
    | _ => none
  | _ => none

/-- How two numbers stand to each other, if they are numbers that are not both integers. -/
def realOrder? (a b : Datum) : Option Ordering :=
  match a, b with
  | .real x, .real y =>
    match y.fraction?, x.fraction? with
    | some (n, d), _ => x.order? n d
    | none, some (n, d) => (y.order? n d).map Ordering.swap
    | none, none => if x.equals y then some .eq else x.order? 0 1
  | .real x, d => do x.order? (← d.integer?) 1
  | d, .real x => do return (← x.order? (← d.integer?) 1).swap
  | _, _ => none

/-- Whether a datum is a number, if not one that is known to be an integer. -/
def Datum.isReal (d : Datum) : Bool :=
  match d with
  | .real _ => true
  | d => d.isResultOf ["bool", "float", "int"]

/-- How two data stand to each other in an order, if there is one for them. Lists are ordered by the
first items that differ, or else by their lengths. -/
def Store.order? (s : Store) : Nat → Datum → Datum → Option Ordering
  | 0, _, _ => none
  | fuel + 1, a, b =>
    match a, b with
    | .text s, .text t => some (compare (Text.pointsOf s) (Text.pointsOf t))
    | a, b =>
      match a.integer?, b.integer?, s.orderedItems? a, s.orderedItems? b with
      | some m, some n, _, _ => some (compare m n)
      | _, _, some (k, as), some (l, bs) =>
        if k != l then none
        else
          match (as.zip bs).find? fun (a, b) => !(a.isSame b || s.equal fuel a b) with
          | some (a, b) => s.order? fuel a b
          | none => some (compare as.length bs.length)
      | _, _, _, _ => realOrder? a b

/-- Whether two data are numbers of which one is no integer. -/
def areNumbers (a b : Datum) : Bool :=
  (a.isReal || a.integer?.isSome) && (b.isReal || b.integer?.isSome)

/-- Whether two data stand to each other as an order tells. What is not a number stands to no number
in any. -/
def isOrdered (holds : Ordering → Bool) (a b : Datum) : Machine Bool := do
  match (← get).order? depthLimit a b with
  | some order => return holds order
  | none => if areNumbers a b then return false else throw .typeMismatch

/-- What a comparison of two data gives. -/
def compareData (op : Comparison) (a b : Datum) : Machine Bool := do
  match op with
  | .equal => areEqual a b
  | .different => return !(← areEqual a b)
  | .less => isOrdered Ordering.isLT a b
  | .atMost => isOrdered Ordering.isLE a b
  | .greater => isOrdered Ordering.isGT a b
  | .atLeast => isOrdered Ordering.isGE a b
  | .same => return a.isSame b
  | .notSame => return !a.isSame b
  | .among => isAmong a b
  | .notAmong => return !(← isAmong a b)

end LalrBackend.Code
