import LalrBackend.Decimal.Binary64
import LalrBackend.Text.Quoted

/-!
# Values

The values that symbols of the parse stack carry and that user code computes: nothing, truth
values, numbers, numbers that are shown in a way of their own, texts, lists and tuples of values,
symbols of the stack, and other things by their names. Numbers of different kinds are compared by what they amount to; a truth value counts as one
or zero.
-/

namespace LalrBackend

open Text

/-- A value. The parts of a symbol are its index, its value, the positions at which it begins and
ends in the input, and its name. -/
inductive Value where
  | null
  | bool (b : Bool)
  | int (n : Int)
  | member (n : Int) (shown : String)
  | real (x : Binary64)
  | text (s : String)
  | list (items : List Value)
  | tuple (items : List Value)
  | symbol (sym value left right name : Value)
  | other (name : String)
  deriving Repr, Inhabited

namespace Value

/-- Whether a value counts as true: nothing, zero and what is empty do not. -/
def isTrue : Value → Bool
  | .null => false
  | .bool b => b
  | .int n => n != 0
  | .member n _ => n != 0
  | .real x => !x.equalsInt 0
  | .text s => !s.isEmpty
  | .list items => !items.isEmpty
  | .tuple items => !items.isEmpty
  | .symbol .. => true
  | .other _ => true

mutual

/-- A value as text; the text of a value that is `bare` has no quotes. A symbol goes by its name
or, without one, by its index. -/
def write (bare : Bool) : Value → String
  | .null => "None"
  | .bool b => if b then "True" else "False"
  | .int n => decimal n
  | .member n shown => if bare then decimal n else shown
  | .real x => String.ofList x.toChars
  | .text s => if bare then s else quoted s
  | .list items => "[" ++ ", ".intercalate (writeAll items) ++ "]"
  | .tuple [v] => "(" ++ v.write false ++ ",)"
  | .tuple items => "(" ++ ", ".intercalate (writeAll items) ++ ")"
  | .symbol sym value left right name =>
    "Symbol(" ++ (if name.isTrue then name.write false else sym.write false) ++ ", " ++
      value.write false ++ ", left=" ++ left.write true ++ ", right=" ++ right.write true ++ ")"
  | .other name => "<" ++ name ++ ">"

/-- Values as texts between quotes where they are texts. -/
def writeAll : List Value → List String
  | [] => []
  | v :: vs => v.write false :: writeAll vs

end

/-- A value as it is shown. -/
def shown (v : Value) : String :=
  v.write false

mutual

/-- Whether a value can be written: it holds no integer that is too long. -/
def isWritable : Value → Bool
  | .int n => Text.isWritable n
  | .list items => areWritable items
  | .tuple items => areWritable items
  | .symbol sym value left right name =>
    (if name.isTrue then name.isWritable else sym.isWritable) && value.isWritable &&
      left.isWritable && right.isWritable
  | _ => true

/-- Whether all values can be written. -/
def areWritable : List Value → Bool
  | [] => true
  | v :: vs => v.isWritable && areWritable vs

end

/-- The integer that a value amounts to, if it is an integer or a truth value. -/
def integer? : Value → Option Int
  | .int n => some n
  | .member n _ => some n
  | .bool b => some (if b then 1 else 0)
  | _ => none

mutual

/-- Whether two values are equal. The names of symbols do not matter. -/
def same : Value → Value → Bool
  | .null, .null => true
  | .text a, .text b => a == b
  | .list as, .list bs => sameAll as bs
  | .tuple as, .tuple bs => sameAll as bs
  | .symbol sym value left right _, .symbol sym' value' left' right' _ =>
    same sym sym' && same value value' && same left left' && same right right'
  | .other a, .other b => a == b
  | .real x, .real y => x.equals y
  | .real x, v => (v.integer?.map x.equalsInt).getD false
  | v, .real x => (v.integer?.map x.equalsInt).getD false
  | v, w => v.integer?.isSome && v.integer? == w.integer?

/-- Whether two lists of values are equal item by item. -/
def sameAll : List Value → List Value → Bool
  | [], [] => true
  | v :: vs, w :: ws => same v w && sameAll vs ws
  | _, _ => false

end

/-- The sum of two integers, or two texts, lists or tuples one after the other. -/
def add? : Value → Value → Option Value
  | .text a, .text b => some (.text (a ++ b))
  | .list as, .list bs => some (.list (as ++ bs))
  | .tuple as, .tuple bs => some (.tuple (as ++ bs))
  | v, w =>
    match v.integer?, w.integer? with
    | some m, some n => some (.int (m + n))
    | _, _ => none

/-- The difference of two integers. -/
def sub? (v w : Value) : Option Value :=
  match v.integer?, w.integer? with
  | some m, some n => some (.int (m - n))
  | _, _ => none

/-- A text, a list or a tuple several times over; a negative number counts as none. -/
def repeat? (count : Int) : Value → Option Value
  | .text s => some (.text (String.join (List.replicate count.toNat s)))
  | .list items => some (.list (List.replicate count.toNat items).flatten)
  | .tuple items => some (.tuple (List.replicate count.toNat items).flatten)
  | _ => none

/-- The product of two integers, or a text or a list several times over. -/
def mul? (v w : Value) : Option Value :=
  match v.integer?, w.integer? with
  | some m, some n => some (.int (m * n))
  | some m, none => repeat? m w
  | none, some n => repeat? n v
  | none, none => none

end Value

end LalrBackend
