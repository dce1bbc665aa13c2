import Mathlib.Algebra.BigOperators.Group.List.Basic
import Mathlib.Algebra.Ring.Int.Defs
import LalrBackend.Calculator

/-!
# The language of the calculator

Sums of products of numbers as sequences of tokens, and their values. A sequence is read token by
token with the sum of the finished products and the product so far; what that gives is the value of
the sum that the sequence spells, and nothing if it spells none.

While a loop runs over the tables of the calculator, it goes from phase to phase. A phase says which
states are on the stack and which integers the symbols carry. The value of what was read and is
still to come stays the same, and there are only so many phases.
-/

namespace LalrBackend.Calculator

/-- What a token is. -/
inductive Kind where
  | number (n : Int)
  | plus
  | times
  deriving DecidableEq, Repr

/-! ## Sums of products -/

/-- The tokens of a product. -/
def productTokens (factors : List Int) : List Kind :=
  (factors.map .number).intersperse .times

/-- The tokens of a sum of products. -/
def sumTokens (products : List (List Int)) : List Kind :=
  [Kind.plus].intercalate (products.map productTokens)

/-- The value of a sum of products. -/
def sumValue (products : List (List Int)) : Int :=
  (products.map List.prod).sum

/-- A sequence of tokens spells a sum of products: there is at least one product, and at least one
number in each. -/
structure Spells (products : List (List Int)) (ks : List Kind) : Prop where
  someProduct : products ≠ []
  someFactor : ∀ factors ∈ products, factors ≠ []
  tokens : ks = sumTokens products

section Tokens

variable {n m : Int} {factors : List Int} {products : List (List Int)}

theorem sumTokens_times : sumTokens ((n :: m :: factors) :: products) =
    .number n :: .times :: sumTokens ((m :: factors) :: products) := by
  cases products with
  | nil => simp [sumTokens, productTokens, List.intercalate]
  | cons product products => simp [sumTokens, productTokens, List.intercalate]

theorem sumTokens_plus : sumTokens ([n] :: factors :: products) =
    .number n :: .plus :: sumTokens (factors :: products) := by
  simp [sumTokens, productTokens, List.intercalate]

theorem sumValue_times : sumValue ((n :: m :: factors) :: products) =
    sumValue ((n * m :: factors) :: products) := by
  simp [sumValue, mul_assoc]

theorem sumValue_plus : sumValue ([n] :: factors :: products) =
    n + sumValue (factors :: products) := by
  simp [sumValue]

end Tokens

/-! ## Reading token by token -/

/-- Goes on with the number that comes next. -/
def withNumber (next : Int → List Kind → Option Int) : List Kind → Option Int
  | .number n :: ks => next n ks
  | _ => none

/-- The value of a sum, of which the finished products add up to one number and the factors read
since then multiply to another one. -/
def valueAfter (sum product : Int) : List Kind → Option Int
  | [] => some (sum + product)
  | .plus :: .number n :: ks => valueAfter (sum + product) n ks
  | .times :: .number n :: ks => valueAfter sum (product * n) ks
  | _ => none

/-- The value that a sequence of tokens has. -/
def value? : List Kind → Option Int :=
  withNumber (valueAfter 0)

theorem valueAfter_plus (sum product : Int) (ks : List Kind) :
    valueAfter sum product (.plus :: ks) = withNumber (valueAfter (sum + product)) ks := by
  rcases ks with _ | ⟨_ | _ | _, ks⟩ <;> simp [valueAfter, withNumber]

theorem valueAfter_times (sum product : Int) (ks : List Kind) :
    valueAfter sum product (.times :: ks) =
      withNumber (fun n => valueAfter sum (product * n)) ks := by
  rcases ks with _ | ⟨_ | _ | _, ks⟩ <;> simp [valueAfter, withNumber]

/-- What gives a value spells, behind a number, a sum of products. -/
theorem exists_spells_of_valueAfter {sum product v : Int} {ks : List Kind}
    (h : valueAfter sum product ks = some v) (n : Int) :
    ∃ factors products, Spells ((n :: factors) :: products) (.number n :: ks) ∧
      v = sum + sumValue ((product :: factors) :: products) := by
  fun_induction valueAfter sum product ks generalizing n with
  | case1 sum product =>
      cases h
      exact ⟨[], [], ⟨by simp, by simp, rfl⟩, by simp [sumValue]⟩
  | case2 sum product m ks ih =>
      obtain ⟨factors, products, hspells, rfl⟩ := ih h m
      refine ⟨[], (m :: factors) :: products, ⟨by simp, ?_, ?_⟩, ?_⟩
      · simpa using hspells.someFactor
      · rw [sumTokens_plus, hspells.tokens]
      · rw [sumValue_plus, Int.add_assoc]
  | case3 sum product m ks ih =>
      obtain ⟨factors, products, hspells, rfl⟩ := ih h m
      refine ⟨m :: factors, products, ⟨by simp, ?_, ?_⟩, ?_⟩
      · simpa using hspells.someFactor
      · rw [sumTokens_times, hspells.tokens]
      · rw [sumValue_times]
  | case4 => cases h

/-- What spells a sum of products has, behind its first number, the value of that sum. -/
theorem valueAfter_of_tokens : ∀ (factors : List Int) (products : List (List Int))
    (n sum product : Int), (∀ p ∈ products, p ≠ []) → ∃ ks,
      sumTokens ((n :: factors) :: products) = .number n :: ks ∧
        valueAfter sum product ks = some (sum + sumValue ((product :: factors) :: products))
  | [], [], n, sum, product, _ => ⟨[], rfl, by simp [valueAfter, sumValue]⟩
  | m :: factors, products, n, sum, product, hproducts => by
      obtain ⟨ks, htokens, hvalue⟩ :=
        valueAfter_of_tokens factors products m sum (product * m) hproducts
      refine ⟨_, sumTokens_times, ?_⟩
      rw [htokens, valueAfter_times, withNumber, hvalue, sumValue_times]
  | [], first :: products, n, sum, product, hproducts => by
      obtain ⟨m, factors, rfl⟩ := List.exists_cons_of_ne_nil (hproducts _ List.mem_cons_self)
      obtain ⟨ks, htokens, hvalue⟩ := valueAfter_of_tokens factors products m (sum + product) m
        fun p hp => hproducts p (List.mem_cons_of_mem _ hp)
      refine ⟨_, sumTokens_plus, ?_⟩
      rw [htokens, valueAfter_plus, withNumber, hvalue, sumValue_plus, Int.add_assoc]
termination_by factors products => (products.length, factors.length)

/-- A sequence of tokens has a value exactly if it spells a sum of products, and then it has the
value of that sum. -/
theorem value?_eq_some_iff {ks : List Kind} {v : Int} :
    value? ks = some v ↔ ∃ products, Spells products ks ∧ v = sumValue products := by
  constructor
  · intro h
    unfold value? withNumber at h
    split at h
    · rename_i n ks
      obtain ⟨factors, products, hspells, rfl⟩ := exists_spells_of_valueAfter h n
      exact ⟨_, hspells, Int.zero_add _⟩
    · cases h
  · rintro ⟨products, ⟨hsome, hfactors, rfl⟩, rfl⟩
    obtain ⟨first, products, rfl⟩ := List.exists_cons_of_ne_nil hsome
    obtain ⟨n, factors, rfl⟩ := List.exists_cons_of_ne_nil (hfactors _ List.mem_cons_self)
    obtain ⟨ks, htokens, hvalue⟩ := valueAfter_of_tokens factors products n 0 n
      fun p hp => hfactors p (List.mem_cons_of_mem _ hp)
    rw [htokens, value?, withNumber, hvalue, Int.zero_add]

example : value? [.number 2, .times, .number 3, .plus, .number 4] = some 10 := by decide

/-! ## Phases -/

/-- What a loop has read. Where there is a sum, a product is on its way behind a plus sign: it has
not begun, is a number that is no product yet, is a product, or is one with a sign or with a sign
and a number behind it. Else there is only the sum, the sum with the end of input behind it, or the
sum that was accepted. -/
inductive Phase where
  | fresh (e? : Option Int)
  | factor (e? : Option Int) (n : Int)
  | term (e? : Option Int) (t : Int)
  | times (e? : Option Int) (t : Int)
  | product (e? : Option Int) (t n : Int)
  | sum (e : Int)
  | ended (e : Int)
  | done (e : Int)

namespace Phase

/-- The states under a product. -/
def statesBelow : Option Int → List Int
  | none => [0]
  | some _ => [4, 1, 0]

/-- The state on top of a product. -/
def termState : Option Int → Int
  | none => 2
  | some _ => 5

/-- The states, the one on top first. -/
def states : Phase → List Int
  | fresh e? => statesBelow e?
  | factor e? _ => 3 :: statesBelow e?
  | term e? _ => termState e? :: statesBelow e?
  | times e? _ => 6 :: termState e? :: statesBelow e?
  | product e? _ _ => 7 :: 6 :: termState e? :: statesBelow e?
  | sum _ => [1, 0]
  | ended _ => [8, 1, 0]
  | done _ => [-1, 0]

/-- What the symbols under a product carry. -/
def itemsBelow : Option Int → List (Option Int)
  | none => []
  | some e => [some e, none]

/-- What the symbols carry, the one on top last. -/
def items : Phase → List (Option Int)
  | fresh e? => itemsBelow e?
  | factor e? n => itemsBelow e? ++ [some n]
  | term e? t => itemsBelow e? ++ [some t]
  | times e? t => itemsBelow e? ++ [some t, none]
  | product e? t n => itemsBelow e? ++ [some t, none, some n]
  | sum e => [some e]
  | ended e => [some e, none]
  | done e => [some e]

/-- Whether the parser is done. -/
def isDone : Phase → Bool
  | done _ => true
  | _ => false

/-- The phase that comes next, and the tokens that are still to be read then. -/
def next? : Phase → List Kind → Option (Phase × List Kind)
  | fresh e?, .number n :: ks => some (factor e? n, ks)
  | factor e? n, ks => some (term e? n, ks)
  | term e? t, .times :: ks => some (times e? t, ks)
  | term e? t, ks => some (sum (e?.getD 0 + t), ks)
  | times e? t, .number n :: ks => some (product e? t n, ks)
  | product e? t n, ks => some (term e? (t * n), ks)
  | sum e, .plus :: ks => some (fresh (some e), ks)
  | sum e, [] => some (ended e, [])
  | ended e, ks => some (done e, ks)
  | _, _ => none

/-- The value of what was read and what is still to come. -/
def value? : Phase → List Kind → Option Int
  | fresh e?, ks => withNumber (valueAfter (e?.getD 0)) ks
  | factor e? n, ks => valueAfter (e?.getD 0) n ks
  | term e? t, ks => valueAfter (e?.getD 0) t ks
  | times e? t, ks => withNumber (fun n => valueAfter (e?.getD 0) (t * n)) ks
  | product e? t n, ks => valueAfter (e?.getD 0) (t * n) ks
  | sum e, [] => some e
  | sum e, .plus :: ks => withNumber (valueAfter e) ks
  | sum _, _ => none
  | ended e, _ => some e
  | done e, _ => some e

/-- How many phases there may be until the next token is read. -/
def weight : Phase → Nat
  | factor .. => 4
  | product .. => 4
  | term .. => 3
  | sum _ => 2
  | ended _ => 1
  | _ => 0

/-- A bound on the phases that are still to come. -/
def left (ph : Phase) (ks : List Kind) : Nat :=
  5 * ks.length + ph.weight

variable {ph ph' : Phase} {ks ks' : List Kind}

/-- A sum to which a product is added goes on as the product did, unless a factor follows. -/
theorem value?_sum_of_term {e? : Option Int} {t : Int} (h : ∀ ks', ks = .times :: ks' → False) :
    (sum (e?.getD 0 + t)).value? ks = (term e? t).value? ks := by
  match ks with
  | [] => rfl
  | .number _ :: _ => simp [value?, valueAfter]
  | .plus :: _ => exact (valueAfter_plus _ _ _).symm
  | .times :: ks => exact (h ks rfl).elim

/-- The value stays the same from phase to phase. -/
theorem value?_next? (h : ph.next? ks = some (ph', ks')) : ph'.value? ks' = ph.value? ks := by
  revert h
  fun_cases next? ph ks with
  | case1 => rintro ⟨⟩; rfl
  | case2 => rintro ⟨⟩; rfl
  | case3 =>
      rintro ⟨⟩
      exact (valueAfter_times _ _ _).symm
  | case4 _ _ _ htimes =>
      rintro ⟨⟩
      exact value?_sum_of_term htimes
  | case5 => rintro ⟨⟩; rfl
  | case6 => rintro ⟨⟩; rfl
  | case7 => rintro ⟨⟩; rfl
  | case8 => rintro ⟨⟩; rfl
  | case9 => rintro ⟨⟩; rfl
  | case10 => rintro ⟨⟩

/-- There are only so many phases. -/
theorem left_next? (h : ph.next? ks = some (ph', ks')) : ph'.left ks' < ph.left ks := by
  revert h
  fun_cases next? ph ks <;> rintro ⟨⟩ <;> simp only [left, weight, List.length_cons] <;> omega

/-- Without a phase that comes next, the parser is done or there is no value. -/
theorem value?_of_next?_eq_none (h : ph.next? ks = none) :
    ph.isDone = true ∨ ph.value? ks = none := by
  rcases ks with _ | ⟨_ | _ | _, ks⟩ <;> cases ph <;>
    first | exact .inl rfl | exact .inr rfl | cases h

end Phase

end LalrBackend.Calculator
