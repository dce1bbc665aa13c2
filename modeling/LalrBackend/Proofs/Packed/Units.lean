import LalrBackend.Packed.Units
import Mathlib.Tactic.Common

/-!
# Packing and unpacking

Packing a table of values that fit never fails, unpacking gives the table back
whatever its length, and every unit stays below a bound that sixteen bits and the high
unit of the length stay below.
-/

namespace LalrBackend.Packed

/-! ## The lowest value -/

theorem foldl_min_le_start : ∀ (values : List Int) (start : Int),
    values.foldl min start ≤ start := by
  intro values
  induction values with
  | nil => intro start; exact Int.le_refl start
  | cons v vs ih =>
      intro start
      exact Int.le_trans (ih (min start v)) (Int.min_le_left start v)

theorem foldl_min_le_of_mem {v : Int} : ∀ {values : List Int} (start : Int),
    v ∈ values → values.foldl min start ≤ v := by
  intro values
  induction values with
  | nil => intro start h; cases h
  | cons w ws ih =>
      intro start h
      rcases List.mem_cons.mp h with rfl | h
      · exact Int.le_trans (foldl_min_le_start ws _) (Int.min_le_right start v)
      · exact ih _ h

theorem le_foldl_min {low : Int} : ∀ {values : List Int} {start : Int},
    low ≤ start → (∀ v ∈ values, low ≤ v) → low ≤ values.foldl min start := by
  intro values
  induction values with
  | nil => intro start hstart _; exact hstart
  | cons v vs ih =>
      intro start hstart h
      exact ih (Int.le_min.mpr ⟨hstart, h v List.mem_cons_self⟩)
        (fun w hw => h w (List.mem_cons_of_mem v hw))

theorem lowest_le_zero (values : List Int) : lowest values ≤ 0 :=
  foldl_min_le_start values 0

theorem lowest_le {values : List Int} {v : Int} (h : v ∈ values) : lowest values ≤ v :=
  foldl_min_le_of_mem 0 h

/-! ## Packing -/

/-- The units that a table is packed into. -/
def unitsFor (values : List Int) : List Int :=
  header values ++ values.map (· - lowest values)

theorem fits_iff {v : Int} : fits v = true ↔ -0x8000 ≤ v ∧ v ≤ 0x7fff := by
  rw [fits, Bool.and_eq_true, decide_eq_true_eq, decide_eq_true_eq]

/-- Packing succeeds exactly for the tables whose values all fit. -/
theorem encode_eq_ok_iff {values units : List Int} :
    encode values = .ok units ↔ (∀ v ∈ values, fits v = true) ∧ units = unitsFor values := by
  unfold encode
  cases hfind : values.find? fun v => !fits v with
  | some v =>
      have hv : fits v = false := by simpa using List.find?_some hfind
      constructor
      · intro h; cases h
      · rintro ⟨hall, _⟩
        rw [hall v (List.mem_of_find?_eq_some hfind)] at hv
        cases hv
  | none =>
      have hall : ∀ v ∈ values, fits v = true := by
        intro v hv
        simpa using List.find?_eq_none.mp hfind v hv
      constructor
      · intro h; cases h; exact ⟨hall, rfl⟩
      · rintro ⟨_, rfl⟩; rfl

theorem unitsFor_length (values : List Int) :
    (unitsFor values).length = values.length + 3 := by
  rw [unitsFor, List.length_append, List.length_map, Nat.add_comm]
  rfl

/-- The units of a table stay below a bound that sixteen bits and the high unit of its
length stay below. -/
theorem unitsFor_lt {values : List Int} {bound : Nat} (hfits : ∀ v ∈ values, fits v = true)
    (hbound : 0x10000 ≤ bound) (hlen : values.length < bound * 0x10000) :
    ∀ u ∈ unitsFor values, 0 ≤ u ∧ u < bound := by
  have hlow : -0x8000 ≤ lowest values :=
    le_foldl_min (by decide) fun v hv => (fits_iff.mp (hfits v hv)).1
  have hzero := lowest_le_zero values
  intro u hu
  rw [unitsFor, header, List.mem_append, List.mem_map] at hu
  rcases hu with hu | ⟨v, hv, rfl⟩
  · simp only [List.mem_cons, List.not_mem_nil, or_false] at hu
    rcases hu with rfl | rfl | rfl <;> omega
  · have hv' := fits_iff.mp (hfits v hv)
    have hle := lowest_le hv
    omega

/-! ## Unpacking -/

/-- The two length units announce the length that they were made of. -/
theorem announced_split (n : Nat) :
    announced (n / 0x10000 : Nat) (n % 0x10000 : Nat) = n := by
  have hlow : n % 2 ^ 16 < 2 ^ 16 := Nat.mod_lt n (by decide)
  have hor : 2 ^ 16 * (n / 2 ^ 16) ||| n % 2 ^ 16 = n := by
    rw [← Nat.two_pow_add_eq_or_of_lt hlow, Nat.div_add_mod]
  have hmul : ((n / 0x10000 : Nat) : Int) * 0x10000 = ((2 ^ 16 * (n / 2 ^ 16) : Nat) : Int) := by
    omega
  rw [announced, hmul]
  exact congrArg Int.ofNat hor

/-- Units that announce a number are unpacked if there are as many of them; what follows
these is left out. -/
theorem decode_of_announced {high low offset : Int} {n : Nat} (h : announced high low = n)
    (data : List Int) : decode (high :: low :: offset :: data) =
      if n ≤ data.length then .ok ((data.take n).map (· - offset))
      else .error (.truncated n data.length) := by
  have hbody : body (high :: low :: offset :: data) n = data.take n := by
    have hcut : cutEnd (high :: low :: offset :: data).length (3 + (n : Int)) = n + 3 := by
      rw [cutEnd, if_neg (by omega)]
      omega
    rw [body, hcut]
    rfl
  show (if ((body _ (announced high low)).length : Int) = announced high low then _ else _) = _
  rw [h, hbody, List.length_take]
  by_cases hle : n ≤ data.length
  · rw [if_pos hle, if_pos (by omega)]
  · rw [if_neg hle, if_neg (by omega), Nat.min_eq_right (by omega)]

/-- Unpacking undoes packing, for tables of every length. -/
theorem decode_unitsFor (values : List Int) : decode (unitsFor values) = .ok values := by
  have hshift : (values.map (· - lowest values)).map (· - -lowest values) = values := by
    rw [List.map_map]
    conv => rhs; rw [← List.map_id values]
    apply List.map_congr_left
    intro v _
    simp only [Function.comp, id_eq]
    omega
  show decode (_ :: _ :: -lowest values :: values.map (· - lowest values)) = _
  have hlen : (values.map (· - lowest values)).length = values.length := List.length_map _
  rw [decode_of_announced (announced_split values.length), if_pos (Nat.le_of_eq hlen.symm),
    List.take_of_length_le (Nat.le_of_eq hlen), hshift]

end LalrBackend.Packed
