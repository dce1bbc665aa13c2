import LalrBackend.Proofs.Packed.Units
import Mathlib.Algebra.Group.Nat.Defs

/-!
# Canonical units

Packing and unpacking are inverse to each other between the tables whose values fit
and the canonical lists of units: the length is split over the first two units, the
offset is as small as it can be, and no shifted value is negative. Any other table
is refused for its first value that does not fit; this value is named unless it is
too long to be written.
-/

namespace LalrBackend.Packed

/-- The values of sixteen bits with a sign. -/
def InRange (v : Int) : Prop :=
  -0x8000 ≤ v ∧ v ≤ 0x7fff

instance (v : Int) : Decidable (InRange v) :=
  inferInstanceAs (Decidable (_ ∧ _))

/-! ## Refusals -/

/-- The first value of a table that is out of range. -/
def FirstOutOfRange (values : List Int) (v : Int) : Prop :=
  ∃ before after, values = before ++ v :: after ∧ (∀ w ∈ before, InRange w) ∧ ¬ InRange v

section Refusals

variable {values units : List Int} {v : Int} {e : GeneratorError}

theorem not_fits_iff : (!fits v) = true ↔ ¬ InRange v := by
  rw [Bool.not_eq_true', ← Bool.not_eq_true, fits_iff]
  rfl

theorem find?_not_fits_eq_some_iff :
    (values.find? fun w => !fits w) = some v ↔ FirstOutOfRange values v := by
  rw [List.find?_eq_some_iff_append, not_fits_iff]
  constructor
  · rintro ⟨hv, before, after, rfl, hbefore⟩
    refine ⟨before, after, rfl, ?_, hv⟩
    intro w hw
    exact fits_iff.mp (by simpa using hbefore w hw)
  · rintro ⟨before, after, rfl, hbefore, hv⟩
    refine ⟨hv, before, after, rfl, ?_⟩
    intro w hw
    simpa using fits_iff.mpr (hbefore w hw)

/-- A table is refused for its first value that is out of range, and only for that. -/
theorem encode_eq_error_iff :
    encode values = .error e ↔ ∃ v, FirstOutOfRange values v ∧ e = .valueTooWide v := by
  unfold encode
  cases hfind : values.find? fun w => !fits w with
  | none =>
      constructor
      · intro h; cases h
      · rintro ⟨v, hfirst, _⟩
        rw [find?_not_fits_eq_some_iff.mpr hfirst] at hfind
        cases hfind
  | some v =>
      have hfirst : ∀ w, FirstOutOfRange values w ↔ v = w := by
        intro w
        rw [← find?_not_fits_eq_some_iff, hfind, Option.some.injEq]
      constructor
      · intro h; cases h; exact ⟨v, (hfirst v).mpr rfl, rfl⟩
      · rintro ⟨w, hw, rfl⟩
        rw [(hfirst w).mp hw]

theorem encode_of_inRange (h : ∀ v ∈ values, InRange v) :
    encode values = .ok (unitsFor values) :=
  encode_eq_ok_iff.mpr ⟨fun v hv => fits_iff.mpr (h v hv), rfl⟩

/-- A table is refused exactly if one of its values is out of range. -/
theorem exists_encode_eq_error_iff :
    (∃ e, encode values = .error e) ↔ ∃ v ∈ values, ¬ InRange v := by
  constructor
  · rintro ⟨e, he⟩
    obtain ⟨v, ⟨before, after, rfl, _, hv⟩, _⟩ := encode_eq_error_iff.mp he
    exact ⟨v, by simp, hv⟩
  · rintro ⟨v, hmem, hv⟩
    cases hencode : encode values with
    | error e => exact ⟨e, rfl⟩
    | ok units => exact absurd (fits_iff.mp ((encode_eq_ok_iff.mp hencode).1 v hmem)) hv

/-- The value that a table is refused for is named if it is short enough to be written. -/
theorem message?_valueTooWide (v : Int) : (GeneratorError.valueTooWide v).message? =
    if v.natAbs < 10 ^ Text.mostDigits then
      some ("Table value " ++ Text.decimal v ++ " doesn't fit in 16 bits")
    else none := by
  have hwritable : (GeneratorError.valueTooWide v).isWritable = true ↔
      v.natAbs < 10 ^ Text.mostDigits := by
    simp only [GeneratorError.isWritable, Text.isWritable, Nat.pow_eq, decide_eq_true_eq]
  unfold GeneratorError.message?
  by_cases h : v.natAbs < 10 ^ Text.mostDigits
  · rw [if_pos (hwritable.mpr h), if_pos h]
    rfl
  · rw [if_neg (mt hwritable.mp h), if_neg h]

end Refusals

/-! ## Canonical units -/

/-- What distinguishes the units that a table is packed into: they announce their own
number, no value is negative after the shift nor out of range before it, and the shift
is zero or needed by some value. -/
structure IsCanonical (high low offset : Int) (data : List Int) : Prop where
  announces : high * 0x10000 + low = data.length
  nonneg : ∀ d ∈ data, 0 ≤ d
  inRange : ∀ d ∈ data, -0x8000 ≤ d - offset ∧ d - offset ≤ 0x7fff
  attained : offset = 0 ∨ 0 < offset ∧ 0 ∈ data

section Canonical

variable {values data : List Int} {m high low offset : Int}

theorem lowest_mem (values : List Int) : lowest values = 0 ∨ lowest values ∈ values := by
  have hmin : (0 :: values).min? = some (lowest values) := List.min?_cons'
  exact List.mem_cons.mp (List.min?_mem hmin)

theorem lowest_eq (hzero : m ≤ 0) (hle : ∀ v ∈ values, m ≤ v) (hmem : m = 0 ∨ m ∈ values) :
    lowest values = m := by
  apply Int.le_antisymm
  · rcases hmem with rfl | hmem
    · exact lowest_le_zero values
    · exact lowest_le hmem
  · exact le_foldl_min hzero hle

/-- Two units announce the number that they are the halves of. -/
theorem announced_of_lt (hhigh : 0 ≤ high) (hlow : 0 ≤ low) (hlt : low < 0x10000) :
    announced high low = high * 0x10000 + low := by
  obtain ⟨h, rfl⟩ := Int.eq_ofNat_of_zero_le hhigh
  obtain ⟨l, rfl⟩ := Int.eq_ofNat_of_zero_le hlow
  have hquot : (h * 0x10000 + l) / 0x10000 = h := by omega
  have hrest : (h * 0x10000 + l) % 0x10000 = l := by omega
  have hsplit := announced_split (h * 0x10000 + l)
  rw [hquot, hrest] at hsplit
  rw [hsplit]
  omega

/-- Units with a header are unpacked if there are as many as announced; what follows
them is left out. -/
theorem decode_eq_ok_iff (hhigh : 0 ≤ high) (hlow : 0 ≤ low) (hlt : low < 0x10000) :
    decode (high :: low :: offset :: data) = .ok values ↔
      high * 0x10000 + low ≤ data.length ∧
        values = (data.take (high * 0x10000 + low).toNat).map (· - offset) := by
  obtain ⟨n, hn⟩ : ∃ n : Nat, high * 0x10000 + low = n :=
    Int.eq_ofNat_of_zero_le (by omega)
  have hannounced : announced high low = (n : Int) :=
    (announced_of_lt hhigh hlow hlt).trans hn
  rw [decode_of_announced hannounced, hn]
  by_cases h : n ≤ data.length
  · have hle : (n : Int) ≤ data.length := by omega
    rw [if_pos h, Except.ok.injEq, and_iff_right hle, Int.toNat_natCast]
    exact eq_comm
  · have hle : ¬ (n : Int) ≤ data.length := by omega
    rw [if_neg h]
    constructor
    · intro herror
      cases herror
    · intro hfits
      exact absurd hfits.1 hle

theorem map_sub_length (values : List Int) (shift : Int) :
    (values.map (· - shift)).length = values.length :=
  List.length_map _

/-- The units of a table are canonical. -/
theorem isCanonical_of_encode (hvalues : values = data.map (· - offset))
    (h : encode values = .ok (high :: low :: offset :: data)) :
    IsCanonical high low offset data := by
  obtain ⟨hfits, hunits⟩ := encode_eq_ok_iff.mp h
  simp only [unitsFor, header, List.cons_append, List.nil_append, List.cons.injEq] at hunits
  obtain ⟨hhigh, hlow, hoffset, hdata⟩ := hunits
  have hlen : values.length = data.length := by
    rw [hvalues]
    exact map_sub_length data offset
  have hzero := lowest_le_zero values
  refine ⟨by omega, ?_, ?_, ?_⟩
  · intro d hd
    rw [hdata] at hd
    obtain ⟨v, hv, rfl⟩ := List.mem_map.mp hd
    have hle := lowest_le hv
    omega
  · intro d hd
    have hmem : d - offset ∈ values := hvalues ▸ List.mem_map_of_mem hd
    exact fits_iff.mp (hfits _ hmem)
  · -- The lowest value is where the shift comes from, so it becomes zero.
    rcases lowest_mem values with hnone | hmem
    · left
      omega
    · by_cases hshift : offset = 0
      · exact Or.inl hshift
      · have hattained : lowest values - lowest values ∈ data :=
          hdata ▸ List.mem_map_of_mem (f := (· - lowest values)) hmem
        rw [Int.sub_self] at hattained
        exact Or.inr ⟨by omega, hattained⟩

/-- Canonical units are those of the table that they are unpacked to. -/
theorem encode_of_isCanonical (h : IsCanonical high low offset data) (hlow : 0 ≤ low)
    (hlt : low < 0x10000) :
    encode (data.map (· - offset)) = .ok (high :: low :: offset :: data) := by
  have hinRange : ∀ v ∈ data.map (· - offset), InRange v := by
    intro v hv
    obtain ⟨d, hd, rfl⟩ := List.mem_map.mp hv
    exact h.inRange d hd
  have hlowest : lowest (data.map (· - offset)) = -offset := by
    apply lowest_eq
    · rcases h.attained with hzero | ⟨hpos, _⟩ <;> omega
    · intro v hv
      obtain ⟨d, hd, rfl⟩ := List.mem_map.mp hv
      have hnonneg := h.nonneg d hd
      omega
    · rcases h.attained with hzero | ⟨_, hmem⟩
      · left
        omega
      · right
        exact List.mem_map.mpr ⟨0, hmem, Int.zero_sub offset⟩
  have hshift : (data.map (· - offset)).map (· - -offset) = data := by
    rw [List.map_map]
    conv => rhs; rw [← List.map_id data]
    apply List.map_congr_left
    intro d _
    simp only [Function.comp, id_eq]
    omega
  have hlen := h.announces
  rw [encode_of_inRange hinRange, unitsFor, header, hlowest, hshift, map_sub_length]
  simp only [List.cons_append, List.nil_append, Except.ok.injEq, List.cons.injEq, and_true]
  refine ⟨?_, ?_, ?_⟩ <;> omega

/-- **Packing and unpacking are inverse bijections** between the tables whose values are
in range and the canonical units. Any other table is refused for its first value that is
out of range, and this value is named if it is short enough. -/
theorem encode_decode_canonical :
    (∀ values : List Int, (∀ v ∈ values, InRange v) →
      ∃ units, encode values = .ok units ∧ decode units = .ok values ∧
        (values.length < 2 ^ 32 → ∀ u ∈ units, 0 ≤ u ∧ u ≤ 0xffff)) ∧
    (∀ values : List Int,
      ((∃ e, encode values = .error e) ↔ ∃ v ∈ values, ¬ InRange v) ∧
      ∀ e, encode values = .error e ↔ ∃ v, FirstOutOfRange values v ∧ e = .valueTooWide v) ∧
    (∀ v : Int, (GeneratorError.valueTooWide v).message? =
      if v.natAbs < 10 ^ Text.mostDigits then
        some ("Table value " ++ Text.decimal v ++ " doesn't fit in 16 bits")
      else none) ∧
    ∀ (high low offset : Int) (data : List Int), 0 ≤ high → 0 ≤ low → low < 0x10000 →
      ((∃ values, decode (high :: low :: offset :: data) = .ok values ∧
          encode values = .ok (high :: low :: offset :: data)) ↔
        IsCanonical high low offset data) := by
  refine ⟨?_, ?_, message?_valueTooWide, ?_⟩
  · intro values h
    refine ⟨_, encode_of_inRange h, decode_unitsFor values, ?_⟩
    intro hlen u hu
    have hfits : ∀ v ∈ values, fits v = true := fun v hv => fits_iff.mpr (h v hv)
    have hbounds := unitsFor_lt hfits (Nat.le_refl 0x10000) hlen u hu
    omega
  · intro values
    exact ⟨exists_encode_eq_error_iff, fun e => encode_eq_error_iff⟩
  · intro high low offset data hhigh hlow hlt
    constructor
    · rintro ⟨values, hdecode, hencode⟩
      obtain ⟨hle, hvalues⟩ := (decode_eq_ok_iff hhigh hlow hlt).mp hdecode
      -- The packed table has as many units as the table has values, so none is left out.
      have hlen : data.length = values.length := by
        have hunits := congrArg List.length (encode_eq_ok_iff.mp hencode).2
        rw [unitsFor_length] at hunits
        simpa using hunits
      have hall : data.take (high * 0x10000 + low).toNat = data := by
        apply List.take_of_length_le
        have htake := congrArg List.length hvalues
        rw [map_sub_length, List.length_take] at htake
        omega
      rw [hall] at hvalues
      exact isCanonical_of_encode hvalues hencode
    · intro h
      have hlen := h.announces
      refine ⟨data.map (· - offset), ?_, encode_of_isCanonical h hlow hlt⟩
      rw [decode_eq_ok_iff hhigh hlow hlt, hlen]
      simp

end Canonical

/-- The extremes of the range together, and the units that they are packed into. -/
theorem encode_decode_canonical_extremes :
    (∀ v ∈ [-0x8000, 0x7fff, 0], InRange v) ∧
      (∃ units, encode [-0x8000, 0x7fff, 0] = .ok units ∧
        decode units = .ok [-0x8000, 0x7fff, 0] ∧ ∀ u ∈ units, 0 ≤ u ∧ u ≤ 0xffff) ∧
      IsCanonical 0 3 0x8000 [0, 0xffff, 0x8000] := by
  obtain ⟨hpack, _, _, hunits⟩ := encode_decode_canonical
  have hrange : ∀ v ∈ [-0x8000, 0x7fff, 0], InRange v := by decide
  obtain ⟨units, hencode, hdecode, hbounds⟩ := hpack _ hrange
  refine ⟨hrange, ⟨units, hencode, hdecode, hbounds (by decide)⟩, ?_⟩
  exact (hunits 0 3 0x8000 [0, 0xffff, 0x8000] (by decide) (by decide) (by decide)).mp
    ⟨[-0x8000, 0x7fff, 0], rfl, rfl⟩

/-- The least number that is too long to be written. -/
def overlong : Int :=
  (10 ^ Text.mostDigits : Nat)

/-- Not every table that is refused can be refused with the value named: a value may be
too long to be written. -/
theorem encode_overlong_unnamed :
    ¬ ∀ values : List Int, (∃ e, encode values = .error e ∧ e.message?.isSome) ↔
      ∃ v ∈ values, ¬ InRange v := by
  intro h
  have hwide : ¬ InRange overlong := by decide +kernel
  have hunnamed : (GeneratorError.valueTooWide overlong).message? = none := by
    rw [GeneratorError.message?, if_neg]
    decide +kernel
  have hencode : encode [overlong] = .error (.valueTooWide overlong) :=
    encode_eq_error_iff.mpr ⟨_, ⟨[], [], rfl, by simp, hwide⟩, rfl⟩
  obtain ⟨e, he, hnamed⟩ := (h [overlong]).mpr ⟨_, List.mem_singleton_self _, hwide⟩
  rw [hencode] at he
  cases he
  rw [hunnamed] at hnamed
  cases hnamed

end LalrBackend.Packed
