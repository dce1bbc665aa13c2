import LalrBackend.Proofs.Cache.Entry
import LalrBackend.Proofs.Packed.Canonical

/-!
# The header of units that are taken

Packed units begin with a header: the two units of the length and the offset. An entry is
taken for a table by the number of its units and by the low unit of the length alone. The
high unit and the offset are not compared, and it is the high unit that decides whether what
was taken can be unpacked, and to how many values.
-/

namespace LalrBackend

/-! ## Unpacking by the high unit -/

namespace Packed

variable {values data : List Int} {high low offset : Int}

/-- A negative high unit announces a negative length. -/
theorem announced_neg (hhigh : high < 0) (hlow : 0 ≤ low) : announced high low < 0 := by
  obtain ⟨l, rfl⟩ := Int.eq_ofNat_of_zero_le hlow
  have hneg : high * 0x10000 < 0 := by omega
  cases hshifted : high * 0x10000 with
  | ofNat n =>
      rw [hshifted] at hneg
      exact absurd hneg (Int.not_lt.mpr (Int.natCast_nonneg n))
  | negSucc n =>
      rw [announced, hshifted]
      exact Int.negSucc_lt_zero _

/-- Whatever their high unit is, units are unpacked if it is not negative and there are as
many values as announced. -/
theorem decode_eq_ok_iff_high (hlow : 0 ≤ low) (hlt : low < 0x10000) :
    decode (high :: low :: offset :: data) = .ok values ↔
      0 ≤ high ∧ high * 0x10000 + low ≤ data.length ∧
        values = (data.take (high * 0x10000 + low).toNat).map (· - offset) := by
  by_cases hhigh : 0 ≤ high
  · rw [decode_eq_ok_iff hhigh hlow hlt, and_iff_right hhigh]
  · constructor
    · intro h
      -- No number of values is negative.
      have hneg := announced_neg (Int.not_le.mp hhigh) hlow
      have hlength : ¬ ((body (high :: low :: offset :: data) (announced high low)).length : Int) =
          announced high low := by omega
      have herror : decode (high :: low :: offset :: data) = _ := if_neg hlength
      cases h.symm.trans herror
    · rintro ⟨h, _⟩
      exact absurd h hhigh

/-- The high unit of a length. -/
def highUnit (length : Nat) : Int :=
  (length / 0x10000 : Nat)

/-- The low unit of a length. -/
def lowUnit (length : Nat) : Int :=
  (length % 0x10000 : Nat)

theorem lowUnit_nonneg (length : Nat) : 0 ≤ lowUnit length :=
  Int.natCast_nonneg _

theorem lowUnit_lt (length : Nat) : lowUnit length < 0x10000 := by
  unfold lowUnit
  omega

theorem highUnit_nonneg (length : Nat) : 0 ≤ highUnit length :=
  Int.natCast_nonneg _

/-- A length is what its two units announce. -/
theorem units_of_length (length : Nat) :
    highUnit length * 0x10000 + lowUnit length = length := by
  unfold highUnit lowUnit
  omega

/-- Units of a table are unpacked to as many values as the table has exactly if their high
unit is the one of the length. -/
theorem decode_length_iff {n : Nat} (hdata : data.length = n) :
    (∃ values, decode (high :: lowUnit n :: offset :: data) = .ok values ∧
        values.length = n) ↔ high = highUnit n := by
  have hunits := units_of_length n
  have hlow := lowUnit_nonneg n
  constructor
  · rintro ⟨values, hdecode, hlength⟩
    obtain ⟨hhigh, hle, rfl⟩ :=
      (decode_eq_ok_iff_high hlow (lowUnit_lt n)).mp hdecode
    rw [map_sub_length, List.length_take] at hlength
    omega
  · rintro rfl
    refine ⟨data.map (· - offset), ?_, ?_⟩
    · refine (decode_eq_ok_iff_high hlow (lowUnit_lt n)).mpr ⟨highUnit_nonneg n, by omega, ?_⟩
      rw [List.take_of_length_le (by omega)]
    · rw [map_sub_length, hdata]

end Packed

/-! ## Entries that are taken -/

namespace Cache

open Text JsonValue Packed Failure

/-- A relation between tables and units holds of each table and the units for it. -/
def Tables.Related (R : List Int → List Int → Prop) (t units : Tables) : Prop :=
  R t.production units.production ∧ R t.action units.action ∧ R t.reduce units.reduce

/-- An object whose members for the three tables are these lists of integers. -/
def HoldsUnits (data : JsonValue) (units : Tables) : Prop :=
  ∃ members, data = .object members ∧
    ∀ m ∈ units.members, member? members (pointsOf m.1) = some (.ofInts m.2)

/-- Units agree with the packed ones of a table in their number and in the low unit of the
length. -/
def LooksLike (values units : List Int) : Prop :=
  ∃ packed, encode values = .ok packed ∧ units.length = packed.length ∧ units[1]? = packed[1]?

/-- What units with the low unit of the length of a table are unpacked to. The high unit
decides how many values there are, and the offset what they are shifted by. -/
def UnpacksByHigh (values units : List Int) : Prop :=
  ∃ high offset shifted, units = high :: lowUnit values.length :: offset :: shifted ∧
    shifted.length = values.length ∧
    (units.take 3 = header values ↔
      high = highUnit values.length ∧ offset = -lowest values) ∧
    (∀ unpacked, decode units = .ok unpacked ↔
      0 ≤ high ∧ high * 0x10000 + lowUnit values.length ≤ values.length ∧
        unpacked = (shifted.take (high * 0x10000 + lowUnit values.length).toNat).map
          (· - offset)) ∧
    ((∃ unpacked, decode units = .ok unpacked ∧ unpacked.length = values.length) ↔
      high = highUnit values.length)

section Taken

variable {t units : Tables} {data : JsonValue} {members : List (CodePoints × JsonValue)}
variable {key : String} {values us : List Int}

theorem looksLike_iff (hrange : ∀ v ∈ values, InRange v) : LooksLike values us ↔
    us.length = values.length + 3 ∧ us[1]? = some (lowUnit values.length) := by
  have hencode := encode_of_inRange hrange
  constructor
  · rintro ⟨packed, hpacked, hlength, hlow⟩
    cases hencode.symm.trans hpacked
    exact ⟨hlength.trans (unitsFor_length values), hlow⟩
  · rintro ⟨hlength, hlow⟩
    exact ⟨_, hencode, hlength.trans (unitsFor_length values).symm, hlow⟩

/-- A list of integers is looked at without a fault: it is counted, and its second unit is
compared. -/
theorem memberFits_ofInts (values : List Int)
    (h : member? members (pointsOf key) = some (.ofInts us)) :
    ∃ fits, memberFits (.object members) key values = .ok fits ∧ (fits = true ↔
      us.length = values.length + 3 ∧ us[1]? = some (lowUnit values.length)) := by
  obtain ⟨hhas, hvalue⟩ := hasKey_of_member h
  have hsize : sizeOf (.ofInts us) = .ok us.length := by
    rw [ofInts, sizeOf, List.length_map]
  unfold memberFits
  rw [hhas]
  simp only [ok_bind, hvalue, hsize, Bool.not_true, Bool.false_eq_true, if_false]
  by_cases hlength : us.length = values.length + 3
  · rw [if_neg (not_not_intro hlength)]
    obtain ⟨high, low, rest, rfl⟩ : ∃ high low rest, us = high :: low :: rest := by
      rcases us with _ | ⟨high, _ | ⟨low, rest⟩⟩
      · cases hlength
      · cases hlength
      · exact ⟨high, low, rest, rfl⟩
    refine ⟨low == lowUnit values.length, rfl, ?_⟩
    simp [hlength]
  · rw [if_pos hlength]
    exact ⟨false, rfl, by simp [hlength]⟩

theorem allFit_cons {rest : List (String × List Int)} {fits : Bool}
    (h : memberFits data key values = .ok fits) :
    allFit data ((key, values) :: rest) = if fits then allFit data rest else .ok false := by
  rw [allFit, h, ok_bind]
  rfl

/-- **An entry with lists of integers is taken exactly if, for each table, their number and
the low unit of the length agree with the packed table**; in no case is looking at it a
fault. -/
theorem isValid_holdsUnits (hrange : ∀ m ∈ t.members, ∀ v ∈ m.2, InRange v)
    (hdata : HoldsUnits data units) :
    ∃ taken, isValid data t = .ok taken ∧ (taken = true ↔ t.Related LooksLike units) := by
  obtain ⟨members, rfl, hmembers⟩ := hdata
  simp only [Tables.members, List.forall_mem_cons] at hrange hmembers
  obtain ⟨hproduction, haction, hreduce, _⟩ := hrange
  obtain ⟨hfirst, hsecond, hthird, _⟩ := hmembers
  obtain ⟨fits, hfits, hiff⟩ := memberFits_ofInts t.production hfirst
  obtain ⟨fits', hfits', hiff'⟩ := memberFits_ofInts t.action hsecond
  obtain ⟨fits'', hfits'', hiff''⟩ := memberFits_ofInts t.reduce hthird
  rw [← looksLike_iff hproduction] at hiff
  rw [← looksLike_iff haction] at hiff'
  rw [← looksLike_iff hreduce] at hiff''
  refine ⟨fits && fits' && fits'', ?_, ?_⟩
  · rw [isValid, Tables.members, allFit_cons hfits, allFit_cons hfits', allFit_cons hfits'']
    cases fits <;> cases fits' <;> cases fits'' <;> rfl
  · rw [Bool.and_eq_true, Bool.and_eq_true, hiff, hiff', hiff'', and_assoc]
    rfl

theorem LooksLike.unpacksByHigh (h : LooksLike values us) : UnpacksByHigh values us := by
  obtain ⟨packed, hpacked, hlength, hlow⟩ := h
  obtain ⟨_, rfl⟩ := encode_eq_ok_iff.mp hpacked
  rw [unitsFor_length] at hlength
  obtain ⟨high, low, offset, shifted, rfl⟩ :
      ∃ high low offset shifted, us = high :: low :: offset :: shifted := by
    rcases us with _ | ⟨high, _ | ⟨low, _ | ⟨offset, shifted⟩⟩⟩
    · cases hlength
    · cases hlength
    · cases hlength
    · exact ⟨high, low, offset, shifted, rfl⟩
  have hshifted : shifted.length = values.length := by simpa using hlength
  obtain rfl : low = lowUnit values.length := Option.some.inj hlow
  refine ⟨high, offset, shifted, rfl, hshifted, ?_, ?_, decode_length_iff hshifted⟩
  · simp [header, highUnit, lowUnit]
  · intro unpacked
    rw [decode_eq_ok_iff_high (lowUnit_nonneg _) (lowUnit_lt _), hshifted]

end Taken

/-- **What is taken agrees with the packed tables in the number of units and in the low unit
of the length, and in no more.** -/
theorem taken_by_low_unit {t units : Tables} {data : JsonValue}
    (hrange : ∀ m ∈ t.members, ∀ v ∈ m.2, InRange v) (hdata : HoldsUnits data units) :
    (isValid data t = .ok true ↔ t.Related LooksLike units) ∧
      (isValid data t = .ok false ↔ ¬ t.Related LooksLike units) ∧
      (isValid data t = .ok true → t.Related UnpacksByHigh units) := by
  obtain ⟨taken, hvalid, hiff⟩ := isValid_holdsUnits hrange hdata
  rw [hvalid, ← hiff]
  refine ⟨by simp, by simp, ?_⟩
  intro h
  obtain ⟨hproduction, haction, hreduce⟩ := hiff.mp (Except.ok.inj h)
  exact ⟨hproduction.unpacksByHigh, haction.unpacksByHigh, hreduce.unpacksByHigh⟩

/-- Units for three tables of which the first one has a wrong high unit and the second one
a wrong offset. -/
def wrongHeaders : Tables :=
  ⟨[1, 0, 0], [0, 1, 5, 12], [0, 0, 0]⟩

theorem holdsUnits_entryOf (units : Tables) : HoldsUnits (entryOf units) units := by
  obtain ⟨hfirst, hsecond, hthird⟩ := member?_entryMembers units
  refine ⟨entryMembers units, by rw [entryOf, entryMembers], ?_⟩
  intro m hm
  simp only [Tables.members, List.mem_cons, List.not_mem_nil, or_false] at hm
  rcases hm with rfl | rfl | rfl
  · exact hfirst
  · exact hsecond
  · exact hthird

/-- Units with wrong headers are taken; those of the second table are unpacked, since their
high unit is right. -/
theorem taken_by_low_unit_wrongHeaders :
    let t : Tables := ⟨[], [12], []⟩
    (∀ m ∈ t.members, ∀ v ∈ m.2, InRange v) ∧ HoldsUnits (entryOf wrongHeaders) wrongHeaders ∧
      isValid (entryOf wrongHeaders) t = .ok true ∧
      ∃ unpacked, decode wrongHeaders.action = .ok unpacked ∧
        unpacked.length = t.action.length := by
  intro t
  have hrange : ∀ m ∈ t.members, ∀ v ∈ m.2, InRange v := by decide
  have hdata := holdsUnits_entryOf wrongHeaders
  obtain ⟨htaken, _, hunpacks⟩ := taken_by_low_unit hrange hdata
  have hvalid : isValid (entryOf wrongHeaders) t = .ok true :=
    htaken.mpr ⟨⟨_, rfl, rfl, rfl⟩, ⟨_, rfl, rfl, rfl⟩, ⟨_, rfl, rfl, rfl⟩⟩
  obtain ⟨_, ⟨high, offset, shifted, hunits, _, _, _, hlength⟩, _⟩ := hunpacks hvalid
  obtain ⟨rfl, _⟩ := List.cons.inj hunits
  exact ⟨hrange, hdata, hvalid, hlength.mpr (by decide)⟩

/-- What is taken need not have the header of the packed tables, and need not be unpacked at
all: the high unit may announce values that are not there. -/
theorem taken_without_header :
    ¬ ∀ (t units : Tables) (data : JsonValue), (∀ m ∈ t.members, ∀ v ∈ m.2, InRange v) →
      HoldsUnits data units → isValid data t = .ok true →
      t.Related (fun values us => ∃ packed, encode values = .ok packed ∧
        us.length = packed.length ∧ us.take 3 = packed.take 3 ∧
        ∃ unpacked, decode us = .ok unpacked ∧ unpacked.length = values.length) units := by
  intro h
  have hvalid : isValid (entryOf ⟨[1, 0, 0], [0, 0, 0], [0, 0, 0]⟩) ⟨[], [], []⟩ = .ok true := by
    decide
  obtain ⟨⟨_, _, _, _, unpacked, hdecode, _⟩, _⟩ :=
    h ⟨[], [], []⟩ ⟨[1, 0, 0], [0, 0, 0], [0, 0, 0]⟩ _ (by decide) (holdsUnits_entryOf _) hvalid
  have htruncated : decode [1, 0, 0] = .error (.truncated 0x10000 0) := by decide
  cases htruncated.symm.trans hdecode

end Cache

end LalrBackend
