import LalrBackend.Cache.Store
import LalrBackend.Proofs.Cache.Key
import LalrBackend.Proofs.Packed.Units

/-!
# Entries stand for the tables they were made of

The entry of packed tables is read back from its text as it was. It can stand for the
tables, and the packed tables taken from it are those that it was made of, so a hit of
the cache is as good as packing anew.
-/

namespace LalrBackend.Cache

open Text JsonValue Packed Failure

/-! ## Packing all tables -/

theorem packAll_eq_ok {t units : Tables} (h : packAll t = .ok units) :
    encode t.production = .ok units.production ∧ encode t.action = .ok units.action ∧
      encode t.reduce = .ok units.reduce := by
  unfold packAll at h
  obtain ⟨production, hproduction, h⟩ := bind_eq_ok.mp h
  obtain ⟨action, haction, h⟩ := bind_eq_ok.mp h
  obtain ⟨reduce, hreduce, h⟩ := bind_eq_ok.mp h
  cases h
  exact ⟨hproduction, haction, hreduce⟩

/-- Tables that a file can hold: their numbers are short enough to be written, and a list
is no longer than there are addresses. -/
structure Tables.IsStorable (t : Tables) : Prop where
  writable : t.isWritable = true
  production_lt : t.production.length < 2 ^ 63
  action_lt : t.action.length < 2 ^ 63
  reduce_lt : t.reduce.length < 2 ^ 63

/-- The units of a list of numbers can be read again. -/
theorem areReadable_of_encode {values units : List Int} (h : encode values = .ok units)
    (hlen : values.length < 2 ^ 63) : AreReadable mostDigits units := by
  obtain ⟨hfits, rfl⟩ := encode_eq_ok_iff.mp h
  have hbounds : ∀ u ∈ unitsFor values, 0 ≤ u ∧ u < (2 ^ 47 : Nat) :=
    unitsFor_lt hfits (by decide) hlen
  intro u hu
  obtain ⟨hzero, hlt⟩ := hbounds u hu
  have hsmall : u.natAbs < 10 ^ 15 := by
    have hpow : ((2 ^ 47 : Nat) : Int) ≤ ((10 ^ 15 : Nat) : Int) := by decide
    omega
  have hdigits := (Nat.length_toDigits_le_iff (by decide) (by decide)).mpr hsmall
  exact Nat.le_trans hdigits (by decide)

/-! ## Entries -/

section Entry

variable {t units : Tables}

theorem entryOf_eq (units : Tables) :
    entryOf units = ofMembers (units.members.map fun m => (pointsOf m.1, m.2)) := by
  rw [entryOf, ofMembers, List.map_map]
  rfl

theorem areReadableMembers_of_packAll (h : packAll t = .ok units) (ht : t.IsStorable) :
    AreReadableMembers mostDigits (units.members.map fun m => (pointsOf m.1, m.2)) := by
  obtain ⟨hproduction, haction, hreduce⟩ := packAll_eq_ok h
  refine ⟨by simp [Tables.members], ?_, ?_, ?_⟩
  · simp only [Tables.members, List.map_cons, List.map_nil]
    decide
  · have hkeys : ∀ key ∈ ["production_table", "action_table", "reduce_table"],
        ∀ p ∈ pointsOf key, IsPlainPoint p := by decide
    intro m hm
    obtain ⟨member, hmember, rfl⟩ := List.mem_map.mp hm
    exact hkeys member.1 (List.mem_map.mpr ⟨member, hmember, rfl⟩ :
      member.1 ∈ units.members.map Prod.fst)
  · intro m hm
    simp only [Tables.members, List.map_cons, List.map_nil, List.mem_cons, List.not_mem_nil,
      or_false] at hm
    rcases hm with rfl | rfl | rfl
    · exact areReadable_of_encode hproduction ht.production_lt
    · exact areReadable_of_encode haction ht.action_lt
    · exact areReadable_of_encode hreduce ht.reduce_lt

/-- **An entry is read back from its text as it was.** -/
theorem ofText_entryOf (h : packAll t = .ok units) (ht : t.IsStorable) :
    ofText (entryOf units).toText = .ok (entryOf units) := by
  rw [entryOf_eq]
  exact ofText_toText (areReadableMembers_of_packAll h ht)

theorem hasKey_of_member {members : List (CodePoints × JsonValue)} {key : String} {v : JsonValue}
    (h : member? members (pointsOf key) = some v) :
    hasKey key (.object members) = .ok true ∧ memberOf key (.object members) = .ok v := by
  simp [hasKey, memberOf, h]

/-- A member with the units of a table fits it. -/
theorem memberFits_of_encode {members : List (CodePoints × JsonValue)} {key : String}
    {values units : List Int} (hencode : encode values = .ok units)
    (hmember : member? members (pointsOf key) = some (.ofInts units)) :
    memberFits (.object members) key values = .ok true := by
  obtain ⟨_, rfl⟩ := encode_eq_ok_iff.mp hencode
  obtain ⟨hhas, hvalue⟩ := hasKey_of_member hmember
  have hsize : sizeOf (.ofInts (unitsFor values)) = .ok (values.length + 3) := by
    rw [ofInts, sizeOf, List.length_map, unitsFor_length]
  have hlow : lowUnitIs values.length (.ofInts (unitsFor values)) = .ok true := by
    show Except.ok (isNumber _ (JsonValue.int _)) = _
    rw [isNumber, beq_self_eq_true]
  rw [memberFits, hhas]
  simp only [ok_bind, hvalue, hsize, hlow]
  simp

theorem mapM_unitOf (units : List Int) : (units.map JsonValue.int).mapM unitOf = .ok units := by
  induction units with
  | nil => rfl
  | cons u us ih =>
      rw [List.map_cons, List.mapM_cons, ih]
      rfl

theorem unitsOf_of_member {members : List (CodePoints × JsonValue)} {key : String}
    {units : List Int} (h : member? members (pointsOf key) = some (.ofInts units)) :
    unitsOf (.object members) key = .ok units := by
  rw [unitsOf, (hasKey_of_member h).2]
  exact mapM_unitOf units

/-- The members of an entry. -/
def entryMembers (units : Tables) : List (CodePoints × JsonValue) :=
  units.members.map fun m => (pointsOf m.1, .ofInts m.2)

theorem member?_entryMembers (units : Tables) :
    member? (entryMembers units) (pointsOf "production_table") =
        some (.ofInts units.production) ∧
      member? (entryMembers units) (pointsOf "action_table") = some (.ofInts units.action) ∧
      member? (entryMembers units) (pointsOf "reduce_table") = some (.ofInts units.reduce) := by
  have hsecond : (pointsOf "action_table" == pointsOf "production_table") = false := by decide
  have hthird : (pointsOf "reduce_table" == pointsOf "production_table") = false ∧
      (pointsOf "reduce_table" == pointsOf "action_table") = false := by decide
  simp [entryMembers, Tables.members, member?, List.lookup_cons, hsecond, hthird]

/-- **The entry of packed tables can stand for the tables.** -/
theorem isValid_entryOf (h : packAll t = .ok units) : isValid (entryOf units) t = .ok true := by
  obtain ⟨hproduction, haction, hreduce⟩ := packAll_eq_ok h
  obtain ⟨hfirst, hsecond, hthird⟩ := member?_entryMembers units
  have hentry : entryOf units = .object (entryMembers units) := by rw [entryOf, entryMembers]
  rw [hentry, isValid, Tables.members]
  simp only [allFit, memberFits_of_encode hproduction hfirst,
    memberFits_of_encode haction hsecond, memberFits_of_encode hreduce hthird, ok_bind]
  rfl

theorem mapM_sizeOf (ms : List (String × List Int))
    (h : ∀ m ∈ ms, stringOf (pointsOf m.1) = m.1) :
    (ms.map fun m => (pointsOf m.1, ofInts m.2)).mapM
        (fun m => do return (stringOf m.1, ← sizeOf m.2) : _ → Except Fault (String × Nat)) =
      .ok (ms.map fun m => (m.1, m.2.length)) := by
  induction ms with
  | nil => rfl
  | cons m ms ih =>
      have hsize : sizeOf (ofInts m.2) = .ok m.2.length := by
        rw [ofInts, sizeOf, List.length_map]
      rw [List.map_cons, List.mapM_cons, ih fun k hk => h k (List.mem_cons_of_mem _ hk), hsize,
        ok_bind, h m List.mem_cons_self]
      rfl

/-- **What is taken from the entry of packed tables are these packed tables.** -/
theorem ofEntry_entryOf (units : Tables) :
    PackedTables.ofEntry (entryOf units) = .ok (.ofUnits units) := by
  obtain ⟨hfirst, hsecond, hthird⟩ := member?_entryMembers units
  have hkeys : ∀ key ∈ ["production_table", "action_table", "reduce_table"],
      stringOf (pointsOf key) = key := by decide
  have hsizes := mapM_sizeOf units.members fun m hm =>
    hkeys m.1 (List.mem_map.mpr ⟨m, hm, rfl⟩ : m.1 ∈ units.members.map Prod.fst)
  have hentry : entryOf units = .object (entryMembers units) := by rw [entryOf, entryMembers]
  rw [hentry, PackedTables.ofEntry, unitsOf_of_member hfirst, unitsOf_of_member hsecond,
    unitsOf_of_member hthird, membersOf, ok_bind]
  rw [entryMembers]
  simp only
  rw [hsizes]
  rfl

end Entry

end LalrBackend.Cache
