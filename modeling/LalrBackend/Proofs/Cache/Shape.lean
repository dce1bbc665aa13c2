import LalrBackend.Proofs.Cache.Header

/-!
# Entries of another shape

What looking at a value comes to that lies where an entry should. It can stand for the tables if
it is an object that has, for each table, a list of the right size with the right second unit. Of
the values that cannot, not all are refused: looking for a key in a value without parts is a
fault, and so is taking a member of what is no object, taking the size of what has no parts, and
taking the second unit of an object.
-/

namespace LalrBackend.Cache

open Text JsonValue Packed Failure

/-! ## Shapes -/

/-- A value that has no parts: nothing, a truth value or a number. -/
inductive IsScalar : JsonValue → Prop
  | null : IsScalar .null
  | bool (b : Bool) : IsScalar (.bool b)
  | int (n : Int) : IsScalar (.int n)
  | real (x : Binary64) : IsScalar (.real x)

/-- The units of a table of some length: a list with three units more than the table has
values, the second of which equals the low unit of the length. -/
def HasUnits (length : Nat) (units : JsonValue) : Prop :=
  ∃ items second, units = .list items ∧ items.length = length + 3 ∧
    items[1]? = some second ∧ second.isNumber (lowUnit length) = true

/-- An object with the units of a table under its key. -/
def HasMember (key : String) (length : Nat) (data : JsonValue) : Prop :=
  ∃ members units, data = .object members ∧ member? members (pointsOf key) = some units ∧
    HasUnits length units

/-- Why what an object has under the key of a table cannot be looked at: it has no size, or it
is an object of the size of the units and has no second unit. -/
inductive UnitsFault (length : Nat) : JsonValue → Fault → Prop
  | scalar {units : JsonValue} (h : IsScalar units) : UnitsFault length units .wrongKind
  | object {members : List (CodePoints × JsonValue)} (h : members.length = length + 3) :
      UnitsFault length (.object members) .noMember

/-- Why a value cannot be looked at for the key of a table: no key can be looked for in it, the
key is found in it although it has no members, or the member cannot be looked at. -/
inductive MemberFault (key : String) (length : Nat) : JsonValue → Fault → Prop
  | scalar {data : JsonValue} (h : IsScalar data) : MemberFault key length data .wrongKind
  | item {items : List JsonValue} (h : .text (pointsOf key) ∈ items) :
      MemberFault key length (.list items) .wrongKind
  | part {points : CodePoints} (h : pointsOf key <:+: points) :
      MemberFault key length (.text points) .wrongKind
  | units {members : List (CodePoints × JsonValue)} {units : JsonValue} {fault : Fault}
      (h : member? members (pointsOf key) = some units) (hunits : UnitsFault length units fault) :
      MemberFault key length (.object members) fault

/-- A value that can stand for tables. -/
def HasShape (data : JsonValue) (t : Tables) : Prop :=
  ∀ m ∈ t.members, HasMember m.1 m.2.length data

/-- A fault of looking at a value for tables one after the other: at one of them, behind others
for which the value has the units. -/
inductive ShapeFault (data : JsonValue) (fault : Fault) : List (String × List Int) → Prop
  | here {key : String} {table : List Int} {rest : List (String × List Int)}
      (h : MemberFault key table.length data fault) : ShapeFault data fault ((key, table) :: rest)
  | later {key : String} {table : List Int} {rest : List (String × List Int)}
      (h : HasMember key table.length data) (hrest : ShapeFault data fault rest) :
      ShapeFault data fault ((key, table) :: rest)

/-! ## One table -/

section Member

variable {key : String} {length : Nat} {table : List Int} {data units : JsonValue} {fault : Fault}

theorem isText_iff {points : CodePoints} : isText points data = true ↔ data = .text points := by
  cases data with
  | text other => rw [isText, beq_iff_eq, JsonValue.text.injEq, eq_comm]
  | null | bool | int | real | list | object => simp [isText]

theorem occursIn_iff {needle points : CodePoints} :
    occursIn needle points = true ↔ needle <:+: points := by
  induction points with
  | nil => rw [occursIn, List.isEmpty_iff, List.infix_nil]
  | cons p ps ih =>
      rw [occursIn, Bool.or_eq_true, List.isPrefixOf_iff_prefix, ih, List.infix_cons_iff]

/-- Units as they are looked at: their number, then the second one. -/
def unitsFit (length : Nat) (units : JsonValue) : Except Fault Bool := do
  if (← sizeOf units) ≠ length + 3 then return false
  lowUnitIs length units

theorem unitsFit_list (length : Nat) (items : List JsonValue) :
    ∃ fits, unitsFit length (.list items) = .ok fits ∧
      (fits = true ↔ HasUnits length (.list items)) := by
  unfold unitsFit
  simp only [sizeOf, ok_bind]
  by_cases hsize : items.length = length + 3
  · obtain ⟨second, hsecond⟩ : ∃ second, items[1]? = some second :=
      ⟨_, List.getElem?_eq_getElem (by omega)⟩
    rw [if_neg (not_not_intro hsize), lowUnitIs, hsecond]
    refine ⟨_, rfl, fun h => ⟨items, second, rfl, hsize, hsecond, h⟩, ?_⟩
    rintro ⟨_, _, hitems, _, hat, hnumber⟩
    cases hitems
    cases hsecond.symm.trans hat
    exact hnumber
  · rw [if_pos hsize]
    refine ⟨false, rfl, fun h => absurd h Bool.false_ne_true, ?_⟩
    rintro ⟨_, _, hitems, hlength, _⟩
    cases hitems
    exact absurd hlength hsize

theorem unitsFit_text {points : CodePoints} :
    unitsFit length (.text points) = .ok false := by
  unfold unitsFit
  simp only [sizeOf, ok_bind]
  split <;> rfl

theorem unitsFit_object {members : List (CodePoints × JsonValue)} :
    unitsFit length (.object members) =
      if members.length = length + 3 then .error .noMember else .ok false := by
  unfold unitsFit
  simp only [sizeOf, ok_bind]
  by_cases hsize : members.length = length + 3
  · rw [if_neg (not_not_intro hsize), if_pos hsize]
    rfl
  · rw [if_pos hsize, if_neg hsize]
    rfl

theorem unitsFit_scalar (h : IsScalar units) : unitsFit length units = .error .wrongKind := by
  cases h <;> rfl

theorem not_hasUnits_of_not_list (h : ∀ items, units ≠ .list items) : ¬ HasUnits length units := by
  rintro ⟨items, _, rfl, _⟩
  exact h items rfl

theorem unitsFit_eq_ok_iff : unitsFit length units = .ok true ↔ HasUnits length units := by
  cases units with
  | null | bool | int | real =>
      rw [unitsFit_scalar (by constructor)]
      exact ⟨nofun, fun h => absurd h (not_hasUnits_of_not_list nofun)⟩
  | text points =>
      rw [unitsFit_text]
      exact ⟨nofun, fun h => absurd h (not_hasUnits_of_not_list nofun)⟩
  | list items =>
      obtain ⟨fits, hfits, hiff⟩ := unitsFit_list length items
      rw [hfits, ← hiff]
      exact ⟨fun h => Except.ok.inj h, congrArg _⟩
  | object members =>
      rw [unitsFit_object]
      refine ⟨fun h => ?_, fun h => absurd h (not_hasUnits_of_not_list nofun)⟩
      split at h <;> cases h

theorem unitsFit_eq_error_iff :
    unitsFit length units = .error fault ↔ UnitsFault length units fault := by
  cases units with
  | null | bool | int | real =>
      rw [unitsFit_scalar (by constructor)]
      refine ⟨?_, ?_⟩
      · rintro ⟨⟩
        exact .scalar (by constructor)
      · rintro ⟨_⟩
        rfl
  | text points =>
      rw [unitsFit_text]
      refine ⟨nofun, ?_⟩
      rintro (h | _)
      cases h
  | list items =>
      obtain ⟨fits, hfits, _⟩ := unitsFit_list length items
      rw [hfits]
      refine ⟨nofun, ?_⟩
      rintro (h | _)
      cases h
  | object members =>
      rw [unitsFit_object]
      constructor
      · intro h
        split at h
        · rename_i hsize
          cases h
          exact .object hsize
        · cases h
      · rintro (h | hsize)
        · cases h
        · rw [if_pos hsize]

/-- Only an object is looked at further; in other values the key must not be found. -/
theorem memberFits_object {members : List (CodePoints × JsonValue)} :
    memberFits (.object members) key table =
      match member? members (pointsOf key) with
      | none => .ok false
      | some units => unitsFit table.length units := by
  unfold memberFits unitsFit
  cases h : member? members (pointsOf key) with
  | none =>
      simp only [hasKey, h, ok_bind]
      rfl
  | some units =>
      obtain ⟨hhas, hvalue⟩ := hasKey_of_member h
      rw [hhas]
      simp only [ok_bind, hvalue]
      rfl

theorem memberFits_of_no_members {found : Bool} (hfound : hasKey key data = .ok found)
    (hmember : memberOf key data = .error .wrongKind) :
    memberFits data key table = if found then .error .wrongKind else .ok false := by
  unfold memberFits
  rw [hfound, ok_bind]
  cases found with
  | false => rfl
  | true =>
      simp only [hmember]
      rfl

theorem memberFits_scalar (h : IsScalar data) :
    memberFits data key table = .error .wrongKind := by
  cases h <;> rfl

/-- Whether a value that has no members has the key is all that is asked of it. -/
theorem memberFits_of_found_iff (found : Bool) {p : Prop}
    (h : memberFits data key table = if found then .error .wrongKind else .ok false)
    (hfound : found = true ↔ p) (hobject : ∀ members, data ≠ .object members)
    (hfault : MemberFault key table.length data fault ↔ p ∧ fault = .wrongKind) :
    (memberFits data key table = .ok true ↔ HasMember key table.length data) ∧
      (memberFits data key table = .error fault ↔ MemberFault key table.length data fault) := by
  have hmember : ¬ HasMember key table.length data := by
    rintro ⟨members, _, rfl, _⟩
    exact hobject members rfl
  rw [h, hfault, ← hfound]
  cases found with
  | false => simp [hmember]
  | true => simp [hmember, eq_comm]

/-- **What looking at a value for one table comes to.** -/
theorem memberFits_spec (data : JsonValue) (key : String) (table : List Int) (fault : Fault) :
    (memberFits data key table = .ok true ↔ HasMember key table.length data) ∧
      (memberFits data key table = .error fault ↔ MemberFault key table.length data fault) := by
  cases data with
  -- In all but objects, the key is looked for although nothing can lie under it.
  | null | bool | int | real =>
      refine memberFits_of_found_iff true (p := True) (memberFits_scalar (by constructor)) (by simp)
        nofun ?_
      refine ⟨?_, ?_⟩
      · rintro (_ | _)
        exact ⟨trivial, rfl⟩
      · rintro ⟨_, rfl⟩
        exact .scalar (by constructor)
  | text points =>
      refine memberFits_of_found_iff _ (memberFits_of_no_members rfl rfl) occursIn_iff nofun ?_
      refine ⟨?_, ?_⟩
      · rintro (h | _ | hpart)
        · cases h
        · exact ⟨hpart, rfl⟩
      · rintro ⟨hpart, rfl⟩
        exact .part hpart
  | list items =>
      have hany : items.any (isText (pointsOf key)) = true ↔ .text (pointsOf key) ∈ items := by
        simp [List.any_eq_true, isText_iff]
      refine memberFits_of_found_iff _ (memberFits_of_no_members rfl rfl) hany nofun ?_
      refine ⟨?_, ?_⟩
      · rintro (h | hitem)
        · cases h
        · exact ⟨hitem, rfl⟩
      · rintro ⟨hitem, rfl⟩
        exact .item hitem
  | object members =>
      rw [memberFits_object]
      cases h : member? members (pointsOf key) with
      | none =>
          refine ⟨⟨nofun, ?_⟩, ⟨nofun, ?_⟩⟩
          · rintro ⟨_, _, hdata, hmember, _⟩
            cases hdata
            cases h.symm.trans hmember
          · rintro (hscalar | _ | _ | hmember)
            · cases hscalar
            · cases h.symm.trans hmember
      | some units =>
          simp only [unitsFit_eq_ok_iff, unitsFit_eq_error_iff]
          refine ⟨⟨fun hunits => ⟨members, units, rfl, h, hunits⟩, ?_⟩,
            ⟨fun hunits => .units h hunits, ?_⟩⟩
          · rintro ⟨_, _, hdata, hmember, hunits⟩
            cases hdata
            cases h.symm.trans hmember
            exact hunits
          · rintro (hscalar | _ | _ | ⟨hmember, hunits⟩)
            · cases hscalar
            · cases h.symm.trans hmember
              exact hunits

end Member

/-! ## All tables -/

section Entry

variable {data : JsonValue} {fault : Fault} {members : List (String × List Int)}

theorem allFit_eq_ok_iff :
    allFit data members = .ok true ↔ ∀ m ∈ members, HasMember m.1 m.2.length data := by
  induction members with
  | nil => simp [allFit]
  | cons m rest ih =>
      have hspec := (memberFits_spec data m.1 m.2 .noMember).1
      rw [List.forall_mem_cons, ← ih, ← hspec, allFit]
      cases memberFits data m.1 m.2 with
      | error other => simp
      | ok fits => cases fits <;> simp

/-- The first table that a value has no units for decides. -/
theorem allFit_eq_error_iff :
    allFit data members = .error fault ↔ ShapeFault data fault members := by
  induction members with
  | nil =>
      refine ⟨nofun, ?_⟩
      rintro ⟨⟩
  | cons m rest ih =>
      obtain ⟨key, table⟩ := m
      obtain ⟨hhas, hfault⟩ := memberFits_spec data key table fault
      have hcases : ShapeFault data fault ((key, table) :: rest) ↔
          MemberFault key table.length data fault ∨
            HasMember key table.length data ∧ ShapeFault data fault rest := by
        constructor
        · rintro (h | ⟨h, hrest⟩)
          · exact .inl h
          · exact .inr ⟨h, hrest⟩
        · rintro (h | ⟨h, hrest⟩)
          · exact .here h
          · exact .later h hrest
      rw [hcases, ← ih, ← hhas, ← hfault, allFit]
      cases memberFits data key table with
      | error other => simp
      | ok fits => cases fits <;> simp

/-- **When a value is taken for the entry of tables, and when looking at it is a fault.** -/
theorem isValid_spec (data : JsonValue) (t : Tables) (fault : Fault) :
    (isValid data t = .ok true ↔ HasShape data t) ∧
      (isValid data t = .error fault ↔ ShapeFault data fault t.members) :=
  ⟨allFit_eq_ok_iff, allFit_eq_error_iff⟩

end Entry

end LalrBackend.Cache
