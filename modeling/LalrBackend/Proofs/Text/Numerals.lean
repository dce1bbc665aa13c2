import LalrBackend.Proofs.Text.Trimming
import LalrBackend.Text.Numeral
import Mathlib.Algebra.Group.Nat.Defs

/-!
# The grammar of numerals

What is read as an integer in a base: digits that single underscores may part, perhaps with
the mark of the base in front and an underscore behind the mark, then perhaps a sign before
these, and blanks around it all. The grammar is stated apart from the reader, and the reader
accepts exactly its texts, with their values. Digits alone are read as the number that they
spell.
-/

namespace LalrBackend.Text

/-- The number that digits spell in a base, going on from `acc`. -/
def spellFrom (base acc : Nat) (ds : List Nat) : Nat :=
  ds.foldl (fun value d => value * base + d) acc

/-- Digits that may be parted by single underscores, and their values. -/
inductive PartedDigits (base : Nat) : List Char → List Nat → Prop
  | last {c : Char} {d : Nat} (hc : digitIn? base c = some d) : PartedDigits base [c] [d]
  | next {c : Char} {d : Nat} {cs : List Char} {ds : List Nat} (hc : digitIn? base c = some d)
      (h : PartedDigits base cs ds) : PartedDigits base (c :: cs) (d :: ds)
  | parted {c : Char} {d : Nat} {cs : List Char} {ds : List Nat} (hc : digitIn? base c = some d)
      (h : PartedDigits base cs ds) : PartedDigits base (c :: '_' :: cs) (d :: ds)

/-- A numeral without a sign. -/
inductive IsUnsigned (base : Nat) : List Char → Nat → Prop
  | digits {cs : List Char} {ds : List Nat} (h : PartedDigits base cs ds) :
      IsUnsigned base cs (spellFrom base 0 ds)
  | marked {m : Char} {cs : List Char} {ds : List Nat} (hm : marksBase base m = true)
      (h : PartedDigits base cs ds) : IsUnsigned base ('0' :: m :: cs) (spellFrom base 0 ds)
  | markedParted {m : Char} {cs : List Char} {ds : List Nat} (hm : marksBase base m = true)
      (h : PartedDigits base cs ds) :
      IsUnsigned base ('0' :: m :: '_' :: cs) (spellFrom base 0 ds)

/-- A numeral with or without a sign. -/
inductive IsSigned (base : Nat) : List Char → Int → Prop
  | unsigned {cs : List Char} {n : Nat} (h : IsUnsigned base cs n) : IsSigned base cs n
  | plus {cs : List Char} {n : Nat} (h : IsUnsigned base cs n) : IsSigned base ('+' :: cs) n
  | minus {cs : List Char} {n : Nat} (h : IsUnsigned base cs n) :
      IsSigned base ('-' :: cs) (-(n : Int))

/-- A numeral with blanks around it. Beyond ASCII, blanks count as spaces and decimal digits as
the plain ones. -/
def IsNumeral (base : Nat) (cs : List Char) (n : Int) : Prop :=
  ∃ left numeral right, plainNumeral cs = left ++ numeral ++ right ∧
    (∀ c ∈ left, isNumeralBlank c = true) ∧ (∀ c ∈ right, isNumeralBlank c = true) ∧
    IsSigned base numeral n

/-! ## Digits -/

section Digits

variable {base acc n : Nat} {c : Char} {cs : List Char} {ds : List Nat}

theorem digitValue?_digitChar : ∀ d < 16, digitValue? (Nat.digitChar d) = some d := by decide

theorem digitIn?_digitChar {d : Nat} (hbase : base ≤ 16) (hd : d < base) :
    digitIn? base (Nat.digitChar d) = some d := by
  rw [digitIn?, digitValue?_digitChar d (Nat.lt_of_lt_of_le hd hbase)]
  simp [Option.filter, hd]

theorem digitIn?_underscore (base : Nat) : digitIn? base '_' = none := rfl

theorem lt_of_digitIn? {d : Nat} (h : digitIn? base c = some d) : d < base := by
  rw [digitIn?, Option.filter_eq_some_iff] at h
  simpa using h.2

/-- The digits of all bases are among the characters from `0` to `z`. -/
theorem digitIn?_range {d : Nat} (h : digitIn? base c = some d) : '0' ≤ c ∧ c ≤ 'z' := by
  have hvalue : digitValue? c = some d := (Option.filter_eq_some_iff.mp h).1
  unfold digitValue? at hvalue
  split at hvalue
  next hrange => exact ⟨hrange.1, Char.le_trans hrange.2 (by decide)⟩
  next =>
    split at hvalue
    next hrange => exact ⟨Char.le_trans (by decide) hrange.1, hrange.2⟩
    next =>
      split at hvalue
      next hrange =>
        exact ⟨Char.le_trans (by decide) hrange.1, Char.le_trans hrange.2 (by decide)⟩
      next => cases hvalue

theorem zero_le_of_digitIn? {d : Nat} (h : digitIn? base c = some d) : '0' ≤ c :=
  (digitIn?_range h).1

theorem not_isNumeralBlank_of_zero_le (h : '0' ≤ c) : isNumeralBlank c = false := by
  have hnat : 48 ≤ c.toNat := h
  have hspace : c ≠ ' ' := by
    rintro rfl
    exact absurd hnat (by decide)
  simp only [isNumeralBlank, Bool.or_eq_false_iff, beq_eq_false_iff_ne, Bool.and_eq_false_iff,
    decide_eq_false_iff_not]
  exact ⟨hspace, .inr (by omega)⟩

/-- Reading digits comes to their value if digits are what is read; where none is due, the text may
also be at its end or go on with an underscore. -/
theorem readDigits?_eq_some_iff : ∀ {cs : List Char} {acc : Nat},
    (readDigits? base acc true cs = some n ↔
      ∃ ds, PartedDigits base cs ds ∧ spellFrom base acc ds = n) ∧
    (readDigits? base acc false cs = some n ↔
      cs = [] ∧ acc = n ∨ ∃ ds, (PartedDigits base cs ds ∨
        ∃ rest, cs = '_' :: rest ∧ PartedDigits base rest ds) ∧ spellFrom base acc ds = n) := by
  intro cs
  induction cs with
  | nil =>
      intro acc
      constructor
      · constructor
        · intro h
          cases h
        · rintro ⟨ds, h, _⟩
          cases h
      · constructor
        · intro h
          exact .inl ⟨rfl, Option.some.inj h⟩
        · rintro (⟨_, rfl⟩ | ⟨ds, h | ⟨rest, h, _⟩, _⟩)
          · rfl
          · cases h
          · cases h
  | cons c cs ih =>
      intro acc
      by_cases hunder : c = '_'
      · subst hunder
        have hnone : ∀ ds, ¬ PartedDigits base ('_' :: cs) ds := by
          rintro ds (⟨hc⟩ | ⟨hc, _⟩ | ⟨hc, _⟩) <;> cases hc
        have htrue : readDigits? base acc true ('_' :: cs) = none := rfl
        have hfalse : readDigits? base acc false ('_' :: cs) = readDigits? base acc true cs := rfl
        rw [htrue, hfalse, ih.1]
        simp [hnone]
      · -- A digit is read in the same way whether one is due or not.
        have hdigit : ∀ due, readDigits? base acc due (c :: cs) = some n ↔
            ∃ ds, PartedDigits base (c :: cs) ds ∧ spellFrom base acc ds = n := by
          intro due
          rw [readDigits?, if_neg hunder]
          cases hc : digitIn? base c with
          | none =>
              constructor
              · intro h
                cases h
              · rintro ⟨ds, hc' | ⟨hc', _⟩ | ⟨hc', _⟩, _⟩ <;> rw [hc] at hc' <;> cases hc'
          | some d =>
              change readDigits? base (acc * base + d) false cs = some n ↔ _
              rw [ih.2]
              constructor
              · rintro (⟨rfl, rfl⟩ | ⟨ds, h | ⟨rest, rfl, h⟩, rfl⟩)
                · exact ⟨[d], .last hc, rfl⟩
                · exact ⟨d :: ds, .next hc h, rfl⟩
                · exact ⟨d :: ds, .parted hc h, rfl⟩
              · rintro ⟨ds, hc' | ⟨hc', h⟩ | ⟨hc', h⟩, rfl⟩ <;>
                  obtain rfl := Option.some.inj (hc.symm.trans hc')
                · exact .inl ⟨rfl, rfl⟩
                · exact .inr ⟨_, .inl h, rfl⟩
                · exact .inr ⟨_, .inr ⟨_, rfl, h⟩, rfl⟩
        refine ⟨hdigit true, (hdigit false).trans ?_⟩
        simp [hunder]

theorem PartedDigits.not_blank (h : PartedDigits base cs ds) :
    ∀ c ∈ cs, isNumeralBlank c = false := by
  induction h with
  | last hc => simpa using not_isNumeralBlank_of_zero_le (zero_le_of_digitIn? hc)
  | next hc _ ih =>
      exact List.forall_mem_cons.mpr
        ⟨not_isNumeralBlank_of_zero_le (zero_le_of_digitIn? hc), ih⟩
  | parted hc _ ih =>
      exact List.forall_mem_cons.mpr ⟨not_isNumeralBlank_of_zero_le (zero_le_of_digitIn? hc),
        List.forall_mem_cons.mpr ⟨rfl, ih⟩⟩

/-- Plain digits are parted by nothing. -/
theorem partedDigits_filterMap (hne : cs ≠ []) (h : ∀ c ∈ cs, (digitIn? base c).isSome) :
    PartedDigits base cs (cs.filterMap (digitIn? base)) := by
  induction cs with
  | nil => exact absurd rfl hne
  | cons c cs ih =>
      obtain ⟨hc, hcs⟩ := List.forall_mem_cons.mp h
      obtain ⟨d, hd⟩ := Option.isSome_iff_exists.mp hc
      rw [List.filterMap_cons_some hd]
      by_cases hnil : cs = []
      · subst hnil
        exact .last hd
      · exact .next hd (ih hnil hcs)

/-- Digits of a base spell a number below the power of the base that their number is. -/
theorem spellFrom_lt (h : ∀ d ∈ ds, d < base) :
    spellFrom base acc ds < (acc + 1) * base ^ ds.length := by
  induction ds generalizing acc with
  | nil => simp [spellFrom]
  | cons d ds ih =>
      obtain ⟨hd, hds⟩ := List.forall_mem_cons.mp h
      have hstep : acc * base + d + 1 ≤ (acc + 1) * base := by
        rw [Nat.add_mul, Nat.one_mul]
        omega
      calc spellFrom base acc (d :: ds) = spellFrom base (acc * base + d) ds := rfl
        _ < (acc * base + d + 1) * base ^ ds.length := ih hds
        _ ≤ (acc + 1) * base * base ^ ds.length := Nat.mul_le_mul_right _ hstep
        _ = (acc + 1) * base ^ (d :: ds).length := by
          rw [List.length_cons, Nat.pow_succ', Nat.mul_assoc]

end Digits

/-! ## Numerals -/

section Numerals

variable {base n : Nat} {m : Char} {cs : List Char} {k : Int}

/-- A mark of a base is no digit of the base and no underscore. -/
theorem not_digit_of_marksBase (h : marksBase base m = true) :
    digitIn? base m = none ∧ m ≠ '_' ∧ isNumeralBlank m = false := by
  simp only [marksBase, Bool.or_eq_true, Bool.and_eq_true, beq_iff_eq] at h
  rcases h with ⟨rfl, rfl | rfl⟩ | ⟨rfl, rfl | rfl⟩ <;> decide

theorem readNatural?_eq_some_iff : readNatural? base cs = some n ↔ IsUnsigned base cs n := by
  have hdue : ∀ cs, readDigits? base 0 true cs = some n ↔
      ∃ ds, PartedDigits base cs ds ∧ spellFrom base 0 ds = n := fun cs =>
    readDigits?_eq_some_iff.1
  constructor
  · intro h
    unfold readNatural? at h
    split at h
    · split at h
      · rename_i hm
        split at h
        all_goals
          obtain ⟨ds, hds, rfl⟩ := (hdue _).mp h
        · exact .markedParted hm hds
        · exact .marked hm hds
      · obtain ⟨ds, hds, rfl⟩ := (hdue _).mp h
        exact .digits hds
    · obtain ⟨ds, hds, rfl⟩ := (hdue _).mp h
      exact .digits hds
  · rintro (h | ⟨hm, h⟩ | ⟨hm, h⟩)
    · have hread := (hdue _).mpr ⟨_, h, rfl⟩
      unfold readNatural?
      split
      · rename_i c cs
        -- What follows a leading zero is a digit or an underscore, so it is no mark.
        have hplain : marksBase base c = false := by
          rw [Bool.eq_false_iff]
          intro hm
          obtain ⟨hnone, hunder, _⟩ := not_digit_of_marksBase hm
          cases h with
          | next _ h =>
              cases h <;> simp_all
          | parted _ h => exact hunder rfl
        rw [hplain]
        exact hread
      · exact hread
    · have hread := (hdue _).mpr ⟨_, h, rfl⟩
      simp only [readNatural?, hm, if_true]
      split
      · cases h <;> simp_all [digitIn?_underscore]
      · exact hread
    · have hread := (hdue _).mpr ⟨_, h, rfl⟩
      simpa only [readNatural?, hm, if_true] using hread

theorem IsUnsigned.not_blank (h : IsUnsigned base cs n) : ∀ c ∈ cs, isNumeralBlank c = false := by
  cases h with
  | digits h => exact h.not_blank
  | marked hm h =>
      exact List.forall_mem_cons.mpr ⟨rfl, List.forall_mem_cons.mpr
        ⟨(not_digit_of_marksBase hm).2.2, h.not_blank⟩⟩
  | markedParted hm h =>
      exact List.forall_mem_cons.mpr ⟨rfl, List.forall_mem_cons.mpr
        ⟨(not_digit_of_marksBase hm).2.2, List.forall_mem_cons.mpr ⟨rfl, h.not_blank⟩⟩⟩

/-- A numeral without a sign begins with a digit. -/
theorem IsUnsigned.first (h : IsUnsigned base cs n) :
    ∃ c ∈ cs.head?, (digitIn? base c).isSome := by
  have hzero : ∀ {m : Char}, marksBase base m = true → (digitIn? base '0').isSome := by
    intro m hm
    simp only [marksBase, Bool.or_eq_true, Bool.and_eq_true, beq_iff_eq] at hm
    rcases hm with ⟨rfl, _⟩ | ⟨rfl, _⟩ <;> rfl
  cases h with
  | digits h => cases h <;> exact ⟨_, rfl, Option.isSome_iff_exists.mpr ⟨_, ‹_›⟩⟩
  | marked hm h => exact ⟨_, rfl, hzero hm⟩
  | markedParted hm h => exact ⟨_, rfl, hzero hm⟩

theorem IsUnsigned.zero_le_head (h : IsUnsigned base cs n) : ∀ c ∈ cs.head?, '0' ≤ c := by
  obtain ⟨d, hd, hdigit⟩ := h.first
  obtain ⟨x, hx⟩ := Option.isSome_iff_exists.mp hdigit
  intro c hc
  obtain rfl : d = c := Option.mem_unique hd hc
  exact zero_le_of_digitIn? hx

/-- What a numeral begins with. -/
theorem IsNumeral.first (h : IsNumeral base cs k) : ∃ c ∈ (plainNumeral cs).head?,
    isNumeralBlank c = true ∨ c = '+' ∨ c = '-' ∨ (digitIn? base c).isSome := by
  obtain ⟨left, numeral, right, hplain, hleft, -, hsigned⟩ := h
  rw [hplain, List.append_assoc]
  cases left with
  | cons c left => exact ⟨c, rfl, .inl (hleft c List.mem_cons_self)⟩
  | nil =>
      cases hsigned with
      | unsigned h =>
          obtain ⟨c, hc, hdigit⟩ := h.first
          exact ⟨c, by simp [Option.mem_def.mp hc], .inr (.inr (.inr hdigit))⟩
      | plus h => exact ⟨'+', rfl, .inr (.inl rfl)⟩
      | minus h => exact ⟨'-', rfl, .inr (.inr (.inl rfl))⟩

theorem IsSigned.not_blank (h : IsSigned base cs k) : ∀ c ∈ cs, isNumeralBlank c = false := by
  cases h with
  | unsigned h => exact h.not_blank
  | plus h => exact List.forall_mem_cons.mpr ⟨rfl, h.not_blank⟩
  | minus h => exact List.forall_mem_cons.mpr ⟨rfl, h.not_blank⟩

/-- **The reader of integers accepts exactly the numerals**, each with its value. -/
theorem readInt?_eq_some_iff : readInt? base cs = some k ↔ IsNumeral base cs k := by
  constructor
  · intro h
    obtain ⟨⟨left, right, hplain, hleft, hright⟩, _, _⟩ := trimBoth_eq_iff.mp
      (rfl : trimBoth isNumeralBlank (plainNumeral cs) = bareNumeral cs)
    refine ⟨left, bareNumeral cs, right, hplain, hleft, hright, ?_⟩
    unfold readInt? at h
    split at h
    next ds heq =>
      cases hread : readNatural? base ds with
      | none => simp [hread] at h
      | some m =>
          obtain rfl : -(m : Int) = k := by simpa [hread] using h
          rw [heq]
          exact .minus (readNatural?_eq_some_iff.mp hread)
    next ds heq =>
      cases hread : readNatural? base ds with
      | none => simp [hread] at h
      | some m =>
          obtain rfl : (m : Int) = k := by simpa [hread] using h
          rw [heq]
          exact .plus (readNatural?_eq_some_iff.mp hread)
    next =>
      cases hread : readNatural? base (bareNumeral cs) with
      | none => simp [hread] at h
      | some m =>
          obtain rfl : (m : Int) = k := by simpa [hread] using h
          exact .unsigned (readNatural?_eq_some_iff.mp hread)
  · rintro ⟨left, numeral, right, hplain, hleft, hright, h⟩
    have hbare : bareNumeral cs = numeral :=
      trimBoth_eq_iff.mpr ⟨⟨left, right, hplain, hleft, hright⟩,
        fun c hc => h.not_blank c (List.mem_of_mem_head? hc),
        fun c hc => h.not_blank c (List.mem_of_mem_getLast? hc)⟩
    unfold readInt?
    rw [hbare]
    cases h with
    | unsigned h =>
        split
        · exact absurd (h.zero_le_head _ rfl) (by decide)
        · exact absurd (h.zero_le_head _ rfl) (by decide)
        · rw [readNatural?_eq_some_iff.mpr h]
          rfl
    | plus h =>
        simp only [readNatural?_eq_some_iff.mpr h]
        rfl
    | minus h =>
        simp only [readNatural?_eq_some_iff.mpr h]
        rfl

/-- A text in ASCII is a plain numeral already. -/
theorem plainNumeral_eq_self (h : ∀ c ∈ cs, c.toNat < 128) :
    plainNumeral cs = cs := by
  rw [plainNumeral]
  conv => rhs; rw [← List.map_id cs]
  apply List.map_congr_left
  intro c hc
  rw [if_pos (h c hc)]
  rfl

/-- Digits alone are a numeral. -/
theorem isNumeral_digits (hne : cs ≠ []) (h : ∀ c ∈ cs, (digitIn? base c).isSome) :
    IsNumeral base cs (spellFrom base 0 (cs.filterMap (digitIn? base)) : Nat) := by
  have hascii : ∀ c ∈ cs, c.toNat < 128 := by
    intro c hc
    obtain ⟨d, hd⟩ := Option.isSome_iff_exists.mp (h c hc)
    have hz : c.toNat ≤ 122 := (digitIn?_range hd).2
    omega
  exact ⟨[], cs, [], by rw [plainNumeral_eq_self hascii]; simp, by simp, by simp,
    .unsigned (.digits (partedDigits_filterMap hne h))⟩

/-- A numeral of digits is read as the number that they spell. -/
theorem readInt?_digits {ds : List Nat} (hbase : base ≤ 16) (hds : ∀ d ∈ ds, d < base)
    (hne : ds ≠ []) :
    readInt? base (ds.map Nat.digitChar) = some (spellFrom base 0 ds : Int) := by
  have hdigit : ∀ d ∈ ds, digitIn? base (Nat.digitChar d) = some d :=
    fun d hd => digitIn?_digitChar hbase (hds d hd)
  have hsome : ∀ c ∈ ds.map Nat.digitChar, (digitIn? base c).isSome := by
    rw [List.forall_mem_map]
    exact fun d hd => Option.isSome_iff_exists.mpr ⟨d, hdigit d hd⟩
  have hvalues : (ds.map Nat.digitChar).filterMap (digitIn? base) = ds := by
    rw [List.filterMap_map]
    exact (List.filterMap_congr hdigit).trans List.filterMap_some
  rw [readInt?_eq_some_iff]
  conv => rhs; rw [← hvalues]
  exact isNumeral_digits (by simpa using hne) hsome

end Numerals

end LalrBackend.Text
