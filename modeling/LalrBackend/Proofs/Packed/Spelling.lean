import LalrBackend.Packed.Literal
import LalrBackend.Packed.Spelling
import LalrBackend.Proofs.Packed.Units
import LalrBackend.Proofs.Text.Digits

/-!
# The value of literal lines

The language of generated modules reads the literal lines of packed units as the
text whose code points are these units. Each escape is one character, whatever
escape follows it; a line is the characters of its group; and the end marks join
the lines up to the parenthesis that closes the expression.
-/

namespace LalrBackend.Packed

open Text

/-! ## Escapes -/

theorem octalDigit?_digitChar {d : Nat} (hd : d < 8) :
    octalDigit? (Nat.digitChar d) = some d := by
  rcases d with _ | _ | _ | _ | _ | _ | _ | _ | d
  all_goals first | rfl | omega

theorem hexDigit?_digitChar {d : Nat} (hd : d < 16) :
    hexDigit? (Nat.digitChar d) = some d := by
  rcases d with _ | _ | _ | _ | _ | _ | _ | _ | _ | _ | _ | _ | _ | _ | _ | _ | d
  all_goals first | rfl | omega

/-- An octal digit is not the letter that begins a hexadecimal escape. -/
theorem digitChar_ne_hexMark {d : Nat} (hd : d < 8) : Nat.digitChar d ≠ 'u' := by
  rcases d with _ | _ | _ | _ | _ | _ | _ | _ | d
  all_goals first | decide | omega

/-- A unit below 256 has three octal digits. -/
theorem escapeUnit_octal {n : Nat} (hn : n < 256) :
    escapeUnit (n : Int) = ['\\', Nat.digitChar (n / 8 / 8 % 8),
      Nat.digitChar (n / 8 % 8), Nat.digitChar (n % 8)] := by
  have hpad : paddedNumeral 8 3 (n : Int) = fixedDigits 8 3 n :=
    paddedNumeral_natCast (by decide) (by omega)
  rw [escapeUnit, if_pos (by omega), hpad]
  rfl

/-- Any other unit of sixteen bits has four hexadecimal digits. -/
theorem escapeUnit_hex {n : Nat} (hlow : 256 ≤ n) (hn : n < 0x10000) :
    escapeUnit (n : Int) = ['\\', 'u', Nat.digitChar (n / 16 / 16 / 16 % 16),
      Nat.digitChar (n / 16 / 16 % 16), Nat.digitChar (n / 16 % 16),
      Nat.digitChar (n % 16)] := by
  have hpad : paddedNumeral 16 4 (n : Int) = fixedDigits 16 4 n :=
    paddedNumeral_natCast (by decide) (by omega)
  rw [escapeUnit, if_neg (by omega), hpad]
  rfl

/-- What follows an escape inside of a literal: the next escape or the end quote. -/
def EndsEscape (rest : List Char) : Prop :=
  ∃ c cs, rest = c :: cs ∧ (c = '\\' ∨ c = '"')

theorem spelled?_backslash (cs : List Char) :
    spelled? .inside ('\\' :: cs) = spelled? .escape cs := rfl

theorem spelled?_hexMark (cs : List Char) :
    spelled? .escape ('u' :: cs) = spelled? (.hex 4 0) cs := rfl

/-- An escape of three octal digits is over where another one or the literal's
end follows. -/
theorem spelled?_octal_end {value : Nat} {rest : List Char} (h : EndsEscape rest) :
    spelled? (.octal 0 value) rest = (spelled? .inside rest).map (value :: ·) := by
  obtain ⟨c, cs, rfl, rfl | rfl⟩ := h
  · rfl
  · rfl

/-- Inside of a literal, the escape of a unit is read as one character. -/
theorem spelled?_escapeUnit {n : Nat} (hn : n < 0x10000) {rest : List Char}
    (hrest : EndsEscape rest) :
    spelled? .inside (escapeUnit (n : Int) ++ rest) =
      (spelled? .inside rest).map (n :: ·) := by
  -- A unit of one byte is escaped in octal digits, any other one in hexadecimal ones.
  by_cases hsmall : n < 256
  · rw [escapeUnit_octal hsmall]
    have hd₂ : n / 8 / 8 % 8 < 8 := Nat.mod_lt _ (by decide)
    have hd₁ : n / 8 % 8 < 8 := Nat.mod_lt _ (by decide)
    have hd₀ : n % 8 < 8 := Nat.mod_lt _ (by decide)
    have hvalue : (n / 8 / 8 % 8 * 8 + n / 8 % 8) * 8 + n % 8 = n := by omega
    rw [List.cons_append, spelled?_backslash]
    simp only [List.cons_append, List.nil_append, spelled?, digitChar_ne_hexMark hd₂,
      octalDigit?_digitChar hd₂, octalDigit?_digitChar hd₁, octalDigit?_digitChar hd₀,
      if_false, hvalue]
    exact spelled?_octal_end hrest
  · rw [escapeUnit_hex (Nat.le_of_not_lt hsmall) hn]
    have hd₃ : n / 16 / 16 / 16 % 16 < 16 := Nat.mod_lt _ (by decide)
    have hd₂ : n / 16 / 16 % 16 < 16 := Nat.mod_lt _ (by decide)
    have hd₁ : n / 16 % 16 < 16 := Nat.mod_lt _ (by decide)
    have hd₀ : n % 16 < 16 := Nat.mod_lt _ (by decide)
    have hvalue : ((n / 16 / 16 / 16 % 16 * 16 + n / 16 / 16 % 16) * 16 +
        n / 16 % 16) * 16 + n % 16 = n := by omega
    rw [List.cons_append, spelled?_backslash, List.cons_append, spelled?_hexMark]
    simp [spelled?, hexDigit?_digitChar hd₃, hexDigit?_digitChar hd₂,
      hexDigit?_digitChar hd₁, hexDigit?_digitChar hd₀, hvalue]

/-! ## Lines -/

/-- Units of sixteen bits. -/
def AreUnits (units : List Int) : Prop :=
  ∀ u ∈ units, 0 ≤ u ∧ u < 0x10000

theorem AreUnits.tail {u : Int} {us : List Int} (h : AreUnits (u :: us)) : AreUnits us :=
  fun v hv => h v (List.mem_cons_of_mem u hv)

/-- The escapes of a group and the quote after them are a place where an escape
ends. -/
theorem endsEscape_escapes (group : List Int) (rest : List Char) :
    EndsEscape (group.flatMap escapeUnit ++ '"' :: rest) := by
  cases group with
  | nil => exact ⟨'"', rest, rfl, Or.inr rfl⟩
  | cons u us =>
      by_cases h : u < 256
      · exact ⟨'\\', _, by rw [List.flatMap_cons, escapeUnit, if_pos h]; rfl, Or.inl rfl⟩
      · exact ⟨'\\', _, by rw [List.flatMap_cons, escapeUnit, if_neg h]; rfl, Or.inl rfl⟩

theorem spelled?_escapes : ∀ {group : List Int} (rest : List Char), AreUnits group →
    spelled? .inside (group.flatMap escapeUnit ++ '"' :: rest) =
      (spelled? .outside rest).map (group.map Int.toNat ++ ·) := by
  intro group
  induction group with
  | nil =>
      intro rest _
      show spelled? .outside rest = _
      simp
  | cons u us ih =>
      intro rest hunits
      obtain ⟨hlow, hhigh⟩ := hunits u List.mem_cons_self
      obtain ⟨n, rfl⟩ := Int.eq_ofNat_of_zero_le hlow
      rw [List.flatMap_cons, List.append_assoc,
        spelled?_escapeUnit (by omega) (endsEscape_escapes us rest), ih rest hunits.tail,
        Option.map_map]
      rfl

/-- The literal of a group is read as the characters of its units. -/
theorem spelled?_literal {group : List Int} (rest : List Char) (h : AreUnits group) :
    spelled? .outside (literal group ++ rest) =
      (spelled? .outside rest).map (group.map Int.toNat ++ ·) := by
  rw [← spelled?_escapes rest h, literal]
  simp [spelled?]

/-- Between literals, blanks, plus signs and ends of lines mean nothing. -/
theorem spelled?_skip : ∀ {skipped : List Char} (rest : List Char),
    (∀ c ∈ skipped, c = ' ' ∨ c = '+' ∨ c = '\n') →
    spelled? .outside (skipped ++ rest) = spelled? .outside rest := by
  intro skipped
  induction skipped with
  | nil => intro rest _; rfl
  | cons c cs ih =>
      intro rest h
      have hrest := ih rest fun d hd => h d (List.mem_cons_of_mem c hd)
      rw [← hrest]
      rcases h c List.mem_cons_self with rfl | rfl | rfl <;> simp [spelled?]

theorem spelled?_close (rest : List Char) : spelled? .outside (')' :: rest) = some [] := rfl

theorem markEnds_cons_cons (l l' : List Char) (ls : List (List Char)) :
    markEnds (l :: l' :: ls) = (l ++ joinMark) :: markEnds (l' :: ls) := rfl

/-- The marks at the ends of literals join those that follow each other, each after
a margin of its own, and the last one closes the expression. What follows it is
not read. -/
theorem spelled?_markEnds {margin : List Char} (hmargin : ∀ c ∈ margin, c = ' ')
    (rest : List Char) : ∀ {groups : List (List Int)}, (∀ g ∈ groups, AreUnits g) →
    spelled? .outside
        ((markEnds (groups.map literal)).flatMap (fun l => margin ++ (l ++ ['\n'])) ++ rest) =
      some (groups.flatten.map Int.toNat) := by
  have hblank : ∀ c ∈ margin, c = ' ' ∨ c = '+' ∨ c = '\n' :=
    fun c hc => Or.inl (hmargin c hc)
  -- The last group is closed where the others are joined to the next line.
  have hlast : ∀ g, AreUnits g → spelled? .outside
      (margin ++ (literal g ++ closeMark ++ ['\n']) ++ rest) = some (g.map Int.toNat) := by
    intro g hg
    rw [List.append_assoc, spelled?_skip _ hblank, List.append_assoc, List.append_assoc,
      spelled?_literal _ hg]
    simp [closeMark, spelled?_close]
  intro groups
  induction groups with
  | nil =>
      intro _
      have hempty : AreUnits [] := fun u hu => absurd hu List.not_mem_nil
      simpa [markEnds] using hlast [] hempty
  | cons g gs ih =>
      intro h
      have hg := h g List.mem_cons_self
      cases gs with
      | nil => simpa [markEnds] using hlast g hg
      | cons g' gs =>
          have htail := ih fun k hk => h k (List.mem_cons_of_mem g hk)
          have hjoin : ∀ c ∈ joinMark ++ ['\n'], c = ' ' ∨ c = '+' ∨ c = '\n' := by
            simp [joinMark]
          rw [List.map_cons, List.map_cons, markEnds_cons_cons, ← List.map_cons,
            List.flatMap_cons, List.append_assoc, List.append_assoc,
            spelled?_skip _ hblank, List.append_assoc, List.append_assoc,
            spelled?_literal _ hg, ← List.append_assoc, spelled?_skip _ hjoin, htail]
          simp

/-! ## Tables -/

/-- Cutting units into lines neither loses nor repeats one. -/
theorem flatten_lineGroups (units : List Int) : (lineGroups units).flatten = units := by
  induction units using lineGroups.induct with
  | case1 => rw [lineGroups, List.flatten_nil]
  | case2 u us ih =>
      rw [lineGroups, List.flatten_cons, ih, List.cons_append, List.take_append_drop]

/-- The characters of lines that end in line feeds. -/
def textOf (lines : List String) : List Char :=
  lines.flatMap fun l => l.toList ++ ['\n']

/-- The literal lines of units, moved to any margin, spell these units. -/
theorem spelled?_literalLines {units : List Int} (h : AreUnits units) {margin : String}
    (hmargin : ∀ c ∈ margin.toList, c = ' ') (rest : List Char) :
    spelled? .outside (textOf ((literalLines units).map (margin ++ ·)) ++ rest) =
      some (units.map Int.toNat) := by
  have hgroups : ∀ g ∈ lineGroups units, AreUnits g := by
    intro g hg u hu
    apply h
    rw [← flatten_lineGroups units]
    exact List.mem_flatten.mpr ⟨g, hg, hu⟩
  have hchars : textOf ((literalLines units).map (margin ++ ·)) =
      (markEnds ((lineGroups units).map literal)).flatMap
        (fun l => margin.toList ++ (l ++ ['\n'])) := by
    simp [textOf, literalLines, List.flatMap_map]
  rw [hchars, spelled?_markEnds hmargin rest hgroups, flatten_lineGroups]

theorem spelledLines?_literalLines {units : List Int} (h : AreUnits units) :
    spelledLines? (literalLines units) = some (units.map Int.toNat) := by
  have hmargin : ∀ c ∈ "".toList, c = ' ' := by simp
  have hspelled := spelled?_literalLines h hmargin []
  simpa [spelledLines?, textOf] using hspelled

theorem map_ofNat_toNat {units : List Int} (h : AreUnits units) :
    (units.map Int.toNat).map Int.ofNat = units := by
  rw [List.map_map]
  conv => rhs; rw [← List.map_id units]
  apply List.map_congr_left
  intro u hu
  exact Int.toNat_of_nonneg (h u hu).1

end LalrBackend.Packed
