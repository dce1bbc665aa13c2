import LalrBackend.Proofs.Failure
import LalrBackend.Proofs.Packed.Spelling
import LalrBackend.Proofs.Text.Numerals
import Mathlib.Data.List.Forall2

/-!
# Literal lines

The literal lines of units are groups of eleven escapes, the last group of what is
left, each group between quotes and followed by the mark that joins or closes the
lines. Reading the lines gives the units back, whatever sixteen bits they have.
-/

namespace LalrBackend.Packed

open Text Failure

/-! ## The form of literal lines -/

/-- The escapes of a unit: a backslash and three octal digits below 256, a backslash,
`u` and four hexadecimal digits from there on. -/
inductive IsEscape : Int → List Char → Prop
  | octal {a b c : Char} {x y z : Nat} (ha : octalDigit? a = some x)
      (hb : octalDigit? b = some y) (hc : octalDigit? c = some z)
      (hlow : (x * 8 + y) * 8 + z < 256) :
      IsEscape (((x * 8 + y) * 8 + z : Nat) : Int) ['\\', a, b, c]
  | hex {a b c d : Char} {w x y z : Nat} (ha : hexDigit? a = some w)
      (hb : hexDigit? b = some x) (hc : hexDigit? c = some y) (hd : hexDigit? d = some z)
      (hhigh : 256 ≤ ((w * 16 + x) * 16 + y) * 16 + z) :
      IsEscape ((((w * 16 + x) * 16 + y) * 16 + z : Nat) : Int) ['\\', 'u', a, b, c, d]

/-- A literal line: the escapes of a group of units between quotes, and an end mark. -/
def IsLiteralLine (mark : List Char) (group : List Int) (line : String) : Prop :=
  ∃ escapes, List.Forall₂ IsEscape group escapes ∧
    line.toList = '"' :: (escapes.flatten ++ '"' :: mark)

/-! ## Escapes -/

section Escapes

variable {n : Nat} {line : String}

theorem isEscape_escapeUnit (hn : n < 0x10000) : IsEscape (n : Int) (escapeUnit (n : Int)) := by
  by_cases hsmall : n < 256
  · have hvalue : (n / 8 / 8 % 8 * 8 + n / 8 % 8) * 8 + n % 8 = n := by omega
    have hescape := IsEscape.octal (octalDigit?_digitChar (Nat.mod_lt (n / 8 / 8) (by decide)))
      (octalDigit?_digitChar (Nat.mod_lt (n / 8) (by decide)))
      (octalDigit?_digitChar (Nat.mod_lt n (by decide))) (by omega)
    rwa [hvalue, ← escapeUnit_octal hsmall] at hescape
  · have hvalue : ((n / 16 / 16 / 16 % 16 * 16 + n / 16 / 16 % 16) * 16 +
        n / 16 % 16) * 16 + n % 16 = n := by omega
    have hescape := IsEscape.hex
      (hexDigit?_digitChar (Nat.mod_lt (n / 16 / 16 / 16) (by decide)))
      (hexDigit?_digitChar (Nat.mod_lt (n / 16 / 16) (by decide)))
      (hexDigit?_digitChar (Nat.mod_lt (n / 16) (by decide)))
      (hexDigit?_digitChar (Nat.mod_lt n (by decide))) (by omega)
    rwa [hvalue, ← escapeUnit_hex (Nat.le_of_not_lt hsmall) hn] at hescape

/-- The digits of a unit are read as the unit. -/
theorem readUnit_digits {base : Nat} (ds : List Nat) (hbase : base ≤ 16)
    (hds : ∀ d ∈ ds, d < base) (hne : ds ≠ []) (hvalue : spellFrom base 0 ds = n) :
    readUnit base (ds.map Nat.digitChar) = .ok (n : Int) := by
  rw [readUnit, readInt?_digits hbase hds hne, hvalue]

/-- What the reader makes of an escape with octal digits. -/
theorem readEscapes_octal {d : Char} (hd : d ≠ 'u') (more : List Char) :
    readEscapes line ('\\' :: d :: more) = (do
      let unit ← readUnit 8 (d :: more.take 2)
      return unit :: (← readEscapes line (more.drop 2))) := by
  rw [readEscapes]
  simp [hd]

/-- What the reader makes of an escape with hexadecimal digits. -/
theorem readEscapes_hex (more : List Char) :
    readEscapes line ('\\' :: 'u' :: more) = (do
      let unit ← readUnit 16 (more.take 4)
      return unit :: (← readEscapes line (more.drop 4))) := by
  rw [readEscapes]
  simp

/-- The reader takes the escape of a unit for this unit and goes on after it. -/
theorem readEscapes_escapeUnit (hn : n < 0x10000) {rest : List Char} {units : List Int}
    (hrest : readEscapes line rest = .ok units) :
    readEscapes line (escapeUnit (n : Int) ++ rest) = .ok ((n : Int) :: units) := by
  by_cases hsmall : n < 256
  · have hread : readUnit 8 ([n / 8 / 8 % 8, n / 8 % 8, n % 8].map Nat.digitChar) =
        .ok (n : Int) := by
      apply readUnit_digits _ (by decide) (by simp; omega) (by simp)
      simp only [spellFrom, List.foldl_cons, List.foldl_nil]
      omega
    have hmark := digitChar_ne_hexMark (Nat.mod_lt (n / 8 / 8) (by decide : 0 < 8))
    simp only [List.map_cons, List.map_nil] at hread
    simp only [escapeUnit_octal hsmall, List.cons_append, List.nil_append,
      readEscapes_octal hmark, List.take_succ_cons, List.take_zero, List.drop_succ_cons,
      List.drop_zero, hread, hrest]
    rfl
  · have hread : readUnit 16
        ([n / 16 / 16 / 16 % 16, n / 16 / 16 % 16, n / 16 % 16, n % 16].map Nat.digitChar) =
        .ok (n : Int) := by
      apply readUnit_digits _ (by decide) (by simp; omega) (by simp)
      simp only [spellFrom, List.foldl_cons, List.foldl_nil]
      omega
    simp only [List.map_cons, List.map_nil] at hread
    simp only [escapeUnit_hex (Nat.le_of_not_lt hsmall) hn, List.cons_append, List.nil_append,
      readEscapes_hex, List.take_succ_cons, List.take_zero, List.drop_succ_cons, List.drop_zero,
      hread, hrest]
    rfl

end Escapes

/-! ## Lines -/

section Lines

variable {units group : List Int}

theorem readEscapes_escapes (line : String) : ∀ {group : List Int}, AreUnits group →
    readEscapes line (group.flatMap escapeUnit) = .ok group := by
  intro group
  induction group with
  | nil => intro _; rw [List.flatMap_nil, readEscapes]
  | cons u us ih =>
      intro h
      obtain ⟨hlow, hhigh⟩ := h u List.mem_cons_self
      obtain ⟨n, rfl⟩ := Int.eq_ofNat_of_zero_le hlow
      rw [List.flatMap_cons]
      exact readEscapes_escapeUnit (by omega) (ih h.tail)

theorem dropMark?_eq_some_iff {mark line rest : List Char} :
    dropMark? mark line = some rest ↔ line = rest ++ mark := by
  by_cases hsuffix : mark <:+ line
  · obtain ⟨front, rfl⟩ := hsuffix
    have hmark : mark.isSuffixOf (front ++ mark) = true :=
      List.isSuffixOf_iff_suffix.mpr (List.suffix_append front mark)
    rw [dropMark?, if_pos hmark]
    simp
  · have hmark : ¬ mark.isSuffixOf line = true := by rwa [List.isSuffixOf_iff_suffix]
    rw [dropMark?, if_neg hmark]
    simp only [reduceCtorEq, false_iff]
    rintro rfl
    exact hsuffix (List.suffix_append rest mark)

theorem dropMark?_eq_none_iff {mark line : List Char} :
    dropMark? mark line = none ↔ ¬ mark <:+ line := by
  rw [dropMark?, ← List.isSuffixOf_iff_suffix]
  simp

/-- The mark that joins lines is taken off if the line has it, or else the one that closes
them. -/
theorem dropEndMark_eq_iff {line bare : List Char} : dropEndMark line = bare ↔
    line = bare ++ joinMark ∨
    ¬ joinMark <:+ line ∧ (line = bare ++ closeMark ∨ ¬ closeMark <:+ line ∧ line = bare) := by
  by_cases hjoin : joinMark <:+ line
  · obtain ⟨front, rfl⟩ := hjoin
    rw [dropEndMark, dropMark?_eq_some_iff.mpr rfl]
    simp
  · have hnot : line ≠ bare ++ joinMark := fun h => hjoin (h ▸ List.suffix_append bare joinMark)
    rw [dropEndMark, dropMark?_eq_none_iff.mpr hjoin]
    by_cases hclose : closeMark <:+ line
    · obtain ⟨front, rfl⟩ := hclose
      simp [dropMark?_eq_some_iff.mpr rfl, hnot, hjoin]
    · have hopen : line ≠ bare ++ closeMark :=
        fun h => hclose (h ▸ List.suffix_append bare closeMark)
      simp [dropMark?_eq_none_iff.mpr hclose, hnot, hjoin, hopen, hclose]

/-- The two marks that a line ends in are told apart. -/
theorem dropEndMark_append {mark : List Char} (hmark : mark = joinMark ∨ mark = closeMark)
    (line : List Char) : dropEndMark (line ++ mark) = line := by
  rcases hmark with rfl | rfl
  · exact dropEndMark_eq_iff.mpr (.inl rfl)
  · refine dropEndMark_eq_iff.mpr (.inr ⟨?_, .inl rfl⟩)
    rintro ⟨front, heq⟩
    have hlast := congrArg List.getLast? heq
    simp [joinMark, closeMark] at hlast

/-- What is unquoted is the text between two quotes with nothing but blanks around them. -/
theorem unquote?_eq_some_iff {bare body : List Char} : unquote? bare = some body ↔
    ∃ left right, bare = left ++ '"' :: (body ++ '"' :: right) ∧
      (∀ c ∈ left, isBlank c = true) ∧ ∀ c ∈ right, isBlank c = true := by
  -- The quotes are no blanks, so the text with them is what stripping leaves.
  have hstrip : strip bare = '"' :: (body ++ ['"']) ↔
      ∃ left right, bare = left ++ '"' :: (body ++ '"' :: right) ∧
        (∀ c ∈ left, isBlank c = true) ∧ ∀ c ∈ right, isBlank c = true := by
    constructor
    · intro h
      obtain ⟨⟨left, right, hbare, hleft, hright⟩, _, _⟩ := trimBoth_eq_iff.mp h
      exact ⟨left, right, by simpa using hbare, hleft, hright⟩
    · rintro ⟨left, right, hbare, hleft, hright⟩
      have hquote : isBlank '"' = false := by decide
      refine trimBoth_eq_iff.mpr ⟨⟨left, right, by simpa using hbare, hleft, hright⟩, ?_, ?_⟩
      · simpa using hquote
      · rw [← List.cons_append, List.getLast?_concat]
        simpa using hquote
  rw [← hstrip]
  unfold unquote?
  constructor
  · intro h
    split at h
    next c cs heq =>
      split at h
      next hlast =>
        obtain rfl := Option.some.inj h
        rw [heq, List.dropLast_append_getLast? _ hlast]
      next => cases h
    next => cases h
  · intro h
    rw [h]
    cases body with
    | nil => rfl
    | cons c cs =>
        have hlast : ((c :: cs) ++ ['"']).getLast? = some '"' := List.getLast?_concat
        have hrest : ((c :: cs) ++ ['"']).dropLast = c :: cs := List.dropLast_concat
        simp only [List.cons_append] at hlast hrest ⊢
        rw [if_pos hlast, hrest]

theorem unquote?_literal (group : List Int) :
    unquote? (literal group) = some (group.flatMap escapeUnit) :=
  unquote?_eq_some_iff.mpr ⟨[], [], rfl, by simp, by simp⟩

/-- A literal with either end mark is read as its group. -/
theorem readLine_literal {mark : List Char} (hmark : mark = joinMark ∨ mark = closeMark)
    (h : AreUnits group) : readLine (String.ofList (literal group ++ mark)) = .ok group := by
  simp only [readLine, String.toList_ofList, dropEndMark_append hmark, unquote?_literal]
  exact readEscapes_escapes _ h

theorem isLiteralLine_literal (mark : List Char) (h : AreUnits group) :
    IsLiteralLine mark group (String.ofList (literal group ++ mark)) := by
  refine ⟨group.map escapeUnit, ?_, ?_⟩
  · rw [List.forall₂_map_right_iff, List.forall₂_same]
    intro u hu
    obtain ⟨hlow, hhigh⟩ := h u hu
    obtain ⟨n, rfl⟩ := Int.eq_ofNat_of_zero_le hlow
    exact isEscape_escapeUnit (by omega)
  · simp [literal, List.flatMap_def]

end Lines

/-! ## Groups -/

section Groups

variable {units : List Int}

theorem markEnds_concat (l : List Char) : ∀ ls : List (List Char),
    markEnds (ls ++ [l]) = ls.map (· ++ joinMark) ++ [l ++ closeMark] := by
  intro ls
  induction ls with
  | nil => rfl
  | cons k ks ih =>
      cases ks with
      | nil => rfl
      | cons k' ks =>
          rw [List.cons_append, List.cons_append, markEnds_cons_cons, ← List.cons_append, ih]
          rfl

/-- Units are cut into full groups and a last one, which is empty only if there are no
units at all. -/
structure CutInto (units : List Int) (groups : List (List Int)) (last : List Int) : Prop where
  joined : groups.flatten ++ last = units
  full : ∀ g ∈ groups, g.length = 11
  last_le : last.length ≤ 11
  last_ne_nil : units ≠ [] → last ≠ []

theorem lineGroups_cut : ∀ {units : List Int}, units ≠ [] →
    ∃ groups last, lineGroups units = groups ++ [last] ∧ CutInto units groups last := by
  intro units
  induction units using lineGroups.induct with
  | case1 => intro h; exact absurd rfl h
  | case2 u us ih =>
      intro _
      have hjoin := flatten_lineGroups (u :: us)
      rw [lineGroups] at hjoin ⊢
      by_cases hrest : us.drop (unitsPerLine - 1) = []
      · refine ⟨[], u :: us.take (unitsPerLine - 1), ?_, ?_, ?_, ?_, ?_⟩
        · rw [hrest, lineGroups]
          rfl
        · rw [hrest, lineGroups] at hjoin
          simpa using hjoin
        · simp
        · simp [unitsPerLine]
        · simp
      · obtain ⟨groups, last, hgroups, hcut⟩ := ih hrest
        have hlong : unitsPerLine - 1 < us.length := by
          simpa [List.drop_eq_nil_iff] using hrest
        refine ⟨(u :: us.take (unitsPerLine - 1)) :: groups, last, ?_, ?_, ?_, hcut.last_le,
          fun _ => hcut.last_ne_nil hrest⟩
        · rw [hgroups]
          rfl
        · rw [hgroups] at hjoin
          simpa using hjoin
        · intro g hg
          rcases List.mem_cons.mp hg with rfl | hg
          · simp [unitsPerLine] at hlong ⊢
            omega
          · exact hcut.full g hg

/-- The literal lines of units are those of the groups that they are cut into. -/
theorem literalLines_cut (units : List Int) :
    ∃ groups last, CutInto units groups last ∧
      literalLines units =
        groups.map (fun g => String.ofList (literal g ++ joinMark)) ++
          [String.ofList (literal last ++ closeMark)] := by
  by_cases h : units = []
  · subst h
    refine ⟨[], [], ⟨rfl, by simp, by simp, fun hne => absurd rfl hne⟩, ?_⟩
    rw [literalLines, lineGroups]
    rfl
  · obtain ⟨groups, last, hgroups, hcut⟩ := lineGroups_cut h
    refine ⟨groups, last, hcut, ?_⟩
    rw [literalLines, hgroups, List.map_append, List.map_singleton, markEnds_concat]
    simp

/-- Full groups and the rest of them take one line for every eleven units, and one line
in any case. -/
theorem CutInto.count {groups : List (List Int)} {last : List Int}
    (h : CutInto units groups last) :
    groups.length + 1 = max 1 ((units.length + 10) / 11) := by
  have hsize : groups.flatten.length = groups.length * 11 := by
    rw [List.length_flatten, List.map_congr_left h.full]
    simp
  have htotal : units.length = groups.length * 11 + last.length := by
    rw [← h.joined, List.length_append, hsize]
  have hle := h.last_le
  by_cases hempty : units = []
  · subst hempty
    rw [List.length_nil] at htotal ⊢
    omega
  · have hpos := List.length_pos_iff.mpr (h.last_ne_nil hempty)
    omega

end Groups

/-! ## Tables of lines -/

theorem readLines_append {lines lines' : List String} {units units' : List Int}
    (h : readLines lines = .ok units) (h' : readLines lines' = .ok units') :
    readLines (lines ++ lines') = .ok (units ++ units') := by
  induction lines generalizing units with
  | nil =>
      cases h
      simpa using h'
  | cons line lines ih =>
      rw [readLines] at h
      obtain ⟨first, hfirst, h⟩ := bind_eq_ok.mp h
      obtain ⟨others, hothers, h⟩ := bind_eq_ok.mp h
      cases h
      rw [List.cons_append, readLines, hfirst, ok_bind, ih hothers, ok_bind,
        List.append_assoc]
      rfl

theorem readLines_joined : ∀ {groups : List (List Int)}, (∀ g ∈ groups, AreUnits g) →
    readLines (groups.map fun g => String.ofList (literal g ++ joinMark)) =
      .ok groups.flatten := by
  intro groups
  induction groups with
  | nil => intro _; rfl
  | cons g gs ih =>
      intro h
      have hg := readLine_literal (Or.inl rfl) (h g List.mem_cons_self)
      have hgs := ih fun k hk => h k (List.mem_cons_of_mem g hk)
      rw [List.map_cons, readLines, hg, ok_bind, hgs]
      rfl

/-- **Literal lines are read back**, and they have the form that was announced. -/
theorem readLines_literalLines {units : List Int} (h : AreUnits units) :
    readLines (literalLines units) = .ok units ∧
    (literalLines units).length = max 1 ((units.length + 10) / 11) ∧
    ∃ groups last, CutInto units groups last ∧
      ∃ lines line, literalLines units = lines ++ [line] ∧
        List.Forall₂ (IsLiteralLine [' ', '+']) groups lines ∧
        IsLiteralLine [')'] last line := by
  obtain ⟨groups, last, hcut, hlines⟩ := literalLines_cut units
  have hgroups : ∀ g ∈ groups, AreUnits g := by
    intro g hg u hu
    apply h
    rw [← hcut.joined]
    exact List.mem_append_left _ (List.mem_flatten_of_mem hg hu)
  have hlast : AreUnits last := by
    intro u hu
    apply h
    rw [← hcut.joined]
    exact List.mem_append_right _ hu
  refine ⟨?_, ?_, groups, last, hcut, _, _, hlines, ?_, isLiteralLine_literal _ hlast⟩
  · have hclosed : readLines [String.ofList (literal last ++ closeMark)] = .ok last := by
      rw [readLines, readLine_literal (Or.inr rfl) hlast, ok_bind, readLines,
        ok_bind, List.append_nil]
      rfl
    rw [hlines, readLines_append (readLines_joined hgroups) hclosed, hcut.joined]
  · rw [hlines, ← hcut.count, List.length_append, List.length_map, List.length_singleton]
  · rw [List.forall₂_map_right_iff, List.forall₂_same]
    exact fun g hg => isLiteralLine_literal _ (hgroups g hg)

/-- Twelve units take two lines, whichever escapes they have. -/
theorem readLines_literalLines_twelve :
    let units := [0, 0xff, 0x100, 0xffff, 0x22, 0x5c, 0x0a, 0xd800, 0x29, 0x2b, 0x75, 0x30]
    AreUnits units ∧ readLines (literalLines units) = .ok units ∧
      (literalLines units).length = 2 := by
  intro units
  have hunits : AreUnits units := by
    unfold AreUnits
    decide
  have hsize : units.length = 12 := rfl
  obtain ⟨hread, hcount, _⟩ := readLines_literalLines hunits
  rw [hsize] at hcount
  exact ⟨hunits, hread, hcount⟩

end LalrBackend.Packed
