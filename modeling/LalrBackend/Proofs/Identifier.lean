import LalrBackend.Identifier
import LalrBackend.Text.IdentifierChar
import Mathlib.Tactic.Common

/-!
# Identifiers of symbols

The identifier that stands for a name is never empty and never reserved, it is made of word
characters, and its first character is no digit. Word characters are not quite the
characters of identifiers, though: some numerals and letters may stand in a word and not in
an identifier, or only behind its first character. So whether it is an identifier is told by
the word characters of the name. For names in ASCII it always is.
-/

namespace LalrBackend.Identifier

open Text

/-! ## Characters of identifiers -/

section Characters

variable {rs ss : List CodeRange} {c : Char}

/-- Whether ranges lie one after the other in ranges that come in the same order. -/
def areCovered : List CodeRange → List CodeRange → Bool
  | rs, [] => rs.isEmpty
  | rs, s :: ss => areCovered (rs.dropWhile fun r => s.1 ≤ r.1 && r.2 ≤ s.2) ss

/-- Ranges that lie in other ranges hold no character that these do not hold. -/
theorem inRanges_of_covered (hcovered : areCovered rs ss = true) (h : inRanges rs c = true) :
    inRanges ss c = true := by
  induction ss generalizing rs with
  | nil =>
      rw [areCovered, List.isEmpty_iff] at hcovered
      rw [hcovered] at h
      exact h
  | cons s ss ih =>
      obtain ⟨r, hr, hcontains⟩ := List.any_eq_true.mp h
      rw [← List.takeWhile_append_dropWhile (p := fun r => s.1 ≤ r.1 && r.2 ≤ s.2) (l := rs)] at hr
      rcases List.mem_append.mp hr with hr | hr
      · -- The range lies in the first one of the others.
        have hwithin := List.all_eq_true.mp List.all_takeWhile r hr
        refine List.any_eq_true.mpr ⟨s, List.mem_cons_self, ?_⟩
        simp only [CodeRange.contains, Bool.and_eq_true, decide_eq_true_eq] at hcontains hwithin ⊢
        omega
      · obtain ⟨s', hs', hcontains'⟩ :=
          List.any_eq_true.mp (ih hcovered (List.any_eq_true.mpr ⟨r, hr, hcontains⟩))
        exact List.any_eq_true.mpr ⟨s', List.mem_cons_of_mem s hs', hcontains'⟩

theorem identifierRanges_covered :
    areCovered identifierStartRanges identifierContinueRanges = true := by
  decide +kernel

/-- Ranges that begin behind a character do not hold it. -/
theorem inRanges_take (n : Nat) (h : ∀ r ∈ rs.drop n, c.toNat < r.1) :
    inRanges rs c = inRanges (rs.take n) c := by
  have hrest : inRanges (rs.drop n) c = false := by
    rw [inRanges, List.any_eq_false]
    intro r hr
    have hlt := h r hr
    simp only [CodeRange.contains, Bool.and_eq_true, decide_eq_true_eq]
    omega
  calc inRanges rs c = (inRanges (rs.take n) c || inRanges (rs.drop n) c) := by
        rw [inRanges, inRanges, inRanges, ← List.any_append, List.take_append_drop]
    _ = inRanges (rs.take n) c := by rw [hrest, Bool.or_false]

theorem continuesIdentifier_underscore : continuesIdentifier '_' = true := by
  decide +kernel

/-- What may begin an identifier may continue one. -/
theorem continuesIdentifier_of_begins (h : beginsIdentifier c = true) :
    continuesIdentifier c = true := by
  unfold beginsIdentifier at h
  rcases Bool.or_eq_true_iff.mp h with hunderscore | hstart
  · rw [eq_of_beq hunderscore]
    exact continuesIdentifier_underscore
  · exact inRanges_of_covered identifierRanges_covered hstart

/-- One underscore more makes no difference to a text that is not empty. -/
theorem isIdentifier_append_underscore {cs : List Char} (h : cs ≠ []) :
    isIdentifier (cs ++ ['_']) = isIdentifier cs := by
  cases cs with
  | nil => exact absurd rfl h
  | cons c cs =>
      show (beginsIdentifier c && (cs ++ ['_']).all continuesIdentifier) = _
      rw [List.all_append, List.all_cons, List.all_nil, continuesIdentifier_underscore,
        Bool.and_true, Bool.and_true]
      rfl

end Characters

/-! ## Words of a name -/

section Words

variable {p : Nat} {c : Char} {cs : List Char} {word : String}

/-- A code point that stands in words. -/
def IsWordPoint (point : Nat) : Prop :=
  isSurrogate point = false ∧ isWordChar (Char.ofNat point) = true

instance (point : Nat) : Decidable (IsWordPoint point) :=
  inferInstanceAs (Decidable (_ ∧ _))

theorem wordCharOf_of_word (h : IsWordPoint p) : wordCharOf p = Char.ofNat p := by
  obtain ⟨hsurrogate, hword⟩ := h
  rw [wordCharOf, hsurrogate, hword]
  rfl

theorem wordCharOf_of_not_word (h : ¬ IsWordPoint p) : wordCharOf p = '_' := by
  rw [wordCharOf, if_neg]
  intro hboth
  obtain ⟨hsurrogate, hword⟩ := Bool.and_eq_true_iff.mp hboth
  exact h ⟨by simpa using hsurrogate, hword⟩

theorem isWordChar_wordCharOf (p : Nat) : isWordChar (wordCharOf p) = true := by
  by_cases h : IsWordPoint p
  · rw [wordCharOf_of_word h]
    exact h.2
  · rw [wordCharOf_of_not_word h]
    rfl

/-- What an underscore satisfies is satisfied by the character that stands for a code point,
if the code point satisfies it or stands in no word. -/
theorem wordCharOf_iff (good : Char → Prop) (hunderscore : good '_') :
    good (wordCharOf p) ↔ (IsWordPoint p → good (Char.ofNat p)) := by
  by_cases h : IsWordPoint p
  · rw [wordCharOf_of_word h]
    exact ⟨fun hgood _ => hgood, fun hgood => hgood h⟩
  · rw [wordCharOf_of_not_word h]
    exact ⟨fun _ hword => absurd hword h, fun _ => hunderscore⟩

theorem startWord_ne_nil (cs : List Char) : startWord cs ≠ [] := by
  unfold startWord
  split
  · exact List.cons_ne_nil _ _
  · split <;> exact List.cons_ne_nil _ _

theorem isWordChar_of_mem_startWord (hcs : ∀ c ∈ cs, isWordChar c = true) :
    ∀ c ∈ startWord cs, isWordChar c = true := by
  intro c hc
  unfold startWord at hc
  split at hc
  · rw [List.mem_singleton.mp hc]
    rfl
  · split at hc
    · rcases List.mem_cons.mp hc with rfl | hc
      · rfl
      · exact hcs c hc
    · exact hcs c hc

theorem not_isDigitLike_head_startWord (h : (startWord cs).head? = some c) :
    isDigitLike c = false := by
  have hunderscore : isDigitLike '_' = false := by decide +kernel
  unfold startWord at h
  split at h
  · cases h
    exact hunderscore
  · split at h
    · cases h
      exact hunderscore
    · rename_i hdigit
      cases h
      simpa using hdigit

/-- A word is an identifier, possibly behind an underscore, if all of its characters may
continue one and the first of them is a digit or may begin one. -/
theorem isIdentifier_startWord_iff : isIdentifier (startWord cs) = true ↔
    (∀ c ∈ cs, continuesIdentifier c = true) ∧
      ∀ c, cs.head? = some c → isDigitLike c = true ∨ beginsIdentifier c = true := by
  cases cs with
  | nil =>
      have hempty : isIdentifier (startWord []) = true := rfl
      simp [hempty]
  | cons c cs =>
      rw [startWord, List.head?_cons]
      by_cases hdigit : isDigitLike c = true
      · -- The underscore in front begins an identifier, so what follows only continues it.
        rw [if_pos hdigit]
        show (beginsIdentifier '_' && (c :: cs).all continuesIdentifier) = true ↔ _
        have hbegins : beginsIdentifier '_' = true := rfl
        rw [hbegins, Bool.true_and, List.all_eq_true]
        constructor
        · intro hall
          refine ⟨hall, ?_⟩
          rintro _ ⟨⟩
          exact .inl hdigit
        · exact fun h => h.1
      · rw [if_neg hdigit]
        show (beginsIdentifier c && cs.all continuesIdentifier) = true ↔ _
        rw [Bool.and_eq_true_iff, List.all_eq_true, List.forall_mem_cons]
        constructor
        · rintro ⟨hbegins, hrest⟩
          refine ⟨⟨continuesIdentifier_of_begins hbegins, hrest⟩, ?_⟩
          rintro _ ⟨⟩
          exact .inr hbegins
        · rintro ⟨⟨_, hrest⟩, hfirst⟩
          exact ⟨(hfirst c rfl).resolve_left hdigit, hrest⟩

/-! ## Reserved words -/

theorem push_not_reserved : ∀ word ∈ reservedWords, word.push '_' ∉ reservedWords := by
  decide +kernel

theorem avoidReserved_not_reserved (word : String) : avoidReserved word ∉ reservedWords := by
  unfold avoidReserved
  split
  · rename_i hreserved
    exact push_not_reserved word hreserved
  · rename_i hfree
    exact hfree

theorem toList_avoidReserved (word : String) :
    (avoidReserved word).toList = word.toList ∨
      (avoidReserved word).toList = word.toList ++ ['_'] := by
  unfold avoidReserved
  split
  · exact .inr (String.toList_push ..)
  · exact .inl rfl

end Words

/-! ## Names -/

section Names

variable {name : String}

/-- What the code points of a name have to satisfy if the identifier that stands for the name
is to be one: those that stand in words may continue an identifier, and if the first one is
among them, it is a digit or may begin one. -/
structure YieldsIdentifier (points : CodePoints) : Prop where
  continues : ∀ p ∈ points, IsWordPoint p → continuesIdentifier (Char.ofNat p) = true
  begins : ∀ p, points.head? = some p → IsWordPoint p →
    isDigitLike (Char.ofNat p) = true ∨ beginsIdentifier (Char.ofNat p) = true

/-- The characters of the identifier are those of the word that is made of the name, and
perhaps one underscore more. -/
theorem toList_ofName (name : String) :
    (ofName name).toList = startWord (wordChars name.toList) ∨
      (ofName name).toList = startWord (wordChars name.toList) ++ ['_'] := by
  have hword := toList_avoidReserved (String.ofList (startWord (wordChars name.toList)))
  rwa [String.toList_ofList] at hword

theorem isWordChar_of_mem_ofName : ∀ c ∈ (ofName name).toList, isWordChar c = true := by
  have hchars : ∀ c ∈ wordChars name.toList, isWordChar c = true := by
    intro c hc
    obtain ⟨p, _, rfl⟩ := List.mem_map.mp hc
    exact isWordChar_wordCharOf p
  intro c hc
  rcases toList_ofName name with h | h
  · rw [h] at hc
    exact isWordChar_of_mem_startWord hchars c hc
  · rw [h] at hc
    rcases List.mem_append.mp hc with hc | hc
    · exact isWordChar_of_mem_startWord hchars c hc
    · rw [List.mem_singleton.mp hc]
      rfl

theorem exists_head_ofName (name : String) :
    ∃ c, (ofName name).toList.head? = some c ∧ isDigitLike c = false := by
  obtain ⟨c, cs, hcons⟩ := List.exists_cons_of_ne_nil (startWord_ne_nil (wordChars name.toList))
  have hhead : (ofName name).toList.head? = some c := by
    rcases toList_ofName name with h | h
    · rw [h, hcons]
      rfl
    · rw [h, hcons]
      rfl
  exact ⟨c, hhead, not_isDigitLike_head_startWord (by rw [hcons]; rfl)⟩

theorem yieldsIdentifier_iff : YieldsIdentifier (pointsOf name) ↔
    isIdentifier (startWord (wordChars name.toList)) = true := by
  have hcontinues : ∀ p, continuesIdentifier (wordCharOf p) = true ↔
      (IsWordPoint p → continuesIdentifier (Char.ofNat p) = true) := fun p =>
    wordCharOf_iff (continuesIdentifier · = true) continuesIdentifier_underscore
  have hbegins : ∀ p, isDigitLike (wordCharOf p) = true ∨ beginsIdentifier (wordCharOf p) = true ↔
      (IsWordPoint p →
        isDigitLike (Char.ofNat p) = true ∨ beginsIdentifier (Char.ofNat p) = true) := fun p =>
    wordCharOf_iff (fun c => isDigitLike c = true ∨ beginsIdentifier c = true) (.inr rfl)
  rw [isIdentifier_startWord_iff, wordChars, List.forall_mem_map, List.head?_map]
  constructor
  · rintro ⟨hall, hfirst⟩
    constructor
    · intro p hp
      exact (hcontinues p).mpr (hall p hp)
    · intro c hc
      obtain ⟨p, hp, rfl⟩ := Option.map_eq_some_iff.mp hc
      exact (hbegins p).mpr (hfirst p hp)
  · rintro ⟨hall, hfirst⟩
    constructor
    · intro p hp
      exact (hcontinues p).mp (hall p hp)
    · intro p hp
      refine (hbegins p).mp (hfirst _ ?_)
      rw [← pointsOf, hp]
      rfl

/-- In ASCII, word characters are the characters of identifiers. -/
theorem continues_of_ascii {p : Nat} (hp : p < 0x80) (hword : IsWordPoint p) :
    continuesIdentifier (Char.ofNat p) = true ∧
      (isDigitLike (Char.ofNat p) = true ∨ beginsIdentifier (Char.ofNat p) = true) := by
  -- Of the ranges of letters and digits only the first three begin in ASCII.
  have hrest : ∀ r ∈ alphanumericRanges.drop 3, 0x80 ≤ r.1 := by decide +kernel
  have hall : ∀ p < 0x80, (Char.ofNat p).toNat < 0x80 ∧
      ((Char.ofNat p == '_' || inRanges (alphanumericRanges.take 3) (Char.ofNat p)) = true →
        continuesIdentifier (Char.ofNat p) = true ∧
          (isDigitLike (Char.ofNat p) = true ∨ beginsIdentifier (Char.ofNat p) = true)) := by
    decide +kernel
  obtain ⟨hchar, hgood⟩ := hall p hp
  apply hgood
  rw [← inRanges_take 3 fun r hr => Nat.lt_of_lt_of_le hchar (hrest r hr)]
  exact hword.2

theorem yieldsIdentifier_of_ascii {points : CodePoints} (h : ∀ p ∈ points, p < 0x80) :
    YieldsIdentifier points where
  continues p hp hword := (continues_of_ascii (h p hp) hword).1
  begins p hp hword := (continues_of_ascii (h p (List.mem_of_head? hp)) hword).2

/-- **What stands for a name, and when it is an identifier.** Whatever the name, it is never
reserved, all of its characters may stand in words, and its first one, which it always has,
is no digit. It is an identifier exactly if the word characters of the name may stand where
they then stand, which is so for all names in ASCII. -/
theorem ofName_isIdentifier_iff (name : String) :
    ofName name ∉ reservedWords ∧
      (∀ c ∈ (ofName name).toList, isWordChar c = true) ∧
      (∃ c, (ofName name).toList.head? = some c ∧ isDigitLike c = false) ∧
      (isIdentifier (ofName name).toList = true ↔ YieldsIdentifier (pointsOf name)) ∧
      ((∀ p ∈ pointsOf name, p < 0x80) → isIdentifier (ofName name).toList = true) := by
  have hiff : isIdentifier (ofName name).toList = true ↔ YieldsIdentifier (pointsOf name) := by
    rw [yieldsIdentifier_iff]
    rcases toList_ofName name with h | h
    · rw [h]
    · rw [h, isIdentifier_append_underscore (startWord_ne_nil _)]
  refine ⟨avoidReserved_not_reserved _, isWordChar_of_mem_ofName, exists_head_ofName name, hiff, ?_⟩
  intro hascii
  exact hiff.mpr (yieldsIdentifier_of_ascii hascii)

/-- A name that begins with a digit and has a character of no word. -/
theorem ofName_isIdentifier_iff_digitFirst :
    (∀ p ∈ pointsOf "0$x", p < 0x80) ∧ ofName "0$x" = "_0_x" ∧
      isIdentifier (ofName "0$x").toList = true := by
  have hascii : ∀ p ∈ pointsOf "0$x", p < 0x80 := by decide +kernel
  obtain ⟨_, _, _, _, hidentifier⟩ := ofName_isIdentifier_iff "0$x"
  exact ⟨hascii, by decide +kernel, hidentifier hascii⟩

/-- Not every name is turned into an identifier: a fraction is a numeral, which may stand in
a word, and may not stand in an identifier. -/
theorem ofName_fraction_not_identifier :
    ¬ ∀ name : String, isIdentifier (ofName name).toList = true ∧ ofName name ∉ reservedWords := by
  intro h
  have hfraction : isIdentifier (ofName "½").toList = false := by decide +kernel
  rw [(h "½").1] at hfraction
  cases hfraction

end Names

end LalrBackend.Identifier
