/-!
# Code points

A text is a sequence of code points. All of them but the surrogates are characters; a surrogate
that stands alone is spelled by two characters, a mark and a character of its own, and the mark
itself is spelled twice. `pointsOf_stringOf` says that this spelling loses nothing. A property of
characters is kept as a list of inclusive ranges of code points.
-/

namespace LalrBackend.Text

/-- The code points of a text. -/
abbrev CodePoints := List Nat

/-- Whether a code point is a surrogate. -/
def isSurrogate (point : Nat) : Bool :=
  0xd800 ≤ point && point ≤ 0xdfff

/-- The character that begins the spelling of a surrogate. No text means it: it is no character of
any writing. -/
def surrogateMark : Char := Char.ofNat 0xdfffe

/-- How far above a surrogate the second character of its spelling lies. -/
def spellingShift : Nat := 0x800

/-- The characters that spell a code point. -/
def spell (point : Nat) : List Char :=
  if isSurrogate point then [surrogateMark, Char.ofNat (point + spellingShift)]
  else if point = surrogateMark.toNat then [surrogateMark, surrogateMark]
  else [Char.ofNat point]

/-- The code points that characters spell. A mark that spells nothing with what follows stands for
itself. -/
def pointsOfChars : List Char → CodePoints
  | [] => []
  | [c] => [c.toNat]
  | c :: d :: cs =>
    if c = surrogateMark then
      if d = surrogateMark then surrogateMark.toNat :: pointsOfChars cs
      else if isSurrogate (d.toNat - spellingShift) then
        (d.toNat - spellingShift) :: pointsOfChars cs
      else surrogateMark.toNat :: pointsOfChars (d :: cs)
    else c.toNat :: pointsOfChars (d :: cs)

/-- The code points of a string. -/
def pointsOf (s : String) : CodePoints :=
  pointsOfChars s.toList

/-- The string of code points. -/
def stringOf (points : CodePoints) : String :=
  String.ofList (points.flatMap spell)

/-- Whether a string holds a surrogate. -/
def hasSurrogate (s : String) : Bool :=
  (pointsOf s).any isSurrogate

/-- The parts of a string that are one code point long. -/
def singles (s : String) : List String :=
  (pointsOf s).map fun p => stringOf [p]

/-- Whether a number is a code point. -/
def isPoint (n : Nat) : Bool :=
  n < 0x110000

theorem toNat_ofNat {n : Nat} (h : isPoint n = true) (hs : isSurrogate n = false) :
    (Char.ofNat n).toNat = n := by
  have hv : n.isValidChar := by
    simp only [isPoint, decide_eq_true_eq] at h
    simp only [isSurrogate, Bool.and_eq_false_iff, decide_eq_false_iff_not] at hs
    simp only [Nat.isValidChar]
    omega
  have hc : Char.ofNat n = Char.ofNatAux n hv := dif_pos hv
  rw [hc]
  rfl

theorem pointsOfChars_cons {c : Char} (h : c ≠ surrogateMark) (cs : List Char) :
    pointsOfChars (c :: cs) = c.toNat :: pointsOfChars cs := by
  cases cs with
  | nil => rfl
  | cons d ds => simp [pointsOfChars, h]

theorem toNat_spelling {p : Nat} (h : isSurrogate p = true) :
    (Char.ofNat (p + spellingShift)).toNat = p + spellingShift := by
  simp only [isSurrogate, Bool.and_eq_true, decide_eq_true_eq] at h
  apply toNat_ofNat
  · have : p + spellingShift < 0x110000 := by simp only [spellingShift]; omega
    exact decide_eq_true this
  · simp [isSurrogate, spellingShift]
    omega

theorem pointsOfChars_spell {p : Nat} (h : isPoint p = true) (cs : List Char) :
    pointsOfChars (spell p ++ cs) = p :: pointsOfChars cs := by
  unfold spell
  split
  · rename_i hs
    have hn := toNat_spelling hs
    have hne : Char.ofNat (p + spellingShift) ≠ surrogateMark := by
      intro he
      rw [he] at hn
      simp only [isSurrogate, Bool.and_eq_true, decide_eq_true_eq] at hs
      have hm : surrogateMark.toNat = 0xdfffe := by decide
      simp only [hm, spellingShift] at hn
      omega
    simp [pointsOfChars, hne, hn, hs]
  · rename_i hs
    split
    · rename_i hm
      simp [pointsOfChars, hm]
    · rename_i hm
      have hn := toNat_ofNat h (by simpa using hs)
      have hne : Char.ofNat p ≠ surrogateMark := fun he => hm (by rw [← he, hn])
      simpa [hn] using pointsOfChars_cons hne cs

/-- The spelling of code points gives them back. -/
theorem pointsOf_stringOf (points : CodePoints) (h : ∀ p ∈ points, isPoint p = true) :
    pointsOf (stringOf points) = points := by
  simp only [pointsOf, stringOf, String.toList_ofList]
  induction points with
  | nil => rfl
  | cons p ps ih =>
    rw [List.flatMap_cons, pointsOfChars_spell (h p (by simp)), ih fun q hq => h q (by simp [hq])]

/-! ## Ranges of code points -/

/-- The first and the last code point of a range. -/
abbrev CodeRange := Nat × Nat

/-- Whether a code point lies in a range. -/
def CodeRange.contains (r : CodeRange) (point : Nat) : Bool :=
  r.1 ≤ point && point ≤ r.2

/-- Whether some range of a list holds a character. -/
def inRanges (rs : List CodeRange) (c : Char) : Bool :=
  rs.any fun r => CodeRange.contains r c.toNat

end LalrBackend.Text
