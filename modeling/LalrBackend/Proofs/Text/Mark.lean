import LalrBackend.Text.Numeral
import LalrBackend.Text.Quoted
import Mathlib.Tactic.Common

/-!
# Marks in a text

A mark is a word that a text holds at some places or is free of. Texts that are free of a mark stay
so when they are joined at a character that is not in it, and when they are quoted. In a text with
a mark between parts that are free of it, the mark occurs only there.
-/

namespace LalrBackend.Text

/-- A mark occurs nowhere in a text. -/
def FreeOf (mark text : List Char) : Prop :=
  ¬ mark <:+: text

/-- Whatever stands behind an occurrence of a mark in a text has a property. -/
def Behind (mark : List Char) (P : List Char → Prop) (text : List Char) : Prop :=
  ∀ before after, text = before ++ (mark ++ after) → P after

section Joined

variable {mark a b before after rest cs : List Char} {c : Char} {P : List Char → Prop}

theorem freeOf_of_not_mem (hc : c ∈ mark) (h : c ∉ a) : FreeOf mark a :=
  fun hmark => h (hmark.subset hc)

/-- A mark in two joined texts is in one of them or lies across the joint. -/
theorem infix_append_cases (h : mark <:+: a ++ b) : mark <:+: a ∨ mark <:+: b ∨
    ∃ x y, mark = x ++ y ∧ x ≠ [] ∧ y ≠ [] ∧ x <:+ a ∧ y <+: b := by
  obtain ⟨before, after, h⟩ := h
  rw [List.append_assoc] at h
  rcases List.append_eq_append_iff.mp h with ⟨x, rfl, hx⟩ | ⟨x, rfl, hx⟩
  · rcases List.append_eq_append_iff.mp hx with ⟨y, rfl, hy⟩ | ⟨y, rfl, hy⟩
    · exact .inl ⟨before, y, by rw [List.append_assoc]⟩
    · by_cases hxnil : x = []
      · subst hxnil
        exact .inr (.inl ⟨[], after, by simpa using hy.symm⟩)
      · by_cases hynil : y = []
        · subst hynil
          exact .inl ⟨before, [], by simp⟩
        · exact .inr (.inr ⟨x, y, rfl, hxnil, hynil, ⟨before, rfl⟩, ⟨after, hy.symm⟩⟩)
  · exact .inr (.inl ⟨x, after, by rw [List.append_assoc]; exact hx.symm⟩)

/-- Texts are joined safely if the second one begins with a character that is not in the mark. -/
theorem FreeOf.append_of_head (ha : FreeOf mark a) (hb : FreeOf mark b)
    (hjoint : ∀ c ∈ b.head?, c ∉ mark) : FreeOf mark (a ++ b) := by
  intro h
  rcases infix_append_cases h with h | h | ⟨x, y, rfl, -, hy, -, hprefix⟩
  · exact ha h
  · exact hb h
  · obtain ⟨d, ds, rfl⟩ := List.exists_cons_of_ne_nil hy
    obtain ⟨rest, rfl⟩ := hprefix
    exact hjoint d rfl (by simp)

/-- Texts are joined safely if the first one ends with a character that is not in the mark. -/
theorem FreeOf.append_of_last (ha : FreeOf mark a) (hb : FreeOf mark b)
    (hjoint : ∀ c ∈ a.getLast?, c ∉ mark) : FreeOf mark (a ++ b) := by
  intro h
  rcases infix_append_cases h with h | h | ⟨x, y, rfl, hx, -, hsuffix, -⟩
  · exact ha h
  · exact hb h
  · obtain ⟨rest, rfl⟩ := hsuffix
    have hlast : (rest ++ x).getLast? = some (x.getLast hx) := by
      rw [List.getLast?_append, List.getLast?_eq_some_getLast hx, Option.some_or]
    exact hjoint _ hlast (List.mem_append_left y (List.getLast_mem hx))

theorem behind_of_free (h : FreeOf mark a) : Behind mark P a :=
  fun before after heq => absurd ⟨before, after, by rw [heq, List.append_assoc]⟩ h

/-- A mark whose first character does not come again cannot begin within an occurrence of it. -/
theorem append_mark_cases {x : List Char} (hc : c ∉ cs)
    (h : c :: cs ++ rest = x ++ (c :: cs ++ after)) :
    x = [] ∧ rest = after ∨ ∃ y, x = c :: cs ++ y ∧ rest = y ++ (c :: cs ++ after) := by
  cases x with
  | nil => exact .inl ⟨rfl, List.append_cancel_left h⟩
  | cons d x =>
      obtain ⟨rfl, htail⟩ := List.cons.inj h
      rcases List.append_eq_append_iff.mp htail with ⟨y, rfl, hy⟩ | ⟨y, rfl, hy⟩
      · exact .inr ⟨y, rfl, hy⟩
      · cases y with
        | nil => exact .inr ⟨[], by simp, by simpa using hy.symm⟩
        | cons d y =>
            obtain ⟨rfl, -⟩ := List.cons.inj hy
            exact absurd (by simp) hc

/-- Behind a part that is free of a mark the next occurrence is the one that stands there. -/
theorem Behind.append (hc : c ∉ cs) (ha : FreeOf (c :: cs) a) (hrest : P rest)
    (h : Behind (c :: cs) P rest) : Behind (c :: cs) P (a ++ (c :: cs ++ rest)) := by
  intro before after heq
  rcases List.append_eq_append_iff.mp heq with ⟨x, rfl, hx⟩ | ⟨x, rfl, hx⟩
  · rcases append_mark_cases hc hx with ⟨-, rfl⟩ | ⟨y, -, hy⟩
    · exact hrest
    · exact h y after hy
  · rcases append_mark_cases hc hx with ⟨-, rfl⟩ | ⟨y, rfl, -⟩
    · exact hrest
    · exact absurd ⟨before, y, by simp⟩ ha

end Joined

/-! ## Quoted text -/

/-- The characters that escapes are made of. -/
def escapeChars : List Char :=
  ['\\', '\'', '"', 'n', 'r', 't', 'x', 'u', 'U', '0', '1', '2', '3', '4', '5', '6', '7', '8', '9',
    'a', 'b', 'c', 'd', 'e', 'f']

theorem exists_digit_of_mem {base n : Nat} {c : Char} (hbase : 1 < base)
    (h : c ∈ Nat.toDigits base n) : ∃ k < base, c = Nat.digitChar k := by
  induction n using Nat.strongRecOn with
  | ind n ih =>
      by_cases hlt : n < base
      · rw [Nat.toDigits_of_lt_base hlt] at h
        exact ⟨n, hlt, List.mem_singleton.mp h⟩
      · rw [Nat.toDigits_of_base_le hbase (Nat.le_of_not_lt hlt)] at h
        rcases List.mem_append.mp h with h | h
        · exact ih (n / base) (Nat.div_lt_self (by omega) hbase) h
        · exact ⟨n % base, Nat.mod_lt _ (by omega), List.mem_singleton.mp h⟩

theorem mem_hexPoint {width point : Nat} {c : Char} (h : c ∈ hexPoint width point) :
    c ∈ escapeChars := by
  have hdigits : ∀ k < 16, Nat.digitChar k ∈ escapeChars := by decide
  rcases List.mem_append.mp h with h | h
  · obtain rfl := List.eq_of_mem_replicate h
    decide
  · obtain ⟨k, hk, rfl⟩ := exists_digit_of_mem (by decide) h
    exact hdigits k hk

/-- An escape is a backslash and characters that escapes are made of. -/
def IsEscape (cs : List Char) : Prop :=
  cs.head? = some '\\' ∧ ∀ c ∈ cs, c ∈ escapeChars

theorem isEscape_pointEscape (point : Nat) : IsEscape (pointEscape point) := by
  have hescape : ∀ letter width, letter ∈ escapeChars →
      IsEscape ('\\' :: letter :: hexPoint width point) := by
    intro letter width hletter
    refine ⟨rfl, ?_⟩
    rw [List.forall_mem_cons, List.forall_mem_cons]
    exact ⟨by decide, hletter, fun c => mem_hexPoint⟩
  unfold pointEscape
  split
  · exact hescape 'x' 2 (by decide)
  · split
    · exact hescape 'u' 4 (by decide)
    · exact hescape 'U' 8 (by decide)

/-- A quoted code point is a printed character or an escape. -/
theorem quotedPoint_cases {mark : Char} (hmark : mark ∈ escapeChars) (point : Nat) :
    (quotedPoint mark point = [Char.ofNat point] ∧ isPrintable (Char.ofNat point)) ∨
      IsEscape (quotedPoint mark point) := by
  have hletter : ∀ c ∈ escapeChars, IsEscape ['\\', c] := by
    intro c hc
    exact ⟨rfl, by simpa using ⟨by decide, hc⟩⟩
  unfold quotedPoint
  split
  · exact .inr (isEscape_pointEscape point)
  · unfold quotedChar
    split
    · next h =>
        rcases h with h | h
        · rw [h]
          exact .inr (hletter _ hmark)
        · rw [h]
          exact .inr (hletter _ (by decide))
    · split
      · exact .inr (hletter 'n' (by decide))
      · split
        · exact .inr (hletter 'r' (by decide))
        · split
          · exact .inr (hletter 't' (by decide))
          · split
            · next h => exact .inl ⟨rfl, h⟩
            · exact .inr (isEscape_pointEscape _)

/-- The characters that the marks of generated code are made of. -/
def markChars : List Char :=
  ['A', 'B', 'C', 'D', 'E', 'F', 'G', 'H', 'I', 'J', 'K', 'L', 'M', 'N', 'O', 'P', 'Q', 'R', 'S',
    'T', 'U', 'V', 'W', 'X', 'Y', 'Z', '_']

section Quoted

variable {word cs text : List Char} {points : CodePoints} {mark c : Char}

theorem mark_mem_escapeChars (hmark : mark = '\'' ∨ mark = '"') : mark ∈ escapeChars := by
  rcases hmark with rfl | rfl <;> decide

theorem ne_quote_of_markChar (hmark : mark = '\'' ∨ mark = '"') (hc : c ∈ markChars) :
    c ≠ mark := by
  rcases hmark with rfl | rfl <;> exact ne_of_mem_of_not_mem hc (by decide)

/-- A capital letter is the character of its own code point only. -/
theorem toNat_of_markChar {point : Nat} (hc : c ∈ markChars) (h : Char.ofNat point = c) :
    point = c.toNat := by
  subst h
  by_cases hvalid : point.isValidChar
  · have hchar : Char.ofNat point = Char.ofNatAux point hvalid := dif_pos hvalid
    rw [hchar]
    rfl
  · have hzero : Char.ofNat point = '\x00' := dif_neg hvalid
    rw [hzero] at hc
    exact absurd hc (by decide)

/-- A capital word at the front of quoted code points is there unquoted. -/
theorem prefix_of_prefix_quoted (hmark : mark = '\'' ∨ mark = '"')
    (hword : word ⊆ markChars)
    (h : word <+: points.flatMap (quotedPoint mark) ++ [mark]) :
    word.map Char.toNat <+: points := by
  induction word generalizing points with
  | nil => exact List.nil_prefix
  | cons c word ih =>
      obtain ⟨hc, hrest⟩ := List.cons_subset.mp hword
      cases points with
      | nil =>
          obtain ⟨heq, -⟩ := List.cons_prefix_cons.mp h
          exact absurd heq (ne_quote_of_markChar hmark hc)
      | cons point points =>
          rw [List.flatMap_cons, List.append_assoc] at h
          rcases quotedPoint_cases (mark_mem_escapeChars hmark) point with
            ⟨hpoint, -⟩ | ⟨hhead, -⟩
          · rw [hpoint] at h
            obtain ⟨rfl, hprefix⟩ := List.cons_prefix_cons.mp h
            rw [List.map_cons, ← toNat_of_markChar hc rfl]
            exact List.cons_prefix_cons.mpr ⟨rfl, ih hrest hprefix⟩
          · obtain ⟨tail, htail⟩ : ∃ tail, quotedPoint mark point = '\\' :: tail :=
              List.head?_eq_some_iff.mp hhead
            rw [htail] at h
            obtain ⟨rfl, -⟩ := List.cons_prefix_cons.mp h
            exact absurd hc (by decide)

/-- A word is not found to begin among characters that its first one is not among. -/
theorem infix_of_infix_append {segment rest : List Char} (hc : c ∉ segment)
    (h : c :: cs <:+: segment ++ rest) : c :: cs <:+: rest := by
  induction segment with
  | nil => exact h
  | cons d segment ih =>
      rcases List.infix_cons_iff.mp h with h | h
      · obtain ⟨rfl, -⟩ := List.cons_prefix_cons.mp h
        exact absurd List.mem_cons_self hc
      · exact ih (fun hmem => hc (List.mem_cons_of_mem d hmem)) h

/-- A capital word that no escape begins with is found among quoted code points only where it is
unquoted. -/
theorem infix_of_infix_quoted (hmark : mark = '\'' ∨ mark = '"') (hfirst : c ∉ escapeChars)
    (hword : c :: cs ⊆ markChars)
    (h : c :: cs <:+: points.flatMap (quotedPoint mark) ++ [mark]) :
    (c :: cs).map Char.toNat <:+: points := by
  induction points with
  | nil =>
      have hmem : c ∈ [mark] := h.subset List.mem_cons_self
      exact absurd (List.mem_singleton.mp hmem)
        (ne_quote_of_markChar hmark (hword List.mem_cons_self))
  | cons point points ih =>
      rcases quotedPoint_cases (mark_mem_escapeChars hmark) point with ⟨hpoint, -⟩ | ⟨-, hescape⟩
      · have hcons := h
        rw [List.flatMap_cons, hpoint] at hcons
        rcases List.infix_cons_iff.mp hcons with hprefix | hinfix
        · refine (prefix_of_prefix_quoted hmark hword ?_).isInfix
          rwa [List.flatMap_cons, hpoint]
        · exact List.infix_cons (ih hinfix)
      · rw [List.flatMap_cons, List.append_assoc] at h
        exact List.infix_cons (ih (infix_of_infix_append (fun hc => hfirst (hescape c hc)) h))

/-- The first point of a text is its first character, or no letter at all. -/
theorem pointsOfChars_head (c : Char) (text : List Char) :
    ∃ point rest, pointsOfChars (c :: text) = point :: pointsOfChars rest ∧ rest <:+ text ∧
      (point = c.toNat ∧ rest = text ∨ 0xd800 ≤ point) := by
  have hmark : 0xd800 ≤ surrogateMark.toNat := by decide
  cases text with
  | nil => exact ⟨c.toNat, [], rfl, List.suffix_rfl, .inl ⟨rfl, rfl⟩⟩
  | cons d text =>
      rw [pointsOfChars]
      split
      · next hc =>
          split
          · exact ⟨_, text, rfl, List.suffix_cons d text, .inr hmark⟩
          · split
            · next hsurrogate =>
                refine ⟨_, text, rfl, List.suffix_cons d text, .inr ?_⟩
                simp only [isSurrogate, Bool.and_eq_true, decide_eq_true_eq] at hsurrogate
                exact hsurrogate.1
            · exact ⟨_, d :: text, rfl, List.suffix_rfl, .inr hmark⟩
      · exact ⟨_, d :: text, rfl, List.suffix_rfl, .inl ⟨rfl, rfl⟩⟩

theorem prefix_of_prefix_points (hword : word ⊆ markChars)
    (h : word.map Char.toNat <+: pointsOfChars text) : word <+: text := by
  have hsmall : ∀ d ∈ markChars, d.toNat < 0xd800 := by simp [markChars]
  induction word generalizing text with
  | nil => exact List.nil_prefix
  | cons c word ih =>
      obtain ⟨hc, hrest⟩ := List.cons_subset.mp hword
      cases text with
      | nil => cases List.prefix_nil.mp h
      | cons d text =>
          obtain ⟨point, rest, hpoints, -, hpoint⟩ := pointsOfChars_head d text
          rw [hpoints, List.map_cons] at h
          obtain ⟨rfl, hprefix⟩ := List.cons_prefix_cons.mp h
          rcases hpoint with ⟨heq, rfl⟩ | hlarge
          · obtain rfl := Char.toNat_inj.mp heq
            exact List.cons_prefix_cons.mpr ⟨rfl, ih hrest hprefix⟩
          · exact absurd (hsmall c hc) (Nat.not_lt_of_le hlarge)

theorem infix_of_infix_points (hword : word ⊆ markChars)
    (h : word.map Char.toNat <:+: pointsOfChars text) : word <:+: text := by
  induction hlength : text.length using Nat.strongRecOn generalizing text with
  | ind n ih =>
      cases text with
      | nil =>
          obtain rfl := List.map_eq_nil_iff.mp (List.infix_nil.mp h)
          exact List.infix_rfl
      | cons d text =>
          obtain ⟨point, rest, hpoints, hsuffix, -⟩ := pointsOfChars_head d text
          have hcons := h
          rw [hpoints] at hcons
          rcases List.infix_cons_iff.mp hcons with hprefix | hinfix
          · rw [← hpoints] at hprefix
            exact (prefix_of_prefix_points hword hprefix).isInfix
          · have hlt : rest.length < n := by
              rw [← hlength, List.length_cons]
              exact Nat.lt_succ_of_le hsuffix.length_le
            exact (ih _ hlt hinfix rfl).trans
              (hsuffix.isInfix.trans (List.infix_cons List.infix_rfl))

/-- A text that is free of a capital word is free of it when it is quoted. -/
theorem FreeOf.quotedChars (hfirst : c ∉ escapeChars) (hword : c :: cs ⊆ markChars)
    (h : FreeOf (c :: cs) text) : FreeOf (c :: cs) (quotedChars text) := by
  have hmark : quoteMark text = '\'' ∨ quoteMark text = '"' := by
    unfold quoteMark
    split
    · exact .inr rfl
    · exact .inl rfl
  have hc : c ∈ markChars := hword List.mem_cons_self
  intro hinfix
  rw [Text.quotedChars, List.cons_append] at hinfix
  rcases List.infix_cons_iff.mp hinfix with hprefix | hrest
  · obtain ⟨heq, -⟩ := List.cons_prefix_cons.mp hprefix
    exact ne_quote_of_markChar hmark hc heq
  · exact h (infix_of_infix_points hword (infix_of_infix_quoted hmark hfirst hword hrest))

end Quoted

end LalrBackend.Text
