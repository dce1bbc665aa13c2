import LalrBackend.Proofs.Packed.Lines

/-!
# The lines that the reader accepts

A literal line is a text between quotes, made of escapes of three octal or four hexadecimal
digits. The reader accepts all such lines and reads them as they are meant. It accepts more:
what it takes for the digits of an escape is read as a numeral, which may be signed, parted,
padded or marked, and the escape that a line ends in may be short of digits. It refuses any
other line, and a line that ends in a lone backslash it does not even refuse properly.
-/

namespace LalrBackend.Packed

open Text Failure

/-! ## The grammar of lines -/

/-- An escape as a line has it: whether it has the wide form, and what stands for its digits. -/
structure Escape where
  isWide : Bool
  digits : List Char

namespace Escape

def base (e : Escape) : Nat :=
  if e.isWide then 16 else 8

/-- How many digits an escape has. -/
def width (e : Escape) : Nat :=
  if e.isWide then 4 else 3

def text (e : Escape) : List Char :=
  if e.isWide then '\\' :: 'u' :: e.digits else '\\' :: e.digits

/-- All the digits of the escape are there, and they are digits. -/
structure IsComplete (e : Escape) : Prop where
  length : e.digits.length = e.width
  digit : ∀ c ∈ e.digits, (digitIn? e.base c).isSome

/-- The unit that the digits of an escape spell. -/
def value (e : Escape) : Int :=
  (spellFrom e.base 0 (e.digits.filterMap (digitIn? e.base)) : Nat)

end Escape

/-- The text of escapes. -/
def escapedText (escapes : List Escape) : List Char :=
  escapes.flatMap Escape.text

/-- How escapes are read: each has a numeral for its digits, as wide as it should be, where the
last one may be less wide. -/
inductive AreRead : List Escape → List Int → Prop
  | nil : AreRead [] []
  | cons {e : Escape} {es : List Escape} {n : Int} {ns : List Int}
      (hle : e.digits.length ≤ e.width) (hfull : es ≠ [] → e.digits.length = e.width)
      (hnumeral : IsNumeral e.base e.digits n) (h : AreRead es ns) : AreRead (e :: es) (n :: ns)

/-- A line has a body between two quotes: without the mark that joins lines, or else without the
one that closes them, only blanks stand around the quotes. -/
def HasBody (line : String) (body : List Char) : Prop :=
  ∃ bare, (line.toList = bare ++ [' ', '+'] ∨ ¬ [' ', '+'] <:+ line.toList ∧
      (line.toList = bare ++ [')'] ∨ ¬ [')'] <:+ line.toList ∧ line.toList = bare)) ∧
    ∃ left right, bare = left ++ '"' :: (body ++ '"' :: right) ∧
      (∀ c ∈ left, isBlank c = true) ∧ ∀ c ∈ right, isBlank c = true

/-- The escapes that a line consists of, as they are read. -/
def HasEscapes (line : String) (escapes : List Escape) (units : List Int) : Prop :=
  HasBody line (escapedText escapes) ∧ AreRead escapes units

/-- A line that is read as the given units. -/
def IsReadLine (line : String) (units : List Int) : Prop :=
  ∃ escapes, HasEscapes line escapes units

/-- A line of complete escapes, which stand for the given units. -/
def IsPackedLine (line : String) (units : List Int) : Prop :=
  ∃ escapes, HasBody line (escapedText escapes) ∧ (∀ e ∈ escapes, e.IsComplete) ∧
    escapes.map Escape.value = units

/-- A line whose body ends in a backslash behind escapes that are read in full. -/
def EndsInBackslash (line : String) : Prop :=
  ∃ escapes, HasBody line (escapedText escapes ++ ['\\']) ∧
    ∀ e ∈ escapes, e.digits.length = e.width ∧ ∃ n, IsNumeral e.base e.digits n

/-! ## Complete escapes -/

section Complete

variable {e : Escape} {es : List Escape}

theorem Escape.IsComplete.isNumeral (h : e.IsComplete) :
    IsNumeral e.base e.digits e.value := by
  apply isNumeral_digits _ h.digit
  have hlength := h.length
  rintro hnil
  rw [hnil, Escape.width] at hlength
  split at hlength <;> cases hlength

theorem Escape.IsComplete.value_mem (h : e.IsComplete) : 0 ≤ e.value ∧ e.value ≤ 0xffff := by
  have hdigits : ∀ d ∈ e.digits.filterMap (digitIn? e.base), d < e.base := by
    intro d hd
    obtain ⟨c, _, hc⟩ := List.mem_filterMap.mp hd
    exact lt_of_digitIn? hc
  have hbase : 0 < e.base := by
    rw [Escape.base]
    split <;> decide
  have hcount : (e.digits.filterMap (digitIn? e.base)).length ≤ e.width :=
    h.length ▸ List.length_filterMap_le _ _
  have hbound : spellFrom e.base 0 (e.digits.filterMap (digitIn? e.base)) < 0x10000 :=
    calc spellFrom e.base 0 (e.digits.filterMap (digitIn? e.base))
      _ < (0 + 1) * e.base ^ (e.digits.filterMap (digitIn? e.base)).length :=
        spellFrom_lt hdigits
      _ ≤ e.base ^ e.width := by
        rw [Nat.zero_add, Nat.one_mul]
        exact Nat.pow_le_pow_right hbase hcount
      _ ≤ 0x10000 := by
        rw [Escape.base, Escape.width]
        split <;> decide
  rw [Escape.value]
  omega

theorem areRead_complete (h : ∀ e ∈ es, e.IsComplete) : AreRead es (es.map Escape.value) := by
  induction es with
  | nil => exact .nil
  | cons e es ih =>
      obtain ⟨he, hes⟩ := List.forall_mem_cons.mp h
      exact .cons he.length.le (fun _ => he.length) he.isNumeral (ih hes)

end Complete

/-! ## Taking escapes off a text -/

section Taking

variable {e e' : Escape} {es es' : List Escape} {rest rest' : List Char} {n : Int}
  {ns ns' : List Int} {line : String}

/-- An escape is what the reader takes off a text that goes on with `rest`: the mark of the wide
form tells the forms apart, and the digits stop short of the width only where the text ends. -/
structure Escape.Precedes (e : Escape) (rest : List Char) : Prop where
  mark : e.isWide = false → ∃ d ∈ e.digits.head?, d ≠ 'u'
  le : e.digits.length ≤ e.width
  full : rest ≠ [] → e.digits.length = e.width

theorem Escape.Precedes.take (h : e.Precedes rest) :
    (e.digits ++ rest).take e.width = e.digits := by
  by_cases hrest : rest = []
  · rw [hrest, List.append_nil, List.take_of_length_le h.le]
  · rw [← h.full hrest, List.take_left]

theorem Escape.Precedes.drop (h : e.Precedes rest) :
    (e.digits ++ rest).drop e.width = rest := by
  by_cases hrest : rest = []
  · rw [hrest, List.append_nil, List.drop_of_length_le h.le]
  · rw [← h.full hrest, List.drop_left]

/-- The digits of an octal escape do not begin with the mark of the wide form. -/
theorem precedes_of_isNumeral (hnumeral : IsNumeral e.base e.digits n)
    (hle : e.digits.length ≤ e.width) (hfull : rest ≠ [] → e.digits.length = e.width) :
    e.Precedes rest := by
  refine ⟨fun hwide => ?_, hle, hfull⟩
  have hbase : e.base = 8 := by rw [Escape.base, hwide]; rfl
  rw [hbase] at hnumeral
  obtain ⟨c, hc, hfirst⟩ := hnumeral.first
  cases hdigits : e.digits with
  | nil =>
      rw [hdigits] at hc
      cases hc
  | cons d ds =>
      refine ⟨d, rfl, ?_⟩
      rintro rfl
      rw [hdigits] at hc
      obtain rfl : 'u' = c := Option.some.inj hc
      exact absurd hfirst (by decide)

/-- Behind a backslash that is not the end of a text there is an escape. -/
theorem exists_escape (d : Char) (more : List Char) :
    ∃ e rest, '\\' :: d :: more = Escape.text e ++ rest ∧ e.Precedes rest := by
  have hcut : ∀ (digits : List Char) (width : Nat), (digits.take width).length ≤ width ∧
      (digits.drop width ≠ [] → (digits.take width).length = width) := by
    intro digits width
    refine ⟨List.length_take_le _ _, fun hrest => ?_⟩
    rw [ne_eq, List.drop_eq_nil_iff] at hrest
    rw [List.length_take]
    omega
  by_cases hmark : d = 'u'
  · subst hmark
    refine ⟨⟨true, more.take 4⟩, more.drop 4, ?_, fun h => ?_, (hcut more 4).1,
      (hcut more 4).2⟩
    · simp [Escape.text]
    · cases h
  · refine ⟨⟨false, (d :: more).take 3⟩, (d :: more).drop 3, ?_, fun _ => ⟨d, rfl, hmark⟩,
      (hcut (d :: more) 3).1, (hcut (d :: more) 3).2⟩
    simp [Escape.text]

/-- A text is empty, or a backslash alone, or begins with what is no backslash, or begins with an
escape. -/
@[elab_as_elim]
theorem escapeInduction {motive : List Char → Prop} (nil : motive []) (lone : motive ['\\'])
    (other : ∀ c cs, c ≠ '\\' → motive (c :: cs))
    (escape : ∀ e rest, Escape.Precedes e rest → motive rest → motive (e.text ++ rest))
    (cs : List Char) : motive cs := by
  induction hsize : cs.length using Nat.strong_induction_on generalizing cs with
  | _ size ih =>
      cases cs with
      | nil => exact nil
      | cons c cs =>
          by_cases hc : c = '\\'
          · subst hc
            cases cs with
            | nil => exact lone
            | cons d more =>
                obtain ⟨e, rest, heq, hprecedes⟩ := exists_escape d more
                rw [heq] at hsize ⊢
                have hshort : rest.length < size := by
                  rw [← hsize, List.length_append, Escape.text]
                  split <;> simp
                exact escape e rest hprecedes (ih rest.length hshort rest rfl)
          · exact other c cs hc

/-- An escape can be taken off a text in one way only. -/
theorem Escape.Precedes.unique (h : e.Precedes rest) (h' : e'.Precedes rest')
    (heq : e.text ++ rest = e'.text ++ rest') : e = e' ∧ rest = rest' := by
  -- Escapes of one form are cut at the same place.
  have hdigits : e.isWide = e'.isWide → e = e' ∧ rest = rest' := by
    intro hwide
    have hjoined : e.digits ++ rest = e'.digits ++ rest' := by
      rw [Escape.text, Escape.text, hwide] at heq
      split at heq <;> simpa using heq
    have hwidth : e.width = e'.width := by rw [Escape.width, Escape.width, hwide]
    have hsame : e.digits = e'.digits := by
      rw [← h.take, ← h'.take, hjoined, hwidth]
    refine ⟨?_, by rw [← h.drop, ← h'.drop, hjoined, hwidth]⟩
    cases e
    cases e'
    cases hwide
    cases hsame
    rfl
  -- Behind the backslash only the wide form has its mark.
  have hmark : ∀ {e e' : Escape} {rest rest' : List Char}, e.Precedes rest →
      e.isWide = false → e'.isWide = true → e.text ++ rest ≠ e'.text ++ rest' := by
    intro e e' rest rest' h hnarrow hwide heq
    obtain ⟨d, hd, hne⟩ := h.mark hnarrow
    obtain ⟨ds, hds⟩ := List.head?_eq_some_iff.mp hd
    rw [Escape.text, Escape.text, hnarrow, hwide, hds] at heq
    exact hne (by simpa using (List.cons.inj (List.cons.inj heq).2).1)
  cases hwide : e.isWide <;> cases hwide' : e'.isWide
  · exact hdigits (hwide.trans hwide'.symm)
  · exact absurd heq (hmark h hwide hwide')
  · exact absurd heq.symm (hmark h' hwide' hwide)
  · exact hdigits (hwide.trans hwide'.symm)

theorem escapedText_cons (e : Escape) (es : List Escape) :
    escapedText (e :: es) = e.text ++ escapedText es :=
  rfl

theorem escapedText_ne_nil : escapedText es ≠ [] ↔ es ≠ [] := by
  cases es with
  | nil => simp [escapedText]
  | cons e es =>
      rw [escapedText_cons, Escape.text]
      split <;> simp

/-- A text is that of one list of escapes at most. -/
theorem AreRead.unique (h : AreRead es ns) (h' : AreRead es' ns')
    (heq : escapedText es = escapedText es') : es = es' := by
  induction h generalizing es' ns' with
  | nil =>
      by_contra hne
      exact escapedText_ne_nil.mpr (Ne.symm hne) heq.symm
  | @cons e es n ns hle hfull hnumeral h ih =>
      cases h' with
      | nil => exact absurd heq (escapedText_ne_nil.mpr (List.cons_ne_nil e es))
      | @cons e' es' n' ns' hle' hfull' hnumeral' h' =>
          have hprecedes : e.Precedes (escapedText es) :=
            precedes_of_isNumeral hnumeral hle (fun hne => hfull (escapedText_ne_nil.mp hne))
          have hprecedes' : e'.Precedes (escapedText es') :=
            precedes_of_isNumeral hnumeral' hle' (fun hne => hfull' (escapedText_ne_nil.mp hne))
          obtain ⟨rfl, hrest⟩ := hprecedes.unique hprecedes' heq
          rw [ih h' hrest]

end Taking

/-! ## Reading escapes -/

section Reading

variable {e : Escape} {base : Nat} {digits rest cs : List Char} {n : Int} {units : List Int}
  {line : String}

theorem readUnit_eq_ok_iff : readUnit base digits = .ok n ↔ IsNumeral base digits n := by
  rw [← readInt?_eq_some_iff, readUnit]
  cases readInt? base digits <;> simp

theorem readUnit_error {error : LiteralError} (h : readUnit base digits = .error error) :
    error = .badNumeral := by
  unfold readUnit at h
  split at h
  · cases h
  · exact (Except.error.inj h).symm

theorem readEscapes_nil : readEscapes line [] = .ok [] := by
  rw [readEscapes]

theorem readEscapes_lone : readEscapes line ['\\'] = .error .unfinishedEscape := by
  rw [readEscapes]
  simp

theorem readEscapes_other {c : Char} (hc : c ≠ '\\') (cs : List Char) :
    ∃ point, readEscapes line (c :: cs) = .error (.unexpected point line) := by
  rw [readEscapes.eq_def]
  exact ⟨_, if_pos hc⟩

/-- The reader reads the numeral of an escape and goes on behind it. -/
theorem readEscapes_text (h : e.Precedes rest) :
    readEscapes line (e.text ++ rest) = (do
      let unit ← readUnit e.base e.digits
      return unit :: (← readEscapes line rest)) := by
  have htake := h.take
  have hdrop := h.drop
  have hmark := h.mark
  obtain ⟨isWide, digits⟩ := e
  cases isWide with
  | true =>
      change (digits ++ rest).take 4 = digits at htake
      change (digits ++ rest).drop 4 = rest at hdrop
      change readEscapes line ('\\' :: 'u' :: (digits ++ rest)) = _
      rw [readEscapes_hex, htake, hdrop]
      rfl
  | false =>
      obtain ⟨d, hd, hne⟩ := hmark rfl
      obtain ⟨ds, rfl⟩ := List.head?_eq_some_iff.mp hd
      change d :: (ds ++ rest).take 2 = d :: ds at htake
      change (ds ++ rest).drop 2 = rest at hdrop
      change readEscapes line ('\\' :: d :: (ds ++ rest)) = _
      rw [readEscapes_octal hne, htake, hdrop]
      rfl

/-- A text is read exactly if it is that of escapes that are read. -/
theorem readEscapes_eq_ok_iff : readEscapes line cs = .ok units ↔
    ∃ es, cs = escapedText es ∧ AreRead es units := by
  constructor
  · intro h
    induction cs using escapeInduction generalizing units with
    | nil =>
        rw [readEscapes_nil] at h
        cases h
        exact ⟨[], rfl, .nil⟩
    | lone =>
        rw [readEscapes_lone] at h
        cases h
    | other c cs hc =>
        obtain ⟨point, herror⟩ := readEscapes_other hc cs
        rw [herror] at h
        cases h
    | escape e rest hprecedes ih =>
        rw [readEscapes_text hprecedes] at h
        obtain ⟨n, hn, h⟩ := bind_eq_ok.mp h
        obtain ⟨ns, hns, h⟩ := bind_eq_ok.mp h
        cases h
        obtain ⟨es, rfl, hes⟩ := ih hns
        exact ⟨e :: es, rfl, .cons hprecedes.le
          (fun hne => hprecedes.full (escapedText_ne_nil.mpr hne)) (readUnit_eq_ok_iff.mp hn) hes⟩
  · rintro ⟨es, rfl, h⟩
    induction h with
    | nil => exact readEscapes_nil
    | cons hle hfull hnumeral _ ih =>
        have hprecedes := precedes_of_isNumeral hnumeral hle
          (fun hne => hfull (escapedText_ne_nil.mp hne))
        rw [escapedText_cons, readEscapes_text hprecedes, readUnit_eq_ok_iff.mpr hnumeral, ih]
        rfl

theorem AreRead.units_unique {es : List Escape} {units' : List Int} (h : AreRead es units)
    (h' : AreRead es units') : units = units' :=
  Except.ok.inj <| (readEscapes_eq_ok_iff.mpr ⟨es, rfl, h⟩).symm.trans
    (readEscapes_eq_ok_iff.mpr ⟨es, rfl, h'⟩ : readEscapes "" _ = .ok units')

/-- The reader runs out of a text exactly if it ends in a backslash behind full escapes. -/
theorem readEscapes_eq_unfinished_iff : readEscapes line cs = .error .unfinishedEscape ↔
    ∃ es, cs = escapedText es ++ ['\\'] ∧
      ∀ e ∈ es, e.digits.length = e.width ∧ ∃ n, IsNumeral e.base e.digits n := by
  constructor
  · intro h
    induction cs using escapeInduction with
    | nil =>
        rw [readEscapes_nil] at h
        cases h
    | lone => exact ⟨[], rfl, by simp⟩
    | other c cs hc =>
        obtain ⟨point, herror⟩ := readEscapes_other hc cs
        rw [herror] at h
        cases h
    | escape e rest hprecedes ih =>
        rw [readEscapes_text hprecedes] at h
        cases hunit : readUnit e.base e.digits with
        -- Digits that are no numeral are an error of another kind.
        | error error =>
            rw [hunit, readUnit_error hunit] at h
            cases h
        | ok n =>
            have hrest : readEscapes line rest = .error .unfinishedEscape := by
              rw [hunit, ok_bind] at h
              cases hread : readEscapes line rest with
              | error error => rwa [hread] at h
              | ok ns =>
                  rw [hread] at h
                  cases h
            obtain ⟨es, rfl, hes⟩ := ih hrest
            refine ⟨e :: es, by rw [escapedText_cons, List.append_assoc],
              List.forall_mem_cons.mpr ⟨⟨hprecedes.full (by simp), n, ?_⟩, hes⟩⟩
            exact readUnit_eq_ok_iff.mp hunit
  · rintro ⟨es, rfl, h⟩
    induction es with
    | nil => exact readEscapes_lone
    | cons e es ih =>
        obtain ⟨⟨hlength, n, hnumeral⟩, hes⟩ := List.forall_mem_cons.mp h
        have hprecedes : e.Precedes (escapedText es ++ ['\\']) :=
          precedes_of_isNumeral hnumeral hlength.le (fun _ => hlength)
        rw [escapedText_cons, List.append_assoc, readEscapes_text hprecedes,
          readUnit_eq_ok_iff.mpr hnumeral, ih hes]
        rfl

end Reading

/-! ## Reading lines -/

section Lines

variable {line : String} {lines : List String} {body body' : List Char} {units : List Int}
  {groups : List (List Int)}

theorem hasBody_iff : HasBody line body ↔ unquote? (dropEndMark line.toList) = some body := by
  rw [unquote?_eq_some_iff]
  constructor
  · rintro ⟨bare, hbare, hquoted⟩
    rw [dropEndMark_eq_iff.mpr hbare]
    exact hquoted
  · exact fun h => ⟨_, dropEndMark_eq_iff.mp rfl, h⟩

theorem HasBody.unique (h : HasBody line body) (h' : HasBody line body') : body = body' :=
  Option.some.inj ((hasBody_iff.mp h).symm.trans (hasBody_iff.mp h'))

/-- A line is read through its body, and refused if it has none. -/
theorem readLine_eq_iff {answer : Except LiteralError (List Int)}
    (hanswer : ∀ bare, answer ≠ .error (.notALine bare)) : readLine line = answer ↔
      ∃ body, HasBody line body ∧
        readEscapes (String.ofList (dropEndMark line.toList)) body = answer := by
  simp only [hasBody_iff, readLine]
  cases unquote? (dropEndMark line.toList) with
  | none => simpa using Ne.symm (hanswer _)
  | some body => simp

theorem readLine_eq_ok_iff : readLine line = .ok units ↔ IsReadLine line units := by
  rw [readLine_eq_iff (by simp)]
  simp only [readEscapes_eq_ok_iff]
  constructor
  · rintro ⟨_, hbody, es, rfl, hes⟩
    exact ⟨es, hbody, hes⟩
  · rintro ⟨es, hbody, hes⟩
    exact ⟨escapedText es, hbody, es, rfl, hes⟩

theorem readLine_eq_unfinished_iff :
    readLine line = .error .unfinishedEscape ↔ EndsInBackslash line := by
  rw [readLine_eq_iff (by simp)]
  simp only [readEscapes_eq_unfinished_iff]
  constructor
  · rintro ⟨_, hbody, es, rfl, hes⟩
    exact ⟨es, hbody, hes⟩
  · rintro ⟨es, hbody, hes⟩
    exact ⟨escapedText es ++ ['\\'], hbody, es, rfl, hes⟩

theorem readLines_eq_ok_iff : readLines lines = .ok units ↔
    ∃ groups, List.Forall₂ IsReadLine lines groups ∧ groups.flatten = units := by
  induction lines generalizing units with
  | nil => simp [readLines, eq_comm]
  | cons line lines ih =>
      rw [readLines]
      constructor
      · intro h
        obtain ⟨group, hgroup, h⟩ := bind_eq_ok.mp h
        obtain ⟨rest, hrest, h⟩ := bind_eq_ok.mp h
        cases h
        obtain ⟨groups, hgroups, rfl⟩ := ih.mp hrest
        exact ⟨group :: groups, .cons (readLine_eq_ok_iff.mp hgroup) hgroups, rfl⟩
      · rintro ⟨_, hgroups, rfl⟩
        cases hgroups with
        | @cons _ group _ groups hgroup hgroups =>
            rw [readLine_eq_ok_iff.mpr hgroup, ok_bind, ih.mpr ⟨groups, hgroups, rfl⟩]
            rfl

/-- The first line that is not read decides what the lines fail with. -/
theorem readLines_eq_error_iff {error : LiteralError} : readLines lines = .error error ↔
    ∃ before line after groups, lines = before ++ line :: after ∧
      List.Forall₂ IsReadLine before groups ∧ readLine line = .error error := by
  constructor
  · intro h
    induction lines with
    | nil => cases h
    | cons line lines ih =>
        rw [readLines] at h
        cases hline : readLine line with
        | error error' =>
            rw [hline] at h
            cases h
            exact ⟨[], line, lines, [], rfl, .nil, hline⟩
        | ok group =>
            rw [hline, ok_bind] at h
            cases hrest : readLines lines with
            | ok units =>
                rw [hrest] at h
                cases h
            | error error' =>
                rw [hrest] at h
                cases h
                obtain ⟨before, last, after, groups, rfl, hbefore, hlast⟩ := ih hrest
                exact ⟨line :: before, last, after, group :: groups, rfl,
                  .cons (readLine_eq_ok_iff.mp hline) hbefore, hlast⟩
  · rintro ⟨before, line, after, groups, rfl, hbefore, hline⟩
    induction hbefore with
    | nil =>
        rw [List.nil_append, readLines, hline]
        rfl
    | cons hgroup _ ih =>
        rw [List.cons_append, readLines, readLine_eq_ok_iff.mpr hgroup, ok_bind, ih]
        rfl

theorem IsPackedLine.isReadLine (h : IsPackedLine line units) : IsReadLine line units := by
  obtain ⟨es, hbody, hcomplete, rfl⟩ := h
  exact ⟨es, hbody, areRead_complete hcomplete⟩

theorem IsPackedLine.value_mem (h : IsPackedLine line units) :
    ∀ u ∈ units, 0 ≤ u ∧ u ≤ 0xffff := by
  obtain ⟨es, _, hcomplete, rfl⟩ := h
  intro u hu
  obtain ⟨e, he, rfl⟩ := List.mem_map.mp hu
  exact (hcomplete e he).value_mem

theorem value_mem_of_packed (h : List.Forall₂ IsPackedLine lines groups) :
    ∀ u ∈ groups.flatten, 0 ≤ u ∧ u ≤ 0xffff := by
  induction h with
  | nil => simp
  | cons hline _ ih => exact List.forall_mem_append.mpr ⟨hline.value_mem, ih⟩

/-- A line that is read has one list of escapes, so it is a line of complete ones if these are. -/
theorem isPackedLine_iff {escapes : List Escape} (h : HasEscapes line escapes units) :
    IsPackedLine line units ↔ ∀ e ∈ escapes, e.IsComplete := by
  obtain ⟨hbody, hread⟩ := h
  constructor
  · rintro ⟨es, hes, hcomplete, -⟩
    rwa [hread.unique (areRead_complete hcomplete) (hbody.unique hes)]
  · intro hcomplete
    exact ⟨escapes, hbody, hcomplete, (areRead_complete hcomplete).units_unique hread⟩

end Lines

/-- **What the reader makes of lines**: it reads exactly those whose escapes it can read, and
fails improperly exactly at a line that ends in a lone backslash, if it gets there. It reads lines
of complete escapes as they are meant, and the other lines that it reads are those with an
escape that is not complete. -/
theorem readLines_accepts (lines : List String) :
    (∀ units, readLines lines = .ok units ↔
      ∃ groups, List.Forall₂ IsReadLine lines groups ∧ groups.flatten = units) ∧
    (readLines lines = .error .unfinishedEscape ↔
      ∃ before line after groups, lines = before ++ line :: after ∧
        List.Forall₂ IsReadLine before groups ∧ EndsInBackslash line) ∧
    (∀ groups, List.Forall₂ IsPackedLine lines groups →
      readLines lines = .ok groups.flatten ∧ ∀ u ∈ groups.flatten, 0 ≤ u ∧ u ≤ 0xffff) ∧
    ∀ line ∈ lines, ∀ escapes units, HasEscapes line escapes units →
      (IsPackedLine line units ↔ ∀ e ∈ escapes, e.IsComplete) := by
  refine ⟨fun units => readLines_eq_ok_iff, ?_, fun groups h => ⟨?_, value_mem_of_packed h⟩,
    fun line _ escapes units => isPackedLine_iff⟩
  · simp only [readLines_eq_error_iff, readLine_eq_unfinished_iff]
  · exact readLines_eq_ok_iff.mpr ⟨groups, h.imp fun _ _ => IsPackedLine.isReadLine, rfl⟩

/-- A line with an escape of either form, which another line is to follow. -/
theorem readLines_accepts_bothForms :
    let line := String.ofList
      ['"', '\\', '1', '0', '1', '\\', 'u', '0', '0', 'e', '9', '"', ' ', '+']
    IsPackedLine line [0x41, 0xe9] ∧ readLines [line] = .ok [0x41, 0xe9] := by
  intro line
  have hline : IsPackedLine line [0x41, 0xe9] := by
    refine ⟨[⟨false, ['1', '0', '1']⟩, ⟨true, ['0', '0', 'e', '9']⟩], hasBody_iff.mpr ?_, ?_, rfl⟩
    · rw [String.toList_ofList]
      rfl
    · simp only [List.forall_mem_cons]
      exact ⟨⟨rfl, List.all_eq_true.mp (by decide)⟩, ⟨rfl, List.all_eq_true.mp (by decide)⟩,
        List.forall_mem_nil _⟩
  obtain ⟨-, -, hpacked, -⟩ := readLines_accepts [line]
  exact ⟨hline, (hpacked [[0x41, 0xe9]] (.cons hline .nil)).1⟩

/-- A line with nothing but a backslash makes the reader fail improperly, and a line with one
octal digit is read although its escape is not complete. -/
theorem readLines_short_escapes :
    readLines [String.ofList ['"', '\\', '"', ')']] = .error .unfinishedEscape ∧
    readLines [String.ofList ['"', '\\', '7', '"', ')']] = .ok [7] ∧
    ¬ ∃ units, IsPackedLine (String.ofList ['"', '\\', '7', '"', ')']) units := by
  let short : Escape := ⟨false, ['7']⟩
  have hbody : HasBody (String.ofList ['"', '\\', '7', '"', ')']) (escapedText [short]) :=
    hasBody_iff.mpr (by rw [String.toList_ofList]; rfl)
  have hread : AreRead [short] [7] :=
    .cons (by decide) (by simp) (readInt?_eq_some_iff.mp (by decide)) .nil
  refine ⟨readLines_eq_error_iff.mpr ⟨[], _, [], [], rfl, .nil,
      readLine_eq_unfinished_iff.mpr ⟨[], hasBody_iff.mpr ?_, by simp⟩⟩,
    readLines_eq_ok_iff.mpr ⟨[[7]], .cons ⟨[short], hbody, hread⟩ .nil, rfl⟩, ?_⟩
  · rw [String.toList_ofList]
    rfl
  · rintro ⟨units, es, hes, hcomplete, -⟩
    obtain rfl := hread.unique (areRead_complete hcomplete) (hbody.unique hes)
    exact absurd (hcomplete short List.mem_cons_self).length (by decide)

end LalrBackend.Packed
