import Mathlib.Data.Nat.Digits.Defs
import LalrBackend.Code.Token
import LalrBackend.Proofs.Text.Digits
import LalrBackend.Proofs.Text.Numerals
import LalrBackend.Reduction.Printer

/-!
# Tokens of numbers and names

What the reading of tokens makes of a decimal number and of the name of the method of a
production, wherever they stand between two tokens.
-/

namespace LalrBackend.Code

open Text Reduction

deriving instance DecidableEq for Token
deriving instance DecidableEq for Line

/-! ## Numbers -/

section Numbers

variable {c : Char} {cs : List Char} {n : Nat}

theorem exists_digitChar (h : c.isDigit = true) : ∃ d < 10, c = Nat.digitChar d := by
  have hrange : 48 ≤ c.toNat ∧ c.toNat ≤ 57 := by
    simpa [Char.isDigit, UInt32.le_iff_toNat_le] using h
  refine ⟨c.toNat - 48, by omega, ?_⟩
  have hc : c = Char.ofNat c.toNat := (Char.ofNat_toNat c).symm
  rw [hc]
  obtain ⟨hlow, hhigh⟩ := hrange
  generalize c.toNat = k at *
  interval_cases k <;> decide

theorem isDigit_of_mem_toDigits (h : c ∈ Nat.toDigits 10 n) : c.isDigit = true :=
  Nat.isDigit_of_mem_toDigits (by decide) (by decide) h

theorem isWordPart_of_isDigit (h : c.isDigit = true) : isWordPart c = true := by
  simp [isWordPart, Char.isAlphanum, h]

theorem takeDigits?_digits (hne : cs ≠ []) (hdigits : ∀ c ∈ cs, c.isDigit = true) :
    takeDigits? 10 cs = some (cs, []) := by
  induction cs with
  | nil => exact absurd rfl hne
  | cons c cs ih =>
      obtain ⟨d, hd, rfl⟩ := exists_digitChar (hdigits c List.mem_cons_self)
      have hunder : ∀ rest, cs = '_' :: rest → False := by
        rintro rest rfl
        exact absurd (hdigits '_' (by simp)) (by decide)
      rw [takeDigits?, digitIn?_digitChar (by decide) hd]
      · cases cs with
        | nil => simp [takeDigits?]
        | cons c' cs =>
            have hrest := ih nofun fun b hb => hdigits b (List.mem_cons_of_mem _ hb)
            simp only [hrest]
      · exact hunder

theorem foldl_digits (cs : List Char) (acc : Nat) :
    cs.foldl (fun n c => n * 10 + (c.toNat - '0'.toNat)) acc = Nat.ofDigitChars 10 cs acc := by
  induction cs generalizing acc with
  | nil => rfl
  | cons c cs ih =>
      rw [List.foldl_cons, ih, Nat.ofDigitChars_cons, Nat.mul_comm]

theorem decimalOf?_toDigits (hn : (Nat.toDigits 10 n).length ≤ mostDigits) :
    decimalOf? (Nat.toDigits 10 n) = some (some (.int n)) := by
  have hvalue : (Nat.toDigits 10 n).foldl (fun n c => n * 10 + (c.toNat - '0'.toNat)) 0 = n := by
    rw [foldl_digits, Nat.ofDigitChars_ten_toDigits]
  have hzero : ¬ ((Nat.toDigits 10 n).head? = some '0' ∧ n ≠ 0) :=
    fun h => head_toDigits_ne_zero (Nat.pos_of_ne_zero h.2) h.1
  simp only [decimalOf?, hvalue, if_neg hzero]
  rw [if_neg (by omega)]

/-- A decimal number is read as the integer that it spells. -/
theorem takeNumber?_toDigits (hn : (Nat.toDigits 10 n).length ≤ mostDigits) :
    takeNumber? (Nat.toDigits 10 n) = some (some (.int n), []) := by
  have hdecimal : takeDecimal? (Nat.toDigits 10 n) = some (some (.int n), []) := by
    have hwhole : takeDecimals? (Nat.toDigits 10 n) = some (Nat.toDigits 10 n, []) := by
      have hhead : ((Nat.toDigits 10 n).head?.map Char.isDigit).getD false = true := by
        cases hdigits : Nat.toDigits 10 n with
        | nil => exact absurd hdigits Nat.toDigits_ne_nil
        | cons c cs => exact isDigit_of_mem_toDigits (n := n) (by rw [hdigits]; simp)
      rw [takeDecimals?, if_pos hhead,
        takeDigits?_digits Nat.toDigits_ne_nil fun c hc => isDigit_of_mem_toDigits hc]
    rw [takeDecimal?, hwhole]
    simp [takeFraction?, takeExponent?, decimalOf?_toDigits hn]
  -- What begins with zero and goes on would not be the number in base ten.
  rw [← hdecimal]
  unfold takeNumber?
  split
  · rename_i mark rest hdigits
    by_cases hpos : 0 < n
    · exact absurd (by rw [hdigits]; rfl) (head_toDigits_ne_zero hpos)
    · obtain rfl : n = 0 := by omega
      cases hdigits
  · rfl

end Numbers

/-! ## Runs of characters -/

section Runs

variable {n : Nat} {c : Char} {cs rest : List Char}

theorem beginsNumber_cons (hpoint : c ≠ '.') : beginsNumber (c :: cs) = c.isDigit := by
  unfold beginsNumber
  split
  · rename_i heq
    exact absurd (List.cons.inj heq).1 hpoint
  · rename_i heq
    rw [(List.cons.inj heq).1]
  · rename_i heq
    cases heq

/-- The number of a run of digits. -/
theorem runTokens_toDigits (fuel : Nat) (hn : (Nat.toDigits 10 n).length ≤ mostDigits) :
    runTokens (fuel + 2) (Nat.toDigits 10 n) = [.constant (.int n)] := by
  have hnumber := takeNumber?_toDigits hn
  cases hdigits : Nat.toDigits 10 n with
  | nil => exact absurd hdigits Nat.toDigits_ne_nil
  | cons c cs =>
      have hc : c.isDigit = true := isDigit_of_mem_toDigits (n := n) (by rw [hdigits]; simp)
      have hpoint : c ≠ '.' := by
        rintro rfl
        cases hc
      have hbegins : beginsNumber (c :: cs) = true := (beginsNumber_cons hpoint).trans hc
      rw [hdigits] at hnumber
      unfold runTokens
      rw [if_pos hbegins, hnumber]
      rfl

/-- A word that does not begin with a digit, up to what belongs to no word. -/
theorem runTokens_word (fuel : Nat) (hfirst : c.isDigit = false)
    (hword : ∀ d ∈ c :: cs, isWordPart d = true) (hrest : ∀ d ∈ rest.head?, isWordPart d = false) :
    runTokens (fuel + 1) (c :: cs ++ rest) = wordToken (c :: cs) :: runTokens fuel rest := by
  have hpoint : c ≠ '.' := by
    rintro rfl
    exact absurd (hword '.' (by simp)) (by decide)
  have hbegins : beginsNumber (c :: cs ++ rest) = false :=
    (beginsNumber_cons hpoint).trans hfirst
  have htake : (c :: cs ++ rest).takeWhile isWordPart = c :: cs := by
    rw [List.takeWhile_append_of_pos hword]
    cases rest with
    | nil => simp
    | cons d ds => simp [hrest d rfl]
  have hdrop : (c :: cs ++ rest).drop (c :: cs).length = rest := List.drop_left
  rw [List.cons_append] at hbegins htake hdrop ⊢
  conv_lhs => unfold runTokens
  rw [if_neg (by rw [hbegins]; nofun), if_neg hpoint]
  simp only [htake, hdrop]

/-- A point before a word. -/
theorem runTokens_point (fuel : Nat) (hdigit : c.isDigit = false) (hpoint : c ≠ '.') :
    runTokens (fuel + 1) ('.' :: c :: cs) = .mark "." :: runTokens fuel (c :: cs) := by
  have hbegins : beginsNumber ('.' :: c :: cs) = false := hdigit
  have hrest : ∀ rest, c :: cs = '.' :: '.' :: rest → False := by
    rintro rest heq
    cases heq
    exact hpoint rfl
  rw [runTokens]
  · rw [if_neg (by rw [hbegins]; nofun), if_pos rfl]
  · exact hrest

end Runs

/-! ## Names of methods -/

section Names

variable {n : Nat}

/-- The characters of the name of the method of a production. -/
def methodChars (n : Nat) : List Char :=
  ['C', 'U', 'P', '_', 'a', 'c', 't', '_'] ++ Nat.toDigits 10 n

theorem methodName_natCast (n : Nat) : methodName n = String.ofList (methodChars n) := by
  have hdecimal : decimal (n : Int) = String.ofList (Nat.toDigits 10 n) := rfl
  have hmark : internal "act_" = String.ofList ['C', 'U', 'P', '_', 'a', 'c', 't', '_'] := by
    decide
  rw [methodName, hdecimal, methodChars, String.ofList_append, ← hmark, internal, internal,
    String.append_assoc]

theorem methodChars_word {c : Char} (h : c ∈ methodChars n) :
    isWordPart c = true ∧ continuesIdentifier c = true ∧ c.toNat < 128 := by
  have hdigit : ∀ d < 10, isWordPart (Nat.digitChar d) = true ∧
      continuesIdentifier (Nat.digitChar d) = true ∧ (Nat.digitChar d).toNat < 128 := by
    decide +kernel
  have hletter : ∀ c ∈ ['C', 'U', 'P', '_', 'a', 'c', 't', '_'],
      isWordPart c = true ∧ continuesIdentifier c = true ∧ c.toNat < 128 := by
    simp only [List.forall_mem_cons, List.not_mem_nil, false_imp_iff, implies_true]
    decide +kernel
  rcases List.mem_append.mp h with h | h
  · exact hletter c h
  · obtain ⟨d, hd, rfl⟩ := exists_digitChar (isDigit_of_mem_toDigits h)
    exact hdigit d hd

/-- The name of the method of a production is a name, and is written only so. -/
theorem wordToken_methodChars (n : Nat) : wordToken (methodChars n) = .name (methodName n) := by
  have hreserved : String.ofList (methodChars n) ∉ Identifier.reservedWords := by
    intro h
    have hfirst : ∀ w ∈ Identifier.reservedWords, w.toList.head? ≠ some 'C' := by decide
    exact hfirst _ h (by simp [methodChars])
  have hidentifier : isIdentifier (methodChars n) = true := by
    have hbegins : beginsIdentifier 'C' = true := by decide +kernel
    rw [methodChars, List.cons_append, isIdentifier, hbegins, Bool.true_and, List.all_eq_true]
    intro c hc
    exact (methodChars_word (List.mem_cons_of_mem _ hc)).2.1
  have hform : compatibilityForm (methodChars n) = methodChars n := by
    rw [compatibilityForm, if_pos]
    rw [List.all_eq_true]
    exact fun c hc => decide_eq_true (methodChars_word hc).2.2
  rw [wordToken, if_neg hreserved, if_pos hidentifier, nameOf, String.toList_ofList, hform,
    methodName_natCast]

/-- The characters of the method of a production as an attribute. -/
def accessChars (n : Nat) : List Char :=
  ['s', 'e', 'l', 'f', '.'] ++ methodChars n

theorem runTokens_accessChars (fuel n : Nat) :
    runTokens (fuel + 4) (accessChars n) =
      [.name "self", .mark ".", .name (methodName n)] := by
  have hself : wordToken ['s', 'e', 'l', 'f'] = .name "self" := by decide +kernel
  have hobject : runTokens (fuel + 4) (['s', 'e', 'l', 'f'] ++ '.' :: methodChars n) =
      wordToken ['s', 'e', 'l', 'f'] :: runTokens (fuel + 3) ('.' :: methodChars n) :=
    runTokens_word (fuel + 3) (by decide) (List.all_eq_true.mp (by decide))
      (by rintro d ⟨⟩; decide)
  have hpoint : runTokens (fuel + 3) ('.' :: methodChars n) =
      .mark "." :: runTokens (fuel + 2) (methodChars n) :=
    runTokens_point (fuel + 2) (by decide) (by decide)
  have hmethod : runTokens (fuel + 2) (methodChars n) = [.name (methodName n)] := by
    have hword : runTokens (fuel + 2) (methodChars n ++ []) =
        wordToken (methodChars n) :: runTokens (fuel + 1) [] :=
      runTokens_word (fuel + 1) (by decide) (fun d hd => (methodChars_word hd).1) nofun
    rw [List.append_nil, wordToken_methodChars] at hword
    exact hword
  rw [hself, hpoint, hmethod] at hobject
  exact hobject

end Names

/-! ## Reading between brackets -/

namespace Lexer

variable {l : Lexer} {c : Char} {cs : List Char} {backwards : List Char} {s : String} {n : Nat}

/-- A lexer that has read some more tokens and stands behind the last one. -/
def pushAll (l : Lexer) (ts : List Token) : Lexer :=
  { l with tokens := ts.reverse ++ l.tokens, mode := .between }

theorem foldl_blanks (hmode : l.mode = .between) (count : Nat) :
    (List.replicate count ' ').foldl Lexer.step l = l := by
  have hblank : l.step ' ' = l := by
    obtain ⟨lines, tokens, column, narrowColumn, fixed, opened, mode⟩ := l
    cases hmode
    rfl
  induction count with
  | zero => rfl
  | succ count ih => rw [List.replicate_succ, List.foldl_cons, hblank, ih]

theorem step_first (hmode : l.mode = .between) (hword : isWordPart c = true) :
    l.step c = { l with mode := .run [c] } := by
  have hne : ∀ d, isWordPart d = false → c ≠ d := by
    rintro d hd rfl
    rw [hd] at hword
    cases hword
  rw [step, hmode]
  simp only [between, hne '\n' (by decide), hne ' ' (by decide), hne '\t' (by decide),
    hne (Char.ofNat 12) (by decide), hne '#' (by decide), hne '\\' (by decide),
    hne '"' (by decide), hne '\'' (by decide), hword, or_self, true_or, if_true, if_false]

theorem foldl_run (hmode : l.mode = .run backwards)
    (hrun : ∀ c ∈ cs, isWordPart c = true ∨ c = '.') :
    cs.foldl Lexer.step l = { l with mode := .run (cs.reverse ++ backwards) } := by
  induction cs generalizing l backwards with
  | nil =>
      obtain ⟨lines, tokens, column, narrowColumn, fixed, opened, mode⟩ := l
      cases hmode
      rfl
  | cons c cs ih =>
      have hc : isWordPart c = true ∨ c = '.' ∨ ((c = '+' ∨ c = '-') ∧ takesSign backwards) :=
        (hrun c List.mem_cons_self).imp_right Or.inl
      have hstep : l.step c = { l with mode := .run (c :: backwards) } := by
        rw [step, hmode]
        simp only [if_pos hc]
      rw [List.foldl_cons, hstep, ih rfl fun d hd => hrun d (List.mem_cons_of_mem c hd)]
      simp

/-- What ends a run of characters. -/
theorem step_afterRun (hmode : l.mode = .run backwards) (hword : isWordPart c = false)
    (hc : c ∉ ['.', '+', '-', '"', '\'']) : l.step c = (l.pushRun backwards).between c := by
  simp only [List.mem_cons, List.not_mem_nil, or_false, not_or] at hc
  rw [step, hmode]
  simp only [hword, hc, false_and, or_self, if_false, Bool.false_eq_true]

/-- What ends a mark. -/
theorem step_afterMark (hmode : l.mode = .mark s) (hs : goesOn (s.push c) = false) :
    l.step c = (l.push (.mark s)).between c := by
  rw [step, hmode]
  simp only [hs, Bool.false_eq_true, if_false]

end Lexer

/-- The characters of an entry of a table that takes numbers to methods. -/
def entryChars (n : Nat) : List Char :=
  List.replicate 12 ' ' ++ Nat.toDigits 10 n ++ [':', ' '] ++ accessChars n ++ [',', '\n']

/-- The tokens of such an entry. -/
def entryTokens (n : Nat) : List Token :=
  [.constant (.int n), .mark ":", .name "self", .mark ".", .name (methodName n), .mark ","]

namespace Lexer

variable {l : Lexer} {n : Nat}

/-- A run of characters after a token, up to a mark. -/
theorem foldl_word {d : Char} {word : List Char} (hmode : l.mode = .between) (hne : word ≠ [])
    (hfirst : ∀ c ∈ word.head?, isWordPart c = true)
    (hword : ∀ c ∈ word, isWordPart c = true ∨ c = '.') (hd : isWordPart d = false)
    (hother : d ∉ ['.', '+', '-', '"', '\'']) :
    (word ++ [d]).foldl Lexer.step l =
      (l.pushAll (runTokens (word.length + 1) word)).between d := by
  cases word with
  | nil => exact absurd rfl hne
  | cons c cs =>
      rw [List.cons_append, List.foldl_cons, step_first hmode (hfirst c rfl), List.foldl_append,
        foldl_run rfl fun b hb => hword b (List.mem_cons_of_mem c hb), List.foldl_cons,
        List.foldl_nil, step_afterRun rfl hd hother]
      simp [pushRun, pushAll]

/-- An entry of the table, up to the end of its line. -/
theorem foldl_entryChars (hmode : l.mode = .between) (hopened : l.opened.isEmpty = false)
    (hn : (Nat.toDigits 10 n).length ≤ Text.mostDigits) :
    (entryChars n).foldl Lexer.step l = l.pushAll (entryTokens n) := by
  have hdigit : ∀ c ∈ Nat.toDigits 10 n, isWordPart c = true :=
    fun c hc => isWordPart_of_isDigit (isDigit_of_mem_toDigits hc)
  have hkey : (Nat.toDigits 10 n ++ [':']).foldl Lexer.step l =
      { l.pushAll [.constant (.int n)] with mode := .mark ":" } := by
    obtain ⟨fuel, hfuel⟩ : ∃ fuel, (Nat.toDigits 10 n).length + 1 = fuel + 2 := by
      have hpos := List.length_pos_iff.mpr (Nat.toDigits_ne_nil (n := n) (b := 10))
      exact ⟨(Nat.toDigits 10 n).length - 1, by omega⟩
    rw [foldl_word hmode Nat.toDigits_ne_nil (fun c hc => hdigit c (List.mem_of_mem_head? hc))
      (fun c hc => Or.inl (hdigit c hc)) (by decide) (by decide), hfuel,
      runTokens_toDigits fuel hn]
    rfl
  have haccess : ∀ l : Lexer, l.mode = .between → (accessChars n ++ [',']).foldl Lexer.step l =
      { l.pushAll [.name "self", .mark ".", .name (methodName n)] with mode := .mark "," } := by
    intro l hmode
    have hfuel : (accessChars n).length + 1 = ((Nat.toDigits 10 n).length + 10) + 4 := by
      simp [accessChars, methodChars]
    have hself : ∀ c ∈ ['s', 'e', 'l', 'f', '.'], isWordPart c = true ∨ c = '.' := by
      simp only [List.forall_mem_cons, List.not_mem_nil, false_imp_iff, implies_true]
      decide
    have hword : ∀ c ∈ accessChars n, isWordPart c = true ∨ c = '.' := by
      intro c hc
      rcases List.mem_append.mp hc with hc | hc
      · exact hself c hc
      · exact Or.inl (methodChars_word hc).1
    rw [foldl_word hmode (by simp [accessChars]) (by rintro c ⟨⟩; decide) hword (by decide)
      (by decide), hfuel, runTokens_accessChars]
    rfl
  have hblank : ∀ ts, Lexer.step { l.pushAll ts with mode := .mark ":" } ' ' =
      l.pushAll (ts ++ [.mark ":"]) := by
    intro ts
    rw [step_afterMark rfl (by decide)]
    simp [push, between, pushAll]
  have hend : ∀ ts, Lexer.step { l.pushAll ts with mode := .mark "," } '\n' =
      l.pushAll (ts ++ [.mark ","]) := by
    intro ts
    rw [step_afterMark rfl (by decide)]
    simp [push, between, pushAll, hopened]
  have hall : ∀ ts ts', (l.pushAll ts).pushAll ts' = l.pushAll (ts ++ ts') := by
    intro ts ts'
    simp [pushAll]
  have hsplit : entryChars n = List.replicate 12 ' ' ++ ((Nat.toDigits 10 n ++ [':']) ++
      ' ' :: ((accessChars n ++ [',']) ++ ['\n'])) := by
    simp [entryChars]
  rw [hsplit, List.foldl_append, foldl_blanks hmode, List.foldl_append, hkey, List.foldl_cons,
    hblank, List.foldl_append, haccess _ rfl, hall, List.foldl_cons, hend]
  rfl

end Lexer

end LalrBackend.Code
