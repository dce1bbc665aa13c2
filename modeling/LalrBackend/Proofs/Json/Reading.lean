import LalrBackend.Json.Reader
import LalrBackend.Proofs.Failure
import LalrBackend.Proofs.Json.Writing

/-!
# Reading what was written

Objects whose members are lists of integers are read back from their text as they were.
A number ends where a mark follows it, a list and an object end with their bracket, so
each part is read from the front of whatever follows.
-/

namespace LalrBackend.JsonValue

open Text Failure

/-! ## Numbers -/

/-- What may follow a number in a list: a comma or the bracket that closes the list. -/
def EndsItem (rest : List Char) : Prop :=
  ∃ c cs, rest = c :: cs ∧ (c = ',' ∨ c = ']')

variable {rest : List Char} {mostDigits : Nat}

theorem EndsItem.takeWhile {digits : List Char} (h : EndsItem rest)
    (hdigits : ∀ c ∈ digits, c.isDigit = true) :
    (digits ++ rest).takeWhile Char.isDigit = digits ∧
      (digits ++ rest).dropWhile Char.isDigit = rest := by
  obtain ⟨c, cs, rfl, hc⟩ := h
  have hstop : c.isDigit = false := by
    rcases hc with rfl | rfl <;> rfl
  rw [List.takeWhile_append_of_pos hdigits, List.dropWhile_append_of_pos hdigits]
  simp [hstop]

theorem EndsItem.not_isFractional (h : EndsItem rest) : isFractional rest = false := by
  obtain ⟨c, cs, rfl, hc⟩ := h
  rcases hc with rfl | rfl <;> cases cs <;> rfl

theorem ofDigits_toDigits (n : Nat) : ofDigits (Nat.toDigits 10 n) = n := by
  have h := Nat.ofDigitChars_ten_toDigits (n := n)
  rw [Nat.ofDigitChars_eq_foldl] at h
  rw [ofDigits]
  simpa only [Nat.mul_comm] using h

/-- The digits of a number, whatever may follow an item behind them. -/
theorem readNumber_toDigits (h : EndsItem rest) (negative : Bool) {n : Nat}
    (hshort : (Nat.toDigits 10 n).length ≤ mostDigits) :
    readNumber mostDigits negative (Nat.toDigits 10 n ++ rest) =
      .ok (.int (if negative then -(n : Int) else n), rest) := by
  have hdigits : ∀ c ∈ Nat.toDigits 10 n, c.isDigit = true := fun c hc =>
    Nat.isDigit_of_mem_toDigits (by decide) (by decide) hc
  obtain ⟨htake, hdrop⟩ := h.takeWhile hdigits
  unfold readNumber
  simp only [htake, hdrop]
  cases hn : Nat.toDigits 10 n with
  | nil => exact absurd hn Nat.toDigits_ne_nil
  | cons d ds =>
      have hlong : ¬ mostDigits < (d :: ds).length := by
        rw [← hn]
        exact Nat.not_lt.mpr hshort
      by_cases hzero : d = '0'
      · -- A leading zero is the whole number.
        have hn0 : n = 0 := by
          by_contra hne
          exact head_toDigits_ne_zero (Nat.pos_of_ne_zero hne) (by rw [hn, hzero]; rfl)
        subst hn0
        rw [Nat.toDigits_zero] at hn
        cases hn
        have hone : ¬ mostDigits < ['0'].length := hlong
        simp only [if_true, List.nil_append, h.not_isFractional, Bool.false_eq_true, if_false,
          if_neg hone]
        rfl
      · simp only [if_neg hzero, h.not_isFractional, Bool.false_eq_true, if_false,
          if_neg hlong]
        rw [← hn, ofDigits_toDigits]

theorem readWord?_digit {c : Char} (h : c.isDigit = true) (cs : List Char) :
    readWord? (c :: cs) = none ∧ readWord? ('-' :: c :: cs) = none := by
  have hn : c ≠ 'n' ∧ c ≠ 't' ∧ c ≠ 'f' ∧ c ≠ 'N' ∧ c ≠ 'I' ∧ c ≠ '-' := by
    refine ⟨?_, ?_, ?_, ?_, ?_, ?_⟩ <;>
      · rintro rfl
        cases h
  obtain ⟨hn, ht, hf, hN, hI, hminus⟩ := hn
  constructor
  · simp [readWord?, words, Ne.symm hn, Ne.symm ht, Ne.symm hf, Ne.symm hN, Ne.symm hI,
      Ne.symm hminus]
  · simp [readWord?, words, Ne.symm hI]

/-- A numeral is a scalar. -/
theorem readScalar_decimalChars (h : EndsItem rest) {n : Int}
    (hshort : (Nat.toDigits 10 n.natAbs).length ≤ mostDigits) :
    readScalar mostDigits (decimalChars n ++ rest) = .ok (.int n, rest) := by
  cases hn : Nat.toDigits 10 n.natAbs with
  | nil => exact absurd hn Nat.toDigits_ne_nil
  | cons d ds =>
      have hd : d.isDigit = true :=
        Nat.isDigit_of_mem_toDigits (by decide) (by decide) (hn ▸ List.mem_cons_self)
      have hminus : d ≠ '-' := by
        rintro rfl
        cases hd
      unfold decimalChars signText readScalar
      by_cases hneg : n < 0
      · have hvalue : -(n.natAbs : Int) = n := by omega
        have hnumber : readNumber mostDigits true (d :: ds ++ rest) = .ok (.int n, rest) := by
          rw [← hn, readNumber_toDigits h true hshort, if_pos rfl, hvalue]
        rw [if_pos hneg, hn, List.singleton_append, List.cons_append, List.cons_append,
          (readWord?_digit hd _).2]
        exact hnumber
      · have hvalue : (n.natAbs : Int) = n := by omega
        have hnumber : readNumber mostDigits false (d :: ds ++ rest) = .ok (.int n, rest) := by
          rw [← hn, readNumber_toDigits h false hshort, if_neg (by decide), hvalue]
        rw [if_neg hneg, hn, List.nil_append, List.cons_append, (readWord?_digit hd _).1]
        simpa [hminus] using hnumber

/-! ## Lists of integers -/

/-- A list of integers none of which is too long to be read. -/
def AreReadable (mostDigits : Nat) (ns : List Int) : Prop :=
  ∀ n ∈ ns, (Nat.toDigits 10 n.natAbs).length ≤ mostDigits

theorem skipBlanks_of_head {c : Char} (h : isJsonBlank c = false) (cs : List Char) :
    skipBlanks (c :: cs) = c :: cs := by
  rw [skipBlanks, List.dropWhile_cons, h]
  rfl

theorem skipBlanks_space {c : Char} (h : isJsonBlank c = false) (cs : List Char) :
    skipBlanks (' ' :: c :: cs) = c :: cs := by
  rw [skipBlanks, List.dropWhile_cons, if_pos (by rfl)]
  exact skipBlanks_of_head h cs

/-- A numeral begins with a sign or a digit, so it is neither a blank nor an opening mark. -/
theorem decimalChars_cons (n : Int) :
    ∃ c cs, decimalChars n = c :: cs ∧ isJsonBlank c = false ∧ c ≠ '"' ∧ c ≠ '[' ∧
      c ≠ '\x7b' ∧ c ≠ ']' := by
  cases hn : decimalChars n with
  | nil => exact absurd hn (decimalChars_ne_nil n)
  | cons c cs =>
      refine ⟨c, cs, rfl, ?_⟩
      rcases isDigit_of_mem_decimalChars (hn ▸ List.mem_cons_self : c ∈ decimalChars n)
        with rfl | hdigit
      · decide
      · refine ⟨?_, ?_, ?_, ?_, ?_⟩
        · by_contra hblank
          simp only [isJsonBlank, Bool.not_eq_false, Bool.or_eq_true, beq_iff_eq] at hblank
          rcases hblank with ((rfl | rfl) | rfl) | rfl <;> cases hdigit
        all_goals
          rintro rfl
          cases hdigit

theorem readValue_decimalChars (h : EndsItem rest) {n : Int}
    (hshort : (Nat.toDigits 10 n.natAbs).length ≤ mostDigits) (fuel room : Nat) :
    readValue mostDigits (fuel + 1) room (decimalChars n ++ rest) = .ok (.int n, rest) := by
  have hscalar := readScalar_decimalChars h hshort
  obtain ⟨c, cs, hn, _, hquote, hbracket, hbrace, _⟩ := decimalChars_cons n
  rw [hn, List.cons_append] at hscalar ⊢
  rw [readValue]
  · exact hscalar
  · intro _ heq
    exact hquote (List.cons.inj heq).1
  · intro _ heq
    exact hbracket (List.cons.inj heq).1
  · intro _ heq
    exact hbrace (List.cons.inj heq).1

/-- The items of a list up to the bracket that closes it. -/
theorem readItems_decimalChars {ns : List Int} (hne : ns ≠ [])
    (hns : AreReadable mostDigits ns) {fuel room : Nat} (hfuel : ns.length + 1 ≤ fuel)
    (rest : List Char) :
    readItems mostDigits fuel room
        (itemMark.intercalate (ns.map decimalChars) ++ ']' :: rest) =
      .ok (ns.map .int, rest) := by
  induction ns generalizing fuel with
  | nil => exact absurd rfl hne
  | cons n ns ih =>
      -- One step is for the list itself, one for the numeral.
      obtain ⟨fuel, rfl⟩ : ∃ k, fuel = k + 2 := ⟨fuel - 2, by simp at hfuel; omega⟩
      have hn := hns n List.mem_cons_self
      cases ns with
      | nil =>
          have hends : EndsItem (']' :: rest) := ⟨_, _, rfl, Or.inr rfl⟩
          rw [List.map_singleton, List.intercalate_singleton, readItems,
            readValue_decimalChars hends hn, ok_bind]
          rfl
      | cons n' ns =>
          have hlength : (n' :: ns).length + 1 ≤ fuel + 1 := by
            simp only [List.length_cons] at hfuel ⊢
            omega
          have hrest := ih (by simp) (fun k hk => hns k (List.mem_cons_of_mem _ hk)) hlength
          obtain ⟨c, cs, hcs, hblank, _⟩ := decimalChars_cons n'
          obtain ⟨tail, htail⟩ := intercalate_head hcs (ns.map decimalChars) (']' :: rest)
          have hends : EndsItem (',' :: ' ' :: c :: tail) := ⟨_, _, rfl, Or.inl rfl⟩
          rw [List.map_cons] at hrest
          rw [List.map_cons, List.map_cons, intercalate_split, htail, readItems,
            readValue_decimalChars hends hn, ok_bind]
          simp only [skipBlanks_of_head (c := ',') rfl, skipBlanks_space hblank]
          rw [← htail, hrest]
          rfl

/-- A list of integers. -/
theorem readValue_writeInts {ns : List Int} (hns : AreReadable mostDigits ns)
    {fuel room : Nat} (hfuel : ns.length + 2 ≤ fuel) (rest : List Char) :
    readValue mostDigits fuel (room + 1) (writeInts ns ++ rest) = .ok (.ofInts ns, rest) := by
  obtain ⟨fuel, rfl⟩ : ∃ k, fuel = k + 1 := ⟨fuel - 1, by omega⟩
  rw [writeInts, List.cons_append, List.cons_append, List.append_assoc, List.singleton_append,
    readValue]
  cases ns with
  | nil => simp [skipBlanks_of_head (c := ']') rfl, ofInts]
  | cons n ns =>
      have hlength : (n :: ns).length + 1 ≤ fuel := by omega
      have hitems : readItems mostDigits fuel room _ = .ok ((n :: ns).map .int, rest) :=
        readItems_decimalChars (by simp) hns hlength rest
      obtain ⟨c, cs, hcs, hblank, _, _, _, hclose⟩ := decimalChars_cons n
      obtain ⟨tail, htail⟩ := intercalate_head hcs (ns.map decimalChars) (']' :: rest)
      rw [List.map_cons, htail] at hitems ⊢
      simp only [skipBlanks_of_head hblank]
      split
      · rename_i heq
        exact absurd (List.cons.inj heq).1 hclose
      · rw [hitems]
        rfl

/-! ## Texts -/

/-- A text of plain code points, after its opening quote. -/
theorem readText?_plain (h : ∀ p ∈ points, IsPlainPoint p) {fuel : Nat}
    (hfuel : points.length + 1 ≤ fuel) (rest : List Char) :
    readText? fuel (points.flatMap writePoint ++ '"' :: rest) = some (points, rest) := by
  induction points generalizing fuel with
  | nil =>
      obtain ⟨fuel, rfl⟩ : ∃ k, fuel = k + 1 := ⟨fuel - 1, by omega⟩
      rfl
  | cons p ps ih =>
      obtain ⟨fuel, rfl⟩ : ∃ k, fuel = k + 1 := ⟨fuel - 1, by omega⟩
      have hp := h p List.mem_cons_self
      have hnat := toNat_ofNat_plain hp
      have hquote : Char.ofNat p ≠ '"' := by
        intro heq
        rw [heq] at hnat
        exact hp.2.2.1 hnat.symm
      have hbackslash : Char.ofNat p ≠ '\\' := by
        intro heq
        rw [heq] at hnat
        exact hp.2.2.2 hnat.symm
      have hcontrol : ¬ ((Char.ofNat p).toNat < 32 ∨ Char.ofNat p = '\\') := by
        rw [hnat]
        have hlow := hp.1
        rintro (h | h)
        · omega
        · exact hbackslash h
      have hlength : ps.length + 1 ≤ fuel := by
        simp only [List.length_cons] at hfuel
        omega
      rw [List.flatMap_cons, writePoint_plain hp, List.singleton_append, List.cons_append,
        readText?]
      · rw [if_neg hcontrol, ih (fun q hq => h q (List.mem_cons_of_mem _ hq)) hlength]
        simp [hnat]
      · intro heq
        exact hquote heq
      · intro _ heq
        exact absurd heq hbackslash
      · intro _ _ heq
        exact absurd heq hbackslash

/-! ## Objects of lists of integers -/

/-- One member of an object, whatever follows it. -/
theorem readMembers_memberChars {key : CodePoints} {ns : List Int}
    (hkey : ∀ p ∈ key, IsPlainPoint p) (hns : AreReadable mostDigits ns) {fuel room : Nat}
    (hfuel : ns.length + 2 ≤ fuel) (before : List (CodePoints × JsonValue))
    (follow : List Char) :
    readMembers mostDigits (fuel + 1) (room + 1) before (memberChars key ns ++ follow) =
      (match skipBlanks follow with
        | '\x7d' :: rest => .ok (setMember key (.ofInts ns) before, rest)
        | ',' :: rest => readMembers mostDigits fuel (room + 1)
            (setMember key (.ofInts ns) before) (skipBlanks rest)
        | _ => .error .malformed) := by
  have htext : ∀ rest : List Char,
      readText? ((key.flatMap writePoint ++ '"' :: rest).length + 1)
        (key.flatMap writePoint ++ '"' :: rest) = some (key, rest) := by
    intro rest
    apply readText?_plain hkey
    rw [flatMap_writePoint_plain hkey, List.length_append, List.length_map, List.length_cons]
    omega
  have hvalue : readValue mostDigits fuel (room + 1) (writeInts ns ++ follow) = _ :=
    readValue_writeInts hns hfuel follow
  have hsplit : memberChars key ns ++ follow =
      '"' :: (key.flatMap writePoint ++ '"' :: ':' :: ' ' :: (writeInts ns ++ follow)) := by
    simp [memberChars, writeText]
  have hopen : skipBlanks (' ' :: (writeInts ns ++ follow)) = writeInts ns ++ follow := by
    rw [writeInts, List.cons_append]
    exact skipBlanks_space rfl _
  rw [hsplit, readMembers, htext]
  simp only [due, ok_bind, skipBlanks_of_head (c := ':') rfl, hopen, hvalue]
  rfl

/-- The members of an object up to the brace that closes it, after those read before. -/
theorem readMembers_intercalate {members : List (CodePoints × List Int)} (hne : members ≠ [])
    (hkeys : ∀ m ∈ members, ∀ p ∈ m.1, IsPlainPoint p)
    (hvalues : ∀ m ∈ members, AreReadable mostDigits m.2) {fuel room : Nat}
    (hfuel : ∀ m ∈ members, members.length + m.2.length + 2 ≤ fuel)
    (before : List (CodePoints × JsonValue)) (rest : List Char) :
    readMembers mostDigits fuel (room + 1) before
        (itemMark.intercalate (members.map fun m => memberChars m.1 m.2) ++
          '\x7d' :: rest) =
      .ok (members.foldl (fun before m => setMember m.1 (.ofInts m.2) before) before, rest) := by
  induction members generalizing fuel before with
  | nil => exact absurd rfl hne
  | cons m ms ih =>
      obtain ⟨key, ns⟩ := m
      have hfirst := hfuel (key, ns) List.mem_cons_self
      obtain ⟨fuel, rfl⟩ : ∃ k, fuel = k + 1 := ⟨fuel - 1, by omega⟩
      have hlength : ns.length + 2 ≤ fuel := by
        simp only [List.length_cons] at hfirst
        omega
      have hone : ∀ follow, readMembers mostDigits (fuel + 1) (room + 1) before
          (memberChars key ns ++ follow) = _ :=
        readMembers_memberChars (hkeys (key, ns) List.mem_cons_self)
          (hvalues (key, ns) List.mem_cons_self) hlength before
      cases ms with
      | nil =>
          rw [List.map_singleton, List.intercalate_singleton, hone]
          rfl
      | cons m' ms =>
          obtain ⟨key', ns'⟩ := m'
          have hothers : ∀ k ∈ (key', ns') :: ms,
              ((key', ns') :: ms).length + k.2.length + 2 ≤ fuel := by
            intro k hk
            have hk := hfuel k (List.mem_cons_of_mem _ hk)
            simp only [List.length_cons] at hk ⊢
            omega
          have hrest := ih (by simp) (fun k hk => hkeys k (List.mem_cons_of_mem _ hk))
            (fun k hk => hvalues k (List.mem_cons_of_mem _ hk)) hothers
            (setMember key (.ofInts ns) before)
          obtain ⟨cs, hcs⟩ := memberChars_cons key' ns'
          obtain ⟨tail, htail⟩ := intercalate_head hcs
            (ms.map fun m => memberChars m.1 m.2) ('\x7d' :: rest)
          rw [List.map_cons] at hrest
          rw [List.map_cons, List.map_cons, intercalate_split, hone, htail]
          simp only [skipBlanks_of_head (c := ',') rfl, skipBlanks_space (c := '"') rfl]
          rw [← htail, hrest]
          rfl

theorem setMember_of_not_mem {key : CodePoints} (value : JsonValue)
    {members : List (CodePoints × JsonValue)} (h : ∀ m ∈ members, m.1 ≠ key) :
    setMember key value members = members ++ [(key, value)] := by
  induction members with
  | nil => rfl
  | cons m ms ih =>
      rw [setMember, if_neg (h m List.mem_cons_self),
        ih fun k hk => h k (List.mem_cons_of_mem _ hk)]
      rfl

/-- Members whose keys are all different are kept in their order. -/
theorem foldl_setMember {members : List (CodePoints × List Int)}
    {before : List (CodePoints × JsonValue)} (hkeys : (members.map Prod.fst).Nodup)
    (hbefore : ∀ b ∈ before, ∀ m ∈ members, b.1 ≠ m.1) :
    members.foldl (fun before m => setMember m.1 (.ofInts m.2) before) before =
      before ++ members.map fun m => (m.1, .ofInts m.2) := by
  induction members generalizing before with
  | nil => simp
  | cons m ms ih =>
      rw [List.map_cons, List.nodup_cons] at hkeys
      have hnext : ∀ b ∈ before ++ [(m.1, ofInts m.2)], ∀ k ∈ ms, b.1 ≠ k.1 := by
        intro b hb k hk
        rcases List.mem_append.mp hb with hb | hb
        · exact hbefore b hb k (List.mem_cons_of_mem _ hk)
        · rw [List.mem_singleton.mp hb]
          intro heq
          exact hkeys.1 (List.mem_map.mpr ⟨k, hk, heq.symm⟩)
      rw [List.foldl_cons,
        setMember_of_not_mem _ fun b hb => hbefore b hb m List.mem_cons_self,
        ih hkeys.2 hnext, List.append_assoc]
      rfl

/-! ## Whole texts -/

/-- Members with plain keys, all different, whose integers are not too long. -/
structure AreReadableMembers (mostDigits : Nat) (members : List (CodePoints × List Int)) :
    Prop where
  some_of : members ≠ []
  keys_nodup : (members.map Prod.fst).Nodup
  keys_plain : ∀ m ∈ members, ∀ p ∈ m.1, IsPlainPoint p
  values : ∀ m ∈ members, AreReadable mostDigits m.2

/-- **An object of lists of integers is read back from its characters.** -/
theorem readWhole_write {members : List (CodePoints × List Int)}
    (h : AreReadableMembers mostDigits members) (room : Nat) :
    readWhole (room + 2) mostDigits (ofMembers members).write = .ok (ofMembers members) := by
  have hfuel : ∀ m ∈ members, members.length + m.2.length + 2 ≤
      (ofMembers members).write.length := by
    intro m hm
    have hitem : memberChars m.1 m.2 ∈
        members.map fun m => memberChars m.1 m.2 := List.mem_map.mpr ⟨m, hm, rfl⟩
    have hpos : ∀ x ∈ members.map (fun m => memberChars m.1 m.2), 1 ≤ x.length := by
      intro x hx
      obtain ⟨k, _, rfl⟩ := List.mem_map.mp hx
      exact Nat.le_trans (Nat.succ_le_succ (Nat.zero_le _)) (length_le_memberChars k.1 k.2)
    have hlength := length_le_intercalate hitem hpos
    have hmember := length_le_memberChars m.1 m.2
    rw [List.length_map] at hlength
    rw [write_ofMembers, List.length_append, List.length_cons, List.length_singleton]
    omega
  -- The length of the text is fuel enough for its members.
  have hmembers : readMembers mostDigits _ (room + 1) [] _ = _ :=
    readMembers_intercalate h.some_of h.keys_plain h.values hfuel [] []
  rw [foldl_setMember h.keys_nodup (by simp)] at hmembers
  obtain ⟨tail, htail⟩ : ∃ tail, itemMark.intercalate
      (members.map fun m => memberChars m.1 m.2) ++ ['\x7d'] = '"' :: tail := by
    cases members with
    | nil => exact absurd rfl h.some_of
    | cons m ms =>
        obtain ⟨cs, hcs⟩ := memberChars_cons m.1 m.2
        exact intercalate_head hcs _ _
  have hwritten : (ofMembers members).write = '\x7b' :: '"' :: tail := by
    rw [write_ofMembers, List.cons_append, htail]
  rw [htail] at hmembers
  rw [hwritten] at hmembers ⊢
  have hvalue : readValue mostDigits (('\x7b' :: '"' :: tail).length + 1) (room + 2)
      ('\x7b' :: '"' :: tail) = .ok (ofMembers members, []) := by
    rw [readValue]
    simp only [skipBlanks_of_head (c := '"') rfl]
    show Except.map _ (readMembers mostDigits _ (room + 1) [] ('"' :: tail)) = _
    rw [hmembers]
    rfl
  rw [readWhole, skipBlanks_of_head (c := '\x7b') rfl, hvalue]
  rfl

/-- **A stored object of lists of integers is read back from its text.** -/
theorem ofText_toText {members : List (CodePoints × List Int)}
    (h : AreReadableMembers Text.mostDigits members) :
    ofText (ofMembers members).toText = .ok (ofMembers members) := by
  have hascii := areAscii_write_ofMembers h.keys_plain
  have hchars : (pointsOf (ofMembers members).toText).map Char.ofNat =
      (ofMembers members).write := by
    have hlist : (ofMembers members).toText.toList = (ofMembers members).write := by
      rw [toText, String.toList_ofList]
    rw [pointsOf_ascii (hlist ▸ hascii), hlist, List.map_map]
    conv => rhs; rw [← List.map_id (ofMembers members).write]
    apply List.map_congr_left
    intro c _
    exact Char.ofNat_toNat c
  rw [ofText, hchars]
  exact readWhole_write h 983

end LalrBackend.JsonValue
