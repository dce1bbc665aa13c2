import LalrBackend.Json.Writer
import LalrBackend.Proofs.Text.Digits
import LalrBackend.Proofs.Text.Points

/-!
# The form of what is written

Lists of integers and objects of them are written in ASCII. What stands first in a text,
in a member or between two items is known, and no part is longer than the whole.
-/

namespace LalrBackend.JsonValue

open Text

/-! ## Items -/

/-- Items one after the other begin as the first one does. -/
theorem intercalate_head {item : List Char} {c : Char} {cs : List Char}
    (h : item = c :: cs) (items : List (List Char)) (rest : List Char) :
    ∃ tail, itemMark.intercalate (item :: items) ++ rest = c :: tail := by
  subst h
  cases items with
  | nil => exact ⟨cs ++ rest, by simp⟩
  | cons next items =>
      rw [List.intercalate_cons_cons]
      exact ⟨_, rfl⟩

/-- Between the first of several items and the others there is a mark. -/
theorem intercalate_split (item next : List Char) (items : List (List Char))
    (rest : List Char) :
    itemMark.intercalate (item :: next :: items) ++ rest =
      item ++ ',' :: ' ' :: (itemMark.intercalate (next :: items) ++ rest) := by
  rw [List.intercalate_cons_cons]
  simp [itemMark]

theorem length_le_intercalate {items : List (List Char)} {item : List Char}
    (hitem : item ∈ items) (hpos : ∀ x ∈ items, 1 ≤ x.length) :
    item.length + items.length ≤ (itemMark.intercalate items).length + 1 := by
  induction items generalizing item with
  | nil => cases hitem
  | cons first items ih =>
      cases items with
      | nil =>
          obtain rfl := List.mem_singleton.mp hitem
          simp
      | cons next items =>
          rw [List.intercalate_cons_cons, List.length_append, List.length_append]
          have hfirst := hpos first List.mem_cons_self
          have hmark : itemMark.length = 2 := rfl
          have hnext : ∀ x ∈ next :: items, 1 ≤ x.length :=
            fun x hx => hpos x (List.mem_cons_of_mem _ hx)
          rcases List.mem_cons.mp hitem with rfl | hrest
          · have hothers := ih List.mem_cons_self hnext
            have hone := hnext next List.mem_cons_self
            simp only [List.length_cons] at hothers ⊢
            omega
          · have hothers := ih hrest hnext
            simp only [List.length_cons] at hothers ⊢
            omega

/-! ## Texts -/

/-- A code point that stands for itself between quotes. -/
def IsPlainPoint (point : Nat) : Prop :=
  32 ≤ point ∧ point < 127 ∧ point ≠ 34 ∧ point ≠ 92

instance (point : Nat) : Decidable (IsPlainPoint point) :=
  inferInstanceAs (Decidable (_ ∧ _ ∧ _ ∧ _))

variable {point : Nat} {points : CodePoints}

theorem writePoint_plain (h : IsPlainPoint point) : writePoint point = [Char.ofNat point] := by
  obtain ⟨hlow, hhigh, hquote, hbackslash⟩ := h
  unfold writePoint
  rw [if_neg hquote, if_neg hbackslash, if_neg (by omega), if_neg (by omega), if_neg (by omega),
    if_neg (by omega), if_neg (by omega), if_pos ⟨hlow, hhigh⟩]

theorem toNat_ofNat_plain (h : IsPlainPoint point) : (Char.ofNat point).toNat = point := by
  obtain ⟨hlow, hhigh, _⟩ := h
  apply toNat_ofNat
  · simp only [isPoint, decide_eq_true_eq]
    omega
  · simp only [isSurrogate, Bool.and_eq_false_iff, decide_eq_false_iff_not]
    omega

theorem flatMap_writePoint_plain (h : ∀ p ∈ points, IsPlainPoint p) :
    points.flatMap writePoint = points.map Char.ofNat := by
  induction points with
  | nil => rfl
  | cons p ps ih =>
      rw [List.flatMap_cons, writePoint_plain (h p List.mem_cons_self),
        ih fun q hq => h q (List.mem_cons_of_mem _ hq)]
      rfl

theorem writeText_plain (h : ∀ p ∈ points, IsPlainPoint p) :
    writeText points = '"' :: points.map Char.ofNat ++ ['"'] := by
  rw [writeText, flatMap_writePoint_plain h]

/-! ## Objects of lists of integers -/

/-- An object whose members are lists of integers. -/
def ofMembers (members : List (CodePoints × List Int)) : JsonValue :=
  .object (members.map fun m => (m.1, .ofInts m.2))

/-- The members as they are written. -/
def memberChars (key : CodePoints) (ns : List Int) : List Char :=
  writeText key ++ ':' :: ' ' :: writeInts ns

theorem write_ofInts (ns : List Int) : (ofInts ns).write = writeInts ns := by
  have hitems : writeItems (ns.map .int) = ns.map decimalChars := by
    induction ns with
    | nil => rfl
    | cons n ns ih => rw [List.map_cons, writeItems, ih, write, List.map_cons]
  rw [ofInts, write, hitems, writeInts]

theorem write_ofMembers (members : List (CodePoints × List Int)) :
    (ofMembers members).write =
      '\x7b' :: itemMark.intercalate (members.map fun m => memberChars m.1 m.2) ++
        ['\x7d'] := by
  have hmembers : writeMembers (members.map fun m => (m.1, ofInts m.2)) =
      members.map fun m => memberChars m.1 m.2 := by
    induction members with
    | nil => rfl
    | cons m ms ih =>
        rw [List.map_cons, writeMembers, ih, write_ofInts]
        rfl
  rw [ofMembers, write, hmembers]

theorem memberChars_cons (key : CodePoints) (ns : List Int) :
    ∃ cs, memberChars key ns = '"' :: cs :=
  ⟨_, rfl⟩

theorem length_le_memberChars (key : CodePoints) (ns : List Int) :
    ns.length + 5 ≤ (memberChars key ns).length := by
  have hitems : ns.length ≤ (itemMark.intercalate (ns.map decimalChars)).length := by
    cases ns with
    | nil => exact Nat.zero_le _
    | cons n ns =>
        have hpos : ∀ x ∈ (n :: ns).map decimalChars, 1 ≤ x.length := by
          intro x hx
          obtain ⟨k, _, rfl⟩ := List.mem_map.mp hx
          exact List.length_pos_iff.mpr (decimalChars_ne_nil k)
        have hfirst : decimalChars n ∈ (n :: ns).map decimalChars := by simp
        have hlength := length_le_intercalate hfirst hpos
        have hone := hpos _ hfirst
        rw [List.length_map] at hlength
        omega
  simp only [memberChars, writeText, writeInts, List.length_append, List.length_cons,
    List.length_nil]
  omega

/-! ## Characters of ASCII -/

theorem areAscii_append {cs ds : List Char} : AreAscii (cs ++ ds) ↔ AreAscii cs ∧ AreAscii ds :=
  List.forall_mem_append

theorem areAscii_decimalChars (n : Int) : AreAscii (decimalChars n) := by
  intro c hc
  rcases isDigit_of_mem_decimalChars hc with rfl | hdigit
  · decide
  · simp only [Char.isDigit, Bool.and_eq_true, decide_eq_true_eq] at hdigit
    have hhigh : c.toNat ≤ '9'.toNat := hdigit.2
    have hnine : '9'.toNat = 57 := rfl
    omega

theorem areAscii_intercalate {items : List (List Char)} (h : ∀ item ∈ items, AreAscii item) :
    AreAscii (itemMark.intercalate items) := by
  induction items with
  | nil => simp [AreAscii]
  | cons item items ih =>
      have hitem := h item List.mem_cons_self
      have hitems := ih fun item hitem => h item (List.mem_cons_of_mem _ hitem)
      cases items with
      | nil => rwa [List.intercalate_singleton]
      | cons next items =>
          rw [List.intercalate_cons_cons]
          have hmark : AreAscii itemMark := by decide
          exact areAscii_append.mpr ⟨areAscii_append.mpr ⟨hitem, hmark⟩, hitems⟩

theorem areAscii_writeInts (ns : List Int) : AreAscii (writeInts ns) := by
  have hitems : AreAscii (itemMark.intercalate (ns.map decimalChars)) := by
    apply areAscii_intercalate
    intro item hitem
    obtain ⟨n, _, rfl⟩ := List.mem_map.mp hitem
    exact areAscii_decimalChars n
  intro c hc
  rw [writeInts, List.mem_append, List.mem_cons, List.mem_singleton] at hc
  rcases hc with (rfl | hc) | rfl
  · decide
  · exact hitems c hc
  · decide

theorem areAscii_memberChars {key : CodePoints} (hkey : ∀ p ∈ key, IsPlainPoint p)
    (ns : List Int) : AreAscii (memberChars key ns) := by
  have hquote : AreAscii ['"'] := by decide
  have hmark : AreAscii [':', ' '] := by decide
  have hpoints : AreAscii (key.map Char.ofNat) := by
    intro c hc
    obtain ⟨p, hp, rfl⟩ := List.mem_map.mp hc
    have hplain := hkey p hp
    rw [toNat_ofNat_plain hplain]
    exact Nat.lt_trans hplain.2.1 (by decide)
  have htext : AreAscii (writeText key) := by
    rw [writeText_plain hkey]
    exact areAscii_append.mpr ⟨areAscii_append.mpr ⟨hquote, hpoints⟩, hquote⟩
  exact areAscii_append.mpr ⟨htext, areAscii_append.mpr ⟨hmark, areAscii_writeInts ns⟩⟩

theorem areAscii_write_ofMembers {members : List (CodePoints × List Int)}
    (hkeys : ∀ m ∈ members, ∀ p ∈ m.1, IsPlainPoint p) :
    AreAscii (ofMembers members).write := by
  have hitems : AreAscii
      (itemMark.intercalate (members.map fun m => memberChars m.1 m.2)) := by
    apply areAscii_intercalate
    intro item hitem
    obtain ⟨m, hm, rfl⟩ := List.mem_map.mp hitem
    exact areAscii_memberChars (hkeys m hm) m.2
  rw [write_ofMembers]
  intro c hc
  rw [List.mem_append, List.mem_cons, List.mem_singleton] at hc
  rcases hc with (rfl | hc) | rfl
  · decide
  · exact hitems c hc
  · decide

end LalrBackend.JsonValue
