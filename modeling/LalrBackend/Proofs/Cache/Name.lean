import LalrBackend.Cache.Place
import LalrBackend.Proofs.Text.Points

/-!
# Names of files

The system names a file by bytes. Two names are those of one file exactly if they have
the same bytes, and a name without a slash that is short enough leads to a file of the
cache directory.
-/

namespace LalrBackend.Cache

open Text

/-! ## Bytes of code points -/

theorem bytesOfPoint_standsForByte {b : Nat} (h : 0x80 ≤ b) (hlt : b < 0x100) :
    bytesOfPoint (0xdc00 + b) = [b] := by
  have hstands : standsForByte (0xdc00 + b) = true := by
    simp only [standsForByte, Bool.and_eq_true, decide_eq_true_eq]
    omega
  rw [bytesOfPoint, if_pos hstands]
  simp

theorem bytesOfPoint_ascii {point : Nat} (h : point < 0x80) : bytesOfPoint point = [point] := by
  have hstands : ¬ standsForByte point = true := by
    simp only [standsForByte, Bool.and_eq_true, decide_eq_true_eq]
    omega
  rw [bytesOfPoint, if_neg hstands, if_pos h]

theorem bytesOfPoint_ne_nil (point : Nat) : bytesOfPoint point ≠ [] := by
  unfold bytesOfPoint
  repeat' split
  all_goals simp

theorem lt_of_mem_bytesOfPoint {point b : Nat} (hpoint : isPoint point = true)
    (hb : b ∈ bytesOfPoint point) : b < 0x100 := by
  simp only [isPoint, decide_eq_true_eq] at hpoint
  unfold bytesOfPoint at hb
  by_cases hstands : standsForByte point = true
  · rw [if_pos hstands, List.mem_singleton] at hb
    simp only [standsForByte, Bool.and_eq_true, decide_eq_true_eq] at hstands
    omega
  · rw [if_neg hstands] at hb
    repeat' split at hb
    all_goals
      simp only [List.mem_cons, List.not_mem_nil, or_false] at hb
      omega

/-! ## Reading bytes -/

/-- What is read as a character has the bytes that it was read from. -/
theorem characterAt?_eq_some {bytes : List Nat} {point : Nat}
    (h : characterAt? bytes = some point) :
    isPoint point = true ∧ bytesOfPoint point <+: bytes := by
  have hfound := List.find?_some h
  simp only [Bool.and_eq_true, List.isPrefixOf_iff_prefix] at hfound
  exact ⟨hfound.1.1, hfound.2⟩

/-- A byte of ASCII is a character. -/
theorem characterAt?_ascii {b : Nat} (h : b < 0x80) (bs : List Nat) :
    characterAt? (b :: bs) = some b := by
  have hpoint : isPoint b = true := by
    simp only [isPoint, decide_eq_true_eq]
    omega
  have hsurrogate : isSurrogate b = false := by
    simp only [isSurrogate, Bool.and_eq_false_iff, decide_eq_false_iff_not]
    omega
  simp [characterAt?, hpoint, hsurrogate, bytesOfPoint_ascii h]

/-- The code points that are read from bytes have these bytes. -/
theorem flatMap_bytesOfPoint_pointsOfBytes {count : Nat} {bytes : List Nat}
    (hcount : bytes.length ≤ count) (hbytes : ∀ b ∈ bytes, b < 0x100) :
    (pointsOfBytes count bytes).flatMap bytesOfPoint = bytes ∧
      ∀ point ∈ pointsOfBytes count bytes, isPoint point = true := by
  induction count generalizing bytes with
  | zero =>
      obtain rfl : bytes = [] := List.length_eq_zero_iff.mp (Nat.le_zero.mp hcount)
      exact ⟨rfl, by simp [pointsOfBytes]⟩
  | succ count ih =>
      cases bytes with
      | nil => exact ⟨rfl, by simp [pointsOfBytes]⟩
      | cons b bs =>
          rw [pointsOfBytes]
          cases hcharacter : characterAt? (b :: bs) with
          | some point =>
              -- A character takes the bytes away that it has.
              obtain ⟨hpoint, rest, hrest⟩ := characterAt?_eq_some hcharacter
              have hdrop : (b :: bs).drop (bytesOfPoint point).length = rest := by
                rw [← hrest, List.drop_left]
              have hpos : 0 < (bytesOfPoint point).length :=
                List.length_pos_iff.mpr (bytesOfPoint_ne_nil point)
              have hlength := congrArg List.length hrest
              rw [List.length_append] at hlength
              have hlengths : rest.length ≤ count := by omega
              obtain ⟨hflat, hpoints⟩ := ih hlengths fun b' hb' =>
                hbytes b' (hrest ▸ List.mem_append_right _ hb')
              simp only [hdrop]
              refine ⟨?_, ?_⟩
              · rw [List.flatMap_cons, hflat, hrest]
              · intro q hq
                rcases List.mem_cons.mp hq with rfl | hq
                · exact hpoint
                · exact hpoints q hq
          | none =>
              -- A byte that begins no character is not one of ASCII.
              have hlt : b < 0x100 := hbytes b List.mem_cons_self
              have hge : 0x80 ≤ b := by
                by_contra hascii
                rw [characterAt?_ascii (by omega)] at hcharacter
                cases hcharacter
              have hlengths : bs.length ≤ count := by simpa using hcount
              obtain ⟨hflat, hpoints⟩ := ih hlengths fun b' hb' =>
                hbytes b' (List.mem_cons_of_mem _ hb')
              refine ⟨?_, ?_⟩
              · simp only
                rw [List.flatMap_cons, bytesOfPoint_standsForByte hge hlt, hflat]
                rfl
              · intro q hq
                rcases List.mem_cons.mp hq with rfl | hq
                · simp only [isPoint, decide_eq_true_eq]
                  omega
                · exact hpoints q hq

/-! ## Names of the system -/

theorem lt_of_mem_bytesOf {name : String} : ∀ b ∈ bytesOf name, b < 0x100 := by
  intro b hb
  obtain ⟨point, hpoint, hb⟩ := List.mem_flatMap.mp hb
  exact lt_of_mem_bytesOfPoint (isPoint_of_mem_pointsOf point hpoint) hb

/-- The name that the system has for a file has the same bytes. -/
theorem bytesOf_systemName (name : String) : bytesOf (systemName name) = bytesOf name := by
  have hbytes : ∀ b ∈ bytesOf name, b < 0x100 := lt_of_mem_bytesOf
  obtain ⟨hflat, hpoints⟩ := flatMap_bytesOfPoint_pointsOfBytes (Nat.le_refl _) hbytes
  rw [bytesOf, systemName, bytesIn, pointsOf_stringOf _ hpoints]
  exact hflat

/-- **Two names are those of one file exactly if they have the same bytes.** -/
theorem systemName_eq_iff {a b : String} :
    systemName a = systemName b ↔ bytesOf a = bytesOf b := by
  constructor
  · intro h
    rw [← bytesOf_systemName a, h, bytesOf_systemName]
  · intro h
    rw [systemName, systemName, bytesIn, bytesIn, h]

theorem bytesOf_append {a b : String} (h : AreAscii b.toList) :
    bytesOf (a ++ b) = bytesOf a ++ b.toList.map Char.toNat := by
  rw [bytesOf, pointsOf_append h, List.flatMap_append, pointsOf_ascii h, bytesOf]
  congr 1
  generalize b.toList = cs at h
  induction cs with
  | nil => rfl
  | cons c cs ih =>
      rw [List.map_cons, List.flatMap_cons, bytesOfPoint_ascii (h c List.mem_cons_self),
        ih fun d hd => h d (List.mem_cons_of_mem _ hd)]
      rfl

/-! ## Places of plain names -/

/-- A name that the system can give to a file of a directory: it has no slash and no
zero in it, all its code points have bytes, and these are not too many. -/
structure Nameable (name : String) : Prop where
  noSlash : '/' ∉ name.toList
  noZero : 0 ∉ pointsOf name
  hasBytes : ∀ point ∈ pointsOf name, isSurrogate point = true → standsForByte point = true
  short : bytesIn name ≤ mostNameBytes

/-- Such a name leads to the file of that name in the cache directory. -/
theorem placeOf_of_nameable {name : String} (h : Nameable name) (isFile : Place → Bool) :
    placeOf isFile name = .ok ⟨0, systemName name⟩ := by
  have hbytes : ¬ ((pointsOf name).any fun p => isSurrogate p && !standsForByte p) = true := by
    simp only [List.any_eq_true, Bool.and_eq_true, Bool.not_eq_true', not_exists, not_and]
    intro point hpoint hsurrogate
    simp [h.hasBytes point hpoint hsurrogate]
  have hpath : ¬ mostPathBytes < bytesIn name := by
    have hshort := h.short
    simp only [mostPathBytes, mostNameBytes] at hshort ⊢
    omega
  have hhead : name.toList.head? ≠ some '/' := by
    intro hhead
    exact h.noSlash (List.mem_of_head? hhead)
  have hsplit : name.toList.splitOn '/' = [name.toList] := by
    apply List.splitOnP_eq_singleton
    intro c hc
    rw [beq_eq_false_iff_ne]
    rintro rfl
    exact h.noSlash hc
  have hshort : ¬ mostNameBytes < bytesIn name := Nat.not_lt.mpr h.short
  unfold placeOf
  simp only [if_neg hbytes, if_neg h.noZero, if_neg hpath, if_neg hhead, hsplit]
  simp only [List.map_cons, List.map_nil, String.ofList_toList, follow, if_neg hshort]
  rfl

theorem nameable_append {id tail : String} (hslash : '/' ∉ id.toList)
    (hzero : 0 ∉ pointsOf id)
    (hid : ∀ point ∈ pointsOf id, isSurrogate point = true → standsForByte point = true)
    (hlength : bytesIn id + tail.length ≤ mostNameBytes)
    (htail : ∀ c ∈ tail.toList, c.toNat < 128 ∧ c ≠ '/' ∧ c.toNat ≠ 0) :
    Nameable (id ++ tail) := by
  have hascii : AreAscii tail.toList := fun c hc => (htail c hc).1
  have hpoints : pointsOf (id ++ tail) = pointsOf id ++ tail.toList.map Char.toNat := by
    rw [pointsOf_append hascii, pointsOf_ascii hascii]
  refine ⟨?_, ?_, ?_, ?_⟩
  · rw [String.toList_append, List.mem_append]
    rintro (h | h)
    · exact hslash h
    · exact (htail _ h).2.1 rfl
  · rw [hpoints, List.mem_append, List.mem_map]
    rintro (h | ⟨c, hc, h⟩)
    · exact hzero h
    · exact (htail c hc).2.2 h
  · intro point hpoint hsurrogate
    rw [hpoints, List.mem_append, List.mem_map] at hpoint
    rcases hpoint with h | ⟨c, hc, rfl⟩
    · exact hid point h hsurrogate
    · have hlt := hascii c hc
      simp only [isSurrogate, Bool.and_eq_true, decide_eq_true_eq] at hsurrogate
      omega
  · rw [bytesIn, bytesOf_append hascii, List.length_append, List.length_map,
      String.length_toList]
    exact hlength

end LalrBackend.Cache
