import LalrBackend.Proofs.Cache.Key
import LalrBackend.Proofs.Packed.Canonical

/-!
# What is fed to the digest

Each list is written in full before any of it is fed, so a list with a number that is too
long to be written ends the feeding with what came before it. What is fed for tables that
can be written is fed for no other tables, not even where the feeding ends early.
-/

namespace LalrBackend.Cache

open Text JsonValue Failure

/-! ## Feeding -/

/-- The bytes of characters of one byte each. -/
def charBytes (cs : List Char) : List UInt8 :=
  cs.map fun c => UInt8.ofNat c.toNat

/-- Feeds a list of numbers. -/
def feedInts (ns : List Int) : EStateM Fault (List UInt8) Unit := do
  if !ns.all Text.isWritable then throw .tooLong
  modify (· ++ charBytes (writeInts ns))

/-- Feeds three tables and the byte of a flag. -/
def feed (t : Tables) (flag : UInt8) : EStateM Fault (List UInt8) Unit := do
  feedInts t.production
  feedInts t.action
  feedInts t.reduce
  modify (· ++ [flag])

/-- What is fed, also if a list cannot be written. -/
def fed (t : Tables) (flag : UInt8) : List UInt8 :=
  leftBy ((feed t flag).run [])

/-- The lists of tables, in the order in which they are fed. -/
def Tables.lists (t : Tables) : List (List Int) :=
  [t.production, t.action, t.reduce]

/-- The lists before the first one that cannot be written. -/
def writableLists (lists : List (List Int)) : List (List Int) :=
  lists.takeWhile fun ns => ns.all Text.isWritable

section Feeding

variable {t t' : Tables} {flag flag' : UInt8} {ns : List Int} {bytes : List UInt8}

theorem run_feedInts_bind {α : Type} (ns : List Int) (next : EStateM Fault (List UInt8) α)
    (bytes : List UInt8) :
    (feedInts ns >>= fun _ => next).run bytes =
      if ns.all Text.isWritable then next.run (bytes ++ charBytes (writeInts ns))
      else .error .tooLong bytes := by
  by_cases h : ns.all Text.isWritable = true
  · rw [if_pos h]
    unfold feedInts
    simp only [h]
    rfl
  · rw [if_neg h]
    unfold feedInts
    simp only [Bool.not_eq_true] at h
    simp only [h]
    rfl

/-- The feeding goes through exactly if all numbers can be written, and then what is digested
has been fed. -/
theorem run_feed (t : Tables) (flag : UInt8) :
    (feed t flag).run [] =
      if t.isWritable then .ok () (keyBytes t flag)
      else .error .tooLong (charBytes ((writableLists t.lists).flatMap writeInts)) := by
  show (feedInts t.production >>= fun _ => feedInts t.action >>= fun _ =>
    feedInts t.reduce >>= fun _ => modify (· ++ [flag])).run [] = _
  rw [run_feedInts_bind, run_feedInts_bind, run_feedInts_bind]
  -- The first list that cannot be written ends the feeding.
  by_cases hproduction : t.production.all Text.isWritable = true
  · by_cases haction : t.action.all Text.isWritable = true
    · by_cases hreduce : t.reduce.all Text.isWritable = true
      · have hall : t.isWritable = true :=
          Tables.isWritable_iff.mpr ⟨hproduction, haction, hreduce⟩
        rw [if_pos hproduction, if_pos haction, if_pos hreduce, if_pos hall]
        simp only [keyBytes, Tables.written, charBytes, List.map_append]
        rfl
      · have hnot : ¬ t.isWritable = true := fun h => hreduce (Tables.isWritable_iff.mp h).2.2
        rw [if_pos hproduction, if_pos haction, if_neg hreduce, if_neg hnot]
        simp [writableLists, Tables.lists, hproduction, haction, hreduce, charBytes]
    · have hnot : ¬ t.isWritable = true := fun h => haction (Tables.isWritable_iff.mp h).2.1
      rw [if_pos hproduction, if_neg haction, if_neg hnot]
      simp [writableLists, Tables.lists, hproduction, haction, charBytes]
  · have hnot : ¬ t.isWritable = true := fun h => hproduction (Tables.isWritable_iff.mp h).1
    rw [if_neg hproduction, if_neg hnot]
    simp [writableLists, Tables.lists, hproduction, charBytes]

theorem fed_of_writable (h : t.isWritable = true) : fed t flag = keyBytes t flag := by
  rw [fed, run_feed, if_pos h]
  rfl

theorem fed_of_not_writable (h : ¬ t.isWritable = true) :
    fed t flag = charBytes ((writableLists t.lists).flatMap writeInts) := by
  rw [fed, run_feed, if_neg h]
  rfl

theorem all_of_mem_writableLists {lists : List (List Int)} :
    ∀ ns ∈ writableLists lists, ns.all Text.isWritable = true :=
  List.all_eq_true.mp List.all_takeWhile

theorem isWritable_iff_lists :
    t.isWritable = true ↔ ∀ ns ∈ t.lists, ns.all Text.isWritable = true := by
  rw [Tables.isWritable_iff, Tables.lists]
  simp

theorem writableLists_length_lt (h : ¬ t.isWritable = true) :
    (writableLists t.lists).length < 3 := by
  by_contra hlong
  have hwhole : writableLists t.lists = t.lists :=
    (List.takeWhile_prefix _).eq_of_length_le (Nat.le_of_not_lt hlong)
  exact h (isWritable_iff_lists.mpr (hwhole ▸ all_of_mem_writableLists))

end Feeding

/-! ## Reading lists apart -/

/-- Lists that stand at the front of other lists are not more than these. -/
theorem length_le_of_flatMap_writeInts {lists lists' : List (List Int)} {rest : List Char}
    (h : ∀ ns ∈ lists, ns.all Text.isWritable = true)
    (h' : ∀ ns ∈ lists', ns.all Text.isWritable = true)
    (heq : lists.flatMap writeInts ++ rest = lists'.flatMap writeInts) :
    lists.length ≤ lists'.length := by
  induction lists generalizing lists' with
  | nil => exact Nat.zero_le _
  | cons ns lists ih =>
      cases lists' with
      | nil =>
          rw [List.flatMap_cons, writeInts] at heq
          cases heq
      | cons ns' lists' =>
          obtain ⟨hns, hlists⟩ := List.forall_mem_cons.mp h
          obtain ⟨hns', hlists'⟩ := List.forall_mem_cons.mp h'
          rw [List.flatMap_cons, List.flatMap_cons, List.append_assoc] at heq
          obtain ⟨_, hrest⟩ :=
            writeInts_append_inj (areReadable_of_all hns) (areReadable_of_all hns') heq
          exact Nat.succ_le_succ (ih hlists hlists' hrest)

theorem areAscii_flatMap_writeInts (lists : List (List Int)) :
    AreAscii (lists.flatMap writeInts) := by
  intro c hc
  obtain ⟨ns, _, hns⟩ := List.mem_flatMap.mp hc
  exact areAscii_writeInts ns c hns

section Separation

variable {t t' : Tables} {flag flag' : UInt8}

/-- What ends early is fed for no tables that can be written: it would hold all of their
lists. -/
theorem keyBytes_ne_fed (h : t.isWritable = true) (h' : ¬ t'.isWritable = true) :
    keyBytes t flag ≠ fed t' flag' := by
  rw [fed_of_not_writable h']
  intro heq
  have hascii := areAscii_flatMap_writeInts (writableLists t'.lists)
  -- The flag is then the byte of a character as well, and both sides are read as such.
  obtain ⟨c, hc, hflag⟩ : ∃ c ∈ (writableLists t'.lists).flatMap writeInts,
      UInt8.ofNat c.toNat = flag := by
    apply List.mem_map.mp
    show flag ∈ charBytes _
    rw [← heq]
    exact List.mem_append_right _ (List.mem_singleton_self flag)
  have hkey : keyBytes t flag = charBytes (t.lists.flatMap writeInts ++ [c]) := by
    rw [keyBytes, ← hflag, charBytes, List.map_append, Tables.written, Tables.lists]
    simp
  have hkeyAscii : AreAscii (t.lists.flatMap writeInts ++ [c]) := by
    refine areAscii_append.mpr ⟨areAscii_flatMap_writeInts _, fun d hd => ?_⟩
    rw [List.mem_singleton.mp hd]
    exact hascii c hc
  rw [hkey] at heq
  have hlength := length_le_of_flatMap_writeInts (isWritable_iff_lists.mp h)
    all_of_mem_writableLists (bytes_inj hkeyAscii hascii heq)
  exact absurd hlength (Nat.not_le_of_lt (writableLists_length_lt h'))

/-- **What is fed for tables that can be written is fed for no others.** -/
theorem fed_eq_iff (h : t.isWritable = true) :
    fed t flag = fed t' flag' ↔ t = t' ∧ flag = flag' := by
  constructor
  · intro heq
    rw [fed_of_writable h] at heq
    by_cases h' : t'.isWritable = true
    · rw [fed_of_writable h'] at heq
      exact keyBytes_inj h h' heq
    · exact absurd heq (keyBytes_ne_fed h h')
  · rintro ⟨rfl, rfl⟩
    rfl

end Separation

/-! ## Keys -/

theorem isWritable_iff_lt {n : Int} :
    Text.isWritable n = true ↔ n.natAbs < 10 ^ mostDigits := by
  simp only [Text.isWritable, Nat.pow_eq, decide_eq_true_eq]

theorem isWritable_of_lt {t : Tables}
    (h : ∀ n ∈ t.production ++ t.action ++ t.reduce, n.natAbs < 10 ^ mostDigits) :
    t.isWritable = true := by
  apply List.all_eq_true.mpr
  intro n hn
  exact isWritable_iff_lt.mpr (h n hn)

theorem keyOfNumber?_toNat (t : Tables) (flag : UInt8) :
    keyOfNumber? t flag.toNat = some (key t flag) := by
  have hlt := flag.toNat_lt
  rw [keyOfNumber?, if_pos (by omega), Int.toNat_natCast, UInt8.ofNat_toNat]

/-- **Keys separate different inputs.** Tables whose numbers are short enough to be written
are fed in full before their key is taken, and what is fed for them and a flag is fed for no
other tables or flag. -/
theorem digest_separates {t : Tables} (flag : UInt8)
    (h : ∀ n ∈ t.production ++ t.action ++ t.reduce, n.natAbs < 10 ^ mostDigits) :
    (feed t flag).run [] = .ok () (fed t flag) ∧
      keyOfNumber? t flag.toNat = some (Sha1.hexDigest (fed t flag)) ∧
      ∀ (t' : Tables) (flag' : UInt8), fed t flag = fed t' flag' ↔ t = t' ∧ flag = flag' := by
  have hwritable := isWritable_of_lt h
  refine ⟨?_, ?_, fun t' flag' => fed_eq_iff hwritable⟩
  · rw [run_feed, if_pos hwritable, fed_of_writable hwritable]
  · rw [keyOfNumber?_toNat, fed_of_writable hwritable, key]

/-- A flag that is the byte of a bracket does not blur where the lists end. -/
theorem digest_separates_bracket :
    let t : Tables := ⟨[], [1, -2], []⟩
    (∀ n ∈ t.production ++ t.action ++ t.reduce, n.natAbs < 10 ^ mostDigits) ∧
      fed t 93 ≠ fed ⟨[], [1], [-2]⟩ 93 ∧ fed t 93 ≠ fed t 91 := by
  intro t
  have hshort : ∀ n ∈ t.production ++ t.action ++ t.reduce, n.natAbs < 10 ^ mostDigits := by
    intro n hn
    have hsmall : ∀ n ∈ t.production ++ t.action ++ t.reduce, n.natAbs < 10 := by decide
    exact Nat.lt_of_lt_of_le (hsmall n hn) (Nat.le_self_pow (by decide) 10)
  obtain ⟨_, _, hseparates⟩ := digest_separates 93 hshort
  refine ⟨hshort, ?_, ?_⟩
  · rw [Ne, hseparates]
    decide
  · rw [Ne, hseparates]
    decide

/-- Tables with numbers that are too long to be written are not told apart: the feeding ends
before the first list in which there is one. -/
theorem overlong_tables_fed_alike :
    ¬ ∀ (t t' : Tables) (flag flag' : UInt8),
      fed t flag = fed t' flag' ↔ t = t' ∧ flag = flag' := by
  intro h
  have hlong : ([Packed.overlong].all Text.isWritable) = false := by decide +kernel
  have hfed : ∀ action : List Int, fed ⟨[Packed.overlong], action, []⟩ 0 = [] := by
    intro action
    have hnot : ¬ Tables.isWritable ⟨[Packed.overlong], action, []⟩ = true := by
      intro hwritable
      rw [(Tables.isWritable_iff.mp hwritable).1] at hlong
      cases hlong
    rw [fed_of_not_writable hnot, writableLists, Tables.lists, List.takeWhile_cons, hlong]
    rfl
  obtain ⟨heq, _⟩ := (h ⟨[Packed.overlong], [], []⟩ ⟨[Packed.overlong], [0], []⟩ 0 0).mp
    ((hfed []).trans (hfed [0]).symm)
  cases congrArg Tables.action heq

end LalrBackend.Cache
