import LalrBackend.Cache.Key
import LalrBackend.Proofs.Cache.Name
import LalrBackend.Proofs.Json.Reading

/-!
# Keys tell tables apart

What is digested for tables is read back from its front, so different tables or another
way of compressing give other bytes. The name of a file ends in a tail of fixed length,
so it tells identifiers and keys apart as well.
-/

namespace LalrBackend.Cache

open Text JsonValue

/-! ## Written tables -/

theorem areReadable_of_all {ns : List Int} (h : ns.all Text.isWritable = true) :
    AreReadable mostDigits ns := by
  intro n hn
  have hwritable := List.all_eq_true.mp h n hn
  have hpos : 0 < mostDigits := by decide
  rwa [Text.isWritable, decide_eq_true_eq, Nat.pow_eq,
    ← Nat.length_toDigits_le_iff (by decide) hpos] at hwritable

theorem Tables.isWritable_iff {t : Tables} :
    t.isWritable = true ↔ t.production.all Text.isWritable = true ∧
      t.action.all Text.isWritable = true ∧ t.reduce.all Text.isWritable = true := by
  rw [Tables.isWritable, List.all_append, List.all_append, Bool.and_eq_true, Bool.and_eq_true,
    and_assoc]

/-- A list that was written first is the list that is read first. -/
theorem writeInts_append_inj {most : Nat} {ns ns' : List Int} (h : AreReadable most ns)
    (h' : AreReadable most ns') {rest rest' : List Char}
    (heq : writeInts ns ++ rest = writeInts ns' ++ rest') : ns = ns' ∧ rest = rest' := by
  have hfuel : ns.length + 2 ≤ ns.length + ns'.length + 2 := by omega
  have hfuel' : ns'.length + 2 ≤ ns.length + ns'.length + 2 := by omega
  -- Both readings have fuel enough for either list.
  have hread : readValue most _ 1 (writeInts ns ++ rest) = _ := readValue_writeInts h hfuel rest
  have hread' : readValue most _ 1 (writeInts ns' ++ rest') = _ :=
    readValue_writeInts h' hfuel' rest'
  rw [heq, hread'] at hread
  obtain ⟨hvalue, hrest⟩ := Prod.mk.inj (Except.ok.inj hread)
  have hitems := JsonValue.list.inj hvalue
  refine ⟨?_, hrest.symm⟩
  exact ((List.map_inj_right fun _ _ h => JsonValue.int.inj h).mp hitems).symm

/-- **Tables are told apart by how they are written.** -/
theorem Tables.written_inj {t t' : Tables} (h : t.isWritable = true) (h' : t'.isWritable = true)
    (heq : t.written = t'.written) : t = t' := by
  obtain ⟨hproduction, haction, hreduce⟩ := Tables.isWritable_iff.mp h
  obtain ⟨hproduction', haction', hreduce'⟩ := Tables.isWritable_iff.mp h'
  rw [Tables.written, Tables.written, List.append_assoc, List.append_assoc] at heq
  obtain ⟨hfirst, hrest⟩ := writeInts_append_inj (areReadable_of_all hproduction)
    (areReadable_of_all hproduction') heq
  obtain ⟨hsecond, hrest⟩ := writeInts_append_inj (areReadable_of_all haction)
    (areReadable_of_all haction') hrest
  have hrest : writeInts t.reduce ++ [] = writeInts t'.reduce ++ [] := by
    rw [hrest]
  obtain ⟨hthird, _⟩ := writeInts_append_inj (areReadable_of_all hreduce)
    (areReadable_of_all hreduce') hrest
  cases t
  cases t'
  simp only at hfirst hsecond hthird
  rw [hfirst, hsecond, hthird]

theorem areAscii_written (t : Tables) : AreAscii t.written :=
  areAscii_append.mpr ⟨areAscii_append.mpr
    ⟨areAscii_writeInts _, areAscii_writeInts _⟩, areAscii_writeInts _⟩

/-- Characters of ASCII are read back from their bytes. -/
theorem bytes_inj {cs ds : List Char} (hcs : AreAscii cs) (hds : AreAscii ds)
    (h : cs.map (fun c => UInt8.ofNat c.toNat) = ds.map fun c => UInt8.ofNat c.toNat) :
    cs = ds := by
  have hback : ∀ {cs : List Char}, AreAscii cs →
      (cs.map fun c => UInt8.ofNat c.toNat).map (fun b => Char.ofNat b.toNat) = cs := by
    intro cs hcs
    rw [List.map_map]
    conv => rhs; rw [← List.map_id cs]
    apply List.map_congr_left
    intro c hc
    have hlt := hcs c hc
    have hbyte : (UInt8.ofNat c.toNat).toNat = c.toNat := by
      rw [UInt8.toNat_ofNat']
      omega
    rw [Function.comp, hbyte, Char.ofNat_toNat, id]
  rw [← hback hcs, h, hback hds]

/-- **Different tables, or another flag, have other bytes digested.** -/
theorem keyBytes_inj {t t' : Tables} {flag flag' : UInt8} (h : t.isWritable = true)
    (h' : t'.isWritable = true) (heq : keyBytes t flag = keyBytes t' flag') :
    t = t' ∧ flag = flag' := by
  obtain ⟨hbytes, hflag⟩ := List.append_inj' heq rfl
  exact ⟨Tables.written_inj h h' (bytes_inj (areAscii_written t) (areAscii_written t') hbytes),
    List.singleton_inj.mp hflag⟩

theorem flagOf_inj {compact compact' : Bool} (h : flagOf compact = flagOf compact') :
    compact = compact' := by
  cases compact <;> cases compact' <;> first | rfl | exact absurd h (by decide)

/-! ## Digests -/

theorem hexWord_eq (w : UInt32) : Sha1.hexWord w = fixedDigits 16 8 w.toNat := by
  have hlt : w.toNat < 16 ^ (7 + 1) := w.toNat_lt
  exact replicate_append_toDigits (by decide) hlt

theorem hexDigest_length (message : List UInt8) : (Sha1.hexDigest message).length = 40 := by
  unfold Sha1.hexDigest
  rw [String.length_ofList]
  simp [Sha1.State.words, hexWord_eq, fixedDigits_length]

theorem mem_fixedDigits {base width n : Nat} (hbase : 0 < base) {c : Char}
    (h : c ∈ fixedDigits base width n) : ∃ k < base, c = Nat.digitChar k := by
  induction width generalizing n with
  | zero => cases h
  | succ width ih =>
      rw [fixedDigits, List.mem_append, List.mem_singleton] at h
      rcases h with h | rfl
      · exact ih h
      · exact ⟨n % base, Nat.mod_lt n hbase, rfl⟩

/-! ## Names -/

/-- A character of ASCII that may stand in the name of a file. -/
def IsNameChar (c : Char) : Prop :=
  c.toNat < 128 ∧ c ≠ '/' ∧ c.toNat ≠ 0

instance (c : Char) : Decidable (IsNameChar c) :=
  inferInstanceAs (Decidable (_ ∧ _ ∧ _))

theorem isNameChar_of_mem_hexDigest {message : List UInt8} {c : Char}
    (h : c ∈ (Sha1.hexDigest message).toList) : IsNameChar c := by
  have hdigits : ∀ k < 16, IsNameChar (Nat.digitChar k) := by decide
  rw [Sha1.hexDigest, String.toList_ofList, List.mem_flatMap] at h
  obtain ⟨w, _, hc⟩ := h
  rw [hexWord_eq] at hc
  obtain ⟨k, hk, rfl⟩ := mem_fixedDigits (by decide) hc
  exact hdigits k hk

/-- What stands behind the identifier in the name of a file. -/
def nameTail (key : String) : String :=
  "-" ++ decimal version ++ "-" ++ key ++ ".json"

theorem fileName_eq (id key : String) : fileName id key = id ++ nameTail key := by
  simp only [fileName, nameTail, String.append_assoc]

theorem isNameChar_of_mem_nameTail {message : List UInt8} {c : Char}
    (h : c ∈ (nameTail (Sha1.hexDigest message)).toList) : IsNameChar c := by
  have hfront : ("-" ++ decimal version ++ "-").toList.all (fun c => IsNameChar c) = true := by
    decide
  have hback : ".json".toList.all (fun c => IsNameChar c) = true := by decide
  rw [nameTail, String.toList_append, String.toList_append, List.mem_append,
    List.mem_append] at h
  rcases h with (h | h) | h
  · exact of_decide_eq_true (List.all_eq_true.mp hfront c h)
  · exact isNameChar_of_mem_hexDigest h
  · exact of_decide_eq_true (List.all_eq_true.mp hback c h)

theorem nameTail_length (message : List UInt8) :
    (nameTail (Sha1.hexDigest message)).length = 48 := by
  have hfront : ("-" ++ decimal version ++ "-").length = 3 := by decide
  have hback : ".json".length = 5 := rfl
  rw [nameTail, String.length_append, String.length_append, hfront, hexDigest_length, hback]

theorem nameTail_inj {key key' : String} (h : nameTail key = nameTail key') : key = key' := by
  have hlists := congrArg String.toList h
  simp only [nameTail, String.toList_append] at hlists
  exact String.toList_inj.mp (List.append_cancel_left (List.append_cancel_right hlists))

theorem areAscii_nameTail (message : List UInt8) :
    AreAscii (nameTail (Sha1.hexDigest message)).toList :=
  fun _ hc => (isNameChar_of_mem_nameTail hc).1

/-- **The file of an identifier and a digest is that of no other digest, and that of
another identifier only if both have the same bytes.** -/
theorem systemName_fileName_inj {id id' : String} {message message' : List UInt8} :
    systemName (fileName id (Sha1.hexDigest message)) =
        systemName (fileName id' (Sha1.hexDigest message')) ↔
      bytesOf id = bytesOf id' ∧ Sha1.hexDigest message = Sha1.hexDigest message' := by
  rw [systemName_eq_iff, fileName_eq, fileName_eq, bytesOf_append (areAscii_nameTail _),
    bytesOf_append (areAscii_nameTail _)]
  constructor
  · intro h
    have hlengths : ((nameTail (Sha1.hexDigest message)).toList.map Char.toNat).length =
        ((nameTail (Sha1.hexDigest message')).toList.map Char.toNat).length := by
      rw [List.length_map, List.length_map, String.length_toList, String.length_toList,
        nameTail_length, nameTail_length]
    obtain ⟨hid, htail⟩ := List.append_inj' h hlengths
    refine ⟨hid, nameTail_inj (String.toList_inj.mp ?_)⟩
    exact (List.map_inj_right fun _ _ h => Char.toNat_inj.mp h).mp htail
  · rintro ⟨hid, hdigest⟩
    rw [hid, hdigest]

/-- An identifier that the system can give to a file together with a key. -/
structure NamesFiles (id : String) : Prop where
  noSlash : '/' ∉ id.toList
  noZero : 0 ∉ pointsOf id
  hasBytes : ∀ point ∈ pointsOf id, isSurrogate point = true → standsForByte point = true
  short : bytesIn id + 48 ≤ mostNameBytes

theorem NamesFiles.nameable {id : String} (h : NamesFiles id) (message : List UInt8) :
    Nameable (fileName id (Sha1.hexDigest message)) := by
  rw [fileName_eq]
  have hlength : bytesIn id + (nameTail (Sha1.hexDigest message)).length ≤ mostNameBytes := by
    rw [nameTail_length]
    exact h.short
  exact nameable_append h.noSlash h.noZero h.hasBytes hlength
    fun _ hc => isNameChar_of_mem_nameTail hc

end LalrBackend.Cache
