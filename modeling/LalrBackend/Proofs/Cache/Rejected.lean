import LalrBackend.Proofs.Cache.Store

/-!
# Rejected entries

An entry that is the JSON null, or that cannot stand for the tables, counts as none. The
tables are packed anew and their entry takes its place; no other file changes, and from then
on the entry is found.
-/

namespace LalrBackend.Cache

open Text JsonValue Failure

/-! ## Files that are there -/

/-- A path without a slash that leads to a file is a name that the system can give. -/
theorem nameable_of_placeOf {path : String} {isFile : Place → Bool} {place : Place}
    (hslash : '/' ∉ path.toList) (h : placeOf isFile path = .ok place) : Nameable path := by
  have hsplit : path.toList.splitOn '/' = [path.toList] := by
    apply List.splitOnP_eq_singleton
    intro c hc
    rw [beq_eq_false_iff_ne]
    rintro rfl
    exact hslash hc
  unfold placeOf at h
  simp only [hsplit, List.map_cons, List.map_nil, String.ofList_toList, follow] at h
  -- Each refusal on the way names a part of what makes a name.
  split at h
  · cases h
  · rename_i hbytes
    split at h
    · cases h
    · rename_i hzero
      split at h
      · cases h
      · split at h
        · cases h
        · split at h
          · cases h
          · rename_i hshort
            refine ⟨hslash, hzero, ?_, Nat.not_lt.mp hshort⟩
            intro point hpoint hsurrogate
            by_contra hstands
            exact hbytes (List.any_eq_true.mpr ⟨point, hpoint, by simp [hsurrogate, hstands]⟩)

namespace Store

variable {s : Store} {path text : String}

theorem nameable_of_read? (hslash : '/' ∉ path.toList) (h : s.read? path = some text) :
    Nameable path := by
  unfold read? at h
  cases hplace : s.place path with
  | error fault => simp [hplace, Except.toOption] at h
  | ok place => exact nameable_of_placeOf hslash hplace

/-- A directory in which a file was found is there. -/
theorem exists_files_of_read? (h : s.read? path = some text) : ∃ files, s.files = some files := by
  obtain ⟨place, _, hplace⟩ := Option.bind_eq_some_iff.mp h
  obtain ⟨files, hfiles, _⟩ := Option.bind_eq_some_iff.mp hplace
  exact ⟨files, hfiles⟩

/-- A file that is written into a directory is the only one that changes, at any place. -/
theorem write_of_files {files : List (String × String)} (hfiles : s.files = some files)
    (hpath : Nameable path) (text : String) :
    ∃ s', s.write path text = (s', none) ∧ ∀ place, s'.textAt? place =
      if place = ⟨0, systemName path⟩ then some text else s.textAt? place := by
  refine ⟨s.putAt ⟨0, systemName path⟩ text, ?_, ?_⟩
  · rw [write, hfiles, put, place_of_nameable hpath]
  · intro place
    cases place with
    | mk above name =>
        by_cases habove : above = 0
        · subst habove
          simp [putAt, textAt?, hfiles, lookup_insertFile]
        · simp [putAt, textAt?, hfiles, habove]

end Store

end LalrBackend.Cache

namespace LalrBackend

open Cache JsonValue Failure

/-! ## Packings -/

/-- Whether a value that lies in the file of tables counts as no entry of them. -/
def IsRejected (data : JsonValue) (t : Tables) : Prop :=
  data = .null ∨ isValid data t = .ok false

section Packing

variable {s : Store} {file text : String} {t units : Tables} {data : JsonValue}

theorem lookupValid_of_rejected (hread : s.read? file = some text)
    (hdata : ofText text = .ok data) (h : IsRejected data t) :
    lookupValid s file t = .ok none := by
  by_cases hnull : data = .null
  · have hlookup : lookup s file = .ok none := by
      rw [lookup, hread]
      simp only [hdata, hnull]
    rw [lookupValid, hlookup]
    rfl
  · have hlookup : lookup s file = .ok (some data) := by
      rw [lookup, hread]
      simp only [hdata]
    have hvalid : isValid data t = .ok false := h.resolve_left hnull
    rw [lookupValid, hlookup]
    show (do if ← isValid data t then _ else _) = _
    rw [hvalid]
    rfl

/-- Tables whose entry is rejected are packed as if there were none. -/
theorem packCached_of_rejected (ht : t.isWritable = true) (hread : s.read? file = some text)
    (hdata : ofText text = .ok data) (h : IsRejected data t) :
    packCached s file t = packAndStore s file t := by
  rw [packCached, if_neg (by simp [ht]), lookupValid_of_rejected hread hdata h]

/-- Tables that can be packed have no number that is too long to be written. -/
theorem isWritable_of_packAll (h : packAll t = .ok units) : t.isWritable = true := by
  have hnumbers : ∀ {values units : List Int}, Packed.encode values = .ok units →
      values.all Text.isWritable = true := by
    intro values units hencode
    obtain ⟨hfits, _⟩ := Packed.encode_eq_ok_iff.mp hencode
    refine List.all_eq_true.mpr fun v hv => ?_
    obtain ⟨hlow, hhigh⟩ := Packed.fits_iff.mp (hfits v hv)
    have hpow : (10 : Nat) ^ 5 ≤ 10 ^ Text.mostDigits := Nat.pow_le_pow_right (by decide) (by decide)
    rw [Text.isWritable, decide_eq_true_eq, Nat.pow_eq]
    omega
  obtain ⟨hproduction, haction, hreduce⟩ := packAll_eq_ok h
  exact Tables.isWritable_iff.mpr
    ⟨hnumbers hproduction, hnumbers haction, hnumbers hreduce⟩

/-- **A rejected entry heals itself.** The tables are packed anew, their file holds their
entry afterwards and no other file changes, and from then on the entry is taken. -/
theorem packCached_heals (hslash : '/' ∉ file.toList) (ht : t.IsStorable)
    (hunits : packAll t = .ok units) (hread : s.read? file = some text)
    (hdata : ofText text = .ok data) (h : IsRejected data t) :
    ∃ s', packCached s file t = ⟨.ok (.ofUnits units), false, s'⟩ ∧
      s'.read? file = some (entryOf units).toText ∧
      (∀ place, place ≠ ⟨0, systemName file⟩ → s'.textAt? place = s.textAt? place) ∧
      packCached s' file t = ⟨.ok (.ofUnits units), true, s'⟩ := by
  have hname := Store.nameable_of_read? hslash hread
  obtain ⟨files, hfiles⟩ := Store.exists_files_of_read? hread
  obtain ⟨s', hwrite, htexts⟩ := Store.write_of_files hfiles hname (entryOf units).toText
  have hread' : s'.read? file = some (entryOf units).toText := by
    rw [Store.read?, Store.place_of_nameable hname]
    exact (htexts _).trans (if_pos rfl)
  refine ⟨s', ?_, hread', ?_, packCached_of_entry ht hunits hread'⟩
  · rw [packCached_of_rejected ht.writable hread hdata h, packAndStore_of_ok hunits hwrite]
  · intro place hplace
    rw [htexts, if_neg hplace]

end Packing

end LalrBackend
