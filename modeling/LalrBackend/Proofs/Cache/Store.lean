import LalrBackend.Packing
import LalrBackend.Proofs.Cache.Entry

/-!
# Files and packings

A file of the cache directory is found under the name under which it was put there, and
no other file changes. Packing with a cache comes to the same as packing anew when the
file of the tables is missing, and also when it holds their entry.
-/

namespace LalrBackend.Cache

open Text JsonValue Failure

/-! ## Files -/

theorem Store.lookup_insertFile (name text other : String) (files : List (String × String)) :
    (insertFile name text files).lookup other =
      if other = name then some text else files.lookup other := by
  have hcons : ∀ (f : String × String) (fs : List (String × String)),
      (f :: fs).lookup other = if other = f.1 then some f.2 else fs.lookup other := by
    intro f fs
    rw [List.lookup_cons]
    by_cases h : other = f.1
    · simp [h]
    · simp [h, beq_eq_false_iff_ne.mpr h]
  -- The cases are those of the place where the file comes to stand.
  induction files with
  | nil => rw [insertFile, hcons]
  | cons f fs ih =>
      unfold insertFile
      by_cases hbefore : pointsOf name < pointsOf f.1
      · rw [if_pos hbefore, hcons]
      · rw [if_neg hbefore]
        by_cases hsame : name = f.1
        · rw [if_pos hsame, hcons, hcons]
          by_cases hother : other = name
          · rw [if_pos hother, if_pos hother]
          · rw [if_neg hother, if_neg hother, if_neg (hsame ▸ hother)]
        · rw [if_neg hsame, hcons, hcons, ih]
          by_cases hother : other = f.1
          · rw [if_pos hother, if_pos hother, if_neg]
            intro heq
            exact hsame (heq.symm.trans hother)
          · rw [if_neg hother, if_neg hother]

namespace Store

/-- The text of a file of the cache directory. -/
def textOf? (s : Store) (name : String) : Option String :=
  (s.files.getD []).lookup name

/-- Whether the cache directory is there once something is to be stored. -/
def HasRoom (s : Store) : Prop :=
  s.files.isSome = true ∨ s.creation = .works

variable {s : Store} {path : String}

theorem place_of_nameable (h : Nameable path) (s : Store) :
    s.place path = .ok ⟨0, systemName path⟩ :=
  placeOf_of_nameable h _

/-- A path that is a name leads to the file that the system has under it. -/
theorem read?_of_nameable (h : Nameable path) (s : Store) :
    s.read? path = s.textOf? (systemName path) := by
  rw [read?, place_of_nameable h]
  cases s with
  | mk files outside creation =>
      cases files with
      | none => rfl
      | some files => rfl

/-- Where there is room, a file is put under its name. -/
theorem write_of_hasRoom (h : Nameable path) (hroom : s.HasRoom) (text : String) :
    ∃ s', s.write path text = (s', none) ∧ s'.files.isSome = true ∧
      ∀ name, s'.textOf? name =
        if name = systemName path then some text else s.textOf? name := by
  have hput : ∀ s : Store,
      s.put path text = (s.putAt ⟨0, systemName path⟩ text, none) := by
    intro s
    rw [put, place_of_nameable h]
  cases s with
  | mk files outside creation =>
      cases files with
      | some files =>
          refine ⟨_, hput ⟨some files, outside, creation⟩, rfl, ?_⟩
          intro name
          exact lookup_insertFile (systemName path) text name files
      | none =>
          obtain rfl : creation = .works := by simpa [HasRoom] using hroom
          refine ⟨_, hput ⟨some [], outside, .works⟩, rfl, ?_⟩
          intro name
          exact lookup_insertFile (systemName path) text name []

/-- On a read-only file system without the directory nothing happens. -/
theorem write_of_readOnly (hfiles : s.files = none) (hcreation : s.creation = .readOnly)
    (path text : String) : s.write path text = (s, none) := by
  rw [write, hfiles, hcreation]

end Store

end LalrBackend.Cache

namespace LalrBackend

open Cache JsonValue

/-! ## Packings -/

section Packing

variable {s : Store} {file : String} {t units : Tables}

/-- A file with the entry of the tables is as good as packing them. -/
theorem packCached_of_entry (ht : t.IsStorable) (hunits : packAll t = .ok units)
    (hread : s.read? file = some (entryOf units).toText) :
    packCached s file t = ⟨.ok (.ofUnits units), true, s⟩ := by
  have hlookup : lookup s file = .ok (some (entryOf units)) := by
    rw [lookup, hread]
    simp only [ofText_entryOf hunits ht]
    rfl
  have hvalid : lookupValid s file t = .ok (some (entryOf units)) := by
    rw [lookupValid, hlookup]
    show (do if ← isValid (entryOf units) t then _ else _) = _
    rw [isValid_entryOf hunits]
    rfl
  rw [packCached, if_neg (by simp [ht.writable]), hvalid]
  simp only [ofEntry_entryOf]
  rfl

/-- Tables with a number that is too long have no key, whatever the cache holds. -/
theorem packCached_of_not_writable (ht : t.isWritable = false) :
    packCached s file t = ⟨.error (.cache .tooLong), false, s⟩ := by
  rw [packCached, ht]
  rfl

/-- Without a file the tables are packed and stored. -/
theorem packCached_of_missing (ht : t.isWritable = true) (hread : s.read? file = none) :
    packCached s file t = packAndStore s file t := by
  have hvalid : lookupValid s file t = .ok none := by
    rw [lookupValid, lookup, hread]
    rfl
  rw [packCached, if_neg (by simp [ht]), hvalid]

theorem packAndStore_of_error {e : GeneratorError} (hunits : packAll t = .error e) :
    packAndStore s file t = ⟨.error (.refused e), false, s⟩ := by
  rw [packAndStore, hunits]

theorem packAndStore_of_ok {s' : Store} (hunits : packAll t = .ok units)
    (hwrite : s.write file (entryOf units).toText = (s', none)) :
    packAndStore s file t = ⟨.ok (.ofUnits units), false, s'⟩ := by
  rw [packAndStore, hunits]
  simp only [hwrite]

/-- The text of the entry that belongs to tables, if they can be packed. -/
def entryText? (t : Tables) : Option String :=
  (packAll t).toOption.map fun units => (entryOf units).toText

/-- What a packing with a cache comes to beside one without it, for tables whose entry
belongs in the file of a name: the result is the same, it is a hit exactly if the file is
there, and the only file that may be new is this one. -/
structure PacksAs (p : Packing) (s : Store) (t : Tables) (name : String) : Prop where
  result : p.result = (packPlain s t).result
  hit : p.hit = true ↔ ∃ text, s.textOf? name = some text
  texts : ∀ other text, p.store.textOf? other = some text ↔
    s.textOf? other = some text ∨ (other = name ∧ s.HasRoom ∧ entryText? t = some text)

theorem entryText?_of_ok (hunits : packAll t = .ok units) :
    entryText? t = some (entryOf units).toText := by
  rw [entryText?, hunits]
  rfl

theorem entryText?_of_error {e : GeneratorError} (hunits : packAll t = .error e) :
    entryText? t = none := by
  rw [entryText?, hunits]
  rfl

theorem entryText?_eq_some {text : String} (h : entryText? t = some text) :
    ∃ units, packAll t = .ok units ∧ text = (entryOf units).toText := by
  cases hunits : packAll t with
  | error e =>
      rw [entryText?_of_error hunits] at h
      cases h
  | ok units =>
      rw [entryText?_of_ok hunits] at h
      exact ⟨units, rfl, (Option.some.inj h).symm⟩

theorem exists_entryText?_iff :
    (∃ text, entryText? t = some text) ↔ ∃ units, packAll t = .ok units := by
  constructor
  · rintro ⟨text, htext⟩
    obtain ⟨units, hunits, _⟩ := entryText?_eq_some htext
    exact ⟨units, hunits⟩
  · rintro ⟨units, hunits⟩
    exact ⟨_, entryText?_of_ok hunits⟩

section PacksAs

variable {name : String} (hread : s.read? file = s.textOf? name)
include hread

/-- Nothing is written if the entry is there: its file has no other text to get. -/
theorem packsAs_of_entry (ht : t.IsStorable) {text : String} (htext : s.textOf? name = some text)
    (hentry : entryText? t = some text) : PacksAs (packCached s file t) s t name := by
  obtain ⟨units, hunits, rfl⟩ := entryText?_eq_some hentry
  rw [htext] at hread
  rw [packCached_of_entry ht hunits hread]
  refine ⟨?_, ?_, ?_⟩
  · rw [packPlain, hunits]
  · exact ⟨fun _ => ⟨_, htext⟩, fun _ => rfl⟩
  · intro other new
    constructor
    · intro hother
      exact Or.inl hother
    · rintro (hother | ⟨rfl, _, hnew⟩)
      · exact hother
      · rw [← hnew, hentry]
        exact htext

/-- Nothing is written if the tables cannot be packed. -/
theorem packsAs_of_error (ht : t.isWritable = true) (hmissing : s.textOf? name = none)
    {e : GeneratorError} (hunits : packAll t = .error e) :
    PacksAs (packCached s file t) s t name := by
  rw [hmissing] at hread
  rw [packCached_of_missing ht hread, packAndStore_of_error hunits]
  refine ⟨?_, ?_, ?_⟩
  · rw [packPlain, hunits]
  · simp [hmissing]
  · intro other new
    simp [entryText?_of_error hunits]

variable (hnameable : Nameable file) (hname : name = systemName file)
include hnameable hname

/-- The entry is written where there is room for it. -/
theorem packsAs_of_hasRoom (ht : t.isWritable = true) (hmissing : s.textOf? name = none)
    (hunits : packAll t = .ok units) (hroom : s.HasRoom) :
    PacksAs (packCached s file t) s t name := by
  obtain ⟨s', hwrite, _, htexts⟩ :=
    Store.write_of_hasRoom hnameable hroom (entryOf units).toText
  rw [hmissing] at hread
  rw [packCached_of_missing ht hread, packAndStore_of_ok hunits hwrite]
  refine ⟨?_, ?_, ?_⟩
  · rw [packPlain, hunits]
  · simp [hmissing]
  · intro other new
    rw [htexts, ← hname, entryText?_of_ok hunits]
    by_cases hother : other = name
    · rw [if_pos hother, hother, hmissing]
      simp [hroom]
    · rw [if_neg hother]
      simp [hother]

omit hnameable hname in
/-- Nothing is written on a read-only file system without the directory. -/
theorem packsAs_of_readOnly (ht : t.isWritable = true) (hmissing : s.textOf? name = none)
    (hunits : packAll t = .ok units) (hcreation : s.creation = .works ∨ s.creation = .readOnly)
    (hroom : ¬ s.HasRoom) : PacksAs (packCached s file t) s t name := by
  have hfiles : s.files = none := by
    by_contra hsome
    exact hroom (Or.inl (Option.isSome_iff_ne_none.mpr hsome))
  have hreadOnly : s.creation = .readOnly := by
    rcases hcreation with hworks | hreadOnly
    · exact absurd (Or.inr hworks) hroom
    · exact hreadOnly
  have hwrite := Store.write_of_readOnly hfiles hreadOnly file (entryOf units).toText
  rw [hmissing] at hread
  rw [packCached_of_missing ht hread, packAndStore_of_ok hunits hwrite]
  refine ⟨?_, ?_, ?_⟩
  · rw [packPlain, hunits]
  · simp [hmissing]
  · intro other new
    simp [hroom]

end PacksAs

/-- **Packing with a cache comes to what packing without it comes to**, if the file of the
tables holds nothing but their entry. -/
theorem pack_spec {c : Config} {id name : String} (hc : c.cacheId = some id)
    (hid : NamesFiles id) (ht : t.IsStorable)
    (hname : name = systemName (fileOf id t c.compactReduces))
    (hcreation : s.creation = .works ∨ s.creation = .readOnly)
    (hfile : ∀ text, s.textOf? name = some text → entryText? t = some text) :
    PacksAs (pack c s t) s t name := by
  have hnameable : Nameable (fileOf id t c.compactReduces) := hid.nameable _
  have hread : s.read? (fileOf id t c.compactReduces) = s.textOf? name := by
    rw [Store.read?_of_nameable hnameable, hname]
  have hpack : pack c s t = packCached s (fileOf id t c.compactReduces) t := by
    rw [pack, hc]
  rw [hpack]
  cases hfound : s.textOf? name with
  | some text => exact packsAs_of_entry hread ht hfound (hfile text hfound)
  | none =>
      cases hunits : packAll t with
      | error e => exact packsAs_of_error hread ht.writable hfound hunits
      | ok units =>
          by_cases hroom : s.HasRoom
          · exact packsAs_of_hasRoom hread hnameable hname ht.writable hfound hunits hroom
          · exact packsAs_of_readOnly hread ht.writable hfound hunits hcreation hroom

end Packing

end LalrBackend
