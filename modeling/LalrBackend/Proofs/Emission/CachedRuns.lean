import LalrBackend.Proofs.Emission.Calls
import LalrBackend.Proofs.Emission.EmbeddedTables
import Mathlib.Data.List.Induction

/-!
# Runs of cached emissions

Emissions that share a cache directory write what they would write without it. A run is a
list of calls, each with its own grammar, tables and configuration; the file system may be
read-only at any of them. Whatever the calls before, the files of the directory are the
entries that those calls left, and from this alone the outcome of the next call follows.
-/

namespace LalrBackend

open Cache Text

/-! ## Calls before -/

/-- The store after calls one after the other. -/
def storeAfter (start : Store) (calls : List Call) : Store :=
  calls.foldl (fun s call => (call.emit s).store) start

/-- Whether a call is one of those before and left the entry of its tables. -/
def LeftBy (start : Store) (before : List Call) (call : Call) : Prop :=
  ∃ earlier, earlier ++ [call] <+: before ∧ call.Stores (storeAfter start earlier)

/-- Calls that may share a cache directory. Among those that look there, identifiers name
files, tables can be stored, and no digest is that of different bytes. -/
structure AreCacheable (calls : List Call) : Prop where
  names : ∀ call ∈ calls, call.LooksUp → ∀ id, call.config.cacheId = some id → NamesFiles id
  storable : ∀ call ∈ calls, call.LooksUp → call.tables.IsStorable
  digests : ∀ a ∈ calls, ∀ b ∈ calls, a.LooksUp → b.LooksUp →
    Sha1.hexDigest a.digested = Sha1.hexDigest b.digested → a.digested = b.digested

theorem AreCacheable.mono {calls calls' : List Call} (h : AreCacheable calls')
    (hsub : ∀ call ∈ calls, call ∈ calls') : AreCacheable calls :=
  ⟨fun call hcall => h.names call (hsub call hcall),
    fun call hcall => h.storable call (hsub call hcall),
    fun a ha b hb => h.digests a (hsub a ha) b (hsub b hb)⟩

/-! ## Files of calls -/

section Files

variable {calls before : List Call} {a b call : Call} {start s : Store} {id : String}

theorem Call.file?_eq (h : call.config.cacheId = some id) :
    call.file? = some (systemName (fileOf id call.tables call.config.compactReduces)) := by
  rw [file?, h]
  rfl

theorem Call.exists_of_file? {name : String} (h : call.file? = some name) :
    ∃ id, call.config.cacheId = some id ∧
      name = systemName (fileOf id call.tables call.config.compactReduces) := by
  obtain ⟨id, hid, hname⟩ := Option.map_eq_some_iff.mp h
  exact ⟨id, hid, hname.symm⟩

/-- **Two calls ask for one file exactly if they ask for one entry.** -/
theorem Call.sharesEntry_iff (h : AreCacheable calls) (ha : a ∈ calls) (hb : b ∈ calls)
    (hlooks : a.LooksUp) (hlooks' : b.LooksUp) :
    a.SharesEntry b ↔ ∃ name, a.file? = some name ∧ b.file? = some name := by
  constructor
  · rintro ⟨id, id', hid, hid', hbytes, htables, hcompact⟩
    refine ⟨_, a.file?_eq hid, ?_⟩
    rw [b.file?_eq hid', htables, hcompact]
    exact congrArg some (systemName_fileName_inj.mpr ⟨hbytes.symm, rfl⟩)
  · rintro ⟨name, hname, hname'⟩
    obtain ⟨id, hid, hfile⟩ := Call.exists_of_file? hname
    obtain ⟨id', hid', hfile'⟩ := Call.exists_of_file? hname'
    obtain ⟨hbytes, hdigest⟩ := systemName_fileName_inj.mp (hfile.symm.trans hfile')
    obtain ⟨htables, hflag⟩ := keyBytes_inj (h.storable a ha hlooks).writable
      (h.storable b hb hlooks').writable (h.digests a ha b hb hlooks hlooks' hdigest)
    exact ⟨id, id', hid, hid', hbytes, htables, flagOf_inj hflag⟩

/-- The files of a store are the entries of certain calls. -/
def HoldsEntries (s : Store) (stored : Call → Prop) : Prop :=
  ∀ name text, s.textOf? name = some text ↔
    ∃ call, stored call ∧ call.file? = some name ∧ entryText? call.tables = some text

theorem leftBy_mem (h : LeftBy start before call) : call ∈ before ∧ call.LooksUp := by
  obtain ⟨earlier, hends, hstores⟩ := h
  exact ⟨hends.subset (List.mem_append_right _ (List.mem_singleton_self _)), hstores.looks⟩

theorem storeAfter_snoc (start : Store) (before : List Call) (call : Call) :
    storeAfter start (before ++ [call]) = (call.emit (storeAfter start before)).store := by
  rw [storeAfter, List.foldl_append]
  rfl

/-- One more call leaves its own entry, if it leaves one. -/
theorem leftBy_snoc : LeftBy start (before ++ [call]) a ↔
    LeftBy start before a ∨ (a = call ∧ call.Stores (storeAfter start before)) := by
  constructor
  · rintro ⟨earlier, hends, hstores⟩
    rcases List.prefix_concat_iff.mp hends with heq | hends
    · obtain ⟨rfl, hlast⟩ := List.append_inj' heq rfl
      obtain rfl := List.singleton_inj.mp hlast
      exact Or.inr ⟨rfl, hstores⟩
    · exact Or.inl ⟨earlier, hends, hstores⟩
  · rintro (⟨earlier, hends, hstores⟩ | ⟨rfl, hstores⟩)
    · exact ⟨earlier, hends.trans (List.prefix_append _ _), hstores⟩
    · exact ⟨before, List.prefix_rfl, hstores⟩

end Files

/-! ## Runs -/

section Runs

variable {calls before : List Call} {a call next : Call} {start s : Store} {stored : Call → Prop}

/-- Among entries of calls a call finds its own or none. -/
theorem HoldsEntries.packing_spec (hs : HoldsEntries s stored) (h : AreCacheable calls)
    (hstored : ∀ a, stored a → a ∈ calls ∧ a.LooksUp) (hcall : call ∈ calls)
    (hlooks : call.LooksUp) {name : String} (hname : call.file? = some name) :
    PacksAs (call.packing s) (call.found s) call.tables name := by
  obtain ⟨id, hid, hfile⟩ := Call.exists_of_file? hname
  have hcreation : (call.found s).creation = .works ∨ (call.found s).creation = .readOnly := by
    rw [Call.found]
    cases call.readOnly with
    | true => exact Or.inr rfl
    | false => exact Or.inl rfl
  refine pack_spec hid (h.names call hcall hlooks id hid) (h.storable call hcall hlooks) hfile
    hcreation ?_
  -- What is in the file was left by a call that shares the entry, so for the same tables.
  intro text htext
  obtain ⟨a, ha, hafile, hentry⟩ := (hs name text).mp htext
  obtain ⟨hmem, halooks⟩ := hstored a ha
  obtain ⟨_, _, _, _, _, htables, _⟩ :=
    (Call.sharesEntry_iff h hmem hcall halooks hlooks).mpr ⟨name, hafile, hname⟩
  rw [← htables]
  exact hentry

theorem Call.LooksUp.exists_file? (h : call.LooksUp) : ∃ name, call.file? = some name := by
  obtain ⟨id, hid⟩ := Option.isSome_iff_exists.mp h.cached
  exact ⟨_, call.file?_eq hid⟩

/-- One call adds the entry that it leaves to those that are there. -/
theorem HoldsEntries.emit (hs : HoldsEntries s stored) (h : AreCacheable calls)
    (hstored : ∀ a, stored a → a ∈ calls ∧ a.LooksUp) (hcall : call ∈ calls) :
    HoldsEntries (call.emit s).store fun a => stored a ∨ (a = call ∧ call.Stores s) := by
  intro other text
  by_cases hlooks : call.LooksUp
  · obtain ⟨name, hname⟩ := hlooks.exists_file?
    have htexts := (hs.packing_spec h hstored hcall hlooks hname).texts other text
    rw [Call.emit_store_of_passes hlooks.passes, htexts, Call.textOf?_found, hs other text]
    constructor
    · rintro (⟨a, ha, hentry⟩ | ⟨rfl, hroom, hentry⟩)
      · exact ⟨a, Or.inl ha, hentry⟩
      · have hpacks := exists_entryText?_iff.mp ⟨text, hentry⟩
        exact ⟨call, Or.inr ⟨rfl, hlooks, hpacks, hroom⟩, hname, hentry⟩
    · rintro ⟨a, ha | ⟨rfl, hstores⟩, hfile, hentry⟩
      · exact Or.inl ⟨a, ha, hfile, hentry⟩
      · rw [hname] at hfile
        exact Or.inr ⟨(Option.some.inj hfile).symm, hstores.room, hentry⟩
  · have hnot : ¬ call.Stores s := fun hstores => hlooks hstores.looks
    rw [Call.textOf?_emit_of_not_looksUp hlooks, hs other text]
    simp only [hnot, and_false, or_false]

/-- **After every run the files are the entries that its calls left.** -/
theorem holdsEntries_storeAfter (hstart : start.files.getD [] = [])
    (h : AreCacheable before) : HoldsEntries (storeAfter start before) (LeftBy start before) := by
  induction before using List.reverseRecOn with
  | nil =>
      intro name text
      have hnone : ¬ ∃ call, LeftBy start [] call ∧ call.file? = some name ∧
          entryText? call.tables = some text := by
        rintro ⟨call, hleft, _⟩
        exact absurd (leftBy_mem hleft).1 List.not_mem_nil
      show ((start.files.getD []).lookup name = some text) ↔ _
      rw [hstart]
      simp [hnone]
  | append_singleton before call ih =>
      -- The invariant of the calls before goes through the last one.
      have hbefore : AreCacheable before := h.mono fun a ha => List.mem_append_left _ ha
      have hleft : ∀ a, LeftBy start before a → a ∈ before ++ [call] ∧ a.LooksUp := by
        intro a ha
        exact ⟨List.mem_append_left _ (leftBy_mem ha).1, (leftBy_mem ha).2⟩
      have hcall : call ∈ before ++ [call] :=
        List.mem_append_right _ (List.mem_singleton_self _)
      have hstep := (ih hbefore).emit h hleft hcall
      intro name text
      rw [storeAfter_snoc, hstep name text]
      simp only [leftBy_snoc]

section Next

variable (hstart : start.files.getD [] = []) (h : AreCacheable (before ++ [next]))
include hstart h

/-- A call that looks into the cache after others packs what it would pack without it, and
finds an entry exactly if it shares one that was left. -/
theorem packing_after (hlooks : next.LooksUp) :
    (next.packing (storeAfter start before)).result =
        (packPlain (next.found (storeAfter start before)) next.tables).result ∧
      ((next.packing (storeAfter start before)).hit = true ↔
        ∃ earlier, LeftBy start before earlier ∧ earlier.SharesEntry next) := by
  have hbefore : AreCacheable before := h.mono fun a ha => List.mem_append_left _ ha
  have hs := holdsEntries_storeAfter hstart hbefore
  have hleft : ∀ a, LeftBy start before a → a ∈ before ++ [next] ∧ a.LooksUp := by
    intro a ha
    exact ⟨List.mem_append_left _ (leftBy_mem ha).1, (leftBy_mem ha).2⟩
  have hnext : next ∈ before ++ [next] := List.mem_append_right _ (List.mem_singleton_self _)
  have hshares : ∀ a, LeftBy start before a →
      (a.SharesEntry next ↔ ∃ name, a.file? = some name ∧ next.file? = some name) := by
    intro a ha
    obtain ⟨hmem, halooks⟩ := hleft a ha
    exact Call.sharesEntry_iff h hmem hnext halooks hlooks
  obtain ⟨name, hname⟩ := hlooks.exists_file?
  have hpacks := hs.packing_spec h hleft hnext hlooks hname
  refine ⟨hpacks.result, hpacks.hit.trans ?_⟩
  constructor
  · rintro ⟨text, htext⟩
    obtain ⟨earlier, hearlier, hfile, _⟩ := (hs name text).mp htext
    exact ⟨earlier, hearlier, (hshares earlier hearlier).mpr ⟨name, hfile, hname⟩⟩
  · rintro ⟨earlier, hearlier, hsame⟩
    obtain ⟨name', hfile, hname'⟩ := (hshares earlier hearlier).mp hsame
    rw [hname] at hname'
    cases hname'
    have ⟨_, _, hstores⟩ := hearlier
    obtain ⟨text, hentry⟩ := exists_entryText?_iff.mpr hstores.packs
    exact ⟨text, (hs name text).mpr ⟨earlier, hearlier, hfile, hentry⟩⟩

/-- The packing of a call comes to the same without the cache. -/
theorem packing_result_after (hpasses : next.Passes) :
    (next.packing (storeAfter start before)).result =
      (packPlain (next.found (storeAfter start before)) next.tables).result := by
  by_cases hlooks : next.LooksUp
  · exact (packing_after hstart h hlooks).1
  · rw [(Call.packing_of_not_looksUp hpasses hlooks).2]

/-- A hit is noted exactly if the checks pass and an entry is shared. -/
theorem cacheHit_after :
    (next.emit (storeAfter start before)).outcome.report.cacheHit = true ↔
      next.Passes ∧ ∃ earlier, LeftBy start before earlier ∧ earlier.SharesEntry next := by
  rw [(Call.emit_of_packing (packing_result_after hstart h)).2.2.2]
  apply and_congr_right
  intro hpasses
  by_cases hlooks : next.LooksUp
  · exact (packing_after hstart h hlooks).2
  · obtain ⟨hid, hpacking⟩ := Call.packing_of_not_looksUp hpasses hlooks
    rw [hpacking, packPlain_hit]
    simp [Call.SharesEntry, hid]

end Next

/-- **The cache is transparent.** After any calls that share a directory, which was missing
or empty at first, the next call writes the same, warns of the same and reports the same as
without its cache identifier, up to the note of a hit. It is a hit exactly if its checks pass
and one of the calls before left an entry that it shares. -/
theorem emissions_share_cache (hstart : start.files.getD [] = []) (before : List Call)
    (next : Call) (h : AreCacheable (before ++ [next])) :
    let s := storeAfter start before
    (next.emit s).outcome.draft = (next.uncached.emit s).outcome.draft ∧
      (next.emit s).outcome.warnings = (next.uncached.emit s).outcome.warnings ∧
      { (next.emit s).outcome.report with cacheHit := false } =
        (next.uncached.emit s).outcome.report ∧
      ((next.emit s).outcome.report.cacheHit = true ↔
        next.Passes ∧ ∃ earlier, LeftBy start before earlier ∧ earlier.SharesEntry next) := by
  obtain ⟨hdraft, hwarnings, hreport, _⟩ :=
    Call.emit_of_packing (packing_result_after hstart h)
  exact ⟨hdraft, hwarnings, hreport, cacheHit_after hstart h⟩

end Runs

/-! ## A run, and where the cache shows -/

/-- A call for a grammar of one empty production, under a cache identifier. -/
def Call.ofEmptyStart (id : String) (readOnly : Bool) : Call :=
  ⟨{ cacheId := some id }, emptyStart, .fixed [], .fixed [], readOnly⟩

theorem areCacheable_ofEmptyStart {calls : List Call}
    (h : ∀ call ∈ calls, ∃ id readOnly, call = .ofEmptyStart id readOnly ∧ NamesFiles id) :
    AreCacheable calls := by
  refine ⟨?_, ?_, ?_⟩
  · intro call hcall _ id hid
    obtain ⟨id', readOnly, rfl, hnames⟩ := h call hcall
    obtain rfl : id' = id := Option.some.inj hid
    exact hnames
  · intro call hcall _
    obtain ⟨id, readOnly, rfl, _⟩ := h call hcall
    have hstorable : Tables.IsStorable ⟨[0, 0], [], []⟩ :=
      ⟨by decide +kernel, by decide, by decide, by decide⟩
    exact hstorable
  · intro a ha b hb _ _ _
    obtain ⟨id, readOnly, rfl, _⟩ := h a ha
    obtain ⟨id', readOnly', rfl, _⟩ := h b hb
    rfl

theorem leftBy_ofEmptyStart (start : Store) (before : List Call) (id : String) :
    LeftBy start (before ++ [.ofEmptyStart id false]) (.ofEmptyStart id false) :=
  ⟨before, List.prefix_rfl, ⟨⟨_, rfl⟩, rfl⟩, ⟨_, rfl⟩, Or.inr rfl⟩

/-- Of three calls for the same tables the first finds no room for their entry, the second
leaves it and the third takes it. -/
theorem emissions_share_cache_thrice :
    let calls := [Call.ofEmptyStart "c" true, .ofEmptyStart "c" false]
    let third := Call.ofEmptyStart "c" false
    (third.emit (storeAfter .fresh calls)).outcome.draft =
        (third.uncached.emit (storeAfter .fresh calls)).outcome.draft ∧
      (third.emit (storeAfter .fresh calls)).outcome.report.cacheHit = true := by
  have hnames : NamesFiles "c" := ⟨by decide, by decide, by decide, by decide⟩
  have hcacheable : AreCacheable
      ([Call.ofEmptyStart "c" true, .ofEmptyStart "c" false] ++ [.ofEmptyStart "c" false]) := by
    apply areCacheable_ofEmptyStart
    intro call hcall
    simp only [List.cons_append, List.nil_append, List.mem_cons, List.not_mem_nil,
      or_false] at hcall
    rcases hcall with rfl | rfl | rfl
    · exact ⟨"c", true, rfl, hnames⟩
    · exact ⟨"c", false, rfl, hnames⟩
    · exact ⟨"c", false, rfl, hnames⟩
  have hfresh : Store.fresh.files.getD [] = [] := rfl
  obtain ⟨hdraft, _, _, hhit⟩ := emissions_share_cache hfresh _ _ hcacheable
  exact ⟨hdraft, hhit.mpr ⟨⟨_, rfl⟩, _, leftBy_ofEmptyStart _ [_] "c",
    "c", "c", rfl, rfl, rfl, rfl, rfl⟩⟩

/-- A row whose first entry is too wide to be packed and whose second one is too long to be
written. -/
def wideRow : Table.Row :=
  (Table.Row.empty.insert 0 99999).insert 1 (10 ^ 4300 : Nat)

/-- A call that packs such a row under a cache identifier. -/
def Call.ofWideRow : Call :=
  ⟨{ cacheId := some "c" }, emptyStart, .table ⟨2, [wideRow]⟩, .fixed [], false⟩

/-- An identifier of one character beyond ASCII. -/
def accented : String := stringOf [0xe9]

/-- The surrogates of the two bytes of that character, as another identifier. -/
def escapedAccent : String := stringOf [0xdcc3, 0xdca9]

theorem Call.ofWideRow_packing :
    (Call.ofWideRow.packing .fresh).result = .error (.cache .tooLong) := by
  have hid : Call.ofWideRow.config.cacheId = some "c" := rfl
  have hlong : Call.ofWideRow.tables.isWritable = false := by decide +kernel
  rw [Call.packing, pack, hid]
  simp only
  rw [packCached_of_not_writable hlong]

theorem Call.ofWideRow_packing_uncached :
    (Call.ofWideRow.uncached.packing .fresh).result =
      .error (.refused (.valueTooWide 99999)) := by
  have hid : Call.ofWideRow.uncached.config.cacheId = none := rfl
  have hfind : (Call.ofWideRow.uncached.tables.action.find? fun v => !Packed.fits v) =
      some 99999 := by decide +kernel
  have hproduction : Packed.encode Call.ofWideRow.uncached.tables.production = .ok _ := rfl
  have haction : Packed.encode Call.ofWideRow.uncached.tables.action =
      .error (.valueTooWide 99999) := by
    rw [Packed.encode, hfind]
  have hunits : packAll Call.ofWideRow.uncached.tables = .error (.valueTooWide 99999) := by
    rw [packAll, hproduction, haction]
    rfl
  rw [Call.packing, pack, hid]
  simp only
  rw [packPlain, hunits]

/-- **Where the cache shows.** Identifiers that are not equal share an entry if they have
the same bytes, and tables with a number that is too long to be written fail for this number
before they fail for being too wide. -/
theorem cache_shows :
    (pointsOf accented ≠ pointsOf escapedAccent ∧
      ((Call.ofEmptyStart escapedAccent false).emit
        (storeAfter .fresh [.ofEmptyStart accented false])).outcome.report.cacheHit = true) ∧
    ((Call.ofWideRow.emit .fresh).outcome.draft.failure = some (.cache .tooLong) ∧
      (Call.ofWideRow.uncached.emit .fresh).outcome.draft.failure =
        some (.refused (.valueTooWide 99999))) := by
  have hfresh : Store.fresh.files.getD [] = [] := rfl
  have hstart : checkedStart Call.ofWideRow.grammar = .ok _ := rfl
  refine ⟨⟨by decide, ?_⟩, ?_, ?_⟩
  · have hnames : NamesFiles accented := ⟨by decide, by decide, by decide, by decide⟩
    have hnames' : NamesFiles escapedAccent := ⟨by decide, by decide, by decide, by decide⟩
    have hcacheable : AreCacheable
        ([.ofEmptyStart accented false] ++ [.ofEmptyStart escapedAccent false]) := by
      apply areCacheable_ofEmptyStart
      intro call hcall
      simp only [List.cons_append, List.nil_append, List.mem_cons, List.not_mem_nil,
        or_false] at hcall
      rcases hcall with rfl | rfl
      · exact ⟨accented, false, rfl, hnames⟩
      · exact ⟨escapedAccent, false, rfl, hnames'⟩
    exact (cacheHit_after hfresh hcacheable).mpr ⟨⟨_, rfl⟩, _, leftBy_ofEmptyStart _ [] accented,
      accented, escapedAccent, rfl, rfl, by decide, rfl, rfl⟩
  · rw [Call.ofWideRow.emit_of_unpacked hstart Call.ofWideRow_packing]
    rfl
  · rw [Call.ofWideRow.uncached.emit_of_unpacked hstart Call.ofWideRow_packing_uncached]
    rfl

end LalrBackend
