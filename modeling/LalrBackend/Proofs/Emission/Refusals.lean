import LalrBackend.Proofs.Cache.Entry
import LalrBackend.Proofs.Emission.Outcome
import LalrBackend.Proofs.Failure
import LalrBackend.Proofs.Packed.Canonical

/-!
# Why an emission fails

A parser is refused for the start production that it lacks or for the first production that
is not in its place, then for the first value of its tables that is out of range, then for an
entry of a right side that stands for no part. Each of the three is told here from the
grammar and the tables alone.
-/

namespace LalrBackend

open Cache Failure

/-! ## Places -/

/-- There is a start production, and each production is at the position of its index. -/
structure Grammar.IsPlaced (g : Grammar) : Prop where
  starts : ∃ start, g.startProduction? = some start
  placed : ∀ (i : Nat) (p : Production), g.productions[i]? = some p → p.index = i

section Places

variable {g : Grammar} {ps : List Production} {p start : Production} {first n : Nat}

/-- A production is found to be misplaced if those before it are in their places. -/
theorem misplaced?_eq_some_iff : misplaced? first ps = some (p, n) ↔
    ∃ i, ps[i]? = some p ∧ n = first + i ∧ p.index ≠ n ∧
      ∀ (j : Nat) (q : Production), j < i → ps[j]? = some q → q.index = first + j := by
  induction ps generalizing first with
  | nil => simp [misplaced?]
  | cons q qs ih =>
      rw [misplaced?]
      by_cases hq : q.index = first
      · rw [if_pos hq, ih]
        constructor
        · rintro ⟨i, hi, rfl, hne, hbefore⟩
          refine ⟨i + 1, hi, by omega, hne, ?_⟩
          rintro (_ | j) r hj hr
          · cases hr
            simpa using hq
          · have hindex := hbefore j r (by omega) hr
            omega
        · rintro ⟨_ | i, hi, rfl, hne, hbefore⟩
          · cases hi
            exact absurd (by simpa using hq) hne
          · refine ⟨i, hi, by omega, hne, ?_⟩
            intro j r hj hr
            have hindex := hbefore (j + 1) r (by omega) hr
            omega
      · rw [if_neg hq]
        constructor
        · intro h
          cases h
          exact ⟨0, rfl, rfl, hq, fun j _ hj => absurd hj (by omega)⟩
        · rintro ⟨_ | i, hi, rfl, hne, hbefore⟩
          · cases hi
            rfl
          · exact absurd (by simpa using hbefore 0 q (by omega) rfl) hq

theorem misplaced?_eq_none_iff : misplaced? first ps = none ↔
    ∀ (i : Nat) (p : Production), ps[i]? = some p → p.index = first + i := by
  induction ps generalizing first with
  | nil => simp [misplaced?]
  | cons q qs ih =>
      rw [misplaced?]
      by_cases hq : q.index = first
      · rw [if_pos hq, ih]
        constructor
        · rintro h (_ | i) p hp
          · cases hp
            simpa using hq
          · have hindex := h i p hp
            omega
        · intro h i p hp
          have hindex := h (i + 1) p hp
          omega
      · rw [if_neg hq]
        constructor
        · intro h
          cases h
        · intro h
          exact absurd (by simpa using h 0 q rfl) hq

/-- The checks give the start production of a grammar whose productions are in their
places. -/
theorem checkedStart_eq_ok_iff : checkedStart g = .ok start ↔
    g.startProduction? = some start ∧
      ∀ (i : Nat) (p : Production), g.productions[i]? = some p → p.index = i := by
  have hplaces := @misplaced?_eq_none_iff g.productions 0
  simp only [Int.natCast_zero, Int.zero_add] at hplaces
  unfold checkedStart
  cases hstart : g.startProduction? with
  | none => simp
  | some q =>
      cases hmisplaced : misplaced? 0 g.productions with
      | some misplaced =>
          rw [hmisplaced] at hplaces
          simp [← hplaces]
      | none =>
          rw [hmisplaced] at hplaces
          simpa using fun _ => hplaces.mp rfl

theorem Grammar.isPlaced_iff : g.IsPlaced ↔ ∃ start, checkedStart g = .ok start := by
  constructor
  · rintro ⟨⟨start, hstart⟩, hplaced⟩
    exact ⟨start, checkedStart_eq_ok_iff.mpr ⟨hstart, hplaced⟩⟩
  · rintro ⟨start, h⟩
    obtain ⟨hstart, hplaced⟩ := checkedStart_eq_ok_iff.mp h
    exact ⟨⟨start, hstart⟩, hplaced⟩

/-- What the checks refuse a grammar for: it has no start production, or it has one and a
production is the first that is not in its place. -/
inductive Grammar.RefusedFor (g : Grammar) : GeneratorError → Prop where
  | noStart (h : g.startProduction? = none) : g.RefusedFor .noStart
  | misplaced {start p : Production} {i : Nat} (hstart : g.startProduction? = some start)
      (hp : g.productions[i]? = some p) (hne : p.index ≠ i)
      (hbefore : ∀ (j : Nat) (q : Production), j < i → g.productions[j]? = some q →
        q.index = j) :
      g.RefusedFor (.misplaced p.shown p.index i)

theorem refusedFor_of_checkedStart {e : GeneratorError} (h : checkedStart g = .error e) :
    g.RefusedFor e := by
  unfold checkedStart at h
  cases hstart : g.startProduction? with
  | none =>
      rw [hstart] at h
      cases h
      exact .noStart hstart
  | some start =>
      rw [hstart] at h
      cases hmisplaced : misplaced? 0 g.productions with
      | none => simp [hmisplaced] at h
      | some misplaced =>
          obtain ⟨p, n⟩ := misplaced
          obtain ⟨i, hp, hn, hne, hbefore⟩ := misplaced?_eq_some_iff.mp hmisplaced
          obtain rfl : n = i := by omega
          simp only [hmisplaced, Except.error.injEq] at h
          subst h
          refine .misplaced hstart hp hne fun j q hj hq => ?_
          have hindex := hbefore j q hj hq
          omega

theorem index_of_checkedStart (h : checkedStart g = .ok start) {i : Nat}
    (hp : g.productions[i]? = some p) : p.index = i :=
  (checkedStart_eq_ok_iff.mp h).2 i p hp

end Places

/-! ## Values -/

/-- The values of the three tables, in the order in which they are packed. -/
def Cache.Tables.values (t : Tables) : List Int :=
  t.production ++ t.action ++ t.reduce

/-- The units that three tables are packed into. -/
def Cache.Tables.units (t : Tables) : Tables :=
  ⟨Packed.unitsFor t.production, Packed.unitsFor t.action, Packed.unitsFor t.reduce⟩

/-- Tables whose values are all in range. -/
def Cache.Tables.InRange (t : Tables) : Prop :=
  ∀ v ∈ t.values, Packed.InRange v

section Values

open Packed

variable {t units : Tables} {e : GeneratorError}

theorem encode_eq (values : List Int) : encode values =
    match values.find? fun v => !fits v with
    | some v => .error (.valueTooWide v)
    | none => .ok (unitsFor values) := by
  unfold encode
  cases values.find? fun v => !fits v with
  | some v => rfl
  | none => rfl

/-- Packing fails for the first value that does not fit, whichever table it is in. -/
theorem packAll_eq (t : Tables) : packAll t =
    match t.values.find? fun v => !fits v with
    | some v => .error (.valueTooWide v)
    | none => .ok t.units := by
  rw [packAll, Tables.values, List.find?_append, List.find?_append, encode_eq, encode_eq,
    encode_eq]
  cases t.production.find? fun v => !fits v with
  | some v => rfl
  | none =>
      cases t.action.find? fun v => !fits v with
      | some v => rfl
      | none =>
          cases t.reduce.find? fun v => !fits v with
          | some v => rfl
          | none => rfl

theorem packAll_of_inRange (h : t.InRange) : packAll t = .ok t.units := by
  have hfind : (t.values.find? fun v => !fits v) = none := by
    rw [List.find?_eq_none]
    intro v hv
    rw [not_fits_iff, not_not]
    exact h v hv
  rw [packAll_eq, hfind]

theorem packAll_of_not_inRange (h : ¬ t.InRange) :
    ∃ v, FirstOutOfRange t.values v ∧ packAll t = .error (.valueTooWide v) := by
  rw [packAll_eq]
  cases hfind : t.values.find? fun v => !fits v with
  | some v => exact ⟨v, find?_not_fits_eq_some_iff.mp hfind, rfl⟩
  | none =>
      refine absurd (fun v hv => ?_) h
      have hfits := List.find?_eq_none.mp hfind v hv
      rwa [not_fits_iff, not_not] at hfits

end Values

/-! ## Parts -/

/-- Each position of a right side stands for a part of the base. -/
def Grammar.HasParts (g : Grammar) : Prop :=
  ∀ p ∈ g.productions, ∀ i < p.length, ∃ part, p.part i = .ok part

section Parts

open Reduction

variable {c : Config} {g : Grammar} {p : Production} {e : GrammarError}

theorem exists_bindingsAt_iff {positions : List Nat} :
    (∃ statements, bindingsAt c p positions = .ok statements) ↔
      ∀ i ∈ positions, ∃ part, p.part i = .ok part := by
  induction positions with
  | nil => simp [bindingsAt]
  | cons i rest ih =>
      rw [List.forall_mem_cons, ← ih]
      simp only [bindingsAt, bind_eq_ok, pure_eq_ok, Except.ok.injEq]
      constructor
      · rintro ⟨_, part, hpart, statements, hrest, _⟩
        exact ⟨⟨part, hpart⟩, statements, hrest⟩
      · rintro ⟨⟨part, hpart⟩, statements, hrest⟩
        exact ⟨_, part, hpart, statements, hrest, rfl⟩

theorem exists_of_bindingsAt_eq_error {positions : List Nat}
    (h : bindingsAt c p positions = .error e) : ∃ i ∈ positions, p.part i = .error e := by
  induction positions with
  | nil => cases h
  | cons i rest ih =>
      rw [bindingsAt] at h
      cases hpart : p.part i with
      | error e' =>
          rw [hpart] at h
          cases h
          exact ⟨i, List.mem_cons_self, hpart⟩
      | ok part =>
          cases hrest : bindingsAt c p rest with
          | error e' =>
              rw [hpart, hrest] at h
              cases h
              obtain ⟨j, hj, hjpart⟩ := ih hrest
              exact ⟨j, List.mem_cons_of_mem i hj, hjpart⟩
          | ok statements =>
              rw [hpart, hrest] at h
              cases h

theorem mem_positionsDown {i : Nat} : i ∈ positionsDown p ↔ i < p.length := by
  rw [positionsDown, List.mem_reverse, List.mem_range]

/-- A production has a body if each of its positions stands for a part. -/
theorem exists_body_iff (isStart : Bool) : (∃ b, body c p isStart = .ok b) ↔
    ∀ i < p.length, ∃ part, p.part i = .ok part := by
  simp only [← mem_positionsDown]
  rw [← exists_bindingsAt_iff (c := c)]
  simp only [body, bind_eq_ok, pure_eq_ok, Except.ok.injEq]
  constructor
  · rintro ⟨_, statements, hbindings, _⟩
    exact ⟨statements, hbindings⟩
  · rintro ⟨statements, hbindings⟩
    exact ⟨_, statements, hbindings, rfl⟩

theorem exists_of_body_eq_error {isStart : Bool} (h : body c p isStart = .error e) :
    ∃ i < p.length, p.part i = .error e := by
  cases hbindings : bindingsAt c p (positionsDown p) with
  | ok statements =>
      rw [body, hbindings] at h
      cases h
  | error e' =>
      rw [body, hbindings] at h
      cases h
      obtain ⟨i, hi, hpart⟩ := exists_of_bindingsAt_eq_error hbindings
      exact ⟨i, mem_positionsDown.mp hi, hpart⟩

end Parts

/-! ## Modules -/

namespace Draft

variable {ε : Type}

/-- A draft that fails is a part of several drafts that fails. -/
theorem exists_of_concat_failure {ds : List (Draft ε)} {e : ε}
    (h : (concat ds).failure = some e) : ∃ d ∈ ds, d.failure = some e := by
  induction ds with
  | nil => cases h
  | cons d ds ih =>
      have hcons : concat (d :: ds) = d ++ concat ds := rfl
      rw [hcons] at h
      cases hd : d.failure with
      | none =>
          rw [append_of_failure_eq_none hd] at h
          obtain ⟨d', hmem, hd'⟩ := ih h
          exact ⟨d', List.mem_cons_of_mem d hmem, hd'⟩
      | some e' =>
          rw [append_of_failure_eq_some hd, hd] at h
          cases h
          exact ⟨d, List.mem_cons_self, hd⟩

end Draft

namespace ParserModule

variable {c : Config} {g : Grammar} {start : Int} {t units : Tables}

theorem actionMethods_getElem? (c : Config) (s : Option Nat) (ps : List Production) (i : Nat) :
    (actionMethods c s ps)[i]? = ps[i]?.map fun p =>
      ⟨p, (Reduction.body c p (s == some i)).mapError .ofGrammar⟩ := by
  rw [actionMethods, List.getElem?_map, List.getElem?_zipIdx, Option.map_map]
  simp [Function.comp_def]

/-- A method fails exactly as its body does. -/
theorem draft_failure_of_body {a : ActionMethod} :
    (∀ b, a.body = .ok b → (a.draft c).failure = none) ∧
      ∀ e, a.body = .error e → (a.draft c).failure = some e := by
  rw [ActionMethod.draft, Draft.append_of_failure_eq_none (Draft.ofLines_failure _)]
  refine ⟨fun b hb => ?_, fun e he => ?_⟩
  · rw [hb]
    rfl
  · rw [he]
    rfl

/-- The parser class of freshly packed tables is always written to its end. -/
theorem parserDraft_failure (c : Config) (g : Grammar) (start : Int) (units : Tables) :
    (ofGrammar c g start (.ofUnits units)).parserDraft.failure = none := by
  unfold parserDraft
  simp only [Draft.append_failure_eq_none]
  refine ⟨⟨⟨⟨rfl, ?_⟩, ?_⟩, ?_⟩, rfl⟩ <;>
    exact Draft.append_failure_eq_none.mpr ⟨rfl, rfl⟩

/-- After the parser class it is only the methods that can fail. -/
theorem draft_failure (c : Config) (g : Grammar) (start : Int) (units : Tables) :
    (ofGrammar c g start (.ofUnits units)).draft.failure = (Draft.concat
      ((actionMethods c g.start g.productions).map (ActionMethod.draft c))).failure := by
  rw [draft, Draft.append_of_failure_eq_none (parserDraft_failure c g start units), actionsDraft,
    Draft.append_of_failure_eq_none (Draft.ofLines_failure _)]
  rfl

/-- A module of freshly packed tables is written to its end exactly if all right sides stand
for parts. -/
theorem draft_failure_eq_none_iff (c : Config) (g : Grammar) (start : Int) (units : Tables) :
    (ofGrammar c g start (.ofUnits units)).draft.failure = none ↔ g.HasParts := by
  rw [draft_failure, Draft.concat_failure_eq_none, List.forall_mem_map]
  constructor
  · intro h p hp
    obtain ⟨i, hi⟩ := List.mem_iff_getElem?.mp hp
    rw [← exists_body_iff (c := c) (g.start == some i)]
    have hat := actionMethods_getElem? c g.start g.productions i
    rw [hi, Option.map_some] at hat
    have hnone := h _ (List.mem_of_getElem? hat)
    cases hbody : Reduction.body c p (g.start == some i) with
    | ok b => exact ⟨b, rfl⟩
    | error e =>
        rw [draft_failure_of_body.2 (.ofGrammar e) (by rw [hbody]; rfl)] at hnone
        cases hnone
  · intro h a ha
    obtain ⟨i, hi⟩ := List.mem_iff_getElem?.mp ha
    rw [actionMethods_getElem?] at hi
    obtain ⟨p, hp, rfl⟩ := Option.map_eq_some_iff.mp hi
    obtain ⟨b, hb⟩ := (exists_body_iff _).mpr (h p (List.mem_of_getElem? hp))
    exact draft_failure_of_body.1 b (mapError_eq_ok.mpr hb)

/-- What a module of freshly packed tables fails for is an entry that stands for no part. -/
theorem exists_of_draft_failure {e : EmitError}
    (h : (ofGrammar c g start (.ofUnits units)).draft.failure = some e) :
    ∃ p ∈ g.productions, ∃ i < p.length, ∃ e', p.part i = .error e' ∧ e = .ofGrammar e' := by
  rw [draft_failure] at h
  obtain ⟨d, hd, hfailure⟩ := Draft.exists_of_concat_failure h
  obtain ⟨a, ha, rfl⟩ := List.mem_map.mp hd
  obtain ⟨j, hj⟩ := List.mem_iff_getElem?.mp ha
  rw [actionMethods_getElem?] at hj
  obtain ⟨p, hp, rfl⟩ := Option.map_eq_some_iff.mp hj
  cases hbody : Reduction.body c p (g.start == some j) with
  | ok b =>
      rw [draft_failure_of_body.1 b (mapError_eq_ok.mpr hbody)] at hfailure
      cases hfailure
  | error e' =>
      rw [draft_failure_of_body.2 (.ofGrammar e') (by rw [hbody]; rfl)] at hfailure
      obtain ⟨i, hi, hpart⟩ := exists_of_body_eq_error hbody
      exact ⟨p, List.mem_of_getElem? hp, i, hi, e', hpart, (Option.some.inj hfailure).symm⟩

end ParserModule

end LalrBackend
