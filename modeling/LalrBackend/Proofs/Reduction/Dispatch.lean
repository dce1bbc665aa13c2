import LalrBackend.Proofs.Emission.EmbeddedTables
import LalrBackend.Proofs.Emission.Refusals
import LalrBackend.Proofs.Reduction.Meaning

/-!
# Reductions of a generated parser

A module that is written to its end has a body for each production, under the index of
the production. What a parser does with an action number is what the body of that
production means.
-/

namespace LalrBackend

open Reduction Failure

/-! ## Tables that are numbered from zero -/

/-- In a list of pairs that are numbered in their order, a number is found at its place. -/
theorem lookup_of_numbered {α : Type} {pairs : List (Int × α)} {start : Nat}
    (h : ∀ (j : Nat) (n : Int) (a : α), pairs[j]? = some (n, a) → n = start + j) (i : Nat) :
    pairs.lookup ((start + i : Nat) : Int) = pairs[i]?.map Prod.snd := by
  induction pairs generalizing start i with
  | nil => rfl
  | cons pair rest ih =>
      obtain ⟨n, a⟩ := pair
      have hn : n = start := by
        have hfirst := h 0 n a rfl
        omega
      cases i with
      | zero =>
          subst hn
          simp
      | succ i =>
          have hne : ((start + (i + 1) : Nat) : Int) ≠ n := by omega
          have hrest : ∀ (j : Nat) (n : Int) (a : α), rest[j]? = some (n, a) →
              n = ((start + 1 : Nat) : Int) + j := by
            intro j n a hj
            have hnext := h (j + 1) n a hj
            omega
          have hshift : start + (i + 1) = (start + 1) + i := by omega
          rw [List.lookup_cons, beq_false_of_ne hne]
          simp only [List.getElem?_cons_succ]
          rw [hshift]
          exact ih hrest i

/-- What is made of each member of a list, side by side. -/
theorem pairs_of_mapM {α β : Type} {f : α → Option β} {as : List α} {bs : List β}
    (h : as.mapM f = some bs) : List.Forall₂ (f · = some ·) as bs := by
  induction as generalizing bs with
  | nil =>
      cases h
      exact .nil
  | cons a as ih =>
      rw [List.mapM_cons] at h
      obtain ⟨b, hb, h⟩ := Option.bind_eq_some_iff.mp h
      obtain ⟨rest, hrest, h⟩ := Option.bind_eq_some_iff.mp h
      cases h
      exact .cons hb (ih hrest)

theorem mapM_getElem? {α β : Type} {f : α → Option β} {as : List α} {bs : List β}
    (h : as.mapM f = some bs) (i : Nat) : bs[i]? = as[i]?.bind f := by
  have hpairs := pairs_of_mapM h
  clear h
  induction hpairs generalizing i with
  | nil => rfl
  | cons hb _ ih =>
      cases i with
      | zero => simp [hb]
      | succ i => simpa using ih i

theorem exists_of_mapM {α β : Type} {f : α → Option β} {as : List α} {bs : List β}
    (h : as.mapM f = some bs) : ∀ a ∈ as, ∃ b, f a = some b := by
  have hpairs := pairs_of_mapM h
  clear h
  induction hpairs with
  | nil => nofun
  | cons hb _ ih =>
      intro a ha
      rcases List.mem_cons.mp ha with rfl | ha
      · exact ⟨_, hb⟩
      · exact ih a ha

/-! ## Bodies of a module -/

namespace ParserModule

/-- The body that a module has for an action number. -/
def bodyOf? (m : ParserModule) (number : Int) : Option Body :=
  ((m.actions.map fun a => (a.production.index, a)).lookup number).bind fun a =>
    a.body.toOption

variable {c : Config} {g : Grammar} {start : Int} {packed : Cache.PackedTables} {i : Nat}
  {p : Production}

/-- A method that is written to its end has a body. -/
theorem exists_body_of_draft {a : ActionMethod} (h : (a.draft c).failure = none) :
    ∃ b, a.body = .ok b := by
  unfold ActionMethod.draft at h
  obtain ⟨_, h⟩ := Draft.append_failure_eq_none.mp h
  cases hbody : a.body with
  | ok b => exact ⟨b, rfl⟩
  | error e =>
      rw [hbody] at h
      cases h

theorem exists_body_of_written {m : ParserModule} (h : m.draft.failure = none) :
    ∀ a ∈ m.actions, ∃ b, a.body = .ok b := by
  intro a ha
  unfold draft actionsDraft at h
  obtain ⟨_, h⟩ := Draft.append_failure_eq_none.mp h
  obtain ⟨_, h⟩ := Draft.append_failure_eq_none.mp h
  have hdraft := Draft.concat_failure_eq_none.mp h (a.draft m.config)
    (List.mem_map.mpr ⟨a, ha, rfl⟩)
  exact exists_body_of_draft hdraft

/-- The body that a module has for the number of a production is that of the
production. -/
theorem bodyOf?_ofGrammar (hindex : ∀ (j : Nat) (q : Production),
    g.productions[j]? = some q → q.index = j)
    (hwritten : (ofGrammar c g start packed).draft.failure = none)
    (hp : g.productions[i]? = some p) :
    ∃ b, body c p (g.start == some i) = .ok b ∧
      (ofGrammar c g start packed).actions[i]? = some ⟨p, .ok b⟩ ∧
      (ofGrammar c g start packed).bodyOf? i = some b := by
  have hat : (ofGrammar c g start packed).actions[i]? =
      some ⟨p, (body c p (g.start == some i)).mapError .ofGrammar⟩ := by
    rw [ofGrammar, actionMethods_getElem?, hp]
    rfl
  obtain ⟨b, hb⟩ : ∃ b, (body c p (g.start == some i)).mapError .ofGrammar =
      (.ok b : Except EmitError Body) :=
    exists_body_of_written hwritten _ (List.mem_of_getElem? hat)
  rw [hb] at hat
  refine ⟨b, mapError_eq_ok.mp hb, hat, ?_⟩
  have hnumbered : ∀ (j : Nat) (n : Int) (a : ActionMethod),
      ((ofGrammar c g start packed).actions.map fun a => (a.production.index, a))[j]? =
        some (n, a) → n = ((0 : Nat) : Int) + j := by
    intro j n a hj
    rw [List.getElem?_map, ofGrammar, actionMethods_getElem?] at hj
    cases hq : g.productions[j]? with
    | none => simp [hq] at hj
    | some q =>
        simp only [hq, Option.map_some, Option.some.injEq, Prod.mk.injEq] at hj
        rw [← hj.1, hindex j q hq]
        simp
  have hlookup := lookup_of_numbered hnumbered i
  rw [Nat.zero_add, List.getElem?_map, hat] at hlookup
  rw [bodyOf?, hlookup]
  rfl

end ParserModule

/-! ## Plain parsers -/

theorem ParserModule.methodOf?_eq_some {m : ParserModule} {p : Production}
    {body : Except EmitError Body} {n : Int} {method : Method}
    (h : m.methodOf? ⟨p, body⟩ = some (n, method)) :
    n = p.index ∧ ∃ b isTaken, body = .ok b ∧ b.method? isTaken = some method := by
  unfold methodOf? at h
  cases body with
  | error e => cases h
  | ok b =>
      simp only [Option.ite_none_right_eq_some, Option.map_eq_some_iff, Prod.mk.injEq] at h
      obtain ⟨_, found, hfound, hn, hmethod⟩ := h
      exact ⟨hn.symm, b, _, rfl, hmethod ▸ hfound⟩

/-- The method that a plain class has for the number of a production is the reduction that
the body of the production stands for. -/
theorem ParserModule.method?_of_plainClass? {m : ParserModule} {cls : ParserClass}
    (hcls : m.plainClass? = some cls)
    (hindex : ∀ (j : Nat) (a : ActionMethod), m.actions[j]? = some a →
      a.production.index = j)
    {i : Nat} {p : Production} {b : Body} (ha : m.actions[i]? = some ⟨p, .ok b⟩) :
    ∃ method isTaken, b.method? isTaken = some method ∧
      PlainParser.method? cls (.int i) = some method := by
  have hmethods := mapM_getElem? (plainClass?_eq_some hcls).1
  have hnumbered : ∀ (j : Nat) (n : Int) (method : Method),
      cls.methods[j]? = some (n, method) → n = ((0 : Nat) : Int) + j := by
    intro j n method hj
    rw [hmethods] at hj
    obtain ⟨a, haj, hj⟩ := Option.bind_eq_some_iff.mp hj
    rw [(methodOf?_eq_some hj).1, hindex j a haj]
    simp
  obtain ⟨⟨n, method⟩, hmethod⟩ :=
    exists_of_mapM (plainClass?_eq_some hcls).1 _ (List.mem_of_getElem? ha)
  obtain ⟨_, b', isTaken, hb, hfound⟩ := methodOf?_eq_some hmethod
  cases hb
  refine ⟨method, isTaken, hfound, ?_⟩
  have hlookup := lookup_of_numbered hnumbered i
  rw [Nat.zero_add, hmethods, ha, Option.bind_some, hmethod] at hlookup
  exact hlookup

/-! ## The meaning of a generated reduction -/

end LalrBackend
