import Mathlib.Data.List.Nodup
import LalrBackend.Proofs.Code.Attributes

/-!
# Calls of functions

A call of a function that takes its values by position runs the body of the function in a new
scope, which holds these values under the names of the parameters. How deep calls may go is one
less for what the body calls.
-/

namespace LalrBackend.Code

variable {s : Store}

/-! ## Parameters -/

theorem exec_mapM {α β : Type} {f : α → Machine β} {g : α → β} {as : List α}
    (h : ∀ a ∈ as, exec (f a) s = (.ok (g a), s)) :
    exec (as.mapM f) s = (.ok (as.map g), s) := by
  induction as with
  | nil => rfl
  | cons a as ih =>
      rw [List.mapM_cons, exec_bind_ok (h a List.mem_cons_self),
        exec_bind_ok (ih fun b hb => h b (List.mem_cons_of_mem a hb))]
      rfl

/-- A name is found in front of the value that it is paired with. -/
theorem map_lookup_zip {names : List String} (hdistinct : names.Nodup) {values : List Datum}
    (hlength : values.length = names.length) :
    names.map (fun n => (n, ((names.zip values).lookup n).getD .null)) = names.zip values := by
  induction names generalizing values with
  | nil => rfl
  | cons name names ih =>
      cases values with
      | nil => cases hlength
      | cons v values =>
          obtain ⟨hnew, hdistinct⟩ := List.nodup_cons.mp hdistinct
          have hrest : ∀ n ∈ names, ((name :: names).zip (v :: values)).lookup n =
              (names.zip values).lookup n := by
            intro n hn
            have hne : n ≠ name := fun h => hnew (h ▸ hn)
            rw [List.zip_cons_cons, List.lookup_cons, beq_false_of_ne hne]
          have htail : names.map (fun n =>
              (n, (((name :: names).zip (v :: values)).lookup n).getD .null)) =
                names.zip values := by
            rw [← ih hdistinct (Nat.succ.inj hlength)]
            refine List.map_congr_left fun n hn => ?_
            rw [hrest n hn]
          rw [List.map_cons, htail, List.zip_cons_cons]
          simp

theorem exists_lookup_zip {names : List String} {values : List Datum}
    (hlength : values.length = names.length) {n : String} (hn : n ∈ names) :
    ∃ d, (names.zip values).lookup n = some d := by
  induction names generalizing values with
  | nil => cases hn
  | cons name names ih =>
      cases values with
      | nil => cases hlength
      | cons v values =>
          rw [List.zip_cons_cons, List.lookup_cons]
          by_cases hname : n = name
          · rw [beq_iff_eq.mpr hname]
            exact ⟨v, rfl⟩
          · rw [beq_false_of_ne hname]
            exact ih (Nat.succ.inj hlength) ((List.mem_cons.mp hn).resolve_left hname)

section Routines

variable {r : Routine} {call : Call} {names : List String} {args : List Datum}

/-- Values by position go to the parameters in their order. -/
theorem exec_bindings (hparameters : r.parameters = { plain := names })
    (hdistinct : names.Nodup) (hlength : args.length = names.length) :
    exec (r.bindings args []) s = (.ok (names.zip args), s) := by
  have hsignature : r.signature = names.map fun n => (n, none) := by
    rw [Routine.signature, hparameters]
    simp
  have htake : names.take args.length = names := by rw [hlength, List.take_length]
  have hbound : ∀ p ∈ names.map fun n => (n, (none : Option Datum)),
      exec (do
        let d ← orFail .typeMismatch (((names.zip args).lookup p.1).or p.2)
        return (p.1, d)) s = (.ok (p.1, ((names.zip args).lookup p.1).getD .null), s) := by
    intro p hp
    obtain ⟨n, hn, rfl⟩ := List.mem_map.mp hp
    obtain ⟨d, hd⟩ := exists_lookup_zip hlength hn
    have hvalue : exec (orFail .typeMismatch (((names.zip args).lookup n).or none)) s =
        (.ok d, s) := exec_orFail (by rw [hd]; rfl)
    rw [exec_bind_ok hvalue, hd]
    rfl
  rw [Routine.bindings, hsignature, hparameters]
  simp only [← hlength, List.drop_length, htake, List.filter_nil, List.append_nil]
  rw [if_neg (by simp), if_neg (by simp), exec_bind_ok (exec_mapM hbound), List.map_map]
  have hpairs := map_lookup_zip hdistinct hlength
  simp only [Function.comp_def, hpairs]
  simp

/-- The frame in which the body of a function runs, with its scope in the given cell. -/
def Routine.frameAt (r : Routine) (scope : Nat) : Frame where
  place := if r.kind = .waiting then .asyncFunction else .function
  scope := (localNames r.parameters.names r.body, scope)
  shared := globalsOf r.body
  around := r.around
  owner := r.owner
  first := r.parameters.names.head?

/-- A call of a function that runs at once runs its body in a new scope. -/
theorem exec_call (hkind : r.kind = .atOnce) (hparameters : r.parameters = { plain := names })
    (hdistinct : names.Nodup) (hlength : args.length = names.length) :
    exec (r.call call args []) s =
      exec (runBody call r.body (r.frameAt s.cells.size)) (s.push (.scope (names.zip args))) := by
  have hframe : exec (r.frame (names.zip args)) s =
      (.ok (r.frameAt s.cells.size), s.push (.scope (names.zip args))) := rfl
  rw [Routine.call, exec_bind_ok (exec_bindings hparameters hdistinct hlength),
    exec_bind_ok hframe, hkind]

end Routines

section Depth

variable {depth n : Nat} {self : Datum} {args : List Datum} {named : List (String × Datum)}

theorem exec_callAt_bound {r : Routine} {attributes : List (String × Datum)}
    (hfunction : s.cells[n]? = some (.routine r attributes)) :
    exec (callAt (depth + 1) (.bound self (.cell n)) args named) s =
      exec (r.call (callAt depth) (self :: args) named) s := by
  rw [callAt, exec_bind_ok (exec_cellAt hfunction)]

theorem exec_callAt_known {k : Known} (hk : k ≠ streamReader) :
    exec (callAt (depth + 1) (.known k) args named) s =
      exec (callKnown (callAt depth) k args named) s := by
  rw [callAt, if_neg hk]

theorem exec_callAt_boundKnown {k : Known} (hk : k ≠ streamReader) :
    exec (callAt (depth + 1) (.bound self (.known k)) args named) s =
      exec (callKnown (callAt depth) k (self :: args) named) s := by
  rw [callAt, if_neg hk]

end Depth

/-! ## Bodies -/

section Bodies

variable {call : Call} {f : Frame} {s' : Store} {st : Statement} {rest : List Statement}

@[simp] theorem exec_runBody_nil : exec (runBody call [] f) s = (.ok .null, s) := by
  rw [runBody, runAll]
  rfl

theorem exec_runBody_next (h : execIn f (st.run call) s = (.ok .next, s')) :
    exec (runBody call (st :: rest) f) s = exec (runBody call rest f) s' := by
  have hrun : exec ((runAll call (st :: rest)).run f) s = exec ((runAll call rest).run f) s' := by
    rw [runAll]
    exact execIn_bind_ok h _
  rw [runBody, runBody, exec_bind, exec_bind, hrun]

/-- A body that does not fail gives something back. -/
theorem exec_runBody_ok {body : List Statement} {outcome : Outcome}
    (h : execIn f (runAll call body) s = (.ok outcome, s')) :
    ∃ d, exec (runBody call body f) s = (.ok d, s') := by
  rw [runBody, exec_bind_ok h]
  cases outcome with
  | gives d => exact ⟨d, rfl⟩
  | _ => exact ⟨.null, rfl⟩

theorem exec_runBody_fails {body : List Statement} {fault : Fault}
    (h : execIn f (runAll call body) s = (.error fault, s')) :
    exec (runBody call body f) s = (.error fault, s') :=
  exec_bind_error h _

theorem exec_runBody_error {e : Fault} (h : execIn f (st.run call) s = (.error e, s')) :
    exec (runBody call (st :: rest) f) s = (.error e, s') := by
  refine exec_runBody_fails ?_
  rw [runAll]
  exact execIn_bind_error h _

/-- A body that gives the value of an expression back comes to what the expression comes to. -/
theorem exec_runBody_giveBack (e : Expr) :
    exec (runBody call (.giveBack (some e) :: rest) f) s = execIn f (e.eval call) s := by
  cases hvalue : execIn f (e.eval call) s with
  | mk result s' =>
      cases result with
      | error fault =>
          refine exec_runBody_error ?_
          rw [Statement.run, execIn_bind_error hvalue]
      | ok d =>
          have hgives : execIn f (runAll call (.giveBack (some e) :: rest)) s =
              (.ok (.gives d), s') := by
            rw [runAll, Statement.run, execIn_bind_ok (execIn_bind_ok hvalue _)]
            rfl
          exact exec_bind_ok hgives _

end Bodies

end LalrBackend.Code
