import LalrBackend.Proofs.Code.Reading

/-!
# The start of the actions

What the function does that starts the actions of a parser: it notes the parser, and it notes the
table that takes the number of each production to the method of that production.
-/

namespace LalrBackend.Code

open Reduction (internal methodName)

/-! ## Making tables -/

section Tables

variable {s : Store} {ds : List Datum}

theorem numbered_append (first : Nat) (ds : List Datum) (d : Datum) :
    numbered first (ds ++ [d]) = numbered first ds ++ [(.int ↑(first + ds.length), d)] := by
  induction ds generalizing first with
  | nil => simp [numbered]
  | cons c ds ih =>
      have hfirst : first + 1 + ds.length = first + (c :: ds).length := by
        rw [List.length_cons]
        omega
      rw [List.cons_append, numbered, numbered, ih, hfirst, List.cons_append]

theorem map_range'_eq_numbered (f : Nat → Datum) (first count : Nat) :
    (List.range' first count).map (fun n : Nat => (Datum.int n, f n)) =
      numbered first ((List.range' first count).map f) := by
  induction count generalizing first with
  | zero => rfl
  | succ count ih => rw [List.range'_succ, List.map_cons, List.map_cons, numbered, ih]

/-- The next number is a new key. -/
theorem exec_setItem_next (s : Store) (ds : List Datum) (d : Datum) :
    exec (setItem (.cell s.cells.size) (.int ds.length) d)
        (s.push (.table (numbered 0 ds))) =
      (.ok (), s.push (.table (numbered 0 (ds ++ [d])))) := by
  have htable := Store.push_new s (.table (numbered 0 ds))
  have hfind := find?_numbered (s.push (.table (numbered 0 ds))) ds 0 ds.length
  have hnone : ds[ds.length]? = none := List.getElem?_eq_none (Nat.le_refl _)
  simp only [Int.natCast_zero, Int.sub_zero, Int.toNat_natCast, hnone, ite_self] at hfind
  have hkey : exec (isKey (.int ds.length)) (s.push (.table (numbered 0 ds))) =
      (.ok true, s.push (.table (numbered 0 ds))) := rfl
  have hentry : exec (entryOf? (.int ds.length) (numbered 0 ds))
      (s.push (.table (numbered 0 ds))) = (.ok none, s.push (.table (numbered 0 ds))) := by
    rw [entryOf?, exec_bind_ok hkey, ← hfind]
    rfl
  rw [setItem, exec_bind_ok (exec_cellAt htable)]
  simp only
  rw [exec_bind_ok (exec_get _), exec_bind_ok hentry]
  simp only [exec_setCell]
  rw [put_push, numbered_append, Nat.zero_add]

/-- A table of numbered data is made entry by entry. -/
theorem exec_makeTable (s : Store) (ds : List Datum) :
    exec (makeTable (numbered 0 ds)) s =
      (.ok (.cell s.cells.size), s.push (.table (numbered 0 ds))) := by
  have hadd : ∀ rest done : List Datum,
      exec (forIn (numbered done.length rest) PUnit.unit fun p _ => do
        setItem (.cell s.cells.size) p.1 p.2
        return ForInStep.yield PUnit.unit) (s.push (.table (numbered 0 done))) =
      (.ok PUnit.unit, s.push (.table (numbered 0 (done ++ rest)))) := by
    intro rest
    induction rest with
    | nil =>
        intro done
        rw [numbered, List.forIn_nil, List.append_nil]
        rfl
    | cons d rest ih =>
        intro done
        have hlength : done.length + 1 = (done ++ [d]).length := by simp
        have hstep : exec (do
            setItem (.cell s.cells.size) (.int done.length) d
            return ForInStep.yield PUnit.unit) (s.push (.table (numbered 0 done))) =
            (.ok (ForInStep.yield PUnit.unit), s.push (.table (numbered 0 (done ++ [d])))) := by
          rw [exec_bind_ok (exec_setItem_next s done d), exec_pure]
        rw [numbered, List.forIn_cons, exec_bind_ok hstep, hlength]
        exact (ih (done ++ [d])).trans (by rw [List.append_assoc]; rfl)
  have hempty : exec (makeCell (.table [])) s = (.ok (.cell s.cells.size), s.push (.table [])) :=
    exec_makeCell _ _
  rw [makeTable, exec_bind_ok hempty]
  exact exec_bind_ok (hadd ds []) _

end Tables

/-! ## The function that starts the actions -/

section Start

variable {s s' : Store} {cell owner cls actions parser depth : Nat} {method : Nat → Nat}
  {ns : List Nat} {f : Frame} {call : Call}

theorem methodName_ne {name : String} (h : name.toList.head? ≠ some 'C') (n : Nat) :
    methodName n ≠ name := by
  rintro rfl
  rw [methodName_natCast, String.toList_ofList] at h
  exact h rfl

theorem isSpecial_methodName (n : Nat) : isSpecial (methodName n) = false := by
  have hclass : methodName n ≠ "__class__" := methodName_ne (by decide) n
  have hdoc : methodName n ≠ "__doc__" := methodName_ne (by decide) n
  have hmembers : methodName n ≠ membersName := methodName_ne (by decide) n
  simp [isSpecial, hclass, hdoc, hmembers]

/-- The entries of the table are the methods of the productions. -/
theorem execIn_evalEntries
    (hself : execIn f (readName "self") s = (.ok (.cell actions), s))
    (hmethods : ∀ n ∈ ns, s.HasMethod actions (methodName n) (method n)) :
    execIn f (evalEntries call (ns.map methodEntry)) s =
      (.ok (ns.map fun n : Nat => (.int n, .bound (.cell actions) (.cell (method n)))), s) := by
  induction ns with
  | nil =>
      rw [List.map_nil, evalEntries]
      rfl
  | cons n ns ih =>
      have hmethod : execIn f ((Expr.attribute (.name "self") (methodName n)).eval call) s =
          (.ok (.bound (.cell actions) (.cell (method n))), s) :=
        (execIn_eval_attribute ((execIn_eval_name _).trans hself) (methodName n)).trans
          ((hmethods n List.mem_cons_self).exec_attributeOf (isSpecial_methodName n))
      rw [List.map_cons, methodEntry, evalEntries, execIn_bind_ok (execIn_eval_constant _),
        execIn_bind_ok hmethod,
        execIn_bind_ok (ih fun k hk => hmethods k (List.mem_cons_of_mem n hk))]
      rfl

theorem callKind_startBody (ns : List Nat) : callKind false (startBody ns) = .atOnce := by
  have hentries : anyWaits (ns.map methodEntry) = false ∧ anyYields (ns.map methodEntry) = false := by
    induction ns with
    | nil => exact ⟨rfl, rfl⟩
    | cons n ns ih =>
        rw [List.map_cons, anyWaits, anyYields, ih.1, ih.2]
        exact ⟨rfl, rfl⟩
  have hparts : allPartsOf (startBody ns) = [.attribute (.name "self") "parser", .name "parser",
      .attribute (.name "self") (internal "dispatch"), .table (ns.map methodEntry)] := rfl
  simp [callKind, hparts, anyWaits, anyYields, Expr.waits, Expr.yields, hentries]

/-- The table of the methods of the first productions. -/
def methodTable (actions : Nat) (method : Nat → Nat) (count : Nat) : Cell :=
  .table (numbered 0 ((List.range count).map fun n => .bound (.cell actions) (.cell (method n))))

/-- Noting something with an object takes none of its methods away. -/
theorem Store.HasMethod.setOwn {object function : Nat} {name other : String}
    {own : List (String × Datum)} {d : Datum} (h : s.HasMethod object name function)
    (hobject : s.cells[object]? = some (.object (.cell cls) own)) (hother : name ≠ other) :
    (s.put object (.object (.cell cls) (setEntry other d own))).HasMethod object name
      function := by
  obtain ⟨cls', own', called, bases, members, r, attributes, hobject', hown, hcls, hmember,
    hfunction⟩ := h
  obtain ⟨rfl, rfl⟩ : cls = cls' ∧ own = own' := by
    rw [hobject] at hobject'
    cases hobject'
    exact ⟨rfl, rfl⟩
  have hlt : object < s.cells.size := (Array.getElem?_eq_some_iff.mp hobject).1
  -- A class and a function are no objects, so they are other cells.
  have hkeeps : ∀ (n : Nat) (c : Cell), s.cells[n]? = some c →
      (∀ cls own, c ≠ .object cls own) →
      (s.put object (.object (.cell cls) (setEntry other d own))).cells[n]? = some c := by
    intro n c hn hc
    have hne : object ≠ n := by
      rintro rfl
      rw [hobject] at hn
      cases hn
      exact hc _ _ rfl
    rw [Store.put, Array.getElem?_setIfInBounds_ne hne, hn]
  exact ⟨cls, _, called, bases, members, r, attributes, Store.put_same _ hlt,
    (lookup_setEntry_ne hother).trans hown, hkeeps _ _ hcls (by simp), hmember,
    hkeeps _ _ hfunction (by simp)⟩

/-- The names of the function while it runs. -/
def startNames (actions parser : Nat) : List (String × Datum) :=
  [("self", .cell actions), ("parser", .cell parser)]

/-- The frame in which the function runs. -/
def startFrame (owner count scope : Nat) : Frame :=
  frameOf owner startParameters (startBody (List.range count)) scope

/-- A store while the function runs: its names are in their scope, and the actions have some
things of their own and the methods of their class. -/
structure Store.Starts (s : Store) (scope actions parser cls count : Nat) (method : Nat → Nat)
    (own : List (String × Datum)) : Prop where
  names : s.cells[scope]? = some (.scope (startNames actions parser))
  object : s.cells[actions]? = some (.object (.cell cls) own)
  methods : ∀ n < count, s.HasMethod actions (methodName n) (method n)

section Running

variable {scope count : Nat} {own : List (String × Datum)} {name : String} {e : Expr} {d : Datum}

theorem Store.Starts.mono (hgrows : s.Grows s')
    (h : s.Starts scope actions parser cls count method own) :
    s'.Starts scope actions parser cls count method own where
  names := hgrows.cells h.names
  object := hgrows.cells h.object
  methods n hn := (h.methods n hn).mono hgrows

theorem Store.Starts.setOwn (h : s.Starts scope actions parser cls count method own)
    (name : String) (d : Datum) (hname : ∀ n : Nat, methodName n ≠ name) :
    (s.put actions (.object (.cell cls) (setEntry name d own))).Starts scope actions parser cls
      count method (setEntry name d own) where
  names := by
    have hne : actions ≠ scope := by
      rintro rfl
      cases h.object.symm.trans h.names
    rw [Store.put, Array.getElem?_setIfInBounds_ne hne, h.names]
  object := Store.put_same _ (Array.getElem?_eq_some_iff.mp h.object).1
  methods n hn := (h.methods n hn).setOwn h.object (hname n)

/-- A name of the function stands for its value. -/
theorem Store.Starts.execIn_readName (h : s.Starts scope actions parser cls count method own)
    (name : String) (hname : name ∈ startParameters) (hd : (startNames actions parser).lookup name = some d) :
    execIn (startFrame owner count scope) (readName name) s = (.ok d, s) :=
  execIn_readName_local List.not_mem_nil (List.mem_append_left _ hname) h.names hd

/-- An attribute is set on the actions, or it is one that cannot be set. -/
theorem Store.Starts.execIn_setOwn {s₁ : Store}
    (h : s₁.Starts scope actions parser cls count method own) (name : String)
    (hname : isSpecial name = false) (hcalled : name ≠ calledName)
    (he : execIn (startFrame owner count scope) (e.eval call) s = (.ok d, s₁)) :
    (∃ fault, execIn (startFrame owner count scope)
        ((Statement.assign [.attribute (.name "self") name] e).run call) s = (.error fault, s₁)) ∨
      execIn (startFrame owner count scope)
        ((Statement.assign [.attribute (.name "self") name] e).run call) s =
        (.ok .next, s₁.put actions (.object (.cell cls) (setEntry name d own))) := by
  have hself : execIn (startFrame owner count scope) ((Expr.name "self").eval call) s₁ =
      (.ok (.cell actions), s₁) :=
    (execIn_eval_name _).trans (h.execIn_readName "self" (by decide) rfl)
  have hset : execIn (startFrame owner count scope)
      ((Expr.attribute (.name "self") name).assign call d) s₁ =
      if isComputed (s₁.member? name depthLimit (.cell cls)) then (.error .noAttribute, s₁)
      else (.ok (), s₁.put actions (.object (.cell cls) (setEntry name d own))) :=
    (execIn_assign_attribute hself name).trans (exec_setAttribute hname hcalled h.object)
  by_cases hcomputed : isComputed (s₁.member? name depthLimit (.cell cls)) = true
  · rw [if_pos hcomputed] at hset
    exact Or.inl ⟨_, execIn_assign_error he hset⟩
  · rw [if_neg hcomputed] at hset
    exact Or.inr (execIn_assign he hset)

/-- The table is made of the methods. -/
theorem Store.Starts.execIn_table (h : s.Starts scope actions parser cls count method own) :
    execIn (startFrame owner count scope)
        ((Expr.table ((List.range count).map methodEntry)).eval call) s =
      (.ok (.cell s.cells.size), s.push (methodTable actions method count)) := by
  have hself : execIn (startFrame owner count scope) (readName "self") s =
      (.ok (.cell actions), s) := h.execIn_readName "self" (by decide) rfl
  have hentries : execIn (startFrame owner count scope)
      (evalEntries call ((List.range count).map methodEntry)) s = _ :=
    execIn_evalEntries hself fun n hn => h.methods n (List.mem_range.mp hn)
  have hnumbered := map_range'_eq_numbered
    (fun n => .bound (.cell actions) (.cell (method n))) 0 count
  rw [← List.range_eq_range'] at hnumbered
  rw [Expr.eval, execIn_bind_ok hentries, hnumbered, execIn_lift]
  exact exec_makeTable _ _

end Running

/-- A start of the actions that does not fail leaves the table of the methods with them, and it
leaves alone what was there before the actions. -/
theorem exec_start {count : Nat} {own : List (String × Datum)} {d : Datum}
    (hfunction : s.IsFunction cell owner startName startParameters
      (startBody (List.range count)))
    (hactions : s.cells[actions]? = some (.object (.cell cls) own))
    (hmethods : ∀ n < count, s.HasMethod actions (methodName n) (method n))
    (hran : exec (callAt (depth + 1) (.bound (.cell actions) (.cell cell)) [.cell parser] []) s =
      (.ok d, s')) :
    ∃ own' table, s'.cells[actions]? = some (.object (.cell cls) own') ∧
      own'.lookup (internal "dispatch") = some (.cell table) ∧
      s'.cells[table]? = some (methodTable actions method count) ∧
      (∀ name, name ≠ "parser" → name ≠ internal "dispatch" →
        own'.lookup name = own.lookup name) ∧
      ∀ {s₀ : Store}, s₀.Grows s → s₀.cells.size ≤ actions → s₀.Grows s' := by
  rw [hfunction.exec_call (callKind_startBody _) (by decide) rfl] at hran
  have hgrows : s.Grows (s.push (.scope (startNames actions parser))) := s.grows_push _
  have hstarts : (s.push (.scope (startNames actions parser))).Starts s.cells.size actions parser
      cls count method own :=
    ⟨Store.push_new _ _, hgrows.cells hactions, fun n hn => (hmethods n hn).mono hgrows⟩
  -- The parser is noted first.
  have hparser : execIn (startFrame owner count s.cells.size)
      ((Expr.name "parser").eval (callAt depth))
      (s.push (.scope (startNames actions parser))) =
      (.ok (.cell parser), s.push (.scope (startNames actions parser))) :=
    (execIn_eval_name _).trans (hstarts.execIn_readName "parser" (by decide) rfl)
  rcases hstarts.execIn_setOwn "parser" (by decide) (by decide) hparser with
    ⟨fault, hfault⟩ | hnoted
  · cases hran.symm.trans (exec_runBody_error hfault)
  have hnotedStarts := hstarts.setOwn "parser" (.cell parser) (methodName_ne (by decide))
  -- Then the table is made and noted.
  have htableStarts := hnotedStarts.mono
    (Store.grows_push _ (methodTable actions method count))
  rcases htableStarts.execIn_setOwn (internal "dispatch") (by decide) (by decide)
    hnotedStarts.execIn_table with ⟨fault, hfault⟩ | htabled
  · cases hran.symm.trans ((exec_runBody_next hnoted).trans (exec_runBody_error hfault))
  have hend := hran.symm.trans ((exec_runBody_next hnoted).trans
    ((exec_runBody_next htabled).trans exec_runBody_nil))
  obtain rfl := (Prod.mk.inj hend).2
  have hlt := (Array.getElem?_eq_some_iff.mp hnotedStarts.object).1
  refine ⟨_, _, Store.put_same _ (Array.getElem?_eq_some_iff.mp htableStarts.object).1,
    lookup_setEntry_self _ _ _, ?_, ?_, ?_⟩
  · rw [Store.put, Array.getElem?_setIfInBounds_ne (by omega)]
    exact Store.push_new _ _
  · intro name hparser hdispatch
    rw [lookup_setEntry_ne hdispatch, lookup_setEntry_ne hparser]
  · intro s₀ h hnew
    exact (((h.trans hgrows).put hnew _).trans (Store.grows_push _ _)).put hnew _

end Start

end LalrBackend.Code
