import LalrBackend.Proofs.Code.Run

/-!
# Names and attributes

What names and attributes amount to where it is known what holds them: a local name is looked up
in the cell of its scope, a name that is bound nowhere around is one of the module, an object has
its own attributes before those of its class, and a function of its class is bound to it.
-/

namespace LalrBackend.Code

/-! ## Names -/

section Names

variable {f : Frame} {s : Store} {name : String} {d : Datum} {names : List (String × Datum)}

theorem exec_orFail {α : Type} {fault : Fault} {a? : Option α} {a : α} (h : a? = some a) :
    exec (orFail fault a?) s = (.ok a, s) := by
  rw [h]
  rfl

theorem exec_namesIn {n : Nat} (h : s.cells[n]? = some (.scope names)) :
    exec (namesIn n) s = (.ok names, s) := by
  rw [namesIn, exec_bind_ok (exec_cellAt h)]
  rfl

/-- A name of the scope that code runs in. -/
theorem execIn_readName_local (hshared : name ∉ f.shared) (hlocal : name ∈ f.scope.1)
    (hscope : s.cells[f.scope.2]? = some (.scope names)) (hd : names.lookup name = some d) :
    execIn f (readName name) s = (.ok d, s) := by
  rw [readName, execIn_bind_ok (execIn_read s), if_neg hshared, if_pos hlocal,
    execIn_bind_ok ((execIn_lift _ s).trans (exec_namesIn hscope))]
  simp only [hd]
  rfl

/-- A name that is bound neither where a function runs nor around it. -/
theorem execIn_readName_global (hshared : name ∉ f.shared) (hlocal : name ∉ f.scope.1)
    (haround : f.around = []) (hname : name ≠ ownerName)
    (hd : (s.globals.lookup name).or (builtinValue? name) = some d) :
    execIn f (readName name) s = (.ok d, s) := by
  have hglobal : exec (readGlobal name) s = (.ok d, s) := by
    rw [readGlobal, exec_bind_ok (exec_get s), exec_orFail hd]
  rw [readName, execIn_bind_ok (execIn_read s), if_neg hshared, if_neg hlocal, execIn_lift,
    Frame.readAround, haround]
  simp only [List.find?_nil]
  split
  · exact hglobal
  · rw [if_neg hname, hglobal]
  · exact hglobal

/-- A local name is bound in the cell of its scope. -/
theorem execIn_bindName_local (hshared : name ∉ f.shared) (hlocal : name ∈ f.scope.1)
    (hscope : s.cells[f.scope.2]? = some (.scope names)) :
    execIn f (bindName name d) s =
      (.ok (), s.put f.scope.2 (.scope (setEntry name d names))) := by
  have hhome : f.home? name = some f.scope.2 := by
    rw [Frame.home?, if_neg hshared, List.find?_cons_of_pos (by simpa using hlocal)]
    rfl
  rw [bindName, execIn_bind_ok (execIn_read s), hhome]
  simp only
  rw [execIn_bind_ok ((execIn_lift _ s).trans (exec_namesIn hscope)), execIn_lift,
    exec_setCell]

end Names

/-! ## Entries -/

section Entries

variable {name other : String} {v : Datum} {entries : List (String × Datum)}

theorem lookup_setEntry_self (name : String) (v : Datum) (entries : List (String × Datum)) :
    (setEntry name v entries).lookup name = some v := by
  induction entries with
  | nil => simp [setEntry]
  | cons m ms ih =>
      obtain ⟨key, d⟩ := m
      rw [setEntry]
      split
      · simp
      · rename_i hkey
        have hne : (name == key) = false :=
          beq_false_of_ne fun h => hkey (beq_iff_eq.mpr h.symm)
        rw [List.lookup_cons, hne, ih]

theorem lookup_setEntry_ne (hother : name ≠ other) :
    (setEntry other v entries).lookup name = entries.lookup name := by
  induction entries with
  | nil =>
      rw [setEntry, List.lookup_cons, beq_false_of_ne hother]
  | cons m ms ih =>
      obtain ⟨key, d⟩ := m
      rw [setEntry]
      split
      · rename_i hkey
        obtain rfl : key = other := beq_iff_eq.mp hkey
        rw [List.lookup_cons, List.lookup_cons, beq_false_of_ne hother]
      · rw [List.lookup_cons, List.lookup_cons, ih]

end Entries

/-! ## Attributes -/

namespace Store

variable {s s' : Store}

/-- An object whose class has a function under a name, and that has nothing of its own there. -/
def HasMethod (s : Store) (object : Nat) (name : String) (function : Nat) : Prop :=
  ∃ cls own called bases members r attributes,
    s.cells[object]? = some (.object (.cell cls) own) ∧ own.lookup name = none ∧
    s.cells[cls]? = some (.type called bases members) ∧
    members.lookup name = some (.cell function) ∧
    s.cells[function]? = some (.routine r attributes)

/-- An object that has a datum of its own under a name, where its class has nothing. -/
def HasOwn (s : Store) (object : Nat) (name : String) (d : Datum) : Prop :=
  ∃ cls own called bases members,
    s.cells[object]? = some (.object (.cell cls) own) ∧ own.lookup name = some d ∧
    s.cells[cls]? = some (.type called bases members) ∧ members.lookup name = none ∧
    ∀ base ∈ bases, ∃ k, base = .known k ∧ s.marks.lookup (k.path, k.name, name) = none ∧
      runtimeMember? k name = none

theorem HasMethod.mono (hgrows : s.Grows s') {object function : Nat} {name : String}
    (h : s.HasMethod object name function) : s'.HasMethod object name function := by
  obtain ⟨cls, own, called, bases, members, r, attributes, hobject, hown, hcls, hmember,
    hfunction⟩ := h
  exact ⟨cls, own, called, bases, members, r, attributes, hgrows.cells hobject, hown,
    hgrows.cells hcls, hmember, hgrows.cells hfunction⟩

theorem HasOwn.mono (hgrows : s.Grows s') {object : Nat} {name : String} {d : Datum}
    (h : s.HasOwn object name d) : s'.HasOwn object name d := by
  obtain ⟨cls, own, called, bases, members, hobject, hown, hcls, hmember, hbases⟩ := h
  refine ⟨cls, own, called, bases, members, hgrows.cells hobject, hown, hgrows.cells hcls,
    hmember, ?_⟩
  rw [hgrows.marks]
  exact hbases

end Store

section Attributes

variable {s : Store} {object function : Nat} {name : String} {d : Datum}

/-- A name that says something about every datum. -/
def isSpecial (name : String) : Bool :=
  name == "__class__" || name == "__doc__" || name == membersName

theorem exec_attributeOf_object {cls : Datum} {own : List (String × Datum)}
    (hname : isSpecial name = false) (hobject : s.cells[object]? = some (.object cls own)) :
    exec (attributeOf (.cell object) name) s =
      exec (objectAttribute (.cell object) cls own name) s := by
  simp only [isSpecial, Bool.or_eq_false_iff, beq_eq_false_iff_ne] at hname
  obtain ⟨⟨hclass, hdoc⟩, hmembers⟩ := hname
  have hhas : exec (hasMembers (.cell object)) s = (.ok true, s) := by
    rw [hasMembers, exec_bind_ok (exec_cellAt hobject)]
    rfl
  rw [attributeOf, if_neg hclass, if_neg hdoc, exec_bind_ok hhas]
  rw [if_neg (by simp [hmembers]), exec_bind_ok (exec_cellAt hobject)]

theorem exec_classMember? (cls : Datum) (name : String) (s : Store) :
    exec (classMember? cls name) s = (.ok (s.member? name depthLimit cls), s) := rfl

/-- What a class has of its own comes before what its bases have. -/
theorem member?_own {cls : Nat} {called : String} {bases : List Datum}
    {members : List (String × Datum)} (fuel : Nat)
    (hcls : s.cells[cls]? = some (.type called bases members))
    (hmember : members.lookup name = some d) :
    s.member? name (fuel + 1) (.cell cls) = some d := by
  rw [Store.member?, hcls]
  simp only [hmember, Option.some_or]

/-- What neither a class nor one of its bases has. -/
theorem member?_none {cls : Nat} {called : String} {bases : List Datum}
    {members : List (String × Datum)} (fuel : Nat)
    (hcls : s.cells[cls]? = some (.type called bases members))
    (hmember : members.lookup name = none)
    (hbases : ∀ base ∈ bases, ∃ k, base = .known k ∧
      s.marks.lookup (k.path, k.name, name) = none ∧ runtimeMember? k name = none) :
    s.member? name (fuel + 2) (.cell cls) = none := by
  rw [Store.member?, hcls]
  simp only [hmember, Option.none_or, List.findSome?_eq_none_iff]
  intro base hbase
  obtain ⟨k, rfl, hmark, hruntime⟩ := hbases base hbase
  simp [Store.member?, hmark, hruntime]

/-- A function of the class of an object is bound to the object. -/
theorem Store.HasMethod.exec_attributeOf (h : s.HasMethod object name function)
    (hname : isSpecial name = false) :
    exec (attributeOf (.cell object) name) s = (.ok (.bound (.cell object) (.cell function)), s) := by
  obtain ⟨cls, own, called, bases, members, r, attributes, hobject, hown, hcls, hmember,
    hfunction⟩ := h
  have hfound : s.member? name depthLimit (.cell cls) = some (.cell function) :=
    member?_own _ hcls hmember
  have hbind : exec (bindMember (.cell object) (.cell function)) s =
      (.ok (.bound (.cell object) (.cell function)), s) := by
    rw [bindMember, exec_bind_ok (exec_cellAt hfunction)]
    rfl
  rw [exec_attributeOf_object hname hobject, objectAttribute,
    exec_bind_ok (exec_classMember? _ _ _), hfound]
  simp only [isComputed, Bool.false_eq_true, if_false, hown]
  exact hbind

/-- What an object has of its own is its attribute. -/
theorem Store.HasOwn.exec_attributeOf (h : s.HasOwn object name d)
    (hname : isSpecial name = false) :
    exec (attributeOf (.cell object) name) s = (.ok d, s) := by
  obtain ⟨cls, own, called, bases, members, hobject, hown, hcls, hmember, hbases⟩ := h
  have hfound : s.member? name depthLimit (.cell cls) = none :=
    member?_none _ hcls hmember hbases
  rw [exec_attributeOf_object hname hobject, objectAttribute,
    exec_bind_ok (exec_classMember? _ _ _), hfound]
  simp only [isComputed, Bool.false_eq_true, if_false, hown]
  rfl

/-- An attribute is set on an object, unless it is one that the class of the object computes. -/
theorem exec_setAttribute {cls v : Datum} {own : List (String × Datum)}
    (hname : isSpecial name = false) (hcalled : name ≠ calledName)
    (hobject : s.cells[object]? = some (.object cls own)) :
    exec (setAttribute (.cell object) name v) s =
      if isComputed (s.member? name depthLimit cls) then (.error .noAttribute, s)
      else (.ok (), s.put object (.object cls (setEntry name v own))) := by
  simp only [isSpecial, Bool.or_eq_false_iff, beq_eq_false_iff_ne] at hname
  obtain ⟨⟨hclass, _⟩, hmembers⟩ := hname
  have hchange : exec (checkChange object name) s =
      if isComputed (s.member? name depthLimit cls) then (.error .noAttribute, s)
      else (.ok (), s) := by
    rw [checkChange, exec_bind_ok (exec_cellAt hobject)]
    simp only
    rw [exec_bind_ok (exec_classMember? _ _ _)]
    split
    · rfl
    · rfl
  have hnature : exec (natureOf object) s = (.ok .value, s) := by
    rw [natureOf, exec_bind_ok (exec_cellAt hobject)]
    rfl
  have hmeaning : exec (checkMeaning .value name v) s = (.ok (), s) := by
    rw [checkMeaning, if_neg hmembers, if_neg hcalled, if_neg hclass]
    rfl
  have hset : exec (changeMembers object (setEntry name v)) s =
      (.ok (), s.put object (.object cls (setEntry name v own))) := by
    rw [changeMembers, exec_bind_ok (exec_cellAt hobject)]
    simp only [exec_setCell]
  rw [setAttribute, exec_bind, hchange]
  by_cases hcomputed : isComputed (s.member? name depthLimit cls) = true
  · rw [if_pos hcomputed, if_pos hcomputed]
  · rw [if_neg hcomputed, if_neg hcomputed]
    simp only
    rw [exec_bind_ok hnature, exec_bind_ok hmeaning, hset]

end Attributes

end LalrBackend.Code
