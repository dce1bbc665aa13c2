import LalrBackend.Proofs.Code.Builtins

/-!
# Values as data

A value that is handed in becomes a datum that stands for it, in cells that are all new. A datum
that stands for a value is handed out as that value, as far as data are looked into, and is an
integer only if the value is one. Operators make of data what they make of the values that these
stand for.
-/

namespace LalrBackend

mutual

/-- How deep lists, tuples and symbols stand within each other in a value. -/
def Value.depth : Value → Nat
  | .list items => depthOf items + 1
  | .tuple items => depthOf items + 1
  | .symbol sym value left right name =>
    max sym.depth (max value.depth (max left.depth (max right.depth name.depth))) + 1
  | _ => 1

/-- How deep the deepest of some values is. -/
def Value.depthOf : List Value → Nat
  | [] => 0
  | v :: vs => max v.depth (depthOf vs)

end

namespace Code

mutual

/-- A datum stands for a value. -/
def Store.StandsFor (s : Store) : Value → Datum → Prop
  | .null, d => d = .null
  | .bool b, d => d = .bool b
  | .int n, d => d = .int n
  | .member n shown, d => d = .member n shown
  | .real x, d => d = .real x
  | .text t, d => d = .text t
  | .list vs, d => ∃ n ds, d = .cell n ∧ s.cells[n]? = some (.list ds) ∧ s.StandForAll vs ds
  | .tuple vs, d => ∃ ds, d = .tuple ds ∧ s.StandForAll vs ds
  | .symbol sym value left right name, d => ∃ n a b c e f, d = .cell n ∧
      s.cells[n]? = some (.object (.known (runtimeType "Symbol"))
        (symbolParts.zip [a, b, c, e, f])) ∧
      s.StandsFor sym a ∧ s.StandsFor value b ∧ s.StandsFor left c ∧ s.StandsFor right e ∧
      s.StandsFor name f
  | .other name, d => d = .opaqueOf name

/-- Data stand for values one by one. -/
def Store.StandForAll (s : Store) : List Value → List Datum → Prop
  | [], ds => ds = []
  | v :: vs, ds => ∃ d rest, ds = d :: rest ∧ s.StandsFor v d ∧ s.StandForAll vs rest

end

variable {s s' : Store}

/-- Whether what a cell holds is part of a value that was handed in. -/
def Cell.isHanded : Cell → Bool
  | .list _ => true
  | .object (.known _) _ => true
  | _ => false

mutual

/-- What stands for a value goes on standing for it where the cells of values stay as they are. -/
theorem Store.StandsFor.of_cells (hcells : ∀ (n : Nat) (c : Cell), c.isHanded →
      s.cells[n]? = some c → s'.cells[n]? = some c) :
    ∀ {v : Value} {d : Datum}, s.StandsFor v d → s'.StandsFor v d
  | .null, _, h => h
  | .bool _, _, h => h
  | .int _, _, h => h
  | .member _ _, _, h => h
  | .real _, _, h => h
  | .text _, _, h => h
  | .list _, _, h => by
      obtain ⟨n, ds, rfl, hlist, hitems⟩ := h
      exact ⟨n, ds, rfl, hcells n _ rfl hlist, hitems.of_cells hcells⟩
  | .tuple _, _, h => by
      obtain ⟨ds, rfl, hitems⟩ := h
      exact ⟨ds, rfl, hitems.of_cells hcells⟩
  | .symbol _ _ _ _ _, _, h => by
      obtain ⟨n, a, b, c, e, f, rfl, hobject, ha, hb, hc, he, hf⟩ := h
      exact ⟨n, a, b, c, e, f, rfl, hcells n _ rfl hobject, ha.of_cells hcells,
        hb.of_cells hcells, hc.of_cells hcells, he.of_cells hcells, hf.of_cells hcells⟩
  | .other _, _, h => h

theorem Store.StandForAll.of_cells (hcells : ∀ (n : Nat) (c : Cell), c.isHanded →
      s.cells[n]? = some c → s'.cells[n]? = some c) :
    ∀ {vs : List Value} {ds : List Datum}, s.StandForAll vs ds → s'.StandForAll vs ds
  | [], _, h => h
  | _ :: _, _, h => by
      obtain ⟨d, rest, rfl, hd, hrest⟩ := h
      exact ⟨d, rest, rfl, hd.of_cells hcells, hrest.of_cells hcells⟩

end

theorem Store.StandsFor.mono (hgrows : s.Grows s') {v : Value} {d : Datum}
    (h : s.StandsFor v d) : s'.StandsFor v d :=
  h.of_cells fun _ _ _ => hgrows.cells

theorem Store.StandForAll.mono (hgrows : s.Grows s') {vs : List Value} {ds : List Datum}
    (h : s.StandForAll vs ds) : s'.StandForAll vs ds :=
  h.of_cells fun _ _ _ => hgrows.cells

/-! ## Handing in -/

mutual

/-- A value is handed in as a datum that stands for it, in new cells. -/
theorem exec_ofValue : ∀ (v : Value) (s : Store), ∃ d s', exec (ofValue v) s = (.ok d, s') ∧
    s.Grows s' ∧ s'.StandsFor v d
  | .null, s => ⟨.null, s, rfl, .refl s, rfl⟩
  | .bool b, s => ⟨.bool b, s, rfl, .refl s, rfl⟩
  | .int n, s => ⟨.int n, s, rfl, .refl s, rfl⟩
  | .member n shown, s => ⟨.member n shown, s, rfl, .refl s, rfl⟩
  | .real x, s => ⟨.real x, s, rfl, .refl s, rfl⟩
  | .text t, s => ⟨.text t, s, rfl, .refl s, rfl⟩
  | .list vs, s => by
      obtain ⟨ds, s₁, hitems, hgrows, hds⟩ := exec_ofValues vs s
      have hpush := s₁.grows_push (.list ds)
      refine ⟨.cell s₁.cells.size, s₁.push (.list ds), ?_, hgrows.trans hpush,
        s₁.cells.size, ds, rfl, Store.push_new _ _, hds.mono hpush⟩
      rw [ofValue, exec_bind_ok hitems]
      exact exec_makeCell _ _
  | .tuple vs, s => by
      obtain ⟨ds, s₁, hitems, hgrows, hds⟩ := exec_ofValues vs s
      refine ⟨.tuple ds, s₁, ?_, hgrows, ds, rfl, hds⟩
      rw [ofValue, exec_bind_ok hitems, exec_pure]
  | .symbol sym value left right name, s => by
      obtain ⟨a, s₁, ha, hgrows₁, hsym⟩ := exec_ofValue sym s
      obtain ⟨b, s₂, hb, hgrows₂, hvalue⟩ := exec_ofValue value s₁
      obtain ⟨c, s₃, hc, hgrows₃, hleft⟩ := exec_ofValue left s₂
      obtain ⟨e, s₄, he, hgrows₄, hright⟩ := exec_ofValue right s₃
      obtain ⟨f, s₅, hf, hgrows₅, hname⟩ := exec_ofValue name s₄
      have hpush := s₅.grows_push (.object (.known (runtimeType "Symbol"))
        (symbolParts.zip [a, b, c, e, f]))
      have h₅ := hgrows₅.trans hpush
      have h₄ := hgrows₄.trans h₅
      have h₃ := hgrows₃.trans h₄
      have h₂ := hgrows₂.trans h₃
      refine ⟨.cell s₅.cells.size, _, ?_, hgrows₁.trans h₂, s₅.cells.size, a, b, c, e, f, rfl,
        Store.push_new _ _, hsym.mono h₂, hvalue.mono h₃, hleft.mono h₄, hright.mono h₅,
        hname.mono hpush⟩
      rw [ofValue, exec_bind_ok ha, exec_bind_ok hb, exec_bind_ok hc, exec_bind_ok he,
        exec_bind_ok hf]
      exact exec_makeCell _ _
  | .other name, s => ⟨.opaqueOf name, s, rfl, .refl s, rfl⟩

theorem exec_ofValues : ∀ (vs : List Value) (s : Store), ∃ ds s',
    exec (ofValues vs) s = (.ok ds, s') ∧ s.Grows s' ∧ s'.StandForAll vs ds
  | [], s => ⟨[], s, rfl, .refl s, rfl⟩
  | v :: vs, s => by
      obtain ⟨d, s₁, hv, hgrows₁, hd⟩ := exec_ofValue v s
      obtain ⟨ds, s₂, hvs, hgrows₂, hds⟩ := exec_ofValues vs s₁
      refine ⟨d :: ds, s₂, ?_, hgrows₁.trans hgrows₂, d, ds, rfl, hd.mono hgrows₂, hds⟩
      rw [ofValues, exec_bind_ok hv, exec_bind_ok hvs, exec_pure]

end

theorem Store.StandForAll.length : ∀ {vs : List Value} {ds : List Datum},
    s.StandForAll vs ds → ds.length = vs.length
  | [], _, h => by
      cases h
      rfl
  | _ :: _, _, h => by
      obtain ⟨d, rest, rfl, _, hrest⟩ := h
      rw [List.length_cons, List.length_cons, hrest.length]

theorem Store.StandForAll.getElem? {vs : List Value} {ds : List Datum} {i : Nat} {v : Value}
    (h : s.StandForAll vs ds) (hv : vs[i]? = some v) : ∃ d, ds[i]? = some d ∧ s.StandsFor v d := by
  induction vs generalizing ds i with
  | nil => cases hv
  | cons first vs ih =>
      obtain ⟨d, rest, rfl, hd, hrest⟩ := h
      cases i with
      | zero =>
          cases hv
          exact ⟨d, rfl, hd⟩
      | succ i =>
          obtain ⟨d', hat, hd'⟩ := ih hrest hv
          exact ⟨d', hat, hd'⟩

/-! ## Handing out -/

mutual

/-- What stands for a value is handed out as the value. -/
theorem Store.StandsFor.toValue : ∀ {v : Value} {d : Datum} {fuel : Nat}, s.StandsFor v d →
    v.depth ≤ fuel → s.toValue fuel d = v
  | v, d, 0, _, hdepth => by
      have hpos : 0 < v.depth := by cases v <;> simp [Value.depth]
      omega
  | .null, _, fuel + 1, h, _ => by rw [h, Store.toValue]
  | .bool _, _, fuel + 1, h, _ => by rw [h, Store.toValue]
  | .int _, _, fuel + 1, h, _ => by rw [h, Store.toValue]
  | .member _ _, _, fuel + 1, h, _ => by rw [h, Store.toValue]
  | .real _, _, fuel + 1, h, _ => by rw [h, Store.toValue]
  | .text _, _, fuel + 1, h, _ => by rw [h, Store.toValue]
  | .list vs, _, fuel + 1, h, hdepth => by
      obtain ⟨n, ds, rfl, hlist, hitems⟩ := h
      have hitemsDepth : Value.depthOf vs ≤ fuel := by
        rw [Value.depth] at hdepth
        omega
      rw [Store.toValue, hlist]
      exact congrArg Value.list (hitems.toValues hitemsDepth)
  | .tuple vs, _, fuel + 1, h, hdepth => by
      obtain ⟨ds, rfl, hitems⟩ := h
      have hitemsDepth : Value.depthOf vs ≤ fuel := by
        rw [Value.depth] at hdepth
        omega
      rw [Store.toValue]
      exact congrArg Value.tuple (hitems.toValues hitemsDepth)
  | .symbol sym value left right name, _, fuel + 1, h, hdepth => by
      obtain ⟨n, a, b, c, e, f, rfl, hobject, hsym, hvalue, hleft, hright, hname⟩ := h
      rw [Value.depth] at hdepth
      have hbelow : s.isBelow (.known (runtimeType "Symbol")) depthLimit
          (.known (runtimeType "Symbol")) = true := rfl
      have hparts : ∀ name d, (symbolParts.zip [a, b, c, e, f]).lookup name = some d →
          (((symbolParts.zip [a, b, c, e, f]).lookup name).map (s.toValue fuel)).getD .null =
            s.toValue fuel d := by
        intro name d hd
        rw [hd]
        rfl
      rw [Store.toValue, hobject]
      simp only [hbelow, if_true]
      rw [hparts "sym" a rfl, hparts "value" b rfl, hparts "left" c rfl, hparts "right" e rfl,
        hparts "name" f rfl, hsym.toValue (by omega), hvalue.toValue (by omega),
        hleft.toValue (by omega), hright.toValue (by omega), hname.toValue (by omega)]
  | .other name, _, fuel + 1, h, _ => by
      rw [h]
      rfl

theorem Store.StandForAll.toValues : ∀ {vs : List Value} {ds : List Datum} {fuel : Nat},
    s.StandForAll vs ds → Value.depthOf vs ≤ fuel → ds.map (s.toValue fuel) = vs
  | [], _, _, h, _ => by
      cases h
      rfl
  | v :: vs, _, fuel, h, hdepth => by
      obtain ⟨d, rest, rfl, hd, hrest⟩ := h
      rw [Value.depthOf] at hdepth
      rw [List.map_cons, hd.toValue (by omega), hrest.toValues (by omega)]

end

/-! ## Types of data -/

theorem isSame_integerType {k : Known} (h : k.path ≠ builtinPath ∨ k.name ≠ "int") :
    (Datum.known k).isSame (.known integerType) = false := by
  have hne : (k.path == integerType.path && k.name == integerType.name) = false := by
    rw [Bool.and_eq_false_iff, beq_eq_false_iff_ne, beq_eq_false_iff_ne]
    exact h
  rw [Datum.isSame, hne, Bool.false_and]

/-- Only what stands for an integer is of the type of integers. -/
theorem Store.StandsFor.exec_typeOf {v : Value} {d : Datum} (h : s.StandsFor v d) :
    ∃ type, exec (typeOf d) s = (.ok type, s) ∧
      (type.isSame (.known integerType) = true ↔ ∃ n, v = .int n) := by
  -- All types but that of integers are from elsewhere or go by another name.
  have hother : ∀ {k : Known} {v : Value}, k.path ≠ builtinPath ∨ k.name ≠ "int" →
      (∀ n, v ≠ .int n) →
      ((Datum.known k).isSame (.known integerType) = true ↔ ∃ n, v = .int n) := by
    intro k v hk hv
    rw [isSame_integerType hk]
    simpa using hv
  have hlisted : ∀ name ∈ ["bool", "float", "str", "tuple", "list"],
      (builtinType name).path ≠ builtinPath ∨ (builtinType name).name ≠ "int" := by
    intro name hname
    rw [builtinType_name hname]
    exact Or.inr (by rintro rfl; exact absurd hname (by decide))
  cases v with
  | null =>
      rw [h]
      exact ⟨_, rfl, hother (Or.inl (by decide)) (by simp)⟩
  | bool b =>
      rw [h]
      exact ⟨_, rfl, hother (hlisted "bool" (by decide)) (by simp)⟩
  | int n =>
      rw [h]
      refine ⟨.known (builtinType "int"), rfl, ?_⟩
      rw [builtinType_int]
      exact ⟨fun _ => ⟨n, rfl⟩, fun _ => rfl⟩
  | member n shown =>
      rw [h]
      exact ⟨_, rfl, hother (Or.inl (by simp [builtinPath])) (by simp)⟩
  | real x =>
      rw [h]
      exact ⟨_, rfl, hother (hlisted "float" (by decide)) (by simp)⟩
  | text t =>
      rw [h]
      exact ⟨_, rfl, hother (hlisted "str" (by decide)) (by simp)⟩
  | list vs =>
      obtain ⟨n, ds, rfl, hlist, _⟩ := h
      refine ⟨.known (builtinType "list"), ?_, hother (hlisted "list" (by decide)) (by simp)⟩
      rw [typeOf, exec_bind_ok (exec_cellAt hlist)]
      rfl
  | tuple vs =>
      obtain ⟨ds, rfl, _⟩ := h
      exact ⟨_, rfl, hother (hlisted "tuple" (by decide)) (by simp)⟩
  | symbol sym value left right name =>
      obtain ⟨n, a, b, c, e, f, rfl, hobject, _⟩ := h
      refine ⟨.known (runtimeType "Symbol"), ?_, hother (Or.inl (by decide)) (by simp)⟩
      rw [typeOf, exec_bind_ok (exec_cellAt hobject)]
      rfl
  | other name =>
      rw [h]
      exact ⟨_, rfl, hother (Or.inl (by simp [builtinPath])) (by simp)⟩

/-! ## Operators -/

section Operators

variable {v w x : Value} {a b : Datum} {vs ws : List Value} {as bs : List Datum}

theorem Store.StandsFor.integer? (h : s.StandsFor v a) : a.integer? = v.integer? := by
  cases v with
  | list vs =>
      obtain ⟨n, ds, rfl, _⟩ := h
      rfl
  | tuple vs =>
      obtain ⟨ds, rfl, _⟩ := h
      rfl
  | symbol sym value left right name =>
      obtain ⟨n, c, d, e, f, g, rfl, _⟩ := h
      rfl
  | _ =>
      cases h
      rfl

theorem Store.StandForAll.append (h : s.StandForAll vs as) (h' : s.StandForAll ws bs) :
    s.StandForAll (vs ++ ws) (as ++ bs) := by
  induction vs generalizing as with
  | nil =>
      cases h
      exact h'
  | cons v vs ih =>
      obtain ⟨d, rest, rfl, hd, hrest⟩ := h
      exact ⟨d, rest ++ bs, rfl, hd, ih hrest⟩

theorem Store.StandForAll.flatten_replicate (h : s.StandForAll vs as) (count : Nat) :
    s.StandForAll (List.replicate count vs).flatten (List.replicate count as).flatten := by
  induction count with
  | zero => rfl
  | succ count ih => exact h.append ih

/-- A new list stands for the values that its items stand for. -/
theorem exec_makeList (h : s.StandForAll vs as) : ∃ d s', exec (makeList as) s = (.ok d, s') ∧
    s.Grows s' ∧ s'.StandsFor (.list vs) d :=
  have hpush := s.grows_push (.list as)
  ⟨_, _, exec_makeCell _ _, hpush, _, as, rfl, Store.push_new _ _, h.mono hpush⟩

theorem integer?_of_numberKind? (h : numberKind? a = none) : a.integer? = none := by
  cases a with
  | bool b => cases h
  | int n => cases h
  | member n shown => cases h
  | _ => rfl

/-- Two integers are added, subtracted or multiplied as such. -/
theorem operatorResult_of_integers {op : Operator} (hop : op ∈ [.add, .sub, .mul]) {m n : Int}
    (ha : a.integer? = some m) (hb : b.integer? = some n) :
    operatorResult op a b = integerResult op m n := by
  unfold operatorResult
  split
  · simp at hop
  · simp at hop
  · simp at hop
  · simp only [ha, hb]

/-- What is not a number is left to the operators for other data. -/
theorem operatorResult_of_other {op : Operator} (hop : op ∈ [.add, .sub, .mul])
    (h : numberKind? a = none ∨ numberKind? b = none) :
    operatorResult op a b = otherResult op a b := by
  have hinteger : a.integer? = none ∨ b.integer? = none :=
    h.imp integer?_of_numberKind? integer?_of_numberKind?
  have hshared : sharedKind? a b = none := by
    unfold sharedKind?
    rcases h with h | h
    · rw [h]
    · rw [h]
      rcases numberKind? a with _ | (_ | _ | _) <;> rfl
  unfold operatorResult
  split
  · simp at hop
  · simp at hop
  · simp at hop
  · split
    · rename_i hm hn
      rcases hinteger with h' | h'
      · cases h'.symm.trans hm
      · cases h'.symm.trans hn
    · rename_i hkind _
      cases hshared.symm.trans hkind
    · refine if_neg ?_
      rintro ⟨ha, hb⟩
      rcases h with h | h
      · cases h.symm.trans ha
      · cases h.symm.trans hb

theorem Store.StandsFor.exec_integers {op : Operator} {m n : Int} {f : Int → Int → Int}
    (hop : op ∈ [.add, .sub, .mul]) (hf : integerResult op m n = pure (.int (f m n)))
    (ha : s.StandsFor v a) (hb : s.StandsFor w b) (hm : v.integer? = some m)
    (hn : w.integer? = some n) :
    ∃ d s', exec (operatorResult op a b) s = (.ok d, s') ∧ s.Grows s' ∧
      s'.StandsFor (.int (f m n)) d := by
  refine ⟨.int (f m n), s, ?_, .refl s, rfl⟩
  rw [operatorResult_of_integers hop (ha.integer?.trans hm) (hb.integer?.trans hn), hf]
  rfl

/-- The sum of data stands for the sum of the values that they stand for. -/
theorem Store.StandsFor.exec_add (ha : s.StandsFor v a) (hb : s.StandsFor w b)
    (hx : v.add? w = some x) : ∃ d s', exec (operatorResult .add a b) s = (.ok d, s') ∧
      s.Grows s' ∧ s'.StandsFor x d := by
  unfold Value.add? at hx
  split at hx
  · cases ha
    cases hb
    cases hx
    exact ⟨_, s, rfl, .refl s, rfl⟩
  · obtain ⟨m, as, rfl, hlist, has⟩ := ha
    obtain ⟨n, bs, rfl, hlist', hbs⟩ := hb
    cases hx
    obtain ⟨d, s', hmade, hgrows, hd⟩ := exec_makeList (has.append hbs)
    refine ⟨d, s', ?_, hgrows, hd⟩
    rw [operatorResult_of_other (by simp) (.inl rfl), otherResult, joined,
      exec_bind_ok (exec_cellAt hlist), exec_bind_ok (exec_cellAt hlist')]
    exact hmade
  · obtain ⟨as, rfl, has⟩ := ha
    obtain ⟨bs, rfl, hbs⟩ := hb
    cases hx
    exact ⟨_, s, rfl, .refl s, _, rfl, has.append hbs⟩
  · split at hx
    · rename_i hm hn
      cases hx
      exact ha.exec_integers (f := (· + ·)) (by simp) rfl hb hm hn
    · cases hx

/-- The difference of data stands for the difference of the values that they stand for. -/
theorem Store.StandsFor.exec_sub (ha : s.StandsFor v a) (hb : s.StandsFor w b)
    (hx : v.sub? w = some x) : ∃ d s', exec (operatorResult .sub a b) s = (.ok d, s') ∧
      s.Grows s' ∧ s'.StandsFor x d := by
  unfold Value.sub? at hx
  split at hx
  · rename_i hm hn
    cases hx
    exact ha.exec_integers (f := (· - ·)) (by simp) rfl hb hm hn
  · cases hx

theorem Store.StandsFor.exec_repeated {count : Int} (ha : s.StandsFor v a)
    (hx : Value.repeat? count v = some x) : numberKind? a = none ∧
      ∃ d s', exec (repeated count a) s = (.ok d, s') ∧ s.Grows s' ∧ s'.StandsFor x d := by
  unfold Value.repeat? at hx
  split at hx
  · cases ha
    cases hx
    exact ⟨rfl, _, s, rfl, .refl s, rfl⟩
  · obtain ⟨n, as, rfl, hlist, has⟩ := ha
    cases hx
    obtain ⟨d, s', hmade, hgrows, hd⟩ := exec_makeList (has.flatten_replicate count.toNat)
    refine ⟨rfl, d, s', ?_, hgrows, hd⟩
    rw [repeated, exec_bind_ok (exec_cellAt hlist)]
    exact hmade
  · obtain ⟨as, rfl, has⟩ := ha
    cases hx
    exact ⟨rfl, _, s, rfl, .refl s, _, rfl, has.flatten_replicate count.toNat⟩
  · cases hx

/-- The product of data stands for the product of the values that they stand for. -/
theorem Store.StandsFor.exec_mul (ha : s.StandsFor v a) (hb : s.StandsFor w b)
    (hx : v.mul? w = some x) : ∃ d s', exec (operatorResult .mul a b) s = (.ok d, s') ∧
      s.Grows s' ∧ s'.StandsFor x d := by
  unfold Value.mul? at hx
  split at hx
  · rename_i hm hn
    cases hx
    exact ha.exec_integers (f := (· * ·)) (by simp) rfl hb hm hn
  · rename_i m hm hn
    obtain ⟨hkind, hrepeated⟩ := hb.exec_repeated hx
    rw [operatorResult_of_other (by simp) (.inr hkind), otherResult, ha.integer?, hm]
    exact hrepeated
  · rename_i n hm hn
    obtain ⟨hkind, hrepeated⟩ := ha.exec_repeated hx
    rw [operatorResult_of_other (by simp) (.inl hkind), otherResult, ha.integer?, hm, hb.integer?,
      hn]
    exact hrepeated
  · cases hx

/-- What a sign makes of a datum stands for what it makes of the value. -/
theorem Store.StandsFor.exec_signed {n : Int} (ha : s.StandsFor v a) (hn : v.integer? = some n) :
    exec (signed .minus a) s = (.ok (.int (-n)), s) := by
  cases v with
  | bool b =>
      cases ha
      cases hn
      rfl
  | int m =>
      cases ha
      cases hn
      rfl
  | member m shown =>
      cases ha
      cases hn
      rfl
  | _ => cases hn

end Operators

end Code

end LalrBackend
