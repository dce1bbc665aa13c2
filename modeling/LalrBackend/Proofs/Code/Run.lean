import LalrBackend.Code.Execution

/-!
# Runs over a store

What a run comes to on a store, and which store it leaves: the laws of the steps that runs are
put together from. A run of code in a frame is a run over the store as well. A store that has
grown still holds all that it held before, so what is read from a store can be read from all
later ones.
-/

namespace LalrBackend.Code

variable {α β : Type}

/-- What a run comes to on a store, and the store that it leaves. -/
def exec (act : Machine α) (s : Store) : Except Fault α × Store :=
  act.run.run s

/-- What a step of code comes to in a frame. -/
def execIn (f : Frame) (act : Step α) (s : Store) : Except Fault α × Store :=
  exec (act.run f) s

/-! ## Runs -/

section Machine

variable {act : Machine α} {s s' : Store} {a : α} {e : Fault}

@[simp] theorem exec_pure (a : α) (s : Store) : exec (pure a) s = (.ok a, s) := rfl

@[simp] theorem exec_throw (e : Fault) (s : Store) :
    exec (throw e : Machine α) s = (.error e, s) := rfl

@[simp] theorem exec_get (s : Store) : exec get s = (.ok s, s) := rfl

@[simp] theorem exec_modify (f : Store → Store) (s : Store) :
    exec (modify f) s = (.ok (), f s) := rfl

theorem exec_bind (act : Machine α) (k : α → Machine β) (s : Store) :
    exec (act >>= k) s =
      match exec act s with
      | (.ok a, s') => exec (k a) s'
      | (.error e, s') => (.error e, s') := by
  change (ExceptT.bindCont k (act.run.run s).1).run (act.run.run s).2 = _
  rw [exec]
  cases hrun : act.run.run s with
  | mk result s' =>
      cases result with
      | ok a => rfl
      | error e => rfl

theorem exec_bind_ok (h : exec act s = (.ok a, s')) (k : α → Machine β) :
    exec (act >>= k) s = exec (k a) s' := by
  rw [exec_bind, h]

theorem exec_bind_error (h : exec act s = (.error e, s')) (k : α → Machine β) :
    exec (act >>= k) s = (.error e, s') := by
  rw [exec_bind, h]

end Machine

section Step

variable {f : Frame} {act : Step α} {s s' : Store} {a : α} {e : Fault}

@[simp] theorem execIn_pure (a : α) (s : Store) : execIn f (pure a) s = (.ok a, s) := rfl

@[simp] theorem execIn_throw (e : Fault) (s : Store) :
    execIn f (throw e : Step α) s = (.error e, s) := rfl

@[simp] theorem execIn_read (s : Store) : execIn f read s = (.ok f, s) := rfl

@[simp] theorem execIn_lift (act : Machine α) (s : Store) :
    execIn f (liftM act) s = exec act s := rfl

theorem execIn_bind_ok (h : execIn f act s = (.ok a, s')) (k : α → Step β) :
    execIn f (act >>= k) s = execIn f (k a) s' :=
  exec_bind_ok h _

theorem execIn_bind_error (h : execIn f act s = (.error e, s')) (k : α → Step β) :
    execIn f (act >>= k) s = (.error e, s') :=
  exec_bind_error h _

end Step

/-! ## Cells -/

/-- A store with one more cell. -/
def Store.push (s : Store) (c : Cell) : Store :=
  { s with cells := s.cells.push c }

/-- A store in which a cell holds something else. -/
def Store.put (s : Store) (n : Nat) (c : Cell) : Store :=
  { s with cells := s.cells.setIfInBounds n c }

section Cells

variable {s : Store} {n : Nat} {c : Cell}

@[simp] theorem exec_newCell (c : Cell) (s : Store) :
    exec (newCell c) s = (.ok s.cells.size, s.push c) := rfl

@[simp] theorem exec_makeCell (c : Cell) (s : Store) :
    exec (makeCell c) s = (.ok (.cell s.cells.size), s.push c) := rfl

theorem exec_cellAt (h : s.cells[n]? = some c) : exec (cellAt n) s = (.ok c, s) := by
  have hd : s.cells.getD n (.list []) = c := by
    rw [Array.getD_eq_getD_getElem?, h]
    rfl
  rw [cellAt, exec_bind_ok (exec_get s), hd, exec_pure]

@[simp] theorem exec_setCell (n : Nat) (c : Cell) (s : Store) :
    exec (setCell n c) s = (.ok (), s.put n c) := rfl

@[simp] theorem Store.push_new (s : Store) (c : Cell) :
    (s.push c).cells[s.cells.size]? = some c :=
  Array.getElem?_push_size

@[simp] theorem Store.push_size (s : Store) (c : Cell) :
    (s.push c).cells.size = s.cells.size + 1 :=
  Array.size_push _

theorem Store.put_same (c : Cell) (h : n < s.cells.size) : (s.put n c).cells[n]? = some c :=
  Array.getElem?_setIfInBounds_self_of_lt h

@[simp] theorem Store.put_size (s : Store) (n : Nat) (c : Cell) :
    (s.put n c).cells.size = s.cells.size :=
  Array.size_setIfInBounds

end Cells

/-! ## Growth -/

/-- A store has grown to another one: all cells that it had hold what they held, and nothing but
cells was added. -/
structure Store.Grows (s s' : Store) : Prop where
  cells : ∀ {n : Nat} {c : Cell}, s.cells[n]? = some c → s'.cells[n]? = some c
  size : s.cells.size ≤ s'.cells.size
  globals : s'.globals = s.globals
  marks : s'.marks = s.marks
  handled : s'.handled = s.handled

namespace Store

variable {s s' s'' : Store} {n : Nat}

theorem Grows.refl (s : Store) : s.Grows s where
  cells h := h
  size := Nat.le_refl _
  globals := rfl
  marks := rfl
  handled := rfl

theorem Grows.trans (h : s.Grows s') (h' : s'.Grows s'') : s.Grows s'' where
  cells hn := h'.cells (h.cells hn)
  size := Nat.le_trans h.size h'.size
  globals := h'.globals.trans h.globals
  marks := h'.marks.trans h.marks
  handled := h'.handled.trans h.handled

theorem grows_push (s : Store) (c : Cell) : s.Grows (s.push c) where
  cells {n _} hn := by
    have hlt : n < s.cells.size := (Array.getElem?_eq_some_iff.mp hn).1
    rw [push, Array.getElem?_push_lt hlt, ← hn, Array.getElem?_eq_getElem hlt]
  size := by simp
  globals := rfl
  marks := rfl
  handled := rfl

/-- Cells that came later may change. -/
theorem Grows.put (h : s.Grows s') (hn : s.cells.size ≤ n) (c : Cell) : s.Grows (s'.put n c) where
  cells {k _} hk := by
    have hlt : k < s.cells.size := (Array.getElem?_eq_some_iff.mp hk).1
    rw [Store.put, Array.getElem?_setIfInBounds_ne (by omega)]
    exact h.cells hk
  size := by simpa using h.size
  globals := h.globals
  marks := h.marks
  handled := h.handled

end Store

end LalrBackend.Code
