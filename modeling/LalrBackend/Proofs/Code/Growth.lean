import LalrBackend.Code.Failure
import LalrBackend.Proofs.Code.Run

/-!
# Runs that only make cells

Reading an attribute may make a list, and a failure is told by reading attributes: such runs leave
all that there was before as it was, whatever they come to.
-/

namespace LalrBackend.Code

variable {α β : Type}

/-- What a run has left alone and what follows it leaves alone. -/
theorem grows_bind {s s₀ : Store} {act : Machine α} {k : α → Machine β}
    (h : s₀.Grows (exec act s).2)
    (hk : ∀ a s', exec act s = (.ok a, s') → s₀.Grows s' → s₀.Grows (exec (k a) s').2) :
    s₀.Grows (exec (act >>= k) s).2 := by
  rw [exec_bind]
  cases hrun : exec act s with
  | mk result s' =>
      rw [hrun] at h
      cases result with
      | ok a => exact hk a s' hrun h
      | error fault => exact h

/-- A run that leaves all that a store holds as it is. -/
def OnlyGrows (act : Machine α) : Prop :=
  ∀ s : Store, s.Grows (exec act s).2

namespace OnlyGrows

variable {act : Machine α} {k : α → Machine β}

theorem pure (a : α) : OnlyGrows (Pure.pure a : Machine α) :=
  fun s => .refl s

theorem throw (fault : Fault) : OnlyGrows (MonadExcept.throw fault : Machine α) :=
  fun s => .refl s

theorem get : OnlyGrows (MonadState.get : Machine Store) :=
  fun s => .refl s

theorem bind (h : OnlyGrows act) (hk : ∀ a, OnlyGrows (k a)) : OnlyGrows (act >>= k) :=
  fun s => grows_bind (h s) fun a s' _ hgrows => hgrows.trans (hk a s')

theorem map (h : OnlyGrows act) (f : α → β) : OnlyGrows (f <$> act) := by
  rw [map_eq_pure_bind]
  exact h.bind fun a => .pure (f a)

theorem orFail (fault : Fault) (a? : Option α) : OnlyGrows (Code.orFail fault a?) := by
  cases a? with
  | none => exact .throw fault
  | some a => exact .pure a

theorem cellAt (n : Nat) : OnlyGrows (Code.cellAt n) :=
  get.bind fun _ => .pure _

theorem makeList (items : List Datum) : OnlyGrows (Code.makeList items) :=
  fun s => s.grows_push _

end OnlyGrows

/-! ## Attributes -/

theorem onlyGrows_typeOf (d : Datum) : OnlyGrows (typeOf d) := by
  cases d with
  | known k =>
      rw [typeOf]
      split <;> exact .pure _
  | cell n =>
      refine (OnlyGrows.cellAt n).bind fun c => ?_
      cases c <;> exact .pure _
  | _ => exact .pure _

theorem onlyGrows_ofFixed (v : FixedValue) : OnlyGrows (ofFixed v) := by
  cases v with
  | texts items => exact .makeList _
  | _ => exact .pure _

theorem onlyGrows_memberDatum? (path name : String) : OnlyGrows (memberDatum? path name) := by
  unfold memberDatum?
  split
  · exact (onlyGrows_ofFixed _).map _
  · split
    · exact .pure _
    · split
      · exact .pure _
      · split
        · exact (onlyGrows_ofFixed _).map _
        · exact .pure _

theorem onlyGrows_classMember? (cls : Datum) (name : String) :
    OnlyGrows (classMember? cls name) :=
  OnlyGrows.get.bind fun _ => .pure _

theorem onlyGrows_bindMember (self member : Datum) : OnlyGrows (bindMember self member) := by
  cases member with
  | known k =>
      rw [bindMember]
      split <;> exact .pure _
  | cell n =>
      refine (OnlyGrows.cellAt n).bind fun c => ?_
      cases c <;> exact .pure _
  | _ => exact .pure _

theorem onlyGrows_typeAttribute (type : String) (d : Datum) (name : String) :
    OnlyGrows (typeAttribute type d name) := by
  unfold typeAttribute
  split
  · exact .pure _
  · split
    · exact .pure _
    · exact .pure _
    · exact .throw _

theorem onlyGrows_plainAttribute (d : Datum) (name : String) :
    OnlyGrows (plainAttribute d name) := by
  refine (onlyGrows_typeOf d).bind fun type => ?_
  split
  · exact .pure _
  · exact onlyGrows_typeAttribute _ _ _
  · exact .throw _

theorem onlyGrows_knownAttribute (k : Known) (name : String) :
    OnlyGrows (knownAttribute k name) := by
  refine OnlyGrows.get.bind fun s => ?_
  split
  · exact .pure _
  · split
    · exact (onlyGrows_memberDatum? _ _).bind fun d => .orFail _ d
    · split
      · exact onlyGrows_typeAttribute _ _ _
      · split <;> exact .pure _
    · split
      · exact .pure _
      · split
        · exact .pure _
        · split
          · exact .pure _
          · exact .throw _

theorem onlyGrows_objectAttribute (self cls : Datum) (members : List (String × Datum))
    (name : String) : OnlyGrows (objectAttribute self cls members name) := by
  refine (onlyGrows_classMember? cls name).bind fun found => ?_
  simp only
  split
  · exact .pure _
  · split
    · exact .throw _
    · exact onlyGrows_bindMember _ _
  · split
    · exact .pure _
    · exact .throw _

theorem onlyGrows_hasMembers (d : Datum) : OnlyGrows (hasMembers d) := by
  cases d with
  | cell n =>
      refine (OnlyGrows.cellAt n).bind fun c => ?_
      cases c <;> exact .pure _
  | _ => exact .pure _

/-- An attribute of a function. -/
theorem onlyGrows_routineAttribute (r : Routine) (members : List (String × Datum))
    (name : String) : OnlyGrows (if name = calledName then Pure.pure (.text r.name)
      else orFail .noAttribute (members.lookup name)) := by
  split
  · exact .pure _
  · exact .orFail _ _

/-- Reading an attribute changes nothing. -/
theorem onlyGrows_attributeOf (d : Datum) (name : String) : OnlyGrows (attributeOf d name) := by
  unfold attributeOf
  split
  · exact onlyGrows_typeOf d
  split
  · exact .pure _
  refine (onlyGrows_hasMembers d).bind fun has => ?_
  split
  · exact .pure _
  cases d with
  | known k => exact onlyGrows_knownAttribute k name
  | bound self routine =>
      simp only
      split
      · exact .pure _
      split
      · exact .pure _
      cases routine with
      | known k => exact onlyGrows_knownAttribute k name
      | cell n =>
          refine (OnlyGrows.cellAt n).bind fun c => ?_
          cases c with
          | routine r members => exact onlyGrows_routineAttribute r members name
          | _ => exact .throw _
      | _ => exact .throw _
  | above owner self =>
      refine (OnlyGrows.cellAt owner).bind fun c => ?_
      cases c with
      | type called bases members =>
          refine OnlyGrows.get.bind fun s => ?_
          split
          · exact onlyGrows_bindMember _ _
          · split
            · exact .pure _
            · exact .throw _
      | _ => exact .throw _
  | cell n =>
      refine (OnlyGrows.cellAt n).bind fun c => ?_
      cases c with
      | object cls members => exact onlyGrows_objectAttribute _ cls members name
      | type called bases members =>
          refine (onlyGrows_classMember? _ name).bind fun found => ?_
          split
          · exact .pure _
          · split
            · exact .pure _
            · exact .throw _
      | routine r members => exact onlyGrows_routineAttribute r members name
      | _ => exact onlyGrows_plainAttribute _ name
  | _ => exact onlyGrows_plainAttribute _ name

/-! ## Failures -/

theorem onlyGrows_handOut (d : Datum) : OnlyGrows (handOut d) :=
  OnlyGrows.get.bind fun _ => .pure _

theorem onlyGrows_isObjectOf (name : String) (d : Datum) : OnlyGrows (isObjectOf name d) :=
  OnlyGrows.get.bind fun _ => (onlyGrows_typeOf d).bind fun _ => .pure _

theorem onlyGrows_raisedName? (cls : Datum) : OnlyGrows (raisedName? cls) := by
  refine OnlyGrows.get.bind fun s => ?_
  split
  · split <;> exact .pure _
  · exact .pure _

/-- Telling a failure changes nothing. -/
theorem onlyGrows_failure (fault : Fault) : OnlyGrows fault.failure := by
  cases fault with
  | raised made =>
      refine (onlyGrows_isObjectOf _ made).bind fun refused => ?_
      split
      · refine (onlyGrows_attributeOf made _).bind fun message => ?_
        refine (onlyGrows_handOut message).bind fun message => ?_
        refine (onlyGrows_attributeOf made _).bind fun number => ?_
        exact (onlyGrows_handOut number).bind fun _ => .pure _
      · refine (onlyGrows_typeOf made).bind fun type => ?_
        exact (onlyGrows_raisedName? type).bind fun _ => .pure _
  | _ => exact .pure _

end LalrBackend.Code
