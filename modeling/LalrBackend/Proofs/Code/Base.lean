import LalrBackend.Proofs.Code.Growth
import LalrBackend.Proofs.Code.Sparing
import LalrBackend.StackSymbol

/-!
# What a parser has from its base

A generated parser leaves it to the class that it is based on how symbols are made and how the end of
a parse is noted. A reduction asks for the factory of symbols, has it make one, and the reduction by
the start production notes the end.
-/

namespace LalrBackend.Code

/-- A method of a type that generated parsers are based on. -/
def baseMethod (type name : String) : Known :=
  ⟨runtimePath, pathWithin type name, .routine, [.settable]⟩

/-- The names by which a reduction asks a parser for what its base has. -/
def askedNames : List String :=
  ["get_symbol_factory", "done_parsing"]

/-- The class of a parser has none of the names that its base and the parser use, it is based on
that class alone, and the parser has a factory of symbols; nothing was set on the types that make
symbols. -/
structure Store.KeepsBase (s : Store) (parser : Nat) : Prop where
  parser : ∃ cls own called members factory, s.cells[parser]? = some (.object (.cell cls) own) ∧
    s.cells[cls]? = some (.type called [.known (runtimeType "LRParser")] members) ∧
    (∀ name ∈ "symbol_factory" :: doneName :: askedNames, members.lookup name = none) ∧
    (∀ name ∈ askedNames, own.lookup name = none) ∧
    own.lookup "symbol_factory" = some (.cell factory) ∧
    ∃ parts, s.cells[factory]? = some (.object (.known (runtimeType "SymbolFactory")) parts) ∧
      parts.lookup "new_symbol" = none
  asked : ∀ name ∈ "symbol_factory" :: doneName :: askedNames,
    s.marks.lookup (runtimePath, "LRParser", name) = none
  maker : s.marks.lookup (runtimePath, "SymbolFactory", "new_symbol") = none
  started : s.marks.lookup (runtimePath, "Symbol", startName) = none

variable {s s' : Store} {noted : Option Nat} {parser scope cls n depth : Nat} {name called : String} {d : Datum}
  {own members : List (String × Datum)}

theorem Store.KeepsBase.spares (hspares : s.Spares noted scope s') (h : s.KeepsBase parser) :
    s'.KeepsBase parser where
  parser := by
    obtain ⟨cls, own, called, members, factory, hparser, hcls, hmembers, hown, hfactory, parts,
      hmaker, hparts⟩ := h.parser
    obtain ⟨own', hparser', hown'⟩ := hspares.object hparser
    obtain ⟨parts', hmaker', hparts'⟩ := hspares.object hmaker
    refine ⟨cls, own', called, members, factory, hparser', hspares.other rfl rfl hcls, hmembers,
      ?_, (hown' _ (by decide)).trans hfactory, parts', hmaker',
      (hparts' _ (by decide)).trans hparts⟩
    intro name hname
    refine (hown' name ?_).trans (hown name hname)
    rintro rfl
    exact absurd hname (by decide)
  asked := by rw [hspares.marks]; exact h.asked
  maker := by rw [hspares.marks]; exact h.maker
  started := by rw [hspares.marks]; exact h.started

/-! ## Members of the base -/

section Members

/-- What a class that is based on the class of parsers has from it. -/
theorem member?_base (fuel : Nat)
    (hcls : s.cells[cls]? = some (.type called [.known (runtimeType "LRParser")] members))
    (hmember : members.lookup name = none)
    (hmark : s.marks.lookup (runtimePath, "LRParser", name) = none) :
    s.member? name (fuel + 2) (.cell cls) =
      (runtimeMember? (runtimeType "LRParser") name).map .known := by
  have hbase : s.marks.lookup ((runtimeType "LRParser").path, (runtimeType "LRParser").name,
      name) = none := hmark
  rw [Store.member?, hcls]
  simp only [hmember, Option.none_or, List.findSome?_cons, List.findSome?_nil]
  rw [Store.member?, hbase]
  · cases runtimeMember? (runtimeType "LRParser") name <;> rfl
  · simp

theorem exec_bindMember_base {type : String} (hname : pathWithin type name ≠ freeMember) :
    exec (bindMember d (.known (baseMethod type name))) s =
      (.ok (.bound d (.known (baseMethod type name))), s) := by
  rw [bindMember, if_pos ⟨rfl, List.mem_singleton_self _, hname⟩, exec_pure]

/-- A method that an object has from a type that is not part of the module. -/
theorem exec_attributeOf_base {type : Datum} {own : List (String × Datum)} {k : String}
    (hspecial : isSpecial name = false) (hobject : s.cells[n]? = some (.object type own))
    (hown : own.lookup name = none)
    (hmember : s.member? name depthLimit type = some (.known (baseMethod k name)))
    (hfree : pathWithin k name ≠ freeMember) (hcomputed : pathWithin k name ≠ computedMember) :
    exec (attributeOf (.cell n) name) s =
      (.ok (.bound (.cell n) (.known (baseMethod k name))), s) := by
  have hnot : isComputed (some (.known (baseMethod k name))) = false :=
    beq_eq_false_iff_ne.mpr hcomputed
  rw [exec_attributeOf_object hspecial hobject, objectAttribute,
    exec_bind_ok (exec_classMember? _ _ _), hmember]
  simp only [hnot, Bool.false_eq_true, if_false, hown]
  exact exec_bindMember_base hfree

theorem exec_callAt_base {type : String} {args : List Datum} {named : List (String × Datum)} :
    exec (callAt (depth + 1) (.bound d (.known (baseMethod type name))) args named) s =
      exec (callRuntime (callAt depth) (pathWithin type name) (d :: args) named) s := by
  have hpath : (baseMethod type name).path ≠ streamReader.path := by
    have hruntime : (baseMethod type name).path = runtimePath := rfl
    rw [hruntime]
    decide
  have hroutine : (baseMethod type name).nature ≠ .module := by nofun
  rw [exec_callAt_boundKnown (ne_of_path hpath), callKnown, if_neg hroutine, if_pos ⟨rfl, rfl⟩]
  rfl

end Members

/-! ## The factory of symbols -/

namespace Store.KeepsBase

/-- A reduction asks a parser for a method of its base. -/
theorem exec_attributeOf (h : s.KeepsBase parser) (hname : name ∈ askedNames) :
    exec (attributeOf (.cell parser) name) s =
      (.ok (.bound (.cell parser) (.known (baseMethod "LRParser" name))), s) := by
  obtain ⟨cls, own, called, members, factory, hparser, hcls, hmembers, hown, _⟩ := h.parser
  have hlisted : name ∈ "symbol_factory" :: doneName :: askedNames :=
    List.mem_cons_of_mem _ (List.mem_cons_of_mem _ hname)
  have hmember := member?_base 998 hcls (hmembers name hlisted) (h.asked name hlisted)
  have hnames : ∀ name ∈ askedNames, isSpecial name = false ∧
      runtimeMember? (runtimeType "LRParser") name = some (baseMethod "LRParser" name) ∧
      pathWithin "LRParser" name ≠ freeMember ∧ pathWithin "LRParser" name ≠ computedMember := by
    decide +kernel
  obtain ⟨hspecial, hruntime, hfree, hcomputed⟩ := hnames name hname
  rw [hruntime] at hmember
  exact exec_attributeOf_base hspecial hparser (hown name hname) hmember hfree hcomputed

/-- It gets the factory of symbols. -/
theorem exec_factory (h : s.KeepsBase parser) (depth : Nat) :
    ∃ factory parts, s.cells[factory]? =
        some (.object (.known (runtimeType "SymbolFactory")) parts) ∧
      parts.lookup "new_symbol" = none ∧
      exec (callAt (depth + 1) (.bound (.cell parser)
        (.known (baseMethod "LRParser" "get_symbol_factory"))) [] []) s =
        (.ok (.cell factory), s) := by
  obtain ⟨cls, own, called, members, factory, hparser, hcls, hmembers, _, hfactory, parts, hmaker,
    hparts⟩ := h.parser
  have hmember := member?_base 998 hcls (hmembers "symbol_factory" (by decide))
    (h.asked "symbol_factory" (by decide))
  have hruntime : runtimeMember? (runtimeType "LRParser") "symbol_factory" = none := by
    decide +kernel
  rw [hruntime] at hmember
  have hattribute : exec (attributeOf (.cell parser) "symbol_factory") s =
      (.ok (.cell factory), s) := by
    rw [exec_attributeOf_object (by decide) hparser, objectAttribute,
      exec_bind_ok (exec_classMember? _ _ _), depthLimit, hmember]
    simp only [Option.map_none, isComputed, Bool.false_eq_true, if_false, hfactory]
    rfl
  have hcall : callRuntime (callAt depth) (pathWithin "LRParser" "get_symbol_factory")
      [.cell parser] [] = (do
        let args ← takeArguments [("self", none)] [.cell parser] []
        attributeOf (argument args 0) "symbol_factory") := rfl
  have hargs : exec (takeArguments [("self", none)] [.cell parser] []) s =
      (.ok [.cell parser], s) := rfl
  refine ⟨factory, parts, hmaker, hparts, ?_⟩
  rw [exec_callAt_base, hcall, exec_bind_ok hargs]
  exact hattribute

/-- The end of the parse is noted. -/
theorem exec_doneParsing (h : s.KeepsBase parser) (depth : Nat) :
    ∃ cls own, s.cells[parser]? = some (.object cls own) ∧
      exec (callAt (depth + 1) (.bound (.cell parser)
        (.known (baseMethod "LRParser" "done_parsing"))) [] []) s =
        (.ok .null, s.put parser (.object cls (setEntry doneName (.bool true) own))) := by
  obtain ⟨cls, own, called, members, _, hparser, hcls, hmembers, _⟩ := h.parser
  have hmember := member?_base 998 hcls (hmembers doneName (by decide))
    (h.asked doneName (by decide))
  have hruntime : runtimeMember? (runtimeType "LRParser") doneName = none := by decide +kernel
  rw [hruntime] at hmember
  have hset : exec (setAttribute (.cell parser) doneName (.bool true)) s =
      (.ok (), s.put parser (.object (.cell cls) (setEntry doneName (.bool true) own))) := by
    rw [exec_setAttribute (by decide) (by decide) hparser, depthLimit, hmember]
    rfl
  have hcall : callRuntime (callAt depth) (pathWithin "LRParser" "done_parsing")
      [.cell parser] [] = (do
        let args ← takeArguments [("self", none)] [.cell parser] []
        setAttribute (argument args 0) doneName (.bool true)
        return .null) := rfl
  have hargs : exec (takeArguments [("self", none)] [.cell parser] []) s =
      (.ok [.cell parser], s) := rfl
  refine ⟨_, own, hparser, ?_⟩
  rw [exec_callAt_base, hcall, exec_bind_ok hargs]
  exact (exec_bind_ok hset _).trans (exec_pure _ _)

/-- The factory has a method that makes symbols. -/
theorem exec_attributeOf_maker (h : s.KeepsBase parser) {factory : Nat}
    (hfactory : s.cells[factory]? = some (.object (.known (runtimeType "SymbolFactory")) own))
    (hown : own.lookup "new_symbol" = none) :
    exec (attributeOf (.cell factory) "new_symbol") s =
      (.ok (.bound (.cell factory) (.known (baseMethod "SymbolFactory" "new_symbol"))), s) := by
  have hmark : s.marks.lookup ((runtimeType "SymbolFactory").path,
      (runtimeType "SymbolFactory").name, "new_symbol") = none := h.maker
  have hruntime : runtimeMember? (runtimeType "SymbolFactory") "new_symbol" =
      some (baseMethod "SymbolFactory" "new_symbol") := by decide +kernel
  have hmember : s.member? "new_symbol" depthLimit (.known (runtimeType "SymbolFactory")) =
      some (.known (baseMethod "SymbolFactory" "new_symbol")) := by
    rw [depthLimit, Store.member?, hmark, hruntime]
    · rfl
    · simp
  exact exec_attributeOf_base (by decide) hfactory hown hmember (by decide) (by decide)

end Store.KeepsBase

/-! ## Making a symbol -/

section Symbols

variable {s₀ : Store} {cls : Datum} {args as : List Datum} {named : List (String × Datum)}

/-- Arguments are taken without changing anything, and the first one stays the first one. -/
theorem argument_of_takeArguments {parameters : List (String × Option Datum)}
    (h : exec (takeArguments parameters (d :: args) named) s = (.ok as, s')) :
    argument as 0 = d ∧ s' = s := by
  unfold takeArguments at h
  cases harguments : arguments? parameters (d :: args) named with
  | none =>
      rw [harguments] at h
      cases h
  | some bs =>
      rw [harguments] at h
      cases h
      refine ⟨?_, rfl⟩
      unfold arguments? at harguments
      split at harguments
      · cases harguments
      · split at harguments
        · cases harguments
        · obtain ⟨rest, _, hrest⟩ := Option.bind_eq_some_iff.mp harguments
          cases hrest
          rfl

theorem onlyGrows_endOf (name : String) (d : Datum) : OnlyGrows (endOf name d) := by
  unfold endOf
  split
  · exact .pure _
  · exact onlyGrows_attributeOf _ _

theorem isSpecial_part {part : String} (hpart : part ∈ symbolParts) :
    isSpecial part = false ∧ part ≠ calledName := by
  have hparts : ∀ part ∈ symbolParts, isSpecial part = false ∧ part ≠ calledName := by decide
  exact hparts part hpart

/-- The parts of a new object are set one after the other; what was there before it is kept. -/
theorem grows_setParts {entries : List (String × Datum)} (hnew : s₀.cells.size ≤ n)
    (hentries : ∀ e ∈ entries, isSpecial e.1 = false ∧ e.1 ≠ calledName)
    (hobject : s.cells[n]? = some (.object cls own)) (hgrows : s₀.Grows s) :
    s₀.Grows (exec (entries.mapM fun e => setAttribute (.cell n) e.1 e.2) s).2 := by
  induction entries generalizing s own with
  | nil => exact hgrows
  | cons e entries ih =>
      obtain ⟨hspecial, hcalled⟩ := hentries e List.mem_cons_self
      have hset := exec_setAttribute hspecial hcalled hobject (v := e.2)
      rw [List.mapM_cons, exec_bind, hset]
      split
      · rename_i heq
        split at heq
        · cases heq
        · cases heq
          refine grows_bind (ih (fun e he => hentries e (List.mem_cons_of_mem _ he))
            (Store.put_at hobject) (hgrows.put hnew _)) fun _ _ _ h => h
      · rename_i heq
        split at heq
        · cases heq
          exact hgrows
        · cases heq

/-- A call of the type of symbols starts a new object. -/
theorem exec_callSymbol (hstart : s.marks.lookup (runtimePath, "Symbol", startName) = none) :
    exec (callAt (depth + 2) (.known (runtimeType "Symbol")) args []) s =
      exec (do
        let _ ← callRuntime (callAt depth) (pathWithin "Symbol" startName)
          (.cell s.cells.size :: args) []
        return .cell s.cells.size) (s.push (.object (.known (runtimeType "Symbol")) [])) := by
  have hpath : (runtimeType "Symbol").path ≠ streamReader.path := by decide
  have hcall : callKnown (callAt (depth + 1)) (runtimeType "Symbol") args [] =
      instantiate (callAt (depth + 1)) (.known (runtimeType "Symbol")) args [] := by
    have hruntime : (runtimeType "Symbol").path = runtimePath := rfl
    rw [callKnown, if_neg (by decide), if_neg (by decide), if_pos (Or.inl hruntime)]
  have hmember : (s.push (.object (.known (runtimeType "Symbol")) [])).member? startName
      depthLimit (.known (runtimeType "Symbol")) =
      some (.known (baseMethod "Symbol" startName)) := by
    have hmark : (s.push (.object (.known (runtimeType "Symbol")) [])).marks.lookup
        ((runtimeType "Symbol").path, (runtimeType "Symbol").name, startName) = none := hstart
    have hruntime : runtimeMember? (runtimeType "Symbol") startName =
        some (baseMethod "Symbol" startName) := by decide +kernel
    rw [depthLimit, Store.member?, hmark, hruntime]
    · rfl
    · simp
  rw [exec_callAt_known (ne_of_path hpath), hcall, instantiate, exec_bind_ok (exec_makeCell _ _),
    exec_bind_ok (exec_classMember? _ _ _), hmember]
  simp only
  rw [exec_bind_ok (exec_bindMember_base (by decide)), exec_bind, exec_callAt_base, ← exec_bind]

/-- A symbol is made without changing anything that was there. -/
theorem grows_callSymbol (hstart : s.marks.lookup (runtimePath, "Symbol", startName) = none) :
    s.Grows (exec (callAt (depth + 2) (.known (runtimeType "Symbol")) args []) s).2 := by
  have hpush : s.Grows (s.push (.object (.known (runtimeType "Symbol")) [])) := s.grows_push _
  rw [exec_callSymbol hstart]
  refine grows_bind ?_ fun _ _ _ hgrows => hgrows
  refine grows_bind (hpush.trans (OnlyGrows.orFail _ _ _)) fun as s' htaken hgrows => ?_
  obtain ⟨hfirst, rfl⟩ := argument_of_takeArguments htaken
  rw [hfirst]
  refine grows_bind ?_ fun _ _ _ h => h
  refine grows_setParts (Nat.le_refl _) ?_ (Store.push_new _ _) hpush
  intro e he
  exact isSpecial_part (List.of_mem_zip he).1

/-- The factory makes a symbol, or fails, without changing anything that was there. -/
theorem Store.KeepsBase.grows_newSymbol (h : s.KeepsBase parser) :
    s.Grows (exec (callAt (depth + 3)
      (.bound d (.known (baseMethod "SymbolFactory" "new_symbol"))) args named) s).2 := by
  have hcall : callRuntime (callAt (depth + 2)) (pathWithin "SymbolFactory" "new_symbol")
      (d :: args) named = newSymbol (callAt (depth + 2)) (d :: args) named := rfl
  rw [exec_callAt_base, hcall, newSymbol]
  refine grows_bind ((OnlyGrows.orFail _ _) s) fun as s₁ _ hgrows₁ => ?_
  refine grows_bind (hgrows₁.trans (onlyGrows_endOf _ _ s₁)) fun left s₂ _ hgrows₂ => ?_
  refine grows_bind (hgrows₂.trans (onlyGrows_endOf _ _ s₂)) fun right s₃ _ hgrows₃ => ?_
  refine hgrows₃.trans (grows_callSymbol ?_)
  rw [hgrows₃.marks]
  exact h.started

end Symbols

/-! ## The parts of a symbol -/

/-- The type of symbols has nothing that would stand for a part of a symbol. -/
def Store.LeavesParts (s : Store) : Prop :=
  ∀ part ∈ symbolParts, s.marks.lookup (runtimePath, "Symbol", part) = none

section Parts

variable {part : String} {self name sym value left right : Datum}

theorem Store.LeavesParts.member? (h : s.LeavesParts) (hpart : part ∈ symbolParts) :
    s.member? part depthLimit (.known (runtimeType "Symbol")) = none := by
  have hmark : s.marks.lookup ((runtimeType "Symbol").path, (runtimeType "Symbol").name, part) =
      none := h part hpart
  have hruntime : ∀ part ∈ symbolParts, runtimeMember? (runtimeType "Symbol") part = none := by
    decide +kernel
  rw [depthLimit, Store.member?, hmark, hruntime part hpart]
  · rfl
  · simp

/-- What a symbol has as a part is its attribute. -/
theorem Store.LeavesParts.exec_attributeOf (h : s.LeavesParts) (hpart : part ∈ symbolParts)
    (hobject : s.cells[n]? = some (.object (.known (runtimeType "Symbol")) own))
    (hd : own.lookup part = some d) : exec (attributeOf (.cell n) part) s = (.ok d, s) := by
  rw [exec_attributeOf_object (isSpecial_part hpart).1 hobject, objectAttribute,
    exec_bind_ok (exec_classMember? _ _ _), h.member? hpart]
  simp only [isComputed, Bool.false_eq_true, if_false, hd]
  rfl

/-- The parts of a new symbol are set one after the other. -/
theorem exec_setParts {entries : List (String × Datum)} (h : s.LeavesParts)
    (hparts : ∀ e ∈ entries, e.1 ∈ symbolParts)
    (hobject : s.cells[n]? = some (.object (.known (runtimeType "Symbol")) own)) :
    ∃ s', exec (entries.mapM fun e => setAttribute (.cell n) e.1 e.2) s =
        (.ok (entries.map fun _ => ()), s') ∧
      s'.cells[n]? = some (.object (.known (runtimeType "Symbol"))
        (entries.foldl (fun own e => setEntry e.1 e.2 own) own)) := by
  induction entries generalizing s own with
  | nil => exact ⟨s, rfl, hobject⟩
  | cons e entries ih =>
      have hpart := hparts e List.mem_cons_self
      obtain ⟨hspecial, hcalled⟩ := isSpecial_part hpart
      have hset : exec (setAttribute (.cell n) e.1 e.2) s =
          (.ok (), s.put n (.object (.known (runtimeType "Symbol")) (setEntry e.1 e.2 own))) := by
        rw [exec_setAttribute hspecial hcalled hobject, h.member? hpart]
        rfl
      have hkept : (s.put n (.object (.known (runtimeType "Symbol"))
          (setEntry e.1 e.2 own))).LeavesParts := h
      obtain ⟨s', hrest, hobject'⟩ :=
        ih hkept (fun e he => hparts e (List.mem_cons_of_mem _ he)) (Store.put_at hobject)
      refine ⟨s', ?_, hobject'⟩
      rw [List.mapM_cons, exec_bind_ok hset, exec_bind_ok hrest]
      rfl

/-- A symbol is made of its parts. -/
theorem callSymbol_returns (depth : Nat) (sym value left right name : Datum)
    (hstart : s.marks.lookup (runtimePath, "Symbol", startName) = none) (h : s.LeavesParts) :
    ∃ n s', exec (callAt (depth + 2) (.known (runtimeType "Symbol"))
        [sym, value, left, right, name] []) s = (.ok (.cell n), s') ∧ s.Grows s' ∧
      s'.cells[n]? = some (.object (.known (runtimeType "Symbol"))
        (symbolParts.zip [sym, value, left, right, name])) := by
  have hgrows : s.Grows (exec (callAt (depth + 2) (.known (runtimeType "Symbol"))
      [sym, value, left, right, name] []) s).2 := grows_callSymbol hstart
  have hkept : (s.push (.object (.known (runtimeType "Symbol")) [])).LeavesParts := h
  have hentries : ∀ e ∈ symbolParts.zip [sym, value, left, right, name], e.1 ∈ symbolParts :=
    fun e he => (List.of_mem_zip he).1
  obtain ⟨s', hset, hobject⟩ := exec_setParts hkept hentries (Store.push_new _ _)
  have hcall : callRuntime (callAt depth) (pathWithin "Symbol" startName)
      [.cell s.cells.size, sym, value, left, right, name] [] = (do
        let args ← takeArguments [("self", none), ("sym", none), ("value", some .null),
          ("left", some (.int (-1))), ("right", some (.int (-1))), ("name", some .null)]
          [.cell s.cells.size, sym, value, left, right, name] []
        let _ ← (symbolParts.zip (args.drop 1)).mapM fun e =>
          setAttribute (argument args 0) e.1 e.2
        return .null) := rfl
  have hrun : exec (callAt (depth + 2) (.known (runtimeType "Symbol"))
      [sym, value, left, right, name] []) s = (.ok (.cell s.cells.size), s') := by
    rw [exec_callSymbol hstart, hcall]
    exact exec_bind_ok (exec_bind_ok hset _) _
  rw [hrun] at hgrows
  exact ⟨_, s', hrun, hgrows, hobject⟩

/-- The parameters of the method that makes symbols. -/
def makerParameters : List (String × Option Datum) :=
  [("self", none), ("name", none), ("sym", none), ("left", some .null), ("right", some .null),
    ("value", some .null)]

/-- The parts of a symbol that reductions ask for. -/
theorem Store.StandsFor.exec_parts {v w x y z : Value} (h : s.LeavesParts)
    (hd : s.StandsFor (.symbol v w x y z) d) :
    (∃ a, exec (attributeOf d "value") s = (.ok a, s) ∧ s.StandsFor w a) ∧
      (∃ a, exec (attributeOf d "left") s = (.ok a, s) ∧ s.StandsFor x a) ∧
      ∃ a, exec (attributeOf d "right") s = (.ok a, s) ∧ s.StandsFor y a := by
  obtain ⟨n, a, b, c, e, f, rfl, hobject, _, hvalue, hleft, hright, _⟩ := hd
  exact ⟨⟨b, h.exec_attributeOf (by decide) hobject rfl, hvalue⟩,
    ⟨c, h.exec_attributeOf (by decide) hobject rfl, hleft⟩,
    ⟨e, h.exec_attributeOf (by decide) hobject rfl, hright⟩⟩

/-- An end of a new symbol is that of a symbol, or minus one where there is none. -/
theorem Store.StandsFor.exec_endOf {v w : Value} {position : StackSymbol → Value}
    (hd : s.StandsFor v d) (hattribute : ∀ t : StackSymbol, v = t.toValue →
      ∃ a, exec (attributeOf d part) s = (.ok a, s) ∧ s.StandsFor (position t) a)
    (hw : Value.endOf? position v = some w) :
    ∃ a, exec (endOf part d) s = (.ok a, s) ∧ s.StandsFor w a := by
  cases v with
  | null =>
      cases hd
      cases hw
      exact ⟨_, rfl, rfl⟩
  | symbol sym value left right name =>
      cases hw
      obtain ⟨a, hrun, ha⟩ := hattribute ⟨sym, value, left, right, name⟩ rfl
      obtain ⟨n, _, _, _, _, _, rfl, _⟩ := hd
      exact ⟨a, hrun, ha⟩
  | _ => cases hw

/-- The factory makes the symbol between two symbols. -/
theorem Store.KeepsBase.newSymbol_returns {nameValue symValue first last value v : Value}
    {dvalue : Datum} (h : s.KeepsBase parser) (depth : Nat) (hparts : s.LeavesParts)
    (hargs : arguments? makerParameters (d :: args) named =
      some [self, name, sym, left, right, dvalue])
    (hname : s.StandsFor nameValue name) (hsym : s.StandsFor symValue sym)
    (hfirst : s.StandsFor first left) (hlast : s.StandsFor last right)
    (hvalue : s.StandsFor value dvalue)
    (hv : Value.symbolBetween? nameValue symValue first last value = some v) :
    ∃ a s', exec (callAt (depth + 3)
        (.bound d (.known (baseMethod "SymbolFactory" "new_symbol"))) args named) s =
        (.ok a, s') ∧ s.Grows s' ∧ s'.StandsFor v a := by
  obtain ⟨x, hx, hv⟩ := Option.bind_eq_some_iff.mp hv
  obtain ⟨y, hy, hv⟩ := Option.bind_eq_some_iff.mp hv
  cases hv
  obtain ⟨l, hleft, hl⟩ := hfirst.exec_endOf
    (fun t ht => (Store.StandsFor.exec_parts hparts (ht ▸ hfirst)).2.1) hx
  obtain ⟨r, hright, hr⟩ := hlast.exec_endOf
    (fun t ht => (Store.StandsFor.exec_parts hparts (ht ▸ hlast)).2.2) hy
  obtain ⟨n, s', hmade, hgrows, hobject⟩ :=
    callSymbol_returns depth sym dvalue l r name h.started hparts
  have hcall : callRuntime (callAt (depth + 2)) (pathWithin "SymbolFactory" "new_symbol")
      (d :: args) named = newSymbol (callAt (depth + 2)) (d :: args) named := rfl
  have htaken : exec (takeArguments makerParameters (d :: args) named) s =
      (.ok [self, name, sym, left, right, dvalue], s) := exec_orFail hargs
  refine ⟨.cell n, s', ?_, hgrows, n, _, _, _, _, _, rfl, hobject, hsym.mono hgrows,
    hvalue.mono hgrows, hl.mono hgrows, hr.mono hgrows, hname.mono hgrows⟩
  rw [exec_callAt_base, hcall, newSymbol, ← makerParameters, exec_bind_ok htaken]
  exact (exec_bind_ok hleft _).trans ((exec_bind_ok hright _).trans hmade)

end Parts

end LalrBackend.Code
