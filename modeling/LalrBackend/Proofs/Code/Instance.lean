import LalrBackend.Proofs.Code.ProgramCalls
import LalrBackend.Proofs.Reduction.Execution

/-!
# Making parsers

A parser is made of its class. Its base notes that the parse is not done and has the actions made,
which note their table. All of this is done by generated code and by the base, so where a store
offers the two classes with their generated functions, a parser that has been made of them takes
action numbers and is not done.
-/

namespace LalrBackend.Code

open Reduction (castFunction internal methodName)

/-! ## Runs that return -/

section Returns

variable {α β : Type} {act : Machine α} {k : α → Machine β} {s s' s'' : Store} {b : β}
  {call : Call} {f : Frame} {e target : Expr} {rest : List Statement} {d : Datum}

/-- What a run has been through if it returned. -/
theorem exec_bind_returns (h : exec (act >>= k) s = (.ok b, s'')) :
    ∃ a s', exec act s = (.ok a, s') ∧ exec (k a) s' = (.ok b, s'') := by
  rw [exec_bind] at h
  cases hrun : exec act s with
  | mk result s' =>
      rw [hrun] at h
      cases result with
      | ok a => exact ⟨a, s', rfl, h⟩
      | error fault => cases h

theorem setAttribute_returns {n : Nat} {name : String} {cls v : Datum} {u : Unit}
    {own : List (String × Datum)} (hname : isSpecial name = false) (hcalled : name ≠ calledName)
    (hobject : s.cells[n]? = some (.object cls own))
    (h : exec (setAttribute (.cell n) name v) s = (.ok u, s')) :
    s' = s.put n (.object cls (setEntry name v own)) := by
  rw [exec_setAttribute hname hcalled hobject] at h
  split at h
  · cases h
  · cases h
    rfl

theorem runBody_compute_returns
    (h : exec (runBody call (.compute e :: rest) f) s = (.ok d, s'')) :
    ∃ v s', execIn f (e.eval call) s = (.ok v, s') ∧
      exec (runBody call rest f) s' = (.ok d, s'') := by
  cases hvalue : execIn f (e.eval call) s with
  | mk result s' =>
      cases result with
      | ok v => exact ⟨v, s', rfl, (exec_runBody_next (execIn_compute hvalue)).symm.trans h⟩
      | error fault =>
          have hfails : execIn f ((Statement.compute e).run call) s = (.error fault, s') := by
            rw [Statement.run, execIn_bind_error hvalue]
          cases (exec_runBody_error hfails).symm.trans h

theorem runBody_assign_returns
    (h : exec (runBody call (.assign [target] e :: rest) f) s = (.ok d, s'')) :
    ∃ v s₁ u s', execIn f (e.eval call) s = (.ok v, s₁) ∧
      execIn f (target.assign call v) s₁ = (.ok u, s') ∧
      exec (runBody call rest f) s' = (.ok d, s'') := by
  cases hvalue : execIn f (e.eval call) s with
  | mk result s₁ =>
      cases result with
      | error fault =>
          cases (exec_runBody_error (execIn_assign_noValue hvalue)).symm.trans h
      | ok v =>
          cases hassign : execIn f (target.assign call v) s₁ with
          | mk result s' =>
              cases result with
              | error fault =>
                  cases (exec_runBody_error (execIn_assign_error hvalue hassign)).symm.trans h
              | ok u => exact ⟨v, s₁, u, s', rfl, hassign,
                  (exec_runBody_next (execIn_assign hvalue hassign)).symm.trans h⟩

end Returns

/-! ## Objects that are being made -/

/-- An object is being made: it has got some attributes, and all that was there before it is as it
was. -/
structure Store.Makes (s₀ : Store) (n cls : Nat) (own : List (String × Datum)) (s : Store) :
    Prop where
  new : s₀.cells.size ≤ n
  grows : s₀.Grows s
  object : s.cells[n]? = some (.object (.cell cls) own)

section Makes

variable {s₀ s s' : Store} {n cls function depth : Nat} {own members : List (String × Datum)}
  {name called : String} {d v : Datum} {bases : List Datum} {args : List Datum}

theorem Store.Makes.of_grows (hgrows : s₀.Grows s) (h : s.Makes n cls own s') :
    s₀.Makes n cls own s' :=
  ⟨hgrows.size.trans h.new, hgrows.trans h.grows, h.object⟩

theorem Store.Makes.mono (hgrows : s.Grows s') (h : s₀.Makes n cls own s) :
    s₀.Makes n cls own s' :=
  ⟨h.new, h.grows.trans hgrows, hgrows.cells h.object⟩

theorem Store.Makes.set (h : s₀.Makes n cls own s) (name : String) (v : Datum) :
    s₀.Makes n cls (setEntry name v own) (s.put n (.object (.cell cls) (setEntry name v own))) :=
  ⟨h.new, h.grows.put h.new _, Store.put_at h.object⟩

/-- An object that is being made has got an attribute, and nothing else changes. -/
theorem Store.Makes.setAttribute_returns {u : Unit} (h : s₀.Makes n cls own s)
    (hname : isSpecial name = false) (hcalled : name ≠ calledName)
    (hran : exec (setAttribute (.cell n) name v) s = (.ok u, s')) :
    s₀.Makes n cls (setEntry name v own) s' ∧
      ∀ {k : Nat} {c : Cell}, k ≠ n → s.cells[k]? = some c → s'.cells[k]? = some c := by
  obtain rfl := Code.setAttribute_returns hname hcalled h.object hran
  exact ⟨h.set name v, fun hk hc => Store.put_other (Ne.symm hk) hc⟩

/-- An object is made before the function of its class starts it. -/
theorem callAt_class_returns {r : Routine} {attributes : List (String × Datum)}
    (hcls : s.cells[cls]? = some (.type called bases members))
    (hmember : members.lookup startName = some (.cell function))
    (hfunction : s.cells[function]? = some (.routine r attributes))
    (hran : exec (callAt (depth + 1) (.cell cls) args []) s = (.ok d, s')) :
    d = .cell s.cells.size ∧
      s.Makes s.cells.size cls [] (s.push (.object (.cell cls) [])) ∧
      ∃ v, exec (callAt depth (.bound (.cell s.cells.size) (.cell function)) args [])
        (s.push (.object (.cell cls) [])) = (.ok v, s') := by
  have hgrows := s.grows_push (.object (.cell cls) [])
  have hfound : (s.push (.object (.cell cls) [])).member? startName depthLimit (.cell cls) =
      some (.cell function) := member?_own _ (hgrows.cells hcls) hmember
  have hbind : exec (bindMember (.cell s.cells.size) (.cell function))
      (s.push (.object (.cell cls) [])) =
      (.ok (.bound (.cell s.cells.size) (.cell function)), s.push (.object (.cell cls) [])) := by
    rw [bindMember, exec_bind_ok (exec_cellAt (hgrows.cells hfunction))]
    rfl
  rw [callAt, exec_bind_ok (exec_cellAt hcls)] at hran
  simp only at hran
  rw [instantiate, exec_bind_ok (exec_makeCell _ _), exec_bind_ok (exec_classMember? _ _ _),
    hfound] at hran
  simp only at hran
  rw [exec_bind_ok hbind] at hran
  obtain ⟨v, s₁, hcall, hreturn⟩ := exec_bind_returns hran
  cases hreturn
  exact ⟨rfl, ⟨Nat.le_refl _, hgrows, Store.push_new _ _⟩, v, hcall⟩

end Makes

/-! ## What a parser is made of -/

/-- A cell holds the function of a class that the printed start of a parser is read as. -/
def Store.HoldsConstructor (s : Store) (cell owner : Nat) (c : Config) : Prop :=
  ∃ name ps types body attributes, ∃ defaults : List Constant,
    readFunction? c.parserClass (ParserModule.constructorLines c) =
        some (.define false name ps [] (defaults.map .constant) types body) ∧
      s.cells[cell]? = some (.routine ⟨name, ps, defaults.map Constant.datum, body,
        callKind false body, [], some owner⟩ attributes)

/-- The names that a parser or its base uses and that its class leaves alone. -/
def basedNames : List String :=
  "is_done" :: "action_obj" :: "symbol_factory" :: doneName :: askedNames

/-- A store offers what the parsers of a module are made of: the class of the parser, which is
based on that of all parsers alone, the class of the actions, their generated functions, and the
names that these use. -/
structure Store.Offers (s : Store) (m : ParserModule) (made : Made) : Prop where
  names : s.KeepsNames
  above : s.globals.lookup "super" = none
  parser : s.globals.lookup m.config.parserClass = some (.cell made.parserClass)
  actions : s.globals.lookup (internal "actions") = some (.cell made.actionsClass)
  cast : m.config.genericStack = false → s.globals.lookup "cast" = some (.known castFunction)
  parserClass : ∃ called members constructor initiate, s.cells[made.parserClass]? =
      some (.type called [.known (runtimeType "LRParser")] members) ∧
    members.lookup startName = some (.cell constructor) ∧
    s.HoldsConstructor constructor made.parserClass m.config ∧
    members.lookup "init_actions" = some (.cell initiate) ∧
    s.HoldsPrinted initiate made.parserClass m.config.parserClass initLines ∧
    members.lookup "do_action" = some (.cell made.forward) ∧
    ∀ name ∈ basedNames, members.lookup name = none
  forwardPrinted : s.HoldsPrinted made.forward made.parserClass m.config.parserClass forwardLines
  actionsClass : ∃ called members, s.cells[made.actionsClass]? = some (.type called [] members) ∧
    members.lookup startName = some (.cell made.start) ∧
    members.lookup (internal "do_action") = some (.cell made.dispatch) ∧
    members.lookup (internal "dispatch") = none ∧
    ∀ {i a}, m.actions[i]? = some a →
      members.lookup (methodName a.production.index) = some (.cell (made.method i))
  dispatchPrinted : s.HoldsPrinted made.dispatch made.actionsClass (internal "actions")
    (dispatchLines m.config.genericStack)
  startPrinted : s.HoldsPrinted made.start made.actionsClass (internal "actions")
    (startLines (m.actions.map (·.production.index)))
  methodPrinted : ∀ {i a}, m.actions[i]? = some a →
    s.HoldsPrinted (made.method i) made.actionsClass (internal "actions")
      (a.draft m.config).lines
  numbers : ∀ n < m.actions.length, (Nat.toDigits 10 n).length ≤ Text.mostDigits
  based : ∀ name ∈ startName :: basedNames, s.marks.lookup (runtimePath, "LRParser", name) = none
  maker : s.marks.lookup (runtimePath, "SymbolFactory", "new_symbol") = none
  started : s.marks.lookup (runtimePath, "Symbol", startName) = none

/-- The actions of a parser with the table of the methods. -/
def Store.HasActions (s : Store) (m : ParserModule) (made : Made) (actions : Nat) : Prop :=
  ∃ own table, s.cells[actions]? = some (.object (.cell made.actionsClass) own) ∧
    own.lookup (internal "dispatch") = some (.cell table) ∧
    s.cells[table]? = some (methodTable actions made.method m.actions.length) ∧
    ∀ name, name ≠ "parser" → name ≠ internal "dispatch" → own.lookup name = none

section Offers

variable {s₀ s s' : Store} {n depth : Nat} {own : List (String × Datum)} {d v : Datum}
  {m : ParserModule} {made : Made} {parser : Nat}

/-- A printed function of the class of an object is a method of the object. -/
theorem hasMethod_of_printed {cls function : Nat} {name called ownerName : String}
    {bases : List Datum} {members : List (String × Datum)} {lines : List String}
    (hobject : s.cells[n]? = some (.object (.cell cls) own)) (hown : own.lookup name = none)
    (hcls : s.cells[cls]? = some (.type called bases members))
    (hmember : members.lookup name = some (.cell function))
    (hprinted : s.HoldsPrinted function cls ownerName lines) : s.HasMethod n name function := by
  obtain ⟨_, _, _, _, _, _, hfunction⟩ := hprinted
  exact ⟨cls, own, called, bases, members, _, _, hobject, hown, hcls, hmember, hfunction⟩

/-- The actions are made with the table of the methods. -/
theorem Store.Offers.makeActions (h : s₀.Offers m made)
    (hindices : m.actions.map (·.production.index) =
      (List.range m.actions.length).map Int.ofNat) (hgrows : s₀.Grows s)
    (hran : exec (callAt (depth + 2) (.cell made.actionsClass) [.cell parser] []) s =
      (.ok d, s')) :
    d = .cell s.cells.size ∧ s.Grows s' ∧ s'.HasActions m made s.cells.size := by
  obtain ⟨called, members, hcls, hstart, _, _, hmethods⟩ := h.actionsClass
  have hprinted := h.startPrinted
  rw [hindices] at hprinted
  have hfunction := hprinted.isFunction (readFunction?_startLines fun n hn =>
    h.numbers n (List.mem_range.mp hn))
  obtain ⟨attributes, hroutine⟩ := hfunction
  obtain ⟨rfl, hmakes, v, hcall⟩ := callAt_class_returns (hgrows.cells hcls) hstart
    (hgrows.cells hroutine) hran
  have hgrows' := hgrows.trans hmakes.grows
  have hhas : ∀ n < m.actions.length, (s.push (.object (.cell made.actionsClass) [])).HasMethod
      s.cells.size (methodName n) (made.method n) := by
    intro n hn
    have hat := List.getElem?_eq_getElem hn
    have hindex : m.actions[n].production.index = n := by
      have hnth := congrArg (·[n]?) hindices
      simpa [hat, hn] using hnth
    rw [← hindex]
    exact hasMethod_of_printed hmakes.object rfl (hgrows'.cells hcls) (hmethods hat)
      ((h.methodPrinted hat).mono hgrows')
  obtain ⟨own, table, hobject, hdispatch, htable, hown, hkept⟩ :=
    exec_start ⟨attributes, hgrows'.cells hroutine⟩ hmakes.object hhas hcall
  exact ⟨rfl, hkept hmakes.grows (Nat.le_refl _), own, table, hobject, hdispatch, htable, hown⟩

/-- What changes only another object leaves the actions as they are. -/
theorem Store.HasActions.other {actions : Nat} {cls : Datum} (h : s.HasActions m made actions)
    (hne : n ≠ actions) (hobject : s.cells[n]? = some (.object cls own))
    (hkept : ∀ {k : Nat} {c : Cell}, k ≠ n → s.cells[k]? = some c → s'.cells[k]? = some c) :
    s'.HasActions m made actions := by
  obtain ⟨actionsOwn, table, hactions, hdispatch, htable, hown⟩ := h
  refine ⟨actionsOwn, table, hkept (Ne.symm hne) hactions, hdispatch, hkept ?_ htable, hown⟩
  rintro rfl
  cases hobject.symm.trans htable

/-- A parser has its actions made, and it keeps them. -/
theorem Store.Offers.initiate (h : s₀.Offers m made)
    (hindices : m.actions.map (·.production.index) =
      (List.range m.actions.length).map Int.ofNat)
    (hmakes : s₀.Makes n made.parserClass own s) (hown : own.lookup "init_actions" = none)
    (hran : exec (callMethod (callAt (depth + 3)) (.cell n) "init_actions") s = (.ok d, s')) :
    ∃ actions, s₀.Makes n made.parserClass (setEntry "action_obj" (.cell actions) own) s' ∧
      s'.HasActions m made actions ∧
      ∀ {k : Nat} {c : Cell}, k ≠ n → s.cells[k]? = some c → s'.cells[k]? = some c := by
  obtain ⟨called, members, _, initiate, hcls, _, _, hmember, hprinted, _, _⟩ := h.parserClass
  have hmethod := hasMethod_of_printed hmakes.object hown (hmakes.grows.cells hcls) hmember
    (hprinted.mono hmakes.grows)
  have hfunction := (hprinted.mono hmakes.grows).isFunction (readFunction?_initLines _)
  rw [callMethod, exec_bind_ok (hmethod.exec_attributeOf (by decide)),
    hfunction.exec_call (by decide) (by decide) rfl] at hran
  have hpush := s.grows_push (.scope [("self", .cell n)])
  have hlocal : "self" ∈ localNames ["self"] initBody := by decide
  have hglobal : internal "actions" ∉ localNames ["self"] initBody := by decide
  have hself : ∀ {s₁ : Store}, s₁.cells[s.cells.size]? = some (.scope [("self", .cell n)]) →
      execIn (frameOf made.parserClass ["self"] initBody s.cells.size)
        ((Expr.name "self").eval (callAt (depth + 2))) s₁ = (.ok (.cell n), s₁) :=
    fun hscope => (execIn_eval_name _).trans
      (execIn_readName_local List.not_mem_nil hlocal hscope rfl)
  have hscope : (s.push (.scope [("self", .cell n)])).cells[s.cells.size]? =
      some (.scope [("self", .cell n)]) := Store.push_new _ _
  -- The text that describes the function comes to nothing.
  obtain ⟨_, _, hdoc, hran⟩ := runBody_compute_returns hran
  cases (execIn_eval_constant _).symm.trans hdoc
  obtain ⟨v, s₁, u, s₂, hvalue, hassign, hran⟩ := runBody_assign_returns hran
  cases exec_runBody_nil.symm.trans hran
  have hname : execIn (frameOf made.parserClass ["self"] initBody s.cells.size)
      ((Expr.name (internal "actions")).eval (callAt (depth + 2)))
      (s.push (.scope [("self", .cell n)])) =
      (.ok (.cell made.actionsClass), s.push (.scope [("self", .cell n)])) := by
    refine (execIn_eval_name _).trans
      (execIn_readName_global List.not_mem_nil hglobal rfl (by decide) ?_)
    rw [(hmakes.mono hpush).grows.globals, h.actions]
    rfl
  have hmade := (execIn_eval_call hname (execIn_evalArguments_cons (by rfl) (hself hscope)
    execIn_evalArguments_nil) (List.cons_ne_nil _ _)).symm.trans hvalue
  obtain ⟨rfl, hgrows, hactions⟩ := h.makeActions hindices (hmakes.mono hpush).grows hmade
  have hmakes₁ := (hmakes.mono hpush).mono hgrows
  have hset := (execIn_assign_attribute (hself (hgrows.cells hscope)) "action_obj").symm.trans
    hassign
  obtain ⟨hmakes₂, hkept⟩ := hmakes₁.setAttribute_returns (by decide) (by decide) hset
  have hne : n ≠ (s.push (.scope [("self", .cell n)])).cells.size := by
    have hlt := (Array.getElem?_eq_some_iff.mp (hpush.cells hmakes.object)).1
    omega
  exact ⟨_, hmakes₂, hactions.other hne hmakes₁.object hkept, fun hk hc =>
    hkept hk (hgrows.cells (hpush.cells hc))⟩

/-! ## The start of a parser -/

/-- The parameters of the start that a parser has from its base. -/
def baseParameters : List (String × Option Datum) :=
  [("self", none), ("scanner", some .null), ("symbol_factory", some .null)]

/-- The base of a parser gives it a scanner and a factory of symbols, notes that the parse is not
done, and has the actions made. -/
theorem startParser_returns {call : Call} {cls : Nat} {args : List Datum}
    (hargs : arguments? baseParameters args [] = some [.cell n, v, .null])
    (hmakes : s₀.Makes n cls [] s) (hran : exec (startParser call args []) s = (.ok d, s')) :
    ∃ factory s₁ d', s₀.Makes n cls [("scanner", v), ("symbol_factory", .cell factory),
        (doneName, .bool false)] s₁ ∧ factory ≠ n ∧
      s₁.cells[factory]? = some (.object (.known (runtimeType "SymbolFactory")) []) ∧
      exec (callMethod call (.cell n) "init_actions") s₁ = (.ok d', s') := by
  have htaken : exec (takeArguments baseParameters args []) s = (.ok [.cell n, v, .null], s) :=
    exec_orFail hargs
  rw [startParser] at hran
  obtain ⟨_, _, hfirst, hran⟩ := exec_bind_returns hran
  cases htaken.symm.trans hfirst
  obtain ⟨_, s₁, hset, hran⟩ := exec_bind_returns hran
  obtain ⟨hmakes₁, -⟩ := hmakes.setAttribute_returns (by decide) (by decide) hset
  obtain ⟨_, s₂, hfactory, hran⟩ := exec_bind_returns hran
  cases (exec_makeCell _ _).symm.trans hfactory
  have hnew := Store.push_new s₁ (.object (.known (runtimeType "SymbolFactory")) [])
  have hmakes₂ := hmakes₁.mono (s₁.grows_push (.object (.known (runtimeType "SymbolFactory")) []))
  obtain ⟨_, s₃, hset, hran⟩ := exec_bind_returns hran
  obtain ⟨hmakes₃, hkept₃⟩ := hmakes₂.setAttribute_returns (by decide) (by decide) hset
  obtain ⟨_, s₄, hset, hran⟩ := exec_bind_returns hran
  obtain ⟨hmakes₄, hkept₄⟩ := hmakes₃.setAttribute_returns (by decide) (by decide) hset
  obtain ⟨d', s₅, hinit, hran⟩ := exec_bind_returns hran
  cases hran
  have hne : s₁.cells.size ≠ n := by
    have hlt := (Array.getElem?_eq_some_iff.mp hmakes₁.object).1
    omega
  exact ⟨_, _, d', hmakes₄, hne, hkept₄ hne (hkept₃ hne hnew), hinit⟩

/-- What sees an object from above. -/
def aboveType : Known :=
  ⟨builtinPath, "super", .type, [.base, .madePlain, .takesTwo]⟩

theorem builtinValue?_super : builtinValue? "super" = some (.known aboveType) := by
  have hplace : (builtinFamilies.map (Family.has "super")).findIdx? id = some 17 := by
    unfold builtinFamilies languageContents builtinPath
    simp only [List.lookup_cons, String.reduceBEq, Option.getD_some, List.map_cons, List.map_nil,
      Family.has, List.any_cons, List.any_nil]
    repeat rw [String.toList_ofList]
    decide +kernel
  have hmember : moduleMember? builtinPath "super" = some aboveType :=
    moduleMember?_of_place hplace rfl (by simp) (by decide +kernel) (by decide +kernel)
  rw [builtinValue?, hmember]
  rfl

/-- What a parser seen from above its class has is the start from its base. -/
theorem exec_attributeOf_above {cls : Nat} {called : String} {members : List (String × Datum)}
    (hcls : s.cells[cls]? = some (.type called [.known (runtimeType "LRParser")] members))
    (hmark : s.marks.lookup (runtimePath, "LRParser", startName) = none) :
    exec (attributeOf (.above cls d) startName) s =
      (.ok (.bound d (.known (baseMethod "LRParser" startName))), s) := by
  have hruntime : runtimeMember? (runtimeType "LRParser") startName =
      some (baseMethod "LRParser" startName) := by decide +kernel
  have hbase : s.marks.lookup ((runtimeType "LRParser").path, (runtimeType "LRParser").name,
      startName) = none := hmark
  have hfound : [Datum.known (runtimeType "LRParser")].findSome? (s.member? startName depthLimit) =
      some (.known (baseMethod "LRParser" startName)) := by
    rw [List.findSome?_cons, depthLimit, Store.member?, hbase, hruntime]
    · rfl
    · simp
  have hhas : exec (hasMembers (.above cls d)) s = (.ok false, s) := rfl
  rw [attributeOf, if_neg (by decide), if_neg (by decide), exec_bind_ok hhas, if_neg (by simp),
    exec_bind_ok (exec_cellAt hcls)]
  simp only
  rw [exec_bind_ok (exec_get s), hfound]
  exact exec_bindMember_base (by decide)

/-- The start from the base is called. -/
theorem superStart_returns {f : Frame} {cls : Nat} {called : String}
    {members : List (String × Datum)} {es : List Expr} {ds : List Datum}
    (howner : f.owner = some cls) (hfirst : f.first = some "self")
    (hself : execIn f (readName "self") s = (.ok (.cell n), s))
    (hsuper : execIn f (readName "super") s = (.ok (.known aboveType), s))
    (hargs : execIn f (evalArguments (callAt (depth + 1)) es) s = (.ok (ds, []), s))
    (hcls : s.cells[cls]? = some (.type called [.known (runtimeType "LRParser")] members))
    (hmark : s.marks.lookup (runtimePath, "LRParser", startName) = none)
    (hran : exec (runBody (callAt (depth + 1)) [superStart es] f) s = (.ok d, s')) :
    ∃ d', exec (startParser (callAt depth) (.cell n :: ds) []) s = (.ok d', s') := by
  have hseen : execIn f seenFromAbove s = (.ok (.above cls (.cell n)), s) := by
    rw [seenFromAbove, execIn_bind_ok (execIn_read s)]
    simp only [howner, hfirst]
    rw [execIn_bind_ok hself]
    rfl
  have habove : execIn f ((Expr.call (.name "super") []).eval (callAt (depth + 1))) s =
      (.ok (.above cls (.cell n)), s) := by
    rw [Expr.eval, execIn_bind_ok ((execIn_eval_name _).trans hsuper),
      execIn_bind_ok execIn_evalArguments_nil]
    exact hseen
  have hbound := (execIn_eval_attribute habove startName).trans (exec_attributeOf_above hcls hmark)
  obtain ⟨d', s₁, hvalue, hran⟩ := runBody_compute_returns hran
  cases exec_runBody_nil.symm.trans hran
  have hcall := (execIn_eval_callBound hbound hargs).symm.trans hvalue
  rw [exec_callAt_base] at hcall
  exact ⟨d', hcall⟩

/-- The function that starts a parser. -/
def constructorOf (suppressScanner : Bool) (owner : Nat) : Routine where
  name := startName
  parameters := constructorParameters suppressScanner
  defaults := (constructorDefaults suppressScanner).map Constant.datum
  body := constructorBody suppressScanner
  kind := callKind false (constructorBody suppressScanner)
  around := []
  owner := some owner

theorem Store.HoldsConstructor.eq {cell owner : Nat} {c : Config}
    (h : s.HoldsConstructor cell owner c) : ∃ attributes,
      s.cells[cell]? = some (.routine (constructorOf c.suppressScanner owner) attributes) := by
  obtain ⟨name, ps, types, body, attributes, defaults, hread, hcell⟩ := h
  rw [readFunction?_constructorLines] at hread
  simp only [Option.some.injEq, Statement.define.injEq, true_and] at hread
  obtain ⟨rfl, rfl, hdefaults, rfl, rfl⟩ := hread
  obtain rfl := List.map_injective_iff.mpr (fun _ _ => Expr.constant.inj) hdefaults
  exact ⟨attributes, hcell⟩

/-- Names as arguments by position. -/
theorem execIn_evalArguments_names {f : Frame} {call : Call} {ns : List String} {ds : List Datum}
    (h : List.Forall₂ (fun k d => execIn f (readName k) s = (.ok d, s)) ns ds) :
    execIn f (evalArguments call (ns.map Expr.name)) s = (.ok (ds, []), s) := by
  induction h with
  | nil => exact execIn_evalArguments_nil
  | cons hd _ ih =>
      exact execIn_evalArguments_cons rfl ((execIn_eval_name _).trans hd) ih

/-- A call of the function that starts a parser, once its parameters have their values. -/
theorem constructor_returns {b : Bool} {cls cell : Nat} {called : String} {args : List Datum}
    {members attributes names : List (String × Datum)} {doc : Constant} (ns : List String)
    (ds : List Datum)
    (hcell : s.cells[cell]? = some (.routine (constructorOf b cls) attributes))
    (hbody : constructorBody b = [.compute (.constant doc), superStart (ns.map Expr.name)])
    (hbindings : exec ((constructorOf b cls).bindings (.cell n :: args) []) s = (.ok names, s))
    (hself : names.lookup "self" = some (.cell n))
    (hvalues : List.Forall₂ (fun k d =>
      k ∈ localNames (constructorParameters b).names (constructorBody b) ∧
        names.lookup k = some d) ns ds)
    (hcls : s.cells[cls]? = some (.type called [.known (runtimeType "LRParser")] members))
    (habove : s.globals.lookup "super" = none)
    (hmark : s.marks.lookup (runtimePath, "LRParser", startName) = none)
    (hran : exec (callAt (depth + 3) (.bound (.cell n) (.cell cell)) args []) s = (.ok d, s')) :
    ∃ s₁ d', s.Grows s₁ ∧
      exec (startParser (callAt (depth + 1)) (.cell n :: ds) []) s₁ = (.ok d', s') := by
  have hkind : callKind false (constructorBody b) = .atOnce := by cases b <;> decide
  have hself' : "self" ∈ localNames (constructorParameters b).names (constructorBody b) := by
    cases b <;> decide
  have hsuper : "super" ∉ localNames (constructorParameters b).names (constructorBody b) := by
    cases b <;> decide
  have hshared : ∀ k, k ∉ globalsOf (constructorBody b) := by
    intro k
    cases b <;> exact List.not_mem_nil
  have hfirst : (constructorParameters b).names.head? = some "self" := by cases b <;> rfl
  have hpush := s.grows_push (.scope names)
  have hframe : exec ((constructorOf b cls).frame names) s =
      (.ok ((constructorOf b cls).frameAt s.cells.size), s.push (.scope names)) := rfl
  have hatOnce : (constructorOf b cls).kind = .atOnce := hkind
  rw [exec_callAt_bound hcell, Routine.call, exec_bind_ok hbindings, exec_bind_ok hframe,
    hatOnce] at hran
  have hread : ∀ {k : String} {v : Datum},
      k ∈ localNames (constructorParameters b).names (constructorBody b) →
      names.lookup k = some v →
      execIn ((constructorOf b cls).frameAt s.cells.size) (readName k) (s.push (.scope names)) =
        (.ok v, s.push (.scope names)) := by
    intro k v hk hv
    exact execIn_readName_local (hshared k) hk (Store.push_new _ _) hv
  have habove' : execIn ((constructorOf b cls).frameAt s.cells.size) (readName "super")
      (s.push (.scope names)) = (.ok (.known aboveType), s.push (.scope names)) := by
    refine execIn_readName_global (hshared _) hsuper rfl (by decide) ?_
    rw [hpush.globals, habove, builtinValue?_super]
    rfl
  change exec (runBody (callAt (depth + 2)) (constructorBody b) _) _ = _ at hran
  rw [hbody] at hran
  obtain ⟨_, _, hdoc, hran⟩ := runBody_compute_returns hran
  cases (execIn_eval_constant _).symm.trans hdoc
  obtain ⟨d', hstart⟩ := superStart_returns (f := (constructorOf b cls).frameAt s.cells.size) rfl
    hfirst (hread hself' hself) habove'
    (execIn_evalArguments_names (hvalues.imp fun _ _ h => hread h.1 h.2)) (hpush.cells hcls)
    hmark hran
  exact ⟨_, d', hpush, hstart⟩

/-- A parser is started by its base, with at most a scanner. -/
theorem Store.Offers.construct (h : s₀.Offers m made) {args : List Datum}
    (hargs : args.length ≤ 1) {constructor : Nat}
    (hconstructor : s₀.HoldsConstructor constructor made.parserClass m.config)
    (hgrows : s₀.Grows s)
    (hran : exec (callAt (depth + 3) (.bound (.cell n) (.cell constructor)) args []) s =
      (.ok d, s')) :
    ∃ s₁ ds v d', s.Grows s₁ ∧
      arguments? baseParameters (.cell n :: ds) [] = some [.cell n, v, .null] ∧
      exec (startParser (callAt (depth + 1)) (.cell n :: ds) []) s₁ = (.ok d', s') := by
  obtain ⟨called, members, _, _, hcls, _⟩ := h.parserClass
  obtain ⟨attributes, hcell⟩ := hconstructor.eq
  have hcell := hgrows.cells hcell
  have habove : s.globals.lookup "super" = none := by rw [hgrows.globals, h.above]
  have hmark : s.marks.lookup (runtimePath, "LRParser", startName) = none := by
    rw [hgrows.marks, h.based startName List.mem_cons_self]
  have hcls := hgrows.cells hcls
  have hnames : ∀ k ∈ ["scanner", "symbol_factory"],
      k ∈ localNames (constructorParameters false).names (constructorBody false) := by decide
  -- A parser that is to have no scanner takes no argument, any other one takes two at most.
  generalize m.config.suppressScanner = b at hcell
  cases b with
  | true =>
      rcases args with _ | ⟨v, _ | ⟨_, _⟩⟩
      · obtain ⟨s₁, d', hgrows₁, hstart⟩ :=
          constructor_returns [] [] hcell rfl rfl rfl .nil hcls habove hmark hran
        exact ⟨s₁, [], .null, d', hgrows₁, rfl, hstart⟩
      · have hrefused : exec ((constructorOf true made.parserClass).bindings [.cell n, v] []) s =
            (.error .typeMismatch, s) := rfl
        rw [exec_callAt_bound hcell, Routine.call, exec_bind_error hrefused] at hran
        cases hran
      · simp at hargs
  | false =>
      rcases args with _ | ⟨v, _ | ⟨_, _⟩⟩
      · obtain ⟨s₁, d', hgrows₁, hstart⟩ := constructor_returns ["scanner", "symbol_factory"]
          [.null, .null] hcell rfl rfl rfl (.cons ⟨hnames _ (by simp), rfl⟩
            (.cons ⟨hnames _ (by simp), rfl⟩ .nil)) hcls habove hmark hran
        exact ⟨s₁, _, .null, d', hgrows₁, rfl, hstart⟩
      · obtain ⟨s₁, d', hgrows₁, hstart⟩ := constructor_returns ["scanner", "symbol_factory"]
          [v, .null] hcell rfl rfl rfl (.cons ⟨hnames _ (by simp), rfl⟩
            (.cons ⟨hnames _ (by simp), rfl⟩ .nil)) hcls habove hmark hran
        exact ⟨s₁, _, v, d', hgrows₁, rfl, hstart⟩
      · simp at hargs

/-- What the start of the actions notes goes by other names than the methods. -/
theorem methodName_apart (i : Int) :
    methodName i ≠ "parser" ∧ methodName i ≠ internal "dispatch" := by
  refine ⟨fun h => ?_, fun h => ?_⟩
  · have hfirst := congrArg (fun name => name.toList.head?) h
    simp only [methodName, internal, String.toList_append] at hfirst
    cases hfirst
  · have hfifth := congrArg (fun name => name.toList[4]?) h
    simp only [methodName, internal, String.toList_append] at hfifth
    cases hfifth

/-- The parser and its actions have the printed functions of their classes. -/
theorem Store.Offers.keepsFunctions (h : s₀.Offers m made) {actions : Nat}
    (hmakes : s₀.Makes n made.parserClass own s) (hown : own.lookup "do_action" = none)
    (hactions : s.HasActions m made actions) :
    s.KeepsFunctions m { made with parser := n, actions := actions } := by
  have hgrows := hmakes.grows
  obtain ⟨_, _, _, _, hcls, _, _, _, _, hforward, _⟩ := h.parserClass
  obtain ⟨_, members, hactionsCls, hstart, hdispatch, _, hmethods⟩ := h.actionsClass
  obtain ⟨actionsOwn, _, hobject, _, _, hnone⟩ := hactions
  have hmethod : ∀ {name ownerName : String} {function : Nat} {lines : List String},
      name ≠ "parser" ∧ name ≠ internal "dispatch" →
      members.lookup name = some (.cell function) →
      s₀.HoldsPrinted function made.actionsClass ownerName lines →
      s.HasMethod actions name function := fun hname hmember hprinted =>
    hasMethod_of_printed hobject (hnone _ hname.1 hname.2) (hgrows.cells hactionsCls) hmember
      (hprinted.mono hgrows)
  exact
    { forward := hasMethod_of_printed hmakes.object hown (hgrows.cells hcls) hforward
        (h.forwardPrinted.mono hgrows)
      forwardPrinted := h.forwardPrinted.mono hgrows
      dispatch := hmethod (by decide) hdispatch h.dispatchPrinted
      dispatchPrinted := h.dispatchPrinted.mono hgrows
      start := hmethod (by decide) hstart h.startPrinted
      startPrinted := h.startPrinted.mono hgrows
      method := fun ha => hmethod (methodName_apart _) (hmethods ha) (h.methodPrinted ha)
      methodPrinted := fun ha => (h.methodPrinted ha).mono hgrows }

/-- The parser takes action numbers. -/
theorem Store.Offers.dispatches (h : s₀.Offers m made) {actions : Nat}
    (hmakes : s₀.Makes n made.parserClass own s) (hown : own.lookup "do_action" = none)
    (hnoted : own.lookup "action_obj" = some (.cell actions))
    (hactions : s.HasActions m made actions) :
    s.Dispatches m { made with parser := n, actions := actions } := by
  have hfunctions := h.keepsFunctions hmakes hown hactions
  have hgrows := hmakes.grows
  obtain ⟨_, _, _, _, hcls, _, _, _, _, _, hnone⟩ := h.parserClass
  obtain ⟨_, _, hactionsCls, _, _, hdispatch, _⟩ := h.actionsClass
  obtain ⟨actionsOwn, table, hobject, htable, hcell, _⟩ := hactions
  refine ⟨hfunctions, h.names.mono hgrows, ⟨made.parserClass, own, _, _, _, hmakes.object, hnoted,
    hgrows.cells hcls, hnone _ (by decide), ?_⟩, table, ⟨made.actionsClass, actionsOwn, _, _, _,
    hobject, htable, hgrows.cells hactionsCls, hdispatch, nofun⟩, hcell⟩
  intro base hbase
  obtain rfl := List.mem_singleton.mp hbase
  refine ⟨_, rfl, ?_, by decide +kernel⟩
  rw [hgrows.marks]
  exact h.based "action_obj" (by decide)

/-- The parser has what its base gives it, and notes that the parse is not done. -/
theorem Store.Offers.keepsBase (h : s₀.Offers m made) {factory : Nat}
    (hmakes : s₀.Makes n made.parserClass own s)
    (hasked : ∀ name ∈ askedNames, own.lookup name = none)
    (hnoted : own.lookup "symbol_factory" = some (.cell factory))
    (hfactory : s.cells[factory]? = some (.object (.known (runtimeType "SymbolFactory")) [])) :
    s.KeepsBase n := by
  have hgrows := hmakes.grows
  obtain ⟨_, _, _, _, hcls, _, _, _, _, _, hnone⟩ := h.parserClass
  have hlisted : ∀ name ∈ "symbol_factory" :: doneName :: askedNames, name ∈ basedNames := by decide
  refine ⟨⟨made.parserClass, own, _, _, factory, hmakes.object, hgrows.cells hcls,
    fun name hname => hnone name (hlisted name hname), hasked, hnoted, [], hfactory, rfl⟩,
    ?_, ?_, ?_⟩
  · intro name hname
    rw [hgrows.marks]
    exact h.based name (List.mem_cons_of_mem _ (hlisted name hname))
  · rw [hgrows.marks, h.maker]
  · rw [hgrows.marks, h.started]

/-- A parser that has been made takes action numbers and is not done. -/
theorem Store.Offers.make (h : s₀.Offers m made) (hgrows : s₀.Grows s)
    (hindices : m.actions.map (·.production.index) =
      (List.range m.actions.length).map Int.ofNat) {args : List Datum} (hargs : args.length ≤ 1)
    (hran : exec (callAt (depth + 6) (.cell made.parserClass) args []) s = (.ok d, s')) :
    ∃ parser actions, d = .cell parser ∧ s₀.Grows s' ∧
      s'.Dispatches m { made with parser := parser, actions := actions } ∧
      s'.KeepsBase parser ∧ s'.NotesDone parser false := by
  obtain ⟨called, members, constructor, initiate, hcls, hstart, hconstructor, _, _, _, hnone⟩ :=
    h.parserClass
  obtain ⟨attributes, hcell⟩ := hconstructor.eq
  obtain ⟨rfl, hmakes, v, hcall⟩ := callAt_class_returns (hgrows.cells hcls) hstart
    (hgrows.cells hcell) hran
  have hmakes := hmakes.of_grows hgrows
  obtain ⟨s₁, ds, v, d', hgrows₁, hds, hbase⟩ := h.construct hargs hconstructor hmakes.grows hcall
  obtain ⟨factory, s₂, d'', hmakes₂, hne, hfactory, hinitiated⟩ :=
    startParser_returns hds (hmakes.mono hgrows₁) hbase
  obtain ⟨actions, hmakes₃, hactions, hkept⟩ := h.initiate hindices hmakes₂ rfl hinitiated
  have hmark : s'.marks.lookup (runtimePath, "LRParser", "is_done") = none := by
    rw [hmakes₃.grows.marks]
    exact h.based "is_done" (by decide)
  refine ⟨_, actions, rfl, hmakes₃.grows, h.dispatches hmakes₃ rfl rfl hactions,
    h.keepsBase hmakes₃ ?_ rfl (hkept hne hfactory), made.parserClass, _, called, members,
    hmakes₃.object, rfl, hmakes₃.grows.cells hcls, hnone _ (by decide), hmark⟩
  intro name hname
  simp only [askedNames, List.mem_cons, List.not_mem_nil, or_false] at hname
  rcases hname with rfl | rfl <;> rfl

end Offers

/-! ## Programs -/

namespace Program

variable {q : Program} {s : Store} {m : ParserModule} {made : Made} {className : String}
  {scanner : Option (List Value)} {statements : List Statement}

/-- Makes an object of a class, which may be given a scanner. -/
def create (cls : Datum) : Option (List Value) → Machine Datum
  | some symbols => do callDatum cls [← makeScanner symbols] []
  | none => callDatum cls [] []

/-- A program has the object that was made of a class in a store. -/
def IsMadeIn (q : Program) (s : Store) (className : String) (scanner : Option (List Value)) :
    Prop :=
  ∃ cls, s.globals.lookup className = some cls ∧
    exec (create cls scanner) s = (.ok q.self, q.store)

/-- The object of a class that a store offers takes action numbers and is not done. -/
theorem IsMadeIn.ready (h : q.IsMadeIn s m.config.parserClass scanner) (hoffers : s.Offers m made)
    (hindices : m.actions.map (·.production.index) =
      (List.range m.actions.length).map Int.ofNat) :
    ∃ parser actions, q.self = .cell parser ∧ s.Grows q.store ∧
      q.store.Dispatches m { made with parser := parser, actions := actions } ∧
      q.store.KeepsBase parser ∧ q.store.NotesDone parser false := by
  obtain ⟨cls, hcls, hmade⟩ := h
  obtain rfl := Option.some.inj (hcls.symm.trans hoffers.parser)
  have hdepth : mostCalls = 894 + 6 := rfl
  cases scanner with
  | none =>
      rw [create, callDatum, hdepth] at hmade
      exact hoffers.make (.refl s) hindices (Nat.zero_le _) hmade
  | some symbols =>
      obtain ⟨ds, s₁, hsymbols, hgrows, _⟩ := exec_ofValues symbols s
      rw [create] at hmade
      obtain ⟨scanner, s₂, hscanner, hmade⟩ := exec_bind_returns hmade
      rw [makeScanner, exec_bind_ok hsymbols] at hscanner
      cases hscanner
      rw [callDatum, hdepth] at hmade
      exact hoffers.make ((hgrows.trans (s₁.grows_push _)).trans (Store.grows_push _ _)) hindices
        (Nat.le_refl _) hmade

end Program

end LalrBackend.Code
