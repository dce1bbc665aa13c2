import LalrBackend.Proofs.Code.Base
import LalrBackend.Proofs.Reduction.LabelScope

/-!
# Bodies of reductions as code

The statements of a body are read as statements of the language of generated modules. Each of its
own statements but the last two binds one name, or fails: it leaves the stack, the parameters of the
method and all that was there before as they were.
-/

namespace LalrBackend.Reduction

open Code

/-! ## The code of a body -/

section Code

/-- An integer as it is read. -/
def numberCode (n : Int) : Expr :=
  let size : Expr := .constant (.int n.natAbs)
  if n < 0 then .sign .minus size else size

/-- A name of a body as it is within the class of the actions. -/
def nameCode (name : String) : Expr :=
  .name (localName name)

/-- The place of a symbol at a distance from behind the top of the stack. -/
def indexCode (distance : Int) : Expr :=
  if distance = 1 then numberCode (-1)
  else .binary .sub (.name (internal "size")) (numberCode distance)

/-- The symbol at a distance from behind the top of the stack. -/
def accessCode (c : Config) (distance : Int) : Expr :=
  let item := .item (.name (internal "stack")) (indexCode distance)
  if c.genericStack then item else .call (.name "cast") [.name "Symbol", item]

/-- The arguments that give the extent and the value of a new symbol. -/
def argumentCode (extent : Option (Slot × Slot)) (withResult : Bool) : List Expr :=
  (match extent with
    | some (first, last) => [nameCode first.name, nameCode last.name]
    | none => []) ++
  (if withResult then
    [if extent.isSome then nameCode resultName else .argument "value" (nameCode resultName)]
  else [])

/-- The making of a symbol by the factory of the parser. -/
def constructCode (name : String) (index : Int) (extent : Option (Slot × Slot))
    (withResult : Bool) : Expr :=
  .call (.attribute
      (.call (.attribute (.name (internal "parser")) "get_symbol_factory") []) "new_symbol")
    (.constant (.text name) :: numberCode index :: argumentCode extent withResult)

/-- The name that a statement binds, the type that it is said to have, and its value. -/
def Statement.binding? (c : Config) : Statement → Option (String × Option String × Expr)
  | .startResult valueType none => some (resultName, some valueType, .constant .null)
  | .startResult valueType (some distance) =>
    some (resultName, some valueType, .attribute (accessCode c distance) "value")
  | .bindSlot slot distance => some (slot.name, none, accessCode c distance)
  | .bindLeft label slot => some (label ++ "left", none, .attribute (nameCode slot.name) "left")
  | .bindRight label slot =>
    some (label ++ "right", none, .attribute (nameCode slot.name) "right")
  | .bindValue label valueType slot =>
    some (label, some valueType, .attribute (nameCode slot.name) "value")
  | .construct name index extent withResult =>
    some (symbolName, none, constructCode name index extent withResult)
  | _ => none

/-- What a statement of a body is read as, given what types are read as. The user's lines are read
by themselves, and the announcement is a comment. -/
def Statement.code (c : Config) (types : String → Expr) (st : Statement) : List Code.Statement :=
  match st.binding? c, st with
  | some (name, none, e), _ => [.assign [nameCode name] e]
  | some (name, some valueType, e), _ => [.annotate (nameCode name) true (types valueType) (some e)]
  | none, .accept =>
    [.compute (.call (.attribute (.name (internal "parser")) "done_parsing") [])]
  | none, .finish => [.giveBack (some (nameCode symbolName))]
  | none, _ => []

/-- What the own statements of a body are read as. -/
def ownCode (c : Config) (types : String → Expr) (ss : List Statement) : List Code.Statement :=
  ss.flatMap (Statement.code c types)

theorem ownCode_cons (c : Config) (types : String → Expr) (st : Statement)
    (ss : List Statement) :
    ownCode c types (st :: ss) = st.code c types ++ ownCode c types ss :=
  List.flatMap_cons

theorem ownCode_append (c : Config) (types : String → Expr) (first second : List Statement) :
    ownCode c types (first ++ second) = ownCode c types first ++ ownCode c types second :=
  List.flatMap_append

/-- The code of a body around that of the user. -/
def Body.code (c : Config) (types : String → Expr) (b : Body) (user : List Code.Statement) :
    List Code.Statement :=
  ownCode c types (b.start ++ b.bindings) ++
    (user ++ ownCode c types (b.extentBindings ++ b.ending))

theorem bound_of_binding? {c : Config} {st : Statement} {name : String} {valueType : Option String}
    {e : Expr} (h : st.binding? c = some (name, valueType, e)) : st.bound = [name] := by
  cases st with
  | startResult t distance => cases distance <;> cases h <;> rfl
  | user line => cases h
  | announce => cases h
  | accept => cases h
  | finish => cases h
  | _ => cases h; rfl

end Code

/-! ## Reading -/

section Reading

variable {α β : Type} {f : Frame} {call : Code.Call} {s s₀ s₁ : Code.Store} {e : Expr} {d : Datum}

theorem growsIn_bind {act : Step α} {k : α → Step β} (h : s₀.Grows (execIn f act s).2)
    (hk : ∀ a s', execIn f act s = (.ok a, s') → s₀.Grows s' →
      s₀.Grows (execIn f (k a) s').2) : s₀.Grows (execIn f (act >>= k) s).2 :=
  grows_bind h hk

theorem onlyGrows_readGlobal (name : String) : OnlyGrows (readGlobal name) :=
  OnlyGrows.get.bind fun _ => .orFail _ _

theorem onlyGrows_namesIn (scope : Nat) : OnlyGrows (namesIn scope) := by
  refine (OnlyGrows.cellAt scope).bind fun c => ?_
  cases c <;> exact .pure _

theorem onlyGrows_readAround (f : Frame) (name : String) : OnlyGrows (f.readAround name) := by
  unfold Frame.readAround
  split
  · exact (onlyGrows_namesIn _).bind fun _ => .orFail _ _
  · split
    · exact onlyGrows_readGlobal name
    · split
      · exact .pure _
      · exact onlyGrows_readGlobal name
    · exact onlyGrows_readGlobal name

/-- Reading a name changes nothing. -/
theorem grows_readName (f : Frame) (name : String) (s : Code.Store) :
    s.Grows (execIn f (readName name) s).2 := by
  rw [readName, execIn_bind_ok (execIn_read s)]
  split
  · exact onlyGrows_readGlobal name s
  · split
    · refine growsIn_bind (onlyGrows_namesIn _ s) fun names s' _ hgrows => ?_
      split
      · exact hgrows
      · split
        · exact hgrows.trans (onlyGrows_readGlobal name s')
        · exact hgrows
    · exact onlyGrows_readAround f name s

/-- Whatever has been added to a store, evaluating an expression changes nothing. -/
def OnlyReads (f : Frame) (call : Code.Call) (s : Code.Store) (e : Expr) : Prop :=
  ∀ s', s.Grows s' → s'.Grows (execIn f (e.eval call) s').2

theorem OnlyReads.mono (hgrows : s.Grows s₁) (h : OnlyReads f call s e) :
    OnlyReads f call s₁ e :=
  fun s' hs' => h s' (hgrows.trans hs')

theorem onlyReads_name (name : String) : OnlyReads f call s (.name name) := by
  intro s' _
  rw [execIn_eval_name]
  exact grows_readName f name s'

theorem onlyReads_constant (c : Constant) : OnlyReads f call s (.constant c) := by
  intro s' _
  rw [execIn_eval_constant]
  exact .refl s'

theorem OnlyReads.attribute (h : OnlyReads f call s e) (name : String) :
    OnlyReads f call s (.attribute e name) := by
  intro s' hgrows
  rw [Expr.eval]
  exact growsIn_bind (h s' hgrows) fun d s₁ _ hgrows₁ =>
    hgrows₁.trans (onlyGrows_attributeOf d name s₁)

theorem execIn_numberCode (n : Int) (s : Code.Store) :
    execIn f ((numberCode n).eval call) s = (.ok (.int n), s) := by
  unfold numberCode
  simp only
  split
  · rename_i hn
    have hsign : exec (signed .minus (.int n.natAbs)) s = (.ok (.int (-n.natAbs)), s) := rfl
    have hvalue : -(n.natAbs : Int) = n := by omega
    rw [Expr.eval, execIn_bind_ok (execIn_eval_constant _)]
    refine (execIn_lift _ s).trans (hsign.trans ?_)
    rw [hvalue]
  · rename_i hn
    have hvalue : (n.natAbs : Int) = n := by omega
    rw [execIn_eval_constant, Constant.datum, hvalue]

theorem isPositional_numberCode (n : Int) : (numberCode n).isPositional = true := by
  unfold numberCode
  simp only
  split <;> rfl

/-- An argument that only reads, by position or by name. -/
def IsReadArgument (f : Frame) (call : Code.Call) (s : Code.Store) (e : Expr) : Prop :=
  (e.isPositional = true ∧ OnlyReads f call s e) ∨
    ∃ name e', e = .argument name e' ∧ OnlyReads f call s e'

theorem grows_evalArguments {es : List Expr} (hgrows : s.Grows s₁)
    (h : ∀ e ∈ es, IsReadArgument f call s e) :
    s₁.Grows (execIn f (evalArguments call es) s₁).2 := by
  induction es generalizing s₁ with
  | nil =>
      rw [execIn_evalArguments_nil]
      exact .refl s₁
  | cons e es ih =>
      have hrest : ∀ s', s₁.Grows s' → s₁.Grows (execIn f (evalArguments call es) s').2 :=
        fun s' hs' => hs'.trans
          (ih (hgrows.trans hs') fun e he => h e (List.mem_cons_of_mem _ he))
      rcases h e List.mem_cons_self with ⟨hpositional, hreads⟩ | ⟨name, e', rfl, hreads⟩
      · rw [evalArguments]
        · exact growsIn_bind (hreads s₁ hgrows) fun _ s' _ hs' =>
            growsIn_bind (hrest s' hs') fun _ _ _ hend => hend
        all_goals
          intros
          subst_vars
          cases hpositional
      · rw [evalArguments]
        exact growsIn_bind (hreads s₁ hgrows) fun _ s' _ hs' =>
          growsIn_bind (hrest s' hs') fun _ _ _ hend => hend

/-- A call of a method without arguments. -/
theorem execIn_eval_callMethod {self routine : Datum}
    (hf : execIn f (e.eval call) s = (.ok (.bound self routine), s₁)) :
    execIn f ((Expr.call e []).eval call) s = exec (call (.bound self routine) [] []) s₁ :=
  execIn_eval_callBound hf execIn_evalArguments_nil

/-- A call of what is not there to see an object from above. -/
theorem grows_eval_call {args : List Expr} (hf : execIn f (e.eval call) s = (.ok d, s))
    (hd : ∀ k, d = .known k → k.name ≠ "super")
    (hargs : ∀ e ∈ args, IsReadArgument f call s e)
    (hcall : ∀ ds named s', s.Grows s' → s'.Grows (exec (call d ds named) s').2) :
    s.Grows (execIn f ((Expr.call e args).eval call) s).2 := by
  rw [Expr.eval, execIn_bind_ok hf]
  refine growsIn_bind (grows_evalArguments (.refl s) hargs) fun args s' _ hgrows => ?_
  obtain ⟨ds, named⟩ := args
  simp only
  split
  · exact absurd rfl (hd _ rfl)
  · exact hgrows.trans (hcall ds named s' hgrows)

end Reading

/-! ## A reduction under way -/

/-- What a reduction was called with, the stack as it was handed in among it, and the cell of its
scope. -/
structure ReductionCall where
  parser : Nat
  stack : List Value
  list : Nat
  items : List Datum
  scope : Nat

/-- The parameters of the function that reduces by a production. -/
def methodParameters : List String :=
  ["self", internal "parser", internal "stack", internal "size"]

/-- The parameters that a body uses. -/
def usedParameters : List String :=
  [internal "parser", internal "stack", internal "size"]

/-- What checkers of types are told the symbols of the stack are. -/
def castFunction : Known :=
  ⟨"typing", "cast", .routine, [.settable, .takesTwo]⟩

/-- A reduction is under way: its scope has some names, its parameters are what they were, the stack
holds what it held, and the parser has what it is asked for. -/
structure Underway (c : Config) (r : ReductionCall) (names : List (String × Datum))
    (s : Code.Store) : Prop where
  scope : s.cells[r.scope]? = some (.scope names)
  parser : names.lookup (internal "parser") = some (.cell r.parser)
  stack : names.lookup (internal "stack") = some (.cell r.list)
  size : names.lookup (internal "size") = some (.int r.items.length)
  items : s.cells[r.list]? = some (.list r.items)
  base : s.KeepsBase r.parser
  cast : c.genericStack = false → s.globals.lookup "cast" = some (.known castFunction)

/-- A frame admits statements of a body: the parameters and the names that they bind are names of
its scope, which are told apart, and nothing there goes by the name of the cast. -/
structure Admits (c : Config) (r : ReductionCall) (f : Frame) (own : List Statement) : Prop where
  place : f.place = .function
  scope : f.scope.2 = r.scope
  around : f.around = []
  parameters : ∀ n ∈ usedParameters, n ∉ f.shared ∧ n ∈ f.scope.1
  bound : ∀ st ∈ own, ∀ n ∈ st.bound,
    localName n ∉ f.shared ∧ localName n ∈ f.scope.1 ∧ localName n ∉ usedParameters
  cast : c.genericStack = false → "cast" ∉ f.shared ∧ "cast" ∉ f.scope.1

section Underway

variable {c : Config} {r : ReductionCall} {f : Frame} {own : List Statement} {s s' : Code.Store}
  {names : List (String × Datum)} {n : String} {d : Datum} {depth : Nat}

theorem Underway.mono (hgrows : s.Grows s') (h : Underway c r names s) :
    Underway c r names s' where
  scope := hgrows.cells h.scope
  parser := h.parser
  stack := h.stack
  size := h.size
  items := hgrows.cells h.items
  base := h.base.spares (hgrows.spares : s.Spares none r.scope s')
  cast hc := by rw [hgrows.globals]; exact h.cast hc

/-- A parameter of the method. -/
theorem Underway.readParameter (h : Underway c r names s) (hf : Admits c r f own)
    (hn : n ∈ usedParameters) (hd : names.lookup n = some d) :
    execIn f (readName n) s = (.ok d, s) := by
  obtain ⟨hshared, hlocal⟩ := hf.parameters n hn
  refine execIn_readName_local hshared hlocal ?_ hd
  rw [hf.scope]
  exact h.scope

/-- The place of a symbol is counted from the end of the stack. -/
theorem Underway.execIn_indexCode (h : Underway c r names s) (hf : Admits c r f own)
    (call : Code.Call) (distance : Int) :
    execIn f ((indexCode distance).eval call) s =
      (.ok (.int (if distance = 1 then -1 else r.items.length - distance)), s) := by
  unfold indexCode
  split
  · exact execIn_numberCode _ s
  · have hsize : execIn f ((Expr.name (internal "size")).eval call) s =
        (.ok (.int r.items.length), s) :=
      (execIn_eval_name _).trans (h.readParameter hf (by decide) h.size)
    rw [Expr.eval, execIn_bind_ok hsize, execIn_bind_ok (execIn_numberCode distance s)]
    rfl

/-- A symbol of the stack, as it is looked up before checkers of types are told what it is. -/
def itemCode (distance : Int) : Expr :=
  .item (.name (internal "stack")) (indexCode distance)

theorem Underway.execIn_itemCode (h : Underway c r names s) (hf : Admits c r f own)
    (call : Code.Call) (distance : Int) :
    execIn f ((itemCode distance).eval call) s = exec (itemOf (.cell r.list)
      (.int (if distance = 1 then -1 else r.items.length - distance))) s := by
  have hstack : execIn f ((Expr.name (internal "stack")).eval call) s = (.ok (.cell r.list), s) :=
    (execIn_eval_name _).trans (h.readParameter hf (by decide) h.stack)
  rw [itemCode, Expr.eval]
  · rw [execIn_bind_ok hstack, execIn_bind_ok (h.execIn_indexCode hf call distance), execIn_lift]
  · intro a b c' heq
    unfold indexCode numberCode at heq
    split at heq
    · simp at heq
    · cases heq

/-- The cast is that of the library. -/
theorem Underway.execIn_cast (h : Underway c r names s) (hf : Admits c r f own)
    (hgeneric : c.genericStack = false) (call : Code.Call) :
    execIn f ((Expr.name "cast").eval call) s = (.ok (.known castFunction), s) := by
  obtain ⟨hshared, hlocal⟩ := hf.cast hgeneric
  have hname : (s.globals.lookup "cast").or (builtinValue? "cast") =
      some (.known castFunction) := by
    rw [h.cast hgeneric]
    rfl
  exact (execIn_eval_name _).trans
    (execIn_readName_global hshared hlocal hf.around (by decide) hname)

/-- The cast gives its second argument back. -/
theorem exec_callCast (args : List Datum) (named : List (String × Datum)) :
    exec (callAt (depth + 1) (.known castFunction) args named) s = exec (do
      return argument (← takeArguments [("typ", none), ("val", none)] args named) 1) s := by
  have hpath : castFunction.path ≠ streamReader.path := by decide
  exact exec_callAt_known (ne_of_path hpath)

/-- Looking at a symbol of the stack changes nothing. -/
theorem Underway.reads_accessCode (h : Underway c r names s) (hf : Admits c r f own)
    (distance : Int) : OnlyReads f (callAt (depth + 1)) s (accessCode c distance) := by
  have hitem : OnlyReads f (callAt (depth + 1)) s (itemCode distance) := by
    intro s₁ hgrows
    have h₁ := h.mono hgrows
    rw [h₁.execIn_itemCode hf, itemOf, exec_bind_ok (exec_cellAt h₁.items)]
    exact OnlyGrows.orFail _ _ s₁
  unfold accessCode
  simp only
  split
  · exact hitem
  · rename_i hgeneric
    intro s₁ hgrows
    refine grows_eval_call ((h.mono hgrows).execIn_cast hf (by simpa using hgeneric) _) ?_ ?_ ?_
    · rintro k hk
      cases hk
      decide
    · intro e he
      simp only [List.mem_cons, List.not_mem_nil, or_false] at he
      rcases he with rfl | rfl
      · exact .inl ⟨rfl, onlyReads_name _⟩
      · exact .inl ⟨rfl, hitem.mono hgrows⟩
    · intro ds named s₂ _
      rw [exec_callCast]
      exact ((OnlyGrows.orFail _ _).bind fun _ => .pure _) s₂

/-- A method that the parser has from its base. -/
theorem Underway.execIn_baseMethod (h : Underway c r names s) (hf : Admits c r f own)
    (call : Code.Call) (hn : n ∈ askedNames) :
    execIn f ((Expr.attribute (.name (internal "parser")) n).eval call) s =
      (.ok (.bound (.cell r.parser) (.known (baseMethod "LRParser" n))), s) :=
  (execIn_eval_attribute ((execIn_eval_name _).trans
    (h.readParameter hf (by decide) h.parser)) n).trans (h.base.exec_attributeOf hn)

/-- What makes symbols, as a body asks for it. -/
def makerCode : Expr :=
  .attribute (.call (.attribute (.name (internal "parser")) "get_symbol_factory") []) "new_symbol"

/-- The parser's factory makes symbols. -/
theorem Underway.execIn_makerCode (h : Underway c r names s) (hf : Admits c r f own)
    (depth : Nat) : ∃ factory, execIn f (makerCode.eval (callAt (depth + 1))) s =
      (.ok (.bound (.cell factory) (.known (baseMethod "SymbolFactory" "new_symbol"))), s) := by
  obtain ⟨factory, parts, hfactory, hparts, hcall⟩ := h.base.exec_factory depth
  have hmade := (execIn_eval_callMethod
    (h.execIn_baseMethod hf (callAt (depth + 1)) (n := "get_symbol_factory") (by decide))).trans
      hcall
  exact ⟨factory, (execIn_eval_attribute hmade "new_symbol").trans
    (h.base.exec_attributeOf_maker hfactory hparts)⟩

/-- Making a symbol changes nothing that was there. -/
theorem Underway.reads_constructCode (h : Underway c r names s) (hf : Admits c r f own)
    (name : String) (index : Int) (extent : Option (Slot × Slot)) (withResult : Bool) :
    OnlyReads f (callAt (depth + 3)) s (constructCode name index extent withResult) := by
  intro s₁ hgrows
  have h₁ := h.mono hgrows
  obtain ⟨factory, hmaker⟩ := h₁.execIn_makerCode hf (depth + 2)
  refine grows_eval_call hmaker nofun ?_ ?_
  · intro e he
    have hname : ∀ name, IsReadArgument f (callAt (depth + 3)) s₁ (nameCode name) :=
      fun name => .inl ⟨rfl, onlyReads_name _⟩
    have hnumber : OnlyReads f (callAt (depth + 3)) s₁ (numberCode index) := by
      intro s₂ _
      rw [execIn_numberCode]
      exact .refl s₂
    rcases List.mem_cons.mp he with rfl | he
    · exact .inl ⟨rfl, onlyReads_constant _⟩
    rcases List.mem_cons.mp he with rfl | he
    · exact .inl ⟨isPositional_numberCode _, hnumber⟩
    rcases List.mem_append.mp he with he | he
    · cases extent with
      | none => cases he
      | some ends =>
          simp only [List.mem_cons, List.not_mem_nil, or_false] at he
          rcases he with rfl | rfl
          · exact hname _
          · exact hname _
    · split at he
      · obtain rfl := List.mem_singleton.mp he
        split
        · exact hname _
        · exact .inr ⟨_, _, rfl, onlyReads_name _⟩
      · cases he
  · intro ds named s₂ hgrows₂
    exact (h₁.mono hgrows₂).base.grows_newSymbol

/-- The value that a statement binds is only read. -/
theorem Underway.reads_binding (h : Underway c r names s) (hf : Admits c r f own)
    {st : Statement} {valueType : Option String} {e : Expr}
    (hst : st.binding? c = some (n, valueType, e)) (depth : Nat) :
    OnlyReads f (callAt (depth + 3)) s e := by
  cases st with
  | startResult t distance =>
      cases distance with
      | none =>
          cases hst
          exact onlyReads_constant _
      | some distance =>
          cases hst
          exact (h.reads_accessCode hf distance).attribute "value"
  | bindSlot slot distance =>
      cases hst
      exact h.reads_accessCode hf distance
  | bindLeft label slot =>
      cases hst
      exact (onlyReads_name _).attribute "left"
  | bindRight label slot =>
      cases hst
      exact (onlyReads_name _).attribute "right"
  | bindValue label t slot =>
      cases hst
      exact (onlyReads_name _).attribute "value"
  | construct name index extent withResult =>
      cases hst
      exact h.reads_constructCode hf name index extent withResult
  | _ => cases hst

/-- A name of the scope that is no parameter gets a value. -/
theorem Underway.bindLocal (h : Underway c r names s) (hshared : n ∉ f.shared)
    (hlocal : n ∈ f.scope.1) (hother : n ∉ usedParameters) (hf : f.scope.2 = r.scope) (d : Datum) :
    ∃ s', execIn f (bindName n d) s = (.ok (), s') ∧
      s.Spares none r.scope s' ∧ Underway c r (setEntry n d names) s' := by
  have hscope : s.cells[f.scope.2]? = some (.scope names) := by
    rw [hf]
    exact h.scope
  have hspares : s.Spares none r.scope (s.put r.scope (.scope (setEntry n d names))) :=
    Store.spares_putScope h.scope
  have hkept : ∀ p ∈ usedParameters, (setEntry n d names).lookup p = names.lookup p :=
    fun p hp => lookup_setEntry_ne fun heq => hother (heq ▸ hp)
  refine ⟨_, execIn_bindName_local hshared hlocal hscope, hf ▸ hspares, ?_⟩
  rw [hf]
  exact
    { scope := Store.put_at h.scope
      parser := (hkept _ (by decide)).trans h.parser
      stack := (hkept _ (by decide)).trans h.stack
      size := (hkept _ (by decide)).trans h.size
      items := hspares.other rfl rfl h.items
      base := h.base.spares hspares
      cast := h.cast }

/-- A name of the reduction gets a value. -/
theorem Underway.bind (h : Underway c r names s) (hf : Admits c r f own) {st : Statement}
    (hst : st ∈ own) (hn : n ∈ st.bound) (d : Datum) :
    ∃ s', execIn f (bindName (localName n) d) s = (.ok (), s') ∧
      s.Spares none r.scope s' ∧ Underway c r (setEntry (localName n) d names) s' := by
  obtain ⟨hshared, hlocal, hother⟩ := hf.bound st hst n hn
  exact h.bindLocal hshared hlocal hother hf.scope d

end Underway

/-! ## Statements one after the other -/

/-- Statements end by themselves or fail; none of them gives a value back or leaves a loop. -/
def Ends (result : Except Code.Fault Code.Outcome) : Prop :=
  result = .ok .next ∨ ∃ fault, result = .error fault

/-- What statements of a reduction come to: the reduction is still under way, whether they end or
fail, and if they end, the names that they bind have values. -/
structure Goes (c : Config) (r : ReductionCall) (bound : List String)
    (names : List (String × Datum)) (s : Code.Store) (result : Except Code.Fault Code.Outcome)
    (names' : List (String × Datum)) (s' : Code.Store) : Prop where
  ends : Ends result
  spares : s.Spares none r.scope s'
  underway : Underway c r names' s'
  kept : ∀ n, (names.lookup n).isSome → (names'.lookup n).isSome
  bound : result = .ok .next → ∀ n ∈ bound, (names'.lookup (localName n)).isSome

section Statements

variable {c : Config} {r : ReductionCall} {f : Frame} {own ss : List Statement} {st : Statement}
  {s s' : Code.Store} {names : List (String × Datum)} {depth : Nat} {types : String → Expr}

theorem isSome_lookup_setEntry {entries : List (String × Datum)} {n name : String} {d : Datum}
    (h : n ≠ name → (entries.lookup n).isSome) :
    ((setEntry name d entries).lookup n).isSome := by
  by_cases hn : n = name
  · rw [hn, lookup_setEntry_self]
    rfl
  · rw [lookup_setEntry_ne hn]
    exact h hn

theorem Underway.goes (h : Underway c r names s) : Goes c r [] names s (.ok .next) names s where
  ends := .inl rfl
  spares := (Store.Grows.refl s).spares
  underway := h
  kept _ hn := hn
  bound _ n hn := by cases hn

theorem code_of_binding?_none (types : String → Expr) (hbinding : st.binding? c = none)
    (haccept : st ≠ .accept)
    (hfinish : st ≠ .finish) : st.code c types = [] ∧ st.bound = [] := by
  unfold Statement.code
  rw [hbinding]
  cases st with
  | startResult t distance => cases distance <;> cases hbinding
  | user line => exact ⟨rfl, rfl⟩
  | announce => exact ⟨rfl, rfl⟩
  | accept => exact absurd rfl haccept
  | finish => exact absurd rfl hfinish
  | _ => cases hbinding

/-- Whether a name is said to have a type or not, it gets the value of the expression. -/
theorem run_code_of_binding? {n : String} {valueType : Option String} {e : Expr} {d : Datum}
    {call : Code.Call} (hbinding : st.binding? c = some (n, valueType, e))
    (hplace : f.place = .function) {s₁ s₂ : Code.Store}
    (hvalue : execIn f (e.eval call) s = (.ok d, s₁))
    (hbind : execIn f (bindName (localName n) d) s₁ = (.ok (), s₂)) :
    execIn f (runAll call (st.code c types)) s = (.ok .next, s₂) := by
  have hassign : execIn f ((nameCode n).assign call d) s₁ = (.ok (), s₂) :=
    (execIn_assign_name _).trans hbind
  have hfunction : f.place.isInFunction = true := by
    rw [hplace]
    rfl
  unfold Statement.code
  rw [hbinding]
  cases valueType with
  | none => exact (execIn_runAll_next (execIn_assign hvalue hassign)).trans execIn_runAll_nil
  | some t =>
      exact (execIn_runAll_next (execIn_annotate hfunction hvalue hassign)).trans
        execIn_runAll_nil

theorem run_code_of_noValue {n : String} {valueType : Option String} {e : Expr} {call : Code.Call}
    {fault : Code.Fault} {s₁ : Code.Store} (hbinding : st.binding? c = some (n, valueType, e))
    (hvalue : execIn f (e.eval call) s = (.error fault, s₁)) :
    execIn f (runAll call (st.code c types)) s = (.error fault, s₁) := by
  unfold Statement.code
  rw [hbinding]
  cases valueType with
  | none => exact execIn_runAll_error (execIn_assign_noValue hvalue)
  | some t => exact execIn_runAll_error (execIn_annotate_noValue hvalue)

/-- A statement of a body goes. -/
theorem Underway.run_code (h : Underway c r names s) (hf : Admits c r f own) (hst : st ∈ own)
    (haccept : st ≠ .accept) (hfinish : st ≠ .finish) (types : String → Expr) (depth : Nat) :
    ∃ result names' s', execIn f (runAll (callAt (depth + 3)) (st.code c types)) s =
      (result, s') ∧ Goes c r st.bound names s result names' s' := by
  cases hbinding : st.binding? c with
  | none =>
      obtain ⟨hcode, hbound⟩ := code_of_binding?_none types hbinding haccept hfinish
      rw [hcode, hbound]
      exact ⟨_, _, _, execIn_runAll_nil, h.goes⟩
  | some binding =>
      obtain ⟨n, valueType, e⟩ := binding
      have hbound : st.bound = [n] := bound_of_binding? hbinding
      have hreads := h.reads_binding hf hbinding depth s (.refl s)
      cases hvalue : execIn f (e.eval (callAt (depth + 3))) s with
      | mk value s₁ =>
          rw [hvalue] at hreads
          have h₁ := h.mono hreads
          cases value with
          | error fault =>
              exact ⟨_, names, s₁, run_code_of_noValue hbinding hvalue,
                { ends := .inr ⟨fault, rfl⟩
                  spares := hreads.spares
                  underway := h₁
                  kept := fun _ hn => hn
                  bound := nofun }⟩
          | ok d =>
              obtain ⟨s₂, hbind, hspares, h₂⟩ :=
                h₁.bind hf hst (hbound ▸ List.mem_singleton_self n) d
              refine ⟨_, _, s₂, run_code_of_binding? hbinding hf.place hvalue hbind,
                { ends := .inl rfl
                  spares := hreads.spares.trans hspares
                  underway := h₂
                  kept := fun _ hn => isSome_lookup_setEntry fun _ => hn
                  bound := ?_ }⟩
              intro _ k hk
              rw [hbound, List.mem_singleton] at hk
              exact isSome_lookup_setEntry fun hne => absurd (congrArg localName hk) hne

/-- The own statements of a body go one after the other. -/
theorem Underway.run_ownCode (h : Underway c r names s) (hf : Admits c r f own)
    (hss : ∀ st ∈ ss, st ∈ own ∧ st ≠ .accept ∧ st ≠ .finish) (types : String → Expr)
    (depth : Nat) :
    ∃ result names' s', execIn f (runAll (callAt (depth + 3)) (ownCode c types ss)) s =
      (result, s') ∧ Goes c r (ss.flatMap Statement.bound) names s result names' s' := by
  induction ss generalizing s names with
  | nil => exact ⟨_, _, _, execIn_runAll_nil, h.goes⟩
  | cons st ss ih =>
      obtain ⟨hst, haccept, hfinish⟩ := hss st List.mem_cons_self
      obtain ⟨result, names₁, s₁, hrun, hgoes⟩ :=
        h.run_code hf hst haccept hfinish types depth
      rw [ownCode_cons, execIn_runAll_append, hrun]
      rcases hgoes.ends with rfl | ⟨fault, rfl⟩
      · obtain ⟨result, names₂, s₂, hrest, hmore⟩ :=
          ih hgoes.underway fun st hst => hss st (List.mem_cons_of_mem _ hst)
        refine ⟨result, names₂, s₂, hrest,
          { ends := hmore.ends
            spares := hgoes.spares.trans hmore.spares
            underway := hmore.underway
            kept := fun n hn => hmore.kept n (hgoes.kept n hn)
            bound := ?_ }⟩
        intro hended n hn
        rw [List.flatMap_cons, List.mem_append] at hn
        rcases hn with hn | hn
        · exact hmore.kept _ (hgoes.bound rfl n hn)
        · exact hmore.bound hended n hn
      · exact ⟨_, names₁, s₁, rfl,
          { ends := .inr ⟨fault, rfl⟩
            spares := hgoes.spares
            underway := hgoes.underway
            kept := hgoes.kept
            bound := nofun }⟩

end Statements

end LalrBackend.Reduction
