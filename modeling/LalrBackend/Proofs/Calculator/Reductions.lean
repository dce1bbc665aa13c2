import LalrBackend.Proofs.Calculator.Module
import LalrBackend.Proofs.Code.Tokens

/-!
# The reductions of the calculator

What the parser of the calculator makes of the symbols on top of a stack, production by production:
a sum, a product, or the value that is there already.
-/

namespace LalrBackend.Calculator

open Reduction Code Failure

/-! ## The user's code -/

theorem assignmentsOn?_of_line {code : String} {l : Line} {as : List Assignment}
    (hone : isOneLine code = true) (hlines : linesOf code = [l])
    (hmargin : isAtMargin code = true)
    (hread : (readStatements? l.tokens).bind (·.mapM Assignment.ofStatement?) = some as) :
    assignmentsOn? code = some as := by
  rw [assignmentsOn?, if_pos hone, hlines]
  simp only [hmargin, if_true]
  exact hread

/-- The productions, each with the term whose value its code gives the result. -/
def results : List (Production × Term) := [
  (wholeProduction, .name "e"),
  (plusProduction, .sum (.name "e") (.name "t")),
  (exprProduction, .name "t"),
  (timesProduction, .product (.name "t") (.name "n")),
  (termProduction, .name "n")]

/-- The line that gives the result what some tokens say. -/
def resultLine (tokens : List Token) : Line :=
  ⟨0, 0, .name "RESULT" :: .mark "=" :: tokens⟩

theorem linesOf_codes :
    (["e", "t", "n", "e + t", "t * n"].map fun code => linesOf ("RESULT = " ++ code)) =
      [[.name "e"], [.name "t"], [.name "n"], [.name "e", .mark "+", .name "t"],
        [.name "t", .mark "*", .name "n"]].map fun tokens => [resultLine tokens] := by
  decide +kernel

/-- The code of each production is read as an assignment to the result. -/
theorem assignments_results : ∀ r ∈ results,
    (userLinesOf r.1).mapM assignmentsOn? = some [[⟨[resultName], r.2⟩]] := by
  have hlines : ∀ r ∈ results, userLinesOf r.1 = [r.1.action.getD ""] := by decide
  have hcodes := linesOf_codes
  simp only [List.map_cons, List.map_nil, List.cons.injEq, and_true] at hcodes
  obtain ⟨he, ht, hn, hsum, hproduct⟩ := hcodes
  have hread : ∀ r ∈ results, assignmentsOn? (r.1.action.getD "") = some [⟨[resultName], r.2⟩] := by
    simp only [results, List.forall_mem_cons, List.not_mem_nil, false_imp_iff, implies_true,
      and_true]
    exact ⟨assignmentsOn?_of_line (by decide) he (by decide) rfl,
      assignmentsOn?_of_line (by decide) hsum (by decide) rfl,
      assignmentsOn?_of_line (by decide) ht (by decide) rfl,
      assignmentsOn?_of_line (by decide) hproduct (by decide) rfl,
      assignmentsOn?_of_line (by decide) hn (by decide) rfl⟩
  intro r hr
  rw [hlines r hr, List.mapM_cons, hread r hr]
  rfl

/-! ## Labels -/

theorem labelsApart_of_checks {p : Production}
    (hdistinct : ∀ i < p.length, ∀ j < p.length, ∀ a ∈ p.labelAt? i, ∀ b ∈ p.labelAt? j,
      i ≠ j → ¬ SameName a b)
    (hsuffix : ∀ i < p.length, ∀ j < p.length, ∀ a ∈ p.labelAt? i, ∀ b ∈ p.labelAt? j,
      ¬ SameName (a ++ leftSuffix) b ∧ ¬ SameName (a ++ rightSuffix) b)
    (hown : ∀ i < p.length, ∀ a ∈ p.labelAt? i, ¬ IsInternal a ∧ ¬ IsInternal (nameOf a)) :
    p.LabelsApart where
  distinct ha hb := hdistinct _ (Production.labelAt?_eq_some ha).1 _
    (Production.labelAt?_eq_some hb).1 _ ha _ hb
  left ha hb := (hsuffix _ (Production.labelAt?_eq_some ha).1 _
    (Production.labelAt?_eq_some hb).1 _ ha _ hb).1
  right ha hb := (hsuffix _ (Production.labelAt?_eq_some ha).1 _
    (Production.labelAt?_eq_some hb).1 _ ha _ hb).2
  own ha := hown _ (Production.labelAt?_eq_some ha).1 _ ha

theorem labelsApart_results : ∀ r ∈ results, r.1.LabelsApart := by
  have hdistinct : ∀ r ∈ results, ∀ i < r.1.length, ∀ j < r.1.length, ∀ a ∈ r.1.labelAt? i,
      ∀ b ∈ r.1.labelAt? j, i ≠ j → ¬ SameName a b := by
    unfold SameName
    decide +kernel
  have hsuffix : ∀ r ∈ results, ∀ i < r.1.length, ∀ j < r.1.length, ∀ a ∈ r.1.labelAt? i,
      ∀ b ∈ r.1.labelAt? j, ¬ SameName (a ++ leftSuffix) b ∧ ¬ SameName (a ++ rightSuffix) b := by
    unfold SameName
    decide +kernel
  have hown : ∀ r ∈ results, ∀ i < r.1.length, ∀ a ∈ r.1.labelAt? i,
      ¬ IsInternal a ∧ ¬ IsInternal (nameOf a) := by
    unfold IsInternal IsMarked
    decide +kernel
  exact fun r hr => labelsApart_of_checks (hdistinct r hr) (hsuffix r hr) (hown r hr)

/-! ## Reductions -/

/-- The symbol that a production makes of a value: it extends over the symbols that it replaces. -/
def reducedTo (p : Production) (stack : List StackSymbol) (v : Value) : StackSymbol where
  sym := .int p.rule.lhs.index
  value := v
  left := (slotAt stack p.length).left
  right := (slotAt stack 1).right
  name := .text p.rule.lhs.name

theorem reducedSymbol_results {r : Production × Term} (hr : r ∈ results)
    (stack : List StackSymbol) (v : Value) (env : Environment) :
    reducedSymbol config r.1 stack ((resultName, v) :: env) = (reducedTo r.1 stack v).toValue := by
  have hkind : r.1.rule.lhs.valueType.isSome = true ∧ max r.1.length 1 = r.1.length := by
    revert r
    decide
  have htrack : config.trackPositions = true := rfl
  rw [reducedSymbol, hkind.1, hkind.2, htrack, lookup_binding]
  rfl

section Reductions

variable {units : Cache.Tables} {cls : ParserClass} {q : PlainParser} {i : Nat} {p : Production}
  {t : Term} {v : Value} {stack : List StackSymbol}

/-- A parser of the class of the module reduces by a production to what its term gives, and is done
afterwards if the production is the whole one. -/
theorem doAction_of_term (hcls : (moduleOf (.ofUnits units)).plainClass? = some cls)
    (hq : q.class? = some cls) (hr : results[i]? = some (p, t)) (hlen : p.length ≤ stack.length)
    (hv : ∀ bound env, Finds config p stack env → t.eval bound env = .ok v) :
    (Parser.plain q).doAction (.int i) (stack.map StackSymbol.toValue) =
      (.ok (reducedTo p stack v).toValue, .plain { q with done := q.done || i == 0 }) := by
  have hmem : (p, t) ∈ results := List.mem_of_getElem? hr
  have hp : ruleGrammar.productions[i]? = some p := by
    have hmap : ruleGrammar.productions = results.map Prod.fst := rfl
    rw [hmap, List.getElem?_map, hr]
    rfl
  have hstart : checkedStart ruleGrammar = .ok wholeProduction := rfl
  have hindex : ∀ (j : Nat) (q : Production), ruleGrammar.productions[j]? = some q →
      q.index = j := fun j q hq => index_of_checkedStart hstart hq
  obtain ⟨b, hbody, hat, _⟩ :=
    ParserModule.bodyOf?_ofGrammar hindex (moduleOf_written units) hp
  have hactions : ∀ (j : Nat) (a : ActionMethod),
      (moduleOf (.ofUnits units)).actions[j]? = some a → a.production.index = j := by
    intro j a ha
    rw [moduleOf, ParserModule.ofGrammar, ParserModule.actionMethods_getElem?] at ha
    obtain ⟨source, hsource, rfl⟩ := Option.map_eq_some_iff.mp ha
    exact hindex j source hsource
  obtain ⟨method, isTaken, hmethod, hfound⟩ :=
    ParserModule.method?_of_plainClass? hcls hactions hat
  obtain ⟨code, hcode, rfl⟩ := method?_eq_some hmethod
  rw [(body_parts hbody).1, assignments_results _ hmem] at hcode
  cases hcode
  have hapart := labelsApart_results _ hmem
  have hbounds : 1 ≤ p.length ∧ intermediateFits p.length p.base.length p.intermediate = true := by
    have hall : ∀ r ∈ results, 1 ≤ r.1.length ∧
        intermediateFits r.1.length r.1.base.length r.1.intermediate = true := by decide
    exact hall _ hmem
  have hrun : ∀ bound, assignmentsCode bound [⟨[resultName], t⟩] (environment config p stack) =
      .ok ((resultName, v) :: environment config p stack) := by
    intro bound
    rw [assignmentsCode, List.foldlM_cons, Assignment.run, hv bound _ (environment_finds hapart)]
    rfl
  have hmeaning : (b.method [⟨[resultName], t⟩]).run (stack.map StackSymbol.toValue) =
      .ok (reducedTo p stack v).toValue := by
    rw [run_method, ← reducedSymbol_results hmem stack v (environment config p stack)]
    exact Body.run_eq_ok hbody hbounds.2 hapart (by omega) (hrun _)
      (assignsResult_of_assignments (hrun []) (by simp))
  unfold Parser.doAction Parser.ofPlain PlainParser.doAction PlainParser.generated
  have hflat : ([[⟨[resultName], t⟩]] : List (List Assignment)).flatten = [⟨[resultName], t⟩] := rfl
  rw [hflat] at hfound
  have hwhole : (ruleGrammar.start == some i) = (i == 0) := by
    cases i <;> rfl
  simp only [hq, ok_bind, hfound, hmeaning, accepts_method hbody, hwhole]
  rfl

end Reductions

/-! ## Values -/

/-- A symbol carries the integer that is expected of it, if one is. -/
def Carries : Option Int → StackSymbol → Prop
  | some n, s => s.value = .int n
  | none, _ => True

/-- A term comes to an integer whenever the symbols that the production replaces carry what they
are expected to. -/
structure Gives (p : Production) (t : Term) (replaced : List (Option Int)) (v : Int) : Prop where
  length : p.length = replaced.length
  value : ∀ (stack top : List StackSymbol) (bound : List String) (env : Environment),
    List.Forall₂ Carries replaced top → Finds config p (stack ++ top) env →
      t.eval bound env = .ok (.int v)

section Gives

variable {bound : List String} {env : Environment} {a b : Term} {m n : Int}

theorem eval_name {name : String} {v : Value} (h : env.lookup name = some v) :
    (Term.name name).eval bound env = .ok v := by
  rw [Term.eval, valueOf, h]

theorem eval_sum (ha : a.eval bound env = .ok (.int m)) (hb : b.eval bound env = .ok (.int n)) :
    (Term.sum a b).eval bound env = .ok (.int (m + n)) := by
  rw [Term.eval, ha, ok_bind, hb]
  rfl

theorem eval_product (ha : a.eval bound env = .ok (.int m))
    (hb : b.eval bound env = .ok (.int n)) :
    (Term.product a b).eval bound env = .ok (.int (m * n)) := by
  rw [Term.eval, ha, ok_bind, hb]
  rfl

theorem slotAt_append {stack top : List StackSymbol} {i : Nat} (hi : i < top.length) :
    slotAt (stack ++ top) (top.length - i) = top[i] := by
  rw [slotAt_eq_getElem (by omega) (by rw [List.length_append]; omega)]
  have hplace : (stack ++ top).length - (top.length - i) = stack.length + i := by
    rw [List.length_append]
    omega
  simp only [hplace, List.getElem_append_right (Nat.le_add_right _ _), Nat.add_sub_cancel_left]

/-- A label of an operand holds the integer that its symbol carries. -/
theorem lookup_operand {p : Production} {stack top : List StackSymbol}
    {replaced : List (Option Int)} {part : Part} {i : Nat} {label : String}
    (hlength : p.length = replaced.length) (hcarries : List.Forall₂ Carries replaced top)
    (hfinds : Finds config p (stack ++ top) env) (hpart : p.part i = .ok part)
    (hlabel : part.label = some label) (htyped : part.symbol.valueType.isSome = true)
    (hn : replaced[i]? = some (some n)) : env.lookup label = some (.int n) := by
  obtain ⟨hi, hreplaced⟩ := List.getElem?_eq_some_iff.mp hn
  have htop : i < top.length := hcarries.length_eq ▸ hi
  have hvalue : Carries replaced[i] top[i] := hcarries.get hi htop
  rw [hreplaced] at hvalue
  rw [hfinds.value (hlength ▸ hi) hpart hlabel, if_pos htyped, hlength, hcarries.length_eq,
    slotAt_append htop, hvalue]

theorem gives_whole (e : Int) : Gives wholeProduction (.name "e") [some e, none] e := by
  refine ⟨rfl, fun stack top bound env hcarries hfinds => ?_⟩
  exact eval_name (lookup_operand (i := 0) rfl hcarries hfinds rfl rfl rfl rfl)

theorem gives_plus (e t : Int) :
    Gives plusProduction (.sum (.name "e") (.name "t")) [some e, none, some t] (e + t) := by
  refine ⟨rfl, fun stack top bound env hcarries hfinds => eval_sum ?_ ?_⟩
  · exact eval_name (lookup_operand (i := 0) rfl hcarries hfinds rfl rfl rfl rfl)
  · exact eval_name (lookup_operand (i := 2) rfl hcarries hfinds rfl rfl rfl rfl)

theorem gives_expr (t : Int) : Gives exprProduction (.name "t") [some t] t := by
  refine ⟨rfl, fun stack top bound env hcarries hfinds => ?_⟩
  exact eval_name (lookup_operand (i := 0) rfl hcarries hfinds rfl rfl rfl rfl)

theorem gives_times (t n : Int) :
    Gives timesProduction (.product (.name "t") (.name "n")) [some t, none, some n] (t * n) := by
  refine ⟨rfl, fun stack top bound env hcarries hfinds => eval_product ?_ ?_⟩
  · exact eval_name (lookup_operand (i := 0) rfl hcarries hfinds rfl rfl rfl rfl)
  · exact eval_name (lookup_operand (i := 2) rfl hcarries hfinds rfl rfl rfl rfl)

theorem gives_term (n : Int) : Gives termProduction (.name "n") [some n] n := by
  refine ⟨rfl, fun stack top bound env hcarries hfinds => ?_⟩
  exact eval_name (lookup_operand (i := 0) rfl hcarries hfinds rfl rfl rfl rfl)

end Gives

/-- A reduction puts a symbol that carries what the term comes to. -/
theorem doAction_of_gives {units : Cache.Tables} {cls : ParserClass} {i : Nat} {p : Production}
    {t : Term} {v : Int} {replaced : List (Option Int)} {top : List StackSymbol}
    (scanner : Option (List Value)) (stack : List StackSymbol)
    (hcls : (moduleOf (.ofUnits units)).plainClass? = some cls)
    (hr : results[i]? = some (p, t)) (hgives : Gives p t replaced v)
    (hcarries : List.Forall₂ Carries replaced top) :
    ∃ s, Carries (some v) s ∧
      (Parser.plain ⟨some cls, scanner, false⟩).doAction (.int i)
          ((stack ++ top).map StackSymbol.toValue) =
        (.ok s.toValue, .plain ⟨some cls, scanner, i == 0⟩) := by
  have hlen : p.length ≤ (stack ++ top).length := by
    rw [hgives.length, hcarries.length_eq, List.length_append]
    exact Nat.le_add_left _ _
  refine ⟨reducedTo p (stack ++ top) (.int v), rfl, ?_⟩
  exact doAction_of_term hcls rfl hr hlen fun bound env hfinds =>
    hgives.value stack top bound env hcarries hfinds

end LalrBackend.Calculator
