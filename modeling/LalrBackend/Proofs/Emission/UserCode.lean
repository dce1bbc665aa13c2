import LalrBackend.Proofs.Emission.CutOff
import LalrBackend.Proofs.Reduction.Meaning
import LalrBackend.Proofs.Text.Margin

/-!
# The user's code in the methods

The code of a production stands in the body of its method between the bindings of its
labels and the making of the new symbol, and in the text eight blanks before each line that
is not empty. Apart from the margin that its lines share it is the code as it was written.
-/

namespace LalrBackend

open Text Reduction Failure

section UserCode

variable {c : Config} {g : Grammar} {p : Production} {code : String} {j : Nat}

theorem userLinesOf_eq (haction : p.action = some code) (hcode : hasCode (some code) = true) :
    userLinesOf p = (lines (trimLineFeeds (dedent code.toList))).map String.ofList := by
  rw [userLinesOf, haction, if_pos hcode, Option.getD_some, reindent, String.toList_ofList,
    String.toList_empty, indent_nil_margin]

/-- The user's lines of a body are the lines of the code without their margin. -/
theorem isSplice_userLinesOf (haction : p.action = some code)
    (hcode : hasCode (some code) = true) {ls : List (List Char)} :
    IsSplice code.toList ls ↔ ls = (userLinesOf p).map String.toList := by
  rw [isSplice_iff (exists_content_of_hasCode hcode), userLinesOf_eq haction hcode, List.map_map]
  simp [Function.comp_def]

/-- A method whose parts and those of the methods before it are all there is written as a whole. -/
theorem emitActions_method (hp : g.productions[j]? = some p)
    (hparts : ∀ q ∈ g.productions.take (j + 1), q.HasParts) :
    ∃ b before after, body c p (g.start == some j) = .ok b ∧
      (emitActions c g).lines =
        before ++ ActionMethod.opening p ++ (b.lines c).map bodyLine ++ after := by
  have hdone := ParserModule.methods_done (c := c) hparts
  have hat := ParserModule.actionMethods_getElem? c g.start g.productions j
  rw [hp, Option.map_some] at hat
  set actions := ParserModule.actionMethods c g.start g.productions with hactions
  have hmem : p ∈ g.productions.take (j + 1) := by
    rw [List.mem_iff_getElem?]
    exact ⟨j, by rw [List.getElem?_take, if_pos (Nat.lt_succ_self j), hp]⟩
  obtain ⟨b, hb⟩ := (exists_body_iff (g.start == some j)).mpr (hparts p hmem)
  rw [hb] at hat
  obtain ⟨hj, hat⟩ := List.getElem?_eq_some_iff.mp hat
  -- The method itself is the last one of those that are known to be done.
  have htake : actions.take (j + 1) = actions.take j ++ [actions[j]] :=
    List.take_succ_eq_append_getElem hj
  have hmethod : (actions[j].draft c).lines =
      ActionMethod.opening p ++ (b.lines c).map bodyLine := by
    rw [hat, ActionMethod.draft, Draft.append_of_failure_eq_none (Draft.ofLines_failure _)]
    rfl
  have hconcat : (Draft.concat (actions.map (ActionMethod.draft c))).lines =
      ((actions.take (j + 1)).map (ActionMethod.draft c)).flatMap Draft.lines ++
        (Draft.concat ((actions.drop (j + 1)).map (ActionMethod.draft c))).lines := by
    conv_lhs => rw [← List.take_append_drop (j + 1) actions]
    rw [List.map_append, Draft.concat_append_of_done (List.forall_mem_map.mpr hdone)]
  have hlines : (emitActions c g).lines =
      ParserModule.actionsOpening c (actions.map (·.production.index)) ++
        (Draft.concat (actions.map (ActionMethod.draft c))).lines := by
    rw [emitActions, ← hactions, ParserModule.actionsDraft,
      Draft.append_of_failure_eq_none (Draft.ofLines_failure _), Draft.ofLines_lines]
  refine ⟨b, ParserModule.actionsOpening c (actions.map (·.production.index)) ++
      ((actions.take j).map (ActionMethod.draft c)).flatMap Draft.lines,
    (Draft.concat ((actions.drop (j + 1)).map (ActionMethod.draft c))).lines, hb, ?_⟩
  rw [hlines, hconcat, htake, List.map_append, List.flatMap_append, List.map_singleton,
    List.flatMap_singleton, hmethod]
  simp only [List.append_assoc]

/-- **The user's code is spliced as it was written**, up to the margin that its lines share: between
the bindings of the labels and what makes the new symbol, and in the text behind eight blanks
unless a line is empty. Whether there is a body at all does not depend on the code. -/
theorem userCode_spliced (haction : p.action = some code) (hcode : hasCode (some code) = true) :
    ∃ out : List String,
      (∀ ls, IsSplice code.toList ls ↔ ls = out.map String.toList) ∧
      (∀ isStart, ((∃ b, body c p isStart = .ok b) ↔ p.HasParts) ∧
        ∀ b, body c p isStart = .ok b →
          b.lines c = (b.start ++ b.bindings).map (Statement.line c) ++ out ++
            (b.extentBindings ++ b.ending).map (Statement.line c)) ∧
      ∀ (g : Grammar) (j : Nat), g.productions[j]? = some p →
        (∀ q ∈ g.productions.take (j + 1), q.HasParts) →
        ∃ b before after, body c p (g.start == some j) = .ok b ∧
          (emitActions c g).lines = before ++ ActionMethod.opening p ++
            ((b.start ++ b.bindings).map (Statement.line c)).map bodyLine ++
            out.map (fun line => if line = "" then "" else "        " ++ line) ++
            ((b.extentBindings ++ b.ending).map (Statement.line c)).map bodyLine ++ after := by
  refine ⟨userLinesOf p, fun ls => isSplice_userLinesOf haction hcode,
    fun isStart => ⟨exists_body_iff isStart, fun b => lines_of_body⟩, ?_⟩
  intro g j hp hparts
  obtain ⟨b, before, after, hb, hlines⟩ := emitActions_method hp hparts
  have height : bodyLine = fun line => if line = "" then "" else "        " ++ line := by
    funext line
    simp only [bodyLine, String.isEmpty_iff]
    rfl
  refine ⟨b, before, after, hb, ?_⟩
  rw [hlines, lines_of_body hb, List.map_append, List.map_append, ← height]
  simp only [List.append_assoc]

end UserCode

/-- An empty rule whose code has a line of a tab and a blank, and a carriage return at the end of
another one. -/
def indentedRule : Production :=
  ⟨0, ⟨⟨.nonTerminal, "s", 0, none⟩, []⟩, some "\n    if x:\r\n\t \n      y\n", none, .own⟩

/-- Four blanks are taken off the lines of a rule, and eight come before them. -/
theorem userCode_spliced_block :
    let g := { emptyStart with productions := [indentedRule] }
    hasCode indentedRule.action = true ∧
      (∀ q ∈ g.productions.take 1, q.HasParts) ∧
      ∃ b before after, body {} indentedRule true = .ok b ∧
        (emitActions {} g).lines = before ++ ActionMethod.opening indentedRule ++
          ((b.start ++ b.bindings).map (Statement.line {})).map bodyLine ++
          ["        if x:\r", "", "          y"] ++
          ((b.extentBindings ++ b.ending).map (Statement.line {})).map bodyLine ++ after := by
  intro g
  have hparts : ∀ q ∈ g.productions.take 1, q.HasParts := by
    intro q hq i hi
    obtain rfl := List.mem_singleton.mp hq
    exact absurd hi (Nat.not_lt_zero i)
  obtain ⟨out, hsplice, -, hemit⟩ := userCode_spliced (c := {}) (p := indentedRule) rfl (by decide)
  have hout : ["if x:\r", "", "  y"].map String.toList = out.map String.toList := by
    refine (hsplice _).mp ⟨"    ".toList, ["    if x:\r".toList, [], "      y".toList], ?_, ?_, ?_⟩
    · have hlines : (lines "\n    if x:\r\n\t \n      y\n".toList).map contentOf =
          [[], "    if x:\r".toList, [], "      y".toList, []] := by decide
      rw [hlines]
      exact ⟨by decide, fun run hrun => hrun "    if x:\r".toList (by decide) (by decide)⟩
    · exact ⟨⟨[[]], [[]], by decide, by decide, by decide⟩, by decide, by decide⟩
    · exact .cons (by decide) (.cons (by decide) (.cons (by decide) .nil))
  obtain rfl := List.map_injective_iff.mpr (fun _ _ => String.toList_inj.mp) hout
  obtain ⟨b, before, after, hb, hlines⟩ := hemit g 0 rfl hparts
  exact ⟨by decide, hparts, b, before, after, hb, hlines⟩

end LalrBackend
