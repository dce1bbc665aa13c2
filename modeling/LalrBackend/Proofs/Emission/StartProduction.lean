import LalrBackend.Proofs.Emission.Acceptance

/-!
# The start production

A generated parser is done exactly once a call for its start production has returned. The code that
the user has written for this production runs before the end is noted, so it has to stay in the
method; where it leaves, what is left is that nothing else ends the parse.
-/

namespace LalrBackend

open Reduction

/-- Positions are not tracked. -/
def untracked : Config := { trackPositions := false }

/-- `emptyStart` with code of the user. -/
def startWith (code : String) : Grammar :=
  { emptyStart with
    productions := [⟨0, ⟨⟨.nonTerminal, "s", 0, none⟩, []⟩, some code, some 1, .own⟩] }

/-- Its module. -/
def startWithModule (code : String) (packed : Cache.PackedTables) : ParserModule :=
  .ofGrammar untracked (startWith code) 0 packed

/-- The lines of the method of its production, where the code is one line. -/
def startWithLines (line : String) : List String := ["",
  "    # s ::=",
  "    def CUP_act_0(self, CUP_parser, CUP_stack, CUP_size):",
  "        " ++ line,
  "        CUP_result = CUP_parser.get_symbol_factory().new_symbol('s', 0)",
  "        # ACCEPT",
  "        CUP_parser.done_parsing()",
  "        return CUP_result"]

/-- The body that they are read as. -/
def startWithBody (st : Code.Statement) : List Code.Statement := [
  st,
  .assign [.name (internal "result")]
    (.call (.attribute (.call (.attribute (.name (internal "parser")) "get_symbol_factory") [])
      "new_symbol") [.constant (.text "s"), .constant (.int 0)]),
  .compute (.call (.attribute (.name (internal "parser")) "done_parsing") []),
  .giveBack (some (.name (internal "result")))]

/-- The two classes with their functions. -/
def startWithStore (st : Code.Statement) : Code.Store where
  cells := #[
    .type "parser" [.known (Code.runtimeType "LRParser")]
      [(Code.startName, .cell 1), ("init_actions", .cell 2), ("do_action", .cell 3)],
    .routine (Code.constructorOf false 0) [],
    .routine (Code.functionOf 0 "init_actions" ["self"] Code.initBody) [],
    .routine (Code.functionOf 0 "do_action" Code.forwardParameters Code.forwardBody) [],
    .type (internal "actions") [] [(Code.startName, .cell 5), (internal "do_action", .cell 6),
      (methodName 0, .cell 7)],
    .routine (Code.functionOf 4 Code.startName Code.startParameters (Code.startBody [0])) [],
    .routine (Code.functionOf 4 (internal "do_action") Code.dispatchParameters
      Code.dispatchBody) [],
    .routine (Code.functionOf 4 (methodName 0) methodParameters (startWithBody st)) []]
  globals := [("parser", .cell 0), (internal "actions", .cell 4),
    ("ParseTableError", .known Code.refusalType)]
  marks := []
  handled := none

/-- Where they are, and where the parser and its actions come once they are made. -/
def startWithMade : Code.Made where
  parser := 8
  actions := 10
  parserClass := 0
  actionsClass := 4
  forward := 3
  dispatch := 6
  start := 5
  method _ := 7

/-- A statement is all that the user has written, and it touches nothing. -/
def startWithPart (st : Code.Statement) : UserPart where
  types _ := .constant .null
  statements _ := [st]
  relies _ := True
  sparesSymbols := True

/-- Code of one line is read as a statement where it stands in the method. -/
structure IsReadAs (code : String) (st : Code.Statement) : Prop where
  lines : ∀ a ∈ ParserModule.actionMethods untracked (startWith code).start
    (startWith code).productions, (a.draft untracked).lines = startWithLines code
  body : Code.readFunction? (internal "actions") (startWithLines code) =
    some (.define false (methodName 0) { plain := methodParameters } [] [] []
      (startWithBody st))

section StartWith

open Code

variable {code line : String} {st : Code.Statement}
  {packed : Cache.PackedTables} {i : Nat} {a : ActionMethod} {p : Production} {b : Body}

theorem readFunction?_startWithLines (ts : List Token)
    (hlines : linesOf (codeOf (startWithLines line)) = [
      ⟨4, 4, [.keyword "def", .name "CUP_act_0", .mark "(", .name "self", .mark ",",
        .name "CUP_parser", .mark ",", .name "CUP_stack", .mark ",", .name "CUP_size", .mark ")",
        .mark ":"]⟩,
      ⟨8, 8, ts⟩,
      ⟨8, 8, [.name "CUP_result", .mark "=", .name "CUP_parser", .mark ".",
        .name "get_symbol_factory", .mark "(", .mark ")", .mark ".", .name "new_symbol",
        .mark "(", .constant (.text "s"), .mark ",", .constant (.int 0), .mark ")"]⟩,
      ⟨8, 8, [.name "CUP_parser", .mark ".", .name "done_parsing", .mark "(", .mark ")"]⟩,
      ⟨8, 8, [.keyword "return", .name "CUP_result"]⟩])
    (hwhole : (Line.mk 8 8 ts).isTorn = false)
    (hts : ts.map (Token.ownedBy (some (internal "actions"))) = ts)
    (hbegins : beginsOther ts = false) (hheader : (readHeader? ts).isNone = true)
    (hread : readStatements? ts = some [st]) :
    readFunction? (internal "actions") (startWithLines line) =
      some (.define false (methodName 0) { plain := methodParameters } [] [] []
        (startWithBody st)) := by
  have hdeeper : placeOf [(4, 4), (0, 0)] (Line.mk 8 8 ts) = .ok .deeper := by
    simp [placeOf, hwhole, mostBlocks]
  have hhere : placeOf [(8, 8), (4, 4), (0, 0)] (Line.mk 8 8 ts) = .ok .here := by
    simp [placeOf, hwhole]
  refine readFunction?_eq hlines ?_
  refine readBlock_line _ [] rfl ((readLine_headed rfl rfl rfl).trans
    (readHeaded_define ((readSuite_block hdeeper).trans ?_))) readBlock_nil
  refine readBlock_line [st] _ hhere (readLine_simple hts hbegins hheader hread) ?_
  refine readBlock_line (((startWithBody st).drop 1).take 1) _ rfl
    (readLine_simple rfl rfl rfl rfl) ?_
  refine readBlock_line (((startWithBody st).drop 2).take 1) _ rfl
    (readLine_simple rfl rfl rfl rfl) ?_
  exact readBlock_line ((startWithBody st).drop 3) [] rfl (readLine_simple rfl rfl rfl rfl)
    readBlock_nil

theorem IsReadAs.read (h : IsReadAs code st)
    (ha : (startWithModule code packed).actions[i]? = some a) :
    readFunction? (internal "actions") (a.draft untracked).lines =
      some (.define false (methodName 0) { plain := methodParameters } [] [] []
        (startWithBody st)) := by
  rw [h.lines a (List.mem_of_getElem? ha)]
  exact h.body

theorem startWith_action (ha : (startWithModule code packed).actions[i]? = some a) :
    a.production.index = 0 := by
  obtain rfl : i = 0 := Nat.lt_one_iff.mp (List.getElem?_eq_some_iff.mp ha).1
  cases ha
  rfl

theorem startWith_own (ha : (startWithModule code packed).actions[i]? = some ⟨p, .ok b⟩) :
    b.own = [.construct "s" 0 none false, .announce, .accept, .finish] := by
  obtain rfl : i = 0 := Nat.lt_one_iff.mp (List.getElem?_eq_some_iff.mp ha).1
  cases ha
  rfl

theorem startWith_codeOf (ha : (startWithModule code packed).actions[i]? = some ⟨p, .ok b⟩) :
    (startWithPart st).codeOf (startWithModule code packed).config b i = startWithBody st := by
  obtain rfl : i = 0 := Nat.lt_one_iff.mp (List.getElem?_eq_some_iff.mp ha).1
  cases ha
  rfl

theorem startWithStore_offers (h : IsReadAs code st) (packed : Cache.PackedTables) :
    (startWithStore st).Offers (startWithModule code packed) startWithMade := by
  obtain ⟨types, hdispatch⟩ := readFunction?_dispatchLines true
  have hstart : readFunction? (internal "actions") (startLines ([0].map Int.ofNat)) =
      some (.define false startName { plain := startParameters } [] [] [] (startBody [0])) :=
    readFunction?_startLines (by decide)
  refine
    { names := ⟨rfl, rfl, rfl, rfl, fun _ => rfl⟩
      above := rfl
      parser := rfl
      actions := rfl
      cast := nofun
      parserClass := ⟨_, _, 1, 2, rfl, rfl,
        ⟨_, _, _, _, _, _, readFunction?_constructorLines _ _, rfl⟩, rfl,
        ⟨_, _, _, _, _, readFunction?_initLines _, rfl⟩, rfl, by decide⟩
      forwardPrinted := ⟨_, _, _, _, _, readFunction?_forwardLines _, rfl⟩
      actionsClass := ⟨_, _, rfl, rfl, rfl, rfl, fun ha => ?_⟩
      dispatchPrinted := ⟨_, _, _, _, _, hdispatch, rfl⟩
      startPrinted := ⟨_, _, _, _, _, hstart, rfl⟩
      methodPrinted := fun ha => ⟨_, _, _, _, _, h.read ha, rfl⟩
      numbers := ?_
      based := fun _ _ => rfl
      maker := rfl
      started := rfl }
  · rw [startWith_action ha]
    rfl
  · intro n hn
    obtain rfl : n = 0 := Nat.lt_one_iff.mp hn
    decide

theorem exists_isMadeIn_startWithStore (st : Code.Statement)
    (h : (exec (Program.create (.cell 0) none) (startWithStore st)).1.toOption.isSome) :
    ∃ q : Program, q.IsMadeIn (startWithStore st) "parser" none := by
  cases hrun : exec (Program.create (.cell 0) none) (startWithStore st) with
  | mk result s =>
      cases result with
      | ok d => exact ⟨⟨s, d⟩, .cell 0, rfl, hrun⟩
      | error fault =>
          rw [hrun] at h
          cases h

/-- A statement that changes at most the scope of the method leaves all else alone, and it may rely
on what generated code never changes. -/
theorem startWithPart_leavesAlone {relies : Store → Prop}
    (hrelies : ∀ {s s' : Store} {noted : Option Nat} {scope : Nat}, s.Spares noted scope s' →
      relies s → relies s')
    (h : IsReadAs code st) (packed : Cache.PackedTables) (made : Made)
    (hshared : globalsOf [st] = [] ∧ borrowedOf [st] = [])
    (hruns : ∀ (r : ReductionCall) (names : List (String × Datum)) (s : Store),
      Underway untracked r names s → ∃ result names' s',
        execIn (frameOf made.actionsClass methodParameters (startWithBody st) r.scope)
          (runAll (callAt (mostCalls - 3)) [st]) s = (result, s') ∧
        s.Spares none r.scope s' ∧ Underway untracked r names' s') :
    ((startWithPart st).relying relies).LeavesAlone (startWithModule code packed) made where
  grows {s s'} hgrows := hrelies (hgrows.spares : s.Spares none 0 s')
  spares _ _ hspares := hrelies hspares
  read ha := by
    rw [UserPart.codeOf_relying, startWith_codeOf ha]
    exact ⟨_, _, h.read ha⟩
  names ha := by
    refine ⟨?_, ?_, nofun⟩
    · rw [startWith_own ha]
      decide
    · intro n _
      change n ∉ globalsOf [st] ∧ n ∉ borrowedOf [st]
      rw [hshared.1, hshared.2]
      exact ⟨List.not_mem_nil, List.not_mem_nil⟩
  leaves ha _ r names done s _ hrests hunderway := by
    rw [UserPart.codeOf_relying, startWith_codeOf ha]
    obtain ⟨result, names', s', hrun, hspares, hunderway'⟩ := hruns r names s hunderway
    exact ⟨result, names', s', hrun,
      { ready := hrests.ready.spares hspares
        items := hspares.other rfl rfl hrests.items
        symbols := fun hsymbols => (hrests.symbols hsymbols).spares hspares nofun
        relied := hrelies hspares hrests.relied }, hunderway'⟩

/-- A statement that gives a number to a name. -/
def giving (n : String) (k : Nat) : Code.Statement := .assign [.name n] (.constant (.int k))

theorem run_giving {r : ReductionCall} {names : List (String × Datum)} {s : Store} {n : String}
    (h : Underway untracked r names s) (hn : n ∉ usedParameters) (k owner : Nat)
    (call : Code.Call) :
    ∃ s', execIn (frameOf owner methodParameters (startWithBody (giving n k)) r.scope)
        (runAll call [giving n k]) s = (.ok .next, s') ∧
      s.Spares none r.scope s' ∧ Underway untracked r (setEntry n (.int k) names) s' := by
  have hlocal : n ∈ localNames methodParameters (startWithBody (giving n k)) :=
    List.mem_append_right _ (List.mem_filter.mpr ⟨List.mem_cons_self, rfl⟩)
  obtain ⟨s', hbind, hspares, h'⟩ :=
    h.bindLocal (f := frameOf owner methodParameters (startWithBody (giving n k)) r.scope)
      List.not_mem_nil hlocal hn rfl (.int k)
  have hvalue : execIn (frameOf owner methodParameters (startWithBody (giving n k)) r.scope)
      ((Expr.constant (.int k)).eval call) s = (.ok (.int k), s) := execIn_eval_constant _
  have hassign := execIn_assign hvalue ((execIn_assign_name _).trans hbind)
  exact ⟨s', (execIn_runAll_next hassign).trans execIn_runAll_nil, hspares, h'⟩

/-! ### A statement that stays -/

end StartWith

end LalrBackend
