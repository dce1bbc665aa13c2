import LalrBackend.Code.Block
import LalrBackend.Proofs.Code.DispatchBody
import LalrBackend.Proofs.Code.Printed

/-!
# Generated functions as they are read

What is read of the lines of generated functions: a block is read line by line, and each line by
its tokens. The table of the methods may have any number of entries, so it is read entry by entry.
-/

namespace LalrBackend.Code

open Reduction (internal methodName)

/-! ## Blocks -/

section Blocks

variable {owner : Option String} {indents : List Indent} {fuel : Nat} {line : Line}
  {lines rest rest' : List Line} {ss : List Statement} {ts : List Token}

/-- A line of a block, before the other ones. -/
theorem readBlock_line (ss more : List Statement) (hplace : placeOf indents line = .ok .here)
    (hline : readLine owner indents fuel line lines = .ok (ss, rest))
    (hmore : readBlock owner indents fuel rest = .ok (more, rest')) :
    readBlock owner indents (fuel + 1) (line :: lines) = .ok (ss ++ more, rest') := by
  rw [readBlock, hplace]
  change (readLine owner indents fuel line lines >>= _) = _
  rw [hline]
  change ((readBlock owner indents fuel rest).mapError line.explain >>= _) = _
  rw [hmore]
  rfl

@[simp] theorem readBlock_nil : readBlock owner indents (fuel + 1) [] = .ok ([], []) := by
  rw [readBlock]
  nofun

/-- A line further out ends a block. -/
theorem readBlock_end (hplace : placeOf indents line = .ok .further) :
    readBlock owner indents (fuel + 1) (line :: lines) = .ok ([], line :: lines) := by
  rw [readBlock, hplace]
  rfl

/-- Whether tokens begin what is applied to a function or a class, or the cases of a value. -/
def beginsOther : List Token → Bool
  | .mark s :: _ => s == "@"
  | .name n :: _ => n == "match"
  | _ => false

theorem readLine_eq (hts : line.tokens.map (Token.ownedBy owner) = ts)
    (hbegins : beginsOther ts = false) :
    readLine owner indents (fuel + 1) line lines =
      match readHeader? ts with
      | none => do return (← wellFormed (readStatements? ts), lines)
      | some (h, ts) => readHeaded owner indents fuel h ts lines := by
  rw [readLine, hts]
  split
  · cases hbegins
  · cases hbegins
  · rfl

/-- A line of simple statements. -/
theorem readLine_simple (hts : line.tokens.map (Token.ownedBy owner) = ts)
    (hbegins : beginsOther ts = false) (hheader : (readHeader? ts).isNone = true)
    (hread : readStatements? ts = some ss) :
    readLine owner indents (fuel + 1) line lines = .ok (ss, lines) := by
  rw [readLine_eq hts hbegins, Option.isNone_iff_eq_none.mp hheader, hread]
  rfl

/-- A line that announces a block. -/
theorem readLine_headed {h : Header} (hts : line.tokens.map (Token.ownedBy owner) = ts)
    (hbegins : beginsOther ts = false) (hheader : readHeader? ts = some (h, [])) :
    readLine owner indents (fuel + 1) line lines =
      readHeaded owner indents fuel h [] lines := by
  rw [readLine_eq hts hbegins, hheader]

/-- A block on the lines after the one that announces it. -/
theorem readSuite_block (hplace : placeOf indents line = .ok .deeper) :
    readSuite owner indents (fuel + 1) [] (line :: lines) =
      readBlock owner ((line.column, line.narrowColumn) :: indents) fuel (line :: lines) := by
  rw [readSuite, hplace]
  rfl

/-- A function. -/
theorem readHeaded_define {name : String} {ps : Parameters} {defaults types : List Expr}
    (hbody : readSuite owner indents fuel [] lines = .ok (ss, rest)) :
    readHeaded owner indents (fuel + 1) (.define false name ps defaults types) [] lines =
      .ok ([.define false name ps [] defaults types ss], rest) := by
  have howner : (Header.define false name ps defaults types).owner owner = owner := rfl
  rw [readHeaded, howner, hbody]
  rfl

/-- A condition without another case. -/
theorem readHeaded_branch {e : Expr} (hyes : readSuite owner indents fuel [] lines = .ok (ss, rest))
    (hno : readOtherwise true owner indents fuel rest = .ok ([], rest)) :
    readHeaded owner indents (fuel + 1) (.branch e) [] lines = .ok ([.branch e ss []], rest) := by
  have howner : (Header.branch e).owner owner = owner := rfl
  rw [readHeaded, howner, hyes]
  change (readOtherwise true owner indents fuel rest >>= _) = _
  rw [hno]
  rfl

/-- A condition on one line, what it is for on the next one, and the rest of the block. -/
theorem readBlock_branch {e : Expr} {next after : Line} (yes : Statement)
    (more : List Statement) (hplace : placeOf indents line = .ok .here)
    (hts : line.tokens.map (Token.ownedBy owner) = ts) (hbegins : beginsOther ts = false)
    (hheader : readHeader? ts = some (.branch e, [])) (hnext : placeOf indents next = .ok .deeper)
    (hhere : placeOf ((next.column, next.narrowColumn) :: indents) next = .ok .here)
    (hyes : readLine owner ((next.column, next.narrowColumn) :: indents) (fuel + 1) next
      (after :: lines) = .ok ([yes], after :: lines))
    (hafter : placeOf ((next.column, next.narrowColumn) :: indents) after = .ok .further)
    (hno : readOtherwise true owner indents (fuel + 3) (after :: lines) = .ok ([], after :: lines))
    (hmore : readBlock owner indents (fuel + 5) (after :: lines) = .ok (more, rest)) :
    readBlock owner indents (fuel + 6) (line :: next :: after :: lines) =
      .ok (.branch e [yes] [] :: more, rest) := by
  have hblock := readBlock_line [yes] [] hhere hyes (readBlock_end hafter)
  exact readBlock_line [.branch e [yes] []] more hplace ((readLine_headed hts hbegins hheader).trans
    (readHeaded_branch ((readSuite_block hnext).trans hblock) hno)) hmore

end Blocks

/-! ## The functions that dispatch -/

/-- The statement that the lines of a function in a class are read as. -/
def readFunction? (owner : String) (lines : List String) : Option Statement :=
  match readBlock (some owner) [(4, 4), (0, 0)] (6 * (linesOf (codeOf lines)).length + 8)
    (linesOf (codeOf lines)) with
  | .ok ([s], []) => some s
  | _ => none

theorem readFunction?_eq {owner : String} {lines : List String} {ls : List Line} {s : Statement}
    (hlines : linesOf (codeOf lines) = ls)
    (hread : readBlock (some owner) [(4, 4), (0, 0)] (6 * ls.length + 8) ls = .ok ([s], [])) :
    readFunction? owner lines = some s := by
  rw [readFunction?, hlines, hread]

/-- What the function of a parser is read as, in a class of any name. -/
theorem readFunction?_forwardLines (owner : String) :
    readFunction? owner forwardLines =
      some (.define false "do_action" { plain := forwardParameters } [] [] [] forwardBody) := by
  refine readFunction?_eq linesOf_forwardLines ?_
  refine readBlock_line _ [] rfl ((readLine_headed rfl rfl rfl).trans
    (readHeaded_define ((readSuite_block rfl).trans ?_))) readBlock_nil
  refine readBlock_line (forwardBody.take 1) _ rfl (readLine_simple rfl rfl rfl rfl) ?_
  exact readBlock_line (forwardBody.drop 1) [] rfl (readLine_simple rfl rfl rfl rfl) readBlock_nil

/-- What the function of the actions is read as. The type of the stack makes no difference to what
it does. -/
theorem readFunction?_dispatchLines (genericStack : Bool) :
    ∃ types, readFunction? (internal "actions") (dispatchLines genericStack) =
      some (.define false (internal "do_action") { plain := dispatchParameters } [] [] types
        dispatchBody) := by
  have hheader : ∃ types, readHeader? ((dispatchHeader
      (if genericStack then [.name "List", .mark "[", .name "Symbol", .mark "]"]
        else [.name "list"])).tokens.map (Token.ownedBy (some (internal "actions")))) =
      some (.define false (internal "do_action") { plain := dispatchParameters } [] types, []) := by
    cases genericStack
    · exact ⟨_, rfl⟩
    · exact ⟨_, rfl⟩
  obtain ⟨types, hheader⟩ := hheader
  refine ⟨types, readFunction?_eq (linesOf_dispatchLines genericStack) ?_⟩
  refine readBlock_line _ [] rfl ((readLine_headed rfl rfl hheader).trans
    (readHeaded_define ((readSuite_block rfl).trans ?_))) readBlock_nil
  refine readBlock_line (dispatchBody.take 1) _ rfl (readLine_simple rfl rfl rfl rfl) ?_
  refine readBlock_line ((dispatchBody.drop 1).take 1) _ rfl
    (readLine_simple rfl rfl rfl rfl) ?_
  refine readBlock_branch lookUp _ rfl rfl rfl rfl rfl rfl (readLine_simple rfl rfl rfl rfl) rfl
    rfl ?_
  refine readBlock_branch refuse _ rfl rfl rfl rfl rfl rfl (readLine_simple rfl rfl rfl rfl) rfl
    rfl ?_
  exact readBlock_line (dispatchBody.drop 4) [] rfl (readLine_simple rfl rfl rfl rfl) readBlock_nil

/-! ## The functions that start a parser -/

/-- The body of the function that makes the actions of a parser. -/
def initBody : List Statement := [
  .compute (.constant (.text "Action encapsulation object initializer.")),
  .assign [.attribute (.name "self") "action_obj"]
    (.call (.name (internal "actions")) [.name "self"])]

/-- What the function that makes the actions is read as. -/
theorem readFunction?_initLines (owner : String) :
    readFunction? owner initLines =
      some (.define false "init_actions" { plain := ["self"] } [] [] [] initBody) := by
  refine readFunction?_eq linesOf_initLines ?_
  refine readBlock_line _ [] rfl ((readLine_headed rfl rfl rfl).trans
    (readHeaded_define ((readSuite_block rfl).trans ?_))) readBlock_nil
  refine readBlock_line (initBody.take 1) _ rfl (readLine_simple rfl rfl rfl rfl) ?_
  exact readBlock_line (initBody.drop 1) [] rfl (readLine_simple rfl rfl rfl rfl) readBlock_nil

/-- The start that a parser has from its base. -/
def superStart (args : List Expr) : Statement :=
  .compute (.call (.attribute (.call (.name "super") []) startName) args)

/-- The body of the function that starts a parser. -/
def constructorBody (suppressScanner : Bool) : List Statement :=
  if suppressScanner then [.compute (.constant (.text "Default constructor.")), superStart []]
  else [.compute (.constant (.text "Default constructor, optionally setting the default scanner.")),
    superStart [.name "scanner", .name "symbol_factory"]]

/-- The parameters of this function. -/
def constructorParameters (suppressScanner : Bool) : Parameters :=
  if suppressScanner then { plain := ["self"] }
  else { plain := ["self", "scanner", "symbol_factory"], optional := ["scanner", "symbol_factory"] }

/-- The defaults of these parameters. -/
def constructorDefaults (suppressScanner : Bool) : List Constant :=
  if suppressScanner then [] else [.null, .null]

/-- What the function that starts a parser is read as. -/
theorem readFunction?_constructorLines (c : Config) (owner : String) :
    readFunction? owner (ParserModule.constructorLines c) =
      some (.define false startName (constructorParameters c.suppressScanner) []
        ((constructorDefaults c.suppressScanner).map .constant) []
        (constructorBody c.suppressScanner)) := by
  refine readFunction?_eq (linesOf_constructorLines c) ?_
  cases c.suppressScanner with
  | true =>
      refine readBlock_line _ [] rfl ((readLine_headed rfl rfl rfl).trans
        (readHeaded_define ((readSuite_block rfl).trans ?_))) readBlock_nil
      refine readBlock_line ((constructorBody true).take 1) _ rfl
        (readLine_simple rfl rfl rfl rfl) ?_
      exact readBlock_line ((constructorBody true).drop 1) [] rfl
        (readLine_simple rfl rfl rfl rfl) readBlock_nil
  | false =>
      refine readBlock_line _ [] rfl ((readLine_headed rfl rfl rfl).trans
        (readHeaded_define ((readSuite_block rfl).trans ?_))) readBlock_nil
      refine readBlock_line ((constructorBody false).take 1) _ rfl
        (readLine_simple rfl rfl rfl rfl) ?_
      exact readBlock_line ((constructorBody false).drop 1) [] rfl
        (readLine_simple rfl rfl rfl rfl) readBlock_nil
/-! ## The table of the methods -/

def startParameters : List String := ["self", "parser"]

/-- The entry of the method of a production. -/
def methodEntry (n : Nat) : Expr :=
  .entry (.constant (.int n)) (.attribute (.name "self") (methodName n))

def startBody (ns : List Nat) : List Statement := [
  .assign [.attribute (.name "self") "parser"] (.name "parser"),
  .assign [.attribute (.name "self") (internal "dispatch")] (.table (ns.map methodEntry))]

section Tables

variable {fuel : Nat} {rest : List Token} {e : Expr}

theorem readEntry?_entryTokens (n : Nat) :
    readEntry? (fuel + 21) (entryTokens n ++ rest) =
      some (methodEntry n, .mark "," :: rest) := by
  rfl

/-- The first entry of the table, before the other ones. -/
theorem readBraces?_entry (n : Nat) :
    readBraces? (fuel + 24) (entryTokens n ++ rest) =
      (readEntries? (fuel + 23) rest).map fun (entries, rest) =>
        (.table (methodEntry n :: entries), rest) := by
  have hbraces : readBraces? (fuel + 24) (entryTokens n ++ rest) =
      (readEntries? (fuel + 23) rest).bind fun (entries, rest) =>
        some (.table (methodEntry n :: entries), rest) := by
    rfl
  rw [hbraces]
  cases readEntries? (fuel + 23) rest <;> rfl

/-- The entries of the table, up to the brace that closes it. -/
theorem readEntries?_entryTokens {ns : List Nat} (hfuel : ns.length + 22 ≤ fuel) :
    readEntries? fuel (ns.flatMap entryTokens ++ [.mark "\x7d"]) =
      some (ns.map methodEntry, []) := by
  induction ns generalizing fuel with
  | nil =>
      obtain ⟨fuel, rfl⟩ := Nat.exists_eq_add_of_le' hfuel
      rfl
  | cons n ns ih =>
      rw [List.length_cons] at hfuel
      obtain ⟨fuel, rfl⟩ := Nat.exists_eq_add_of_le' (show 22 ≤ fuel by omega)
      rw [List.flatMap_cons, List.append_assoc, readEntries?, readEntry?_entryTokens]
      · change (readEntries? (fuel + 21) _ >>= _) = _
        rw [ih (by omega)]
        rfl
      · intro ts hts
        simp [entryTokens] at hts

theorem readBraces?_entryTokens {ns : List Nat} (hfuel : ns.length + 24 ≤ fuel) :
    readBraces? fuel (ns.flatMap entryTokens ++ [.mark "\x7d"]) =
      some (.table (ns.map methodEntry), []) := by
  obtain ⟨fuel, rfl⟩ := Nat.exists_eq_add_of_le' (show 24 ≤ fuel by omega)
  cases ns with
  | nil => rfl
  | cons n ns =>
      rw [List.length_cons] at hfuel
      rw [List.flatMap_cons, List.append_assoc, readBraces?_entry,
        readEntries?_entryTokens (by omega)]
      rfl

/-- A table that is all that follows. -/
theorem readStars?_braces (h : readBraces? (fuel + 1) rest = some (e, [])) :
    readStars? (fuel + 18) (.mark "\x7b" :: rest) = some (e, []) := by
  have hatom : readAtom? (fuel + 2) (.mark "\x7b" :: rest) = some (e, []) := h
  have hprimary : readPrimary? (fuel + 3) (.mark "\x7b" :: rest) = some (e, []) := by
    rw [readPrimary?, hatom]
    rfl
  have hpower : readPower? (fuel + 4) (.mark "\x7b" :: rest) = some (e, []) := by
    rw [readPower?, hprimary]
    · rfl
    · nofun
  have hlevel : ∀ level fuel, level < topLevel →
      readAt? (fuel + 1) (level + 1) (.mark "\x7b" :: rest) = some (e, []) →
      readAt? (fuel + 2) level (.mark "\x7b" :: rest) = some (e, []) := by
    intro level fuel hlevel hnext
    rw [readAt?, if_neg (by omega), hnext]
    rfl
  have htop : readAt? (fuel + 6) 6 (.mark "\x7b" :: rest) = some (e, []) := hpower
  have hoperators : readAt? (fuel + 12) 0 (.mark "\x7b" :: rest) = some (e, []) :=
    hlevel 0 _ (by decide) (hlevel 1 _ (by decide) (hlevel 2 _ (by decide)
      (hlevel 3 _ (by decide) (hlevel 4 _ (by decide) (hlevel 5 _ (by decide) htop)))))
  have hnegation : readNegation? (fuel + 13) (.mark "\x7b" :: rest) = some (e, []) := by
    rw [readNegation?, hoperators]
    · rfl
    · nofun
  have hconjunction : readConjunction? (fuel + 14) (.mark "\x7b" :: rest) = some (e, []) := by
    rw [readConjunction?, hnegation]
    rfl
  have hdisjunction : readDisjunction? (fuel + 15) (.mark "\x7b" :: rest) = some (e, []) := by
    rw [readDisjunction?, hconjunction]
    rfl
  have hexpr : readExpr? (fuel + 16) (.mark "\x7b" :: rest) = some (e, []) := by
    rw [readExpr?, hdisjunction]
    · rfl
    · nofun
  have hitems : readStarItems? (fuel + 17) (.mark "\x7b" :: rest) =
      some (([e], false), []) := by
    rw [readStarItems?, hexpr]
    · rfl
    · simp
  rw [readStars?, hitems]
  rfl

theorem length_le_depthFor (ts : List Token) : ts.length + 48 ≤ depthFor ts := by
  have hsum : ∀ (ts : List Token) (acc : Nat),
      acc + ts.length ≤ (ts.map Token.weight).foldl (· + ·) acc := by
    intro ts
    induction ts with
    | nil => intro acc; exact Nat.le_refl _
    | cons t ts ih =>
        intro acc
        have hweight : 1 ≤ t.weight := by cases t <;> simp [Token.weight]
        have hrest := ih (acc + t.weight)
        rw [List.map_cons, List.foldl_cons, List.length_cons]
        omega
  have hts := hsum ts 0
  rw [depthFor]
  omega

end Tables

/-- The line of the table assigns it. -/
theorem readStatements?_tableLine (ns : List Nat) :
    readStatements? (tableLine ns).tokens = some ((startBody ns).drop 1) := by
  have htable : readAssigned? (.mark "\x7b" :: (ns.flatMap entryTokens ++ [.mark "\x7d"])) =
      some (.table (ns.map methodEntry), []) := by
    have hdepth := length_le_depthFor
      (.mark "\x7b" :: (ns.flatMap entryTokens ++ [.mark "\x7d"]))
    have hlength : (ns.flatMap entryTokens).length = ns.length * 6 := by
      rw [List.length_flatMap]
      simp [entryTokens]
    rw [List.length_cons, List.length_append, hlength] at hdepth
    obtain ⟨fuel, hfuel⟩ := Nat.exists_eq_add_of_le' (show 18 ≤ depthFor
      (.mark "\x7b" :: (ns.flatMap entryTokens ++ [.mark "\x7d"])) by omega)
    change readStars? (depthFor _) _ = _
    rw [hfuel]
    exact readStars?_braces (readBraces?_entryTokens (by omega))
  have htarget : readAssigned? (tableLine ns).tokens =
      some (.attribute (.name "self") (internal "dispatch"),
        .mark "=" :: .mark "\x7b" :: (ns.flatMap entryTokens ++ [.mark "\x7d"])) := by
    rfl
  have hsimple : readSimple? (tableLine ns).tokens =
      some (.assign [.attribute (.name "self") (internal "dispatch")]
        (.table (ns.map methodEntry)), []) := by
    change readExpression? (tableLine ns).tokens = _
    rw [readExpression?, htarget]
    change readAssignment? ((tableLine ns).tokens.length + 1) _ _ = _
    rw [readAssignment?, htable]
    rfl
  rw [readStatements?, readSimples?, hsimple]
  rfl

theorem privateName_of_bare {owner name : String}
    (h : ['_', '_'].isPrefixOf name.toList = false) : privateName owner name = name := by
  simp [privateName, h]

theorem ownedBy_entryTokens (owner : String) (n : Nat) :
    (entryTokens n).map (Token.ownedBy (some owner)) = entryTokens n := by
  have hmethod : privateName owner (methodName n) = methodName n := by
    refine privateName_of_bare ?_
    rw [methodName_natCast, String.toList_ofList]
    rfl
  have hself : privateName owner "self" = "self" := privateName_of_bare (by decide)
  simp [entryTokens, Token.ownedBy, hmethod, hself]

/-- What the function that starts the actions is read as. -/
theorem readFunction?_startLines {ns : List Nat}
    (hns : ∀ n ∈ ns, (Nat.toDigits 10 n).length ≤ Text.mostDigits) :
    readFunction? (internal "actions") (startLines (ns.map Int.ofNat)) =
      some (.define false startName { plain := startParameters } [] [] [] (startBody ns)) := by
  have htokens : (tableLine ns).tokens.map (Token.ownedBy (some (internal "actions"))) =
      (tableLine ns).tokens := by
    have hentries : (ns.flatMap entryTokens).map (Token.ownedBy (some (internal "actions"))) =
        ns.flatMap entryTokens := by
      rw [List.map_flatMap]
      exact congrArg (ns.flatMap ·) (funext (ownedBy_entryTokens _))
    rw [tableLine, List.map_append, List.map_append, hentries]
    rfl
  refine readFunction?_eq (linesOf_startLines hns) ?_
  refine readBlock_line _ [] rfl ((readLine_headed rfl rfl rfl).trans
    (readHeaded_define ((readSuite_block rfl).trans ?_))) readBlock_nil
  refine readBlock_line ((startBody ns).take 1) _ rfl (readLine_simple rfl rfl rfl rfl) ?_
  exact readBlock_line ((startBody ns).drop 1) [] rfl
    (readLine_simple htokens rfl rfl (readStatements?_tableLine ns)) readBlock_nil

end LalrBackend.Code
