import LalrBackend.Code.Reader

/-!
# Reading simple statements

The tokens of a logical line are read as simple statements with semicolons between them.
-/

namespace LalrBackend.Code

/-- Whether a token ends a simple statement. -/
def Token.endsStatement : Token → Bool
  | .mark s => s == ";"
  | _ => false

/-- Whether a statement may end before tokens. -/
def isEnd (ts : List Token) : Bool :=
  (ts.head?.map Token.endsStatement).getD true

/-- Reads expressions with commas between them. -/
def readGroup? (ts : List Token) : Option (Expr × List Token) :=
  readStars? (depthFor ts) ts

/-- Reads one expression. -/
def readOne? (ts : List Token) : Option (Expr × List Token) :=
  readExpr? (depthFor ts) ts

/-- Reads what may be assigned: expressions, or a value that is given out of the function. -/
def readAssigned? (ts : List Token) : Option (Expr × List Token) :=
  match ts with
  | .keyword "yield" :: rest => readYield? (depthFor ts) rest
  | ts => readGroup? ts

/-- Reads what follows the targets read so far, which are given backwards. -/
def readAssignment? : Nat → List Expr → List Token → Option (Statement × List Token)
  | 0, _, _ => none
  | fuel + 1, targets, ts => do
    match ← readAssigned? ts with
    | (e, .mark "=" :: ts) =>
      if e.isTarget then readAssignment? fuel (e :: targets) ts else none
    | (e, ts) => return (.assign targets.reverse e, ts)

/-- The operator of an assignment that changes a value in place. -/
def augmentation? (s : String) : Option Operator :=
  match s with
  | "+=" => some .add
  | "-=" => some .sub
  | "*=" => some .mul
  | "/=" => some .div
  | "//=" => some .floorDiv
  | "%=" => some .mod
  | "**=" => some .power
  | "@=" => some .matrix
  | "<<=" => some .shiftLeft
  | ">>=" => some .shiftRight
  | "&=" => some .both
  | "|=" => some .either
  | "^=" => some .differ
  | _ => none

/-- Whether tokens begin with a name and a colon. -/
def beginsWithType : List Token → Bool
  | .name _ :: .mark ":" :: _ => true
  | _ => false

/-- Reads what follows the target and the colon of an annotation. -/
def readAnnotation? (target : Expr) (bare : Bool) (ts : List Token) :
    Option (Statement × List Token) := do
  match ← readOne? ts with
  | (type, .mark "=" :: ts) =>
    let (e, ts) ← readAssigned? ts
    return (.annotate target bare type (some e), ts)
  | (type, ts) => return (.annotate target bare type none, ts)

/-- Whether tokens that begin with a parenthesis may be the target of an annotation. If what stands
in the parentheses is a place by itself, nothing but the annotation may follow it. -/
def canBeAnnotated (ts : List Token) : Bool :=
  match ts with
  | .mark "(" :: rest =>
    match readOne? rest with
    | some (e, .mark ")" :: .mark s :: _) => !e.isPlace || s == ":"
    | _ => true
  | _ => true

/-- Reads a statement that begins with an expression. -/
def readExpression? (ts : List Token) : Option (Statement × List Token) := do
  let (e, rest) ← readAssigned? ts
  match rest with
  | .mark "=" :: rest =>
    if e.isTarget then readAssignment? (ts.length + 1) [e] rest else none
  | .mark ":" :: rest =>
    if e.isPlace && canBeAnnotated ts then readAnnotation? e (beginsWithType ts) rest else none
  | .mark s :: after =>
    match augmentation? s with
    | some op =>
      if e.isPlace then
        let (v, rest) ← readAssigned? after
        return (.augment e op v, rest)
      else none
    | none => return (.compute e, rest)
  | rest => return (.compute e, rest)

/-- Reads a name with points in it. -/
def readPath? : List Token → Option (String × List Token)
  | .name n :: .mark "." :: ts => (readPath? ts).map fun (path, ts) => (n ++ "." ++ path, ts)
  | .name n :: ts => some (n, ts)
  | _ => none

/-- Reads the name that something imported goes by. -/
def readAlias? (path : String) (ts : List Token) : Option (Imported × List Token) :=
  match ts with
  | .keyword "as" :: .name n :: ts => some (⟨path, some n⟩, ts)
  | .keyword "as" :: _ => none
  | ts => some (⟨path, none⟩, ts)

/-- Reads the modules of an import. -/
def readModules? : Nat → List Token → Option (List Imported × List Token)
  | 0, _ => none
  | fuel + 1, ts => do
    let (path, ts) ← readPath? ts
    let (m, ts) ← readAlias? path ts
    match ts with
    | .mark "," :: ts =>
      let (ms, ts) ← readModules? fuel ts
      return (m :: ms, ts)
    | ts => return ([m], ts)

/-- Reads the names of an import, in parentheses if `inner`. -/
def readImported? (inner : Bool) : Nat → List Token → Option (List Imported × List Token)
  | 0, _ => none
  | fuel + 1, ts => do
    match ts with
    | .name n :: ts =>
      let (m, ts) ← readAlias? n ts
      match ts with
      | .mark "," :: .mark ")" :: ts => if inner then return ([m], ts) else none
      | .mark "," :: ts =>
        let (ms, ts) ← readImported? inner fuel ts
        return (m :: ms, ts)
      | .mark ")" :: ts => if inner then return ([m], ts) else none
      | ts => if inner then none else return ([m], ts)
    | _ => none

/-- Reads the points in front of the module of an import. -/
def readLevel : List Token → Nat × List Token
  | .mark "." :: ts => let (n, ts) := readLevel ts; (n + 1, ts)
  | .constant .ellipsis :: ts => let (n, ts) := readLevel ts; (n + 3, ts)
  | ts => (0, ts)

/-- Reads an import of names after its first word. -/
def readLoadFrom? (ts : List Token) : Option (Statement × List Token) := do
  let (level, ts) := readLevel ts
  let (path, ts) ←
    match ts with
    | .keyword "import" :: _ => if level = 0 then none else some ("", ts)
    | ts => readPath? ts
  match ts with
  | .keyword "import" :: .mark "*" :: ts => return (.loadFrom level path none, ts)
  | .keyword "import" :: .mark "(" :: ts =>
    let (ms, ts) ← readImported? true (ts.length + 1) ts
    return (.loadFrom level path (some ms), ts)
  | .keyword "import" :: ts =>
    let (ms, ts) ← readImported? false (ts.length + 1) ts
    return (.loadFrom level path (some ms), ts)
  | _ => none

/-- Reads names with commas between them. -/
def readNames? : List Token → Option (List String × List Token)
  | .name n :: .mark "," :: ts => (readNames? ts).map fun (ns, ts) => (n :: ns, ts)
  | .name n :: ts => some ([n], ts)
  | _ => none

/-- The targets that are deleted together. -/
def Expr.deletions : Expr → List Expr
  | .tuple items => items
  | e => [e]

mutual

/-- Whether an expression may be deleted. -/
def Expr.isDeletable : Expr → Bool
  | .name _ => true
  | .attribute _ _ => true
  | .item _ _ => true
  | .list items => areDeletable items
  | .tuple items => areDeletable items
  | _ => false

/-- Whether all of some expressions may be deleted. -/
def areDeletable : List Expr → Bool
  | [] => true
  | e :: es => e.isDeletable && areDeletable es

end

/-- Reads an exception that is raised, after its first word. -/
def readRaise? (ts : List Token) : Option (Statement × List Token) :=
  if isEnd ts then some (.raise none none, ts)
  else do
    match ← readOne? ts with
    | (e, .keyword "from" :: ts) =>
      let (cause, ts) ← readOne? ts
      return (.raise (some e) (some cause), ts)
    | (e, ts) => return (.raise (some e) none, ts)

/-- Reads a claim after its first word. -/
def readClaim? (ts : List Token) : Option (Statement × List Token) := do
  match ← readOne? ts with
  | (e, .mark "," :: ts) =>
    let (otherwise, ts) ← readOne? ts
    return (.claim e (some otherwise), ts)
  | (e, ts) => return (.claim e none, ts)

/-- Reads a simple statement. -/
def readSimple? (ts : List Token) : Option (Statement × List Token) :=
  match ts with
  | .keyword "pass" :: ts => some (.pass, ts)
  | .keyword "break" :: ts => some (.leaveLoop, ts)
  | .keyword "continue" :: ts => some (.nextRound, ts)
  | .keyword "return" :: ts =>
    if isEnd ts then some (.giveBack none, ts)
    else (readGroup? ts).map fun (e, ts) => (.giveBack (some e), ts)
  | .keyword "raise" :: ts => readRaise? ts
  | .keyword "assert" :: ts => readClaim? ts
  | .keyword "del" :: ts => do
    let (e, ts) ← readGroup? ts
    if e.isDeletable then return (.delete e.deletions, ts) else none
  | .keyword "import" :: ts =>
    (readModules? (ts.length + 1) ts).map fun (ms, ts) => (.load ms, ts)
  | .keyword "from" :: ts => readLoadFrom? ts
  | .keyword "global" :: ts => (readNames? ts).map fun (ns, ts) => (.makeGlobal ns, ts)
  | .keyword "nonlocal" :: ts => (readNames? ts).map fun (ns, ts) => (.makeOuter ns, ts)
  | ts => readExpression? ts

/-- Reads simple statements with semicolons between them; one may end the line. -/
def readSimples? : Nat → List Token → Option (List Statement)
  | 0, _ => none
  | fuel + 1, ts => do
    let (s, ts) ← readSimple? ts
    match ts with
    | [] => return [s]
    | [t] => if t.endsStatement then return [s] else none
    | t :: ts => if t.endsStatement then return s :: (← readSimples? fuel ts) else none

/-- Reads the tokens of a line as simple statements. -/
def readStatements? (ts : List Token) : Option (List Statement) :=
  readSimples? (ts.length + 1) ts

end LalrBackend.Code
