import LalrBackend.Code.Formatted
import LalrBackend.Code.Syntax
import LalrBackend.Code.Token

/-!
# Reading expressions

Expressions are read from the tokens of a logical line. A reader of a part gives what it read with
the tokens that follow, or nothing if the tokens do not fit. The number that the readers carry
bounds how long they go on; `depthFor` gives one that is always enough.
-/

namespace LalrBackend.Code

/-! ## Levels

Operators bind on levels: a choice between two values the least, a product the most. -/

/-- The operator of a mark between two expressions on a level. -/
def operatorAt? (level : Nat) (s : String) : Option Operator :=
  match level, s with
  | 0, "|" => some .either
  | 1, "^" => some .differ
  | 2, "&" => some .both
  | 3, "<<" => some .shiftLeft
  | 3, ">>" => some .shiftRight
  | 4, "+" => some .add
  | 4, "-" => some .sub
  | 5, "*" => some .mul
  | 5, "/" => some .div
  | 5, "//" => some .floorDiv
  | 5, "%" => some .mod
  | 5, "@" => some .matrix
  | _, _ => none

/-- The level above all operators between two expressions. -/
def topLevel : Nat := 6

/-- The operator of a mark before an expression. -/
def signOperator? (s : String) : Option SignOperator :=
  match s with
  | "+" => some .plus
  | "-" => some .minus
  | "~" => some .invert
  | _ => none

/-- The comparison at the front of tokens. -/
def comparison? (ts : List Token) : Option (Comparison × List Token) :=
  match ts with
  | .mark "==" :: ts => some (.equal, ts)
  | .mark "!=" :: ts => some (.different, ts)
  | .mark "<" :: ts => some (.less, ts)
  | .mark "<=" :: ts => some (.atMost, ts)
  | .mark ">" :: ts => some (.greater, ts)
  | .mark ">=" :: ts => some (.atLeast, ts)
  | .keyword "is" :: .keyword "not" :: ts => some (.notSame, ts)
  | .keyword "is" :: ts => some (.same, ts)
  | .keyword "in" :: ts => some (.among, ts)
  | .keyword "not" :: .keyword "in" :: ts => some (.notAmong, ts)
  | _ => none

/-! ## Targets -/

mutual

/-- Whether an expression may be assigned to. -/
def Expr.isTarget : Expr → Bool
  | .name _ => true
  | .attribute _ _ => true
  | .item _ _ => true
  | .list items => areTargets items
  | .tuple items => areTargets items
  | .spread e =>
    match e with
    | .spread _ => false
    | e => e.isTarget
  | _ => false

/-- Whether all of some expressions may be assigned to. -/
def areTargets : List Expr → Bool
  | [] => true
  | e :: es => e.isTarget && areTargets es

end

/-- Whether an expression is a single place: a name, an attribute or an item. -/
def Expr.isPlace : Expr → Bool
  | .name _ => true
  | .attribute _ _ => true
  | .item _ _ => true
  | _ => false

/-! ## Parts of texts -/

/-- Joins the pieces of adjacent texts. Bytes stand with bytes only. -/
def joinTexts? : List Expr → Option Expr
  | [] => none
  | [e] => some e
  | e :: es => do
    let rest ← joinTexts? es
    match e, rest with
    | .constant (.bytes a), .constant (.bytes b) => return .constant (.bytes (a ++ b))
    | .constant (.bytes _), _ => none
    | _, .constant (.bytes _) => none
    | .constant (.text a), .constant (.text b) => return .constant (.text (a ++ b))
    | a, .formatted parts => return .formatted (a :: parts)
    | a, b => return .formatted [a, b]

/-- The items of a group: one item without a comma is no group. -/
def groupOf (items : List Expr) (comma : Bool) : Expr :=
  match items, comma with
  | [e], false => e
  | es, _ => .tuple es

/-- Whether items that are given by parentheses are what may stand there: one that is spread stands
in a group only. -/
def isGroup (items : List Expr) (comma : Bool) : Bool :=
  match items, comma with
  | [.spread _], false => false
  | _, _ => true

/-- Whether tokens begin with a name that is bound within an expression. -/
def beginsBinding : List Token → Bool
  | .name _ :: .mark s :: _ => s == ":="
  | _ => false

/-- The nothing that stands for a part that is left out. -/
def leftOut : Expr := .constant .null

/-- What kind of argument was read last. -/
inductive ArgumentKind where
  | none
  | plain
  | named
  | table
  deriving Repr, DecidableEq

/-- What stands before a parameter: how many plain ones, a slash, a star or what is marked by one, and
defaults of plain parameters. -/
structure ParametersBefore where
  plain : Nat := 0
  parted : Bool := false
  starred : Bool := false
  defaulted : Bool := false

/-- Whether a slash may stand after parameters. -/
def ParametersBefore.mayPart (b : ParametersBefore) : Bool :=
  0 < b.plain && !b.parted && !b.starred

mutual

/-- Reads an expression: a choice by a condition, or a function without a name. -/
def readExpr? : Nat → List Token → Option (Expr × List Token)
  | 0, _ => none
  | fuel + 1, ts =>
    match ts with
    | .keyword "lambda" :: ts => do
      let ((ps, defaults, _), ts) ← readParameters? fuel ":" {} ts
      let (body, ts) ← readExpr? fuel ts
      return (.lambda ps defaults body, ts)
    | ts => do
      let (yes, ts) ← readDisjunction? fuel ts
      match ts with
      | .keyword "if" :: ts =>
        let (condition, ts) ← readDisjunction? fuel ts
        match ts with
        | .keyword "else" :: ts =>
          let (no, ts) ← readExpr? fuel ts
          return (.choose condition yes no, ts)
        | _ => none
      | ts => return (yes, ts)

/-- Reads the parameters of a function up to the mark that ends them, with the defaults and the
types, given what stands before them. After the first default all plain ones have one. A slash parts
plain ones from others once. Types stand between parentheses only. -/
def readParameters? : Nat → String → ParametersBefore → List Token →
    Option ((Parameters × List Expr × List Expr) × List Token)
  | 0, _, _, _ => none
  | fuel + 1, close, before, ts =>
    match ts with
    | .mark s :: rest =>
      if s = close then some (({}, [], []), rest)
      else if s = "**" then
        match rest with
        | .name n :: rest => do
          let (types, rest) ← readType? fuel close rest
          let rest ← readParameterEnd? fuel close rest
          if (rest.head?.map (Token.isMark close)).getD false then
            return (({ restNamed := some n }, [], types), rest.drop 1)
          else none
        | _ => none
      else if s = "*" ∧ !before.starred then
        match rest with
        | .name n :: rest => do
          let (types, rest) ← readRestType? fuel close rest
          let rest ← readParameterEnd? fuel close rest
          let ((ps, ds, more), rest) ←
            readParameters? fuel close { before with starred := true } rest
          return (({ ps with rest := some n }, ds, types ++ more), rest)
        | .mark "," :: .name n :: rest =>
          readParameters? fuel close { before with starred := true } (.name n :: rest)
        | _ => none
      else if s = "/" ∧ before.mayPart then do
        let rest ← readParameterEnd? fuel close rest
        let ((ps, more), rest) ← readParameters? fuel close { before with parted := true } rest
        return (({ ps with placed := before.plain }, more), rest)
      else none
    | .name n :: rest => do
      let (types, rest) ← readType? fuel close rest
      let (value, rest) ← readDefault? fuel rest
      if before.defaulted ∧ !before.starred ∧ value.isEmpty then none
      let rest ← readParameterEnd? fuel close rest
      let next :=
        { before with plain := before.plain + 1, defaulted := before.defaulted || !value.isEmpty }
      let ((ps, ds, more), rest) ← readParameters? fuel close next rest
      let ps :=
        if before.starred then { ps with named := n :: ps.named }
        else { ps with plain := n :: ps.plain }
      let ps := if value.isEmpty then ps else { ps with optional := n :: ps.optional }
      return ((ps, value ++ ds, types ++ more), rest)
    | _ => none

/-- Reads the type of a parameter, if it has one. -/
def readType? : Nat → String → List Token → Option (List Expr × List Token)
  | 0, _, _ => none
  | fuel + 1, close, ts =>
    match ts with
    | .mark ":" :: rest =>
      if close = ":" then some ([], ts)
      else (readExpr? fuel rest).map fun (e, rest) => ([e], rest)
    | ts => some ([], ts)

/-- Reads the type of the parameter that takes all further positions, if it has one. It may be
spread. -/
def readRestType? : Nat → String → List Token → Option (List Expr × List Token)
  | 0, _, _ => none
  | fuel + 1, close, ts =>
    match ts with
    | .mark ":" :: .mark "*" :: rest =>
      if close = ":" then some ([], ts)
      else (readAt? fuel 0 rest).map fun (e, rest) => ([.tuple [.spread e]], rest)
    | ts => readType? fuel close ts

/-- Reads the default of a parameter, if it has one. -/
def readDefault? : Nat → List Token → Option (List Expr × List Token)
  | 0, _ => none
  | fuel + 1, .mark "=" :: ts => (readExpr? fuel ts).map fun (e, ts) => ([e], ts)
  | _ + 1, ts => some ([], ts)

/-- Reads the comma after a parameter, which may be missing after the last one. -/
def readParameterEnd? : Nat → String → List Token → Option (List Token)
  | 0, _, _ => none
  | _ + 1, close, ts =>
    match ts with
    | .mark s :: rest =>
      if s = "," then some rest else if s = close then some ts else none
    | _ => none

/-- Reads alternatives. -/
def readDisjunction? : Nat → List Token → Option (Expr × List Token)
  | 0, _ => none
  | fuel + 1, ts => do
    let (a, ts) ← readConjunction? fuel ts
    match ts with
    | .keyword "or" :: ts =>
      let (b, ts) ← readDisjunction? fuel ts
      return (.disjunction a b, ts)
    | ts => return (a, ts)

/-- Reads conditions that hold together. -/
def readConjunction? : Nat → List Token → Option (Expr × List Token)
  | 0, _ => none
  | fuel + 1, ts => do
    let (a, ts) ← readNegation? fuel ts
    match ts with
    | .keyword "and" :: ts =>
      let (b, ts) ← readConjunction? fuel ts
      return (.conjunction a b, ts)
    | ts => return (a, ts)

/-- Reads a negation or a comparison. -/
def readNegation? : Nat → List Token → Option (Expr × List Token)
  | 0, _ => none
  | fuel + 1, .keyword "not" :: ts =>
    (readNegation? fuel ts).map fun (e, ts) => (.negation e, ts)
  | fuel + 1, ts => do
    let (a, ts) ← readAt? fuel 0 ts
    let ((ops, es), ts) ← readComparisons? fuel ts
    return (if ops.isEmpty then a else .compare a ops es, ts)

/-- Reads comparisons with what follows them. -/
def readComparisons? : Nat → List Token → Option ((List Comparison × List Expr) × List Token)
  | 0, _ => none
  | fuel + 1, ts =>
    match comparison? ts with
    | none => some (([], []), ts)
    | some (op, ts) => do
      let (e, ts) ← readAt? fuel 0 ts
      let ((ops, es), ts) ← readComparisons? fuel ts
      return ((op :: ops, e :: es), ts)

/-- Reads an expression whose operators bind at a level or above it. -/
def readAt? : Nat → Nat → List Token → Option (Expr × List Token)
  | 0, _, _ => none
  | fuel + 1, level, ts =>
    if topLevel ≤ level then readSigned? fuel ts
    else do
      let (a, ts) ← readAt? fuel (level + 1) ts
      readOperands? fuel level a ts

/-- Reads the operators of a level with their operands, after the first operand. -/
def readOperands? : Nat → Nat → Expr → List Token → Option (Expr × List Token)
  | 0, _, _, _ => none
  | fuel + 1, level, a, ts =>
    match ts with
    | .mark s :: rest =>
      match operatorAt? level s with
      | some op =>
        match readAt? fuel (level + 1) rest with
        | some (b, rest) => readOperands? fuel level (.binary op a b) rest
        | none => none
      | none => some (a, ts)
    | _ => some (a, ts)

/-- Reads an expression after its signs, perhaps with a power. -/
def readSigned? : Nat → List Token → Option (Expr × List Token)
  | 0, _ => none
  | fuel + 1, ts =>
    match ts with
    | .mark s :: rest =>
      match signOperator? s with
      | some op => (readSigned? fuel rest).map fun (e, ts) => (.sign op e, ts)
      | none => readPower? fuel ts
    | _ => readPower? fuel ts

/-- Reads a primary, perhaps with a power. -/
def readPower? : Nat → List Token → Option (Expr × List Token)
  | 0, _ => none
  | fuel + 1, ts => do
    let (e, ts) ←
      match ts with
      | .keyword "await" :: ts => (readPrimary? fuel ts).map fun (e, ts) => (.await e, ts)
      | ts => readPrimary? fuel ts
    match ts with
    | .mark "**" :: ts =>
      let (b, ts) ← readSigned? fuel ts
      return (.binary .power e b, ts)
    | ts => return (e, ts)

/-- Reads an atom and what belongs to it. -/
def readPrimary? : Nat → List Token → Option (Expr × List Token)
  | 0, _ => none
  | fuel + 1, ts => do
    let (e, ts) ← readAtom? fuel ts
    readTrailers? fuel e ts

/-- Reads an expression that needs no parentheses. -/
def readAtom? : Nat → List Token → Option (Expr × List Token)
  | 0, _ => none
  | fuel + 1, ts =>
    match ts with
    | .name n :: ts => some (.name n, ts)
    | .constant (.text _) :: _ => readTexts? fuel ts
    | .constant (.bytes _) :: _ => readTexts? fuel ts
    | .formatted _ _ :: _ => readTexts? fuel ts
    | .constant c :: ts => some (.constant c, ts)
    | .keyword word :: ts => (Constant.ofWord? word).map fun c => (.constant c, ts)
    | .mark "[" :: ts => do
      let ((items, comma), ts) ← readItems? fuel "]" ts
      match items, comma, ts with
      | [e], false, .keyword _ :: _ => do
        let (e, ts) ← readGathering? fuel .list e "]" ts
        return (e, ts)
      | items, _, .mark "]" :: ts => return (.list items, ts)
      | _, _, _ => none
    | .mark "(" :: .keyword "yield" :: ts => do
      let (e, ts) ← readYield? fuel ts
      match ts with
      | .mark ")" :: ts => return (e, ts)
      | _ => none
    | .mark "(" :: ts => do
      let ((items, comma), ts) ← readItems? fuel ")" ts
      match items, comma, ts with
      | [e], false, .keyword _ :: _ => do
        let (e, ts) ← readGathering? fuel .stream e ")" ts
        return (e, ts)
      | items, comma, .mark ")" :: ts =>
        if isGroup items comma then return (groupOf items comma, ts) else none
      | _, _, _ => none
    | .mark "\x7b" :: ts => readBraces? fuel ts
    | _ => none

/-- Reads adjacent texts. -/
def readTexts? : Nat → List Token → Option (Expr × List Token)
  | 0, _ => none
  | fuel + 1, ts => do
    let (es, ts) ← readTextParts? fuel ts
    return (← joinTexts? es, ts)

/-- Reads the texts at the front. -/
def readTextParts? : Nat → List Token → Option (List Expr × List Token)
  | 0, _ => none
  | fuel + 1, ts =>
    match ts with
    | .constant (.text s) :: ts =>
      (readTextParts? fuel ts).map fun (es, ts) => (.constant (.text s) :: es, ts)
    | .constant (.bytes bs) :: ts =>
      (readTextParts? fuel ts).map fun (es, ts) => (.constant (.bytes bs) :: es, ts)
    | .formatted raw body :: ts => do
      let parts ← readPieces? fuel (← piecesOf? raw body)
      let (es, ts) ← readTextParts? fuel ts
      return (.formatted parts :: es, ts)
    | ts => some ([], ts)

/-- Reads the expressions of the pieces of a formatted text. -/
def readPieces? : Nat → List Piece → Option (List Expr)
  | 0, _ => none
  | _, [] => some []
  | fuel + 1, .literal s :: ps => do
    return .constant (.text s) :: (← readPieces? fuel ps)
  | fuel + 1, .field code _ format :: ps => do
    match ← readStars? fuel (.mark "(" :: innerTokens code ++ [.mark ")"]) with
    | (e, []) => return e :: (← readPieces? fuel format) ++ (← readPieces? fuel ps)
    | _ => none

/-- Reads what follows an opening brace: the items of a set or the entries of a table. -/
def readBraces? : Nat → List Token → Option (Expr × List Token)
  | 0, _ => none
  | fuel + 1, ts =>
    match ts with
    | .mark "\x7d" :: ts => some (.table [], ts)
    | .mark "**" :: _ => do
      let (entries, ts) ← readEntries? fuel ts
      return (.table entries, ts)
    | ts => do
      let bare := !beginsBinding ts
      let (e, ts) ← readStarNamed? fuel ts
      match e, ts with
      | .spread _, .mark ":" :: _ => none
      | k, .mark ":" :: ts =>
        if !bare then none
        let (v, ts) ← readExpr? fuel ts
        match ts with
        | .keyword _ :: _ => readGathering? fuel .table (.entry k v) "\x7d" ts
        | .mark "," :: ts =>
          let (entries, ts) ← readEntries? fuel ts
          return (.table (.entry k v :: entries), ts)
        | .mark "\x7d" :: ts => return (.table [.entry k v], ts)
        | _ => none
      | e, .keyword _ :: _ => readGathering? fuel .set e "\x7d" ts
      | e, .mark "," :: ts =>
        let ((items, _), ts) ← readItems? fuel "\x7d" ts
        match ts with
        | .mark "\x7d" :: ts => return (.set (e :: items), ts)
        | _ => none
      | e, .mark "\x7d" :: ts => return (.set [e], ts)
      | _, _ => none

/-- Reads the entries of a table up to the brace that closes it. -/
def readEntries? : Nat → List Token → Option (List Expr × List Token)
  | 0, _ => none
  | fuel + 1, ts =>
    match ts with
    | .mark "\x7d" :: ts => some ([], ts)
    | ts => do
      let (e, ts) ← readEntry? fuel ts
      match ts with
      | .mark "," :: ts =>
        let (es, ts) ← readEntries? fuel ts
        return (e :: es, ts)
      | .mark "\x7d" :: ts => return ([e], ts)
      | _ => none

/-- Reads an entry of a table. -/
def readEntry? : Nat → List Token → Option (Expr × List Token)
  | 0, _ => none
  | fuel + 1, ts =>
    match ts with
    | .mark "**" :: ts => (readAt? fuel 0 ts).map fun (e, ts) => (.spreadEntries e, ts)
    | ts => do
      let (k, ts) ← readExpr? fuel ts
      match ts with
      | .mark ":" :: ts =>
        let (v, ts) ← readExpr? fuel ts
        return (.entry k v, ts)
      | _ => none

/-- Reads items up to the mark that closes them, which is left, or up to a word that begins the
clauses of a gathering. Tells whether a comma follows one of them. -/
def readItems? : Nat → String → List Token → Option ((List Expr × Bool) × List Token)
  | 0, _, _ => none
  | fuel + 1, close, ts =>
    if (ts.head?.map (Token.isMark close)).getD false then some (([], false), ts)
    else do
      let (e, ts) ← readStarNamed? fuel ts
      match ts with
      | .mark "," :: ts =>
        let ((es, _), ts) ← readItems? fuel close ts
        return ((e :: es, true), ts)
      | ts => return (([e], false), ts)

/-- Reads an expression that may bind a name, or one that is spread. -/
def readStarNamed? : Nat → List Token → Option (Expr × List Token)
  | 0, _ => none
  | fuel + 1, .mark "*" :: ts => (readAt? fuel 0 ts).map fun (e, ts) => (.spread e, ts)
  | fuel + 1, ts => readNamed? fuel ts

/-- Reads an expression that may bind a name. -/
def readNamed? : Nat → List Token → Option (Expr × List Token)
  | 0, _ => none
  | fuel + 1, .name n :: .mark ":=" :: ts =>
    (readExpr? fuel ts).map fun (e, ts) => (.bind n e, ts)
  | fuel + 1, ts => readExpr? fuel ts

/-- Reads the clauses of a gathering up to the mark that closes it. -/
def readGathering? : Nat → Gathering → Expr → String → List Token → Option (Expr × List Token)
  | 0, _, _, _, _ => none
  | fuel + 1, kind, element, close, ts => do
    match element with
    | .spread _ => none
    | element =>
      let (clauses, ts) ← readClauses? fuel ts
      match ts with
      | .mark s :: ts =>
        if s = close ∧ !clauses.isEmpty then return (.gather kind element clauses, ts) else none
      | _ => none

/-- Reads clauses. -/
def readClauses? : Nat → List Token → Option (List Expr × List Token)
  | 0, _ => none
  | fuel + 1, ts =>
    match ts with
    | .keyword "async" :: .keyword "for" :: ts => readClause? fuel true ts
    | .keyword "for" :: ts => readClause? fuel false ts
    | ts => some ([], ts)

/-- Reads a clause after its first word, with its conditions and the clauses that follow. -/
def readClause? : Nat → Bool → List Token → Option (List Expr × List Token)
  | 0, _, _ => none
  | fuel + 1, isAsync, ts => do
    let (target, ts) ← readTargets? fuel ts
    if !target.isTarget then none
    match ts with
    | .keyword "in" :: ts =>
      let (source, ts) ← readDisjunction? fuel ts
      let (conditions, ts) ← readConditions? fuel ts
      let (clauses, ts) ← readClauses? fuel ts
      return (.forEach isAsync target source :: conditions ++ clauses, ts)
    | _ => none

/-- Reads the conditions of a clause. -/
def readConditions? : Nat → List Token → Option (List Expr × List Token)
  | 0, _ => none
  | fuel + 1, .keyword "if" :: ts => do
    let (e, ts) ← readDisjunction? fuel ts
    let (es, ts) ← readConditions? fuel ts
    return (.onlyIf e :: es, ts)
  | _ + 1, ts => some ([], ts)

/-- Reads targets with commas between them up to a word. -/
def readTargets? : Nat → List Token → Option (Expr × List Token)
  | 0, _ => none
  | fuel + 1, ts => do
    let ((items, comma), ts) ← readTargetItems? fuel ts
    return (groupOf items comma, ts)

/-- Reads the items of targets. -/
def readTargetItems? : Nat → List Token → Option ((List Expr × Bool) × List Token)
  | 0, _ => none
  | fuel + 1, ts => do
    let (e, ts) ←
      match ts with
      | .mark "*" :: ts => (readAt? fuel 0 ts).map fun (e, ts) => (.spread e, ts)
      | ts => readAt? fuel 0 ts
    match ts with
    | .mark "," :: .keyword w :: ts => return (([e], true), .keyword w :: ts)
    | .mark "," :: ts =>
      let ((es, _), ts) ← readTargetItems? fuel ts
      return ((e :: es, true), ts)
    | ts => return (([e], false), ts)

/-- Reads what may follow an atom: attributes, items and arguments. -/
def readTrailers? : Nat → Expr → List Token → Option (Expr × List Token)
  | 0, _, _ => none
  | fuel + 1, e, ts =>
    match ts with
    | .mark "." :: .name n :: ts => readTrailers? fuel (.attribute e n) ts
    | .mark "." :: _ => none
    | .mark "[" :: ts => do
      let ((items, comma), ts) ← readSlices? fuel ts
      if items.isEmpty then none
      else
        let index :=
          match items, comma with
          | [.spread e], _ => .tuple [.spread e]
          | items, comma => groupOf items comma
        readTrailers? fuel (.item e index) ts
    | .mark "(" :: ts => do
      let (args, ts) ← readArguments? fuel .none ts
      readTrailers? fuel (.call e args) ts
    | ts => some (e, ts)

/-- Reads slices up to the bracket that closes them. -/
def readSlices? : Nat → List Token → Option ((List Expr × Bool) × List Token)
  | 0, _ => none
  | fuel + 1, ts =>
    match ts with
    | .mark "]" :: ts => some (([], false), ts)
    | ts => do
      let (e, ts) ← readSlice? fuel ts
      match ts with
      | .mark "," :: ts =>
        let ((es, _), ts) ← readSlices? fuel ts
        return ((e :: es, true), ts)
      | .mark "]" :: ts => return (([e], false), ts)
      | _ => none

/-- Reads an index or a slice. -/
def readSlice? : Nat → List Token → Option (Expr × List Token)
  | 0, _ => none
  | fuel + 1, ts => do
    match ts with
    | .mark ":" :: ts =>
      let (stop, ts) ← readBound? fuel ts
      let (step, ts) ← readStep? fuel ts
      return (.slice leftOut stop step, ts)
    | .mark "*" :: ts => (readExpr? fuel ts).map fun (e, ts) => (.spread e, ts)
    | ts =>
      let bare := !beginsBinding ts
      let (e, ts) ← readNamed? fuel ts
      match e, ts with
      | start, .mark ":" :: ts =>
        if !bare then none
        let (stop, ts) ← readBound? fuel ts
        let (step, ts) ← readStep? fuel ts
        return (.slice start stop step, ts)
      | e, ts => return (e, ts)

/-- Reads a bound of a slice, which may be left out. -/
def readBound? : Nat → List Token → Option (Expr × List Token)
  | 0, _ => none
  | fuel + 1, ts =>
    match ts with
    | .mark s :: _ =>
      if s = ":" ∨ s = "]" ∨ s = "," then some (leftOut, ts) else readExpr? fuel ts
    | ts => readExpr? fuel ts

/-- Reads the step of a slice. -/
def readStep? : Nat → List Token → Option (Expr × List Token)
  | 0, _ => none
  | fuel + 1, .mark ":" :: ts => readBound? fuel ts
  | _ + 1, ts => some (leftOut, ts)

/-- Reads arguments up to the parenthesis that closes them. No argument by position follows one by
name, and no list of arguments follows a table of them. -/
def readArguments? : Nat → ArgumentKind → List Token → Option (List Expr × List Token)
  | 0, _, _ => none
  | fuel + 1, kind, ts =>
    match ts with
    | .mark ")" :: ts => some ([], ts)
    | .mark "**" :: ts => do
      let (e, ts) ← readExpr? fuel ts
      readMoreArguments? fuel .table (.spreadEntries e) ts
    | .mark "*" :: ts => do
      if kind = .table then none
      let (e, ts) ← readExpr? fuel ts
      readMoreArguments? fuel (if kind = .none then .plain else kind) (.spread e) ts
    | .name n :: .mark "=" :: ts => do
      let (e, ts) ← readExpr? fuel ts
      readMoreArguments? fuel (if kind = .table then .table else .named) (.argument n e) ts
    | ts => do
      if kind ≠ .none ∧ kind ≠ .plain then none
      let (e, ts) ← readNamed? fuel ts
      match ts with
      | .keyword _ :: _ =>
        if kind ≠ .none then none
        let (g, rest) ← readGathering? fuel .stream e ")" ts
        return ([g], rest)
      | ts => readMoreArguments? fuel .plain e ts

/-- Reads what follows an argument. A stream that is gathered stands alone or in parentheses. -/
def readMoreArguments? : Nat → ArgumentKind → Expr → List Token →
    Option (List Expr × List Token)
  | 0, _, _, _ => none
  | _ + 1, _, e, .mark ")" :: ts => some ([e], ts)
  | fuel + 1, kind, e, .mark "," :: ts => do
    let (es, ts) ← readArguments? fuel kind ts
    return (e :: es, ts)
  | _, _, _, _ => none

/-- Reads what follows the word that gives a value out of a function. -/
def readYield? : Nat → List Token → Option (Expr × List Token)
  | 0, _ => none
  | fuel + 1, ts =>
    match ts with
    | .keyword "from" :: ts => (readExpr? fuel ts).map fun (e, ts) => (.yieldFrom e, ts)
    | [] => some (.yield leftOut, [])
    | .mark s :: rest =>
      if s = ")" ∨ s = "]" ∨ s = "\x7d" ∨ s = "=" ∨ s = ";" then
        some (.yield leftOut, .mark s :: rest)
      else (readStars? fuel ts).map fun (e, ts) => (.yield e, ts)
    | ts => (readStars? fuel ts).map fun (e, ts) => (.yield e, ts)

/-- Reads expressions with commas between them, of which some may be spread, as one group. -/
def readStars? : Nat → List Token → Option (Expr × List Token)
  | 0, _ => none
  | fuel + 1, ts => do
    let ((items, comma), ts) ← readStarItems? fuel ts
    return (groupOf items comma, ts)

/-- Reads the items of a group without parentheses. -/
def readStarItems? : Nat → List Token → Option ((List Expr × Bool) × List Token)
  | 0, _ => none
  | fuel + 1, ts => do
    let (e, ts) ←
      match ts with
      | .mark "*" :: ts => (readAt? fuel 0 ts).map fun (e, ts) => (.spread e, ts)
      | ts => readExpr? fuel ts
    match ts with
    | .mark "," :: ts =>
      match ts with
      | [] => return (([e], true), ts)
      | .mark s :: _ =>
        if s ∈ ["=", ")", ":", "]", "\x7d", ";"] then return (([e], true), ts)
        else
          let ((es, _), ts) ← readStarItems? fuel ts
          return ((e :: es, true), ts)
      | ts =>
        let ((es, _), ts) ← readStarItems? fuel ts
        return ((e :: es, true), ts)
    | ts => return (([e], false), ts)

end

/-- How much a reader may have to do for a token. -/
def Token.weight : Token → Nat
  | .formatted _ body => body.length + 1
  | _ => 1

/-- How long a reader may go on for some tokens. -/
def depthFor (ts : List Token) : Nat :=
  24 * (ts.map Token.weight).foldl (· + ·) 0 + 48

end LalrBackend.Code
