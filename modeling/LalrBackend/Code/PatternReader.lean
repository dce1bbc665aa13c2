import LalrBackend.Code.SimpleStatement

/-!
# Reading patterns

The pattern of a case is read from the tokens of its line: texts and numbers stand for themselves, a
name with a point in it for its value, a name alone is bound, and the lone underscore fits anything.
-/

namespace LalrBackend.Code

/-- The name that fits anything and is not bound. -/
def anyName : String := "_"

/-- Reads a number that may have a sign, alone or with an imaginary one. -/
def readNumber? (ts : List Token) : Option (Expr × List Token) := do
  let (e, ts) ←
    match ts with
    | .mark "-" :: .constant c :: ts => some (.sign .minus (.constant c), ts)
    | .constant c :: ts => some (.constant c, ts)
    | _ => none
  match ts with
  | .mark "+" :: .constant (.imaginary x) :: ts =>
    return (.binary .add e (.constant (.imaginary x)), ts)
  | .mark "-" :: .constant (.imaginary x) :: ts =>
    return (.binary .sub e (.constant (.imaginary x)), ts)
  | .mark "+" :: _ => none
  | .mark "-" :: _ => none
  | ts => return (e, ts)

/-- Reads names with points between them as an expression, after the first one. -/
def readMember (e : Expr) : List Token → Expr × List Token
  | .mark "." :: .name n :: ts => readMember (.attribute e n) ts
  | ts => (e, ts)

/-- Reads what stands for itself: a text, a number or a constant. -/
def readItself? (ts : List Token) : Option (Pattern × List Token) :=
  let texts := do
    match ← readTexts? (depthFor ts) ts with
    | (e, ts) => return (.value e, ts)
  match ts with
  | .constant (.text _) :: _ => texts
  | .constant (.bytes _) :: _ => texts
  | .formatted _ _ :: _ => texts
  | .constant .ellipsis :: _ => none
  | .keyword word :: ts => (Constant.ofWord? word).map fun c => (.exactly c, ts)
  | ts => (readNumber? ts).map fun (e, ts) => (.value e, ts)

/-- Reads a key of a table. -/
def readKey? (ts : List Token) : Option (Expr × List Token) :=
  match ts with
  | .name n :: .mark "." :: ts => some (readMember (.name n) (.mark "." :: ts))
  | .name _ :: _ => none
  | ts => do
    match ← readItself? ts with
    | (.value e, ts) => return (e, ts)
    | (.exactly c, ts) => return (.constant c, ts)
    | _ => none

/-- A pattern for a group: one pattern without a comma is no list. -/
def patternOf? : List Pattern → Bool → Option Pattern
  | [.leftOver _], false => none
  | [p], false => some p
  | ps, _ => some (.sequence ps)

mutual

/-- Reads a pattern that may get a name. -/
def readPattern? : Nat → List Token → Option (Pattern × List Token)
  | 0, _ => none
  | fuel + 1, ts => do
    let (ps, ts) ← readChoices? fuel ts
    let p :=
      match ps with
      | [p] => p
      | ps => .oneOf ps
    match ts with
    | .keyword "as" :: .name n :: ts => if n = anyName then none else return (.named p n, ts)
    | .keyword "as" :: _ => none
    | ts => return (p, ts)

/-- Reads patterns of which one is to be fitted. -/
def readChoices? : Nat → List Token → Option (List Pattern × List Token)
  | 0, _ => none
  | fuel + 1, ts => do
    let (p, ts) ← readClosed? fuel ts
    match ts with
    | .mark "|" :: ts =>
      let (ps, ts) ← readChoices? fuel ts
      return (p :: ps, ts)
    | ts => return ([p], ts)

/-- Reads a pattern that needs no parentheses. -/
def readClosed? : Nat → List Token → Option (Pattern × List Token)
  | 0, _ => none
  | fuel + 1, ts =>
    match ts with
    | .name n :: ts =>
      if n = anyName then some (.any, ts)
      else
        match readMember (.name n) ts with
        | (cls, .mark "(" :: ts) => do
          let ((ps, names, named), ts) ← readPartPatterns? fuel ts
          return (.object cls ps names named, ts)
        | (_, .mark "=" :: _) => none
        | (.name n, ts) => some (.capture n, ts)
        | (e, ts) => some (.value e, ts)
    | .mark "(" :: ts => do
      match ← readPatterns? fuel ")" ts with
      | ((ps, comma), .mark ")" :: ts) => return (← patternOf? ps comma, ts)
      | _ => none
    | .mark "[" :: ts => do
      match ← readPatterns? fuel "]" ts with
      | ((ps, _), .mark "]" :: ts) => return (.sequence ps, ts)
      | _ => none
    | .mark "\x7b" :: ts => do
      let ((keys, ps, rest), ts) ← readEntryPatterns? fuel ts
      return (.table keys ps rest, ts)
    | ts => readItself? ts

/-- Reads patterns with commas between them, up to a mark or a word. Tells whether a comma follows one
of them. -/
def readPatterns? : Nat → String → List Token → Option ((List Pattern × Bool) × List Token)
  | 0, _, _ => none
  | fuel + 1, close, ts =>
    match ts with
    | .mark "*" :: .name n :: ts =>
      readMorePatterns? fuel close (.leftOver (if n = anyName then none else some n)) ts
    | .keyword "if" :: _ => some (([], false), ts)
    | ts =>
      if (ts.head?.map (Token.isMark close)).getD false then some (([], false), ts)
      else do
        let (p, ts) ← readPattern? fuel ts
        readMorePatterns? fuel close p ts

/-- Reads the patterns that follow one. -/
def readMorePatterns? : Nat → String → Pattern → List Token →
    Option ((List Pattern × Bool) × List Token)
  | 0, _, _, _ => none
  | fuel + 1, close, p, ts =>
    match ts with
    | .mark "," :: ts => do
      let ((ps, _), ts) ← readPatterns? fuel close ts
      return ((p :: ps, true), ts)
    | ts => some (([p], false), ts)

/-- Reads the entries of a table up to the brace that closes it. -/
def readEntryPatterns? : Nat → List Token →
    Option ((List Expr × List Pattern × Option String) × List Token)
  | 0, _ => none
  | fuel + 1, ts =>
    match ts with
    | .mark "\x7d" :: ts => some (([], [], none), ts)
    | .mark "**" :: .name n :: .mark "\x7d" :: ts =>
      if n = anyName then none else some (([], [], some n), ts)
    | .mark "**" :: .name n :: .mark "," :: .mark "\x7d" :: ts =>
      if n = anyName then none else some (([], [], some n), ts)
    | ts => do
      match ← readKey? ts with
      | (key, .mark ":" :: ts) =>
        let (p, ts) ← readPattern? fuel ts
        match ts with
        | .mark "\x7d" :: ts => return (([key], [p], none), ts)
        | .mark "," :: ts =>
          let ((keys, ps, rest), ts) ← readEntryPatterns? fuel ts
          return ((key :: keys, p :: ps, rest), ts)
        | _ => none
      | _ => none

/-- Reads the parts of an object up to the parenthesis that closes them, those with names last. -/
def readPartPatterns? : Nat → List Token →
    Option ((List Pattern × List String × List Pattern) × List Token)
  | 0, _ => none
  | fuel + 1, ts =>
    match ts with
    | .mark ")" :: ts => some (([], [], []), ts)
    | .name n :: .mark "=" :: ts => do
      let (p, ts) ← readPattern? fuel ts
      let ((ps, names, named), ts) ← readPartPatternsEnd? fuel ts
      if ps.isEmpty then return (([], n :: names, p :: named), ts) else none
    | ts => do
      let (p, ts) ← readPattern? fuel ts
      let ((ps, names, named), ts) ← readPartPatternsEnd? fuel ts
      return ((p :: ps, names, named), ts)

/-- Reads what follows a part of an object. -/
def readPartPatternsEnd? : Nat → List Token →
    Option ((List Pattern × List String × List Pattern) × List Token)
  | 0, _ => none
  | fuel + 1, ts =>
    match ts with
    | .mark ")" :: ts => some (([], [], []), ts)
    | .mark "," :: ts => readPartPatterns? fuel ts
    | _ => none

end

/-- Reads the value of which cases are told apart, with the colon, after the first word. Nothing
follows the colon on its line. -/
def readSubject? (ts : List Token) : Option Expr := do
  match ← readItems? (depthFor ts) ":" ts with
  | ((items, comma), [.mark ":"]) =>
    if !items.isEmpty && isGroup items comma then return groupOf items comma else none
  | _ => none

/-- Reads a case with its colon, after the first word. -/
def readCase? (ts : List Token) : Option ((Pattern × Option Expr) × List Token) := do
  let ((ps, comma), ts) ← readPatterns? (depthFor ts) ":" ts
  if ps.isEmpty then none
  let p ← patternOf? ps comma
  match ts with
  | .keyword "if" :: ts =>
    match ← readNamed? (depthFor ts) ts with
    | (guard, .mark ":" :: ts) => return ((p, some guard), ts)
    | _ => none
  | .mark ":" :: ts => return ((p, none), ts)
  | _ => none

end LalrBackend.Code
