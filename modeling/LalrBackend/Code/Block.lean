import LalrBackend.Code.Header
import LalrBackend.Code.PatternReader

/-!
# Reading blocks

A block is told by its column: it begins one level deeper than the line before it, which must
announce it, and ends where a line goes back to a column further out. A block of simple statements
may stand on the line that announces it.
-/

namespace LalrBackend.Code

/-- The columns of a block, with wide and with narrow tabs. -/
abbrev Indent := Nat × Nat

/-- How many blocks may be open at a time. -/
def mostBlocks : Nat := 100

/-- How a line stands to the innermost of some blocks. -/
inductive Placement where
  | here
  | deeper
  | further
  deriving Repr, DecidableEq

/-- Leaves the blocks that begin right of a column. -/
def leaveTo (column : Nat) : List Indent → List Indent
  | [] => []
  | i :: is => if column < i.1 then leaveTo column is else i :: is

/-- Whether a line is cut off in front of its first token, so that it stands nowhere. -/
def Line.isTorn (line : Line) : Bool :=
  match line.tokens with
  | .cutOff :: _ => true
  | _ => false

/-- Where a line stands: in the innermost block, deeper, or further out. -/
def placeOf (indents : List Indent) (line : Line) : Except ReadError Placement :=
  let top := indents.headD (0, 0)
  if line.isTorn then .error .malformed
  else if line.column = top.1 then
    if line.narrowColumn = top.2 then .ok .here else .error .mixedBlanks
  else if top.1 < line.column then
    if line.narrowColumn ≤ top.2 then .error .mixedBlanks
    else if mostBlocks ≤ indents.length then .error .misindented
    else .ok .deeper
  else
    let outer := (leaveTo line.column indents).headD (0, 0)
    if outer.1 ≠ line.column then .error .misindented
    else if outer.2 ≠ line.narrowColumn then .error .mixedBlanks
    else .ok .further

/-- Whether something may be applied to what a line begins. -/
def Line.mayBeWrapped (line : Line) : Bool :=
  match line.tokens with
  | .mark s :: _ => s == "@"
  | .keyword "async" :: .keyword w :: _ => w == "def"
  | .keyword w :: _ => w == "def" || w == "class"
  | _ => false

/-- Whether a line would begin the cases of a value if a colon followed it. -/
def Line.lacksColon (line : Line) : Bool :=
  match line.tokens with
  | .name "match" :: ts => (readSubject? (ts ++ [.mark ":"])).isSome
  | _ => false

/-- What an error further on in a block means after a line. That blocks begin and end where they may
not comes second to a colon that seems to be missing. -/
def Line.explain (line : Line) (e : ReadError) : ReadError :=
  match e with
  | .unannounced => if line.lacksColon then .malformed else e
  | .blockMissing => if line.lacksColon then .malformed else e
  | e => e

/-- What there may be, or code that is not well formed. -/
def wellFormed {α : Type} (a : Option α) : Except ReadError α :=
  match a with
  | some a => .ok a
  | none => .error .malformed

/-- What is read of lines: statements, and the lines that follow. -/
abbrev Read := Except ReadError (List Statement × List Line)

/-- The parts of an attempt after its body: handlers, and the blocks for when nothing is raised and
for the end. -/
structure Endings where
  handlers : List Statement := []
  otherwise : List Statement := []
  final : List Statement := []

/-- How far the blocks of an attempt have got. -/
inductive Stage where
  | body
  | handlers (grouped : Bool)
  | otherwise
  | final

/-- How far the blocks of an attempt get by a further one, if it may stand there: all handlers handle
groups or none does, the block for when nothing is raised follows a handler, and the one for the end
is the last one. -/
def Stage.next? (stage : Stage) (e : Ending) : Option Stage :=
  match stage, e with
  | .body, .handler grouped _ _ => some (.handlers grouped)
  | .handlers g, .handler grouped _ _ => if g = grouped then some stage else none
  | .handlers _, .otherwise => some .otherwise
  | .final, _ => none
  | .body, .final => some .final
  | .handlers _, .final => some .final
  | .otherwise, .final => some .final
  | _, _ => none

/-- Adds a further block in front of those that follow it. -/
def Endings.add (e : Ending) (body : List Statement) (rest : Endings) : Endings :=
  match e with
  | .handler grouped type name =>
    { rest with handlers := .handle grouped type name body :: rest.handlers }
  | .otherwise => { rest with otherwise := body }
  | .final => { rest with final := body }

/-- The further block of an attempt that begins on the next line, if it may stand there: how far the
blocks get by it, what it is for, and the tokens and the lines after its colon. -/
def nextEnding? (stage : Stage) (owner : Option String) (indents : List Indent)
    (lines : List Line) : Except ReadError (Option (Stage × Ending × List Token × List Line)) := do
  match lines with
  | [] => return none
  | line :: lines =>
    match ← placeOf indents line with
    | .here =>
      match readEnding? (line.tokens.map (Token.ownedBy owner)) with
      | some (e, ts) => return (stage.next? e).map fun stage => (stage, e, ts, lines)
      | none => return none
    | _ => return none

mutual

/-- Reads the statements of the innermost block up to a line that leaves it. -/
def readBlock (owner : Option String) (indents : List Indent) : Nat → List Line → Read
  | 0, _ => .error .malformed
  | _, [] => .ok ([], [])
  | fuel + 1, line :: lines => do
    match ← placeOf indents line with
    | .deeper => throw .unannounced
    | .further => return ([], line :: lines)
    | .here =>
      let (ss, rest) ← readLine owner indents fuel line lines
      let (more, rest) ← (readBlock owner indents fuel rest).mapError line.explain
      return (ss ++ more, rest)

/-- Reads the statements that begin on a line. -/
def readLine (owner : Option String) (indents : List Indent) : Nat → Line → List Line → Read
  | 0, _, _ => .error .malformed
  | fuel + 1, line, lines => do
    match line.tokens.map (Token.ownedBy owner) with
    | .mark "@" :: ts => readWrapped owner indents fuel ts lines
    | .name "match" :: ts =>
      match readSubject? ts with
      | none => return (← wellFormed (readStatements? (.name "match" :: ts)), lines)
      | some subject => readSelection owner indents fuel subject lines
    | ts =>
      match readHeader? ts with
      | none => return (← wellFormed (readStatements? ts), lines)
      | some (h, ts) => readHeaded owner indents fuel h ts lines

/-- Reads what is applied to a function or a class, and the function or class on the following
lines. -/
def readWrapped (owner : Option String) (indents : List Indent) :
    Nat → List Token → List Line → Read
  | 0, _, _ => .error .malformed
  | fuel + 1, ts, lines => do
    match readNamed? (depthFor ts) ts, lines with
    | some (e, []), next :: lines =>
      match ← placeOf indents next with
      | .here =>
        if !next.mayBeWrapped then throw .malformed
        match ← readLine owner indents fuel next lines with
        | ([s], rest) => return ([← wellFormed (s.wrapped? e)], rest)
        | _ => throw .malformed
      | _ => throw .unannounced
    | some (_, []), [] => throw (if indents.length ≤ 1 then .malformed else .unannounced)
    | _, _ => throw .malformed

/-- Reads what a header begins, given what follows its colon. -/
def readHeaded (owner : Option String) (indents : List Indent) :
    Nat → Header → List Token → List Line → Read
  | 0, _, _, _ => .error .malformed
  | fuel + 1, h, ts, lines => do
    let (body, rest) ← readSuite (h.owner owner) indents fuel ts lines
    match h with
    | .makeClass n args => return ([.makeClass n [] args body], rest)
    | .define isAsync n ps defaults types =>
      return ([.define isAsync n ps [] defaults types body], rest)
    | .within isAsync contexts => return (withinAll isAsync body contexts, rest)
    | .branch e =>
      let (no, rest) ← readOtherwise true owner indents fuel rest
      return ([.branch e body no], rest)
    | .loop e =>
      let (no, rest) ← readOtherwise false owner indents fuel rest
      return ([.loop e body no], rest)
    | .forEach isAsync t e =>
      let (no, rest) ← readOtherwise false owner indents fuel rest
      return ([.forEach isAsync t e body no], rest)
    | .attempt =>
      let (e, rest) ← readEndings .body owner indents fuel rest
      return ([.attempt body e.handlers e.otherwise e.final], rest)

/-- Reads the cases of a value, which stand in a block of their own. -/
def readSelection (owner : Option String) (indents : List Indent) :
    Nat → Expr → List Line → Read
  | 0, _, _ => .error .malformed
  | _ + 1, _, [] => .error .blockMissing
  | fuel + 1, subject, line :: lines => do
    match ← placeOf indents line with
    | .deeper =>
      let (cases, rest) ←
        readCases owner ((line.column, line.narrowColumn) :: indents) fuel (line :: lines)
      if cases.isEmpty then throw .malformed
      return ([.select subject cases], rest)
    | _ => throw .blockMissing

/-- Reads cases up to a line that leaves their block. -/
def readCases (owner : Option String) (indents : List Indent) : Nat → List Line → Read
  | 0, _ => .error .malformed
  | _, [] => .ok ([], [])
  | fuel + 1, line :: lines => do
    match ← placeOf indents line with
    | .deeper => throw .unannounced
    | .further => return ([], line :: lines)
    | .here =>
      match line.tokens.map (Token.ownedBy owner) with
      | .name "case" :: ts =>
        match readCase? ts with
        | none => throw .malformed
        | some ((p, guard), ts) =>
          let (body, rest) ← readSuite owner indents fuel ts lines
          let (cases, rest) ← readCases owner indents fuel rest
          return (.inCase p guard body :: cases, rest)
      | _ => throw .malformed

/-- Reads the block that a colon announces, given what follows the colon. -/
def readSuite (owner : Option String) (indents : List Indent) :
    Nat → List Token → List Line → Read
  | 0, _, _ => .error .malformed
  | fuel + 1, t :: ts, lines => do
    let _ := fuel
    return (← wellFormed (readStatements? ((t :: ts).map (Token.ownedBy owner))), lines)
  | _ + 1, [], [] => .error .blockMissing
  | fuel + 1, [], line :: lines => do
    match ← placeOf indents line with
    | .deeper => readBlock owner ((line.column, line.narrowColumn) :: indents) fuel (line :: lines)
    | _ => throw .blockMissing

/-- Reads the other cases of a condition or a loop. A condition may have further conditions. -/
def readOtherwise (further : Bool) (owner : Option String) (indents : List Indent) :
    Nat → List Line → Read
  | 0, _ => .error .malformed
  | _, [] => .ok ([], [])
  | fuel + 1, line :: lines => do
    match ← placeOf indents line with
    | .here =>
      match line.tokens.map (Token.ownedBy owner) with
      | .keyword "else" :: .mark ":" :: ts => readSuite owner indents fuel ts lines
      | .keyword "elif" :: ts =>
        match further, readNamed? (depthFor ts) ts with
        | true, some (condition, .mark ":" :: ts) =>
          let (yes, rest) ← readSuite owner indents fuel ts lines
          let (no, rest) ← readOtherwise true owner indents fuel rest
          return ([.branch condition yes no], rest)
        | _, _ => throw .malformed
      | _ => return ([], line :: lines)
    | _ => return ([], line :: lines)

/-- Reads the further blocks of an attempt, at least one after its body. -/
def readEndings (stage : Stage) (owner : Option String) (indents : List Indent) :
    Nat → List Line → Except ReadError (Endings × List Line)
  | 0, _ => .error .malformed
  | fuel + 1, lines => do
    match ← nextEnding? stage owner indents lines with
    | some (stage, e, ts, lines) =>
      let (body, rest) ← readSuite owner indents fuel ts lines
      let (endings, rest) ← readEndings stage owner indents fuel rest
      return (endings.add e body, rest)
    | none =>
      match stage with
      | .body => throw .malformed
      | _ => return ({}, lines)

end

/-- Reads the lines of a module. -/
def readLines (lines : List Line) : Except ReadError (List Statement) := do
  let (ss, rest) ← readBlock none [(0, 0)] (6 * lines.length + 8) lines
  if rest.isEmpty then return ss else throw .malformed

/-- The blocks that are open on a line, if it stands in one. -/
def indentsAt? (indents : List Indent) (line : Line) : Option (List Indent) :=
  match placeOf indents line with
  | .ok .here => some indents
  | .ok .deeper => some ((line.column, line.narrowColumn) :: indents)
  | .ok .further => some (leaveTo line.column indents)
  | .error _ => none

/-- Whether what ends the reading of tokens is something that cannot be read, and not the place of a
line or the end. -/
def endsUnreadable (indents : List Indent) : List Line → Bool
  | [] => false
  | line :: lines =>
    match indentsAt? indents line, line.tokens.find? Token.isLast with
    | some _, some t => t.isUnreadable
    | some indents, none => endsUnreadable indents lines
    | none, _ => false

/-- Reads a module. That a block is missing comes second to what cannot be read, wherever it
stands. -/
def readModule (code : String) : Except ReadError (List Statement) :=
  let lines := linesOf code
  match readLines lines with
  | .error .blockMissing =>
    .error (if endsUnreadable [(0, 0)] lines then .malformed else .blockMissing)
  | r => r

end LalrBackend.Code
