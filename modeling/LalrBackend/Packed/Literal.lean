import LalrBackend.GeneratorError

/-!
# Packed units as literal lines

Units are spelled as the lines of a parenthesised sum of string literals, eleven escapes a line:
a backslash and three octal digits for a unit below 256, a backslash, `u` and four hexadecimal
digits for any other. Every line but the last ends in a plus sign, the last one in the closing
parenthesis. The reader takes such lines apart again; it reads the digits of an escape as a numeral
of the wider kind.
-/

namespace LalrBackend.Packed

open Text

/-- How many units stand in a line. -/
def unitsPerLine : Nat := 11

/-- What ends a line that another one follows. -/
def joinMark : List Char := [' ', '+']

/-- What ends the last line. -/
def closeMark : List Char := [')']

/-- The escape of one unit. -/
def escapeUnit (unit : Int) : List Char :=
  if unit < 256 then '\\' :: paddedNumeral 8 3 unit
  else '\\' :: 'u' :: paddedNumeral 16 4 unit

/-- Cuts units into the groups that make up a line each. -/
def lineGroups (units : List Int) : List (List Int) :=
  match units with
  | [] => []
  | u :: us => (u :: us.take (unitsPerLine - 1)) :: lineGroups (us.drop (unitsPerLine - 1))
termination_by units.length
decreasing_by rw [List.length_drop, List.length_cons]; omega

/-- The literal of one group, without its end mark. -/
def literal (group : List Int) : List Char :=
  '"' :: group.flatMap escapeUnit ++ ['"']

/-- Puts the end marks to the literals of all groups; no group at all gives an empty literal. -/
def markEnds : List (List Char) → List (List Char)
  | [] => [literal [] ++ closeMark]
  | [l] => [l ++ closeMark]
  | l :: ls => (l ++ joinMark) :: markEnds ls

/-- The literal lines of packed units. -/
def literalLines (units : List Int) : List String :=
  (markEnds ((lineGroups units).map literal)).map String.ofList

/-- Why literal lines cannot be read. -/
inductive LiteralError where
  | notALine (line : String)
  | unexpected (point : Nat) (line : String)
  | unfinishedEscape
  | badNumeral
  deriving Repr, DecidableEq

/-- The wording of a reading error; some kinds have none. -/
def LiteralError.message? : LiteralError → Option String
  | .notALine line => some ("Not a packed table line: " ++ quoted line)
  | .unexpected point line =>
    some ("Unexpected character " ++ quoted (stringOf [point]) ++ " in " ++ quoted line)
  | .unfinishedEscape => none
  | .badNumeral => none

/-- Takes an ending off a line, if the line has it. -/
def dropMark? (mark line : List Char) : Option (List Char) :=
  if mark.isSuffixOf line then some (line.take (line.length - mark.length)) else none

/-- A line without its end mark. -/
def dropEndMark (line : List Char) : List Char :=
  match dropMark? joinMark line with
  | some rest => rest
  | none => (dropMark? closeMark line).getD line

/-- The text between the quotes of a line. -/
def unquote? (line : List Char) : Option (List Char) :=
  match strip line with
  | '"' :: c :: cs => if (c :: cs).getLast? = some '"' then some (c :: cs).dropLast else none
  | _ => none

/-- Reads the digits of an escape. -/
def readUnit (base : Nat) (digits : List Char) : Except LiteralError Int :=
  match readInt? base digits with
  | some unit => .ok unit
  | none => .error .badNumeral

/-- Reads the escapes between the quotes of a line. -/
def readEscapes (line : String) (cs : List Char) : Except LiteralError (List Int) :=
  match cs with
  | [] => .ok []
  | c :: rest =>
    if c ≠ '\\' then .error (.unexpected ((pointsOfChars (c :: rest)).headD 0) line)
    else match rest with
      | [] => .error .unfinishedEscape
      | d :: more =>
        if d = 'u' then do
          let unit ← readUnit 16 (more.take 4)
          return unit :: (← readEscapes line (more.drop 4))
        else do
          let unit ← readUnit 8 (d :: more.take 2)
          return unit :: (← readEscapes line (more.drop 2))
termination_by cs.length
decreasing_by all_goals rw [List.length_drop, List.length_cons, List.length_cons]; omega

/-- Reads one line. -/
def readLine (line : String) : Except LiteralError (List Int) :=
  let bare := dropEndMark line.toList
  match unquote? bare with
  | some cs => readEscapes (String.ofList bare) cs
  | none => .error (.notALine (String.ofList bare))

/-- Reads literal lines; the first line that cannot be read is reported. -/
def readLines : List String → Except LiteralError (List Int)
  | [] => .ok []
  | line :: rest => do
    let units ← readLine line
    return units ++ (← readLines rest)

end LalrBackend.Packed
