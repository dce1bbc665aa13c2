import LalrBackend.Text.Blank

/-!
# Indentation

A snippet of code is moved to another margin in three steps: the margin that its lines share is
taken away, line breaks at both ends are dropped, and the new margin is put before every line that
is not blank. The first two steps know one line break, the line feed; the last step knows them all.
-/

namespace LalrBackend.Text

/-- The characters that make up an indentation. -/
def isIndent (c : Char) : Bool :=
  c == ' ' || c == '\t'

/-- The lines of a text, cut at line feeds. -/
def lines (cs : List Char) : List (List Char) :=
  cs.splitOn '\n'

/-- Joins lines by line feeds. -/
def unlines (ls : List (List Char)) : List Char :=
  ['\n'].intercalate ls

/-- The longest list that both arguments begin with. -/
def commonStart : List Char → List Char → List Char
  | a :: as, b :: bs => if a = b then a :: commonStart as bs else []
  | _, _ => []

/-- Lines of indentation characters only become empty. -/
def clearBlankLines (ls : List (List Char)) : List (List Char) :=
  ls.map fun l => if l.all isIndent then [] else l

/-- The longest indentation that all lines with content share. -/
def sharedMargin (ls : List (List Char)) : List Char :=
  match (ls.filter fun l => !l.isEmpty).map fun l => l.takeWhile isIndent with
  | [] => []
  | m :: ms => ms.foldl commonStart m

/-- Takes the shared margin away from every line. -/
def dedentLines (ls : List (List Char)) : List (List Char) :=
  let cleared := clearBlankLines ls
  let margin := (sharedMargin cleared).length
  cleared.map (·.drop margin)

/-- Takes the shared margin away from a text. -/
def dedent (cs : List Char) : List Char :=
  unlines (dedentLines (lines cs))

/-- Every character that ends a line: line feed, vertical tab, form feed, carriage return, the
file, group and record separators, next line, and the line and paragraph separators. -/
def isLineEnd (c : Char) : Bool :=
  c.toNat ∈ [10, 11, 12, 13, 28, 29, 30, 133, 8232, 8233]

/-- Puts a character before the first of several pieces. -/
def consHead (c : Char) : List (List Char) → List (List Char)
  | [] => [[c]]
  | p :: ps => (c :: p) :: ps

/-- The lines of a text with the characters that end them; a carriage return and the line feed
after it end one line together. -/
def endedLines : List Char → List (List Char)
  | [] => []
  | '\r' :: '\n' :: cs => ['\r', '\n'] :: endedLines cs
  | c :: cs => if isLineEnd c then [c] :: endedLines cs else consHead c (endedLines cs)

/-- Puts a margin before every line that is not blank. -/
def indent (margin cs : List Char) : List Char :=
  (endedLines cs).flatMap fun l => if (strip l).isEmpty then l else margin ++ l

/-- Drops the line feeds at both ends. -/
def trimLineFeeds (cs : List Char) : List Char :=
  trimBoth (· == '\n') cs

/-- Moves a snippet of code from its own margin to the given one. -/
def reindent (code margin : String) : String :=
  String.ofList (indent margin.toList (trimLineFeeds (dedent code.toList)))

end LalrBackend.Text
