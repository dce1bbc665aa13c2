import LalrBackend.Text.CodePoint
import LalrBackend.Text.Digit
import LalrBackend.Text.WordChar

/-!
# Identifiers

A symbol name becomes an identifier of the generated module: characters that stand in no word turn
into underscores, a name that is empty or begins with a digit gets an underscore in front, and a
reserved word gets one at its end.
-/

namespace LalrBackend.Identifier

open Text

/-- The reserved words of the generated module's language. -/
def reservedWords : List String := [
  "False", "None", "True", "and", "as", "assert", "async", "await", "break", "class", "continue",
  "def", "del", "elif", "else", "except", "finally", "for", "from", "global", "if", "import", "in",
  "is", "lambda", "nonlocal", "not", "or", "pass", "raise", "return", "try", "while", "with",
  "yield"]

/-- The character of a word that stands for a code point: the character itself if it can stand in a
word, else an underscore. -/
def wordCharOf (point : Nat) : Char :=
  if !isSurrogate point && isWordChar (Char.ofNat point) then Char.ofNat point else '_'

/-- Turns every code point that stands in no word into an underscore. -/
def wordChars (cs : List Char) : List Char :=
  (pointsOfChars cs).map wordCharOf

/-- Puts an underscore before a word that is empty or begins with a digit. -/
def startWord : List Char → List Char
  | [] => ['_']
  | c :: cs => if isDigitLike c then '_' :: c :: cs else c :: cs

/-- Puts an underscore after a reserved word. -/
def avoidReserved (word : String) : String :=
  if word ∈ reservedWords then word.push '_' else word

/-- The identifier that stands for a symbol name. -/
def ofName (name : String) : String :=
  avoidReserved (String.ofList (startWord (wordChars name.toList)))

end LalrBackend.Identifier
