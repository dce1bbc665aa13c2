import LalrBackend.Code.Formatted
import LalrBackend.Identifier
import LalrBackend.Text.Composition
import LalrBackend.Text.IdentifierChar

/-!
# Tokens of code

Code is read into logical lines of tokens. A logical line ends where a line ends outside of all
brackets; blanks and comments are left out. A line keeps the column of its first token, once with
tabs that reach to the next multiple of eight and once with tabs as wide as a blank. What is no
token leaves one that no statement can hold.
-/

namespace LalrBackend.Code

open Text

/-- A token, or what stands for none: a literal without a value, what cannot be read, and the end of
what can be read because a bracket is open or a line joins none. A formatted text is kept as it is
written between its quotes. -/
inductive Token where
  | name (name : String)
  | keyword (word : String)
  | constant (c : Constant)
  | formatted (raw : Bool) (body : List Char)
  | mark (s : String)
  | worthless
  | unreadable
  | cutOff

/-- Whether a token is a mark. -/
def Token.isMark (s : String) : Token → Bool
  | .mark t => t == s
  | _ => false

/-- Whether a token is a reserved word. -/
def Token.isKeyword (s : String) : Token → Bool
  | .keyword w => w == s
  | _ => false

/-- Whether a token stands for what cannot be read. -/
def Token.isUnreadable : Token → Bool
  | .unreadable => true
  | _ => false

/-- Whether nothing is read after a token: it stands for what cannot be read, or for the end. -/
def Token.isLast : Token → Bool
  | .unreadable => true
  | .cutOff => true
  | _ => false

/-- A logical line. -/
structure Line where
  column : Nat
  narrowColumn : Nat
  tokens : List Token

/-- The name that a spelling stands for. -/
def nameOf (spelling : String) : String :=
  String.ofList (compatibilityForm spelling.toList)

/-- Whether a spelling can be a name: it is an identifier and no reserved word. -/
def isName (spelling : String) : Bool :=
  isIdentifier spelling.toList && !(spelling ∈ Identifier.reservedWords)

/-! ## Words and numbers -/

/-- The token of a name or a reserved word. -/
def wordToken (cs : List Char) : Token :=
  let word := String.ofList cs
  if word ∈ Identifier.reservedWords then .keyword word
  else if isIdentifier cs then .name (nameOf word)
  else .unreadable

/-- Whether characters begin with a number. -/
def beginsNumber : List Char → Bool
  | '.' :: c :: _ => c.isDigit
  | c :: _ => c.isDigit
  | [] => false

/-- The tokens of characters that stand together: names, numbers and points. -/
def runTokens : Nat → List Char → List Token
  | 0, _ => [.unreadable]
  | _, [] => []
  | fuel + 1, c :: cs =>
    if beginsNumber (c :: cs) then
      match takeNumber? (c :: cs) with
      | some (some n, rest) => .constant n :: runTokens fuel rest
      | some (none, rest) => .worthless :: runTokens fuel rest
      | none => [.unreadable]
    else if c = '.' then
      match cs with
      | '.' :: '.' :: rest => .constant .ellipsis :: runTokens fuel rest
      | rest => .mark "." :: runTokens fuel rest
    else
      let word := (c :: cs).takeWhile isWordPart
      wordToken word :: runTokens fuel ((c :: cs).drop word.length)

/-- Whether a sign goes on a run of characters: it is the sign of an exponent. -/
def takesSign (backwards : List Char) : Bool :=
  match backwards with
  | e :: before =>
    (e == 'e' || e == 'E') && beginsNumber before.reverse &&
      before.all fun c => c.isDigit || c == '_' || c == '.'
  | [] => false

/-! ## Texts -/

/-- What the letters in front of a text say about it. -/
structure Manner where
  raw : Bool
  ofBytes : Bool
  formatted : Bool
  deriving Repr, DecidableEq

/-- The manner of a text without letters. -/
def Manner.usual : Manner := ⟨false, false, false⟩

/-- The manner that letters in front of a text name. -/
def manner? (letters : List Char) : Option Manner :=
  match letters.map Char.toLower with
  | ['u'] => some .usual
  | ['r'] => some ⟨true, false, false⟩
  | ['b'] => some ⟨false, true, false⟩
  | ['f'] => some ⟨false, false, true⟩
  | ['b', 'r'] | ['r', 'b'] => some ⟨true, true, false⟩
  | ['f', 'r'] | ['r', 'f'] => some ⟨true, false, true⟩
  | _ => none

/-- The token of a literal that may have no value. -/
def tokenOf (t : Option Token) : Token :=
  t.getD .worthless

/-- The token of a text, given without its quotes. -/
def Manner.token (m : Manner) (cs : List Char) : Token :=
  if m.formatted then .formatted m.raw cs
  else if m.ofBytes then tokenOf ((readBytes? m.raw cs).map fun bs => .constant (.bytes bs))
  else tokenOf ((readText? m.raw cs).map fun s => .constant (.text s))

/-! ## Marks -/

/-- The marks of more than one character. -/
def longMarks : List String := [
  "**=", "//=", ">>=", "<<=", "!=", "==", "<=", ">=", "<>", "->", ":=", "+=", "-=", "*=", "/=",
  "%=", "&=", "|=", "^=", "@=", "**", "//", ">>", "<<"]

/-- The characters that begin a mark of their own. -/
def markChars : List Char :=
  ['+', '-', '*', '/', '%', '&', '|', '^', '~', '<', '>', '=', '!', ':', ';', ',', '@', '$', '?',
    '\x60']

/-- Whether a mark can be made longer. -/
def goesOn (s : String) : Bool :=
  longMarks.any fun m => s.toList.isPrefixOf m.toList

/-! ## Reading -/

/-- What a character is read as. -/
inductive Mode where
  | margin
  | between
  | comment
  | continued (inMargin : Bool)
  | joined (inMargin : Bool)
  | run (backwards : List Char)
  | mark (s : String)
  | quotes (m : Manner) (quote : Char) (count : Nat)
  | text (m : Manner) (quote : Char) (triple : Bool) (backwards : List Char) (escaped : Bool)
      (streak : Nat)
  deriving Repr, DecidableEq

/-- Where the reading of tokens stands: the lines and the tokens of the present line, both the last
one first, the column where the line begins, which is `fixed` by a first joined line, and the
brackets that close those that are open. -/
structure Lexer where
  lines : List Line
  tokens : List Token
  column : Nat
  narrowColumn : Nat
  fixed : Option Nat
  opened : List Char
  mode : Mode

namespace Lexer

/-- Before the first character. -/
def start : Lexer :=
  ⟨[], [], 0, 0, none, [], .margin⟩

/-- Adds a token. -/
def push (l : Lexer) (t : Token) : Lexer :=
  { l with tokens := t :: l.tokens, mode := .between }

/-- Adds the tokens of a run. -/
def pushRun (l : Lexer) (backwards : List Char) : Lexer :=
  let cs := backwards.reverse
  { l with tokens := (runTokens (cs.length + 1) cs).reverse ++ l.tokens, mode := .between }

/-- Ends the logical line. One without tokens is left out. -/
def endLine (l : Lexer) : Lexer :=
  let line : Line :=
    ⟨l.fixed.getD l.column, l.fixed.getD l.narrowColumn, l.tokens.reverse⟩
  { start with lines := if l.tokens.isEmpty then l.lines else line :: l.lines }

/-- How many brackets may be open at a time. -/
def mostBrackets : Nat := 200

/-- Opens a bracket. -/
def openBracket (l : Lexer) (c : Char) : Lexer :=
  if l.opened.length < mostBrackets then
    { l.push (.mark (String.singleton c)) with opened := closing c :: l.opened }
  else l.push .unreadable

/-- Closes the bracket that was opened last. -/
def closeBracket (l : Lexer) (c : Char) : Lexer :=
  match l.opened with
  | o :: os =>
    { l.push (if c = o then .mark (String.singleton c) else .unreadable) with opened := os }
  | [] => l.push .unreadable

/-- Reads a character between two tokens. -/
def between (l : Lexer) (c : Char) : Lexer :=
  if c = '\n' then (if l.opened.isEmpty then l.endLine else { l with mode := .between })
  else if c = ' ' ∨ c = '\t' ∨ c = Char.ofNat 12 then { l with mode := .between }
  else if c = '#' then { l with mode := .comment }
  else if c = '\\' then { l with mode := .continued false }
  else if c = '"' ∨ c = '\'' then { l with mode := .quotes .usual c 1 }
  else if isWordPart c ∨ c = '.' then { l with mode := .run [c] }
  else if isOpening c then l.openBracket c
  else if isClosing c then l.closeBracket c
  else if c ∈ markChars then { l with mode := .mark (String.singleton c) }
  else l.push .unreadable

/-- Reads a character in front of the first token of a line. A form feed begins the margin anew. -/
def margin (l : Lexer) (c : Char) : Lexer :=
  if c = ' ' then
    { l with column := l.column + 1, narrowColumn := l.narrowColumn + 1, mode := .margin }
  else if c = '\t' then
    { l with column := (l.column / 8 + 1) * 8, narrowColumn := l.narrowColumn + 1, mode := .margin }
  else if c = Char.ofNat 12 then { l with column := 0, narrowColumn := 0, mode := .margin }
  else if c = '\\' then
    let fixed := if l.fixed.getD 0 = 0 then some l.column else l.fixed
    { l with fixed := fixed.filter (· ≠ 0), mode := .continued true }
  else l.between c

/-- Reads a character of a text between quotes. The streak counts the quotes just before. -/
def inText (l : Lexer) (m : Manner) (quote : Char) (triple : Bool) (backwards : List Char)
    (escaped : Bool) (streak : Nat) (c : Char) : Lexer :=
  if escaped then { l with mode := .text m quote triple (c :: backwards) false 0 }
  else if c = quote then
    if !triple then l.push (m.token backwards.reverse)
    else if streak = 2 then l.push (m.token (backwards.drop 2).reverse)
    else { l with mode := .text m quote triple (c :: backwards) false (streak + 1) }
  else if c = '\n' ∧ !triple then (l.push .unreadable).between c
  else { l with mode := .text m quote triple (c :: backwards) (c = '\\') 0 }

/-- Reads a character. -/
def step (l : Lexer) (c : Char) : Lexer :=
  match l.mode with
  | .margin => l.margin c
  | .between => l.between c
  | .comment => if c = '\n' then l.between c else l
  | .continued inMargin =>
    if c = '\n' then { l with mode := .joined inMargin }
    else (l.push .cutOff).between c
  | .joined inMargin => if inMargin then l.margin c else l.between c
  | .run backwards =>
    if isWordPart c ∨ c = '.' ∨ ((c = '+' ∨ c = '-') ∧ takesSign backwards) then
      { l with mode := .run (c :: backwards) }
    else if c = '"' ∨ c = '\'' then
      match manner? backwards.reverse with
      | some m => { l with mode := .quotes m c 1 }
      | none => (l.pushRun backwards).between c
    else (l.pushRun backwards).between c
  | .mark s =>
    if goesOn (s.push c) then { l with mode := .mark (s.push c) }
    else (l.push (.mark s)).between c
  | .quotes m quote count =>
    if c = quote then
      if count = 2 then { l with mode := .text m quote true [] false 0 }
      else { l with mode := .quotes m quote (count + 1) }
    else if count = 2 then (l.push (m.token [])).between c
    else l.inText m quote false [] false 0 c
  | .text m quote triple backwards escaped streak =>
    l.inText m quote triple backwards escaped streak c

/-- Ends the code. Nothing can be read at the end of what is not closed or joins no line. -/
def finish (l : Lexer) : Lexer :=
  match l.mode with
  | .joined _ => (l.push .cutOff).endLine
  | _ =>
    let l := l.step '\n'
    match l.mode with
    | .margin => l
    | .text .. => (l.push .unreadable).endLine
    | .joined _ => (l.push .cutOff).endLine
    | _ => if l.opened.isEmpty then l.endLine else (l.push .cutOff).endLine

end Lexer

/-- Makes every end of a line a line feed. -/
def plainLineEnds : List Char → List Char
  | '\r' :: '\n' :: cs => '\n' :: plainLineEnds cs
  | '\r' :: cs => '\n' :: plainLineEnds cs
  | c :: cs => c :: plainLineEnds cs
  | [] => []

/-- The logical lines of code. -/
def linesOf (code : String) : List Line :=
  ((plainLineEnds code.toList).foldl Lexer.step Lexer.start).finish.lines.reverse

/-- The tokens of code that stands between parentheses, where the end of a line means nothing. -/
def innerTokens (cs : List Char) : List Token :=
  let l := cs.foldl Lexer.step { Lexer.start with opened := [')'], mode := .between }
  let l := l.step '\n'
  match l.mode with
  | .between => if l.opened = [')'] then l.tokens.reverse else [.unreadable]
  | _ => [.unreadable]

end LalrBackend.Code
