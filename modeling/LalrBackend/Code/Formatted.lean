import LalrBackend.Code.Literal

/-!
# Formatted texts

A formatted text holds fields between braces; a doubled brace stands for itself. A field is an
expression, perhaps with its own text in front of its value, a conversion and a format, which is a
formatted text again and holds fields at most one level deep.
-/

namespace LalrBackend.Code

/-- A piece of a formatted text. A field that shows itself keeps its text. -/
inductive Piece where
  | literal (s : String)
  | field (code : List Char) (shows : Bool) (format : List Piece)

/-- The bracket that closes another one. -/
def closing (c : Char) : Char :=
  if c = '(' then ')' else if c = '[' then ']' else '\x7d'

/-- Whether a character opens a bracket. -/
def isOpening (c : Char) : Bool :=
  c == '(' || c == '[' || c == '\x7b'

/-- Whether a character closes a bracket. -/
def isClosing (c : Char) : Bool :=
  c == ')' || c == ']' || c == '\x7d'

/-- Takes a text between quotes, after what opens it. -/
def takeQuoted? (quote : Char) (triple : Bool) : List Char → Option (List Char × List Char)
  | [] => none
  | c :: cs =>
    if c = '\\' then none
    else if c = quote then
      if !triple then some ([c], cs)
      else if [quote, quote].isPrefixOf cs then some ([c, quote, quote], cs.drop 2)
      else (takeQuoted? quote triple cs).map fun (t, rest) => (c :: t, rest)
    else (takeQuoted? quote triple cs).map fun (t, rest) => (c :: t, rest)

/-- Takes the expression of a field, given the brackets that are open in it. -/
def takeField? : Nat → List Char → List Char → Option (List Char × List Char)
  | 0, _, _ => none
  | _, _, [] => none
  | fuel + 1, opened, c :: cs =>
    let goOn := fun (taken rest opened : List Char) =>
      (takeField? fuel opened rest).map fun (t, rest) => (taken ++ t, rest)
    if c = '\\' ∨ c = '#' then none
    else if c = '\'' ∨ c = '"' then
      if [c, c].isPrefixOf cs then do
        let (t, rest) ← takeQuoted? c true (cs.drop 2)
        goOn (c :: c :: c :: t) rest opened
      else do
        let (t, rest) ← takeQuoted? c false cs
        goOn (c :: t) rest opened
    else if isOpening c then goOn [c] cs (closing c :: opened)
    else
      match opened with
      | [] =>
        if c ∈ ['!', '=', '<', '>'] ∧ cs.head? = some '=' then goOn [c, '='] (cs.drop 1) []
        else if c ∈ ['!', ':', '\x7d', '='] then some ([], c :: cs)
        else if isClosing c then none
        else goOn [c] cs []
      | o :: os =>
        if isClosing c then (if c = o then goOn [c] cs os else none) else goOn [c] cs opened

/-- Takes the literal characters in front of a field or an end. At the outermost level a doubled
brace stands for one, and only there a closing one must be doubled. A backslash before a single
brace stands for itself, as two of them do. -/
def takeLiteral? (raw outermost : Bool) : Nat → List Char → Option (List Char × List Char)
  | 0, _ => none
  | _, [] => some ([], [])
  | fuel + 1, c :: cs =>
    let goOn := fun (taken rest : List Char) =>
      (takeLiteral? raw outermost fuel rest).map fun (t, rest) => (taken ++ t, rest)
    let atBrace := fun (before rest : List Char) (brace : Char) =>
      if outermost then
        if rest.head? = some brace then goOn (before ++ [brace]) (rest.drop 1)
        else if brace = '\x7d' then none
        else some (before ++ before, brace :: rest)
      else some (before ++ before, brace :: rest)
    if c = '\\' ∧ !raw then
      match cs with
      | 'N' :: '\x7b' :: rest =>
        let name := rest.takeWhile (· != '\x7d')
        goOn ('\\' :: 'N' :: '\x7b' :: name ++ (rest.drop name.length).take 1)
          (rest.drop (name.length + 1))
      | d :: rest => if d = '\x7b' ∨ d = '\x7d' then atBrace [c] rest d else goOn [c, d] rest
      | [] => some ([c], [])
    else if c = '\x7b' ∨ c = '\x7d' then atBrace [] cs c
    else goOn [c] cs

/-- Drops the blanks of code. -/
def dropBlanks (cs : List Char) : List Char :=
  cs.dropWhile fun c => c == ' ' || (9 ≤ c.toNat && c.toNat ≤ 13)

/-- Reads a conversion. -/
def takeConversion? : List Char → Option (List Char)
  | '!' :: c :: rest => if c ∈ ['s', 'r', 'a'] then some rest else none
  | '!' :: [] => none
  | rest => some rest

mutual

/-- The pieces of a text, with what follows it: nothing at the outermost level, else the brace
that ends the field around it. -/
def pieces? (raw : Bool) : Nat → Nat → List Char → Option (List Piece × List Char)
  | 0, _, _ => none
  | fuel + 1, level, cs => do
    let (literal, rest) ← takeLiteral? raw (level = 0) (cs.length + 1) cs
    let s ← readText? raw literal
    match rest with
    | '\x7b' :: rest =>
      let (field, rest) ← field? raw fuel level rest
      let (ps, rest) ← pieces? raw fuel level rest
      return (.literal s :: field :: ps, rest)
    | rest => return ([.literal s], rest)

/-- Reads a field after the brace that opens it. -/
def field? (raw : Bool) : Nat → Nat → List Char → Option (Piece × List Char)
  | 0, _, _ => none
  | fuel + 1, level, cs => do
    if 2 ≤ level then none
    let (code, rest) ← takeField? (cs.length + 1) [] cs
    if (dropBlanks code).isEmpty then none
    let shows := rest.head? = some '='
    let rest ← takeConversion? (if shows then dropBlanks (rest.drop 1) else rest)
    match rest with
    | ':' :: rest =>
      let (format, rest) ← pieces? raw fuel (level + 1) rest
      if rest.head? = some '\x7d' then return (.field code shows format, rest.drop 1) else none
    | '\x7d' :: rest => return (.field code shows [], rest)
    | _ => none

end

/-- The pieces of a formatted text, given without its quotes. -/
def piecesOf? (raw : Bool) (cs : List Char) : Option (List Piece) :=
  match pieces? raw (cs.length + 2) 0 cs with
  | some (ps, []) => some ps
  | _ => none

end LalrBackend.Code
