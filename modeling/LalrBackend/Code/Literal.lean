import LalrBackend.Code.Syntax
import LalrBackend.Text.CharacterName
import LalrBackend.Text.CodePoint

/-!
# Literals

Numbers are integers in base two, eight, ten or sixteen, all but those of base ten with a mark,
or decimals with a point or an exponent; a last letter makes a number imaginary. Single underscores
may stand between digits. Texts stand between quotes; a backslash begins an escape or, where it
begins none, stands for itself. Bytes are texts of small characters.
-/

namespace LalrBackend.Code

open Text

/-! ## Numbers -/

/-- The base that a letter after a leading zero marks. -/
def baseOf? (mark : Char) : Option Nat :=
  match mark.toLower with
  | 'b' => some 2
  | 'o' => some 8
  | 'x' => some 16
  | _ => none

/-- Whether a character may go on a name. -/
def isWordPart (c : Char) : Bool :=
  c.isAlphanum || c == '_' || 128 ≤ c.toNat

/-- The words that may follow a number without a blank. -/
def joiningWords : List (List Char) :=
  ["and", "else", "for", "if", "in", "is", "or", "not"].map String.toList

/-- Whether a number may end before characters. -/
def endsNumber (rest : List Char) : Bool :=
  match rest with
  | [] => true
  | c :: _ => !isWordPart c || 128 ≤ c.toNat || joiningWords.any (·.isPrefixOf rest)

/-- The number of a literal, if what follows may follow it. One that is too long has no value. -/
def endedBy (rest : List Char) (c : Option Constant) : Option (Option Constant × List Char) :=
  if endsNumber rest then some (c, rest) else none

/-- Takes digits of a base that may be parted by single underscores; neither the first nor the last
character is one. The digits are given without underscores. -/
def takeDigits? (base : Nat) : List Char → Option (List Char × List Char)
  | [] => none
  | c :: cs =>
    match digitIn? base c with
    | none => none
    | some _ =>
      match cs with
      | '_' :: rest => (takeDigits? base rest).map fun (ds, rest) => (c :: ds, rest)
      | rest =>
        match takeDigits? base rest with
        | some (ds, rest) => some (c :: ds, rest)
        | none =>
          if (rest.head?.bind (digitIn? base)).isSome then none else some ([c], rest)

/-- Takes digits of base ten, of which there may be none. -/
def takeDecimals? (cs : List Char) : Option (List Char × List Char) :=
  if (cs.head?.map Char.isDigit).getD false then takeDigits? 10 cs else some ([], cs)

/-- Takes a sign. -/
def takeSign : List Char → List Char × List Char
  | '+' :: cs => ([], cs)
  | '-' :: cs => (['-'], cs)
  | cs => ([], cs)

/-- Takes an exponent. A letter that begins a word begins none. -/
def takeExponent? (cs : List Char) : Option (List Char × List Char) :=
  match cs with
  | e :: rest =>
    if e = 'e' ∨ e = 'E' then
      let (sign, digits) := takeSign rest
      match takeDigits? 10 digits with
      | some (ds, rest) => some ('e' :: sign ++ ds, rest)
      | none => if endsNumber cs then some ([], cs) else none
    else some ([], cs)
  | [] => some ([], cs)

/-- The number that decimal digits with a fraction and an exponent spell. -/
def realOf? (whole fraction exponent : List Char) : Option Binary64 :=
  (Binary64.readUnsigned? false (whole ++ '.' :: fraction ++ exponent)).map (·.1)

/-- An integer in base ten, without a value if it is too long. One that begins with zero may hold
nothing else. -/
def decimalOf? (digits : List Char) : Option (Option Constant) :=
  let n := digits.foldl (fun n c => n * 10 + (c.toNat - '0'.toNat)) 0
  if digits.head? = some '0' ∧ n ≠ 0 then none
  else if mostDigits < digits.length then some none
  else some (some (.int n))

/-- Takes what follows the whole part of a decimal. -/
def takeFraction? (cs : List Char) : Option (Option (List Char) × List Char) :=
  match cs with
  | '.' :: rest => (takeDecimals? rest).map fun (ds, rest) => (some ds, rest)
  | rest => some (none, rest)

/-- Takes a decimal number. -/
def takeDecimal? (cs : List Char) : Option (Option Constant × List Char) := do
  let (whole, rest) ← takeDecimals? cs
  let (fraction, rest) ← takeFraction? rest
  let (exponent, rest) ← takeExponent? rest
  let real := realOf? whole (fraction.getD []) exponent
  match rest with
  | j :: after =>
    if j = 'j' ∨ j = 'J' then endedBy after (some (.imaginary (← real)))
    else if fraction.isSome ∨ !exponent.isEmpty then endedBy rest (some (.real (← real)))
    else endedBy rest (← decimalOf? whole)
  | [] =>
    if fraction.isSome ∨ !exponent.isEmpty then return (some (.real (← real)), [])
    else return (← decimalOf? whole, [])

/-- Takes the number at the front of characters that begin with a digit, or with a point and a
digit. -/
def takeNumber? (cs : List Char) : Option (Option Constant × List Char) :=
  match cs with
  | '0' :: mark :: rest =>
    match baseOf? mark with
    | some base => do
      let digits := if rest.head? = some '_' then rest.drop 1 else rest
      let (ds, rest) ← takeDigits? base digits
      if (rest.head?.map Char.isDigit).getD false then none
      else
        let n := ds.foldl (fun n c => n * base + (digitValue? c).getD 0) 0
        endedBy rest (some (.int n))
    | none => takeDecimal? cs
  | cs => takeDecimal? cs

/-! ## Texts -/

/-- The character of a letter escape. -/
def letterEscape? (c : Char) : Option Char :=
  match c with
  | '\\' => some '\\'
  | '\'' => some '\''
  | '"' => some '"'
  | 'a' => some (Char.ofNat 7)
  | 'b' => some (Char.ofNat 8)
  | 'f' => some (Char.ofNat 12)
  | 'n' => some '\n'
  | 'r' => some '\r'
  | 't' => some '\t'
  | 'v' => some (Char.ofNat 11)
  | _ => none

/-- How many hexadecimal digits follow the letter of an escape by number. Bytes know the shortest
one only. -/
def pointWidth? (ofBytes : Bool) (c : Char) : Option Nat :=
  match c with
  | 'x' => some 2
  | 'u' => if ofBytes then none else some 4
  | 'U' => if ofBytes then none else some 8
  | _ => none

/-- The characters of an escape by number. A byte has eight bits. -/
def escaped (ofBytes : Bool) (value : Nat) : List Char :=
  if ofBytes then [Char.ofNat (value % 256)] else spell value

/-- Where the reading of a text between quotes stands. -/
inductive TextState where
  | plain
  | escape
  | octal (left value : Nat)
  | point (left value : Nat)
  | named
  | inName (backwards : List Char)
  deriving Repr, DecidableEq

/-- What the characters between two quotes stand for. A backslash before the end of a line joins
the next line. -/
def unescape? (ofBytes : Bool) : TextState → List Char → Option (List Char)
  | .plain, [] => some []
  | .octal _ value, [] => some (escaped ofBytes value)
  | _, [] => none
  | .plain, c :: cs =>
    if c = '\\' then unescape? ofBytes .escape cs
    else (unescape? ofBytes .plain cs).map (c :: ·)
  | .escape, c :: cs =>
    match letterEscape? c, pointWidth? ofBytes c, digitIn? 8 c with
    | some d, _, _ => (unescape? ofBytes .plain cs).map (d :: ·)
    | _, some width, _ => unescape? ofBytes (.point width 0) cs
    | _, _, some d => unescape? ofBytes (.octal 2 d) cs
    | _, _, _ =>
      if c = '\n' then unescape? ofBytes .plain cs
      else if c = 'N' ∧ !ofBytes then unescape? ofBytes .named cs
      else (unescape? ofBytes .plain cs).map fun rest => '\\' :: c :: rest
  | .octal left value, c :: cs =>
    match left, digitIn? 8 c with
    | left + 1, some d => unescape? ofBytes (.octal left (value * 8 + d)) cs
    | _, _ =>
      if c = '\\' then (unescape? ofBytes .escape cs).map (escaped ofBytes value ++ ·)
      else (unescape? ofBytes .plain cs).map fun rest => escaped ofBytes value ++ c :: rest
  | .point left value, c :: cs =>
    match digitIn? 16 c with
    | some d =>
      let value := value * 16 + d
      if 1 < left then unescape? ofBytes (.point (left - 1) value) cs
      else if 0x10ffff < value then none
      else (unescape? ofBytes .plain cs).map (escaped ofBytes value ++ ·)
    | none => none
  | .named, c :: cs => if c = '\x7b' then unescape? ofBytes (.inName []) cs else none
  | .inName backwards, c :: cs =>
    if c = '\x7d' then
      match characterNamed? backwards.reverse with
      | some character => (unescape? ofBytes .plain cs).map (spell character ++ ·)
      | none => none
    else unescape? ofBytes (.inName (c :: backwards)) cs

/-- The text that a literal stands for, without its quotes. In a raw one a backslash stands for
itself. -/
def readText? (raw : Bool) (cs : List Char) : Option String :=
  if raw then some (String.ofList cs) else (unescape? false .plain cs).map String.ofList

/-- The bytes that a literal stands for, without its quotes. -/
def readBytes? (raw : Bool) (cs : List Char) : Option (List Nat) :=
  if cs.any (128 ≤ ·.toNat) then none
  else (if raw then some cs else unescape? true .plain cs).map (·.map Char.toNat)

end LalrBackend.Code
