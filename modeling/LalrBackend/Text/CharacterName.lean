import LalrBackend.Text.CharacterNameRows
import LalrBackend.Text.Numeral

/-!
# Characters by name

The character that has a name in Unicode 14. Ideographs are named by their numbers, syllables of Hangul
by their sounds. All other names stand in rows: a name takes over characters from the front and from the
back of the name before it, and belongs to the next character unless a number says to which.
-/

namespace LalrBackend.Text

/-! ## Names by number -/

/-- The beginnings of names that end in a number, with the ranges of characters that have them, and
whether small letters count as capital ones. -/
def numberedNames : List (String × Bool × List (Nat × Nat)) := [
  ("CJK UNIFIED IDEOGRAPH-", false, [(0x3400, 0x4dbf), (0x4e00, 0x9fff), (0x20000, 0x2a6df),
    (0x2a700, 0x2b738), (0x2b740, 0x2b81d), (0x2b820, 0x2cea1), (0x2ceb0, 0x2ebe0),
    (0x30000, 0x3134a)]),
  ("CJK COMPATIBILITY IDEOGRAPH-", true,
    [(0xf900, 0xfa6d), (0xfa70, 0xfad9), (0x2f800, 0x2fa1d)]),
  ("KHITAN SMALL SCRIPT CHARACTER-", true, [(0x18b00, 0x18cd5)]),
  ("NUSHU CHARACTER-", true, [(0x1b170, 0x1b2fb)])]

/-- Letters as capital ones. -/
def capitals (cs : List Char) : List Char :=
  cs.map Char.toUpper

/-- The number that hexadecimal digits write with capital letters. -/
def readHexadecimal? (cs : List Char) : Option Nat :=
  cs.foldlM (fun n c => do
    return n * 16 + (← if c.isLower then none else digitIn? 16 c)) 0

/-- The digits of a number in the name of its character. -/
def hexadecimal (n : Nat) : List Char :=
  capitals (Nat.toDigits 16 n)

/-- The character that a name with a number names. Where small letters do not count, there may be a
zero in front of four digits. -/
def numberedCharacter? (name : List Char) : Option Nat :=
  numberedNames.findSome? fun (start, folds, ranges) => do
    let name := if folds then capitals name else name
    let digits ← if start.toList.isPrefixOf name then some (name.drop start.length) else none
    let n ← readHexadecimal? digits
    let exact := digits == hexadecimal n || !folds && digits == '0' :: hexadecimal n
    if exact && ranges.any fun (first, last) => first ≤ n && n ≤ last then return n else none

/-! ## Syllables of Hangul -/

/-- The sounds that a syllable begins with. -/
def firstSounds : List String :=
  ["G", "GG", "N", "D", "DD", "R", "M", "B", "BB", "S", "SS", "", "J", "JJ", "C", "K", "T", "P", "H"]

/-- The sounds in the middle of a syllable. -/
def middleSounds : List String :=
  ["A", "AE", "YA", "YAE", "EO", "E", "YEO", "YE", "O", "WA", "WAE", "OE", "YO", "U", "WEO", "WE",
    "WI", "YU", "EU", "YI", "I"]

/-- The sounds that a syllable ends with. -/
def lastSounds : List String :=
  ["", "G", "GG", "GS", "N", "NJ", "NH", "D", "L", "LG", "LM", "LB", "LS", "LT", "LP", "LH", "M", "B",
    "BS", "S", "SS", "NG", "J", "C", "K", "T", "P", "H"]

/-- How the names of syllables begin. -/
def syllableStart : String := "HANGUL SYLLABLE "

/-- The syllable that a name spells by its sounds. -/
def spelledSyllable? (name : List Char) : Option Nat :=
  let spelt := String.ofList (name.drop syllableStart.length)
  if syllableStart.toList.isPrefixOf name then
    firstSounds.zipIdx.findSome? fun (a, i) =>
      middleSounds.zipIdx.findSome? fun (b, j) =>
        lastSounds.zipIdx.findSome? fun (c, k) =>
          if a ++ b ++ c = spelt then some (0xac00 + (i * 21 + j) * 28 + k) else none
  else none

/-! ## Names in rows -/

/-- The marks of numbers in rows, from zero on. -/
def rowMarks : List Char :=
  "abcdefghijklmnopqrstuvwxyz!#$%&()*+,.:;<>?@[]^_|".toList

/-- The mark before the number of a character. -/
def jumpMark : Char := '~'

/-- A name in a row: the number of its character if it is not the next one, how many characters it
takes over from the front and from the back of the name before it, and those between them. -/
structure NameRow where
  character : Option Nat
  front : Nat
  back : Nat
  middle : List Char

/-- Whether a character stands in names themselves. -/
def isNameChar (c : Char) : Bool :=
  ('A' ≤ c && c ≤ 'Z') || c.isDigit || c == ' ' || c == '-'

/-- Takes the next name from a row. -/
def takeRow? (cs : List Char) : Option (NameRow × List Char) :=
  let (character, cs) :=
    match cs with
    | c :: rest =>
      if c = jumpMark then
        (readHexadecimal? (rest.takeWhile isNameChar), rest.dropWhile isNameChar)
      else (none, cs)
    | [] => (none, [])
  match cs with
  | front :: back :: rest =>
    some (⟨character, rowMarks.idxOf front, rowMarks.idxOf back, rest.takeWhile isNameChar⟩,
      rest.dropWhile isNameChar)
  | _ => none

/-- The name of a row after another name. -/
def NameRow.name (r : NameRow) (before : List Char) : List Char :=
  before.take r.front ++ r.middle ++ before.drop (before.length - r.back)

/-- Finds a name in rows, given the next character and the name before it. -/
def findName (name : List Char) : Nat → Nat → List Char → List Char → Option Nat
  | 0, _, _, _ => none
  | fuel + 1, next, before, cs => do
    let (r, rest) ← takeRow? cs
    let character := r.character.getD next
    let found := r.name before
    if found = name then return character else findName name fuel (character + 1) found rest

/-- The character that a name in the rows names. -/
def listedCharacter? (name : List Char) : Option Nat :=
  let rows := characterNameRows.flatMap String.toList
  findName name rows.length 0 [] rows

/-- The character that a name names. -/
def characterNamed? (name : List Char) : Option Nat :=
  (spelledSyllable? name).or ((numberedCharacter? name).or (listedCharacter? (capitals name)))

end LalrBackend.Text
