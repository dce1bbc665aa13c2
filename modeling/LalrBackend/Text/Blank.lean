import LalrBackend.Text.CodePoint

/-!
# Blank characters

White space in the sense of Unicode, together with the four separator controls below the space.
Stripping removes blanks at the ends of a text.
-/

namespace LalrBackend.Text

/-- Ranges of the code points that are blank. -/
def blankRanges : List CodeRange := [
  (9, 13), (28, 32), (133, 133), (160, 160), (5760, 5760), (8192, 8202), (8232, 8233), (8239, 8239),
  (8287, 8287), (12288, 12288)]

/-- A character that stripping removes. -/
def isBlank (c : Char) : Bool :=
  inRanges blankRanges c

/-- Drops the longest run of matching characters at the end. -/
def dropEnd (p : Char → Bool) (cs : List Char) : List Char :=
  (cs.reverse.dropWhile p).reverse

/-- Drops matching characters at both ends. -/
def trimBoth (p : Char → Bool) (cs : List Char) : List Char :=
  dropEnd p (cs.dropWhile p)

/-- Removes the blanks at both ends. -/
def strip (cs : List Char) : List Char :=
  trimBoth isBlank cs

/-- A text that is absent or blank throughout has no code in it. -/
def hasCode : Option String → Bool
  | none => false
  | some code => code.toList.any fun c => !isBlank c

end LalrBackend.Text
