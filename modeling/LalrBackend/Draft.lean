/-!
# Drafts

A draft is a text that is written line by line until it is done or something fails. What was
written before a failure stays written. Lines may hold line feeds of their own.
-/

namespace LalrBackend

/-- The lines written, and the failure that ended the writing, if there was one. -/
structure Draft (ε : Type) where
  lines : List String
  failure : Option ε
  deriving Repr, DecidableEq

namespace Draft

variable {ε : Type}

/-- A draft of some lines. -/
def ofLines (ls : List String) : Draft ε :=
  ⟨ls, none⟩

/-- A draft that fails at once. -/
def fail (e : ε) : Draft ε :=
  ⟨[], some e⟩

/-- One draft after another; the second one is not begun if the first one fails. -/
def append (a b : Draft ε) : Draft ε :=
  match a.failure with
  | some _ => a
  | none => ⟨a.lines ++ b.lines, b.failure⟩

instance : Append (Draft ε) :=
  ⟨append⟩

/-- Several drafts, one after the other. -/
def concat (ds : List (Draft ε)) : Draft ε :=
  ds.foldr append ⟨[], none⟩

/-- The lines that a computation yields, or its failure. -/
def ofExcept : Except ε (List String) → Draft ε
  | .ok ls => ofLines ls
  | .error e => fail e

/-- The text of a draft: each line and a line feed. -/
def text (d : Draft ε) : String :=
  String.join (d.lines.map (· ++ "\n"))

end Draft

end LalrBackend
