import LalrBackend.Proofs.Grammar.Calls
import LalrBackend.Proofs.Reduction.Order
import LalrBackend.Proofs.Text.Mark

/-!
# Printed bodies

What the lines of a reduction body hold of the generated names, read off the text. The names begin
with a mark that no label, type or symbol name holds, so each occurrence of the mark in a line is a
name that the statement of the line assigns or uses, or a part of a read of the stack.
-/

namespace LalrBackend.Reduction

open Text

/-! ## Marks -/

/-- The mark that names of the generated code begin with. -/
def ownMark : List Char := ['C', 'U', 'P', '_']

/-- The name of the result, as a mark. -/
def resultMark : List Char := ['R', 'E', 'S', 'U', 'L', 'T']

/-- A text holds neither the mark of the generated code nor the name of the result. -/
structure IsUnmarked (text : List Char) : Prop where
  own : FreeOf ownMark text
  result : FreeOf resultMark text

section Unmarked

variable {a b : List Char}

theorem freeOf_ownMark (h : 'C' ∉ a) : FreeOf ownMark a :=
  freeOf_of_not_mem List.mem_cons_self h

theorem freeOf_resultMark (h : 'R' ∉ a) : FreeOf resultMark a :=
  freeOf_of_not_mem List.mem_cons_self h

theorem not_mem_decimal {c : Char} (h : c ∉ '-' :: (List.range 10).map Nat.digitChar) (n : Int) :
    c ∉ (decimal n).toList := by
  intro hc
  rw [decimal, String.toList_ofList] at hc
  rcases List.mem_append.mp hc with hc | hc
  · unfold signText at hc
    split at hc
    · obtain rfl := List.mem_singleton.mp hc
      exact h List.mem_cons_self
    · cases hc
  · obtain ⟨k, hk, rfl⟩ := exists_digit_of_mem (by decide) hc
    exact h (List.mem_cons_of_mem _ (List.mem_map_of_mem (List.mem_range.mpr hk)))

end Unmarked

/-! ## What the mark stands in front of -/

/-- The name of a variable behind its mark. -/
def Slot.rest : Slot → String
  | .right => "right"
  | .left => "left"
  | .labelled label => "sym" ++ label

/-- How a read of the stack goes on behind the name of the stack. -/
def offsetText (distance : Int) : String :=
  if distance = 1 then "[-1]" else "[CUP_size - " ++ decimal distance ++ "]"

/-- What can stand behind the mark in the line of a statement. -/
inductive Statement.Mentions (c : Config) : Statement → List Char → Prop where
  | target {slot : Slot} {d : Int} : Mentions c (.bindSlot slot d)
      (slot.rest.toList ++ (" = ".toList ++ (stackAccess c d).toList))
  | read {s : Statement} {d : Int} {rest : List Char} (hd : s.distance? = some d) :
      Mentions c s ("stack".toList ++ ((offsetText d).toList ++ rest))
  | size {s : Statement} {rest : List Char} : Mentions c s ("size".toList ++ rest)
  | part {s : Statement} {slot : Slot} {field : String} (hslot : .slot slot ∈ s.used)
      (hfield : field ∈ [".left", ".right", ".value"]) :
      Mentions c s (slot.rest.toList ++ field.toList)
  | extent {s : Statement} {slot : Slot} {rest : List Char} (hslot : .slot slot ∈ s.used)
      (hend : slot = .right ∨ slot = .left) : Mentions c s (slot.rest.toList ++ rest)
  | symbol {s : Statement} {rest : List Char} : Mentions c s ("result".toList ++ rest)
  | factory {s : Statement} {rest : List Char} : Mentions c s ("parser.get".toList ++ rest)
  | accept : Mentions c .accept "parser.done_parsing()".toList

/-- The label in the name of a variable. -/
def Slot.texts : Slot → List String
  | .labelled label => [label]
  | _ => []

/-- The texts from outside that a statement is printed with. -/
def Statement.texts : Statement → List String
  | .startResult valueType _ => [valueType]
  | .bindSlot slot _ => slot.texts
  | .bindLeft label slot => label :: slot.texts
  | .bindRight label slot => label :: slot.texts
  | .bindValue label valueType slot => label :: valueType :: slot.texts
  | .construct name .. => [name]
  | _ => []

/-- A statement that bodies have of their own: none of the user's, and no symbol that extends
between others than the ends of the right side. -/
def Statement.IsOwn : Statement → Prop
  | .user _ => False
  | .construct _ _ (some (first, last)) _ => first.texts = [] ∧ last.texts = []
  | _ => True

section Mentions

variable {c : Config} {s : Statement} {d : Int} {a b : List Char} {P : List Char → Prop}

theorem toList_name (slot : Slot) : slot.name.toList = ownMark ++ slot.rest.toList := by
  cases slot <;> simp [Slot.name, Slot.rest, internal, ownMark]

theorem freeOf_rest {slot : Slot} (h : ∀ t ∈ slot.texts, FreeOf ownMark t.toList) :
    FreeOf ownMark slot.rest.toList := by
  cases slot with
  | right => exact freeOf_ownMark (by decide)
  | left => exact freeOf_ownMark (by decide)
  | labelled label =>
      rw [Slot.rest, String.toList_append]
      exact .append_of_last (freeOf_ownMark (by decide)) (h label (List.mem_singleton_self label))
        (by simp [ownMark])

/-- Behind a free text comes an occurrence of the mark. -/
theorem behind_append (ha : FreeOf ownMark a) (hb : P b) (h : Behind ownMark P b) :
    Behind ownMark P (a ++ (ownMark ++ b)) :=
  Behind.append (by decide) ha hb h

/-- A read of the stack, between free texts. -/
theorem behind_stackAccess (ha : FreeOf ownMark a) (hb : FreeOf ownMark b)
    (hhead : ∀ c ∈ b.head?, c ∉ ownMark)
    (hread : ∀ rest, P ("stack".toList ++ ((offsetText d).toList ++ rest)))
    (hsize : ∀ rest, P ("size".toList ++ rest)) :
    Behind ownMark P (a ++ ((stackAccess c d).toList ++ b)) := by
  -- A cast only adds to the texts in front and behind.
  suffices hplain : ∀ a b, FreeOf ownMark a → FreeOf ownMark b → (∀ c ∈ b.head?, c ∉ ownMark) →
      Behind ownMark P (a ++ (ownMark ++ ("stack".toList ++ ((offsetText d).toList ++ b)))) by
    have hstack : ∀ b : List Char, (if d = 1 then internal "stack" ++ "[-1]"
        else internal "stack" ++ "[" ++ internal "size" ++ " - " ++ decimal d ++ "]").toList ++ b =
          ownMark ++ ("stack".toList ++ ((offsetText d).toList ++ b)) := by
      intro b
      unfold offsetText
      split <;> simp [internal, ownMark]
    unfold stackAccess
    cases c.genericStack with
    | true =>
        rw [if_pos rfl, hstack]
        exact hplain a b ha hb hhead
    | false =>
        have hcast := hplain (a ++ "cast(Symbol, ".toList) (")".toList ++ b)
          (ha.append_of_head (freeOf_ownMark (by decide)) (by simp [ownMark]))
          (.append_of_last (freeOf_ownMark (by decide)) hb (by simp [ownMark])) (by simp [ownMark])
        rw [← hstack] at hcast
        simpa using hcast
  intro a b ha hb hhead
  refine behind_append ha (hread b) ?_
  by_cases hone : d = 1
  · rw [offsetText, if_pos hone, ← List.append_assoc]
    exact behind_of_free (.append_of_last (freeOf_ownMark (by decide)) hb (by simp [ownMark]))
  · have hsplit : "stack".toList ++ ((offsetText d).toList ++ b) =
        "stack[".toList ++ (ownMark ++ ("size".toList ++ (" - ".toList ++
          ((decimal d).toList ++ ("]".toList ++ b))))) := by
      simp [offsetText, hone, ownMark]
    have hdecimal : 'C' ∉ "size".toList ++ (" - ".toList ++ (decimal d).toList) := by
      simpa using not_mem_decimal (by decide) d
    have hrest : FreeOf ownMark ("size".toList ++ (" - ".toList ++ (decimal d).toList) ++
        ("]".toList ++ b)) :=
      (freeOf_ownMark hdecimal).append_of_head
        (.append_of_last (freeOf_ownMark (by decide)) hb (by simp [ownMark])) (by simp [ownMark])
    rw [hsplit]
    refine behind_append (freeOf_ownMark (by decide)) (hsize _) (behind_of_free ?_)
    simpa using hrest

/-- What a label is bound to comes from the variable of its symbol. -/
theorem behind_part {slot : Slot} {f : String} (ha : FreeOf ownMark a)
    (hslot : ∀ t ∈ slot.texts, FreeOf ownMark t.toList)
    (hf : f ∈ [".left", ".right", ".value"]) (hused : .slot slot ∈ s.used) :
    Behind ownMark (s.Mentions c) (a ++ (slot.name.toList ++ f.toList)) := by
  have hplain : FreeOf ownMark f.toList ∧ ∀ c ∈ f.toList.head?, c ∉ ownMark := by
    have hall : ∀ f ∈ [".left", ".right", ".value"],
        'C' ∉ f.toList ∧ ∀ c ∈ f.toList.head?, c ∉ ownMark := by simp [ownMark]
    exact ⟨freeOf_ownMark (hall f hf).1, (hall f hf).2⟩
  rw [toList_name, List.append_assoc]
  exact behind_append ha (.part hused hf)
    (behind_of_free ((freeOf_rest hslot).append_of_head hplain.1 hplain.2))

/-- The variables of the two ends, between free texts. -/
theorem behind_extent {first last : Slot} (ha : FreeOf ownMark a) (hb : 'C' ∉ b)
    (hhead : ∀ c ∈ b.head?, c ∉ ownMark) (hfirst : first.texts = []) (hlast : last.texts = [])
    (hused : .slot first ∈ s.used ∧ .slot last ∈ s.used) :
    Behind ownMark (s.Mentions c)
      (a ++ (", ".toList ++ (first.name.toList ++ (", ".toList ++ (last.name.toList ++ b))))) := by
  have hend : ∀ slot : Slot, slot.texts = [] →
      (slot = .right ∨ slot = .left) ∧ FreeOf ownMark slot.rest.toList := by
    intro slot h
    refine ⟨?_, freeOf_rest (by simp [h])⟩
    cases slot with
    | right => exact .inl rfl
    | left => exact .inr rfl
    | labelled label => cases h
  have hcomma : FreeOf ownMark ", ".toList := freeOf_ownMark (by decide)
  have hinside : s.Mentions c (last.rest.toList ++ b) := .extent hused.2 (hend last hlast).1
  have hinner := behind_append
    ((hend first hfirst).2.append_of_head hcomma (by simp [ownMark])) hinside
    (behind_of_free ((hend last hlast).2.append_of_head (freeOf_ownMark hb) hhead))
  have houtside : s.Mentions c
      (first.rest.toList ++ (", ".toList ++ (ownMark ++ (last.rest.toList ++ b)))) :=
    .extent hused.1 (hend first hfirst).1
  have houter := behind_append (ha.append_of_head hcomma (by simp [ownMark])) houtside
    (by simpa using hinner)
  simpa [toList_name] using houter

/-- The making of a symbol mentions the ends. -/
theorem behind_construct {name : String} {index : Int} {extent : Option (Slot × Slot)}
    {withResult : Bool} (hname : FreeOf ownMark name.toList)
    (hown : (Statement.construct name index extent withResult).IsOwn) :
    Behind ownMark ((Statement.construct name index extent withResult).Mentions c)
      ((Statement.construct name index extent withResult).line c).toList := by
  set s := Statement.construct name index extent withResult
  have hcall : FreeOf ownMark ("parser.get".toList ++ ("_symbol_factory().new_symbol(".toList ++
      (quotedChars name.toList ++ (", ".toList ++ (decimal index).toList)))) := by
    have hindex : 'C' ∉ ", ".toList ++ (decimal index).toList := by
      simpa using not_mem_decimal (by decide) index
    have hname := (hname.quotedChars (by decide) (by decide)).append_of_head
      (freeOf_ownMark hindex) (by simp)
    rw [← List.append_assoc]
    exact .append_of_last (freeOf_ownMark (by decide)) hname (by simp [ownMark])
  suffices hcalled : Behind ownMark (s.Mentions c) ("parser.get".toList ++
      ("_symbol_factory().new_symbol(".toList ++ (quotedChars name.toList ++ (", ".toList ++
        (decimal index).toList))) ++ ((argumentText extent withResult).toList ++ ")".toList)) by
    rw [List.append_assoc] at hcalled
    have hmaker := behind_append (a := "result".toList ++ " = ".toList) (P := s.Mentions c)
      (freeOf_ownMark (by decide)) .factory hcalled
    rw [List.append_assoc] at hmaker
    have hline := behind_append (a := []) (P := s.Mentions c) (freeOf_ownMark (by decide))
      .symbol hmaker
    simpa [s, Statement.line, internal, ownMark, quoted] using hline
  cases extent with
  | none =>
      have harguments : 'C' ∉ (argumentText none withResult).toList ++ ")".toList := by
        cases withResult <;> decide
      refine behind_of_free (hcall.append_of_head (freeOf_ownMark harguments) ?_)
      cases withResult <;> simp [argumentText, ownMark]
  | some ends =>
      obtain ⟨first, last⟩ := ends
      have hrest : 'C' ∉ (if withResult then ", RESULT" else "").toList ++ ")".toList := by
        cases withResult <;> decide
      have harguments := behind_extent (c := c) (s := s) hcall hrest
        (by cases withResult <;> simp [ownMark]) hown.1 hown.2 (by simp [s, Statement.used])
      simpa [argumentText] using harguments

/-- Each occurrence of the mark in the line of a statement is one of those that the statement
mentions. -/
theorem behind_line (hs : ∀ t ∈ s.texts, FreeOf ownMark t.toList) (hown : s.IsOwn) :
    Behind ownMark (s.Mentions c) (s.line c).toList := by
  cases s with
  | startResult valueType distance =>
      have htype : FreeOf ownMark ("RESULT: ".toList ++ valueType.toList) :=
        .append_of_last (freeOf_ownMark (by decide)) (hs _ (List.mem_singleton_self _))
          (by simp [ownMark])
      have hhead : FreeOf ownMark ("RESULT: ".toList ++ valueType.toList ++ " = ".toList) :=
        htype.append_of_head (freeOf_ownMark (by decide)) (by simp [ownMark])
      cases distance with
      | none =>
          have hline := hhead.append_of_head (b := "None".toList) (freeOf_ownMark (by decide))
            (by simp [ownMark])
          exact behind_of_free (by simpa [Statement.line] using hline)
      | some d =>
          have hline := behind_stackAccess (c := c) (d := d)
            (P := (Statement.startResult valueType (some d)).Mentions c) hhead
            (b := ".value".toList) (freeOf_ownMark (by decide)) (by simp [ownMark])
            (fun rest => .read rfl) fun rest => .size
          simpa [Statement.line] using hline
  | bindSlot slot distance =>
      have hrest : FreeOf ownMark (slot.rest.toList ++ " = ".toList) :=
        (freeOf_rest hs).append_of_head (freeOf_ownMark (by decide)) (by simp [ownMark])
      have haccess := behind_stackAccess (c := c) (d := distance)
        (P := (Statement.bindSlot slot distance).Mentions c) hrest
        (b := []) (freeOf_ownMark (by decide)) (by simp [ownMark]) (fun rest => .read rfl)
        fun rest => .size
      have hline := behind_append (a := []) (freeOf_ownMark (by decide))
        (@Statement.Mentions.target c slot distance) (by simpa using haccess)
      simpa [Statement.line, toList_name] using hline
  | bindLeft label slot =>
      obtain ⟨hlabel, hslot⟩ := List.forall_mem_cons.mp hs
      have hline := behind_part (c := c) (s := .bindLeft label slot) (hlabel.append_of_head
        (b := "left = ".toList) (freeOf_ownMark (by decide)) (by simp [ownMark])) hslot
        (f := ".left") (by decide) (List.mem_singleton_self _)
      simpa [Statement.line] using hline
  | bindRight label slot =>
      obtain ⟨hlabel, hslot⟩ := List.forall_mem_cons.mp hs
      have hline := behind_part (c := c) (s := .bindRight label slot) (hlabel.append_of_head
        (b := "right = ".toList) (freeOf_ownMark (by decide)) (by simp [ownMark])) hslot
        (f := ".right") (by decide) (List.mem_singleton_self _)
      simpa [Statement.line] using hline
  | bindValue label valueType slot =>
      obtain ⟨hlabel, hs⟩ := List.forall_mem_cons.mp hs
      obtain ⟨htype, hslot⟩ := List.forall_mem_cons.mp hs
      have htarget : FreeOf ownMark (label.toList ++ (": ".toList ++ valueType.toList)) :=
        hlabel.append_of_head
          (.append_of_last (freeOf_ownMark (by decide)) htype (by simp [ownMark]))
          (by simp [ownMark])
      have hline := behind_part (c := c) (s := .bindValue label valueType slot)
        (htarget.append_of_head (b := " = ".toList) (freeOf_ownMark (by decide))
          (by simp [ownMark]))
        hslot (f := ".value") (by decide) (List.mem_singleton_self _)
      simpa [Statement.line] using hline
  | user line => exact hown.elim
  | construct name index extent withResult =>
      exact behind_construct (hs name (List.mem_singleton_self name)) hown
  | announce =>
      have hfree : FreeOf ownMark "# ACCEPT".toList :=
        freeOf_of_not_mem (c := 'U') (by decide) (by decide)
      exact behind_of_free hfree
  | accept =>
      have hline := behind_append (a := []) (P := Statement.accept.Mentions c)
        (freeOf_ownMark (by decide)) .accept (behind_of_free (freeOf_ownMark (by decide)))
      simpa [Statement.line, internal, ownMark] using hline
  | finish =>
      have hline := behind_append (a := "return ".toList) (P := Statement.finish.Mentions c)
        (freeOf_ownMark (by decide)) (@Statement.Mentions.symbol c .finish [])
        (behind_of_free (freeOf_ownMark (by decide)))
      simpa [Statement.line, internal, ownMark] using hline

/-! ## The name of the result -/

theorem not_mem_stackAccess (c : Config) (d : Int) : 'R' ∉ (stackAccess c d).toList := by
  have hdecimal := not_mem_decimal (c := 'R') (by decide) d
  unfold stackAccess internal
  cases c.genericStack <;> by_cases hone : d = 1 <;> simp [hone, hdecimal]

theorem freeOf_name {slot : Slot} (h : ∀ t ∈ slot.texts, FreeOf resultMark t.toList) :
    FreeOf resultMark slot.name.toList := by
  cases slot with
  | right => exact freeOf_resultMark (by decide)
  | left => exact freeOf_resultMark (by decide)
  | labelled label =>
      have hsym : (Slot.labelled label).name.toList = "CUP_sym".toList ++ label.toList := by
        simp [Slot.name, internal]
      rw [hsym]
      exact .append_of_last (freeOf_resultMark (by decide))
        (h label (List.mem_singleton_self label)) (by simp [resultMark])

theorem not_mem_name {slot : Slot} (h : slot.texts = []) : 'R' ∉ slot.name.toList := by
  cases slot with
  | right => decide
  | left => decide
  | labelled label => cases h

/-- A line that takes a part of a symbol does not name the result. -/
theorem freeOf_part {slot : Slot} {f : String} (ha : FreeOf resultMark a)
    (hlast : ∀ c ∈ a.getLast?, c ∉ resultMark)
    (hslot : ∀ t ∈ slot.texts, FreeOf resultMark t.toList)
    (hf : f ∈ [".left", ".right", ".value"]) :
    FreeOf resultMark (a ++ (slot.name.toList ++ f.toList)) := by
  have hall : ∀ f ∈ [".left", ".right", ".value"],
      'R' ∉ f.toList ∧ ∀ c ∈ f.toList.head?, c ∉ resultMark := by simp [resultMark]
  exact ha.append_of_last ((freeOf_name hslot).append_of_head
    (freeOf_resultMark (hall f hf).1) (hall f hf).2) hlast

/-- A line that starts the result names it at the front only. -/
theorem behind_result {valueType value : String} (htype : FreeOf resultMark valueType.toList)
    (hvalue : 'R' ∉ value.toList) : Behind resultMark
      (fun after => ("RESULT: " ++ valueType ++ " = " ++ value).toList = resultMark ++ after)
      ("RESULT: " ++ valueType ++ " = " ++ value).toList := by
  have hline : ("RESULT: " ++ valueType ++ " = " ++ value).toList =
      [] ++ (resultMark ++ (": ".toList ++ (valueType.toList ++
        (" = ".toList ++ value.toList)))) := by
    simp [resultMark]
  have hrest : 'R' ∉ " = ".toList ++ value.toList := by simpa using hvalue
  have htyped := htype.append_of_head (freeOf_resultMark hrest) (by simp [resultMark])
  rw [hline]
  exact Behind.append (by decide) (freeOf_resultMark (by decide)) rfl
    (behind_of_free (.append_of_last (freeOf_resultMark (by decide)) htyped (by simp)))

/-- The making of a symbol that has no value does not name the result. -/
theorem freeOf_construct {name : String} {index : Int} {extent : Option (Slot × Slot)}
    (hname : FreeOf resultMark name.toList)
    (hown : (Statement.construct name index extent false).IsOwn) :
    FreeOf resultMark ((Statement.construct name index extent false).line c).toList := by
  have hquoted := hname.quotedChars (by decide) (by decide)
  have hends : 'R' ∉ (argumentText extent false).toList := by
    cases extent with
    | none => decide
    | some ends =>
        have hfirst := not_mem_name hown.1
        have hlast := not_mem_name hown.2
        simp [argumentText, hfirst, hlast]
  have harguments : 'R' ∉ ", ".toList ++ ((decimal index).toList ++
      ((argumentText extent false).toList ++ ")".toList)) := by
    simpa [hends] using not_mem_decimal (by decide) index
  have hline : FreeOf resultMark (("CUP_result = CUP_parser.get_symbol_factory()" ++
      ".new_symbol(").toList ++ (quotedChars name.toList ++ (", ".toList ++
        ((decimal index).toList ++ ((argumentText extent false).toList ++ ")".toList))))) :=
    .append_of_last (freeOf_resultMark (by decide)) (hquoted.append_of_head
      (freeOf_resultMark harguments) (by simp)) (by simp [resultMark])
  simpa [Statement.line, internal, quoted] using hline

/-- The line of a statement names the result only where the statement assigns it, at the front, or
if it uses it. -/
theorem result_line (hs : ∀ t ∈ s.texts, FreeOf resultMark t.toList) (hown : s.IsOwn) :
    Behind resultMark (fun after => s.assigned? = some .result ∧
      (s.line c).toList = resultMark ++ after ∨ .result ∈ s.used) (s.line c).toList := by
  cases s with
  | startResult valueType distance =>
      have htype := hs valueType (List.mem_singleton_self _)
      intro before after heq
      cases distance with
      | none =>
          have hnone : 'R' ∉ "None".toList := by decide
          exact .inl ⟨rfl, behind_result htype hnone before after heq⟩
      | some d =>
          have hread : 'R' ∉ (stackAccess c d ++ ".value").toList := by
            simpa using not_mem_stackAccess c d
          exact .inl ⟨rfl, behind_result htype hread before after heq⟩
  | bindSlot slot distance =>
      have haccess : 'R' ∉ " = ".toList ++ (stackAccess c distance).toList := by
        simpa using not_mem_stackAccess c distance
      have hline := (freeOf_name hs).append_of_head (freeOf_resultMark haccess)
        (by simp [resultMark])
      exact behind_of_free (by simpa [Statement.line] using hline)
  | bindLeft label slot =>
      obtain ⟨hlabel, hslot⟩ := List.forall_mem_cons.mp hs
      have hline := freeOf_part (a := label.toList ++ "left = ".toList) (f := ".left")
        (hlabel.append_of_head (freeOf_resultMark (by decide)) (by simp [resultMark]))
        (by simp [resultMark])
        hslot (by decide)
      exact behind_of_free (by simpa [Statement.line] using hline)
  | bindRight label slot =>
      obtain ⟨hlabel, hslot⟩ := List.forall_mem_cons.mp hs
      have hline := freeOf_part (a := label.toList ++ "right = ".toList) (f := ".right")
        (hlabel.append_of_head (freeOf_resultMark (by decide)) (by simp [resultMark]))
        (by simp [resultMark])
        hslot (by decide)
      exact behind_of_free (by simpa [Statement.line] using hline)
  | bindValue label valueType slot =>
      obtain ⟨hlabel, hs⟩ := List.forall_mem_cons.mp hs
      obtain ⟨htype, hslot⟩ := List.forall_mem_cons.mp hs
      have htarget : FreeOf resultMark (label.toList ++ (": ".toList ++ valueType.toList)) :=
        hlabel.append_of_head
          (.append_of_last (freeOf_resultMark (by decide)) htype (by simp [resultMark]))
          (by simp [resultMark])
      have hline := freeOf_part (f := ".value") (htarget.append_of_head (b := " = ".toList)
        (freeOf_resultMark (by decide)) (by simp [resultMark]))
        (by rw [List.getLast?_append]; simp [resultMark]) hslot (by decide)
      exact behind_of_free (by simpa [Statement.line] using hline)
  | user line => exact hown.elim
  | construct name index extent withResult =>
      cases withResult with
      | true =>
          have hused : OwnName.result ∈ (Statement.construct name index extent true).used :=
            List.mem_append_right _ (List.mem_singleton_self _)
          exact fun before after _ => .inr hused
      | false =>
          exact behind_of_free (freeOf_construct (hs name (List.mem_singleton_self name)) hown)
  | announce =>
      have hfree : FreeOf resultMark "# ACCEPT".toList := freeOf_resultMark (by decide)
      exact behind_of_free hfree
  | accept =>
      have hfree : FreeOf resultMark "CUP_parser.done_parsing()".toList :=
        freeOf_resultMark (by decide)
      exact behind_of_free (by simpa [Statement.line, internal] using hfree)
  | finish =>
      have hfree : FreeOf resultMark "return CUP_result".toList := freeOf_resultMark (by decide)
      exact behind_of_free (by simpa [Statement.line, internal] using hfree)

end Mentions

/-! ## The texts of a production -/

/-- The label of an entry and the type of its symbol. -/
def entryTexts : Entry → List String
  | .part part => part.label.toList ++ part.symbol.valueType.toList
  | .bare _ => []

/-- The texts that the body of a production may be printed with: the name and the type of its left
side, the labels and types of its base. -/
def printedTexts (p : Production) : List String :=
  p.rule.lhs.name :: (p.rule.lhs.valueType.toList ++ p.base.rhs.flatMap entryTexts)

section Texts

variable {c : Config} {p : Production} {isStart : Bool} {b : Body} {s : Statement} {i : Nat}
  {part : Part} {t : String}

theorem mem_printedTexts_of_part (hpart : p.part i = .ok part)
    (ht : part.label = some t ∨ part.symbol.valueType = some t) : t ∈ printedTexts p := by
  have hentry : p.base.rhs[i]? = some (.part part) := by
    rw [Production.part_eq] at hpart
    split at hpart
    · next h =>
        cases hpart
        exact h
    · cases hpart
    · cases hpart
  refine List.mem_cons_of_mem _ (List.mem_append_right _ (List.mem_flatMap.mpr
    ⟨_, List.mem_of_getElem? hentry, ?_⟩))
  simpa [entryTexts] using ht

/-- The statements of a body are printed with texts of its production. -/
theorem own_texts (h : body c p isStart = .ok b) (hs : s ∈ b.own) (ht : t ∈ s.texts) :
    t ∈ printedTexts p := by
  have hslot : ∀ {i : Nat} {part : Part} {slot : Slot}, p.part i = .ok part →
      holder? c p i part.label = some slot →
      t ∈ slot.texts → t ∈ printedTexts p := by
    intro i part slot hpart hholder ht
    cases slot with
    | right => cases ht
    | left => cases ht
    | labelled label =>
        obtain rfl := List.mem_singleton.mp ht
        exact mem_printedTexts_of_part hpart (.inl (label_of_holder hholder))
  rcases (mem_own h).mp hs with hs | hs | hs | hs
  · obtain ⟨valueType, htype, rfl⟩ := mem_startOf.mp hs
    obtain rfl := List.mem_singleton.mp ht
    simp [printedTexts, htype]
  · obtain ⟨i, hi, part, hpart, hs⟩ := exists_position h hs
    obtain ⟨slot, hholder, rfl | ⟨label, hlabel, ⟨-, rfl | rfl⟩ | ⟨valueType, htype, rfl⟩⟩⟩ :=
      mem_positionBindings hs
    · exact hslot hpart hholder ht
    · rcases List.mem_cons.mp ht with rfl | ht
      · exact mem_printedTexts_of_part hpart (.inl hlabel)
      · exact hslot hpart hholder ht
    · rcases List.mem_cons.mp ht with rfl | ht
      · exact mem_printedTexts_of_part hpart (.inl hlabel)
      · exact hslot hpart hholder ht
    · rcases List.mem_cons.mp ht with rfl | ht
      · exact mem_printedTexts_of_part hpart (.inl hlabel)
      · rcases List.mem_cons.mp ht with rfl | ht
        · exact mem_printedTexts_of_part hpart (.inr htype)
        · exact hslot hpart hholder ht
  · obtain ⟨-, ⟨-, rfl⟩ | ⟨-, -, rfl⟩⟩ := mem_extentBindingsOf.mp hs
    · cases ht
    · cases ht
  · rcases mem_endingOf.mp hs with rfl | ⟨-, rfl | rfl⟩ | rfl
    · obtain rfl := List.mem_singleton.mp ht
      exact List.mem_cons_self
    · cases ht
    · cases ht
    · cases ht

theorem own_isOwn (h : body c p isStart = .ok b) (hs : s ∈ b.own) : s.IsOwn := by
  rcases (mem_own h).mp hs with hs | hs | hs | hs
  · obtain ⟨t, -, rfl⟩ := mem_startOf.mp hs
    trivial
  · obtain ⟨i, -, part, -, hs⟩ := exists_position h hs
    obtain ⟨slot, -, rfl | ⟨label, -, ⟨-, rfl | rfl⟩ | ⟨t, -, rfl⟩⟩⟩ := mem_positionBindings hs <;>
      trivial
  · obtain ⟨-, ⟨-, rfl⟩ | ⟨-, -, rfl⟩⟩ := mem_extentBindingsOf.mp hs <;> trivial
  · rcases mem_endingOf.mp hs with rfl | ⟨-, rfl | rfl⟩ | rfl
    · unfold extentOf
      cases c.trackPositions with
      | false => trivial
      | true => by_cases hshort : p.length < 2 <;> simp [Statement.IsOwn, hshort, Slot.texts]
    · trivial
    · trivial
    · trivial

end Texts

/-! ## Well-formed lines -/

/-- A text stands somewhere in a line. -/
def Holds (line text : String) : Prop :=
  ∃ before after, line = before ++ text ++ after

/-- A line assigns a name: it begins with the name, and an equals sign or a type follows. -/
def Assigns (line name : String) : Prop :=
  ∃ rest, line = name ++ " = " ++ rest ∨ line = name ++ ": " ++ rest

/-- Wherever a line holds a name, it is the line that assigns it, which begins with it, or comes
after one that assigns it. -/
def AssignedFirst (lines : List String) (name : String) : Prop :=
  ∀ earlier line later, lines = earlier ++ line :: later →
    ∀ before after, line = before ++ name ++ after →
      before = "" ∧ Assigns line name ∨ ∃ l ∈ earlier, Assigns l name

/-- The lines that a body has of its own, without those of the user: what they read of the stack,
which names they use, and where they accept the parse. -/
structure WellFormed (c : Config) (p : Production) (isStart : Bool) (lines : List String) :
    Prop where
  reads : ∀ line ∈ lines, ∀ before after, line = before ++ "CUP_stack" ++ after →
    ∃ (d : Int) (rest : String), 1 ≤ d ∧ d ≤ max p.length 1 ∧ after = offsetText d ++ rest
  unread : p.length = 0 → c.trackPositions = false → ∀ line ∈ lines, ¬ Holds line "CUP_stack"
  assigned : ∀ name ∈ ["CUP_left", "CUP_right", "RESULT"], AssignedFirst lines name
  labels : ∀ earlier line later, lines = earlier ++ line :: later →
    ∀ before after, line = before ++ "CUP_sym" ++ after →
      ∃ i label, p.labelAt? i = some label ∧
        (before = "" ∧ (∃ rest, after = label ++ " = " ++ rest) ∨
          after ∈ [label ++ ".left", label ++ ".right", label ++ ".value"] ∧
            ∃ l ∈ earlier, Assigns l ("CUP_sym" ++ label))
  tracked : ∀ line ∈ lines, Holds line "CUP_right" → c.trackPositions
  trackedLeft : ∀ line ∈ lines, Holds line "CUP_left" → c.trackPositions ∧ 2 ≤ p.length
  accepts : isStart → ∃ earlier, lines = earlier ++ ["CUP_parser.done_parsing()",
    "return CUP_result"] ∧ ∀ line ∈ earlier, ¬ Holds line "CUP_parser.done_parsing()"
  accepted : (∃ line ∈ lines, Holds line "CUP_parser.done_parsing()") → isStart

section WellFormed

variable {c : Config} {p : Production} {isStart : Bool} {b : Body} {s : Statement}
  {x : List Char}

theorem mentions_stack (h : s.Mentions c ("stack".toList ++ x)) :
    ∃ d rest, s.distance? = some d ∧ x = (offsetText d).toList ++ rest := by
  generalize hafter : "stack".toList ++ x = after at h
  cases h with
  | @target slot d => cases slot <;> simp [Slot.rest] at hafter
  | @read s d rest hd => exact ⟨d, rest, hd, List.append_cancel_left hafter⟩
  | size => simp at hafter
  | @part s slot field hslot hfield => cases slot <;> simp [Slot.rest] at hafter
  | @extent s slot rest hslot hend => cases slot <;> simp [Slot.rest] at hafter
  | symbol => simp at hafter
  | factory => simp at hafter
  | accept => simp at hafter

/-- The name of an end is told apart from the other names by its first character. -/
theorem eq_of_rest {slot other : Slot} {y : List Char} (hend : slot = .right ∨ slot = .left)
    (h : slot.rest.toList ++ x = other.rest.toList ++ y) : other = slot ∧ x = y := by
  rcases hend with rfl | rfl <;> cases other <;> simp_all [Slot.rest]

theorem mentions_end {slot : Slot} (hend : slot = .right ∨ slot = .left)
    (h : s.Mentions c (slot.rest.toList ++ x)) :
    (∃ d, s = .bindSlot slot d ∧ x = " = ".toList ++ (stackAccess c d).toList) ∨
      .slot slot ∈ s.used := by
  generalize hafter : slot.rest.toList ++ x = after at h
  cases h with
  | @target other d =>
      obtain ⟨rfl, rfl⟩ := eq_of_rest hend hafter
      exact .inl ⟨d, rfl, rfl⟩
  | @part s other field hslot hfield => exact .inr ((eq_of_rest hend hafter).1 ▸ hslot)
  | @extent s other rest hslot hother => exact .inr ((eq_of_rest hend hafter).1 ▸ hslot)
  | read => rcases hend with rfl | rfl <;> simp [Slot.rest] at hafter
  | size => rcases hend with rfl | rfl <;> simp [Slot.rest] at hafter
  | symbol => rcases hend with rfl | rfl <;> simp [Slot.rest] at hafter
  | factory => rcases hend with rfl | rfl <;> simp [Slot.rest] at hafter
  | accept => rcases hend with rfl | rfl <;> simp [Slot.rest] at hafter

theorem mentions_label (h : s.Mentions c ("sym".toList ++ x)) :
    ∃ label, (∃ d, s = .bindSlot (.labelled label) d ∧
        x = label.toList ++ (" = ".toList ++ (stackAccess c d).toList)) ∨
      .slot (.labelled label) ∈ s.used ∧ ∃ field ∈ [".left", ".right", ".value"],
        x = label.toList ++ field.toList := by
  generalize hafter : "sym".toList ++ x = after at h
  cases h with
  | @target slot d =>
      cases slot with
      | right => simp [Slot.rest] at hafter
      | left => simp [Slot.rest] at hafter
      | labelled label =>
          rw [Slot.rest, String.toList_append, List.append_assoc] at hafter
          exact ⟨label, .inl ⟨d, rfl, List.append_cancel_left hafter⟩⟩
  | @part s slot field hslot hfield =>
      cases slot with
      | right => simp [Slot.rest] at hafter
      | left => simp [Slot.rest] at hafter
      | labelled label =>
          rw [Slot.rest, String.toList_append, List.append_assoc] at hafter
          exact ⟨label, .inr ⟨hslot, field, hfield, List.append_cancel_left hafter⟩⟩
  | @extent s slot rest hslot hend => rcases hend with rfl | rfl <;> simp [Slot.rest] at hafter
  | read => simp at hafter
  | size => simp at hafter
  | symbol => simp at hafter
  | factory => simp at hafter
  | accept => simp at hafter

theorem mentions_accept (h : s.Mentions c ("parser.done_parsing()".toList ++ x)) :
    s = .accept := by
  generalize hafter : "parser.done_parsing()".toList ++ x = after at h
  cases h with
  | @target slot d => cases slot <;> simp [Slot.rest] at hafter
  | read => simp at hafter
  | size => simp at hafter
  | @part s slot field hslot hfield => cases slot <;> simp [Slot.rest] at hafter
  | @extent s slot rest hslot hend => cases slot <;> simp [Slot.rest] at hafter
  | symbol => simp at hafter
  | factory => simp at hafter
  | accept => rfl

/-- A place where a generated name stands in a line is one that the statement mentions. -/
theorem mentions_of_line (h : body c p isStart = .ok b)
    (hmarks : ∀ t ∈ printedTexts p, IsUnmarked t.toList) (hs : s ∈ b.own)
    {name w before after : String} (hname : name.toList = ownMark ++ w.toList)
    (hline : s.line c = before ++ name ++ after) :
    s.Mentions c (w.toList ++ after.toList) := by
  refine behind_line (fun t ht => (hmarks t (own_texts h hs ht)).own) (own_isOwn h hs)
    before.toList _ ?_
  rw [hline, String.toList_append, String.toList_append, hname]
  simp only [List.append_assoc]

theorem eq_empty_of_append {before rest : String} (h : before ++ rest = rest) : before = "" := by
  have hlists := congrArg String.toList h
  rw [String.toList_append] at hlists
  exact String.toList_eq_nil_iff.mp
    (List.append_cancel_right (hlists.trans (List.nil_append _).symm))

/-- The statement of a line, with those in front of it. -/
theorem exists_statement {statements : List Statement} {line : String} {before after : List String}
    (h : statements.map (Statement.line c) = before ++ line :: after) :
    ∃ earlier s later, statements = earlier ++ s :: later ∧
      before = earlier.map (Statement.line c) ∧ line = s.line c := by
  obtain ⟨earlier, rest, rfl, hearlier, hrest⟩ := List.map_eq_append_iff.mp h
  obtain ⟨s, later, rfl, hs, -⟩ := List.map_eq_cons_iff.mp hrest
  exact ⟨earlier, s, later, rfl, hearlier.symm, hs.symm⟩

theorem assigns_slot {slot : Slot} (h : s.assigned? = some (.slot slot)) :
    Assigns (s.line c) slot.name := by
  cases s with
  | bindSlot other d =>
      cases h
      exact ⟨_, .inl rfl⟩
  | _ => cases h

theorem assigns_result (h : s.assigned? = some .result) : Assigns (s.line c) "RESULT" := by
  cases s with
  | startResult valueType distance =>
      cases distance with
      | none => exact ⟨valueType ++ " = None", .inr (by simp [Statement.line, String.append_assoc])⟩
      | some d =>
          exact ⟨valueType ++ " = " ++ (stackAccess c d ++ ".value"),
            .inr (by simp [Statement.line, String.append_assoc])⟩
  | _ => cases h

/-- A name that a statement uses is assigned by an earlier line. -/
theorem exists_assigned (h : body c p isStart = .ok b) {earlier later : List Statement}
    (hown : b.own = earlier ++ s :: later) {name : OwnName} (hused : name ∈ s.used) :
    ∃ a ∈ earlier, a.assigned? = some name := by
  have hordered := ordered_own h
  rw [hown] at hordered
  exact hordered.assigned hused

theorem assignedFirst_end (h : body c p isStart = .ok b)
    (hmarks : ∀ t ∈ printedTexts p, IsUnmarked t.toList) {slot : Slot}
    (hend : slot = .right ∨ slot = .left) :
    AssignedFirst (b.own.map (Statement.line c)) slot.name := by
  intro earlier line later hlines before after hline
  obtain ⟨first, s, rest, hown, rfl, rfl⟩ := exists_statement hlines
  have hs : s ∈ b.own := by simp [hown]
  have hmentions := mentions_of_line h hmarks hs (w := slot.rest) (toList_name slot) hline
  rcases mentions_end hend hmentions with ⟨d, rfl, hafter⟩ | hused
  · have hbefore : before = "" := by
      have hrest : after = " = " ++ stackAccess c d :=
        String.toList_inj.mp (by rw [hafter, String.toList_append])
      rw [hrest, String.append_assoc, Statement.line, String.append_assoc] at hline
      exact eq_empty_of_append hline.symm
    exact .inl ⟨hbefore, assigns_slot rfl⟩
  · obtain ⟨a, ha, hassigned⟩ := exists_assigned h hown hused
    exact .inr ⟨_, List.mem_map_of_mem ha, assigns_slot hassigned⟩

theorem assignedFirst_result (h : body c p isStart = .ok b)
    (hmarks : ∀ t ∈ printedTexts p, IsUnmarked t.toList) :
    AssignedFirst (b.own.map (Statement.line c)) "RESULT" := by
  intro earlier line later hlines before after hline
  obtain ⟨first, s, rest, hown, rfl, rfl⟩ := exists_statement hlines
  have hs : s ∈ b.own := by simp [hown]
  have htexts : ∀ t ∈ s.texts, FreeOf resultMark t.toList :=
    fun t ht => (hmarks t (own_texts h hs ht)).result
  have hlist : (s.line c).toList = before.toList ++ (resultMark ++ after.toList) := by
    rw [hline]
    simp [resultMark]
  rcases result_line htexts (own_isOwn h hs) _ _ hlist with ⟨hassigned, hfront⟩ | hused
  · have hbefore : before.toList = [] :=
      List.append_cancel_right ((hlist.symm.trans hfront).trans (List.nil_append _).symm)
    exact .inl ⟨String.toList_eq_nil_iff.mp hbefore, assigns_result hassigned⟩
  · obtain ⟨a, ha, hassigned⟩ := exists_assigned h hown hused
    exact .inr ⟨_, List.mem_map_of_mem ha, assigns_result hassigned⟩

/-- A variable of a label is used as the source of what the label binds, behind its assignment. -/
theorem assignedFirst_label (h : body c p isStart = .ok b)
    (hmarks : ∀ t ∈ printedTexts p, IsUnmarked t.toList) {earlier later : List String}
    {line before after : String} (hlines : b.own.map (Statement.line c) = earlier ++ line :: later)
    (hline : line = before ++ "CUP_sym" ++ after) :
    ∃ i label, p.labelAt? i = some label ∧
      (before = "" ∧ (∃ rest, after = label ++ " = " ++ rest) ∨
        after ∈ [label ++ ".left", label ++ ".right", label ++ ".value"] ∧
          ∃ l ∈ earlier, Assigns l ("CUP_sym" ++ label)) := by
  obtain ⟨first, s, rest, hown, rfl, rfl⟩ := exists_statement hlines
  have hs : s ∈ b.own := by simp [hown]
  have hmentions := mentions_of_line h hmarks hs (w := "sym") (by simp [ownMark]) hline
  have hname : ∀ label, (Slot.labelled label).name = "CUP_sym" ++ label := by
    intro label
    rw [Slot.name, internal, ← String.append_assoc]
    rfl
  obtain ⟨label, ⟨d, rfl, hafter⟩ | ⟨hused, field, hfield, hafter⟩⟩ := mentions_label hmentions
  · obtain ⟨i, hlabel⟩ := own_hasPlace h hs (.inl rfl)
    have hrest : after = label ++ " = " ++ stackAccess c d :=
      String.toList_inj.mp (by simp [hafter])
    have hbefore : before = "" := by
      rw [Statement.line, hname, hrest, String.append_assoc, String.append_assoc,
        String.append_assoc, String.append_assoc] at hline
      exact eq_empty_of_append hline.symm
    exact ⟨i, label, hlabel, .inl ⟨hbefore, _, hrest⟩⟩
  · obtain ⟨i, hlabel⟩ := own_hasPlace h hs (.inr hused)
    obtain ⟨a, ha, hassigned⟩ := exists_assigned h hown hused
    have hrest : after = label ++ field := String.toList_inj.mp (by simp [hafter])
    refine ⟨i, label, hlabel, .inr ⟨?_, _, List.mem_map_of_mem ha, ?_⟩⟩
    · rw [hrest]
      rcases List.mem_cons.mp hfield with rfl | hfield
      · exact List.mem_cons_self
      · simp at hfield
        rcases hfield with rfl | rfl <;> simp
    · exact hname label ▸ assigns_slot hassigned

/-- The intermediate result of a production that a grammar registers lies within its right side. -/
theorem intermediateFits_of_makes {g : Grammar} {call : GrammarCall} (h : g.Makes call p) :
    intermediateFits p.length p.base.length p.intermediate := by
  obtain ⟨g', hok, hproductions⟩ := h
  have hsame : g'.productions ≠ g.productions := by simp [hproductions]
  cases call with
  | addTerminal name valueType useCount =>
      obtain ⟨d, hok⟩ := Registration.effect_eq_ok hok
      obtain ⟨-, -, rfl⟩ := Grammar.registerTerminal_eq_ok hok
      exact absurd rfl hsame
  | addNonTerminal name valueType useCount =>
      obtain ⟨d, hok⟩ := Registration.effect_eq_ok hok
      obtain ⟨-, -, rfl⟩ := Grammar.registerNonTerminal_eq_ok hok
      exact absurd rfl hsame
  | addProduction lhs rhs action reduced =>
      obtain ⟨q, hok⟩ := Registration.effect_eq_ok hok
      obtain ⟨rule, -, rfl, rfl⟩ := Grammar.registerProduction_eq_ok hok
      obtain rfl : _ = p := by simpa [Grammar.append] using hproductions
      rfl
  | addDerived lhs rhs base intermediate action reduced =>
      obtain ⟨q, hok⟩ := Registration.effect_eq_ok hok
      obtain ⟨position, baseRule, rule, -, -, hfits, rfl, rfl⟩ :=
        Grammar.registerDerived_eq_ok hok
      obtain rfl : _ = p := by simpa [Grammar.append] using hproductions
      exact hfits
  | setStart choice =>
      obtain ⟨number, position, -, -, -, rfl⟩ := Grammar.registerStart_eq_ok hok
      exact absurd rfl hsame
  | symbol name =>
      obtain ⟨q, hok⟩ := Registration.effect_eq_ok hok
      rw [Registration.run_ask] at hok
      split at hok
      · cases hok
        exact absurd rfl hsame
      · cases hok

theorem eq_accept (h : body c p isStart = .ok b)
    (hmarks : ∀ t ∈ printedTexts p, IsUnmarked t.toList) (hs : s ∈ b.own)
    (hline : Holds (s.line c) "CUP_parser.done_parsing()") : s = .accept := by
  obtain ⟨before, after, hline⟩ := hline
  exact mentions_accept (mentions_of_line h hmarks hs (w := "parser.done_parsing()")
    (by simp [ownMark]) hline)

/-- The lines of a registered production's body are those of the user and its own, and its own ones
are well formed if no text that they are printed with holds a mark: they read the stack within the
right side, assign each generated name before they use it, name the ends only where positions are
tracked, and accept the parse once, right before the end, if the production is the start. -/
theorem own_lines_wellFormed {g : Grammar} {call : GrammarCall} (hmade : g.Makes call p)
    (h : body c p isStart = .ok b) (hmarks : ∀ t ∈ printedTexts p, IsUnmarked t.toList) :
    b.lines c = (b.start ++ b.bindings).map (Statement.line c) ++ userLinesOf p ++
        (b.extentBindings ++ b.ending).map (Statement.line c) ∧
      WellFormed c p isStart ((b.start ++ b.bindings).map (Statement.line c) ++
        (b.extentBindings ++ b.ending).map (Statement.line c)) := by
  refine ⟨lines_of_body h, ?_⟩
  rw [← List.map_append, ← List.append_assoc]
  show WellFormed c p isStart (b.own.map (Statement.line c))
  have hfits := intermediateFits_of_makes hmade
  have hdistance : ∀ line ∈ b.own.map (Statement.line c), ∀ before after,
      line = before ++ "CUP_stack" ++ after → ∃ (d : Int) (rest : String), 1 ≤ d ∧
        d ≤ max p.length 1 ∧ (p.length = 0 → c.trackPositions) ∧ after = offsetText d ++ rest := by
    intro line hline before after heq
    obtain ⟨s, hs, rfl⟩ := List.mem_map.mp hline
    obtain ⟨d, rest, hd, hafter⟩ :=
      mentions_stack (mentions_of_line h hmarks hs (w := "stack") (by simp [ownMark]) heq)
    obtain ⟨hpos, hle, htrack⟩ := own_distance h hfits hs hd
    exact ⟨d, String.ofList rest, hpos, hle, htrack, String.toList_inj.mp (by simp [hafter])⟩
  have hplace : ∀ slot, (slot = Slot.right ∨ slot = .left) →
      ∀ line ∈ b.own.map (Statement.line c), Holds line slot.name →
        (OwnName.slot slot).HasPlace c p := by
    rintro slot hend line hline ⟨before, after, heq⟩
    obtain ⟨s, hs, rfl⟩ := List.mem_map.mp hline
    have hmentions := mentions_of_line h hmarks hs (w := slot.rest) (toList_name slot) heq
    rcases mentions_end hend hmentions with ⟨d, rfl, -⟩ | hused
    · exact own_hasPlace h hs (.inl rfl)
    · exact own_hasPlace h hs (.inr hused)
  refine ⟨?_, ?_, ?_, ?_, ?_, ?_, ?_, ?_⟩
  · intro line hline before after heq
    obtain ⟨d, rest, hpos, hle, -, hafter⟩ := hdistance line hline before after heq
    exact ⟨d, rest, hpos, hle, hafter⟩
  · rintro hzero htrack line hline ⟨before, after, heq⟩
    obtain ⟨d, rest, -, -, htracks, -⟩ := hdistance line hline before after heq
    rw [htracks hzero] at htrack
    cases htrack
  · intro name hname
    have hnames : name = "CUP_left" ∨ name = "CUP_right" ∨ name = "RESULT" := by simpa using hname
    rcases hnames with rfl | rfl | rfl
    · exact assignedFirst_end h hmarks (.inr rfl)
    · exact assignedFirst_end h hmarks (.inl rfl)
    · exact assignedFirst_result h hmarks
  · intro earlier line later hlines before after hline
    exact assignedFirst_label h hmarks hlines hline
  · exact hplace .right (.inl rfl)
  · exact hplace .left (.inr rfl)
  · rintro rfl
    obtain ⟨first, hown, hfirst⟩ := own_accept h
    refine ⟨first.map (Statement.line c), by rw [hown, List.map_append]; rfl, ?_⟩
    intro line hline hholds
    obtain ⟨s, hs, rfl⟩ := List.mem_map.mp hline
    obtain rfl := eq_accept h hmarks (by rw [hown]; exact List.mem_append_left _ hs) hholds
    exact hfirst hs
  · rintro ⟨line, hline, hholds⟩
    obtain ⟨s, hs, rfl⟩ := List.mem_map.mp hline
    obtain rfl := eq_accept h hmarks hs hholds
    exact isStart_of_accept h hs

end WellFormed

/-! ## A derived production -/

/-- A grammar of one rule, the parts of which have labels and types. -/
def pairGrammar : Grammar :=
  let s : GrammarSymbol := ⟨.nonTerminal, "s", 0, some "int"⟩
  let t : GrammarSymbol := ⟨.terminal, "t", 2, some "int"⟩
  { terminals := Grammar.fixedTerminals ++ [⟨t, none⟩]
    nonTerminals := [⟨s, none⟩]
    productions := [⟨0, ⟨s, [.part ⟨t, some "x"⟩, .part ⟨t, some "y"⟩]⟩, none, none, .own⟩]
    start := none }

/-- A production derived from the rule, with an intermediate result. -/
def pairCall : GrammarCall :=
  .addDerived "s" [.named (some "t"), .named (some "t")] (.own 0) 1 (some "RESULT = x") none

/-- The production that the call makes. -/
def pairDerived : Production :=
  let s : GrammarSymbol := ⟨.nonTerminal, "s", 0, some "int"⟩
  let t : GrammarSymbol := ⟨.terminal, "t", 2, some "int"⟩
  ⟨1, ⟨s, [.part ⟨t, none⟩, .part ⟨t, none⟩]⟩, some "RESULT = x", none,
    .derived 0 ⟨s, [.part ⟨t, some "x"⟩, .part ⟨t, some "y"⟩]⟩ 1⟩

/-- The lines of its body: the labels of the base are bound before the user's code and the ends of
the right side behind it. -/
def pairLines : List String := [
  "RESULT: int = CUP_stack[-1].value",
  "CUP_symy = CUP_stack[-1]",
  "yleft = CUP_symy.left",
  "yright = CUP_symy.right",
  "y: int = CUP_symy.value",
  "CUP_symx = CUP_stack[CUP_size - 2]",
  "xleft = CUP_symx.left",
  "xright = CUP_symx.right",
  "x: int = CUP_symx.value",
  "RESULT = x",
  "CUP_right = CUP_stack[-1]",
  "CUP_left = CUP_stack[CUP_size - 2]",
  "CUP_result = CUP_parser.get_symbol_factory().new_symbol('s', 0, CUP_left, CUP_right, RESULT)",
  "return CUP_result"]

theorem own_lines_wellFormed_pair : ∃ p b, pairGrammar.Makes pairCall p ∧
    body {} p false = .ok b ∧ b.lines {} = pairLines ∧
    WellFormed {} p false ((b.start ++ b.bindings).map (Statement.line {}) ++
      (b.extentBindings ++ b.ending).map (Statement.line {})) := by
  have hmade : pairGrammar.Makes pairCall pairDerived := ⟨_, rfl, rfl⟩
  obtain ⟨b, hbody, hlines⟩ : ∃ b, body {} pairDerived false = .ok b ∧ b.lines {} = pairLines :=
    ⟨_, rfl, by decide +kernel⟩
  have htexts : printedTexts pairDerived = ["s", "int", "x", "int", "y", "int"] := rfl
  have hmarks : ∀ t ∈ printedTexts pairDerived, IsUnmarked t.toList := by
    have hletters : ∀ t ∈ ["s", "int", "x", "int", "y", "int"],
        'C' ∉ t.toList ∧ 'R' ∉ t.toList := by
      decide
    intro t ht
    obtain ⟨hown, hresult⟩ := hletters t (htexts ▸ ht)
    exact ⟨freeOf_ownMark hown, freeOf_resultMark hresult⟩
  exact ⟨pairDerived, b, hmade, hbody, hlines, (own_lines_wellFormed hmade hbody hmarks).2⟩

end LalrBackend.Reduction
