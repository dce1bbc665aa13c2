import LalrBackend.Proofs.Emission.EmbeddedTables
import LalrBackend.Proofs.Packed.Lines
import LalrBackend.Proofs.Reduction.Lines
import LalrBackend.Proofs.Text.Digits
import LalrBackend.Proofs.Text.Points

/-!
# Loading plain modules

Which lines of a generated module are made of ASCII characters alone. Those of packed tables always
are, and those of the reductions are if the texts are that they have from the grammar: how its
productions are shown, its labels, its types and the user's code. A module that is written to its
end is loaded as a parser of the class that it defines, and is not run as a program, if that class
is plain, its text is clean and its tables are short enough.
-/

namespace LalrBackend

open Packed Text Reduction

/-! ## Plain texts -/

/-- Characters of ASCII, none of which is the null character. -/
def IsPlainAscii (cs : List Char) : Prop :=
  ∀ c ∈ cs, 0 < c.toNat ∧ c.toNat < 128

instance (cs : List Char) : Decidable (IsPlainAscii cs) :=
  List.decidableBAll (fun c : Char => 0 < c.toNat ∧ c.toNat < 128) cs

theorem isPlainAscii_append {cs ds : List Char} :
    IsPlainAscii (cs ++ ds) ↔ IsPlainAscii cs ∧ IsPlainAscii ds :=
  List.forall_mem_append

@[simp] theorem isPlainAscii_toList_append {a b : String} :
    IsPlainAscii (a ++ b).toList ↔ IsPlainAscii a.toList ∧ IsPlainAscii b.toList := by
  rw [String.toList_append, isPlainAscii_append]

theorem isPlainAscii_cons {c : Char} {cs : List Char} :
    IsPlainAscii (c :: cs) ↔ (0 < c.toNat ∧ c.toNat < 128) ∧ IsPlainAscii cs :=
  List.forall_mem_cons

theorem isPlainAscii_decimal (n : Int) : IsPlainAscii (decimal n).toList := by
  rw [decimal, String.toList_ofList]
  intro c hc
  rcases isDigit_of_mem_decimalChars hc with rfl | hdigit
  · decide
  · simp only [Char.isDigit, Bool.and_eq_true, decide_eq_true_eq] at hdigit
    have hlow : '0'.toNat ≤ c.toNat := hdigit.1
    have hhigh : c.toNat ≤ '9'.toNat := hdigit.2
    have hzero : '0'.toNat = 48 := rfl
    have hnine : '9'.toNat = 57 := rfl
    omega

theorem isPlainAscii_margin (levels : Nat) : IsPlainAscii (margin levels).toList := by
  intro c hc
  rw [margin_blank levels c hc]
  decide

/-! ## Lines of reductions -/

namespace Reduction

/-- The texts that the line of a statement has from the grammar, as the line spells them. -/
def Statement.lineTexts : Statement → List String
  | .startResult valueType _ => [valueType]
  | .bindSlot slot _ => slot.texts
  | .bindLeft label slot => label :: slot.texts
  | .bindRight label slot => label :: slot.texts
  | .bindValue label valueType slot => label :: valueType :: slot.texts
  | .user line => [line]
  | .construct name _ (some (first, last)) _ => quoted name :: first.texts ++ last.texts
  | .construct name _ none _ => [quoted name]
  | _ => []

theorem isPlainAscii_internal {name : String} :
    IsPlainAscii (internal name).toList ↔ IsPlainAscii name.toList := by
  have hmark : IsPlainAscii "CUP_".toList := by decide
  rw [internal, isPlainAscii_toList_append]
  exact and_iff_right hmark

section Lines

variable {c : Config} {b : Body}

theorem Slot.isPlainAscii_name (slot : Slot) (h : ∀ s ∈ slot.texts, IsPlainAscii s.toList) :
    IsPlainAscii slot.name.toList := by
  cases slot with
  | right => exact isPlainAscii_internal.mpr (by decide)
  | left => exact isPlainAscii_internal.mpr (by decide)
  | labelled label =>
      have hsym : IsPlainAscii "sym".toList := by decide
      exact isPlainAscii_internal.mpr
        (isPlainAscii_toList_append.mpr ⟨hsym, h label List.mem_cons_self⟩)

theorem isPlainAscii_stackAccess (c : Config) (distance : Int) :
    IsPlainAscii (stackAccess c distance).toList := by
  have haccess : IsPlainAscii (if distance = 1 then internal "stack" ++ "[-1]"
      else internal "stack" ++ "[" ++ internal "size" ++ " - " ++ decimal distance ++
        "]").toList := by
    split
    · decide
    · simp only [isPlainAscii_toList_append, isPlainAscii_internal, isPlainAscii_decimal,
        and_true]
      decide
  unfold stackAccess
  simp only
  split
  · exact haccess
  · simp only [isPlainAscii_toList_append, haccess, and_true]
    decide

/-- The line of a statement is plain if the texts are that it has from the grammar. -/
theorem Statement.isPlainAscii_line (st : Statement)
    (h : ∀ s ∈ st.lineTexts, IsPlainAscii s.toList) : IsPlainAscii (st.line c).toList := by
  have hslot : ∀ slot : Slot, (∀ s ∈ slot.texts, s ∈ st.lineTexts) →
      IsPlainAscii slot.name.toList :=
    fun _ hmem => Slot.isPlainAscii_name _ fun s hs => h s (hmem s hs)
  cases st with
  | startResult valueType distance =>
      have htype := h valueType List.mem_cons_self
      cases distance with
      | none =>
          simp only [line, isPlainAscii_toList_append, htype, and_true]
          decide
      | some distance =>
          simp only [line, isPlainAscii_toList_append, htype, isPlainAscii_stackAccess, and_true,
            true_and]
          decide
  | bindSlot slot distance =>
      have hname := hslot slot fun s hs => hs
      simp only [line, isPlainAscii_toList_append, hname, isPlainAscii_stackAccess, and_true,
        true_and]
      decide
  | bindLeft label slot =>
      have hname := hslot slot fun s hs => List.mem_cons_of_mem _ hs
      simp only [line, isPlainAscii_toList_append, hname, h label List.mem_cons_self, true_and]
      decide
  | bindRight label slot =>
      have hname := hslot slot fun s hs => List.mem_cons_of_mem _ hs
      simp only [line, isPlainAscii_toList_append, hname, h label List.mem_cons_self, true_and]
      decide
  | bindValue label valueType slot =>
      have hname := hslot slot fun s hs =>
        List.mem_cons_of_mem _ (List.mem_cons_of_mem _ hs)
      have htype := h valueType (List.mem_cons_of_mem _ List.mem_cons_self)
      simp only [line, isPlainAscii_toList_append, hname, htype, h label List.mem_cons_self,
        true_and]
      decide
  | user line => exact h line List.mem_cons_self
  | construct name index extent withResult =>
      have harguments : IsPlainAscii (argumentText extent withResult).toList := by
        rcases extent with _ | ⟨first, last⟩
        · cases withResult <;> decide
        · have hfirst := hslot first fun s hs =>
            List.mem_cons_of_mem _ (List.mem_append_left _ hs)
          have hlast := hslot last fun s hs =>
            List.mem_cons_of_mem _ (List.mem_append_right _ hs)
          have hresult : IsPlainAscii (if withResult then
              (if (some (first, last)).isSome then ", RESULT" else ", value=RESULT")
              else "").toList := by
            cases withResult <;> simp only [Option.isSome_some, if_true] <;> decide
          simp only [argumentText, isPlainAscii_toList_append, hfirst, hlast, hresult, and_true]
          decide
      have hname : IsPlainAscii (quoted name).toList := by
        rcases extent with _ | ⟨first, last⟩ <;> exact h _ List.mem_cons_self
      simp only [line, isPlainAscii_toList_append, isPlainAscii_internal, isPlainAscii_decimal,
        hname, harguments, and_true]
      decide
  | announce => exact (by decide : IsPlainAscii "# ACCEPT".toList)
  | accept =>
      simp only [line, isPlainAscii_toList_append, isPlainAscii_internal]
      decide
  | finish =>
      simp only [line, isPlainAscii_toList_append, isPlainAscii_internal]
      decide

end Lines

end Reduction

/-! ## Methods of reductions -/

theorem Draft.mem_append_lines {ε : Type} {a b : Draft ε} {l : String}
    (h : l ∈ (a ++ b).lines) : l ∈ a.lines ∨ l ∈ b.lines := by
  cases hfailure : a.failure with
  | none =>
      rw [append_of_failure_eq_none hfailure] at h
      exact List.mem_append.mp h
  | some e =>
      rw [append_of_failure_eq_some hfailure] at h
      exact .inl h

theorem Draft.exists_mem_of_mem_concat {ε : Type} {ds : List (Draft ε)} {l : String}
    (h : l ∈ (concat ds).lines) : ∃ d ∈ ds, l ∈ d.lines := by
  induction ds with
  | nil => cases h
  | cons d ds ih =>
      rcases mem_append_lines (a := d) (b := concat ds) h with hfirst | hrest
      · exact ⟨d, List.mem_cons_self, hfirst⟩
      · obtain ⟨d', hd', hl⟩ := ih hrest
        exact ⟨d', List.mem_cons_of_mem _ hd', hl⟩

/-- The texts that the method of a production has from the grammar. -/
def ActionMethod.texts (a : ActionMethod) : List String :=
  a.production.shown :: match a.body with
    | .ok b => b.statements.flatMap Statement.lineTexts
    | .error _ => []

section Methods

variable {c : Config}

theorem isPlainAscii_bodyLine {line : String} (h : IsPlainAscii line.toList) :
    IsPlainAscii (bodyLine line).toList := by
  unfold bodyLine
  split
  · decide
  · rw [isPlainAscii_toList_append]
    exact ⟨isPlainAscii_margin 2, h⟩

/-- The lines of a method are plain if the texts are that it has from the grammar. -/
theorem ActionMethod.isPlainAscii_draft {a : ActionMethod}
    (h : ∀ s ∈ a.texts, IsPlainAscii s.toList) :
    ∀ l ∈ (a.draft c).lines, IsPlainAscii l.toList := by
  have hstep : IsPlainAscii step.toList := by decide
  intro l hl
  rcases Draft.mem_append_lines hl with hopening | hbody
  · have hshown := h _ List.mem_cons_self
    simp only [Draft.ofLines_lines, opening, List.mem_cons, List.not_mem_nil, or_false] at hopening
    rcases hopening with rfl | rfl | rfl
    · decide
    · simp only [isPlainAscii_toList_append, hstep, hshown, and_true, true_and]
      decide
    · simp only [isPlainAscii_toList_append, methodName, isPlainAscii_internal,
        isPlainAscii_decimal, hstep, and_true, true_and]
      decide
  · cases hok : a.body with
    | error e =>
        rw [hok] at hbody
        cases hbody
    | ok b =>
        rw [hok] at hbody
        obtain ⟨line, hline, rfl⟩ := List.mem_map.mp hbody
        obtain ⟨st, hst, rfl⟩ := List.mem_map.mp hline
        refine isPlainAscii_bodyLine (st.isPlainAscii_line fun s hs => h s ?_)
        rw [texts, hok]
        exact List.mem_cons_of_mem _ (List.mem_flatMap.mpr ⟨st, hst, hs⟩)

/-- The lines before the methods are plain if no code of the user is put there. -/
theorem ParserModule.isPlainAscii_actionsOpening (hcode : hasCode c.actionCode = false)
    (indices : List Int) : ∀ l ∈ actionsOpening c indices, IsPlainAscii l.toList := by
  have hstack : IsPlainAscii (if c.genericStack then "List[Symbol]" else "list").toList := by
    split <;> decide
  have hself : IsPlainAscii ": self.".toList := by decide
  have hact : IsPlainAscii "act_".toList := by decide
  have hcomma : IsPlainAscii ",".toList := by decide
  simp only [actionsOpening, snippetLines, hcode, Bool.false_eq_true, if_false, List.append_nil,
    List.forall_mem_append, List.forall_mem_cons, List.forall_mem_map, docLine,
    isPlainAscii_toList_append, isPlainAscii_internal, isPlainAscii_decimal, isPlainAscii_margin,
    methodName, hstack, hself, hact, hcomma, List.not_mem_nil, false_imp_iff, implies_true,
    and_true, true_and, step]
  -- Literals as lists of characters are decided quickly; reading them off the bytes is slow.
  repeat rw [String.toList_ofList]
  decide

/-- The class of the reductions is plain if the texts are that it has from the grammar, and no code
of the user is put into it. -/
theorem ParserModule.isPlainAscii_actionsDraft {actions : List ActionMethod}
    (hcode : hasCode c.actionCode = false)
    (h : ∀ a ∈ actions, ∀ s ∈ a.texts, IsPlainAscii s.toList) :
    ∀ l ∈ (actionsDraft c actions).lines, IsPlainAscii l.toList := by
  intro l hl
  rcases Draft.mem_append_lines hl with hopening | hmethods
  · exact isPlainAscii_actionsOpening hcode _ l hopening
  · obtain ⟨d, hd, hl⟩ := Draft.exists_mem_of_mem_concat hmethods
    obtain ⟨a, ha, rfl⟩ := List.mem_map.mp hd
    exact ActionMethod.isPlainAscii_draft (h a ha) l hl

end Methods

/-! ## Printed tables -/

section Tables

variable {units : List Int}

theorem isPlainAscii_digitChar {d : Nat} (h : d < 16) :
    0 < (Nat.digitChar d).toNat ∧ (Nat.digitChar d).toNat < 128 := by
  revert d
  decide

theorem isPlainAscii_escapeUnit {n : Nat} (h : n < 0x10000) :
    IsPlainAscii (escapeUnit (n : Int)) := by
  have hdigit : ∀ k base, base ≤ 16 → 0 < base →
      0 < (Nat.digitChar (k % base)).toNat ∧ (Nat.digitChar (k % base)).toNat < 128 := by
    intro k base hbase hpos
    have hlt := Nat.mod_lt k hpos
    exact isPlainAscii_digitChar (by omega)
  by_cases hsmall : n < 256
  · rw [escapeUnit_octal hsmall]
    simp only [isPlainAscii_cons]
    exact ⟨by decide, hdigit _ 8 (by decide) (by decide), hdigit _ 8 (by decide) (by decide),
      hdigit _ 8 (by decide) (by decide), by decide⟩
  · rw [escapeUnit_hex (Nat.le_of_not_lt hsmall) h]
    simp only [isPlainAscii_cons]
    exact ⟨by decide, by decide, hdigit _ 16 (by decide) (by decide),
      hdigit _ 16 (by decide) (by decide), hdigit _ 16 (by decide) (by decide),
      hdigit _ 16 (by decide) (by decide), by decide⟩

theorem isPlainAscii_literal (h : AreUnits units) : IsPlainAscii (literal units) := by
  have hescapes : IsPlainAscii (units.flatMap escapeUnit) := by
    intro c hc
    obtain ⟨u, hu, hc⟩ := List.mem_flatMap.mp hc
    obtain ⟨hlow, hhigh⟩ := h u hu
    obtain ⟨n, rfl⟩ := Int.eq_ofNat_of_zero_le hlow
    exact isPlainAscii_escapeUnit (by omega) c hc
  rw [literal, isPlainAscii_append, isPlainAscii_cons]
  exact ⟨⟨by decide, hescapes⟩, by decide⟩

theorem isPlainAscii_literalLines (h : AreUnits units) :
    ∀ l ∈ literalLines units, IsPlainAscii l.toList := by
  obtain ⟨groups, last, hcut, hlines⟩ := literalLines_cut units
  have hunits : ∀ u ∈ groups.flatten ++ last, 0 ≤ u ∧ u < 0x10000 := by
    rw [hcut.joined]
    exact h
  intro l hl
  rw [hlines, List.mem_append, List.mem_map, List.mem_singleton] at hl
  rcases hl with ⟨g, hg, rfl⟩ | rfl
  · rw [String.toList_ofList, isPlainAscii_append]
    refine ⟨isPlainAscii_literal fun u hu => hunits u ?_, by decide⟩
    exact List.mem_append_left _ (List.mem_flatten.mpr ⟨g, hg, hu⟩)
  · rw [String.toList_ofList, isPlainAscii_append]
    exact ⟨isPlainAscii_literal fun u hu => hunits u (List.mem_append_right _ hu), by decide⟩

end Tables

/-- The lines of a method that returns a packed table are plain if those before the table
are. -/
theorem TableMethod.Holds.isPlainAscii {t : TableMethod} {table : List Int} (h : t.Holds table)
    (hopening : ∀ l ∈ tableMethodLines t.name t.doc [], IsPlainAscii l.toList) :
    ∀ l ∈ t.draft.lines, IsPlainAscii l.toList := by
  obtain ⟨units, hunits, hliteral⟩ := h.written
  rw [draft_of_literal hliteral, Draft.ofLines_lines]
  rw [tableMethodLines, List.append_nil] at hopening
  intro l hl
  rcases List.mem_append.mp hl with hl | hl
  · exact hopening l hl
  · obtain ⟨line, hline, rfl⟩ := List.mem_map.mp hl
    rw [String.toList_append, isPlainAscii_append]
    exact ⟨isPlainAscii_margin 3, isPlainAscii_literalLines (areUnits_of_encode hunits h.short) line hline⟩

/-- The lines before the tables of a generated module are plain. -/
theorem isPlainAscii_tableOpenings : ∀ opening ∈ [("production_table", "Return production table"),
    ("action_table", "Return action table"), ("reduce_table", "Return reduce-goto table")],
    ∀ l ∈ tableMethodLines opening.1 opening.2 [], IsPlainAscii l.toList := by
  simp only [tableMethodLines, List.forall_mem_append, List.forall_mem_cons, docLine,
    isPlainAscii_toList_append, isPlainAscii_margin, List.not_mem_nil, false_imp_iff, implies_true,
    and_true, true_and, step]
  repeat rw [String.toList_ofList]
  decide

/-! ## Printed classes -/

section Classes

variable {c : Config} {m : ParserModule}

/-- The lines of a parser class before its tables are plain if its name is, and nothing is
imported that parsers are not based on. -/
theorem ParserModule.isPlainAscii_classOpening (himports : c.imports = [])
    (hname : IsPlainAscii c.parserClass.toList) : ∀ l ∈ classOpening c, IsPlainAscii l.toList := by
  have hconstructor : ∀ l ∈ constructorLines c, IsPlainAscii l.toList := by
    unfold constructorLines
    split
    all_goals
      simp only [List.forall_mem_cons, docLine, isPlainAscii_toList_append, isPlainAscii_margin,
        List.not_mem_nil, false_imp_iff, implies_true, and_true, true_and, step]
      repeat rw [String.toList_ofList]
      decide
  rw [classOpening, List.forall_mem_append]
  refine ⟨?_, hconstructor⟩
  simp only [importLines, heading, himports, List.map_nil, List.append_nil, List.forall_mem_append,
    List.forall_mem_cons, docLine, isPlainAscii_toList_append, isPlainAscii_margin, hname, ruler,
    title, runtimePath, List.not_mem_nil, false_imp_iff, implies_true, and_true, true_and]
  repeat rw [String.toList_ofList]
  decide

theorem ParserModule.isPlainAscii_accessorLines (c : Config) (start : Int) :
    ∀ l ∈ accessorLines c start, IsPlainAscii l.toList := by
  simp only [accessorLines, returning, List.forall_mem_append, List.forall_mem_cons, docLine,
    isPlainAscii_toList_append, isPlainAscii_internal, isPlainAscii_decimal, isPlainAscii_margin,
    List.not_mem_nil, false_imp_iff, implies_true, and_true, true_and, step]
  repeat rw [String.toList_ofList]
  decide

/-- Quiet modules import nothing and have no code of the user around the reductions. -/
theorem ParserModule.nothing_of_isQuiet (h : m.isQuiet = true) :
    m.config.imports = [] ∧ hasCode m.config.actionCode = false ∧ snippets m.config = [] := by
  simp only [isQuiet, List.all_cons, List.all_nil, Bool.and_eq_true, Bool.not_eq_true', and_true,
    List.isEmpty_iff] at h
  obtain ⟨himports, haction, hparser, hinit, hscan⟩ := h
  exact ⟨himports, haction, by simp [snippets, snippetLines, hparser, hinit, hscan]⟩

end Classes

/-! ## Clean texts -/

/-- A plain text can be read as code. -/
theorem ParserModule.isClean_of_plainAscii {text : String} (h : IsPlainAscii text.toList) :
    isClean text = true := by
  have hpoints : pointsOf text = text.toList.map Char.toNat :=
    pointsOf_ascii fun c hc => (h c hc).2
  have hsurrogate : hasSurrogate text = false := by
    rw [hasSurrogate, hpoints, List.any_eq_false]
    intro p hp
    obtain ⟨c, hc, rfl⟩ := List.mem_map.mp hp
    have hlow := (h c hc).2
    simp only [isSurrogate, Bool.and_eq_true, decide_eq_true_eq]
    omega
  have hnull : (text.toList.any fun c => c.toNat == 0) = false := by
    rw [List.any_eq_false]
    intro c hc hzero
    have hpos := (h c hc).1
    rw [beq_iff_eq] at hzero
    omega
  rw [isClean, hsurrogate, hnull]
  rfl

theorem Draft.isPlainAscii_text {ε : Type} {d : Draft ε}
    (h : ∀ l ∈ d.lines, IsPlainAscii l.toList) : IsPlainAscii d.text.toList := by
  intro c hc
  rw [Draft.text, String.toList_join] at hc
  obtain ⟨line, hline, hc⟩ := List.mem_flatMap.mp hc
  obtain ⟨l, hl, rfl⟩ := List.mem_map.mp hline
  rw [String.toList_append] at hc
  rcases List.mem_append.mp hc with hc | hc
  · exact h l hl c hc
  · exact (by decide : IsPlainAscii "\n".toList) c hc

/-! ## Short tables -/

theorem literalLines_length (units : List Int) :
    (literalLines units).length = max 1 ((units.length + 10) / 11) := by
  obtain ⟨groups, last, hcut, hlines⟩ := literalLines_cut units
  rw [hlines, List.length_append, List.length_map, ← hcut.count]
  rfl

theorem TableMethod.Holds.lines_length {t : TableMethod} {table : List Int} (h : t.Holds table) :
    (ParserModule.TableMethod.lines t).length = (table.length + 13) / 11 := by
  obtain ⟨units, hunits, hliteral⟩ := h.written
  obtain ⟨_, rfl⟩ := encode_eq_ok_iff.mp hunits
  rw [ParserModule.TableMethod.lines, hliteral]
  show (literalLines _).length = _
  rw [literalLines_length, unitsFor_length]
  omega

/-! ## Modules -/

namespace ParserModule

variable {m : ParserModule} {t : Cache.Tables}

/-- A module is readable if its tables are not too long. -/
theorem isReadable_of_holds (hproduction : m.productionTable.Holds t.production)
    (haction : m.actionTable.Holds t.action) (hreduce : m.reduceTable.Holds t.reduce)
    (hshort : ∀ table ∈ [t.production, t.action, t.reduce],
      (table.length + 13) / 11 ≤ mostTableLines) : m.isReadable = true := by
  simp only [List.forall_mem_cons] at hshort
  obtain ⟨hp, ha, hr, _⟩ := hshort
  simp only [isReadable, List.all_cons, List.all_nil, hproduction.lines_length,
    haction.lines_length, hreduce.lines_length, hp, ha, hr, decide_true, Bool.and_self]

/-- The text of a generated module is clean if the module is quiet and the name of its class is
plain, and so are the texts that its reductions have from the grammar. -/
theorem isClean_of_holds (hproduction : m.productionTable.Holds t.production)
    (haction : m.actionTable.Holds t.action) (hreduce : m.reduceTable.Holds t.reduce)
    (hheads : [m.productionTable, m.actionTable, m.reduceTable].map (fun t => (t.name, t.doc)) =
      [("production_table", "Return production table"), ("action_table", "Return action table"),
        ("reduce_table", "Return reduce-goto table")])
    (hquiet : m.isQuiet = true) (hname : IsPlainAscii m.config.parserClass.toList)
    (htexts : ∀ a ∈ m.actions, ∀ s ∈ a.texts, IsPlainAscii s.toList) :
    isClean m.draft.text = true := by
  obtain ⟨himports, hcode, hsnippets⟩ := nothing_of_isQuiet hquiet
  have hopenings := isPlainAscii_tableOpenings
  rw [← hheads] at hopenings
  simp only [List.map_cons, List.map_nil, List.forall_mem_cons] at hopenings
  obtain ⟨hp, ha, hr, _⟩ := hopenings
  have hlines : m.draft.lines = classOpening m.config ++ m.productionTable.draft.lines ++
      m.actionTable.draft.lines ++ m.reduceTable.draft.lines ++
      accessorLines m.config m.startProduction ++ (actionsDraft m.config m.actions).lines := by
    obtain ⟨production, _, hproduction⟩ := hproduction.draft
    obtain ⟨action, _, haction⟩ := haction.draft
    obtain ⟨reduce, _, hreduce⟩ := hreduce.draft
    rw [draft, parserDraft, hproduction, haction, hreduce, hsnippets]
    repeat rw [Draft.append_of_failure_eq_none (by rfl)]
    simp
  refine isClean_of_plainAscii (Draft.isPlainAscii_text ?_)
  rw [hlines]
  simp only [List.forall_mem_append]
  exact ⟨⟨⟨⟨⟨isPlainAscii_classOpening himports hname, hproduction.isPlainAscii hp⟩,
    haction.isPlainAscii ha⟩, hreduce.isPlainAscii hr⟩, isPlainAscii_accessorLines _ _⟩,
    isPlainAscii_actionsDraft hcode htexts⟩

/-- A module that is written to its end is loaded as a parser of its class if that is plain and
nothing asks for running the text. -/
theorem load_eq_plain {cls : ParserClass} (hwritten : m.draft.failure = none)
    (hcls : m.plainClass? = some cls) (hquiet : m.isQuiet = true)
    (hclean : isClean m.draft.text = true) (hreadable : m.isReadable = true)
    (htakes : cls.takesScanner = true) (scanner : Option (List Value)) :
    m.load scanner = .ok (.plain ⟨some cls, scanner, false⟩) := by
  rw [load, hwritten]
  simp only [hcls, hquiet, hclean, hreadable, htakes, Bool.not_true, Bool.and_false,
    Bool.or_false, Bool.false_eq_true, if_false]
  rfl

end ParserModule

end LalrBackend
