import LalrBackend.Parser
import LalrBackend.Proofs.Cache.Entry
import LalrBackend.Proofs.Emission.Outcome
import LalrBackend.Proofs.Failure
import LalrBackend.Proofs.Packed.Spelling

/-!
# Embedded tables

The tables that a generated parser hands out are those that it was generated
from. On their way they are packed, escaped, printed as the expression of a
method, read as the value of that expression, and unpacked. The printed class
has the three methods right after its constructor; the user's snippets come
later, so only a snippet that defines such a method anew could replace it.
-/

namespace LalrBackend

open Cache Packed Failure

/-! ## Packing without a cache -/

/-- The lines of a method that returns the expression on the given lines. -/
def tableMethodLines (name doc : String) (expression : List String) : List String :=
  ["", step ++ "def " ++ name ++ "(self):", docLine 2 doc, margin 2 ++ "return ("] ++
    expression

theorem TableMethod.draft_of_literal {t : TableMethod} {ls : List String}
    (h : t.literal = .ok ls) :
    t.draft = Draft.ofLines (tableMethodLines t.name t.doc (ls.map (margin 3 ++ ·))) := by
  rw [TableMethod.draft, h]
  rfl

/-- Lines go on after an open parenthesis up to the one that closes it, and the
value of the expression between the two unpacks to a table. What stands after
them is no part of the expression. -/
def SpellsTable (expression : List String) (table : List Int) : Prop :=
  ∃ points, (∀ rest, spelled? .outside (textOf expression ++ rest) = some points) ∧
    decode (points.map Int.ofNat) = .ok table

theorem margin_blank (levels : Nat) : ∀ c ∈ (margin levels).toList, c = ' ' := by
  intro c hc
  rw [margin, String.toList_join] at hc
  obtain ⟨piece, hpiece, hmem⟩ := List.mem_flatMap.mp hc
  rw [List.eq_of_mem_replicate hpiece] at hmem
  simpa [step] using hmem

section Packed

variable {values units : List Int}

/-- The units of a table that is short enough can be spelled. -/
theorem areUnits_of_encode (h : encode values = .ok units) (hlen : values.length < 2 ^ 32) :
    AreUnits units := by
  obtain ⟨hfits, rfl⟩ := encode_eq_ok_iff.mp h
  exact unitsFor_lt hfits (Nat.le_refl 0x10000) hlen

theorem decode_of_encode (h : encode values = .ok units) : decode units = .ok values := by
  obtain ⟨_, rfl⟩ := encode_eq_ok_iff.mp h
  exact decode_unitsFor values

theorem spellsTable_literalLines (h : encode values = .ok units)
    (hlen : values.length < 2 ^ 32) :
    SpellsTable ((literalLines units).map (margin 3 ++ ·)) values := by
  have hunits := areUnits_of_encode h hlen
  refine ⟨units.map Int.toNat, ?_, ?_⟩
  · intro rest
    exact spelled?_literalLines hunits (margin_blank 3) rest
  · rw [map_ofNat_toNat hunits, decode_of_encode h]

/-- A class that has the literal lines of a packed table gives the table back. -/
theorem tableOf_literalLines (h : encode values = .ok units)
    (hlen : values.length < 2 ^ 32) : tableOf (literalLines units) = .ok values := by
  have hunits := areUnits_of_encode h hlen
  rw [tableOf, spelledLines?_literalLines hunits]
  simp only
  rw [map_ofNat_toNat hunits, decode_of_encode h]
  rfl

end Packed

/-! ## Modules -/

/-- The method of a module that returns a packed table. -/
structure TableMethod.Holds (t : TableMethod) (table : List Int) : Prop where
  written : ∃ units, encode table = .ok units ∧ t.literal = .ok (literalLines units)
  short : table.length < 2 ^ 32

theorem TableMethod.Holds.draft {t : TableMethod} {table : List Int} (h : t.Holds table) :
    ∃ expression, SpellsTable expression table ∧
      t.draft = Draft.ofLines (tableMethodLines t.name t.doc expression) := by
  obtain ⟨units, hunits, hliteral⟩ := h.written
  exact ⟨_, spellsTable_literalLines hunits h.short, draft_of_literal hliteral⟩

theorem TableMethod.Holds.tableOf {t : TableMethod} {table : List Int} (h : t.Holds table) :
    tableOf (ParserModule.TableMethod.lines t) = .ok table := by
  obtain ⟨units, hunits, hliteral⟩ := h.written
  rw [ParserModule.TableMethod.lines, hliteral]
  exact tableOf_literalLines hunits h.short

/-- A parser whose class has the table methods of a module as they were printed:
nothing in the module defines them anew. -/
def PlainParser.KeepsTables (p : PlainParser) (m : ParserModule) : Prop :=
  ∃ cls, p.class? = some cls ∧
    cls.productionText = ParserModule.TableMethod.lines m.productionTable ∧
    cls.actionText = ParserModule.TableMethod.lines m.actionTable ∧
    cls.reduceText = ParserModule.TableMethod.lines m.reduceTable

/-- The class that a module defines has a method for each action, and the table methods as
they were printed. -/
theorem ParserModule.plainClass?_eq_some {m : ParserModule} {cls : ParserClass}
    (h : m.plainClass? = some cls) :
    m.actions.mapM m.methodOf? = some cls.methods ∧
      cls.productionText = TableMethod.lines m.productionTable ∧
      cls.actionText = TableMethod.lines m.actionTable ∧
      cls.reduceText = TableMethod.lines m.reduceTable := by
  unfold plainClass? at h
  split at h
  · cases h
  · cases hmethods : m.actions.mapM m.methodOf? with
    | none => simp [hmethods] at h
    | some methods =>
        simp only [hmethods] at h
        cases h
        exact ⟨rfl, rfl, rfl, rfl⟩

theorem ParserModule.runText_ne_plain {m : ParserModule} {scanner : Option (List Value)}
    {p : PlainParser} : m.runText scanner ≠ .ok (.plain p) := by
  intro h
  unfold runText at h
  obtain ⟨statements, _, h⟩ := bind_eq_ok.mp h
  split at h
  · cases h
  · obtain ⟨_, _, h⟩ := bind_eq_ok.mp h
    obtain ⟨_, _, h⟩ := bind_eq_ok.mp h
    cases h

/-- A module that is not run as a program is loaded as a parser of the class that it
defines, which is not done. -/
theorem ParserModule.plain_of_load {m : ParserModule} {scanner : Option (List Value)}
    {p : PlainParser} (h : m.load scanner = .ok (.plain p)) :
    ∃ cls, m.plainClass? = some cls ∧ p = ⟨some cls, scanner, false⟩ := by
  unfold load at h
  split at h
  · cases h
  · split at h
    · exact absurd h runText_ne_plain
    · rename_i cls hcls
      split at h
      · exact absurd h runText_ne_plain
      · split at h
        · cases h
        · split at h
          · cases h
          · cases h
            exact ⟨cls, hcls, rfl⟩

theorem ParserModule.class_of_load {m : ParserModule} {scanner : Option (List Value)}
    {p : PlainParser} (h : m.load scanner = .ok (.plain p)) :
    ∃ cls, m.plainClass? = some cls ∧ p.class? = some cls := by
  obtain ⟨cls, hcls, rfl⟩ := plain_of_load h
  exact ⟨cls, hcls, rfl⟩

theorem keepsTables_of_load {m : ParserModule} {scanner : Option (List Value)}
    {p : PlainParser} (h : m.load scanner = .ok (.plain p)) : p.KeepsTables m := by
  obtain ⟨cls, hcls, hclass⟩ := ParserModule.class_of_load h
  exact ⟨cls, hclass, (ParserModule.plainClass?_eq_some hcls).2⟩

/-- A parser that keeps the tables of a module hands them out. -/
theorem PlainParser.KeepsTables.tables {p : PlainParser} {m : ParserModule} {t : Tables}
    (h : p.KeepsTables m) (hproduction : m.productionTable.Holds t.production)
    (haction : m.actionTable.Holds t.action) (hreduce : m.reduceTable.Holds t.reduce) :
    (Parser.plain p).tables =
      (.ok [Parser.ofTable t.production, Parser.ofTable t.action, Parser.ofTable t.reduce],
        .plain p) := by
  obtain ⟨cls, hcls, hp, ha, hr⟩ := h
  have hgen : p.generated = .ok cls := by rw [PlainParser.generated, hcls]
  have hproductionTable : p.productionTable = .ok t.production := by
    rw [PlainParser.productionTable, hgen, ok_bind, hp, hproduction.tableOf]
    rfl
  have hactionTable : p.actionTable = .ok t.action := by
    rw [PlainParser.actionTable, hgen, ok_bind, ha, haction.tableOf]
    rfl
  have hreduceTable : p.reduceTable = .ok t.reduce := by
    rw [PlainParser.reduceTable, hgen, ok_bind, hr, hreduce.tableOf]
    rfl
  rw [Parser.tables, hproductionTable, hactionTable, hreduceTable]
  rfl

/-! ## Emissions -/

/-- The tables of a module that was made without a cache. -/
theorem holds_of_packAll (c : Config) (g : Grammar) (start : Int) {t units : Tables}
    (h : packAll t = .ok units) (hproduction : t.production.length < 2 ^ 32)
    (haction : t.action.length < 2 ^ 32) (hreduce : t.reduce.length < 2 ^ 32) :
    let m := ParserModule.ofGrammar c g start (.ofUnits units)
    m.productionTable.Holds t.production ∧ m.actionTable.Holds t.action ∧
      m.reduceTable.Holds t.reduce := by
  obtain ⟨hp, ha, hr⟩ := packAll_eq_ok h
  exact ⟨⟨⟨_, hp, rfl⟩, hproduction⟩, ⟨⟨_, ha, rfl⟩, haction⟩, ⟨⟨_, hr, rfl⟩, hreduce⟩⟩

/-- A grammar of one production, which is empty and the start. -/
def emptyStart : Grammar where
  terminals := [⟨⟨.terminal, "EOF", 0, none⟩, none⟩, ⟨⟨.terminal, "error", 1, none⟩, none⟩]
  nonTerminals := [⟨⟨.nonTerminal, "s", 0, none⟩, some 1⟩]
  productions := [⟨0, ⟨⟨.nonTerminal, "s", 0, none⟩, []⟩, none, some 1, .own⟩]
  start := some 0

end LalrBackend
