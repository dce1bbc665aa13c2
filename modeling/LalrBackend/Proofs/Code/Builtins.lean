import LalrBackend.Proofs.Code.Evaluation
import LalrBackend.Proofs.Code.Listed

/-!
# What generated functions call

Generated functions ask for the type of a value and for the length of a list, look a number up in
a table, and raise what says that a number belongs to no production. The functions they use for
that need no import.
-/

namespace LalrBackend.Code

/-! ## Names that need no import -/

/-- The type of types, which tells the type of a value when it is called. -/
def typeType : Known :=
  ⟨builtinPath, "type", .type, [.indexed, .base, .takesNumber, .takesList]⟩

/-- The type of integers. -/
def integerType : Known :=
  ⟨builtinPath, "int", .type, [.base, .madePlain, .takesNothing, .takesNumber]⟩

/-- The type of tables. -/
def tableType : Known :=
  ⟨builtinPath, "dict", .type, [.indexed, .base, .madePlain, .takesNothing]⟩

/-- The function that tells how many items there are. -/
def lengthFunction : Known :=
  ⟨builtinPath, "len", .routine, [.bare, .takesList]⟩

/-- What looks a key up in a table. -/
def tableGet : Known :=
  ⟨builtinPath, pathWithin "dict" "get", .routine, [.bare]⟩

/-- What is listed under the names that generated functions use. -/
theorem moduleMember?_listed : moduleMember? builtinPath "type" = some typeType ∧
    moduleMember? builtinPath "int" = some integerType ∧
    moduleMember? builtinPath "dict" = some tableType ∧
    moduleMember? builtinPath "len" = some lengthFunction := by
  have hplaces := places_builtin
  simp only [List.map_cons, List.map_nil, List.cons.injEq] at hplaces
  obtain ⟨htype, hint, hdict, hlen, _⟩ := hplaces
  have hknown : ∀ name ∈ ["type", "int", "dict", "len"],
      namesakes.lookup (builtinPath, name) = none ∧ properName builtinPath name = name := by
    decide +kernel
  simp only [List.forall_mem_cons] at hknown
  obtain ⟨⟨htype₁, htype₂⟩, ⟨hint₁, hint₂⟩, ⟨hdict₁, hdict₂⟩, ⟨hlen₁, hlen₂⟩, _⟩ := hknown
  exact ⟨moduleMember?_of_place htype rfl nofun htype₁ htype₂,
    moduleMember?_of_place hint rfl nofun hint₁ hint₂,
    moduleMember?_of_place hdict rfl nofun hdict₁ hdict₂,
    moduleMember?_of_place hlen rfl nofun hlen₁ hlen₂⟩

/-- The types of plain values are listed under their names. -/
theorem moduleMember?_plain {name : String}
    (h : name ∈ ["bool", "float", "str", "tuple", "list"]) :
    ∃ nature traits, moduleMember? builtinPath name = some ⟨builtinPath, name, nature, traits⟩ := by
  have hplaces := places_builtin
  simp only [List.map_cons, List.map_nil, List.cons.injEq] at hplaces
  obtain ⟨_, _, _, _, hbool, hfloat, hstr, htuple, hlist, _⟩ := hplaces
  have hknown : ∀ name ∈ ["bool", "float", "str", "tuple", "list"],
      namesakes.lookup (builtinPath, name) = none ∧ properName builtinPath name = name := by
    decide +kernel
  obtain ⟨hnamesake, hproper⟩ := hknown name h
  simp only [List.mem_cons, List.not_mem_nil, or_false] at h
  rcases h with rfl | rfl | rfl | rfl | rfl
  · exact ⟨_, _, moduleMember?_of_place hbool rfl nofun hnamesake hproper⟩
  · exact ⟨_, _, moduleMember?_of_place hfloat rfl nofun hnamesake hproper⟩
  · exact ⟨_, _, moduleMember?_of_place hstr rfl nofun hnamesake hproper⟩
  · exact ⟨_, _, moduleMember?_of_place htuple rfl nofun hnamesake hproper⟩
  · exact ⟨_, _, moduleMember?_of_place hlist rfl nofun hnamesake hproper⟩

theorem builtinType_int : builtinType "int" = integerType := by
  rw [builtinType, moduleMember?_listed.2.1, Option.getD_some]

theorem builtinType_dict : builtinType "dict" = tableType := by
  rw [builtinType, moduleMember?_listed.2.2.1, Option.getD_some]

/-- The types of plain values but integers are other types than that of integers. -/
theorem builtinType_name {name : String} (h : name ∈ ["bool", "float", "str", "tuple", "list"]) :
    (builtinType name).name = name := by
  obtain ⟨nature, traits, hmember⟩ := moduleMember?_plain h
  rw [builtinType, hmember, Option.getD_some]

theorem builtinValue?_type : builtinValue? "type" = some (.known typeType) := by
  rw [builtinValue?, moduleMember?_listed.1]
  rfl

theorem builtinValue?_int : builtinValue? "int" = some (.known integerType) := by
  rw [builtinValue?, moduleMember?_listed.2.1]
  rfl

theorem builtinValue?_len : builtinValue? "len" = some (.known lengthFunction) := by
  rw [builtinValue?, moduleMember?_listed.2.2.2]
  rfl

/-! ## Calls -/

section Calls

variable {call : Call} {k : Known} {s : Store} {d : Datum} {args : List Datum} {depth : Nat}

theorem callKnown_builtin {named : List (String × Datum)} (hpath : k.path = builtinPath)
    (hnature : k.nature ≠ .module) (hraised : .raised ∉ k.traits) (hstart : k ≠ plainStart) :
    callKnown call k args named = callBuiltin call k args named := by
  have hruntime : k.path ≠ runtimePath := by
    rw [hpath]
    decide
  have htyping : k.path ≠ "typing" := by
    rw [hpath]
    decide
  rw [callKnown, if_neg hnature, if_neg (fun h => hruntime h.1),
    if_neg (not_or.mpr ⟨hruntime, hraised⟩), if_neg (fun h => htyping h.1),
    if_neg (by simpa using hstart), if_pos hpath]

theorem callBuiltin_plain (hprint : k.name ≠ "print")
    (hover : callOver? call k.name args = none) :
    callBuiltin call k args [] = callPlain k args := by
  rw [callBuiltin, if_neg hprint, if_neg (by simp), hover]

theorem ne_of_path {k k' : Known} (h : k.path ≠ k'.path) : k ≠ k' :=
  mt (congrArg Known.path) h

theorem ne_of_name {k k' : Known} (h : k.name ≠ k'.name) : k ≠ k' :=
  mt (congrArg Known.name) h

/-- Asks for the type of a datum. -/
theorem exec_callType : exec (callAt (depth + 1) (.known typeType) [d] []) s =
    exec (typeOf d) s := by
  have hover : callOver? (callAt depth) typeType.name [d] = none := by
    simp [callOver?, typeType]
  have hplain : callPlain typeType [d] = callWithOne typeType d := rfl
  have hname : typeType.name = "type" := rfl
  rw [exec_callAt_known (ne_of_path (by decide)),
    callKnown_builtin rfl (by decide) (by decide) (ne_of_name (by decide)),
    callBuiltin_plain (by decide) hover, hplain, callWithOne, if_pos hname]

/-- Asks how many items a list has. -/
theorem exec_callLength {n : Nat} {items : List Datum} (hlist : s.cells[n]? = some (.list items)) :
    exec (callAt (depth + 1) (.known lengthFunction) [.cell n] []) s =
      (.ok (.int items.length), s) := by
  have hover : callOver? (callAt depth) lengthFunction.name [.cell n] = none := by
    simp [callOver?, lengthFunction]
  have hplain : callPlain lengthFunction [.cell n] = callWithOne lengthFunction (.cell n) := rfl
  have hname : lengthFunction.name = "len" := rfl
  have hitems : exec (itemsOf (.cell n)) s = (.ok items, s) := by
    rw [itemsOf, exec_bind_ok (exec_cellAt hlist)]
    rfl
  rw [exec_callAt_known (ne_of_path (by decide)),
    callKnown_builtin rfl (by decide) (by decide) (ne_of_name (by decide)),
    callBuiltin_plain (by decide) hover, hplain, callWithOne, if_neg (by decide), if_pos hname,
    lengthOf, exec_bind_ok hitems]
  rfl

/-! ## Tables of numbers -/

/-- The entries of a table from numbers to data, by the positions of the data. -/
def numbered (first : Nat) : List Datum → List (Datum × Datum)
  | [] => []
  | d :: ds => (.int first, d) :: numbered (first + 1) ds

theorem equal_int (s : Store) (fuel : Nat) (m n : Int) :
    s.equal (fuel + 1) (.int m) (.int n) = (m == n) := by
  rw [Store.equal]
  · simp [Datum.isSame, Datum.integer?]
  all_goals nofun

theorem find?_numbered (s : Store) (ds : List Datum) (first : Nat) (number : Int) :
    ((numbered first ds).find? fun p => s.equal depthLimit p.1 (.int number)).map (·.2) =
      if number < first then none else ds[(number - first).toNat]? := by
  induction ds generalizing first with
  | nil => simp [numbered]
  | cons d ds ih =>
      rw [numbered, List.find?_cons, depthLimit, equal_int]
      by_cases hnumber : number = first
      · subst hnumber
        simp
      · have hne : ((first : Int) == number) = false := by
          rw [beq_eq_false_iff_ne]
          exact fun h => hnumber h.symm
        simp only [hne]
        rw [← depthLimit, ih]
        by_cases hlt : number < first
        · rw [if_pos (by omega), if_pos hlt]
        · obtain ⟨k, hk⟩ : ∃ k : Nat, number = first + 1 + k :=
            ⟨(number - first - 1).toNat, by omega⟩
          subst hk
          rw [if_neg (by omega), if_neg (by omega)]
          have h0 : ((first : Int) + 1 + k - ((first + 1 : Nat) : Int)).toNat = k := by omega
          have h1 : ((first : Int) + 1 + k - (first : Int)).toNat = k + 1 := by omega
          rw [h0, h1, List.getElem?_cons_succ]

theorem callPlain_get {self index : Datum} (h : k.name = "dict.get") :
    callPlain k [self, index] = getEntry self index .null := by
  change (if k.name = "dict.get" then _ else _) = _
  rw [if_pos h]

/-- Asks a table from numbers for an integer. What is not there is nothing. -/
theorem exec_callGet {n : Nat} {ds : List Datum} {number : Int}
    (htable : s.cells[n]? = some (.table (numbered 0 ds))) :
    exec (callAt (depth + 1) (.bound (.cell n) (.known tableGet)) [.int number] []) s =
      (.ok ((if number < 0 then none else ds[number.toNat]?).getD .null), s) := by
  have hover : callOver? (callAt depth) tableGet.name [.cell n, .int number] = none := by
    simp [callOver?, tableGet, pathWithin]
  have hname : tableGet.name = "dict.get" := by decide
  have hkey : exec (isKey (.int number)) s = (.ok true, s) := rfl
  have hfind := find?_numbered s ds 0 number
  simp only [Int.natCast_zero, Int.sub_zero] at hfind
  rw [exec_callAt_boundKnown (ne_of_path (by decide)),
    callKnown_builtin rfl (by decide) (by decide) (ne_of_name (by decide)),
    callBuiltin_plain (by decide) hover, callPlain_get hname, getEntry,
    exec_bind_ok (exec_cellAt htable)]
  simp only
  have hentry : exec (entryOf? (.int number) (numbered 0 ds)) s =
      (.ok (if number < 0 then none else ds[number.toNat]?), s) := by
    rw [entryOf?, exec_bind_ok hkey, ← hfind]
    rfl
  rw [exec_bind_ok hentry, exec_pure]

/-- The method of a table that looks keys up. -/
theorem exec_attributeOf_get {n : Nat} {entries : List (Datum × Datum)}
    (htable : s.cells[n]? = some (.table entries)) :
    exec (attributeOf (.cell n) "get") s = (.ok (.bound (.cell n) (.known tableGet)), s) := by
  have hhas : exec (hasMembers (.cell n)) s = (.ok false, s) := by
    rw [hasMembers, exec_bind_ok (exec_cellAt htable)]
    rfl
  have htype : exec (typeOf (.cell n)) s = (.ok (.known tableType), s) := by
    rw [typeOf, exec_bind_ok (exec_cellAt htable), ← builtinType_dict]
    rfl
  have hmethod : partType? "dict" "get" = none ∧ (methodFamily? "dict" "get").isSome := by
    decide +kernel
  obtain ⟨family, hfamily⟩ := Option.isSome_iff_exists.mp hmethod.2
  have hattribute : exec (typeAttribute tableType.name (.cell n) "get") s =
      (.ok (.bound (.cell n) (.known tableGet)), s) := by
    have hname : tableType.name = "dict" := rfl
    rw [typeAttribute, if_neg (by decide), hname, hmethod.1, hfamily]
    rfl
  rw [attributeOf, if_neg (by decide), if_neg (by decide), exec_bind_ok hhas, if_neg (by decide),
    exec_bind_ok (exec_cellAt htable)]
  simp only
  rw [plainAttribute, exec_bind_ok htype]
  exact hattribute

end Calls

end LalrBackend.Code
