import LalrBackend.Code.Library.Lookup
import Mathlib.Tactic.Common

/-!
# Names that are listed

What needs no import is listed by the words of lines. A word is found by the characters of the
lines, and the first family that has it tells what it is. What needs no import has no modules
within it, and all of its names that do not begin with an underscore are listed, so a name that no
family has means nothing.
-/

namespace LalrBackend.Code

/-! ## Families -/

section Families

variable {path name : String} {f : Family}

/-- Whether a name is one of the words of a family. -/
def Family.has (name : String) (f : Family) : Bool :=
  f.names.any fun line => (line.toList.splitOn ' ').contains name.toList

theorem Family.has_iff : f.has name = true ↔ name ∈ wordsOf f.names := by
  simp only [Family.has, List.any_eq_true, List.contains_iff_mem, wordsOf, List.mem_flatMap,
    List.mem_map]
  constructor
  · rintro ⟨line, hline, hword⟩
    exact ⟨line, hline, name.toList, hword, String.ofList_toList⟩
  · rintro ⟨line, hline, word, hword, rfl⟩
    exact ⟨line, hline, by rwa [String.toList_ofList]⟩

theorem find?_entries : (f.entries path).find? (·.name == name) =
    if f.has name then some ⟨path, name, f.nature, f.traits⟩ else none := by
  rw [if_congr Family.has_iff rfl rfl, Family.entries]
  induction wordsOf f.names with
  | nil => rfl
  | cons word words ih =>
      rw [List.map_cons, List.find?_cons]
      by_cases hword : word = name
      · simp [hword]
      · have hother : name ∈ word :: words ↔ name ∈ words := by
          simp [Ne.symm hword]
        simp only [beq_false_of_ne hword, ih, if_congr hother rfl rfl]

/-- The first family that has a name tells what goes by it. -/
theorem find?_families (path name : String) (fs : List Family) :
    (fs.flatMap (Family.entries path)).find? (·.name == name) =
      (fs.find? (Family.has name)).map fun f => ⟨path, name, f.nature, f.traits⟩ := by
  induction fs with
  | nil => rfl
  | cons f fs ih =>
      rw [List.flatMap_cons, List.find?_append, find?_entries, ih, List.find?_cons]
      cases f.has name with
      | true => rfl
      | false => rfl

end Families

/-! ## What needs no import -/

theorem lookup_map {α β : Type} (f : String → α → β) (entries : List (String × α))
    (path : String) :
    (entries.map fun (p, a) => (p, f p a)).lookup path = (entries.lookup path).map (f path) := by
  induction entries with
  | nil => rfl
  | cons entry entries ih =>
      obtain ⟨p, a⟩ := entry
      rw [List.map_cons, List.lookup_cons, List.lookup_cons, ih]
      by_cases hp : path = p
      · simp [hp]
      · simp [beq_false_of_ne hp]

/-- The families of what needs no import. -/
def builtinFamilies : List Family :=
  (languageContents.lookup builtinPath).getD []

theorem standardContents_builtin :
    standardContents.lookup builtinPath = some builtinFamilies := by
  have hbefore : (textContents ++ dataContents ++ numberContents ++ fileContents ++
      systemContents ++ concurrencyContents ++ networkContents ++ messageContents ++
      markupContents).lookup builtinPath = none := by
    decide +kernel
  have hlisted : (languageContents.lookup builtinPath).isSome := by
    decide +kernel
  obtain ⟨families, hfamilies⟩ := Option.isSome_iff_exists.mp hlisted
  rw [standardContents, List.lookup_append, List.lookup_append, hbefore, Option.none_or,
    builtinFamilies, hfamilies]
  rfl

theorem ownContents_builtin : ownContents.lookup builtinPath =
    some (builtinFamilies.flatMap (Family.entries builtinPath)) := by
  rw [ownContents]
  refine (lookup_map (fun path (families : List Family) => families.flatMap (Family.entries path))
    _ builtinPath).trans ?_
  rw [List.lookup_append, standardContents_builtin]
  rfl

theorem moduleContents_builtin :
    (moduleContents.lookup builtinPath).getD [] =
      builtinFamilies.flatMap (Family.entries builtinPath) := by
  have hpackage : (builtinPath == runtimePackage) = false := by
    decide +kernel
  have hloans : (packageNames.map fun name => (packagePath name, loansOf name)).lookup
      builtinPath = none := by
    decide +kernel
  have hmap := lookup_map (fun path entries => entries ++
    ((packageNames.map fun name => (packagePath name, loansOf name)).lookup path).getD [])
    ownContents builtinPath
  rw [ownContents_builtin, hloans, Option.map_some, Option.getD_none, List.append_nil] at hmap
  rw [moduleContents, List.lookup_cons, hpackage]
  simp only [hmap, Option.getD_some]

/-- What needs no import is what the first family says that has its name. -/
theorem moduleMember?_of_place {name : String} {i : Nat} {nature : Nature} {traits : List Trait}
    (hplace : (builtinFamilies.map (Family.has name)).findIdx? id = some i)
    (hfamily : (builtinFamilies[i]?).map (fun f => (f.nature, f.traits)) = some (nature, traits))
    (hnature : nature ≠ .module) (hnamesake : namesakes.lookup (builtinPath, name) = none)
    (hproper : properName builtinPath name = name) :
    moduleMember? builtinPath name = some ⟨builtinPath, name, nature, traits⟩ := by
  obtain ⟨f, hf, hsays⟩ := Option.map_eq_some_iff.mp hfamily
  cases hsays
  have hfirst : builtinFamilies.find? (Family.has name) = some f := by
    rw [List.findIdx?_map, Function.id_comp] at hplace
    rw [List.find?_eq_bind_findIdx?_getElem?, hplace, Option.bind_some, hf]
  have hfind := find?_families builtinPath name builtinFamilies
  rw [hfirst, Option.map_some] at hfind
  rw [moduleMember?, hnamesake]
  simp only [listedMember?, hproper, moduleContents_builtin, hfind, if_neg hnature]

/-- The places of the families of the types of plain values, of tables and of types, and of what
tells a length. -/
theorem places_builtin : (["type", "int", "dict", "len", "bool", "float", "str", "tuple",
    "list"].map fun name => (builtinFamilies.map (Family.has name)).findIdx? id) =
      [some 26, some 14, some 24, some 3, some 11, some 14, some 15, some 25, some 25] := by
  unfold builtinFamilies languageContents builtinPath
  simp only [List.lookup_cons, String.reduceBEq, Option.getD_some, List.map_cons, List.map_nil,
    Family.has, List.any_cons, List.any_nil]
  repeat rw [String.toList_ofList]
  decide +kernel

/-! ## Names that are not listed -/

theorem toList_of_mem_wordsOf {lines : List String} {word : String} (h : word ∈ wordsOf lines) :
    ∃ line ∈ lines, word.toList ∈ line.toList.splitOn ' ' := by
  obtain ⟨line, hline, hword⟩ := List.mem_flatMap.mp h
  obtain ⟨cs, hcs, rfl⟩ := List.mem_map.mp hword
  exact ⟨line, hline, by rwa [String.toList_ofList]⟩

theorem standardPaths_apart : (standardPaths.all fun line => (line.toList.splitOn ' ').all
    fun word => !"builtins.".toList.isPrefixOf word) = true := by
  unfold standardPaths
  simp only [List.all_cons, List.all_nil]
  repeat rw [String.toList_ofList]
  decide +kernel

theorem packagePaths_apart : ((directoriesPath :: packageNames.map packagePath).all
    fun path => !"builtins.".toList.isPrefixOf path.toList) = true := by
  decide +kernel

/-- What needs no import has no modules within it. -/
theorem pathWithin_builtin_not_mem (name : String) :
    pathWithin builtinPath name ∉ modulePaths := by
  have hwithin : "builtins.".toList.isPrefixOf (pathWithin builtinPath name).toList = true := by
    rw [List.isPrefixOf_iff_prefix, pathWithin, String.toList_append]
    exact List.prefix_append _ _
  intro h
  rcases List.mem_append.mp h with hstandard | hpackage
  · obtain ⟨line, hline, hword⟩ := toList_of_mem_wordsOf hstandard
    have hapart := List.all_eq_true.mp (List.all_eq_true.mp standardPaths_apart line hline) _ hword
    rw [hwithin] at hapart
    cases hapart
  · have hapart := List.all_eq_true.mp packagePaths_apart _ hpackage
    rw [hwithin] at hapart
    cases hapart

section Names

variable {name : String}

theorem moduleContents_builtin_isSome : (moduleContents.lookup builtinPath).isSome = true := by
  have hlisted : builtinFamilies.flatMap (Family.entries builtinPath) ≠ [] := by
    have hname : (builtinFamilies.map (Family.has "len")).findIdx? id = some 3 := by
      have hplaces := places_builtin
      simp only [List.map_cons, List.map_nil, List.cons.injEq] at hplaces
      exact hplaces.2.2.2.1
    intro hnone
    have hfind := find?_families builtinPath "len" builtinFamilies
    rw [hnone, List.find?_nil, eq_comm, Option.map_eq_none_iff, List.find?_eq_none] at hfind
    rw [List.findIdx?_map, Function.id_comp, List.findIdx?_eq_some_iff_getElem] at hname
    obtain ⟨hlt, hhas, _⟩ := hname
    exact hfind _ (List.getElem_mem hlt) hhas
  rw [← moduleContents_builtin] at hlisted
  cases hcontents : moduleContents.lookup builtinPath with
  | none => exact absurd (by rw [hcontents]; rfl) hlisted
  | some entries => rfl

/-- A name that no family has, and that does not begin with an underscore, means nothing without
an import. -/
theorem moduleMember?_of_unlisted
    (hplace : (builtinFamilies.map (Family.has name)).findIdx? id = none)
    (hpublic : name.startsWith "_" = false)
    (hnamesake : namesakes.lookup (builtinPath, name) = none)
    (hproper : properName builtinPath name = name) :
    moduleMember? builtinPath name = none := by
  have hfirst : builtinFamilies.find? (Family.has name) = none := by
    rw [List.findIdx?_map, Function.id_comp] at hplace
    rw [List.find?_eq_bind_findIdx?_getElem?, hplace, Option.bind_none]
  have hfind := find?_families builtinPath name builtinFamilies
  rw [hfirst, Option.map_none] at hfind
  have hnot : mayHave builtinPath name = false := by
    obtain ⟨entries, hentries⟩ := Option.isSome_iff_exists.mp moduleContents_builtin_isSome
    rw [mayHave, hpublic, hentries]
    rfl
  rw [moduleMember?, hnamesake]
  simp only [listedMember?, hproper, moduleContents_builtin, hfind, hnot,
    if_neg (pathWithin_builtin_not_mem name), Bool.false_eq_true, if_false]

end Names

end LalrBackend.Code
