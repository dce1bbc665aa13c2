import LalrBackend.Code.Library.Entry
import LalrBackend.Reduction.Printer
import LalrBackend.SourceText

/-!
# The package of the generator

What the package provides to code that generated parsers are based on: one module for what parsers
need when they run, and those that make them.
-/

namespace LalrBackend.Code

/-- The package of the module that generated parsers are based on. -/
def runtimePackage : String :=
  String.ofList ((runtimePath.toList.splitOn '.').headD [])

/-- What can be raised and says no more than its arguments. -/
def raisedFamily (names : List String) : Family :=
  ⟨.type, [.settable, .base, .madeWithTwo, .madePlain, .raised, .takesNothing, .takesNumber,
    .takesList, .takesTwo], names⟩

/-- What the modules of the package make themselves. -/
def packageParts : List (String × List Family) := [
  ("actions", [
    ⟨.routine, [.settable], ["pre"]⟩,
    ⟨.type, [.settable, .base, .takesNumber, .takesList], ["ActionCodeGenerator"]⟩,
    ⟨.value, [.bare], ["INDENT PREFIX"]⟩]),
  ("config", [
    ⟨.type, [.settable, .base, .madeWithTwo, .madePlain, .takesNothing, .takesNumber, .takesList,
      .takesTwo], ["GenerationConfig GenerationReport"]⟩]),
  ("emitter", [
    ⟨.routine, [.settable], ["emit_parser_to_string emit_symbols_to_string"]⟩,
    ⟨.type, [.settable, .base, .madePlain, .takesNothing, .takesNumber, .takesList], ["Emitter"]⟩,
    ⟨.value, [.bare], ["TITLE"]⟩,
    ⟨.module, [], ["io os warnings"]⟩]),
  ("encoding", [
    ⟨.routine, [.settable], ["decode encode escape_for_literal unescape_literal_lines"]⟩,
    ⟨.routine, [.settable, .takesNumber, .withheld], ["_escape_unit"]⟩,
    ⟨.value, [.bare], ["CONCAT_MARKER MAX_VALUE MIN_VALUE TERMINATOR UNITS_PER_LINE"]⟩]),
  ("errors", [raisedFamily ["ParserGeneratorError ParserGeneratorWarning"]]),
  ("grammar", [
    ⟨.routine, [.settable], ["resolve_part"]⟩,
    ⟨.type, [.settable, .base], ["DerivedProduction Production"]⟩,
    ⟨.type, [.settable, .base, .madePlain, .takesNothing], ["Grammar"]⟩,
    ⟨.type, [.settable, .base, .madeWithTwo, .takesNumber, .takesList, .takesTwo], ["SymbolPart"]⟩,
    ⟨.type, [.settable, .base, .madeWithTwo, .takesTwo], ["GrammarSymbol NonTerminal Terminal"]⟩]),
  ("runtime", [
    ⟨.type, [.settable, .base], ["LRParser Symbol SymbolFactory"]⟩,
    ⟨.type, [.settable, .base, .raised], ["ParseTableError"]⟩,
    ⟨.routine, [.settable, .withheld], ["decode_string"]⟩]),
  ("tables", [
    ⟨.routine, [.settable, .takesNumber], ["reduce shift"]⟩,
    ⟨.routine, [.settable, .withheld], ["_compress_rows"]⟩,
    ⟨.type, [.settable, .base], ["ParseActionTable ParseReduceTable"]⟩,
    ⟨.value, [.bare], ["ERROR"]⟩]),
  ("utils", [
    ⟨.routine, [.settable], [
      "compute_tables_hash data_is_valid has_code read_cache reindent sanitize_identifier",
      "write_cache"]⟩,
    ⟨.type, [.settable, .base, .madePlain, .takesNothing], ["Stopwatch"]⟩,
    ⟨.value, [.bare, .withheld], ["_ILLEGAL_IDENT"]⟩,
    ⟨.module, [], ["errno hashlib json keyword os re tempfile textwrap time"]⟩])]

/-- What the package itself and its modules have from each other and from other modules. -/
def packageLoans : List (String × List (String × List String)) := [
  ("", [
    ("errors", ["ParserGeneratorError ParserGeneratorWarning"]),
    ("runtime", ["ParseTableError"]),
    ("grammar", ["DerivedProduction Grammar NonTerminal Production SymbolPart Terminal"]),
    ("config", ["GenerationConfig GenerationReport"]),
    ("tables", ["ParseActionTable ParseReduceTable"]),
    ("emitter", ["Emitter emit_parser_to_string emit_symbols_to_string"])]),
  ("actions", [
    ("typing", ["List"]), ("grammar", ["resolve_part"]), ("utils", ["has_code reindent"])]),
  ("config", [("dataclasses", ["dataclass field"]), ("typing", ["Optional Tuple"])]),
  ("emitter", [
    ("actions", ["ActionCodeGenerator INDENT pre"]),
    ("config", ["GenerationConfig GenerationReport"]),
    ("appdirs", ["AppDirs"]),
    ("encoding", ["encode escape_for_literal"]),
    ("errors", ["ParserGeneratorError ParserGeneratorWarning"]),
    ("utils", [
      "Stopwatch compute_tables_hash data_is_valid has_code read_cache reindent",
      "sanitize_identifier write_cache"])]),
  ("encoding", [
    ("typing", ["List"]), ("errors", ["ParserGeneratorError"]), ("runtime", ["decode_string"])]),
  ("errors", [("runtime", ["ParseTableError"])]),
  ("grammar", [("errors", ["ParserGeneratorError"])]),
  ("tables", [("typing", ["List"]), ("errors", ["ParserGeneratorError"])])]

/-- The path of a module of the package; without a name, that of the package. -/
def packagePath (name : String) : String :=
  if name = "" then runtimePackage else pathWithin runtimePackage name

/-- The path of a module that something is had from. -/
def sourcePath (name : String) : String :=
  if (packageParts.lookup name).isSome then packagePath name else name

/-- The names of the package and its modules. -/
def packageNames : List String :=
  "" :: packageParts.map (·.1)

/-- The library that tells where caches are kept. -/
def directoriesPath : String := "appdirs"

/-- What the library provides that tells where caches are kept. -/
def directoriesContents : List Family := [
  ⟨.routine, [.settable, .takesNothing, .takesNumber, .takesList, .takesTwo], [
    "site_config_dir site_data_dir user_cache_dir user_config_dir user_data_dir user_log_dir",
    "user_state_dir"]⟩,
  ⟨.routine, [.settable, .withheld], [
    "_get_win_folder_from_registry _get_win_folder_with_ctypes _get_win_folder_with_jna",
    "_get_win_folder_with_pywin32"]⟩,
  ⟨.type, [.settable, .base, .madeWithTwo, .madePlain, .takesNothing, .takesNumber, .takesList,
    .takesTwo], ["AppDirs"]⟩,
  ⟨.type, [.base], ["unicode"]⟩,
  ⟨.value, [.bare], ["PY3 system"]⟩,
  ⟨.module, [], ["os sys"]⟩]

/-- The texts of the modules of the package. -/
def packageTexts : List ((String × String) × String) := [
  (("actions", "INDENT"), step), (("actions", "PREFIX"), Reduction.internal ""),
  (("emitter", "TITLE"), title), (("encoding", "CONCAT_MARKER"), " +"),
  (("encoding", "TERMINATOR"), ")"), (("", "__version__"), "0.1.0")]

/-- The numbers of the modules of the package. -/
def packageNumbers : List ((String × String) × Int) := [
  (("encoding", "MAX_VALUE"), 0x7fff), (("encoding", "MIN_VALUE"), -0x8000),
  (("encoding", "UNITS_PER_LINE"), 11), (("tables", "ERROR"), 0)]

end LalrBackend.Code
