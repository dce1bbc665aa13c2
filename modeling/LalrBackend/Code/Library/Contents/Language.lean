import LalrBackend.Code.Library.Entry

/-!
# Modules for the language and its types

What these standard modules provide, by kind. Plain values stand apart.
-/

namespace LalrBackend.Code

/-- The contents of the modules for the language and its types. -/
def languageContents : List (String × List Family) := [
  ("ast", [
    ⟨.module, [], ["sys"]⟩,
    ⟨.routine, [.settable], [
      "copy_location dump fix_missing_locations get_docstring increment_lineno literal_eval",
      "main parse unparse"]⟩,
    ⟨.routine, [.settable, .takesNumber, .takesList], [
      "contextmanager iter_child_nodes iter_fields walk"]⟩,
    ⟨.routine, [.settable, .takesTwo], ["get_source_segment"]⟩,
    ⟨.type, [.settable, .base], ["IntEnum"]⟩,
    ⟨.type, [.settable, .base, .madePlain, .takesNothing], [
      "AST Add And AugLoad AugStore BitAnd BitOr BitXor Break Continue Del Div Eq FloorDiv Gt",
      "GtE In Invert Is IsNot LShift Load Lt LtE MatMult Mod Mult NodeTransformer NodeVisitor",
      "Not NotEq NotIn Or Param Pass Pow RShift Store Sub Suite UAdd USub boolop cmpop",
      "excepthandler expr expr_context mod operator pattern slice stmt type_ignore unaryop"]⟩,
    ⟨.type, [.settable, .base, .madePlain, .takesNothing, .takesNumber, .takesList], [
      "Await Delete Ellipsis Expr Expression Global Import Interactive JoinedStr MatchOr",
      "MatchSequence MatchSingleton MatchStar MatchValue Nonlocal Return Set Yield YieldFrom",
      "auto"]⟩,
    ⟨.type, [.settable, .base, .madePlain, .takesNothing, .takesNumber, .takesList, .takesTwo], [
      "Bytes Num Str"]⟩,
    ⟨.type, [.settable, .base, .madeWithTwo, .madePlain,
        .takesNothing, .takesNumber, .takesList, .takesTwo], [
      "AnnAssign Assert Assign AsyncFor AsyncFunctionDef AsyncWith Attribute AugAssign BinOp",
      "BoolOp Call ClassDef Compare Constant Dict DictComp ExceptHandler For FormattedValue",
      "FunctionDef FunctionType GeneratorExp If IfExp ImportFrom Lambda List ListComp Match",
      "MatchAs MatchClass MatchMapping Module Name NameConstant NamedExpr Raise SetComp Slice",
      "Starred Subscript Try TryStar Tuple TypeIgnore UnaryOp While With alias arg arguments",
      "comprehension keyword match_case withitem"]⟩,
    ⟨.type, [.settable, .base, .madeWithTwo, .madePlain, .takesNothing, .takesList], ["ExtSlice"]⟩,
    ⟨.type, [.settable, .base, .takesNumber, .takesList], ["Index"]⟩,
    ⟨.type, [.settable, .indexed, .base, .madePlain, .takesNothing, .takesNumber, .takesList], [
      "nullcontext"]⟩]),
  ("symtable", [
    ⟨.module, [.withheld], ["weakref"]⟩,
    ⟨.routine, [.settable], ["symtable"]⟩,
    ⟨.type, [.settable, .base], ["Symbol"]⟩,
    ⟨.type, [.settable, .base, .madePlain, .takesNothing, .withheld], ["SymbolTableFactory"]⟩,
    ⟨.type, [.settable, .base, .madeWithTwo, .takesTwo], ["Class Function SymbolTable"]⟩]),
  ("token", [
    ⟨.routine, [.settable, .takesNumber], ["ISNONTERMINAL ISTERMINAL"]⟩,
    ⟨.routine, [.settable, .takesNumber, .takesList], ["ISEOF"]⟩,
    ⟨.value, [.bare], ["tok_name"]⟩,
    ⟨.value, [.bare, .withheld], ["EXACT_TOKEN_TYPES"]⟩]),
  ("keyword", [
    ⟨.routine, [.bare, .takesNumber], ["iskeyword issoftkeyword"]⟩]),
  ("tokenize", [
    ⟨.module, [.withheld], ["collections functools re sys"]⟩,
    ⟨.routine, [.bare, .withheld], ["lookup"]⟩,
    ⟨.routine, [.settable], ["detect_encoding tokenize untokenize"]⟩,
    ⟨.routine, [.settable, .takesNumber], ["ISNONTERMINAL ISTERMINAL"]⟩,
    ⟨.routine, [.settable, .takesNumber, .takesList], ["ISEOF generate_tokens"]⟩,
    ⟨.routine, [.settable, .takesNothing, .withheld], ["any group maybe"]⟩,
    ⟨.routine, [.settable, .withheld], ["main open"]⟩,
    ⟨.type, [.base, .withheld], ["TextIOWrapper"]⟩,
    ⟨.type, [.settable, .base, .madePlain, .takesNothing, .withheld], ["Untokenizer"]⟩,
    ⟨.type, [.settable, .base, .madeWithTwo, .madePlain, .raised,
        .takesNothing, .takesNumber, .takesList, .takesTwo, .withheld], [
      "StopTokenizing TokenError"]⟩,
    ⟨.type, [.settable, .indexed, .base], ["TokenInfo"]⟩,
    ⟨.value, [.bare], ["tok_name"]⟩,
    ⟨.value, [.bare, .withheld], [
      "BOM_UTF8 ContStr EXACT_TOKEN_TYPES Floatnumber Funny Imagnumber Number PlainToken",
      "PseudoExtras PseudoToken Special String StringPrefix Token Triple blank_re cookie_re",
      "endpats single_quoted triple_quoted"]⟩]),
  ("tabnanny", [
    ⟨.module, [.withheld], ["os sys tokenize"]⟩,
    ⟨.routine, [.settable], ["check process_tokens"]⟩,
    ⟨.routine, [.settable, .takesNothing, .takesNumber, .takesList, .takesTwo, .withheld], [
      "errprint"]⟩,
    ⟨.routine, [.settable, .takesNothing, .withheld], ["main"]⟩,
    ⟨.routine, [.settable, .withheld], ["format_witnesses"]⟩,
    ⟨.type, [.settable, .base, .takesList, .withheld], ["Whitespace"]⟩,
    ⟨.type, [.settable, .base, .raised], ["NannyNag"]⟩]),
  ("pyclbr", [
    ⟨.module, [.withheld], ["ast importlib sys"]⟩,
    ⟨.routine, [.settable], ["readmodule readmodule_ex"]⟩,
    ⟨.type, [.settable, .base], ["Class Function"]⟩]),
  ("py_compile", [
    ⟨.module, [.withheld], ["enum importlib os sys traceback"]⟩,
    ⟨.routine, [.settable], ["compile main"]⟩,
    ⟨.type, [.settable, .takesNumber], ["PycInvalidationMode"]⟩,
    ⟨.type, [.settable, .base, .raised], ["PyCompileError"]⟩]),
  ("compileall", [
    ⟨.module, [.withheld], ["filecmp importlib os py_compile struct sys"]⟩,
    ⟨.routine, [.settable], ["compile_file"]⟩,
    ⟨.routine, [.settable, .takesNumber], ["compile_dir"]⟩,
    ⟨.routine, [.settable, .takesNothing, .takesNumber, .takesList], ["compile_path"]⟩,
    ⟨.routine, [.settable, .takesNothing, .withheld], ["main"]⟩,
    ⟨.type, [.indexed, .base, .takesTwo, .withheld], ["partial"]⟩,
    ⟨.type, [.settable, .base, .takesNothing, .withheld], ["Path"]⟩]),
  ("dis", [
    ⟨.module, [.withheld], ["collections io sys types"]⟩,
    ⟨.routine, [.bare], ["stack_effect"]⟩,
    ⟨.routine, [.settable], [
      "code_info dis disassemble disco distb findlabels get_instructions show_code"]⟩,
    ⟨.routine, [.settable, .takesNumber, .takesList], ["findlinestarts"]⟩,
    ⟨.routine, [.settable, .takesNumber, .withheld], ["pretty_flags"]⟩,
    ⟨.routine, [.settable, .withheld], ["main"]⟩,
    ⟨.type, [.settable, .base], ["Bytecode"]⟩,
    ⟨.type, [.settable, .indexed, .base], ["Instruction"]⟩,
    ⟨.type, [.settable, .indexed, .base, .madePlain,
        .takesNothing, .takesNumber, .takesList, .takesTwo, .withheld], ["Positions"]⟩,
    ⟨.value, [.bare], [
      "hascompare hasconst hasfree hasjabs hasjrel haslocal hasname hasnargs opmap opname"]⟩,
    ⟨.value, [.bare, .withheld], [
      "COMPILER_FLAG_NAMES FORMAT_VALUE_CONVERTERS deoptmap specialized"]⟩,
    ⟨.value, [.settable, .withheld], ["UNKNOWN"]⟩]),
  ("pickletools", [
    ⟨.module, [.withheld], ["codecs io pickle re sys"]⟩,
    ⟨.routine, [.settable], ["dis optimize"]⟩,
    ⟨.routine, [.settable, .takesNumber, .takesList], ["genops"]⟩,
    ⟨.routine, [.settable, .withheld], [
      "decode_long read_bytearray8 read_bytes1 read_bytes4 read_bytes8 read_decimalnl_long",
      "read_decimalnl_short read_float8 read_floatnl read_int4 read_long1 read_long4",
      "read_string1 read_string4 read_stringnl read_stringnl_noescape",
      "read_stringnl_noescape_pair read_uint1 read_uint2 read_uint4 read_uint8",
      "read_unicodestring1 read_unicodestring4 read_unicodestring8 read_unicodestringnl"]⟩,
    ⟨.type, [.settable, .base, .withheld], ["ArgumentDescriptor OpcodeInfo StackObject"]⟩,
    ⟨.value, [.bare, .withheld], [
      "anyobject bytearray8 bytes1 bytes4 bytes8 bytes_types code2op decimalnl_long",
      "decimalnl_short float8 floatnl int4 long1 long4 markobject opcodes pybool pybuffer",
      "pybytearray pybytes pybytes_or_str pydict pyfloat pyfrozenset pyint pyinteger_or_bool",
      "pylist pylong pynone pyset pystring pytuple pyunicode stackslice string1 string4",
      "stringnl stringnl_noescape stringnl_noescape_pair uint1 uint2 uint4 uint8 unicodestring1",
      "unicodestring4 unicodestring8 unicodestringnl"]⟩]),
  ("opcode", [
    ⟨.routine, [.bare], ["stack_effect"]⟩,
    ⟨.value, [.bare], [
      "hascompare hasconst hasfree hasjabs hasjrel haslocal hasname hasnargs opmap opname"]⟩]),
  ("sre_constants", [
    ⟨.module, [], ["warnings"]⟩,
    ⟨.type, [.settable, .base, .madeWithTwo, .raised, .takesNumber, .takesList, .takesTwo], [
      "error"]⟩,
    ⟨.value, [.bare], [
      "ATCODES AT_LOCALE AT_MULTILINE AT_UNICODE CHCODES CH_LOCALE CH_UNICODE OPCODES OP_IGNORE",
      "OP_LOCALE_IGNORE OP_UNICODE_IGNORE"]⟩,
    ⟨.value, [.settable], [
      "ANY ANY_ALL ASSERT ASSERT_NOT AT ATOMIC_GROUP AT_BEGINNING AT_BEGINNING_LINE",
      "AT_BEGINNING_STRING AT_BOUNDARY AT_END AT_END_LINE AT_END_STRING AT_LOC_BOUNDARY",
      "AT_LOC_NON_BOUNDARY AT_NON_BOUNDARY AT_UNI_BOUNDARY AT_UNI_NON_BOUNDARY BIGCHARSET",
      "BRANCH CATEGORY CATEGORY_DIGIT CATEGORY_LINEBREAK CATEGORY_LOC_NOT_WORD",
      "CATEGORY_LOC_WORD CATEGORY_NOT_DIGIT CATEGORY_NOT_LINEBREAK CATEGORY_NOT_SPACE",
      "CATEGORY_NOT_WORD CATEGORY_SPACE CATEGORY_UNI_DIGIT CATEGORY_UNI_LINEBREAK",
      "CATEGORY_UNI_NOT_DIGIT CATEGORY_UNI_NOT_LINEBREAK CATEGORY_UNI_NOT_SPACE",
      "CATEGORY_UNI_NOT_WORD CATEGORY_UNI_SPACE CATEGORY_UNI_WORD CATEGORY_WORD CHARSET FAILURE",
      "GROUPREF GROUPREF_EXISTS GROUPREF_IGNORE GROUPREF_LOC_IGNORE GROUPREF_UNI_IGNORE IN INFO",
      "IN_IGNORE IN_LOC_IGNORE IN_UNI_IGNORE JUMP LITERAL LITERAL_IGNORE LITERAL_LOC_IGNORE",
      "LITERAL_UNI_IGNORE MARK MAXREPEAT MAX_REPEAT MAX_UNTIL MIN_REPEAT MIN_REPEAT_ONE",
      "MIN_UNTIL NEGATE NOT_LITERAL NOT_LITERAL_IGNORE NOT_LITERAL_LOC_IGNORE",
      "NOT_LITERAL_UNI_IGNORE POSSESSIVE_REPEAT POSSESSIVE_REPEAT_ONE RANGE RANGE_UNI_IGNORE",
      "REPEAT REPEAT_ONE SUBPATTERN SUCCESS"]⟩]),
  ("sre_parse", [
    ⟨.module, [], ["warnings"]⟩,
    ⟨.routine, [.settable], ["expand_template fix_flags parse parse_template"]⟩,
    ⟨.type, [.settable, .base], ["Tokenizer"]⟩,
    ⟨.type, [.settable, .base, .madePlain, .takesNothing], ["State"]⟩,
    ⟨.type, [.settable, .base, .madeWithTwo, .takesNumber, .takesList, .takesTwo], ["SubPattern"]⟩,
    ⟨.type, [.settable, .base, .madeWithTwo, .raised, .takesNumber, .takesList, .takesTwo], [
      "error"]⟩,
    ⟨.value, [.bare], [
      "ASCIILETTERS ATCODES AT_LOCALE AT_MULTILINE AT_UNICODE CATEGORIES CHCODES CH_LOCALE",
      "CH_UNICODE DIGITS ESCAPES FLAGS HEXDIGITS OCTDIGITS OPCODES OP_IGNORE OP_LOCALE_IGNORE",
      "OP_UNICODE_IGNORE WHITESPACE"]⟩,
    ⟨.value, [.settable], [
      "ANY ANY_ALL ASSERT ASSERT_NOT AT ATOMIC_GROUP AT_BEGINNING AT_BEGINNING_LINE",
      "AT_BEGINNING_STRING AT_BOUNDARY AT_END AT_END_LINE AT_END_STRING AT_LOC_BOUNDARY",
      "AT_LOC_NON_BOUNDARY AT_NON_BOUNDARY AT_UNI_BOUNDARY AT_UNI_NON_BOUNDARY BIGCHARSET",
      "BRANCH CATEGORY CATEGORY_DIGIT CATEGORY_LINEBREAK CATEGORY_LOC_NOT_WORD",
      "CATEGORY_LOC_WORD CATEGORY_NOT_DIGIT CATEGORY_NOT_LINEBREAK CATEGORY_NOT_SPACE",
      "CATEGORY_NOT_WORD CATEGORY_SPACE CATEGORY_UNI_DIGIT CATEGORY_UNI_LINEBREAK",
      "CATEGORY_UNI_NOT_DIGIT CATEGORY_UNI_NOT_LINEBREAK CATEGORY_UNI_NOT_SPACE",
      "CATEGORY_UNI_NOT_WORD CATEGORY_UNI_SPACE CATEGORY_UNI_WORD CATEGORY_WORD CHARSET FAILURE",
      "GROUPREF GROUPREF_EXISTS GROUPREF_IGNORE GROUPREF_LOC_IGNORE GROUPREF_UNI_IGNORE IN INFO",
      "IN_IGNORE IN_LOC_IGNORE IN_UNI_IGNORE JUMP LITERAL LITERAL_IGNORE LITERAL_LOC_IGNORE",
      "LITERAL_UNI_IGNORE MARK MAXREPEAT MAX_REPEAT MAX_UNTIL MIN_REPEAT MIN_REPEAT_ONE",
      "MIN_UNTIL NEGATE NOT_LITERAL NOT_LITERAL_IGNORE NOT_LITERAL_LOC_IGNORE",
      "NOT_LITERAL_UNI_IGNORE POSSESSIVE_REPEAT POSSESSIVE_REPEAT_ONE RANGE RANGE_UNI_IGNORE",
      "REPEAT REPEAT_ONE SUBPATTERN SUCCESS"]⟩]),
  ("sre_compile", [
    ⟨.module, [], ["warnings"]⟩,
    ⟨.routine, [.settable], ["compile dis"]⟩,
    ⟨.routine, [.settable, .takesNumber, .takesList], ["isstring"]⟩,
    ⟨.type, [.settable, .base, .madeWithTwo, .raised, .takesNumber, .takesList, .takesTwo], [
      "error"]⟩,
    ⟨.value, [.bare], [
      "ATCODES AT_LOCALE AT_MULTILINE AT_UNICODE CHCODES CH_LOCALE CH_UNICODE OPCODES OP_IGNORE",
      "OP_LOCALE_IGNORE OP_UNICODE_IGNORE"]⟩,
    ⟨.value, [.settable], [
      "ANY ANY_ALL ASSERT ASSERT_NOT AT ATOMIC_GROUP AT_BEGINNING AT_BEGINNING_LINE",
      "AT_BEGINNING_STRING AT_BOUNDARY AT_END AT_END_LINE AT_END_STRING AT_LOC_BOUNDARY",
      "AT_LOC_NON_BOUNDARY AT_NON_BOUNDARY AT_UNI_BOUNDARY AT_UNI_NON_BOUNDARY BIGCHARSET",
      "BRANCH CATEGORY CATEGORY_DIGIT CATEGORY_LINEBREAK CATEGORY_LOC_NOT_WORD",
      "CATEGORY_LOC_WORD CATEGORY_NOT_DIGIT CATEGORY_NOT_LINEBREAK CATEGORY_NOT_SPACE",
      "CATEGORY_NOT_WORD CATEGORY_SPACE CATEGORY_UNI_DIGIT CATEGORY_UNI_LINEBREAK",
      "CATEGORY_UNI_NOT_DIGIT CATEGORY_UNI_NOT_LINEBREAK CATEGORY_UNI_NOT_SPACE",
      "CATEGORY_UNI_NOT_WORD CATEGORY_UNI_SPACE CATEGORY_UNI_WORD CATEGORY_WORD CHARSET FAILURE",
      "GROUPREF GROUPREF_EXISTS GROUPREF_IGNORE GROUPREF_LOC_IGNORE GROUPREF_UNI_IGNORE IN INFO",
      "IN_IGNORE IN_LOC_IGNORE IN_UNI_IGNORE JUMP LITERAL LITERAL_IGNORE LITERAL_LOC_IGNORE",
      "LITERAL_UNI_IGNORE MARK MAXREPEAT MAX_REPEAT MAX_UNTIL MIN_REPEAT MIN_REPEAT_ONE",
      "MIN_UNTIL NEGATE NOT_LITERAL NOT_LITERAL_IGNORE NOT_LITERAL_LOC_IGNORE",
      "NOT_LITERAL_UNI_IGNORE POSSESSIVE_REPEAT POSSESSIVE_REPEAT_ONE RANGE RANGE_UNI_IGNORE",
      "REPEAT REPEAT_ONE SUBPATTERN SUCCESS"]⟩]),
  ("typing", [
    ⟨.module, [.withheld], [
      "collections contextlib functools operator stdlib_re sys types warnings"]⟩,
    ⟨.routine, [.settable], [
      "NamedTuple assert_never get_overloads no_type_check runtime_checkable"]⟩,
    ⟨.routine, [.settable, .takesNumber, .takesList], [
      "final get_args get_origin is_typeddict no_type_check_decorator overload reveal_type"]⟩,
    ⟨.routine, [.settable, .takesNothing], ["clear_overloads dataclass_transform"]⟩,
    ⟨.routine, [.settable, .takesTwo], ["assert_type cast get_type_hints"]⟩,
    ⟨.routine, [.settable, .base, .madeWithTwo, .madePlain], ["TypedDict"]⟩,
    ⟨.routine, [.settable, .withheld], ["abstractmethod"]⟩,
    ⟨.type, [.base, .takesTwo, .withheld], ["GenericAlias"]⟩,
    ⟨.type, [.indexed, .base, .madePlain, .takesNothing, .withheld], ["defaultdict"]⟩,
    ⟨.type, [.settable], ["Annotated ForwardRef"]⟩,
    ⟨.type, [.settable, .takesNumber, .takesList], [
      "ParamSpec ParamSpecArgs ParamSpecKwargs TypeVar TypeVarTuple"]⟩,
    ⟨.type, [.settable, .takesNothing], ["Generic"]⟩,
    ⟨.type, [.settable, .base], [
      "NewType SupportsBytes SupportsComplex SupportsFloat SupportsIndex SupportsInt"]⟩,
    ⟨.type, [.settable, .base, .madePlain], ["Any"]⟩,
    ⟨.type, [.settable, .base, .madePlain, .takesNothing], ["BinaryIO Protocol TextIO"]⟩,
    ⟨.type, [.settable, .base, .madePlain, .takesNothing, .withheld], ["io re"]⟩,
    ⟨.type, [.settable, .base, .withheld], ["ABCMeta NamedTupleMeta"]⟩,
    ⟨.type, [.settable, .indexed, .base], ["SupportsAbs SupportsRound"]⟩,
    ⟨.type, [.settable, .indexed, .base, .madePlain, .takesNothing], ["IO"]⟩,
    ⟨.type, [.withheld], ["MethodDescriptorType MethodWrapperType WrapperDescriptorType"]⟩,
    ⟨.value, [.bare], ["Concatenate LiteralString Never NoReturn Self TypeAlias"]⟩,
    ⟨.value, [.bare, .indexed], [
      "ClassVar Final NotRequired Optional Required TypeGuard Union Unpack"]⟩,
    ⟨.value, [.bare, .withheld], ["EXCLUDED_ATTRIBUTES"]⟩,
    ⟨.value, [.base, .madePlain], ["Dict"]⟩,
    ⟨.value, [.base, .madePlain, .takesNothing], ["DefaultDict OrderedDict"]⟩,
    ⟨.value, [.indexed], ["Match Pattern"]⟩,
    ⟨.value, [.indexed, .base], ["Type"]⟩,
    ⟨.value, [.indexed, .base, .madePlain], ["FrozenSet List Set Tuple"]⟩,
    ⟨.value, [.indexed, .base, .madePlain, .takesNothing, .takesList], ["Deque"]⟩,
    ⟨.value, [.settable], ["AnyStr"]⟩,
    ⟨.value, [.settable, .base], [
      "AsyncGenerator ByteString Callable Coroutine Generator Hashable Mapping MutableMapping",
      "Sized"]⟩,
    ⟨.value, [.settable, .base, .madeWithTwo, .madePlain,
        .takesNothing, .takesNumber, .takesList, .takesTwo], ["ChainMap"]⟩,
    ⟨.value, [.settable, .base, .takesNumber, .takesList], ["ItemsView"]⟩,
    ⟨.value, [.settable, .indexed], ["Literal"]⟩,
    ⟨.value, [.settable, .indexed, .base], [
      "AbstractSet AsyncContextManager AsyncIterable AsyncIterator Awaitable Collection",
      "Container ContextManager Iterable Iterator MutableSequence MutableSet Reversible",
      "Sequence"]⟩,
    ⟨.value, [.settable, .indexed, .base, .madePlain, .takesNothing], ["Counter"]⟩,
    ⟨.value, [.settable, .indexed, .base, .takesNumber, .takesList], [
      "KeysView MappingView ValuesView"]⟩,
    ⟨.value, [.settable, .withheld], ["CT_co KT T T_co T_contra VT VT_co V_co"]⟩]),
  ("builtins", [
    ⟨.routine, [.bare], [
      "__build_class__ __import__ aiter anext breakpoint compile delattr divmod eval exec",
      "getattr hasattr input isinstance issubclass max min next ord pow setattr sorted sum"]⟩,
    ⟨.routine, [.bare, .takesNumber], ["abs bin chr hash hex oct open round"]⟩,
    ⟨.routine, [.bare, .takesNumber, .takesList], ["ascii callable format id repr"]⟩,
    ⟨.routine, [.bare, .takesList], ["all any len"]⟩,
    ⟨.routine, [.bare, .takesList, .takesTwo], ["iter"]⟩,
    ⟨.routine, [.bare, .takesNothing], ["globals locals vars"]⟩,
    ⟨.routine, [.bare, .takesNothing, .takesNumber, .takesList], ["dir"]⟩,
    ⟨.routine, [.bare, .takesNothing, .takesNumber, .takesList, .takesTwo], ["print"]⟩,
    ⟨.type, [], ["memoryview"]⟩,
    ⟨.type, [.takesNumber], ["range"]⟩,
    ⟨.type, [.takesNumber, .takesList, .takesTwo], ["slice"]⟩,
    ⟨.type, [.takesNothing, .takesNumber, .takesList], ["bool"]⟩,
    ⟨.type, [.base], ["filter map"]⟩,
    ⟨.type, [.base, .madePlain, .takesNothing], ["object"]⟩,
    ⟨.type, [.base, .madePlain, .takesNothing, .takesNumber], [
      "bytearray bytes complex float int"]⟩,
    ⟨.type, [.base, .madePlain, .takesNothing, .takesNumber, .takesList], ["str"]⟩,
    ⟨.type, [.base, .madePlain, .takesNothing, .takesList], ["zip"]⟩,
    ⟨.type, [.base, .madePlain, .takesTwo], ["super"]⟩,
    ⟨.type, [.base, .madePlain, .raised, .takesNothing, .takesNumber, .takesList], [
      "IndentationError SyntaxError TabError"]⟩,
    ⟨.type, [.base, .madeWithTwo, .madePlain,
        .takesNothing, .takesNumber, .takesList, .takesTwo], ["property"]⟩,
    ⟨.type, [.base, .madeWithTwo, .madePlain, .raised,
        .takesNothing, .takesNumber, .takesList, .takesTwo], [
      "ArithmeticError AssertionError AttributeError BaseException BlockingIOError",
      "BrokenPipeError BufferError BytesWarning ChildProcessError ConnectionAbortedError",
      "ConnectionError ConnectionRefusedError ConnectionResetError DeprecationWarning EOFError",
      "EncodingWarning Exception FileExistsError FileNotFoundError FloatingPointError",
      "FutureWarning GeneratorExit ImportError ImportWarning IndexError InterruptedError",
      "IsADirectoryError KeyError KeyboardInterrupt LookupError MemoryError ModuleNotFoundError",
      "NameError NotADirectoryError NotImplementedError OSError OverflowError",
      "PendingDeprecationWarning PermissionError ProcessLookupError RecursionError",
      "ReferenceError ResourceWarning RuntimeError RuntimeWarning StopAsyncIteration",
      "StopIteration SyntaxWarning SystemError SystemExit TimeoutError TypeError",
      "UnboundLocalError UnicodeError UnicodeWarning UserWarning ValueError Warning",
      "ZeroDivisionError"]⟩,
    ⟨.type, [.base, .takesNumber, .takesList], ["classmethod staticmethod"]⟩,
    ⟨.type, [.base, .takesList], ["reversed"]⟩,
    ⟨.type, [.base, .raised], ["UnicodeDecodeError UnicodeEncodeError UnicodeTranslateError"]⟩,
    ⟨.type, [.indexed, .base, .madePlain, .takesNothing], ["dict frozenset set"]⟩,
    ⟨.type, [.indexed, .base, .madePlain, .takesNothing, .takesList], ["list tuple"]⟩,
    ⟨.type, [.indexed, .base, .takesNumber, .takesList], ["type"]⟩,
    ⟨.type, [.indexed, .base, .takesList], ["enumerate"]⟩,
    ⟨.type, [.indexed, .base, .raised], ["BaseExceptionGroup"]⟩,
    ⟨.type, [.settable, .base, .madePlain, .takesNothing], ["__loader__"]⟩,
    ⟨.type, [.settable, .indexed, .base, .raised], ["ExceptionGroup"]⟩,
    ⟨.value, [.bare], ["Ellipsis NotImplemented"]⟩,
    ⟨.value, [.settable], ["__spec__ exit quit"]⟩,
    ⟨.value, [.settable, .takesNothing, .takesNumber, .takesList], ["help"]⟩,
    ⟨.value, [.settable, .base], ["license"]⟩,
    ⟨.value, [.settable, .base, .takesNothing], ["copyright credits"]⟩]),
  ("dataclasses", [
    ⟨.module, [.withheld], ["abc builtins copy functools inspect itertools keyword re sys types"]⟩,
    ⟨.routine, [.settable], ["asdict astuple fields make_dataclass replace"]⟩,
    ⟨.routine, [.settable, .takesNumber, .takesList], ["is_dataclass"]⟩,
    ⟨.routine, [.settable, .takesNothing], ["dataclass field"]⟩,
    ⟨.type, [.base, .takesTwo, .withheld], ["GenericAlias"]⟩,
    ⟨.type, [.settable, .base, .madeWithTwo, .madePlain,
        .raised, .takesNothing, .takesNumber, .takesList, .takesTwo], ["FrozenInstanceError"]⟩,
    ⟨.type, [.settable, .indexed, .base], ["Field"]⟩,
    ⟨.type, [.settable, .indexed, .base, .takesNumber, .takesList], ["InitVar"]⟩,
    ⟨.type, [.withheld], ["FunctionType"]⟩,
    ⟨.value, [.settable], ["KW_ONLY MISSING"]⟩]),
  ("abc", [
    ⟨.routine, [.bare, .takesNothing], ["get_cache_token"]⟩,
    ⟨.routine, [.settable], ["abstractmethod"]⟩,
    ⟨.routine, [.settable, .takesNumber, .takesList], ["update_abstractmethods"]⟩,
    ⟨.type, [.settable, .base], ["ABCMeta abstractclassmethod abstractstaticmethod"]⟩,
    ⟨.type, [.settable, .base, .madePlain, .takesNothing], ["ABC"]⟩,
    ⟨.type, [.settable, .base, .madeWithTwo, .madePlain,
        .takesNothing, .takesNumber, .takesList, .takesTwo], ["abstractproperty"]⟩]),
  ("contextlib", [
    ⟨.module, [.withheld], ["abc os sys"]⟩,
    ⟨.routine, [.settable, .takesNumber, .takesList], ["asynccontextmanager contextmanager"]⟩,
    ⟨.routine, [.settable, .takesNumber, .takesList, .takesTwo, .withheld], ["wraps"]⟩,
    ⟨.type, [.takesTwo, .withheld], ["MethodType"]⟩,
    ⟨.type, [.base, .takesTwo, .withheld], ["GenericAlias"]⟩,
    ⟨.type, [.indexed, .base, .madePlain, .takesNothing, .takesList, .withheld], ["deque"]⟩,
    ⟨.type, [.settable, .base, .madePlain, .takesNothing], ["ContextDecorator"]⟩,
    ⟨.type, [.settable, .base, .madePlain, .takesNothing, .withheld], ["AsyncContextDecorator"]⟩,
    ⟨.type, [.settable, .indexed, .base], ["AbstractAsyncContextManager AbstractContextManager"]⟩,
    ⟨.type, [.settable, .indexed, .base, .madePlain, .takesNothing], ["AsyncExitStack ExitStack"]⟩,
    ⟨.type, [.settable, .indexed, .base, .madePlain, .takesNothing, .takesNumber, .takesList], [
      "nullcontext"]⟩,
    ⟨.type, [.settable, .indexed, .base, .madeWithTwo,
        .madePlain, .takesNothing, .takesNumber, .takesList, .takesTwo], ["suppress"]⟩,
    ⟨.type, [.settable, .indexed, .base, .takesNumber, .takesList], [
      "aclosing chdir closing redirect_stderr redirect_stdout"]⟩]),
  ("warnings", [
    ⟨.module, [.withheld], ["sys"]⟩,
    ⟨.routine, [.bare], ["warn_explicit"]⟩,
    ⟨.routine, [.bare, .takesNumber], ["warn"]⟩,
    ⟨.routine, [.settable], ["filterwarnings formatwarning showwarning simplefilter"]⟩,
    ⟨.routine, [.settable, .takesNothing], ["resetwarnings"]⟩,
    ⟨.type, [.settable, .base, .madePlain, .takesNothing], ["catch_warnings"]⟩,
    ⟨.type, [.settable, .base, .withheld], ["WarningMessage"]⟩,
    ⟨.value, [.bare, .withheld], ["filters onceregistry"]⟩])]

end LalrBackend.Code
