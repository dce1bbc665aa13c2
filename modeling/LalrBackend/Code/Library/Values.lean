import LalrBackend.Code.Library.Numbers
import LalrBackend.Code.Library.Texts
import LalrBackend.Decimal.Binary64

/-!
# Plain values of standard modules

The values that standard modules provide under fixed names and that code can compute with.
-/

namespace LalrBackend.Code

/-- A plain value of a module. -/
inductive FixedValue where
  | nothing
  | truth (b : Bool)
  | number (n : Int)
  | member (n : Int) (shown : String)
  | real (x : Binary64)
  | text (s : String)
  | texts (items : List String)
  | textTuple (items : List String)

/-- The names of modules that are true. -/
def trueNames : List (String × List String) := [
  ("decimal", ["HAVE_CONTEXTVAR HAVE_THREADS"]),
  ("os", ["supports_bytes_environ"]),
  ("logging", ["logMultiprocessing logProcesses logThreads raiseExceptions"]),
  ("multiprocessing.managers", ["HAS_SHMEM"]),
  ("socket", ["has_ipv6"]),
  ("ssl", [
    "HAS_ALPN HAS_ECDH HAS_NEVER_CHECK_COMMON_NAME HAS_SNI HAS_TLSv1 HAS_TLSv1_1 HAS_TLSv1_2",
    "HAS_TLSv1_3"]),
  ("poplib", ["HAVE_SSL"]),
  ("imaplib", ["HAVE_SSL"]),
  ("email.utils", ["supports_strict_parsing"]),
  ("site", ["ENABLE_USER_SITE"]),
  ("unittest.mock", ["FILTER_DIR"])]

/-- The names of modules that are false. -/
def falseNames : List (String × List String) := [
  ("os.path", ["supports_unicode_filenames"]),
  ("posixpath", ["supports_unicode_filenames"]),
  ("ntpath", ["supports_unicode_filenames"]),
  ("ssl", ["HAS_NPN HAS_SSLv2 HAS_SSLv3"]),
  ("http.cookiejar", ["debug"]),
  ("mimetypes", ["inited"]),
  ("typing", ["TYPE_CHECKING"]),
  ("sys", ["dont_write_bytecode"])]

/-- The names of modules that stand for nothing. -/
def emptyNames : List (String × List String) := [
  ("os.path", ["altsep"]),
  ("posixpath", ["altsep"]),
  ("tempfile", ["tempdir"]),
  ("shutil", ["nt"]),
  ("pickle", ["PyStringMap"]),
  ("hmac", ["digest_size"]),
  ("os", ["altsep"]),
  ("http.cookiejar", ["logger"]),
  ("http.server", ["nobody"]),
  ("xmlrpc.client", ["FastMarshaller FastParser FastUnmarshaller"]),
  ("cgi", ["logfp"]),
  ("xml.dom", ["EMPTY_NAMESPACE EMPTY_PREFIX"]),
  ("xml.dom.minidom", ["EMPTY_NAMESPACE EMPTY_PREFIX"]),
  ("sys", ["pycache_prefix"]),
  ("doctest", ["master"]),
  ("unittest.mock", ["file_spec open_spec"])]

/-- The real numbers of modules, each after its name. -/
def standardReals : List (String × List String) := [
  ("math", ["e 2.718281828459045 inf inf nan nan pi 3.141592653589793 tau 6.283185307179586"]),
  ("cmath", ["e 2.718281828459045 inf inf nan nan pi 3.141592653589793 tau 6.283185307179586"]),
  ("random", [
    "LOG4 1.3862943611198906 NV_MAGICCONST 1.7155277699214135",
    "RECIP_BPF 1.1102230246251565e-16 SG_MAGICCONST 2.504077396776274 TWOPI 6.283185307179586"]),
  ("statistics", ["tau 6.283185307179586"]),
  ("threading", ["TIMEOUT_MAX 9223372036.0"]),
  ("multiprocessing.connection", ["CONNECTION_TIMEOUT 20.0"]),
  ("json.decoder", ["NaN nan NegInf -inf PosInf inf"]),
  ("json.encoder", ["INFINITY inf"]),
  ("colorsys", [
    "ONE_SIXTH 0.16666666666666666 ONE_THIRD 0.3333333333333333 TWO_THIRD 0.6666666666666666"])]

/-- The modules that give none of their plain values to all. -/
def closedModules : List String := [
  "codeop cmd random statistics pathlib shutil shelve gzip secrets tty pty pipes",
  "multiprocessing multiprocessing.connection multiprocessing.dummy multiprocessing.managers",
  "multiprocessing.pool multiprocessing.synchronize asyncio.futures asyncio.subprocess smtpd",
  "wsgiref.simple_server urllib.parse urllib.request http.client http.cookiejar http.server",
  "ftplib poplib imaplib smtplib nntplib telnetlib cgi email.base64mime email.charset",
  "email.feedparser email.generator email.header email.message email.quoprimime email.utils",
  "json.decoder base64 quopri wave colorsys symtable tabnanny pickletools warnings __future__",
  "zipimport zipapp importlib.resources.abc bdb pdb timeit trace"]

/-- The names of plain values that other modules do not give to all. -/
def withheldNames : List (String × List String) := [
  ("locale", [
    "ABDAY_1 ABDAY_2 ABDAY_3 ABDAY_4 ABDAY_5 ABDAY_6 ABDAY_7 ABMON_1 ABMON_10 ABMON_11",
    "ABMON_12 ABMON_2 ABMON_3 ABMON_4 ABMON_5 ABMON_6 ABMON_7 ABMON_8 ABMON_9 ALT_DIGITS",
    "AM_STR CODESET CRNCYSTR DAY_1 DAY_2 DAY_3 DAY_4 DAY_5 DAY_6 DAY_7 D_FMT D_T_FMT ERA",
    "ERA_D_FMT ERA_D_T_FMT ERA_T_FMT MON_1 MON_10 MON_11 MON_12 MON_2 MON_3 MON_4 MON_5 MON_6",
    "MON_7 MON_8 MON_9 NOEXPR PM_STR RADIXCHAR THOUSEP T_FMT T_FMT_AMPM YESEXPR"]),
  ("calendar", ["EPOCH February January error"]),
  ("filecmp", ["BUFSIZE"]),
  ("tempfile", ["template"]),
  ("pickle", ["PyStringMap compatible_formats format_version maxsize"]),
  ("zipfile", [
    "BZIP2_VERSION DEFAULT_VERSION LZMA_VERSION MAX_EXTRACT_VERSION ZIP64_LIMIT ZIP64_VERSION",
    "ZIP_FILECOUNT_LIMIT ZIP_MAX_COMMENT sizeCentralDir sizeEndCentDir sizeEndCentDir64",
    "sizeEndCentDir64Locator sizeFileHeader structCentralDir structEndArchive64",
    "structEndArchive64Locator structFileHeader"]),
  ("tarfile", [
    "BLOCKSIZE LENGTH_LINK LENGTH_NAME LENGTH_PREFIX PAX_FIELDS RECORDSIZE bltn_open version"]),
  ("logging", ["logMultiprocessing logProcesses logThreads"]),
  ("optparse", ["NO_DEFAULT"]),
  ("socket", ["EAGAIN EBADF EWOULDBLOCK"]),
  ("tokenize", [
    "Binnumber Comment Decnumber Double Double3 Expfloat Exponent Hexnumber Ignore Intnumber",
    "Name Octnumber Pointfloat Single Single3 Whitespace tabsize"]),
  ("dis", [
    "BINARY_OP CACHE FORMAT_VALUE JUMP_BACKWARD LOAD_CONST LOAD_GLOBAL MAKE_FUNCTION",
    "MAKE_FUNCTION_FLAGS spec_op"]),
  ("doctest", ["BLANKLINE_MARKER ELLIPSIS_MARKER master"]),
  ("unittest.mock", ["file_spec inplace numerics open_spec right"])]

/-- The names of modules that stand for types and routines that need no import. -/
def namesakes : List ((String × String) × String) := [
  (("calendar", "error"), "ValueError"),
  (("dbm.dumb", "error"), "OSError"),
  (("sqlite3", "Binary"), "memoryview"),
  (("tarfile", "bltn_open"), "open"),
  (("os", "error"), "OSError"),
  (("posix", "error"), "OSError"),
  (("io", "BlockingIOError"), "BlockingIOError"),
  (("io", "open"), "open"),
  (("resource", "error"), "OSError"),
  (("mmap", "error"), "OSError"),
  (("select", "error"), "OSError"),
  (("threading", "ThreadError"), "RuntimeError"),
  (("multiprocessing.dummy", "dict"), "dict"),
  (("multiprocessing.dummy", "list"), "list"),
  (("concurrent.futures", "TimeoutError"), "TimeoutError"),
  (("asyncio", "TimeoutError"), "TimeoutError"),
  (("asyncio.exceptions", "TimeoutError"), "TimeoutError"),
  (("socket", "error"), "OSError"),
  (("socket", "timeout"), "TimeoutError"),
  (("ssl", "socket_error"), "OSError"),
  (("uuid", "int_"), "int"),
  (("uuid", "bytes_"), "bytes"),
  (("xmlrpc.client", "boolean"), "bool"),
  (("xmlrpc.client", "Boolean"), "bool"),
  (("typing", "Text"), "str"),
  (("importlib.resources", "Resource"), "str"),
  (("importlib.resources.abc", "Text"), "str")]

/-- Whether a table of names has one for a module. -/
def hasName (table : List (String × List String)) (path name : String) : Bool :=
  name ∈ wordsOf ((table.lookup path).getD [])

/-- Names, each with the real number that follows it. -/
def realsIn : List String → List (String × Binary64)
  | name :: number :: rest =>
    ((Binary64.ofText? number).map fun x => (name, x)).toList ++ realsIn rest
  | _ => []

/-- The plain value that a module provides under a name. -/
def fixedValue? (path name : String) : Option FixedValue :=
  let number := ((numbersOf path).lookup name).map .number
  let member := (memberNumber? path name).map fun (n, shown) => .member n shown
  let text := (((standardTexts.lookup path).getD []).lookup name).map .text
  let real := ((realsIn (wordsOf ((standardReals.lookup path).getD []))).lookup name).map .real
  let truth := if hasName trueNames path name then some (.truth true)
    else if hasName falseNames path name then some (.truth false) else none
  let list := (standardTextLists.lookup (path, name)).map .texts
  let tuple := (standardTextTuples.lookup (path, name)).map .textTuple
  let empty := if hasName emptyNames path name then some .nothing else none
  number <|> member <|> text <|> real <|> truth <|> list <|> tuple <|> empty

/-- The names of the plain values that a module provides. -/
def fixedNames (path : String) : List String :=
  (numbersOf path).map (·.1) ++ ((standardTexts.lookup path).getD []).map (·.1) ++
    (realsIn (wordsOf ((standardReals.lookup path).getD []))).map (·.1) ++
    [trueNames, falseNames, emptyNames].flatMap (fun t => wordsOf ((t.lookup path).getD [])) ++
    ((standardTextLists ++ standardTextTuples).filter (·.1.1 == path)).map (·.1.2) ++
    (namesakes.filter (·.1.1 == path)).map (·.1.2)

/-- The names of the plain values that a module gives to all: those that are public. -/
def sharedFixedNames (path : String) : List String :=
  if path ∈ wordsOf closedModules then []
  else (fixedNames path).filter fun name =>
    !name.startsWith "_" && !hasName withheldNames path name

end LalrBackend.Code
