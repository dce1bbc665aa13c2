import LalrBackend.Code.Library.Entry

/-!
# Texts of standard modules

The texts that standard modules provide under fixed names, and their lists and tuples of texts.
-/

namespace LalrBackend.Code

/-- The texts of modules. -/
def standardTexts : List (String × List (String × String)) := [
  ("string", [
    ("ascii_letters", "abcdefghijklmnopqrstuvwxyzABCDEFGHIJKLMNOPQRSTUVWXYZ"),
    ("ascii_lowercase", "abcdefghijklmnopqrstuvwxyz"),
    ("ascii_uppercase", "ABCDEFGHIJKLMNOPQRSTUVWXYZ"), ("digits", "0123456789"),
    ("hexdigits", "0123456789abcdefABCDEF"), ("octdigits", "01234567"),
    ("printable", "0123456789abcdefghijklmnopqrstuvwxyzABCDEFGHIJKLMNO" ++
      "PQRSTUVWXYZ!\"#$%&'()*+,-./:;<=>?@[\\]^_\x60\x7b|\x7d~ \t\n\r\x0b\x0c"),
    ("punctuation", "!\"#$%&'()*+,-./:;<=>?@[\\]^_\x60\x7b|\x7d~"),
    ("whitespace", " \t\n\r\x0b\x0c")]),
  ("re", [
    ("__version__", "2.2.1")]),
  ("unicodedata", [
    ("unidata_version", "14.0.0")]),
  ("cmd", [
    ("IDENTCHARS", "abcdefghijklmnopqrstuvwxyzABCDEFGHIJKLMNOPQRSTUVWXYZ0123456789_"),
    ("PROMPT", "(Cmd) ")]),
  ("array", [
    ("typecodes", "bBuhHiIlLqQfd")]),
  ("decimal", [
    ("ROUND_05UP", "ROUND_05UP"), ("ROUND_CEILING", "ROUND_CEILING"),
    ("ROUND_DOWN", "ROUND_DOWN"), ("ROUND_FLOOR", "ROUND_FLOOR"),
    ("ROUND_HALF_DOWN", "ROUND_HALF_DOWN"), ("ROUND_HALF_EVEN", "ROUND_HALF_EVEN"),
    ("ROUND_HALF_UP", "ROUND_HALF_UP"), ("ROUND_UP", "ROUND_UP"), ("__version__", "1.70")]),
  ("os.path", [
    ("curdir", "."), ("defpath", "/bin:/usr/bin"), ("devnull", "/dev/null"), ("extsep", "."),
    ("pardir", ".."), ("pathsep", ":"), ("sep", "/")]),
  ("posixpath", [
    ("curdir", "."), ("defpath", "/bin:/usr/bin"), ("devnull", "/dev/null"), ("extsep", "."),
    ("pardir", ".."), ("pathsep", ":"), ("sep", "/")]),
  ("ntpath", [
    ("altsep", "/"), ("curdir", "."), ("defpath", ".;C:\\bin"), ("devnull", "nul"),
    ("extsep", "."), ("pardir", ".."), ("pathsep", ";"), ("sep", "\\")]),
  ("tempfile", [
    ("template", "tmp")]),
  ("pickle", [
    ("format_version", "4.0")]),
  ("dbm.ndbm", [
    ("library", "Berkeley DB")]),
  ("sqlite3", [
    ("apilevel", "2.0"), ("paramstyle", "qmark"), ("version", "2.6.0")]),
  ("zlib", [
    ("__version__", "1.0")]),
  ("zipfile", [
    ("structCentralDir", "<4s4B4HL2L5H2L"), ("structEndArchive64", "<4sQ2H2L4Q"),
    ("structEndArchive64Locator", "<4sLQL"), ("structFileHeader", "<4s2B4HL2L2H")]),
  ("tarfile", [
    ("ENCODING", "utf-8"), ("version", "0.9.0")]),
  ("csv", [
    ("__version__", "1.0")]),
  ("configparser", [
    ("DEFAULTSECT", "DEFAULT")]),
  ("os", [
    ("curdir", "."), ("defpath", "/bin:/usr/bin"), ("devnull", "/dev/null"), ("extsep", "."),
    ("linesep", "\n"), ("name", "posix"), ("pardir", ".."), ("pathsep", ":"), ("sep", "/")]),
  ("argparse", [
    ("ONE_OR_MORE", "+"), ("OPTIONAL", "?"), ("PARSER", "A..."), ("REMAINDER", "..."),
    ("SUPPRESS", "==SUPPRESS=="), ("ZERO_OR_MORE", "*"), ("__version__", "1.1")]),
  ("logging", [
    ("BASIC_FORMAT", "%(levelname)s:%(name)s:%(message)s"), ("__version__", "0.5.1.2")]),
  ("curses.panel", [
    ("version", "2.1")]),
  ("platform", [
    ("__version__", "1.0.8")]),
  ("ctypes", [
    ("__version__", "1.1.0")]),
  ("optparse", [
    ("SUPPRESS_HELP", "SUPPRESSHELP"), ("SUPPRESS_USAGE", "SUPPRESSUSAGE"),
    ("__version__", "1.5.3")]),
  ("pipes", [
    ("FILEIN_FILEOUT", "ff"), ("FILEIN_STDOUT", "f-"), ("SINK", "-."), ("SOURCE", ".-"),
    ("STDIN_FILEOUT", "-f"), ("STDIN_STDOUT", "--")]),
  ("multiprocessing.connection", [
    ("default_family", "AF_UNIX")]),
  ("multiprocessing.pool", [
    ("CLOSE", "CLOSE"), ("INIT", "INIT"), ("RUN", "RUN"), ("TERMINATE", "TERMINATE")]),
  ("concurrent.futures", [
    ("ALL_COMPLETED", "ALL_COMPLETED"), ("FIRST_COMPLETED", "FIRST_COMPLETED"),
    ("FIRST_EXCEPTION", "FIRST_EXCEPTION")]),
  ("asyncio", [
    ("ALL_COMPLETED", "ALL_COMPLETED"), ("FIRST_COMPLETED", "FIRST_COMPLETED"),
    ("FIRST_EXCEPTION", "FIRST_EXCEPTION")]),
  ("asyncio.tasks", [
    ("ALL_COMPLETED", "ALL_COMPLETED"), ("FIRST_COMPLETED", "FIRST_COMPLETED"),
    ("FIRST_EXCEPTION", "FIRST_EXCEPTION")]),
  ("ssl", [
    ("PEM_FOOTER", "-----END CERTIFICATE-----"), ("PEM_HEADER", "-----BEGIN CERTIFICATE-----")]),
  ("socketserver", [
    ("__version__", "0.4")]),
  ("smtpd", [
    ("COMMASPACE", ", "), ("NEWLINE", "\n")]),
  ("wsgiref.simple_server", [
    ("__version__", "0.2"), ("server_version", "WSGIServer/0.2")]),
  ("urllib.parse", [
    ("scheme_chars", "abcdefghijklmnopqrstuvwxyzABCDEFGHIJKLMNOPQRSTUVWXYZ0123456789+-.")]),
  ("urllib.request", [
    ("__version__", "3.11")]),
  ("http.cookiejar", [
    ("DEFAULT_HTTP_PORT", "80"), ("HTTPONLY_ATTR", "HTTPOnly"), ("HTTPONLY_PREFIX", "#HttpOnly_"),
    ("HTTP_PATH_SAFE", "%/;:@&=+$,!~*'()"),
    ("MISSING_FILENAME_TEXT", "a filename was not supplied (nor was the " ++
      "CookieJar instance initialised with one)")]),
  ("http.server", [
    ("DEFAULT_ERROR_CONTENT_TYPE", "text/html;charset=utf-8"), ("__version__", "0.6")]),
  ("ftplib", [
    ("CRLF", "\r\n")]),
  ("imaplib", [
    ("__version__", "2.58")]),
  ("smtplib", [
    ("CRLF", "\r\n")]),
  ("uuid", [
    ("RESERVED_FUTURE", "reserved for future definition"),
    ("RESERVED_MICROSOFT", "reserved for Microsoft compatibility"),
    ("RESERVED_NCS", "reserved for NCS compatibility"), ("RFC_4122", "specified in RFC 4122")]),
  ("xmlrpc.client", [
    ("__version__", "3.11")]),
  ("ipaddress", [
    ("__version__", "1.0")]),
  ("cgi", [
    ("__version__", "2.6"), ("logfile", "")]),
  ("email.base64mime", [
    ("CRLF", "\r\n"), ("EMPTYSTRING", ""), ("NL", "\n")]),
  ("email.charset", [
    ("DEFAULT_CHARSET", "us-ascii"), ("EMPTYSTRING", ""), ("UNKNOWN8BIT", "unknown-8bit")]),
  ("email.feedparser", [
    ("EMPTYSTRING", ""), ("NL", "\n")]),
  ("email.generator", [
    ("NL", "\n"), ("UNDERSCORE", "_")]),
  ("email.header", [
    ("EMPTYSTRING", ""), ("FWS", " \t"), ("NL", "\n"), ("SPACE", " "), ("SPACE8", "        ")]),
  ("email.message", [
    ("SEMISPACE", "; ")]),
  ("email.quoprimime", [
    ("CRLF", "\r\n"), ("EMPTYSTRING", ""), ("NL", "\n"),
    ("ascii_letters", "abcdefghijklmnopqrstuvwxyzABCDEFGHIJKLMNOPQRSTUVWXYZ"),
    ("digits", "0123456789"), ("hexdigits", "0123456789abcdefABCDEF")]),
  ("email.utils", [
    ("COMMASPACE", ", "), ("CRLF", "\r\n"), ("EMPTYSTRING", ""), ("TICK", "'"),
    ("UEMPTYSTRING", "")]),
  ("json", [
    ("__version__", "2.0.9")]),
  ("json.decoder", [
    ("WHITESPACE_STR", " \t\n\r")]),
  ("xml.dom.pulldom", [
    ("CHARACTERS", "CHARACTERS"), ("COMMENT", "COMMENT"), ("END_DOCUMENT", "END_DOCUMENT"),
    ("END_ELEMENT", "END_ELEMENT"), ("IGNORABLE_WHITESPACE", "IGNORABLE_WHITESPACE"),
    ("PROCESSING_INSTRUCTION", "PROCESSING_INSTRUCTION"), ("START_DOCUMENT", "START_DOCUMENT"),
    ("START_ELEMENT", "START_ELEMENT")]),
  ("xml.etree.ElementTree", [
    ("VERSION", "1.3.0")]),
  ("xml.sax.expatreader", [
    ("version", "0.20")]),
  ("xml.sax.handler", [
    ("version", "2.0beta")]),
  ("tokenize", [
    ("Binnumber", "0[bB](?:_?[01])+"), ("Comment", "#[^\\r\\n]*"),
    ("Decnumber", "(?:0(?:_?0)*|[1-9](?:_?[0-9])*)"),
    ("Double", "[^\"\\\\]*(?:\\\\.[^\"\\\\]*)*\""),
    ("Double3", "[^\"\\\\]*(?:(?:\\\\.|\"(?!\"\"))[^\"\\\\]*)*\"\"\""),
    ("Expfloat", "[0-9](?:_?[0-9])*[eE][-+]?[0-9](?:_?[0-9])*"),
    ("Exponent", "[eE][-+]?[0-9](?:_?[0-9])*"), ("Hexnumber", "0[xX](?:_?[0-9a-fA-F])+"),
    ("Ignore", "[ \\f\\t]*(\\\\\\r?\\n[ \\f\\t]*)*(#[^\\r\\n]*)?"),
    ("Intnumber", "(0[xX](?:_?[0-9a-fA-F])+|0[bB](?:_?[01])+|0[oO]" ++
      "(?:_?[0-7])+|(?:0(?:_?0)*|[1-9](?:_?[0-9])*))"),
    ("Name", "\\w+"), ("Octnumber", "0[oO](?:_?[0-7])+"),
    ("Pointfloat", "([0-9](?:_?[0-9])*\\.(?:[0-9](?:_?[0-9])*)?|\\.[0" ++
      "-9](?:_?[0-9])*)([eE][-+]?[0-9](?:_?[0-9])*)?"),
    ("Single", "[^'\\\\]*(?:\\\\.[^'\\\\]*)*'"),
    ("Single3", "[^'\\\\]*(?:(?:\\\\.|'(?!''))[^'\\\\]*)*'''"), ("Whitespace", "[ \\f\\t]*")]),
  ("tabnanny", [
    ("__version__", "6")]),
  ("sre_parse", [
    ("REPEAT_CHARS", "*+?\x7b"), ("SPECIAL_CHARS", ".\\[\x7b()*+?^$|")]),
  ("warnings", [
    ("defaultaction", "default")]),
  ("sys", [
    ("abiflags", ""), ("byteorder", "little"), ("float_repr_style", "short"),
    ("platform", "linux"), ("platlibdir", "lib")]),
  ("inspect", [
    ("CORO_CLOSED", "CORO_CLOSED"), ("CORO_CREATED", "CORO_CREATED"),
    ("CORO_RUNNING", "CORO_RUNNING"), ("CORO_SUSPENDED", "CORO_SUSPENDED"),
    ("GEN_CLOSED", "GEN_CLOSED"), ("GEN_CREATED", "GEN_CREATED"), ("GEN_RUNNING", "GEN_RUNNING"),
    ("GEN_SUSPENDED", "GEN_SUSPENDED")]),
  ("zipimport", [
    ("alt_path_sep", ""), ("path_sep", "/")]),
  ("zipapp", [
    ("MAIN_TEMPLATE", "# -*- coding: utf-8 -*-\nimpor" ++
      "t \x7bmodule\x7d\n\x7bmodule\x7d.\x7bfn\x7d()\n"),
    ("shebang_encoding", "utf-8")]),
  ("doctest", [
    ("BLANKLINE_MARKER", "<BLANKLINE>"), ("ELLIPSIS_MARKER", "...")]),
  ("unittest.case", [
    ("DIFF_OMITTED", "\nDiff is %s characters long. Set self.maxDiff to None to see it.")]),
  ("unittest.mock", [
    ("inplace", "iadd isub imul imatmul itruediv ifloordiv" ++
      " imod ilshift irshift iand ixor ior ipow"),
    ("numerics", "add sub mul matmul truediv floordiv mod lshift rshift and xor or pow"),
    ("right", "radd rsub rmul rmatmul rtruediv rfloordiv rmod rlshift rrshift rand rxor ror rpow")]),
  ("unittest.result", [
    ("STDERR_LINE", "\nStderr:\n%s"), ("STDOUT_LINE", "\nStdout:\n%s")]),
  ("pdb", [
    ("TESTCMD", "import x; x.main()"), ("line_prefix", "\n-> ")]),
  ("timeit", [
    ("dummy_src_name", "<timeit-src>")]),
  ("trace", [
    ("PRAGMA_NOCOVER", "#pragma NO COVER")]),
  ("distutils", [
    ("__version__", "3.11.10")])]

/-- The lists of texts of modules. -/
def standardTextLists : List ((String × String) × List String) := [
  (("filecmp", "DEFAULT_IGNORES"), [
    "RCS", "CVS", "tags", ".git", ".hg", ".bzr", "_darcs", "__pycache__"]),
  (("pickle", "compatible_formats"), ["1.0", "1.1", "1.2", "1.3", "2.0", "3.0", "4.0", "5.0"]),
  (("pipes", "stepkinds"), ["ff", "-f", "f-", "--", ".-", "-."]),
  (("multiprocessing.connection", "families"), ["AF_INET", "AF_UNIX"]),
  (("ssl", "CHANNEL_BINDING_TYPES"), ["tls-unique"]),
  (("urllib.parse", "non_hierarchical"), [
    "gopher", "hdl", "mailto", "news", "telnet", "wais", "imap", "snews", "sip", "sips"]),
  (("urllib.parse", "uses_fragment"), [
    "", "ftp", "hdl", "http", "gopher", "news", "nntp", "wais", "https", "shttp", "snews", "file",
    "prospero"]),
  (("urllib.parse", "uses_netloc"), [
    "", "ftp", "http", "gopher", "nntp", "telnet", "imap", "wais", "file", "mms", "https",
    "shttp", "snews", "prospero", "rtsp", "rtsps", "rtspu", "rsync", "svn", "svn+ssh", "sftp",
    "nfs", "git", "git+ssh", "ws", "wss"]),
  (("urllib.parse", "uses_params"), [
    "", "ftp", "hdl", "prospero", "http", "imap", "https", "shttp", "rtsp", "rtsps", "rtspu",
    "sip", "sips", "mms", "sftp", "tel"]),
  (("urllib.parse", "uses_query"), [
    "", "http", "wais", "imap", "https", "shttp", "mms", "gopher", "rtsp", "rtsps", "rtspu",
    "sip", "sips"]),
  (("urllib.parse", "uses_relative"), [
    "", "ftp", "http", "gopher", "nntp", "imap", "wais", "file", "https", "shttp", "mms",
    "prospero", "rtsp", "rtsps", "rtspu", "sftp", "svn", "svn+ssh", "ws", "wss"]),
  (("http.cookiejar", "DAYS"), ["Mon", "Tue", "Wed", "Thu", "Fri", "Sat", "Sun"]),
  (("http.cookiejar", "MONTHS"), [
    "Jan", "Feb", "Mar", "Apr", "May", "Jun", "Jul", "Aug", "Sep", "Oct", "Nov", "Dec"]),
  (("http.cookiejar", "MONTHS_LOWER"), [
    "jan", "feb", "mar", "apr", "may", "jun", "jul", "aug", "sep", "oct", "nov", "dec"]),
  (("imaplib", "Months"), [
    "", "Jan", "Feb", "Mar", "Apr", "May", "Jun", "Jul", "Aug", "Sep", "Oct", "Nov", "Dec"]),
  (("xml.sax", "default_parser_list"), ["xml.sax.expatreader"]),
  (("keyword", "kwlist"), [
    "False", "None", "True", "and", "as", "assert", "async", "await", "break", "class",
    "continue", "def", "del", "elif", "else", "except", "finally", "for", "from", "global", "if",
    "import", "in", "is", "lambda", "nonlocal", "not", "or", "pass", "raise", "return", "try",
    "while", "with", "yield"]),
  (("keyword", "softkwlist"), ["_", "case", "match"]),
  (("importlib.machinery", "BYTECODE_SUFFIXES"), [".pyc"]),
  (("importlib.machinery", "DEBUG_BYTECODE_SUFFIXES"), [".pyc"]),
  (("importlib.machinery", "OPTIMIZED_BYTECODE_SUFFIXES"), [".pyc"]),
  (("importlib.machinery", "SOURCE_SUFFIXES"), [".py"])]

/-- The tuples of texts of modules. -/
def standardTextTuples : List ((String × String) × List String) := [
  (("functools", "WRAPPER_ASSIGNMENTS"), [
    "__module__", "__name__", "__qualname__", "__doc__", "__annotations__"]),
  (("functools", "WRAPPER_UPDATES"), ["__dict__"]),
  (("tarfile", "PAX_FIELDS"), [
    "path", "linkpath", "size", "mtime", "uid", "gid", "uname", "gname"]),
  (("optparse", "NO_DEFAULT"), ["NO", "DEFAULT"]),
  (("imaplib", "AllowedVersions"), ["IMAP4REV1", "IMAP4"]),
  (("dis", "MAKE_FUNCTION_FLAGS"), ["defaults", "kwdefaults", "annotations", "closure"]),
  (("dis", "cmp_op"), ["<", "<=", "==", "!=", ">", ">="]),
  (("opcode", "cmp_op"), ["<", "<=", "==", "!=", ">", ">="]),
  (("venv", "CORE_VENV_DEPS"), ["pip", "setuptools"])]

end LalrBackend.Code
