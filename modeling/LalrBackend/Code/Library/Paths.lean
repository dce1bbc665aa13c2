import LalrBackend.Code.Library.Entry

/-!
# Standard modules

The modules that code can import from the standard library, with those within packages.
-/

namespace LalrBackend.Code

/-- The paths of standard modules. -/
def standardPaths : List String := [
  "__future__ __main__ _abc _aix_support _ast _asyncio _bisect _blake2 _bootsubprocess _bz2",
  "_codecs _codecs_cn _codecs_hk _codecs_iso2022 _codecs_jp _codecs_kr _codecs_tw _collections",
  "_collections_abc _compat_pickle _compression _contextvars _crypt _csv _ctypes _curses",
  "_curses_panel _datetime _dbm _decimal _elementtree _frozen_importlib",
  "_frozen_importlib_external _functools _hashlib _heapq _imp _io _json _locale _lsprof _lzma",
  "_markupbase _md5 _multibytecodec _multiprocessing _opcode _operator _osx_support _pickle",
  "_posixshmem _posixsubprocess _py_abc _pydecimal _pyio _queue _random _sha1 _sha256 _sha3",
  "_sha512 _signal _sitebuiltins _socket _sqlite3 _sre _ssl _stat _statistics _string _strptime",
  "_struct _symtable _thread _threading_local _tokenize _tracemalloc _typing _uuid _warnings",
  "_weakref _weakrefset _zoneinfo abc aifc antigravity argparse array ast asynchat asyncio",
  "asyncore atexit audioop base64 bdb binascii bisect builtins bz2 cProfile calendar cgi cgitb",
  "chunk cmath cmd code codecs codeop collections colorsys compileall concurrent configparser",
  "contextlib contextvars copy copyreg crypt csv ctypes curses dataclasses datetime dbm decimal",
  "difflib dis distutils doctest email encodings ensurepip enum errno faulthandler fcntl",
  "filecmp fileinput fnmatch fractions ftplib functools gc genericpath getopt getpass gettext",
  "glob graphlib grp gzip hashlib heapq hmac html http idlelib imaplib imghdr imp importlib",
  "inspect io ipaddress itertools json keyword lib2to3 linecache locale logging lzma mailbox",
  "mailcap marshal math mimetypes mmap modulefinder multiprocessing netrc nntplib ntpath",
  "nturl2path numbers opcode operator optparse os ossaudiodev pathlib pdb pickle pickletools",
  "pipes pkgutil platform plistlib poplib posix posixpath pprint profile pstats pty pwd",
  "py_compile pyclbr pydoc pydoc_data pyexpat queue quopri random re readline reprlib resource",
  "rlcompleter runpy sched secrets select selectors shelve shlex shutil signal site smtpd",
  "smtplib sndhdr socket socketserver spwd sqlite3 sre_compile sre_constants sre_parse ssl stat",
  "statistics string stringprep struct subprocess sunau symtable sys sysconfig syslog tabnanny",
  "tarfile telnetlib tempfile termios textwrap this threading time timeit tkinter token",
  "tokenize tomllib trace traceback tracemalloc tty turtle turtledemo types typing unicodedata",
  "unittest urllib uu uuid venv warnings wave weakref webbrowser wsgiref xdrlib xml xmlrpc",
  "zipapp zipfile zipimport zlib zoneinfo asyncio.base_events asyncio.base_futures",
  "asyncio.base_subprocess asyncio.base_tasks asyncio.constants asyncio.coroutines",
  "asyncio.events asyncio.exceptions asyncio.format_helpers asyncio.futures asyncio.locks",
  "asyncio.log asyncio.mixins asyncio.proactor_events asyncio.protocols asyncio.queues",
  "asyncio.runners asyncio.selector_events asyncio.sslproto asyncio.staggered asyncio.streams",
  "asyncio.subprocess asyncio.taskgroups asyncio.tasks asyncio.threads asyncio.timeouts",
  "asyncio.transports asyncio.trsock asyncio.unix_events collections.abc concurrent.futures",
  "concurrent.futures._base concurrent.futures.process concurrent.futures.thread ctypes._aix",
  "ctypes._endian ctypes.macholib ctypes.macholib.dyld ctypes.macholib.dylib",
  "ctypes.macholib.framework ctypes.util ctypes.wintypes curses.ascii curses.has_key",
  "curses.panel curses.textpad dbm.dumb dbm.ndbm email._encoded_words",
  "email._header_value_parser email._parseaddr email._policybase email.base64mime email.charset",
  "email.contentmanager email.encoders email.errors email.feedparser email.generator",
  "email.header email.headerregistry email.iterators email.message email.mime",
  "email.mime.application email.mime.audio email.mime.base email.mime.image email.mime.message",
  "email.mime.multipart email.mime.nonmultipart email.mime.text email.parser email.policy",
  "email.quoprimime email.utils ensurepip._uninstall html.entities html.parser http.client",
  "http.cookiejar http.cookies http.server importlib._abc importlib._bootstrap",
  "importlib._bootstrap_external importlib.abc importlib.machinery importlib.metadata",
  "importlib.metadata._adapters importlib.metadata._collections importlib.metadata._functools",
  "importlib.metadata._itertools importlib.metadata._meta importlib.metadata._text",
  "importlib.readers importlib.resources importlib.resources._adapters",
  "importlib.resources._common importlib.resources._itertools importlib.resources._legacy",
  "importlib.resources.abc importlib.resources.readers importlib.resources.simple",
  "importlib.simple importlib.util json.decoder json.encoder json.scanner json.tool",
  "lib2to3.fixer_base lib2to3.main lib2to3.pgen2 lib2to3.pygram lib2to3.pytree lib2to3.refactor",
  "logging.config logging.handlers multiprocessing.connection multiprocessing.context",
  "multiprocessing.dummy multiprocessing.dummy.connection multiprocessing.forkserver",
  "multiprocessing.heap multiprocessing.managers multiprocessing.pool",
  "multiprocessing.popen_fork multiprocessing.popen_forkserver",
  "multiprocessing.popen_spawn_posix multiprocessing.process multiprocessing.queues",
  "multiprocessing.reduction multiprocessing.resource_sharer multiprocessing.resource_tracker",
  "multiprocessing.shared_memory multiprocessing.sharedctypes multiprocessing.spawn",
  "multiprocessing.synchronize multiprocessing.util os.path pydoc_data.topics pyexpat.errors",
  "pyexpat.model re._casefix re._compiler re._constants re._parser sqlite3.dbapi2 sqlite3.dump",
  "tkinter.filedialog tkinter.font tkinter.messagebox tkinter.simpledialog tkinter.ttk",
  "tomllib._parser tomllib._re tomllib._types typing.io typing.re unittest._log",
  "unittest.async_case unittest.case unittest.loader unittest.main unittest.mock",
  "unittest.result unittest.runner unittest.signals unittest.suite unittest.util urllib.error",
  "urllib.parse urllib.request urllib.response urllib.robotparser wsgiref.handlers",
  "wsgiref.headers wsgiref.simple_server wsgiref.types wsgiref.util wsgiref.validate xml.dom",
  "xml.dom.NodeFilter xml.dom.domreg xml.dom.expatbuilder xml.dom.minicompat xml.dom.minidom",
  "xml.dom.pulldom xml.dom.xmlbuilder xml.etree xml.etree.ElementInclude xml.etree.ElementPath",
  "xml.etree.ElementTree xml.etree.cElementTree xml.parsers xml.parsers.expat",
  "xml.parsers.expat.errors xml.parsers.expat.model xml.sax xml.sax._exceptions",
  "xml.sax.expatreader xml.sax.handler xml.sax.saxutils xml.sax.xmlreader xmlrpc.client",
  "xmlrpc.server zoneinfo._common zoneinfo._tzpath zoneinfo._zoneinfo encodings.aliases",
  "encodings.ascii encodings.base64_codec encodings.big5 encodings.big5hkscs",
  "encodings.bz2_codec encodings.charmap encodings.cp037 encodings.cp1006 encodings.cp1026",
  "encodings.cp1125 encodings.cp1140 encodings.cp1250 encodings.cp1251 encodings.cp1252",
  "encodings.cp1253 encodings.cp1254 encodings.cp1255 encodings.cp1256 encodings.cp1257",
  "encodings.cp1258 encodings.cp273 encodings.cp424 encodings.cp437 encodings.cp500",
  "encodings.cp720 encodings.cp737 encodings.cp775 encodings.cp850 encodings.cp852",
  "encodings.cp855 encodings.cp856 encodings.cp857 encodings.cp858 encodings.cp860",
  "encodings.cp861 encodings.cp862 encodings.cp863 encodings.cp864 encodings.cp865",
  "encodings.cp866 encodings.cp869 encodings.cp874 encodings.cp875 encodings.cp932",
  "encodings.cp949 encodings.cp950 encodings.euc_jis_2004 encodings.euc_jisx0213",
  "encodings.euc_jp encodings.euc_kr encodings.gb18030 encodings.gb2312 encodings.gbk",
  "encodings.hex_codec encodings.hp_roman8 encodings.hz encodings.idna encodings.iso2022_jp",
  "encodings.iso2022_jp_1 encodings.iso2022_jp_2 encodings.iso2022_jp_2004",
  "encodings.iso2022_jp_3 encodings.iso2022_jp_ext encodings.iso2022_kr encodings.iso8859_1",
  "encodings.iso8859_10 encodings.iso8859_11 encodings.iso8859_13 encodings.iso8859_14",
  "encodings.iso8859_15 encodings.iso8859_16 encodings.iso8859_2 encodings.iso8859_3",
  "encodings.iso8859_4 encodings.iso8859_5 encodings.iso8859_6 encodings.iso8859_7",
  "encodings.iso8859_8 encodings.iso8859_9 encodings.johab encodings.koi8_r encodings.koi8_t",
  "encodings.koi8_u encodings.kz1048 encodings.latin_1 encodings.mac_arabic",
  "encodings.mac_croatian encodings.mac_cyrillic encodings.mac_farsi encodings.mac_greek",
  "encodings.mac_iceland encodings.mac_latin2 encodings.mac_roman encodings.mac_romanian",
  "encodings.mac_turkish encodings.palmos encodings.ptcp154 encodings.punycode",
  "encodings.quopri_codec encodings.raw_unicode_escape encodings.rot_13 encodings.shift_jis",
  "encodings.shift_jis_2004 encodings.shift_jisx0213 encodings.tis_620 encodings.undefined",
  "encodings.unicode_escape encodings.utf_16 encodings.utf_16_be encodings.utf_16_le",
  "encodings.utf_32 encodings.utf_32_be encodings.utf_32_le encodings.utf_7 encodings.utf_8",
  "encodings.utf_8_sig encodings.uu_codec encodings.zlib_codec"]

end LalrBackend.Code
