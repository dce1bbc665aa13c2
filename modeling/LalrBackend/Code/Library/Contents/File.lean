import LalrBackend.Code.Library.Entry

/-!
# Modules for files, archives and stored data

What these standard modules provide, by kind. Plain values stand apart.
-/

namespace LalrBackend.Code

/-- The contents of the modules for files, archives and stored data. -/
def fileContents : List (String × List Family) := [
  ("pathlib", [
    ⟨.module, [.withheld], ["fnmatch functools io ntpath os posixpath re sys warnings"]⟩,
    ⟨.routine, [.bare, .takesNumber, .withheld], [
      "S_ISBLK S_ISCHR S_ISDIR S_ISFIFO S_ISLNK S_ISREG S_ISSOCK"]⟩,
    ⟨.routine, [.settable, .withheld], ["urlquote_from_bytes"]⟩,
    ⟨.type, [.settable, .base], ["WindowsPath"]⟩,
    ⟨.type, [.settable, .base, .madePlain, .takesNothing], [
      "PosixPath PurePosixPath PureWindowsPath"]⟩,
    ⟨.type, [.settable, .base, .takesNothing], ["Path PurePath"]⟩,
    ⟨.type, [.settable, .indexed, .base, .withheld], ["Sequence"]⟩,
    ⟨.type, [.withheld], ["attrgetter"]⟩]),
  ("os.path", [
    ⟨.module, [.withheld], ["genericpath os stat sys"]⟩,
    ⟨.routine, [.settable], [
      "abspath basename commonpath commonprefix dirname expanduser expandvars isabs islink",
      "ismount join lexists normcase normpath realpath relpath samefile sameopenfile samestat",
      "split splitdrive splitext"]⟩,
    ⟨.routine, [.settable, .takesNumber], [
      "exists getatime getctime getmtime getsize isdir isfile"]⟩]),
  ("posixpath", [
    ⟨.module, [.withheld], ["genericpath os stat sys"]⟩,
    ⟨.routine, [.settable], [
      "abspath basename commonpath commonprefix dirname expanduser expandvars isabs islink",
      "ismount join lexists normcase normpath realpath relpath samefile sameopenfile samestat",
      "split splitdrive splitext"]⟩,
    ⟨.routine, [.settable, .takesNumber], [
      "exists getatime getctime getmtime getsize isdir isfile"]⟩]),
  ("ntpath", [
    ⟨.module, [.withheld], ["genericpath os stat sys"]⟩,
    ⟨.routine, [.settable], [
      "abspath basename commonpath commonprefix dirname expanduser expandvars isabs islink",
      "ismount join lexists normcase normpath realpath relpath samefile sameopenfile samestat",
      "split splitdrive splitext"]⟩,
    ⟨.routine, [.settable, .takesNumber], [
      "exists getatime getctime getmtime getsize isdir isfile"]⟩]),
  ("fileinput", [
    ⟨.module, [.withheld], ["io os sys"]⟩,
    ⟨.routine, [.settable], [
      "filelineno filename fileno hook_compressed isfirstline isstdin lineno nextfile"]⟩,
    ⟨.routine, [.settable, .takesNumber, .takesList, .takesTwo], ["hook_encoded"]⟩,
    ⟨.routine, [.settable, .takesNothing], ["close"]⟩,
    ⟨.routine, [.settable, .takesNothing, .takesList], ["input"]⟩,
    ⟨.type, [.base, .takesTwo, .withheld], ["GenericAlias"]⟩,
    ⟨.type, [.settable, .indexed, .base, .madeWithTwo, .madePlain, .takesNothing, .takesList], [
      "FileInput"]⟩]),
  ("stat", [
    ⟨.routine, [.bare, .takesNumber], [
      "S_IFMT S_IMODE S_ISBLK S_ISCHR S_ISDIR S_ISDOOR S_ISFIFO S_ISLNK S_ISPORT S_ISREG",
      "S_ISSOCK S_ISWHT filemode"]⟩]),
  ("filecmp", [
    ⟨.module, [.withheld], ["os stat"]⟩,
    ⟨.routine, [.settable], ["cmp cmpfiles"]⟩,
    ⟨.routine, [.settable, .takesNothing], ["clear_cache"]⟩,
    ⟨.routine, [.settable, .withheld], ["demo"]⟩,
    ⟨.type, [.base, .takesTwo, .withheld], ["GenericAlias"]⟩,
    ⟨.type, [.base, .withheld], ["filterfalse"]⟩,
    ⟨.type, [.settable, .indexed, .base, .madeWithTwo, .takesTwo], ["dircmp"]⟩]),
  ("tempfile", [
    ⟨.routine, [.settable, .takesNothing], [
      "NamedTemporaryFile TemporaryFile gettempdir gettempdirb gettempprefix gettempprefixb",
      "mkdtemp mkstemp mktemp"]⟩,
    ⟨.type, [.settable, .indexed, .base, .madePlain, .takesNothing, .takesNumber, .takesList], [
      "SpooledTemporaryFile"]⟩,
    ⟨.type, [.settable, .indexed, .base, .madeWithTwo, .madePlain, .takesNothing], [
      "TemporaryDirectory"]⟩]),
  ("glob", [
    ⟨.module, [.withheld], ["contextlib fnmatch itertools os re stat sys"]⟩,
    ⟨.routine, [.settable], ["escape glob"]⟩,
    ⟨.routine, [.settable, .takesList], ["iglob"]⟩,
    ⟨.routine, [.settable, .withheld], ["glob0 glob1 has_magic"]⟩,
    ⟨.value, [.bare, .withheld], ["magic_check magic_check_bytes"]⟩]),
  ("fnmatch", [
    ⟨.module, [.withheld], ["functools os posixpath re"]⟩,
    ⟨.routine, [.settable], ["filter fnmatch fnmatchcase translate"]⟩]),
  ("linecache", [
    ⟨.module, [.withheld], ["functools os sys tokenize"]⟩,
    ⟨.routine, [.settable], ["getline lazycache"]⟩,
    ⟨.routine, [.settable, .takesNothing], ["clearcache"]⟩,
    ⟨.routine, [.settable, .takesNothing, .takesNumber], ["checkcache"]⟩,
    ⟨.routine, [.settable, .withheld], ["getlines updatecache"]⟩,
    ⟨.value, [.bare, .withheld], ["cache"]⟩]),
  ("shutil", [
    ⟨.module, [.withheld], ["collections errno fnmatch os posix stat sys"]⟩,
    ⟨.routine, [.settable], [
      "chown copy copy2 copyfile copyfileobj copymode copystat copytree make_archive move",
      "register_archive_format register_unpack_format unpack_archive unregister_archive_format",
      "unregister_unpack_format which"]⟩,
    ⟨.routine, [.settable, .takesNumber], ["disk_usage"]⟩,
    ⟨.routine, [.settable, .takesNothing], ["get_archive_formats get_unpack_formats"]⟩,
    ⟨.routine, [.settable, .takesNothing, .takesNumber, .takesList, .takesTwo], [
      "ignore_patterns"]⟩,
    ⟨.routine, [.settable, .takesNothing, .takesList], ["get_terminal_size"]⟩,
    ⟨.routine, [.settable, .takesTwo], ["rmtree"]⟩,
    ⟨.type, [.settable, .base, .madeWithTwo, .madePlain,
        .raised, .takesNothing, .takesNumber, .takesList, .takesTwo], [
      "Error ExecError SameFileError SpecialFileError"]⟩,
    ⟨.type, [.settable, .base, .madeWithTwo, .madePlain, .raised,
        .takesNothing, .takesNumber, .takesList, .takesTwo, .withheld], [
      "ReadError RegistryError"]⟩]),
  ("pickle", [
    ⟨.module, [.withheld], ["codecs io re sys"]⟩,
    ⟨.routine, [.bare], ["dump load loads"]⟩,
    ⟨.routine, [.bare, .takesNumber, .takesList], ["dumps"]⟩,
    ⟨.routine, [.bare, .withheld], ["pack unpack"]⟩,
    ⟨.routine, [.settable, .takesNumber, .withheld], ["encode_long"]⟩,
    ⟨.routine, [.settable, .takesTwo, .withheld], ["whichmodule"]⟩,
    ⟨.routine, [.settable, .withheld], ["decode_long"]⟩,
    ⟨.type, [], ["PickleBuffer"]⟩,
    ⟨.type, [.base], ["Pickler Unpickler"]⟩,
    ⟨.type, [.base, .withheld], ["islice"]⟩,
    ⟨.type, [.indexed, .base, .takesTwo, .withheld], ["partial"]⟩,
    ⟨.type, [.settable, .base, .madeWithTwo, .madePlain,
        .raised, .takesNothing, .takesNumber, .takesList, .takesTwo], [
      "PickleError PicklingError UnpicklingError"]⟩,
    ⟨.type, [.withheld], ["FunctionType"]⟩,
    ⟨.value, [.bare], [
      "ADDITEMS APPEND APPENDS BINBYTES BINBYTES8 BINFLOAT BINGET BININT BININT1 BININT2",
      "BINPERSID BINPUT BINSTRING BINUNICODE BINUNICODE8 BUILD BYTEARRAY8 DICT DUP EMPTY_DICT",
      "EMPTY_LIST EMPTY_SET EMPTY_TUPLE EXT1 EXT2 EXT4 FALSE FLOAT FRAME FROZENSET GET GLOBAL",
      "INST INT LIST LONG LONG1 LONG4 LONG_BINGET LONG_BINPUT MARK MEMOIZE NEWFALSE NEWOBJ",
      "NEWOBJ_EX NEWTRUE NEXT_BUFFER NONE OBJ PERSID POP POP_MARK PROTO PUT READONLY_BUFFER",
      "REDUCE SETITEM SETITEMS SHORT_BINBYTES SHORT_BINSTRING SHORT_BINUNICODE STACK_GLOBAL",
      "STOP STRING TRUE TUPLE TUPLE1 TUPLE2 TUPLE3 UNICODE"]⟩,
    ⟨.value, [.bare, .withheld], ["bytes_types dispatch_table"]⟩]),
  ("copyreg", [
    ⟨.routine, [.settable], ["add_extension constructor pickle remove_extension"]⟩,
    ⟨.routine, [.settable, .takesNumber, .withheld], ["pickle_complex"]⟩,
    ⟨.routine, [.settable, .takesNothing], ["clear_extension_cache"]⟩,
    ⟨.routine, [.settable, .withheld], ["pickle_union"]⟩,
    ⟨.value, [.bare, .withheld], ["dispatch_table"]⟩]),
  ("shelve", [
    ⟨.module, [.withheld], ["collections"]⟩,
    ⟨.routine, [.settable], ["open"]⟩,
    ⟨.type, [.base, .madePlain, .takesNothing, .withheld], ["BytesIO"]⟩,
    ⟨.type, [.base, .withheld], ["Pickler Unpickler"]⟩,
    ⟨.type, [.settable, .indexed, .base], ["DbfilenameShelf"]⟩,
    ⟨.type, [.settable, .indexed, .base, .madeWithTwo, .takesNumber, .takesList, .takesTwo], [
      "BsdDbShelf Shelf"]⟩]),
  ("marshal", [
    ⟨.routine, [.bare], ["dump load loads"]⟩,
    ⟨.routine, [.bare, .takesNumber], ["dumps"]⟩]),
  ("dbm", [
    ⟨.module, [.withheld], ["io ndbm os struct sys"]⟩,
    ⟨.routine, [.settable], ["open whichdb"]⟩,
    ⟨.value, [.bare], ["error"]⟩]),
  ("dbm.dumb", [
    ⟨.module, [.withheld], ["collections"]⟩,
    ⟨.routine, [.settable], ["open"]⟩]),
  ("dbm.ndbm", [
    ⟨.routine, [.bare], ["open"]⟩,
    ⟨.type, [.settable, .base, .madeWithTwo, .madePlain,
        .raised, .takesNothing, .takesNumber, .takesList, .takesTwo], ["error"]⟩]),
  ("sqlite3", [
    ⟨.module, [], ["collections datetime dbapi2 time"]⟩,
    ⟨.routine, [.bare], ["adapt complete_statement connect register_converter"]⟩,
    ⟨.routine, [.bare, .takesNumber], ["enable_callback_tracebacks"]⟩,
    ⟨.routine, [.bare, .takesTwo], ["register_adapter"]⟩,
    ⟨.routine, [.settable, .takesNumber], [
      "DateFromTicks TimeFromTicks TimestampFromTicks enable_shared_cache"]⟩,
    ⟨.type, [], ["Blob"]⟩,
    ⟨.type, [.takesNothing, .takesNumber, .takesList, .takesTwo], ["PrepareProtocol"]⟩,
    ⟨.type, [.base], ["Connection Cursor Date Row Timestamp"]⟩,
    ⟨.type, [.base, .madePlain, .takesNothing, .takesNumber], ["Time"]⟩,
    ⟨.type, [.settable, .base, .madeWithTwo, .madePlain,
        .raised, .takesNothing, .takesNumber, .takesList, .takesTwo], [
      "DataError DatabaseError Error IntegrityError InterfaceError InternalError",
      "NotSupportedError OperationalError ProgrammingError Warning"]⟩,
    ⟨.value, [.bare], ["adapters converters sqlite_version sqlite_version_info version_info"]⟩]),
  ("zlib", [
    ⟨.routine, [.bare], ["adler32 compress crc32 decompress"]⟩,
    ⟨.routine, [.bare, .takesNothing], ["decompressobj"]⟩,
    ⟨.routine, [.bare, .takesNothing, .takesNumber], ["compressobj"]⟩,
    ⟨.type, [.settable, .base, .madeWithTwo, .madePlain,
        .raised, .takesNothing, .takesNumber, .takesList, .takesTwo], ["error"]⟩,
    ⟨.value, [.bare], ["ZLIB_RUNTIME_VERSION ZLIB_VERSION"]⟩]),
  ("gzip", [
    ⟨.module, [.withheld], ["builtins io os struct sys time zlib"]⟩,
    ⟨.routine, [.settable], ["compress decompress open"]⟩,
    ⟨.routine, [.settable, .withheld], ["main write32u"]⟩,
    ⟨.type, [.settable, .base], ["GzipFile"]⟩,
    ⟨.type, [.settable, .base, .madeWithTwo, .madePlain,
        .raised, .takesNothing, .takesNumber, .takesList, .takesTwo], ["BadGzipFile"]⟩]),
  ("bz2", [
    ⟨.module, [.withheld], ["io os"]⟩,
    ⟨.routine, [.settable], ["compress decompress open"]⟩,
    ⟨.type, [.takesNothing], ["BZ2Decompressor"]⟩,
    ⟨.type, [.takesNothing, .takesNumber], ["BZ2Compressor"]⟩,
    ⟨.type, [.settable, .base], ["BZ2File"]⟩]),
  ("lzma", [
    ⟨.module, [.withheld], ["builtins io os"]⟩,
    ⟨.routine, [.bare, .takesNumber], ["is_check_supported"]⟩,
    ⟨.routine, [.settable], ["compress decompress open"]⟩,
    ⟨.type, [.takesNothing], ["LZMACompressor LZMADecompressor"]⟩,
    ⟨.type, [.settable, .base], ["LZMAFile"]⟩,
    ⟨.type, [.settable, .base, .madeWithTwo, .madePlain,
        .raised, .takesNothing, .takesNumber, .takesList, .takesTwo], ["LZMAError"]⟩]),
  ("zipfile", [
    ⟨.module, [.withheld], [
      "binascii bz2 contextlib importlib io itertools lzma os pathlib posixpath re shutil stat",
      "struct sys threading time zlib"]⟩,
    ⟨.routine, [.bare, .withheld], ["crc32"]⟩,
    ⟨.routine, [.settable], ["is_zipfile"]⟩,
    ⟨.routine, [.settable, .withheld], ["main"]⟩,
    ⟨.type, [.settable, .base], ["Path PyZipFile ZipFile"]⟩,
    ⟨.type, [.settable, .base, .madePlain, .takesNothing], ["ZipInfo"]⟩,
    ⟨.type, [.settable, .base, .madePlain, .takesNothing, .withheld], [
      "LZMACompressor LZMADecompressor"]⟩,
    ⟨.type, [.settable, .base, .madeWithTwo, .madePlain,
        .raised, .takesNothing, .takesNumber, .takesList, .takesTwo], [
      "BadZipFile BadZipfile LargeZipFile error"]⟩,
    ⟨.type, [.settable, .base, .withheld], ["CompleteDirs FastLookup ZipExtFile"]⟩,
    ⟨.value, [.bare, .withheld], [
      "compressor_names stringCentralDir stringEndArchive stringEndArchive64",
      "stringEndArchive64Locator stringFileHeader structEndArchive"]⟩]),
  ("tarfile", [
    ⟨.module, [.withheld], ["copy grp io os pwd re shutil stat struct sys time warnings"]⟩,
    ⟨.routine, [.bare], ["open"]⟩,
    ⟨.routine, [.settable], ["is_tarfile"]⟩,
    ⟨.routine, [.settable, .takesNumber, .withheld], ["itn"]⟩,
    ⟨.routine, [.settable, .takesTwo, .withheld], ["fully_trusted_filter"]⟩,
    ⟨.routine, [.settable, .withheld], [
      "calc_chksums copyfileobj data_filter main nti nts stn tar_filter"]⟩,
    ⟨.type, [.settable, .base], ["TarFile"]⟩,
    ⟨.type, [.settable, .base, .madePlain, .takesNothing, .takesNumber, .takesList], ["TarInfo"]⟩,
    ⟨.type, [.settable, .base, .madeWithTwo, .madePlain,
        .raised, .takesNothing, .takesNumber, .takesList, .takesTwo], [
      "CompressionError ExtractError HeaderError ReadError StreamError TarError"]⟩,
    ⟨.type, [.settable, .base, .madeWithTwo, .madePlain, .raised,
        .takesNothing, .takesNumber, .takesList, .takesTwo, .withheld], [
      "EOFHeaderError EmptyHeaderError FilterError InvalidHeaderError SubsequentHeaderError",
      "TruncatedHeaderError"]⟩,
    ⟨.type, [.settable, .base, .withheld], ["ExFileObject"]⟩,
    ⟨.type, [.settable, .base, .raised, .withheld], [
      "AbsoluteLinkError AbsolutePathError LinkOutsideDestinationError OutsideDestinationError",
      "SpecialFileError"]⟩,
    ⟨.value, [.bare, .withheld], [
      "AREGTYPE BLKTYPE CHRTYPE CONTTYPE DIRTYPE FIFOTYPE GNUTYPE_LONGLINK GNUTYPE_LONGNAME",
      "GNUTYPE_SPARSE GNU_MAGIC GNU_TYPES LNKTYPE NUL PAX_NAME_FIELDS PAX_NUMBER_FIELDS",
      "POSIX_MAGIC REGTYPE REGULAR_TYPES SOLARIS_XHDTYPE SUPPORTED_TYPES SYMTYPE XGLTYPE",
      "XHDTYPE symlink_exception"]⟩]),
  ("csv", [
    ⟨.module, [.withheld], ["re"]⟩,
    ⟨.routine, [.bare], ["get_dialect register_dialect unregister_dialect writer"]⟩,
    ⟨.routine, [.bare, .takesList], ["reader"]⟩,
    ⟨.routine, [.bare, .takesNothing], ["list_dialects"]⟩,
    ⟨.routine, [.bare, .takesNothing, .takesNumber], ["field_size_limit"]⟩,
    ⟨.type, [.base, .madeWithTwo, .madePlain, .takesNothing, .withheld], ["StringIO"]⟩,
    ⟨.type, [.settable, .base], ["Dialect DictWriter"]⟩,
    ⟨.type, [.settable, .base, .madePlain, .takesNothing], [
      "Sniffer excel excel_tab unix_dialect"]⟩,
    ⟨.type, [.settable, .base, .madeWithTwo, .madePlain,
        .raised, .takesNothing, .takesNumber, .takesList, .takesTwo], ["Error"]⟩,
    ⟨.type, [.settable, .base, .takesList], ["DictReader"]⟩,
    ⟨.value, [.bare], ["__doc__"]⟩]),
  ("configparser", [
    ⟨.module, [.withheld], ["functools io itertools os re sys warnings"]⟩,
    ⟨.type, [.settable, .base, .madePlain, .takesNothing], [
      "BasicInterpolation ExtendedInterpolation Interpolation LegacyInterpolation"]⟩,
    ⟨.type, [.settable, .base, .madePlain, .raised,
        .takesNothing, .takesNumber, .takesList, .withheld], ["Error"]⟩,
    ⟨.type, [.settable, .base, .madeWithTwo, .raised, .takesNumber, .takesList, .takesTwo], [
      "DuplicateSectionError"]⟩,
    ⟨.type, [.settable, .base, .madeWithTwo, .raised, .takesTwo], [
      "DuplicateOptionError NoOptionError"]⟩,
    ⟨.type, [.settable, .base, .raised], [
      "InterpolationDepthError InterpolationError InterpolationMissingOptionError",
      "InterpolationSyntaxError MissingSectionHeaderError"]⟩,
    ⟨.type, [.settable, .base, .raised, .takesNumber, .takesList], ["NoSectionError ParsingError"]⟩,
    ⟨.type, [.settable, .indexed, .base], ["SectionProxy"]⟩,
    ⟨.type, [.settable, .indexed, .base, .madePlain, .takesNothing], [
      "ConfigParser RawConfigParser SafeConfigParser"]⟩,
    ⟨.type, [.settable, .indexed, .base, .takesNumber, .takesList], ["ConverterMapping"]⟩,
    ⟨.type, [.settable, .indexed, .base, .withheld], ["MutableMapping"]⟩]),
  ("tomllib", [
    ⟨.routine, [.settable], ["load loads"]⟩,
    ⟨.type, [.settable, .base, .madeWithTwo, .madePlain,
        .raised, .takesNothing, .takesNumber, .takesList, .takesTwo], ["TOMLDecodeError"]⟩]),
  ("netrc", [
    ⟨.module, [.withheld], ["os shlex stat"]⟩,
    ⟨.type, [.settable, .base], ["netrc"]⟩,
    ⟨.type, [.settable, .base, .madeWithTwo, .raised, .takesNumber, .takesList, .takesTwo], [
      "NetrcParseError"]⟩]),
  ("plistlib", [
    ⟨.module, [.withheld], ["binascii codecs datetime enum itertools os re struct"]⟩,
    ⟨.routine, [.bare, .takesNothing, .withheld], ["ParserCreate"]⟩,
    ⟨.routine, [.settable], ["dump load loads"]⟩,
    ⟨.routine, [.settable, .takesNumber], ["dumps"]⟩,
    ⟨.type, [.base, .madePlain, .takesNothing, .withheld], ["BytesIO"]⟩,
    ⟨.type, [.settable, .base, .madePlain, .raised, .takesNothing, .takesNumber, .takesList], [
      "InvalidFileException"]⟩,
    ⟨.type, [.settable, .base, .takesNumber], ["UID"]⟩,
    ⟨.type, [.settable, .withheld], ["PlistFormat"]⟩,
    ⟨.value, [.bare, .withheld], ["PLISTHEADER"]⟩,
    ⟨.value, [.settable], ["FMT_BINARY FMT_XML"]⟩]),
  ("xdrlib", [
    ⟨.module, [.withheld], ["struct warnings"]⟩,
    ⟨.routine, [.settable, .takesNumber, .takesList, .takesTwo, .withheld], ["wraps"]⟩,
    ⟨.routine, [.settable, .takesNumber, .takesList, .withheld], ["raise_conversion_error"]⟩,
    ⟨.type, [.base, .madePlain, .takesNothing, .withheld], ["BytesIO"]⟩,
    ⟨.type, [.settable, .base, .madePlain, .takesNothing], ["Packer"]⟩,
    ⟨.type, [.settable, .base, .takesNumber, .takesList], ["Unpacker"]⟩,
    ⟨.type, [.settable, .base, .raised, .takesNumber, .takesList], ["ConversionError Error"]⟩]),
  ("hashlib", [
    ⟨.routine, [.bare], ["pbkdf2_hmac"]⟩,
    ⟨.routine, [.bare, .takesNothing], [
      "md5 sha1 sha224 sha256 sha384 sha3_224 sha3_256 sha3_384 sha3_512 sha512 shake_128",
      "shake_256"]⟩,
    ⟨.routine, [.bare, .withheld], ["scrypt"]⟩,
    ⟨.routine, [.settable], ["file_digest new"]⟩,
    ⟨.type, [.takesNothing], ["blake2b blake2s"]⟩,
    ⟨.value, [.bare], ["algorithms_available algorithms_guaranteed"]⟩]),
  ("hmac", [
    ⟨.routine, [.bare], ["compare_digest"]⟩,
    ⟨.routine, [.settable], ["digest new"]⟩,
    ⟨.type, [.settable, .base], ["HMAC"]⟩,
    ⟨.value, [.bare], ["trans_36 trans_5C"]⟩]),
  ("secrets", [
    ⟨.module, [.withheld], ["base64 binascii"]⟩,
    ⟨.routine, [.bare], ["compare_digest"]⟩,
    ⟨.routine, [.bare, .takesNumber], ["randbits"]⟩,
    ⟨.routine, [.bare, .takesList], ["choice"]⟩,
    ⟨.routine, [.settable, .takesNumber], ["randbelow"]⟩,
    ⟨.routine, [.settable, .takesNothing, .takesNumber], ["token_bytes token_hex token_urlsafe"]⟩,
    ⟨.type, [.settable, .base, .madePlain, .takesNothing, .takesNumber, .takesList], [
      "SystemRandom"]⟩])]

end LalrBackend.Code
