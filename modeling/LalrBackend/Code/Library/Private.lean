import LalrBackend.Code.Library.Entry

/-!
# Private names of modules

The names of modules that are not meant to be used from outside. They can be asked for all the same,
but nothing more is known of them.
-/

namespace LalrBackend.Code

/-- The private names that modules have of their own, in lines of names. -/
def privateNames : List (String × List String) := [
  ("__future__", ["_Feature"]),
  ("abc", ["_abc_init _abc_instancecheck _abc_register _abc_subclasscheck _get_dump _reset_caches",
    "_reset_registry"]),
  ("aifc", ["_AIFC_version _HUGE_VAL _aifc_params _read_float _read_long _read_short _read_string",
    "_read_ulong _read_ushort _write_float _write_long _write_short _write_string _write_ulong",
    "_write_ushort"]),
  ("argparse", ["_ _ActionsContainer _AppendAction _AppendConstAction _ArgumentGroup",
    "_AttributeHolder _CountAction _ExtendAction _HelpAction _MutuallyExclusiveGroup",
    "_StoreAction _StoreConstAction _StoreFalseAction _StoreTrueAction _SubParsersAction",
    "_UNRECOGNIZED_ARGS_ATTR _VersionAction __version__ _copy_items _get_action_name _os _re",
    "_sys"]),
  ("array", ["_array_reconstructor"]),
  ("ast", ["_ABC _ALL_QUOTES _INFSTR _MULTI_QUOTES _Precedence _SINGLE_QUOTES _Unparser",
    "_const_node_type_names _const_types _const_types_not _dims_getter _dims_setter _getter",
    "_new _pad_whitespace _setter _simple_enum _splitlines_no_ff"]),
  ("asynchat", ["_DEPRECATION_MSG _deprecated"]),
  ("asyncio", ["_enter_task _get_running_loop _leave_task _register_task _set_running_loop",
    "_unregister_task"]),
  ("asyncio.events", ["_RunningLoop _c__get_event_loop _c__get_running_loop _c__set_running_loop",
    "_c_get_event_loop _c_get_running_loop _event_loop_policy _get_event_loop _get_running_loop",
    "_init_event_loop_policy _lock _py__get_event_loop _py__get_running_loop",
    "_py__set_running_loop _py_get_event_loop _py_get_running_loop _running_loop",
    "_set_running_loop"]),
  ("asyncio.futures", ["_CANCELLED _CFuture _FINISHED _PENDING _PyFuture _asyncio _chain_future",
    "_convert_future_exc _copy_future_state _get_loop _set_concurrent_future_state",
    "_set_result_unless_cancelled"]),
  ("asyncio.locks", ["_BarrierState _ContextManagerMixin"]),
  ("asyncio.protocols", ["_feed_data_to_buffered_proto"]),
  ("asyncio.runners", ["_State _cancel_all_tasks"]),
  ("asyncio.streams", ["_DEFAULT_LIMIT"]),
  ("asyncio.tasks", ["_CTask _GatheringFuture _PyTask __sleep0 _all_tasks _asyncio _c_enter_task",
    "_c_leave_task _c_register_task _c_unregister_task _cancel_and_wait _current_tasks",
    "_ensure_future _enter_task _is_coroutine _leave_task _py_enter_task _py_leave_task",
    "_py_register_task _py_unregister_task _register_task _release_waiter _set_task_name",
    "_task_name_counter _unregister_task _wait _wrap_awaitable"]),
  ("asyncio.timeouts", ["_State"]),
  ("asyncio.transports", ["_FlowControlMixin"]),
  ("asyncore", ["_DEPRECATION_MSG _DISCONNECTED _exception _reraised_exceptions _strerror"]),
  ("atexit", ["_clear _ncallbacks _run_exitfuncs"]),
  ("base64", ["_85encode _A85END _A85START _B32_DECODE_DOCSTRING _B32_DECODE_MAP01_DOCSTRING",
    "_B32_ENCODE_DOCSTRING _a85chars _a85chars2 _b32alphabet _b32decode _b32encode",
    "_b32hexalphabet _b32rev _b32tab2 _b85alphabet _b85chars _b85chars2 _b85dec",
    "_bytes_from_decode_data _input_type_check _urlsafe_decode_translation",
    "_urlsafe_encode_translation"]),
  ("bz2", ["_MODE_CLOSED _MODE_READ _MODE_WRITE _builtin_open _compression"]),
  ("cProfile", ["_lsprof _pyprofile"]),
  ("calendar", ["_EPOCH_ORD _colwidth _get_default_locale _locale _localized_day _localized_month",
    "_monthlen _nextmonth _prevmonth _spacing"]),
  ("cgi", ["__version__ _parseparam"]),
  ("cgitb", ["__UNDEF__"]),
  ("codecs", ["_false"]),
  ("codeop", ["__future__ _compile _features _is_syntax_error _maybe_compile"]),
  ("collections", ["_Link _OrderedDictItemsView _OrderedDictKeysView _OrderedDictValuesView",
    "_chain _collections_abc _count_elements _eq _iskeyword _itemgetter _proxy _recursive_repr",
    "_repeat _starmap _sys _tuplegetter"]),
  ("collections.abc", ["_CallableGenericAlias"]),
  ("colorsys", ["_v"]),
  ("compileall", ["_walk_dir"]),
  ("concurrent.futures", ["__getattr__ _base"]),
  ("concurrent.futures.process", ["_CallItem _ExceptionWithTraceback _ExecutorManagerThread",
    "_MAX_WINDOWS_WORKERS _RemoteTraceback _ResultItem _SafeQueue _ThreadWakeup _WorkItem _base",
    "_chain_from_iterable_of_lists _check_system_limits _get_chunks _global_shutdown",
    "_process_chunk _process_worker _rebuild_exc _sendback_result _system_limited",
    "_system_limits_checked _threads_wakeups"]),
  ("concurrent.futures.thread", ["_WorkItem _base _global_shutdown_lock _shutdown _threads_queues",
    "_worker"]),
  ("configparser", ["_ChainMap _UNSET _default_dict"]),
  ("contextlib", ["_AsyncGeneratorContextManager _BaseExitStack _GeneratorContextManager",
    "_GeneratorContextManagerBase _RedirectStream _collections_abc"]),
  ("copy", ["_copy_dispatch _copy_immutable _deepcopy_atomic _deepcopy_dict _deepcopy_dispatch",
    "_deepcopy_list _deepcopy_method _deepcopy_tuple _keep_alive _reconstruct"]),
  ("copyreg", ["_HEAPTYPE __newobj__ __newobj_ex__ _extension_cache _extension_registry",
    "_inverted_registry _new_type _reconstructor _reduce_ex _slotnames"]),
  ("crypt", ["_Method _SystemRandom _crypt _namedtuple _saltchars _sr _string _sys"]),
  ("csv", ["_Dialect __version__"]),
  ("ctypes", ["_CFuncPtr _FUNCFLAG_CDECL _FUNCFLAG_USE_ERRNO _FUNCFLAG_USE_LASTERROR _Pointer",
    "_SimpleCData __version__ _c_functype_cache _calcsize _cast _cast_addr _check_size",
    "_ctypes_version _dlopen _endian _memmove_addr _memset_addr _os _pointer_type_cache",
    "_reset_cache _string_at _string_at_addr _sys _types _wstring_at _wstring_at_addr"]),
  ("ctypes.util", ["_findLib_gcc _findLib_ld _findSoname_ldconfig _get_soname _is_elf"]),
  ("curses", ["_os _sys"]),
  ("curses.ascii", ["_ctoi"]),
  ("dataclasses", ["_DataclassParams _EMPTY_METADATA _FIELD _FIELDS _FIELD_BASE _FIELD_CLASSVAR",
    "_FIELD_INITVAR _HAS_DEFAULT_FACTORY _HAS_DEFAULT_FACTORY_CLASS _KW_ONLY_TYPE _MISSING_TYPE",
    "_MODULE_IDENTIFIER_RE _PARAMS _POST_INIT_NAME _add_slots _asdict_inner _astuple_inner",
    "_cmp_fn _create_fn _dataclass_getstate _dataclass_setstate _field_assign _field_init",
    "_fields_in_init_order _frozen_get_del_attr _get_field _get_slots _hash_action _hash_add",
    "_hash_exception _hash_fn _hash_set_none _init_fn _init_param _is_classvar",
    "_is_dataclass_instance _is_initvar _is_kw_only _is_type _process_class _recursive_repr",
    "_repr_fn _set_new_attribute _set_qualname _thread _tuple_str"]),
  ("dbm", ["_defaultmod _modules _names"]),
  ("dbm.dumb", ["_BLOCKSIZE _Database _ast _io _os"]),
  ("decimal", ["__libmpdec_version__ __version__"]),
  ("difflib", ["_calculate_ratio _check_types _file_template _format_range_context",
    "_format_range_unified _keep_original_ws _legend _mdiff _namedtuple _nlargest _styles",
    "_table_template _test"]),
  ("dis", ["_ExceptionTableEntry _INT_BITS _INT_OVERFLOW _Instruction _OPARG_WIDTH _OPNAME_WIDTH",
    "_Unknown _all_opmap _all_opname _cache_format _deoptop _disassemble_bytes",
    "_disassemble_recursive _disassemble_str _empty_slot _find_imports _find_store_names",
    "_format_code_info _get_code_array _get_code_object _get_const_info _get_const_value",
    "_get_instructions_bytes _get_name_info _have_code _inline_cache_entries _is_backward_jump",
    "_nb_ops _parse_exception_table _parse_varint _specializations _specialized_instructions",
    "_try_compile _unpack_opargs"]),
  ("distutils", ["_ __version__ _functools _log _modified _vendor"]),
  ("doctest", ["_DocTestSuite _OutputRedirectingPdb _SpoofOut _TestClass __docformat__ __future__",
    "__test__ _comment_line _ellipsis_match _exception_traceback _extract_future_flags _indent",
    "_load_testfile _module_relative_path _newline_convert _normalize_module",
    "_strip_exception_details _test _unittest_reportflags"]),
  ("email.charset", ["_encode"]),
  ("email.contentmanager", ["_encode_base64 _encode_text _finalize_set _prepare_set"]),
  ("email.encoders", ["_bencode _encodestring _qencode"]),
  ("email.generator", ["_FMT _fmt _has_surrogates _make_boundary _width"]),
  ("email.header", ["_Accumulator _ValueFormatter _charset _embedded_header _max_append"]),
  ("email.headerregistry", ["_default_header_map _reconstruct_header"]),
  ("email.iterators", ["_structure"]),
  ("email.message", ["_charset _decode_uu _formatparam _parseparam _splitparam _unquotevalue"]),
  ("email.mime.audio", ["_aiff _au _rules _wav _what"]),
  ("email.mime.image", ["_bmp _exr _gif _jpeg _pbm _pgm _png _ppm _rast _rgb _rules _tiff _webp",
    "_what _xbm"]),
  ("email.policy", ["_extend_docstrings _has_surrogates"]),
  ("email.quoprimime", ["_QUOPRI_BODY_ENCODE_MAP _QUOPRI_BODY_MAP _QUOPRI_HEADER_MAP _QUOPRI_MAP",
    "_max_append _unquote_match"]),
  ("email.utils", ["_AddressList _check_parenthesis _format_timetuple_and_zone _has_surrogates",
    "_iter_escaped_chars _parsedate_tz _post_parse_validation _pre_parse_validation _sanitize",
    "_strip_quoted_realnames"]),
  ("enum", ["_EnumDict _auto_null _dedent _high_bit _is_descriptor _is_dunder _is_internal_class",
    "_is_private _is_single_bit _is_sunder _iter_bits_lsb _make_class_unpicklable _old_convert_",
    "_or_ _power_of_two _proto_member _reduce_ex_by_global_name _simple_enum _stdlib_enums",
    "_test_simple_enum"]),
  ("faulthandler", ["_fatal_error_c_thread _read_null _sigabrt _sigfpe _sigsegv _stack_overflow"]),
  ("filecmp", ["_cache _cmp _do_cmp _filter _sig"]),
  ("fileinput", ["_state _test"]),
  ("fnmatch", ["_compile_pattern"]),
  ("fractions", ["_PyHASH_INF _PyHASH_MODULUS _RATIONAL_FORMAT"]),
  ("ftplib", ["_150_re _227_re _GLOBAL_DEFAULT_TIMEOUT _SSLSocket"]),
  ("functools", ["_CacheInfo _HashedSeq _NOT_FOUND _c3_merge _c3_mro _compose_mro _convert",
    "_find_impl _ge_from_gt _ge_from_le _ge_from_lt _gt_from_ge _gt_from_le _gt_from_lt",
    "_initial_missing _le_from_ge _le_from_gt _le_from_lt _lru_cache_wrapper _lt_from_ge",
    "_lt_from_gt _lt_from_le _make_key _unwrap_partial"]),
  ("getopt", ["_"]),
  ("getpass", ["_raw_input"]),
  ("gettext", ["_as_int _binary_ops _c2py_ops _current_domain _default_localedir _error",
    "_expand_lang _localedirs _parse _token_pattern _tokenize _translations"]),
  ("glob", ["_dir_open_flags _glob0 _glob1 _glob2 _iglob _isdir _ishidden _isrecursive _iterdir",
    "_join _lexists _listdir _rlistdir"]),
  ("graphlib", ["_NODE_DONE _NODE_OUT _NodeInfo"]),
  ("gzip", ["_COMPRESS_LEVEL_BEST _COMPRESS_LEVEL_FAST _COMPRESS_LEVEL_TRADEOFF _GzipReader",
    "_PaddedFile _compression _create_simple_gzip_header _read_exact _read_gzip_header"]),
  ("hashlib", ["__block_openssl_constructor __builtin_constructor_cache __get_builtin_constructor",
    "_hashlib"]),
  ("heapq", ["__about__ _heapify_max _heappop_max _heapreplace_max _siftdown _siftdown_max",
    "_siftup _siftup_max"]),
  ("hmac", ["_functype _hashlib _hashopenssl _warnings"]),
  ("html", ["_charref _html5 _invalid_charrefs _invalid_codepoints _re _replace_charref"]),
  ("html.parser", ["_markupbase"]),
  ("http", ["_simple_enum"]),
  ("http.client", ["_CS_IDLE _CS_REQ_SENT _CS_REQ_STARTED _MAXHEADERS _MAXLINE",
    "_METHODS_EXPECTING_BODY _UNKNOWN _contains_disallowed_method_pchar_re",
    "_contains_disallowed_url_pchar_re _encode _is_illegal_header_value _is_legal_header_name",
    "_read_headers _strip_ipv6_iface"]),
  ("http.cookiejar", ["_debug _str2time _threading _timegm _warn_unhandled_exception"]),
  ("http.cookies", ["_CookiePattern _LegalChars _LegalKeyChars _LegalValueChars _Translator",
    "_UnescapedChars _getdate _is_legal_key _monthname _nulljoin _quote _semispacejoin",
    "_spacejoin _unquote _unquote_replace _unquote_sub _weekdayname"]),
  ("http.server", ["__version__ _get_best_family _url_collapse_path"]),
  ("imaplib", ["_Authenticator _Literal _MAXLINE _Untagged_status __version__"]),
  ("imp", ["_ERR_MSG _HackedGetData _LoadCompiledCompatibility _LoadSourceCompatibility",
    "_builtin_from_name _exec _fix_co_filename _frozen_module_names _load"]),
  ("importlib", ["_RELOADING __import__ _bootstrap _bootstrap_external _imp _pack_uint32",
    "_unpack_uint32"]),
  ("importlib.abc", ["_bootstrap_external _frozen_importlib _frozen_importlib_external _register"]),
  ("importlib.metadata", ["_adapters _collections _functools _itertools _meta _text",
    "_top_level_declared _top_level_inferred _unique"]),
  ("importlib.resources", ["_adapters _common _legacy"]),
  ("importlib.util", ["_LazyModule _RAW_MAGIC_NUMBER _find_spec _find_spec_from_path _imp",
    "_module_to_load _resolve_name"]),
  ("inspect", ["_ClassFinder _FrameInfo _KEYWORD_ONLY _NonUserDefinedCallables _POSITIONAL_ONLY",
    "_POSITIONAL_OR_KEYWORD _ParameterKind _Traceback _VAR_KEYWORD _VAR_POSITIONAL _check_class",
    "_check_instance _descriptor_get _empty _filesbymodname _findclass _finddoc",
    "_get_code_position _get_code_position_from_tb _getmembers _has_code_flag _is_type _main",
    "_missing_arguments _sentinel _shadowed_dict _signature_bound_method",
    "_signature_from_builtin _signature_from_callable _signature_from_function",
    "_signature_fromstr _signature_get_partial _signature_get_user_defined_method",
    "_signature_is_builtin _signature_is_functionlike _static_getmro _too_many _void"]),
  ("io", ["__getattr__ _io"]),
  ("ipaddress", ["_BaseAddress _BaseConstants _BaseNetwork _BaseV4 _BaseV6 _IPAddressBase",
    "_IPv4Constants _IPv6Constants __version__ _address_fmt_re _collapse_addresses_internal",
    "_count_righthand_zero_bits _find_address_range _split_optional_netmask"]),
  ("itertools", ["_grouper _tee _tee_dataobject"]),
  ("json", ["__version__ _default_decoder _default_encoder"]),
  ("json.decoder", ["_CONSTANTS _decode_uXXXX"]),
  ("json.encoder", ["_make_iterencode"]),
  ("locale", ["_append_modifier _build_localename _builtin_str _collections_abc _format _group",
    "_grouping_intervals _localeconv _localize _override_localeconv _parse_localename",
    "_percent_re _print_locale _replace_encoding _setlocale _strcoll _strip_padding _strxfrm",
    "_test"]),
  ("logging", ["_STYLES _StderrHandler __date__ __status__ __version__ _acquireLock",
    "_addHandlerRef _after_at_fork_child_reinit_locks _at_fork_reinit_lock_weakset _checkLevel",
    "_defaultFormatter _defaultLastResort _handlerList _handlers _is_internal_frame",
    "_levelToName _lock _logRecordFactory _loggerClass _nameToLevel",
    "_register_at_fork_reinit_lock _releaseLock _removeHandlerRef _showwarning _srcfile",
    "_startTime _str_formatter _warnings_showwarning"]),
  ("logging.config", ["_clearExistingHandlers _create_formatters _handle_existing_loggers",
    "_install_handlers _install_loggers _listener _resolve _strip_spaces"]),
  ("logging.handlers", ["_MIDNIGHT"]),
  ("lzma", ["_MODE_CLOSED _MODE_READ _MODE_WRITE _compression _decode_filter_properties",
    "_encode_filter_properties"]),
  ("mailbox", ["_PartialFile _ProxyFile _create_carefully _create_temporary _lock_file _mboxMMDF",
    "_mboxMMDFMessage _singlefileMailbox _sync_close _sync_flush _unlock_file"]),
  ("mailcap", ["_DEPRECATION_MSG _find_unsafe _readmailcapfile"]),
  ("mimetypes", ["_common_types_default _db _default_mime_types _encodings_map_default _main",
    "_mimetypes_read_windows_registry _suffix_map_default _types_map_default _winreg"]),
  ("modulefinder", ["_C_BUILTIN _C_EXTENSION _PKG_DIRECTORY _PY_COMPILED _PY_FROZEN _PY_SOURCE",
    "_SEARCH_ERROR _find_module"]),
  ("multiprocessing.connection", ["_ConnectionBase _ForkingPickler _WaitSelector _check_timeout",
    "_init_timeout _mmap_counter _multiprocessing _validate_family _winapi _xml_dumps",
    "_xml_loads"]),
  ("multiprocessing.managers", ["_SharedMemoryTracker"]),
  ("multiprocessing.pool", ["_PoolCache _helper_reraises_exception"]),
  ("multiprocessing.process", ["_ParentProcess _children _cleanup _current_process _dangling",
    "_exitcode_to_name _parent_process _process_counter"]),
  ("multiprocessing.queues", ["_ForkingPickler _multiprocessing _sentinel"]),
  ("multiprocessing.shared_memory", ["_O_CREX _SHM_NAME_PREFIX _SHM_SAFE_NAME_LENGTH _USE_POSIX",
    "_encoding _make_filename _posixshmem"]),
  ("multiprocessing.sharedctypes", ["_ForkingPickler _new_value"]),
  ("multiprocessing.synchronize", ["_multiprocessing"]),
  ("netrc", ["_netrclex"]),
  ("nntplib", ["_CRLF _DEFAULT_OVERVIEW_FMT _GLOBAL_DEFAULT_TIMEOUT _LONGRESP _MAXLINE",
    "_OVERVIEW_FMT_ALTERNATIVES _email_decode_header _encrypt_on _have_ssl _parse_datetime",
    "_parse_overview _parse_overview_fmt _unparse_datetime"]),
  ("ntpath", ["_abspath_fallback _get_bothseps _getvolumepathname"]),
  ("opcode", ["_cache_format _inline_cache_entries _nb_ops _specialization_stats _specializations",
    "_specialized_instructions"]),
  ("operator", ["__abs__ __add__ __and__ __call__ __concat__ __contains__ __delitem__",
    "__floordiv__ __getitem__ __iadd__ __iand__ __iconcat__ __ifloordiv__ __ilshift__",
    "__imatmul__ __imod__ __imul__ __index__ __inv__ __invert__ __ior__ __ipow__ __irshift__",
    "__isub__ __itruediv__ __ixor__ __lshift__ __matmul__ __mod__ __mul__ __neg__ __not__",
    "__or__ __pos__ __pow__ __rshift__ __setitem__ __sub__ __truediv__ __xor__ _abs"]),
  ("optparse", ["_ __version__ _builtin_cvt _match_abbrev _parse_int _parse_num _repr"]),
  ("os", ["_Environ _check_methods _execvpe _exists _exit _fspath _fwalk _get_exports_list",
    "_spawnvef _walk _wrap_close"]),
  ("os.path", ["_get_sep _joinrealpath _path_normpath _varprog _varprogb"]),
  ("pathlib", ["_Flavour _IGNORED_ERRNOS _IGNORED_WINERRORS _PathParents _PosixFlavour",
    "_PreciseSelector _RecursiveWildcardSelector _Selector _TerminatingSelector",
    "_WINERROR_CANT_RESOLVE_FILENAME _WINERROR_INVALID_NAME _WINERROR_NOT_READY",
    "_WildcardSelector _WindowsFlavour _ignore_error _is_wildcard_pattern _make_selector",
    "_posix_flavour _windows_flavour"]),
  ("pdb", ["_ModuleTarget _ScriptTarget _rstr _usage"]),
  ("pickle", ["_Framer _HAVE_PICKLE_BUFFER _Pickler _Stop _Unframer _Unpickler _compat_pickle",
    "_dump _dumps _extension_cache _extension_registry _getattribute _inverted_registry _load",
    "_loads _test _tuplesize2code"]),
  ("pickletools", ["_Example __test__ _dis_test _genops _memo_test _test _unpack"]),
  ("pkgutil", ["_NAME_PATTERN _get_spec _import_imp _iter_file_finder_modules"]),
  ("platform", ["_Processor _WIN32_CLIENT_RELEASES _WIN32_SERVER_RELEASES __version__",
    "_comparable_version _component_re _default_architecture _follow_symlinks",
    "_get_machine_win32 _java_getprop _libc_search _mac_ver_xml _node _norm_version",
    "_os_release_cache _os_release_candidates _os_release_line _os_release_unescape",
    "_parse_os_release _platform _platform_cache _pypy_sys_version_parser _sys_version",
    "_sys_version_cache _sys_version_parser _syscmd_file _syscmd_ver _uname_cache",
    "_unknown_as_blank _ver_output _ver_stages"]),
  ("plistlib", ["_BINARY_FORMAT _BinaryPlistParser _BinaryPlistWriter _DumbXMLWriter _FORMATS",
    "_PlistParser _PlistWriter _controlCharPat _count_to_size _dateParser _date_from_string",
    "_date_to_string _decode_base64 _encode_base64 _escape _is_fmt_binary _is_fmt_xml _scalars",
    "_undefined"]),
  ("poplib", ["_MAXLINE"]),
  ("posix", ["_exit _have_functions _path_normpath"]),
  ("posixpath", ["_get_sep _joinrealpath _path_normpath _varprog _varprogb"]),
  ("pprint", ["_StringIO _builtin_scalars _collections _dataclasses _perfcheck _recursion",
    "_safe_key _safe_tuple _sys _types _wrap_bytes_repr"]),
  ("profile", ["_Utils"]),
  ("pstats", ["_simple_enum"]),
  ("pty", ["_copy _open_terminal _read"]),
  ("py_compile", ["_get_default_invalidation_mode"]),
  ("pyclbr", ["_ModuleBrowser _Object _create_tree _main _modules _nest_class _nest_function",
    "_readmodule"]),
  ("pydoc", ["_PlainTextDoc __date__ __future__ _adjust_cli_sys_path _escape_stdout _findclass",
    "_finddoc _future_feature_names _get_revised_path _getdoc _getowndoc _is_bound_method",
    "_re_stripid _split_list _start_server _url_handler"]),
  ("queue", ["_PySimpleQueue"]),
  ("random", ["_ONE _Sequence _Set _accumulate _acos _bisect _ceil _cos _e _exp _floor _index",
    "_inst _isfinite _log _os _pi _random _repeat _sha512 _sin _sqrt _test _test_generator",
    "_urandom _warn"]),
  ("re", ["_MAXCACHE __version__ _cache _casefix _compile _compile_repl _compiler _constants",
    "_expand _parser _pickle _special_chars_map _subx"]),
  ("readline", ["_READLINE_LIBRARY_VERSION _READLINE_RUNTIME_VERSION _READLINE_VERSION"]),
  ("reprlib", ["_possibly_sorted"]),
  ("rlcompleter", ["__main__ _readline_available"]),
  ("runpy", ["_Error _ModifiedArgv0 _TempModule _get_code_from_file _get_main_module_details",
    "_get_module_details _run_code _run_module_as_main _run_module_code"]),
  ("sched", ["_sentinel _time"]),
  ("secrets", ["_sysrand"]),
  ("selectors", ["_BaseSelectorImpl _PollLikeSelector _SelectorMapping _can_use _fileobj_to_fd"]),
  ("shelve", ["_ClosedDict"]),
  ("shlex", ["_find_unsafe _print_tokens"]),
  ("shutil", ["_ARCHIVE_FORMATS _BZ2_SUPPORTED _GiveupOnFastCopy _HAS_FCOPYFILE _LZMA_SUPPORTED",
    "_UNPACK_FORMATS _USE_CP_SENDFILE _WINDOWS _WIN_DEFAULT_PATHEXT _ZLIB_SUPPORTED",
    "_access_check _basename _check_unpack_options _copyfileobj_readinto _copytree _copyxattr",
    "_destinsrc _ensure_directory _fastcopy_fcopyfile _fastcopy_sendfile _find_unpack_format",
    "_get_gid _get_uid _is_immutable _islink _make_tarball _make_zipfile _ntuple_diskusage",
    "_rmtree_isdir _rmtree_islink _rmtree_safe_fd _rmtree_unsafe _samefile _stat",
    "_unpack_tarfile _unpack_zipfile _use_fd_functions"]),
  ("signal", ["_IntEnum _enum_to_int _int_to_enum _signal"]),
  ("site", ["_get_path _getuserbase _init_pathinfo _script _sitebuiltins _trace"]),
  ("smtpd", ["_DEPRECATION_MSG __version__ _deprecated"]),
  ("smtplib", ["_MAXCHALLENGE _MAXLINE _addr_only _fix_eols _have_ssl _quote_periods"]),
  ("socket", ["_GLOBAL_DEFAULT_TIMEOUT _GiveupOnSendfile _LOCALHOST _LOCALHOST_V6",
    "_blocking_errnos _fallback_socketpair _intenum_converter _socket"]),
  ("socketserver", ["_NoThreads _ServerSelector _SocketWriter _Threads __version__"]),
  ("sqlite3", ["__getattr__"]),
  ("sre_compile", ["_ _ASSERT_CODES _BITS_TRANS _CODEBITS _EXTRA_CASES _LITERAL_CODES",
    "_REPEATING_CODES _SUCCESS_CODES _UNIT_CODES _bytes_to_codes _code _combine_flags _compile",
    "_compile_charset _compile_info _generate_overlap_table _get_charset_prefix _get_iscased",
    "_get_literal_prefix _hex_code _mk_bitmap _optimize_charset _parser _simple _sre"]),
  ("sre_constants", ["_ _NamedIntConstant _makecodes"]),
  ("sre_parse", ["_ _REPEATCODES _UNITCODES _class_escape _escape _parse _parse_flags _parse_sub",
    "_uniq"]),
  ("ssl", ["_ASN1Object _DEFAULT_CIPHERS _Enum _GLOBAL_DEFAULT_TIMEOUT _IntEnum _IntFlag",
    "_OPENSSL_API_VERSION _PROTOCOL_NAMES _RESTRICTED_SERVER_CIPHERS _SSLContext _SSLMethod",
    "_SSLv2_IF_EXISTS _TLSAlertType _TLSContentType _TLSMessageType",
    "_create_default_https_context _create_stdlib_context _create_unverified_context",
    "_dnsname_match _inet_paton _ipaddress_match _nid2obj _simple_enum _socket _ssl _sslcopydoc",
    "_txt2obj"]),
  ("stat", ["_filemode_table"]),
  ("statistics", ["_SQRT2 _coerce _convert _decimal_sqrt_of_frac _exact_ratio _fail_neg",
    "_float_sqrt_of_frac _integer_sqrt_of_frac_rto _isfinite _mean_stdev _normal_dist_inv_cdf",
    "_sqrt_bit_width _ss _sum"]),
  ("string", ["_ChainMap _re _sentinel_dict _string"]),
  ("struct", ["_clearcache"]),
  ("subprocess", ["_PIPE_BUF _PopenSelector _USE_POSIX_SPAWN _USE_VFORK _WIFSTOPPED _WNOHANG",
    "_WSTOPSIG _active _args_from_interpreter_flags _can_fork_exec _cleanup _fork_exec",
    "_mswindows _optim_args_from_interpreter_flags _text_encoding _time _use_posix_spawn",
    "_waitpid _waitstatus_to_exitcode"]),
  ("sunau", ["_read_u32 _simple_encodings _sunau_params _write_u32"]),
  ("symtable", ["_newSymbolTable _symtable"]),
  ("sys", ["__breakpointhook__ __displayhook__ __excepthook__ __interactivehook__ __stderr__",
    "__stdin__ __stdout__ __unraisablehook__ _base_executable _clear_type_cache",
    "_current_exceptions _current_frames _debugmallocstats _framework _getframe",
    "_getquickenedcount _git _home _stdlib_dir _xoptions"]),
  ("sysconfig", ["_ALWAYS_STR _BASE_EXEC_PREFIX _BASE_PREFIX _CONFIG_VARS _EXEC_PREFIX",
    "_HAS_USER_BASE _INSTALL_SCHEMES _PREFIX _PROJECT_BASE _PY_VERSION _PY_VERSION_SHORT",
    "_PY_VERSION_SHORT_NO_DOT _SCHEME_KEYS _USER_BASE _expand_vars _extend_dict _findvar1_rx",
    "_findvar2_rx _generate_posix_vars _get_preferred_schemes _get_sysconfigdata_name",
    "_getuserbase _init_non_posix _init_posix _main _parse_makefile _print_dict _safe_realpath",
    "_subst_vars _sys_home _variable_rx"]),
  ("tabnanny", ["__version__"]),
  ("tarfile", ["_FileInFile _KEEP _LowLevelFile _NAMED_FILTERS _Stream _StreamProxy",
    "_get_filtered_attrs _header_length_prefix_re _safe_print"]),
  ("telnetlib", ["_TelnetSelector _time"]),
  ("tempfile", ["_O_TMPFILE_WORKS _Random _RandomNameSequence _TemporaryFileCloser",
    "_TemporaryFileWrapper _allocate_lock _bin_openflags _candidate_tempdir_list",
    "_dont_follow_symlinks _errno _exists _functools _get_candidate_names _get_default_tempdir",
    "_gettempdir _infer_return_type _io _mkstemp_inner _name_sequence _once_lock _os",
    "_resetperms _sanitize_params _shutil _stat _sys _text_openflags _thread _types _warnings",
    "_weakref"]),
  ("textwrap", ["_leading_whitespace_re _whitespace _whitespace_only_re"]),
  ("threading", ["_CRLock _DummyThread _HAVE_THREAD_NATIVE_ID _MainThread _PyRLock _RLock",
    "_SHUTTING_DOWN __excepthook__ _active _active_limbo_lock _after_fork _allocate_lock _count",
    "_counter _dangling _deque _enumerate _islice _limbo _main_thread _maintain_shutdown_locks",
    "_make_invoke_excepthook _newname _os _profile_hook _register_atexit _set_sentinel",
    "_shutdown _shutdown_locks _shutdown_locks_lock _start_new_thread _sys _threading_atexits",
    "_time _trace_hook"]),
  ("time", ["_STRUCT_TM_ITEMS"]),
  ("timeit", ["_globals"]),
  ("tokenize", ["_all_string_prefixes _builtin_open _compile _generate_tokens_from_c_tokenizer",
    "_get_normal_name _itertools _tokenize"]),
  ("tomllib", ["_parser _re _types"]),
  ("trace", ["_Ignore _find_executable_linenos _find_lines _find_lines_from_code _find_strings",
    "_fullmodname _modname _time"]),
  ("traceback", ["_Anchors _ExceptionPrintContext _RECURSIVE_CUTOFF _Sentinel",
    "_WIDE_CHAR_SPECIFIERS _byte_offset_to_character_offset _cause_message _context_message",
    "_display_width _extract_caret_anchors_from_line_segment _format_final_exc_line",
    "_get_code_position _parse_value_tb _safe_string _sentinel _walk_tb_with_full_positions"]),
  ("tracemalloc", ["_Traces _compare_grouped_stats _format_size _get_object_traceback _get_traces",
    "_normalize_filename"]),
  ("types", ["_GeneratorWrapper _calculate_meta _cell_factory"]),
  ("typing", ["_ASSERT_NEVER_REPR_MAX_LENGTH _AnnotatedAlias _AnyMeta _BaseGenericAlias",
    "_BoundVarianceMixin _CallableGenericAlias _CallableType _ConcatenateGenericAlias",
    "_DeprecatedType _Final _GenericAlias _Immutable _LiteralGenericAlias _LiteralSpecialForm",
    "_NamedTuple _NotIterable _PROTO_ALLOWLIST _PickleUsingNameMixin _ProtocolMeta",
    "_SPECIAL_NAMES _SpecialForm _SpecialGenericAlias _TYPING_INTERNALS _TupleType _TypedDict",
    "_TypedDictMeta _TypingEllipsis _UnionGenericAlias _UnpackGenericAlias _alias",
    "_allow_reckless_class_checks _allowed_types _caller _check_generic _cleanups",
    "_collect_parameters _compare_args_orderless _deduplicate _deduplicate_unhashable",
    "_eval_type _flatten_literal_params _get_protocol_attrs _idfunc _is_callable_members_only",
    "_is_dunder _is_param_expr _is_typevar_like _is_unpacked_typevartuple _make_nmtuple",
    "_namedtuple_mro_entries _no_init_or_replace_init _overload_dummy _overload_registry",
    "_prohibited _remove_dups_flatten _should_unflatten_callable_args _special",
    "_strip_annotations _tp_cache _type_check _type_convert _type_repr _unpack_args",
    "_value_and_type_iter"]),
  ("unicodedata", ["_ucnhash_CAPI"]),
  ("unittest", ["_TextTestResult __getattr__ __unittest"]),
  ("unittest.case", ["_AssertRaisesBaseContext _AssertRaisesContext _AssertWarnsContext",
    "_BaseTestCaseContext _OrderedChainMap _Outcome _ShouldStop _SubTest _UnexpectedSuccess",
    "__unittest _addError _addSkip _common_shorten_repr _count_diff_all_purpose",
    "_count_diff_hashable _enter_context _id _is_subtype _module_cleanups _subtest_msg_sentinel"]),
  ("unittest.loader", ["_FailedTest __unittest _jython_aware_splitext _makeLoader",
    "_make_failed_import_test _make_failed_load_tests _make_failed_test _make_skipped_test"]),
  ("unittest.main", ["__unittest _convert_name _convert_names _convert_select_pattern"]),
  ("unittest.mock", ["_ANY _AnyComparer _AsyncIterator _Call _CallList _MOCK_SIG _MockIter",
    "_Sentinel _SentinelObject _SpecState _all_magics _all_sync_magics _allowed_names",
    "_async_magics _async_method_magics _builtins _calculate_return_value _callable",
    "_check_and_set_parent _check_signature _check_spec_arg_typos _clear_dict",
    "_copy_func_details _delegating_property _deleted _extract_mock _format_call_signature",
    "_get_async_iter _get_eq _get_iter _get_method _get_ne _get_signature_object _get_target",
    "_instance_callable _is_async_func _is_async_obj _is_exception _is_instance_mock _is_list",
    "_is_magic _magics _missing _must_skip _non_defaults _patch _patch_dict _patch_multiple",
    "_patch_object _patch_stopall _return_values _safe_super _set_return_value _set_signature",
    "_setup_async_mock _setup_func _side_effect_methods _sync_async_magics _to_stream _try_iter",
    "_unsupported_magics"]),
  ("unittest.result", ["__unittest"]),
  ("unittest.runner", ["_SubTest _WritelnDecorator __unittest"]),
  ("unittest.signals", ["_InterruptHandler __unittest _interrupt_handler _results"]),
  ("unittest.suite", ["_DebugResult _ErrorHolder __unittest _call_if_exists _isnotsuite"]),
  ("unittest.util", ["_MAX_LENGTH _MIN_BEGIN_LEN _MIN_COMMON_LEN _MIN_DIFF_LEN _MIN_END_LEN",
    "_Mismatch _PLACEHOLDER_LEN __unittest _common_shorten_repr _count_diff_all_purpose",
    "_count_diff_hashable _shorten"]),
  ("urllib.parse", ["_ALWAYS_SAFE _ALWAYS_SAFE_BYTES _DefragResultBase _NetlocResultMixinBase",
    "_NetlocResultMixinBytes _NetlocResultMixinStr _ParseResultBase _Quoter _ResultMixinBytes",
    "_ResultMixinStr _SplitResultBase _UNSAFE_URL_BYTES_TO_REMOVE _WHATWG_C0_CONTROL_OR_SPACE",
    "__getattr__ _asciire _byte_quoter_factory _check_bracketed_host _checknetloc _coerce_args",
    "_decode_args _encode_result _hexdig _hextobyte _hostprog _implicit_encoding",
    "_implicit_errors _noop _portprog _splitattr _splithost _splitnetloc _splitnport",
    "_splitparams _splitpasswd _splitport _splitquery _splittag _splittype _splituser",
    "_splitvalue _to_bytes _typeprog"]),
  ("urllib.request", ["__version__ _cut_port_re _ftperrors _have_ssl _localhost _noheaders",
    "_opener _parse_proxy _proxy_bypass_macosx_sysconf _proxy_bypass_winreg_override",
    "_randombytes _safe_gethostbyname _splitattr _splithost _splitpasswd _splitport _splitquery",
    "_splittag _splittype _splituser _splitvalue _thishost _to_bytes _url_tempfiles"]),
  ("uuid", ["_AIX _GETTERS _LINUX _MAC_DELIM _MAC_OMITS_LEADING_ZEROES _OS_GETTERS _UuidCreate",
    "_arp_getnode _find_mac_near_keyword _find_mac_under_heading _generate_time_safe",
    "_get_command_stdout _has_uuid_generate_time_safe _ifconfig_getnode _ip_getnode",
    "_ipconfig_getnode _is_universal _lanscan_getnode _last_timestamp _load_system_functions",
    "_netbios_getnode _netstat_getnode _node _parse_mac _platform_system _random_getnode",
    "_simple_enum _unix_getnode _uuid _windll_getnode"]),
  ("warnings", ["_DEPRECATED_MSG _OptionError _add_filter _defaultaction _deprecated",
    "_filters_mutated _formatwarning_orig _formatwarnmsg _formatwarnmsg_impl _getaction",
    "_getcategory _is_internal_frame _next_external_frame _onceregistry _processoptions",
    "_setoption _showwarning_orig _showwarnmsg _showwarnmsg_impl _warn_unawaited_coroutine"]),
  ("wave", ["_Chunk _array_fmts _byteswap _wave_params"]),
  ("weakref", ["_IterationGuard _collections_abc _remove_dead_weakref"]),
  ("webbrowser", ["_browsers _lock _os_preferred_browser _synthesize _tryorder"]),
  ("wsgiref.handlers", ["_is_request _monthname _needs_transcode _weekdayname"]),
  ("wsgiref.headers", ["_formatparam"]),
  ("wsgiref.simple_server", ["__version__"]),
  ("wsgiref.types", ["_ExcInfo _OptExcInfo _Readable"]),
  ("wsgiref.util", ["_hoppish"]),
  ("xml.dom.minidom", ["_append_child _clear_id_cache _clone_node _do_pulldom_parse",
    "_get_containing_element _get_containing_entref _get_elements_by_tagName_helper",
    "_get_elements_by_tagName_ns_helper _in_document _no_type _nodeTypes_with_children _nssplit",
    "_set_attribute_node _write_data"]),
  ("xml.etree.ElementInclude", ["_include"]),
  ("xml.etree.ElementPath", ["_SelectorContext _cache _is_wildcard_tag _prepare_tag"]),
  ("xml.etree.ElementTree", ["_Element_Py _ListDataStream _escape_attrib _escape_attrib_c14n",
    "_escape_attrib_html _escape_cdata _escape_cdata_c14n _get_writer _looks_like_prefix_name",
    "_namespace_map _namespaces _raise_serialization_error _serialize _serialize_html",
    "_serialize_text _serialize_xml _set_factories"]),
  ("xml.sax", ["_create_parser _exceptions _false _key"]),
  ("xml.sax.expatreader", ["_ClosedParser _mkproxy"]),
  ("xml.sax.saxutils", ["__dict_replace _gettextwriter"]),
  ("xml.sax.xmlreader", ["_test"]),
  ("xmlrpc.client", ["_Method _MultiCallMethod __version__ _binary _datetime _datetime_type",
    "_iso8601_format _strftime"]),
  ("zipapp", ["_copy_archive _maybe_open _write_file_prefix"]),
  ("zipfile", ["_CD64_CREATE_VERSION _CD64_DIRECTORY_RECSIZE _CD64_DIRECTORY_SIZE",
    "_CD64_DISK_NUMBER _CD64_DISK_NUMBER_START _CD64_EXTRACT_VERSION",
    "_CD64_NUMBER_ENTRIES_THIS_DISK _CD64_NUMBER_ENTRIES_TOTAL _CD64_OFFSET_START_CENTDIR",
    "_CD64_SIGNATURE _CD_COMMENT_LENGTH _CD_COMPRESSED_SIZE _CD_COMPRESS_TYPE _CD_CRC",
    "_CD_CREATE_SYSTEM _CD_CREATE_VERSION _CD_DATE _CD_DISK_NUMBER_START",
    "_CD_EXTERNAL_FILE_ATTRIBUTES _CD_EXTRACT_SYSTEM _CD_EXTRACT_VERSION _CD_EXTRA_FIELD_LENGTH",
    "_CD_FILENAME_LENGTH _CD_FLAG_BITS _CD_INTERNAL_FILE_ATTRIBUTES _CD_LOCAL_HEADER_OFFSET",
    "_CD_SIGNATURE _CD_TIME _CD_UNCOMPRESSED_SIZE _DD_SIGNATURE _ECD_COMMENT _ECD_COMMENT_SIZE",
    "_ECD_DISK_NUMBER _ECD_DISK_START _ECD_ENTRIES_THIS_DISK _ECD_ENTRIES_TOTAL _ECD_LOCATION",
    "_ECD_OFFSET _ECD_SIGNATURE _ECD_SIZE _EXTRA_FIELD_STRUCT _EndRecData _EndRecData64",
    "_FH_COMPRESSED_SIZE _FH_COMPRESSION_METHOD _FH_CRC _FH_EXTRACT_SYSTEM _FH_EXTRACT_VERSION",
    "_FH_EXTRA_FIELD_LENGTH _FH_FILENAME_LENGTH _FH_GENERAL_PURPOSE_FLAG_BITS _FH_LAST_MOD_DATE",
    "_FH_LAST_MOD_TIME _FH_SIGNATURE _FH_UNCOMPRESSED_SIZE _MASK_COMPRESSED_PATCH",
    "_MASK_COMPRESS_OPTION_1 _MASK_ENCRYPTED _MASK_STRONG_ENCRYPTION _MASK_USE_DATA_DESCRIPTOR",
    "_MASK_UTF_FILENAME _SharedFile _Tellable _ZipDecrypter _ZipWriteFile _ancestry",
    "_check_compression _check_zipfile _crctable _dedupe _difference _extract_text_encoding",
    "_gen_crc _get_compressor _get_decompressor _parents _strip_extra"]),
  ("zipimport", ["_bootstrap _bootstrap_external _code_type _compile_source _eq_mtime _get_data",
    "_get_decompress_func _get_module_code _get_module_info _get_module_path",
    "_get_mtime_and_size_of_source _get_pyc_source _imp _importing_zlib _io _is_dir",
    "_module_type _normalize_line_endings _parse_dostime _read_directory _unmarshal_code",
    "_unpack_uint16 _unpack_uint32 _warnings _zip_directory_cache _zip_searchorder"]),
  ("zlib", ["__version__"]),
  ("zoneinfo", ["__getattr__ _common _tzpath"])]

/-- The names that every module has. -/
def commonNames : List String := [
  "__annotations__ __class__ __delattr__ __dict__ __dir__ __doc__ __eq__ __format__ __ge__",
  "__getattribute__ __getstate__ __gt__ __hash__ __init__ __init_subclass__ __le__ __loader__",
  "__lt__ __name__ __ne__ __new__ __package__ __reduce__ __reduce_ex__ __repr__ __setattr__",
  "__sizeof__ __spec__ __str__ __subclasshook__"]

/-- The name of the list of what a module gives to all. -/
def listingName : String := "__all__"

/-- The modules that list what they give to all. -/
def listingModules : List String := [
  "__future__ _collections_abc _osx_support _pydecimal _pyio _strptime _threading_local",
  "_weakrefset aifc argparse asyncio asyncio.base_events asyncio.base_futures asyncio.coroutines",
  "asyncio.events asyncio.exceptions asyncio.futures asyncio.locks asyncio.proactor_events",
  "asyncio.protocols asyncio.queues asyncio.runners asyncio.selector_events asyncio.staggered",
  "asyncio.streams asyncio.subprocess asyncio.taskgroups asyncio.tasks asyncio.threads",
  "asyncio.timeouts asyncio.transports asyncio.unix_events base64 bdb bz2 cProfile calendar cgi",
  "cmd code codecs codeop collections collections.abc colorsys compileall concurrent.futures",
  "configparser contextlib contextvars copy copyreg csv ctypes.macholib.dyld",
  "ctypes.macholib.dylib ctypes.macholib.framework dataclasses datetime dbm dbm.dumb difflib dis",
  "doctest email email._encoded_words email._parseaddr email._policybase email.base64mime",
  "email.charset email.encoders email.feedparser email.generator email.header email.iterators",
  "email.message email.mime.application email.mime.audio email.mime.base email.mime.image",
  "email.mime.message email.mime.multipart email.mime.nonmultipart email.mime.text email.parser",
  "email.policy email.quoprimime email.utils ensurepip enum filecmp fileinput fnmatch fractions",
  "ftplib functools genericpath getopt getpass gettext glob graphlib gzip hashlib heapq html",
  "html.entities html.parser http http.client http.cookiejar http.cookies http.server imaplib",
  "imghdr importlib importlib.abc importlib.metadata importlib.readers importlib.resources",
  "importlib.resources.abc importlib.simple inspect io json json.decoder json.scanner keyword",
  "linecache locale logging lzma mailbox mailcap mimetypes multiprocessing",
  "multiprocessing.connection multiprocessing.context multiprocessing.dummy",
  "multiprocessing.dummy.connection multiprocessing.forkserver multiprocessing.heap",
  "multiprocessing.managers multiprocessing.pool multiprocessing.popen_fork",
  "multiprocessing.popen_forkserver multiprocessing.popen_spawn_posix multiprocessing.process",
  "multiprocessing.queues multiprocessing.reduction multiprocessing.resource_sharer",
  "multiprocessing.resource_tracker multiprocessing.shared_memory multiprocessing.sharedctypes",
  "multiprocessing.spawn multiprocessing.synchronize multiprocessing.util netrc nntplib ntpath",
  "numbers opcode operator optparse os os.path pathlib pdb pickle pickletools pipes pkgutil",
  "plistlib poplib posixpath pprint profile pstats pty py_compile pyclbr pydoc queue quopri",
  "random re reprlib rlcompleter runpy sched secrets shelve shlex shutil smtpd smtplib sndhdr",
  "socket socketserver statistics string struct subprocess symtable sysconfig tabnanny tarfile",
  "telnetlib tempfile textwrap threading timeit tkinter tkinter.filedialog tkinter.font",
  "tkinter.messagebox tkinter.ttk token tokenize tomllib trace traceback tty turtle types typing",
  "typing.io typing.re unittest unittest.mock urllib.error urllib.parse urllib.request",
  "urllib.response urllib.robotparser uu warnings wave weakref webbrowser wsgiref.handlers",
  "wsgiref.simple_server wsgiref.types wsgiref.util wsgiref.validate xdrlib xml",
  "xml.dom.minicompat xml.dom.xmlbuilder xml.etree.ElementTree zipapp zipfile zipimport zoneinfo"]

/-- The names that modules have which are read from files. -/
def fileNames : List String := ["__builtins__", "__cached__", "__file__"]

/-- The modules that are not read from files. -/
def builtInModules : List String := [
  "_abc _ast _codecs _collections _functools _imp _io _locale _operator _signal _sre _stat",
  "_string _symtable _thread _tracemalloc _warnings _weakref atexit builtins errno faulthandler",
  "gc itertools marshal posix pwd sys time"]

/-- The name under which a package says where its modules lie. -/
def locationName : String := "__path__"

/-- The modules that others seem to be within and that are no packages. -/
def singleModules : List String :=
  ["os", "pyexpat", "typing", "xml.parsers.expat"]

end LalrBackend.Code
