import LalrBackend.Code.Library.Entry

/-!
# Modules for loading, testing and watching programs

What these standard modules provide, by kind. Plain values stand apart.
-/

namespace LalrBackend.Code

/-- The contents of the modules for loading, testing and watching programs. -/
def executionContents : List (String × List Family) := [
  ("sys", [
    ⟨.routine, [.bare], [
      "breakpointhook call_tracing excepthook exit intern set_int_max_str_digits setprofile",
      "setrecursionlimit settrace unraisablehook"]⟩,
    ⟨.routine, [.bare, .takesNumber], [
      "set_coroutine_origin_tracking_depth setdlopenflags setswitchinterval"]⟩,
    ⟨.routine, [.bare, .takesNumber, .takesList], ["addaudithook displayhook getrefcount"]⟩,
    ⟨.routine, [.bare, .takesNumber, .takesList, .takesTwo], ["audit getsizeof"]⟩,
    ⟨.routine, [.bare, .takesNothing], [
      "exc_info exception get_asyncgen_hooks get_coroutine_origin_tracking_depth",
      "get_int_max_str_digits getallocatedblocks getdefaultencoding getdlopenflags",
      "getfilesystemencodeerrors getfilesystemencoding getprofile getrecursionlimit",
      "getswitchinterval gettrace is_finalizing set_asyncgen_hooks"]⟩,
    ⟨.value, [.bare], [
      "argv base_exec_prefix base_prefix builtin_module_names copyright exec_prefix executable",
      "flags float_info hash_info hexversion int_info meta_path modules orig_argv path",
      "path_hooks path_importer_cache prefix stdlib_module_names thread_info version",
      "version_info warnoptions"]⟩,
    ⟨.value, [.settable], ["implementation stderr stdin stdout"]⟩]),
  ("sysconfig", [
    ⟨.module, [.withheld], ["os sys"]⟩,
    ⟨.routine, [.settable], ["get_path parse_config_h"]⟩,
    ⟨.routine, [.settable, .takesNumber], ["get_config_var"]⟩,
    ⟨.routine, [.settable, .takesNothing], [
      "get_config_h_filename get_makefile_filename get_path_names get_paths get_platform",
      "get_python_version get_scheme_names"]⟩,
    ⟨.routine, [.settable, .takesNothing, .takesNumber], ["get_config_vars"]⟩,
    ⟨.routine, [.settable, .takesNothing, .takesNumber, .takesList, .withheld], [
      "is_python_build"]⟩,
    ⟨.routine, [.settable, .takesNothing, .withheld], ["get_default_scheme"]⟩,
    ⟨.routine, [.settable, .withheld], ["expand_makefile_vars get_preferred_scheme realpath"]⟩,
    ⟨.value, [.bare, .withheld], ["pardir"]⟩]),
  ("atexit", [
    ⟨.routine, [.bare, .takesNumber, .takesList], ["unregister"]⟩,
    ⟨.routine, [.bare, .takesTwo], ["register"]⟩]),
  ("traceback", [
    ⟨.module, [.withheld], ["collections itertools linecache sys textwrap"]⟩,
    ⟨.routine, [.settable], [
      "clear_frames extract_tb format_exception format_exception_only format_list format_tb",
      "print_exception print_last print_tb"]⟩,
    ⟨.routine, [.settable, .takesNumber, .takesList], ["walk_stack walk_tb"]⟩,
    ⟨.routine, [.settable, .takesNothing], ["extract_stack format_stack print_stack"]⟩,
    ⟨.routine, [.settable, .takesNothing, .takesNumber], ["format_exc print_exc"]⟩,
    ⟨.routine, [.settable, .withheld], ["print_list"]⟩,
    ⟨.type, [.settable, .base], ["FrameSummary TracebackException"]⟩,
    ⟨.type, [.settable, .indexed, .base, .madePlain, .takesNothing, .takesList], ["StackSummary"]⟩,
    ⟨.type, [.settable, .indexed, .base, .madeWithTwo, .madePlain,
        .takesNothing, .takesNumber, .takesList, .takesTwo, .withheld], ["suppress"]⟩]),
  ("__future__", [
    ⟨.value, [.bare], ["all_feature_names"]⟩,
    ⟨.value, [.settable, .base], [
      "absolute_import annotations barry_as_FLUFL division generator_stop generators",
      "nested_scopes print_function unicode_literals with_statement"]⟩]),
  ("gc", [
    ⟨.routine, [.bare, .takesNumber], ["set_debug set_threshold"]⟩,
    ⟨.routine, [.bare, .takesNumber, .takesList], ["is_finalized is_tracked"]⟩,
    ⟨.routine, [.bare, .takesNothing], [
      "collect disable enable freeze get_count get_debug get_freeze_count get_objects get_stats",
      "get_threshold isenabled unfreeze"]⟩,
    ⟨.routine, [.bare, .takesNothing, .takesNumber, .takesList, .takesTwo], [
      "get_referents get_referrers"]⟩,
    ⟨.value, [.bare], ["callbacks garbage"]⟩]),
  ("inspect", [
    ⟨.module, [.withheld], [
      "abc ast builtins collections dis enum functools importlib itertools linecache os re sys",
      "token tokenize types"]⟩,
    ⟨.routine, [.bare, .takesNumber, .withheld], ["iskeyword"]⟩,
    ⟨.routine, [.settable], [
      "classify_class_attrs cleandoc findsource formatargvalues get_annotations getabsfile",
      "getargs getargvalues getattr_static getblock getclasstree getclosurevars",
      "getcoroutinestate getfile getframeinfo getfullargspec getgeneratorlocals",
      "getgeneratorstate getinnerframes getlineno getmodulename getmro getouterframes getsource",
      "getsourcefile getsourcelines indentsize signature walktree"]⟩,
    ⟨.routine, [.settable, .takesNumber, .takesList], [
      "formatannotationrelativeto getcomments getcoroutinelocals getdoc getmembers",
      "getmembers_static isabstract isasyncgen isasyncgenfunction isawaitable isbuiltin isclass",
      "iscode iscoroutine iscoroutinefunction isdatadescriptor isframe isfunction isgenerator",
      "isgeneratorfunction isgetsetdescriptor ismemberdescriptor ismethod ismethoddescriptor",
      "ismethodwrapper ismodule isroutine istraceback unwrap"]⟩,
    ⟨.routine, [.settable, .takesNumber, .takesList, .takesTwo], ["formatannotation getmodule"]⟩,
    ⟨.routine, [.settable, .takesNothing], ["currentframe"]⟩,
    ⟨.routine, [.settable, .takesNothing, .takesNumber], ["stack"]⟩,
    ⟨.routine, [.settable, .takesNothing, .takesNumber, .takesList], ["trace"]⟩,
    ⟨.routine, [.settable, .takesTwo], ["getcallargs"]⟩,
    ⟨.routine, [.settable, .withheld], ["namedtuple"]⟩,
    ⟨.type, [.indexed, .base, .madePlain, .takesNothing, .withheld], ["OrderedDict"]⟩,
    ⟨.type, [.settable, .base], ["Parameter"]⟩,
    ⟨.type, [.settable, .base, .madePlain, .takesNothing], ["BlockFinder Signature"]⟩,
    ⟨.type, [.settable, .base, .madeWithTwo, .madePlain,
        .raised, .takesNothing, .takesNumber, .takesList, .takesTwo], [
      "ClassFoundException EndOfBlock"]⟩,
    ⟨.type, [.settable, .base, .madeWithTwo, .takesTwo], ["BoundArguments"]⟩,
    ⟨.type, [.settable, .indexed, .base], [
      "ArgInfo Arguments Attribute ClosureVars FrameInfo FullArgSpec Traceback"]⟩,
    ⟨.type, [.withheld], ["attrgetter"]⟩,
    ⟨.value, [.bare, .withheld], ["modulesbyfile"]⟩]),
  ("site", [
    ⟨.module, [], ["builtins io os stat sys"]⟩,
    ⟨.routine, [.settable], ["addpackage addsitedir addsitepackages makepath"]⟩,
    ⟨.routine, [.settable, .takesNumber, .takesList], ["addusersitepackages venv"]⟩,
    ⟨.routine, [.settable, .takesNothing], [
      "abs_paths check_enableusersite enablerlcompleter execsitecustomize execusercustomize",
      "getsitepackages getuserbase getusersitepackages main removeduppaths setcopyright",
      "sethelper setquit"]⟩,
    ⟨.value, [.bare], ["PREFIXES USER_BASE USER_SITE"]⟩]),
  ("zipimport", [
    ⟨.module, [.withheld], ["marshal sys time"]⟩,
    ⟨.type, [.settable, .base], ["zipimporter"]⟩,
    ⟨.type, [.settable, .base, .madeWithTwo, .madePlain,
        .raised, .takesNothing, .takesNumber, .takesList, .takesTwo], ["ZipImportError"]⟩,
    ⟨.value, [.bare, .withheld], ["STRING_END_ARCHIVE cp437_table"]⟩]),
  ("zipapp", [
    ⟨.module, [.withheld], ["contextlib os pathlib shutil stat sys zipfile"]⟩,
    ⟨.routine, [.settable], ["create_archive get_interpreter"]⟩,
    ⟨.routine, [.settable, .withheld], ["main"]⟩,
    ⟨.type, [.settable, .base, .madeWithTwo, .madePlain,
        .raised, .takesNothing, .takesNumber, .takesList, .takesTwo], ["ZipAppError"]⟩]),
  ("pkgutil", [
    ⟨.module, [.withheld], ["importlib os sys warnings zipimport"]⟩,
    ⟨.routine, [.settable], ["find_loader get_data get_importer get_loader read_code"]⟩,
    ⟨.routine, [.settable, .takesNumber, .takesList, .takesTwo, .withheld], [
      "iter_importer_modules iter_zipimport_modules"]⟩,
    ⟨.routine, [.settable, .takesNumber, .takesList, .withheld], ["simplegeneric"]⟩,
    ⟨.routine, [.settable, .takesNothing, .takesNumber, .takesList], ["iter_importers"]⟩,
    ⟨.routine, [.settable, .takesNothing, .takesNumber, .takesList, .takesTwo], [
      "iter_modules walk_packages"]⟩,
    ⟨.routine, [.settable, .takesTwo], ["extend_path"]⟩,
    ⟨.routine, [.settable, .withheld], ["namedtuple resolve_name"]⟩,
    ⟨.type, [.base, .withheld], ["ModuleType"]⟩,
    ⟨.type, [.settable, .base], ["ImpLoader"]⟩,
    ⟨.type, [.settable, .base, .madePlain, .takesNothing, .takesNumber, .takesList], [
      "ImpImporter"]⟩,
    ⟨.type, [.settable, .base, .withheld], ["zipimporter"]⟩,
    ⟨.type, [.settable, .indexed, .base], ["ModuleInfo"]⟩]),
  ("modulefinder", [
    ⟨.module, [], ["dis importlib io marshal os sys"]⟩,
    ⟨.routine, [.settable], ["test"]⟩,
    ⟨.routine, [.settable, .takesTwo], ["AddPackagePath ReplacePackage"]⟩,
    ⟨.type, [.settable, .base, .madeWithTwo, .madePlain,
        .takesNothing, .takesNumber, .takesList, .takesTwo], ["ModuleFinder"]⟩,
    ⟨.type, [.settable, .base, .madeWithTwo, .takesNumber, .takesList, .takesTwo], ["Module"]⟩,
    ⟨.value, [.bare], ["packagePathMap replacePackageMap"]⟩]),
  ("runpy", [
    ⟨.module, [.withheld], ["importlib io os sys"]⟩,
    ⟨.routine, [.settable], ["run_module run_path"]⟩,
    ⟨.type, [.base, .withheld], ["ModuleType"]⟩]),
  ("importlib", [
    ⟨.module, [.withheld], ["machinery sys warnings"]⟩,
    ⟨.routine, [.settable], ["__import__ import_module reload"]⟩,
    ⟨.routine, [.settable, .takesNothing], ["invalidate_caches"]⟩,
    ⟨.routine, [.settable, .withheld], ["find_loader"]⟩]),
  ("importlib.abc", [
    ⟨.module, [.withheld], ["abc machinery warnings"]⟩,
    ⟨.type, [.settable, .base], [
      "ExecutionLoader FileLoader Finder InspectLoader ResourceLoader ResourceReader",
      "SourceLoader Traversable TraversableResources"]⟩,
    ⟨.type, [.settable, .base, .madePlain, .takesNothing], [
      "Loader MetaPathFinder PathEntryFinder"]⟩]),
  ("importlib.machinery", [
    ⟨.routine, [.settable, .takesNothing], ["all_suffixes"]⟩,
    ⟨.type, [.settable, .base], ["FileFinder NamespaceLoader"]⟩,
    ⟨.type, [.settable, .base, .madePlain, .takesNothing], [
      "BuiltinImporter FrozenImporter PathFinder WindowsRegistryFinder"]⟩,
    ⟨.type, [.settable, .base, .madeWithTwo, .takesTwo], [
      "ExtensionFileLoader ModuleSpec SourceFileLoader SourcelessFileLoader"]⟩,
    ⟨.value, [.bare], ["EXTENSION_SUFFIXES"]⟩]),
  ("importlib.metadata", [
    ⟨.module, [.withheld], [
      "abc collections csv email functools itertools operator os pathlib posixpath re sys",
      "textwrap warnings zipfile"]⟩,
    ⟨.routine, [.settable], ["distribution files metadata requires version"]⟩,
    ⟨.routine, [.settable, .takesNumber, .takesList, .takesTwo, .withheld], [
      "method_cache unique_everseen"]⟩,
    ⟨.routine, [.settable, .takesNumber, .takesList, .withheld], ["always_iterable pass_none"]⟩,
    ⟨.routine, [.settable, .takesNothing], ["distributions entry_points packages_distributions"]⟩,
    ⟨.routine, [.settable, .withheld], ["import_module"]⟩,
    ⟨.type, [.base, .withheld], ["starmap"]⟩,
    ⟨.type, [.settable, .base], ["DistributionFinder"]⟩,
    ⟨.type, [.settable, .base, .madePlain, .takesNothing], ["Distribution"]⟩,
    ⟨.type, [.settable, .base, .madePlain, .takesNothing, .withheld], [
      "Deprecated DeprecatedTuple MetaPathFinder MetadataPathFinder PackagePath Sectioned"]⟩,
    ⟨.type, [.settable, .base, .madeWithTwo, .madePlain], ["PackageMetadata"]⟩,
    ⟨.type, [.settable, .base, .madeWithTwo, .madePlain, .withheld], ["SimplePath"]⟩,
    ⟨.type, [.settable, .base, .madeWithTwo, .madePlain,
        .raised, .takesNothing, .takesNumber, .takesList, .takesTwo], ["PackageNotFoundError"]⟩,
    ⟨.type, [.settable, .base, .takesNumber, .takesList, .withheld], ["PathDistribution"]⟩,
    ⟨.type, [.settable, .base, .takesNumber, .withheld], ["FastPath"]⟩,
    ⟨.type, [.settable, .base, .withheld], ["EntryPoint FileHash Lookup Prepared"]⟩,
    ⟨.type, [.settable, .indexed, .base, .madePlain, .takesNothing, .takesList, .withheld], [
      "DeprecatedList EntryPoints"]⟩,
    ⟨.type, [.settable, .indexed, .base, .madePlain, .takesNothing, .withheld], [
      "FreezableDefaultDict SelectableGroups"]⟩,
    ⟨.type, [.settable, .indexed, .base, .madeWithTwo, .madePlain,
        .takesNothing, .takesNumber, .takesList, .takesTwo, .withheld], ["suppress"]⟩,
    ⟨.type, [.settable, .indexed, .base, .takesTwo, .withheld], ["Pair"]⟩,
    ⟨.value, [.bare, .indexed, .withheld], ["Optional Union"]⟩,
    ⟨.value, [.indexed, .base, .madePlain, .withheld], ["List"]⟩,
    ⟨.value, [.settable, .base, .withheld], ["Mapping"]⟩]),
  ("importlib.resources", [
    ⟨.module, [.withheld], ["abc"]⟩,
    ⟨.routine, [.settable], [
      "as_file contents files is_resource open_binary open_text path read_binary read_text"]⟩,
    ⟨.type, [.settable, .base], ["ResourceReader"]⟩,
    ⟨.value, [.bare], ["Package"]⟩]),
  ("importlib.resources.abc", [
    ⟨.module, [.withheld], ["abc io os"]⟩,
    ⟨.routine, [.settable, .withheld], ["runtime_checkable"]⟩,
    ⟨.type, [.settable, .base], ["ResourceReader Traversable TraversableResources"]⟩,
    ⟨.type, [.settable, .base, .madePlain, .takesNothing, .withheld], ["BinaryIO Protocol"]⟩,
    ⟨.type, [.settable, .base, .madePlain, .withheld], ["Any"]⟩,
    ⟨.value, [.bare, .indexed, .withheld], ["Optional Union"]⟩,
    ⟨.value, [.bare, .withheld], ["NoReturn StrPath"]⟩,
    ⟨.value, [.settable, .indexed, .base, .withheld], ["Iterable Iterator"]⟩]),
  ("importlib.util", [
    ⟨.module, [], ["functools sys threading types warnings"]⟩,
    ⟨.routine, [.settable], [
      "cache_from_source decode_source find_spec module_from_spec resolve_name",
      "source_from_cache source_hash"]⟩,
    ⟨.routine, [.settable, .takesNumber, .takesList], [
      "contextmanager module_for_loader set_loader set_package spec_from_file_location"]⟩,
    ⟨.routine, [.settable, .takesTwo], ["spec_from_loader"]⟩,
    ⟨.type, [.settable, .base], ["LazyLoader"]⟩,
    ⟨.type, [.settable, .base, .madePlain, .takesNothing], ["Loader"]⟩,
    ⟨.value, [.bare], ["MAGIC_NUMBER"]⟩]),
  ("imp", [
    ⟨.module, [], ["importlib machinery os sys tokenize types util warnings"]⟩,
    ⟨.routine, [.bare], [
      "create_dynamic get_frozen_object init_frozen is_builtin is_frozen is_frozen_package",
      "release_lock"]⟩,
    ⟨.routine, [.bare, .takesNothing], ["acquire_lock lock_held"]⟩,
    ⟨.routine, [.settable], [
      "cache_from_source find_module init_builtin load_compiled load_dynamic load_module",
      "load_package load_source new_module reload source_from_cache"]⟩,
    ⟨.routine, [.settable, .takesNothing], ["get_magic get_suffixes get_tag"]⟩,
    ⟨.type, [.settable, .base, .madeWithTwo, .takesTwo], ["SourcelessFileLoader"]⟩,
    ⟨.type, [.settable, .base, .takesNumber], ["NullImporter"]⟩]),
  ("pydoc", [
    ⟨.module, [.withheld], [
      "builtins importlib inspect io os pkgutil platform re sys sysconfig time tokenize urllib",
      "warnings"]⟩,
    ⟨.routine, [.settable, .takesNumber, .takesList, .takesTwo, .withheld], ["resolve"]⟩,
    ⟨.routine, [.settable, .takesNumber, .takesList, .withheld], [
      "describe doc getdoc isdata ispath render_doc replace"]⟩,
    ⟨.routine, [.settable, .takesNumber, .withheld], ["ispackage"]⟩,
    ⟨.routine, [.settable, .takesNothing, .takesNumber, .withheld], ["browse"]⟩,
    ⟨.routine, [.settable, .takesNothing, .withheld], ["getpager pathdirs"]⟩,
    ⟨.routine, [.settable, .takesTwo, .withheld], ["classname parentname writedoc"]⟩,
    ⟨.routine, [.settable, .withheld], [
      "allmethods apropos classify_class_attrs cli cram format_exception_only importfile locate",
      "pager pipepager plain plainpager safeimport sort_attributes source_synopsis splitdoc",
      "stripid synopsis tempfilepager ttypager visiblename writedocs"]⟩,
    ⟨.type, [.indexed, .base, .madePlain, .takesNothing, .takesList, .withheld], ["deque"]⟩,
    ⟨.type, [.settable, .base, .madePlain, .takesNothing, .withheld], [
      "Doc HTMLDoc HTMLRepr ModuleScanner Repr TextDoc TextRepr"]⟩,
    ⟨.type, [.settable, .base, .madeWithTwo, .madePlain,
        .takesNothing, .takesNumber, .takesList, .takesTwo, .withheld], ["Helper"]⟩,
    ⟨.type, [.settable, .base, .raised, .withheld], ["ErrorDuringImport"]⟩,
    ⟨.value, [.settable, .takesNothing, .takesNumber, .takesList], ["help"]⟩,
    ⟨.value, [.settable, .withheld], ["html plaintext text"]⟩]),
  ("doctest", [
    ⟨.module, [.withheld], ["difflib inspect linecache os pdb re sys traceback unittest"]⟩,
    ⟨.routine, [.settable], [
      "debug debug_src run_docstring_examples script_from_examples set_unittest_reportflags",
      "testfile testsource"]⟩,
    ⟨.routine, [.settable, .takesNumber], ["register_optionflag"]⟩,
    ⟨.routine, [.settable, .takesNumber, .takesTwo, .withheld], ["debug_script"]⟩,
    ⟨.routine, [.settable, .takesNothing], ["DocFileSuite DocTestSuite testmod"]⟩,
    ⟨.routine, [.settable, .withheld], ["DocFileTest namedtuple"]⟩,
    ⟨.type, [.base, .madeWithTwo, .madePlain, .takesNothing, .withheld], ["StringIO"]⟩,
    ⟨.type, [.base, .withheld], ["IncrementalNewlineDecoder"]⟩,
    ⟨.type, [.settable, .base], ["DocTest Example"]⟩,
    ⟨.type, [.settable, .base, .madePlain, .takesNothing], ["DocTestParser OutputChecker"]⟩,
    ⟨.type, [.settable, .base, .madeWithTwo, .madePlain,
        .takesNothing, .takesNumber, .takesList, .takesTwo], [
      "DebugRunner DocTestFinder DocTestRunner"]⟩,
    ⟨.type, [.settable, .base, .madeWithTwo, .takesNumber, .takesList, .takesTwo, .withheld], [
      "DocFileCase DocTestCase"]⟩,
    ⟨.type, [.settable, .base, .takesNumber, .takesList, .withheld], ["SkipDocTestCase"]⟩,
    ⟨.type, [.settable, .base, .raised], ["DocTestFailure UnexpectedException"]⟩,
    ⟨.type, [.settable, .indexed, .base, .takesTwo, .withheld], ["TestResults"]⟩,
    ⟨.value, [.bare, .withheld], ["OPTIONFLAGS_BY_NAME"]⟩]),
  ("unittest", [
    ⟨.module, [.withheld], ["case loader result runner signals suite util"]⟩,
    ⟨.routine, [.settable], [
      "enterModuleContext expectedFailure getTestCaseNames makeSuite registerResult",
      "removeResult"]⟩,
    ⟨.routine, [.settable, .takesNumber, .takesList], ["skip"]⟩,
    ⟨.routine, [.settable, .takesNumber, .takesList, .takesTwo], [
      "addModuleCleanup findTestCases"]⟩,
    ⟨.routine, [.settable, .takesNothing], ["doModuleCleanups installHandler"]⟩,
    ⟨.routine, [.settable, .takesNothing, .takesNumber, .takesList], ["removeHandler"]⟩,
    ⟨.routine, [.settable, .takesTwo], ["skipIf skipUnless"]⟩,
    ⟨.routine, [.settable, .withheld], ["load_tests"]⟩,
    ⟨.type, [.settable, .base], ["TextTestResult main"]⟩,
    ⟨.type, [.settable, .base, .madePlain, .takesNothing], ["TestCase TestLoader TestSuite"]⟩,
    ⟨.type, [.settable, .base, .madePlain, .takesNothing, .withheld], ["BaseTestSuite"]⟩,
    ⟨.type, [.settable, .base, .madeWithTwo, .madePlain,
        .takesNothing, .takesNumber, .takesList, .takesTwo], ["TestResult TextTestRunner"]⟩,
    ⟨.type, [.settable, .base, .madeWithTwo, .madePlain,
        .raised, .takesNothing, .takesNumber, .takesList, .takesTwo], ["SkipTest"]⟩,
    ⟨.type, [.settable, .base, .madeWithTwo, .takesNumber, .takesList, .takesTwo], [
      "FunctionTestCase"]⟩,
    ⟨.type, [.settable, .base, .withheld], ["TestProgram"]⟩,
    ⟨.value, [.settable], ["defaultTestLoader"]⟩]),
  ("unittest.async_case", [
    ⟨.module, [], ["asyncio contextvars inspect warnings"]⟩,
    ⟨.type, [.settable, .base, .madePlain, .takesNothing], ["IsolatedAsyncioTestCase TestCase"]⟩]),
  ("unittest.case", [
    ⟨.module, [], [
      "collections contextlib difflib functools pprint re result sys traceback types warnings"]⟩,
    ⟨.routine, [.settable], ["enterModuleContext expectedFailure strclass"]⟩,
    ⟨.routine, [.settable, .takesNumber, .takesList], ["skip"]⟩,
    ⟨.routine, [.settable, .takesNumber, .takesList, .takesTwo], ["addModuleCleanup safe_repr"]⟩,
    ⟨.routine, [.settable, .takesNothing], ["doModuleCleanups"]⟩,
    ⟨.routine, [.settable, .takesTwo], ["skipIf skipUnless"]⟩,
    ⟨.type, [.settable, .base, .madePlain, .takesNothing], ["TestCase"]⟩,
    ⟨.type, [.settable, .base, .madeWithTwo, .madePlain,
        .raised, .takesNothing, .takesNumber, .takesList, .takesTwo], ["SkipTest"]⟩,
    ⟨.type, [.settable, .base, .madeWithTwo, .takesNumber, .takesList, .takesTwo], [
      "FunctionTestCase"]⟩]),
  ("unittest.loader", [
    ⟨.module, [], ["case functools os re suite sys traceback types util warnings"]⟩,
    ⟨.routine, [.settable], ["fnmatch fnmatchcase getTestCaseNames makeSuite"]⟩,
    ⟨.routine, [.settable, .takesNumber, .takesList, .takesTwo], ["findTestCases"]⟩,
    ⟨.type, [.settable, .base, .madePlain, .takesNothing], ["TestLoader"]⟩,
    ⟨.value, [.bare], ["VALID_MODULE_NAME"]⟩,
    ⟨.value, [.settable], ["defaultTestLoader"]⟩]),
  ("unittest.main", [
    ⟨.module, [], ["argparse loader os runner sys warnings"]⟩,
    ⟨.routine, [.settable, .takesNothing], ["installHandler"]⟩,
    ⟨.type, [.settable, .base], ["TestProgram main"]⟩,
    ⟨.value, [.bare], ["MAIN_EXAMPLES MODULE_EXAMPLES"]⟩]),
  ("unittest.mock", [
    ⟨.module, [.withheld], ["asyncio builtins contextlib inspect io pkgutil pprint sys"]⟩,
    ⟨.routine, [.settable], ["patch seal"]⟩,
    ⟨.routine, [.settable, .takesNumber, .takesList, .takesTwo], ["create_autospec"]⟩,
    ⟨.routine, [.settable, .takesNumber, .takesList, .takesTwo, .withheld], ["safe_repr wraps"]⟩,
    ⟨.routine, [.settable, .takesNumber, .takesList, .withheld], ["iscoroutinefunction"]⟩,
    ⟨.routine, [.settable, .takesNothing], ["mock_open"]⟩,
    ⟨.routine, [.settable, .takesNothing, .takesNumber, .takesList, .takesTwo, .withheld], [
      "RLock"]⟩,
    ⟨.type, [.takesTwo, .withheld], ["MethodType"]⟩,
    ⟨.type, [.base, .withheld], ["ModuleType"]⟩,
    ⟨.type, [.indexed, .base, .takesTwo, .withheld], ["partial"]⟩,
    ⟨.type, [.settable, .base, .madeWithTwo, .madePlain,
        .takesNothing, .takesNumber, .takesList, .takesTwo], ["Mock NonCallableMock PropertyMock"]⟩,
    ⟨.type, [.settable, .base, .madeWithTwo, .madePlain,
        .takesNothing, .takesNumber, .takesList, .takesTwo, .withheld], [
      "AsyncMagicMixin AsyncMockMixin Base CallableMixin MagicMixin"]⟩,
    ⟨.type, [.settable, .base, .madeWithTwo, .madePlain, .takesNothing, .takesNumber, .takesTwo], [
      "AsyncMock MagicMock NonCallableMagicMock"]⟩,
    ⟨.type, [.settable, .base, .madeWithTwo, .madePlain, .raised,
        .takesNothing, .takesNumber, .takesList, .takesTwo, .withheld], ["InvalidSpecError"]⟩,
    ⟨.type, [.settable, .base, .madeWithTwo, .takesTwo, .withheld], ["MagicProxy"]⟩,
    ⟨.type, [.withheld], ["CodeType"]⟩,
    ⟨.value, [.bare, .withheld], ["FunctionTypes magic_methods"]⟩,
    ⟨.value, [.settable], ["ANY DEFAULT sentinel"]⟩,
    ⟨.value, [.settable, .takesNothing, .takesNumber, .takesList, .takesTwo], ["call"]⟩]),
  ("unittest.result", [
    ⟨.module, [], ["io sys traceback util"]⟩,
    ⟨.routine, [.settable, .takesNumber, .takesList], ["failfast"]⟩,
    ⟨.routine, [.settable, .takesNumber, .takesList, .takesTwo], ["wraps"]⟩,
    ⟨.type, [.settable, .base, .madeWithTwo, .madePlain,
        .takesNothing, .takesNumber, .takesList, .takesTwo], ["TestResult"]⟩]),
  ("unittest.runner", [
    ⟨.module, [], ["result sys time warnings"]⟩,
    ⟨.routine, [.settable], ["registerResult"]⟩,
    ⟨.type, [.settable, .base], ["TextTestResult"]⟩,
    ⟨.type, [.settable, .base, .madeWithTwo, .madePlain,
        .takesNothing, .takesNumber, .takesList, .takesTwo], ["TextTestRunner"]⟩]),
  ("unittest.signals", [
    ⟨.module, [], ["signal weakref"]⟩,
    ⟨.routine, [.settable], ["registerResult removeResult"]⟩,
    ⟨.routine, [.settable, .takesNumber, .takesList, .takesTwo], ["wraps"]⟩,
    ⟨.routine, [.settable, .takesNothing], ["installHandler"]⟩,
    ⟨.routine, [.settable, .takesNothing, .takesNumber, .takesList], ["removeHandler"]⟩]),
  ("unittest.suite", [
    ⟨.module, [], ["case sys util"]⟩,
    ⟨.type, [.settable, .base, .madePlain, .takesNothing], ["BaseTestSuite TestSuite"]⟩]),
  ("unittest.util", [
    ⟨.routine, [.settable], [
      "commonprefix namedtuple sorted_list_difference strclass three_way_cmp",
      "unorderable_list_difference"]⟩,
    ⟨.routine, [.settable, .takesNumber, .takesList, .takesTwo], ["safe_repr"]⟩,
    ⟨.type, [.settable, .indexed, .base, .madePlain, .takesNothing], ["Counter"]⟩]),
  ("bdb", [
    ⟨.module, [.withheld], ["fnmatch os sys"]⟩,
    ⟨.routine, [.settable, .takesNumber, .withheld], ["bar foo"]⟩,
    ⟨.routine, [.settable, .takesNothing, .withheld], ["set_trace test"]⟩,
    ⟨.routine, [.settable, .withheld], ["checkfuncname effective"]⟩,
    ⟨.type, [.settable, .base, .madePlain, .takesNothing], ["Bdb"]⟩,
    ⟨.type, [.settable, .base, .madePlain, .takesNothing, .withheld], ["Tdb"]⟩,
    ⟨.type, [.settable, .base, .madeWithTwo], ["Breakpoint"]⟩,
    ⟨.type, [.settable, .base, .madeWithTwo, .madePlain,
        .raised, .takesNothing, .takesNumber, .takesList, .takesTwo], ["BdbQuit"]⟩]),
  ("faulthandler", [
    ⟨.routine, [.bare, .takesNumber], ["dump_traceback_later register unregister"]⟩,
    ⟨.routine, [.bare, .takesNothing], ["cancel_dump_traceback_later disable is_enabled"]⟩,
    ⟨.routine, [.bare, .takesNothing, .takesNumber], ["dump_traceback enable"]⟩]),
  ("pdb", [
    ⟨.module, [.withheld], [
      "bdb cmd code dis functools glob inspect io linecache os pprint re signal sys tokenize",
      "traceback"]⟩,
    ⟨.routine, [.settable], ["pm post_mortem run runcall runctx runeval set_trace"]⟩,
    ⟨.routine, [.settable, .takesNothing], ["help"]⟩,
    ⟨.routine, [.settable, .takesNothing, .withheld], ["test"]⟩,
    ⟨.routine, [.settable, .withheld], ["find_function lasti2lineno main"]⟩,
    ⟨.type, [.settable, .base, .madeWithTwo, .madePlain,
        .takesNothing, .takesNumber, .takesList, .takesTwo], ["Pdb"]⟩,
    ⟨.type, [.settable, .base, .madeWithTwo, .madePlain, .raised,
        .takesNothing, .takesNumber, .takesList, .takesTwo, .withheld], ["Restart"]⟩,
    ⟨.value, [.bare, .indexed, .withheld], ["Union"]⟩]),
  ("timeit", [
    ⟨.module, [.withheld], ["gc itertools sys time"]⟩,
    ⟨.routine, [.bare, .takesNothing], ["default_timer"]⟩,
    ⟨.routine, [.settable, .takesNothing], ["repeat timeit"]⟩,
    ⟨.routine, [.settable, .takesNothing, .withheld], ["main"]⟩,
    ⟨.routine, [.settable, .withheld], ["reindent"]⟩,
    ⟨.type, [.settable, .base, .madePlain, .takesNothing], ["Timer"]⟩,
    ⟨.value, [.bare, .withheld], ["template"]⟩]),
  ("trace", [
    ⟨.module, [.withheld], [
      "dis gc inspect io linecache os pickle sys sysconfig threading token tokenize"]⟩,
    ⟨.routine, [.settable, .withheld], ["main"]⟩,
    ⟨.type, [.settable, .base, .madeWithTwo, .madePlain,
        .takesNothing, .takesNumber, .takesList, .takesTwo], ["Trace"]⟩,
    ⟨.type, [.settable, .base, .madeWithTwo, .madePlain, .takesNothing, .takesList], [
      "CoverageResults"]⟩]),
  ("tracemalloc", [
    ⟨.module, [], ["fnmatch linecache os pickle"]⟩,
    ⟨.routine, [.bare, .takesNothing], [
      "clear_traces get_traceback_limit get_traced_memory get_tracemalloc_memory is_tracing",
      "reset_peak stop"]⟩,
    ⟨.routine, [.bare, .takesNothing, .takesNumber], ["start"]⟩,
    ⟨.routine, [.settable], ["take_snapshot"]⟩,
    ⟨.routine, [.settable, .takesNumber, .takesList], ["get_object_traceback total_ordering"]⟩,
    ⟨.type, [.settable, .base], ["Filter Statistic StatisticDiff"]⟩,
    ⟨.type, [.settable, .base, .madeWithTwo, .takesTwo], ["DomainFilter Snapshot"]⟩,
    ⟨.type, [.settable, .base, .takesNumber, .takesList], ["BaseFilter Frame Trace"]⟩,
    ⟨.type, [.settable, .indexed, .base], ["Iterable Sequence"]⟩,
    ⟨.type, [.settable, .indexed, .base, .takesList], ["Traceback"]⟩]),
  ("profile", [
    ⟨.module, [.withheld], ["io marshal sys time"]⟩,
    ⟨.routine, [.settable], ["run runctx"]⟩,
    ⟨.routine, [.settable, .withheld], ["main"]⟩,
    ⟨.type, [.settable, .base, .madeWithTwo, .madePlain, .takesNothing, .takesTwo], ["Profile"]⟩]),
  ("pstats", [
    ⟨.module, [.withheld], ["marshal os re sys time"]⟩,
    ⟨.routine, [.bare, .takesNumber, .takesList, .withheld], ["cmp_to_key"]⟩,
    ⟨.routine, [.settable, .takesNumber, .withheld], ["f8"]⟩,
    ⟨.routine, [.settable, .takesNothing, .withheld], ["dataclass"]⟩,
    ⟨.routine, [.settable, .withheld], [
      "add_callers add_func_stats count_calls func_get_function_name func_std_string",
      "func_strip_path"]⟩,
    ⟨.type, [.settable], ["SortKey"]⟩,
    ⟨.type, [.settable, .base], ["FunctionProfile"]⟩,
    ⟨.type, [.settable, .base, .madeWithTwo, .madePlain, .takesNothing], ["Stats"]⟩,
    ⟨.type, [.settable, .base, .madeWithTwo, .takesTwo], ["StatsProfile"]⟩,
    ⟨.type, [.settable, .base, .takesNumber, .takesList, .withheld], ["TupleComp"]⟩,
    ⟨.type, [.settable, .base, .withheld], ["StrEnum"]⟩,
    ⟨.value, [.base, .madePlain, .withheld], ["Dict"]⟩]),
  ("cProfile", [
    ⟨.module, [.withheld], ["io"]⟩,
    ⟨.routine, [.settable], ["run runctx"]⟩,
    ⟨.routine, [.settable, .withheld], ["label main"]⟩,
    ⟨.type, [.settable, .base, .madePlain, .takesNothing, .takesNumber, .takesList], ["Profile"]⟩]),
  ("venv", [
    ⟨.module, [], ["logging os shutil subprocess sys sysconfig types"]⟩,
    ⟨.routine, [.settable], ["create main"]⟩,
    ⟨.type, [.settable, .base, .madeWithTwo, .madePlain,
        .takesNothing, .takesNumber, .takesList, .takesTwo], ["EnvBuilder"]⟩,
    ⟨.value, [.settable], ["logger"]⟩]),
  ("distutils", [
    ⟨.module, [], [
      "archive_util cmd command compat config core debug dir_util dist errors extension",
      "fancy_getopt file_util filelist importlib log spawn sys util"]⟩])]

end LalrBackend.Code
