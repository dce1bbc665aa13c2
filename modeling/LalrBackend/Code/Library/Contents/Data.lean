import LalrBackend.Code.Library.Entry

/-!
# Modules for data types and containers

What these standard modules provide, by kind. Plain values stand apart.
-/

namespace LalrBackend.Code

/-- The contents of the modules for data types and containers. -/
def dataContents : List (String × List Family) := [
  ("datetime", [
    ⟨.module, [.withheld], ["sys"]⟩,
    ⟨.type, [], ["timezone"]⟩,
    ⟨.type, [.base], ["date datetime"]⟩,
    ⟨.type, [.base, .madePlain, .takesNothing, .takesNumber], ["time timedelta"]⟩,
    ⟨.type, [.base, .madePlain, .takesNothing, .takesNumber, .takesList, .takesTwo], ["tzinfo"]⟩,
    ⟨.value, [.bare], ["UTC"]⟩,
    ⟨.value, [.bare, .withheld], ["datetime_CAPI"]⟩]),
  ("zoneinfo", [
    ⟨.routine, [.settable, .takesNothing], ["available_timezones reset_tzpath"]⟩,
    ⟨.type, [.base], ["ZoneInfo"]⟩,
    ⟨.type, [.settable, .base, .madeWithTwo, .madePlain,
        .raised, .takesNothing, .takesNumber, .takesList, .takesTwo], [
      "InvalidTZPathWarning ZoneInfoNotFoundError"]⟩]),
  ("calendar", [
    ⟨.module, [.withheld], ["datetime sys"]⟩,
    ⟨.routine, [.bare], ["month monthcalendar prmonth"]⟩,
    ⟨.routine, [.bare, .takesNumber], ["calendar prcal weekheader"]⟩,
    ⟨.routine, [.bare, .takesNothing], ["firstweekday"]⟩,
    ⟨.routine, [.bare, .withheld], ["prweek week"]⟩,
    ⟨.routine, [.settable], ["leapdays monthrange timegm weekday"]⟩,
    ⟨.routine, [.settable, .takesNumber], ["isleap setfirstweekday"]⟩,
    ⟨.routine, [.settable, .withheld], ["format formatstring main"]⟩,
    ⟨.type, [.base, .takesNumber, .takesList, .withheld], ["repeat"]⟩,
    ⟨.type, [.settable, .base, .madePlain, .takesNothing, .takesNumber, .takesList], [
      "Calendar HTMLCalendar TextCalendar"]⟩,
    ⟨.type, [.settable, .base, .madeWithTwo, .madePlain,
        .takesNothing, .takesNumber, .takesList, .takesTwo], [
      "LocaleHTMLCalendar LocaleTextCalendar"]⟩,
    ⟨.type, [.settable, .base, .takesNumber, .takesList, .withheld], ["different_locale"]⟩,
    ⟨.type, [.settable, .base, .raised, .takesNumber, .takesList], [
      "IllegalMonthError IllegalWeekdayError"]⟩,
    ⟨.value, [.bare, .withheld], ["mdays"]⟩,
    ⟨.value, [.settable], ["day_abbr day_name month_abbr month_name"]⟩,
    ⟨.value, [.settable, .withheld], ["c"]⟩]),
  ("collections", [
    ⟨.module, [.withheld], ["abc"]⟩,
    ⟨.routine, [.settable], ["namedtuple"]⟩,
    ⟨.type, [.indexed, .base, .madePlain, .takesNothing], ["OrderedDict defaultdict"]⟩,
    ⟨.type, [.indexed, .base, .madePlain, .takesNothing, .takesList], ["deque"]⟩,
    ⟨.type, [.settable, .indexed, .base, .madePlain, .takesNothing], ["Counter UserDict"]⟩,
    ⟨.type, [.settable, .indexed, .base, .madePlain, .takesNothing, .takesList], ["UserList"]⟩,
    ⟨.type, [.settable, .indexed, .base, .madeWithTwo,
        .madePlain, .takesNothing, .takesNumber, .takesList, .takesTwo], ["ChainMap"]⟩,
    ⟨.type, [.settable, .indexed, .base, .takesNumber, .takesList], ["UserString"]⟩]),
  ("collections.abc", [
    ⟨.type, [.settable, .base], ["Callable Hashable Sized"]⟩,
    ⟨.type, [.settable, .indexed, .base], [
      "AsyncGenerator AsyncIterable AsyncIterator Awaitable ByteString Collection Container",
      "Coroutine Generator Iterable Iterator Mapping MutableMapping MutableSequence MutableSet",
      "Reversible Sequence Set"]⟩,
    ⟨.type, [.settable, .indexed, .base, .takesNumber, .takesList], [
      "ItemsView KeysView MappingView ValuesView"]⟩]),
  ("heapq", [
    ⟨.routine, [.bare], ["heapify heappush heappushpop heapreplace"]⟩,
    ⟨.routine, [.bare, .takesList], ["heappop"]⟩,
    ⟨.routine, [.settable], ["nlargest nsmallest"]⟩,
    ⟨.routine, [.settable, .takesNothing, .takesNumber, .takesList, .takesTwo], ["merge"]⟩]),
  ("bisect", [
    ⟨.routine, [.bare], ["bisect bisect_left bisect_right insort insort_left insort_right"]⟩]),
  ("array", [
    ⟨.type, [.base], ["ArrayType array"]⟩]),
  ("weakref", [
    ⟨.module, [.withheld], ["itertools sys"]⟩,
    ⟨.routine, [.bare, .takesNumber, .takesList], ["getweakrefcount getweakrefs"]⟩,
    ⟨.routine, [.bare, .takesTwo], ["proxy"]⟩,
    ⟨.type, [], ["CallableProxyType ProxyType"]⟩,
    ⟨.type, [.indexed, .base, .takesTwo], ["ReferenceType ref"]⟩,
    ⟨.type, [.settable, .base, .takesTwo], ["finalize"]⟩,
    ⟨.type, [.settable, .indexed, .base], ["WeakMethod"]⟩,
    ⟨.type, [.settable, .indexed, .base, .madePlain, .takesNothing], [
      "WeakKeyDictionary WeakSet WeakValueDictionary"]⟩,
    ⟨.type, [.settable, .indexed, .base, .withheld], ["KeyedRef"]⟩,
    ⟨.value, [.bare], ["ProxyTypes"]⟩]),
  ("types", [
    ⟨.routine, [.settable], ["coroutine new_class"]⟩,
    ⟨.routine, [.settable, .takesNumber, .takesList], ["prepare_class"]⟩,
    ⟨.routine, [.settable, .takesList], ["resolve_bases"]⟩,
    ⟨.type, [], [
      "BuiltinFunctionType BuiltinMethodType ClassMethodDescriptorType CodeType CoroutineType",
      "FrameType FunctionType GeneratorType GetSetDescriptorType LambdaType",
      "MemberDescriptorType MethodDescriptorType MethodWrapperType TracebackType UnionType",
      "WrapperDescriptorType"]⟩,
    ⟨.type, [.takesNothing], ["EllipsisType NoneType NotImplementedType"]⟩,
    ⟨.type, [.takesNothing, .takesNumber, .takesList], ["CellType"]⟩,
    ⟨.type, [.takesTwo], ["MethodType"]⟩,
    ⟨.type, [.base], ["ModuleType"]⟩,
    ⟨.type, [.base, .madePlain, .takesNothing], ["SimpleNamespace"]⟩,
    ⟨.type, [.base, .takesTwo], ["GenericAlias"]⟩,
    ⟨.type, [.indexed], ["AsyncGeneratorType MappingProxyType"]⟩,
    ⟨.type, [.settable, .base, .madeWithTwo, .madePlain,
        .takesNothing, .takesNumber, .takesList, .takesTwo], ["DynamicClassAttribute"]⟩]),
  ("copy", [
    ⟨.routine, [.settable, .takesNumber, .takesList], ["copy deepcopy"]⟩,
    ⟨.type, [.settable, .base, .madeWithTwo, .madePlain,
        .raised, .takesNothing, .takesNumber, .takesList, .takesTwo], ["Error"]⟩,
    ⟨.type, [.settable, .base, .madeWithTwo, .madePlain, .raised,
        .takesNothing, .takesNumber, .takesList, .takesTwo, .withheld], ["error"]⟩,
    ⟨.value, [.bare, .withheld], ["dispatch_table"]⟩]),
  ("pprint", [
    ⟨.module, [.withheld], ["re"]⟩,
    ⟨.routine, [.settable, .takesNumber, .takesList], [
      "isreadable isrecursive pformat pp pprint saferepr"]⟩,
    ⟨.type, [.settable, .base, .madePlain, .takesNothing, .takesNumber], ["PrettyPrinter"]⟩]),
  ("reprlib", [
    ⟨.module, [.withheld], ["builtins"]⟩,
    ⟨.routine, [.bare, .takesNumber, .takesList], ["repr"]⟩,
    ⟨.routine, [.bare, .takesNothing, .withheld], ["get_ident"]⟩,
    ⟨.routine, [.settable, .takesNothing, .takesNumber, .takesList], ["recursive_repr"]⟩,
    ⟨.type, [.base, .withheld], ["islice"]⟩,
    ⟨.type, [.settable, .base, .madePlain, .takesNothing], ["Repr"]⟩,
    ⟨.value, [.settable, .withheld], ["aRepr"]⟩]),
  ("enum", [
    ⟨.module, [.withheld], ["bltns sys"]⟩,
    ⟨.routine, [.bare, .withheld], ["reduce"]⟩,
    ⟨.routine, [.settable], [
      "global_enum global_enum_repr global_flag_repr global_str pickle_by_enum_name",
      "pickle_by_global_name unique"]⟩,
    ⟨.routine, [.settable, .takesNumber, .withheld], ["bin show_flag_values"]⟩,
    ⟨.type, [.indexed, .withheld], ["MappingProxyType"]⟩,
    ⟨.type, [.settable], ["EnumCheck FlagBoundary ReprEnum"]⟩,
    ⟨.type, [.settable, .base], ["Enum EnumMeta EnumType Flag IntEnum IntFlag StrEnum"]⟩,
    ⟨.type, [.settable, .base, .madePlain, .takesNothing, .takesNumber, .takesList], ["auto"]⟩,
    ⟨.type, [.settable, .base, .madeWithTwo, .madePlain,
        .takesNothing, .takesNumber, .takesList, .takesTwo], ["property verify"]⟩,
    ⟨.type, [.settable, .base, .madeWithTwo, .madePlain,
        .takesNothing, .takesNumber, .takesList, .takesTwo, .withheld], ["DynamicClassAttribute"]⟩,
    ⟨.type, [.settable, .base, .takesNumber, .takesList], ["member nonmember"]⟩,
    ⟨.value, [.settable], ["CONFORM CONTINUOUS EJECT KEEP NAMED_FLAGS STRICT UNIQUE"]⟩]),
  ("graphlib", [
    ⟨.type, [.base, .takesTwo, .withheld], ["GenericAlias"]⟩,
    ⟨.type, [.settable, .base, .madeWithTwo, .madePlain,
        .raised, .takesNothing, .takesNumber, .takesList, .takesTwo], ["CycleError"]⟩,
    ⟨.type, [.settable, .indexed, .base, .madePlain, .takesNothing], ["TopologicalSorter"]⟩])]

end LalrBackend.Code
