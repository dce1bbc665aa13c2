import LalrBackend.Code.Library.Entry

/-!
# Modules for texts and their reading

What these standard modules provide, by kind. Plain values stand apart.
-/

namespace LalrBackend.Code

/-- The contents of the modules for texts and their reading. -/
def textContents : List (String × List Family) := [
  ("string", [
    ⟨.routine, [.settable], ["capwords"]⟩,
    ⟨.type, [.settable, .base, .madePlain, .takesNothing], ["Formatter"]⟩,
    ⟨.type, [.settable, .base, .takesNumber, .takesList], ["Template"]⟩]),
  ("re", [
    ⟨.module, [.withheld], ["copyreg enum functools"]⟩,
    ⟨.routine, [.settable], [
      "compile escape findall finditer fullmatch match search split sub subn template"]⟩,
    ⟨.routine, [.settable, .takesNothing], ["purge"]⟩,
    ⟨.type, [.indexed], ["Match Pattern"]⟩,
    ⟨.type, [.settable, .takesNumber], ["RegexFlag"]⟩,
    ⟨.type, [.settable, .base, .madeWithTwo, .raised, .takesNumber, .takesList, .takesTwo], [
      "error"]⟩,
    ⟨.type, [.settable, .base, .withheld], ["Scanner"]⟩,
    ⟨.value, [.settable], [
      "A ASCII DOTALL I IGNORECASE L LOCALE M MULTILINE NOFLAG S U UNICODE VERBOSE X"]⟩,
    ⟨.value, [.settable, .withheld], ["DEBUG T TEMPLATE"]⟩]),
  ("difflib", [
    ⟨.routine, [.settable], ["IS_CHARACTER_JUNK IS_LINE_JUNK diff_bytes get_close_matches"]⟩,
    ⟨.routine, [.settable, .takesTwo], ["context_diff ndiff restore unified_diff"]⟩,
    ⟨.type, [.base, .takesTwo, .withheld], ["GenericAlias"]⟩,
    ⟨.type, [.settable, .base, .madeWithTwo, .madePlain,
        .takesNothing, .takesNumber, .takesList, .takesTwo], ["Differ HtmlDiff"]⟩,
    ⟨.type, [.settable, .indexed, .base], ["Match"]⟩,
    ⟨.type, [.settable, .indexed, .base, .madeWithTwo,
        .madePlain, .takesNothing, .takesNumber, .takesList, .takesTwo], ["SequenceMatcher"]⟩]),
  ("textwrap", [
    ⟨.module, [.withheld], ["re"]⟩,
    ⟨.routine, [.settable], ["dedent fill indent shorten wrap"]⟩,
    ⟨.type, [.settable, .base, .madeWithTwo, .madePlain,
        .takesNothing, .takesNumber, .takesList, .takesTwo], ["TextWrapper"]⟩]),
  ("unicodedata", [
    ⟨.routine, [.bare], [
      "bidirectional category combining decimal decomposition digit east_asian_width",
      "is_normalized lookup mirrored name normalize numeric"]⟩,
    ⟨.type, [], ["UCD"]⟩,
    ⟨.value, [.bare], ["ucd_3_2_0"]⟩]),
  ("stringprep", [
    ⟨.routine, [.settable], [
      "in_table_a1 in_table_b1 in_table_c11_c12 in_table_c12 in_table_c21 in_table_c21_c22",
      "in_table_c22 in_table_c3 in_table_c4 in_table_c5 in_table_c6 in_table_c7 in_table_c8",
      "in_table_c9 in_table_d1 in_table_d2 map_table_b2 map_table_b3"]⟩,
    ⟨.routine, [.settable, .takesNumber, .takesList], ["in_table_c11"]⟩,
    ⟨.value, [.bare], [
      "b1_set b3_exceptions c22_specials c6_set c7_set c8_set c9_set unicodedata"]⟩]),
  ("readline", [
    ⟨.routine, [.bare], [
      "add_history insert_text parse_and_bind read_history_file read_init_file",
      "remove_history_item replace_history_item set_completer_delims"]⟩,
    ⟨.routine, [.bare, .takesNumber], ["append_history_file get_history_item set_history_length"]⟩,
    ⟨.routine, [.bare, .takesNumber, .takesList], ["set_auto_history"]⟩,
    ⟨.routine, [.bare, .takesNothing], [
      "clear_history get_begidx get_completer get_completer_delims get_completion_type",
      "get_current_history_length get_endidx get_history_length get_line_buffer redisplay",
      "set_completer set_completion_display_matches_hook set_pre_input_hook set_startup_hook",
      "write_history_file"]⟩]),
  ("rlcompleter", [
    ⟨.module, [.withheld], ["atexit builtins inspect keyword re readline"]⟩,
    ⟨.routine, [.settable, .takesNumber, .takesList, .withheld], ["get_class_members"]⟩,
    ⟨.type, [.settable, .base, .madePlain, .takesNothing], ["Completer"]⟩]),
  ("struct", [
    ⟨.routine, [.bare], ["calcsize iter_unpack pack pack_into unpack unpack_from"]⟩,
    ⟨.type, [.base], ["Struct"]⟩,
    ⟨.type, [.settable, .base, .madeWithTwo, .madePlain,
        .raised, .takesNothing, .takesNumber, .takesList, .takesTwo], ["error"]⟩]),
  ("codecs", [
    ⟨.module, [.withheld], ["builtins sys"]⟩,
    ⟨.routine, [.bare], [
      "backslashreplace_errors decode encode ignore_errors lookup lookup_error",
      "namereplace_errors register register_error replace_errors strict_errors",
      "xmlcharrefreplace_errors"]⟩,
    ⟨.routine, [.bare, .takesNumber, .takesList, .withheld], ["unregister"]⟩,
    ⟨.routine, [.bare, .withheld], [
      "ascii_decode ascii_encode charmap_build charmap_decode charmap_encode escape_decode",
      "escape_encode latin_1_decode latin_1_encode raw_unicode_escape_decode",
      "raw_unicode_escape_encode readbuffer_encode unicode_escape_decode unicode_escape_encode",
      "utf_16_be_decode utf_16_be_encode utf_16_decode utf_16_encode utf_16_ex_decode",
      "utf_16_le_decode utf_16_le_encode utf_32_be_decode utf_32_be_encode utf_32_decode",
      "utf_32_encode utf_32_ex_decode utf_32_le_decode utf_32_le_encode utf_7_decode",
      "utf_7_encode utf_8_decode utf_8_encode"]⟩,
    ⟨.routine, [.settable], [
      "EncodedFile getdecoder getencoder getincrementaldecoder getincrementalencoder getreader",
      "getwriter"]⟩,
    ⟨.routine, [.settable, .takesNumber], ["open"]⟩,
    ⟨.routine, [.settable, .takesTwo], ["iterdecode iterencode"]⟩,
    ⟨.routine, [.settable, .withheld], ["make_encoding_map make_identity_dict"]⟩,
    ⟨.type, [.settable, .base], ["StreamReaderWriter StreamRecoder"]⟩,
    ⟨.type, [.settable, .base, .madePlain, .takesNothing], ["Codec"]⟩,
    ⟨.type, [.settable, .base, .madePlain, .takesNothing, .takesNumber, .takesList], [
      "IncrementalDecoder IncrementalEncoder"]⟩,
    ⟨.type, [.settable, .base, .madePlain, .takesNothing, .takesNumber, .takesList, .withheld], [
      "BufferedIncrementalDecoder BufferedIncrementalEncoder"]⟩,
    ⟨.type, [.settable, .base, .madeWithTwo, .takesNumber, .takesList, .takesTwo], [
      "StreamReader StreamWriter"]⟩,
    ⟨.type, [.settable, .indexed, .base, .takesTwo], ["CodecInfo"]⟩,
    ⟨.value, [.bare], [
      "BOM BOM32_BE BOM32_LE BOM64_BE BOM64_LE BOM_BE BOM_LE BOM_UTF16 BOM_UTF16_BE",
      "BOM_UTF16_LE BOM_UTF32 BOM_UTF32_BE BOM_UTF32_LE BOM_UTF8"]⟩]),
  ("codeop", [
    ⟨.module, [.withheld], ["warnings"]⟩,
    ⟨.routine, [.settable], ["compile_command"]⟩,
    ⟨.type, [.settable, .base, .madePlain, .takesNothing], ["CommandCompiler Compile"]⟩]),
  ("code", [
    ⟨.module, [.withheld], ["sys traceback"]⟩,
    ⟨.routine, [.settable], ["compile_command"]⟩,
    ⟨.routine, [.settable, .takesNothing, .takesNumber, .takesList], ["interact"]⟩,
    ⟨.type, [.settable, .base, .madePlain, .takesNothing, .takesNumber, .takesList], [
      "InteractiveInterpreter"]⟩,
    ⟨.type, [.settable, .base, .madePlain, .takesNothing, .withheld], ["CommandCompiler"]⟩,
    ⟨.type, [.settable, .base, .madeWithTwo, .madePlain,
        .takesNothing, .takesNumber, .takesList, .takesTwo], ["InteractiveConsole"]⟩]),
  ("cmd", [
    ⟨.module, [.withheld], ["string sys"]⟩,
    ⟨.type, [.settable, .base, .madeWithTwo, .madePlain,
        .takesNothing, .takesNumber, .takesList, .takesTwo], ["Cmd"]⟩]),
  ("shlex", [
    ⟨.module, [.withheld], ["os re sys"]⟩,
    ⟨.routine, [.settable], ["join quote split"]⟩,
    ⟨.type, [.base, .madeWithTwo, .madePlain, .takesNothing, .withheld], ["StringIO"]⟩,
    ⟨.type, [.indexed, .base, .madePlain, .takesNothing, .takesList, .withheld], ["deque"]⟩,
    ⟨.type, [.settable, .base, .madeWithTwo, .madePlain,
        .takesNothing, .takesNumber, .takesList, .takesTwo], ["shlex"]⟩]),
  ("gettext", [
    ⟨.module, [.withheld], ["operator os re sys"]⟩,
    ⟨.routine, [.settable], [
      "Catalog dngettext dnpgettext dpgettext ngettext npgettext translation"]⟩,
    ⟨.routine, [.settable, .takesNumber, .takesList], ["gettext"]⟩,
    ⟨.routine, [.settable, .takesNumber, .takesList, .takesTwo], ["find install"]⟩,
    ⟨.routine, [.settable, .takesNumber, .takesTwo], ["bindtextdomain"]⟩,
    ⟨.routine, [.settable, .takesNothing, .takesNumber, .takesList], ["textdomain"]⟩,
    ⟨.routine, [.settable, .takesTwo], ["dgettext pgettext"]⟩,
    ⟨.routine, [.settable, .withheld], ["c2py"]⟩,
    ⟨.type, [.settable, .base, .madePlain, .takesNothing], ["GNUTranslations"]⟩,
    ⟨.type, [.settable, .base, .madePlain, .takesNothing, .takesNumber, .takesList], [
      "NullTranslations"]⟩]),
  ("locale", [
    ⟨.module, [.withheld], ["encodings functools re sys"]⟩,
    ⟨.routine, [.bare], ["strcoll strxfrm"]⟩,
    ⟨.routine, [.bare, .takesNothing], ["getencoding"]⟩,
    ⟨.routine, [.bare, .withheld], [
      "bind_textdomain_codeset bindtextdomain dcgettext dgettext gettext nl_langinfo textdomain"]⟩,
    ⟨.routine, [.settable], ["atof atoi currency format format_string normalize resetlocale"]⟩,
    ⟨.routine, [.settable, .takesNumber], ["setlocale str"]⟩,
    ⟨.routine, [.settable, .takesList, .withheld], ["localize"]⟩,
    ⟨.routine, [.settable, .takesNothing], ["getdefaultlocale localeconv"]⟩,
    ⟨.routine, [.settable, .takesNothing, .takesNumber], ["getlocale"]⟩,
    ⟨.routine, [.settable, .takesNothing, .takesNumber, .takesList], ["getpreferredencoding"]⟩,
    ⟨.routine, [.settable, .withheld], ["delocalize"]⟩,
    ⟨.type, [.settable, .base, .madeWithTwo, .madePlain,
        .raised, .takesNothing, .takesNumber, .takesList, .takesTwo], ["Error"]⟩,
    ⟨.value, [.bare, .withheld], ["locale_alias locale_encoding_alias windows_locale"]⟩])]

end LalrBackend.Code
