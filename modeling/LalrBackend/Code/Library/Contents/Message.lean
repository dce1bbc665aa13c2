import LalrBackend.Code.Library.Entry

/-!
# Modules for messages and encoded data

What these standard modules provide, by kind. Plain values stand apart.
-/

namespace LalrBackend.Code

/-- The contents of the modules for messages and encoded data. -/
def messageContents : List (String × List Family) := [
  ("email", [
    ⟨.routine, [.settable], [
      "message_from_binary_file message_from_bytes message_from_file message_from_string"]⟩]),
  ("email.base64mime", [
    ⟨.routine, [.bare, .withheld], ["a2b_base64 b2a_base64"]⟩,
    ⟨.routine, [.settable], ["body_decode body_encode decode decodestring header_encode"]⟩,
    ⟨.routine, [.settable, .takesList], ["header_length"]⟩,
    ⟨.routine, [.settable, .withheld], ["b64encode"]⟩]),
  ("email.charset", [
    ⟨.module, [.withheld], ["email errors"]⟩,
    ⟨.routine, [.settable, .takesNumber, .takesTwo], ["add_charset"]⟩,
    ⟨.routine, [.settable, .takesTwo], ["add_alias add_codec"]⟩,
    ⟨.routine, [.settable, .withheld], ["encode_7or8bit"]⟩,
    ⟨.type, [.indexed, .base, .takesTwo, .withheld], ["partial"]⟩,
    ⟨.type, [.settable, .base, .madePlain, .takesNothing], ["Charset"]⟩,
    ⟨.value, [.bare, .withheld], ["ALIASES CHARSETS CODEC_MAP"]⟩]),
  ("email.contentmanager", [
    ⟨.module, [], ["binascii email quoprimime"]⟩,
    ⟨.routine, [.settable], [
      "get_and_fixup_unknown_message_content get_message_content get_non_text_content",
      "get_text_content set_bytes_content set_message_content set_text_content"]⟩,
    ⟨.type, [.settable, .base, .madePlain, .takesNothing], ["ContentManager"]⟩,
    ⟨.value, [.settable], ["raw_data_manager"]⟩]),
  ("email.encoders", [
    ⟨.routine, [.settable], ["encode_7or8bit encode_base64 encode_quopri"]⟩,
    ⟨.routine, [.settable, .takesNumber, .takesList], ["encode_noop"]⟩]),
  ("email.errors", [
    ⟨.type, [.settable, .base, .madePlain, .raised, .takesNothing, .takesNumber, .takesList], [
      "CloseBoundaryNotFoundDefect FirstHeaderLineIsContinuationDefect HeaderDefect",
      "HeaderMissingRequiredValue InvalidBase64CharactersDefect InvalidBase64LengthDefect",
      "InvalidBase64PaddingDefect InvalidDateDefect InvalidHeaderDefect",
      "InvalidMultipartContentTransferEncodingDefect MalformedHeaderDefect MessageDefect",
      "MisplacedEnvelopeHeaderDefect MissingHeaderBodySeparatorDefect",
      "MultipartInvariantViolationDefect NoBoundaryInMultipartDefect NonASCIILocalPartDefect",
      "ObsoleteHeaderDefect StartBoundaryNotFoundDefect UndecodableBytesDefect"]⟩,
    ⟨.type, [.settable, .base, .madeWithTwo, .madePlain,
        .raised, .takesNothing, .takesNumber, .takesList, .takesTwo], [
      "BoundaryError CharsetError HeaderParseError HeaderWriteError MessageError",
      "MessageParseError MultipartConversionError"]⟩,
    ⟨.type, [.settable, .base, .raised, .takesNumber, .takesList], ["NonPrintableDefect"]⟩]),
  ("email.feedparser", [
    ⟨.module, [.withheld], ["errors re"]⟩,
    ⟨.type, [.base, .madeWithTwo, .madePlain, .takesNothing, .withheld], ["StringIO"]⟩,
    ⟨.type, [.indexed, .base, .madePlain, .takesNothing, .takesList, .withheld], ["deque"]⟩,
    ⟨.type, [.settable, .base, .madePlain, .takesNothing, .takesNumber, .takesList], [
      "BytesFeedParser FeedParser"]⟩,
    ⟨.type, [.settable, .base, .madePlain, .takesNothing, .withheld], ["BufferedSubFile"]⟩,
    ⟨.value, [.bare, .withheld], [
      "NLCRE NLCRE_bol NLCRE_crack NLCRE_eol NeedMoreData compat32 headerRE"]⟩]),
  ("email.generator", [
    ⟨.module, [.withheld], ["random re sys time"]⟩,
    ⟨.routine, [.settable, .takesNumber, .takesList, .withheld], ["deepcopy"]⟩,
    ⟨.type, [.base, .madePlain, .takesNothing, .withheld], ["BytesIO"]⟩,
    ⟨.type, [.base, .madeWithTwo, .madePlain, .takesNothing, .withheld], ["StringIO"]⟩,
    ⟨.type, [.settable, .base, .madeWithTwo, .madePlain, .raised,
        .takesNothing, .takesNumber, .takesList, .takesTwo, .withheld], ["HeaderWriteError"]⟩,
    ⟨.type, [.settable, .base, .madeWithTwo, .takesNumber, .takesList, .takesTwo], [
      "BytesGenerator DecodedGenerator Generator"]⟩,
    ⟨.value, [.bare, .withheld], ["NEWLINE_WITHOUT_FWSP NLCRE fcre"]⟩]),
  ("email.header", [
    ⟨.module, [.withheld], ["binascii email re"]⟩,
    ⟨.routine, [.settable], ["decode_header make_header"]⟩,
    ⟨.type, [.settable, .base, .madePlain, .takesNothing, .withheld], ["Charset"]⟩,
    ⟨.type, [.settable, .base, .madeWithTwo, .madePlain, .takesNothing], ["Header"]⟩,
    ⟨.type, [.settable, .base, .madeWithTwo, .madePlain, .raised,
        .takesNothing, .takesNumber, .takesList, .takesTwo, .withheld], ["HeaderParseError"]⟩,
    ⟨.value, [.bare, .withheld], ["BSPACE ecre fcre"]⟩,
    ⟨.value, [.settable, .withheld], ["USASCII UTF8"]⟩]),
  ("email.headerregistry", [
    ⟨.module, [], ["errors parser utils"]⟩,
    ⟨.type, [.indexed], ["MappingProxyType"]⟩,
    ⟨.type, [.settable, .base], ["BaseHeader"]⟩,
    ⟨.type, [.settable, .base, .madePlain, .takesNothing], [
      "AddressHeader ContentDispositionHeader ContentTransferEncodingHeader ContentTypeHeader",
      "DateHeader MIMEVersionHeader MessageIDHeader ParameterizedMIMEHeader SingleAddressHeader",
      "UniqueAddressHeader UniqueDateHeader UniqueSingleAddressHeader UniqueUnstructuredHeader",
      "UnstructuredHeader"]⟩,
    ⟨.type, [.settable, .base, .madeWithTwo, .madePlain, .takesNothing], ["Address"]⟩,
    ⟨.type, [.settable, .base, .madeWithTwo,
        .madePlain, .takesNothing, .takesNumber, .takesList], ["Group"]⟩,
    ⟨.type, [.settable, .base, .madeWithTwo, .madePlain,
        .takesNothing, .takesNumber, .takesList, .takesTwo], ["HeaderRegistry"]⟩]),
  ("email.iterators", [
    ⟨.module, [.withheld], ["sys"]⟩,
    ⟨.routine, [.settable, .takesNumber, .takesList], ["walk"]⟩,
    ⟨.routine, [.settable, .takesNumber, .takesList, .takesTwo], [
      "body_line_iterator typed_subpart_iterator"]⟩,
    ⟨.type, [.base, .madeWithTwo, .madePlain, .takesNothing, .withheld], ["StringIO"]⟩]),
  ("email.message", [
    ⟨.module, [.withheld], ["binascii errors quopri re utils"]⟩,
    ⟨.routine, [.settable, .withheld], ["decode_b"]⟩,
    ⟨.type, [.base, .madePlain, .takesNothing, .withheld], ["BytesIO"]⟩,
    ⟨.type, [.base, .madeWithTwo, .madePlain, .takesNothing, .withheld], ["StringIO"]⟩,
    ⟨.type, [.settable, .base, .madePlain, .takesNothing, .takesNumber, .takesList], [
      "EmailMessage Message"]⟩,
    ⟨.type, [.settable, .base, .madePlain, .takesNothing, .takesNumber, .takesList, .withheld], [
      "MIMEPart"]⟩,
    ⟨.type, [.settable, .base, .madePlain, .takesNothing, .withheld], ["Charset"]⟩,
    ⟨.type, [.settable, .base, .withheld], ["Policy"]⟩,
    ⟨.value, [.bare, .withheld], ["compat32 tspecials"]⟩]),
  ("email.mime", []),
  ("email.mime.application", [
    ⟨.module, [.withheld], ["encoders"]⟩,
    ⟨.type, [.settable, .base], ["MIMEApplication"]⟩,
    ⟨.type, [.settable, .base, .madeWithTwo, .takesTwo, .withheld], ["MIMENonMultipart"]⟩]),
  ("email.mime.audio", [
    ⟨.module, [.withheld], ["encoders"]⟩,
    ⟨.routine, [.settable, .takesNumber, .takesList, .withheld], ["rule"]⟩,
    ⟨.type, [.base, .madePlain, .takesNothing, .withheld], ["BytesIO"]⟩,
    ⟨.type, [.settable, .base], ["MIMEAudio"]⟩,
    ⟨.type, [.settable, .base, .madeWithTwo, .takesTwo, .withheld], ["MIMENonMultipart"]⟩]),
  ("email.mime.base", [
    ⟨.module, [.withheld], ["email message"]⟩,
    ⟨.type, [.settable, .base, .madeWithTwo, .takesTwo], ["MIMEBase"]⟩]),
  ("email.mime.image", [
    ⟨.module, [.withheld], ["encoders"]⟩,
    ⟨.routine, [.settable, .takesNumber, .takesList, .withheld], ["rule"]⟩,
    ⟨.type, [.settable, .base], ["MIMEImage"]⟩,
    ⟨.type, [.settable, .base, .madeWithTwo, .takesTwo, .withheld], ["MIMENonMultipart"]⟩]),
  ("email.mime.message", [
    ⟨.module, [.withheld], ["message"]⟩,
    ⟨.type, [.settable, .base], ["MIMEMessage"]⟩,
    ⟨.type, [.settable, .base, .madeWithTwo, .takesTwo, .withheld], ["MIMENonMultipart"]⟩]),
  ("email.mime.multipart", [
    ⟨.type, [.settable, .base, .madeWithTwo, .madePlain,
        .takesNothing, .takesNumber, .takesList, .takesTwo], ["MIMEMultipart"]⟩,
    ⟨.type, [.settable, .base, .madeWithTwo, .takesTwo, .withheld], ["MIMEBase"]⟩]),
  ("email.mime.nonmultipart", [
    ⟨.module, [.withheld], ["errors"]⟩,
    ⟨.type, [.settable, .base, .madeWithTwo, .takesTwo], ["MIMENonMultipart"]⟩,
    ⟨.type, [.settable, .base, .madeWithTwo, .takesTwo, .withheld], ["MIMEBase"]⟩]),
  ("email.mime.text", [
    ⟨.type, [.settable, .base], ["MIMEText"]⟩,
    ⟨.type, [.settable, .base, .madePlain, .takesNothing, .withheld], ["Charset"]⟩,
    ⟨.type, [.settable, .base, .madeWithTwo, .takesTwo, .withheld], ["MIMENonMultipart"]⟩]),
  ("email.parser", [
    ⟨.type, [.base, .madeWithTwo, .madePlain, .takesNothing, .withheld], ["StringIO"]⟩,
    ⟨.type, [.base, .withheld], ["TextIOWrapper"]⟩,
    ⟨.type, [.settable, .base, .madePlain, .takesNothing, .takesNumber, .takesList], [
      "BytesFeedParser BytesHeaderParser BytesParser FeedParser HeaderParser Parser"]⟩,
    ⟨.value, [.bare, .withheld], ["compat32"]⟩]),
  ("email.policy", [
    ⟨.module, [.withheld], ["re sys"]⟩,
    ⟨.type, [.settable, .base], ["Policy"]⟩,
    ⟨.type, [.settable, .base, .madePlain, .takesNothing], ["Compat32 EmailPolicy"]⟩,
    ⟨.type, [.settable, .base, .madePlain, .takesNothing, .takesNumber, .takesList, .withheld], [
      "EmailMessage"]⟩,
    ⟨.type, [.settable, .base, .madeWithTwo, .madePlain,
        .takesNothing, .takesNumber, .takesList, .takesTwo, .withheld], ["HeaderRegistry"]⟩,
    ⟨.value, [.bare], ["HTTP SMTP compat32 default strict"]⟩,
    ⟨.value, [.bare, .withheld], ["SMTPUTF8 linesep_splitter"]⟩,
    ⟨.value, [.settable, .withheld], ["raw_data_manager"]⟩]),
  ("email.quoprimime", [
    ⟨.module, [.withheld], ["re"]⟩,
    ⟨.routine, [.settable], [
      "body_decode body_encode body_length decode decodestring header_decode header_encode",
      "header_length quote unquote"]⟩,
    ⟨.routine, [.settable, .takesNumber, .withheld], ["body_check header_check"]⟩]),
  ("email.utils", [
    ⟨.module, [.withheld], ["datetime os random re socket time urllib"]⟩,
    ⟨.routine, [.settable], [
      "collapse_rfc2231_value decode_params decode_rfc2231 encode_rfc2231 format_datetime",
      "formataddr mktime_tz parsedate parsedate_to_datetime parsedate_tz unquote"]⟩,
    ⟨.routine, [.settable, .takesNumber, .takesList], ["parseaddr"]⟩,
    ⟨.routine, [.settable, .takesList], ["getaddresses"]⟩,
    ⟨.routine, [.settable, .takesNothing], ["make_msgid"]⟩,
    ⟨.routine, [.settable, .takesNothing, .takesNumber], ["formatdate"]⟩,
    ⟨.routine, [.settable, .takesNothing, .withheld], ["localtime"]⟩,
    ⟨.routine, [.settable, .withheld], ["quote"]⟩,
    ⟨.type, [.settable, .base, .madePlain, .takesNothing, .withheld], ["Charset"]⟩,
    ⟨.value, [.bare, .withheld], ["escapesre rfc2231_continuation specialsre"]⟩]),
  ("json", [
    ⟨.module, [.withheld], ["codecs decoder encoder scanner"]⟩,
    ⟨.routine, [.settable], ["dump load loads"]⟩,
    ⟨.routine, [.settable, .takesNumber], ["dumps"]⟩,
    ⟨.routine, [.settable, .withheld], ["detect_encoding"]⟩,
    ⟨.type, [.settable, .base, .madePlain, .takesNothing], ["JSONDecoder JSONEncoder"]⟩,
    ⟨.type, [.settable, .base, .raised], ["JSONDecodeError"]⟩]),
  ("json.decoder", [
    ⟨.module, [.withheld], ["re scanner"]⟩,
    ⟨.routine, [.bare, .withheld], ["c_scanstring scanstring"]⟩,
    ⟨.routine, [.settable, .withheld], ["JSONArray JSONObject py_scanstring"]⟩,
    ⟨.type, [.settable, .base, .madePlain, .takesNothing], ["JSONDecoder"]⟩,
    ⟨.type, [.settable, .base, .raised], ["JSONDecodeError"]⟩,
    ⟨.value, [.bare, .withheld], ["BACKSLASH STRINGCHUNK WHITESPACE"]⟩,
    ⟨.value, [.settable, .withheld], ["FLAGS"]⟩]),
  ("json.encoder", [
    ⟨.module, [], ["re"]⟩,
    ⟨.routine, [.bare], [
      "c_encode_basestring c_encode_basestring_ascii encode_basestring encode_basestring_ascii"]⟩,
    ⟨.routine, [.settable], ["py_encode_basestring py_encode_basestring_ascii"]⟩,
    ⟨.type, [.settable], ["c_make_encoder"]⟩,
    ⟨.type, [.settable, .base, .madePlain, .takesNothing], ["JSONEncoder"]⟩,
    ⟨.value, [.bare], ["ESCAPE ESCAPE_ASCII ESCAPE_DCT HAS_UTF8"]⟩]),
  ("json.scanner", [
    ⟨.module, [.withheld], ["re"]⟩,
    ⟨.routine, [.settable, .withheld], ["py_make_scanner"]⟩,
    ⟨.type, [.settable], ["make_scanner"]⟩,
    ⟨.type, [.settable, .withheld], ["c_make_scanner"]⟩,
    ⟨.value, [.bare, .withheld], ["NUMBER_RE"]⟩]),
  ("json.tool", [
    ⟨.module, [], ["argparse json sys"]⟩,
    ⟨.routine, [.settable], ["main"]⟩,
    ⟨.type, [.settable, .base, .takesNothing], ["Path"]⟩]),
  ("mailbox", [
    ⟨.module, [.withheld], [
      "calendar contextlib copy email errno fcntl io os socket time warnings"]⟩,
    ⟨.type, [.base, .takesTwo, .withheld], ["GenericAlias"]⟩,
    ⟨.type, [.settable, .base, .madePlain, .takesNothing], [
      "BabylMessage MHMessage MMDFMessage MaildirMessage Message mboxMessage"]⟩,
    ⟨.type, [.settable, .base, .madeWithTwo, .madePlain,
        .raised, .takesNothing, .takesNumber, .takesList, .takesTwo], [
      "Error ExternalClashError FormatError NoSuchMailboxError NotEmptyError"]⟩,
    ⟨.type, [.settable, .indexed, .base], ["Babyl MH MMDF Mailbox Maildir mbox"]⟩,
    ⟨.value, [.bare, .withheld], ["linesep"]⟩]),
  ("mimetypes", [
    ⟨.module, [.withheld], ["os posixpath sys urllib"]⟩,
    ⟨.routine, [.settable], [
      "add_type guess_all_extensions guess_extension guess_type read_mime_types"]⟩,
    ⟨.routine, [.settable, .takesNothing], ["init"]⟩,
    ⟨.type, [.settable, .base, .madePlain, .takesNothing], ["MimeTypes"]⟩,
    ⟨.value, [.bare], ["common_types encodings_map knownfiles suffix_map types_map"]⟩]),
  ("base64", [
    ⟨.module, [.withheld], ["binascii re struct"]⟩,
    ⟨.routine, [.settable], [
      "a85decode a85encode b16decode b16encode b32decode b32encode b32hexdecode b32hexencode",
      "b64decode b64encode b85decode b85encode decode decodebytes encode encodebytes",
      "standard_b64decode standard_b64encode urlsafe_b64decode urlsafe_b64encode"]⟩,
    ⟨.routine, [.settable, .takesNothing, .withheld], ["test"]⟩,
    ⟨.routine, [.settable, .withheld], ["main"]⟩,
    ⟨.value, [.bare, .withheld], ["bytes_types"]⟩]),
  ("binascii", [
    ⟨.routine, [.bare], [
      "a2b_base64 a2b_hex a2b_qp a2b_uu b2a_base64 b2a_hex b2a_qp b2a_uu crc32 crc_hqx hexlify",
      "unhexlify"]⟩,
    ⟨.type, [.settable, .base, .madeWithTwo, .madePlain,
        .raised, .takesNothing, .takesNumber, .takesList, .takesTwo], ["Error Incomplete"]⟩]),
  ("quopri", [
    ⟨.routine, [.bare, .withheld], ["a2b_qp b2a_qp"]⟩,
    ⟨.routine, [.settable], ["decode decodestring encode encodestring"]⟩,
    ⟨.routine, [.settable, .withheld], ["ishex main needsquoting quote unhex"]⟩,
    ⟨.value, [.bare, .withheld], ["EMPTYSTRING ESCAPE HEX"]⟩]),
  ("uu", [
    ⟨.module, [.withheld], ["binascii os sys warnings"]⟩,
    ⟨.routine, [.settable], ["decode encode"]⟩,
    ⟨.routine, [.settable, .withheld], ["test"]⟩,
    ⟨.type, [.settable, .base, .madeWithTwo, .madePlain,
        .raised, .takesNothing, .takesNumber, .takesList, .takesTwo], ["Error"]⟩]),
  ("mailcap", [
    ⟨.module, [.withheld], ["os re warnings"]⟩,
    ⟨.routine, [.settable], ["findmatch"]⟩,
    ⟨.routine, [.settable, .takesList, .withheld], ["lineno_sort_key"]⟩,
    ⟨.routine, [.settable, .takesNothing], ["getcaps"]⟩,
    ⟨.routine, [.settable, .takesNothing, .withheld], ["listmailcapfiles test"]⟩,
    ⟨.routine, [.settable, .withheld], [
      "findparam lookup parsefield parseline readmailcapfile show subst"]⟩,
    ⟨.type, [.settable, .base, .madeWithTwo, .madePlain, .raised,
        .takesNothing, .takesNumber, .takesList, .takesTwo, .withheld], ["UnsafeMailcapInput"]⟩])]

end LalrBackend.Code
