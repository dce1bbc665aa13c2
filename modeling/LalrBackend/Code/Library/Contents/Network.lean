import LalrBackend.Code.Library.Entry

/-!
# Modules for networks and the protocols on them

What these standard modules provide, by kind. Plain values stand apart.
-/

namespace LalrBackend.Code

/-- The contents of the modules for networks and the protocols on them. -/
def networkContents : List (String × List Family) := [
  ("socket", [
    ⟨.module, [.withheld], ["array errno io os selectors sys"]⟩,
    ⟨.routine, [.bare], [
      "gethostbyaddr gethostbyname gethostbyname_ex getnameinfo getprotobyname getservbyname",
      "getservbyport if_nametoindex inet_aton inet_ntoa inet_ntop inet_pton sethostname"]⟩,
    ⟨.routine, [.bare, .takesNumber], [
      "CMSG_LEN CMSG_SPACE close dup htonl htons if_indextoname ntohl ntohs setdefaulttimeout"]⟩,
    ⟨.routine, [.bare, .takesNothing], ["getdefaulttimeout gethostname if_nameindex"]⟩,
    ⟨.routine, [.settable], [
      "create_connection create_server fromfd getaddrinfo recv_fds send_fds"]⟩,
    ⟨.routine, [.settable, .takesNothing], ["getfqdn has_dualstack_ipv6 socketpair"]⟩,
    ⟨.type, [.base, .madePlain, .takesNothing], ["SocketType"]⟩,
    ⟨.type, [.settable, .takesNumber], ["AddressFamily SocketKind"]⟩,
    ⟨.type, [.settable, .takesNumber, .withheld], ["AddressInfo MsgFlag"]⟩,
    ⟨.type, [.settable, .base, .madePlain, .takesNothing], ["socket"]⟩,
    ⟨.type, [.settable, .base, .madeWithTwo, .madePlain,
        .raised, .takesNothing, .takesNumber, .takesList, .takesTwo], ["gaierror herror"]⟩,
    ⟨.type, [.settable, .base, .withheld], ["IntEnum IntFlag SocketIO"]⟩,
    ⟨.value, [.bare], ["CAPI"]⟩,
    ⟨.value, [.settable], [
      "AF_ALG AF_APPLETALK AF_ASH AF_ATMPVC AF_ATMSVC AF_AX25 AF_BRIDGE AF_CAN AF_ECONET",
      "AF_INET AF_INET6 AF_IPX AF_IRDA AF_KEY AF_LLC AF_NETBEUI AF_NETLINK AF_NETROM AF_PACKET",
      "AF_PPPOX AF_RDS AF_ROSE AF_ROUTE AF_SECURITY AF_SNA AF_TIPC AF_UNIX AF_UNSPEC AF_WANPIPE",
      "AF_X25 AI_ADDRCONFIG AI_ALL AI_CANONNAME AI_NUMERICHOST AI_NUMERICSERV AI_PASSIVE",
      "AI_V4MAPPED MSG_CMSG_CLOEXEC MSG_CONFIRM MSG_CTRUNC MSG_DONTROUTE MSG_DONTWAIT MSG_EOR",
      "MSG_ERRQUEUE MSG_FASTOPEN MSG_MORE MSG_NOSIGNAL MSG_OOB MSG_PEEK MSG_TRUNC MSG_WAITALL",
      "SOCK_CLOEXEC SOCK_DGRAM SOCK_NONBLOCK SOCK_RAW SOCK_RDM SOCK_SEQPACKET SOCK_STREAM"]⟩]),
  ("ssl", [
    ⟨.module, [], ["base64 errno os sys warnings"]⟩,
    ⟨.routine, [.bare], ["RAND_add"]⟩,
    ⟨.routine, [.bare, .takesNumber], ["RAND_bytes RAND_pseudo_bytes"]⟩,
    ⟨.routine, [.bare, .takesNothing], ["RAND_status"]⟩,
    ⟨.routine, [.settable], [
      "DER_cert_to_PEM_cert PEM_cert_to_DER_cert cert_time_to_seconds create_connection",
      "get_server_certificate match_hostname namedtuple wrap_socket"]⟩,
    ⟨.routine, [.settable, .takesNumber], ["get_protocol_name"]⟩,
    ⟨.routine, [.settable, .takesNothing], ["create_default_context get_default_verify_paths"]⟩,
    ⟨.type, [], ["SSLSession"]⟩,
    ⟨.type, [.takesNothing], ["MemoryBIO"]⟩,
    ⟨.type, [.base, .madeWithTwo, .madePlain, .raised,
        .takesNothing, .takesNumber, .takesList, .takesTwo], ["SSLError"]⟩,
    ⟨.type, [.settable], ["AlertDescription Purpose TLSVersion VerifyMode"]⟩,
    ⟨.type, [.settable, .takesNumber], ["Options SSLErrorNumber VerifyFlags"]⟩,
    ⟨.type, [.settable, .base], ["SSLObject SSLSocket"]⟩,
    ⟨.type, [.settable, .base, .madePlain, .takesNothing], ["socket"]⟩,
    ⟨.type, [.settable, .base, .madePlain, .takesNothing, .takesNumber], ["SSLContext"]⟩,
    ⟨.type, [.settable, .base, .madeWithTwo, .madePlain,
        .raised, .takesNothing, .takesNumber, .takesList, .takesTwo], [
      "CertificateError SSLCertVerificationError SSLEOFError SSLSyscallError SSLWantReadError",
      "SSLWantWriteError SSLZeroReturnError"]⟩,
    ⟨.type, [.settable, .indexed, .base], ["DefaultVerifyPaths"]⟩,
    ⟨.value, [.bare], ["OPENSSL_VERSION OPENSSL_VERSION_INFO OPENSSL_VERSION_NUMBER"]⟩,
    ⟨.value, [.settable], [
      "ALERT_DESCRIPTION_ACCESS_DENIED ALERT_DESCRIPTION_BAD_CERTIFICATE",
      "ALERT_DESCRIPTION_BAD_CERTIFICATE_HASH_VALUE",
      "ALERT_DESCRIPTION_BAD_CERTIFICATE_STATUS_RESPONSE ALERT_DESCRIPTION_BAD_RECORD_MAC",
      "ALERT_DESCRIPTION_CERTIFICATE_EXPIRED ALERT_DESCRIPTION_CERTIFICATE_REVOKED",
      "ALERT_DESCRIPTION_CERTIFICATE_UNKNOWN ALERT_DESCRIPTION_CERTIFICATE_UNOBTAINABLE",
      "ALERT_DESCRIPTION_CLOSE_NOTIFY ALERT_DESCRIPTION_DECODE_ERROR",
      "ALERT_DESCRIPTION_DECOMPRESSION_FAILURE ALERT_DESCRIPTION_DECRYPT_ERROR",
      "ALERT_DESCRIPTION_HANDSHAKE_FAILURE ALERT_DESCRIPTION_ILLEGAL_PARAMETER",
      "ALERT_DESCRIPTION_INSUFFICIENT_SECURITY ALERT_DESCRIPTION_INTERNAL_ERROR",
      "ALERT_DESCRIPTION_NO_RENEGOTIATION ALERT_DESCRIPTION_PROTOCOL_VERSION",
      "ALERT_DESCRIPTION_RECORD_OVERFLOW ALERT_DESCRIPTION_UNEXPECTED_MESSAGE",
      "ALERT_DESCRIPTION_UNKNOWN_CA ALERT_DESCRIPTION_UNKNOWN_PSK_IDENTITY",
      "ALERT_DESCRIPTION_UNRECOGNIZED_NAME ALERT_DESCRIPTION_UNSUPPORTED_CERTIFICATE",
      "ALERT_DESCRIPTION_UNSUPPORTED_EXTENSION ALERT_DESCRIPTION_USER_CANCELLED CERT_NONE",
      "CERT_OPTIONAL CERT_REQUIRED OP_ALL OP_CIPHER_SERVER_PREFERENCE",
      "OP_ENABLE_MIDDLEBOX_COMPAT OP_IGNORE_UNEXPECTED_EOF OP_NO_COMPRESSION",
      "OP_NO_RENEGOTIATION OP_NO_SSLv2 OP_NO_SSLv3 OP_NO_TICKET OP_NO_TLSv1 OP_NO_TLSv1_1",
      "OP_NO_TLSv1_2 OP_NO_TLSv1_3 OP_SINGLE_DH_USE OP_SINGLE_ECDH_USE PROTOCOL_SSLv23",
      "PROTOCOL_TLS PROTOCOL_TLS_CLIENT PROTOCOL_TLS_SERVER PROTOCOL_TLSv1 PROTOCOL_TLSv1_1",
      "PROTOCOL_TLSv1_2 SOCK_STREAM SSL_ERROR_EOF SSL_ERROR_INVALID_ERROR_CODE SSL_ERROR_SSL",
      "SSL_ERROR_SYSCALL SSL_ERROR_WANT_CONNECT SSL_ERROR_WANT_READ SSL_ERROR_WANT_WRITE",
      "SSL_ERROR_WANT_X509_LOOKUP SSL_ERROR_ZERO_RETURN VERIFY_ALLOW_PROXY_CERTS",
      "VERIFY_CRL_CHECK_CHAIN VERIFY_CRL_CHECK_LEAF VERIFY_DEFAULT VERIFY_X509_PARTIAL_CHAIN",
      "VERIFY_X509_STRICT VERIFY_X509_TRUSTED_FIRST"]⟩]),
  ("asyncore", [
    ⟨.module, [], ["os select socket sys time warnings"]⟩,
    ⟨.routine, [.settable], ["compact_traceback read readwrite write"]⟩,
    ⟨.routine, [.settable, .takesNothing], ["close_all"]⟩,
    ⟨.routine, [.settable, .takesNothing, .takesNumber], ["poll2 poll3"]⟩,
    ⟨.routine, [.settable, .takesNothing, .takesNumber, .takesList], ["poll"]⟩,
    ⟨.routine, [.settable, .takesNothing, .takesNumber, .takesList, .takesTwo], ["loop"]⟩,
    ⟨.type, [.settable, .base, .madeWithTwo, .madePlain, .takesNothing], [
      "dispatcher dispatcher_with_send"]⟩,
    ⟨.type, [.settable, .base, .madeWithTwo, .madePlain,
        .raised, .takesNothing, .takesNumber, .takesList, .takesTwo], ["ExitNow"]⟩,
    ⟨.type, [.settable, .base, .takesNumber], ["file_dispatcher file_wrapper"]⟩,
    ⟨.value, [.bare], ["errorcode socket_map"]⟩]),
  ("asynchat", [
    ⟨.module, [], ["asyncore"]⟩,
    ⟨.routine, [.settable], ["find_prefix_at_end"]⟩,
    ⟨.type, [.indexed, .base, .madePlain, .takesNothing, .takesList], ["deque"]⟩,
    ⟨.type, [.settable, .base, .madeWithTwo, .madePlain, .takesNothing], ["async_chat"]⟩,
    ⟨.type, [.settable, .base, .madeWithTwo, .takesNumber, .takesList, .takesTwo], [
      "simple_producer"]⟩]),
  ("socketserver", [
    ⟨.module, [.withheld], ["os selectors socket sys threading"]⟩,
    ⟨.routine, [.bare, .takesNothing, .withheld], ["time"]⟩,
    ⟨.type, [.settable, .base], [
      "BaseRequestHandler DatagramRequestHandler ForkingTCPServer ForkingUDPServer",
      "StreamRequestHandler TCPServer ThreadingTCPServer ThreadingUDPServer",
      "ThreadingUnixDatagramServer ThreadingUnixStreamServer UDPServer UnixDatagramServer",
      "UnixStreamServer"]⟩,
    ⟨.type, [.settable, .base, .madePlain, .takesNothing], ["ForkingMixIn ThreadingMixIn"]⟩,
    ⟨.type, [.settable, .base, .madePlain, .takesNothing,
        .takesNumber, .takesList, .takesTwo, .withheld], ["BufferedIOBase"]⟩,
    ⟨.type, [.settable, .base, .madeWithTwo, .takesTwo], ["BaseServer"]⟩]),
  ("smtpd", [
    ⟨.module, [.withheld], ["asynchat asyncore collections errno getopt os socket sys time"]⟩,
    ⟨.routine, [.bare, .takesNumber, .withheld], ["warn"]⟩,
    ⟨.routine, [.settable, .withheld], ["get_addr_spec get_angle_addr parseargs usage"]⟩,
    ⟨.type, [.settable, .base], ["DebuggingServer PureProxy SMTPChannel SMTPServer"]⟩,
    ⟨.type, [.settable, .base, .madePlain, .takesNothing, .withheld], ["Devnull Options"]⟩,
    ⟨.value, [.bare, .withheld], ["program"]⟩,
    ⟨.value, [.settable, .withheld], ["DEBUGSTREAM"]⟩]),
  ("webbrowser", [
    ⟨.module, [.withheld], ["os shlex shutil subprocess sys threading warnings"]⟩,
    ⟨.routine, [.settable], ["get register"]⟩,
    ⟨.routine, [.settable, .takesNumber, .takesList], ["open_new open_new_tab"]⟩,
    ⟨.routine, [.settable, .takesNumber, .takesList, .takesTwo], ["open"]⟩,
    ⟨.routine, [.settable, .takesNothing, .withheld], [
      "register_X_browsers register_standard_browsers"]⟩,
    ⟨.routine, [.settable, .withheld], ["main"]⟩,
    ⟨.type, [.settable, .base, .madePlain, .takesNothing, .takesNumber, .takesList, .withheld], [
      "BaseBrowser Chrome Chromium Elinks Galeon Grail Konqueror Mozilla Netscape Opera",
      "UnixBrowser"]⟩,
    ⟨.type, [.settable, .base, .madeWithTwo, .madePlain,
        .raised, .takesNothing, .takesNumber, .takesList, .takesTwo], ["Error"]⟩,
    ⟨.type, [.settable, .base, .withheld], ["BackgroundBrowser GenericBrowser"]⟩]),
  ("wsgiref", []),
  ("wsgiref.handlers", [
    ⟨.module, [.withheld], ["os sys time"]⟩,
    ⟨.routine, [.settable, .takesNumber, .withheld], ["format_date_time"]⟩,
    ⟨.routine, [.settable, .takesNothing], ["read_environ"]⟩,
    ⟨.routine, [.settable, .withheld], ["guess_scheme is_hop_by_hop"]⟩,
    ⟨.type, [.settable, .base], ["BaseCGIHandler SimpleHandler"]⟩,
    ⟨.type, [.settable, .base, .madePlain, .takesNothing], [
      "BaseHandler CGIHandler IISCGIHandler"]⟩,
    ⟨.type, [.settable, .base, .madePlain, .takesNothing, .withheld], ["Headers"]⟩,
    ⟨.type, [.settable, .base, .madeWithTwo, .takesNumber, .takesList, .takesTwo, .withheld], [
      "FileWrapper"]⟩]),
  ("wsgiref.headers", [
    ⟨.module, [], ["re"]⟩,
    ⟨.type, [.settable, .base, .madePlain, .takesNothing], ["Headers"]⟩,
    ⟨.value, [.bare], ["tspecials"]⟩]),
  ("wsgiref.simple_server", [
    ⟨.module, [.withheld], ["sys urllib"]⟩,
    ⟨.routine, [.settable], ["demo_app make_server"]⟩,
    ⟨.routine, [.settable, .takesNothing, .withheld], ["python_implementation"]⟩,
    ⟨.type, [.settable, .base], ["WSGIRequestHandler WSGIServer"]⟩,
    ⟨.type, [.settable, .base, .withheld], [
      "BaseHTTPRequestHandler HTTPServer ServerHandler SimpleHandler"]⟩,
    ⟨.value, [.bare, .withheld], ["software_version sys_version"]⟩]),
  ("wsgiref.types", [
    ⟨.type, [.settable, .base, .madePlain, .takesNothing, .withheld], ["Protocol"]⟩,
    ⟨.type, [.settable, .base, .madePlain, .withheld], ["Any"]⟩,
    ⟨.type, [.settable, .base, .madeWithTwo, .madePlain], [
      "ErrorStream FileWrapper InputStream StartResponse"]⟩,
    ⟨.type, [.settable, .base, .withheld], ["Callable"]⟩,
    ⟨.type, [.settable, .indexed, .base, .withheld], ["Iterable Iterator"]⟩,
    ⟨.type, [.withheld], ["TracebackType"]⟩,
    ⟨.value, [.bare, .base], ["WSGIApplication"]⟩,
    ⟨.value, [.bare, .base, .madePlain, .takesNothing], ["WSGIEnvironment"]⟩,
    ⟨.value, [.bare, .withheld], ["TypeAlias"]⟩]),
  ("wsgiref.util", [
    ⟨.module, [.withheld], ["posixpath"]⟩,
    ⟨.routine, [.settable], [
      "application_uri guess_scheme request_uri setup_testing_defaults shift_path_info"]⟩,
    ⟨.routine, [.settable, .withheld], ["is_hop_by_hop"]⟩,
    ⟨.type, [.settable, .base, .madeWithTwo, .takesNumber, .takesList, .takesTwo], [
      "FileWrapper"]⟩]),
  ("wsgiref.validate", [
    ⟨.module, [.withheld], ["re sys warnings"]⟩,
    ⟨.routine, [.settable, .takesNumber, .takesList], ["validator"]⟩,
    ⟨.routine, [.settable, .takesNumber, .takesList, .takesTwo, .withheld], ["assert_"]⟩,
    ⟨.routine, [.settable, .takesNumber, .takesList, .withheld], ["check_iterator"]⟩,
    ⟨.routine, [.settable, .withheld], [
      "check_content_type check_environ check_errors check_exc_info check_headers check_input",
      "check_status check_string_type"]⟩,
    ⟨.type, [.settable, .base, .madeWithTwo, .madePlain, .raised,
        .takesNothing, .takesNumber, .takesList, .takesTwo, .withheld], ["WSGIWarning"]⟩,
    ⟨.type, [.settable, .base, .takesNumber, .takesList, .withheld], [
      "ErrorWrapper InputWrapper PartialIteratorWrapper WriteWrapper"]⟩,
    ⟨.type, [.settable, .base, .withheld], ["IteratorWrapper"]⟩,
    ⟨.value, [.bare, .withheld], ["bad_header_value_re header_re"]⟩]),
  ("urllib", [
    ⟨.module, [], ["parse"]⟩]),
  ("urllib.error", [
    ⟨.module, [.withheld], ["io urllib"]⟩,
    ⟨.type, [.settable, .base, .madeWithTwo, .raised, .takesNumber, .takesList, .takesTwo], [
      "URLError"]⟩,
    ⟨.type, [.settable, .base, .madeWithTwo, .raised, .takesTwo], ["ContentTooShortError"]⟩,
    ⟨.type, [.settable, .base, .raised], ["HTTPError"]⟩]),
  ("urllib.parse", [
    ⟨.module, [.withheld], ["functools ipaddress re sys types warnings"]⟩,
    ⟨.routine, [.settable], [
      "parse_qs parse_qsl quote quote_from_bytes quote_plus unquote unquote_plus",
      "unquote_to_bytes urldefrag urlencode urljoin urlparse urlunparse urlunsplit"]⟩,
    ⟨.routine, [.settable, .takesNumber, .takesList, .withheld], ["to_bytes unwrap"]⟩,
    ⟨.routine, [.settable, .takesNothing, .withheld], ["clear_cache"]⟩,
    ⟨.routine, [.settable, .withheld], [
      "namedtuple splitattr splithost splitnport splitpasswd splitport splitquery splittag",
      "splittype splituser splitvalue"]⟩,
    ⟨.type, [.settable, .indexed, .base], [
      "ParseResult ParseResultBytes SplitResult SplitResultBytes"]⟩,
    ⟨.type, [.settable, .indexed, .base, .madePlain, .takesNothing, .withheld], ["ResultBase"]⟩,
    ⟨.type, [.settable, .indexed, .base, .takesTwo], ["DefragResult DefragResultBytes"]⟩,
    ⟨.value, [.settable], ["urlsplit"]⟩]),
  ("urllib.request", [
    ⟨.module, [.withheld], [
      "base64 bisect contextlib email hashlib http io os posixpath re socket ssl string sys",
      "tempfile time warnings"]⟩,
    ⟨.routine, [.settable], ["pathname2url url2pathname urlopen urlretrieve"]⟩,
    ⟨.routine, [.settable, .takesNumber, .takesList], ["install_opener"]⟩,
    ⟨.routine, [.settable, .takesNumber, .takesList, .withheld], [
      "proxy_bypass proxy_bypass_environment unwrap"]⟩,
    ⟨.routine, [.settable, .takesNothing], ["build_opener getproxies urlcleanup"]⟩,
    ⟨.routine, [.settable, .takesNothing, .withheld], [
      "ftperrors getproxies_environment localhost noheaders thishost"]⟩,
    ⟨.routine, [.settable, .withheld], [
      "parse_http_list parse_keqv_list quote request_host unquote unquote_to_bytes urljoin",
      "urlparse urlunparse"]⟩,
    ⟨.type, [.settable, .base], ["Request"]⟩,
    ⟨.type, [.settable, .base, .madePlain, .takesNothing], [
      "AbstractBasicAuthHandler AbstractDigestAuthHandler BaseHandler CacheFTPHandler",
      "DataHandler FTPHandler FancyURLopener FileHandler HTTPBasicAuthHandler",
      "HTTPDefaultErrorHandler HTTPDigestAuthHandler HTTPErrorProcessor HTTPPasswordMgr",
      "HTTPPasswordMgrWithDefaultRealm HTTPPasswordMgrWithPriorAuth HTTPRedirectHandler",
      "OpenerDirector ProxyBasicAuthHandler ProxyDigestAuthHandler ProxyHandler URLopener",
      "UnknownHandler"]⟩,
    ⟨.type, [.settable, .base, .madePlain, .takesNothing, .takesNumber, .takesList], [
      "HTTPCookieProcessor HTTPHandler"]⟩,
    ⟨.type, [.settable, .base, .madePlain, .takesNothing, .takesNumber, .takesList, .withheld], [
      "AbstractHTTPHandler"]⟩,
    ⟨.type, [.settable, .base, .madeWithTwo, .madePlain,
        .takesNothing, .takesNumber, .takesList, .takesTwo], ["HTTPSHandler"]⟩,
    ⟨.type, [.settable, .base, .madeWithTwo, .takesTwo, .withheld], ["addclosehook"]⟩,
    ⟨.type, [.settable, .base, .madeWithTwo, .raised,
        .takesNumber, .takesList, .takesTwo, .withheld], ["URLError"]⟩,
    ⟨.type, [.settable, .base, .madeWithTwo, .raised, .takesTwo, .withheld], [
      "ContentTooShortError"]⟩,
    ⟨.type, [.settable, .base, .withheld], ["addinfourl ftpwrapper"]⟩,
    ⟨.type, [.settable, .base, .raised, .withheld], ["HTTPError"]⟩,
    ⟨.value, [.bare, .withheld], ["ftpcache"]⟩,
    ⟨.value, [.settable, .withheld], ["urlsplit"]⟩]),
  ("urllib.response", [
    ⟨.module, [.withheld], ["tempfile"]⟩,
    ⟨.type, [.settable, .base], ["addinfourl"]⟩,
    ⟨.type, [.settable, .base, .madeWithTwo, .takesTwo], ["addclosehook addinfo"]⟩,
    ⟨.type, [.settable, .base, .takesNumber, .takesList], ["addbase"]⟩]),
  ("urllib.robotparser", [
    ⟨.module, [.withheld], ["collections urllib"]⟩,
    ⟨.type, [.settable, .base, .madePlain, .takesNothing], ["RobotFileParser"]⟩,
    ⟨.type, [.settable, .base, .madePlain, .takesNothing, .withheld], ["Entry"]⟩,
    ⟨.type, [.settable, .base, .madeWithTwo, .withheld], ["RuleLine"]⟩,
    ⟨.type, [.settable, .indexed, .base, .takesTwo, .withheld], ["RequestRate"]⟩]),
  ("http", [
    ⟨.type, [.settable], ["HTTPMethod HTTPStatus"]⟩,
    ⟨.type, [.settable, .base, .withheld], ["IntEnum StrEnum"]⟩]),
  ("http.client", [
    ⟨.module, [.withheld], ["collections email errno http io re socket ssl sys"]⟩,
    ⟨.routine, [.settable, .withheld], ["parse_headers"]⟩,
    ⟨.type, [.settable, .base], ["HTTPConnection HTTPResponse HTTPSConnection"]⟩,
    ⟨.type, [.settable, .base, .madePlain, .takesNothing, .takesNumber, .takesList, .withheld], [
      "HTTPMessage"]⟩,
    ⟨.type, [.settable, .base, .madeWithTwo, .madePlain,
        .raised, .takesNothing, .takesNumber, .takesList, .takesTwo], [
      "CannotSendHeader CannotSendRequest HTTPException ImproperConnectionState InvalidURL",
      "NotConnected RemoteDisconnected ResponseNotReady UnimplementedFileMode",
      "UnknownTransferEncoding error"]⟩,
    ⟨.type, [.settable, .base, .madeWithTwo, .raised, .takesNumber, .takesList, .takesTwo], [
      "IncompleteRead"]⟩,
    ⟨.type, [.settable, .base, .raised, .takesNumber, .takesList], [
      "BadStatusLine LineTooLong UnknownProtocol"]⟩,
    ⟨.value, [.bare], ["responses"]⟩,
    ⟨.value, [.settable, .withheld], [
      "ACCEPTED ALREADY_REPORTED BAD_GATEWAY BAD_REQUEST CONFLICT CONTINUE CREATED EARLY_HINTS",
      "EXPECTATION_FAILED FAILED_DEPENDENCY FORBIDDEN FOUND GATEWAY_TIMEOUT GONE",
      "HTTP_VERSION_NOT_SUPPORTED IM_A_TEAPOT IM_USED INSUFFICIENT_STORAGE",
      "INTERNAL_SERVER_ERROR LENGTH_REQUIRED LOCKED LOOP_DETECTED METHOD_NOT_ALLOWED",
      "MISDIRECTED_REQUEST MOVED_PERMANENTLY MULTIPLE_CHOICES MULTI_STATUS",
      "NETWORK_AUTHENTICATION_REQUIRED NON_AUTHORITATIVE_INFORMATION NOT_ACCEPTABLE",
      "NOT_EXTENDED NOT_FOUND NOT_IMPLEMENTED NOT_MODIFIED NO_CONTENT OK PARTIAL_CONTENT",
      "PAYMENT_REQUIRED PERMANENT_REDIRECT PRECONDITION_FAILED PRECONDITION_REQUIRED PROCESSING",
      "PROXY_AUTHENTICATION_REQUIRED REQUESTED_RANGE_NOT_SATISFIABLE REQUEST_ENTITY_TOO_LARGE",
      "REQUEST_HEADER_FIELDS_TOO_LARGE REQUEST_TIMEOUT REQUEST_URI_TOO_LONG RESET_CONTENT",
      "SEE_OTHER SERVICE_UNAVAILABLE SWITCHING_PROTOCOLS TEMPORARY_REDIRECT TOO_EARLY",
      "TOO_MANY_REQUESTS UNAUTHORIZED UNAVAILABLE_FOR_LEGAL_REASONS UNPROCESSABLE_ENTITY",
      "UNSUPPORTED_MEDIA_TYPE UPGRADE_REQUIRED USE_PROXY VARIANT_ALSO_NEGOTIATES urlsplit"]⟩]),
  ("http.cookiejar", [
    ⟨.module, [.withheld], ["copy datetime http os re time urllib"]⟩,
    ⟨.routine, [.settable, .takesNumber, .takesList, .withheld], ["deepvalues"]⟩,
    ⟨.routine, [.settable, .takesNothing, .takesNumber, .withheld], ["time2isoz time2netscape"]⟩,
    ⟨.routine, [.settable, .withheld], [
      "domain_match eff_request_host escape_path http2time is_HDN is_third_party iso2time",
      "join_header_words liberal_is_HDN lwp_cookie_str offset_from_tz_string parse_ns_headers",
      "reach request_host request_path request_port split_header_words strip_quotes timegm",
      "unmatched uppercase_escaped_char user_domain_match"]⟩,
    ⟨.type, [.settable, .base], ["Cookie"]⟩,
    ⟨.type, [.settable, .base, .madePlain, .takesNothing], ["CookiePolicy"]⟩,
    ⟨.type, [.settable, .base, .madePlain, .takesNothing, .takesNumber, .takesList], ["CookieJar"]⟩,
    ⟨.type, [.settable, .base, .madePlain, .takesNothing, .withheld], ["Absent"]⟩,
    ⟨.type, [.settable, .base, .madeWithTwo, .madePlain, .takesNothing], [
      "FileCookieJar LWPCookieJar MozillaCookieJar"]⟩,
    ⟨.type, [.settable, .base, .madeWithTwo, .madePlain, .takesNothing, .takesList], [
      "DefaultCookiePolicy"]⟩,
    ⟨.type, [.settable, .base, .madeWithTwo, .madePlain,
        .raised, .takesNothing, .takesNumber, .takesList, .takesTwo], ["LoadError"]⟩,
    ⟨.value, [.bare, .withheld], [
      "ESCAPED_CHAR_RE HEADER_ESCAPE_RE HEADER_JOIN_ESCAPE_RE HEADER_QUOTED_VALUE_RE",
      "HEADER_TOKEN_RE HEADER_VALUE_RE IPV4_RE ISO_DATE_RE LOOSE_HTTP_DATE_RE",
      "NETSCAPE_HEADER_TEXT NETSCAPE_MAGIC_RGX STRICT_DATE_RE TIMEZONE_RE UTC_ZONES WEEKDAY_RE",
      "cut_port_re"]⟩]),
  ("http.cookies", [
    ⟨.module, [.withheld], ["re string types"]⟩,
    ⟨.type, [.settable, .base, .madeWithTwo, .madePlain,
        .raised, .takesNothing, .takesNumber, .takesList, .takesTwo], ["CookieError"]⟩,
    ⟨.type, [.settable, .indexed, .base, .madePlain, .takesNothing], ["BaseCookie SimpleCookie"]⟩,
    ⟨.type, [.settable, .indexed, .base, .madePlain, .takesNothing, .withheld], ["Morsel"]⟩]),
  ("http.server", [
    ⟨.module, [.withheld], [
      "copy datetime email html http io itertools mimetypes os posixpath select shutil socket",
      "socketserver sys time urllib"]⟩,
    ⟨.routine, [.settable, .takesNothing, .withheld], ["nobody_uid"]⟩,
    ⟨.routine, [.settable, .withheld], ["executable test"]⟩,
    ⟨.type, [.settable, .base], [
      "BaseHTTPRequestHandler CGIHTTPRequestHandler HTTPServer SimpleHTTPRequestHandler",
      "ThreadingHTTPServer"]⟩,
    ⟨.type, [.settable, .withheld], ["HTTPStatus"]⟩,
    ⟨.value, [.bare, .withheld], ["DEFAULT_ERROR_MESSAGE"]⟩]),
  ("ftplib", [
    ⟨.module, [.withheld], ["socket ssl sys"]⟩,
    ⟨.routine, [.settable, .takesNumber, .takesList, .withheld], ["print_line"]⟩,
    ⟨.routine, [.settable, .withheld], ["ftpcp parse150 parse227 parse229 parse257 test"]⟩,
    ⟨.type, [.settable, .base, .madeWithTwo, .madePlain, .takesNothing], ["FTP FTP_TLS"]⟩,
    ⟨.type, [.settable, .base, .madeWithTwo, .madePlain,
        .raised, .takesNothing, .takesNumber, .takesList, .takesTwo], [
      "error_perm error_proto error_reply error_temp"]⟩,
    ⟨.type, [.settable, .base, .madeWithTwo, .madePlain, .raised,
        .takesNothing, .takesNumber, .takesList, .takesTwo, .withheld], ["Error"]⟩,
    ⟨.value, [.bare], ["all_errors"]⟩,
    ⟨.value, [.bare, .withheld], ["B_CRLF"]⟩]),
  ("poplib", [
    ⟨.module, [.withheld], ["errno re socket ssl sys"]⟩,
    ⟨.type, [.settable, .base], ["POP3 POP3_SSL"]⟩,
    ⟨.type, [.settable, .base, .madeWithTwo, .madePlain,
        .raised, .takesNothing, .takesNumber, .takesList, .takesTwo], ["error_proto"]⟩,
    ⟨.value, [.bare, .withheld], ["CR CRLF LF"]⟩]),
  ("imaplib", [
    ⟨.module, [.withheld], ["binascii calendar errno random re socket ssl subprocess sys time"]⟩,
    ⟨.routine, [.settable], ["Internaldate2tuple ParseFlags"]⟩,
    ⟨.routine, [.settable, .takesNumber], ["Int2AP Time2Internaldate"]⟩,
    ⟨.type, [.base, .madePlain, .takesNothing, .takesNumber, .withheld], ["timedelta"]⟩,
    ⟨.type, [.base, .withheld], ["datetime"]⟩,
    ⟨.type, [.settable, .base], ["IMAP4 IMAP4_SSL IMAP4_stream"]⟩,
    ⟨.type, [.withheld], ["timezone"]⟩,
    ⟨.value, [.bare, .withheld], [
      "CRLF Commands Continuation Flags InternalDate Literal MapCRLF Mon2num Response_code",
      "Untagged_response Untagged_status"]⟩]),
  ("smtplib", [
    ⟨.module, [.withheld], ["base64 copy datetime email hmac io re socket ssl sys"]⟩,
    ⟨.routine, [.settable], ["quoteaddr quotedata"]⟩,
    ⟨.routine, [.settable, .withheld], ["encode_base64"]⟩,
    ⟨.type, [.settable, .base, .madeWithTwo, .madePlain, .takesNothing], ["SMTP SMTP_SSL"]⟩,
    ⟨.type, [.settable, .base, .madeWithTwo, .madePlain, .takesNothing, .withheld], ["LMTP"]⟩,
    ⟨.type, [.settable, .base, .madeWithTwo, .madePlain,
        .raised, .takesNothing, .takesNumber, .takesList, .takesTwo], [
      "SMTPException SMTPNotSupportedError SMTPServerDisconnected"]⟩,
    ⟨.type, [.settable, .base, .madeWithTwo, .raised, .takesTwo], [
      "SMTPAuthenticationError SMTPConnectError SMTPDataError SMTPHeloError",
      "SMTPResponseException"]⟩,
    ⟨.type, [.settable, .base, .raised], ["SMTPSenderRefused"]⟩,
    ⟨.type, [.settable, .base, .raised, .takesNumber, .takesList], ["SMTPRecipientsRefused"]⟩,
    ⟨.value, [.bare, .withheld], ["OLDSTYLE_AUTH bCRLF"]⟩]),
  ("nntplib", [
    ⟨.module, [.withheld], ["collections datetime re socket ssl sys warnings"]⟩,
    ⟨.routine, [.settable], ["decode_header"]⟩,
    ⟨.type, [.settable, .base], ["NNTP NNTP_SSL"]⟩,
    ⟨.type, [.settable, .base, .madeWithTwo, .madePlain,
        .raised, .takesNothing, .takesNumber, .takesList, .takesTwo], [
      "NNTPDataError NNTPError NNTPPermanentError NNTPProtocolError NNTPReplyError",
      "NNTPTemporaryError"]⟩,
    ⟨.type, [.settable, .indexed, .base, .withheld], ["ArticleInfo GroupInfo"]⟩]),
  ("telnetlib", [
    ⟨.module, [.withheld], ["selectors socket sys warnings"]⟩,
    ⟨.routine, [.settable, .withheld], ["test"]⟩,
    ⟨.type, [.settable, .base, .madeWithTwo, .madePlain, .takesNothing], ["Telnet"]⟩,
    ⟨.value, [.bare, .withheld], [
      "AO AUTHENTICATION AYT BINARY BM BRK CHARSET COM_PORT_OPTION DET DM DO DONT EC ECHO EL",
      "ENCRYPT EOR EXOPL FORWARD_X GA IAC IP KERMIT LFLOW LINEMODE LOGOUT NAMS NAOCRD NAOFFD",
      "NAOHTD NAOHTS NAOL NAOLFD NAOP NAOVTD NAOVTS NAWS NEW_ENVIRON NOOPT NOP OLD_ENVIRON",
      "OUTMRK PRAGMA_HEARTBEAT PRAGMA_LOGON RCP RCTE RSP SB SE SEND_URL SGA SNDLOC SSPI_LOGON",
      "STATUS SUPDUP SUPDUPOUTPUT SUPPRESS_LOCAL_ECHO TLS TM TN3270E TSPEED TTYLOC TTYPE TUID",
      "VT3270REGIME WILL WONT X3PAD XASCII XAUTH XDISPLOC theNULL"]⟩]),
  ("uuid", [
    ⟨.module, [], ["os platform sys"]⟩,
    ⟨.routine, [.settable], ["uuid3 uuid5"]⟩,
    ⟨.routine, [.settable, .takesNothing], ["getnode uuid4"]⟩,
    ⟨.routine, [.settable, .takesNothing, .takesNumber], ["uuid1"]⟩,
    ⟨.type, [.settable], ["SafeUUID"]⟩,
    ⟨.type, [.settable, .base], ["Enum UUID"]⟩,
    ⟨.value, [], ["NAMESPACE_DNS NAMESPACE_OID NAMESPACE_URL NAMESPACE_X500"]⟩]),
  ("xmlrpc", []),
  ("xmlrpc.client", [
    ⟨.module, [], ["base64 errno expat gzip http sys time urllib"]⟩,
    ⟨.routine, [.settable], ["dumps escape gzip_decode gzip_encode loads"]⟩,
    ⟨.routine, [.settable, .takesNothing, .takesNumber, .takesList, .takesTwo], ["getparser"]⟩,
    ⟨.type, [.base], ["datetime"]⟩,
    ⟨.type, [.base, .madePlain, .takesNothing], ["BytesIO"]⟩,
    ⟨.type, [.base, .madePlain, .takesNothing, .takesNumber], ["Decimal"]⟩,
    ⟨.type, [.settable, .base], ["ExpatParser GzipDecodedResponse Server ServerProxy"]⟩,
    ⟨.type, [.settable, .base, .madePlain, .takesNothing], ["Binary"]⟩,
    ⟨.type, [.settable, .base, .madePlain, .takesNothing, .takesNumber], ["DateTime"]⟩,
    ⟨.type, [.settable, .base, .madeWithTwo, .madePlain,
        .takesNothing, .takesNumber, .takesList, .takesTwo], [
      "Marshaller SafeTransport Transport Unmarshaller"]⟩,
    ⟨.type, [.settable, .base, .madeWithTwo, .madePlain,
        .raised, .takesNothing, .takesNumber, .takesList, .takesTwo], ["Error ResponseError"]⟩,
    ⟨.type, [.settable, .base, .madeWithTwo, .raised, .takesTwo], ["Fault"]⟩,
    ⟨.type, [.settable, .base, .takesNumber, .takesList], ["MultiCall MultiCallIterator"]⟩,
    ⟨.type, [.settable, .base, .raised], ["ProtocolError"]⟩,
    ⟨.value, [.bare], ["WRAPPERS"]⟩]),
  ("xmlrpc.server", [
    ⟨.module, [], ["fcntl html http os pydoc re socketserver sys traceback"]⟩,
    ⟨.routine, [.settable], [
      "dumps gzip_decode gzip_encode loads resolve_dotted_attribute signature"]⟩,
    ⟨.routine, [.settable, .takesNumber, .takesList], ["list_public_methods"]⟩,
    ⟨.type, [.indexed, .base, .takesTwo], ["partial"]⟩,
    ⟨.type, [.settable, .base], [
      "BaseHTTPRequestHandler DocXMLRPCRequestHandler DocXMLRPCServer MultiPathXMLRPCServer",
      "SimpleXMLRPCRequestHandler SimpleXMLRPCServer"]⟩,
    ⟨.type, [.settable, .base, .madePlain, .takesNothing], [
      "DocCGIXMLRPCRequestHandler ServerHTMLDoc XMLRPCDocGenerator"]⟩,
    ⟨.type, [.settable, .base, .madeWithTwo, .madePlain,
        .takesNothing, .takesNumber, .takesList, .takesTwo], [
      "CGIXMLRPCRequestHandler SimpleXMLRPCDispatcher"]⟩,
    ⟨.type, [.settable, .base, .madeWithTwo, .raised, .takesTwo], ["Fault"]⟩]),
  ("ipaddress", [
    ⟨.module, [], ["functools"]⟩,
    ⟨.routine, [.settable], ["collapse_addresses"]⟩,
    ⟨.routine, [.settable, .takesNumber], [
      "ip_address ip_interface ip_network v4_int_to_packed v6_int_to_packed"]⟩,
    ⟨.routine, [.settable, .takesNumber, .takesList], ["get_mixed_type_key"]⟩,
    ⟨.routine, [.settable, .takesTwo], ["summarize_address_range"]⟩,
    ⟨.type, [.settable, .base, .madeWithTwo, .madePlain,
        .raised, .takesNothing, .takesNumber, .takesList, .takesTwo], [
      "AddressValueError NetmaskValueError"]⟩,
    ⟨.type, [.settable, .base, .takesNumber], [
      "IPv4Address IPv4Interface IPv4Network IPv6Address IPv6Interface IPv6Network"]⟩]),
  ("cgi", [
    ⟨.module, [.withheld], ["html locale os sys tempfile urllib warnings"]⟩,
    ⟨.routine, [.settable], ["parse_header parse_multipart print_form"]⟩,
    ⟨.routine, [.settable, .takesNothing], [
      "print_arguments print_directory print_environ print_environ_usage"]⟩,
    ⟨.routine, [.settable, .takesNothing, .takesNumber, .takesList], [
      "parse print_exception test"]⟩,
    ⟨.routine, [.settable, .takesNothing, .takesNumber, .takesList, .takesTwo, .withheld], [
      "initlog log nolog"]⟩,
    ⟨.routine, [.settable, .takesNothing, .withheld], ["closelog"]⟩,
    ⟨.routine, [.settable, .withheld], ["dolog valid_boundary"]⟩,
    ⟨.type, [.base, .madePlain, .takesNothing, .withheld], ["BytesIO"]⟩,
    ⟨.type, [.base, .madeWithTwo, .madePlain, .takesNothing, .withheld], ["StringIO"]⟩,
    ⟨.type, [.base, .withheld], ["TextIOWrapper"]⟩,
    ⟨.type, [.settable, .base, .madePlain, .takesNothing, .takesNumber, .takesList, .withheld], [
      "FeedParser Message"]⟩,
    ⟨.type, [.settable, .base, .madeWithTwo,
        .madePlain, .takesNothing, .takesNumber, .takesList], ["FieldStorage"]⟩,
    ⟨.type, [.settable, .base, .madeWithTwo, .takesTwo], ["MiniFieldStorage"]⟩,
    ⟨.type, [.settable, .indexed, .base, .withheld], ["Mapping"]⟩]),
  ("cgitb", [
    ⟨.module, [], [
      "inspect keyword linecache os pydoc sys tempfile time tokenize traceback warnings"]⟩,
    ⟨.routine, [.bare, .takesNothing], ["handler"]⟩,
    ⟨.routine, [.settable], ["grey html html_escape lookup scanvars small strong text"]⟩,
    ⟨.routine, [.settable, .takesNothing], ["reset"]⟩,
    ⟨.routine, [.settable, .takesNothing, .takesNumber, .takesList, .takesTwo], ["enable"]⟩,
    ⟨.type, [.settable, .base, .madeWithTwo, .madePlain,
        .takesNothing, .takesNumber, .takesList, .takesTwo], ["Hook"]⟩])]

end LalrBackend.Code
