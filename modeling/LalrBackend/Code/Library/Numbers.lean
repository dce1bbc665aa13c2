import LalrBackend.Code.Library.Entry
import LalrBackend.Text.Numeral

/-!
# Numbers of standard modules

The numbers that standard modules provide under fixed names.
-/

namespace LalrBackend.Code

/-- Names, each with the number that follows it. -/
def numbersIn : List String → List (String × Int)
  | name :: number :: rest => (name, number.toInt?.getD 0) :: numbersIn rest
  | _ => []

/-- The numbers of modules, each after its name. -/
def standardNumbers : List (String × List String) := [
  ("codeop", ["PyCF_ALLOW_INCOMPLETE_INPUT 16384 PyCF_DONT_IMPLY_DEDENT 512"]),
  ("locale", [
    "ABDAY_1 131072 ABDAY_2 131073 ABDAY_3 131074 ABDAY_4 131075 ABDAY_5 131076",
    "ABDAY_6 131077 ABDAY_7 131078 ABMON_1 131086 ABMON_10 131095 ABMON_11 131096",
    "ABMON_12 131097 ABMON_2 131087 ABMON_3 131088 ABMON_4 131089 ABMON_5 131090",
    "ABMON_6 131091 ABMON_7 131092 ABMON_8 131093 ABMON_9 131094 ALT_DIGITS 131119",
    "AM_STR 131110 CHAR_MAX 127 CODESET 14 CRNCYSTR 262159 DAY_1 131079 DAY_2 131080",
    "DAY_3 131081 DAY_4 131082 DAY_5 131083 DAY_6 131084 DAY_7 131085 D_FMT 131113",
    "D_T_FMT 131112 ERA 131116 ERA_D_FMT 131118 ERA_D_T_FMT 131120 ERA_T_FMT 131121 LC_ALL 6",
    "LC_COLLATE 3 LC_CTYPE 0 LC_MESSAGES 5 LC_MONETARY 4 LC_NUMERIC 1 LC_TIME 2 MON_1 131098",
    "MON_10 131107 MON_11 131108 MON_12 131109 MON_2 131099 MON_3 131100 MON_4 131101",
    "MON_5 131102 MON_6 131103 MON_7 131104 MON_8 131105 MON_9 131106 NOEXPR 327681",
    "PM_STR 131111 RADIXCHAR 65536 THOUSEP 65537 T_FMT 131114 T_FMT_AMPM 131115",
    "YESEXPR 327680"]),
  ("datetime", ["MAXYEAR 9999 MINYEAR 1"]),
  ("calendar", [
    "EPOCH 1970 FRIDAY 4 February 2 January 1 MONDAY 0 SATURDAY 5 SUNDAY 6 THURSDAY 3",
    "TUESDAY 1 WEDNESDAY 2"]),
  ("decimal", [
    "MAX_EMAX 999999999999999999 MAX_PREC 999999999999999999 MIN_EMIN -999999999999999999",
    "MIN_ETINY -1999999999999999997"]),
  ("random", ["BPF 53"]),
  ("pathlib", ["EBADF 9 ELOOP 40 ENOENT 2 ENOTDIR 20"]),
  ("stat", [
    "FILE_ATTRIBUTE_ARCHIVE 32 FILE_ATTRIBUTE_COMPRESSED 2048 FILE_ATTRIBUTE_DEVICE 64",
    "FILE_ATTRIBUTE_DIRECTORY 16 FILE_ATTRIBUTE_ENCRYPTED 16384 FILE_ATTRIBUTE_HIDDEN 2",
    "FILE_ATTRIBUTE_INTEGRITY_STREAM 32768 FILE_ATTRIBUTE_NORMAL 128",
    "FILE_ATTRIBUTE_NOT_CONTENT_INDEXED 8192 FILE_ATTRIBUTE_NO_SCRUB_DATA 131072",
    "FILE_ATTRIBUTE_OFFLINE 4096 FILE_ATTRIBUTE_READONLY 1 FILE_ATTRIBUTE_REPARSE_POINT 1024",
    "FILE_ATTRIBUTE_SPARSE_FILE 512 FILE_ATTRIBUTE_SYSTEM 4 FILE_ATTRIBUTE_TEMPORARY 256",
    "FILE_ATTRIBUTE_VIRTUAL 65536 SF_APPEND 262144 SF_ARCHIVED 65536 SF_IMMUTABLE 131072",
    "SF_NOUNLINK 1048576 SF_SNAPSHOT 2097152 ST_ATIME 7 ST_CTIME 9 ST_DEV 2 ST_GID 5 ST_INO 1",
    "ST_MODE 0 ST_MTIME 8 ST_NLINK 3 ST_SIZE 6 ST_UID 4 S_ENFMT 1024 S_IEXEC 64 S_IFBLK 24576",
    "S_IFCHR 8192 S_IFDIR 16384 S_IFDOOR 0 S_IFIFO 4096 S_IFLNK 40960 S_IFPORT 0",
    "S_IFREG 32768 S_IFSOCK 49152 S_IFWHT 0 S_IREAD 256 S_IRGRP 32 S_IROTH 4 S_IRUSR 256",
    "S_IRWXG 56 S_IRWXO 7 S_IRWXU 448 S_ISGID 1024 S_ISUID 2048 S_ISVTX 512 S_IWGRP 16",
    "S_IWOTH 2 S_IWRITE 128 S_IWUSR 128 S_IXGRP 8 S_IXOTH 1 S_IXUSR 64 UF_APPEND 4",
    "UF_COMPRESSED 32 UF_HIDDEN 32768 UF_IMMUTABLE 2 UF_NODUMP 1 UF_NOUNLINK 16 UF_OPAQUE 8"]),
  ("filecmp", ["BUFSIZE 8192"]),
  ("tempfile", ["TMP_MAX 238328"]),
  ("shutil", ["COPY_BUFSIZE 65536"]),
  ("pickle", ["DEFAULT_PROTOCOL 4 HIGHEST_PROTOCOL 5 maxsize 9223372036854775807"]),
  ("shelve", ["DEFAULT_PROTOCOL 4"]),
  ("marshal", ["version 4"]),
  ("sqlite3", [
    "PARSE_COLNAMES 2 PARSE_DECLTYPES 1 SQLITE_ABORT 4 SQLITE_ABORT_ROLLBACK 516",
    "SQLITE_ALTER_TABLE 26 SQLITE_ANALYZE 28 SQLITE_ATTACH 24 SQLITE_AUTH 23",
    "SQLITE_AUTH_USER 279 SQLITE_BUSY 5 SQLITE_BUSY_RECOVERY 261 SQLITE_BUSY_SNAPSHOT 517",
    "SQLITE_BUSY_TIMEOUT 773 SQLITE_CANTOPEN 14 SQLITE_CANTOPEN_CONVPATH 1038",
    "SQLITE_CANTOPEN_DIRTYWAL 1294 SQLITE_CANTOPEN_FULLPATH 782 SQLITE_CANTOPEN_ISDIR 526",
    "SQLITE_CANTOPEN_NOTEMPDIR 270 SQLITE_CANTOPEN_SYMLINK 1550 SQLITE_CONSTRAINT 19",
    "SQLITE_CONSTRAINT_CHECK 275 SQLITE_CONSTRAINT_COMMITHOOK 531",
    "SQLITE_CONSTRAINT_FOREIGNKEY 787 SQLITE_CONSTRAINT_FUNCTION 1043",
    "SQLITE_CONSTRAINT_NOTNULL 1299 SQLITE_CONSTRAINT_PINNED 2835",
    "SQLITE_CONSTRAINT_PRIMARYKEY 1555 SQLITE_CONSTRAINT_ROWID 2579",
    "SQLITE_CONSTRAINT_TRIGGER 1811 SQLITE_CONSTRAINT_UNIQUE 2067 SQLITE_CONSTRAINT_VTAB 2323",
    "SQLITE_CORRUPT 11 SQLITE_CORRUPT_INDEX 779 SQLITE_CORRUPT_SEQUENCE 523",
    "SQLITE_CORRUPT_VTAB 267 SQLITE_CREATE_INDEX 1 SQLITE_CREATE_TABLE 2",
    "SQLITE_CREATE_TEMP_INDEX 3 SQLITE_CREATE_TEMP_TABLE 4 SQLITE_CREATE_TEMP_TRIGGER 5",
    "SQLITE_CREATE_TEMP_VIEW 6 SQLITE_CREATE_TRIGGER 7 SQLITE_CREATE_VIEW 8",
    "SQLITE_CREATE_VTABLE 29 SQLITE_DELETE 9 SQLITE_DENY 1 SQLITE_DETACH 25 SQLITE_DONE 101",
    "SQLITE_DROP_INDEX 10 SQLITE_DROP_TABLE 11 SQLITE_DROP_TEMP_INDEX 12",
    "SQLITE_DROP_TEMP_TABLE 13 SQLITE_DROP_TEMP_TRIGGER 14 SQLITE_DROP_TEMP_VIEW 15",
    "SQLITE_DROP_TRIGGER 16 SQLITE_DROP_VIEW 17 SQLITE_DROP_VTABLE 30 SQLITE_EMPTY 16",
    "SQLITE_ERROR 1 SQLITE_ERROR_MISSING_COLLSEQ 257 SQLITE_ERROR_RETRY 513",
    "SQLITE_ERROR_SNAPSHOT 769 SQLITE_FORMAT 24 SQLITE_FULL 13 SQLITE_FUNCTION 31",
    "SQLITE_IGNORE 2 SQLITE_INSERT 18 SQLITE_INTERNAL 2 SQLITE_INTERRUPT 9 SQLITE_IOERR 10",
    "SQLITE_IOERR_ACCESS 3338 SQLITE_IOERR_AUTH 7178 SQLITE_IOERR_BEGIN_ATOMIC 7434",
    "SQLITE_IOERR_BLOCKED 2826 SQLITE_IOERR_CHECKRESERVEDLOCK 3594 SQLITE_IOERR_CLOSE 4106",
    "SQLITE_IOERR_COMMIT_ATOMIC 7690 SQLITE_IOERR_CONVPATH 6666 SQLITE_IOERR_CORRUPTFS 8458",
    "SQLITE_IOERR_DATA 8202 SQLITE_IOERR_DELETE 2570 SQLITE_IOERR_DELETE_NOENT 5898",
    "SQLITE_IOERR_DIR_CLOSE 4362 SQLITE_IOERR_DIR_FSYNC 1290 SQLITE_IOERR_FSTAT 1802",
    "SQLITE_IOERR_FSYNC 1034 SQLITE_IOERR_GETTEMPPATH 6410 SQLITE_IOERR_LOCK 3850",
    "SQLITE_IOERR_MMAP 6154 SQLITE_IOERR_NOMEM 3082 SQLITE_IOERR_RDLOCK 2314",
    "SQLITE_IOERR_READ 266 SQLITE_IOERR_ROLLBACK_ATOMIC 7946 SQLITE_IOERR_SEEK 5642",
    "SQLITE_IOERR_SHMLOCK 5130 SQLITE_IOERR_SHMMAP 5386 SQLITE_IOERR_SHMOPEN 4618",
    "SQLITE_IOERR_SHMSIZE 4874 SQLITE_IOERR_SHORT_READ 522 SQLITE_IOERR_TRUNCATE 1546",
    "SQLITE_IOERR_UNLOCK 2058 SQLITE_IOERR_VNODE 6922 SQLITE_IOERR_WRITE 778",
    "SQLITE_LIMIT_ATTACHED 7 SQLITE_LIMIT_COLUMN 2 SQLITE_LIMIT_COMPOUND_SELECT 4",
    "SQLITE_LIMIT_EXPR_DEPTH 3 SQLITE_LIMIT_FUNCTION_ARG 6 SQLITE_LIMIT_LENGTH 0",
    "SQLITE_LIMIT_LIKE_PATTERN_LENGTH 8 SQLITE_LIMIT_SQL_LENGTH 1",
    "SQLITE_LIMIT_TRIGGER_DEPTH 10 SQLITE_LIMIT_VARIABLE_NUMBER 9 SQLITE_LIMIT_VDBE_OP 5",
    "SQLITE_LIMIT_WORKER_THREADS 11 SQLITE_LOCKED 6 SQLITE_LOCKED_SHAREDCACHE 262",
    "SQLITE_LOCKED_VTAB 518 SQLITE_MISMATCH 20 SQLITE_MISUSE 21 SQLITE_NOLFS 22",
    "SQLITE_NOMEM 7 SQLITE_NOTADB 26 SQLITE_NOTFOUND 12 SQLITE_NOTICE 27",
    "SQLITE_NOTICE_RECOVER_ROLLBACK 539 SQLITE_NOTICE_RECOVER_WAL 283 SQLITE_OK 0",
    "SQLITE_OK_LOAD_PERMANENTLY 256 SQLITE_OK_SYMLINK 512 SQLITE_PERM 3 SQLITE_PRAGMA 19",
    "SQLITE_PROTOCOL 15 SQLITE_RANGE 25 SQLITE_READ 20 SQLITE_READONLY 8",
    "SQLITE_READONLY_CANTINIT 1288 SQLITE_READONLY_CANTLOCK 520 SQLITE_READONLY_DBMOVED 1032",
    "SQLITE_READONLY_DIRECTORY 1544 SQLITE_READONLY_RECOVERY 264 SQLITE_READONLY_ROLLBACK 776",
    "SQLITE_RECURSIVE 33 SQLITE_REINDEX 27 SQLITE_ROW 100 SQLITE_SAVEPOINT 32",
    "SQLITE_SCHEMA 17 SQLITE_SELECT 21 SQLITE_TOOBIG 18 SQLITE_TRANSACTION 22",
    "SQLITE_UPDATE 23 SQLITE_WARNING 28 SQLITE_WARNING_AUTOINDEX 284 threadsafety 3"]),
  ("zlib", [
    "DEFLATED 8 DEF_BUF_SIZE 16384 DEF_MEM_LEVEL 8 MAX_WBITS 15 Z_BEST_COMPRESSION 9",
    "Z_BEST_SPEED 1 Z_BLOCK 5 Z_DEFAULT_COMPRESSION -1 Z_DEFAULT_STRATEGY 0 Z_FILTERED 1",
    "Z_FINISH 4 Z_FIXED 4 Z_FULL_FLUSH 3 Z_HUFFMAN_ONLY 2 Z_NO_COMPRESSION 0 Z_NO_FLUSH 0",
    "Z_PARTIAL_FLUSH 1 Z_RLE 3 Z_SYNC_FLUSH 2 Z_TREES 6"]),
  ("gzip", ["FCOMMENT 16 FEXTRA 4 FHCRC 2 FNAME 8 FTEXT 1 READ 1 WRITE 2"]),
  ("lzma", [
    "CHECK_CRC32 1 CHECK_CRC64 4 CHECK_ID_MAX 15 CHECK_NONE 0 CHECK_SHA256 10",
    "CHECK_UNKNOWN 16 FILTER_ARM 7 FILTER_ARMTHUMB 8 FILTER_DELTA 3 FILTER_IA64 6",
    "FILTER_LZMA1 4611686018427387905 FILTER_LZMA2 33 FILTER_POWERPC 5 FILTER_SPARC 9",
    "FILTER_X86 4 FORMAT_ALONE 2 FORMAT_AUTO 0 FORMAT_RAW 3 FORMAT_XZ 1 MF_BT2 18 MF_BT3 19",
    "MF_BT4 20 MF_HC3 3 MF_HC4 4 MODE_FAST 1 MODE_NORMAL 2 PRESET_DEFAULT 6",
    "PRESET_EXTREME 2147483648"]),
  ("zipfile", [
    "BZIP2_VERSION 46 DEFAULT_VERSION 20 LZMA_VERSION 63 MAX_EXTRACT_VERSION 63",
    "ZIP64_LIMIT 2147483647 ZIP64_VERSION 45 ZIP_BZIP2 12 ZIP_DEFLATED 8",
    "ZIP_FILECOUNT_LIMIT 65535 ZIP_LZMA 14 ZIP_MAX_COMMENT 65535 ZIP_STORED 0",
    "sizeCentralDir 46 sizeEndCentDir 22 sizeEndCentDir64 56 sizeEndCentDir64Locator 20",
    "sizeFileHeader 30"]),
  ("tarfile", [
    "BLOCKSIZE 512 DEFAULT_FORMAT 2 GNU_FORMAT 1 LENGTH_LINK 100 LENGTH_NAME 100",
    "LENGTH_PREFIX 155 PAX_FORMAT 2 RECORDSIZE 10240 USTAR_FORMAT 0"]),
  ("csv", ["QUOTE_ALL 1 QUOTE_MINIMAL 0 QUOTE_NONE 3 QUOTE_NONNUMERIC 2"]),
  ("configparser", ["MAX_INTERPOLATION_DEPTH 10"]),
  ("secrets", ["DEFAULT_ENTROPY 32"]),
  ("os", ["P_NOWAIT 1 P_NOWAITO 1 P_WAIT 0 SEEK_CUR 1 SEEK_END 2 SEEK_SET 0"]),
  ("posix", [
    "CLD_CONTINUED 6 CLD_DUMPED 3 CLD_EXITED 1 CLD_KILLED 2 CLD_STOPPED 5 CLD_TRAPPED 4",
    "EFD_CLOEXEC 524288 EFD_NONBLOCK 2048 EFD_SEMAPHORE 1 EX_CANTCREAT 73 EX_CONFIG 78",
    "EX_DATAERR 65 EX_IOERR 74 EX_NOHOST 68 EX_NOINPUT 66 EX_NOPERM 77 EX_NOUSER 67 EX_OK 0",
    "EX_OSERR 71 EX_OSFILE 72 EX_PROTOCOL 76 EX_SOFTWARE 70 EX_TEMPFAIL 75 EX_UNAVAILABLE 69",
    "EX_USAGE 64 F_LOCK 1 F_OK 0 F_TEST 3 F_TLOCK 2 F_ULOCK 0 NGROUPS_MAX 65536 O_ACCMODE 3",
    "O_APPEND 1024 O_ASYNC 8192 O_CLOEXEC 524288 O_CREAT 64 O_DIRECT 16384 O_DIRECTORY 65536",
    "O_DSYNC 4096 O_EXCL 128 O_FSYNC 1052672 O_LARGEFILE 0 O_NDELAY 2048 O_NOATIME 262144",
    "O_NOCTTY 256 O_NOFOLLOW 131072 O_NONBLOCK 2048 O_PATH 2097152 O_RDONLY 0 O_RDWR 2",
    "O_RSYNC 1052672 O_SYNC 1052672 O_TMPFILE 4259840 O_TRUNC 512 O_WRONLY 1",
    "POSIX_FADV_DONTNEED 4 POSIX_FADV_NOREUSE 5 POSIX_FADV_NORMAL 0 POSIX_FADV_RANDOM 1",
    "POSIX_FADV_SEQUENTIAL 2 POSIX_FADV_WILLNEED 3 POSIX_SPAWN_CLOSE 1 POSIX_SPAWN_DUP2 2",
    "POSIX_SPAWN_OPEN 0 PRIO_PGRP 1 PRIO_PROCESS 0 PRIO_USER 2 P_ALL 0 P_PGID 2 P_PID 1",
    "RTLD_DEEPBIND 8 RTLD_GLOBAL 256 RTLD_LAZY 1 RTLD_LOCAL 0 RTLD_NODELETE 4096",
    "RTLD_NOLOAD 4 RTLD_NOW 2 R_OK 4 SCHED_BATCH 3 SCHED_FIFO 1 SCHED_IDLE 5 SCHED_OTHER 0",
    "SCHED_RESET_ON_FORK 1073741824 SCHED_RR 2 SEEK_DATA 3 SEEK_HOLE 4 SPLICE_F_MORE 4",
    "SPLICE_F_MOVE 1 SPLICE_F_NONBLOCK 2 ST_APPEND 256 ST_MANDLOCK 64 ST_NOATIME 1024",
    "ST_NODEV 4 ST_NODIRATIME 2048 ST_NOEXEC 8 ST_NOSUID 2 ST_RDONLY 1 ST_RELATIME 4096",
    "ST_SYNCHRONOUS 16 ST_WRITE 128 TMP_MAX 238328 WCONTINUED 8 WEXITED 4 WNOHANG 1",
    "WNOWAIT 16777216 WSTOPPED 2 WUNTRACED 2 W_OK 2 XATTR_CREATE 1 XATTR_REPLACE 2",
    "XATTR_SIZE_MAX 65536 X_OK 1"]),
  ("io", ["DEFAULT_BUFFER_SIZE 8192 SEEK_CUR 1 SEEK_END 2 SEEK_SET 0"]),
  ("time", [
    "CLOCK_BOOTTIME 7 CLOCK_MONOTONIC 1 CLOCK_MONOTONIC_RAW 4 CLOCK_PROCESS_CPUTIME_ID 2",
    "CLOCK_REALTIME 0 CLOCK_THREAD_CPUTIME_ID 3 altzone 0 daylight 0 timezone 0"]),
  ("logging", ["CRITICAL 50 DEBUG 10 ERROR 40 FATAL 50 INFO 20 NOTSET 0 WARN 30 WARNING 30"]),
  ("logging.config", ["DEFAULT_LOGGING_CONFIG_PORT 9030 RESET_ERROR 104"]),
  ("logging.handlers", [
    "DEFAULT_HTTP_LOGGING_PORT 9022 DEFAULT_SOAP_LOGGING_PORT 9023",
    "DEFAULT_TCP_LOGGING_PORT 9020 DEFAULT_UDP_LOGGING_PORT 9021 ST_DEV 2 ST_INO 1 ST_MTIME 8",
    "SYSLOG_TCP_PORT 514 SYSLOG_UDP_PORT 514"]),
  ("curses", [
    "ALL_MOUSE_EVENTS 268435455 A_ALTCHARSET 4194304 A_ATTRIBUTES 4294967040 A_BLINK 524288",
    "A_BOLD 2097152 A_CHARTEXT 255 A_COLOR 65280 A_DIM 1048576 A_HORIZONTAL 33554432",
    "A_INVIS 8388608 A_ITALIC 2147483648 A_LEFT 67108864 A_LOW 134217728 A_NORMAL 0",
    "A_PROTECT 16777216 A_REVERSE 262144 A_RIGHT 268435456 A_STANDOUT 65536 A_TOP 536870912",
    "A_UNDERLINE 131072 A_VERTICAL 1073741824 BUTTON1_CLICKED 4 BUTTON1_DOUBLE_CLICKED 8",
    "BUTTON1_PRESSED 2 BUTTON1_RELEASED 1 BUTTON1_TRIPLE_CLICKED 16 BUTTON2_CLICKED 128",
    "BUTTON2_DOUBLE_CLICKED 256 BUTTON2_PRESSED 64 BUTTON2_RELEASED 32",
    "BUTTON2_TRIPLE_CLICKED 512 BUTTON3_CLICKED 4096 BUTTON3_DOUBLE_CLICKED 8192",
    "BUTTON3_PRESSED 2048 BUTTON3_RELEASED 1024 BUTTON3_TRIPLE_CLICKED 16384",
    "BUTTON4_CLICKED 131072 BUTTON4_DOUBLE_CLICKED 262144 BUTTON4_PRESSED 65536",
    "BUTTON4_RELEASED 32768 BUTTON4_TRIPLE_CLICKED 524288 BUTTON5_CLICKED 4194304",
    "BUTTON5_DOUBLE_CLICKED 8388608 BUTTON5_PRESSED 2097152 BUTTON5_RELEASED 1048576",
    "BUTTON5_TRIPLE_CLICKED 16777216 BUTTON_ALT 134217728 BUTTON_CTRL 33554432",
    "BUTTON_SHIFT 67108864 COLOR_BLACK 0 COLOR_BLUE 4 COLOR_CYAN 6 COLOR_GREEN 2",
    "COLOR_MAGENTA 5 COLOR_RED 1 COLOR_WHITE 7 COLOR_YELLOW 3 ERR -1 KEY_A1 348 KEY_A3 349",
    "KEY_B2 350 KEY_BACKSPACE 263 KEY_BEG 354 KEY_BREAK 257 KEY_BTAB 353 KEY_C1 351",
    "KEY_C3 352 KEY_CANCEL 355 KEY_CATAB 342 KEY_CLEAR 333 KEY_CLOSE 356 KEY_COMMAND 357",
    "KEY_COPY 358 KEY_CREATE 359 KEY_CTAB 341 KEY_DC 330 KEY_DL 328 KEY_DOWN 258 KEY_EIC 332",
    "KEY_END 360 KEY_ENTER 343 KEY_EOL 335 KEY_EOS 334 KEY_EXIT 361 KEY_F0 264 KEY_F1 265",
    "KEY_F10 274 KEY_F11 275 KEY_F12 276 KEY_F13 277 KEY_F14 278 KEY_F15 279 KEY_F16 280",
    "KEY_F17 281 KEY_F18 282 KEY_F19 283 KEY_F2 266 KEY_F20 284 KEY_F21 285 KEY_F22 286",
    "KEY_F23 287 KEY_F24 288 KEY_F25 289 KEY_F26 290 KEY_F27 291 KEY_F28 292 KEY_F29 293",
    "KEY_F3 267 KEY_F30 294 KEY_F31 295 KEY_F32 296 KEY_F33 297 KEY_F34 298 KEY_F35 299",
    "KEY_F36 300 KEY_F37 301 KEY_F38 302 KEY_F39 303 KEY_F4 268 KEY_F40 304 KEY_F41 305",
    "KEY_F42 306 KEY_F43 307 KEY_F44 308 KEY_F45 309 KEY_F46 310 KEY_F47 311 KEY_F48 312",
    "KEY_F49 313 KEY_F5 269 KEY_F50 314 KEY_F51 315 KEY_F52 316 KEY_F53 317 KEY_F54 318",
    "KEY_F55 319 KEY_F56 320 KEY_F57 321 KEY_F58 322 KEY_F59 323 KEY_F6 270 KEY_F60 324",
    "KEY_F61 325 KEY_F62 326 KEY_F63 327 KEY_F7 271 KEY_F8 272 KEY_F9 273 KEY_FIND 362",
    "KEY_HELP 363 KEY_HOME 262 KEY_IC 331 KEY_IL 329 KEY_LEFT 260 KEY_LL 347 KEY_MARK 364",
    "KEY_MAX 511 KEY_MESSAGE 365 KEY_MIN 257 KEY_MOUSE 409 KEY_MOVE 366 KEY_NEXT 367",
    "KEY_NPAGE 338 KEY_OPEN 368 KEY_OPTIONS 369 KEY_PPAGE 339 KEY_PREVIOUS 370 KEY_PRINT 346",
    "KEY_REDO 371 KEY_REFERENCE 372 KEY_REFRESH 373 KEY_REPLACE 374 KEY_RESET 345",
    "KEY_RESIZE 410 KEY_RESTART 375 KEY_RESUME 376 KEY_RIGHT 261 KEY_SAVE 377 KEY_SBEG 378",
    "KEY_SCANCEL 379 KEY_SCOMMAND 380 KEY_SCOPY 381 KEY_SCREATE 382 KEY_SDC 383 KEY_SDL 384",
    "KEY_SELECT 385 KEY_SEND 386 KEY_SEOL 387 KEY_SEXIT 388 KEY_SF 336 KEY_SFIND 389",
    "KEY_SHELP 390 KEY_SHOME 391 KEY_SIC 392 KEY_SLEFT 393 KEY_SMESSAGE 394 KEY_SMOVE 395",
    "KEY_SNEXT 396 KEY_SOPTIONS 397 KEY_SPREVIOUS 398 KEY_SPRINT 399 KEY_SR 337 KEY_SREDO 400",
    "KEY_SREPLACE 401 KEY_SRESET 344 KEY_SRIGHT 402 KEY_SRSUME 403 KEY_SSAVE 404",
    "KEY_SSUSPEND 405 KEY_STAB 340 KEY_SUNDO 406 KEY_SUSPEND 407 KEY_UNDO 408 KEY_UP 259 OK 0",
    "REPORT_MOUSE_POSITION 268435456"]),
  ("curses.ascii", [
    "ACK 6 BEL 7 BS 8 CAN 24 CR 13 DC1 17 DC2 18 DC3 19 DC4 20 DEL 127 DLE 16 EM 25 ENQ 5",
    "EOT 4 ESC 27 ETB 23 ETX 3 FF 12 FS 28 GS 29 HT 9 LF 10 NAK 21 NL 10 NUL 0 RS 30 SI 15",
    "SO 14 SOH 1 SP 32 STX 2 SUB 26 SYN 22 TAB 9 US 31 VT 11"]),
  ("errno", [
    "E2BIG 7 EACCES 13 EADDRINUSE 98 EADDRNOTAVAIL 99 EADV 68 EAFNOSUPPORT 97 EAGAIN 11",
    "EALREADY 114 EBADE 52 EBADF 9 EBADFD 77 EBADMSG 74 EBADR 53 EBADRQC 56 EBADSLT 57",
    "EBFONT 59 EBUSY 16 ECANCELED 125 ECHILD 10 ECHRNG 44 ECOMM 70 ECONNABORTED 103",
    "ECONNREFUSED 111 ECONNRESET 104 EDEADLK 35 EDEADLOCK 35 EDESTADDRREQ 89 EDOM 33",
    "EDOTDOT 73 EDQUOT 122 EEXIST 17 EFAULT 14 EFBIG 27 EHOSTDOWN 112 EHOSTUNREACH 113",
    "EIDRM 43 EILSEQ 84 EINPROGRESS 115 EINTR 4 EINVAL 22 EIO 5 EISCONN 106 EISDIR 21",
    "EISNAM 120 EKEYEXPIRED 127 EKEYREJECTED 129 EKEYREVOKED 128 EL2HLT 51 EL2NSYNC 45",
    "EL3HLT 46 EL3RST 47 ELIBACC 79 ELIBBAD 80 ELIBEXEC 83 ELIBMAX 82 ELIBSCN 81 ELNRNG 48",
    "ELOOP 40 EMEDIUMTYPE 124 EMFILE 24 EMLINK 31 EMSGSIZE 90 EMULTIHOP 72 ENAMETOOLONG 36",
    "ENAVAIL 119 ENETDOWN 100 ENETRESET 102 ENETUNREACH 101 ENFILE 23 ENOANO 55 ENOBUFS 105",
    "ENOCSI 50 ENODATA 61 ENODEV 19 ENOENT 2 ENOEXEC 8 ENOKEY 126 ENOLCK 37 ENOLINK 67",
    "ENOMEDIUM 123 ENOMEM 12 ENOMSG 42 ENONET 64 ENOPKG 65 ENOPROTOOPT 92 ENOSPC 28 ENOSR 63",
    "ENOSTR 60 ENOSYS 38 ENOTBLK 15 ENOTCONN 107 ENOTDIR 20 ENOTEMPTY 39 ENOTNAM 118",
    "ENOTRECOVERABLE 131 ENOTSOCK 88 ENOTSUP 95 ENOTTY 25 ENOTUNIQ 76 ENXIO 6 EOPNOTSUPP 95",
    "EOVERFLOW 75 EOWNERDEAD 130 EPERM 1 EPFNOSUPPORT 96 EPIPE 32 EPROTO 71",
    "EPROTONOSUPPORT 93 EPROTOTYPE 91 ERANGE 34 EREMCHG 78 EREMOTE 66 EREMOTEIO 121",
    "ERESTART 85 ERFKILL 132 EROFS 30 ESHUTDOWN 108 ESOCKTNOSUPPORT 94 ESPIPE 29 ESRCH 3",
    "ESRMNT 69 ESTALE 116 ESTRPIPE 86 ETIME 62 ETIMEDOUT 110 ETOOMANYREFS 109 ETXTBSY 26",
    "EUCLEAN 117 EUNATCH 49 EUSERS 87 EWOULDBLOCK 11 EXDEV 18 EXFULL 54"]),
  ("ctypes", ["DEFAULT_MODE 0 RTLD_GLOBAL 256 RTLD_LOCAL 0"]),
  ("termios", [
    "B0 0 B1000000 4104 B110 3 B115200 4098 B1152000 4105 B1200 9 B134 4 B150 5 B1500000 4106",
    "B1800 10 B19200 14 B200 6 B2000000 4107 B230400 4099 B2400 11 B2500000 4108 B300 7",
    "B3000000 4109 B3500000 4110 B38400 15 B4000000 4111 B460800 4100 B4800 12 B50 1",
    "B500000 4101 B57600 4097 B576000 4102 B600 8 B75 2 B921600 4103 B9600 13 BRKINT 2 BS0 0",
    "BS1 8192 BSDLY 8192 CBAUD 4111 CBAUDEX 4096 CDSUSP 25 CEOF 4 CEOL 0 CEOT 4 CERASE 127",
    "CFLUSH 15 CIBAUD 269418496 CINTR 3 CKILL 21 CLNEXT 22 CLOCAL 2048 CQUIT 28 CR0 0 CR1 512",
    "CR2 1024 CR3 1536 CRDLY 1536 CREAD 128 CRPRNT 18 CRTSCTS 2147483648 CS5 0 CS6 16 CS7 32",
    "CS8 48 CSIZE 48 CSTART 17 CSTOP 19 CSTOPB 64 CSUSP 26 CWERASE 23 ECHO 8 ECHOCTL 512",
    "ECHOE 16 ECHOK 32 ECHOKE 2048 ECHONL 64 ECHOPRT 1024 EXTA 14 EXTB 15 FF0 0 FF1 32768",
    "FFDLY 32768 FIOASYNC 21586 FIOCLEX 21585 FIONBIO 21537 FIONCLEX 21584 FIONREAD 21531",
    "FLUSHO 4096 HUPCL 1024 ICANON 2 ICRNL 256 IEXTEN 32768 IGNBRK 1 IGNCR 128 IGNPAR 4",
    "IMAXBEL 8192 INLCR 64 INPCK 16 IOCSIZE_MASK 1073676288 IOCSIZE_SHIFT 16 ISIG 1 ISTRIP 32",
    "IUCLC 512 IXANY 2048 IXOFF 4096 IXON 1024 NCC 8 NCCS 32 NL0 0 NL1 256 NLDLY 256",
    "NOFLSH 128 N_MOUSE 2 N_PPP 3 N_SLIP 1 N_STRIP 4 N_TTY 0 OCRNL 8 OFDEL 128 OFILL 64",
    "OLCUC 2 ONLCR 4 ONLRET 32 ONOCR 16 OPOST 1 PARENB 256 PARMRK 8 PARODD 512 PENDIN 16384",
    "TAB0 0 TAB1 2048 TAB2 4096 TAB3 6144 TABDLY 6144 TCFLSH 21515 TCGETA 21509 TCGETS 21505",
    "TCIFLUSH 0 TCIOFF 2 TCIOFLUSH 2 TCION 3 TCOFLUSH 1 TCOOFF 0 TCOON 1 TCSADRAIN 1",
    "TCSAFLUSH 2 TCSANOW 0 TCSBRK 21513 TCSBRKP 21541 TCSETA 21510 TCSETAF 21512",
    "TCSETAW 21511 TCSETS 21506 TCSETSF 21508 TCSETSW 21507 TCXONC 21514 TIOCCONS 21533",
    "TIOCEXCL 21516 TIOCGETD 21540 TIOCGICOUNT 21597 TIOCGLCKTRMIOS 21590 TIOCGPGRP 21519",
    "TIOCGSERIAL 21534 TIOCGSOFTCAR 21529 TIOCGWINSZ 21523 TIOCINQ 21531 TIOCLINUX 21532",
    "TIOCMBIC 21527 TIOCMBIS 21526 TIOCMGET 21525 TIOCMIWAIT 21596 TIOCMSET 21528",
    "TIOCM_CAR 64 TIOCM_CD 64 TIOCM_CTS 32 TIOCM_DSR 256 TIOCM_DTR 2 TIOCM_LE 1 TIOCM_RI 128",
    "TIOCM_RNG 128 TIOCM_RTS 4 TIOCM_SR 16 TIOCM_ST 8 TIOCNOTTY 21538 TIOCNXCL 21517",
    "TIOCOUTQ 21521 TIOCPKT 21536 TIOCPKT_DATA 0 TIOCPKT_DOSTOP 32 TIOCPKT_FLUSHREAD 1",
    "TIOCPKT_FLUSHWRITE 2 TIOCPKT_NOSTOP 16 TIOCPKT_START 8 TIOCPKT_STOP 4 TIOCSCTTY 21518",
    "TIOCSERCONFIG 21587 TIOCSERGETLSR 21593 TIOCSERGETMULTI 21594 TIOCSERGSTRUCT 21592",
    "TIOCSERGWILD 21588 TIOCSERSETMULTI 21595 TIOCSERSWILD 21589 TIOCSER_TEMT 1",
    "TIOCSETD 21539 TIOCSLCKTRMIOS 21591 TIOCSPGRP 21520 TIOCSSERIAL 21535 TIOCSSOFTCAR 21530",
    "TIOCSTI 21522 TIOCSWINSZ 21524 TOSTOP 256 VDISCARD 13 VEOF 4 VEOL 11 VEOL2 16 VERASE 2",
    "VINTR 0 VKILL 3 VLNEXT 15 VMIN 6 VQUIT 1 VREPRINT 12 VSTART 8 VSTOP 9 VSUSP 10 VSWTC 7",
    "VSWTCH 7 VT0 0 VT1 16384 VTDLY 16384 VTIME 5 VWERASE 14 XCASE 4 XTABS 6144"]),
  ("tty", ["CC 6 CFLAG 2 IFLAG 0 ISPEED 4 LFLAG 3 OFLAG 1 OSPEED 5"]),
  ("pty", ["CHILD 0 STDERR_FILENO 2 STDIN_FILENO 0 STDOUT_FILENO 1"]),
  ("fcntl", [
    "DN_ACCESS 1 DN_ATTRIB 32 DN_CREATE 4 DN_DELETE 8 DN_MODIFY 2 DN_MULTISHOT 2147483648",
    "DN_RENAME 16 FASYNC 8192 FD_CLOEXEC 1 F_DUPFD 0 F_DUPFD_CLOEXEC 1030 F_EXLCK 4 F_GETFD 1",
    "F_GETFL 3 F_GETLEASE 1025 F_GETLK 5 F_GETLK64 5 F_GETOWN 9 F_GETPIPE_SZ 1032 F_GETSIG 11",
    "F_NOTIFY 1026 F_RDLCK 0 F_SETFD 2 F_SETFL 4 F_SETLEASE 1024 F_SETLK 6 F_SETLK64 6",
    "F_SETLKW 7 F_SETLKW64 7 F_SETOWN 8 F_SETPIPE_SZ 1031 F_SETSIG 10 F_SHLCK 8 F_UNLCK 2",
    "F_WRLCK 1 I_ATMARK 21279 I_CANPUT 21282 I_CKBAND 21277 I_FDINSERT 21264 I_FIND 21259",
    "I_FLUSH 21253 I_FLUSHBAND 21276 I_GETBAND 21278 I_GETCLTIME 21281 I_GETSIG 21258",
    "I_GRDOPT 21255 I_GWROPT 21268 I_LINK 21260 I_LIST 21269 I_LOOK 21252 I_NREAD 21249",
    "I_PEEK 21263 I_PLINK 21270 I_POP 21251 I_PUNLINK 21271 I_PUSH 21250 I_RECVFD 21262",
    "I_SENDFD 21265 I_SETCLTIME 21280 I_SETSIG 21257 I_SRDOPT 21254 I_STR 21256",
    "I_SWROPT 21267 I_UNLINK 21261 LOCK_EX 2 LOCK_MAND 32 LOCK_NB 4 LOCK_READ 64 LOCK_RW 192",
    "LOCK_SH 1 LOCK_UN 8 LOCK_WRITE 128"]),
  ("resource", [
    "RLIMIT_AS 9 RLIMIT_CORE 4 RLIMIT_CPU 0 RLIMIT_DATA 2 RLIMIT_FSIZE 1 RLIMIT_MEMLOCK 8",
    "RLIMIT_MSGQUEUE 12 RLIMIT_NICE 13 RLIMIT_NOFILE 7 RLIMIT_NPROC 6 RLIMIT_OFILE 7",
    "RLIMIT_RSS 5 RLIMIT_RTPRIO 14 RLIMIT_RTTIME 15 RLIMIT_SIGPENDING 11 RLIMIT_STACK 3",
    "RLIM_INFINITY -1 RUSAGE_CHILDREN -1 RUSAGE_SELF 0 RUSAGE_THREAD 1"]),
  ("syslog", [
    "LOG_ALERT 1 LOG_AUTH 32 LOG_AUTHPRIV 80 LOG_CONS 2 LOG_CRIT 2 LOG_CRON 72 LOG_DAEMON 24",
    "LOG_DEBUG 7 LOG_EMERG 0 LOG_ERR 3 LOG_INFO 6 LOG_KERN 0 LOG_LOCAL0 128 LOG_LOCAL1 136",
    "LOG_LOCAL2 144 LOG_LOCAL3 152 LOG_LOCAL4 160 LOG_LOCAL5 168 LOG_LOCAL6 176",
    "LOG_LOCAL7 184 LOG_LPR 48 LOG_MAIL 16 LOG_NDELAY 8 LOG_NEWS 56 LOG_NOTICE 5",
    "LOG_NOWAIT 16 LOG_ODELAY 4 LOG_PERROR 32 LOG_PID 1 LOG_SYSLOG 40 LOG_USER 8 LOG_UUCP 64",
    "LOG_WARNING 4"]),
  ("mmap", [
    "ACCESS_COPY 3 ACCESS_DEFAULT 0 ACCESS_READ 1 ACCESS_WRITE 2 ALLOCATIONGRANULARITY 4096",
    "MADV_DODUMP 17 MADV_DOFORK 11 MADV_DONTDUMP 16 MADV_DONTFORK 10 MADV_DONTNEED 4",
    "MADV_HUGEPAGE 14 MADV_HWPOISON 100 MADV_MERGEABLE 12 MADV_NOHUGEPAGE 15 MADV_NORMAL 0",
    "MADV_RANDOM 1 MADV_REMOVE 9 MADV_SEQUENTIAL 2 MADV_UNMERGEABLE 13 MADV_WILLNEED 3",
    "MAP_ANON 32 MAP_ANONYMOUS 32 MAP_DENYWRITE 2048 MAP_EXECUTABLE 4096 MAP_POPULATE 32768",
    "MAP_PRIVATE 2 MAP_SHARED 1 MAP_STACK 131072 PAGESIZE 4096 PROT_EXEC 4 PROT_READ 1",
    "PROT_WRITE 2"]),
  ("signal", ["ITIMER_PROF 2 ITIMER_REAL 0 ITIMER_VIRTUAL 1 NSIG 65"]),
  ("select", [
    "EPOLLERR 8 EPOLLET 2147483648 EPOLLHUP 16 EPOLLIN 1 EPOLLMSG 1024",
    "EPOLLONESHOT 1073741824 EPOLLOUT 4 EPOLLPRI 2 EPOLLRDBAND 128 EPOLLRDHUP 8192",
    "EPOLLRDNORM 64 EPOLLWRBAND 512 EPOLLWRNORM 256 EPOLL_CLOEXEC 524288 PIPE_BUF 4096",
    "POLLERR 8 POLLHUP 16 POLLIN 1 POLLMSG 1024 POLLNVAL 32 POLLOUT 4 POLLPRI 2",
    "POLLRDBAND 128 POLLRDHUP 8192 POLLRDNORM 64 POLLWRBAND 512 POLLWRNORM 256"]),
  ("selectors", ["EVENT_READ 1 EVENT_WRITE 2"]),
  ("multiprocessing", ["SUBDEBUG 5 SUBWARNING 25"]),
  ("multiprocessing.connection", ["BUFSIZE 8192 MESSAGE_LENGTH 20"]),
  ("multiprocessing.synchronize", ["RECURSIVE_MUTEX 0 SEMAPHORE 1 SEM_VALUE_MAX 2147483647"]),
  ("concurrent.futures.process", ["EXTRA_QUEUED_CALLS 1"]),
  ("subprocess", ["DEVNULL -3 PIPE -1 STDOUT -2"]),
  ("asyncio.futures", ["STACK_DEBUG 9"]),
  ("asyncio.subprocess", ["DEVNULL -3 PIPE -1 STDOUT -2"]),
  ("socket", [
    "AF_DECnet 12 ALG_OP_DECRYPT 0 ALG_OP_ENCRYPT 1 ALG_OP_SIGN 2 ALG_OP_VERIFY 3",
    "ALG_SET_AEAD_ASSOCLEN 4 ALG_SET_AEAD_AUTHSIZE 5 ALG_SET_IV 2 ALG_SET_KEY 1 ALG_SET_OP 3",
    "ALG_SET_PUBKEY 6 CAN_BCM 2 CAN_BCM_RX_ANNOUNCE_RESUME 256 CAN_BCM_RX_CHANGED 12",
    "CAN_BCM_RX_CHECK_DLC 64 CAN_BCM_RX_DELETE 6 CAN_BCM_RX_FILTER_ID 32",
    "CAN_BCM_RX_NO_AUTOTIMER 128 CAN_BCM_RX_READ 7 CAN_BCM_RX_RTR_FRAME 1024",
    "CAN_BCM_RX_SETUP 5 CAN_BCM_RX_STATUS 10 CAN_BCM_RX_TIMEOUT 11 CAN_BCM_SETTIMER 1",
    "CAN_BCM_STARTTIMER 2 CAN_BCM_TX_ANNOUNCE 8 CAN_BCM_TX_COUNTEVT 4 CAN_BCM_TX_CP_CAN_ID 16",
    "CAN_BCM_TX_DELETE 2 CAN_BCM_TX_EXPIRED 9 CAN_BCM_TX_READ 3",
    "CAN_BCM_TX_RESET_MULTI_IDX 512 CAN_BCM_TX_SEND 4 CAN_BCM_TX_SETUP 1 CAN_BCM_TX_STATUS 8",
    "CAN_EFF_FLAG 2147483648 CAN_EFF_MASK 536870911 CAN_ERR_FLAG 536870912",
    "CAN_ERR_MASK 536870911 CAN_ISOTP 6 CAN_RAW 1 CAN_RAW_FD_FRAMES 5 CAN_RAW_FILTER 1",
    "CAN_RAW_LOOPBACK 3 CAN_RAW_RECV_OWN_MSGS 4 CAN_RTR_FLAG 1073741824 CAN_SFF_MASK 2047",
    "EAGAIN 11 EAI_ADDRFAMILY -9 EAI_AGAIN -3 EAI_BADFLAGS -1 EAI_FAIL -4 EAI_FAMILY -6",
    "EAI_MEMORY -10 EAI_NODATA -5 EAI_NONAME -2 EAI_OVERFLOW -12 EAI_SERVICE -8",
    "EAI_SOCKTYPE -7 EAI_SYSTEM -11 EBADF 9 EWOULDBLOCK 11 INADDR_ALLHOSTS_GROUP 3758096385",
    "INADDR_ANY 0 INADDR_BROADCAST 4294967295 INADDR_LOOPBACK 2130706433",
    "INADDR_MAX_LOCAL_GROUP 3758096639 INADDR_NONE 4294967295 INADDR_UNSPEC_GROUP 3758096384",
    "IPPORT_RESERVED 1024 IPPORT_USERRESERVED 5000 IPPROTO_AH 51 IPPROTO_DSTOPTS 60",
    "IPPROTO_EGP 8 IPPROTO_ESP 50 IPPROTO_FRAGMENT 44 IPPROTO_GRE 47 IPPROTO_HOPOPTS 0",
    "IPPROTO_ICMP 1 IPPROTO_ICMPV6 58 IPPROTO_IDP 22 IPPROTO_IGMP 2 IPPROTO_IP 0",
    "IPPROTO_IPIP 4 IPPROTO_IPV6 41 IPPROTO_NONE 59 IPPROTO_PIM 103 IPPROTO_PUP 12",
    "IPPROTO_RAW 255 IPPROTO_ROUTING 43 IPPROTO_RSVP 46 IPPROTO_SCTP 132 IPPROTO_TCP 6",
    "IPPROTO_TP 29 IPPROTO_UDP 17 IPPROTO_UDPLITE 136 IPV6_CHECKSUM 7 IPV6_DSTOPTS 59",
    "IPV6_HOPLIMIT 52 IPV6_HOPOPTS 54 IPV6_JOIN_GROUP 20 IPV6_LEAVE_GROUP 21",
    "IPV6_MULTICAST_HOPS 18 IPV6_MULTICAST_IF 17 IPV6_MULTICAST_LOOP 19 IPV6_NEXTHOP 9",
    "IPV6_PKTINFO 50 IPV6_RECVDSTOPTS 58 IPV6_RECVHOPLIMIT 51 IPV6_RECVHOPOPTS 53",
    "IPV6_RECVPKTINFO 49 IPV6_RECVRTHDR 56 IPV6_RECVTCLASS 66 IPV6_RTHDR 57",
    "IPV6_RTHDRDSTOPTS 55 IPV6_RTHDR_TYPE_0 0 IPV6_TCLASS 67 IPV6_UNICAST_HOPS 16",
    "IPV6_V6ONLY 26 IP_ADD_MEMBERSHIP 35 IP_DEFAULT_MULTICAST_LOOP 1",
    "IP_DEFAULT_MULTICAST_TTL 1 IP_DROP_MEMBERSHIP 36 IP_HDRINCL 3 IP_MAX_MEMBERSHIPS 20",
    "IP_MULTICAST_IF 32 IP_MULTICAST_LOOP 34 IP_MULTICAST_TTL 33 IP_OPTIONS 4 IP_RECVOPTS 6",
    "IP_RECVRETOPTS 7 IP_RECVTOS 13 IP_RETOPTS 7 IP_TOS 1 IP_TRANSPARENT 19 IP_TTL 2",
    "NETLINK_CRYPTO 21 NETLINK_DNRTMSG 14 NETLINK_FIREWALL 3 NETLINK_IP6_FW 13",
    "NETLINK_NFLOG 5 NETLINK_ROUTE 0 NETLINK_USERSOCK 2 NETLINK_XFRM 6 NI_DGRAM 16",
    "NI_MAXHOST 1025 NI_MAXSERV 32 NI_NAMEREQD 8 NI_NOFQDN 4 NI_NUMERICHOST 1",
    "NI_NUMERICSERV 2 PACKET_BROADCAST 1 PACKET_FASTROUTE 6 PACKET_HOST 0 PACKET_LOOPBACK 5",
    "PACKET_MULTICAST 2 PACKET_OTHERHOST 3 PACKET_OUTGOING 4 PF_CAN 29 PF_PACKET 17 PF_RDS 21",
    "SCM_CREDENTIALS 2 SCM_RIGHTS 1 SHUT_RD 0 SHUT_RDWR 2 SHUT_WR 1 SOL_ALG 279",
    "SOL_CAN_BASE 100 SOL_CAN_RAW 101 SOL_IP 0 SOL_SOCKET 1 SOL_TCP 6 SOL_TIPC 271 SOL_UDP 17",
    "SOMAXCONN 128 SO_ACCEPTCONN 30 SO_BINDTODEVICE 25 SO_BROADCAST 6 SO_DEBUG 1 SO_DOMAIN 39",
    "SO_DONTROUTE 5 SO_ERROR 4 SO_KEEPALIVE 9 SO_LINGER 13 SO_MARK 36 SO_OOBINLINE 10",
    "SO_PASSCRED 16 SO_PASSSEC 34 SO_PEERCRED 17 SO_PEERSEC 31 SO_PRIORITY 12 SO_PROTOCOL 38",
    "SO_RCVBUF 8 SO_RCVLOWAT 18 SO_RCVTIMEO 20 SO_REUSEADDR 2 SO_REUSEPORT 15 SO_SNDBUF 7",
    "SO_SNDLOWAT 19 SO_SNDTIMEO 21 SO_TYPE 3 TCP_CONGESTION 13 TCP_CORK 3 TCP_DEFER_ACCEPT 9",
    "TCP_FASTOPEN 23 TCP_INFO 11 TCP_KEEPCNT 6 TCP_KEEPIDLE 4 TCP_KEEPINTVL 5 TCP_LINGER2 8",
    "TCP_MAXSEG 2 TCP_NODELAY 1 TCP_QUICKACK 12 TCP_SYNCNT 7 TCP_USER_TIMEOUT 18",
    "TCP_WINDOW_CLAMP 10 TIPC_ADDR_ID 3 TIPC_ADDR_NAME 2 TIPC_ADDR_NAMESEQ 1 TIPC_CFG_SRV 0",
    "TIPC_CLUSTER_SCOPE 2 TIPC_CONN_TIMEOUT 130 TIPC_CRITICAL_IMPORTANCE 3",
    "TIPC_DEST_DROPPABLE 129 TIPC_HIGH_IMPORTANCE 2 TIPC_IMPORTANCE 127 TIPC_LOW_IMPORTANCE 0",
    "TIPC_MEDIUM_IMPORTANCE 1 TIPC_NODE_SCOPE 3 TIPC_PUBLISHED 1 TIPC_SRC_DROPPABLE 128",
    "TIPC_SUBSCR_TIMEOUT 3 TIPC_SUB_CANCEL 4 TIPC_SUB_PORTS 1 TIPC_SUB_SERVICE 2",
    "TIPC_TOP_SRV 1 TIPC_WAIT_FOREVER -1 TIPC_WITHDRAWN 2 TIPC_ZONE_SCOPE 1",
    "UDPLITE_RECV_CSCOV 11 UDPLITE_SEND_CSCOV 10"]),
  ("ssl", ["SOL_SOCKET 1 SO_TYPE 3"]),
  ("asyncore", [
    "EAGAIN 11 EALREADY 114 EBADF 9 ECONNABORTED 103 ECONNRESET 104 EINPROGRESS 115 EINVAL 22",
    "EISCONN 106 ENOTCONN 107 EPIPE 32 ESHUTDOWN 108 EWOULDBLOCK 11"]),
  ("smtpd", ["DATA_SIZE_DEFAULT 33554432"]),
  ("urllib.request", ["MAXFTPCACHE 10"]),
  ("http.client", ["HTTPS_PORT 443 HTTP_PORT 80"]),
  ("http.cookiejar", ["EPOCH_YEAR 1970"]),
  ("ftplib", ["FTP_PORT 21 MAXLINE 8192 MSG_OOB 1"]),
  ("poplib", ["POP3_PORT 110 POP3_SSL_PORT 995"]),
  ("imaplib", ["DEFAULT_BUFFER_SIZE 8192 Debug 0 IMAP4_PORT 143 IMAP4_SSL_PORT 993"]),
  ("smtplib", ["LMTP_PORT 2003 SMTP_PORT 25 SMTP_SSL_PORT 465"]),
  ("nntplib", ["NNTP_PORT 119 NNTP_SSL_PORT 563"]),
  ("telnetlib", ["DEBUGLEVEL 0 TELNET_PORT 23"]),
  ("xmlrpc.client", [
    "APPLICATION_ERROR -32500 INTERNAL_ERROR -32603 INVALID_ENCODING_CHAR -32702",
    "INVALID_METHOD_PARAMS -32602 INVALID_XMLRPC -32600 MAXINT 2147483647",
    "METHOD_NOT_FOUND -32601 MININT -2147483648 NOT_WELLFORMED_ERROR -32700",
    "PARSE_ERROR -32700 SERVER_ERROR -32600 SYSTEM_ERROR -32400 TRANSPORT_ERROR -32300",
    "UNSUPPORTED_ENCODING -32701"]),
  ("ipaddress", ["IPV4LENGTH 32 IPV6LENGTH 128"]),
  ("cgi", ["maxlen 0"]),
  ("email.base64mime", ["MISC_LEN 7"]),
  ("email.charset", ["BASE64 2 QP 1 RFC2047_CHROME_LEN 7 SHORTEST 3"]),
  ("email.header", ["MAXLINELEN 78"]),
  ("base64", ["MAXBINSIZE 57 MAXLINESIZE 76"]),
  ("quopri", ["MAXLINESIZE 76"]),
  ("xml.dom", [
    "DOMSTRING_SIZE_ERR 2 HIERARCHY_REQUEST_ERR 3 INDEX_SIZE_ERR 1 INUSE_ATTRIBUTE_ERR 10",
    "INVALID_ACCESS_ERR 15 INVALID_CHARACTER_ERR 5 INVALID_MODIFICATION_ERR 13",
    "INVALID_STATE_ERR 11 NAMESPACE_ERR 14 NOT_FOUND_ERR 8 NOT_SUPPORTED_ERR 9",
    "NO_DATA_ALLOWED_ERR 6 NO_MODIFICATION_ALLOWED_ERR 7 SYNTAX_ERR 12 VALIDATION_ERR 16",
    "WRONG_DOCUMENT_ERR 4"]),
  ("xml.dom.pulldom", ["default_bufsize 16364"]),
  ("xml.etree.ElementInclude", ["DEFAULT_MAX_INCLUSION_DEPTH 6"]),
  ("xml.parsers.expat", [
    "XML_PARAM_ENTITY_PARSING_ALWAYS 2 XML_PARAM_ENTITY_PARSING_NEVER 0",
    "XML_PARAM_ENTITY_PARSING_UNLESS_STANDALONE 1"]),
  ("pyexpat", [
    "XML_PARAM_ENTITY_PARSING_ALWAYS 2 XML_PARAM_ENTITY_PARSING_NEVER 0",
    "XML_PARAM_ENTITY_PARSING_UNLESS_STANDALONE 1"]),
  ("wave", ["WAVE_FORMAT_PCM 1"]),
  ("sunau", [
    "AUDIO_FILE_ENCODING_ADPCM_G721 23 AUDIO_FILE_ENCODING_ADPCM_G722 24",
    "AUDIO_FILE_ENCODING_ADPCM_G723_3 25 AUDIO_FILE_ENCODING_ADPCM_G723_5 26",
    "AUDIO_FILE_ENCODING_ALAW_8 27 AUDIO_FILE_ENCODING_DOUBLE 7 AUDIO_FILE_ENCODING_FLOAT 6",
    "AUDIO_FILE_ENCODING_LINEAR_16 3 AUDIO_FILE_ENCODING_LINEAR_24 4",
    "AUDIO_FILE_ENCODING_LINEAR_32 5 AUDIO_FILE_ENCODING_LINEAR_8 2",
    "AUDIO_FILE_ENCODING_MULAW_8 1 AUDIO_FILE_MAGIC 779316836 AUDIO_UNKNOWN_SIZE 4294967295"]),
  ("ast", ["PyCF_ALLOW_TOP_LEVEL_AWAIT 8192 PyCF_ONLY_AST 1024 PyCF_TYPE_COMMENTS 4096"]),
  ("symtable", [
    "CELL 5 DEF_ANNOT 256 DEF_BOUND 134 DEF_GLOBAL 1 DEF_IMPORT 128 DEF_LOCAL 2",
    "DEF_NONLOCAL 8 DEF_PARAM 4 FREE 4 GLOBAL_EXPLICIT 2 GLOBAL_IMPLICIT 3 LOCAL 1",
    "SCOPE_MASK 15 SCOPE_OFF 11 USE 16"]),
  ("token", [
    "AMPER 19 AMPEREQUAL 41 ASYNC 56 AT 49 ATEQUAL 50 AWAIT 55 CIRCUMFLEX 32",
    "CIRCUMFLEXEQUAL 43 COLON 11 COLONEQUAL 53 COMMA 12 COMMENT 61 DEDENT 6 DOT 23",
    "DOUBLESLASH 47 DOUBLESLASHEQUAL 48 DOUBLESTAR 35 DOUBLESTAREQUAL 46 ELLIPSIS 52",
    "ENCODING 63 ENDMARKER 0 EQEQUAL 27 EQUAL 22 ERRORTOKEN 60 GREATER 21 GREATEREQUAL 30",
    "INDENT 5 LBRACE 25 LEFTSHIFT 33 LEFTSHIFTEQUAL 44 LESS 20 LESSEQUAL 29 LPAR 7 LSQB 9",
    "MINEQUAL 37 MINUS 15 NAME 1 NEWLINE 4 NL 62 NOTEQUAL 28 NT_OFFSET 256 NUMBER 2",
    "N_TOKENS 64 OP 54 PERCENT 24 PERCENTEQUAL 40 PLUS 14 PLUSEQUAL 36 RARROW 51 RBRACE 26",
    "RIGHTSHIFT 34 RIGHTSHIFTEQUAL 45 RPAR 8 RSQB 10 SEMI 13 SLASH 17 SLASHEQUAL 39",
    "SOFT_KEYWORD 59 STAR 16 STAREQUAL 38 STRING 3 TILDE 31 TYPE_COMMENT 58 TYPE_IGNORE 57",
    "VBAR 18 VBAREQUAL 42"]),
  ("tokenize", ["tabsize 8"]),
  ("tabnanny", ["filename_only 0 verbose 0"]),
  ("dis", [
    "BINARY_OP 122 CACHE 0 EXTENDED_ARG 144 FORMAT_VALUE 155 HAVE_ARGUMENT 90",
    "JUMP_BACKWARD 140 LOAD_CONST 100 LOAD_GLOBAL 116 MAKE_FUNCTION 132 spec_op 180"]),
  ("pickletools", [
    "TAKEN_FROM_ARGUMENT1 -2 TAKEN_FROM_ARGUMENT4 -3 TAKEN_FROM_ARGUMENT4U -4",
    "TAKEN_FROM_ARGUMENT8U -5 UP_TO_NEWLINE -1"]),
  ("opcode", ["EXTENDED_ARG 144 HAVE_ARGUMENT 90"]),
  ("sre_constants", [
    "MAGIC 20220615 MAXGROUPS 1073741823 SRE_FLAG_ASCII 256 SRE_FLAG_DEBUG 128",
    "SRE_FLAG_DOTALL 16 SRE_FLAG_IGNORECASE 2 SRE_FLAG_LOCALE 4 SRE_FLAG_MULTILINE 8",
    "SRE_FLAG_TEMPLATE 1 SRE_FLAG_UNICODE 32 SRE_FLAG_VERBOSE 64 SRE_INFO_CHARSET 4",
    "SRE_INFO_LITERAL 2 SRE_INFO_PREFIX 1"]),
  ("sre_parse", ["GLOBAL_FLAGS 129 MAXWIDTH 18446744073709551616 TYPE_FLAGS 292"]),
  ("sre_compile", ["MAXCODE 4294967295"]),
  ("sys", ["api_version 1013 maxsize 9223372036854775807 maxunicode 1114111"]),
  ("__future__", [
    "CO_FUTURE_ABSOLUTE_IMPORT 262144 CO_FUTURE_ANNOTATIONS 16777216",
    "CO_FUTURE_BARRY_AS_BDFL 4194304 CO_FUTURE_DIVISION 131072",
    "CO_FUTURE_GENERATOR_STOP 8388608 CO_FUTURE_PRINT_FUNCTION 1048576",
    "CO_FUTURE_UNICODE_LITERALS 2097152 CO_FUTURE_WITH_STATEMENT 524288",
    "CO_GENERATOR_ALLOWED 0 CO_NESTED 16"]),
  ("gc", [
    "DEBUG_COLLECTABLE 2 DEBUG_LEAK 38 DEBUG_SAVEALL 32 DEBUG_STATS 1 DEBUG_UNCOLLECTABLE 4"]),
  ("inspect", [
    "CO_ASYNC_GENERATOR 512 CO_COROUTINE 128 CO_GENERATOR 32 CO_ITERABLE_COROUTINE 256",
    "CO_NESTED 16 CO_NEWLOCALS 2 CO_NOFREE 64 CO_OPTIMIZED 1 CO_VARARGS 4 CO_VARKEYWORDS 8",
    "TPFLAGS_IS_ABSTRACT 1048576"]),
  ("zipimport", ["END_CENTRAL_DIR_SIZE 22 MAX_COMMENT_LEN 65535"]),
  ("imp", [
    "C_BUILTIN 6 C_EXTENSION 3 IMP_HOOK 9 PKG_DIRECTORY 5 PY_CODERESOURCE 8 PY_COMPILED 2",
    "PY_FROZEN 7 PY_RESOURCE 4 PY_SOURCE 1 SEARCH_ERROR 0"]),
  ("doctest", [
    "COMPARISON_FLAGS 63 DONT_ACCEPT_BLANKLINE 2 DONT_ACCEPT_TRUE_FOR_1 1 ELLIPSIS 8",
    "FAIL_FAST 1024 IGNORE_EXCEPTION_DETAIL 32 NORMALIZE_WHITESPACE 4 REPORTING_FLAGS 1984",
    "REPORT_CDIFF 128 REPORT_NDIFF 256 REPORT_ONLY_FIRST_FAILURE 512 REPORT_UDIFF 64 SKIP 16"]),
  ("bdb", [
    "CO_ASYNC_GENERATOR 512 CO_COROUTINE 128 CO_GENERATOR 32",
    "GENERATOR_AND_COROUTINE_FLAGS 672"]),
  ("timeit", ["default_number 1000000 default_repeat 5"])]

/-- Modules that have all the numbers of another one. -/
def numberSources : List (String × String) := [
  ("os", "posix"),
  ("sre_compile", "sre_constants"),
  ("sre_parse", "sre_constants"),
  ("tokenize", "token"),
  ("tty", "termios")]

/-- The numbers that a module provides itself. -/
def ownNumbers (path : String) : List (String × Int) :=
  numbersIn (wordsOf ((standardNumbers.lookup path).getD []))

/-- The numbers that a module provides, with those that it has from another one. -/
def numbersOf (path : String) : List (String × Int) :=
  ownNumbers path ++ ((numberSources.lookup path).map ownNumbers).getD []

/-- The numbers of modules that are members of a type, by the module and the type. -/
def memberNumbers : List ((String × String) × List String) := [
  (("re", "RegexFlag"), [
    "NOFLAG 0 ASCII 256 IGNORECASE 2 LOCALE 4 UNICODE 32 MULTILINE 8 DOTALL 16 VERBOSE 64",
    "TEMPLATE 1 DEBUG 128"]),
  (("signal", "Sigmasks"), ["SIG_BLOCK 0 SIG_UNBLOCK 1 SIG_SETMASK 2"]),
  (("signal", "Signals"), [
    "SIGHUP 1 SIGINT 2 SIGQUIT 3 SIGILL 4 SIGTRAP 5 SIGABRT 6 SIGFPE 8 SIGKILL 9 SIGBUS 7",
    "SIGSEGV 11 SIGSYS 31 SIGPIPE 13 SIGALRM 14 SIGTERM 15 SIGUSR1 10 SIGUSR2 12 SIGCHLD 17",
    "SIGPWR 30 SIGIO 29 SIGURG 23 SIGWINCH 28 SIGSTOP 19 SIGTSTP 20 SIGCONT 18 SIGTTIN 21",
    "SIGTTOU 22 SIGVTALRM 26 SIGPROF 27 SIGXCPU 24 SIGXFSZ 25 SIGRTMIN 34 SIGRTMAX 64",
    "SIGSTKFLT 16"]),
  (("signal", "Handlers"), ["SIG_DFL 0 SIG_IGN 1"]),
  (("socket", "AddressFamily"), [
    "AF_UNSPEC 0 AF_INET 2 AF_UNIX 1 AF_AX25 3 AF_IPX 4 AF_APPLETALK 5 AF_NETROM 6",
    "AF_BRIDGE 7 AF_ATMPVC 8 AF_ALG 38 AF_X25 9 AF_INET6 10 AF_ROSE 11 AF_NETBEUI 13",
    "AF_SECURITY 14 AF_KEY 15 AF_NETLINK 16 AF_ASH 18 AF_ECONET 19 AF_ATMSVC 20 AF_SNA 22",
    "AF_IRDA 23 AF_PPPOX 24 AF_WANPIPE 25 AF_LLC 26 AF_CAN 29 AF_RDS 21 AF_PACKET 17",
    "AF_TIPC 30"]),
  (("socket", "SocketKind"), [
    "SOCK_STREAM 1 SOCK_DGRAM 2 SOCK_RAW 3 SOCK_SEQPACKET 5 SOCK_RDM 4 SOCK_CLOEXEC 524288",
    "SOCK_NONBLOCK 2048"]),
  (("socket", "MsgFlag"), [
    "MSG_OOB 1 MSG_PEEK 2 MSG_DONTROUTE 4 MSG_DONTWAIT 64 MSG_EOR 128 MSG_TRUNC 32",
    "MSG_CTRUNC 8 MSG_WAITALL 256 MSG_NOSIGNAL 16384 MSG_CMSG_CLOEXEC 1073741824",
    "MSG_ERRQUEUE 8192 MSG_CONFIRM 2048 MSG_MORE 32768 MSG_FASTOPEN 536870912"]),
  (("socket", "AddressInfo"), [
    "AI_PASSIVE 1 AI_CANONNAME 2 AI_NUMERICHOST 4 AI_NUMERICSERV 1024 AI_ALL 16",
    "AI_ADDRCONFIG 32 AI_V4MAPPED 8"]),
  (("http.client", "HTTPStatus"), [
    "CONTINUE 100 SWITCHING_PROTOCOLS 101 PROCESSING 102 EARLY_HINTS 103 OK 200 CREATED 201",
    "ACCEPTED 202 NON_AUTHORITATIVE_INFORMATION 203 NO_CONTENT 204 RESET_CONTENT 205",
    "PARTIAL_CONTENT 206 MULTI_STATUS 207 ALREADY_REPORTED 208 IM_USED 226",
    "MULTIPLE_CHOICES 300 MOVED_PERMANENTLY 301 FOUND 302 SEE_OTHER 303 NOT_MODIFIED 304",
    "USE_PROXY 305 TEMPORARY_REDIRECT 307 PERMANENT_REDIRECT 308 BAD_REQUEST 400",
    "UNAUTHORIZED 401 PAYMENT_REQUIRED 402 FORBIDDEN 403 NOT_FOUND 404 METHOD_NOT_ALLOWED 405",
    "NOT_ACCEPTABLE 406 PROXY_AUTHENTICATION_REQUIRED 407 REQUEST_TIMEOUT 408 CONFLICT 409",
    "GONE 410 LENGTH_REQUIRED 411 PRECONDITION_FAILED 412 REQUEST_ENTITY_TOO_LARGE 413",
    "REQUEST_URI_TOO_LONG 414 UNSUPPORTED_MEDIA_TYPE 415 REQUESTED_RANGE_NOT_SATISFIABLE 416",
    "EXPECTATION_FAILED 417 IM_A_TEAPOT 418 MISDIRECTED_REQUEST 421 UNPROCESSABLE_ENTITY 422",
    "LOCKED 423 FAILED_DEPENDENCY 424 TOO_EARLY 425 UPGRADE_REQUIRED 426",
    "PRECONDITION_REQUIRED 428 TOO_MANY_REQUESTS 429 REQUEST_HEADER_FIELDS_TOO_LARGE 431",
    "UNAVAILABLE_FOR_LEGAL_REASONS 451 INTERNAL_SERVER_ERROR 500 NOT_IMPLEMENTED 501",
    "BAD_GATEWAY 502 SERVICE_UNAVAILABLE 503 GATEWAY_TIMEOUT 504",
    "HTTP_VERSION_NOT_SUPPORTED 505 VARIANT_ALSO_NEGOTIATES 506 INSUFFICIENT_STORAGE 507",
    "LOOP_DETECTED 508 NOT_EXTENDED 510 NETWORK_AUTHENTICATION_REQUIRED 511"])]

/-- Other names of members of types, each with the one that a member goes by. -/
def memberAliases : List ((String × String) × String) := [
  (("re", "A"), "ASCII"), (("re", "I"), "IGNORECASE"), (("re", "L"), "LOCALE"),
  (("re", "U"), "UNICODE"), (("re", "M"), "MULTILINE"), (("re", "S"), "DOTALL"),
  (("re", "X"), "VERBOSE"), (("re", "T"), "TEMPLATE"), (("signal", "SIGIOT"), "SIGABRT"),
  (("signal", "SIGCLD"), "SIGCHLD"), (("signal", "SIGPOLL"), "SIGIO"),
  (("socket", "AF_ROUTE"), "AF_NETLINK")]

/-- How a member of a type is shown, by the module and the type. -/
def shownMember (path type name : String) (n : Int) : String :=
  if path = "re" then pathWithin path name
  else "<" ++ pathWithin type name ++ ": " ++ Text.decimal n ++ ">"

/-- The member of a type that a module provides under a name: the number, and how it is shown. -/
def memberNumber? (path name : String) : Option (Int × String) :=
  let proper := (memberAliases.lookup (path, name)).getD name
  memberNumbers.findSome? fun ((module, type), lines) =>
    if module = path then
      ((numbersIn (wordsOf lines)).lookup proper).map fun n =>
        (n, shownMember path type proper n)
    else none

end LalrBackend.Code
