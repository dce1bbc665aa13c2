import LalrBackend.Code.Library.Entry

/-!
# Modules for the system that a program runs on

What these standard modules provide, by kind. Plain values stand apart.
-/

namespace LalrBackend.Code

/-- The contents of the modules for the system that a program runs on. -/
def systemContents : List (String × List Family) := [
  ("os", [
    ⟨.module, [], ["path"]⟩,
    ⟨.module, [.withheld], ["abc st sys"]⟩,
    ⟨.routine, [.bare], [
      "_exit abort access chdir chmod chown chroot closerange dup2 eventfd_write execv execve",
      "fchdir fchmod fchown fdatasync fork forkpty fpathconf fspath fsync ftruncate",
      "get_terminal_size getgrouplist getlogin getpriority getxattr initgroups kill killpg",
      "lchown link lockf login_tty lseek lstat makedev mkdir mkfifo mknod open pathconf pipe2",
      "posix_fadvise posix_fallocate posix_spawn posix_spawnp pread preadv putenv pwrite",
      "pwritev read readlink readv register_at_fork remove removexattr rename replace rmdir",
      "sched_setaffinity sched_setparam sched_setscheduler sendfile set_blocking",
      "set_inheritable setgroups setpgid setpgrp setpriority setregid setresgid setresuid",
      "setreuid setsid setxattr splice symlink sync system tcgetpgrp tcsetpgrp truncate ttyname",
      "unlink unsetenv wait wait3 wait4 waitid waitpid write writev"]⟩,
    ⟨.routine, [.bare, .takesNumber], [
      "WCOREDUMP WEXITSTATUS WIFCONTINUED WIFEXITED WIFSIGNALED WIFSTOPPED WSTOPSIG WTERMSIG",
      "close confstr device_encoding dup eventfd eventfd_read fstat fstatvfs get_blocking",
      "get_inheritable getpgid getsid isatty major minor nice sched_get_priority_max",
      "sched_get_priority_min sched_getaffinity sched_getparam sched_getscheduler",
      "sched_rr_get_interval setegid seteuid setgid setuid stat statvfs strerror sysconf umask",
      "urandom utime waitstatus_to_exitcode"]⟩,
    ⟨.routine, [.bare, .takesNothing], [
      "cpu_count ctermid getcwd getcwdb getegid geteuid getgid getgroups getloadavg getpgrp",
      "getpid getppid getresgid getresuid getuid listdir openpty pipe scandir sched_yield times",
      "uname"]⟩,
    ⟨.routine, [.bare, .takesNothing, .takesNumber], ["listxattr"]⟩,
    ⟨.routine, [.settable], [
      "execl execle execlp execlpe execvp execvpe fsdecode fsencode getenv getenvb makedirs",
      "popen removedirs renames spawnl spawnle spawnlp spawnlpe spawnv spawnve spawnvp spawnvpe",
      "walk"]⟩,
    ⟨.routine, [.settable, .takesNumber], ["fdopen"]⟩,
    ⟨.routine, [.settable, .takesNothing], ["get_exec_path"]⟩,
    ⟨.routine, [.settable, .takesNothing, .takesNumber, .takesList, .takesTwo], ["fwalk"]⟩,
    ⟨.type, [.base, .takesTwo, .withheld], ["GenericAlias"]⟩,
    ⟨.type, [.settable, .indexed], [
      "DirEntry stat_result statvfs_result times_result uname_result waitid_result"]⟩,
    ⟨.type, [.settable, .indexed, .takesNumber, .takesList], ["sched_param"]⟩,
    ⟨.type, [.settable, .indexed, .takesList], ["terminal_size"]⟩,
    ⟨.type, [.settable, .indexed, .base, .withheld], ["Mapping MutableMapping PathLike"]⟩,
    ⟨.value, [.bare], ["confstr_names pathconf_names sysconf_names"]⟩,
    ⟨.value, [.bare, .withheld], [
      "supports_dir_fd supports_effective_ids supports_fd supports_follow_symlinks"]⟩,
    ⟨.value, [.settable], ["environ environb"]⟩]),
  ("posix", [
    ⟨.routine, [.bare], [
      "abort access chdir chmod chown chroot closerange dup2 eventfd_write execv execve fchdir",
      "fchmod fchown fdatasync fork forkpty fpathconf fspath fsync ftruncate get_terminal_size",
      "getgrouplist getlogin getpriority getxattr initgroups kill killpg lchown link lockf",
      "login_tty lseek lstat makedev mkdir mkfifo mknod open pathconf pipe2 posix_fadvise",
      "posix_fallocate posix_spawn posix_spawnp pread preadv putenv pwrite pwritev read",
      "readlink readv register_at_fork remove removexattr rename replace rmdir",
      "sched_setaffinity sched_setparam sched_setscheduler sendfile set_blocking",
      "set_inheritable setgroups setpgid setpgrp setpriority setregid setresgid setresuid",
      "setreuid setsid setxattr splice symlink sync system tcgetpgrp tcsetpgrp truncate ttyname",
      "unlink unsetenv wait wait3 wait4 waitid waitpid write writev"]⟩,
    ⟨.routine, [.bare, .takesNumber], [
      "WCOREDUMP WEXITSTATUS WIFCONTINUED WIFEXITED WIFSIGNALED WIFSTOPPED WSTOPSIG WTERMSIG",
      "close confstr device_encoding dup eventfd eventfd_read fstat fstatvfs get_blocking",
      "get_inheritable getpgid getsid isatty major minor nice sched_get_priority_max",
      "sched_get_priority_min sched_getaffinity sched_getparam sched_getscheduler",
      "sched_rr_get_interval setegid seteuid setgid setuid stat statvfs strerror sysconf umask",
      "urandom utime waitstatus_to_exitcode"]⟩,
    ⟨.routine, [.bare, .takesNothing], [
      "cpu_count ctermid getcwd getcwdb getegid geteuid getgid getgroups getloadavg getpgrp",
      "getpid getppid getresgid getresuid getuid listdir openpty pipe scandir sched_yield times",
      "uname"]⟩,
    ⟨.routine, [.bare, .takesNothing, .takesNumber], ["listxattr"]⟩,
    ⟨.type, [.settable, .indexed], [
      "DirEntry stat_result statvfs_result times_result uname_result waitid_result"]⟩,
    ⟨.type, [.settable, .indexed, .takesNumber, .takesList], ["sched_param"]⟩,
    ⟨.type, [.settable, .indexed, .takesList], ["terminal_size"]⟩,
    ⟨.value, [.bare], ["confstr_names environ pathconf_names sysconf_names"]⟩]),
  ("io", [
    ⟨.module, [.withheld], ["abc"]⟩,
    ⟨.routine, [.bare], ["open_code"]⟩,
    ⟨.routine, [.bare, .takesNumber, .takesList], ["text_encoding"]⟩,
    ⟨.type, [.base], [
      "BufferedRWPair BufferedRandom BufferedReader BufferedWriter IncrementalNewlineDecoder",
      "TextIOWrapper"]⟩,
    ⟨.type, [.base, .madePlain, .takesNothing], ["BytesIO"]⟩,
    ⟨.type, [.base, .madeWithTwo, .madePlain, .takesNothing], ["StringIO"]⟩,
    ⟨.type, [.base, .takesNumber], ["FileIO"]⟩,
    ⟨.type, [.settable, .base, .madePlain, .takesNothing, .takesNumber, .takesList, .takesTwo], [
      "BufferedIOBase IOBase RawIOBase TextIOBase"]⟩,
    ⟨.type, [.settable, .base, .madeWithTwo, .madePlain,
        .raised, .takesNothing, .takesNumber, .takesList, .takesTwo], ["UnsupportedOperation"]⟩]),
  ("time", [
    ⟨.routine, [.bare], [
      "clock_settime clock_settime_ns get_clock_info mktime pthread_getcpuclockid strftime",
      "strptime"]⟩,
    ⟨.routine, [.bare, .takesNumber], ["clock_getres clock_gettime clock_gettime_ns sleep"]⟩,
    ⟨.routine, [.bare, .takesNothing], [
      "asctime monotonic monotonic_ns perf_counter perf_counter_ns process_time process_time_ns",
      "thread_time thread_time_ns time time_ns tzset"]⟩,
    ⟨.routine, [.bare, .takesNothing, .takesNumber], ["ctime gmtime localtime"]⟩,
    ⟨.type, [.settable, .indexed], ["struct_time"]⟩,
    ⟨.value, [.bare], ["tzname"]⟩]),
  ("argparse", [
    ⟨.module, [.withheld], ["warnings"]⟩,
    ⟨.routine, [.settable, .withheld], ["ngettext"]⟩,
    ⟨.type, [.settable, .base], ["BooleanOptionalAction"]⟩,
    ⟨.type, [.settable, .base, .madePlain, .takesNothing], ["Namespace"]⟩,
    ⟨.type, [.settable, .base, .madeWithTwo, .madePlain,
        .takesNothing, .takesNumber, .takesList, .takesTwo], ["ArgumentParser FileType"]⟩,
    ⟨.type, [.settable, .base, .madeWithTwo, .madePlain,
        .raised, .takesNothing, .takesNumber, .takesList, .takesTwo], ["ArgumentTypeError"]⟩,
    ⟨.type, [.settable, .base, .madeWithTwo, .takesTwo], ["Action"]⟩,
    ⟨.type, [.settable, .base, .madeWithTwo, .raised], ["ArgumentError"]⟩,
    ⟨.type, [.settable, .base, .takesNumber, .takesList], [
      "ArgumentDefaultsHelpFormatter HelpFormatter MetavarTypeHelpFormatter",
      "RawDescriptionHelpFormatter RawTextHelpFormatter"]⟩]),
  ("getopt", [
    ⟨.module, [.withheld], ["os"]⟩,
    ⟨.routine, [.settable], ["getopt gnu_getopt"]⟩,
    ⟨.routine, [.settable, .withheld], ["do_longs do_shorts long_has_args short_has_arg"]⟩,
    ⟨.type, [.settable, .base, .madeWithTwo, .raised, .takesNumber, .takesList, .takesTwo], [
      "GetoptError error"]⟩]),
  ("logging", [
    ⟨.module, [.withheld], [
      "atexit collections io os re sys threading time traceback warnings weakref"]⟩,
    ⟨.routine, [.settable], ["addLevelName log makeLogRecord setLoggerClass"]⟩,
    ⟨.routine, [.settable, .takesNumber], ["getLevelName"]⟩,
    ⟨.routine, [.settable, .takesNumber, .takesList], ["captureWarnings setLogRecordFactory"]⟩,
    ⟨.routine, [.settable, .takesNumber, .takesList, .takesTwo], [
      "critical debug error exception fatal info warn warning"]⟩,
    ⟨.routine, [.settable, .takesNothing], [
      "basicConfig getLevelNamesMapping getLogRecordFactory getLogger getLoggerClass shutdown"]⟩,
    ⟨.routine, [.settable, .takesNothing, .takesNumber], ["disable"]⟩,
    ⟨.routine, [.settable, .takesNothing, .withheld], ["currentframe"]⟩,
    ⟨.type, [.base, .takesTwo, .withheld], ["GenericAlias"]⟩,
    ⟨.type, [.settable, .base], ["LogRecord"]⟩,
    ⟨.type, [.settable, .base, .madePlain, .takesNothing, .takesNumber], ["Handler NullHandler"]⟩,
    ⟨.type, [.settable, .base, .madePlain, .takesNothing, .takesNumber, .takesList], [
      "BufferingFormatter"]⟩,
    ⟨.type, [.settable, .base, .madePlain, .takesNothing, .takesList], ["Filter"]⟩,
    ⟨.type, [.settable, .base, .madePlain, .takesNothing, .withheld], ["Filterer"]⟩,
    ⟨.type, [.settable, .base, .madeWithTwo, .madePlain, .takesNothing], ["Formatter"]⟩,
    ⟨.type, [.settable, .base, .takesNumber, .takesList], ["Logger"]⟩,
    ⟨.type, [.settable, .base, .takesNumber, .takesList, .withheld], [
      "Manager PercentStyle StrFormatStyle StringTemplateStyle Template"]⟩,
    ⟨.type, [.settable, .base, .takesNumber, .withheld], ["PlaceHolder RootLogger"]⟩,
    ⟨.type, [.settable, .indexed, .base], ["FileHandler"]⟩,
    ⟨.type, [.settable, .indexed, .base, .madePlain, .takesNothing, .takesNumber, .takesList], [
      "StreamHandler"]⟩,
    ⟨.type, [.settable, .indexed, .base, .madeWithTwo, .takesNumber, .takesList, .takesTwo], [
      "LoggerAdapter"]⟩,
    ⟨.value, [.settable], ["lastResort"]⟩,
    ⟨.value, [.settable, .withheld], ["root"]⟩]),
  ("logging.config", [
    ⟨.module, [], ["errno io logging os queue re struct threading traceback"]⟩,
    ⟨.routine, [.settable], ["dictConfig fileConfig valid_ident"]⟩,
    ⟨.routine, [.settable, .takesNothing], ["stopListening"]⟩,
    ⟨.routine, [.settable, .takesNothing, .takesNumber, .takesList, .takesTwo], ["listen"]⟩,
    ⟨.type, [.settable, .base], [
      "BaseConfigurator DictConfigurator StreamRequestHandler ThreadingTCPServer",
      "dictConfigClass"]⟩,
    ⟨.type, [.settable, .base, .madePlain, .takesNothing], ["ConvertingMixin"]⟩,
    ⟨.type, [.settable, .indexed, .base, .madePlain, .takesNothing], ["ConvertingDict"]⟩,
    ⟨.type, [.settable, .indexed, .base, .madePlain, .takesNothing, .takesList], [
      "ConvertingList ConvertingTuple"]⟩,
    ⟨.value, [.bare], ["IDENTIFIER"]⟩]),
  ("logging.handlers", [
    ⟨.module, [], ["copy io logging os pickle queue re socket struct threading time"]⟩,
    ⟨.type, [.settable, .base], ["SMTPHandler"]⟩,
    ⟨.type, [.settable, .base, .madePlain, .takesNothing], ["SysLogHandler"]⟩,
    ⟨.type, [.settable, .base, .madeWithTwo, .takesNumber, .takesList, .takesTwo], [
      "MemoryHandler NTEventLogHandler QueueListener"]⟩,
    ⟨.type, [.settable, .base, .madeWithTwo, .takesTwo], [
      "DatagramHandler HTTPHandler SocketHandler"]⟩,
    ⟨.type, [.settable, .base, .takesNumber, .takesList], ["BufferingHandler QueueHandler"]⟩,
    ⟨.type, [.settable, .indexed, .base], [
      "BaseRotatingHandler RotatingFileHandler TimedRotatingFileHandler WatchedFileHandler"]⟩]),
  ("getpass", [
    ⟨.module, [.withheld], ["contextlib io os sys termios warnings"]⟩,
    ⟨.routine, [.settable], ["getpass"]⟩,
    ⟨.routine, [.settable, .takesNothing], ["getuser"]⟩,
    ⟨.routine, [.settable, .withheld], ["fallback_getpass unix_getpass win_getpass"]⟩,
    ⟨.type, [.settable, .base, .madeWithTwo, .madePlain,
        .raised, .takesNothing, .takesNumber, .takesList, .takesTwo], ["GetPassWarning"]⟩]),
  ("curses", [
    ⟨.routine, [.bare], [
      "baudrate beep can_change_color cbreak color_content color_pair curs_set def_prog_mode",
      "def_shell_mode delay_output doupdate echo endwin erasechar flash flushinp getmouse",
      "getsyx getwin halfdelay has_colors has_ic has_il has_key init_color init_pair intrflush",
      "is_term_resized isendwin keyname longname meta mouseinterval mousemask napms newpad",
      "newwin nl nocbreak noecho nonl noqiflush noraw pair_content pair_number putp qiflush raw",
      "reset_prog_mode reset_shell_mode resetty resize_term resizeterm savetty setsyx termattrs",
      "termname tigetflag tigetnum tigetstr tparm typeahead unctrl unget_wch ungetch ungetmouse",
      "use_default_colors"]⟩,
    ⟨.routine, [.bare, .takesNumber], ["set_escdelay set_tabsize use_env"]⟩,
    ⟨.routine, [.bare, .takesNothing], [
      "filter get_escdelay get_tabsize has_extended_color_support killchar setupterm",
      "update_lines_cols"]⟩,
    ⟨.routine, [.settable], ["start_color wrapper"]⟩,
    ⟨.routine, [.settable, .takesNothing], ["initscr"]⟩,
    ⟨.type, [], ["window"]⟩,
    ⟨.type, [.settable, .base, .madeWithTwo, .madePlain,
        .raised, .takesNothing, .takesNumber, .takesList, .takesTwo], ["error"]⟩,
    ⟨.value, [.bare], ["ncurses_version version"]⟩]),
  ("curses.ascii", [
    ⟨.routine, [.settable, .takesNumber], [
      "alt ascii ctrl isalnum isalpha isascii iscntrl isctrl isdigit isgraph islower ismeta",
      "isprint ispunct isupper isxdigit unctrl"]⟩,
    ⟨.routine, [.settable, .takesNumber, .takesList], ["isblank isspace"]⟩,
    ⟨.value, [.bare], ["controlnames"]⟩]),
  ("curses.panel", [
    ⟨.routine, [.bare], ["bottom_panel new_panel top_panel update_panels"]⟩,
    ⟨.type, [.settable], ["panel"]⟩,
    ⟨.type, [.settable, .base, .madeWithTwo, .madePlain,
        .raised, .takesNothing, .takesNumber, .takesList, .takesTwo], ["error"]⟩]),
  ("curses.textpad", [
    ⟨.module, [], ["curses"]⟩,
    ⟨.routine, [.settable], ["rectangle"]⟩,
    ⟨.type, [.settable, .base], ["Textbox"]⟩]),
  ("platform", [
    ⟨.module, [], ["collections functools itertools os re sys"]⟩,
    ⟨.routine, [.settable], ["system_alias"]⟩,
    ⟨.routine, [.settable, .takesNothing], [
      "architecture freedesktop_os_release libc_ver machine node processor python_branch",
      "python_build python_compiler python_implementation python_revision python_version",
      "python_version_tuple release system uname version win32_edition win32_is_iot"]⟩,
    ⟨.routine, [.settable, .takesNothing, .takesNumber], ["platform"]⟩,
    ⟨.routine, [.settable, .takesNothing, .takesNumber, .takesList, .takesTwo], [
      "java_ver mac_ver win32_ver"]⟩,
    ⟨.type, [.settable, .indexed, .base], ["uname_result"]⟩]),
  ("errno", [
    ⟨.value, [.bare], ["errorcode"]⟩]),
  ("ctypes", [
    ⟨.routine, [.bare], ["POINTER addressof alignment byref pointer resize sizeof"]⟩,
    ⟨.routine, [.bare, .takesNumber], ["set_errno"]⟩,
    ⟨.routine, [.bare, .takesNothing], ["get_errno"]⟩,
    ⟨.routine, [.settable], [
      "ARRAY CFUNCTYPE PYFUNCTYPE SetPointerType cast string_at wstring_at"]⟩,
    ⟨.routine, [.settable, .takesNumber], ["c_buffer create_string_buffer create_unicode_buffer"]⟩,
    ⟨.type, [.base, .madePlain], ["LittleEndianStructure Structure"]⟩,
    ⟨.type, [.indexed], ["Array"]⟩,
    ⟨.type, [.settable, .base], ["CDLL PyDLL"]⟩,
    ⟨.type, [.settable, .base, .madePlain], ["LittleEndianUnion Union"]⟩,
    ⟨.type, [.settable, .base, .madePlain, .takesNothing], [
      "BigEndianStructure BigEndianUnion c_wchar"]⟩,
    ⟨.type, [.settable, .base, .madePlain, .takesNothing, .takesNumber], [
      "c_byte c_char c_char_p c_int8 c_longdouble c_ubyte c_uint8 c_void_p c_voidp c_wchar_p"]⟩,
    ⟨.type, [.settable, .base, .madePlain, .takesNothing, .takesNumber, .takesList], [
      "c_bool py_object"]⟩,
    ⟨.type, [.settable, .base, .madeWithTwo, .madePlain,
        .raised, .takesNothing, .takesNumber, .takesList, .takesTwo], ["ArgumentError"]⟩,
    ⟨.type, [.settable, .base, .takesNothing, .takesNumber], [
      "c_double c_float c_int c_int16 c_int32 c_int64 c_long c_longlong c_short c_size_t",
      "c_ssize_t c_uint c_uint16 c_uint32 c_uint64 c_ulong c_ulonglong c_ushort"]⟩,
    ⟨.type, [.settable, .indexed, .base, .takesNumber, .takesList], ["LibraryLoader"]⟩,
    ⟨.value, [.settable], ["cdll memmove memset pydll"]⟩,
    ⟨.value, [.settable, .base], ["pythonapi"]⟩]),
  ("ctypes.util", [
    ⟨.module, [], ["os re shutil subprocess sys tempfile"]⟩,
    ⟨.routine, [.settable], ["find_library test"]⟩]),
  ("optparse", [
    ⟨.module, [.withheld], ["os sys textwrap"]⟩,
    ⟨.routine, [.settable], ["check_choice"]⟩,
    ⟨.routine, [.settable, .takesNumber, .takesList, .withheld], ["gettext"]⟩,
    ⟨.routine, [.settable, .withheld], ["check_builtin ngettext"]⟩,
    ⟨.type, [.settable, .base], ["HelpFormatter Option OptionContainer OptionGroup make_option"]⟩,
    ⟨.type, [.settable, .base, .madePlain, .takesNothing], ["Values"]⟩,
    ⟨.type, [.settable, .base, .madePlain, .takesNothing, .takesNumber], [
      "IndentedHelpFormatter TitledHelpFormatter"]⟩,
    ⟨.type, [.settable, .base, .madeWithTwo, .madePlain, .takesNothing], ["OptionParser"]⟩,
    ⟨.type, [.settable, .base, .madeWithTwo, .raised, .takesTwo], [
      "OptionConflictError OptionError"]⟩,
    ⟨.type, [.settable, .base, .madeWithTwo, .raised, .takesTwo, .withheld], [
      "AmbiguousOptionError"]⟩,
    ⟨.type, [.settable, .base, .raised, .takesNumber, .takesList], [
      "BadOptionError OptParseError OptionValueError"]⟩]),
  ("pwd", [
    ⟨.routine, [.bare], ["getpwnam"]⟩,
    ⟨.routine, [.bare, .takesNumber], ["getpwuid"]⟩,
    ⟨.routine, [.bare, .takesNothing], ["getpwall"]⟩,
    ⟨.type, [.settable, .indexed], ["struct_passwd"]⟩]),
  ("grp", [
    ⟨.routine, [.bare], ["getgrnam"]⟩,
    ⟨.routine, [.bare, .takesNumber], ["getgrgid"]⟩,
    ⟨.routine, [.bare, .takesNothing], ["getgrall"]⟩,
    ⟨.type, [.settable, .indexed], ["struct_group"]⟩]),
  ("termios", [
    ⟨.routine, [.bare], [
      "tcdrain tcflow tcflush tcgetattr tcgetwinsize tcsendbreak tcsetattr tcsetwinsize"]⟩,
    ⟨.type, [.settable, .base, .madeWithTwo, .madePlain,
        .raised, .takesNothing, .takesNumber, .takesList, .takesTwo], ["error"]⟩]),
  ("tty", [
    ⟨.routine, [.bare, .withheld], [
      "tcdrain tcflow tcflush tcgetattr tcgetwinsize tcsendbreak tcsetattr tcsetwinsize"]⟩,
    ⟨.routine, [.settable], ["setcbreak setraw"]⟩,
    ⟨.type, [.settable, .base, .madeWithTwo, .madePlain, .raised,
        .takesNothing, .takesNumber, .takesList, .takesTwo, .withheld], ["error"]⟩]),
  ("pty", [
    ⟨.module, [.withheld], ["os sys tty"]⟩,
    ⟨.routine, [.bare, .takesNumber, .withheld], ["close"]⟩,
    ⟨.routine, [.bare, .withheld], ["select tcgetattr tcsetattr waitpid"]⟩,
    ⟨.routine, [.settable], ["fork"]⟩,
    ⟨.routine, [.settable, .takesNumber, .takesList], ["spawn"]⟩,
    ⟨.routine, [.settable, .takesNothing], ["openpty"]⟩,
    ⟨.routine, [.settable, .takesNothing, .withheld], ["master_open"]⟩,
    ⟨.routine, [.settable, .withheld], ["setraw slave_open"]⟩]),
  ("fcntl", [
    ⟨.routine, [.bare], ["fcntl flock ioctl lockf"]⟩]),
  ("resource", [
    ⟨.routine, [.bare], ["getrusage prlimit setrlimit"]⟩,
    ⟨.routine, [.bare, .takesNumber], ["getrlimit"]⟩,
    ⟨.routine, [.bare, .takesNothing], ["getpagesize"]⟩,
    ⟨.type, [.settable, .indexed], ["struct_rusage"]⟩]),
  ("syslog", [
    ⟨.routine, [.bare], ["syslog"]⟩,
    ⟨.routine, [.bare, .takesNumber], ["LOG_MASK LOG_UPTO setlogmask"]⟩,
    ⟨.routine, [.bare, .takesNothing], ["closelog openlog"]⟩]),
  ("crypt", [
    ⟨.module, [], ["errno warnings"]⟩,
    ⟨.routine, [.settable], ["crypt"]⟩,
    ⟨.routine, [.settable, .takesNothing], ["mksalt"]⟩,
    ⟨.value, [.bare], ["methods"]⟩,
    ⟨.value, [.settable], [
      "METHOD_BLOWFISH METHOD_CRYPT METHOD_MD5 METHOD_SHA256 METHOD_SHA512"]⟩]),
  ("spwd", [
    ⟨.routine, [.bare], ["getspnam"]⟩,
    ⟨.routine, [.bare, .takesNothing], ["getspall"]⟩,
    ⟨.type, [.settable, .indexed], ["struct_spwd"]⟩]),
  ("pipes", [
    ⟨.module, [.withheld], ["os re tempfile warnings"]⟩,
    ⟨.routine, [.settable, .withheld], ["makepipeline quote"]⟩,
    ⟨.type, [.settable, .base, .madePlain, .takesNothing], ["Template"]⟩]),
  ("mmap", [
    ⟨.type, [.base], ["mmap"]⟩]),
  ("signal", [
    ⟨.routine, [.bare], [
      "default_int_handler getitimer pause pthread_kill raise_signal set_wakeup_fd setitimer",
      "siginterrupt sigtimedwait sigwaitinfo"]⟩,
    ⟨.routine, [.bare, .takesNumber], ["alarm strsignal"]⟩,
    ⟨.routine, [.settable], ["pthread_sigmask signal sigwait"]⟩,
    ⟨.routine, [.settable, .takesNumber], ["getsignal"]⟩,
    ⟨.routine, [.settable, .takesNothing], ["sigpending valid_signals"]⟩,
    ⟨.type, [.settable], ["Handlers Sigmasks"]⟩,
    ⟨.type, [.settable, .takesNumber], ["Signals"]⟩,
    ⟨.type, [.settable, .base, .madeWithTwo, .madePlain,
        .raised, .takesNothing, .takesNumber, .takesList, .takesTwo], ["ItimerError"]⟩,
    ⟨.type, [.settable, .indexed], ["struct_siginfo"]⟩,
    ⟨.value, [.settable], [
      "SIGABRT SIGALRM SIGBUS SIGCHLD SIGCLD SIGCONT SIGFPE SIGHUP SIGILL SIGINT SIGIO SIGIOT",
      "SIGKILL SIGPIPE SIGPOLL SIGPROF SIGPWR SIGQUIT SIGRTMAX SIGRTMIN SIGSEGV SIGSTKFLT",
      "SIGSTOP SIGSYS SIGTERM SIGTRAP SIGTSTP SIGTTIN SIGTTOU SIGURG SIGUSR1 SIGUSR2 SIGVTALRM",
      "SIGWINCH SIGXCPU SIGXFSZ SIG_BLOCK SIG_DFL SIG_IGN SIG_SETMASK SIG_UNBLOCK"]⟩]),
  ("select", [
    ⟨.routine, [.bare], ["select"]⟩,
    ⟨.routine, [.bare, .takesNothing], ["poll"]⟩,
    ⟨.type, [.settable, .takesNothing, .takesNumber], ["epoll"]⟩]),
  ("selectors", [
    ⟨.module, [], ["math select sys"]⟩,
    ⟨.routine, [.settable], ["abstractmethod namedtuple"]⟩,
    ⟨.type, [.settable, .base], ["ABCMeta BaseSelector"]⟩,
    ⟨.type, [.settable, .base, .madePlain, .takesNothing], [
      "DefaultSelector EpollSelector PollSelector SelectSelector"]⟩,
    ⟨.type, [.settable, .indexed, .base], ["Mapping SelectorKey"]⟩])]

end LalrBackend.Code
