import LalrBackend.Code.Library.Entry

/-!
# Modules for what runs at the same time

What these standard modules provide, by kind. Plain values stand apart.
-/

namespace LalrBackend.Code

/-- The contents of the modules for what runs at the same time. -/
def concurrencyContents : List (String × List Family) := [
  ("threading", [
    ⟨.module, [.withheld], ["functools"]⟩,
    ⟨.routine, [.bare], ["excepthook"]⟩,
    ⟨.routine, [.bare, .takesNothing], ["Lock get_ident get_native_id stack_size"]⟩,
    ⟨.routine, [.settable, .takesNumber, .takesList], ["setprofile settrace"]⟩,
    ⟨.routine, [.settable, .takesNothing], [
      "active_count current_thread enumerate getprofile gettrace main_thread"]⟩,
    ⟨.routine, [.settable, .takesNothing, .takesNumber, .takesList, .takesTwo], ["RLock"]⟩,
    ⟨.routine, [.settable, .takesNothing, .withheld], ["activeCount currentThread"]⟩,
    ⟨.type, [.base, .madePlain, .takesNothing], ["local"]⟩,
    ⟨.type, [.settable, .base, .madePlain, .takesNothing], ["Condition Event"]⟩,
    ⟨.type, [.settable, .base, .madePlain, .takesNothing, .takesNumber], [
      "BoundedSemaphore Semaphore"]⟩,
    ⟨.type, [.settable, .base, .madeWithTwo, .madePlain, .takesNothing], ["Thread"]⟩,
    ⟨.type, [.settable, .base, .madeWithTwo, .madePlain,
        .raised, .takesNothing, .takesNumber, .takesList, .takesTwo], ["BrokenBarrierError"]⟩,
    ⟨.type, [.settable, .base, .madeWithTwo, .takesNumber, .takesList, .takesTwo], ["Barrier"]⟩,
    ⟨.type, [.settable, .base, .madeWithTwo, .takesTwo], ["Timer"]⟩,
    ⟨.type, [.settable, .indexed], ["ExceptHookArgs"]⟩,
    ⟨.type, [.settable, .indexed, .base, .madePlain, .takesNothing, .withheld], ["WeakSet"]⟩]),
  ("multiprocessing", [
    ⟨.module, [], ["reducer"]⟩,
    ⟨.module, [.withheld], ["context process reduction sys"]⟩,
    ⟨.routine, [.bare], [
      "Array RawArray RawValue Value set_executable set_forkserver_preload set_start_method"]⟩,
    ⟨.routine, [.bare, .takesNumber, .takesList, .takesTwo], ["Barrier"]⟩,
    ⟨.routine, [.bare, .takesNothing], [
      "Condition Event Lock Manager RLock SimpleQueue allow_connection_pickling cpu_count",
      "freeze_support get_all_start_methods get_context get_logger"]⟩,
    ⟨.routine, [.bare, .takesNothing, .takesNumber], [
      "BoundedSemaphore JoinableQueue Pool Queue Semaphore log_to_stderr"]⟩,
    ⟨.routine, [.bare, .takesNothing, .takesNumber, .takesList], ["Pipe get_start_method"]⟩,
    ⟨.routine, [.settable, .takesNothing], ["active_children current_process parent_process"]⟩,
    ⟨.type, [.settable, .base, .madeWithTwo, .madePlain, .takesNothing], ["Process"]⟩,
    ⟨.type, [.settable, .base, .madeWithTwo, .madePlain,
        .raised, .takesNothing, .takesNumber, .takesList, .takesTwo], [
      "AuthenticationError BufferTooShort ProcessError TimeoutError"]⟩]),
  ("multiprocessing.connection", [
    ⟨.module, [.withheld], [
      "errno io itertools os reduction selectors socket struct sys tempfile time util"]⟩,
    ⟨.routine, [.settable], ["Client wait"]⟩,
    ⟨.routine, [.settable, .takesNothing, .takesNumber, .takesList], ["Pipe"]⟩,
    ⟨.routine, [.settable, .withheld], [
      "SocketClient XmlClient address_type answer_challenge arbitrary_address deliver_challenge",
      "rebuild_connection reduce_connection"]⟩,
    ⟨.type, [.settable, .base, .madeWithTwo, .madePlain, .takesNothing], ["Listener"]⟩,
    ⟨.type, [.settable, .base, .madeWithTwo, .madePlain, .takesNothing, .withheld], [
      "XmlListener"]⟩,
    ⟨.type, [.settable, .base, .madeWithTwo, .madePlain, .raised,
        .takesNothing, .takesNumber, .takesList, .takesTwo, .withheld], [
      "AuthenticationError BufferTooShort"]⟩,
    ⟨.type, [.settable, .base, .takesNumber, .withheld], ["Connection"]⟩,
    ⟨.type, [.settable, .base, .withheld], ["ConnectionWrapper SocketListener"]⟩,
    ⟨.value, [.bare, .withheld], ["CHALLENGE FAILURE WELCOME"]⟩]),
  ("multiprocessing.dummy", [
    ⟨.module, [.withheld], ["array connection sys threading weakref"]⟩,
    ⟨.routine, [.bare, .takesNothing], ["Lock"]⟩,
    ⟨.routine, [.settable, .takesNothing], [
      "Manager active_children current_process freeze_support"]⟩,
    ⟨.routine, [.settable, .takesNothing, .takesNumber], ["Pool"]⟩,
    ⟨.routine, [.settable, .takesNothing, .takesNumber, .takesList], ["Pipe"]⟩,
    ⟨.routine, [.settable, .takesNothing, .takesNumber, .takesList, .takesTwo], ["RLock"]⟩,
    ⟨.routine, [.settable, .takesNothing, .withheld], ["shutdown"]⟩,
    ⟨.routine, [.settable, .withheld], ["Array"]⟩,
    ⟨.type, [.settable, .base, .madePlain, .takesNothing], ["Condition Event"]⟩,
    ⟨.type, [.settable, .base, .madePlain, .takesNothing, .takesNumber], [
      "BoundedSemaphore Semaphore"]⟩,
    ⟨.type, [.settable, .base, .madePlain, .takesNothing, .withheld], ["Namespace"]⟩,
    ⟨.type, [.settable, .base, .madeWithTwo, .madePlain, .takesNothing], ["Process"]⟩,
    ⟨.type, [.settable, .base, .madeWithTwo, .madePlain, .takesNothing, .withheld], [
      "DummyProcess"]⟩,
    ⟨.type, [.settable, .base, .madeWithTwo, .takesNumber, .takesList, .takesTwo], ["Barrier"]⟩,
    ⟨.type, [.settable, .base, .madeWithTwo, .takesTwo, .withheld], ["Value"]⟩,
    ⟨.type, [.settable, .indexed, .base, .madePlain, .takesNothing, .takesNumber, .takesList], [
      "JoinableQueue Queue"]⟩]),
  ("multiprocessing.managers", [
    ⟨.module, [.withheld], [
      "array connection os pool process queue reduction shared_memory signal sys threading time",
      "types util"]⟩,
    ⟨.routine, [.bare, .takesNothing, .withheld], ["get_context getpid"]⟩,
    ⟨.routine, [.settable, .takesNumber, .takesList, .withheld], ["all_methods public_methods"]⟩,
    ⟨.routine, [.settable, .takesList, .withheld], ["rebuild_as_list"]⟩,
    ⟨.routine, [.settable, .takesNothing, .takesNumber, .withheld], ["format_exc"]⟩,
    ⟨.routine, [.settable, .takesNothing, .withheld], ["get_spawning_popen"]⟩,
    ⟨.routine, [.settable, .takesTwo, .withheld], ["convert_to_error"]⟩,
    ⟨.routine, [.settable, .withheld], [
      "Array AutoProxy MakeProxyType RebuildProxy dispatch reduce_array"]⟩,
    ⟨.type, [.settable, .base], ["BaseProxy Token"]⟩,
    ⟨.type, [.settable, .base, .madePlain, .takesNothing, .withheld], ["Namespace State"]⟩,
    ⟨.type, [.settable, .base, .madeWithTwo,
        .madePlain, .takesNothing, .takesNumber, .takesList], [
      "BaseManager SharedMemoryManager SyncManager"]⟩,
    ⟨.type, [.settable, .base, .madeWithTwo, .madePlain, .raised,
        .takesNothing, .takesNumber, .takesList, .takesTwo, .withheld], [
      "ProcessError RemoteError"]⟩,
    ⟨.type, [.settable, .base, .madeWithTwo, .takesTwo, .withheld], ["Value"]⟩,
    ⟨.type, [.settable, .base, .withheld], [
      "AcquirerProxy ArrayProxy BarrierProxy BaseListProxy BasePoolProxy ConditionProxy",
      "DictProxy EventProxy IteratorProxy ListProxy NamespaceProxy PoolProxy Server",
      "SharedMemoryServer"]⟩,
    ⟨.type, [.settable, .indexed, .base, .madePlain, .takesNothing, .withheld], [
      "ProcessLocalSet"]⟩,
    ⟨.type, [.settable, .indexed, .base, .withheld], ["ValueProxy"]⟩,
    ⟨.value, [.bare, .withheld], ["listener_client"]⟩]),
  ("multiprocessing.pool", [
    ⟨.module, [.withheld], [
      "collections itertools os queue threading time traceback types util warnings"]⟩,
    ⟨.routine, [.bare, .takesNothing, .withheld], ["get_context"]⟩,
    ⟨.routine, [.settable, .takesTwo, .withheld], ["rebuild_exc"]⟩,
    ⟨.routine, [.settable, .withheld], ["mapstar starmapstar wait worker"]⟩,
    ⟨.type, [.settable, .base, .madeWithTwo, .madePlain, .takesNothing, .takesNumber], [
      "Pool ThreadPool"]⟩,
    ⟨.type, [.settable, .base, .madeWithTwo, .madePlain, .raised,
        .takesNothing, .takesNumber, .takesList, .takesTwo, .withheld], ["TimeoutError"]⟩,
    ⟨.type, [.settable, .base, .madeWithTwo, .withheld], ["ExceptionWithTraceback"]⟩,
    ⟨.type, [.settable, .base, .madeWithTwo, .raised, .takesTwo, .withheld], [
      "MaybeEncodingError"]⟩,
    ⟨.type, [.settable, .base, .withheld], ["IMapIterator IMapUnorderedIterator"]⟩,
    ⟨.type, [.settable, .base, .raised, .takesNumber, .takesList, .withheld], ["RemoteTraceback"]⟩,
    ⟨.type, [.settable, .indexed, .base, .withheld], ["ApplyResult AsyncResult MapResult"]⟩,
    ⟨.value, [.bare, .withheld], ["job_counter"]⟩]),
  ("multiprocessing.process", [
    ⟨.module, [.withheld], ["itertools os signal sys threading"]⟩,
    ⟨.routine, [.settable, .takesNothing], ["active_children current_process parent_process"]⟩,
    ⟨.type, [.settable, .base, .madePlain, .takesNothing, .takesNumber, .withheld], [
      "AuthenticationString"]⟩,
    ⟨.type, [.settable, .base, .madeWithTwo, .madePlain, .takesNothing], ["BaseProcess"]⟩,
    ⟨.type, [.settable, .indexed, .base, .madePlain, .takesNothing, .withheld], ["WeakSet"]⟩,
    ⟨.value, [.bare, .withheld], ["ORIGINAL_DIR"]⟩]),
  ("multiprocessing.queues", [
    ⟨.module, [.withheld], [
      "collections connection context errno os sys threading time types weakref"]⟩,
    ⟨.routine, [.settable, .takesNumber, .takesList, .takesTwo, .withheld], ["debug info"]⟩,
    ⟨.routine, [.settable, .takesNothing, .withheld], ["is_exiting"]⟩,
    ⟨.routine, [.settable, .withheld], ["register_after_fork"]⟩,
    ⟨.type, [.settable, .base], ["JoinableQueue Queue"]⟩,
    ⟨.type, [.settable, .base, .madeWithTwo, .madePlain, .raised,
        .takesNothing, .takesNumber, .takesList, .takesTwo, .withheld], ["Empty Full"]⟩,
    ⟨.type, [.settable, .base, .takesTwo, .withheld], ["Finalize"]⟩,
    ⟨.type, [.settable, .indexed, .base], ["SimpleQueue"]⟩]),
  ("multiprocessing.shared_memory", [
    ⟨.module, [.withheld], ["errno mmap os resource_tracker secrets struct types"]⟩,
    ⟨.type, [.indexed, .base, .takesTwo, .withheld], ["partial"]⟩,
    ⟨.type, [.settable, .base], ["SharedMemory"]⟩,
    ⟨.type, [.settable, .indexed, .base, .madePlain, .takesNothing], ["ShareableList"]⟩]),
  ("multiprocessing.sharedctypes", [
    ⟨.module, [.withheld], ["ctypes heap reduction weakref"]⟩,
    ⟨.routine, [.bare, .takesNothing, .withheld], ["get_context"]⟩,
    ⟨.routine, [.settable], ["Array RawArray RawValue Value copy synchronized"]⟩,
    ⟨.routine, [.settable, .withheld], [
      "assert_spawning make_property rebuild_ctype reduce_ctype"]⟩,
    ⟨.type, [.settable, .base, .withheld], [
      "Synchronized SynchronizedArray SynchronizedBase SynchronizedString"]⟩,
    ⟨.value, [.bare, .withheld], ["prop_cache template typecode_to_type"]⟩,
    ⟨.value, [.settable, .withheld], ["class_cache"]⟩]),
  ("multiprocessing.synchronize", [
    ⟨.module, [.withheld], ["context process sys tempfile threading time util"]⟩,
    ⟨.routine, [.bare, .withheld], ["sem_unlink"]⟩,
    ⟨.type, [.settable, .base], ["BoundedSemaphore Condition Event Lock RLock Semaphore"]⟩,
    ⟨.type, [.settable, .base, .withheld], ["Barrier SemLock"]⟩]),
  ("concurrent", [
    ⟨.module, [], ["futures"]⟩]),
  ("concurrent.futures", [
    ⟨.routine, [.settable], ["wait"]⟩,
    ⟨.routine, [.settable, .takesNumber, .takesList, .takesTwo], ["as_completed"]⟩,
    ⟨.type, [.settable, .base, .madePlain, .takesNothing], ["Executor"]⟩,
    ⟨.type, [.settable, .base, .madeWithTwo, .madePlain,
        .raised, .takesNothing, .takesNumber, .takesList, .takesTwo], [
      "BrokenExecutor CancelledError"]⟩,
    ⟨.type, [.settable, .base, .madeWithTwo, .madePlain, .raised,
        .takesNothing, .takesNumber, .takesList, .takesTwo, .withheld], ["InvalidStateError"]⟩,
    ⟨.type, [.settable, .indexed, .base, .madePlain, .takesNothing], ["Future"]⟩]),
  ("concurrent.futures.process", [
    ⟨.module, [], ["itertools mp multiprocessing os queue sys threading weakref"]⟩,
    ⟨.routine, [.settable], ["format_exception"]⟩,
    ⟨.type, [.indexed, .base, .takesTwo], ["partial"]⟩,
    ⟨.type, [.settable, .base], ["Queue"]⟩,
    ⟨.type, [.settable, .base, .madeWithTwo, .madePlain, .takesNothing, .takesNumber], [
      "ProcessPoolExecutor"]⟩,
    ⟨.type, [.settable, .base, .madeWithTwo, .madePlain,
        .raised, .takesNothing, .takesNumber, .takesList, .takesTwo], ["BrokenProcessPool"]⟩]),
  ("concurrent.futures.thread", [
    ⟨.module, [], ["itertools os queue threading types weakref"]⟩,
    ⟨.type, [.settable, .base, .madeWithTwo, .madePlain, .takesNothing, .takesNumber], [
      "ThreadPoolExecutor"]⟩,
    ⟨.type, [.settable, .base, .madeWithTwo, .madePlain,
        .raised, .takesNothing, .takesNumber, .takesList, .takesTwo], ["BrokenThreadPool"]⟩]),
  ("subprocess", [
    ⟨.module, [.withheld], [
      "builtins contextlib errno fcntl io locale os select selectors signal sys threading time",
      "types warnings"]⟩,
    ⟨.routine, [.settable], ["call check_call check_output getoutput getstatusoutput run"]⟩,
    ⟨.routine, [.settable, .withheld], ["list2cmdline"]⟩,
    ⟨.type, [.settable, .base, .madeWithTwo, .madePlain,
        .raised, .takesNothing, .takesNumber, .takesList, .takesTwo], ["SubprocessError"]⟩,
    ⟨.type, [.settable, .base, .madeWithTwo, .raised, .takesTwo], [
      "CalledProcessError TimeoutExpired"]⟩,
    ⟨.type, [.settable, .indexed, .base], ["Popen"]⟩,
    ⟨.type, [.settable, .indexed, .base, .madeWithTwo, .takesTwo], ["CompletedProcess"]⟩]),
  ("sched", [
    ⟨.module, [.withheld], ["heapq threading time"]⟩,
    ⟨.routine, [.settable, .withheld], ["namedtuple"]⟩,
    ⟨.type, [.base, .madePlain, .takesNothing, .takesNumber, .withheld], ["count"]⟩,
    ⟨.type, [.settable, .base, .madeWithTwo, .madePlain,
        .takesNothing, .takesNumber, .takesList, .takesTwo], ["scheduler"]⟩,
    ⟨.type, [.settable, .indexed, .base, .withheld], ["Event"]⟩]),
  ("queue", [
    ⟨.module, [.withheld], ["threading types"]⟩,
    ⟨.routine, [.bare, .takesList, .withheld], ["heappop"]⟩,
    ⟨.routine, [.bare, .takesNothing, .withheld], ["time"]⟩,
    ⟨.routine, [.bare, .withheld], ["heappush"]⟩,
    ⟨.type, [.indexed, .base, .madePlain, .takesNothing], ["SimpleQueue"]⟩,
    ⟨.type, [.indexed, .base, .madePlain, .takesNothing, .takesList, .withheld], ["deque"]⟩,
    ⟨.type, [.settable, .base, .madeWithTwo, .madePlain,
        .raised, .takesNothing, .takesNumber, .takesList, .takesTwo], ["Empty Full"]⟩,
    ⟨.type, [.settable, .indexed, .base, .madePlain, .takesNothing, .takesNumber, .takesList], [
      "LifoQueue PriorityQueue Queue"]⟩]),
  ("contextvars", [
    ⟨.routine, [.bare, .takesNothing], ["copy_context"]⟩,
    ⟨.type, [.takesNothing], ["Context"]⟩,
    ⟨.type, [.indexed], ["ContextVar Token"]⟩]),
  ("asyncio", [
    ⟨.module, [.withheld], [
      "base_events base_futures base_subprocess base_tasks constants coroutines events",
      "exceptions format_helpers futures locks log mixins protocols queues runners",
      "selector_events sslproto staggered streams subprocess sys taskgroups tasks threads",
      "timeouts transports trsock unix_events"]⟩,
    ⟨.routine, [.bare], ["_leave_task _register_task _unregister_task get_running_loop"]⟩,
    ⟨.routine, [.bare, .takesNumber, .takesList], ["_set_running_loop"]⟩,
    ⟨.routine, [.bare, .takesNothing], ["_get_running_loop get_event_loop"]⟩,
    ⟨.routine, [.bare, .takesTwo], ["_enter_task"]⟩,
    ⟨.routine, [.settable], [
      "create_task ensure_future run run_coroutine_threadsafe set_child_watcher set_event_loop",
      "set_event_loop_policy shield timeout wrap_future"]⟩,
    ⟨.routine, [.settable, .takesNumber], ["current_task"]⟩,
    ⟨.routine, [.settable, .takesNumber, .takesList], [
      "all_tasks as_completed iscoroutine iscoroutinefunction isfuture timeout_at wait"]⟩,
    ⟨.routine, [.settable, .takesNumber, .takesList, .takesTwo], [
      "create_subprocess_exec create_subprocess_shell sleep start_server start_unix_server",
      "to_thread"]⟩,
    ⟨.routine, [.settable, .takesNothing], [
      "gather get_child_watcher get_event_loop_policy new_event_loop"]⟩,
    ⟨.routine, [.settable, .takesNothing, .takesNumber, .takesList], ["open_unix_connection"]⟩,
    ⟨.routine, [.settable, .takesNothing, .takesNumber, .takesList, .takesTwo], [
      "open_connection"]⟩,
    ⟨.routine, [.settable, .takesTwo], ["wait_for"]⟩,
    ⟨.type, [.indexed, .base], ["Task"]⟩,
    ⟨.type, [.indexed, .base, .madePlain, .takesNothing], ["Future"]⟩,
    ⟨.type, [.settable, .base], ["Handle Server StreamWriter TimerHandle"]⟩,
    ⟨.type, [.settable, .base, .madePlain, .takesNothing], [
      "AbstractChildWatcher AbstractEventLoop AbstractEventLoopPolicy AbstractServer",
      "BaseEventLoop BaseProtocol BufferedProtocol Condition DatagramProtocol",
      "DefaultEventLoopPolicy Event FastChildWatcher Lock MultiLoopChildWatcher",
      "PidfdChildWatcher Protocol Runner SafeChildWatcher SelectorEventLoop SubprocessProtocol",
      "ThreadedChildWatcher"]⟩,
    ⟨.type, [.settable, .base, .madePlain, .takesNothing, .takesNumber], [
      "BoundedSemaphore Semaphore StreamReader"]⟩,
    ⟨.type, [.settable, .base, .madePlain, .takesNothing, .takesNumber, .takesList], [
      "BaseTransport DatagramTransport ReadTransport SubprocessTransport Transport",
      "WriteTransport"]⟩,
    ⟨.type, [.settable, .base, .madePlain, .takesNothing, .withheld], ["TaskGroup"]⟩,
    ⟨.type, [.settable, .base, .madeWithTwo], ["StreamReaderProtocol"]⟩,
    ⟨.type, [.settable, .base, .madeWithTwo, .madePlain,
        .raised, .takesNothing, .takesNumber, .takesList, .takesTwo], [
      "BrokenBarrierError CancelledError InvalidStateError QueueEmpty QueueFull",
      "SendfileNotAvailableError"]⟩,
    ⟨.type, [.settable, .base, .madeWithTwo, .raised, .takesTwo], ["LimitOverrunError"]⟩,
    ⟨.type, [.settable, .base, .takesNumber], ["Barrier"]⟩,
    ⟨.type, [.settable, .base, .takesNumber, .takesList], ["Timeout"]⟩,
    ⟨.type, [.settable, .base, .raised], ["IncompleteReadError"]⟩,
    ⟨.type, [.settable, .indexed, .base, .madePlain, .takesNothing, .takesNumber, .takesList], [
      "LifoQueue PriorityQueue Queue"]⟩]),
  ("asyncio.events", [
    ⟨.module, [.withheld], ["contextvars format_helpers os socket subprocess sys threading"]⟩,
    ⟨.routine, [.bare], ["get_running_loop"]⟩,
    ⟨.routine, [.bare, .takesNumber, .takesList], ["_set_running_loop"]⟩,
    ⟨.routine, [.bare, .takesNothing], ["_get_running_loop get_event_loop"]⟩,
    ⟨.routine, [.settable], ["set_child_watcher set_event_loop set_event_loop_policy"]⟩,
    ⟨.routine, [.settable, .takesNothing], [
      "get_child_watcher get_event_loop_policy new_event_loop"]⟩,
    ⟨.type, [.settable, .base], ["Handle TimerHandle"]⟩,
    ⟨.type, [.settable, .base, .madePlain, .takesNothing], [
      "AbstractEventLoop AbstractEventLoopPolicy AbstractServer"]⟩,
    ⟨.type, [.settable, .base, .madePlain, .takesNothing, .withheld], [
      "BaseDefaultEventLoopPolicy"]⟩]),
  ("asyncio.exceptions", [
    ⟨.type, [.settable, .base, .madeWithTwo, .madePlain,
        .raised, .takesNothing, .takesNumber, .takesList, .takesTwo], [
      "BrokenBarrierError CancelledError InvalidStateError SendfileNotAvailableError"]⟩,
    ⟨.type, [.settable, .base, .madeWithTwo, .raised, .takesTwo], ["LimitOverrunError"]⟩,
    ⟨.type, [.settable, .base, .raised], ["IncompleteReadError"]⟩]),
  ("asyncio.futures", [
    ⟨.module, [.withheld], [
      "base_futures concurrent contextvars events exceptions format_helpers logging sys"]⟩,
    ⟨.routine, [.settable], ["wrap_future"]⟩,
    ⟨.routine, [.settable, .takesNumber, .takesList], ["isfuture"]⟩,
    ⟨.type, [.base, .takesTwo, .withheld], ["GenericAlias"]⟩,
    ⟨.type, [.indexed, .base, .madePlain, .takesNothing], ["Future"]⟩]),
  ("asyncio.locks", [
    ⟨.module, [.withheld], ["collections enum exceptions mixins tasks"]⟩,
    ⟨.type, [.settable, .base, .madePlain, .takesNothing], ["Condition Event Lock"]⟩,
    ⟨.type, [.settable, .base, .madePlain, .takesNothing, .takesNumber], [
      "BoundedSemaphore Semaphore"]⟩,
    ⟨.type, [.settable, .base, .takesNumber], ["Barrier"]⟩]),
  ("asyncio.protocols", [
    ⟨.type, [.settable, .base, .madePlain, .takesNothing], [
      "BaseProtocol BufferedProtocol DatagramProtocol Protocol SubprocessProtocol"]⟩]),
  ("asyncio.queues", [
    ⟨.module, [.withheld], ["collections heapq locks mixins"]⟩,
    ⟨.type, [.base, .takesTwo, .withheld], ["GenericAlias"]⟩,
    ⟨.type, [.settable, .base, .madeWithTwo, .madePlain,
        .raised, .takesNothing, .takesNumber, .takesList, .takesTwo], ["QueueEmpty QueueFull"]⟩,
    ⟨.type, [.settable, .indexed, .base, .madePlain, .takesNothing, .takesNumber, .takesList], [
      "LifoQueue PriorityQueue Queue"]⟩]),
  ("asyncio.runners", [
    ⟨.module, [.withheld], [
      "contextvars coroutines enum events exceptions functools signal sys tasks threading"]⟩,
    ⟨.routine, [.settable], ["run"]⟩,
    ⟨.type, [.settable, .base, .madePlain, .takesNothing], ["Runner"]⟩]),
  ("asyncio.streams", [
    ⟨.module, [.withheld], [
      "collections coroutines events exceptions format_helpers protocols socket sys warnings",
      "weakref"]⟩,
    ⟨.routine, [.settable, .takesNumber, .takesList, .takesTwo], [
      "start_server start_unix_server"]⟩,
    ⟨.routine, [.settable, .takesNumber, .takesList, .takesTwo, .withheld], ["sleep"]⟩,
    ⟨.routine, [.settable, .takesNothing, .takesNumber, .takesList], ["open_unix_connection"]⟩,
    ⟨.routine, [.settable, .takesNothing, .takesNumber, .takesList, .takesTwo], [
      "open_connection"]⟩,
    ⟨.type, [.settable, .base], ["StreamWriter"]⟩,
    ⟨.type, [.settable, .base, .madePlain, .takesNothing, .takesNumber], ["StreamReader"]⟩,
    ⟨.type, [.settable, .base, .madePlain, .takesNothing, .takesNumber, .takesList, .withheld], [
      "FlowControlMixin"]⟩,
    ⟨.type, [.settable, .base, .madeWithTwo], ["StreamReaderProtocol"]⟩,
    ⟨.value, [.settable, .withheld], ["logger"]⟩]),
  ("asyncio.subprocess", [
    ⟨.module, [.withheld], ["events protocols streams subprocess tasks"]⟩,
    ⟨.routine, [.settable, .takesNumber, .takesList, .takesTwo], [
      "create_subprocess_exec create_subprocess_shell"]⟩,
    ⟨.type, [.settable, .base, .madeWithTwo, .withheld], ["SubprocessStreamProtocol"]⟩,
    ⟨.type, [.settable, .base, .withheld], ["Process"]⟩,
    ⟨.value, [.settable, .withheld], ["logger"]⟩]),
  ("asyncio.tasks", [
    ⟨.module, [.withheld], [
      "base_tasks concurrent contextvars coroutines events exceptions functools futures inspect",
      "itertools types warnings weakref"]⟩,
    ⟨.routine, [.bare], ["_leave_task _register_task _unregister_task"]⟩,
    ⟨.routine, [.bare, .takesTwo], ["_enter_task"]⟩,
    ⟨.routine, [.settable], ["create_task ensure_future run_coroutine_threadsafe shield"]⟩,
    ⟨.routine, [.settable, .takesNumber], ["current_task"]⟩,
    ⟨.routine, [.settable, .takesNumber, .takesList], ["all_tasks as_completed wait"]⟩,
    ⟨.routine, [.settable, .takesNumber, .takesList, .takesTwo], ["sleep"]⟩,
    ⟨.routine, [.settable, .takesNothing], ["gather"]⟩,
    ⟨.routine, [.settable, .takesTwo], ["wait_for"]⟩,
    ⟨.type, [.base, .takesTwo, .withheld], ["GenericAlias"]⟩,
    ⟨.type, [.indexed, .base], ["Task"]⟩]),
  ("asyncio.taskgroups", [
    ⟨.module, [.withheld], ["events exceptions tasks"]⟩,
    ⟨.type, [.settable, .base, .madePlain, .takesNothing], ["TaskGroup"]⟩]),
  ("asyncio.timeouts", [
    ⟨.module, [.withheld], ["enum events exceptions tasks"]⟩,
    ⟨.routine, [.settable], ["timeout"]⟩,
    ⟨.routine, [.settable, .takesNumber, .takesList], ["timeout_at"]⟩,
    ⟨.routine, [.settable, .takesNumber, .takesList, .withheld], ["final"]⟩,
    ⟨.type, [.settable, .base, .takesNumber, .takesList], ["Timeout"]⟩,
    ⟨.type, [.withheld], ["TracebackType"]⟩,
    ⟨.value, [.bare, .indexed, .withheld], ["Optional"]⟩,
    ⟨.value, [.indexed, .base, .withheld], ["Type"]⟩]),
  ("asyncio.transports", [
    ⟨.type, [.settable, .base, .madePlain, .takesNothing, .takesNumber, .takesList], [
      "BaseTransport DatagramTransport ReadTransport SubprocessTransport Transport",
      "WriteTransport"]⟩])]

end LalrBackend.Code
