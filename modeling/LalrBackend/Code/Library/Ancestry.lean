import LalrBackend.Code.Library.Lookup

/-!
# The ancestry of types

On which types those that need no import are based, as far as code can tell: what can be raised, and
the truth values among the integers. Other types that can be raised are based on the most general
one that is not meant to end a program.
-/

namespace LalrBackend.Code

/-- Types with those that are based on them. -/
def kinships : List (String × List String) := [
  ("BaseException", ["BaseExceptionGroup Exception GeneratorExit KeyboardInterrupt SystemExit"]),
  ("Exception", [
    "ArithmeticError AssertionError AttributeError BufferError EOFError ExceptionGroup",
    "ImportError LookupError MemoryError NameError OSError ReferenceError RuntimeError",
    "StopAsyncIteration StopIteration SyntaxError SystemError TypeError ValueError Warning"]),
  ("ArithmeticError", ["FloatingPointError OverflowError ZeroDivisionError"]),
  ("ImportError", ["ModuleNotFoundError"]),
  ("LookupError", ["IndexError KeyError"]),
  ("NameError", ["UnboundLocalError"]),
  ("OSError", [
    "BlockingIOError ChildProcessError ConnectionError FileExistsError FileNotFoundError",
    "InterruptedError IsADirectoryError NotADirectoryError PermissionError",
    "ProcessLookupError TimeoutError"]),
  ("ConnectionError", [
    "BrokenPipeError ConnectionAbortedError ConnectionRefusedError ConnectionResetError"]),
  ("RuntimeError", ["NotImplementedError RecursionError"]),
  ("SyntaxError", ["IndentationError"]),
  ("IndentationError", ["TabError"]),
  ("ValueError", ["JSONDecodeError UnicodeError"]),
  ("UnicodeError", ["UnicodeDecodeError UnicodeEncodeError UnicodeTranslateError"]),
  ("Warning", [
    "BytesWarning DeprecationWarning EncodingWarning FutureWarning ImportWarning",
    "PendingDeprecationWarning ResourceWarning RuntimeWarning SyntaxWarning UnicodeWarning",
    "UserWarning"]),
  ("int", ["bool"])]

/-- The type that one of a name is based on. -/
def kinOf? (name : String) : Option String :=
  (kinships.find? fun (_, names) => name ∈ wordsOf names).map (·.1)

/-- The type that another one of a library is based on. -/
def Known.base? (k : Known) : Option Known :=
  if k.path = builtinPath ∨ .raised ∈ k.traits then
    match kinOf? k.name with
    | some name => some (builtinType name)
    | none =>
      if k.path ≠ builtinPath then some (builtinType "Exception") else none
  else none

end LalrBackend.Code
