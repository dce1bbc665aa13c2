import LalrBackend.Code.Calling

/-!
# Failures

What becomes of a fault. Code sees it as an object that was raised, whose type tells what went wrong;
whoever asked for the run sees the name of the type, or what a parser says for itself.
-/

namespace LalrBackend.Code

/-- The name of the type of what a fault raises. -/
def Fault.typeName : Fault → String
  | .noSlot | .unpacking .noHeader => "IndexError"
  | .noKey => "KeyError"
  | .noAttribute => "AttributeError"
  | .unbound => "NameError"
  | .unassigned => "UnboundLocalError"
  | .typeMismatch => "TypeError"
  | .badValue | .unpacking _ => "ValueError"
  | .divisionByZero => "ZeroDivisionError"
  | .noModule => "ModuleNotFoundError"
  | .noImport => "ImportError"
  | .noOwner | .noScanner | .nothingRaised => "RuntimeError"
  | .exhausted => "StopIteration"
  | .claimFailed => "AssertionError"
  | .endless => "RecursionError"
  | .unreadable => "SyntaxError"
  | .raised _ => "Exception"

/-- The object that code sees for a fault. -/
def Fault.object : Fault → Machine Datum
  | .raised made => return made
  | fault => makeCell (.object (.known (builtinType fault.typeName)) [("args", .tuple [])])

/-- How a run failed: a parser refused an action number, no scanner was given, a table cannot be
unpacked, or something of a type was raised. -/
inductive Failure where
  | refused (message : String) (number : Value)
  | noScanner
  | unpacking (error : Packed.DecodeError)
  | raised (type : String)
  deriving Repr

/-- How a run failed that was ended by a fault. -/
def Fault.failure : Fault → Machine Failure
  | .noScanner => return .noScanner
  | .unpacking e => return .unpacking e
  | .raised made => do
    if ← isObjectOf "ParseTableError" made then
      let message ← handOut (← attributeOf made "message")
      return .refused (message.write true) (← handOut (← attributeOf made "act_num"))
    else return .raised ((← raisedName? (← typeOf made)).getD "")
  | fault => return .raised fault.typeName

/-- What is raised for a datum: an object as it is, or an object that is made of a type. -/
def exceptionOf (call : Call) (d : Datum) : Machine Datum := do
  match ← raisedName? d, ← raisedName? (← typeOf d) with
  | some _, _ => call d [] []
  | none, some _ => return d
  | none, none => throw .typeMismatch

/-- Raises something for the sake of a cause, which may be nothing. -/
def raiseDatum (call : Call) (d cause : Datum) : Machine Unit := do
  let made ← exceptionOf call d
  match cause with
  | .null => throw (.raised made)
  | cause => do
    let _ ← exceptionOf call cause
    throw (.raised made)

/-- Whether what was raised is of a type, or of one of several types. -/
def isHandledBy (made : Datum) : Datum → Machine Bool
  | .tuple types => types.anyM (isOf made)
  | type => isOf made type
where
  /-- Whether what was raised is of a type. Only what can be raised has such types. -/
  isOf (made type : Datum) : Machine Bool := do
    if (← raisedName? type).isNone then throw .typeMismatch
    return (← get).isBelow type depthLimit (← typeOf made)

end LalrBackend.Code
