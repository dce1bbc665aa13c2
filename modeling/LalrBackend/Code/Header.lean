import LalrBackend.Code.SimpleStatement

/-!
# Reading headers

A header is what stands before the colon that announces a block: the beginning of a class, a
function, a condition, a loop, an attempt or a context, or of a further block of one of them. A
private name within a class is read as the class keeps it.
-/

namespace LalrBackend.Code

/-- A name as a class keeps it: one that begins with two underscores and does not end so belongs to
the class. -/
def privateName (owner name : String) : String :=
  let cs := name.toList
  let bare := owner.toList.dropWhile (· == '_')
  if ['_', '_'].isPrefixOf cs && !(['_', '_'].isSuffixOf cs) && !bare.isEmpty then
    "_" ++ String.ofList bare ++ name
  else name

/-- A token as it stands in a class. -/
def Token.ownedBy (owner : Option String) (t : Token) : Token :=
  match owner, t with
  | some owner, .name n => .name (privateName owner n)
  | _, t => t

/-- What a line begins. A context comes with the target that it is given to. -/
inductive Header where
  | makeClass (name : String) (args : List Expr)
  | define (isAsync : Bool) (name : String) (parameters : Parameters) (defaults types : List Expr)
  | branch (condition : Expr)
  | loop (condition : Expr)
  | forEach (isAsync : Bool) (target source : Expr)
  | attempt
  | within (isAsync : Bool) (contexts : List (Expr × Option Expr))

/-- What a further block of an attempt is for. -/
inductive Ending where
  | handler (grouped : Bool) (type : Option Expr) (name : Option String)
  | otherwise
  | final

/-- Reads the colon that announces a block. -/
def readColon? {α : Type} (r : Option (α × List Token)) : Option (α × List Token) :=
  match r with
  | some (a, .mark ":" :: ts) => some (a, ts)
  | _ => none

/-- Reads a function after its first word. -/
def readDefinition? (isAsync : Bool) (ts : List Token) : Option (Header × List Token) := do
  match ts with
  | .name n :: .mark "(" :: rest =>
    let ((ps, defaults, types), rest) ← readParameters? (depthFor ts) ")" {} rest
    match rest with
    | .mark "->" :: rest =>
      let (result, rest) ← readOne? rest
      return (.define isAsync n ps defaults (types ++ [result]), rest)
    | rest => return (.define isAsync n ps defaults types, rest)
  | _ => none

/-- Reads a loop over the items of something after its first word. -/
def readForEach? (isAsync : Bool) (ts : List Token) : Option (Header × List Token) := do
  match ← readTargets? (depthFor ts) ts with
  | (target, .keyword "in" :: ts) =>
    if !target.isTarget then none
    let (source, ts) ← readGroup? ts
    return (.forEach isAsync target source, ts)
  | _ => none

/-- Reads a context with its target, if it has one. -/
def readContext? (ts : List Token) : Option ((Expr × Option Expr) × List Token) := do
  match ← readOne? ts with
  | (e, .keyword "as" :: ts) =>
    let (target, ts) ← readAt? (depthFor ts) 0 ts
    if target.isTarget then return ((e, some target), ts) else none
  | (e, ts) => return ((e, none), ts)

/-- Reads contexts with commas between them. Within parentheses there may be a comma after the last
one. -/
def readContexts? (inner : Bool) :
    Nat → List Token → Option (List (Expr × Option Expr) × List Token)
  | 0, _ => none
  | fuel + 1, ts => do
    let (c, ts) ← readContext? ts
    match ts with
    | .mark "," :: .mark ")" :: ts =>
      if inner then return ([c], .mark ")" :: ts) else none
    | .mark "," :: ts =>
      let (cs, ts) ← readContexts? inner fuel ts
      return (c :: cs, ts)
    | ts => return ([c], ts)

/-- Reads what a block stands within, after the first word: contexts in parentheses if that is how
they can be read, or else without them. -/
def readWithin? (isAsync : Bool) (ts : List Token) : Option (Header × List Token) :=
  let inner : Option (List (Expr × Option Expr) × List Token) :=
    match ts with
    | .mark "(" :: rest =>
      match readContexts? true (ts.length + 1) rest with
      | some (cs, .mark ")" :: .mark ":" :: rest) => some (cs, .mark ":" :: rest)
      | _ => none
    | _ => none
  (inner.or (readContexts? false (ts.length + 1) ts)).map fun (cs, ts) => (.within isAsync cs, ts)

/-- Reads what stands before a colon that announces a block. -/
def readOpening? (ts : List Token) : Option (Header × List Token) :=
  match ts with
  | .keyword "class" :: .name n :: .mark "(" :: rest =>
    (readArguments? (depthFor ts) .none rest).map fun (args, ts) => (.makeClass n args, ts)
  | .keyword "class" :: .name n :: ts => some (.makeClass n [], ts)
  | .keyword "def" :: ts => readDefinition? false ts
  | .keyword "async" :: .keyword "def" :: ts => readDefinition? true ts
  | .keyword "if" :: ts =>
    (readNamed? (depthFor ts) ts).map fun (e, ts) => (.branch e, ts)
  | .keyword "while" :: ts =>
    (readNamed? (depthFor ts) ts).map fun (e, ts) => (.loop e, ts)
  | .keyword "for" :: ts => readForEach? false ts
  | .keyword "async" :: .keyword "for" :: ts => readForEach? true ts
  | .keyword "with" :: ts => readWithin? false ts
  | .keyword "async" :: .keyword "with" :: ts => readWithin? true ts
  | .keyword "try" :: ts => some (.attempt, ts)
  | _ => none

/-- Reads a header with its colon. -/
def readHeader? (ts : List Token) : Option (Header × List Token) :=
  readColon? (readOpening? ts)

/-- Reads the name that something handled goes by. -/
def readHandled? (grouped : Bool) (ts : List Token) : Option (Ending × List Token) := do
  match ← readOne? ts with
  | (e, .keyword "as" :: .name n :: ts) => return (.handler grouped (some e) (some n), ts)
  | (e, ts) => return (.handler grouped (some e) none, ts)

/-- Reads what a further block of an attempt is for, with its colon. -/
def readEnding? (ts : List Token) : Option (Ending × List Token) :=
  readColon? <|
    match ts with
    | .keyword "except" :: .mark ":" :: ts => some (.handler false none none, .mark ":" :: ts)
    | .keyword "except" :: .mark "*" :: ts => readHandled? true ts
    | .keyword "except" :: ts => readHandled? false ts
    | .keyword "else" :: ts => some (.otherwise, ts)
    | .keyword "finally" :: ts => some (.final, ts)
    | _ => none

/-- The class that the lines of a block belong to. -/
def Header.owner (h : Header) (owner : Option String) : Option String :=
  match h with
  | .makeClass n _ => some n
  | _ => owner

/-- A block within contexts, the first one outermost. -/
def withinAll (isAsync : Bool) (body : List Statement) :
    List (Expr × Option Expr) → List Statement
  | [] => body
  | (e, target) :: cs => [.within isAsync e target (withinAll isAsync body cs)]

/-- The statement that a function or a class becomes by what is applied to it. -/
def Statement.wrapped? (e : Expr) : Statement → Option Statement
  | .define isAsync n ps wrappers defaults types body =>
    some (.define isAsync n ps (e :: wrappers) defaults types body)
  | .makeClass n wrappers args body => some (.makeClass n (e :: wrappers) args body)
  | _ => none

end LalrBackend.Code
