import LalrBackend.Code.Calling

/-!
# Names

Where running code finds names. The body of a function has names of its own and those of the
functions that it was made in, the body of a class collects the members of the class, and the module
has the names that all of them share. Behind the names of the module stand those that need no import.
-/

namespace LalrBackend.Code

/-- A step of running code in a frame. -/
abbrev Step := ReaderT Frame Machine

/-- The value that a name has without an import, if it is no name of a library. -/
def plainValue? (name : String) : Option Datum :=
  if name = "None" then some .null
  else if name = "True" ∨ name = debugName then some (.bool true)
  else if name = "False" then some (.bool false)
  else if name = "__name__" then some (.text builtinPath)
  else if name = "__package__" then some (.text "")
  else if name = "__doc__" then some (.text ("Built-in functions, exceptions, and other objects." ++
    "\n\nNoteworthy: None is the \x60nil' object; Ellipsis represents \x60...' in slices."))
  else none

/-- The value that a name has without an import. -/
def builtinValue? (name : String) : Option Datum :=
  match plainValue? name with
  | some d => some d
  | none => (moduleMember? builtinPath name).map .known

/-- The value of a name of the module, or of one that needs no import. -/
def readGlobal (name : String) : Machine Datum := do
  orFail .unbound (((← get).globals.lookup name).or (builtinValue? name))

/-- Gives a value to a name of the module. -/
def bindGlobal (name : String) (d : Datum) : Machine Unit :=
  modify fun s => { s with globals := setEntry name d s.globals }

/-- Takes a name from the module. -/
def dropGlobal (name : String) : Machine Unit := do
  unless (← get).globals.any (·.1 == name) do throw .unbound
  modify fun s => { s with globals := dropEntry name s.globals }

/-- The name by which a method knows the class that it was made in. -/
def ownerName : String := "__class__"

/-- The names of a scope with their values. -/
def namesIn (scope : Nat) : Machine (List (String × Datum)) := do
  match ← cellAt scope with
  | .scope names => return names
  | _ => return []

/-- The cell with the names among which a name is bound; there is none for the names of the
module. -/
def Frame.home? (f : Frame) (name : String) : Option Nat :=
  if name ∈ f.shared then none
  else ((f.scope :: f.around).find? fun s => name ∈ s.1).map (·.2)

/-- The value of a name that is not bound where code runs. -/
def Frame.readAround (f : Frame) (name : String) : Machine Datum := do
  match f.around.find? fun s => name ∈ s.1 with
  | some (_, scope) => orFail .unbound ((← namesIn scope).lookup name)
  | none =>
    match f.place, f.owner with
    | .classBody, _ => readGlobal name
    | _, some owner => if name = ownerName then return .cell owner else readGlobal name
    | _, none => readGlobal name

/-- The value of a name where code runs. A class finds the names that it binds itself among those of
the module as long as it has not bound them. -/
def readName (name : String) : Step Datum := do
  let f ← read
  if name ∈ f.shared then readGlobal name
  else if name ∈ f.scope.1 then
    match (← namesIn f.scope.2).lookup name with
    | some d => return d
    | none => if f.place = .classBody then readGlobal name else throw .unassigned
  else f.readAround name

/-- Gives a value to a name where code runs. -/
def bindName (name : String) (d : Datum) : Step Unit := do
  match (← read).home? name with
  | some scope => setCell scope (.scope (setEntry name d (← namesIn scope)))
  | none => bindGlobal name d

/-- Takes a name away where code runs. -/
def dropName (name : String) : Step Unit := do
  let f ← read
  match f.home? name with
  | some scope =>
    let names ← namesIn scope
    unless names.any (·.1 == name) do
      throw (if scope = f.scope.2 ∧ f.place ≠ .classBody then .unassigned else .unbound)
    setCell scope (.scope (dropEntry name names))
  | none => dropGlobal name

/-- The object of a method as the classes below its class see it. -/
def seenFromAbove : Step Datum := do
  let f ← read
  match f.owner, f.first with
  | some owner, some first => return .above owner (← readName first)
  | _, _ => throw .noOwner

/-! ## Frames -/

/-- The scopes that functions made in a frame can take names from. The names of a class are its
own. -/
def Frame.enclosing (f : Frame) : List Scope :=
  match f.place with
  | .module => []
  | .classBody => f.around
  | _ => f.scope :: f.around.map fun (names, cell) => (names.filter fun n => !(n ∈ f.shared), cell)

/-- The frame of a class that is made in a frame. -/
def Frame.ofClass (f : Frame) (owner : Nat) (body : List Statement) : Machine Frame := do
  return {
    place := .classBody
    scope := (localNames [] body, ← newCell (.scope []))
    shared := globalsOf body
    around := f.enclosing
    owner := some owner }

/-- The frame of a gathering in a frame, in which some names run through elements. -/
def Frame.ofGathering (f : Frame) (names : List String) : Machine Frame := do
  return {
    place := .gathering
    scope := (names, ← newCell (.scope []))
    shared := if f.place = .classBody then [] else f.shared
    around := f.enclosing
    owner := f.owner }

/-- The frame of a function with the values of its parameters. -/
def Routine.frame (r : Routine) (names : List (String × Datum)) : Machine Frame := do
  return {
    place := if r.kind = .waiting then .asyncFunction else .function
    scope := (localNames r.parameters.names r.body, ← newCell (.scope names))
    shared := globalsOf r.body
    around := r.around
    owner := r.owner
    first := r.parameters.names.head? }

/-! ## Imports -/

/-- Imports a module. All modules on its path must be there. -/
def loadModule (path : String) : Machine Datum :=
  if path ∈ modulePaths then return .known (moduleAt path) else throw .noModule

/-- Imports a module under the name that is given, or under the first part of its path. -/
def importModule (m : Imported) : Step Unit := do
  let d ← loadModule m.path
  match m.alias? with
  | some name => bindName name d
  | none => bindName m.bound (← loadModule m.bound)

/-- Imports a member of a module. -/
def importMember (path : String) (m : Imported) : Step Unit := do
  let s ← getThe Store
  let marked := s.marks.lookup (path, path, m.path)
  let d ← match marked with
    | some d => pure d
    | none => orFail .noImport (← memberDatum? path m.path)
  bindName (m.alias?.getD m.path) d

/-- Imports from a module: members, or all that is public. A module is not part of a package, so it
cannot say where it stands. -/
def importFrom (level : Nat) (path : String) (names : Option (List Imported)) : Step Unit := do
  if level ≠ 0 then throw .noKey
  let _ ← loadModule path
  match names with
  | some names => do
    let _ ← names.mapM (importMember path)
  | none => do
    let _ ← (publicNames path).mapM fun name => importMember path ⟨name, none⟩

end LalrBackend.Code
