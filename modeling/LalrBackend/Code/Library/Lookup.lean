import LalrBackend.Code.Library.Contents.Concurrency
import LalrBackend.Code.Library.Contents.Data
import LalrBackend.Code.Library.Contents.Execution
import LalrBackend.Code.Library.Contents.File
import LalrBackend.Code.Library.Contents.Language
import LalrBackend.Code.Library.Contents.Markup
import LalrBackend.Code.Library.Contents.Message
import LalrBackend.Code.Library.Contents.Network
import LalrBackend.Code.Library.Contents.Number
import LalrBackend.Code.Library.Contents.System
import LalrBackend.Code.Library.Contents.Text
import LalrBackend.Code.Library.Package
import LalrBackend.Code.Library.Paths
import LalrBackend.Code.Library.Private
import LalrBackend.Code.Library.Values

/-!
# Looking up libraries

Which modules there are and what they provide: standard ones, and those of the package that
generated parsers are based on. Standard modules that are not in the list of contents provide more
than is written down anywhere.
-/

namespace LalrBackend.Code

/-- The contents of standard modules. -/
def standardContents : List (String × List Family) :=
  textContents ++ dataContents ++ numberContents ++ fileContents ++ systemContents ++
    concurrencyContents ++ networkContents ++ messageContents ++ markupContents ++
    languageContents ++ executionContents

/-- The path of the module with the names that need no import. -/
def builtinPath : String := "builtins"

/-- The paths of all modules. -/
def modulePaths : List String :=
  wordsOf standardPaths ++ directoriesPath :: packageNames.map packagePath

/-- What modules make themselves, for all modules that are known. -/
def ownContents : List (String × List Known) :=
  (standardContents ++ (directoriesPath, directoriesContents) ::
      packageParts.map fun (name, families) => (packagePath name, families)).map
    fun (path, families) => (path, families.flatMap (Family.entries path))

/-- What a module of the package has from others. What it has is not withheld. -/
def loansOf (name : String) : List Known :=
  ((packageLoans.lookup name).getD []).flatMap fun (source, lines) =>
    let names := wordsOf lines
    (((ownContents.lookup (sourcePath source)).getD []).filter (·.name ∈ names)).map fun k =>
      { k with traits := k.traits.filter (· != .withheld) }

/-- The contents of all modules that are known. -/
def moduleContents : List (String × List Known) :=
  let loans := packageNames.map fun name => (packagePath name, loansOf name)
  (runtimePackage, loansOf "") :: ownContents.map fun (path, entries) =>
    (path, entries ++ (loans.lookup path).getD [])

/-- A module. -/
def moduleAt (path : String) : Known :=
  ⟨path, path, .module, [.settable]⟩

/-- The path of the module that another one is within. -/
def pathAround (path : String) : String :=
  ".".intercalate (path.splitOn ".").dropLast

/-- A module that is a member of another one: one within it, or one that it has imported, from
beside it or from anywhere. -/
def memberModule (path name : String) : Known :=
  let within := pathWithin path name
  let beside := pathWithin (pathAround path) name
  if within ∈ modulePaths then moduleAt within
  else if beside ∈ modulePaths then moduleAt beside
  else if name ∈ modulePaths then moduleAt name
  else moduleAt within

/-- Something that a module provides and nothing is known of. -/
def unknownMember (path name : String) : Known :=
  ⟨path, name, .value, [.settable]⟩

/-- The name that a member of a module goes by that has several. -/
def properName (path name : String) : String :=
  if path = builtinPath ∧ (name = "IOError" ∨ name = "EnvironmentError") then "OSError" else name

/-- Whether a module is a package. -/
def isPackage (path : String) : Bool :=
  path ∉ singleModules && modulePaths.any (·.startsWith (path ++ "."))

/-- Whether a module has a private name. One whose contents are not known may have every name that
another one has. -/
def hasPrivateName (path name : String) : Bool :=
  if name ∈ wordsOf commonNames then true
  else if name = listingName then
    path ∈ wordsOf listingModules || path ∈ [runtimePackage, runtimePath]
  else if name = locationName then isPackage path
  else if name ∈ fileNames then path ∉ wordsOf builtInModules
  else if (moduleContents.lookup path).isSome then hasName privateNames path name
  else privateNames.any fun (_, lines) => name ∈ wordsOf lines

/-- Whether some module has a public name. -/
def isNameOfSome (name : String) : Bool :=
  moduleContents.any fun (path, entries) =>
    entries.any (·.name == name) || (fixedValue? path name).isSome

/-- Whether a module may have a name that is not listed. -/
def mayHave (path name : String) : Bool :=
  if name.startsWith "_" then path ≠ builtinPath && hasPrivateName path name
  else (moduleContents.lookup path).isNone && isNameOfSome name

/-- What a module makes itself or has from others, but for what needs no import. -/
def listedMember? (path name : String) : Option Known :=
  let entries := (moduleContents.lookup path).getD []
  match entries.find? (·.name == properName path name) with
  | some k => some (if k.nature = .module then memberModule path name else k)
  | none =>
    if pathWithin path name ∈ modulePaths then some (moduleAt (pathWithin path name))
    else if mayHave path name then some (unknownMember path name)
    else none

/-- What a module provides under a name. -/
def moduleMember? (path name : String) : Option Known :=
  match namesakes.lookup (path, name) with
  | some plain => listedMember? builtinPath plain
  | none => listedMember? path name

/-- The plain value that a module of the package makes under a name. -/
def packageValue? (path name : String) : Option FixedValue :=
  packageNames.findSome? fun part =>
    if path = packagePath part then
      ((packageTexts.lookup (part, name)).map .text) <|>
        (packageNumbers.lookup (part, name)).map .number
    else none

/-- The public names of a module: those that it gives to all. -/
def publicNames (path : String) : List String :=
  (((moduleContents.lookup path).getD []).filter (.withheld ∉ ·.traits)).map (·.name) ++
    sharedFixedNames path

/-- A type of the names that need no import. -/
def builtinType (name : String) : Known :=
  (moduleMember? builtinPath name).getD ⟨builtinPath, name, .type, []⟩

end LalrBackend.Code
