import LalrBackend.Code.Library.Entry

/-!
# Methods of plain types

What values of the types that need no import have as attributes: plain parts, and methods that take
so many values and answer with a value of a type.
-/

namespace LalrBackend.Code

/-- Methods of a type that are called alike: with how many values at least and at most, and the type
of what they answer. -/
structure MethodFamily where
  type : String
  least : Nat
  most : Nat
  result : String
  names : List String

/-- How many values a method takes that takes any number. -/
def anyNumber : Nat := 255

/-- The type of what is nothing, by its name. -/
def emptyTypeName : String := "NoneType"

/-- The public methods of the values of plain types. -/
def plainMethods : List MethodFamily := [
  ⟨"bool", 0, 0, "tuple", ["as_integer_ratio"]⟩,
  ⟨"bool", 0, 0, "int", ["bit_count bit_length conjugate"]⟩,
  ⟨"bool", 0, anyNumber, "bool", ["from_bytes"]⟩,
  ⟨"bool", 0, 2, "bytes", ["to_bytes"]⟩,
  ⟨"bytes", 0, 0, "bool", [
    "isalnum isalpha isascii isdigit islower isspace istitle isupper"]⟩,
  ⟨"bytes", 0, 0, "bytes", ["capitalize lower swapcase title upper"]⟩,
  ⟨"bytes", 1, 2, "bytes", ["center ljust rjust translate"]⟩,
  ⟨"bytes", 1, 3, "int", ["count find index rfind rindex"]⟩,
  ⟨"bytes", 0, 2, "str", ["decode hex"]⟩,
  ⟨"bytes", 1, 3, "bool", ["endswith startswith"]⟩,
  ⟨"bytes", 0, 1, "bytes", ["expandtabs lstrip rstrip strip"]⟩,
  ⟨"bytes", 0, anyNumber, "bytes", ["fromhex maketrans"]⟩,
  ⟨"bytes", 1, 1, "bytes", ["join removeprefix removesuffix zfill"]⟩,
  ⟨"bytes", 1, 1, "tuple", ["partition rpartition"]⟩,
  ⟨"bytes", 2, 3, "bytes", ["replace"]⟩,
  ⟨"bytes", 0, 2, "list", ["rsplit split splitlines"]⟩,
  ⟨"complex", 0, 0, "complex", ["conjugate"]⟩,
  ⟨"dict", 0, 0, "NoneType", ["clear"]⟩,
  ⟨"dict", 0, 0, "dict", ["copy"]⟩,
  ⟨"dict", 0, anyNumber, "dict", ["fromkeys"]⟩,
  ⟨"dict", 1, 2, "object", ["get pop setdefault"]⟩,
  ⟨"dict", 0, 0, "list", ["items keys values"]⟩,
  ⟨"dict", 0, 0, "tuple", ["popitem"]⟩,
  ⟨"dict", 0, 1, "NoneType", ["update"]⟩,
  ⟨"float", 0, 0, "tuple", ["as_integer_ratio"]⟩,
  ⟨"float", 0, 0, "float", ["conjugate"]⟩,
  ⟨"float", 0, anyNumber, "float", ["fromhex"]⟩,
  ⟨"float", 0, 0, "str", ["hex"]⟩,
  ⟨"float", 0, 0, "bool", ["is_integer"]⟩,
  ⟨"int", 0, 0, "tuple", ["as_integer_ratio"]⟩,
  ⟨"int", 0, 0, "int", ["bit_count bit_length conjugate"]⟩,
  ⟨"int", 0, anyNumber, "int", ["from_bytes"]⟩,
  ⟨"int", 0, 2, "bytes", ["to_bytes"]⟩,
  ⟨"list", 1, 1, "NoneType", ["append extend remove"]⟩,
  ⟨"list", 0, 0, "NoneType", ["clear reverse sort"]⟩,
  ⟨"list", 0, 0, "list", ["copy"]⟩,
  ⟨"list", 1, 1, "int", ["count"]⟩,
  ⟨"list", 1, 3, "int", ["index"]⟩,
  ⟨"list", 2, 2, "NoneType", ["insert"]⟩,
  ⟨"list", 0, 1, "object", ["pop"]⟩,
  ⟨"set", 1, 1, "NoneType", ["add discard remove symmetric_difference_update"]⟩,
  ⟨"set", 0, 0, "NoneType", ["clear"]⟩,
  ⟨"set", 0, 0, "set", ["copy"]⟩,
  ⟨"set", 0, anyNumber, "set", ["difference intersection union"]⟩,
  ⟨"set", 0, anyNumber, "NoneType", ["difference_update intersection_update update"]⟩,
  ⟨"set", 1, 1, "bool", ["isdisjoint issubset issuperset"]⟩,
  ⟨"set", 0, 0, "object", ["pop"]⟩,
  ⟨"set", 1, 1, "set", ["symmetric_difference"]⟩,
  ⟨"str", 0, 0, "str", ["capitalize casefold lower swapcase title upper"]⟩,
  ⟨"str", 1, 2, "str", ["center ljust rjust"]⟩,
  ⟨"str", 1, 3, "int", ["count find index rfind rindex"]⟩,
  ⟨"str", 0, 2, "bytes", ["encode"]⟩,
  ⟨"str", 1, 3, "bool", ["endswith startswith"]⟩,
  ⟨"str", 0, 1, "str", ["expandtabs lstrip rstrip strip"]⟩,
  ⟨"str", 0, anyNumber, "str", ["format"]⟩,
  ⟨"str", 0, 0, "bool", [
    "isalnum isalpha isascii isdecimal isdigit isidentifier islower isnumeric isprintable",
    "isspace istitle isupper"]⟩,
  ⟨"str", 1, 1, "str", ["format_map join removeprefix removesuffix translate zfill"]⟩,
  ⟨"str", 0, anyNumber, "dict", ["maketrans"]⟩,
  ⟨"str", 1, 1, "tuple", ["partition rpartition"]⟩,
  ⟨"str", 2, 3, "str", ["replace"]⟩,
  ⟨"str", 0, 2, "list", ["rsplit split"]⟩,
  ⟨"str", 0, 1, "list", ["splitlines"]⟩,
  ⟨"tuple", 1, 1, "int", ["count"]⟩,
  ⟨"tuple", 1, 3, "int", ["index"]⟩]

/-- The parts of numbers, with the types of what they are. -/
def numberParts : List (String × String × List String) := [
  ("bool", "int", ["denominator imag numerator real"]),
  ("complex", "float", ["imag real"]),
  ("float", "float", ["imag real"]),
  ("int", "int", ["denominator imag numerator real"])]

/-- The family of a method of a type. -/
def methodFamily? (type name : String) : Option MethodFamily :=
  plainMethods.find? fun m => m.type == type && name ∈ wordsOf m.names

/-- The type of a part of the numbers of a type. -/
def partType? (type name : String) : Option String :=
  numberParts.findSome? fun (owner, part, names) =>
    if owner = type ∧ name ∈ wordsOf names then some part else none

/-- The types of what routines answer that need no import. -/
def routineResults : List (String × List String) := [
  ("bool", ["callable hasattr isinstance issubclass"]),
  ("dict", ["globals locals vars"]),
  ("int", ["hash id ord round"]),
  ("list", ["dir"]),
  ("str", ["ascii bin chr format hex input oct"]),
  ("tuple", ["divmod"])]

/-- The type of what a call of a routine or a type answers, by its name. -/
def answerType (name : String) : String :=
  ((routineResults.find? fun (_, names) => name ∈ wordsOf names).map (·.1)).getD name

/-- Types of results of which only the type is known, whose items can be run through. -/
def filledTypes : List String :=
  ["bytes", "dict", "frozenset", "list", "range", "set", "str", "tuple"]

/-- The types among them that have an order, by which their items can be asked for. -/
def orderedTypes : List String :=
  ["bytes", "list", "range", "str", "tuple"]

end LalrBackend.Code
