import LalrBackend.Cache.Entry

/-!
# Places of files

The name under which an entry is stored is a path that starts in the cache directory. A path may
leave the directory for those above it and come back; it enters no other directory. A file is named
by the bytes of its name: a surrogate that stands for a byte is that byte again, any other one has
no bytes.
-/

namespace LalrBackend.Cache

open Text

/-- Whether a surrogate stands for a byte that is part of no character. -/
def standsForByte (point : Nat) : Bool :=
  0xdc80 ≤ point && point ≤ 0xdcff

/-- The bytes of a code point in a file name. -/
def bytesOfPoint (point : Nat) : List Nat :=
  if standsForByte point then [point - 0xdc00]
  else if point < 0x80 then [point]
  else if point < 0x800 then [0xc0 + point / 0x40, 0x80 + point % 0x40]
  else if point < 0x10000 then
    [0xe0 + point / 0x1000, 0x80 + point / 0x40 % 0x40, 0x80 + point % 0x40]
  else
    [0xf0 + point / 0x40000, 0x80 + point / 0x1000 % 0x40, 0x80 + point / 0x40 % 0x40,
      0x80 + point % 0x40]

/-- The bytes of a name or a path. -/
def bytesOf (name : String) : List Nat :=
  (pointsOf name).flatMap bytesOfPoint

/-- How many bytes a name or a path takes. -/
def bytesIn (name : String) : Nat :=
  (bytesOf name).length

/-- The character that bytes begin with, if they begin with one: that of one to four bytes whose
bytes are these. -/
def characterAt? (bytes : List Nat) : Option Nat :=
  let byte := fun i => bytes.getD i 0
  let tail := fun i => byte i % 0x40
  [byte 0, byte 0 % 0x20 * 0x40 + tail 1, (byte 0 % 0x10 * 0x40 + tail 1) * 0x40 + tail 2,
    ((byte 0 % 0x8 * 0x40 + tail 1) * 0x40 + tail 2) * 0x40 + tail 3].find? fun point =>
      isPoint point && !isSurrogate point && (bytesOfPoint point).isPrefixOf bytes

/-- The code points of so many bytes at most: characters where there are some, and for every byte
that is part of no character the surrogate that stands for it. -/
def pointsOfBytes : Nat → List Nat → CodePoints
  | 0, _ => []
  | _ + 1, [] => []
  | count + 1, b :: bs =>
    match characterAt? (b :: bs) with
    | some point => point :: pointsOfBytes count ((b :: bs).drop (bytesOfPoint point).length)
    | none => (0xdc00 + b) :: pointsOfBytes count bs

/-- The name that the system has for a file of a name. Two names of the same bytes name one file. -/
def systemName (name : String) : String :=
  stringOf (pointsOfBytes (bytesIn name) (bytesOf name))

/-- How many bytes a file name may have. -/
def mostNameBytes : Nat := 255

/-- How many bytes a path from the cache directory may have. -/
def mostPathBytes : Nat := 4060

/-- Where a file lies: so many directories above the cache directory, under a name. -/
structure Place where
  above : Nat
  name : String
  deriving Repr, DecidableEq

/-- The name of the cache directory in the one above it. -/
def directoryName : String := "cupemit"

/-- Follows the parts of a path from a directory so many above the cache directory. A file on the
way is no directory. -/
def follow (isFile : Place → Bool) (above : Nat) : List String → Except Refusal Place
  | [] => .error .isDirectory
  | [name] =>
    if mostNameBytes < bytesIn name then .error .other else .ok ⟨above, systemName name⟩
  | part :: parts =>
    if part = "" ∨ part = "." then follow isFile above parts
    else if part = ".." then follow isFile (above + 1) parts
    else if mostNameBytes < bytesIn part then .error .other
    else if above = 1 ∧ part = directoryName then follow isFile 0 parts
    else if isFile ⟨above, systemName part⟩ then .error .notDirectory
    else .error .parentMissing

/-- The place that a path leads to from the cache directory. -/
def placeOf (isFile : Place → Bool) (path : String) : Except Fault Place :=
  let points := pointsOf path
  if points.any fun p => isSurrogate p && !standsForByte p then .error .loneSurrogate
  else if 0 ∈ points then .error .zeroInName
  else if mostPathBytes < bytesIn path then .error (.refused .other)
  else if path.toList.head? = some '/' then .error (.refused .parentMissing)
  else (follow isFile 0 ((path.toList.splitOn '/').map String.ofList)).mapError .refused

end LalrBackend.Cache
