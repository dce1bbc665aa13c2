/-!
# The SHA-1 digest

The digest of a list of bytes. The message is filled up to whole blocks of sixteen words; each
block is expanded to eighty words, which turn a state of five words eighty times.
-/

namespace LalrBackend.Sha1

/-- The five words of a state. -/
structure State where
  a : UInt32
  b : UInt32
  c : UInt32
  d : UInt32
  e : UInt32
  deriving Repr, DecidableEq

/-- The state before the first block. -/
def initial : State :=
  ⟨0x67452301, 0xefcdab89, 0x98badcfe, 0x10325476, 0xc3d2e1f0⟩

/-- Turns a word to the left. -/
def rotate (word : UInt32) (places : UInt32) : UInt32 :=
  (word <<< places) ||| (word >>> (32 - places))

/-- The lowest bytes of a number, the most significant first. -/
def bigEndian : Nat → Nat → List UInt8
  | 0, _ => []
  | count + 1, n => bigEndian count (n / 256) ++ [UInt8.ofNat n]

/-- The message, a marking bit, zeros, and the length of the message in bits. -/
def pad (message : List UInt8) : List UInt8 :=
  let zeros := (119 - message.length % 64) % 64
  message ++ 0x80 :: List.replicate zeros 0 ++ bigEndian 8 (8 * message.length)

/-- Four bytes as a word. -/
def word (a b c d : UInt8) : UInt32 :=
  (a.toUInt32 <<< 24) ||| (b.toUInt32 <<< 16) ||| (c.toUInt32 <<< 8) ||| d.toUInt32

/-- Bytes as words; what does not fill a word is left out. -/
def words : List UInt8 → List UInt32
  | a :: b :: c :: d :: rest => word a b c d :: words rest
  | _ => []

/-- Adds the next word of the expansion; the words so far are kept with the last one first. -/
def expandOnce (ws : Array UInt32) : Array UInt32 :=
  let back := fun i => ws.getD (ws.size - i) 0
  ws.push (rotate (back 3 ^^^ back 8 ^^^ back 14 ^^^ back 16) 1)

/-- The eighty words of a block of sixteen. -/
def schedule (block : List UInt32) : List UInt32 :=
  ((List.range 64).foldl (fun ws _ => expandOnce ws) block.toArray).toList

/-- The mixing function and the constant of a round. -/
def mix (round : Nat) (s : State) : UInt32 :=
  if round < 20 then ((s.b &&& s.c) ||| (~~~s.b &&& s.d)) + 0x5a827999
  else if round < 40 then (s.b ^^^ s.c ^^^ s.d) + 0x6ed9eba1
  else if round < 60 then ((s.b &&& s.c) ||| (s.b &&& s.d) ||| (s.c &&& s.d)) + 0x8f1bbcdc
  else (s.b ^^^ s.c ^^^ s.d) + 0xca62c1d6

/-- One turn of a state. -/
def turn (s : State) (w : UInt32) (round : Nat) : State :=
  ⟨rotate s.a 5 + mix round s + s.e + w, s.a, rotate s.b 30, s.c, s.d⟩

/-- A state after one more block. -/
def absorb (s : State) (block : List UInt32) : State :=
  let t := ((schedule block).zipIdx).foldl (fun t (w, round) => turn t w round) s
  ⟨s.a + t.a, s.b + t.b, s.c + t.c, s.d + t.d, s.e + t.e⟩

/-- A state after all bytes, block by block. -/
def absorbAll (s : State) (bytes : List UInt8) : State :=
  match bytes with
  | [] => s
  | b :: rest => absorbAll (absorb s (words (b :: rest.take 63))) (rest.drop 63)
termination_by bytes.length
decreasing_by rw [List.length_drop, List.length_cons]; omega

/-- The words of a state. -/
def State.words (s : State) : List UInt32 :=
  [s.a, s.b, s.c, s.d, s.e]

/-- A word in eight hexadecimal digits. -/
def hexWord (w : UInt32) : List Char :=
  let digits := Nat.toDigits 16 w.toNat
  List.replicate (8 - digits.length) '0' ++ digits

/-- The digest of a message in hexadecimal digits. -/
def hexDigest (message : List UInt8) : String :=
  String.ofList ((absorbAll initial (pad message)).words.flatMap hexWord)

end LalrBackend.Sha1
