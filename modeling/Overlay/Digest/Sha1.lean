/-
The SHA-1 digest. A message is closed with a one bit, zeros and its length in bits, cut into blocks
of sixteen words, and each block is mixed into a state of five words.
-/
import Overlay.Text.Hexadecimal

namespace Overlay.Sha1

/-- The five words of a digest in the making. -/
structure State where
  a : UInt32
  b : UInt32
  c : UInt32
  d : UInt32
  e : UInt32
  deriving DecidableEq

def initial : State := ⟨0x67452301, 0xEFCDAB89, 0x98BADCFE, 0x10325476, 0xC3D2E1F0⟩

def rotateLeft (x n : UInt32) : UInt32 := (x <<< n) ||| (x >>> (32 - n))

/-- The eighty words of the rounds, from the sixteen of a block. -/
def schedule (block : Array UInt32) : Array UInt32 :=
  (List.range 64).foldl (fun w i => w.push (rotateLeft
    (w.getD (i + 13) 0 ^^^ w.getD (i + 8) 0 ^^^ w.getD (i + 2) 0 ^^^ w.getD i 0) 1)) block

/-- The mixing function and the constant of a round. -/
def roundOf (t : Nat) (b c d : UInt32) : UInt32 × UInt32 :=
  if t < 20 then ((b &&& c) ||| (~~~b &&& d), 0x5A827999)
  else if t < 40 then (b ^^^ c ^^^ d, 0x6ED9EBA1)
  else if t < 60 then ((b &&& c) ||| (b &&& d) ||| (c &&& d), 0x8F1BBCDC)
  else (b ^^^ c ^^^ d, 0xCA62C1D6)

def step (s : State) (t : Nat) (word : UInt32) : State :=
  let (f, k) := roundOf t s.b s.c s.d
  ⟨rotateLeft s.a 5 + f + s.e + k + word, s.a, rotateLeft s.b 30, s.c, s.d⟩

/-- Mixes one block into a state. -/
def compress (s : State) (block : Array UInt32) : State :=
  let w := schedule block
  let r := (List.range 80).foldl (fun r t => step r t (w.getD t 0)) s
  ⟨s.a + r.a, s.b + r.b, s.c + r.c, s.d + r.d, s.e + r.e⟩

/-- The bytes that close a message of a length: together they fill whole blocks of 64. -/
def closing (length : Nat) : List UInt8 :=
  let bits := 8 * length
  (0x80 : UInt8) :: List.replicate ((119 - length % 64) % 64) 0 ++
    (List.range 8).map fun i => UInt8.ofNat (bits >>> (8 * (7 - i)))

/-- Bytes in fours as words, the most significant first. -/
def wordsOf : List UInt8 → List UInt32
  | a :: b :: c :: d :: rest =>
    ((a.toUInt32 <<< 24) ||| (b.toUInt32 <<< 16) ||| (c.toUInt32 <<< 8) ||| d.toUInt32) :: wordsOf rest
  | _ => []

/-- Mixes the words of whole blocks into a state, `count` blocks at most. -/
def compressAll : Nat → State → List UInt32 → State
  | 0, s, _ => s
  | count + 1, s, ws => if ws.isEmpty then s else compressAll count (compress s (ws.take 16).toArray) (ws.drop 16)

def digest (message : List UInt8) : State :=
  let ws := wordsOf (message ++ closing message.length)
  compressAll (ws.length / 16) initial ws

/-- The digest of a text's UTF-8 bytes as forty hexadecimal digits. -/
def hex (text : String) : String :=
  let s := digest text.toUTF8.toList
  String.ofList ([s.a, s.b, s.c, s.d, s.e].flatMap fun w => Text.hexDigits 8 w.toNat)

end Overlay.Sha1
