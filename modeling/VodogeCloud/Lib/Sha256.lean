import Mathlib.Algebra.Group.Nat.Defs
import Mathlib.Data.List.Basic

/-!
# SHA-256

The hash function of FIPS 180-4 over lists of bytes. Words are natural numbers below
`2 ^ 32`. What a client uses of it is the length of a digest and of its text in
hexadecimal digits, and that a concrete digest can be computed.
-/

set_option autoImplicit false

namespace VodogeCloud.Lib.Sha256

/-- A 32-bit word. -/
abbrev Word := Nat

def rotr (x : Word) (n : Nat) : Word := x >>> n ||| x <<< (32 - n) % 2 ^ 32

/-- The 64 round constants. -/
def roundConstants : List Word :=
  [0x428a2f98, 0x71374491, 0xb5c0fbcf, 0xe9b5dba5, 0x3956c25b, 0x59f111f1, 0x923f82a4, 0xab1c5ed5,
    0xd807aa98, 0x12835b01, 0x243185be, 0x550c7dc3, 0x72be5d74, 0x80deb1fe, 0x9bdc06a7, 0xc19bf174,
    0xe49b69c1, 0xefbe4786, 0x0fc19dc6, 0x240ca1cc, 0x2de92c6f, 0x4a7484aa, 0x5cb0a9dc, 0x76f988da,
    0x983e5152, 0xa831c66d, 0xb00327c8, 0xbf597fc7, 0xc6e00bf3, 0xd5a79147, 0x06ca6351, 0x14292967,
    0x27b70a85, 0x2e1b2138, 0x4d2c6dfc, 0x53380d13, 0x650a7354, 0x766a0abb, 0x81c2c92e, 0x92722c85,
    0xa2bfe8a1, 0xa81a664b, 0xc24b8b70, 0xc76c51a3, 0xd192e819, 0xd6990624, 0xf40e3585, 0x106aa070,
    0x19a4c116, 0x1e376c08, 0x2748774c, 0x34b0bcb5, 0x391c0cb3, 0x4ed8aa4a, 0x5b9cca4f, 0x682e6ff3,
    0x748f82ee, 0x78a5636f, 0x84c87814, 0x8cc70208, 0x90befffa, 0xa4506ceb, 0xbef9a3f7, 0xc67178f2]

/-- The eight words carried from block to block. -/
structure State where
  a : Word
  b : Word
  c : Word
  d : Word
  e : Word
  f : Word
  g : Word
  h : Word
  deriving DecidableEq, Repr

def initial : State :=
  ⟨0x6a09e667, 0xbb67ae85, 0x3c6ef372, 0xa54ff53a, 0x510e527f, 0x9b05688c, 0x1f83d9ab, 0x5be0cd19⟩

def State.add (s t : State) : State :=
  ⟨(s.a + t.a) % 2 ^ 32, (s.b + t.b) % 2 ^ 32, (s.c + t.c) % 2 ^ 32, (s.d + t.d) % 2 ^ 32,
    (s.e + t.e) % 2 ^ 32, (s.f + t.f) % 2 ^ 32, (s.g + t.g) % 2 ^ 32, (s.h + t.h) % 2 ^ 32⟩

/-- One round with its schedule word plus its constant. -/
def round (s : State) (word : Word) : State :=
  let sum1 := rotr s.e 6 ^^^ rotr s.e 11 ^^^ rotr s.e 25
  let choice := s.e &&& s.f ^^^ (s.e ^^^ (2 ^ 32 - 1)) &&& s.g
  let first := s.h + sum1 + choice + word
  let sum0 := rotr s.a 2 ^^^ rotr s.a 13 ^^^ rotr s.a 22
  let majority := s.a &&& s.b ^^^ s.a &&& s.c ^^^ s.b &&& s.c
  ⟨(first + sum0 + majority) % 2 ^ 32, s.a, s.b, s.c, (s.d + first) % 2 ^ 32, s.e, s.f, s.g⟩

/-- The next schedule word from the last sixteen, the newest first. -/
def nextWord : List Word → Word
  | _ :: w2 :: _ :: _ :: _ :: _ :: w7 :: _ :: _ :: _ :: _ :: _ :: _ :: _ :: w15 :: w16 :: _ =>
    let sigma0 := rotr w15 7 ^^^ rotr w15 18 ^^^ w15 >>> 3
    let sigma1 := rotr w2 17 ^^^ rotr w2 19 ^^^ w2 >>> 10
    (w16 + sigma0 + w7 + sigma1) % 2 ^ 32
  | _ => 0

/-- The schedule, the newest word first, extended `count` times. -/
def extend : Nat → List Word → List Word
  | 0, words => words
  | count + 1, words => extend count (nextWord words :: words)

/-- The sixteen big-endian words of a block. -/
def wordsOf : List UInt8 → List Word
  | b0 :: b1 :: b2 :: b3 :: rest =>
    (b0.toNat * 2 ^ 24 + b1.toNat * 2 ^ 16 + b2.toNat * 2 ^ 8 + b3.toNat) :: wordsOf rest
  | _ => []

def schedule (block : List UInt8) : List Word := (extend 48 (wordsOf block).reverse).reverse

def compress (s : State) (block : List UInt8) : State :=
  s.add (((schedule block).zip roundConstants).foldl
    (fun state word => round state (word.1 + word.2)) s)

/-- A one bit, zeros up to eight bytes short of a block, and the length in bits. -/
def pad (message : List UInt8) : List UInt8 :=
  message ++ (0x80 : UInt8) :: List.replicate ((119 - message.length % 64) % 64) 0 ++
    (List.range 8).map fun i => UInt8.ofNat ((8 * message.length) >>> (8 * (7 - i)))

/-- Compress `count` blocks. -/
def blocks : Nat → List UInt8 → State → State
  | 0, _, s => s
  | count + 1, bytes, s => blocks count (bytes.drop 64) (compress s (bytes.take 64))

def wordBytes (w : Word) : List UInt8 :=
  [UInt8.ofNat (w >>> 24), UInt8.ofNat (w >>> 16), UInt8.ofNat (w >>> 8), UInt8.ofNat w]

def State.bytes (s : State) : List UInt8 :=
  wordBytes s.a ++ wordBytes s.b ++ wordBytes s.c ++ wordBytes s.d ++ wordBytes s.e ++
    wordBytes s.f ++ wordBytes s.g ++ wordBytes s.h

/-- The 32 bytes of the hash. -/
def digest (message : List UInt8) : List UInt8 :=
  (blocks ((pad message).length / 64) (pad message) initial).bytes

/-- Two lower-case hexadecimal digits for each byte. -/
def hex (bytes : List UInt8) : List Char :=
  bytes.flatMap fun byte => [Nat.digitChar (byte.toNat / 16), Nat.digitChar (byte.toNat % 16)]

/-- A digit of a hash is none of the other letters. -/
theorem mem_hex {bytes : List UInt8} {c : Char} (member : c ∈ hex bytes) :
    c.isDigit = true ∨ ('a' ≤ c ∧ c ≤ 'f') := by
  have digits : ∀ x : Fin 16, (Nat.digitChar x).isDigit = true ∨
      ('a' ≤ Nat.digitChar x ∧ Nat.digitChar x ≤ 'f') := by decide
  obtain ⟨byte, _, here⟩ := List.mem_flatMap.mp member
  simp only [List.mem_cons, List.not_mem_nil, or_false] at here
  rcases here with rfl | rfl
  · have small := byte.toNat_lt
    exact digits ⟨byte.toNat / 16, by omega⟩
  · exact digits ⟨byte.toNat % 16, by omega⟩

end VodogeCloud.Lib.Sha256
