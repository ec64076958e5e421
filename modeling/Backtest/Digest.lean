/-!
# Digests

The digest of bytes by SHA-256: the bytes are padded to blocks of sixty-four, each block is spread over
sixty-four words, and each word stirs a state of eight words, which is added to the state before the
block.

* `pad`, `spread`, `stir`, `absorb`, the four steps; `digest`, the words of the last state;
* `hexDigest`, their sixty-four hexadecimal digits.
-/

namespace Backtest.Digest

/-- The first 32 bits of the fractions of the cube roots of the first sixty-four primes. -/
def roundConstants : List UInt32 :=
  [0x428a2f98, 0x71374491, 0xb5c0fbcf, 0xe9b5dba5, 0x3956c25b, 0x59f111f1, 0x923f82a4, 0xab1c5ed5,
    0xd807aa98, 0x12835b01, 0x243185be, 0x550c7dc3, 0x72be5d74, 0x80deb1fe, 0x9bdc06a7, 0xc19bf174,
    0xe49b69c1, 0xefbe4786, 0x0fc19dc6, 0x240ca1cc, 0x2de92c6f, 0x4a7484aa, 0x5cb0a9dc, 0x76f988da,
    0x983e5152, 0xa831c66d, 0xb00327c8, 0xbf597fc7, 0xc6e00bf3, 0xd5a79147, 0x06ca6351, 0x14292967,
    0x27b70a85, 0x2e1b2138, 0x4d2c6dfc, 0x53380d13, 0x650a7354, 0x766a0abb, 0x81c2c92e, 0x92722c85,
    0xa2bfe8a1, 0xa81a664b, 0xc24b8b70, 0xc76c51a3, 0xd192e819, 0xd6990624, 0xf40e3585, 0x106aa070,
    0x19a4c116, 0x1e376c08, 0x2748774c, 0x34b0bcb5, 0x391c0cb3, 0x4ed8aa4a, 0x5b9cca4f, 0x682e6ff3,
    0x748f82ee, 0x78a5636f, 0x84c87814, 0x8cc70208, 0x90befffa, 0xa4506ceb, 0xbef9a3f7, 0xc67178f2]

/-- The eight words that a block changes. -/
structure State where
  a : UInt32
  b : UInt32
  c : UInt32
  d : UInt32
  e : UInt32
  f : UInt32
  g : UInt32
  h : UInt32
  deriving DecidableEq

/-- The first 32 bits of the fractions of the square roots of the first eight primes. -/
def State.start : State :=
  ⟨0x6a09e667, 0xbb67ae85, 0x3c6ef372, 0xa54ff53a,
    0x510e527f, 0x9b05688c, 0x1f83d9ab, 0x5be0cd19⟩

/-- The words of a state in order. -/
def State.words (s : State) : List UInt32 := [s.a, s.b, s.c, s.d, s.e, s.f, s.g, s.h]

/-- A word with its bits turned to the right. -/
def turn (n : UInt32) (w : UInt32) : UInt32 := (w >>> n) ||| (w <<< (32 - n))

/-- The state after a word of a block and its round constant. -/
def stir (s : State) (word constant : UInt32) : State :=
  let mix := turn 6 s.e ^^^ turn 11 s.e ^^^ turn 25 s.e
  let choice := (s.e &&& s.f) ^^^ (~~~s.e &&& s.g)
  let first := s.h + mix + choice + constant + word
  let blend := turn 2 s.a ^^^ turn 13 s.a ^^^ turn 22 s.a
  let majority := (s.a &&& s.b) ^^^ (s.a &&& s.c) ^^^ (s.b &&& s.c)
  ⟨first + (blend + majority), s.a, s.b, s.c, s.d + first, s.e, s.f, s.g⟩

/-- So many more words before a list of words whose last comes first: each from four before it. -/
def spread : Nat → List UInt32 → List UInt32
  | 0, ws => ws
  | n + 1, ws =>
    let x := ws.getD 14 0
    let y := ws.getD 1 0
    let low := turn 7 x ^^^ turn 18 x ^^^ (x >>> 3)
    let high := turn 17 y ^^^ turn 19 y ^^^ (y >>> 10)
    spread n ((high + ws.getD 6 0 + low + ws.getD 15 0) :: ws)

theorem length_spread (n : Nat) (ws : List UInt32) : (spread n ws).length = ws.length + n := by
  induction n generalizing ws with
  | zero => rfl
  | succ n ih => rw [spread, ih]; simp; omega

/-- The words of bytes, four to a word, the highest first. -/
def wordsOf : List UInt8 → List UInt32
  | a :: b :: c :: d :: bs =>
    (a.toUInt32 <<< 24 ||| b.toUInt32 <<< 16 ||| c.toUInt32 <<< 8 ||| d.toUInt32) :: wordsOf bs
  | _ => []

/-- The state after a block. -/
def absorb (s : State) (block : List UInt8) : State :=
  let words := (spread 48 (wordsOf block).reverse).reverse
  let t := (words.zip roundConstants).foldl (fun t w => stir t w.1 w.2) s
  ⟨s.a + t.a, s.b + t.b, s.c + t.c, s.d + t.d, s.e + t.e, s.f + t.f, s.g + t.g, s.h + t.h⟩

/-- So many bytes of a number, the highest first. -/
def bigEndian : Nat → Nat → List UInt8
  | 0, _ => []
  | k + 1, n => UInt8.ofNat (n / Nat.pow 256 k) :: bigEndian k n

/-- The bytes with a one bit, zeros up to eight bytes before the end of a block, and the number of
their bits. -/
def pad (bs : List UInt8) : List UInt8 :=
  bs ++ 0x80 :: List.replicate ((119 - bs.length % 64) % 64) 0 ++ bigEndian 8 (bs.length * 8)

/-- The first blocks of bytes. -/
def blocks : Nat → List UInt8 → List (List UInt8)
  | 0, _ => []
  | n + 1, bs => bs.take 64 :: blocks n (bs.drop 64)

/-- The words of the digest of bytes. -/
def digest (bs : List UInt8) : List UInt32 :=
  let padded := pad bs
  ((blocks (padded.length / 64) padded).foldl absorb .start).words

/-- The hexadecimal digits of a word. -/
def hexWord (w : UInt32) : List Char :=
  (bigEndian 4 w.toNat).flatMap fun b => [Nat.digitChar (b.toNat / 16), Nat.digitChar (b.toNat % 16)]

/-- The hexadecimal digits of the digest of bytes. -/
def hexDigest (bytes : ByteArray) : String :=
  String.ofList ((digest bytes.toList).flatMap hexWord)

end Backtest.Digest
