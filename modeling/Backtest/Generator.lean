/-!
# Generators

What a random search draws from: floats from the half-open unit interval and whole numbers from a
closed range. The one generator there is, `Twister`, holds 624 words of 32 bits and is fixed by its
seed.

* `Generator`, the draws; `Twister.ofSeed`, the generator of a seed;
* `Twister.word`, the next 32 bits; `Twister.bits`, the next bits as a number;
* `Twister.unit`, a float; `Twister.between`, a whole number.
-/

namespace Backtest

/-- A state from which numbers can be drawn. -/
class Generator (γ : Type) where
  /-- A float in the half-open unit interval. -/
  unit : γ → Float × γ
  /-- A whole number in a closed range. -/
  between : Int → Int → γ → Int × γ

/-- A generator of 32-bit words: the words in hand and how many of them have been given out. -/
structure Twister where
  words : Array UInt32
  used : Nat

namespace Twister

/-- The number of words in hand. -/
def size : Nat := 624

/-- The word at an index. -/
def get (ws : Array UInt32) (i : Nat) : UInt32 := ws.getD i 0

/-- A word mixed with its upper bits. -/
def mix (w : UInt32) : UInt32 := w ^^^ (w >>> 30)

/-- The words that start from one, each computed from the one before: `left` more after index
`i - 1`. -/
def spread (ws : Array UInt32) (i : Nat) : Nat → Array UInt32
  | 0 => ws
  | left + 1 =>
    spread (ws.push (1812433253 * mix (get ws (i - 1)) + UInt32.ofNat i)) (i + 1) left

/-- The words with the word at `i` replaced, and the first word set to the last after a full round.
The result holds the next index. -/
def place (ws : Array UInt32) (i : Nat) (w : UInt32) : Array UInt32 × Nat :=
  let ws := ws.setIfInBounds i w
  if i + 1 ≥ size then (ws.setIfInBounds 0 w, 1) else (ws, i + 1)

/-- `left` rounds that stir the key into the words, from index `i` of the words and `j` of the
key. -/
def stirKey (key : Array UInt32) (ws : Array UInt32) (i j : Nat) : Nat → Array UInt32 × Nat
  | 0 => (ws, i)
  | left + 1 =>
    let w := (get ws i ^^^ (mix (get ws (i - 1)) * 1664525)) + get key j + UInt32.ofNat j
    let (ws, i) := place ws i w
    stirKey key ws i (if j + 1 ≥ key.size then 0 else j + 1) left

/-- `left` rounds that stir the words among themselves, from index `i`. -/
def stir (ws : Array UInt32) (i : Nat) : Nat → Array UInt32
  | 0 => ws
  | left + 1 =>
    let w := (get ws i ^^^ (mix (get ws (i - 1)) * 1566083941)) - UInt32.ofNat i
    let (ws, i) := place ws i w
    stir ws i left

/-- The 32-bit words of a number, lowest first; at most `fuel` of them. -/
def wordsOf : Nat → Nat → List UInt32
  | 0, _ => []
  | fuel + 1, n => if n == 0 then [] else UInt32.ofNat n :: wordsOf fuel (n / Nat.pow 2 32)

/-- The key of a seed: the words of its magnitude, at least one. -/
def keyOf (seed : Int) : Array UInt32 :=
  let n := seed.natAbs
  match wordsOf (n.log2 / 32 + 1) n with
  | [] => #[0]
  | ws => ws.toArray

/-- The generator of a seed. -/
def ofSeed (seed : Int) : Twister :=
  let key := keyOf seed
  let ws := spread #[19650218] 1 (size - 1)
  let (ws, i) := stirKey key ws 1 0 (max size key.size)
  { words := (stir ws i (size - 1)).setIfInBounds 0 0x80000000, used := size }

/-- The words from index `i` on replaced by fresh ones, `left` of them. -/
def twist (ws : Array UInt32) (i : Nat) : Nat → Array UInt32
  | 0 => ws
  | left + 1 =>
    let y := (get ws i &&& 0x80000000) ||| (get ws ((i + 1) % size) &&& 0x7fffffff)
    let w := get ws ((i + 397) % size) ^^^ (y >>> 1) ^^^ (if y &&& 1 == 0 then 0 else 0x9908b0df)
    twist (ws.setIfInBounds i w) (i + 1) left

/-- A word as it is given out. -/
def temper (w : UInt32) : UInt32 :=
  let w := w ^^^ (w >>> 11)
  let w := w ^^^ ((w <<< 7) &&& 0x9d2c5680)
  let w := w ^^^ ((w <<< 15) &&& 0xefc60000)
  w ^^^ (w >>> 18)

/-- The next 32 bits. -/
def word (g : Twister) : UInt32 × Twister :=
  let g := if g.used ≥ size then { words := twist g.words 0 size, used := 0 } else g
  (temper (get g.words g.used), { g with used := g.used + 1 })

/-- A float in the half-open unit interval, from 53 bits. -/
def unit (g : Twister) : Float × Twister :=
  let (a, g) := g.word
  let (b, g) := g.word
  let n := (a >>> 5).toNat * Nat.pow 2 26 + (b >>> 6).toNat
  (Float.ofNat n / Float.ofNat (Nat.pow 2 53), g)

/-- The next `k` bits as a number: whole words, lowest first, and the upper bits of one more. -/
def bits (k : Nat) (g : Twister) : Nat × Twister :=
  if k = 0 then (0, g)
  else if k < 32 then
    let (w, g) := g.word
    ((w >>> UInt32.ofNat (32 - k)).toNat, g)
  else
    let (w, g) := g.word
    let (n, g) := bits (k - 32) g
    (w.toNat + Nat.pow 2 32 * n, g)
termination_by k

/-- How often a draw below a bound is tried; each try fails at most every other time. -/
def tries : Nat := 4096

/-- A number below `n`, drawn as `k` bits until it is small enough. -/
def below (n k : Nat) : Nat → Twister → Nat × Twister
  | 0, g => (0, g)
  | left + 1, g =>
    let (r, g) := bits k g
    if r < n then (r, g) else below n k left g

/-- A whole number in a closed range. -/
def between (low high : Int) (g : Twister) : Int × Twister :=
  let n := (high - low + 1).toNat
  let (r, g) := below n (n.log2 + 1) tries g
  (low + r, g)

instance : Generator Twister where
  unit := unit
  between := between

end Twister

end Backtest
