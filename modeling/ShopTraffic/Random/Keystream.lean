/-!
The keystream behind every random draw: a ChaCha block function of eight rounds, keyed by eight
words that are expanded from one 64-bit seed. A block is a function of the key and a 64-bit
block number alone.
-/

namespace ShopTraffic.Random

structure Key where
  (k0 k1 k2 k3 k4 k5 k6 k7 : UInt32)
  deriving DecidableEq, Repr

/-- The sixteen words on which the rounds work. -/
structure Matrix where
  (x0 x1 x2 x3 x4 x5 x6 x7 x8 x9 x10 x11 x12 x13 x14 x15 : UInt32)
  deriving DecidableEq, Repr

@[inline] def rotateLeft (x n : UInt32) : UInt32 := (x <<< n) ||| (x >>> (32 - n))

@[inline] def rotateRight (x n : UInt32) : UInt32 := (x >>> n) ||| (x <<< ((32 - n) % 32))

/-- One quarter round; the four new words go to `k`. -/
@[inline] def quarter {α : Type} (a b c d : UInt32)
    (k : UInt32 → UInt32 → UInt32 → UInt32 → α) : α :=
  let a := a + b
  let d := rotateLeft (d ^^^ a) 16
  let c := c + d
  let b := rotateLeft (b ^^^ c) 12
  let a := a + b
  let d := rotateLeft (d ^^^ a) 8
  let c := c + d
  let b := rotateLeft (b ^^^ c) 7
  k a b c d

/-- The four columns, then the four diagonals. -/
def Matrix.doubleRound (m : Matrix) : Matrix :=
  quarter m.x0 m.x4 m.x8 m.x12 fun x0 x4 x8 x12 =>
  quarter m.x1 m.x5 m.x9 m.x13 fun x1 x5 x9 x13 =>
  quarter m.x2 m.x6 m.x10 m.x14 fun x2 x6 x10 x14 =>
  quarter m.x3 m.x7 m.x11 m.x15 fun x3 x7 x11 x15 =>
  quarter x0 x5 x10 x15 fun x0 x5 x10 x15 =>
  quarter x1 x6 x11 x12 fun x1 x6 x11 x12 =>
  quarter x2 x7 x8 x13 fun x2 x7 x8 x13 =>
  quarter x3 x4 x9 x14 fun x3 x4 x9 x14 =>
  ⟨x0, x1, x2, x3, x4, x5, x6, x7, x8, x9, x10, x11, x12, x13, x14, x15⟩

def Matrix.add (a b : Matrix) : Matrix :=
  ⟨a.x0 + b.x0, a.x1 + b.x1, a.x2 + b.x2, a.x3 + b.x3,
   a.x4 + b.x4, a.x5 + b.x5, a.x6 + b.x6, a.x7 + b.x7,
   a.x8 + b.x8, a.x9 + b.x9, a.x10 + b.x10, a.x11 + b.x11,
   a.x12 + b.x12, a.x13 + b.x13, a.x14 + b.x14, a.x15 + b.x15⟩

/-- All words of a block but the first, in stream order. -/
def Matrix.rest (m : Matrix) : List UInt32 :=
  [m.x1, m.x2, m.x3, m.x4, m.x5, m.x6, m.x7, m.x8, m.x9, m.x10, m.x11, m.x12, m.x13, m.x14, m.x15]

/-- Four constant words, the key, the block number (low word first) and a zero stream number. -/
def Key.initial (k : Key) (block : UInt64) : Matrix :=
  ⟨0x61707865, 0x3320646e, 0x79622d32, 0x6b206574, k.k0, k.k1, k.k2, k.k3, k.k4, k.k5, k.k6, k.k7,
   block.toUInt32, (block >>> 32).toUInt32, 0, 0⟩

def Key.block (k : Key) (block : UInt64) : Matrix :=
  let m := k.initial block
  m.doubleRound.doubleRound.doubleRound.doubleRound.add m

/-- One step of the seed expander. -/
def expand (s : UInt64) : UInt64 := s * 6364136223846793005 + 11634580027462260723

/-- The output of the seed expander in state `s`: the high bits decide how the low ones rotate. -/
def expanded (s : UInt64) : UInt32 :=
  rotateRight (((s >>> 18) ^^^ s) >>> 27).toUInt32 (s >>> 59).toUInt32

def Key.ofSeed (seed : UInt64) : Key :=
  let s0 := expand seed
  let s1 := expand s0
  let s2 := expand s1
  let s3 := expand s2
  let s4 := expand s3
  let s5 := expand s4
  let s6 := expand s5
  let s7 := expand s6
  ⟨expanded s0, expanded s1, expanded s2, expanded s3,
   expanded s4, expanded s5, expanded s6, expanded s7⟩

end ShopTraffic.Random
