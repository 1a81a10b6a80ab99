import Envelope.Bytes

/-!
The AES block cipher with 256-bit keys, in the encrypting direction only: counter modes
never invert it.

A block is four columns of four bytes, each column one word with its first byte lowest.
-/

namespace Envelope.Cipher

/-- Sixteen bytes as four little-endian words. -/
structure Block where
  c0 : UInt32
  c1 : UInt32
  c2 : UInt32
  c3 : UInt32
deriving DecidableEq, Inhabited

namespace Block

/-- The little-endian word of the first four bytes; missing bytes are zero. -/
def wordOf (bs : Bytes) : UInt32 :=
  (bs.take 4).foldr (fun b w => b.toUInt32 ||| (w <<< 8)) 0

def wordBytes (w : UInt32) : Bytes :=
  [w.toUInt8, (w >>> 8).toUInt8, (w >>> 16).toUInt8, (w >>> 24).toUInt8]

/-- The first sixteen bytes, filled up with zeros. -/
def ofBytes (bs : Bytes) : Block :=
  ⟨wordOf bs, wordOf (bs.drop 4), wordOf (bs.drop 8), wordOf (bs.drop 12)⟩

def toBytes (b : Block) : Bytes :=
  wordBytes b.c0 ++ wordBytes b.c1 ++ wordBytes b.c2 ++ wordBytes b.c3

@[simp] theorem length_toBytes (b : Block) : b.toBytes.length = 16 := rfl

def xor (a b : Block) : Block :=
  ⟨a.c0 ^^^ b.c0, a.c1 ^^^ b.c1, a.c2 ^^^ b.c2, a.c3 ^^^ b.c3⟩

end Block

namespace Aes

/-! ### The substitution box -/

/-- Doubling in the field of 256 elements. -/
def double (a : UInt8) : UInt8 :=
  (a <<< 1) ^^^ (if a &&& 0x80 = 0 then 0 else 0x1b)

/-- The product in the field of 256 elements, one bit of the second factor at a time. -/
def mul (a b : UInt8) : UInt8 :=
  ((List.range 8).foldl
    (fun (acc, a) i => (if (b >>> UInt8.ofNat i) &&& 1 = 0 then acc else acc ^^^ a, double a))
    (0, a)).1

/-- The inverse, as the power 254 = 2 + 4 + ... + 128; zero goes to zero. -/
def inverse (a : UInt8) : UInt8 :=
  ((List.range 7).foldl (fun (acc, p) _ => (mul acc (mul p p), mul p p)) (1, a)).1

def rotate (a : UInt8) (n : UInt8) : UInt8 := (a <<< n) ||| (a >>> (8 - n))

/-- The inverse followed by the affine map of the standard. -/
def substituted (a : UInt8) : UInt8 :=
  let b := inverse a
  b ^^^ rotate b 1 ^^^ rotate b 2 ^^^ rotate b 3 ^^^ rotate b 4 ^^^ 0x63

def substitutionBox : Vector UInt8 256 :=
  Vector.ofFn fun i => substituted (UInt8.ofNat i.val)

def substitute (a : UInt8) : UInt8 := substitutionBox.get ⟨a.toNat, a.toNat_lt⟩

/-! ### Rounds -/

/-- Byte `i` of a column. -/
def byteAt (w : UInt32) (i : UInt32) : UInt8 := (w >>> (8 * i)).toUInt8

def wordOfBytes (b0 b1 b2 b3 : UInt8) : UInt32 :=
  b0.toUInt32 ||| (b1.toUInt32 <<< 8) ||| (b2.toUInt32 <<< 16) ||| (b3.toUInt32 <<< 24)

def substituteWord (w : UInt32) : UInt32 :=
  wordOfBytes (substitute (byteAt w 0)) (substitute (byteAt w 1)) (substitute (byteAt w 2))
    (substitute (byteAt w 3))

/-- Moves every byte of a column `n` places towards the front. -/
def rotateWord (w : UInt32) (n : UInt32) : UInt32 := (w >>> (8 * n)) ||| (w <<< (32 - 8 * n))

/-- Doubles each of the four bytes of a column. -/
def doubleWord (w : UInt32) : UInt32 :=
  ((w &&& 0x7f7f7f7f) <<< 1) ^^^ (((w >>> 7) &&& 0x01010101) * 0x1b)

def mixColumn (w : UInt32) : UInt32 :=
  doubleWord w ^^^ doubleWord (rotateWord w 1) ^^^ rotateWord w 1 ^^^ rotateWord w 2 ^^^
    rotateWord w 3

/-- Substitutes every byte and takes row `r` from the column `r` places to the right. -/
def substituteAndShift (b : Block) : Block :=
  let column (p q r s : UInt32) : UInt32 :=
    wordOfBytes (substitute (byteAt p 0)) (substitute (byteAt q 1)) (substitute (byteAt r 2))
      (substitute (byteAt s 3))
  ⟨column b.c0 b.c1 b.c2 b.c3, column b.c1 b.c2 b.c3 b.c0, column b.c2 b.c3 b.c0 b.c1,
    column b.c3 b.c0 b.c1 b.c2⟩

def mixColumns (b : Block) : Block :=
  ⟨mixColumn b.c0, mixColumn b.c1, mixColumn b.c2, mixColumn b.c3⟩

/-! ### Key schedule -/

/-- The next two round keys from the last two and a round constant. -/
def nextKeys (k : Block × Block) (constant : UInt32) : Block × Block :=
  let (a, b) := k
  let a0 := a.c0 ^^^ rotateWord (substituteWord b.c3) 1 ^^^ constant
  let a1 := a.c1 ^^^ a0
  let a2 := a.c2 ^^^ a1
  let a3 := a.c3 ^^^ a2
  let b0 := b.c0 ^^^ substituteWord a3
  let b1 := b.c1 ^^^ b0
  let b2 := b.c2 ^^^ b1
  let b3 := b.c3 ^^^ b2
  (⟨a0, a1, a2, a3⟩, ⟨b0, b1, b2, b3⟩)

/-- The fifteen round keys of a 32-byte key, the whitening key apart from the others. -/
structure Schedule where
  whitening : Block
  middle : List Block
  last : Block
deriving DecidableEq

def Schedule.ofKey (key : Bytes) : Schedule :=
  let first := (Block.ofBytes key, Block.ofBytes (key.drop 16))
  let (keys, final) := ([1, 2, 4, 8, 16, 32] : List UInt32).foldl
    (fun (keys, k) constant => let k := nextKeys k constant; (keys ++ [k.1, k.2], k))
    ([first.2], first)
  ⟨first.1, keys, (nextKeys final 64).1⟩

def encrypt (keys : Schedule) (input : Block) : Block :=
  let body := keys.middle.foldl (fun b k => (mixColumns (substituteAndShift b)).xor k)
    (input.xor keys.whitening)
  (substituteAndShift body).xor keys.last

end Aes

end Envelope.Cipher
