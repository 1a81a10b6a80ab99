import Envelope.Cipher.Aes

/-!
The universal hash of the nonce-misuse-resistant counter mode: a polynomial in the field
of 2^128 elements given by x^128 + x^127 + x^126 + x^121 + 1, evaluated by Horner's rule with
products divided by x^128.
-/

namespace Envelope.Cipher.Polyval

abbrev Element := BitVec 128

/-- The element whose coefficients are the bits of a block, lowest first. -/
def ofBlock (b : Block) : Element :=
  b.c3.toBitVec ++ b.c2.toBitVec ++ b.c1.toBitVec ++ b.c0.toBitVec

def toBlock (e : Element) : Block :=
  let word (i : Nat) : UInt32 := ⟨e.extractLsb' (32 * i) 32⟩
  ⟨word 0, word 1, word 2, word 3⟩

/-- Division by x: an odd element takes the modulus first. -/
def divideByX (v : Element) : Element :=
  if v.getLsbD 0 then (v >>> 1) ^^^ 0xe1000000000000000000000000000000#128 else v >>> 1

/-- The product of two elements divided by x^128. -/
def dot (a b : Element) : Element :=
  (List.range 128).foldl (fun acc i => divideByX (if b.getLsbD i then acc ^^^ a else acc)) 0

def hash (key : Element) (blocks : List Block) : Element :=
  blocks.foldl (fun acc b => dot (acc ^^^ ofBlock b) key) 0

end Envelope.Cipher.Polyval
