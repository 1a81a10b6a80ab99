import Mathlib.Tactic.Common
import Envelope.Json.Text

/-!
Texts and integers are read back from the way they are written.
-/

namespace Envelope.Json

namespace Spelling

/-! ### Texts -/

/-- The piece that a written byte is read as: a control character without a letter of its own is
an escaped code unit. -/
def pieceOf (b : UInt8) : Piece :=
  if b < 32 ∧ b ≠ 8 ∧ b ≠ 9 ∧ b ≠ 10 ∧ b ≠ 12 ∧ b ≠ 13 then .unit b.toNat else .byte b

lemma hex_digits : ∀ n < 32,
    ((hexValue 48 * 16 + hexValue 48) * 16 + hexValue (hexDigit (n / 16))) * 16 +
      hexValue (hexDigit (n % 16)) = n := by
  decide

lemma pieces_plain {b : UInt8} (h : b ≠ 92) (rest : Bytes) :
    pieces (b :: rest) = (pieces rest).map (.byte b :: ·) := by
  rw [pieces.eq_def]
  simp [h]

lemma pieces_letter {letter b : UInt8} (hu : letter ≠ 117) (h : escaped? letter = some b)
    (rest : Bytes) : pieces (92 :: letter :: rest) = (pieces rest).map (.byte b :: ·) := by
  rw [pieces.eq_def]
  simp only [if_true]
  split
  · next heq => exact absurd (List.cons.inj heq).1 hu
  · next heq =>
    obtain ⟨rfl, rfl⟩ := List.cons.inj heq
    rw [h]
    cases pieces rest <;> rfl
  · next heq => cases heq

lemma pieces_unit (h3 h2 h1 h0 : UInt8) (rest : Bytes) :
    pieces (92 :: 117 :: h3 :: h2 :: h1 :: h0 :: rest) = (pieces rest).map (.unit
      (((hexValue h3 * 16 + hexValue h2) * 16 + hexValue h1) * 16 + hexValue h0) :: ·) := by
  rw [pieces.eq_def]
  simp

lemma pieces_ofByte (b : UInt8) (rest : Bytes) :
    pieces (ofByte b ++ rest) = (pieces rest).map (pieceOf b :: ·) := by
  unfold ofByte
  split_ifs with h1 h2 h3 h4 h5 h6 h7
  · rcases h1 with rfl | rfl <;> exact pieces_letter (by decide) (by decide) rest
  · subst h2
    exact pieces_letter (by decide) (by decide) rest
  · subst h3
    exact pieces_letter (by decide) (by decide) rest
  · subst h4
    exact pieces_letter (by decide) (by decide) rest
  · subst h5
    exact pieces_letter (by decide) (by decide) rest
  · subst h6
    exact pieces_letter (by decide) (by decide) rest
  · have hp : pieceOf b = .unit b.toNat := if_pos ⟨h7, h2, h3, h4, h5, h6⟩
    have hu := pieces_unit 48 48 (hexDigit (b.toNat / 16)) (hexDigit (b.toNat % 16)) rest
    rw [hex_digits b.toNat (UInt8.lt_iff_toNat_lt.1 h7)] at hu
    rw [hp]
    exact hu
  · have hp : pieceOf b = .byte b := if_neg fun h => h7 h.1
    rw [hp]
    exact pieces_plain (fun h => h1 (Or.inr h)) rest

lemma pieces_flatMap_ofByte (bs : Bytes) :
    pieces (bs.flatMap ofByte) = some (bs.map pieceOf) := by
  induction bs with
  | nil => rfl
  | cons b bs ih => rw [List.flatMap_cons, pieces_ofByte, ih]; rfl

lemma utf8EncodeChar_control :
    ∀ n < 32, String.utf8EncodeChar (Char.ofNat n) = [UInt8.ofNat n] := by
  decide

lemma join_pieceOf (b : UInt8) (ps : List Piece) :
    join (pieceOf b :: ps) = (join ps).map (b :: ·) := by
  unfold pieceOf
  split_ifs with h
  · have hb : b.toNat < 32 := UInt8.lt_iff_toNat_lt.1 h.1
    rw [join.eq_def]
    simp only
    rw [if_pos (Or.inl (by omega)), utf8EncodeChar_control _ hb, UInt8.ofNat_toNat]
    rfl
  · rw [join]

lemma join_map_pieceOf (bs : Bytes) : join (bs.map pieceOf) = some bs := by
  induction bs with
  | nil => rfl
  | cons b bs ih => rw [List.map_cons, join_pieceOf, ih]; rfl

/-- **A written text is read back.** -/
theorem text?_ofText (s : String) : text? (ofText s) = some s := by
  simp only [text?, ofText, pieces_flatMap_ofByte, Option.bind_some, join_map_pieceOf,
    ofUtf8?_utf8Bytes]

end Spelling

/-! ### Integers -/

namespace Decimal

/-- The byte of a decimal digit. -/
def digitByte (d : Nat) : UInt8 := UInt8.ofNat d.digitChar.toNat

lemma digitByte_all : ∀ d < 10, Scan.isDigit (digitByte d) = true ∧ (digitByte d).toNat - 48 = d ∧
    (digitByte d = 48 ↔ d = 0) ∧ digitByte d ≠ 45 := by
  decide

lemma ofNat_of_lt {n : Nat} (h : n < 10) : ofNat n = [digitByte n] := by
  simp [ofNat, Nat.toDigits_of_lt_base h, digitByte]

lemma ofNat_of_le {n : Nat} (h : 10 ≤ n) : ofNat n = ofNat (n / 10) ++ [digitByte (n % 10)] := by
  simp [ofNat, Nat.toDigits_of_base_le (by decide) h, digitByte]

/-- Only zero begins with a zero. -/
lemma ofNat_spec (n : Nat) : ∃ b rest, ofNat n = b :: rest ∧
    (∀ d ∈ ofNat n, Scan.isDigit d = true) ∧ natural (ofNat n) = n ∧ b ≠ 45 ∧
    (b = 48 → n = 0 ∧ rest = []) := by
  induction n using Nat.strongRecOn with
  | ind n ih =>
    by_cases h : n < 10
    · obtain ⟨hd, hv, hz, hm⟩ := digitByte_all n h
      rw [ofNat_of_lt h]
      exact ⟨_, [], rfl, by simpa using hd, by simpa [natural] using hv, hm,
        fun h0 => ⟨hz.1 h0, rfl⟩⟩
    · obtain ⟨b, rest, he, hall, hval, hb, hz⟩ := ih (n / 10) (by omega)
      obtain ⟨hd, hv, -, -⟩ := digitByte_all (n % 10) (by omega)
      rw [ofNat_of_le (Nat.not_lt.1 h)]
      refine ⟨b, rest ++ [digitByte (n % 10)], by rw [he]; rfl, ?_, ?_, hb, fun h0 => ?_⟩
      · intro d hmem
        rcases List.mem_append.1 hmem with hmem | hmem
        · exact hall d hmem
        · rw [List.mem_singleton.1 hmem]
          exact hd
      · rw [natural, List.foldl_append, ← natural, hval]
        simp only [List.foldl_cons, List.foldl_nil, hv]
        omega
      · have := (hz h0).1
        omega

/-- **A written integer is read back.** -/
theorem integer?_ofInt (n : Int) : integer? (ofInt n) = some n := by
  obtain ⟨b, rest, he, hall, hval, hb, -⟩ := ofNat_spec n.natAbs
  have hne : ofNat n.natAbs ≠ [] := by rw [he]; simp
  have hall : (ofNat n.natAbs).all Scan.isDigit = true := List.all_eq_true.2 hall
  unfold ofInt
  by_cases h : n < 0
  · rw [if_pos h]
    simp only [integer?, if_true, hne, ne_eq, not_false_eq_true, hall, and_self, hval]
    obtain ⟨k, hk⟩ : ∃ k, n.natAbs = k + 1 := ⟨n.natAbs - 1, by omega⟩
    rw [hk]
    simp only [Option.some.injEq]
    omega
  · rw [if_neg h, he]
    rw [he] at hall hval
    simp only [integer?, hb, if_false, ne_eq, reduceCtorEq, not_false_eq_true, hall, and_self,
      if_true, hval, Option.map_some, Option.some.injEq]
    show (n.natAbs : Int) = n
    omega

end Decimal

end Envelope.Json
