import Mathlib.Tactic.Common
import Envelope.DataRow
import Envelope.KeyRecord

/-!
Base64 reads back what it writes, and writes back what it reads.
-/

namespace Envelope.Base64

lemma value?_digit_all : ∀ v < 64, value? (digit v) = some v ∧ digit v ≠ '=' := by decide

lemma value?_digit {v : Nat} (h : v < 64) : value? (digit v) = some v := (value?_digit_all v h).1

lemma digit_ne_pad {v : Nat} (h : v < 64) : digit v ≠ '=' := (value?_digit_all v h).2

/-- Three bytes from the four digits they make. -/
lemma group_bytes (a b c : UInt8) :
    [UInt8.ofNat (a.toNat / 4 * 4 + (a.toNat % 4 * 16 + b.toNat / 16) / 16),
      UInt8.ofNat ((a.toNat % 4 * 16 + b.toNat / 16) % 16 * 16 +
        (b.toNat % 16 * 4 + c.toNat / 64) / 4),
      UInt8.ofNat ((b.toNat % 16 * 4 + c.toNat / 64) % 4 * 64 + c.toNat % 64)] = [a, b, c] := by
  have hb := b.toNat_lt
  have hc := c.toNat_lt
  have h1 : a.toNat / 4 * 4 + (a.toNat % 4 * 16 + b.toNat / 16) / 16 = a.toNat := by omega
  have h2 : (a.toNat % 4 * 16 + b.toNat / 16) % 16 * 16 +
      (b.toNat % 16 * 4 + c.toNat / 64) / 4 = b.toNat := by omega
  have h3 : (b.toNat % 16 * 4 + c.toNat / 64) % 4 * 64 + c.toNat % 64 = c.toNat := by omega
  rw [h1, h2, h3]
  simp only [UInt8.ofNat_toNat]

section

variable (a b c : UInt8)

lemma digits_lt : a.toNat / 4 < 64 ∧ a.toNat % 4 * 16 + b.toNat / 16 < 64 ∧
    b.toNat % 16 * 4 + c.toNat / 64 < 64 ∧ c.toNat % 64 < 64 := by
  have ha := a.toNat_lt
  have hb := b.toNat_lt
  have hc := c.toNat_lt
  omega

lemma decodeFull_digits :
    decodeFull (digit (a.toNat / 4)) (digit (a.toNat % 4 * 16 + b.toNat / 16))
      (digit (b.toNat % 16 * 4 + c.toNat / 64)) (digit (c.toNat % 64)) = some [a, b, c] := by
  obtain ⟨h1, h2, h3, h4⟩ := digits_lt a b c
  simp only [decodeFull, value?_digit h1, value?_digit h2, value?_digit h3, value?_digit h4,
    Option.bind_eq_bind, Option.bind_some, group_bytes]

lemma decodeLast_digits :
    decodeLast (digit (a.toNat / 4)) (digit (a.toNat % 4 * 16 + b.toNat / 16))
      (digit (b.toNat % 16 * 4 + c.toNat / 64)) (digit (c.toNat % 64)) = some [a, b, c] := by
  obtain ⟨h1, h2, h3, h4⟩ := digits_lt a b c
  simp only [decodeLast, value?_digit h1, value?_digit h2, value?_digit h3, value?_digit h4,
    if_neg (digit_ne_pad h3), if_neg (digit_ne_pad h4), Option.bind_eq_bind, Option.bind_some,
    group_bytes]

/-- One byte takes the zero for its neighbour. -/
lemma decodeLast_one :
    decodeLast (digit (a.toNat / 4)) (digit (a.toNat % 4 * 16)) '=' '=' = some [a] := by
  obtain ⟨h1, h2, -, -⟩ := digits_lt a 0 0
  have h2 : a.toNat % 4 * 16 < 64 := by simpa using h2
  have hz : a.toNat % 4 * 16 % 16 = 0 := by omega
  have he : a.toNat / 4 * 4 + a.toNat % 4 * 16 / 16 = a.toNat := by omega
  simp only [decodeLast, value?_digit h1, value?_digit h2, hz, he, Option.bind_eq_bind,
    Option.bind_some, and_self, if_true, UInt8.ofNat_toNat]

lemma decodeLast_two :
    decodeLast (digit (a.toNat / 4)) (digit (a.toNat % 4 * 16 + b.toNat / 16))
      (digit (b.toNat % 16 * 4)) '=' = some [a, b] := by
  obtain ⟨h1, h2, h3, -⟩ := digits_lt a b 0
  have h3 : b.toNat % 16 * 4 < 64 := by simpa using h3
  have hb := b.toNat_lt
  have hz : b.toNat % 16 * 4 % 4 = 0 := by omega
  have he1 : a.toNat / 4 * 4 + (a.toNat % 4 * 16 + b.toNat / 16) / 16 = a.toNat := by omega
  have he2 : (a.toNat % 4 * 16 + b.toNat / 16) % 16 * 16 + b.toNat % 16 * 4 / 4 = b.toNat := by
    omega
  simp only [decodeLast, value?_digit h1, value?_digit h2, value?_digit h3,
    if_neg (digit_ne_pad h3), hz, he1, he2, Option.bind_eq_bind, Option.bind_some, if_true,
    UInt8.ofNat_toNat]

end

lemma encode_cons_ne_nil (x : UInt8) (bs : Bytes) : encode (x :: bs) ≠ [] := by
  rcases bs with _ | ⟨y, _ | ⟨z, rest⟩⟩ <;> simp [encode]

/-- **Decoding undoes encoding.** -/
theorem decode_encode (bs : Bytes) : decode (encode bs) = some bs := by
  induction bs using encode.induct with
  | case1 => rfl
  | case2 a => simp only [encode, decode, decodeLast_one]
  | case3 a b => simp only [encode, decode, decodeLast_two]
  | case4 a b c rest ih =>
    rw [encode]
    cases rest with
    | nil => simp only [encode, decode, decodeLast_digits]
    | cons x rest =>
      rw [decode]
      · simp only [decodeFull_digits, ih, Option.bind_eq_bind, Option.bind_some, List.cons_append,
          List.nil_append]
      · exact encode_cons_ne_nil x rest

lemma decodeText_encodeText (bs : Bytes) : decodeText (encodeText bs) = some bs := by
  simp [decodeText, encodeText, decode_encode]

/-! ### One spelling -/

/-- A character with a value is the digit of that value. -/
lemma digit_of_value? {c : Char} {v : Nat} (h : value? c = some v) : v < 64 ∧ c = digit v := by
  have hc : c = Char.ofNat c.toNat := (Char.ofNat_toNat c).symm
  unfold value? at h
  dsimp only at h
  split_ifs at h with hupper hlower hdigit hplus hslash
  · obtain rfl := Option.some.inj h
    refine ⟨by omega, ?_⟩
    rw [digit, if_pos (by omega), show 65 + (c.toNat - 65) = c.toNat by omega, ← hc]
  · obtain rfl := Option.some.inj h
    refine ⟨by omega, ?_⟩
    rw [digit, if_neg (by omega), if_pos (by omega),
      show 97 + (c.toNat - 97 + 26 - 26) = c.toNat by omega, ← hc]
  · obtain rfl := Option.some.inj h
    refine ⟨by omega, ?_⟩
    rw [digit, if_neg (by omega), if_neg (by omega), if_pos (by omega),
      show 48 + (c.toNat - 48 + 52 - 52) = c.toNat by omega, ← hc]
  · obtain rfl := Option.some.inj h
    exact ⟨by omega, hplus⟩
  · obtain rfl := Option.some.inj h
    exact ⟨by omega, hslash⟩

/-- Four values below 64 fill three bytes. -/
lemma group_toNat {a b c d : Nat} (ha : a < 64) (hb : b < 64) (hc : c < 64) (hd : d < 64) :
    (UInt8.ofNat (a * 4 + b / 16)).toNat = a * 4 + b / 16 ∧
      (UInt8.ofNat (b % 16 * 16 + c / 4)).toNat = b % 16 * 16 + c / 4 ∧
      (UInt8.ofNat (c % 4 * 64 + d)).toNat = c % 4 * 64 + d :=
  ⟨UInt8.toNat_ofNat_of_lt' (show _ < 256 by omega),
    UInt8.toNat_ofNat_of_lt' (show _ < 256 by omega),
    UInt8.toNat_ofNat_of_lt' (show _ < 256 by omega)⟩

section

variable {p q r s : Char} {bs : Bytes}

lemma decodeFull_eq_some (h : decodeFull p q r s = some bs) (rest : Bytes) :
    encode (bs ++ rest) = p :: q :: r :: s :: encode rest := by
  simp only [decodeFull, Option.bind_eq_bind, Option.bind_eq_some_iff, Option.some.injEq] at h
  obtain ⟨a, hp, b, hq, c, hr, d, hs, rfl⟩ := h
  obtain ⟨ha, rfl⟩ := digit_of_value? hp
  obtain ⟨hb, rfl⟩ := digit_of_value? hq
  obtain ⟨hc, rfl⟩ := digit_of_value? hr
  obtain ⟨hd, rfl⟩ := digit_of_value? hs
  obtain ⟨hx, hy, hz⟩ := group_toNat ha hb hc hd
  have h1 : (a * 4 + b / 16) / 4 = a := by omega
  have h2 : (a * 4 + b / 16) % 4 * 16 + (b % 16 * 16 + c / 4) / 16 = b := by omega
  have h3 : (b % 16 * 16 + c / 4) % 16 * 4 + (c % 4 * 64 + d) / 64 = c := by omega
  have h4 : (c % 4 * 64 + d) % 64 = d := by omega
  simp only [List.cons_append, List.nil_append, encode, hx, hy, hz, h1, h2, h3, h4]

/-- A padded group spells one or two bytes, with nothing left over. -/
lemma decodeLast_eq_some (h : decodeLast p q r s = some bs) : encode bs = [p, q, r, s] := by
  simp only [decodeLast, Option.bind_eq_bind, Option.bind_eq_some_iff] at h
  obtain ⟨a, hp, b, hq, h⟩ := h
  by_cases hr : r = '='
  · obtain ⟨ha, rfl⟩ := digit_of_value? hp
    obtain ⟨hb, rfl⟩ := digit_of_value? hq
    rw [if_pos hr] at h
    obtain ⟨⟨hs, hz⟩, hbs⟩ := Option.ite_none_right_eq_some.1 h
    obtain rfl := Option.some.inj hbs
    obtain ⟨hx, -, -⟩ := group_toNat ha hb (Nat.zero_lt_succ 63) (Nat.zero_lt_succ 63)
    have h1 : (a * 4 + b / 16) / 4 = a := by omega
    have h2 : (a * 4 + b / 16) % 4 * 16 = b := by omega
    simp only [encode, hr, hs, hx, h1, h2]
  · rw [if_neg hr] at h
    obtain ⟨c, hv, h⟩ := Option.bind_eq_some_iff.1 h
    by_cases hs : s = '='
    · rw [if_pos hs] at h
      obtain ⟨hz, hbs⟩ := Option.ite_none_right_eq_some.1 h
      obtain rfl := Option.some.inj hbs
      obtain ⟨ha, rfl⟩ := digit_of_value? hp
      obtain ⟨hb, rfl⟩ := digit_of_value? hq
      obtain ⟨hc, rfl⟩ := digit_of_value? hv
      obtain ⟨hx, hy, -⟩ := group_toNat ha hb hc (Nat.zero_lt_succ 63)
      have h1 : (a * 4 + b / 16) / 4 = a := by omega
      have h2 : (a * 4 + b / 16) % 4 * 16 + (b % 16 * 16 + c / 4) / 16 = b := by omega
      have h3 : (b % 16 * 16 + c / 4) % 16 * 4 = c := by omega
      simp only [encode, hs, hx, hy, h1, h2, h3]
    · rw [if_neg hs] at h
      have hfull : decodeFull p q r s = some bs := by
        rw [decodeFull, hp, hq, hv]
        exact h
      simpa [encode] using decodeFull_eq_some hfull []

end

/-- **Encoding undoes decoding**: no byte string has a second spelling. -/
theorem encode_of_decode {cs : List Char} {bs : Bytes} (h : decode cs = some bs) :
    encode bs = cs := by
  induction cs using decode.induct generalizing bs with
  | case1 =>
    obtain rfl := Option.some.inj h
    rfl
  | case2 p q r s => exact decodeLast_eq_some h
  | case3 p q r s rest hne ih =>
    rw [decode] at h
    · obtain ⟨group, hgroup, h⟩ := Option.bind_eq_some_iff.1 h
      obtain ⟨more, hmore, h⟩ := Option.bind_eq_some_iff.1 h
      obtain rfl := Option.some.inj h
      rw [decodeFull_eq_some hgroup, ih hmore]
    · exact hne
  | case4 cs =>
    rw [decode] at h
    · cases h
    all_goals assumption

lemma encodeText_of_decodeText {s : String} {bs : Bytes} (h : decodeText s = some bs) :
    encodeText bs = s := by
  rw [encodeText, encode_of_decode h, String.ofList_toList]

end Envelope.Base64

namespace Envelope

lemma KeyRecord.keyBytes_system (created : Stamp) (wrapped : Bytes) (revoked : Option Bool) :
    (KeyRecord.system created wrapped revoked).keyBytes = .ok wrapped := by
  simp [keyBytes, system, Base64.decodeText_encodeText]

lemma KeyRecord.keyBytes_intermediate (created : Stamp) (wrapped : Bytes) (revoked : Option Bool)
    (parent : KeyMeta) :
    (KeyRecord.intermediate created wrapped revoked parent).keyBytes = .ok wrapped := by
  simp [keyBytes, intermediate, Base64.decodeText_encodeText]

end Envelope
