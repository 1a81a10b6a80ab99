import Mathlib.Tactic.Common
import Envelope.Proofs.Json.Spelling

/-!
A rendered value is parsed back to itself, if its numbers and strings are spelled as such.

The scan finds the tokens again. After a number it has not yet seen that the number is over, so
`Settled` says which states stand for the tokens read so far. The reader then rebuilds the value
token by token; the statement for each kind of open frame is one clause of the induction.
-/

namespace Envelope.Json

/-! ### Spellings -/

namespace Scan

/-- A number is spelled: the scan takes it for one number that may end here. -/
def IsNumber (spelling : Bytes) : Prop :=
  ∀ read, ∃ part : NumberPart, part.isComplete = true ∧
    spelling.foldlM step ⟨read, .between⟩ = some ⟨read, .number part spelling.reverse⟩

/-- The inside of a string is spelled: the scan stays in plain text after it. -/
def IsString (spelling : Bytes) : Prop :=
  ∀ read acc, spelling.foldlM step ⟨read, .string .plain acc⟩ =
    some ⟨read, .string .plain (spelling.reverse ++ acc)⟩

end Scan

def Token.IsSpelled : Token → Prop
  | .number spelling => Scan.IsNumber spelling
  | .string spelling => Scan.IsString spelling
  | _ => True

def Value.IsSpelled (v : Value) : Prop := ∀ t ∈ v.tokens, t.IsSpelled

namespace Scan

lemma foldlM_ofByte (b : UInt8) (read : List Token) (acc : Bytes) :
    (Spelling.ofByte b).foldlM step ⟨read, .string .plain acc⟩ =
      some ⟨read, .string .plain ((Spelling.ofByte b).reverse ++ acc)⟩ := by
  have hex : ∀ n < 32, isHexDigit (Spelling.hexDigit (n / 16)) = true ∧
      isHexDigit (Spelling.hexDigit (n % 16)) = true := by decide
  unfold Spelling.ofByte
  split_ifs with h1 h2 h3 h4 h5 h6 h7
  · rcases h1 with rfl | rfl <;> rfl
  iterate 5 rfl
  · obtain ⟨ha, hb⟩ := hex b.toNat (UInt8.lt_iff_toNat_lt.1 h7)
    have h48 : isHexDigit 48 = true := by decide
    simp [step, ha, hb, h48]
  · simp [step, not_or.1 h1, h7]

lemma isString_ofText (s : String) : IsString (Spelling.ofText s) := by
  intro read acc
  unfold Spelling.ofText
  induction utf8Bytes s generalizing acc with
  | nil => rfl
  | cons b bs ih =>
    rw [List.flatMap_cons, List.foldlM_append, foldlM_ofByte, List.reverse_append,
      List.append_assoc]
    exact ih _

/-- Digits keep the scan in the whole part of a number. -/
lemma foldlM_digits {ds : Bytes} (h : ∀ d ∈ ds, isDigit d = true) (read : List Token)
    (acc : Bytes) : ds.foldlM step ⟨read, .number .integer acc⟩ =
      some ⟨read, .number .integer (ds.reverse ++ acc)⟩ := by
  induction ds generalizing acc with
  | nil => rfl
  | cons d ds ih =>
    have hd : isDigit d = true := h d (by simp)
    have hstep : step ⟨read, .number .integer acc⟩ d =
        some ⟨read, .number .integer (d :: acc)⟩ := by
      simp [step, NumberPart.next?, hd]
    rw [List.foldlM_cons, hstep]
    show ds.foldlM step ⟨read, .number .integer (d :: acc)⟩ = _
    rw [ih fun x hx => h x (by simp [hx])]
    simp

/-- Digits begin a number wherever one may begin. -/
lemma foldlM_ofNat (s : State) (read : List Token) (acc : Bytes) (n : Nat)
    (hz : step s 48 = some ⟨read, .number .zero (48 :: acc)⟩)
    (hd : ∀ d, isDigit d = true → d ≠ 48 → step s d = some ⟨read, .number .integer (d :: acc)⟩) :
    ∃ part : NumberPart, part.isComplete = true ∧ (Decimal.ofNat n).foldlM step s =
      some ⟨read, .number part ((Decimal.ofNat n).reverse ++ acc)⟩ := by
  obtain ⟨b, rest, he, hall, -, -, h0⟩ := Decimal.ofNat_spec n
  rw [he] at hall ⊢
  by_cases hb : b = 48
  · obtain ⟨-, rfl⟩ := h0 hb
    subst hb
    exact ⟨.zero, rfl, by simp [hz]⟩
  · refine ⟨.integer, rfl, ?_⟩
    rw [List.foldlM_cons, hd b (hall b (by simp)) hb]
    show rest.foldlM step ⟨read, .number .integer (b :: acc)⟩ = _
    rw [foldlM_digits fun x hx => hall x (by simp [hx])]
    simp

lemma step_between_digit (read : List Token) {d : UInt8} (h : isDigit d = true) (hz : d ≠ 48) :
    step ⟨read, .between⟩ d = some ⟨read, .number .integer [d]⟩ := by
  have hle : 48 ≤ d ∧ d ≤ 57 := by simpa [isDigit] using h
  have hne : isBlank d = false ∧ d ≠ 34 ∧ d ≠ 45 := by
    have h1 := UInt8.le_iff_toNat_le.1 hle.1
    refine ⟨?_, ?_, ?_⟩
    · simp only [isBlank, decide_eq_false_iff_not]
      rintro (rfl | rfl | rfl | rfl) <;> simp at h1
    all_goals
      rintro rfl
      simp at h1
  simp [step, start, hne.1, hne.2.1, hne.2.2, hz, h]

lemma isNumber_ofInt (n : Int) : IsNumber (Decimal.ofInt n) := by
  intro read
  unfold Decimal.ofInt
  split_ifs with h
  · obtain ⟨part, hp, hf⟩ := foldlM_ofNat ⟨read, .number .sign [45]⟩ read [45] n.natAbs
      rfl fun d hd hz => by simp [step, NumberPart.next?, hd, hz]
    refine ⟨part, hp, ?_⟩
    rw [List.reverse_cons]
    exact hf
  · obtain ⟨part, hp, hf⟩ := foldlM_ofNat ⟨read, .between⟩ read [] n.natAbs
      rfl fun d hd hz => step_between_digit read hd hz
    exact ⟨part, hp, by simpa using hf⟩

/-! ### Tokens found again -/

/-- The state stands for the tokens read so far, the last one first. -/
inductive Settled : List Token → State → Prop
  | between (read : List Token) : Settled read ⟨read, .between⟩
  | number {part : NumberPart} (h : part.isComplete = true) (read : List Token)
      (spelling : Bytes) :
      Settled (.number spelling.reverse :: read) ⟨read, .number part spelling⟩

lemma finish_of_settled {read : List Token} {s : State} (h : Settled read s) :
    finish s = some read.reverse := by
  cases h with
  | between => rfl
  | number h => simp [finish, h]

/-- The scan of the spellings of some tokens. -/
def scan (s : State) (ts : List Token) : Option State := (ts.flatMap Token.spelling).foldlM step s

lemma scan_append (s : State) (ts us : List Token) :
    scan s (ts ++ us) = (scan s ts).bind (scan · us) := by
  simp only [scan, List.flatMap_append, List.foldlM_append]
  rfl

/-- What may follow a number. -/
def IsCloser (t : Token) : Prop := t = .comma ∨ t = .endArray ∨ t = .endObject

lemma scan_closer {read : List Token} {s : State} (h : Settled read s) {t : Token}
    (ht : IsCloser t) : scan s [t] = some ⟨t :: read, .between⟩ := by
  cases h with
  | between => rcases ht with rfl | rfl | rfl <;> rfl
  | number h =>
    next part _ _ =>
    rcases ht with rfl | rfl | rfl <;> cases part <;> first | rfl | cases h

/-- Any token may come between two others. -/
lemma scan_token {t : Token} (ht : t.IsSpelled) (read : List Token) :
    ∃ s, scan ⟨read, .between⟩ [t] = some s ∧ Settled (t :: read) s := by
  cases t with
  | number spelling =>
    obtain ⟨part, hp, hf⟩ := ht read
    refine ⟨_, by simpa [scan, Token.spelling] using hf, ?_⟩
    have := Settled.number hp read spelling.reverse
    rwa [List.reverse_reverse] at this
  | string spelling =>
    refine ⟨_, ?_, .between _⟩
    have hq : step ⟨read, .between⟩ 34 = some ⟨read, .string .plain []⟩ := rfl
    have hf : spelling.foldlM step ⟨read, .string .plain []⟩ =
        some ⟨read, .string .plain spelling.reverse⟩ := by simpa using ht read []
    have he : step ⟨read, .string .plain spelling.reverse⟩ 34 =
        some ⟨.string spelling :: read, .between⟩ := by simp [step]
    simp only [scan, List.flatMap_singleton, Token.spelling, List.cons_append, List.foldlM_cons,
      hq, List.foldlM_append]
    show (spelling.foldlM step ⟨read, .string .plain []⟩).bind _ = _
    rw [hf]
    show (step ⟨read, .string .plain spelling.reverse⟩ 34).bind _ = _
    rw [he]
    rfl
  | bool b => cases b <;> exact ⟨_, rfl, .between _⟩
  | _ => exact ⟨_, rfl, .between _⟩

end Scan

namespace Value

open Scan

/-- Tokens that the scan finds again between two others. -/
def Found (ts : List Token) : Prop :=
  ∀ read, ∃ s, scan ⟨read, .between⟩ ts = some s ∧ Settled (ts.reverse ++ read) s

lemma Found.append_closer {ts : List Token} (h : Found ts) {t : Token} (ht : IsCloser t)
    (read : List Token) :
    scan ⟨read, .between⟩ (ts ++ [t]) = some ⟨(ts ++ [t]).reverse ++ read, .between⟩ := by
  obtain ⟨s, hs, hset⟩ := h read
  rw [scan_append, hs, Option.bind_some, scan_closer hset ht]
  simp

lemma Found.append {ts us : List Token} (h : Found ts) {t : Token} (ht : IsCloser t)
    (hu : Found us) : Found (ts ++ t :: us) := by
  intro read
  obtain ⟨s, hs, hset⟩ := hu ((ts ++ [t]).reverse ++ read)
  refine ⟨s, ?_, by simpa using hset⟩
  rw [show ts ++ t :: us = ts ++ [t] ++ us by simp, scan_append, h.append_closer ht read]
  exact hs

/-- Tokens that leave the scan between tokens, before others. -/
lemma Found.after (ts : List Token) {us : List Token} (h : ∀ read, scan ⟨read, .between⟩ ts =
    some ⟨ts.reverse ++ read, .between⟩) (hu : Found us) : Found (ts ++ us) := by
  intro read
  obtain ⟨s, hs, hset⟩ := hu (ts.reverse ++ read)
  refine ⟨s, ?_, by simpa using hset⟩
  rw [scan_append, h read]
  exact hs

lemma found_of_between {ts : List Token}
    (h : ∀ read, scan ⟨read, .between⟩ ts = some ⟨ts.reverse ++ read, .between⟩) : Found ts :=
  fun read => ⟨_, h read, .between _⟩

lemma found_token {t : Token} (ht : t.IsSpelled) : Found [t] := fun read => scan_token ht read

/-- The name of a member and its colon. -/
lemma scan_name {name : Bytes} (h : IsString name) (read : List Token) :
    scan ⟨read, .between⟩ [.string name, .colon] =
      some ⟨[.string name, .colon].reverse ++ read, .between⟩ := by
  obtain ⟨s, hs, hset⟩ := scan_token (t := .string name) h read
  cases hset
  rw [show [Token.string name, .colon] = [.string name] ++ [.colon] by rfl, scan_append, hs]
  rfl

mutual

lemma found_tokens : (v : Value) → v.IsSpelled → Found v.tokens
  | .null, h => found_token (h _ (by simp [tokens]))
  | .bool _, h => found_token (h _ (by simp [tokens]))
  | .number _, h => found_token (h _ (by simp [tokens]))
  | .string _, h => found_token (h _ (by simp [tokens]))
  | .array items, h => by
    by_cases hne : items = []
    · subst hne
      exact found_of_between fun _ => rfl
    · have hi := found_itemTokens items hne fun t ht => h t (by simp [tokens, ht])
      have hc : Found (itemTokens items ++ [.endArray]) :=
        found_of_between (hi.append_closer (by simp [IsCloser]))
      exact Found.after [.beginArray] (fun _ => rfl) hc
  | .object members, h => by
    by_cases hne : members = []
    · subst hne
      exact found_of_between fun _ => rfl
    · have hm := found_memberTokens members hne fun t ht => h t (by simp [tokens, ht])
      have hc : Found (memberTokens members ++ [.endObject]) :=
        found_of_between (hm.append_closer (by simp [IsCloser]))
      exact Found.after [.beginObject] (fun _ => rfl) hc

lemma found_itemTokens : (items : List Value) → items ≠ [] →
    (∀ t ∈ itemTokens items, t.IsSpelled) → Found (itemTokens items)
  | [], hne, _ => absurd rfl hne
  | [v], _, h => found_tokens v (by simpa [itemTokens, IsSpelled] using h)
  | v :: w :: rest, _, h => by
    have hv := found_tokens v fun t ht => h t (by simp [itemTokens, ht])
    have hr := found_itemTokens (w :: rest) (by simp) fun t ht => h t (by simp [itemTokens, ht])
    exact hv.append (t := .comma) (Or.inl rfl) hr

lemma found_memberTokens : (members : List (Bytes × Value)) → members ≠ [] →
    (∀ t ∈ memberTokens members, t.IsSpelled) → Found (memberTokens members)
  | [], hne, _ => absurd rfl hne
  | [(name, v)], _, h => by
    have hn : Token.IsSpelled (.string name) := h _ (by simp [memberTokens])
    have hv := found_tokens v fun t ht => h t (by simp [memberTokens, ht])
    exact Found.after [.string name, .colon] (scan_name hn) hv
  | (name, v) :: m :: rest, _, h => by
    have hn : Token.IsSpelled (.string name) := h _ (by simp [memberTokens])
    have hv := found_tokens v fun t ht => h t (by simp [memberTokens, ht])
    have hr := found_memberTokens (m :: rest) (by simp) fun t ht =>
      h t (by simp [memberTokens, ht])
    exact Found.after [.string name, .colon] (scan_name hn)
      (hv.append (t := .comma) (Or.inl rfl) hr)

end

lemma tokens?_render {v : Value} (h : v.IsSpelled) : tokens? v.render = some v.tokens := by
  obtain ⟨s, hs, hset⟩ := found_tokens v h []
  have hs : v.render.foldlM step init = some s := hs
  rw [tokens?, hs, Option.bind_some, finish_of_settled hset]
  simp

/-! ### The value rebuilt -/

namespace Reading

/-- The reading of some tokens. -/
def read (r : Reading) (ts : List Token) : Option Reading := ts.foldlM step r

lemma read_append (r : Reading) (ts us : List Token) :
    read r (ts ++ us) = (read r ts).bind (read · us) := by
  simp only [read, List.foldlM_append]
  rfl

lemma read_cons (r : Reading) (t : Token) (ts : List Token) :
    read r (t :: ts) = (step r t).bind (read · ts) := rfl

end Reading

open Reading

/-- At the start of an array a value may come, as after a comma. -/
lemma read_arrayStart (v : Value) (ts : List Token) (frames : List Frame) :
    read ⟨.arrayStart, frames⟩ (v.tokens ++ ts) =
      read ⟨.value, .array [] :: frames⟩ (v.tokens ++ ts) := by
  cases v <;> rfl

lemma read_arrayStart_items {items : List Value} (h : items ≠ []) (frames : List Frame) :
    read ⟨.arrayStart, frames⟩ (itemTokens items) =
      read ⟨.value, .array [] :: frames⟩ (itemTokens items) := by
  match items, h with
  | [v], _ => simpa [itemTokens] using read_arrayStart v [] frames
  | v :: w :: rest, _ => exact read_arrayStart v _ frames

/-- At the start of an object a name may come, as after a comma. -/
lemma read_objectStart_members {members : List (Bytes × Value)} (h : members ≠ [])
    (frames : List Frame) : read ⟨.objectStart, frames⟩ (memberTokens members) =
      read ⟨.memberName [], frames⟩ (memberTokens members) := by
  match members, h with
  | [(name, v)], _ => rfl
  | (name, v) :: m :: rest, _ => rfl

mutual

lemma read_tokens : (v : Value) → (frames : List Frame) →
    read ⟨.value, frames⟩ v.tokens = some (fill v frames)
  | .null, _ => rfl
  | .bool _, _ => rfl
  | .number _, _ => rfl
  | .string _, _ => rfl
  | .array items, frames => by
    by_cases hne : items = []
    · subst hne
      rfl
    · have h := read_itemTokens items hne [] frames
      rw [tokens, List.cons_append, read_cons]
      show read ⟨.arrayStart, frames⟩ _ = _
      rw [read_append, read_arrayStart_items hne, h]
      simp [Reading.read, Reading.step]
  | .object members, frames => by
    by_cases hne : members = []
    · subst hne
      rfl
    · have h := read_memberTokens members hne [] frames
      rw [tokens, List.cons_append, read_cons]
      show read ⟨.objectStart, frames⟩ _ = _
      rw [read_append, read_objectStart_members hne, h]
      simp [Reading.read, Reading.step]

lemma read_itemTokens : (items : List Value) → items ≠ [] → (done : List Value) →
    (frames : List Frame) → read ⟨.value, .array done :: frames⟩ (itemTokens items) =
      some ⟨.afterItem (items.reverse ++ done), frames⟩
  | [], hne, _, _ => absurd rfl hne
  | [v], _, done, frames => read_tokens v (.array done :: frames)
  | v :: w :: rest, _, done, frames => by
    have h := read_itemTokens (w :: rest) (by simp) (v :: done) frames
    rw [itemTokens, read_append, read_tokens v, Option.bind_some, read_cons]
    · show read ⟨.value, .array (v :: done) :: frames⟩ _ = _
      rw [h]
      simp
    · simp

lemma read_memberTokens : (members : List (Bytes × Value)) → members ≠ [] →
    (done : List (Bytes × Value)) → (frames : List Frame) →
    read ⟨.memberName done, frames⟩ (memberTokens members) =
      some ⟨.afterMember (members.reverse ++ done), frames⟩
  | [], hne, _, _ => absurd rfl hne
  | [(name, v)], _, done, frames => read_tokens v (.object done name :: frames)
  | (name, v) :: m :: rest, _, done, frames => by
    have h := read_memberTokens (m :: rest) (by simp) ((name, v) :: done) frames
    have hv := read_tokens v (.object done name :: frames)
    rw [memberTokens]
    · show read ⟨.value, .object done name :: frames⟩ (v.tokens ++ _) = _
      rw [read_append, hv, Option.bind_some, read_cons]
      show read ⟨.memberName ((name, v) :: done), frames⟩ _ = _
      rw [h]
      simp
    · simp

end

lemma ofTokens?_tokens (v : Value) : ofTokens? v.tokens = some v := by
  have h : v.tokens.foldlM Reading.step Reading.init = some (fill v []) := read_tokens v []
  rw [ofTokens?, h]
  rfl

/-- **A rendered value is parsed back.** -/
theorem parse?_render {v : Value} (h : v.IsSpelled) : parse? v.render = some v := by
  rw [parse?, tokens?_render h, Option.bind_some, ofTokens?_tokens]

end Value

end Envelope.Json
