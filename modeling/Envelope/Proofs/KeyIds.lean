import Mathlib.Tactic.Common
import Envelope.Proofs.Store

/-!
Which partitions a key id belongs to.

Key ids are texts joined by underscores, and nothing marks where one text ends. Under one suffix the
ids of two partitions still differ where the partitions do. A partition with a suffix goes by the
start of an id alone, so it takes the id of another partition for its own where the other's id goes
on from its own.
-/

namespace Envelope.Partition

variable {p q : Partition} {partition partition' service product : String}
  {suffix suffix' : Option String}

/-! ### Parts of a key id -/

/-- How the key ids of a partition end. -/
def ending (p : Partition) : String :=
  match p.suffix with
  | some s => "_" ++ s
  | none => ""

lemma suffixed_eq (p : Partition) (id : String) : p.suffixed id = id ++ p.ending := by
  unfold suffixed ending
  cases p.suffix with
  | some s => exact String.append_assoc
  | none => exact String.append_empty.symm

lemma ending_inj : p.ending = q.ending ↔ p.suffix = q.suffix := by
  refine ⟨fun h => ?_, fun h => by unfold ending; rw [h]⟩
  unfold ending at h
  cases hp : p.suffix with
  | none =>
    cases hq : q.suffix with
    | none => rfl
    | some t =>
      have := congrArg String.toList h
      simp [hp, hq] at this
  | some s =>
    cases hq : q.suffix with
    | none =>
      have := congrArg String.toList h
      simp [hp, hq] at this
    | some t =>
      rw [hp, hq] at h
      rw [(String.append_right_inj "_").1 h]

/-- The same id under two suffixes. -/
lemma suffixed_inj {id : String} : p.suffixed id = q.suffixed id ↔ p.suffix = q.suffix := by
  rw [suffixed_eq, suffixed_eq, String.append_right_inj, ending_inj]

lemma suffix_ofIds : (ofIds partition service product suffix).suffix = suffix.filter (· ≠ "") := rfl

/-- The ids of a partition as one text after the part that all have in common. -/
lemma baseKeyId_ofIds : (ofIds partition service product suffix).baseKeyId =
    "_IK_" ++ (partition ++ ("_" ++ service ++ "_" ++ product)) := by
  simp only [ofIds, baseKeyId, String.append_assoc]

/-- Under one suffix, **partitions of one service and product** have key ids of their own. -/
lemma intermediateKeyId_inj_partition :
    (ofIds partition service product suffix).intermediateKeyId =
      (ofIds partition' service product suffix).intermediateKeyId ↔ partition = partition' := by
  simp only [intermediateKeyId, suffixed_eq, baseKeyId_ofIds]
  rw [show (ofIds partition' service product suffix).ending =
    (ofIds partition service product suffix).ending from rfl]
  simp only [String.append_left_inj, String.append_right_inj]

/-- Under two suffixes, **one partition** has two intermediate key ids. -/
lemma intermediateKeyId_inj_suffix :
    (ofIds partition service product suffix).intermediateKeyId =
      (ofIds partition service product suffix').intermediateKeyId ↔
        suffix.filter (· ≠ "") = suffix'.filter (· ≠ "") :=
  suffixed_inj

lemma systemKeyId_inj_suffix :
    (ofIds partition service product suffix).systemKeyId =
      (ofIds partition service product suffix').systemKeyId ↔
        suffix.filter (· ≠ "") = suffix'.filter (· ≠ "") :=
  suffixed_inj

/-! ### Acceptance -/

/-- Without a suffix, a partition accepts its own id only. -/
lemma accepts_iff_eq (h : p.suffix = none) (id : String) :
    p.Accepts id ↔ id = p.intermediateKeyId := by
  simp [Accepts, h]

/-- The intermediate key id of the second partition can be read as one of the first: its id under no
suffix, or under some. -/
def Resembles (p q : Partition) : Prop :=
  q.intermediateKeyId = p.baseKeyId ∨ ∃ rest, q.intermediateKeyId = p.baseKeyId ++ "_" ++ rest

lemma exists_append_iff {a b : String} : (∃ rest, b = a ++ rest) ↔ a.toList <+: b.toList := by
  constructor
  · rintro ⟨rest, rfl⟩
    exact ⟨rest.toList, String.toList_append.symm⟩
  · rintro ⟨l, hl⟩
    refine ⟨String.ofList l, String.toList_inj.1 ?_⟩
    rw [String.toList_append, String.toList_ofList, hl]

/-- With a suffix, a partition accepts **whatever reads as one of its ids**. -/
lemma accepts_iff_resembles (h : p.suffix ≠ none) (q : Partition) :
    p.Accepts q.intermediateKeyId ↔ p.Resembles q := by
  unfold Accepts Resembles
  rw [exists_append_iff]
  refine ⟨?_, fun hr => Or.inr ⟨h, hr⟩⟩
  rintro (hown | ⟨-, hr⟩)
  · obtain ⟨s, hs⟩ := Option.ne_none_iff_exists'.1 h
    refine Or.inr (exists_append_iff.1 ⟨s, ?_⟩)
    rw [hown, intermediateKeyId, suffixed, hs]
  · exact hr

/-- The same partition under any suffix or none is read as it is. -/
lemma resembles_ofIds : (ofIds partition service product suffix).Resembles
    (ofIds partition service product suffix') := by
  unfold Resembles
  rw [intermediateKeyId, suffixed_eq]
  cases h : (ofIds partition service product suffix').suffix with
  | none =>
    refine Or.inl ?_
    simp only [ending, h, String.append_empty]
    rfl
  | some s =>
    refine Or.inr ⟨s, ?_⟩
    simp only [ending, h, String.append_assoc]
    rfl

/-- **A look-alike**, as a matter of the ids that the key ids are made of. -/
lemma resembles_iff : (ofIds partition service product suffix).Resembles
      (ofIds partition' service product suffix') ↔
    partition' ++ ("_" ++ service ++ "_" ++ product) ++
        (ofIds partition' service product suffix').ending =
      partition ++ ("_" ++ service ++ "_" ++ product) ∨
    ∃ rest, partition' ++ ("_" ++ service ++ "_" ++ product) ++
        (ofIds partition' service product suffix').ending =
      partition ++ ("_" ++ service ++ "_" ++ product) ++ "_" ++ rest := by
  simp only [Resembles, intermediateKeyId, suffixed_eq, baseKeyId_ofIds, String.append_assoc,
    String.append_right_inj]

/-- Two texts that start alike up to an underscore in both: one goes on from the other. -/
lemma extends_or_extends {a b c d : String} (h : a ++ ("_" ++ c) = b ++ ("_" ++ d)) (hne : a ≠ b) :
    (∃ rest, b = a ++ "_" ++ rest) ∨ ∃ rest, a = b ++ "_" ++ rest := by
  have hunder : "_".toList = ['_'] := rfl
  have hl := congrArg String.toList h
  simp only [String.toList_append, hunder] at hl
  rcases List.append_eq_append_iff.1 hl with ⟨l, hb, hc⟩ | ⟨l, ha, hd⟩
  · cases l with
    | nil =>
      rw [List.append_nil] at hb
      exact absurd (String.toList_inj.1 hb).symm hne
    | cons x rest =>
      obtain ⟨rfl, -⟩ := List.cons.inj hc
      refine Or.inl ⟨String.ofList rest, String.toList_inj.1 ?_⟩
      simp [hb]
  · cases l with
    | nil =>
      rw [List.append_nil] at ha
      exact absurd (String.toList_inj.1 ha) hne
    | cons x rest =>
      obtain ⟨rfl, -⟩ := List.cons.inj hd
      refine Or.inr ⟨String.ofList rest, String.toList_inj.1 ?_⟩
      simp [ha]

/-- Look-alikes among different partitions of one service and product: **the id of one goes on from
that of the other** after an underscore. -/
lemma Resembles.extends (h : (ofIds partition service product suffix).Resembles
      (ofIds partition' service product suffix')) (hne : partition ≠ partition') :
    (∃ rest, partition' = partition ++ "_" ++ rest) ∨
      ∃ rest, partition = partition' ++ "_" ++ rest := by
  rcases resembles_iff.1 h with h | ⟨rest, h⟩ <;>
    exact extends_or_extends (by simpa only [String.append_assoc] using h.symm) hne

end Envelope.Partition
