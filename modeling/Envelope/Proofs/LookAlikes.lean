import Envelope.Proofs.Isolation
import Envelope.Proofs.Siblings

/-!
Partitions with a suffix that take each other's key ids for their own.

A partition with a suffix accepts any id that goes on after its own id and an underscore, and the id
of another partition may. A session then opens what the other partition has sealed, as if it were a
record of its own under another suffix. Of all other partitions it refuses every record.
-/

namespace Envelope.World

/-- **Isolation under a suffix**: what another partition of the service and product has sealed,
under the same suffix, another or none, a session refuses, unless the key id of the other partition
reads as one of its own. Then it opens the record. This happens only where the id of one of the two
partitions goes on from that of the other after an underscore. -/
theorem look_alikes_opened (m : Key) (clock : Clock) (random : Random)
    {service product suffix : String} (hsuffix : suffix ≠ "") {partition partition' : String}
    (hne : partition ≠ partition') :
    let p := Partition.ofIds partition service product (some suffix)
    let other := Partition.ofIds partition' service product
    (∀ suffix', (p.Accepts (other suffix').intermediateKeyId ↔ p.Resembles (other suffix')) ∧
      (p.Resembles (other suffix') → (∃ rest, partition' = partition ++ "_" ++ rest) ∨
        ∃ rest, partition = partition' ++ "_" ++ rest)) ∧
    (∀ requests later n n' payload text,
      let w := (start m (some suffix) clock random).run requests
      w.Session n p → w.Session n' (other (some suffix)) →
        (w.encrypt n' payload).map Prod.fst = some (.ok text) →
          (w.run (.encrypt n' payload :: later)).OpensIff n text payload
            (p.Resembles (other (some suffix)))) ∧
    ∀ keySuffix members requests later n n' suffix' payload text,
      let w := ((start m keySuffix clock random).fleet members).run requests
      (∀ o ∈ requests ++ later, ¬ o.OpensFactory) →
      w.Session n p → w.Session n' (other suffix') →
        (w.encrypt n' payload).map Prod.fst = some (.ok text) →
          (w.run (.encrypt n' payload :: later)).OpensIff n text payload
            (p.Resembles (other suffix')) := by
  intro p other
  have hnone : p.suffix ≠ none := by
    rw [Partition.suffix_ofIds]
    simp [hsuffix]
  have haccepts : ∀ suffix', p.Accepts (other suffix').intermediateKeyId ↔
      p.Resembles (other suffix') := fun suffix' => Partition.accepts_iff_resembles hnone _
  refine ⟨fun suffix' => ⟨haccepts suffix', fun h => h.extends hne⟩, ?_, ?_⟩
  · intro requests later n n' payload text w hn hn' htext
    obtain ⟨hw, -⟩ := (sound_start m (some suffix) clock random).run requests
    have hfaults : w.environment.faults = .none :=
      faults_run m (some suffix) clock random requests
    exact (hw.later hfaults hn hn' htext later).congr (haccepts _)
  · intro keySuffix members requests later n n' suffix' payload text w hrequests hn hn' htext
    have hmoves : Moves m _ w := ((apart_start m keySuffix clock random).fleet members).run
      fun o ho => hrequests o (List.mem_append_left _ ho)
    exact (hmoves.apart.later hn hn' htext fun o ho =>
      hrequests o (List.mem_append_right _ ho)).congr (haccepts _)

/-- Two sessions of a factory with a suffix, for ids neither of which goes on from the other. -/
theorem other_partition_refused_under_suffix :
    let w := (start .zeros (some "west") .epoch (.ofSeed 0)).run
      (opening "product" "service" "partition" (.expiring 90) ++ [.openSession 0 "other"])
    ∃ text, (w.encrypt 1 []).map Prod.fst = some (.ok text) ∧
      (w.run [.encrypt 1 []]).Refuses 0 text := by
  intro w
  let own := fun id => Partition.ofIds id "service" "product" (some "west")
  have hfirst : w.Session 0 (own "partition") := ⟨_, rfl, rfl⟩
  have hother : w.Session 1 (own "other") := ⟨_, rfl, rfl⟩
  have hw : w.Sound .zeros := ((sound_start .zeros (some "west") .epoch (.ofSeed 0)).run _).1
  have hfaults : w.environment.faults = .none :=
    faults_run .zeros (some "west") .epoch (.ofSeed 0) _
  obtain ⟨hresembles, hsessions, -⟩ := @look_alikes_opened .zeros .epoch (.ofSeed 0)
    "service" "product" "west" (by decide) "partition" "other" (by decide)
  rcases hw.encrypt_cases hfaults hother [] with ⟨text, htext, -⟩ | ⟨hlong, -⟩
  · refine ⟨text, htext, (hsessions _ [] 0 1 [] text hfirst hother htext).refuses fun h => ?_⟩
    rcases (hresembles (some "west")).2 h with hrest | hrest
    · exact absurd (Partition.exists_append_iff.1 hrest) (by decide)
    · exact absurd (Partition.exists_append_iff.1 hrest) (by decide)
  · exact absurd hlong (by decide)

/-- Two sessions of a factory with a suffix, where the second id goes on from the first with the ids
of service and product: the first session opens what the second has sealed. -/
theorem look_alike_opened :
    let w := (start .zeros (some "west") .epoch (.ofSeed 0)).run
      (opening "prod" "svc" "p1" (.expiring 90) ++ [.openSession 0 "p1_svc_prod"])
    w.Session 0 (.ofIds "p1" "svc" "prod" (some "west")) ∧
      w.Session 1 (.ofIds "p1_svc_prod" "svc" "prod" (some "west")) ∧
      ∃ text, (w.encrypt 1 [104, 105]).map Prod.fst = some (.ok text) ∧
        ((w.run [.encrypt 1 [104, 105]]).decrypt 0 text).map Prod.fst = some (.ok [104, 105]) := by
  intro w
  have hfirst : w.Session 0 (.ofIds "p1" "svc" "prod" (some "west")) := ⟨_, rfl, rfl⟩
  have hsecond : w.Session 1 (.ofIds "p1_svc_prod" "svc" "prod" (some "west")) := ⟨_, rfl, rfl⟩
  have hw : w.Sound .zeros := ((sound_start .zeros (some "west") .epoch (.ofSeed 0)).run _).1
  have hfaults : w.environment.faults = .none :=
    faults_run .zeros (some "west") .epoch (.ofSeed 0) _
  rcases hw.encrypt_cases hfaults hsecond [104, 105] with ⟨text, htext, -⟩ | ⟨hlong, -⟩
  · exact ⟨hfirst, hsecond, text, htext,
      (hw.later hfaults hfirst hsecond htext []).opens (by decide)⟩
  · exact absurd hlong (by decide)

end Envelope.World
