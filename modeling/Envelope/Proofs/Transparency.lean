import Envelope.Proofs.Availability
import Envelope.Proofs.Uncached

/-!
Caching is invisible to readers.

What a record opens to is a matter of the store and the partition. A cache that mirrors the store
can only give what the store has, and a cache without entries mirrors any store, so an engine that
has cached keys for a long time answers as one that has just been made.
-/

namespace Envelope

namespace Engine

variable {e : Engine} {m : Key} {w : Workspace}

/-- If no call is planned to fail, an engine answers what a record opens to by the store. -/
lemma Coherent.outcome_decrypt (hw : e.Coherent m w) (hf : w.environment.faults = .none)
    (text : Bytes) :
    ((e.decrypt text).outcome w).1 = w.environment.store.openRow m e.partition text := by
  refine Action.Yields.outcome (P := fun r _ => r = w.environment.store.openRow m e.partition text)
    ((yields_decrypt hw text).mono (fun payload v h => h.2.symm) fun err v h => ?_)
  rcases h.2 with hplan | hopen
  · exact absurd hplan (hf ▸ Faults.not_plans_none err)
  · exact hopen.symm

/-- Empty caches mirror any store. -/
lemma coherent_empty {env : Environment} (hs : e.service = .master m) (hf : env.faults.Truthful)
    (hd : env.store.Dated) (revokeCheck revokeCheck' : Duration) :
    e.Coherent m ⟨env, .empty revokeCheck, .empty revokeCheck'⟩ where
  service := hs
  faults := hf
  dated := hd
  systemKeys := KeyCache.mirrors_empty revokeCheck
  intermediateKeys := KeyCache.mirrors_empty revokeCheck'

/-- Empty caches mirror the store, whatever the policy. -/
lemma Coherent.of_empty (hw : e.Coherent m w) (policy : Policy)
    (revokeCheck revokeCheck' : Duration) : ({ e with policy } : Engine).Coherent m
      ⟨w.environment, .empty revokeCheck, .empty revokeCheck'⟩ :=
  coherent_empty (e := { e with policy }) hw.service hw.faults hw.dated revokeCheck revokeCheck'

end Engine

namespace World

variable {w : World}

/-- One more engine for a partition, with empty caches of its own. Its number is that of the engines
before it. -/
def addReader (w : World) (p : Partition) (policy : Policy) (keyService : Nat) : World :=
  (w.addSystemKeys policy.revokeCheck).addEngine p policy keyService w.systemKeys.length

/-- The work of an engine that has just been added. -/
lemma work_addReader {p : Partition} {policy : Policy} {i : Nat} {service : KeyService}
    (hservice : w.keyServices[i]? = some service) {α : Type} (a : Engine → Engine.Work α) :
    ((w.addReader p policy i).work w.engines.length a).map Prod.fst =
      some ((a ⟨p, policy, service⟩).outcome
        ⟨w.environment, .empty policy.revokeCheck, .empty policy.revokeCheck⟩).1 := by
  simp [work, addReader, addEngine, addSystemKeys, hservice]

/-- **Caching is invisible to readers**: after any run from an empty store, a session opens a text
to just what an engine for its partition does that has no keys yet, whatever that engine caches. -/
theorem decrypt_addReader (m : Key) (suffix : Option String) (clock : Clock) (random : Random)
    (requests : List Request) {n : Nat} {s : EngineState}
    (hs : ((start m suffix clock random).run requests).engines[n]? = some s) (policy : Policy)
    (text : Bytes) :
    let w := (start m suffix clock random).run requests
    ∃ answer, (w.decrypt n text).map Prod.fst = some answer ∧
      ((w.addReader s.partition policy s.keyService).decrypt w.engines.length text).map Prod.fst =
        some answer := by
  intro w
  obtain ⟨hw, -⟩ := (sound_start m suffix clock random).run requests
  have hfaults : w.environment.faults = .none := faults_run m suffix clock random requests
  obtain ⟨f, c, hseat⟩ := hw.seat hs
  have hservice : w.keyServices[s.keyService]? = some (.master m) := by
    rw [hw.keyServices, hseat.isOf.keyService, (hw.factory hseat.factory).1]
    rfl
  refine ⟨_, hw.decrypt_eq hfaults ⟨s, hs, rfl⟩ text, ?_⟩
  rw [World.decrypt, work_addReader hservice]
  exact congrArg some ((hseat.sound.toCoherent.of_empty policy _ _).outcome_decrypt hfaults text)

/-- An old record under a revoked key, opened by a session whose factory is gone and by an engine
without caches. -/
theorem opens_alike_after_disposal :
    let w := (start .zeros none .epoch (.ofSeed 0)).run (beginning (.expiring 90) ++
      [.revoke Partition.given.intermediateKeyId
          ((Policy.expiring 90).intermediateStamp Clock.epoch.wall).time,
        .disposeFactory 0, .advance (.ofDays 100)])
    ∃ text, (w.decrypt 0 text).map Prod.fst = some (.ok [104, 105]) ∧
      ((w.addReader .given (Policy.expiring 90).uncached 0).decrypt w.engines.length text).map
        Prod.fst = some (.ok [104, 105]) := by
  intro w
  obtain ⟨hbegun, text, -, hopens, -⟩ := begun_beginning (.expiring 90) rfl
  obtain ⟨s, hs, hpartition, -⟩ := hbegun.session
  obtain ⟨hw, hprecedes⟩ := hbegun.sound.run
    [.revoke Partition.given.intermediateKeyId
        ((Policy.expiring 90).intermediateStamp Clock.epoch.wall).time,
      .disposeFactory 0, .advance (.ofDays 100)]
  rw [← run_append] at hw hprecedes
  obtain ⟨s', hs', hseat⟩ := hprecedes.engine hs
  have hpartition' : s'.partition = .given := hseat.partition.trans hpartition
  have hservice : s'.keyService = 0 := by
    obtain ⟨f, hf, hof⟩ := hw.engine hs'
    rw [hof.keyService, (hw.factory hf).1]
  obtain ⟨answer, hanswer, halike⟩ := decrypt_addReader .zeros none .epoch (.ofSeed 0) _ hs'
    (Policy.expiring 90).uncached text
  have hopened := hw.decrypt_eq (hbegun.faults ▸ hprecedes.faults).eq_none
    ⟨s', hs', hpartition'⟩ text
  rw [hprecedes.store.openRow hopens] at hopened
  cases hanswer.symm.trans hopened
  rw [hpartition', hservice] at halike
  exact ⟨text, hopened, halike⟩

end World

end Envelope
