import Envelope.Proofs.Opening
import Envelope.Proofs.SessionCache
import Envelope.Proofs.Sessions
import Envelope.Trial

/-!
Settings that pass the check can be used.

The check looks at the settings alone, and the parts of a trial check again what they are built
from: a master key its length, the regions that there is one, the factory its ids and a session its
partition id. Nothing of this fails for settings that pass.
-/

namespace Envelope

namespace Settings

lemma ne_empty_of_checkNotBlank {name value : String} (h : checkNotBlank name value = .ok ()) :
    value ≠ "" := by
  rintro rfl
  cases h

/-- What the check asks of all settings. -/
structure Accepted (s : Settings) : Prop where
  service : s.service ≠ ""
  product : s.product ≠ ""
  partition : s.partition ≠ ""
  iterations : 0 < s.iterations.toNat
  masterKey : s.checkMasterKey = .ok ()

lemma accepted_of_check {s : Settings} (h : s.check = .ok ()) : s.Accepted := by
  obtain ⟨_, hservice, h⟩ := Except.bind_eq_ok_iff.1 h
  obtain ⟨_, hproduct, h⟩ := Except.bind_eq_ok_iff.1 h
  obtain ⟨_, hpartition, h⟩ := Except.bind_eq_ok_iff.1 h
  obtain ⟨_, hiterations, h⟩ := Except.bind_eq_ok_iff.1 h
  obtain ⟨_, -, h⟩ := Except.bind_eq_ok_iff.1 h
  obtain ⟨_, -, hmaster⟩ := Except.bind_eq_ok_iff.1 h
  refine ⟨ne_empty_of_checkNotBlank hservice, ne_empty_of_checkNotBlank hproduct,
    ne_empty_of_checkNotBlank hpartition, ?_, hmaster⟩
  refine Nat.pos_of_ne_zero fun hzero => ?_
  have hzero : s.iterations = 0 := UInt32.toNat_inj.1 hzero
  unfold checkPositive at hiterations
  rw [if_pos hzero] at hiterations
  cases hiterations

end Settings

namespace Trial

variable {settings : Settings} {client : RegionKey → RegionClient}

/-! ### The key management service -/

lemma keyService_of_fixed (h : settings.check = .ok ()) (hs : settings.masterKeySource = .fixed)
    (client : RegionKey → RegionClient) (now : Time) :
    ∃ m, keyService settings client now = .ok (.master m) := by
  have hmaster := (Settings.accepted_of_check h).masterKey
  unfold Settings.checkMasterKey at hmaster
  rw [hs] at hmaster
  have hlength : (Json.utf8Bytes settings.masterKey).length = Cipher.Siv.keyLength := by
    dsimp only at hmaster
    split at hmaster
    · next hsize => exact hsize
    · cases hmaster
  unfold keyService Settings.masterService KeyService.ofMaster
  rw [hs, Key.ofBytes_of_length hlength]
  exact ⟨_, rfl⟩

lemma ne_nil_of_listOfText {text : String} {keys : List RegionKey}
    (h : RegionKey.listOfText text = .ok keys) : keys ≠ [] := by
  unfold RegionKey.listOfText at h
  obtain ⟨keys', -, h⟩ := Except.bind_eq_ok_iff.1 h
  split at h
  · cases h
  · next hne =>
    cases h
    exact hne

lemma keyService_of_regions (h : settings.check = .ok ())
    (hs : settings.masterKeySource = .regions) (client : RegionKey → RegionClient) (now : Time) :
    ∃ regions, keyService settings client now = .ok (.regional regions) := by
  have hmaster := (Settings.accepted_of_check h).masterKey
  unfold Settings.checkMasterKey at hmaster
  rw [hs] at hmaster
  cases hkeys : settings.regionKeyList with
  | error fault =>
    rw [hkeys] at hmaster
    cases hmaster
  | ok keys =>
    have hne : keys ≠ [] := by
      unfold Settings.regionKeyList at hkeys
      split at hkeys
      · exact ne_nil_of_listOfText hkeys
      · cases hkeys
    unfold keyService
    rw [hs, hkeys]
    show ∃ regions, (settings.regionalService client keys).mapError Fault.regions = _
    unfold Settings.regionalService KeyService.ofRegions
    rw [if_neg (by simpa using hne)]
    exact ⟨_, rfl⟩

/-- **The key management service** of settings that pass the check is built. -/
lemma keyService_of_check (h : settings.check = .ok ()) (client : RegionKey → RegionClient)
    (now : Time) : ∃ service, keyService settings client now = .ok service := by
  cases hs : settings.masterKeySource with
  | fixed =>
    obtain ⟨m, hm⟩ := keyService_of_fixed h hs client now
    exact ⟨_, hm⟩
  | regions =>
    obtain ⟨regions, hregions⟩ := keyService_of_regions h hs client now
    exact ⟨_, hregions⟩

/-! ### The factory and its session -/

lemma factory_of_keyService (h : settings.check = .ok ()) {clock : Clock} {service : KeyService}
    (hs : keyService settings client clock.wall = .ok service) (random : Random) :
    ∃ w, factory settings client clock random = .ok w ∧
      ((World.ofEnvironment (.ofStore clock random (.empty none))).addKeyService
        service).addFactory settings.product settings.service settings.policy 0 = .ok w := by
  have ha := Settings.accepted_of_check h
  unfold factory
  rw [hs]
  unfold World.ofSettings World.addFactory FactorySettings.check
  simp only [ha.product, ha.service, if_false]
  exact ⟨_, rfl, rfl⟩

end Trial

/-- **The first session** of a new factory is opened. -/
lemma World.session_first {w : World} {f : Factory} {partition : String}
    (hf : w.factories[0]? = some f) (hd : f.disposed = false)
    (hnone : ∀ cache ∈ f.sessions, cache.sessions = []) (hp : partition ≠ "") :
    ∃ w', w.session 0 partition = some (.ok w.engines.length, w') := by
  unfold World.session
  rw [hf]
  simp only [Option.bind_eq_bind, Option.bind_some, if_neg hp, hd]
  cases hsessions : f.sessions with
  | none => exact ⟨_, rfl⟩
  | some cache =>
    have hempty : cache.sessions = [] := hnone cache hsessions
    have hengine : (cache.request w.environment.clock.elapsed partition w.engines.length).engine =
        w.engines.length := by
      rcases cache.request_engine w.environment.clock.elapsed partition w.engines.length with
        ⟨-, he⟩ | ⟨-, y, hy, -⟩
      · exact he
      · rw [hempty] at hy
        cases hy
    rw [if_neg Bool.false_ne_true]
    dsimp only
    rw [hengine]
    exact ⟨_, rfl⟩

/-- **Settings that pass the check** can be used: their key management service and their factory
are built, and the session is opened. -/
theorem Trial.set_up_of_check {settings : Settings} (h : settings.check = .ok ())
    (client : RegionKey → RegionClient) (clock : Clock) (random : Random) :
    ∃ service w w', Trial.keyService settings client clock.wall = .ok service ∧
      Trial.factory settings client clock random = .ok w ∧
      w.session 0 settings.partition = some (.ok 0, w') := by
  obtain ⟨service, hservice⟩ := Trial.keyService_of_check h client clock.wall
  obtain ⟨w, hfactory, hadd⟩ := Trial.factory_of_keyService h hservice random
  obtain ⟨sessions, rfl, hempty⟩ := World.addFactory_eq_ok hadd
  obtain ⟨w', hsession⟩ := World.session_first (w := { (World.ofEnvironment
      (.ofStore clock random (.empty none))).addKeyService service with
        systemKeys := [.empty settings.policy.revokeCheck]
        factories := [⟨settings.product, settings.service, settings.policy, 0, 0, sessions,
          false⟩] })
    rfl rfl hempty (Settings.accepted_of_check h).partition
  exact ⟨service, _, w', hservice, hfactory, hsession⟩

end Envelope
