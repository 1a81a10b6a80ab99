import Envelope.Proofs.RegionKeys
import Envelope.Proofs.Regions
import Envelope.Proofs.RoundTrips

/-!
Which region is tried first.

The service of settings that pass the check holds the regions that are listed: those of the
preferred name and then the others, each in the order of the list. The check asks that a region is
preferred, and not that it is in the list. So the preferred region is the first to be called if the
list has its name, letter for letter, and else the list stays in its order. Blanks count: those
around a name of the list are taken off, and those around the preferred name are not.
-/

namespace Envelope

open Envelope.Action

/-- The region that is listed, with its client. -/
def RegionKey.reached (client : RegionKey → RegionClient) (k : RegionKey) : Region :=
  ⟨k.region, k.arn, client k⟩

namespace Settings

variable {s : Settings} {keys : List RegionKey}

lemma exists_listOfText (h : s.regionKeyList = .ok keys) :
    ∃ text, RegionKey.listOfText text = .ok keys := by
  unfold regionKeyList at h
  split at h
  · exact ⟨_, h⟩
  · cases h

/-- A name with a blank at an end is none of the list. -/
lemma region_ne_of_not_trimmed (h : s.regionKeyList = .ok keys) {name : String}
    (hname : ¬ Text.Trimmed name.toList) : ∀ k ∈ keys, k.region ≠ name := by
  rintro k hk rfl
  obtain ⟨text, htext⟩ := exists_listOfText h
  exact hname ((RegionKey.listOfText_eq_ok_iff.1 htext).2.1 k hk).region_trimmed

/-- With master keys in regions, the check passes a list that can be read, and a region that is
preferred. -/
lemma preferred_of_check (h : s.check = .ok ()) (hs : s.masterKeySource = .regions) :
    ∃ keys preferred, s.regionKeyList = .ok keys ∧ s.preferredRegion = some preferred := by
  have hmaster := (accepted_of_check h).masterKey
  unfold checkMasterKey at hmaster
  rw [hs] at hmaster
  obtain ⟨_, hlist, hnotBlank⟩ := Except.bind_eq_ok_iff.1 hmaster
  cases hkeys : s.regionKeyList with
  | error fault =>
    rw [hkeys] at hlist
    cases hlist
  | ok keys =>
    cases hpreferred : s.preferredRegion with
    | none =>
      rw [hpreferred] at hnotBlank
      exact absurd rfl (ne_empty_of_checkNotBlank hnotBlank)
    | some preferred => exact ⟨keys, preferred, rfl, rfl⟩

end Settings

namespace KeyService

/-! ### The order -/

section

variable {regions : List Region} {preferred : String}

lemma filter_inOrder (regions : List Region) (preferred : String) :
    (inOrder regions preferred).filter (·.name = preferred) =
      regions.filter (·.name = preferred) := by
  unfold inOrder
  rw [List.filter_append, List.filter_filter, List.filter_filter]
  simp

lemma filter_ne_inOrder (regions : List Region) (preferred : String) :
    (inOrder regions preferred).filter (·.name ≠ preferred) =
      regions.filter (·.name ≠ preferred) := by
  unfold inOrder
  rw [List.filter_append, List.filter_filter, List.filter_filter]
  simp

lemma inOrder_of_forall_ne (h : ∀ r ∈ regions, r.name ≠ preferred) :
    inOrder regions preferred = regions := by
  unfold inOrder
  rw [List.filter_eq_nil_iff.2 (by simpa using h), List.filter_eq_self.2 (by simpa using h)]
  rfl

/-- The first region has the preferred name if any has. -/
lemma name_eq_preferred_iff {first : Region} {others : List Region}
    (h : inOrder regions preferred = first :: others) :
    first.name = preferred ↔ ∃ r ∈ regions, r.name = preferred := by
  constructor
  · intro hname
    have hmem : first ∈ inOrder regions preferred := h ▸ List.mem_cons_self
    exact ⟨first, (inOrder_perm regions preferred).mem_iff.1 hmem, hname⟩
  · rintro ⟨r, hr, hname⟩
    have hmem : r ∈ regions.filter (·.name = preferred) := List.mem_filter.2 ⟨hr, by simpa⟩
    obtain ⟨x, rest, hfilter⟩ := List.exists_cons_of_ne_nil (List.ne_nil_of_mem hmem)
    have hx : x ∈ regions.filter (·.name = preferred) := hfilter ▸ List.mem_cons_self
    unfold inOrder at h
    rw [hfilter, List.cons_append] at h
    rw [← (List.cons.inj h).1]
    simpa using (List.mem_filter.1 hx).2

end

/-! ### The first call -/

/-- The region is the first that is called: to generate a data key when a key is wrapped, and to
decrypt what is wrapped for it, if anything is, when one is unwrapped. -/
structure TriesFirst (service : KeyService) (r : Region) : Prop where
  wrap : ∀ (k : Key) (e : Environment), ∃ later,
    ((service.wrap k).outcome e).2.calls = e.calls ++ r.generateCall :: later
  unwrap : ∀ {blob wrapped : Bytes} {envelope : KeyEnvelope},
    KeyEnvelope.ofJson blob = .ok envelope → envelope.keyBytes = .ok wrapped →
      ∀ (created : Stamp) (revoked : Bool) (e : Environment), ∃ later,
        ((service.unwrap blob created revoked).outcome e).2.calls =
          e.calls ++ r.calls envelope ++ later

section

variable {first : Region} {others : List Region}

/-- The regions up to one of them begin with the first. -/
lemma exists_append_singleton_eq_cons {failed rest : List Region} {r : Region}
    (h : first :: others = failed ++ r :: rest) : ∃ later, failed ++ [r] = first :: later := by
  cases failed with
  | nil =>
    obtain ⟨rfl, -⟩ := List.cons.inj h
    exact ⟨[], rfl⟩
  | cons x failed =>
    obtain ⟨rfl, -⟩ := List.cons.inj h
    exact ⟨_, rfl⟩

lemma Originates.generateCall_first {failed rest : List Region} {r : Region} {d : DataKey}
    (h : Originates (first :: others) failed r rest d) (more : List Call) : ∃ later,
      (failed ++ [r]).map Region.generateCall ++ more = first.generateCall :: later := by
  obtain ⟨later, hlater⟩ := exists_append_singleton_eq_cons h.order
  exact ⟨_, by rw [hlater, List.map_cons, List.cons_append]⟩

lemma Wrapping.generateCall_first {k : Key} {calls : List Call} {result : Except Error Bytes}
    (h : Wrapping (first :: others) k calls result) :
    ∃ later, calls = first.generateCall :: later := by
  cases h with
  | noneGenerates => exact ⟨_, rfl⟩
  | unusable originates =>
    rw [← List.append_nil (List.map _ _)]
    exact originates.generateCall_first []
  | refused originates => exact originates.generateCall_first _
  | wrapped originates => exact originates.generateCall_first _

lemma Tried.starts {unwraps? : Region → Option Key} {tried : List Region}
    {result : Except Error Key} (h : Tried unwraps? (first :: others) tried result) :
    ∃ later, tried = first :: later := by
  cases h with
  | found failed r untried key order => exact exists_append_singleton_eq_cons order
  | inVain => exact ⟨others, rfl⟩

lemma outcome_unwrap_regional {regions : List Region} {blob wrapped : Bytes}
    {envelope : KeyEnvelope} (hjson : KeyEnvelope.ofJson blob = .ok envelope)
    (hbytes : envelope.keyBytes = .ok wrapped) (created : Stamp) (revoked : Bool)
    (e : Environment) :
    ((KeyService.regional regions).unwrap blob created revoked).outcome e =
      (unwrapAny envelope wrapped created revoked regions).outcome e := by
  show (unwrapRegional regions _ _ _).outcome e = _
  unfold unwrapRegional
  rw [hjson]
  show (Action.ofExcept envelope.keyBytes >>= _ : Effect Key).outcome e = _
  rw [hbytes]
  rfl

/-- **The head** of the regions is called first. -/
lemma triesFirst_regional (first : Region) (others : List Region) :
    (KeyService.regional (first :: others)).TriesFirst first where
  wrap k e := by
    obtain ⟨calls, hwrapping, hcalls⟩ := (yields_wrapRegional_calls (first :: others) k e).outcome
      (P := fun result (e' : Environment) => ∃ calls,
        Wrapping (first :: others) k calls result ∧ e'.calls = e.calls ++ calls)
    obtain ⟨later, rfl⟩ := hwrapping.generateCall_first
    exact ⟨later, hcalls⟩
  unwrap := by
    intro blob wrapped envelope hjson hbytes created revoked e
    obtain ⟨tried, htried, hcalls⟩ := (yields_unwrapAny (first :: others) e).outcome
      (P := fun result (e' : Environment) => ∃ tried,
        Tried (·.unwraps? envelope wrapped created revoked) (first :: others) tried result ∧
          e'.calls = e.calls ++ tried.flatMap (·.calls envelope))
    obtain ⟨later, rfl⟩ := htried.starts
    refine ⟨later.flatMap (·.calls envelope), ?_⟩
    rw [outcome_unwrap_regional hjson hbytes, hcalls, List.flatMap_cons, List.append_assoc]

end

end KeyService

namespace Trial

open KeyService

variable {settings : Settings}

/-- Keys are wrapped in the regions of the list, in the order they are tried. -/
lemma keyService_eq_inOrder {keys : List RegionKey} {preferred : String}
    (hs : settings.masterKeySource = .regions) (hkeys : settings.regionKeyList = .ok keys)
    (hpreferred : settings.preferredRegion = some preferred)
    (client : RegionKey → RegionClient) (now : Time) :
    keyService settings client now =
      .ok (.regional (inOrder (keys.map (·.reached client)) preferred)) := by
  obtain ⟨text, htext⟩ := Settings.exists_listOfText hkeys
  have hne : keys ≠ [] := ne_nil_of_listOfText htext
  unfold keyService
  rw [hs, hkeys]
  show (settings.regionalService client keys).mapError Fault.regions = _
  unfold Settings.regionalService KeyService.ofRegions
  rw [if_neg (by simpa using hne), hpreferred]
  rfl

/-- **The preferred region** of settings that pass the check is tried first if and only if it is,
letter for letter, the name of a region of the list. In any case the service has exactly the regions
of the list, each as often as it is listed; those of the preferred name keep their order, and so do
the others. -/
theorem preferred_region_first_iff (h : settings.check = .ok ())
    (hs : settings.masterKeySource = .regions) (client : RegionKey → RegionClient) (now : Time) :
    ∃ keys preferred first others, settings.regionKeyList = .ok keys ∧
      settings.preferredRegion = some preferred ∧
      keyService settings client now = .ok (.regional (first :: others)) ∧
      (first :: others).Perm (keys.map (·.reached client)) ∧
      (first :: others).filter (·.name = preferred) =
        (keys.filter (·.region = preferred)).map (·.reached client) ∧
      (first :: others).filter (·.name ≠ preferred) =
        (keys.filter (·.region ≠ preferred)).map (·.reached client) ∧
      (KeyService.regional (first :: others)).TriesFirst first ∧
      (first.name = preferred ↔ ∃ k ∈ keys, k.region = preferred) := by
  obtain ⟨keys, preferred, hkeys, hpreferred⟩ := Settings.preferred_of_check h hs
  have hservice := keyService_eq_inOrder hs hkeys hpreferred client now
  have hperm := inOrder_perm (keys.map (·.reached client)) preferred
  obtain ⟨text, htext⟩ := Settings.exists_listOfText hkeys
  obtain ⟨first, others, horder⟩ :
      ∃ first others, inOrder (keys.map (·.reached client)) preferred = first :: others := by
    refine List.exists_cons_of_ne_nil fun hnil => ne_nil_of_listOfText htext ?_
    rw [hnil] at hperm
    exact List.map_eq_nil_iff.1 hperm.nil_eq.symm
  refine ⟨keys, preferred, first, others, hkeys, hpreferred, horder ▸ hservice, horder ▸ hperm,
    ?_, ?_, triesFirst_regional first others, ?_⟩
  · rw [← horder, filter_inOrder, List.filter_map]
    rfl
  · rw [← horder, filter_ne_inOrder, List.filter_map]
    rfl
  · rw [name_eq_preferred_iff horder]
    simp [RegionKey.reached]

/-- Two regions are listed. -/
def inTwoRegions (preferred : String) : Settings where
  __ := standard
  masterKeySource := .regions
  regionKeys := some "us-east-1=arn:east,us-west-2=arn:west"
  preferredRegion := some preferred

/-- The second of two regions is preferred. -/
theorem second_region_first :
    (inTwoRegions "us-west-2").check = .ok () ∧
      (inTwoRegions "us-west-2").masterKeySource = .regions ∧
      ∃ first others, keyService (inTwoRegions "us-west-2") (fun _ => .unreachable)
          Clock.epoch.wall = .ok (.regional (first :: others)) ∧
        (KeyService.regional (first :: others)).TriesFirst first ∧ first.name = "us-west-2" := by
  have hcheck : (inTwoRegions "us-west-2").check = .ok () := rfl
  have hs : (inTwoRegions "us-west-2").masterKeySource = .regions := rfl
  obtain ⟨keys, preferred, first, others, hkeys, hpreferred, hservice, -, -, -, hfirst, hname⟩ :=
    preferred_region_first_iff hcheck hs (fun _ => .unreachable) Clock.epoch.wall
  obtain rfl : keys = [⟨"us-east-1", "arn:east"⟩, ⟨"us-west-2", "arn:west"⟩] :=
    (Except.ok.inj hkeys).symm
  obtain rfl : preferred = "us-west-2" := (Option.some.inj hpreferred).symm
  have hlisted : (⟨"us-west-2", "arn:west"⟩ : RegionKey) ∈
      [⟨"us-east-1", "arn:east"⟩, ⟨"us-west-2", "arn:west"⟩] := by simp
  exact ⟨hcheck, hs, first, others, hservice, hfirst, hname.2 ⟨_, hlisted, rfl⟩⟩

/-- **Blanks around the preferred name** are part of it, and no name of a list has any: all regions
are tried in the order of the list. -/
theorem padded_region_ignored {keys : List RegionKey} {preferred : String}
    (hs : settings.masterKeySource = .regions) (hkeys : settings.regionKeyList = .ok keys)
    (hpreferred : settings.preferredRegion = some preferred)
    (hpadded : ¬ Text.Trimmed preferred.toList) (client : RegionKey → RegionClient) (now : Time) :
    keyService settings client now = .ok (.regional (keys.map (·.reached client))) := by
  have hne := Settings.region_ne_of_not_trimmed hkeys hpadded
  rw [keyService_eq_inOrder hs hkeys hpreferred, inOrder_of_forall_ne]
  exact List.forall_mem_map.2 hne

/-- With a blank before the name of the preferred one, the settings pass the check, and the other is
called first. -/
theorem spaced_region_not_first :
    (inTwoRegions " us-west-2").check = .ok () ∧
      (inTwoRegions " us-west-2").masterKeySource = .regions ∧
      ∃ first others, keyService (inTwoRegions " us-west-2") (fun _ => .unreachable)
          Clock.epoch.wall = .ok (.regional (first :: others)) ∧
        (KeyService.regional (first :: others)).TriesFirst first ∧ first.name = "us-east-1" ∧
        (inTwoRegions " us-west-2").preferredRegion ≠ some first.name := by
  have hservice : keyService (inTwoRegions " us-west-2") (fun _ => .unreachable)
      Clock.epoch.wall = .ok (.regional [⟨"us-east-1", "arn:east", .unreachable⟩,
        ⟨"us-west-2", "arn:west", .unreachable⟩]) := rfl
  exact ⟨rfl, rfl, _, _, hservice, triesFirst_regional _ _, rfl, by decide⟩

end Trial

end Envelope
