import Mathlib.Data.List.DropRight
import Envelope.Proofs.SetUp

/-!
Lists of regions and their master keys are read exactly.

A list has many spellings: blanks may stand around every part, and blank segments anywhere. Main
statement: a text is read as a list just if it spells the list and every pair of it is plain, and a
text is refused just if no segment says anything or some segment that does is malformed. So reading
takes nothing off a pair and makes nothing up, and what it gives is read back from any of its
spellings.
-/

namespace Envelope

/-! ### Blanks -/

namespace Text

def AllBlank (cs : List Char) : Prop := ∀ c ∈ cs, IsBlank c

instance (cs : List Char) : Decidable (AllBlank cs) :=
  inferInstanceAs (Decidable (∀ c ∈ cs, IsBlank c))

/-- There is no blank at either end. -/
def Trimmed (cs : List Char) : Prop :=
  (∀ c ∈ cs.head?, ¬ IsBlank c) ∧ ∀ c ∈ cs.getLast?, ¬ IsBlank c

/-- The second text is the first with blanks around it. -/
def Pads (cs padded : List Char) : Prop :=
  ∃ left right, AllBlank left ∧ AllBlank right ∧ padded = left ++ cs ++ right

variable {cs padded : List Char}

lemma allBlank_nil : AllBlank [] := fun _ h => nomatch h

lemma AllBlank.append {bs : List Char} (h : AllBlank cs) (h' : AllBlank bs) :
    AllBlank (cs ++ bs) := List.forall_mem_append.2 ⟨h, h'⟩

lemma AllBlank.notMem {c : Char} (h : AllBlank cs) (hc : ¬ IsBlank c) : c ∉ cs :=
  fun hmem => hc (h c hmem)

lemma Pads.notMem {c : Char} (h : Pads cs padded) (hc : ¬ IsBlank c) (hmem : c ∉ cs) :
    c ∉ padded := by
  obtain ⟨left, right, hleft, hright, rfl⟩ := h
  simp [hleft.notMem hc, hright.notMem hc, hmem]

lemma dropWhile_eq_self {bs : List Char} (h : ∀ c ∈ bs.head?, ¬ IsBlank c) :
    bs.dropWhile (IsBlank ·) = bs := by
  cases bs with
  | nil => rfl
  | cons c bs => exact List.dropWhile_cons_of_neg (by simpa using h)

lemma dropWhile_append_allBlank {left : List Char} (h : AllBlank left) (bs : List Char) :
    (left ++ bs).dropWhile (IsBlank ·) = bs.dropWhile (IsBlank ·) :=
  List.dropWhile_append_of_pos fun c hc => decide_eq_true (h c hc)

/-- Blanks around a text without blanks at its ends are all that trimming takes away. -/
lemma trim_of_pads (h : Trimmed cs) (hp : Pads cs padded) : trim padded = cs := by
  obtain ⟨left, right, hleft, hright, rfl⟩ := hp
  have hreverse : AllBlank right.reverse := fun c hc => hright c (List.mem_reverse.1 hc)
  have hlast : ∀ c ∈ cs.reverse.head?, ¬ IsBlank c := by
    rw [List.head?_reverse]
    exact h.2
  unfold trim
  rw [List.append_assoc, dropWhile_append_allBlank hleft]
  cases cs with
  | nil =>
    rw [List.nil_append, List.dropWhile_eq_nil_iff.2 fun c hc => decide_eq_true (hright c hc)]
    rfl
  | cons c cs =>
    have hfront : (c :: cs ++ right).dropWhile (IsBlank ·) = c :: cs ++ right :=
      dropWhile_eq_self h.1
    rw [hfront, List.reverse_append, dropWhile_append_allBlank hreverse, dropWhile_eq_self hlast,
      List.reverse_reverse]

lemma allBlank_takeWhile (cs : List Char) : AllBlank (cs.takeWhile (IsBlank ·)) :=
  fun c hc => by simpa using List.mem_takeWhile_imp hc

lemma not_isBlank_of_mem_head?_dropWhile {c : Char} (hc : c ∈ (cs.dropWhile (IsBlank ·)).head?) :
    ¬ IsBlank c := by
  have hhead := List.head?_dropWhile_not (IsBlank ·) cs
  rw [Option.mem_def.1 hc] at hhead
  simpa using hhead

lemma pads_trim (cs : List Char) : Pads (trim cs) cs := by
  refine ⟨cs.takeWhile (IsBlank ·), (cs.dropWhile (IsBlank ·)).rtakeWhile (IsBlank ·),
    allBlank_takeWhile cs, fun c hc => by simpa using List.mem_rtakeWhile_imp hc, ?_⟩
  show _ = _ ++ (cs.dropWhile (IsBlank ·)).rdropWhile (IsBlank ·) ++ _
  rw [List.append_assoc, List.rdropWhile_append_rtakeWhile, List.takeWhile_append_dropWhile]

lemma trimmed_trim (cs : List Char) : Trimmed (trim cs) := by
  constructor
  · intro c hc
    obtain ⟨rest, hrest⟩ : trim cs <+: cs.dropWhile (IsBlank ·) := List.rdropWhile_prefix _ _
    have hhead : c ∈ (cs.dropWhile (IsBlank ·)).head? := by
      rw [← hrest, List.head?_append, Option.mem_def.1 hc]
      rfl
    exact not_isBlank_of_mem_head?_dropWhile hhead
  · intro c hc
    unfold trim at hc
    rw [List.getLast?_reverse] at hc
    exact not_isBlank_of_mem_head?_dropWhile hc

lemma trim_eq_iff : trim padded = cs ↔ Trimmed cs ∧ Pads cs padded := by
  constructor
  · rintro rfl
    exact ⟨trimmed_trim padded, pads_trim padded⟩
  · rintro ⟨h, hp⟩
    exact trim_of_pads h hp

lemma trim_eq_nil_iff : trim cs = [] ↔ AllBlank cs := by
  rw [trim_eq_iff]
  constructor
  · rintro ⟨-, left, right, hleft, hright, rfl⟩
    rw [List.append_nil]
    exact hleft.append hright
  · intro h
    exact ⟨⟨by simp, by simp⟩, cs, [], h, allBlank_nil, by simp⟩

lemma mem_of_mem_trim {c : Char} (h : c ∈ trim cs) : c ∈ cs := by
  obtain ⟨left, right, -, -, hcs⟩ := pads_trim cs
  rw [hcs]
  exact List.mem_append_left _ (List.mem_append_right _ h)

lemma trim_padded {left right : List Char} (hleft : AllBlank left) (hright : AllBlank right)
    (cs : List Char) : trim (left ++ cs ++ right) = trim cs := by
  obtain ⟨l, r, hl, hr, hcs⟩ := pads_trim cs
  refine trim_of_pads (trimmed_trim cs) ⟨left ++ l, r ++ right, hleft.append hl,
    hr.append hright, ?_⟩
  conv_lhs => rw [hcs]
  simp only [List.append_assoc]

lemma exists_allBlank_append (cs : List Char) :
    ∃ left rest, AllBlank left ∧ cs = left ++ rest ∧ ∀ c ∈ rest.head?, ¬ IsBlank c :=
  ⟨cs.takeWhile (IsBlank ·), cs.dropWhile (IsBlank ·), allBlank_takeWhile cs,
    List.takeWhile_append_dropWhile.symm, fun _ => not_isBlank_of_mem_head?_dropWhile⟩

/-- With a character in a text that is not blank, trimming takes blanks off what is before it and
off what is after it. -/
lemma exists_trim_append_cons {c : Char} (hc : ¬ IsBlank c) (before after : List Char) :
    ∃ front back, trim (before ++ c :: after) = front ++ c :: back ∧
      (∀ x ∈ front, x ∈ before) ∧ trim front = trim before ∧ trim back = trim after := by
  obtain ⟨left, front, hleft, rfl, hfront⟩ := exists_allBlank_append before
  obtain ⟨right, back, hright, hafter, hback⟩ := exists_allBlank_append after.reverse
  obtain rfl : after = back.reverse ++ right.reverse := by
    rw [← List.reverse_append, ← hafter, List.reverse_reverse]
  have hright : AllBlank right.reverse := fun x hx => hright x (List.mem_reverse.1 hx)
  refine ⟨front, back.reverse, trim_of_pads ⟨fun x hx => ?_, fun x hx => ?_⟩
    ⟨left, right.reverse, hleft, hright, by simp⟩, fun x => List.mem_append_right left, ?_, ?_⟩
  · cases front with
    | nil => exact Option.some.inj hx ▸ hc
    | cons y front => exact hfront x hx
  · cases back with
    | nil =>
      have hlast : c = x := by simpa using hx
      exact hlast ▸ hc
    | cons y back =>
      rw [List.reverse_cons, ← List.cons_append, ← List.append_assoc, List.getLast?_concat] at hx
      exact hback x hx
  · simpa using (trim_padded hleft allBlank_nil front).symm
  · simpa using (trim_padded allBlank_nil hright back.reverse).symm

end Text

namespace RegionKey

open Text

/-! ### Segments -/

/-- The parts of the pair are not empty, have no blanks at their ends and no comma inside, and the
region has no equals sign. -/
structure IsPlain (k : RegionKey) : Prop where
  region_ne : k.region ≠ ""
  region_trimmed : Trimmed k.region.toList
  region_comma : ',' ∉ k.region.toList
  region_equals : '=' ∉ k.region.toList
  arn_ne : k.arn ≠ ""
  arn_trimmed : Trimmed k.arn.toList
  arn_comma : ',' ∉ k.arn.toList

/-- The segment is the region and the master key with an equals sign between them, and blanks around
either. -/
def IsSpelledBy (k : RegionKey) (segment : List Char) : Prop :=
  ∃ region arn, Pads k.region.toList region ∧ Pads k.arn.toList arn ∧ segment = region ++ '=' :: arn

/-- There is no equals sign in the segment, or nothing but blanks on a side of the first. -/
def Malformed (segment : List Char) : Prop :=
  '=' ∉ segment ∨ ∃ region arn, segment = region ++ '=' :: arn ∧ '=' ∉ region ∧
    (AllBlank region ∨ AllBlank arn)

variable {region segment : List Char}

lemma ne_equals (h : '=' ∉ segment) : ∀ c ∈ segment, decide (c ≠ '=') = true := fun c hc => by
  simpa using fun he : c = '=' => h (he ▸ hc)

lemma takeWhile_append_equals (h : '=' ∉ region) (arn : List Char) :
    (region ++ '=' :: arn).takeWhile (· ≠ '=') = region := by
  rw [List.takeWhile_append_of_pos (ne_equals h)]
  simp

lemma dropWhile_append_equals (h : '=' ∉ region) (arn : List Char) :
    (region ++ '=' :: arn).dropWhile (· ≠ '=') = '=' :: arn := by
  rw [List.dropWhile_append_of_pos (ne_equals h)]
  simp

lemma malformed_append_equals_iff (h : '=' ∉ region) (arn : List Char) :
    Malformed (region ++ '=' :: arn) ↔ AllBlank region ∨ AllBlank arn := by
  constructor
  · rintro (hnone | ⟨region', arn', heq, h', hblank⟩)
    · exact absurd (by simp) hnone
    · have hregion := congrArg (List.takeWhile (· ≠ '=')) heq
      have harn := congrArg (List.dropWhile (· ≠ '=')) heq
      rw [takeWhile_append_equals h, takeWhile_append_equals h'] at hregion
      rw [dropWhile_append_equals h, dropWhile_append_equals h'] at harn
      rwa [hregion, (List.cons.inj harn).2]
  · exact fun hblank => Or.inr ⟨region, arn, rfl, h, hblank⟩

/-! ### Reading a segment -/

lemma ofSegment_trim_of_notMem (h : '=' ∉ segment) :
    ofSegment (trim segment) = .error (.notPair (String.ofList (trim segment))) := by
  unfold ofSegment
  rw [List.dropWhile_eq_nil_iff.2 (ne_equals fun hx => h (mem_of_mem_trim hx))]

/-- The first equals sign divides a segment, and both sides are trimmed. -/
lemma ofSegment_trim_append_equals (h : '=' ∉ region) (arn : List Char) :
    ofSegment (trim (region ++ '=' :: arn)) =
      if AllBlank region ∨ AllBlank arn then
        .error (.emptyPart (String.ofList (trim (region ++ '=' :: arn))))
      else .ok ⟨String.ofList (trim region), String.ofList (trim arn)⟩ := by
  obtain ⟨front, back, htrim, hfront, hregion, harn⟩ :=
    exists_trim_append_cons (c := '=') (by decide) region arn
  have hfront : '=' ∉ front := fun hx => h (hfront _ hx)
  unfold ofSegment
  rw [htrim, dropWhile_append_equals hfront, takeWhile_append_equals hfront]
  simp only [hregion, harn, trim_eq_nil_iff]

lemma exists_ofSegment_trim_iff (segment : List Char) :
    (∃ k, ofSegment (trim segment) = .ok k) ↔ ¬ Malformed segment := by
  by_cases hmem : '=' ∈ segment
  · obtain ⟨region, arn, rfl, h⟩ := List.eq_append_cons_of_mem hmem
    rw [ofSegment_trim_append_equals h, malformed_append_equals_iff h]
    split
    · next hblank => simp [hblank]
    · next hblank => simp [hblank]
  · rw [ofSegment_trim_of_notMem hmem]
    simp [Malformed, hmem]

/-- **A segment** without a comma gives the pair that it spells, if that is plain. -/
lemma ofSegment_trim_eq_ok_iff {k : RegionKey} (hcomma : ',' ∉ segment) :
    ofSegment (trim segment) = .ok k ↔ k.IsPlain ∧ k.IsSpelledBy segment := by
  constructor
  · intro h
    by_cases hmem : '=' ∈ segment
    · obtain ⟨region, arn, rfl, hregion⟩ := List.eq_append_cons_of_mem hmem
      obtain ⟨hcomma, harn⟩ := not_or.1 (List.mem_append.not.1 hcomma)
      rw [ofSegment_trim_append_equals hregion] at h
      split at h
      · cases h
      · next hblank =>
        obtain ⟨hblank, hblank'⟩ := not_or.1 hblank
        rw [← trim_eq_nil_iff] at hblank hblank'
        cases h
        refine ⟨⟨by simpa using hblank, ?_, ?_, ?_, by simpa using hblank', ?_, ?_⟩, region, arn,
          ?_, ?_, rfl⟩ <;> rw [String.toList_ofList]
        · exact trimmed_trim region
        · exact fun hx => hcomma (mem_of_mem_trim hx)
        · exact fun hx => hregion (mem_of_mem_trim hx)
        · exact trimmed_trim arn
        · exact fun hx => harn (List.mem_cons_of_mem _ (mem_of_mem_trim hx))
        · exact pads_trim region
        · exact pads_trim arn
    · rw [ofSegment_trim_of_notMem hmem] at h
      cases h
  · rintro ⟨hk, region, arn, hregion, harn, rfl⟩
    have hnotMem : '=' ∉ region := hregion.notMem (by decide) hk.region_equals
    have htrim := trim_of_pads hk.region_trimmed hregion
    have htrim' := trim_of_pads hk.arn_trimmed harn
    have hparts : ¬ (AllBlank region ∨ AllBlank arn) := by
      rw [← trim_eq_nil_iff, ← trim_eq_nil_iff, htrim, htrim']
      simp [hk.region_ne, hk.arn_ne]
    rw [ofSegment_trim_append_equals hnotMem, if_neg hparts, htrim, htrim', String.ofList_toList,
      String.ofList_toList]

lemma IsSpelledBy.notMem_comma {k : RegionKey} (h : k.IsSpelledBy segment) (hk : k.IsPlain) :
    ',' ∉ segment := by
  obtain ⟨region, arn, hregion, harn, rfl⟩ := h
  have hregion := hregion.notMem (c := ',') (by decide) hk.region_comma
  have harn := harn.notMem (c := ',') (by decide) hk.arn_comma
  simp [hregion, harn]

/-- A segment that spells a pair says something. -/
lemma IsSpelledBy.not_allBlank {k : RegionKey} (h : k.IsSpelledBy segment) :
    ¬ AllBlank segment := by
  obtain ⟨region, arn, -, -, rfl⟩ := h
  exact fun hblank => absurd (hblank '=' (by simp)) (by decide)

/-! ### Reading a list -/

/-- The segments spell the pairs in their order, and the rest of them are blank. -/
inductive Spell : List RegionKey → List (List Char) → Prop
  | nil : Spell [] []
  | blank {keys : List RegionKey} {segment : List Char} {segments : List (List Char)} :
    AllBlank segment → Spell keys segments → Spell keys (segment :: segments)
  | pair {k : RegionKey} {keys : List RegionKey} {segment : List Char}
      {segments : List (List Char)} :
    k.IsSpelledBy segment → Spell keys segments → Spell (k :: keys) (segment :: segments)

/-- The text is segments that spell the pairs, with commas between them. -/
def Renders (keys : List RegionKey) (text : String) : Prop :=
  ∃ segments, Spell keys segments ∧ text.toList = [','].intercalate segments

/-- The list with nothing around its parts. -/
def render (keys : List RegionKey) : String :=
  ",".intercalate (keys.map fun k => k.region ++ "=" ++ k.arn)

variable {keys : List RegionKey} {segments : List (List Char)}

lemma Spell.notMem_comma (h : Spell keys segments) (hk : ∀ k ∈ keys, k.IsPlain) :
    ∀ segment ∈ segments, ',' ∉ segment := by
  induction h with
  | nil => exact fun segment hmem => nomatch hmem
  | blank hblank _ ih =>
    exact List.forall_mem_cons.2 ⟨hblank.notMem (by decide), ih hk⟩
  | pair hpair _ ih =>
    obtain ⟨hk, hkeys⟩ := List.forall_mem_cons.1 hk
    exact List.forall_mem_cons.2 ⟨hpair.notMem_comma hk, ih hkeys⟩

lemma spell_cons_of_allBlank (h : AllBlank segment) :
    Spell keys (segment :: segments) ↔ Spell keys segments := by
  constructor
  · rintro (_ | ⟨-, hrest⟩ | ⟨hpair, -⟩)
    · exact hrest
    · exact absurd h hpair.not_allBlank
  · exact Spell.blank h

lemma spell_cons_of_not_allBlank (h : ¬ AllBlank segment) :
    Spell keys (segment :: segments) ↔
      ∃ k rest, keys = k :: rest ∧ k.IsSpelledBy segment ∧ Spell rest segments := by
  constructor
  · rintro (_ | ⟨hblank, -⟩ | ⟨hpair, hrest⟩)
    · exact absurd hblank h
    · exact ⟨_, _, rfl, hpair, hrest⟩
  · rintro ⟨k, rest, rfl, hpair, hrest⟩
    exact .pair hpair hrest

lemma notMem_of_mem_splitOn {c : Char} {cs : List Char} (h : segment ∈ cs.splitOn c) :
    c ∉ segment := by
  induction cs generalizing segment with
  | nil =>
    obtain rfl : segment = [] := by simpa using h
    exact List.not_mem_nil
  | cons x cs ih =>
    rw [List.splitOn_cons_eq_if_modifyHead] at h
    split at h
    · rcases List.mem_cons.1 h with rfl | h
      · exact List.not_mem_nil
      · exact ih h
    · next hx =>
      -- The character belongs to the first piece of what comes after it.
      obtain ⟨first, rest, hsplit⟩ := List.exists_cons_of_ne_nil (List.splitOn_ne_nil c cs)
      rw [hsplit] at h ih
      rcases List.mem_cons.1 h with rfl | h
      · have hne : c ≠ x := fun he => hx (by simp [he])
        exact List.mem_cons.not.2 (not_or.2 ⟨hne, ih List.mem_cons_self⟩)
      · exact ih (List.mem_cons_of_mem _ h)

/-- The pairs that segments give, blank ones left out. -/
def ofSegments (segments : List (List Char)) : Except RegionKeyFault (List RegionKey) :=
  ((segments.map trim).filter (· ≠ [])).mapM ofSegment

lemma ofSegments_cons_of_allBlank (h : AllBlank segment) (segments : List (List Char)) :
    ofSegments (segment :: segments) = ofSegments segments := by
  unfold ofSegments
  rw [List.map_cons, List.filter_cons_of_neg (by simpa using trim_eq_nil_iff.2 h)]

lemma ofSegments_cons_of_not_allBlank (h : ¬ AllBlank segment) (segments : List (List Char)) :
    ofSegments (segment :: segments) = (do
      let k ← ofSegment (trim segment)
      let keys ← ofSegments segments
      return k :: keys) := by
  unfold ofSegments
  rw [List.map_cons, List.filter_cons_of_pos (by simpa using trim_eq_nil_iff.not.2 h),
    List.mapM_cons]

/-- **Segments** without commas give the pairs that they spell, if all are plain. -/
lemma ofSegments_eq_ok_iff (h : ∀ segment ∈ segments, ',' ∉ segment) :
    ofSegments segments = .ok keys ↔ (∀ k ∈ keys, k.IsPlain) ∧ Spell keys segments := by
  induction segments generalizing keys with
  | nil =>
    constructor
    · intro hkeys
      cases hkeys
      exact ⟨by simp, .nil⟩
    · rintro ⟨-, hspell⟩
      cases hspell
      rfl
  | cons segment segments ih =>
    obtain ⟨hcomma, h⟩ := List.forall_mem_cons.1 h
    by_cases hblank : AllBlank segment
    -- A blank segment counts on neither side; another one has to be the first pair on both.
    · rw [ofSegments_cons_of_allBlank hblank, spell_cons_of_allBlank hblank, ih h]
    · rw [ofSegments_cons_of_not_allBlank hblank, spell_cons_of_not_allBlank hblank]
      constructor
      · intro hkeys
        obtain ⟨k, hk, hkeys⟩ := Except.bind_eq_ok_iff.1 hkeys
        obtain ⟨rest, hrest, hkeys⟩ := Except.bind_eq_ok_iff.1 hkeys
        cases hkeys
        obtain ⟨hplain, hpair⟩ := (ofSegment_trim_eq_ok_iff hcomma).1 hk
        obtain ⟨hplains, hspell⟩ := (ih h).1 hrest
        exact ⟨List.forall_mem_cons.2 ⟨hplain, hplains⟩, k, rest, rfl, hpair, hspell⟩
      · rintro ⟨hplains, k, rest, rfl, hpair, hspell⟩
        obtain ⟨hplain, hplains⟩ := List.forall_mem_cons.1 hplains
        rw [(ofSegment_trim_eq_ok_iff hcomma).2 ⟨hplain, hpair⟩, (ih h).2 ⟨hplains, hspell⟩]
        rfl

lemma exists_ofSegments_iff (segments : List (List Char)) :
    (∃ keys, ofSegments segments = .ok keys) ↔
      ∀ segment ∈ segments, ¬ AllBlank segment → ¬ Malformed segment := by
  induction segments with
  | nil => exact ⟨by simp, fun _ => ⟨[], rfl⟩⟩
  | cons segment segments ih =>
    rw [List.forall_mem_cons, ← ih]
    by_cases hblank : AllBlank segment
    · rw [ofSegments_cons_of_allBlank hblank]
      simp [hblank]
    · rw [ofSegments_cons_of_not_allBlank hblank, ← exists_ofSegment_trim_iff]
      constructor
      · rintro ⟨keys, hkeys⟩
        obtain ⟨k, hk, hkeys⟩ := Except.bind_eq_ok_iff.1 hkeys
        obtain ⟨rest, hrest, -⟩ := Except.bind_eq_ok_iff.1 hkeys
        exact ⟨fun _ => ⟨k, hk⟩, rest, hrest⟩
      · rintro ⟨hk, rest, hrest⟩
        obtain ⟨k, hk⟩ := hk hblank
        rw [hk, hrest]
        exact ⟨k :: rest, rfl⟩

lemma listOfText_eq (text : String) : listOfText text = (do
    let keys ← ofSegments (text.toList.splitOn ',')
    if keys = [] then throw .noRegion else return keys) := rfl

lemma listOfText_eq_ok_iff_ofSegments {text : String} :
    listOfText text = .ok keys ↔
      keys ≠ [] ∧ ofSegments (text.toList.splitOn ',') = .ok keys := by
  rw [listOfText_eq]
  constructor
  · intro h
    obtain ⟨keys', hkeys, h⟩ := Except.bind_eq_ok_iff.1 h
    split at h
    · cases h
    · next hne =>
      cases h
      exact ⟨hne, hkeys⟩
  · rintro ⟨hne, hkeys⟩
    rw [hkeys]
    exact if_neg hne

/-- **A text** is read as the list that it renders, if that is not empty and all its pairs are
plain. -/
theorem listOfText_eq_ok_iff {text : String} :
    listOfText text = .ok keys ↔ keys ≠ [] ∧ (∀ k ∈ keys, k.IsPlain) ∧ Renders keys text := by
  rw [listOfText_eq_ok_iff_ofSegments,
    ofSegments_eq_ok_iff fun segment hmem => notMem_of_mem_splitOn hmem]
  refine and_congr_right fun hne => and_congr_right fun hk => ?_
  constructor
  · exact fun hspell => ⟨_, hspell, (List.intercalate_splitOn ',').symm⟩
  · rintro ⟨segments, hspell, htext⟩
    have hsegments : segments ≠ [] := by
      rintro rfl
      cases hspell
      exact hne rfl
    -- Plain pairs have no comma inside, so that the segments are found again.
    rwa [htext, List.splitOn_intercalate ',' (hspell.notMem_comma hk) hsegments]

lemma spell_render (keys : List RegionKey) :
    Spell keys (keys.map fun k => (k.region ++ "=" ++ k.arn).toList) := by
  induction keys with
  | nil => exact .nil
  | cons k keys ih =>
    refine .pair ⟨k.region.toList, k.arn.toList, ⟨[], [], allBlank_nil, allBlank_nil, by simp⟩,
      ⟨[], [], allBlank_nil, allBlank_nil, by simp⟩, by simp⟩ ih

lemma renders_render (keys : List RegionKey) : Renders keys (render keys) := by
  refine ⟨_, spell_render keys, ?_⟩
  unfold render
  rw [String.toList_intercalate, List.map_map]
  rfl

lemma spell_nil_iff : Spell [] segments ↔ ∀ segment ∈ segments, AllBlank segment := by
  constructor
  · intro h
    generalize hkeys : ([] : List RegionKey) = keys at h
    induction h with
    | nil => simp
    | blank hblank _ ih => exact List.forall_mem_cons.2 ⟨hblank, ih hkeys⟩
    | pair => cases hkeys
  · intro h
    induction segments with
    | nil => exact .nil
    | cons segment segments ih =>
      obtain ⟨hblank, h⟩ := List.forall_mem_cons.1 h
      exact .blank hblank (ih h)

/-- **A text is refused** just if no segment says anything, or one that does is malformed. -/
theorem exists_listOfText_error_iff {text : String} :
    (∃ fault, listOfText text = .error fault) ↔
      (∀ segment ∈ text.toList.splitOn ',', AllBlank segment) ∨
        ∃ segment ∈ text.toList.splitOn ',', ¬ AllBlank segment ∧ Malformed segment := by
  have hnil : ofSegments (text.toList.splitOn ',') = .ok [] ↔
      ∀ segment ∈ text.toList.splitOn ',', AllBlank segment := by
    rw [ofSegments_eq_ok_iff fun segment hmem => notMem_of_mem_splitOn hmem, spell_nil_iff]
    simp
  have hok := exists_ofSegments_iff (text.toList.splitOn ',')
  rw [← hnil]
  cases hkeys : ofSegments (text.toList.splitOn ',') with
  | error fault =>
    have hread : listOfText text = .error fault := by
      rw [listOfText_eq, hkeys]
      rfl
    refine iff_of_true ⟨fault, hread⟩ (Or.inr ?_)
    by_contra hnone
    push Not at hnone
    obtain ⟨keys, hkeys'⟩ := hok.2 hnone
    rw [hkeys] at hkeys'
    cases hkeys'
  | ok keys =>
    by_cases hempty : keys = []
    · subst hempty
      have hread : listOfText text = .error .noRegion := by
        rw [listOfText_eq, hkeys]
        rfl
      exact iff_of_true ⟨.noRegion, hread⟩ (Or.inl rfl)
    · rw [listOfText_eq_ok_iff_ofSegments.2 ⟨hempty, hkeys⟩]
      refine iff_of_false (fun ⟨fault, hfault⟩ => nomatch hfault)
        (not_or.2 ⟨fun h => hempty (Except.ok.inj h), ?_⟩)
      rintro ⟨segment, hmem, hblank, hmalformed⟩
      exact hok.1 ⟨keys, hkeys⟩ segment hmem hblank hmalformed

end RegionKey

/-- **The list of regions** in settings is read exactly. All renderings of a list that is not empty
and has only plain pairs give that list, and there is no other way to be accepted: what is accepted
can be rendered and read again. What is refused has only blank segments, or a malformed one. -/
theorem Settings.regionKeyList_exact (s : Settings) (text : String) :
    (∀ keys, { s with regionKeys := some text }.regionKeyList = .ok keys ↔
      keys ≠ [] ∧ (∀ k ∈ keys, k.IsPlain) ∧ RegionKey.Renders keys text) ∧
    (∀ keys, { s with regionKeys := some text }.regionKeyList = .ok keys →
      { s with regionKeys := some (RegionKey.render keys) }.regionKeyList = .ok keys) ∧
    ((∃ fault, { s with regionKeys := some text }.regionKeyList = .error fault) ↔
      (∀ segment ∈ text.toList.splitOn ',', Text.AllBlank segment) ∨
        ∃ segment ∈ text.toList.splitOn ',',
          ¬ Text.AllBlank segment ∧ RegionKey.Malformed segment) := by
  refine ⟨fun keys => RegionKey.listOfText_eq_ok_iff, fun keys h => ?_,
    RegionKey.exists_listOfText_error_iff⟩
  obtain ⟨hne, hplain, -⟩ := RegionKey.listOfText_eq_ok_iff.1 h
  exact RegionKey.listOfText_eq_ok_iff.2 ⟨hne, hplain, RegionKey.renders_render keys⟩

example : RegionKey.listOfText " us-east-1 = arn:a=1,, ,\tus-west-2=arn:b," =
    .ok [⟨"us-east-1", "arn:a=1"⟩, ⟨"us-west-2", "arn:b"⟩] := by
  rfl

end Envelope
