import Mathlib.Order.Bounds.Defs
import Mathlib.Tactic.Common
import Envelope.Policy

/-!
Instants cut down to a step.

A cut instant is never later, cuts keep the order of instants, and one cut to the minute is less
than a minute earlier. Main statement: a cut is a floor, to the last multiple of the step where that
is a legal time and to the last whole second otherwise.
-/

namespace Envelope

namespace Time

lemma stamp_time_le (t : Time) : t.stamp.time ≤ t := by
  simp only [Time.le_iff, Stamp.time, stamp, seconds]
  omega

/-- **Cutting an instant down** never makes it later. -/
theorem floorTo_time_le (t : Time) (precision : Duration) : (t.floorTo precision).time ≤ t := by
  unfold floorTo
  dsimp only
  split
  · exact t.stamp_time_le
  · next hstep =>
    cases hs : Stamp.ofSeconds? (t.seconds - t.seconds %
        (precision.seconds : Int).bmod 18446744073709551616) with
    | none => exact t.stamp_time_le
    | some s =>
      have hs := Stamp.ofSeconds?_eq_some_iff.1 hs
      have hmod := Int.emod_nonneg t.seconds (show
        (precision.seconds : Int).bmod 18446744073709551616 ≠ 0 by omega)
      have hle : s.seconds ≤ t.seconds := by omega
      have ht := t.stamp_time_le
      simp only [Time.le_iff, Stamp.time, stamp, Option.getD_some] at ht ⊢
      omega

lemma floorTo_of_nonpos (t : Time) {precision : Duration} {step : Int}
    (hstep : (precision.seconds : Int).bmod 18446744073709551616 = step) (h : step ≤ 0) :
    t.floorTo precision = t.stamp := by
  subst hstep
  unfold floorTo
  exact if_pos h

lemma floorTo_of_pos (t : Time) {precision : Duration} {step : Int}
    (hstep : (precision.seconds : Int).bmod 18446744073709551616 = step) (h : 0 < step) :
    t.floorTo precision =
      (Stamp.ofSeconds? (t.seconds - t.seconds % step)).getD t.stamp := by
  subst hstep
  unfold floorTo
  exact if_neg (Int.not_le.2 h)

/-- The last multiple of a step is legal unless it is before the first legal second. -/
lemma seconds_multiple (t : Time) {step : Int} (h : 0 < step) :
    ((Stamp.ofSeconds? (t.seconds - t.seconds % step)).getD t.stamp).seconds =
        t.seconds - t.seconds % step ∨
      ((Stamp.ofSeconds? (t.seconds - t.seconds % step)).getD t.stamp).seconds = t.seconds ∧
        t.seconds - t.seconds % step < -8334601228800 := by
  have hmod := Int.emod_nonneg t.seconds (Int.ne_of_gt h)
  have hend := t.stamp.lt_end
  simp only [stamp] at hend
  unfold Stamp.ofSeconds?
  split
  · exact Or.inl rfl
  · exact Or.inr ⟨rfl, by omega⟩

/-- **Cutting instants down** keeps their order. -/
theorem floorTo_mono {a b : Time} (h : a ≤ b) (precision : Duration) :
    (a.floorTo precision).time ≤ (b.floorTo precision).time := by
  have hsec : a.seconds ≤ b.seconds := by
    rw [Time.le_iff] at h
    simp only [seconds]
    omega
  suffices hs : (a.floorTo precision).seconds ≤ (b.floorTo precision).seconds by
    simp only [Time.le_iff, Stamp.time]
    omega
  obtain ⟨step, hstep⟩ : ∃ step, (precision.seconds : Int).bmod 18446744073709551616 = step :=
    ⟨_, rfl⟩
  rcases Int.lt_or_le 0 step with hpos | hle
  · rw [a.floorTo_of_pos hstep hpos, b.floorTo_of_pos hstep hpos]
    have ha := a.seconds_multiple hpos
    have hb := b.seconds_multiple hpos
    have hfirst := ((Stamp.ofSeconds? (b.seconds - b.seconds % step)).getD b.stamp).first_le
    have hmod := Int.emod_lt_of_pos a.seconds hpos
    -- the two multiples of the step are equal or at least a step apart
    have hmul : a.seconds - a.seconds % step = b.seconds - b.seconds % step ∨
        a.seconds - a.seconds % step + step ≤ b.seconds - b.seconds % step := by
      simp only [Int.emod_def, Int.sub_sub_self]
      rcases Int.le_iff_eq_or_lt.1 (Int.ediv_le_ediv hpos hsec) with heq | hlt
      · exact Or.inl (by rw [heq])
      · refine Or.inr ?_
        have := Int.mul_le_mul_of_nonneg_left (Int.add_one_le_of_lt hlt) (Int.le_of_lt hpos)
        rwa [Int.mul_add, Int.mul_one] at this
    omega
  · rw [a.floorTo_of_nonpos hstep hle, b.floorTo_of_nonpos hstep hle]
    exact hsec

lemma floorTo_minute (t : Time) :
    (t.floorTo (.ofMinutes 1)).seconds = t.seconds - t.seconds % 60 := by
  have hstep : ((Duration.ofMinutes 1).seconds : Int).bmod 18446744073709551616 = 60 := by decide
  have hfirst := t.stamp.first_le
  have hend := t.stamp.lt_end
  simp only [stamp] at hfirst hend
  unfold floorTo
  dsimp only
  rw [hstep, if_neg (by decide), Stamp.ofSeconds?, dif_pos ⟨by omega, by omega⟩]
  rfl

/-- An instant is less than a minute after the minute it is cut down to. -/
lemma lt_floorTo_minute (t : Time) :
    t.nanos < (t.floorTo (.ofMinutes 1)).time.nanos + 60000000000 := by
  simp only [Stamp.time, floorTo_minute, seconds]
  omega

end Time

lemma Policy.intermediateStamp_le (p : Policy) (now : Time) :
    (p.intermediateStamp now).time.nanos ≤ now.nanos :=
  Time.le_iff.1 (Time.floorTo_time_le now p.intermediatePrecision)

lemma Duration.nanos_ofMinutes (minutes : UInt32) :
    (Duration.ofMinutes minutes).nanos = minutes.toNat * 60000000000 := rfl

/-! ### Cuts as floors -/

/-- The number fits into 64 bits with a sign. -/
def IsWord (n : Int) : Prop := Int64.minValue.toInt ≤ n ∧ n ≤ Int64.maxValue.toInt

lemma isWord_iff {n : Int} : IsWord n ↔ -9223372036854775808 ≤ n ∧ n ≤ 9223372036854775807 :=
  Iff.rfl

/-- The last multiple of a step up to a number. -/
lemma isGreatest_multiple (n : Int) {step : Int} (h : 0 < step) :
    IsGreatest {m | step ∣ m ∧ m ≤ n} (n - n % step) := by
  have hnonneg := Int.emod_nonneg n (Int.ne_of_gt h)
  refine ⟨⟨Int.dvd_self_sub_emod, Int.sub_le_self n hnonneg⟩, fun m hm => ?_⟩
  obtain ⟨⟨k, rfl⟩, hle⟩ := hm
  have hk : k ≤ n / step := (Int.le_ediv_iff_mul_le h).2 (by rwa [Int.mul_comm])
  calc step * k ≤ step * (n / step) := Int.mul_le_mul_of_nonneg_left hk (Int.le_of_lt h)
    _ = n - n % step := by rw [Int.emod_def, Int.sub_sub_self]

lemma isWord_emod {n step : Int} (hstep : IsWord step) (h : 0 < step) : IsWord (n % step) := by
  rw [isWord_iff] at *
  have hnonneg := Int.emod_nonneg n (Int.ne_of_gt h)
  have hlt := Int.emod_lt_of_pos n h
  omega

lemma Stamp.seconds_time (s : Stamp) : s.time.seconds = s.seconds :=
  congrArg Stamp.seconds s.stamp_time

namespace Time

lemma mul_le_nanos_iff (t : Time) (n : Int) : n * 1000000000 ≤ t.nanos ↔ n ≤ t.seconds := by
  unfold seconds
  omega

lemma isWord_seconds (t : Time) : IsWord t.seconds := by
  have hfirst := t.stamp.first_le
  have hend := t.stamp.lt_end
  simp only [stamp] at hfirst hend
  rw [isWord_iff]
  omega

/-- The last multiple of a step is less than a step away, and for a step beyond the calendar it is
one step below zero at worst: it fits into 64 bits. -/
lemma isWord_multiple (t : Time) {step : Int} (hstep : IsWord step) (h : 0 < step) :
    IsWord (t.seconds - t.seconds % step) := by
  have hgreatest := isGreatest_multiple t.seconds h
  have hlt := Int.emod_lt_of_pos t.seconds h
  have hle : t.seconds - t.seconds % step ≤ t.seconds := hgreatest.1.2
  have hfirst := t.stamp.first_le
  have hend := t.stamp.lt_end
  simp only [stamp] at hfirst hend
  rw [isWord_iff] at *
  rcases Int.lt_or_le t.seconds (-step) with hfar | hnear
  · omega
  · have : -step ≤ t.seconds - t.seconds % step :=
      hgreatest.2 ⟨Int.dvd_neg.2 (Int.dvd_refl step), hnear⟩
    omega

/-- An instant is cut down to the last whole second that is not after it. -/
lemma isGreatest_stamp (t : Time) : IsGreatest {s : Stamp | s.time ≤ t} t.stamp :=
  ⟨t.stamp_time_le, fun s hs => (t.mul_le_nanos_iff s.seconds).1 hs⟩

lemma floorTo_congr {a b : Time} (h : a.seconds = b.seconds) (precision : Duration) :
    a.floorTo precision = b.floorTo precision := by
  have hstamp : a.stamp = b.stamp := Stamp.ext h
  unfold floorTo
  rw [h, hstamp]

/-- **Cutting an instant down twice** is cutting it down once. -/
theorem floorTo_time_floorTo (t : Time) (precision : Duration) :
    (t.floorTo precision).time.floorTo precision = t.floorTo precision := by
  obtain ⟨step, hstep⟩ : ∃ step, (precision.seconds : Int).bmod 18446744073709551616 = step :=
    ⟨_, rfl⟩
  rcases Int.lt_or_le 0 step with hpos | hle
  · rcases t.seconds_multiple hpos with hmultiple | ⟨hsame, -⟩
    · rw [← t.floorTo_of_pos hstep hpos] at hmultiple
      have hzero : (t.floorTo precision).seconds % step = 0 := by
        rw [hmultiple]
        exact Int.emod_eq_zero_of_dvd Int.dvd_self_sub_emod
      rw [floorTo_of_pos _ hstep hpos, Stamp.seconds_time, hzero, Int.sub_zero,
        Stamp.ofSeconds?_seconds, Option.getD_some]
    · rw [← t.floorTo_of_pos hstep hpos] at hsame
      exact floorTo_congr ((Stamp.seconds_time _).trans hsame) precision
  · rw [floorTo_of_nonpos _ hstep hle, floorTo_of_nonpos _ hstep hle, Stamp.stamp_time]

/-- **Truncation is a floor**, over all instants and precisions. The step is the whole seconds of
the precision as a signed 64-bit number. The arithmetic stays within 64 bits, and the result is
never later than the instant: it is the greatest multiple of the step that is not, if the step is
positive and that multiple is a legal time, and the last whole second otherwise. A second cut
changes nothing, and the order of instants is kept. -/
theorem floorTo_is_floor (precision : Duration) :
    let step := (Int64.ofNat precision.seconds).toInt
    (∀ t : Time, (t.floorTo precision).time ≤ t) ∧
    (∀ t : Time, 0 < step → IsWord t.seconds ∧ IsWord (t.seconds % step) ∧
      IsWord (t.seconds - t.seconds % step)) ∧
    (∀ t : Time, 0 < step →
      ∃ m, IsGreatest {n : Int | step ∣ n ∧ n * 1000000000 ≤ t.nanos} m ∧
        (∀ s : Stamp, s.seconds = m → t.floorTo precision = s) ∧
        ((∀ s : Stamp, s.seconds ≠ m) →
          IsGreatest {s : Stamp | s.time ≤ t} (t.floorTo precision))) ∧
    (∀ t : Time, step ≤ 0 → IsGreatest {s : Stamp | s.time ≤ t} (t.floorTo precision)) ∧
    (∀ t : Time, (t.floorTo precision).time.floorTo precision = t.floorTo precision) ∧
    ∀ t u : Time, t ≤ u → (t.floorTo precision).time ≤ (u.floorTo precision).time := by
  intro step
  have hstep : (precision.seconds : Int).bmod 18446744073709551616 = step :=
    Int64.toInt_ofNat'.symm
  have hword : IsWord step := ⟨Int64.minValue_le_toInt _, Int64.toInt_le _⟩
  refine ⟨fun t => t.floorTo_time_le precision, fun t hpos => ?_, fun t hpos => ?_,
    fun t hle => ?_, fun t => t.floorTo_time_floorTo precision,
    fun t u htu => floorTo_mono htu precision⟩
  · exact ⟨t.isWord_seconds, isWord_emod hword hpos, t.isWord_multiple hword hpos⟩
  · refine ⟨t.seconds - t.seconds % step, ?_, fun s hs => ?_, fun hnone => ?_⟩
    · simp only [mul_le_nanos_iff]
      exact isGreatest_multiple t.seconds hpos
    · rw [t.floorTo_of_pos hstep hpos, ← hs, Stamp.ofSeconds?_seconds, Option.getD_some]
    · rw [t.floorTo_of_pos hstep hpos, Option.eq_none_iff_forall_ne_some.2 fun s hs =>
        hnone s (Stamp.ofSeconds?_eq_some_iff.1 hs).symm]
      exact t.isGreatest_stamp
  · rw [t.floorTo_of_nonpos hstep hle]
    exact t.isGreatest_stamp

/-- The first second of the calendar is no multiple of a thousand, and stays as it is. -/
example :
    let precision : Duration := ⟨1000000000000, by decide⟩
    (first.floorTo precision).seconds = -8334601228800 ∧
      (Time.floorTo ⟨-8334601227001 * 1000000000, by decide, by decide⟩ precision).seconds =
        -8334601228000 := by
  decide

end Time

end Envelope
