import Mathlib.Logic.Function.Iterate
import Mathlib.Tactic.Common
import Mathlib.Tactic.IntervalCases
import Envelope.Time.Calendar

/-!
Dates go by the rules of the calendar.

A day is found by counting cycles of 400 years, then centuries, then times of 4 years, then years,
all from March on, so that a leap day is the last day of all of them. Main statements: the day after
has the next date, by the lengths of months and years; so a date is found by going from day to day.
-/

namespace Envelope.Date

/-! ### The rules -/

/-- Every fourth year has a leap day, but of the full centuries only every fourth. -/
def IsLeap (year : Int) : Prop := year % 4 = 0 ∧ (year % 100 = 0 → year % 400 = 0)

instance (year : Int) : Decidable (IsLeap year) := inferInstanceAs (Decidable (_ ∧ _))

def monthLength (year : Int) (month : Nat) : Nat :=
  if month = 2 then if IsLeap year then 29 else 28
  else if month = 4 ∨ month = 6 ∨ month = 9 ∨ month = 11 then 30
  else 31

/-- The date of the day after. -/
def next (d : Date) : Date :=
  if d.day < monthLength d.year d.month then { d with day := d.day + 1 }
  else if d.month < 12 then ⟨d.year, d.month + 1, 1⟩
  else ⟨d.year + 1, 1, 1⟩

/-! ### Months from March on -/

/-- The days before a month. -/
def monthStart (m : Nat) : Nat := (153 * m + 2) / 5

/-- The date so many days after the first of a month. The last two months are of the next year. -/
def ofMonth (year : Int) (m day : Nat) : Date :=
  let month := if m < 10 then m + 3 else m - 9
  ⟨if month ≤ 2 then year + 1 else year, month, day + 1⟩

def monthDays (year : Int) (m : Nat) : Nat :=
  monthLength (ofMonth year m 0).year (ofMonth year m 0).month

/-- The days of a year. Its February is that of the next year. -/
def yearDays (year : Int) : Nat := if IsLeap (year + 1) then 366 else 365

/-- The date so many days after the first of March. -/
def ofMarch (year : Int) (day : Nat) : Date :=
  ofMonth year ((5 * day + 2) / 153) (day - monthStart ((5 * day + 2) / 153))

lemma ofMarch_monthStart_add (year : Int) {m day : Nat}
    (h : monthStart m + day < monthStart (m + 1)) :
    ofMarch year (monthStart m + day) = ofMonth year m day := by
  have hm : (5 * (monthStart m + day) + 2) / 153 = m := by
    unfold monthStart at *
    omega
  unfold ofMarch
  rw [hm, Nat.add_sub_cancel_left]

lemma monthStart_add_monthDays {m : Nat} (h : m < 11) (year : Int) :
    monthStart m + monthDays year m = monthStart (m + 1) := by
  unfold monthDays monthLength ofMonth monthStart
  interval_cases m <;> simp

lemma monthStart_add_monthDays_last (year : Int) :
    monthStart 11 + monthDays year 11 = yearDays year := by
  show 337 + (if IsLeap (year + 1) then 29 else 28) = if IsLeap (year + 1) then 366 else 365
  split <;> rfl

lemma yearDays_le (year : Int) : 365 ≤ yearDays year ∧ yearDays year ≤ 366 := by
  unfold yearDays
  split <;> decide

lemma next_ofMonth (year : Int) {m : Nat} (h : m ≤ 11) (day : Nat) :
    (ofMonth year m day).next =
      if day + 1 < monthDays year m then ofMonth year m (day + 1)
      else if m < 11 then ofMonth year (m + 1) 0 else ofMonth (year + 1) 0 0 := by
  show (if day + 1 < monthDays year m then _ else _) = _
  split
  · rfl
  · interval_cases m <;> rfl

/-- The day after is in the same year, or it is the first of the next. -/
lemma next_ofMarch (year : Int) {day : Nat} (h : day < yearDays year) :
    (ofMarch year day).next =
      if day + 1 < yearDays year then ofMarch year (day + 1) else ofMarch (year + 1) 0 := by
  have hyear := yearDays_le year
  obtain ⟨m, hm⟩ : ∃ m, m = (5 * day + 2) / 153 := ⟨_, rfl⟩
  obtain ⟨k, rfl⟩ : ∃ k, day = monthStart m + k := by
    refine ⟨day - monthStart m, ?_⟩
    unfold monthStart
    omega
  have hk : monthStart m + k < monthStart (m + 1) := by
    unfold monthStart at *
    omega
  have hm11 : m ≤ 11 := by
    unfold monthStart at *
    omega
  rw [ofMarch_monthStart_add year hk, next_ofMonth year hm11, Nat.add_assoc]
  rcases Nat.lt_or_eq_of_le hm11 with hlt | rfl
  · have hmonth := monthStart_add_monthDays hlt year
    have hstart : monthStart (m + 1) ≤ 337 ∧ monthStart (m + 1) < monthStart (m + 1 + 1) := by
      unfold monthStart
      omega
    by_cases hnext : k + 1 < monthDays year m
    · rw [if_pos hnext, if_pos (by omega), ofMarch_monthStart_add year (by omega)]
    · have hfirst : monthStart m + (k + 1) = monthStart (m + 1) + 0 := by omega
      rw [if_neg hnext, if_pos hlt, if_pos (by omega), hfirst,
        ofMarch_monthStart_add year hstart.2]
  · have hmonth := monthStart_add_monthDays_last year
    have hend : monthStart (11 + 1) = 367 := rfl
    by_cases hnext : k + 1 < monthDays year 11
    · rw [if_pos hnext, if_pos (by omega), ofMarch_monthStart_add year (by omega)]
    · rw [if_neg hnext, if_neg (Nat.lt_irrefl 11), if_neg (by omega)]
      rfl

/-! ### Cycles of 400 years -/

/-- The day is in a year before which so many cycles, centuries, times of 4 years and single years
are over. -/
structure Falls (n cycle : Int) (century four single day : Nat) : Prop where
  eq : n + 719468 = 146097 * cycle + 36524 * century + 1461 * four + 365 * single + day
  century_le : century ≤ 3
  four_le : four ≤ 24
  single_le : single ≤ 3
  day_lt : day < yearDays (400 * cycle + 100 * century + 4 * four + single)

section

variable {n cycle : Int} {century four single day : Nat}

lemma isLeap_iff (hc : century ≤ 3) (hf : four ≤ 24) (hs : single ≤ 3) :
    IsLeap (400 * cycle + 100 * century + 4 * four + single + 1) ↔
      single = 3 ∧ (four = 24 → century = 3) := by
  unfold IsLeap
  constructor
  · rintro ⟨hfour, hhundred⟩
    refine ⟨by omega, fun h => ?_⟩
    have := hhundred (by omega)
    omega
  · rintro ⟨rfl, h⟩
    refine ⟨by omega, fun hhundred => ?_⟩
    have := h (by omega)
    omega

lemma lt_yearDays_iff {y : Int} : day < yearDays y ↔ day < 365 ∨ day = 365 ∧ IsLeap (y + 1) := by
  unfold yearDays
  by_cases h : IsLeap (y + 1)
  · rw [if_pos h]
    simp only [h, and_true]
    omega
  · rw [if_neg h]
    simp only [h, and_false, or_false]

lemma exists_falls (n : Int) :
    ∃ cycle century four single day, Falls n cycle century four single day := by
  obtain ⟨cycle, hcycle⟩ : ∃ cycle, cycle = (n + 719468) / 146097 := ⟨_, rfl⟩
  obtain ⟨x, hx⟩ : ∃ x : Nat, n + 719468 = 146097 * cycle + x :=
    ⟨(n + 719468 - 146097 * cycle).toNat, by omega⟩
  by_cases hlast : x = 146096
  · refine ⟨cycle, 3, 24, 3, 365, by omega, le_rfl, le_rfl, le_rfl, lt_yearDays_iff.2 (Or.inr ?_)⟩
    exact ⟨rfl, (isLeap_iff le_rfl le_rfl le_rfl).2 ⟨rfl, fun _ => rfl⟩⟩
  · obtain ⟨century, hcentury⟩ : ∃ c, c = x / 36524 := ⟨_, rfl⟩
    obtain ⟨four, hfour⟩ : ∃ f, f = (x - 36524 * century) / 1461 := ⟨_, rfl⟩
    obtain ⟨rest, hrest⟩ : ∃ y, x = 36524 * century + 1461 * four + y :=
      ⟨x - 36524 * century - 1461 * four, by omega⟩
    obtain ⟨single, hsingle⟩ : ∃ s, s = min (rest / 365) 3 := ⟨_, rfl⟩
    have hc : century ≤ 3 := by omega
    have hf : four ≤ 24 := by omega
    have hs : single ≤ 3 := by omega
    refine ⟨cycle, century, four, single, rest - 365 * single, by omega, hc, hf, hs, ?_⟩
    rw [lt_yearDays_iff, isLeap_iff hc hf hs]
    omega

/-- The number of the year in its cycle, from the days before: days that are leap days are left
out. -/
lemma year_of_days {x : Nat} (hc : century ≤ 3) (hf : four ≤ 24) (hs : single ≤ 3)
    (hday : day < 365 ∨ day = 365 ∧ single = 3 ∧ (four = 24 → century = 3))
    (hx : x = 36524 * century + 1461 * four + 365 * single + day) :
    (x - x / 1460 + x / 36524 - x / 146096) / 365 = 100 * century + 4 * four + single := by
  -- On the last day of a cycle, and only there, the last of the corrections counts.
  by_cases hlast : x = 146096
  · have hcentury : century = 3 := by omega
    subst hlast hcentury
    have hfour : four = 24 := by omega
    subst hfour
    omega
  · have hcentury : x / 36524 = century := by omega
    have hcycle : x / 146096 = 0 := by omega
    -- Late in the last of 4 years one leap day too many is left out.
    obtain ⟨k, hk⟩ : ∃ k, k = (24 * century + four + 365 * single + day) / 1460 := ⟨_, rfl⟩
    have hfours : x / 1460 = 25 * century + four + k := by omega
    have hkday : k ≤ day ∧ day < 365 + k := by
      clear hcentury hcycle hfours hlast hx
      omega
    rw [hcentury, hcycle, hfours]
    clear hk hday hcentury hcycle hfours hlast
    omega

lemma days_of_year (century : Nat) {y : Nat} (hf : four ≤ 24) (hs : single ≤ 3)
    (hy : y = 100 * century + 4 * four + single) :
    365 * y + y / 4 - y / 100 = 36524 * century + 1461 * four + 365 * single := by
  have hfours : y / 4 = 25 * century + four := by omega
  have hcenturies : y / 100 = century := by omega
  omega

lemma Falls.ofDays_eq (h : Falls n cycle century four single day) :
    ofDays n = ofMarch (400 * cycle + 100 * century + 4 * four + single) day := by
  obtain ⟨heq, hc, hf, hs, hday⟩ := h
  rw [lt_yearDays_iff, isLeap_iff hc hf hs] at hday
  obtain ⟨x, hx⟩ : ∃ x, x = 36524 * century + 1461 * four + 365 * single + day := ⟨_, rfl⟩
  have hyear := year_of_days hc hf hs hday hx
  have hcycle : (n + 719468) / 146097 = cycle := by omega
  have hrest : ((n + 719468) % 146097).toNat = x := by omega
  have hstart := days_of_year century hf hs rfl
  have hofYear : x - (36524 * century + 1461 * four + 365 * single) = day := by omega
  have hcount : cycle * 400 + ((100 * century + 4 * four + single : Nat) : Int) =
      400 * cycle + 100 * century + 4 * four + single := by omega
  unfold ofDays
  simp only [hcycle, hrest, hyear, hstart, hofYear, hcount]
  rfl

/-- After the last day of a year stands the first of the next. -/
lemma Falls.first_of_next (h : Falls n cycle century four single day)
    (hlast : ¬day + 1 < yearDays (400 * cycle + 100 * century + 4 * four + single)) :
    ∃ cycle' century' four' single', Falls (n + 1) cycle' century' four' single' 0 ∧
      400 * cycle' + 100 * century' + 4 * four' + single' =
        400 * cycle + 100 * century + 4 * four + (single : Int) + 1 := by
  obtain ⟨heq, hc, hf, hs, hday⟩ := h
  have hfirst (y : Int) : 0 < yearDays y := Nat.lt_of_lt_of_le (by decide) (yearDays_le y).1
  rw [lt_yearDays_iff, isLeap_iff hc hf hs] at hday hlast
  by_cases hsingle : single < 3
  · exact ⟨cycle, century, four, single + 1, ⟨by omega, hc, hf, hsingle, hfirst _⟩, by omega⟩
  by_cases hfour : four < 24
  · exact ⟨cycle, century, four + 1, 0, ⟨by omega, hc, hfour, by omega, hfirst _⟩, by omega⟩
  by_cases hcentury : century < 3
  · exact ⟨cycle, century + 1, 0, 0, ⟨by omega, hcentury, by omega, by omega, hfirst _⟩, by omega⟩
  · exact ⟨cycle + 1, 0, 0, 0, ⟨by omega, by omega, by omega, by omega, hfirst _⟩, by omega⟩

lemma Falls.next (h : Falls n cycle century four single day) :
    ofDays (n + 1) = (ofDays n).next := by
  rw [h.ofDays_eq, next_ofMarch _ h.day_lt]
  split
  next hday =>
    obtain ⟨heq, hc, hf, hs, -⟩ := h
    have hnext : Falls (n + 1) cycle century four single (day + 1) :=
      ⟨by omega, hc, hf, hs, hday⟩
    exact hnext.ofDays_eq
  next hlast =>
    obtain ⟨cycle', century', four', single', hnext, hyear⟩ := h.first_of_next hlast
    rw [hnext.ofDays_eq, hyear]

end

/-- The day after has the next date. -/
theorem ofDays_add_one (n : Int) : ofDays (n + 1) = (ofDays n).next := by
  obtain ⟨cycle, century, four, single, day, h⟩ := exists_falls n
  exact h.next

theorem ofDays_add (n : Int) (k : Nat) : ofDays (n + k) = next^[k] (ofDays n) := by
  induction k with
  | zero => rw [Nat.cast_zero, Int.add_zero, Function.iterate_zero_apply]
  | succ k ih => rw [Nat.cast_succ, ← Int.add_assoc, ofDays_add_one, ih,
      Function.iterate_succ_apply']

/-- **The calendar**: the date of a day is the one that is reached by going from day to day, from
the first of January 1970. -/
theorem ofDays_natCast (k : Nat) : ofDays k = next^[k] ⟨1970, 1, 1⟩ := by
  have h := ofDays_add 0 k
  rwa [Int.zero_add] at h

example : ofDays 19782 = ⟨2024, 2, 29⟩ := by decide

end Envelope.Date
