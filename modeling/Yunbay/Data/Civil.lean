import Mathlib.Order.Basic

/-!
# Days, months and years

Days are numbered from 1 January 1970. A year begins in March, so that a leap day is the last day of
its year. Months are numbered through the years: month `12 * y` is the first one of year `y`.
-/

namespace Civil

/-- The first day of a year. -/
def yearStart (year : Int) : Int := 365 * year + year / 4 - year / 100 + year / 400 - 719468

/-- The year of a day, found by whole spans of 400, 100, 4 years and one. The last century of 400
years and the last year of four may have one day more. -/
def yearOf (day : Int) : Int :=
  let quads := (day + 719468) % 146097
  let century := min (quads / 36524) 3
  let days := quads - 36524 * century
  (day + 719468) / 146097 * 400 + century * 100 + days / 1461 * 4 + min (days % 1461 / 365) 3

/-- The first day of a month. Five months from March on have 153 days. -/
def monthStart (month : Int) : Int := yearStart (month / 12) + (153 * (month % 12) + 2) / 5

/-- The month of a day. -/
def monthOf (day : Int) : Int :=
  yearOf day * 12 + (5 * (day - yearStart (yearOf day)) + 2) / 153

section

variable {a b c d : Int} (hb : 0 ≤ b ∧ b ≤ 3) (hc : 0 ≤ c ∧ c ≤ 24) (hd : 0 ≤ d ∧ d ≤ 3)

include hb hc hd

/-- The first day of a year that is given by its spans. -/
lemma yearStart_spans : yearStart (a * 400 + b * 100 + c * 4 + d) =
    146097 * a + 36524 * b + 1461 * c + 365 * d - 719468 := by
  unfold yearStart
  omega

/-- The last of four years has 366 days, but for the last of a century that is not the fourth. -/
lemma yearStart_spans_succ : yearStart (a * 400 + b * 100 + c * 4 + d + 1) =
    146097 * a + 36524 * b + 1461 * c + 365 * d - 719468 +
      if d = 3 ∧ (c < 24 ∨ b = 3) then 366 else 365 := by
  unfold yearStart
  split_ifs <;> omega

end

/-- A day lies in its year, which has 366 days at most. -/
lemma yearOf_spec (day : Int) : yearStart (yearOf day) ≤ day ∧
    day < yearStart (yearOf day + 1) ∧ day ≤ yearStart (yearOf day) + 365 := by
  unfold yearOf
  dsimp only
  rw [yearStart_spans (by omega) (by omega) (by omega),
    yearStart_spans_succ (by omega) (by omega) (by omega)]
  split_ifs <;> omega

/-- A day lies in its month. -/
lemma monthOf_spec (day : Int) :
    monthStart (monthOf day) ≤ day ∧ day < monthStart (monthOf day + 1) := by
  obtain ⟨hstart, hend, hlength⟩ := yearOf_spec day
  unfold monthStart monthOf
  generalize yearOf day = year at *
  obtain ⟨month, hmonth⟩ : ∃ month, (5 * (day - yearStart year) + 2) / 153 = month := ⟨_, rfl⟩
  rw [hmonth]
  refine ⟨?_, ?_⟩
  · rw [show (year * 12 + month) / 12 = year by omega,
      show (year * 12 + month) % 12 = month by omega]
    omega
  · by_cases hlast : month = 11
    · rw [show (year * 12 + month + 1) / 12 = year + 1 by omega]
      omega
    · rw [show (year * 12 + month + 1) / 12 = year by omega,
        show (year * 12 + month + 1) % 12 = month + 1 by omega]
      omega

end Civil
