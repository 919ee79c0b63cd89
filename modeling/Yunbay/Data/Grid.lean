import Mathlib.Tactic

/-!
# Grids of periods

Time is cut into periods of one length `d`, counted from an origin. `start origin d t` is the start
of the period that `t` lies in.

Two grids of the same length agree on a period `[c, c + d)` of one of them exactly when `c` is a
whole number of periods from the origin of the other (`forall_start_le_iff`): otherwise a period of
the other grid begins inside.
-/

namespace Grid

/-- The start of the period of `t`. -/
def start (origin d t : Int) : Int := origin + (t - origin) / d * d

variable {origin d t c : Int}

lemma start_le (hd : 0 < d) : start origin d t ≤ t := by
  have h := Int.ediv_mul_le (t - origin) hd.ne'
  unfold start
  omega

lemma lt_start_add (hd : 0 < d) : t < start origin d t + d := by
  have h := Int.lt_ediv_add_one_mul_self (t - origin) hd
  rw [add_mul, one_mul] at h
  unfold start
  omega

lemma dvd_start_sub : d ∣ start origin d t - origin := by
  rw [start, add_sub_cancel_left]
  exact Dvd.intro_left _ rfl

/-- Two points of a grid less than a period apart are the same. -/
lemma eq_of_dvd_sub {a b : Int} (hdvd : d ∣ a - b) (hlt : a < b + d) (hgt : b < a + d) : a = b := by
  have habs : |a - b| < d := abs_lt.mpr ⟨by omega, by omega⟩
  exact sub_eq_zero.mp (Int.eq_zero_of_abs_lt_dvd hdvd habs)

/-- A point of the grid is the start of the period that follows it. -/
lemma start_eq (hd : 0 < d) (hdvd : d ∣ c - origin) (hle : c ≤ t) (hlt : t < c + d) :
    start origin d t = c := by
  have hstart : d ∣ start origin d t - c := by
    have hgrid : d ∣ start origin d t - origin := dvd_start_sub
    have h := dvd_sub hgrid hdvd
    rwa [sub_sub_sub_cancel_right] at h
  have hle' : start origin d t ≤ t := start_le hd
  have hlt' : t < start origin d t + d := lt_start_add hd
  exact eq_of_dvd_sub hstart (by omega) (by omega)

/-- A period start after the origin is at least one period after it. -/
lemma add_le_start (h : origin < start origin d t) : origin + d ≤ start origin d t := by
  have hle := Int.le_of_dvd (sub_pos.mpr h) dvd_start_sub
  omega

/-- No period begins inside `[c, c + d)` after a time `lo` in it, exactly when `c` is itself a point
of the grid. -/
theorem forall_start_le_iff {lo : Int} (hd : 0 < d) (hlo : c ≤ lo) (hhi : lo < c + d) :
    (∀ t, lo ≤ t → t < c + d → start origin d t ≤ c) ↔ d ∣ c - origin := by
  constructor
  · intro h
    -- the last second of the period has its start in `[c, c + d)`, so its start is `c`
    have hlast := h (c + d - 1) (by omega) (by omega)
    have hnext : c + d - 1 < start origin d (c + d - 1) + d := lt_start_add hd
    have hc : start origin d (c + d - 1) = c := by omega
    rw [← hc]
    exact dvd_start_sub
  · intro hdvd t ht ht'
    exact (start_eq hd hdvd (hlo.trans ht) ht').le

end Grid
