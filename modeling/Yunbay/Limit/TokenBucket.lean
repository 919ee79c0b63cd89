import Mathlib.Tactic.Linarith
import Mathlib.Tactic.Ring
import Yunbay.Data.Run

/-!
# The limit on all requests of a user

With Redis the total number of requests is limited by a token bucket. `redisRateLimitHandler` asks
for `T` requests in `D` seconds with a capacity of `T * D` tokens, a rate of `T` tokens per second
and a cost of `D` tokens per request.
-/

namespace Yunbay

/-- At most `n` of the times are in any `d` consecutive ones. -/
def AtMost (n : Nat) (d : Int) (times : List Int) : Prop :=
  ∀ start : Int, times.countP (fun t => start ≤ t ∧ t < start + d) ≤ n

variable {times : List Int} {T : Nat} {D : Int}

/-- A run at non-decreasing times starts at some time. -/
lemma exists_clock (h : times.Pairwise (· ≤ ·)) : ∃ clock, (clock :: times).Pairwise (· ≤ ·) := by
  cases times with
  | nil => exact ⟨0, List.pairwise_singleton _ _⟩
  | cons first rest =>
    refine ⟨first, List.pairwise_cons.mpr ⟨List.forall_mem_cons.mpr ⟨le_rfl, ?_⟩, h⟩⟩
    exact (List.pairwise_cons.mp h).1

/-- The hash of the bucket in Redis. -/
structure Bucket where
  tokens : Int
  lastTime : Int

/-- The tokens at `now`. A bucket that does not exist is full. -/
def bucketTokens (rate capacity now : Int) : Option Bucket → Int
  | none => capacity
  | some bucket => min capacity (bucket.tokens + (now - bucket.lastTime) * rate)

/-- The script of `rate_limit.lua`. -/
def rateLimitScript (requested rate capacity : Int) (bucket : Option Bucket) (now : Int) :
    Bool × Bucket :=
  let tokens := bucketTokens rate capacity now bucket
  if requested ≤ tokens then (true, ⟨tokens - requested, now⟩) else (false, ⟨tokens, now⟩)

/-- The bucket and the times of the requests that passed, newest first. -/
structure BucketRun where
  bucket : Option Bucket := none
  passed : List Int := []

/-- The total limit of `redisRateLimitHandler`. -/
def totalLimitStep (totalMaxCount duration : Int) (run : BucketRun) (now : Int) : BucketRun :=
  let answer := rateLimitScript duration totalMaxCount (totalMaxCount * duration) run.bucket now
  ⟨some answer.2, if answer.1 then now :: run.passed else run.passed⟩

def totalLimitRun (totalMaxCount duration : Int) (times : List Int) : BucketRun :=
  Run.exec (totalLimitStep totalMaxCount duration) {} times

lemma totalLimitStep_eq (T D : Int) (run : BucketRun) (now : Int) :
    totalLimitStep T D run now =
      if D ≤ bucketTokens T (T * D) now run.bucket then
        ⟨some ⟨bucketTokens T (T * D) now run.bucket - D, now⟩, now :: run.passed⟩
      else ⟨some ⟨bucketTokens T (T * D) now run.bucket, now⟩, run.passed⟩ := by
  by_cases hpays : D ≤ bucketTokens T (T * D) now run.bucket <;>
    simp [totalLimitStep, rateLimitScript, hpays]

section Bound

variable {T D : Int} {run : BucketRun} {now : Int}

/-- The tokens that are left, and those that were spent since `start`, are covered by the capacity
and the refill since `start`. -/
structure BucketRun.Covered (T D : Int) (run : BucketRun) (clock : Int) : Prop where
  le_clock : ∀ t ∈ run.passed, t ≤ clock
  since : ∀ start ≤ clock, bucketTokens T (T * D) clock run.bucket +
    D * run.passed.countP (start ≤ ·) ≤ T * D + T * (clock - start)
  window : ∀ start : Int, D * run.passed.countP (fun t => start ≤ t ∧ t < start + D) ≤
    T * D + T * (D - 1)

lemma bucketTokens_later {clock : Int} (hT : 0 ≤ T) (hle : clock ≤ now) (bucket : Option Bucket) :
    bucketTokens T (T * D) now bucket ≤
      bucketTokens T (T * D) clock bucket + T * (now - clock) := by
  have hrefill : 0 ≤ T * (now - clock) := mul_nonneg hT (by omega)
  cases bucket with
  | none => simpa [bucketTokens] using hrefill
  | some bucket =>
    have hsplit : bucket.tokens + (now - bucket.lastTime) * T =
        bucket.tokens + (clock - bucket.lastTime) * T + T * (now - clock) := by ring
    simp only [bucketTokens, hsplit]
    omega

lemma bucketTokens_le (T D now : Int) (bucket : Option Bucket) :
    bucketTokens T (T * D) now bucket ≤ T * D := by
  cases bucket with
  | none => exact le_rfl
  | some bucket => exact min_le_left _ _

/-- Waiting adds what the refill adds. -/
lemma BucketRun.Covered.wait {clock : Int} (h : run.Covered T D clock) (hT : 0 ≤ T)
    (hle : clock ≤ now) : run.Covered T D now where
  le_clock t ht := (h.le_clock t ht).trans hle
  since start hstart := by
    by_cases hbefore : start ≤ clock
    · have hlater := bucketTokens_later (D := D) hT hle run.bucket
      have hsplit : T * (now - start) = T * (now - clock) + T * (clock - start) := by ring
      have := h.since start hbefore
      omega
    · -- nothing was spent since `start`
      have hnone : run.passed.countP (start ≤ ·) = 0 := by
        refine List.countP_eq_zero.mpr fun t ht => ?_
        have := h.le_clock t ht
        simp only [decide_eq_true_eq]
        omega
      have hcap := bucketTokens_le T D now run.bucket
      have hrefill : 0 ≤ T * (now - start) := mul_nonneg hT (by omega)
      rw [hnone]
      omega
  window := h.window

/-- A request that passes pays with tokens that the window has. -/
lemma BucketRun.Covered.step (h : run.Covered T D now) (hT : 0 ≤ T) (hD : 0 ≤ D) :
    (totalLimitStep T D run now).Covered T D now := by
  have hcap := bucketTokens_le T D now run.bucket
  have hleft : ∀ tokens ≤ T * D, bucketTokens T (T * D) now (some ⟨tokens, now⟩) = tokens := by
    intro tokens htokens
    simp only [bucketTokens, sub_self, zero_mul, add_zero, min_eq_right htokens]
  rw [totalLimitStep_eq]
  split_ifs with hpays
  · refine ⟨List.forall_mem_cons.mpr ⟨le_rfl, h.le_clock⟩, fun start hstart => ?_, fun start => ?_⟩
    · have := h.since start hstart
      rw [hleft _ (by omega), List.countP_cons_of_pos (by simpa using hstart)]
      push_cast
      linarith
    · rw [List.countP_cons]
      split_ifs with hnow
      · simp only [decide_eq_true_eq] at hnow
        have hsince := h.since start hnow.1
        have hfewer : run.passed.countP (fun t => start ≤ t ∧ t < start + D) ≤
            run.passed.countP (start ≤ ·) := by
          refine List.countP_mono_left fun t _ ht => ?_
          simp only [decide_eq_true_eq] at ht ⊢
          exact ht.1
        have hspent := mul_le_mul_of_nonneg_left (Int.ofNat_le.mpr hfewer) hD
        have hrefill : T * (now - start) ≤ T * (D - 1) :=
          mul_le_mul_of_nonneg_left (by omega) hT
        push_cast
        linarith
      · exact h.window start
  · refine ⟨h.le_clock, fun start hstart => ?_, h.window⟩
    rw [hleft _ hcap]
    exact h.since start hstart

/-- In every run, what is spent in a window is covered. -/
lemma bucket_covered {times : List Int} {clock : Int} (h : run.Covered T D clock) (hT : 0 ≤ T)
    (hD : 0 ≤ D) (hsorted : (clock :: times).Pairwise (· ≤ ·)) :
    ∃ clock', (Run.exec (totalLimitStep T D) run times).Covered T D clock' := by
  induction times generalizing run clock with
  | nil => exact ⟨clock, h⟩
  | cons now rest ih =>
    obtain ⟨hclock, hrest⟩ := List.pairwise_cons.mp hsorted
    exact ih ((h.wait hT (hclock now List.mem_cons_self)).step hT hD) hrest

end Bound

/-- At most `2 * T - 1` requests pass in a window. -/
theorem bucket_atMost (hT : 0 < T) (hD : 0 < D) (hsorted : times.Pairwise (· ≤ ·)) :
    AtMost (2 * T - 1) D (totalLimitRun T D times).passed := by
  intro start
  have hwindow : (T : Int) * D + T * (D - 1) = D * (2 * T) - T := by ring
  obtain ⟨clock, hclock⟩ := exists_clock hsorted
  have hempty : ({} : BucketRun).Covered T D clock := by
    refine ⟨nofun, fun start hstart => ?_, fun start => ?_⟩
    · have : 0 ≤ (T : Int) * (clock - start) := mul_nonneg (by omega) (by omega)
      simpa [bucketTokens] using this
    · have : 0 ≤ (T : Int) * D + T * (D - 1) :=
        add_nonneg (mul_nonneg (by omega) hD.le) (mul_nonneg (by omega) (by omega))
      simpa using this
  obtain ⟨-, -, -, hspent⟩ := bucket_covered hempty (by omega) hD.le hclock
  have hlt := hspent start
  rw [hwindow] at hlt
  have : ((totalLimitRun T D times).passed.countP (fun t => start ≤ t ∧ t < start + D) : Int) <
      2 * T := lt_of_mul_lt_mul_left (by unfold totalLimitRun; omega) hD.le
  omega

/-- A full bucket is spent at once. -/
lemma totalLimitRun_replicate (hD : 0 < D) {k : Nat} (hk : k + 1 ≤ T) :
    totalLimitRun T D (List.replicate (k + 1) 0) =
      ⟨some ⟨(T - (k + 1)) * D, 0⟩, List.replicate (k + 1) 0⟩ := by
  induction k with
  | zero =>
    have hpays : D ≤ T * D := by nlinarith
    have hleft : (T : Int) * D - D = (T - 1) * D := by ring
    simp [totalLimitRun, totalLimitStep_eq, bucketTokens, hpays, hleft]
  | succ k ih =>
    have hbefore := ih (by omega)
    have hpays : D ≤ ((T : Int) - (k + 1)) * D := by nlinarith
    have hcap : ((T : Int) - (k + 1)) * D ≤ T * D := by nlinarith
    have hleft : ((T : Int) - (k + 1)) * D - D = (T - (k + 1 + 1)) * D := by ring
    rw [totalLimitRun] at hbefore ⊢
    rw [List.replicate_succ', Run.exec_append, hbefore, ← List.replicate_succ']
    simp [totalLimitStep_eq, bucketTokens, hcap, hpays, hleft, List.replicate_succ]

/-- The bucket keeps to the limit that the user is told exactly when the limit is one request. -/
theorem total_limit_iff {T : Nat} {D : Int} (hT : 1 ≤ T) (hD : 60 ≤ D) :
    (∀ times : List Int, times.Pairwise (· ≤ ·) →
      AtMost T D (totalLimitRun T D times).passed) ↔ T = 1 := by
  constructor
  · intro hall
    by_contra hmore
    obtain ⟨k, rfl⟩ : ∃ k, T = k + 1 := ⟨T - 1, by omega⟩
    -- the refill of all but the last second pays for one more request
    have hatMost := hall (List.replicate (k + 1) 0 ++ [D - 1]) ?_ 0
    · have hpays : D ≤ ((k + 1 : Nat) : Int) * D ∧ D ≤ (D - 1) * ((k + 1 : Nat) : Int) :=
        ⟨by push_cast; nlinarith, by push_cast; nlinarith [show (1 : Int) ≤ k by omega]⟩
      have hspent := totalLimitRun_replicate (T := k + 1) (show 0 < D by omega) le_rfl
      rw [totalLimitRun] at hspent
      rw [totalLimitRun, Run.exec_append, hspent, Run.exec_cons, totalLimitStep_eq, if_pos ?_]
        at hatMost
      · simp [List.countP_replicate, show 0 < D by omega, show 1 ≤ D by omega] at hatMost
      · simp only [bucketTokens, le_min_iff]
        refine ⟨hpays.1, ?_⟩
        simpa using hpays.2
    · refine List.pairwise_append.mpr ⟨List.pairwise_replicate.mpr (.inr le_rfl),
        List.pairwise_singleton _ _, fun t ht u hu => ?_⟩
      rw [List.eq_of_mem_replicate ht, List.mem_singleton.mp hu]
      omega
  · rintro rfl times hsorted
    exact bucket_atMost (by omega) (by omega) hsorted

/-- One request in a minute. -/
theorem single_request_limited : AtMost 1 60 (totalLimitRun 1 60 [0, 30, 60]).passed :=
  (total_limit_iff (T := 1) le_rfl le_rfl).mpr rfl [0, 30, 60] (by decide)

/-- A limit of two requests in a minute, and three of them pass within 31 seconds. -/
theorem three_requests_pass : (totalLimitRun 2 60 [0, 0, 30]).passed = [30, 0, 0] := by
  decide

end Yunbay
