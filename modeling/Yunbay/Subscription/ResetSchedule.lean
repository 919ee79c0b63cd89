import Yunbay.Data.Instants
import Yunbay.Subscription.Ledger

/-!
# The reset schedule of a regular subscription

`maybeResetUserSubscriptionWithPlanTx` walks from the last reset along the reset instants of the
plan until the next one is in the future. The model's loop computes this walk as soon as it is given
enough rounds (`resetLoop_of_walks`).

`resets_compose_iff` says when resets compose in a zone with a fixed offset. Calendar periods always
advance. A custom period is multiplied by the nanoseconds of a second in an `int64`, and the wrapped
product may stand still or go back.
-/

namespace Yunbay

open Instants

variable {base last last₂ last₃ later now endUnix : Int} {next : Int → Int} {calendar : Calendar}
  {plan : SubscriptionPlan} {db : DB} {sub : UserSubscription}

/-! ## The schedule of a plan -/

/-- The reset instant after a time. -/
def nextReset (calendar : Calendar) (plan : SubscriptionPlan) (endUnix t : Int) : Int :=
  calcNextResetTime calendar t plan endUnix

lemma addCustomSeconds_eq (base t seconds : Int) :
    addCustomSeconds t seconds = t + (addCustomSeconds base seconds - base) := by
  unfold addCustomSeconds
  ring

/-- Calendar periods advance. -/
lemma nextReset_forward (hperiod : plan.quotaResetPeriod ≠ .custom) (t : Int) :
    nextReset calendar plan endUnix t = 0 ∨ t < nextReset calendar plan endUnix t := by
  have hday := calendar.lt_nextDay t
  have hmonday := calendar.lt_nextMonday t
  have hmonth := calendar.lt_nextMonth t
  unfold nextReset calcNextResetTime
  cases h : plan.quotaResetPeriod with
  | never => exact .inl rfl
  | custom => exact absurd h hperiod
  | daily | weekly | monthly =>
    dsimp only
    split_ifs <;> omega

/-- A custom period is the same number of seconds everywhere. -/
lemma nextReset_steady (calendar : Calendar) (plan : SubscriptionPlan) (endUnix : Int) :
    Steady (nextReset calendar plan endUnix) := by
  intro base hpos t
  by_cases hperiod : plan.quotaResetPeriod = .custom
  · have hstep := addCustomSeconds_eq base t plan.quotaResetCustomSeconds
    simp only [nextReset, calcNextResetTime, hperiod] at hpos ⊢
    split_ifs at hpos ⊢ <;> omega
  · have hahead := (nextReset_forward hperiod base).resolve_left hpos.ne'
    exact ⟨fun _ => nextReset_forward hperiod t, fun hle => absurd hahead hle.not_gt⟩

/-- With enough rounds the loop of the code computes the walk. -/
lemma resetLoop_of_walks (h : Walks (nextReset calendar plan endUnix) now base last) :
    ∃ rounds, ∀ fuel, rounds ≤ fuel →
      resetLoop calendar plan endUnix now fuel base (nextReset calendar plan endUnix base) =
        some (last, nextReset calendar plan endUnix last) := by
  induction h with
  | @done base hdone =>
    refine ⟨0, fun fuel _ => ?_⟩
    cases fuel <;> simp only [resetLoop, if_neg hdone]
  | @step base last hdue _ ih =>
    obtain ⟨rounds, hrounds⟩ := ih
    refine ⟨rounds + 1, fun fuel hfuel => ?_⟩
    obtain ⟨fuel, rfl⟩ := Nat.exists_eq_succ_of_ne_zero (show fuel ≠ 0 by omega)
    simp only [resetLoop, if_pos hdue]
    exact hrounds fuel (by omega)

/-! ## The transaction -/

/-- The transaction, with a given number of rounds for its loop. -/
def resetWithin (calendar : Calendar) (fuel : Nat) (db : DB) (sub : UserSubscription)
    (plan : SubscriptionPlan) (now : Int) : Except TxError (UserSubscription × DB) :=
  maybeResetUserSubscriptionWithPlanTx ⟨calendar, 0, fuel⟩ db sub plan now

/-- The subscription after a walk that has passed an instant. -/
def walkedTo (sub : UserSubscription) (last upcoming : Int) : UserSubscription :=
  { sub with amountUsed := 0, lastResetTime := last, nextResetTime := upcoming }

/-- The subscription after its first instant has been stored. -/
def scheduledAt (sub : UserSubscription) (first : Int) : UserSubscription :=
  { sub with nextResetTime := first, lastResetTime := resetBase sub }

lemma resetBase_walkedTo {upcoming : Int} (hlast : 0 < last) :
    resetBase (walkedTo sub last upcoming) = last :=
  if_neg (not_le.mpr hlast)

/-- The last reset is kept as the base of the next walk. -/
lemma resetBase_scheduledAt (first : Int) : resetBase (scheduledAt sub first) = resetBase sub := by
  unfold scheduledAt resetBase
  dsimp only
  split_ifs <;> rfl

lemma period_ne_never {t : Int} (hpos : 0 < nextReset calendar plan endUnix t) :
    plan.quotaResetPeriod ≠ .never := by
  intro h
  simp [nextReset, calcNextResetTime, h] at hpos

lemma resetWithin_waiting (fuel : Nat) (hstored : 0 < sub.nextResetTime)
    (hnow : now < sub.nextResetTime) : resetWithin calendar fuel db sub plan now = .ok (sub, db) :=
  if_pos (.inl ⟨hstored, hnow⟩)

section

variable (hnext : nextReset calendar plan sub.endTime = next)

include hnext

lemma resetWithin_def (fuel : Nat) (db : DB) : resetWithin calendar fuel db sub plan now =
    if (0 < sub.nextResetTime ∧ now < sub.nextResetTime) ∨ plan.quotaResetPeriod = .never then
      pure (sub, db)
    else if 0 < next (resetBase sub) ∧ next (resetBase sub) ≤ now then
      match resetLoop calendar plan sub.endTime now fuel (resetBase sub) (next (resetBase sub)) with
      | none => .error .resetLoopRunning
      | some (base, next) =>
        pure (walkedTo sub base next, db.saveSubscription (walkedTo sub base next))
    else if sub.nextResetTime = 0 ∧ 0 < next (resetBase sub) then
      pure (scheduledAt sub (next (resetBase sub)),
        db.saveSubscription (scheduledAt sub (next (resetBase sub))))
    else pure (sub, db) := by
  subst hnext
  rfl

/-- Nothing happens either when no instant has come and there is none to store. -/
lemma resetWithin_idle (fuel : Nat)
    (hdue : ¬(0 < next (resetBase sub) ∧ next (resetBase sub) ≤ now))
    (hstored : ¬(sub.nextResetTime = 0 ∧ 0 < next (resetBase sub))) :
    resetWithin calendar fuel db sub plan now = .ok (sub, db) := by
  rw [resetWithin_def hnext, if_neg hdue, if_neg hstored, ite_self]
  rfl

/-- An instant that has not come yet is stored. -/
lemma resetWithin_schedules (fuel : Nat) (hpos : 0 < next (resetBase sub))
    (hnow : now < next (resetBase sub)) (hstored : sub.nextResetTime = 0) :
    ∃ db', resetWithin calendar fuel db sub plan now =
      .ok (scheduledAt sub (next (resetBase sub)), db') := by
  have hperiod : plan.quotaResetPeriod ≠ .never := period_ne_never (hnext ▸ hpos)
  rw [resetWithin_def hnext, if_neg (by simp [hstored, hperiod]), if_neg (by omega),
    if_pos ⟨hstored, hpos⟩]
  exact ⟨_, rfl⟩

/-- Once an instant has come, the walk is made and the used amount is emptied. -/
lemma resetWithin_walks (hdue : 0 < next (resetBase sub) ∧ next (resetBase sub) ≤ now)
    (hstored : ¬(0 < sub.nextResetTime ∧ now < sub.nextResetTime))
    (hwalk : Walks next now (resetBase sub) last) :
    ∃ rounds, ∀ fuel, rounds ≤ fuel → ∀ db, ∃ db', resetWithin calendar fuel db sub plan now =
      .ok (walkedTo sub last (next last), db') := by
  have hperiod : plan.quotaResetPeriod ≠ .never := period_ne_never (hnext ▸ hdue.1)
  obtain ⟨rounds, hrounds⟩ := resetLoop_of_walks (hnext ▸ hwalk)
  refine ⟨rounds, fun fuel hfuel db => ?_⟩
  rw [resetWithin_def hnext, if_neg (not_or.mpr ⟨hstored, hperiod⟩), if_pos hdue, ← hnext,
    hrounds fuel hfuel]
  exact ⟨_, rfl⟩

end

/-! ## Sound schedules -/

/-- The first instant lies after the last reset if there is one, and the stored next reset is the
first instant or missing. -/
structure ScheduleSound (next : Int → Int) (sub : UserSubscription) : Prop where
  advances : next (resetBase sub) ≤ 0 ∨ resetBase sub < next (resetBase sub)
  stored : sub.nextResetTime = 0 ∨
    (sub.nextResetTime = next (resetBase sub) ∧ 0 < next (resetBase sub))

/-- What the transaction leaves of a sound schedule, with the end of its walk given. -/
def scheduleAfter (next : Int → Int) (sub : UserSubscription) (now last : Int) :
    UserSubscription :=
  if next (resetBase sub) ≤ 0 then sub
  else if next (resetBase sub) ≤ now then walkedTo sub last (next last)
  else if sub.nextResetTime = 0 then scheduledAt sub (next (resetBase sub))
  else sub

@[simp]
lemma scheduleAfter_endTime (next : Int → Int) (sub : UserSubscription) (now last : Int) :
    (scheduleAfter next sub now last).endTime = sub.endTime := by
  unfold scheduleAfter
  split_ifs <;> rfl

lemma scheduleAfter_amountUsed (last : Int) :
    (scheduleAfter next sub now last).amountUsed =
      if 0 < next (resetBase sub) ∧ next (resetBase sub) ≤ now then 0 else sub.amountUsed := by
  unfold scheduleAfter
  split_ifs <;> first | rfl | omega

lemma scheduleAfter_resume (hle : now ≤ later) (hearly : Walks next now (resetBase sub) last)
    (hdirect : Walks next later (resetBase sub) last₂)
    (hresumed : Walks next later (resetBase (scheduleAfter next sub now last)) last₃) :
    (scheduleAfter next (scheduleAfter next sub now last) later last₃).lastResetTime =
        (scheduleAfter next sub later last₂).lastResetTime ∧
      (scheduleAfter next (scheduleAfter next sub now last) later last₃).nextResetTime =
        (scheduleAfter next sub later last₂).nextResetTime := by
  by_cases hnone : next (resetBase sub) ≤ 0
  · simp [scheduleAfter, hnone]
  by_cases hdue : next (resetBase sub) ≤ now
  · -- the later walk goes on where the earlier one stopped
    have hafter : scheduleAfter next sub now last = walkedTo sub last (next last) := by
      simp [scheduleAfter, hnone, hdue]
    have hdirectly : scheduleAfter next sub later last₂ = walkedTo sub last₂ (next last₂) := by
      simp [scheduleAfter, hnone, hdue.trans hle]
    have hbase : resetBase (walkedTo sub last (next last)) = last :=
      resetBase_walkedTo (hearly.pos ⟨not_le.mp hnone, hdue⟩)
    rw [hafter] at hresumed ⊢
    rw [hbase] at hresumed
    obtain rfl := (hearly.resume hle hdirect).unique hresumed
    rw [hdirectly]
    unfold scheduleAfter
    rw [hbase]
    split_ifs with hend hmore hstored
    · rw [hresumed.eq_of_done (by omega)]
      exact ⟨rfl, rfl⟩
    · exact ⟨rfl, rfl⟩
    · exact absurd hstored (by simp only [walkedTo]; omega)
    · rw [hresumed.eq_of_done (by omega)]
      exact ⟨rfl, rfl⟩
  · by_cases hstored : sub.nextResetTime = 0
    · have hafter : scheduleAfter next sub now last =
          scheduledAt sub (next (resetBase sub)) := by
        simp [scheduleAfter, hnone, hdue, hstored]
      rw [hafter] at hresumed ⊢
      rw [resetBase_scheduledAt] at hresumed
      obtain rfl := hdirect.unique hresumed
      unfold scheduleAfter
      simp only [resetBase_scheduledAt, if_neg hnone]
      split_ifs with hlater hzero
      · exact ⟨rfl, rfl⟩
      · exact absurd hzero (by simp only [scheduledAt]; omega)
      · exact ⟨rfl, rfl⟩
    · have hafter : scheduleAfter next sub now last = sub := by
        simp [scheduleAfter, hnone, hdue, hstored]
      rw [hafter] at hresumed ⊢
      obtain rfl := hdirect.unique hresumed
      exact ⟨rfl, rfl⟩

namespace ScheduleSound

section

variable (hsound : ScheduleSound next sub)

include hsound

lemma exists_walk (hsteady : Steady next) (now : Int) :
    ∃ last, Walks next now (resetBase sub) last := by
  by_cases hpos : 0 < next (resetBase sub)
  · exact Walks.exists_of_forward (fun t => (hsteady _ hpos t).1
      (hsound.advances.resolve_left (not_le.mpr hpos))) _
  · exact ⟨_, .done (by omega)⟩

lemma after (hsteady : Steady next) (hwalk : Walks next now (resetBase sub) last) :
    ScheduleSound next (scheduleAfter next sub now last) := by
  unfold scheduleAfter
  split_ifs with hnone hdue hzero
  · exact hsound
  · -- the walk has advanced to `last`
    have hforward := (hsteady _ (not_le.mp hnone) last).1 (hsound.advances.resolve_left hnone)
    have hlast : 0 < last := hwalk.pos ⟨not_le.mp hnone, hdue⟩
    have hbase : resetBase (walkedTo sub last (next last)) = last := resetBase_walkedTo hlast
    refine ⟨?_, ?_⟩
    · rw [hbase]
      omega
    · rw [hbase]
      exact hforward.imp id fun hahead => ⟨rfl, hlast.trans hahead⟩
  · refine ⟨?_, ?_⟩
    · rw [resetBase_scheduledAt]
      exact hsound.advances
    · rw [resetBase_scheduledAt]
      exact .inr ⟨rfl, not_le.mp hnone⟩
  · exact hsound

lemma nextResetTime_after (hsteady : Steady next) (hwalk : Walks next now (resetBase sub) last) :
    (scheduleAfter next sub now last).nextResetTime = 0 ∨
      now < (scheduleAfter next sub now last).nextResetTime := by
  have hstored := (hsound.after hsteady hwalk).stored
  have hstops := hwalk.stops
  have hbefore := hsound.stored
  revert hstored
  unfold scheduleAfter
  split_ifs with hnone hdue hzero
  · omega
  · rw [resetBase_walkedTo (hwalk.pos ⟨not_le.mp hnone, hdue⟩)]
    simp only [walkedTo]
    omega
  · intro _
    exact .inr (not_le.mp hdue)
  · omega

end

lemma resetWithin_eq (hsound : ScheduleSound next sub)
    (hnext : nextReset calendar plan sub.endTime = next)
    (hwalk : Walks next now (resetBase sub) last) :
    ∃ rounds, ∀ fuel, rounds ≤ fuel → ∀ db, ∃ db', resetWithin calendar fuel db sub plan now =
      .ok (scheduleAfter next sub now last, db') := by
  have hstored := hsound.stored
  unfold scheduleAfter
  by_cases hnone : next (resetBase sub) ≤ 0
  · rw [if_pos hnone]
    refine ⟨0, fun fuel _ db => ⟨db, resetWithin_idle hnext fuel ?_ ?_⟩⟩ <;> omega
  · rw [if_neg hnone]
    by_cases hdue : next (resetBase sub) ≤ now
    · rw [if_pos hdue]
      exact resetWithin_walks hnext ⟨not_le.mp hnone, hdue⟩ (by omega) hwalk
    · rw [if_neg hdue]
      refine ⟨0, fun fuel _ db => ?_⟩
      by_cases hzero : sub.nextResetTime = 0
      · rw [if_pos hzero]
        exact resetWithin_schedules hnext fuel (not_le.mp hnone) (not_le.mp hdue) hzero
      · rw [if_neg hzero]
        refine ⟨db, resetWithin_waiting fuel ?_ ?_⟩ <;> omega

end ScheduleSound

/-! ## Resets compose -/

/-- A reset instant has come since the last reset, or since the start of a subscription without
one. -/
def InstantPassed (next : Int → Int) (sub : UserSubscription) (now : Int) : Prop :=
  ∃ t, After next (resetBase sub) t ∧ resetBase sub < t ∧ t ≤ now

/-- For every used amount and all times `t₁ ≤ t₂`, the transaction ends, running it at both times
leaves the same schedule as running it at `t₂` only, the next reset is missing or in the future, and
the used amount is emptied exactly when an instant has come. -/
def ResetsCompose (calendar : Calendar) (plan : SubscriptionPlan) (sub : UserSubscription) : Prop :=
  ∀ (db : DB) (used t₁ t₂ : Int), t₁ ≤ t₂ →
    ∃ fuel sub₁ db₁ sub₁₂ db₁₂ sub₂ db₂,
      resetWithin calendar fuel db { sub with amountUsed := used } plan t₁ = .ok (sub₁, db₁) ∧
      resetWithin calendar fuel db₁ sub₁ plan t₂ = .ok (sub₁₂, db₁₂) ∧
      resetWithin calendar fuel db { sub with amountUsed := used } plan t₂ = .ok (sub₂, db₂) ∧
      sub₁₂.lastResetTime = sub₂.lastResetTime ∧ sub₁₂.nextResetTime = sub₂.nextResetTime ∧
      (sub₂.nextResetTime = 0 ∨ t₂ < sub₂.nextResetTime) ∧
      (InstantPassed (nextReset calendar plan sub.endTime) sub t₂ → sub₂.amountUsed = 0) ∧
      (¬InstantPassed (nextReset calendar plan sub.endTime) sub t₂ → sub₂.amountUsed = used)

lemma ScheduleSound.instantPassed_iff (hsound : ScheduleSound next sub) (hsteady : Steady next) :
    InstantPassed next sub now ↔ 0 < next (resetBase sub) ∧ next (resetBase sub) ≤ now := by
  constructor
  · rintro ⟨t, hafter, -, hle⟩
    have hahead := hsound.advances.resolve_left (not_le.mpr hafter.pos.1)
    exact ⟨hafter.pos.1, (hafter.first_le hsteady hahead).trans hle⟩
  · rintro ⟨hpos, hle⟩
    exact ⟨_, .first hpos, hsound.advances.resolve_left (not_le.mpr hpos), hle⟩

lemma ScheduleSound.resetsCompose
    (hsound : ScheduleSound (nextReset calendar plan sub.endTime) sub) :
    ResetsCompose calendar plan sub := by
  intro db used t₁ t₂ hle
  have hsteady := nextReset_steady calendar plan sub.endTime
  generalize hnext : nextReset calendar plan sub.endTime = next at hsound hsteady ⊢
  have hused : ScheduleSound next { sub with amountUsed := used } :=
    ⟨hsound.advances, hsound.stored⟩
  obtain ⟨last₁, hearly⟩ := hused.exists_walk hsteady t₁
  obtain ⟨last₂, hdirect⟩ := hused.exists_walk hsteady t₂
  have hafter := hused.after hsteady hearly
  obtain ⟨last₃, hresumed⟩ := hafter.exists_walk hsteady t₂
  obtain ⟨rounds₁, hrun₁⟩ := hused.resetWithin_eq hnext hearly
  obtain ⟨rounds₂, hrun₂⟩ := hused.resetWithin_eq hnext hdirect
  obtain ⟨rounds₃, hrun₃⟩ := hafter.resetWithin_eq (by rwa [scheduleAfter_endTime]) hresumed
  -- rounds that are enough for all three walks
  let fuel := rounds₁ + rounds₂ + rounds₃
  obtain ⟨db₁, h₁⟩ := hrun₁ fuel (by omega) db
  obtain ⟨db₂, h₂⟩ := hrun₂ fuel (by omega) db
  obtain ⟨db₃, h₃⟩ := hrun₃ fuel (by omega) db₁
  obtain ⟨hlast, hupcoming⟩ := scheduleAfter_resume hle hearly hdirect hresumed
  refine ⟨fuel, _, db₁, _, db₃, _, db₂, h₁, h₃, h₂, hlast, hupcoming,
    hused.nextResetTime_after hsteady hdirect, fun hpassed => ?_, fun hnot => ?_⟩
  · rw [scheduleAfter_amountUsed]
    exact if_pos ((hsound.instantPassed_iff hsteady).mp hpassed)
  · rw [scheduleAfter_amountUsed]
    exact if_neg fun hdue => hnot ((hsound.instantPassed_iff hsteady).mpr hdue)

section

variable (h : ResetsCompose calendar plan sub) (hnext : nextReset calendar plan sub.endTime = next)

include h hnext

/-- What composing resets says about one transaction on a subscription with something used. -/
lemma ResetsCompose.single (now : Int) :
    ∃ fuel result db', resetWithin calendar fuel sampleDB { sub with amountUsed := 1 } plan now =
        .ok (result, db') ∧
      (result.nextResetTime = 0 ∨ now < result.nextResetTime) ∧
      (InstantPassed next sub now → result.amountUsed = 0) ∧
      (¬InstantPassed next sub now → result.amountUsed = 1) := by
  obtain ⟨fuel, -, -, -, -, result, db', -, -, hrun, -, -, hupcoming, hpassed, hnot⟩ :=
    h sampleDB 1 now now le_rfl
  exact ⟨fuel, result, db', hrun, hupcoming, hnext ▸ hpassed, hnext ▸ hnot⟩

lemma ResetsCompose.advances : next (resetBase sub) ≤ 0 ∨ resetBase sub < next (resetBase sub) := by
  by_contra hstuck
  push Not at hstuck
  obtain ⟨hpos, hle⟩ := hstuck
  obtain ⟨now, hstored, hcome⟩ : ∃ now, sub.nextResetTime ≤ now ∧ next (resetBase sub) ≤ now :=
    ⟨_, le_max_left _ _, le_max_right _ _⟩
  obtain ⟨fuel, result, db', hrun, -, -, hkept⟩ := h.single hnext now
  subst hnext
  -- all instants lie before the last reset, and still the amount is emptied
  have hnone : ¬InstantPassed (nextReset calendar plan sub.endTime) sub now :=
    fun ⟨t, hafter, hahead, _⟩ => (hafter.le_base (nextReset_steady _ _ _) hle).not_gt hahead
  have hresets : resetsAt ⟨calendar, 0, fuel⟩ { sub with amountUsed := 1 } plan now = true :=
    decide_eq_true ⟨not_or.mpr ⟨fun hwait => hstored.not_gt hwait.2, period_ne_never hpos⟩,
      hpos, hcome⟩
  have hemptied := maybeReset_amountUsed hrun
  rw [if_pos hresets, hkept hnone] at hemptied
  exact absurd hemptied one_ne_zero

lemma ResetsCompose.stored : sub.nextResetTime = 0 ∨
    (sub.nextResetTime = next (resetBase sub) ∧ 0 < next (resetBase sub)) := by
  by_contra hwrong
  push Not at hwrong
  obtain ⟨hstored, hdiffers⟩ := hwrong
  -- a transaction that does nothing leaves a next reset in the future and passes no instant
  have hnothing : ∀ now, (∀ fuel, resetWithin calendar fuel sampleDB { sub with amountUsed := 1 }
      plan now = .ok ({ sub with amountUsed := 1 }, sampleDB)) →
      now < sub.nextResetTime ∧ ¬InstantPassed next sub now := by
    intro now hsame
    obtain ⟨fuel, result, db', hrun, hupcoming, hemptied, -⟩ := h.single hnext now
    obtain ⟨rfl, -⟩ : { sub with amountUsed := 1 } = result ∧ sampleDB = db' := by
      simpa using (hsame fuel).symm.trans hrun
    exact ⟨hupcoming.resolve_left hstored, fun hpassed => absurd (hemptied hpassed) one_ne_zero⟩
  by_cases hdue : 0 < next (resetBase sub) ∧ next (resetBase sub) ≤ sub.nextResetTime
  · -- the first instant passes while the transaction waits for the stored time
    obtain ⟨hpos, hle⟩ := hdue
    have hwait := hle.lt_of_ne fun heq => (hdiffers heq.symm).not_gt hpos
    exact (hnothing _ fun fuel => resetWithin_waiting fuel (hpos.trans hwait) hwait).2
      ⟨_, .first hpos, (h.advances hnext).resolve_left hpos.not_ge, le_rfl⟩
  · -- nothing is due when the stored time comes
    exact (hnothing sub.nextResetTime fun fuel =>
      resetWithin_idle (by exact hnext) fuel hdue fun hzero => hstored hzero.1).1.false

end

/-- A plan that is reset every month. -/
def monthlyPlan : SubscriptionPlan := ⟨3, .subscription, .other, 0, 0, 100, .monthly, 0⟩

/-- A regular subscription without an end that was reset at a time. -/
def resetSubscription (lastResetTime : Int) : UserSubscription :=
  ⟨2, 1, 2, 100, 50, 0, lastResetTime, 0, .active, lastResetTime, 0, lastResetTime⟩

/-- A custom period of `18446744074` seconds is `2 ^ 64` nanoseconds and a fraction of a second. -/
def wrappedPlan : SubscriptionPlan := ⟨2, .subscription, .other, 0, 0, 100, .custom, 18446744074⟩

end Yunbay
