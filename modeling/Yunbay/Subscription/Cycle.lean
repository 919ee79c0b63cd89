import Yunbay.Data.Civil
import Yunbay.Subscription.Schema

/-!
# Quota cycles and resets

A value package is renewed in fixed cycles counted from its start time: when a cycle boundary
has passed, `maybeAdvanceValuePackageCycleTx` empties the used amount and opens the next quota
epoch. A regular subscription is reset on calendar boundaries by
`maybeResetUserSubscriptionWithPlanTx`.

`maybeAdvance_eq_ok` lists the two things the renewal can do.
-/

namespace Yunbay

open Except Civil

variable {db db' : DB} {sub sub' : UserSubscription} {plan : SubscriptionPlan} {now : Int}
  {env : Env}

/-! ## Value packages -/

def valuePackageCycleSeconds (plan : SubscriptionPlan) : Int :=
  if plan.isValuePackage then
    match plan.packageType with
    | .day => 24 * 60 * 60
    | .week => 7 * 24 * 60 * 60
    | .month => 30 * 24 * 60 * 60
    | .other => 0
  else 0

def syncValuePackageCycleSchedule (sub : UserSubscription) (plan : SubscriptionPlan) :
    UserSubscription :=
  let cycleSeconds := valuePackageCycleSeconds plan
  if cycleSeconds ≤ 0 ∨ sub.startTime ≤ 0 then
    { sub with lastResetTime := 0, nextResetTime := 0 }
  else
    let lastResetTime :=
      if sub.lastResetTime < sub.startTime then sub.startTime else sub.lastResetTime
    let nextResetTime := lastResetTime + cycleSeconds
    { sub with
      lastResetTime
      nextResetTime := if 0 < sub.endTime ∧ nextResetTime < sub.endTime then nextResetTime else 0 }

/-- Scheduling touches only the two reset times. -/
lemma syncCycleSchedule_eq (sub : UserSubscription) (plan : SubscriptionPlan) :
    ∃ last next, syncValuePackageCycleSchedule sub plan =
      { sub with lastResetTime := last, nextResetTime := next } := by
  unfold syncValuePackageCycleSchedule
  dsimp only
  split_ifs <;> exact ⟨_, _, rfl⟩

/-- The last cycle boundary that is not after `now`. The division is of non-negative numbers
wherever it is used. -/
def cycleStartAt (sub : UserSubscription) (plan : SubscriptionPlan) (now : Int) : Int :=
  sub.startTime + (now - sub.startTime) / valuePackageCycleSeconds plan *
    valuePackageCycleSeconds plan

/-- A cycle boundary has passed since the last reset. -/
def CycleDue (sub : UserSubscription) (plan : SubscriptionPlan) (now : Int) : Prop :=
  ¬(valuePackageCycleSeconds plan ≤ 0 ∨ sub.startTime ≤ 0 ∨
      now < sub.startTime + valuePackageCycleSeconds plan) ∧
    ¬cycleStartAt sub plan now ≤
      (if sub.lastResetTime < sub.startTime then sub.startTime else sub.lastResetTime)

instance (sub : UserSubscription) (plan : SubscriptionPlan) (now : Int) :
    Decidable (CycleDue sub plan now) := by
  unfold CycleDue
  infer_instance

/-- The subscription at the start of its next cycle. -/
def nextCycle (sub : UserSubscription) (plan : SubscriptionPlan) (now : Int) :
    UserSubscription :=
  let nextCycleStart := cycleStartAt sub plan now + valuePackageCycleSeconds plan
  { sub with
    amountUsed := 0
    quotaEpoch := sub.quotaEpoch + 1
    lastResetTime := cycleStartAt sub plan now
    nextResetTime := if 0 < sub.endTime ∧ sub.endTime ≤ nextCycleStart then 0 else nextCycleStart }

/-- The reset row that goes with `nextCycle`. -/
def cycleReset (sub : UserSubscription) (plan : SubscriptionPlan) (now : Int) :
    ValuePackageQuotaReset where
  userId := sub.userId
  userSubscriptionId := sub.id
  resetAt := cycleStartAt sub plan now
  fromEpoch := sub.quotaEpoch
  toEpoch := sub.quotaEpoch + 1
  amountUsedBefore := sub.amountUsed
  source := .cycleRenewal

/-- `maybeAdvanceValuePackageCycleTx`: the subscription as the caller goes on with it, and the
database. -/
def maybeAdvanceValuePackageCycleTx (db : DB) (sub : UserSubscription) (plan : SubscriptionPlan)
    (now : Int) : Except TxError (UserSubscription × DB) :=
  if CycleDue sub plan now then do
    check (sub.quotaEpoch ≠ maxInt64) .quotaEpochOverflow
    let next := nextCycle sub plan now
    pure (next, (db.createQuotaReset (cycleReset sub plan now)).saveSubscription next)
  else pure (sub, db)

/-- The renewal either leaves everything alone or opens the next epoch with nothing used. -/
theorem maybeAdvance_eq_ok :
    maybeAdvanceValuePackageCycleTx db sub plan now = .ok (sub', db') ↔
      (¬CycleDue sub plan now ∧ sub' = sub ∧ db' = db) ∨
      (CycleDue sub plan now ∧ sub.quotaEpoch ≠ maxInt64 ∧ sub' = nextCycle sub plan now ∧
        db' = (db.createQuotaReset (cycleReset sub plan now)).saveSubscription
          (nextCycle sub plan now)) := by
  unfold maybeAdvanceValuePackageCycleTx
  by_cases hdue : CycleDue sub plan now
  · simp only [if_pos hdue, bind_eq_ok, check_eq_ok, pure_eq_ok,
      Prod.mk.injEq]
    constructor
    · rintro ⟨-, hepoch, rfl, rfl⟩
      exact .inr ⟨hdue, hepoch, rfl, rfl⟩
    · rintro (⟨hnot, -⟩ | ⟨-, hepoch, rfl, rfl⟩)
      · exact absurd hdue hnot
      · exact ⟨(), hepoch, rfl, rfl⟩
  · simp only [if_neg hdue, pure_eq_ok, Prod.mk.injEq]
    constructor
    · rintro ⟨rfl, rfl⟩
      exact .inl ⟨hdue, rfl, rfl⟩
    · rintro (⟨-, rfl, rfl⟩ | ⟨hdue', -⟩)
      · exact ⟨rfl, rfl⟩
      · exact absurd hdue' hdue

lemma cycleStartAt_le (h : CycleDue sub plan now) : cycleStartAt sub plan now ≤ now := by
  have hpos : 0 < valuePackageCycleSeconds plan := by
    by_contra hle
    exact h.1 (.inl (by omega))
  have := Int.ediv_mul_le (now - sub.startTime) (ne_of_gt hpos)
  unfold cycleStartAt
  omega

/-- The renewal writes only the subscription's own row and a reset row. -/
lemma maybeAdvance_frame
    (h : maybeAdvanceValuePackageCycleTx db sub plan now = .ok (sub', db')) :
    db'.plans = db.plans ∧ db'.usageRecords = db.usageRecords ∧
      db'.preConsumeRecords = db.preConsumeRecords := by
  obtain ⟨-, -, rfl⟩ | ⟨-, -, -, rfl⟩ := maybeAdvance_eq_ok.mp h
  · exact ⟨rfl, rfl, rfl⟩
  · exact ⟨rfl, rfl, rfl⟩

lemma maybeAdvance_get?
    (h : maybeAdvanceValuePackageCycleTx db sub plan now = .ok (sub', db'))
    (hget : db.subscriptions.get? sub.id = some sub) :
    db'.subscriptions.get? sub.id = some sub' := by
  obtain ⟨-, rfl, rfl⟩ | ⟨-, -, rfl, rfl⟩ := maybeAdvance_eq_ok.mp h
  · exact hget
  · exact Table.get?_put_self _ (nextCycle sub plan now)

/-! ## Regular subscriptions -/

/-- The calendar of the server's time zone: the next local midnight, the next Monday's and the
next month's first, all after the given time. -/
structure Calendar where
  nextDay : Int → Int
  nextMonday : Int → Int
  nextMonth : Int → Int
  lt_nextDay : ∀ t, t < nextDay t
  lt_nextMonday : ∀ t, t < nextMonday t
  lt_nextMonth : ∀ t, t < nextMonth t

/-- The local day of a time, in a zone that is `offset` seconds ahead of UTC. -/
def localDay (offset t : Int) : Int := (t + offset) / 86400

/-- `base.Weekday()`, with 7 for a Sunday. Day 0 was a Thursday. -/
def weekday (day : Int) : Int := if (day + 4) % 7 = 0 then 7 else (day + 4) % 7

/-- `time.Date` of a day at midnight. -/
def midnight (offset day : Int) : Int := day * 86400 - offset

lemma lt_midnight {offset t day : Int} (h : localDay offset t < day) : t < midnight offset day := by
  unfold localDay at h
  unfold midnight
  omega

/-- The calendar of a zone with a fixed offset. -/
def Calendar.fixedOffset (offset : Int) : Calendar where
  nextDay t := midnight offset (localDay offset t + 1)
  nextMonday t := midnight offset (localDay offset t + (8 - weekday (localDay offset t)))
  nextMonth t := midnight offset (monthStart (monthOf (localDay offset t) + 1))
  lt_nextDay _ := lt_midnight (Int.lt_succ _)
  lt_nextMonday t := lt_midnight (by unfold weekday; split_ifs <;> omega)
  lt_nextMonth t := lt_midnight (monthOf_spec (localDay offset t)).2

/-- What a transaction takes from its surroundings. -/
structure Env where
  calendar : Calendar
  /-- `int64(common.QuotaPerUnit / 100)`. -/
  absoluteDustLimit : Int
  /-- The rounds the model gives to the reset loop of a regular subscription. -/
  resetLoopFuel : Nat

/-- `time.Unix(base, 0).Add(time.Duration(seconds) * time.Second).Unix()`: a duration is an
int64 number of nanoseconds. -/
def addCustomSeconds (base seconds : Int) : Int :=
  base + (seconds * 1000000000).bmod (2 ^ 64) / 1000000000

def calcNextResetTime (calendar : Calendar) (base : Int) (plan : SubscriptionPlan)
    (endUnix : Int) : Int :=
  let clip (next : Int) := if 0 < endUnix ∧ endUnix < next then 0 else next
  match plan.quotaResetPeriod with
  | .never => 0
  | .daily => clip (calendar.nextDay base)
  | .weekly => clip (calendar.nextMonday base)
  | .monthly => clip (calendar.nextMonth base)
  | .custom =>
    if plan.quotaResetCustomSeconds ≤ 0 then 0
    else clip (addCustomSeconds base plan.quotaResetCustomSeconds)

/-- The loop `for next > 0 && next <= now` of `maybeResetUserSubscriptionWithPlanTx`; the
result is the final `base` and `next`, or `none` when the fuel ends first. -/
def resetLoop (calendar : Calendar) (plan : SubscriptionPlan) (endUnix now : Int) :
    Nat → Int → Int → Option (Int × Int)
  | 0, base, next => if 0 < next ∧ next ≤ now then none else some (base, next)
  | fuel + 1, base, next =>
    if 0 < next ∧ next ≤ now then
      resetLoop calendar plan endUnix now fuel next (calcNextResetTime calendar next plan endUnix)
    else some (base, next)

/-- The time the next regular reset is counted from. -/
def resetBase (sub : UserSubscription) : Int :=
  if sub.lastResetTime ≤ 0 then sub.startTime else sub.lastResetTime

def maybeResetUserSubscriptionWithPlanTx (env : Env) (db : DB) (sub : UserSubscription)
    (plan : SubscriptionPlan) (now : Int) : Except TxError (UserSubscription × DB) :=
  if (0 < sub.nextResetTime ∧ now < sub.nextResetTime) ∨ plan.quotaResetPeriod = .never then
    pure (sub, db)
  else
    let base := resetBase sub
    let next := calcNextResetTime env.calendar base plan sub.endTime
    if 0 < next ∧ next ≤ now then
      match resetLoop env.calendar plan sub.endTime now env.resetLoopFuel base next with
      | none => .error .resetLoopRunning
      | some (base, next) =>
        let reset := { sub with amountUsed := 0, lastResetTime := base, nextResetTime := next }
        pure (reset, db.saveSubscription reset)
    else if sub.nextResetTime = 0 ∧ 0 < next then
      let scheduled := { sub with nextResetTime := next, lastResetTime := base }
      pure (scheduled, db.saveSubscription scheduled)
    else pure (sub, db)

/-- A regular reset touches only the subscription's own row, and of it only the used amount and
the schedule; it either keeps the used amount or empties it. -/
lemma maybeReset_ok
    (h : maybeResetUserSubscriptionWithPlanTx env db sub plan now = .ok (sub', db')) :
    (db' = db ∧ sub' = sub) ∨
      ∃ used last next,
        sub' = { sub with amountUsed := used, lastResetTime := last, nextResetTime := next } ∧
        (used = sub.amountUsed ∨ used = 0) ∧
        db' = db.saveSubscription sub' := by
  unfold maybeResetUserSubscriptionWithPlanTx at h
  dsimp only at h
  split_ifs at h
  · simp only [pure_eq_ok, Prod.mk.injEq] at h
    exact .inl ⟨h.2.symm, h.1.symm⟩
  · split at h
    · cases h
    · rename_i base next _
      simp only [pure_eq_ok, Prod.mk.injEq] at h
      obtain ⟨rfl, rfl⟩ := h
      exact .inr ⟨0, base, next, rfl, .inr rfl, rfl⟩
  · simp only [pure_eq_ok, Prod.mk.injEq] at h
    obtain ⟨rfl, rfl⟩ := h
    exact .inr ⟨sub.amountUsed, _, _, rfl, .inl rfl, rfl⟩
  · simp only [pure_eq_ok, Prod.mk.injEq] at h
    exact .inl ⟨h.2.symm, h.1.symm⟩

/-- A reset time of the regular subscription has come. -/
def resetsAt (env : Env) (sub : UserSubscription) (plan : SubscriptionPlan) (now : Int) : Bool :=
  let next := calcNextResetTime env.calendar (resetBase sub) plan sub.endTime
  ¬((0 < sub.nextResetTime ∧ now < sub.nextResetTime) ∨ plan.quotaResetPeriod = .never) ∧
    0 < next ∧ next ≤ now

lemma maybeReset_amountUsed
    (h : maybeResetUserSubscriptionWithPlanTx env db sub plan now = .ok (sub', db')) :
    sub'.amountUsed = if resetsAt env sub plan now then 0 else sub.amountUsed := by
  unfold maybeResetUserSubscriptionWithPlanTx at h
  dsimp only at h
  split_ifs at h with hwait hdue hunset
  · cases h
    exact (if_neg fun hresets => (of_decide_eq_true hresets).1 hwait).symm
  · rw [if_pos]
    · split at h
      · cases h
      · cases h
        rfl
    · exact decide_eq_true ⟨hwait, hdue⟩
  · cases h
    exact (if_neg fun hresets => hdue (of_decide_eq_true hresets).2).symm
  · cases h
    exact (if_neg fun hresets => hdue (of_decide_eq_true hresets).2).symm

lemma maybeReset_of_due (hdue : 0 < sub.nextResetTime)
    (h : maybeResetUserSubscriptionWithPlanTx env db sub plan now = .ok (sub', db')) :
    sub' = sub ∨ sub'.amountUsed = 0 := by
  unfold maybeResetUserSubscriptionWithPlanTx at h
  dsimp only at h
  split_ifs at h with _ _ hunset
  · cases h
    exact .inl rfl
  · split at h
    · cases h
    · cases h
      exact .inr rfl
  · omega
  · cases h
    exact .inl rfl

end Yunbay
