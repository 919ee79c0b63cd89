import Yunbay.Purchase.Lifecycle

/-!
# The cycle schedule of a value package

A value package runs in cycles of fixed length. Four writers move its schedule: the sale that
creates it, the sale that extends it, the renewal of a due cycle and the background job. A reset
card opens a new quota epoch and leaves the schedule alone. `CycleSchedule` is the invariant.
-/

namespace Yunbay

open Except Run Table

variable {db db' db₁ : DB} {plan : SubscriptionPlan} {id userId endUnix : Int} {requestId : String}
  {result : SubscriptionPreConsumeResult}

/-! ## One row -/

/-- The schedule of a package with cycles of `c` seconds, seen at the time `clock`. -/
structure CycleSchedule (c clock : Int) (sub : UserSubscription) : Prop where
  start_pos : 0 < sub.startTime
  end_pos : 0 < sub.endTime
  last_le : sub.lastResetTime ≤ clock
  cycle : ∃ k, 0 ≤ k ∧ sub.lastResetTime = sub.startTime + k * c
  next : sub.nextResetTime =
    if sub.lastResetTime + c < sub.endTime then sub.lastResetTime + c else 0

/-- The columns that the schedule depends on. -/
structure SameSchedule (sub sub' : UserSubscription) : Prop where
  startTime : sub'.startTime = sub.startTime
  endTime : sub'.endTime = sub.endTime
  lastResetTime : sub'.lastResetTime = sub.lastResetTime
  nextResetTime : sub'.nextResetTime = sub.nextResetTime

/-- The last reset lies in the cycle of the time `t`. -/
def CurrentAt (t c : Int) (sub : UserSubscription) : Prop :=
  sub.lastResetTime = sub.startTime + (t - sub.startTime) / c * c

section Row

variable {c clock now : Int} {sub sub' : UserSubscription}

namespace CycleSchedule

section

variable (h : CycleSchedule c clock sub)

include h

lemma wait (hle : clock ≤ now) : CycleSchedule c now sub :=
  { h with last_le := h.last_le.trans hle }

lemma congr (hsame : SameSchedule sub sub') : CycleSchedule c clock sub' := by
  obtain ⟨hstart, hend, hlast, hnext⟩ := hsame
  refine ⟨?_, ?_, ?_, ?_, ?_⟩
  · rw [hstart]
    exact h.start_pos
  · rw [hend]
    exact h.end_pos
  · rw [hlast]
    exact h.last_le
  · rw [hlast, hstart]
    exact h.cycle
  · rw [hnext, hlast, hend]
    exact h.next

lemma start_le_last (hc : 0 ≤ c) : sub.startTime ≤ sub.lastResetTime := by
  obtain ⟨k, hk, hlast⟩ := h.cycle
  have := mul_nonneg hk hc
  omega

end

section

variable (h : CycleSchedule (valuePackageCycleSeconds plan) clock sub)

include h

lemma current_of_not_due (hpos : 0 < valuePackageCycleSeconds plan) (hle : clock ≤ now)
    (hdue : ¬CycleDue sub plan now) : CurrentAt now (valuePackageCycleSeconds plan) sub := by
  have hstart := h.start_le_last hpos.le
  obtain ⟨k, hk, hlast⟩ := h.cycle
  have hlastNow := h.last_le.trans hle
  -- the stored cycle is not a later one; not due says that it is not an earlier one
  have hupper : k ≤ (now - sub.startTime) / valuePackageCycleSeconds plan :=
    Int.le_ediv_of_mul_le hpos (by omega)
  have hlower : (now - sub.startTime) / valuePackageCycleSeconds plan ≤ k := by
    unfold CycleDue at hdue
    rw [if_neg (not_lt.mpr hstart), not_and_or, not_not, not_not] at hdue
    rcases hdue with (hcycle | hbegin | hfirst) | hsame
    · omega
    · exact absurd h.start_pos (not_lt.mpr hbegin)
    · rw [Int.ediv_eq_zero_of_lt (by omega) (by omega)]
      exact hk
    · unfold cycleStartAt at hsame
      rw [hlast] at hsame
      exact le_of_mul_le_mul_right (by omega) hpos
  unfold CurrentAt
  rw [hlast, le_antisymm hlower hupper]

lemma nextCycle (hdue : CycleDue sub plan now) :
    CycleSchedule (valuePackageCycleSeconds plan) now (nextCycle sub plan now) where
  start_pos := h.start_pos
  end_pos := h.end_pos
  last_le := cycleStartAt_le hdue
  cycle := by
    refine ⟨(now - sub.startTime) / valuePackageCycleSeconds plan, ?_, rfl⟩
    have hstarted := hdue.1
    exact Int.ediv_nonneg (by omega) (by omega)
  next := by
    have hend := h.end_pos
    show (if 0 < sub.endTime ∧
          sub.endTime ≤ cycleStartAt sub plan now + valuePackageCycleSeconds plan then 0
        else cycleStartAt sub plan now + valuePackageCycleSeconds plan) =
      if cycleStartAt sub plan now + valuePackageCycleSeconds plan < sub.endTime then
        cycleStartAt sub plan now + valuePackageCycleSeconds plan
      else 0
    split_ifs <;> omega

lemma advance (hpos : 0 < valuePackageCycleSeconds plan) (hle : clock ≤ now)
    (hadvance : maybeAdvanceValuePackageCycleTx db sub plan now = .ok (sub', db')) :
    CycleSchedule (valuePackageCycleSeconds plan) now sub' ∧
      CurrentAt now (valuePackageCycleSeconds plan) sub' := by
  obtain ⟨hdue, rfl, -⟩ | ⟨hdue, -, rfl, -⟩ := maybeAdvance_eq_ok.mp hadvance
  · exact ⟨h.wait hle, h.current_of_not_due hpos hle hdue⟩
  · exact ⟨h.nextCycle hdue, rfl⟩

end

/-- The renewal of an exhausted package for one cycle. -/
lemma renewed (sub : UserSubscription) (hc : 0 < c) (hnow : 0 < now) :
    CycleSchedule c now (renewedSubscription sub plan now (now + c)) ∧
      CurrentAt now c (renewedSubscription sub plan now (now + c)) := by
  refine ⟨⟨hnow, add_pos hnow hc, le_rfl, ⟨0, le_rfl, ?_⟩, ?_⟩, ?_⟩
  · show now = now + 0 * c
    omega
  · show 0 = if now + c < now + c then now + c else 0
    rw [if_neg (lt_irrefl _)]
  · show now = now + (now - now) / c * c
    simp

/-- What scheduling does to a package that has begun. -/
lemma sync (sub : UserSubscription) (hpos : 0 < valuePackageCycleSeconds plan)
    (hstart : 0 < sub.startTime) (hend : 0 < sub.endTime) (hlast : sub.lastResetTime ≤ now)
    (hcycle : ∃ k, 0 ≤ k ∧ max sub.startTime sub.lastResetTime =
      sub.startTime + k * valuePackageCycleSeconds plan) (hle : sub.startTime ≤ now) :
    CycleSchedule (valuePackageCycleSeconds plan) now (syncValuePackageCycleSchedule sub plan) ∧
      (syncValuePackageCycleSchedule sub plan).startTime = sub.startTime ∧
      (syncValuePackageCycleSchedule sub plan).lastResetTime =
        max sub.startTime sub.lastResetTime := by
  have hmax : (if sub.lastResetTime < sub.startTime then sub.startTime else sub.lastResetTime) =
      max sub.startTime sub.lastResetTime := by
    split_ifs <;> omega
  unfold syncValuePackageCycleSchedule
  dsimp only
  rw [if_neg (by omega), hmax]
  refine ⟨⟨hstart, hend, max_le hle hlast, hcycle, ?_⟩, rfl, rfl⟩
  simp only [hend, true_and]

lemma extended (h : CycleSchedule (valuePackageCycleSeconds plan) now sub)
    (hpos : 0 < valuePackageCycleSeconds plan)
    (hcurrent : CurrentAt now (valuePackageCycleSeconds plan) sub) {duration : Int}
    (hduration : 0 < duration) :
    CycleSchedule (valuePackageCycleSeconds plan) now (extendedSubscription sub plan now duration) ∧
      CurrentAt now (valuePackageCycleSeconds plan)
        (extendedSubscription sub plan now duration) := by
  have hstart := h.start_le_last hpos.le
  have hend := h.end_pos
  have hlonger : 0 < max sub.endTime now + duration := by
    have := le_max_left sub.endTime now
    omega
  have hmax : max sub.startTime sub.lastResetTime = sub.lastResetTime := max_eq_right hstart
  obtain ⟨hschedule, hsameStart, hsameLast⟩ :=
    sync { sub with endTime := max sub.endTime now + duration } hpos h.start_pos hlonger
      h.last_le (by rw [hmax]; exact h.cycle) (hstart.trans h.last_le)
  refine ⟨hschedule, ?_⟩
  unfold CurrentAt extendedSubscription
  rw [hsameStart, hsameLast, hmax]
  exact hcurrent

lemma created (hpos : 0 < valuePackageCycleSeconds plan) (hnow : 0 < now)
    (id userId createdAt : Int) :
    CycleSchedule (valuePackageCycleSeconds plan) now
        (newValuePackage id userId plan now (now + valuePackageCycleSeconds plan) createdAt) ∧
      CurrentAt now (valuePackageCycleSeconds plan)
        (newValuePackage id userId plan now (now + valuePackageCycleSeconds plan) createdAt) := by
  have hmax : max now 0 = now := max_eq_left hnow.le
  obtain ⟨hschedule, hstart, hlast⟩ :=
    sync ⟨id, userId, plan.id, plan.totalAmount, 0, 0, now, now + valuePackageCycleSeconds plan,
      .active, 0, 0, createdAt⟩ hpos hnow (add_pos hnow hpos) hnow.le
      ⟨0, le_rfl, by simp [hmax]⟩ le_rfl
  refine ⟨hschedule, ?_⟩
  unfold CurrentAt newValuePackage
  rw [hstart, hlast, hmax]
  simp

end CycleSchedule

end Row

/-! ## The table of subscriptions -/

/-- Of the subscriptions, a transaction writes one stored row. -/
structure RowWritten (db db' : DB) (old row : UserSubscription) : Prop where
  stored : db.subscriptions.get? old.id = some old
  written : db'.subscriptions.get? old.id = some row
  others : ∀ id, id ≠ old.id → db'.subscriptions.get? id = db.subscriptions.get? id
  plans : db'.plans = db.plans

section Table

variable {old mid row : UserSubscription}

namespace RowWritten

lemma refl (h : db.subscriptions.get? old.id = some old) : RowWritten db db old old :=
  ⟨h, h, fun _ _ => rfl, rfl⟩

lemma congr (h : RowWritten db db₁ old mid) (hsubs : db'.subscriptions = db₁.subscriptions)
    (hplans : db'.plans = db₁.plans) : RowWritten db db' old mid := by
  refine ⟨h.stored, ?_, fun id hne => ?_, hplans.trans h.plans⟩
  · rw [hsubs]
    exact h.written
  · rw [hsubs]
    exact h.others id hne

lemma save (h : RowWritten db db₁ old mid) (row : UserSubscription) (hid : row.id = old.id)
    (hsubs : db'.subscriptions = db₁.subscriptions.put row) (hplans : db'.plans = db₁.plans) :
    RowWritten db db' old row := by
  refine ⟨h.stored, ?_, fun id hne => ?_, hplans.trans h.plans⟩
  · rw [hsubs, get?_put, if_pos hid]
  · rw [hsubs, get?_put_of_ne _ (hid ▸ hne.symm)]
    exact h.others id hne

/-- The renewal of a due cycle writes the row it returns. -/
lemma advance {now : Int} (h : db.subscriptions.get? old.id = some old)
    (hadvance : maybeAdvanceValuePackageCycleTx db old plan now = .ok (row, db')) :
    RowWritten db db' old row := by
  obtain ⟨-, rfl, rfl⟩ | ⟨-, -, rfl, rfl⟩ := maybeAdvance_eq_ok.mp hadvance
  · exact refl h
  · exact (refl h).save (nextCycle old plan now) rfl rfl rfl

end RowWritten

end Table

/-- The subscription `sid`, while it is an active package with cycles, is on schedule. -/
def Scheduled (sid clock : Int) (db : DB) : Prop :=
  ∀ sub plan, db.subscriptions.get? sid = some sub → sub.status = .active →
    getSubscriptionPlanByIdTx db sub.planId = .ok plan → 0 < valuePackageCycleSeconds plan →
    CycleSchedule (valuePackageCycleSeconds plan) clock sub

/-- The subscription `sid`, while it is an active package with cycles, is in the cycle of `t`. -/
def RenewedAt (sid t : Int) (db : DB) : Prop :=
  ∀ sub plan, db.subscriptions.get? sid = some sub → sub.status = .active →
    getSubscriptionPlanByIdTx db sub.planId = .ok plan → 0 < valuePackageCycleSeconds plan →
    CurrentAt t (valuePackageCycleSeconds plan) sub

/-- The epoch of the subscription `sid` does not decrease. -/
def EpochKept (sid : Int) (db db' : DB) : Prop :=
  ∀ sub, db.subscriptions.get? sid = some sub →
    ∃ sub', db'.subscriptions.get? sid = some sub' ∧ sub.quotaEpoch ≤ sub'.quotaEpoch

lemma EpochKept.trans {sid : Int} (h : EpochKept sid db db₁) (h' : EpochKept sid db₁ db') :
    EpochKept sid db db' := by
  intro sub hsub
  obtain ⟨mid, hmid, hle⟩ := h sub hsub
  obtain ⟨sub', hsub', hle'⟩ := h' mid hmid
  exact ⟨sub', hsub', hle.trans hle'⟩

/-- What a transaction at the time `now` does for the subscription `sid`. -/
structure ScheduleStep (sid clock now : Int) (db db' : DB) : Prop where
  plans : db'.plans = db.plans
  schedule : Scheduled sid clock db → Scheduled sid now db'
  epoch : EpochKept sid db db'

section Step

variable {sid clock now : Int} {sub adv row : UserSubscription}

namespace ScheduleStep

lemma of_unchanged (hle : clock ≤ now) (hsubs : db'.subscriptions = db.subscriptions)
    (hplans : db'.plans = db.plans) : ScheduleStep sid clock now db db' where
  plans := hplans
  schedule h sub plan hget hactive hplan hpos := by
    rw [hsubs] at hget
    rw [planById_congr hplans] at hplan
    exact (h sub plan hget hactive hplan hpos).wait hle
  epoch sub hget := by
    rw [hsubs]
    exact ⟨sub, hget, le_rfl⟩

lemma trans {mid : Int} (h : ScheduleStep sid clock mid db db₁)
    (h' : ScheduleStep sid mid now db₁ db') : ScheduleStep sid clock now db db' :=
  ⟨h'.plans.trans h.plans, fun hstart => h'.schedule (h.schedule hstart), h.epoch.trans h'.epoch⟩

lemma of_row (hle : clock ≤ now) (hrow : RowWritten db db' sub row)
    (hplanId : row.planId = sub.planId) (hactive : row.status = .active → sub.status = .active)
    (hepoch : sub.quotaEpoch ≤ row.quotaEpoch)
    (hschedule : ∀ plan, getSubscriptionPlanByIdTx db sub.planId = .ok plan →
      0 < valuePackageCycleSeconds plan →
      CycleSchedule (valuePackageCycleSeconds plan) clock sub →
      CycleSchedule (valuePackageCycleSeconds plan) now row) :
    ScheduleStep sid clock now db db' where
  plans := hrow.plans
  schedule h stored plan hget hstatus hplan hpos := by
    rw [planById_congr hrow.plans] at hplan
    by_cases hid : sid = sub.id
    · subst hid
      rw [hrow.written] at hget
      obtain rfl := Option.some.inj hget
      rw [hplanId] at hplan
      exact hschedule plan hplan hpos (h sub plan hrow.stored (hactive hstatus) hplan hpos)
    · rw [hrow.others sid hid] at hget
      exact (h stored plan hget hstatus hplan hpos).wait hle
  epoch stored hget := by
    by_cases hid : sid = sub.id
    · subst hid
      rw [hrow.stored] at hget
      obtain rfl := Option.some.inj hget
      exact ⟨row, hrow.written, hepoch⟩
    · rw [← hrow.others sid hid] at hget
      exact ⟨stored, hget, le_rfl⟩

end ScheduleStep

/-- A transaction that renews a due cycle of the package `id` and then changes its used amount at
most. -/
structure PackageOpened (id now : Int) (db db' : DB) : Prop where
  opened : ∃ sub plan adv db₁ used, sub.id = id ∧
    getSubscriptionPlanByIdTx db sub.planId = .ok plan ∧ sub.status = .active ∧
    maybeAdvanceValuePackageCycleTx db sub plan now = .ok (adv, db₁) ∧
    RowWritten db db' sub { adv with amountUsed := used }

/-- A charged row has the schedule of the row that is charged. -/
lemma sameSchedule_used (sub : UserSubscription) (used : Int) :
    SameSchedule sub { sub with amountUsed := used } := ⟨rfl, rfl, rfl, rfl⟩

namespace PackageOpened

lemma step (h : PackageOpened id now db db') (hle : clock ≤ now) :
    ScheduleStep sid clock now db db' := by
  obtain ⟨sub, plan, adv, db₁, used, -, hplan, hactive, hadvance, hrow⟩ := h.opened
  obtain ⟨⟨-, -, hplanId, -, -, hepoch⟩, -⟩ := maybeAdvance_row hadvance
  refine .of_row hle hrow hplanId (fun _ => hactive) hepoch fun plan' hplan' hpos hschedule => ?_
  obtain rfl : plan = plan' := Except.ok.inj (hplan.symm.trans hplan')
  exact (hschedule.advance hpos hle hadvance).1.congr (sameSchedule_used adv used)

/-- The package is in the cycle of the present afterwards. -/
lemma renewedAt (h : PackageOpened sid now db db') (hle : clock ≤ now)
    (hstart : Scheduled sid clock db) : RenewedAt sid now db' := by
  obtain ⟨sub, plan, adv, db₁, used, rfl, hplan, hactive, hadvance, hrow⟩ := h.opened
  obtain ⟨⟨-, -, hplanId, -, -, -⟩, -⟩ := maybeAdvance_row hadvance
  intro stored plan' hget hstatus hplan' hpos
  rw [hrow.written] at hget
  obtain rfl := Option.some.inj hget
  rw [planById_congr hrow.plans] at hplan'
  dsimp only at hplan'
  rw [hplanId] at hplan'
  obtain rfl : plan = plan' := Except.ok.inj (hplan.symm.trans hplan')
  exact ((hstart sub plan hrow.stored hactive hplan hpos).advance hpos hle hadvance).2

end PackageOpened

/-! ## The transactions -/

/-- The opening of the pre-consume and reserve transactions. -/
lemma openValuePackageTx_row (h : openValuePackageTx db userId id now = .ok (adv, plan, db₁)) :
    ∃ sub, sub.id = id ∧ getSubscriptionPlanByIdTx db sub.planId = .ok plan ∧
      sub.status = .active ∧ maybeAdvanceValuePackageCycleTx db sub plan now = .ok (adv, db₁) ∧
      RowWritten db db₁ sub adv ∧ adv.id = sub.id := by
  obtain ⟨sub, hget, -, hactive, -, hplan, -, hadvance⟩ := openValuePackageTx_ok h
  have hid : sub.id = id := key_of_get? hget
  rw [← hid] at hget
  exact ⟨sub, hid, hplan, hactive, hadvance, .advance hget hadvance,
    (maybeAdvance_row hadvance).1.1⟩

lemma preConsumePackage_opened {amount : Int}
    (hnew : db.preConsumeRecords.get? requestId = none)
    (h : preConsumeValuePackageSubscription db now requestId userId id amount = .ok (result, db')) :
    PackageOpened id now db db' := by
  obtain ⟨-, existing, hexisting, -⟩ | ⟨-, -, adv, plan, db₁, hopen, -, rfl, -⟩ :=
    preConsumePackage_ok h
  · rw [hnew] at hexisting
    cases hexisting
  · obtain ⟨sub, hid, hplan, hactive, hadvance, hrow, hadv⟩ := openValuePackageTx_row hopen
    exact ⟨sub, plan, adv, db₁, adv.amountUsed + amount, hid, hplan, hactive, hadvance,
      hrow.save _ hadv rfl rfl⟩

lemma reserveUsage_opened {targetQuota : Int}
    (h : reserveValuePackageUsageToTarget db now requestId userId id targetQuota =
      .ok (result, db')) : PackageOpened id now db db' := by
  obtain ⟨-, adv, plan, db₁, request, hopen, -, hwrite⟩ := reserveUsage_ok h
  obtain ⟨sub, hid, hplan, hactive, hadvance, hrow, hadv⟩ := openValuePackageTx_row hopen
  rcases hwrite with ⟨-, rfl⟩ | ⟨-, ⟨-, rfl⟩ | ⟨-, -, rfl⟩⟩
  · exact ⟨sub, plan, adv, db', adv.amountUsed, hid, hplan, hactive, hadvance, hrow⟩
  · exact ⟨sub, plan, adv, db₁, adv.amountUsed, hid, hplan, hactive, hadvance,
      hrow.congr rfl rfl⟩
  · exact ⟨sub, plan, adv, db₁, _, hid, hplan, hactive, hadvance,
      hrow.save (chargeUsed adv (targetQuota - request.currentQuota)) hadv rfl rfl⟩

/-- A refund changes the used amount at most. -/
lemma refundPreConsume_schedule (hle : clock ≤ now) {u : Unit}
    (h : refundSubscriptionPreConsume db now requestId = .ok (u, db')) :
    ScheduleStep sid clock now db db' := by
  obtain ⟨-, record, -, ⟨-, rfl⟩ | ⟨-, sub, plan, db₁, hget, -, hrefund, rfl⟩⟩ :=
    refundPreConsume_ok h
  · obtain ⟨hplans, -, hsubs⟩ := revokeUsage_frame db
      record.userSubscriptionId requestId
    exact .of_unchanged hle hsubs hplans
  · obtain hid : sub.id = record.userSubscriptionId := key_of_get? hget
    rw [← hid] at hget
    obtain ⟨hplans, -, hsubs⟩ := revokeUsage_frame db₁
      record.userSubscriptionId requestId
    rcases refundSubscription_ok hrefund with rfl | ⟨delta, -, rfl⟩
    · exact .of_unchanged hle hsubs hplans
    · have hrow := (RowWritten.refl hget).save (chargeUsed sub delta) rfl hsubs hplans
      exact .of_row hle (hrow.congr rfl rfl) rfl id le_rfl
        fun plan _ _ hschedule => (hschedule.wait hle).congr (sameSchedule_used sub _)

lemma consumeResetCount_schedule (hle : clock ≤ now)
    {userSubscriptionId resetAt : Int} {state : ValuePackageState}
    (h : consumeValuePackageResetCount db now userId userSubscriptionId resetAt =
      .ok (state, db')) : ScheduleStep sid clock now db db' := by
  obtain ⟨_, sub, plan, -, -, -, hget, -, -, -, -, -, -, -, rfl⟩ :=
    consumeResetCount_inv h
  exact .of_row hle ((RowWritten.refl hget).save (resetCardSubscription sub) rfl rfl rfl) rfl id
    (Int.lt_add_one_of_le le_rfl).le
    fun plan _ _ hschedule => (hschedule.wait hle).congr ⟨rfl, rfl, rfl, rfl⟩

/-- The background job renews due cycles. -/
lemma resetDue_schedule (env : Env) (hle : clock ≤ now) (limit : Int) :
    ScheduleStep sid clock now db (resetDueSubscriptions env db now limit) := by
  refine resetDue_induction (fun reached => ScheduleStep sid clock now db reached)
    ?_ ?_ limit (.of_unchanged hle rfl rfl)
  · intro reached sub plan adv next hreached hget hplan hpackage hadvance
    have hrow := RowWritten.advance hget hadvance
    obtain ⟨⟨-, -, hplanId, hstatus, -, hepoch⟩, -⟩ := maybeAdvance_row hadvance
    refine hreached.trans (.of_row le_rfl hrow hplanId (fun hactive => hstatus ▸ hactive) hepoch ?_)
    intro plan' hplan' hpos hschedule
    obtain rfl : plan = plan' := Except.ok.inj (hplan.symm.trans hplan')
    exact (hschedule.advance hpos le_rfl hadvance).1
  · -- a regular subscription has no cycles
    intro reached sub plan sub' next hreached hget _ hplan hpackage hreset
    obtain ⟨rfl, rfl⟩ | ⟨used, last, nextReset, rfl, -, rfl⟩ :=
      maybeReset_ok hreset
    · exact hreached
    · have hrow := (RowWritten.refl hget).save
        { sub with amountUsed := used, lastResetTime := last, nextResetTime := nextReset } rfl
        (rfl : (reached.saveSubscription _).subscriptions = _) rfl
      refine hreached.trans (.of_row le_rfl hrow rfl id le_rfl fun plan' hplan' hpos => ?_)
      obtain rfl : plan = plan' := Except.ok.inj (hplan.symm.trans hplan')
      unfold valuePackageCycleSeconds at hpos
      rw [hpackage] at hpos
      exact absurd hpos (lt_irrefl 0)

/-- The extension of a package. -/
def PackageOp.isExtend : PackageOp → Bool
  | .extend .. => true
  | _ => false

/-- Every transaction on packages but the extension, which belongs to a sale. -/
lemma packageStep_schedule (env : Env) {op : PackageOp} (hle : clock ≤ op.clock)
    (hop : op.isExtend = false) : ScheduleStep sid clock op.clock db (packageStep env db op) := by
  have hsame : ScheduleStep sid clock op.clock db db := .of_unchanged hle rfl rfl
  cases op with
  | preConsume now requestId userId id amount =>
    refine commit_induction (ScheduleStep sid clock now db) hsame fun _ db' h => ?_
    cases hrecord : db.preConsumeRecords.get? requestId with
    | none => exact (preConsumePackage_opened hrecord h).step hle
    | some record =>
      obtain ⟨rfl, -⟩ | ⟨hnone, -⟩ := preConsumePackage_ok h
      · exact hsame
      · rw [hrecord] at hnone
        cases hnone
  | reserve now requestId userId id targetQuota =>
    exact commit_induction (ScheduleStep sid clock now db) hsame fun _ db' h =>
      (reserveUsage_opened h).step hle
  | refund now requestId =>
    exact commit_induction (ScheduleStep sid clock now db) hsame fun _ db' h =>
      refundPreConsume_schedule hle h
  | consumeResetCount now userId id resetAt =>
    exact commit_induction (ScheduleStep sid clock now db) hsame fun _ db' h =>
      consumeResetCount_schedule hle h
  | extend => cases hop
  | resetDue now limit => exact resetDue_schedule env hle limit
  | cleanup now olderThanSeconds => exact .of_unchanged hle rfl rfl

end Step

/-! ## Sales -/

lemma calcPlanEndTime_package {env : ShopEnv} {shop : Shop} {start : Int}
    (hpos : 0 < valuePackageCycleSeconds plan)
    (h : calcPlanEndTime env start (shop.termsOf plan) = .ok endUnix) :
    endUnix = start + valuePackageCycleSeconds plan := by
  unfold valuePackageCycleSeconds at hpos ⊢
  split_ifs at hpos ⊢ with hpackage
  · obtain ⟨_, h⟩ := of_bind h
    unfold Shop.termsOf normalizePlanTerms at h
    dsimp only at h
    rw [if_pos hpackage] at h
    cases htype : plan.packageType with
    | other =>
      rw [htype] at hpos
      exact absurd hpos (lt_irrefl 0)
    | _ =>
      rw [htype] at h
      exact (Except.ok.inj h).symm
  · exact absurd hpos (lt_irrefl 0)

section Sale

variable {sid clock now : Int} {row : UserSubscription}

lemma ScheduleStep.of_created (hle : clock ≤ now)
    (hnone : db.subscriptions.get? row.id = none)
    (hsubs : db'.subscriptions = db.subscriptions.put row) (hplans : db'.plans = db.plans)
    (hschedule : ∀ plan, getSubscriptionPlanByIdTx db row.planId = .ok plan →
      0 < valuePackageCycleSeconds plan →
      CycleSchedule (valuePackageCycleSeconds plan) now row) :
    ScheduleStep sid clock now db db' where
  plans := hplans
  schedule h stored plan hget hstatus hplan hpos := by
    rw [planById_congr hplans] at hplan
    rw [hsubs, get?_put] at hget
    split_ifs at hget
    · obtain rfl := Option.some.inj hget
      exact hschedule plan hplan hpos
    · exact (h stored plan hget hstatus hplan hpos).wait hle
  epoch stored hget := by
    have hne : row.id ≠ sid := by
      rintro rfl
      rw [hnone] at hget
      cases hget
    rw [hsubs, get?_put_of_ne _ hne]
    exact ⟨stored, hget, le_rfl⟩

variable {env : ShopEnv} {shop sold : Shop} {times : SaleTimes} {planId : Int}
  {completed : UserSubscription}

section

variable (hplan : getSubscriptionPlanByIdTx shop.db planId = .ok plan)
  (hend : calcPlanEndTime env times.nowUnix (shop.termsOf plan) = .ok endUnix)

include hplan hend

/-- The row that a sale creates is on the plan that is sold, and on schedule. -/
lemma newValuePackage_schedule (hnow : 0 < times.nowUnix)
    (hnew : completed =
      newValuePackage shop.nextSubscriptionId userId plan times.nowUnix endUnix times.timestamp)
    {plan' : SubscriptionPlan}
    (hplan' : getSubscriptionPlanByIdTx shop.db completed.planId = .ok plan')
    (hpos : 0 < valuePackageCycleSeconds plan') :
    CycleSchedule (valuePackageCycleSeconds plan') times.nowUnix completed ∧
      CurrentAt times.nowUnix (valuePackageCycleSeconds plan') completed := by
  have hid : completed.planId = planId := by
    obtain ⟨last, next, heq⟩ := newValuePackage_eq shop.nextSubscriptionId userId plan times.nowUnix
      endUnix times.timestamp
    rw [hnew, heq]
    exact planById_id hplan
  rw [hid] at hplan'
  obtain rfl : plan = plan' := Except.ok.inj (hplan.symm.trans hplan')
  rw [calcPlanEndTime_package hpos hend] at hnew
  subst hnew
  exact CycleSchedule.created hpos hnow _ _ _

lemma extend_schedule (hle : clock ≤ times.nowUnix) {existing : UserSubscription}
    {currentPlan : SubscriptionPlan}
    (hrunning : RunningPackage shop.db userId times.intentNow existing currentPlan)
    (hsame : plan.id = currentPlan.id)
    (hextend : extendValuePackageSubscriptionTx env.env shop.db existing.id plan times.nowUnix
      endUnix = .ok (completed, db₁)) :
    RowWritten shop.db db₁ existing completed ∧ completed.planId = existing.planId ∧
      existing.quotaEpoch ≤ completed.quotaEpoch ∧
      ∀ plan', getSubscriptionPlanByIdTx shop.db existing.planId = .ok plan' →
        0 < valuePackageCycleSeconds plan' →
        CycleSchedule (valuePackageCycleSeconds plan') clock existing →
        CycleSchedule (valuePackageCycleSeconds plan') times.nowUnix completed ∧
          CurrentAt times.nowUnix (valuePackageCycleSeconds plan') completed := by
  obtain ⟨-, hnow, hduration, stored, adv, db₂, _, hget, -, hadvance, -, hwrite⟩ :=
    extendPackage_inv hextend
  rw [hrunning.stored] at hget
  obtain rfl := Option.some.inj hget
  obtain ⟨⟨hid, -, hplanId, -, -, hepoch⟩, -⟩ := maybeAdvance_row hadvance
  have hrow := RowWritten.advance hrunning.stored hadvance
  -- the running package is of the plan that is sold
  have hplans (plan' : SubscriptionPlan)
      (hplan' : getSubscriptionPlanByIdTx shop.db existing.planId = .ok plan') : plan = plan' := by
    obtain rfl : currentPlan = plan' := Except.ok.inj (hrunning.hasPlan.symm.trans hplan')
    rw [← planById_id hplan', ← hsame, planById_id hplan]
      at hplan'
    exact Except.ok.inj (hplan.symm.trans hplan')
  rcases hwrite with ⟨-, -, rfl, rfl⟩ | ⟨-, rfl, rfl⟩
  · refine ⟨hrow.save _ hid rfl rfl, hplanId, hepoch.trans (Int.lt_add_one_of_le le_rfl).le, ?_⟩
    intro plan' hplan' hpos _
    obtain rfl := hplans plan' hplan'
    rw [calcPlanEndTime_package hpos hend]
    exact CycleSchedule.renewed adv hpos hnow
  · obtain ⟨last, next, hextended⟩ :=
      extendedSubscription_eq adv plan times.nowUnix (endUnix - times.nowUnix)
    refine ⟨hrow.save _ ?_ rfl rfl, ?_, ?_, ?_⟩
    · rw [hextended]
      exact hid
    · rw [hextended]
      exact hplanId
    · rw [hextended]
      exact hepoch
    · intro plan' hplan' hpos hschedule
      obtain rfl := hplans plan' hplan'
      obtain ⟨hadv, hcurrent⟩ := hschedule.advance hpos hle hadvance
      exact hadv.extended hpos hcurrent hduration

end

/-- A sale keeps the schedule, and what it sells is in the cycle of the sale. -/
lemma PackageSold.scheduleStep (h : PackageSold env shop times userId plan completed sold)
    (hplan : getSubscriptionPlanByIdTx shop.db planId = .ok plan)
    (hsubs : db'.subscriptions = sold.db.subscriptions) (hplans : db'.plans = shop.db.plans)
    (hle : clock ≤ times.nowUnix) (hnow : 0 < times.nowUnix) :
    ScheduleStep sid clock times.nowUnix shop.db db' ∧
      (Scheduled sid clock shop.db →
        db'.subscriptions.get? sid ≠ shop.db.subscriptions.get? sid →
        RenewedAt sid times.nowUnix db') := by
  cases h with
  | created endUnix hend hnone hnew hput hlast =>
    have hid : completed.id = shop.nextSubscriptionId := by
      rw [hnew, newValuePackage_id]
    refine ⟨.of_created hle (hid ▸ shop.get?_nextSubscriptionId) (hsubs.trans hput) hplans
      fun plan' hplan' hpos => (newValuePackage_schedule hplan hend hnow hnew hplan' hpos).1,
      fun _ hchanged stored plan' hget hactive hplan' hpos => ?_⟩
    rw [hsubs, hput, get?_put] at hget hchanged
    split_ifs at hget hchanged
    · obtain rfl := Option.some.inj hget
      rw [planById_congr hplans] at hplan'
      exact (newValuePackage_schedule hplan hend hnow hnew hplan' hpos).2
    · exact absurd rfl hchanged
  | extended endUnix existing currentPlan db₁ hend hrunning hsame hextend hput hlast =>
    obtain ⟨hrow, hplanId, hepoch, hschedule⟩ :=
      extend_schedule hplan hend hle hrunning hsame hextend
    have hrow := hrow.congr (hsubs.trans hput) (hplans.trans hrow.plans.symm)
    refine ⟨.of_row hle hrow hplanId (fun _ => hrunning.active) hepoch
      fun plan' hplan' hpos hstart => (hschedule plan' hplan' hpos hstart).1,
      fun hstart hchanged stored plan' hget hactive hplan' hpos => ?_⟩
    rw [planById_congr hplans] at hplan'
    by_cases hid : sid = existing.id
    · subst hid
      rw [hrow.written] at hget
      obtain rfl := Option.some.inj hget
      rw [hplanId] at hplan'
      exact (hschedule plan' hplan' hpos
        (hstart existing plan' hrow.stored hrunning.active hplan' hpos)).2
    · exact absurd (hrow.others sid hid) hchanged
  | upgraded endUnix current currentPlan hend hrunning hother hnew hput hlast =>
    have hid : completed.id = shop.nextSubscriptionId := by
      rw [hnew, newValuePackage_id]
    have hne : current.id ≠ completed.id := by
      intro heq
      have hstored := hrunning.stored
      rw [heq, hid, shop.get?_nextSubscriptionId] at hstored
      cases hstored
    -- first the running package is covered, then the new one is created
    have hcovered : RowWritten shop.db
        (shop.db.saveSubscription { current with status := .covered }) current
        { current with status := .covered } :=
      (RowWritten.refl hrunning.stored).save _ rfl rfl rfl
    have hfirst : ScheduleStep sid clock times.nowUnix shop.db
        (shop.db.saveSubscription { current with status := .covered }) :=
      .of_row hle hcovered rfl (fun hstatus => by cases hstatus) le_rfl
        fun _ _ _ hstart => (hstart.wait hle).congr ⟨rfl, rfl, rfl, rfl⟩
    have hfresh :
      (shop.db.saveSubscription { current with status := .covered }).subscriptions.get?
        completed.id = none := by
      rw [hcovered.others completed.id hne.symm, hid]
      exact shop.get?_nextSubscriptionId
    refine ⟨hfirst.trans (.of_created le_rfl hfresh (hsubs.trans hput) hplans
      fun plan' hplan' hpos => (newValuePackage_schedule hplan hend hnow hnew hplan' hpos).1),
      fun _ hchanged stored plan' hget hactive hplan' hpos => ?_⟩
    rw [hsubs, hput, get?_put] at hget hchanged
    split_ifs at hget hchanged
    · obtain rfl := Option.some.inj hget
      rw [planById_congr hplans] at hplan'
      exact (newValuePackage_schedule hplan hend hnow hnew hplan' hpos).2
    · rw [get?_put] at hget hchanged
      split_ifs at hget hchanged
      · obtain rfl := Option.some.inj hget
        cases hactive
      · exact absurd rfl hchanged

end Sale

/-! ## Runs -/

/-- A sale, or a transaction on the packages that have been sold. -/
inductive CycleOp where
  | sale (op : ShopOp)
  | package (op : PackageOp)

def cycleStep (env : ShopEnv) (state : TimedShop) : CycleOp → TimedShop
  | .sale op => timedShopStep env state op
  | .package op => ⟨state.shop.withDB (packageStep env.env state.shop.db op), op.clock⟩

/-- The sales are the two flows that sell packages, an extension is part of a sale, and the clock
does not go back. -/
def TimedShop.cycleInOrder (state : TimedShop) : CycleOp → Bool
  | .sale op => op.saleTimes?.isSome && state.inOrder op
  | .package op => !op.isExtend && decide (state.clock ≤ op.clock)

section Run

variable {env : ShopEnv} {sid : Int} {state : TimedShop}

lemma shopStep_schedule {op : ShopOp} {times : SaleTimes} (hsale : op.saleTimes? = some times)
    (horder : state.inOrder op = true) (hclock : 0 < state.clock) :
    ScheduleStep sid state.clock times.nowUnix state.shop.db (shopStep env state.shop op).db ∧
      (Scheduled sid state.clock state.shop.db →
        (shopStep env state.shop op).db.subscriptions.get? sid ≠
          state.shop.db.subscriptions.get? sid →
        RenewedAt sid times.nowUnix (shopStep env state.shop op).db) := by
  obtain ⟨hfirst, hlast, -⟩ := TimedShop.inOrder_of_sale env hsale horder
  have hle : state.clock ≤ times.nowUnix := hfirst.trans hlast
  have hchange := shopStep_change env state.shop op
  generalize shopStep env state.shop op = shop' at hchange ⊢
  cases hchange with
  | unchanged =>
    exact ⟨.of_unchanged hle rfl rfl, fun _ hchanged => absurd rfl hchanged⟩
  | sold htimes hplan _ hsold hframe hdb =>
    obtain rfl := Option.some.inj (hsale.symm.trans htimes)
    refine hsold.scheduleStep hplan ?_ ?_ hle (hclock.trans_le hle)
    · rw [hdb]
    · rw [hdb]
      exact hframe.plans
  | _ => cases hsale

lemma cycleStep_schedule {op : CycleOp} (horder : state.cycleInOrder op = true)
    (hclock : 0 < state.clock) :
    state.clock ≤ (cycleStep env state op).clock ∧
      ScheduleStep sid state.clock (cycleStep env state op).clock state.shop.db
        (cycleStep env state op).shop.db := by
  cases op with
  | sale op =>
    obtain ⟨hsome, horder⟩ := Bool.and_eq_true_iff.mp horder
    obtain ⟨times, hsale⟩ := Option.isSome_iff_exists.mp hsome
    obtain ⟨hfirst, hlast, hnext⟩ := TimedShop.inOrder_of_sale env hsale horder
    show state.clock ≤ (timedShopStep env state op).clock ∧ ScheduleStep sid state.clock
      (timedShopStep env state op).clock state.shop.db (shopStep env state.shop op).db
    rw [hnext]
    exact ⟨hfirst.trans hlast, (shopStep_schedule hsale horder hclock).1⟩
  | package op =>
    obtain ⟨hextend, hle⟩ := Bool.and_eq_true_iff.mp horder
    have hle : state.clock ≤ op.clock := of_decide_eq_true hle
    exact ⟨hle, packageStep_schedule env.env hle (Bool.not_eq_true' _ ▸ hextend)⟩

end Run

/-- From before a package is sold on, its schedule holds, its epoch never decreases, and it is in
the cycle of the present after a pre-consume of a new request, a reserve, and a sale that creates or
renews it. -/
theorem cycle_schedule (env : ShopEnv) (sid : Int) (start : TimedShop) (hclock : 0 < start.clock)
    (hnew : start.shop.db.subscriptions.get? sid = none) (ops : List CycleOp)
    (hops : Along (cycleStep env) (fun state op => state.cycleInOrder op = true) start ops) :
    Scheduled sid (exec (cycleStep env) start ops).clock
      (exec (cycleStep env) start ops).shop.db ∧
    (∀ earlier later, ops = earlier ++ later →
      EpochKept sid (exec (cycleStep env) start earlier).shop.db
        (exec (cycleStep env) start ops).shop.db) ∧
    (∀ now requestId userId amount result db',
      (exec (cycleStep env) start ops).clock ≤ now →
      (exec (cycleStep env) start ops).shop.db.preConsumeRecords.get? requestId = none →
      preConsumeValuePackageSubscription (exec (cycleStep env) start ops).shop.db now requestId
        userId sid amount = .ok (result, db') → RenewedAt sid now db') ∧
    (∀ now requestId userId targetQuota result db',
      (exec (cycleStep env) start ops).clock ≤ now →
      reserveValuePackageUsageToTarget (exec (cycleStep env) start ops).shop.db now requestId
        userId sid targetQuota = .ok (result, db') → RenewedAt sid now db') ∧
    (∀ op times, op.saleTimes? = some times →
      (exec (cycleStep env) start ops).inOrder op = true →
      (shopStep env (exec (cycleStep env) start ops).shop op).db.subscriptions.get? sid ≠
        (exec (cycleStep env) start ops).shop.db.subscriptions.get? sid →
      RenewedAt sid times.nowUnix
        (shopStep env (exec (cycleStep env) start ops).shop op).db) := by
  have hinit : 0 < start.clock ∧ Scheduled sid start.clock start.shop.db := by
    refine ⟨hclock, fun sub plan hget => ?_⟩
    rw [hnew] at hget
    cases hget
  have hkept (is : List CycleOp)
      (halong : Along (cycleStep env) (fun state op => state.cycleInOrder op = true) start is) :
      0 < (exec (cycleStep env) start is).clock ∧
        Scheduled sid (exec (cycleStep env) start is).clock
          (exec (cycleStep env) start is).shop.db := by
    refine exec_induction (fun state : TimedShop =>
      0 < state.clock ∧ Scheduled sid state.clock state.shop.db) ?_ hinit halong
    rintro state op ⟨hpos, hscheduled⟩ horder
    obtain ⟨hle, hstep⟩ := cycleStep_schedule horder hpos
    exact ⟨hpos.trans_le hle, hstep.schedule hscheduled⟩
  obtain ⟨hpos, hscheduled⟩ := hkept ops hops
  refine ⟨hscheduled, ?_, ?_, ?_, ?_⟩
  · rintro earlier later rfl
    obtain ⟨hearlier, hlater⟩ := along_append.mp hops
    rw [exec_append]
    refine (exec_induction (fun state : TimedShop => 0 < state.clock ∧
      EpochKept sid (exec (cycleStep env) start earlier).shop.db state.shop.db) ?_
      ⟨(hkept earlier hearlier).1, fun sub hsub => ⟨sub, hsub, le_rfl⟩⟩ hlater).2
    rintro state op ⟨hstate, hepoch⟩ horder
    obtain ⟨hle, hstep⟩ := cycleStep_schedule horder hstate
    exact ⟨hstate.trans_le hle, hepoch.trans hstep.epoch⟩
  · intro now requestId userId amount result db' hle hnone hrun
    exact (preConsumePackage_opened hnone hrun).renewedAt hle hscheduled
  · intro now requestId userId targetQuota result db' hle hrun
    exact (reserveUsage_opened hrun).renewedAt hle hscheduled
  · intro op times hsale horder hchanged
    exact (shopStep_schedule hsale horder hpos).2 hscheduled hchanged

/-- A month package that is bought, charged, extended, and charged again in its second cycle. -/
def renewedInTime : List CycleOp :=
  [.sale (.redeemPackage ⟨2000, 2000, 2000⟩ 1 1), .package (.preConsume 2001 "r1" 1 1 10),
    .sale (.redeemPackage ⟨3000, 3000, 3000⟩ 1 1), .package (.preConsume 2595000 "r2" 1 1 5)]

theorem renewedInTime_scheduled :
    ((exec (cycleStep sampleShopEnv) ⟨sampleShop, 1000⟩
        renewedInTime).shop.db.subscriptions.rows.map fun sub =>
          (sub.startTime, sub.lastResetTime, sub.nextResetTime, sub.endTime, sub.quotaEpoch)) =
      [(2000, 2594000, 0, 5186000, 1)] ∧
    Scheduled 1 (exec (cycleStep sampleShopEnv) ⟨sampleShop, 1000⟩ renewedInTime).clock
      (exec (cycleStep sampleShopEnv) ⟨sampleShop, 1000⟩ renewedInTime).shop.db :=
  ⟨by decide, (cycle_schedule sampleShopEnv 1 ⟨sampleShop, 1000⟩ (by decide) rfl renewedInTime
    (by decide)).1⟩

/-- The second cycle has begun when the first request is sent again: the last reset is still that of
the first cycle. An extension for two cycles schedules no reset in between. -/
theorem repeated_preConsume_stale :
    ((preConsumeValuePackageSubscription (exec (cycleStep sampleShopEnv) ⟨sampleShop, 1000⟩
        (renewedInTime.take 3)).shop.db 2595000 "r1" 1 1 10).toOption.bind fun result =>
          (result.2.subscriptions.get? 1).map fun sub =>
            (sub.startTime, sub.lastResetTime, (2595000 - sub.startTime) / 2592000)) =
      some (2000, 2000, 1) ∧
    ((extendValuePackageSubscriptionTx sampleEnv
        { sampleDB with
          subscriptions := Table.empty.put { sampleSubscription with amountUsed := 1000 } }
        1 samplePlan 2000 (2000 + 2 * 2592000)).toOption.map fun result =>
          (result.1.lastResetTime, result.1.nextResetTime, result.1.endTime)) =
      some (2000, 0, 2000 + 2 * 2592000) :=
  ⟨by decide, by decide⟩

end Yunbay
