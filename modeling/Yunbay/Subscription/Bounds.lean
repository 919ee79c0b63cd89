import Yunbay.Midjourney.Refund

/-!
# Usage stays within the total

Nine transactions write the used amount of a subscription. All but one keep it between zero and the
total: they check the total before they charge, and cut a refund off at zero. The one is
`RefundMidjourneySubscriptionFundingOnce`, which subtracts in one statement.
-/

namespace Yunbay

open Except Run Table

variable {delta now userId id amount sid : Int} {plan : SubscriptionPlan} {env : Env}
  {requestId : String} {result : SubscriptionPreConsumeResult} {u : Unit} {state : UsageState}

open MidjourneyStore

/-! ## Runs -/

/-- The database, and the rows of the Midjourney tasks. -/
structure UsageState where
  db : DB
  midjourneys : List Midjourney

/-- A call of one of the transactions. -/
inductive UsageOp where
  /-- A value-package transaction, `RefundSubscriptionPreConsume` or `ResetDueSubscriptions`. -/
  | package (op : PackageOp)
  /-- `PreConsumeUserSubscription`. -/
  | preConsume (now : Int) (requestId : String) (userId amount : Int)
  /-- `PostConsumeUserSubscriptionDelta`. -/
  | postConsume (userSubscriptionId delta : Int)
  /-- `RefundMidjourneySubscriptionFundingOnce`, for a task by its place. -/
  | midjourneyRefund (ref : Nat)

/-- The refund of one task's funding source. -/
def midjourneyRefundTx (state : UsageState) (ref : Nat) (task : Midjourney) : UsageState :=
  match refundMidjourneySubscriptionFundingOnce task ⟨task, ⟨state.db, 0, 0⟩, 0, 0⟩ with
  | .ok (_, store) => ⟨store.accounts.db, state.midjourneys.set ref store.task⟩
  | .error _ => state

def usageStep (env : Env) (state : UsageState) : UsageOp → UsageState
  | .package op => { state with db := packageStep env state.db op }
  | .preConsume now requestId userId amount =>
    { state with
      db := commit state.db
        (preConsumeUserSubscription env state.db now requestId userId amount) }
  | .postConsume userSubscriptionId delta =>
    { state with
      db := commit state.db
        (postConsumeUserSubscriptionDelta state.db userSubscriptionId delta) }
  | .midjourneyRefund ref =>
    match state.midjourneys[ref]? with
    | none => state
    | some task => midjourneyRefundTx state ref task

/-! ## Bounds -/

namespace UserSubscription

/-- The used amount is within a positive total. -/
structure Bounded (sub : UserSubscription) : Prop where
  total_pos : 0 < sub.amountTotal
  used_nonneg : 0 ≤ sub.amountUsed
  used_le : sub.amountUsed ≤ sub.amountTotal

namespace Bounded

variable {sub : UserSubscription}

/-- A change of the used amount that is cut off at zero keeps the bounds if it fits into the
total. -/
lemma chargeUsed (h : sub.Bounded) (hfits : sub.amountUsed + delta ≤ sub.amountTotal) :
    (Yunbay.chargeUsed sub delta).Bounded where
  total_pos := h.total_pos
  used_nonneg := le_max_left _ _
  used_le := max_le h.total_pos.le hfits

lemma nextCycle (h : sub.Bounded) (plan : SubscriptionPlan) (now : Int) :
    (Yunbay.nextCycle sub plan now).Bounded :=
  ⟨h.total_pos, le_refl 0, h.total_pos.le⟩

lemma resetCardSubscription (h : sub.Bounded) : (Yunbay.resetCardSubscription sub).Bounded :=
  ⟨h.total_pos, le_refl 0, h.total_pos.le⟩

lemma extendedSubscription (h : sub.Bounded) (plan : SubscriptionPlan) (nowUnix duration : Int) :
    (Yunbay.extendedSubscription sub plan nowUnix duration).Bounded := by
  obtain ⟨last, next, heq⟩ := extendedSubscription_eq sub plan nowUnix duration
  rw [heq]
  exact ⟨h.total_pos, h.used_nonneg, h.used_le⟩

end Bounded

end UserSubscription

/-- The subscription is stored, and in bounds. -/
def InBounds (sid : Int) (db : DB) : Prop :=
  ∃ sub, db.subscriptions.get? sid = some sub ∧ sub.Bounded

namespace InBounds

variable {db db' : DB} {sub sub' : UserSubscription}

section

variable (h : InBounds sid db)

include h

lemma bounded (hget : db.subscriptions.get? sub.id = some sub) (hid : sub.id = sid) :
    sub.Bounded := by
  obtain ⟨row, hrow, hbounded⟩ := h
  rw [← hid, hget] at hrow
  cases hrow
  exact hbounded

lemma congr (hsubs : db'.subscriptions = db.subscriptions) : InBounds sid db' := by
  unfold InBounds
  rw [hsubs]
  exact h

/-- A write of a stored row that keeps its bounds. -/
lemma save (hget : db.subscriptions.get? sub.id = some sub) (hid : sub'.id = sub.id)
    (hbounded : sub.Bounded → sub'.Bounded) : InBounds sid (db.saveSubscription sub') := by
  by_cases hsid : sub'.id = sid
  · refine ⟨sub', ?_, hbounded (h.bounded hget (hid.symm.trans hsid))⟩
    rw [← hsid]
    exact get?_put_self _ _
  · obtain ⟨row, hrow, hrowBounded⟩ := h
    exact ⟨row, (get?_put_of_ne _ hsid).trans hrow, hrowBounded⟩

lemma advance (hget : db.subscriptions.get? sub.id = some sub)
    (hadvance : maybeAdvanceValuePackageCycleTx db sub plan now = .ok (sub', db')) :
    InBounds sid db' ∧ sub'.id = sub.id ∧ db'.subscriptions.get? sub.id = some sub' := by
  have hstored := maybeAdvance_get? hadvance hget
  obtain ⟨-, rfl, rfl⟩ | ⟨-, -, rfl, rfl⟩ := maybeAdvance_eq_ok.mp hadvance
  · exact ⟨h, rfl, hstored⟩
  · have hcreated : InBounds sid (db.createQuotaReset (cycleReset sub plan now)) := h.congr rfl
    exact ⟨hcreated.save hget rfl fun hsub => hsub.nextCycle plan now, rfl, hstored⟩

lemma opened (hopen : openValuePackageTx db userId id now = .ok (sub', plan, db')) :
    InBounds sid db' ∧ db'.subscriptions.get? sub'.id = some sub' := by
  obtain ⟨sub, hget, -, -, -, -, -, hadvance⟩ := openValuePackageTx_ok hopen
  obtain rfl : sub.id = id := key_of_get? hget
  obtain ⟨hdb, hid, hstored⟩ := h.advance hget hadvance
  exact ⟨hdb, hid ▸ hstored⟩

/-- A regular reset keeps the used amount or empties it. -/
lemma reset (hget : db.subscriptions.get? sub.id = some sub)
    (hreset : maybeResetUserSubscriptionWithPlanTx env db sub plan now = .ok (sub', db')) :
    InBounds sid db' := by
  obtain ⟨rfl, -⟩ | ⟨used, last, next, rfl, hused, rfl⟩ :=
    maybeReset_ok hreset
  · exact h
  · refine h.save hget rfl fun hsub => ⟨hsub.total_pos, ?_, ?_⟩
    · rcases hused with rfl | rfl
      · exact hsub.used_nonneg
      · exact le_refl 0
    · rcases hused with rfl | rfl
      · exact hsub.used_le
      · exact hsub.total_pos.le

end

/-! ## One lemma for each transaction -/

section

variable (h : InBounds sid db)

include h

lemma preConsumeValuePackageSubscription
    (hok : Yunbay.preConsumeValuePackageSubscription db now requestId userId id amount =
      .ok (result, db')) : InBounds sid db' := by
  obtain ⟨rfl, -⟩ | ⟨-, hamount, sub, plan, db₁, hopen, hlimits, rfl, -⟩ :=
    preConsumePackage_ok hok
  · exact h
  · obtain ⟨hdb, hget⟩ := h.opened hopen
    have hrecords : InBounds sid ((db₁.savePreConsume
        (newPreConsumeRecord sub requestId userId amount now)).saveUsage (upsertedUsage db₁
          (newUsageRecord sub requestId userId amount sub.quotaEpoch now))) := hdb.congr rfl
    refine hrecords.save hget rfl fun hsub => ⟨hsub.total_pos, ?_, ?_⟩
    · exact add_nonneg hsub.used_nonneg hamount.le
    · exact total_of_checkPreConsumeLimits hlimits hsub.total_pos

lemma reserveValuePackageUsageToTarget {targetQuota : Int}
    (hok : Yunbay.reserveValuePackageUsageToTarget db now requestId userId id targetQuota =
      .ok (result, db')) : InBounds sid db' := by
  obtain ⟨-, sub, plan, db₁, request, hopen, -, hcases⟩ := reserveUsage_ok hok
  obtain ⟨hdb, hget⟩ := h.opened hopen
  rcases hcases with ⟨-, rfl⟩ | ⟨-, ⟨-, rfl⟩ | ⟨-, hlimits, rfl⟩⟩
  · exact hdb
  · exact hdb.congr rfl
  · have hrecords : InBounds sid (db₁.saveUsage (upsertedUsage db₁
        (newUsageRecord sub requestId userId targetQuota request.requestEpoch now))) :=
      hdb.congr rfl
    refine hrecords.save hget rfl fun hsub => hsub.chargeUsed ?_
    by_cases hraise : request.currentQuota < targetQuota
    · exact total_of_checkReserveLimits (hlimits hraise) hsub.total_pos
    · have hused := hsub.used_le
      omega

lemma refundSubscriptionPreConsume
    (hok : Yunbay.refundSubscriptionPreConsume db now requestId = .ok (u, db')) :
    InBounds sid db' := by
  have hrevoked : ∀ {db : DB} (id : Int), InBounds sid db →
      InBounds sid (revokeValuePackageUsageReservationTx db id requestId) := by
    intro db id hdb
    exact hdb.congr (revokeUsage_frame db id requestId).2.2
  obtain ⟨-, record, -, ⟨-, rfl⟩ | ⟨-, sub, plan, db₁, hget, -, hrefund, rfl⟩⟩ :=
    refundPreConsume_ok hok
  · exact hrevoked _ h
  · have hid : sub.id = record.userSubscriptionId := key_of_get? hget
    rw [← hid] at hget
    have hrefunded : InBounds sid db₁ := by
      obtain rfl | ⟨delta, hdelta, rfl⟩ := refundSubscription_ok hrefund
      · exact h
      · refine h.save hget rfl fun hsub => hsub.chargeUsed ?_
        have hused := hsub.used_le
        omega
    exact (hrevoked _ hrefunded).congr rfl

lemma consumeValuePackageResetCount {dbNow resetAt : Int} {state : ValuePackageState}
    (hok : Yunbay.consumeValuePackageResetCount db dbNow userId id resetAt = .ok (state, db')) :
    InBounds sid db' := by
  obtain ⟨_, sub, plan, -, -, -, hget, -, -, -, -, -, -, -, rfl⟩ :=
    consumeResetCount_inv hok
  have hsaved : InBounds sid (db.saveSubscription (Yunbay.resetCardSubscription sub)) :=
    h.save hget rfl fun hsub => hsub.resetCardSubscription
  exact hsaved.congr rfl

lemma extendValuePackageSubscriptionTx {nowUnix purchasedEndUnix : Int}
    {result : UserSubscription}
    (hok : Yunbay.extendValuePackageSubscriptionTx env db id plan nowUnix purchasedEndUnix =
      .ok (result, db')) : InBounds sid db' := by
  obtain ⟨⟨-, htotal⟩, -, -, existing, sub, db₁, _, hget, -, hadvance, -, hcases⟩ :=
    extendPackage_inv hok
  obtain rfl : existing.id = id := key_of_get? hget
  obtain ⟨hdb, hid, hstored⟩ := h.advance hget hadvance
  rw [← hid] at hstored
  rcases hcases with ⟨-, -, rfl, rfl⟩ | ⟨-, rfl, rfl⟩
  · have hcreated : InBounds sid (db₁.createQuotaReset (renewalReset sub nowUnix)) := hdb.congr rfl
    exact hcreated.save hstored rfl fun _ => ⟨htotal, le_refl 0, htotal.le⟩
  · refine hdb.save hstored ?_ fun hsub => hsub.extendedSubscription plan nowUnix _
    obtain ⟨last, next, heq⟩ := extendedSubscription_eq sub plan nowUnix _
    rw [heq]

end

lemma packageStep (env : Env) (op : PackageOp) (h : InBounds sid db) :
    InBounds sid (Yunbay.packageStep env db op) := by
  cases op with
  | preConsume now requestId userId id amount =>
    exact commit_induction (InBounds sid) h fun _ _ => h.preConsumeValuePackageSubscription
  | reserve now requestId userId id targetQuota =>
    exact commit_induction (InBounds sid) h fun _ _ => h.reserveValuePackageUsageToTarget
  | refund now requestId =>
    exact commit_induction (InBounds sid) h fun _ _ => h.refundSubscriptionPreConsume
  | consumeResetCount dbNow userId id resetAt =>
    exact commit_induction (InBounds sid) h fun _ _ => h.consumeValuePackageResetCount
  | extend id plan nowUnix purchasedEndUnix =>
    exact commit_induction (InBounds sid) h fun _ _ => h.extendValuePackageSubscriptionTx
  | resetDue now limit =>
    refine resetDue_induction (InBounds sid) ?_ ?_ limit h
    · exact fun db sub plan sub' db' hdb hget _ _ hadvance => (hdb.advance hget hadvance).1
    · exact fun db sub plan sub' db' hdb hget _ _ _ hreset => hdb.reset hget hreset
  | cleanup now olderThanSeconds => exact h.congr rfl

lemma preConsumeUserSubscription (h : InBounds sid db)
    (hok : Yunbay.preConsumeUserSubscription env db now requestId userId amount =
      .ok (result, db')) : InBounds sid db' := by
  refine preConsumeUser_induction (InBounds sid) h ?_ ?_ hok
  · exact fun db sub plan sub' db' hdb hget _ _ hreset => hdb.reset hget hreset
  · intro db sub hdb hget _ hamount hfits
    have hrecord : InBounds sid (db.savePreConsume
        (regularPreConsumeRecord sub requestId userId amount now)) := hdb.congr rfl
    refine hrecord.save hget rfl fun hsub => ⟨hsub.total_pos, ?_, hfits hsub.total_pos⟩
    exact add_nonneg hsub.used_nonneg hamount.le

lemma postConsumeUserSubscriptionDelta (h : InBounds sid db)
    (hok : Yunbay.postConsumeUserSubscriptionDelta db id delta = .ok (u, db')) :
    InBounds sid db' := by
  by_cases hzero : delta = 0
  · obtain ⟨_, hok⟩ := of_bind hok
    rw [if_pos hzero] at hok
    cases hok
    exact h
  · obtain ⟨-, sub, hget, hfits, rfl⟩ := (postConsumeDelta_eq_ok hzero).mp hok
    obtain rfl : sub.id = id := key_of_get? hget
    refine h.save hget rfl fun hsub => ⟨hsub.total_pos, le_max_left _ _, hfits hsub.total_pos⟩

end InBounds

/-! ## The refund of a Midjourney task -/

/-- The refund of the task takes no more off the subscription than what is used. It takes nothing if
the task is refunded already, or was paid from another subscription. -/
def Midjourney.withinUsed (sid : Int) (db : DB) (task : Midjourney) : Bool :=
  task.billingContext.fundingRefunded ||
    decide (task.billingContext.subscriptionId ≠ sid ∨ sid ≤ 0) ||
    (db.subscriptions.get? sid).all fun sub => task.fundingRefundQuota ≤ sub.amountUsed

lemma midjourneyRefundTx_cases (state : UsageState) (ref : Nat) (task : Midjourney) :
    (midjourneyRefundTx state ref task).db = state.db ∧
        (task.billingContext.fundingRefunded = true ∨ task.fundingRefundQuota ≤ 0 ∨
          task.billingContext.subscriptionId ≤ 0 ∨
          state.db.subscriptions.get? task.billingContext.subscriptionId = none) ∨
      task.billingContext.fundingRefunded = false ∧ 0 < task.fundingRefundQuota ∧
        0 < task.billingContext.subscriptionId ∧
        ∃ sub, state.db.subscriptions.get? task.billingContext.subscriptionId = some sub ∧
          (midjourneyRefundTx state ref task).db = state.db.saveSubscription
            { sub with amountUsed := sub.amountUsed - task.fundingRefundQuota } := by
  unfold midjourneyRefundTx refundMidjourneySubscriptionFundingOnce
  by_cases hchecks : 0 < task.fundingRefundQuota ∧ 0 < task.billingContext.subscriptionId
  · obtain ⟨hquota, hid⟩ := hchecks
    cases hdone : task.billingContext.fundingRefunded with
    | true =>
      refine .inl ⟨?_, .inl rfl⟩
      simp [check, hquota, hid, refundFundingOnce, hdone, bind, Except.bind, pure,
        Except.pure]
    | false =>
      cases hget : state.db.subscriptions.get? task.billingContext.subscriptionId with
      | none =>
        refine .inl ⟨?_, .inr (.inr (.inr rfl))⟩
        simp [check, hquota, hid, refundFundingOnce, hdone, paySubscription,
          payMidjourneySubscription, hget, bind, Except.bind]
      | some sub =>
        refine .inr ⟨rfl, hquota, hid, sub, rfl, ?_⟩
        simp [check, hquota, hid, refundFundingOnce, hdone, paySubscription,
          payMidjourneySubscription, hget, bind, Except.bind, pure, Except.pure, setContext]
  · refine .inl ⟨?_, ?_⟩
    · simp [check, hchecks, bind, Except.bind]
    · rw [not_and_or, not_lt, not_lt] at hchecks
      exact .inr (hchecks.imp_right .inl)

/-- The refund keeps the subscription in bounds exactly when it takes no more than what is used. -/
lemma midjourneyRefundTx_inBounds_iff (ref : Nat) (task : Midjourney) (h : InBounds sid state.db) :
    InBounds sid (midjourneyRefundTx state ref task).db ↔
      task.withinUsed sid state.db = true := by
  obtain ⟨row, hrow, hbounded⟩ := h
  have hwithin : task.withinUsed sid state.db = true ↔
      task.billingContext.fundingRefunded = true ∨
        (task.billingContext.subscriptionId ≠ sid ∨ sid ≤ 0) ∨
        task.fundingRefundQuota ≤ row.amountUsed := by
    simp [Midjourney.withinUsed, hrow, or_assoc]
  rw [hwithin]
  obtain ⟨hsame, hnone⟩ | ⟨hopen, hquota, hid, sub, hget, hsaved⟩ :=
    midjourneyRefundTx_cases state ref task
  · rw [hsame]
    refine iff_of_true ⟨row, hrow, hbounded⟩ ?_
    rcases hnone with hdone | hzero | hinvalid | hgone
    · exact .inl hdone
    · exact .inr (.inr (hzero.trans hbounded.used_nonneg))
    · by_cases hsid : task.billingContext.subscriptionId = sid
      · exact .inr (.inl (.inr (hsid ▸ hinvalid)))
      · exact .inr (.inl (.inl hsid))
    · refine .inr (.inl (.inl fun hsid => ?_))
      rw [hsid, hrow] at hgone
      cases hgone
  · rw [hsaved]
    have hkey : sub.id = task.billingContext.subscriptionId := key_of_get? hget
    by_cases hsid : task.billingContext.subscriptionId = sid
    · -- the row of the subscription itself
      rw [hsid, hrow] at hget
      cases hget
      have hput : (state.db.saveSubscription
          { row with amountUsed := row.amountUsed - task.fundingRefundQuota }).subscriptions.get?
          sid = some { row with amountUsed := row.amountUsed - task.fundingRefundQuota } := by
        rw [← hsid, ← hkey]
        exact get?_put_self _ _
      constructor
      · rintro ⟨row', hrow', hbounded'⟩
        rw [hput] at hrow'
        cases hrow'
        have hnonneg : 0 ≤ row.amountUsed - task.fundingRefundQuota := hbounded'.used_nonneg
        exact .inr (.inr (by omega))
      · rintro (hdone | (hother | hinvalid) | hle)
        · rw [hdone] at hopen
          cases hopen
        · exact absurd hsid hother
        · omega
        · have hused := hbounded.used_le
          exact ⟨_, hput, hbounded.total_pos, sub_nonneg.mpr hle, by dsimp only; omega⟩
    · have hne : sub.id ≠ sid := fun heq => hsid (hkey.symm.trans heq)
      refine iff_of_true ⟨row, ?_, hbounded⟩ (.inr (.inl (.inl hsid)))
      rw [DB.saveSubscription_subscriptions, get?_put_of_ne]
      · exact hrow
      · exact hne

/-! ## Runs -/

/-- A Midjourney refund takes no more off the subscription than what is used. Every other call is
free. -/
def UsageState.withinUsed (sid : Int) (state : UsageState) : UsageOp → Bool
  | .midjourneyRefund ref => state.midjourneys[ref]?.all fun task => task.withinUsed sid state.db
  | _ => true

lemma usageStep_inBounds_iff (op : UsageOp) (h : InBounds sid state.db) :
    InBounds sid (usageStep env state op).db ↔ state.withinUsed sid op = true := by
  cases op with
  | package op => exact iff_of_true (h.packageStep env op) rfl
  | preConsume now requestId userId amount =>
    refine iff_of_true ?_ rfl
    exact commit_induction (InBounds sid) h fun _ _ => h.preConsumeUserSubscription
  | postConsume userSubscriptionId delta =>
    refine iff_of_true ?_ rfl
    exact commit_induction (InBounds sid) h fun _ _ => h.postConsumeUserSubscriptionDelta
  | midjourneyRefund ref =>
    unfold usageStep UsageState.withinUsed
    dsimp only
    cases state.midjourneys[ref]? with
    | none => exact iff_of_true h rfl
    | some task => exact midjourneyRefundTx_inBounds_iff ref task h

/-- The used amount of a subscription with a positive total, starting at zero, is between zero and
the total in every state exactly when no Midjourney refund takes more than what is used. -/
theorem usage_in_bounds_iff (env : Env) (sid : Int) (start : UsageState) (sub : UserSubscription)
    (hsub : start.db.subscriptions.get? sid = some sub) (htotal : 0 < sub.amountTotal)
    (hused : sub.amountUsed = 0) (ops : List UsageOp) :
    (∀ ops', ops' <+: ops → ∃ sub',
        (exec (usageStep env) start ops').db.subscriptions.get? sid = some sub' ∧
          0 < sub'.amountTotal ∧ 0 ≤ sub'.amountUsed ∧ sub'.amountUsed ≤ sub'.amountTotal) ↔
      Along (usageStep env) (fun state op => state.withinUsed sid op = true) start ops := by
  have hstart : InBounds sid start.db := ⟨sub, hsub, htotal, hused.ge, hused ▸ htotal.le⟩
  have hiff : (∀ ops', ops' <+: ops → InBounds sid (exec (usageStep env) start ops').db) ↔
      Along (usageStep env) (fun state op => state.withinUsed sid op = true) start ops :=
    forall_prefix_iff_along (fun state : UsageState => InBounds sid state.db)
      (fun state : UsageState => InBounds sid state.db) (fun _ h => h)
      (fun _ op h hwithin => (usageStep_inBounds_iff op h).mpr hwithin)
      (fun _ op h hnext => (usageStep_inBounds_iff op h).mp hnext) hstart
  rw [← hiff]
  refine forall₂_congr fun ops' _ => ⟨?_, ?_⟩
  · rintro ⟨sub', hget, hpos, hnonneg, hle⟩
    exact ⟨sub', hget, hpos, hnonneg, hle⟩
  · rintro ⟨sub', hget, hbounded⟩
    exact ⟨sub', hget, hbounded.total_pos, hbounded.used_nonneg, hbounded.used_le⟩

/-- A Midjourney task that took `12` from the sample package. -/
def packageMidjourney : Midjourney :=
  ⟨"FAILURE", "REFUND_PENDING", 12, ⟨1, .subscription, 1, "", 0, 12, 0, false, false, false⟩⟩

/-- The request of the task, and its refund. -/
def refundedTask : List UsageOp :=
  [.package (.preConsume 2000 "r1" 1 1 12), .midjourneyRefund 0]

theorem refundedTask_in_bounds :
    sampleSubscription.amountUsed = 0 ∧ ∀ ops', ops' <+: refundedTask → ∃ sub',
      (exec (usageStep sampleEnv) ⟨sampleDB, [packageMidjourney]⟩
        ops').db.subscriptions.get? 1 = some sub' ∧
        0 < sub'.amountTotal ∧ 0 ≤ sub'.amountUsed ∧ sub'.amountUsed ≤ sub'.amountTotal :=
  ⟨rfl, (usage_in_bounds_iff sampleEnv 1 ⟨sampleDB, [packageMidjourney]⟩ sampleSubscription
    (by decide) (by decide) rfl refundedTask).mpr (by decide)⟩

/-- A reset card comes between the request of the task and its refund. The refund takes the `12` off
a period in which nothing is used. -/
theorem midjourney_refund_below_zero :
    let final := exec (usageStep sampleEnv) ⟨sampleDB, [packageMidjourney]⟩
      [.package (.preConsume 2000 "r1" 1 1 12), .package (.consumeResetCount 2001 1 1 0),
        .midjourneyRefund 0]
    (sampleDB.subscriptions.get? 1).map (fun sub => (sub.amountTotal, sub.amountUsed)) =
        some (1000, 0) ∧
      (final.db.subscriptions.get? 1).map (fun sub => (sub.amountTotal, sub.amountUsed)) =
        some (1000, -12) := by
  decide

end Yunbay
