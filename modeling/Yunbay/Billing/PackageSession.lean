import Yunbay.Billing.Funding
import Yunbay.Billing.Token

/-!
# A session on a value package

A value package keeps two books for a request: its usage record, and its part of the total
`AmountUsed`. `ReserveRealtime` and `Settle` move both to an absolute target, `Reserve` moves the
total by a difference and leaves the record alone.
-/

namespace Yunbay

open Run Table

variable {userId base id amount now deltaQuota actualQuota : Int}
  {result : SubscriptionPreConsumeResult} {requestId : String} {accounts : Accounts} {fails : Bool}
  {info : RelayInfo} {run : SessionRun} {call : SessionCall} {faults : Faults}

open BillingSession

/-! ## The two books of a request -/

/-- The usage record of the request shows `amount`, and so does its part of the total, which was
`base` before. -/
def PackageBooks (base id : Int) (requestId : String) (db : DB) (amount : Int) : Prop :=
  ∃ row usage, db.subscriptions.get? id = some row ∧ row.amountUsed - base = amount ∧
    db.usageRecords.get? (id, requestId) = some usage ∧ usage.quota = amount

/-- Both books show `amount` in `epoch`, the current one, and the request can be refunded. -/
structure PackageHeld (base epoch id : Int) (requestId : String) (db : DB) (amount : Int) :
    Prop where
  id_pos : 0 < id
  notBlank : isBlank requestId = false
  base_nonneg : 0 ≤ base
  amount_nonneg : 0 ≤ amount
  row : ∃ row plan, db.subscriptions.get? id = some row ∧ row.amountUsed = base + amount ∧
    row.quotaEpoch = epoch ∧ getSubscriptionPlanByIdTx db row.planId = .ok plan ∧
    plan.isValuePackage = true
  usage : ∃ usage, db.usageRecords.get? (id, requestId) = some usage ∧ usage.quota = amount ∧
    usage.quotaEpoch = epoch
  record : ∃ record, db.preConsumeRecords.get? requestId = some record ∧
    record.userSubscriptionId = id ∧ record.quotaEpoch = epoch ∧ record.status = .consumed

/-- A renewal of the package's cycle is due. -/
def cycleDueAt (db : DB) (id now : Int) : Bool :=
  match db.subscriptions.get? id with
  | none => false
  | some row =>
    match getSubscriptionPlanByIdTx db row.planId with
    | .error _ => false
    | .ok plan => CycleDue row plan now

namespace PackageHeld

variable {epoch : Int} {db db' : DB}

section

variable (h : PackageHeld base epoch id requestId db amount)

include h

lemma books : PackageBooks base id requestId db amount := by
  obtain ⟨row, plan, hget, hused, -⟩ := h.row
  obtain ⟨usage, husage, hquota, -⟩ := h.usage
  exact ⟨row, usage, hget, by omega, husage, hquota⟩

lemma openTx {sub : UserSubscription} {plan : SubscriptionPlan}
    (hcurrent : cycleDueAt db id now = false)
    (hopen : openValuePackageTx db userId id now = .ok (sub, plan, db')) :
    db' = db ∧ db.subscriptions.get? id = some sub := by
  obtain ⟨row, hget, -, -, -, hplan, -, hadvance⟩ := openValuePackageTx_ok hopen
  simp only [cycleDueAt, hget, hplan, decide_eq_false_iff_not] at hcurrent
  obtain ⟨-, rfl, rfl⟩ | ⟨hdue, -⟩ := maybeAdvance_eq_ok.mp hadvance
  · exact ⟨rfl, hget⟩
  · exact absurd hdue hcurrent

/-- A reservation to a target moves both books there. -/
lemma reserveToTarget {target : Int} (hcurrent : cycleDueAt db id now = false)
    (hok : reserveValuePackageUsageToTarget db now requestId userId id target = .ok (result, db')) :
    PackageHeld base epoch id requestId db' target := by
  obtain ⟨htarget, sub, plan, db₁, request, hopen, hfind, hcases⟩ :=
    reserveUsage_ok hok
  obtain ⟨rfl, hget⟩ := h.openTx hcurrent hopen
  obtain ⟨row, plan', hget', hused, hepoch, hplan, hpackage⟩ := h.row
  obtain ⟨usage, husage, hquota, hepoch'⟩ := h.usage
  obtain rfl : sub = row := Option.some.inj (hget.symm.trans hget')
  obtain ⟨-, ⟨hnone, -⟩ | ⟨existing, hexisting, -, rfl⟩⟩ := findReservedRequest_ok hfind
  · rw [husage] at hnone
    cases hnone
  obtain rfl : existing = usage := Option.some.inj (hexisting.symm.trans husage)
  obtain ⟨hsame, rfl⟩ | ⟨-, ⟨hstale, -⟩ | ⟨-, -, rfl⟩⟩ := hcases
  · -- the request is at its target already
    have heq : target = amount := hsame.trans hquota
    rw [heq]
    exact h
  · exact absurd (hepoch.trans hepoch'.symm) hstale
  · have hrowId : sub.id = id := key_of_get? hget
    have hbase := h.base_nonneg
    have hamount := h.amount_nonneg
    have hkey : (newUsageRecord sub requestId userId target existing.quotaEpoch now).key =
        (id, requestId) := by
      rw [← hrowId]
      rfl
    refine ⟨h.id_pos, h.notBlank, hbase, htarget,
      ⟨chargeUsed sub (target - existing.quota), plan', ?_, ?_, hepoch, hplan, hpackage⟩,
      ⟨upsertedUsage db₁ (newUsageRecord sub requestId userId target existing.quotaEpoch now), ?_,
        upsertedUsage_quota _ _, ?_⟩, h.record⟩
    · rw [← hrowId]
      exact get?_put_self _ (chargeUsed sub (target - existing.quota))
    · show max 0 (sub.amountUsed + (target - existing.quota)) = base + target
      omega
    · have hput := get?_put_self db₁.usageRecords
        (upsertedUsage db₁ (newUsageRecord sub requestId userId target existing.quotaEpoch now))
      rw [upsertedUsage_key, hkey] at hput
      exact hput
    · rw [upsertedUsage_of_some (hkey ▸ hexisting)]
      exact hepoch'

lemma refund (now : Int) :
    ∃ db', refundSubscriptionPreConsume db now requestId = .ok ((), db') ∧
      PackageBooks base id requestId db' 0 := by
  obtain ⟨row, plan, hget, hused, hepoch, hplan, hpackage⟩ := h.row
  obtain ⟨usage, husage, hquota, hepoch'⟩ := h.usage
  obtain ⟨record, hrecord, hid, hepochRecord, hstatus⟩ := h.record
  obtain rfl : record.requestId = requestId := key_of_get? hrecord
  have hrowId : row.id = id := key_of_get? hget
  have hbase := h.base_nonneg
  have hamount := h.amount_nonneg
  -- the use goes back to the base, whether there is something to give back or not
  obtain ⟨db₁, hrefund, husage₁, row₁, hget₁, hused₁⟩ : ∃ db₁,
      refundSubscription db record row plan = .ok db₁ ∧ db₁.usageRecords = db.usageRecords ∧
        ∃ row₁, db₁.subscriptions.get? id = some row₁ ∧ row₁.amountUsed = base := by
    have hback : valuePackageRefundQuota db record = .ok amount := by
      simp [valuePackageRefundQuota, hid, husage, hepoch', hepochRecord, hquota, Except.check, bind,
        Except.bind, pure, Except.pure]
    by_cases hpos : 0 < amount
    · refine ⟨db.saveSubscription (chargeUsed row (-amount)), ?_, rfl, chargeUsed row (-amount),
        ?_, ?_⟩
      · simp [refundSubscription, hpackage, hback, hepoch, hepochRecord, hpos, bind, Except.bind,
          pure, Except.pure]
      · rw [← hrowId]
        exact get?_put_self _ (chargeUsed row (-amount))
      · show max 0 (row.amountUsed + -amount) = base
        omega
    · refine ⟨db, ?_, rfl, row, hget, by omega⟩
      simp [refundSubscription, hpackage, hback, hpos, bind, Except.bind, pure, Except.pure]
  have hrevoke : revokeValuePackageUsageReservationTx db₁ record.userSubscriptionId
      record.requestId = db₁.saveUsage usage.revoked := by
    refine revokeUsage_of_some (hid ▸ h.id_pos) (by simp [h.notBlank]) ?_
    rw [husage₁, hid, husage]
  refine ⟨(db₁.saveUsage usage.revoked).savePreConsume (markRefunded record now), ?_,
    row₁, usage.revoked, hget₁, by omega, ?_, rfl⟩
  · unfold refundSubscriptionPreConsume
    simp [h.notBlank, hrecord, hstatus, hid ▸ hget, hplan, hrefund, hrevoke, Except.check, bind,
      Except.bind, pure, Except.pure]
  · have hkey : usage.key = (id, record.requestId) := key_of_get? husage
    rw [← hkey]
    exact get?_put_self _ usage.revoked

end

end PackageHeld

lemma PackageBooks.record (h : PackageBooks base id requestId accounts.db amount)
    (hid : info.valuePackageSubscriptionId = id) (hrequest : info.requestId = requestId) :
    PackageBooks base id requestId
      (recordValuePackageUsage fails now info amount accounts).2.db amount := by
  obtain ⟨row, usage, hget, hused, husage, hquota⟩ := h
  subst hid hrequest
  obtain hsame | ⟨-, hsame⟩ := recordUsage_frame fails now info amount accounts
  · rw [hsame]
    exact ⟨row, usage, hget, hused, husage, hquota⟩
  · rw [hsame]
    refine ⟨row, _, hget, hused, ?_, upsertedUsage_quota accounts.db
      ⟨info.userId, info.valuePackageSubscriptionId, info.requestId, amount, 0, now⟩⟩
    have hput := get?_put_self accounts.db.usageRecords (upsertedUsage accounts.db
      ⟨info.userId, info.valuePackageSubscriptionId, info.requestId, amount, 0, now⟩)
    rw [upsertedUsage_key] at hput
    exact hput

/-! ## An open session -/

/-- An open session on the package: both books show its reservation. -/
structure OpenPackage (base epoch id : Int) (requestId : String) (session : BillingSession)
    (accounts : Accounts) : Prop where
  held : PackageHeld base epoch id requestId accounts.db session.preConsumedQuota
  infoId : session.info.valuePackageSubscriptionId = id
  infoRequest : session.info.requestId = requestId
  package : ∃ package, session.funding = .subscription package ∧
    package.valuePackageSubscriptionId = id ∧ package.requestId = requestId ∧
    0 < package.preConsumed

namespace OpenPackage

variable {epoch : Int} {session session' : BillingSession} {accounts' : Accounts}

section

variable (h : OpenPackage base epoch id requestId session accounts)

include h

lemma setRealtime (actual reserved : Int) :
    OpenPackage base epoch id requestId (session.setRealtime actual reserved) accounts :=
  ⟨h.held, h.infoId, h.infoRequest, h.package⟩

lemma valuePackage? :
    ∃ package, session.valuePackage? = some package ∧ session.funding = .subscription package ∧
      package.valuePackageSubscriptionId = id ∧ package.requestId = requestId ∧
      0 < package.preConsumed := by
  obtain ⟨package, hfunding, hid, hrequest, hpos⟩ := h.package
  refine ⟨package, ?_, hfunding, hid, hrequest, hpos⟩
  unfold BillingSession.valuePackage?
  rw [hfunding]
  exact if_pos (hid ▸ h.held.id_pos)

/-- A realtime reservation keeps both books on the reservation. -/
lemma reserveRealtime {error : Option ApiError} (hcurrent : cycleDueAt accounts.db id now = false)
    (hreserve : session.reserveRealtime faults now deltaQuota accounts =
      (error, session', accounts')) : OpenPackage base epoch id requestId session' accounts' := by
  obtain ⟨-, rfl, actual, reserved, rfl⟩ | ⟨-, htarget, session₁, actual, reserved, hraise, rfl⟩ :=
    reserveRealtime_cases hreserve
  · exact h.setRealtime actual reserved
  refine OpenPackage.setRealtime ?_ actual reserved
  obtain ⟨package, hsome, hfunding, hid, hrequest, hpos⟩ := h.valuePackage?
  obtain ⟨hnone, -⟩ | ⟨package', hsome', hrealtime⟩ := raiseTo_cases hraise
  · rw [hsome] at hnone
    cases hnone
  obtain rfl : package = package' := Option.some.inj (hsome.symm.trans hsome')
  obtain ⟨-, rfl, rfl⟩ | ⟨tokenReserved, accounts₁, htoken, hrest⟩ :=
    reservePackageRealtime_cases hrealtime
  · exact h
  obtain ⟨rfl, rfl⟩ := reserveToken_ok (by omega) htoken
  obtain ⟨-, rfl, haccounts⟩ | ⟨result, -, htx, rfl⟩ := hrest
  · -- the package has rejected the target, and only the token has moved
    have hdb : accounts'.db = accounts.db := by
      rw [haccounts]
      split_ifs
      · rw [Accounts.giveBackToken_db]
      · rfl
    exact ⟨by rw [hdb]; exact h.held, h.infoId, h.infoRequest, h.package⟩
  · obtain ⟨-, db, htarget, rfl⟩ := Accounts.runTx_eq_ok.mp htx
    rw [hid, hrequest] at htarget
    have hheld := h.held.reserveToTarget hcurrent htarget
    refine ⟨?_, h.infoId, h.infoRequest, ⟨_, rfl, hid, hrequest, hpos⟩⟩
    show PackageHeld base epoch id requestId db (session.preConsumedQuota + _)
    rw [add_sub_cancel]
    exact hheld

/-- A settlement that takes effect leaves both books at the actual quota. -/
lemma settleFunding (hunsettled : session.fundingSettled = false)
    (hcurrent : cycleDueAt accounts.db id now = false)
    (hfunding : actualQuota = session.preConsumedQuota ∧ accounts' = accounts ∨
      actualQuota ≠ session.preConsumedQuota ∧
        session.settleFunding fails now actualQuota accounts = .ok accounts') :
    PackageBooks base id requestId accounts'.db actualQuota := by
  obtain ⟨heq, rfl⟩ | ⟨-, hsettle⟩ := hfunding
  · rw [heq]
    exact h.held.books
  obtain ⟨package, hsome, hfunding, hid, hrequest, -⟩ := h.valuePackage?
  obtain ⟨package', result, db, hsome', hreserve, rfl⟩ | ⟨hnone, -⟩ :=
    settleFunding_ok hunsettled hsettle
  · obtain rfl : package = package' := Option.some.inj (hsome.symm.trans hsome')
    rw [hid, hrequest] at hreserve
    exact (h.held.reserveToTarget hcurrent hreserve).books
  · rw [hsome] at hnone
    cases hnone

/-- The asynchronous part of a refund empties both books. -/
lemma runRefund (now : Int) (job : RefundJob) :
    PackageBooks base id requestId (session.runRefund now job accounts).db 0 := by
  obtain ⟨package, hsome, hfunding, hid, hrequest, hpos⟩ := h.valuePackage?
  obtain ⟨db, hrefund, hbooks⟩ := h.held.refund now
  have hdb : (session.refundFunding now job accounts).db = db := by
    unfold BillingSession.refundFunding Funding.refund
    rw [hfunding]
    simp [hsome, not_le.mpr hpos, hrequest, hrefund]
  unfold BillingSession.runRefund
  dsimp only
  split_ifs
  · show PackageBooks base id requestId (session.refundFunding now job accounts).db 0
    rw [hdb]
    exact hbooks
  · rw [hdb]
    exact hbooks

end

end OpenPackage

/-! ## Runs -/

/-- The books of a value package still agree after these calls: no `Reserve` that raises the
reservation, no settlement after a refund, and no renewal of the cycle on the way. -/
def PackageInOrder (run : SessionRun) : SessionCall → Prop
  | .reserve _ targetQuota => ¬(run.session.Open ∧ run.session.trusted = false ∧
      run.session.preConsumedQuota < targetQuota)
  | .reserveRealtime _ now _ =>
    cycleDueAt run.accounts.db run.session.info.valuePackageSubscriptionId now = false
  | .settle _ now _ => run.session.refunded = false ∧
      cycleDueAt run.accounts.db run.session.info.valuePackageSubscriptionId now = false
  | .refund | .runRefund _ => True

instance (run : SessionRun) (call : SessionCall) : Decidable (PackageInOrder run call) := by
  induction call using SessionCall.casesOn <;> unfold PackageInOrder <;> infer_instance

lemma PackageInOrder.noSettleAfterRefund (h : PackageInOrder run call) :
    NoSettleAfterRefund run call := by
  cases call with
  | settle faults now actualQuota => exact h.1
  | reserve | reserveRealtime | refund | runRefund => trivial

/-- The books follow the hold of the run. -/
def PackageLeg (base epoch id : Int) (requestId : String) (run : SessionRun) : Prop :=
  run.hold.Follows (fun _ => OpenPackage base epoch id requestId run.session run.accounts)
    (fun amount => PackageBooks base id requestId run.accounts.db amount)

namespace PackageLeg

variable {epoch : Int}

section

variable (h : PackageLeg base epoch id requestId run)

include h

lemma openPackage (hcontrol : Control run) (hopen : run.session.Open) :
    OpenPackage base epoch id requestId run.session run.accounts := by
  unfold PackageLeg at h
  rw [hcontrol.hold_of_open hopen] at h
  exact h

lemma reserve {targetQuota : Int} (horder : PackageInOrder run (.reserve faults targetQuota)) :
    PackageLeg base epoch id requestId (sessionStep run (.reserve faults targetQuota)) := by
  rcases hr : run.session.reserve faults targetQuota run.accounts with ⟨error, session', accounts'⟩
  obtain ⟨-, rfl, rfl⟩ | ⟨hopen, htrusted, htarget, -⟩ := reserve_cases hr
  · have hstep : sessionStep run (.reserve faults targetQuota) = run := by simp [sessionStep, hr]
    rw [hstep]
    exact h
  · exact absurd ⟨hopen, htrusted, htarget⟩ horder

section

variable (hcontrol : Control run)

include hcontrol

lemma reserveRealtime (horder : PackageInOrder run (.reserveRealtime faults now deltaQuota)) :
    PackageLeg base epoch id requestId
      (sessionStep run (.reserveRealtime faults now deltaQuota)) := by
  rcases hr : run.session.reserveRealtime faults now deltaQuota run.accounts with
    ⟨error, session', accounts'⟩
  have hstep : sessionStep run (.reserveRealtime faults now deltaQuota) =
      { run with session := session', accounts := accounts' } := by
    simp [sessionStep, hr]
  rw [hstep]
  have hgrown := Grown.of_reserveRealtime hr
  by_cases hopen : run.session.Open
  · have hleg := h.openPackage hcontrol hopen
    have hopen' : session'.Open := ⟨hgrown.settled.trans hopen.1, hgrown.refunded.trans hopen.2⟩
    have hcurrent : cycleDueAt run.accounts.db id now = false := by
      rw [← hleg.infoId]
      exact horder
    unfold PackageLeg
    rw [(hcontrol.grown hgrown).1.hold_of_open hopen']
    exact hleg.reserveRealtime hcurrent hr
  · obtain ⟨-, rfl, actual, reserved, rfl⟩ | ⟨hopen', -⟩ := reserveRealtime_cases hr
    · exact Hold.Follows.imp h (fun _ hleg => hleg.setRealtime actual reserved)
        (fun _ hbooks => hbooks)
    · exact absurd hopen' hopen

lemma settle (horder : PackageInOrder run (.settle faults now actualQuota)) :
    PackageLeg base epoch id requestId (sessionStep run (.settle faults now actualQuota)) := by
  obtain heq | ⟨hsettled, settledFunding, accounts₁, heq, hfunding⟩ :=
    sessionStep_settle_cases run faults now actualQuota
  · rw [heq]
    exact h
  · have hleg := h.openPackage hcontrol ⟨hsettled, horder.1⟩
    have hcurrent : cycleDueAt run.accounts.db id now = false := by
      rw [← hleg.infoId]
      exact horder.2
    have hbooks := hleg.settleFunding (hcontrol.fundingSettled_eq_false hsettled) hcurrent hfunding
    obtain ⟨remain, htoken⟩ := settleToken_frame faults.token run.session.info
      (actualQuota - run.session.preConsumedQuota) accounts₁
    rw [heq, htoken]
    have hbooks' : PackageBooks base id requestId
        ({ accounts₁ with tokenRemain := remain } : Accounts).db actualQuota := hbooks
    exact hbooks'.record hleg.infoId hleg.infoRequest

lemma refund : PackageLeg base epoch id requestId (sessionStep run .refund) := by
  obtain ⟨heq, -⟩ | ⟨hopen, -, heq⟩ := sessionStep_refund_cases run
  · rw [heq]
    exact h
  · have hleg := h.openPackage hcontrol hopen
    rw [heq]
    unfold PackageLeg
    simp only [SessionRun.hold, hcontrol.settledWith_eq_none hopen.1, if_true, Option.isSome_some]
    exact ⟨hleg.held, hleg.infoId, hleg.infoRequest, hleg.package⟩

lemma runRefund (now : Int) :
    PackageLeg base epoch id requestId (sessionStep run (.runRefund now)) := by
  obtain ⟨-, heq⟩ | ⟨job, hjob, heq⟩ := sessionStep_runRefund_cases run now
  · rw [heq]
    exact h
  · obtain ⟨hbefore, hafter⟩ := hcontrol.hold_of_job hjob
    unfold PackageLeg at h ⊢
    rw [hbefore] at h
    rw [heq, hafter]
    exact OpenPackage.runRefund h now job

lemma step (horder : PackageInOrder run call) :
    PackageLeg base epoch id requestId (sessionStep run call) := by
  cases call with
  | reserve faults targetQuota => exact h.reserve horder
  | reserveRealtime faults now deltaQuota => exact h.reserveRealtime hcontrol horder
  | settle faults now actualQuota => exact h.settle hcontrol horder
  | refund => exact h.refund hcontrol
  | runRefund now => exact h.runRefund hcontrol now

end

end

end PackageLeg

/-! ## Conservation -/

/-- Both books show the actual quota after a settlement, and nothing after a refund. -/
structure PackageConserved (base id : Int) (requestId : String) (run : SessionRun) : Prop where
  settled : ∀ actual, run.settledWith = some actual →
    PackageBooks base id requestId run.accounts.db actual
  refunded : run.session.refunded = true → run.job = none →
    PackageBooks base id requestId run.accounts.db 0

lemma PackageLeg.conserved {epoch : Int} (h : PackageLeg base epoch id requestId run)
    (hcontrol : Control run) : PackageConserved base id requestId run := by
  obtain ⟨hsettled, hrefunded⟩ := hcontrol.charged h
  exact ⟨hsettled, hrefunded⟩

/-- What a fresh pre-consume leaves in the two books. -/
lemma packageHeld_preConsume {db db' : DB} (hid : 0 < id)
    (hfresh : db.preConsumeRecords.get? requestId = none)
    (husage : db.usageRecords.get? (id, requestId) = none)
    (hused : ∀ sub ∈ db.subscriptions.rows, 0 ≤ sub.amountUsed)
    (h : preConsumeValuePackageSubscription db now requestId userId id amount = .ok (result, db')) :
    0 < amount ∧ result.preConsumed = amount ∧
      PackageHeld (result.amountUsedAfter - result.preConsumed) result.quotaEpoch id requestId db'
        amount ∧
      ∃ row, db.subscriptions.get? id = some row ∧
        (result.amountUsedAfter - result.preConsumed = row.amountUsed ∨
          result.amountUsedAfter - result.preConsumed = 0) := by
  have hblank := preConsumePackage_notBlank h
  obtain ⟨-, existing, hexisting, -⟩ | ⟨-, hamount, sub, plan, db₁, hopen, -, rfl, rfl⟩ :=
    preConsumePackage_ok h
  · rw [hfresh] at hexisting
    cases hexisting
  obtain ⟨hplans₁, husage₁, hpre₁, hget₁⟩ := openValuePackageTx_frame hopen
  obtain ⟨row, hrow, -, -, -, hplan, hpackage, hadvance⟩ := openValuePackageTx_ok hopen
  have hsubId : sub.id = id := key_of_get? hget₁
  -- a renewed package starts from zero
  have hbase : sub.planId = row.planId ∧
      (sub.amountUsed = row.amountUsed ∨ sub.amountUsed = 0) := by
    obtain ⟨-, rfl, -⟩ | ⟨-, -, rfl, -⟩ := maybeAdvance_eq_ok.mp hadvance
    · exact ⟨rfl, .inl rfl⟩
    · exact ⟨rfl, .inr rfl⟩
  have hnonneg : 0 ≤ sub.amountUsed := by
    rcases hbase.2 with heq | hzero
    · rw [heq]
      exact hused row (mem_of_get? hrow)
    · exact hzero.ge
  have hcancel : sub.amountUsed + amount - amount = sub.amountUsed := by omega
  have hnew : upsertedUsage db₁ (newUsageRecord sub requestId userId amount sub.quotaEpoch now) =
      newUsageRecord sub requestId userId amount sub.quotaEpoch now := by
    refine upsertedUsage_of_none ?_
    show db₁.usageRecords.get? (sub.id, requestId) = none
    rw [hsubId, husage₁]
    exact husage
  dsimp only
  rw [hcancel]
  refine ⟨hamount, rfl, ⟨hid, hblank, hnonneg, hamount.le,
    ⟨{ sub with amountUsed := sub.amountUsed + amount }, plan, ?_, rfl, rfl, ?_, hpackage⟩,
    ⟨newUsageRecord sub requestId userId amount sub.quotaEpoch now, ?_, rfl, rfl⟩,
    ⟨newPreConsumeRecord sub requestId userId amount now, ?_, hsubId, rfl, rfl⟩⟩, row, hrow,
    hbase.2⟩
  · rw [← hsubId]
    exact get?_put_self db₁.subscriptions
      ({ sub with amountUsed := sub.amountUsed + amount } : UserSubscription)
  · show getSubscriptionPlanByIdTx db₁ sub.planId = .ok plan
    rw [planById_congr hplans₁, hbase.1, hplan]
  · rw [admitted, hnew, ← hsubId]
    exact get?_put_self db₁.usageRecords
      (newUsageRecord sub requestId userId amount sub.quotaEpoch now)
  · exact get?_put_self _ (newPreConsumeRecord sub requestId userId amount now)

lemma packageLeg_start {env : Env} {input : StartInput} {accounts' : Accounts}
    {session : BillingSession} (hquota : 0 ≤ input.walletConsume)
    (hfresh : accounts.db.preConsumeRecords.get? info.requestId = none)
    (husage : accounts.db.usageRecords.get? (info.valuePackageSubscriptionId, info.requestId) =
      none) (hused : ∀ sub ∈ accounts.db.subscriptions.rows, 0 ≤ sub.amountUsed)
    (hstart : newBillingSession env input info accounts = (.ok session, accounts'))
    (hpackage : session.valuePackage?.isSome) :
    Control (.start session accounts') ∧
      (∃ epoch, PackageLeg (session.funding.base accounts) epoch info.valuePackageSubscriptionId
        info.requestId (.start session accounts')) ∧
      ∃ row, accounts.db.subscriptions.get? info.valuePackageSubscriptionId = some row ∧
        (session.funding.base accounts = row.amountUsed ∨
          session.funding.base accounts = 0) := by
  obtain ⟨wallet, remain, hwallet⟩ | ⟨hid, hsub⟩ | hsub := newBillingSession_ok hquota hstart
  · -- the wallet is no value package
    obtain ⟨funding', hfunding, rfl⟩ := preConsume_ok hquota hwallet
    obtain ⟨rfl, -⟩ :=
      fundingPreConsume_wallet (effectiveQuota_nonneg input wallet _ hquota) hfunding
    cases hpackage
  · obtain ⟨result, htx, rfl⟩ := hsub.tx
    rw [if_pos hid] at htx
    obtain ⟨hamount, hpre, hheld, hbase⟩ := packageHeld_preConsume hid hfresh husage hused htx
    have hcontrol : Control (.start (subscriptionSession input info info.valuePackageSubscriptionId
        result) accounts') := ⟨rfl, nofun, nofun, nofun, hamount.le⟩
    refine ⟨hcontrol, ⟨result.quotaEpoch, ?_⟩, hbase⟩
    unfold PackageLeg
    rw [hcontrol.hold_of_open ⟨rfl, rfl⟩]
    refine ⟨hheld, rfl, rfl, ⟨_, rfl, rfl, rfl, ?_⟩⟩
    show 0 < result.preConsumed
    rw [hpre]
    exact hamount
  · obtain ⟨result, -, rfl⟩ := hsub.tx
    cases hpackage

/-- The usage record of the request and its part of the total agree at the end of a session on a
value package: both show the actual quota after a settlement, and nothing after a refund. -/
theorem package_books_follow_session (env : Env) (input : StartInput) (info : RelayInfo)
    (accounts accounts' : Accounts) (session : BillingSession)
    (hquota : 0 ≤ input.walletConsume)
    (hfresh : accounts.db.preConsumeRecords.get? info.requestId = none)
    (husage : accounts.db.usageRecords.get? (info.valuePackageSubscriptionId, info.requestId) =
      none)
    (hused : ∀ sub ∈ accounts.db.subscriptions.rows, 0 ≤ sub.amountUsed)
    (hstart : newBillingSession env input info accounts = (.ok session, accounts'))
    (hpackage : session.valuePackage?.isSome) (calls : List SessionCall)
    (hcalls : Along sessionStep PackageInOrder (.start session accounts') calls) :
    PackageConserved (session.funding.base accounts) info.valuePackageSubscriptionId info.requestId
        (exec sessionStep (.start session accounts') calls) ∧
      ∃ row, accounts.db.subscriptions.get? info.valuePackageSubscriptionId = some row ∧
        (session.funding.base accounts = row.amountUsed ∨
          session.funding.base accounts = 0) := by
  obtain ⟨hcontrol, ⟨epoch, hleg⟩, hbase⟩ :=
    packageLeg_start hquota hfresh husage hused hstart hpackage
  refine ⟨?_, hbase⟩
  obtain ⟨hcontrol', hleg'⟩ := exec_induction
    (fun run => Control run ∧ PackageLeg (session.funding.base accounts) epoch
      info.valuePackageSubscriptionId info.requestId run)
    (fun run call hinv horder => ⟨(sessionStep_refines hinv.1 horder.noSettleAfterRefund).1,
      hinv.2.step hinv.1 horder⟩)
    ⟨hcontrol, hleg⟩ hcalls
  exact hleg'.conserved hcontrol'

/-- A request that is paid from the sample package. -/
def packageInfo : RelayInfo := { sampleInfo with valuePackageSubscriptionId := 1 }

/-- The session of `packageInfo`, as its pre-consume leaves it. -/
def packageSession : BillingSession :=
  subscriptionSession sampleInput packageInfo 1 ⟨1, 10, 1000, 0, 10, 0⟩

/-- The accounts after the pre-consume of `packageInfo`. -/
def packageHeldAccounts : Accounts :=
  (newBillingSession sampleEnv sampleInput packageInfo sampleAccounts).2

/-- Two realtime reservations, one of them beyond the 5h limit, and a settlement below. -/
def packageCalls : List SessionCall :=
  [.reserveRealtime .none 2000 30, .reserveRealtime .none 2001 90, .reserve .none 20,
    .settle .none 2002 25]

theorem packageCalls_keep_books :
    PackageBooks 0 1 "r1"
      (exec sessionStep (.start packageSession packageHeldAccounts) packageCalls).accounts.db
      25 :=
  (package_books_follow_session sampleEnv sampleInput packageInfo sampleAccounts
    packageHeldAccounts packageSession (by decide) rfl rfl (by decide) rfl rfl packageCalls
    (by decide)).1.settled 25 rfl

/-- A `Reserve` to `20` charges the total without the usage record, so the settlement at `25` moves
the record from `10` and charges `15` more. After a refund instead the total keeps `10`. -/
theorem reserve_splits_books :
    newBillingSession sampleEnv sampleInput packageInfo sampleAccounts =
        (.ok packageSession, packageHeldAccounts) ∧
      (exec sessionStep (.start packageSession packageHeldAccounts)
        [.reserve .none 20, .settle .none 2000 25]).settledWith = some 25 ∧
      ((exec sessionStep (.start packageSession packageHeldAccounts)
          [.reserve .none 20, .settle .none 2000 25]).accounts.db.subscriptions.get? 1).map
        (·.amountUsed) = some 35 ∧
      ((exec sessionStep (.start packageSession packageHeldAccounts)
          [.reserve .none 20, .settle .none 2000 25]).accounts.db.usageRecords.get?
        (1, "r1")).map (·.quota) = some 25 ∧
      ((exec sessionStep (.start packageSession packageHeldAccounts)
          [.reserve .none 20, .refund, .runRefund 2000]).accounts.db.subscriptions.get? 1).map
        (·.amountUsed) = some 10 ∧
      ((exec sessionStep (.start packageSession packageHeldAccounts)
          [.reserve .none 20, .refund, .runRefund 2000]).accounts.db.usageRecords.get?
        (1, "r1")).map (·.quota) = some 0 :=
  ⟨rfl, rfl, by decide, by decide, by decide, by decide⟩

end Yunbay
