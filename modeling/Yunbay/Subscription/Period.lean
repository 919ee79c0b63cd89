import Yunbay.Subscription.Ledger
import Yunbay.Subscription.Regular

/-!
# Refunds across a quota reset

A regular subscription counts its use from one quota reset to the next. The record of a request
does not say in which of these periods it was charged, so `RefundSubscriptionPreConsume` takes a
request of an earlier period off the use of the current one.
-/

namespace Yunbay

open Except Run Table

variable {db db' : DB} {record : SubscriptionPreConsumeRecord} {period : Period}
  {requestId : String} {row row' : UserSubscription}

/-! ## Runs -/

/-- The database, and the requests charged to one subscription since its last quota reset. -/
structure Period where
  db : DB
  since : Finset String

/-- A call that charges, refunds or resets. -/
inductive PeriodOp where
  /-- `PreConsumeUserSubscription`. -/
  | preConsume (now : Int) (requestId : String) (userId amount : Int)
  /-- `RefundSubscriptionPreConsume`. -/
  | refund (now : Int) (requestId : String)
  /-- `ResetDueSubscriptions`. -/
  | resetDue (now limit : Int)

/-- The requests since the last reset, after a call that has charged `charged`. -/
def Period.sinceCharge (env : Env) (sid : Int) (period : Period) (now : Int) (requestId : String)
    (userId charged : Int) : Finset String :=
  -- a repeated request is answered from its record
  if (period.db.preConsumeRecords.get? requestId).isSome then period.since
  else
    let since := if resetOnTheWay env sid period.db now userId charged then ∅ else period.since
    if charged = sid then insert requestId since else since

def periodStep (env : Env) (sid : Int) (period : Period) : PeriodOp → Period
  | .preConsume now requestId userId amount =>
    match preConsumeUserSubscription env period.db now requestId userId amount with
    | .error _ => period
    | .ok (result, db) =>
      ⟨db, period.sinceCharge env sid now requestId userId result.userSubscriptionId⟩
  | .refund now requestId =>
    { period with
      db := commit period.db (refundSubscriptionPreConsume period.db now requestId) }
  | .resetDue now limit =>
    let db := resetDueSubscriptions env period.db now limit
    -- the job writes the row of a regular subscription only to reset it
    ⟨db, if db.subscriptions.get? sid = period.db.subscriptions.get? sid then period.since else ∅⟩

/-- What the request holds of its subscription. -/
def openQuota (db : DB) (requestId : String) : Int :=
  (db.preConsumeRecords.get? requestId).elim 0 fun record =>
    if record.status = .refunded then 0 else record.preConsumed

/-- The quota of the requests since the last reset that are not refunded. -/
def Period.openTotal (period : Period) : Int :=
  ∑ requestId ∈ period.since, openQuota period.db requestId

/-- A refund of a request from before the last reset finds nothing to take. -/
def Period.inPeriod (sid : Int) (period : Period) : PeriodOp → Bool
  | .refund _ requestId =>
    decide (requestId ∈ period.since) ||
      (period.db.preConsumeRecords.get? requestId).all (fun record =>
        record.status = .refunded || record.userSubscriptionId ≠ sid) ||
      (period.db.subscriptions.get? sid).all fun row => row.amountUsed = 0
  | _ => true

/-! ## The balance of a period -/

/-- The used amount of the regular subscription is what the requests since its last reset hold. -/
structure Period.Balanced (sid : Int) (period : Period) : Prop where
  row : ∃ row plan, period.db.subscriptions.get? sid = some row ∧
    getSubscriptionPlanByIdTx period.db row.planId = .ok plan ∧ plan.isValuePackage = false ∧
    row.amountUsed = period.openTotal
  /-- A request since the last reset has a record. -/
  charged : ∀ requestId ∈ period.since, ∃ record,
    period.db.preConsumeRecords.get? requestId = some record ∧ record.userSubscriptionId = sid
  /-- The records of the subscription are of valid requests. -/
  records : ∀ requestId record, period.db.preConsumeRecords.get? requestId = some record →
    record.userSubscriptionId = sid → 0 < record.preConsumed ∧ isBlank requestId = false

lemma openQuota_put (h : db'.preConsumeRecords = db.preConsumeRecords.put record)
    (requestId : String) :
    openQuota db' requestId =
      if record.requestId = requestId then
        if record.status = .refunded then 0 else record.preConsumed
      else openQuota db requestId := by
  unfold openQuota
  rw [h, get?_put]
  split_ifs <;> simp [*]

lemma openQuota_congr (h : db'.preConsumeRecords = db.preConsumeRecords) :
    openQuota db' = openQuota db := by
  funext requestId
  simp only [openQuota, h]

lemma Period.sum_refunded {now : Int}
    (hrecord : period.db.preConsumeRecords.get? requestId = some record)
    (hstatus : record.status ≠ .refunded)
    (hpre : db'.preConsumeRecords = period.db.preConsumeRecords.put (markRefunded record now)) :
    ∑ request ∈ period.since, openQuota db' request =
      period.openTotal - if requestId ∈ period.since then record.preConsumed else 0 := by
  have hkey : record.requestId = requestId := key_of_get? hrecord
  have hid : (markRefunded record now).requestId = requestId := hkey
  have hopen : openQuota period.db requestId = record.preConsumed := by
    simp [openQuota, hrecord, hstatus]
  have hclosed : openQuota db' requestId = 0 := by
    rw [openQuota_put hpre, if_pos hid]
    rfl
  have hother : ∀ request, request ≠ requestId →
      openQuota db' request = openQuota period.db request := by
    intro request hne
    rw [openQuota_put hpre, if_neg]
    exact fun heq => hne (heq.symm.trans hid)
  unfold Period.openTotal
  split_ifs with hmem
  · rw [← hopen, ← Finset.sum_erase_eq_sub hmem, ← Finset.sum_erase _ hclosed]
    exact Finset.sum_congr rfl fun request hrequest =>
      hother request (Finset.ne_of_mem_erase hrequest)
  · rw [sub_zero]
    exact Finset.sum_congr rfl fun request hrequest => hother request
      (ne_of_mem_of_not_mem hrequest hmem)

namespace Period.Balanced

variable {env : Env} {sid : Int}

section

variable (h : period.Balanced sid)

include h

lemma openQuota_nonneg (hmem : requestId ∈ period.since) : 0 ≤ openQuota period.db requestId := by
  obtain ⟨record, hrecord, hsid⟩ := h.charged requestId hmem
  have hpos := (h.records requestId record hrecord hsid).1
  simp only [openQuota, hrecord, Option.elim_some]
  split_ifs
  · exact le_refl 0
  · exact hpos.le

/-! ### Charges -/

/-- A request without a record is not among those since the last reset. -/
lemma not_mem_since
    (hnone : period.db.preConsumeRecords.get? requestId = none) : requestId ∉ period.since := by
  intro hmem
  obtain ⟨record, hget, -⟩ := h.charged requestId hmem
  rw [hnone] at hget
  cases hget

/-- A period that begins anew, or goes on, takes up a charged request. -/
lemma charge {plan : SubscriptionPlan} {since : Finset String}
    (hplans : db'.plans = period.db.plans)
    (hpre : db'.preConsumeRecords = period.db.preConsumeRecords.put record)
    (hnone : period.db.preConsumeRecords.get? record.requestId = none)
    (hvalid : 0 < record.preConsumed ∧ isBlank record.requestId = false)
    (hconsumed : record.status = .consumed)
    (hplan : getSubscriptionPlanByIdTx period.db row.planId = .ok plan)
    (hregular : plan.isValuePackage = false) (hsince : since ⊆ period.since)
    (hrow' : db'.subscriptions.get? sid = some row') (hplanId : row'.planId = row.planId)
    (hused : row'.amountUsed = ∑ requestId ∈ since, openQuota period.db requestId +
      if record.userSubscriptionId = sid then record.preConsumed else 0) :
    Period.Balanced sid ⟨db', if record.userSubscriptionId = sid then insert record.requestId since
      else since⟩ := by
  have hfresh : record.requestId ∉ since := fun hmem => h.not_mem_since hnone (hsince hmem)
  have hsame : ∑ requestId ∈ since, openQuota db' requestId =
      ∑ requestId ∈ since, openQuota period.db requestId := by
    refine Finset.sum_congr rfl fun requestId hmem => ?_
    rw [openQuota_put hpre, if_neg]
    exact fun heq => hfresh (heq ▸ hmem)
  have hkept : ∀ requestId ∈ since, ∃ record', db'.preConsumeRecords.get? requestId = some record' ∧
      record'.userSubscriptionId = sid := by
    intro requestId hmem
    rw [hpre, get?_put_of_ne _ (ne_of_mem_of_not_mem hmem hfresh).symm]
    exact h.charged requestId (hsince hmem)
  refine ⟨⟨row', plan, hrow', ?_, hregular, ?_⟩, ?_, ?_⟩
  · rwa [planById_congr hplans, hplanId]
  · unfold Period.openTotal
    rw [hused, ← hsame]
    split_ifs
    · rw [Finset.sum_insert hfresh, openQuota_put hpre record.requestId, if_pos rfl, if_neg,
        add_comm]
      rw [hconsumed]
      exact nofun
    · rw [add_zero]
  · intro requestId hmem
    dsimp only at hmem
    split_ifs at hmem with hsid
    · rcases Finset.mem_insert.mp hmem with rfl | hmem
      · exact ⟨record, hpre ▸ get?_put_self _ _, hsid⟩
      · exact hkept requestId hmem
    · exact hkept requestId hmem
  · intro requestId record' hget hsid
    rw [show db'.preConsumeRecords = _ from hpre, get?_put] at hget
    split_ifs at hget with heq
    · cases hget
      exact heq ▸ hvalid
    · exact h.records requestId record' hget hsid

/-- A charge resets the row if a reset is due, and adds the request if the row is charged. -/
lemma preConsume (now : Int) (requestId : String) (userId amount : Int) :
    (periodStep env sid period (.preConsume now requestId userId amount)).Balanced sid := by
  unfold periodStep
  dsimp only
  split
  · exact h
  rename_i result db' hok
  obtain ⟨hblank, hamount, ⟨hsome, rfl⟩ | ⟨hnone, -⟩⟩ := preConsumeUser_cases hok
  · unfold Period.sinceCharge
    rw [if_pos hsome]
    exact h
  obtain ⟨row, plan, hrow, hplan, hregular, hused⟩ := h.row
  obtain ⟨hplans, ⟨sub, hsub, hpre⟩, row', hrow', hplanId, hused'⟩ :=
    preConsumeUser_row hrow hplan hregular hnone hok
  unfold Period.sinceCharge
  rw [if_neg (by simp [hnone]), ← hsub]
  rw [← hsub] at hused'
  refine h.charge hplans hpre hnone ⟨hamount, hblank⟩ rfl hplan hregular ?_ hrow' hplanId ?_
  · split_ifs
    · exact Finset.empty_subset _
    · exact Finset.Subset.refl _
  · rw [hused']
    congr 1
    split_ifs
    · rfl
    · exact hused

end

/-! ### Refunds -/

section

variable (h : period.Balanced sid)

include h

/-- A write that touches neither the row nor the records. -/
lemma congr (hplans : db'.plans = period.db.plans)
    (hpre : db'.preConsumeRecords = period.db.preConsumeRecords)
    (hrow : db'.subscriptions.get? sid = period.db.subscriptions.get? sid) :
    Period.Balanced sid ⟨db', period.since⟩ := by
  obtain ⟨⟨row, plan, hget, hplan, hregular, hused⟩, hcharged, hrecords⟩ := h
  refine ⟨⟨row, plan, hrow.trans hget, ?_, hregular, ?_⟩, ?_, ?_⟩
  · rwa [planById_congr hplans]
  · rw [hused]
    simp only [Period.openTotal, openQuota_congr hpre]
  · exact fun requestId hmem => hpre ▸ hcharged requestId hmem
  · exact fun requestId record hget => hrecords requestId record (hpre ▸ hget)

section

variable (now : Int) (hrecord : period.db.preConsumeRecords.get? requestId = some record)
  (hstatus : record.status ≠ .refunded)

include hrecord hstatus

lemma settle
    (hplans : db'.plans = period.db.plans)
    (hpre : db'.preConsumeRecords = period.db.preConsumeRecords.put (markRefunded record now))
    (hrow : period.db.subscriptions.get? sid = some row)
    (hrow' : db'.subscriptions.get? sid = some row') (hplanId : row'.planId = row.planId)
    (hused : row'.amountUsed =
      row.amountUsed - if requestId ∈ period.since then record.preConsumed else 0) :
    Period.Balanced sid ⟨db', period.since⟩ := by
  obtain ⟨stored, plan, hget, hplan, hregular, hbalance⟩ := h.row
  rw [hrow] at hget
  cases hget
  have hkey : record.requestId = requestId := key_of_get? hrecord
  have hid : (markRefunded record now).requestId = requestId := hkey
  refine ⟨⟨row', plan, hrow', ?_, hregular, ?_⟩, ?_, ?_⟩
  · rwa [planById_congr hplans, hplanId]
  · rw [hused, hbalance]
    exact (Period.sum_refunded hrecord hstatus hpre).symm
  · intro request hmem
    obtain ⟨charged, hcharged, hsid⟩ := h.charged request hmem
    rw [show (Period.mk db' period.since).db.preConsumeRecords = _ from hpre, get?_put]
    split_ifs with heq
    · refine ⟨_, rfl, ?_⟩
      rw [← heq, hid, hrecord] at hcharged
      cases hcharged
      exact hsid
    · exact ⟨charged, hcharged, hsid⟩
  · intro request record' hget hsid
    rw [show (Period.mk db' period.since).db.preConsumeRecords = _ from hpre, get?_put]
      at hget
    split_ifs at hget with heq
    · cases hget
      rw [← heq, hid]
      exact h.records requestId record hrecord hsid
    · exact h.records request record' hget hsid

lemma refund_row (hsid : record.userSubscriptionId = sid)
    (hrow : period.db.subscriptions.get? sid = some row) :
    ∃ db', refundSubscriptionPreConsume period.db now requestId = .ok ((), db') ∧
      db'.subscriptions.get? sid = some (chargeUsed row (-record.preConsumed)) ∧
      db'.plans = period.db.plans ∧
      db'.preConsumeRecords = period.db.preConsumeRecords.put (markRefunded record now) := by
  obtain ⟨stored, plan, hget, hplan, hregular, -⟩ := h.row
  rw [hrow] at hget
  cases hget
  obtain ⟨hpos, hblank⟩ := h.records requestId record hrecord hsid
  have hconsumed : record.status = .consumed := by
    cases hcase : record.status with
    | consumed => rfl
    | refunded => exact absurd hcase hstatus
  obtain ⟨db', hok, hsubs, hplans, hpre⟩ := refundPreConsume_regular now hblank hrecord
    hconsumed hpos (hsid ▸ hrow) hplan hregular
  refine ⟨db', hok, ?_, hplans, hpre⟩
  obtain rfl : row.id = sid := key_of_get? hrow
  rw [hsubs]
  exact get?_put_self _ (chargeUsed row (-record.preConsumed))

end

lemma preConsumed_le (hrecord : period.db.preConsumeRecords.get? requestId = some record)
    (hstatus : record.status ≠ .refunded) (hmem : requestId ∈ period.since) :
    record.preConsumed ≤ period.openTotal := by
  have hopen : openQuota period.db requestId = record.preConsumed := by
    simp [openQuota, hrecord, hstatus]
  rw [← hopen]
  exact Finset.single_le_sum (fun _ => h.openQuota_nonneg) hmem

lemma refund (now : Int) (requestId : String)
    (hperiod : period.inPeriod sid (.refund now requestId) = true) :
    (periodStep env sid period (.refund now requestId)).Balanced sid := by
  refine commit_induction (fun db => Period.Balanced sid ⟨db, period.since⟩) h ?_
  intro _ db' hok
  obtain ⟨row, plan, hrow, hplan, hregular, hused⟩ := h.row
  obtain ⟨-, record, hrecord, ⟨-, rfl⟩ | ⟨hstatus, sub, plan', db₁, hsub, -, hrefund, hdb'⟩⟩ :=
    refundPreConsume_ok hok
  · obtain ⟨hplans, hpre, hsubs⟩ := revokeUsage_frame period.db
      record.userSubscriptionId requestId
    exact h.congr hplans hpre (by rw [hsubs])
  by_cases hsid : record.userSubscriptionId = sid
  · obtain ⟨db₂, hok₂, hrow', hplans, hpre⟩ := h.refund_row now hrecord hstatus hsid hrow
    rw [hok] at hok₂
    cases hok₂
    refine h.settle now hrecord hstatus hplans hpre hrow hrow' rfl ?_
    show max 0 (row.amountUsed + -record.preConsumed) = _
    have hpos := (h.records requestId record hrecord hsid).1
    split_ifs with hmem
    · have hle := h.preConsumed_le hrecord hstatus hmem
      omega
    · -- the request is of an earlier period, so nothing is used
      have hzero : row.amountUsed = 0 := by
        simpa [Period.inPeriod, hmem, hrecord, hstatus, hsid, hrow] using hperiod
      omega
  · -- the refund is of another subscription's request
    have hmem : requestId ∉ period.since := by
      intro hmem
      obtain ⟨charged, hcharged, hcharge⟩ := h.charged requestId hmem
      rw [hrecord] at hcharged
      cases hcharged
      exact hsid hcharge
    have hframe : db₁.plans = period.db.plans ∧
        db₁.preConsumeRecords = period.db.preConsumeRecords ∧
        db₁.subscriptions.get? sid = period.db.subscriptions.get? sid := by
      obtain rfl | ⟨delta, -, rfl⟩ := refundSubscription_ok hrefund
      · exact ⟨rfl, rfl, rfl⟩
      · refine ⟨rfl, rfl, get?_put_of_ne _ ?_⟩
        exact fun heq => hsid ((key_of_get? hsub).symm.trans heq)
    obtain ⟨hplans, hpre, hsubs⟩ := revokeUsage_frame db₁
      record.userSubscriptionId requestId
    subst hdb'
    have hrow' : ((revokeValuePackageUsageReservationTx db₁ record.userSubscriptionId
        requestId).savePreConsume (markRefunded record now)).subscriptions.get? sid = some row := by
      rw [DB.savePreConsume_subscriptions, hsubs, hframe.2.2, hrow]
    refine h.settle now hrecord hstatus (hplans.trans hframe.1) ?_ hrow hrow' rfl ?_
    · rw [DB.savePreConsume_preConsumeRecords, hpre, hframe.2.1]
    · rw [if_neg hmem, sub_zero]

end

/-! ### Resets -/

/-- The job empties the period together with the row, or leaves both. -/
lemma resetDue (h : period.Balanced sid) (now limit : Int) :
    (periodStep env sid period (.resetDue now limit)).Balanced sid := by
  obtain ⟨row, plan, hrow, hplan, hregular, hused⟩ := h.row
  -- the row is as before, or reset
  let Inv : DB → Prop := fun db => db.plans = period.db.plans ∧
    db.preConsumeRecords = period.db.preConsumeRecords ∧
    ∃ row', db.subscriptions.get? sid = some row' ∧ row'.planId = row.planId ∧
      (row' = row ∨ row'.amountUsed = 0)
  have hinv : Inv (resetDueSubscriptions env period.db now limit) := by
    refine resetDue_induction Inv ?_ ?_ limit ⟨rfl, rfl, row, hrow, rfl, .inl rfl⟩
    · rintro db sub plan' sub' db' ⟨hplans, hpre, row', hget', hplanId, hcases⟩ hget hplan' hpackage
        hadvance
      obtain ⟨hplans₁, -, hpre₁⟩ := maybeAdvance_frame hadvance
      refine ⟨hplans₁.trans hplans, hpre₁.trans hpre, row', ?_, hplanId, hcases⟩
      -- the subscription is not on a value package
      have hne : sub.id ≠ sid := by
        intro heq
        rw [← heq, hget] at hget'
        cases hget'
        rw [planById_congr hplans, hplanId, hplan] at hplan'
        cases hplan'
        rw [hregular] at hpackage
        cases hpackage
      obtain ⟨-, -, rfl⟩ | ⟨-, -, -, rfl⟩ := maybeAdvance_eq_ok.mp hadvance
      · exact hget'
      · rw [DB.saveSubscription_subscriptions, get?_put_of_ne]
        · exact hget'
        · exact hne
    · rintro db sub plan' sub' db' ⟨hplans, hpre, row', hget', hplanId, hcases⟩ hget hdue - - hreset
      obtain ⟨-, hplanId', -, hplans₁, hpre₁, hget₁, hother⟩ :=
        maybeReset_frame hget hreset
      by_cases heq : sub.id = sid
      · rw [heq] at hget hget₁
        rw [hget] at hget'
        cases hget'
        refine ⟨hplans₁.trans hplans, hpre₁.trans hpre, sub', hget₁, hplanId'.trans hplanId, ?_⟩
        obtain rfl | hzero :=
          maybeReset_of_due (of_decide_eq_true hdue).1 hreset
        · exact hcases
        · exact .inr hzero
      · exact ⟨hplans₁.trans hplans, hpre₁.trans hpre, row', (hother sid (Ne.symm heq)).trans hget',
          hplanId, hcases⟩
  obtain ⟨hplans, hpre, row', hrow', hplanId, hcases⟩ := hinv
  unfold periodStep
  dsimp only
  split_ifs with hsame
  · exact h.congr hplans hpre hsame
  · -- the row has been written, so it has been reset
    have hzero : row'.amountUsed = 0 := by
      rcases hcases with rfl | hzero
      · exact absurd (hrow'.trans hrow.symm) hsame
      · exact hzero
    refine ⟨⟨row', plan, hrow', ?_, hregular, ?_⟩, ?_, ?_⟩
    · rwa [planById_congr hplans, hplanId]
    · rw [hzero]
      rfl
    · exact fun _ hmem => absurd hmem (Finset.notMem_empty _)
    · exact fun requestId record hget => h.records requestId record (hpre ▸ hget)

/-! ### Runs -/

lemma step (h : period.Balanced sid) (op : PeriodOp) (hperiod : period.inPeriod sid op = true) :
    (periodStep env sid period op).Balanced sid := by
  cases op with
  | preConsume now requestId userId amount => exact h.preConsume now requestId userId amount
  | refund now requestId => exact h.refund now requestId hperiod
  | resetDue now limit => exact h.resetDue now limit

end Period.Balanced

/-- The used amount covers the requests since the last reset that are not refunded. -/
def Period.Covered (sid : Int) (period : Period) : Prop :=
  ∃ row, period.db.subscriptions.get? sid = some row ∧ period.openTotal ≤ row.amountUsed

/-- After a refund of a request of an earlier period, the used amount does not cover the requests of
this one. -/
lemma Period.Balanced.inPeriod_of_covered {env : Env} {sid : Int} (h : period.Balanced sid)
    {op : PeriodOp} (hcovered : (periodStep env sid period op).Covered sid) :
    period.inPeriod sid op = true := by
  cases op with
  | preConsume | resetDue => rfl
  | refund now requestId =>
    by_contra hnot
    obtain ⟨row, plan, hrow, hplan, hregular, hused⟩ := h.row
    simp only [Period.inPeriod, hrow, Option.all_some, Bool.or_eq_true, decide_eq_true_eq,
      not_or] at hnot
    obtain ⟨⟨hmem, hopen⟩, hnonzero⟩ := hnot
    cases hrecord : period.db.preConsumeRecords.get? requestId with
    | none => simp [hrecord] at hopen
    | some record =>
      obtain ⟨hstatus, hsid⟩ : record.status ≠ .refunded ∧ record.userSubscriptionId = sid := by
        simpa [hrecord] using hopen
      obtain ⟨db', hok, hrow', -, hpre⟩ := h.refund_row now hrecord hstatus hsid hrow
      obtain ⟨final, hfinal, hle⟩ := hcovered
      have hpos := (h.records requestId record hrecord hsid).1
      have hsum := Period.sum_refunded hrecord hstatus hpre
      rw [if_neg hmem, sub_zero] at hsum
      have hnonneg : 0 ≤ period.openTotal := Finset.sum_nonneg fun _ => h.openQuota_nonneg
      simp only [periodStep, hok, commit_ok, Period.openTotal] at hfinal hle
      rw [hrow'] at hfinal
      cases hfinal
      rw [hsum] at hle
      have hmax : period.openTotal ≤ max 0 (row.amountUsed + -record.preConsumed) := hle
      omega

/-- A regular subscription without use and without records of its own. -/
structure FreshRegular (db : DB) (sid : Int) : Prop where
  row : ∃ row plan, db.subscriptions.get? sid = some row ∧
    getSubscriptionPlanByIdTx db row.planId = .ok plan ∧ plan.isValuePackage = false ∧
    row.amountUsed = 0
  no_preConsume : ∀ record ∈ db.preConsumeRecords.rows, record.userSubscriptionId ≠ sid

/-- The used amount of a regular subscription always covers the requests charged since the last
reset that are not refunded, exactly when every refund of a request of an earlier period comes when
nothing is used. -/
theorem used_covers_open_requests_iff (env : Env) (sid : Int) (db : DB)
    (hfresh : FreshRegular db sid)
    (ops : List PeriodOp) :
    (∀ ops', ops' <+: ops → (exec (periodStep env sid) ⟨db, ∅⟩ ops').Covered sid) ↔
      Along (periodStep env sid) (fun period op => period.inPeriod sid op = true) ⟨db, ∅⟩
        ops := by
  obtain ⟨row, plan, hrow, hplan, hregular, hzero⟩ := hfresh.row
  have hstart : Period.Balanced sid ⟨db, ∅⟩ := by
    refine ⟨⟨row, plan, hrow, hplan, hregular, hzero⟩, ?_, ?_⟩
    · exact fun _ hmem => absurd hmem (Finset.notMem_empty _)
    · intro requestId record hget hsid
      exact absurd hsid (hfresh.no_preConsume record (mem_of_get? hget))
  refine forall_prefix_iff_along (Period.Balanced sid) (Period.Covered sid) ?_
    (fun _ op h => h.step op) (fun _ _ h => h.inPeriod_of_covered) hstart
  rintro period h
  obtain ⟨row, -, hrow, -, -, hused⟩ := h.row
  exact ⟨row, hrow, hused.ge⟩

/-- A plan of `100` that is reset every hundred seconds, and a subscription to it. -/
def hundredSecondDB : DB :=
  { sampleDB with
    plans := sampleDB.plans.put ⟨2, .subscription, .other, 0, 0, 100, .custom, 100⟩
    subscriptions := sampleDB.subscriptions.put
      ⟨2, 1, 2, 100, 0, 0, 1000, 10000000, .active, 1000, 1100, 1000⟩ }

lemma freshRegular_hundredSecondDB : FreshRegular hundredSecondDB 2 where
  row := ⟨_, _, rfl, rfl, rfl, rfl⟩
  no_preConsume := nofun

/-- Two requests of one period, a refund of the first, and the job. -/
def refundInPeriod : List PeriodOp :=
  [.preConsume 1001 "r1" 1 10, .preConsume 1002 "r2" 1 20, .refund 1003 "r1", .resetDue 1100 0]

theorem refundInPeriod_covered :
    FreshRegular hundredSecondDB 2 ∧ ∀ ops', ops' <+: refundInPeriod →
      (exec (periodStep sampleEnv 2) ⟨hundredSecondDB, ∅⟩ ops').Covered 2 :=
  ⟨freshRegular_hundredSecondDB, (used_covers_open_requests_iff sampleEnv 2 hundredSecondDB
    freshRegular_hundredSecondDB refundInPeriod).mpr (by decide)⟩

/-- The job resets the subscription between two requests. The refund of the first then takes the
`10` of the second off the used amount. -/
theorem late_refund_erases_usage :
    let final := exec (periodStep sampleEnv 2) ⟨hundredSecondDB, ∅⟩
      [.preConsume 1001 "r1" 1 10, .resetDue 1100 0, .preConsume 1101 "r2" 1 10, .refund 1102 "r1"]
    final.since = {"r2"} ∧ final.openTotal = 10 ∧
      (final.db.subscriptions.get? 2).map (·.amountUsed) = some 0 := by
  decide

end Yunbay
