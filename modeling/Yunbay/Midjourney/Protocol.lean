import Yunbay.Midjourney.Refund

/-!
# The refund protocol of Midjourney tasks

What holds for any number of workers, any interleaving of their database steps and any failing
steps. A worker relies on little: the frozen part of the task in its memory is that of the row, the
flag `BillingRefunded` of its copy is also set in the row, and a worker that is past a leg of the
refund has seen the flag of that leg. Flags are never cleared.
-/

namespace Yunbay

open Except Run MidjourneyWork

variable {work : MidjourneyWork} {fails completed : Bool}
  {pay : MidjourneyStore → Except MidjourneyError MidjourneyStore}
  {updated : MidjourneyBillingContext} {paid : MidjourneyStore} {target : Option String} {now : Int}
  {u : Unit}

/-! ## The frozen part of a task -/

namespace Midjourney

/-- What no step of the protocol changes. -/
def frozen (task : Midjourney) : Midjourney :=
  { task with
    status := ""
    progress := ""
    billingContext :=
      { task.billingContext with
        fundingRefunded := false, tokenRefunded := false, billingRefunded := false } }

variable {task stored : Midjourney}

/-- What depends on the frozen part only is the same for a copy and the row. -/
lemma congr_frozen {α : Type} (f : Midjourney → α) (hf : ∀ task, f task = f task.frozen)
    (h : task.frozen = stored.frozen) : f task = f stored := by
  rw [hf task, h, ← hf stored]

section

variable (h : task.frozen = stored.frozen)

include h

lemma fundingPath_congr : task.fundingPath = stored.fundingPath :=
  congr_frozen fundingPath (fun _ => rfl) h

lemma tokenRefundQuota_congr : task.tokenRefundQuota = stored.tokenRefundQuota :=
  congr_frozen tokenRefundQuota (fun _ => rfl) h

lemma isFree_congr : task.isFree = stored.isFree :=
  congr_frozen isFree (fun _ => rfl) h

lemma requestId_congr : task.billingContext.requestId = stored.billingContext.requestId :=
  congr_frozen (fun task => task.billingContext.requestId) (fun _ => rfl) h

/-- A copy that gets the billing context of the row, or another status and progress, is still a copy
of the row. -/
lemma frozen_withContext {status progress : String} :
    ({ task with status, progress, billingContext := stored.billingContext } : Midjourney).frozen =
      stored.frozen := by
  have hquota : task.quota = stored.quota := congr_frozen quota (fun _ => rfl) h
  simp only [frozen, hquota]

end

/-- Both legs of the refund are done, as far as the task has them. -/
def Settled (task : Midjourney) : Prop :=
  task.billingContext.fundingRefunded = true ∧
    (0 < task.tokenRefundQuota → task.billingContext.tokenRefunded = true)

end Midjourney

/-! ## Invariant and guarantee -/

namespace MidjourneyStore

/-- The trace that the credit of the funding source leaves in the store. -/
def Credited (store : MidjourneyStore) : Prop :=
  match store.task.fundingPath with
  | .request =>
    requestRefunded store.accounts.db (trimSpace store.task.billingContext.requestId) = true
  | _ => store.task.billingContext.fundingRefunded = true

structure Inv (store : MidjourneyStore) : Prop where
  billing : store.task.billingContext.billingRefunded = true →
    store.task.billingContext.fundingRefunded = true ∧
      store.task.billingContext.tokenRefunded = true
  fundingOnce : store.fundingCredits ≤ 1
  credited : store.fundingCredits ≠ 0 → store.Credited
  tokenOnce : store.tokenCredits ≤ 1
  tokenCredited : store.tokenCredits ≠ 0 → store.task.billingContext.tokenRefunded = true

/-- Flags are only set, the rest of the billing context is frozen, and the progress leaves
`REFUND_PENDING` only when the refund is done. -/
structure Guar (store store' : MidjourneyStore) : Prop where
  frozen : store'.task.frozen = store.task.frozen
  funding : store.task.billingContext.fundingRefunded = true →
    store'.task.billingContext.fundingRefunded = true
  token : store.task.billingContext.tokenRefunded = true →
    store'.task.billingContext.tokenRefunded = true
  billing : store.task.billingContext.billingRefunded = true →
    store'.task.billingContext.billingRefunded = true
  progress : store.task.progress = refundPending → store'.task.progress ≠ refundPending →
    store.task.Settled ∨ store.task.isFree = true

lemma Guar.refl (store : MidjourneyStore) : Guar store store where
  frozen := rfl
  funding := id
  token := id
  billing := id
  progress := fun hpending hleft => absurd hpending hleft

end MidjourneyStore

/-- A copy of the row, possibly an old one. -/
structure Midjourney.Stale (task stored : Midjourney) : Prop where
  frozen : task.frozen = stored.frozen
  billing : task.billingContext.billingRefunded = true →
    stored.billingContext.billingRefunded = true

namespace MidjourneyWork

/-- What a worker relies on. -/
def Own (store : MidjourneyStore) : MidjourneyWork → Prop
  | .holding task => task.Stale store.task
  | .load task _ _ => task.Stale store.task
  | .update task _ fromProgress _ _ => task.Stale store.task ∧ fromProgress ≠ refundPending
  | .fund path task _ => task.Stale store.task ∧ (path = .mark ∨ path = task.fundingPath)
  | .tokenKey task _ =>
    task.Stale store.task ∧ store.task.billingContext.fundingRefunded = true
  | .token task _ => task.Stale store.task ∧ store.task.billingContext.fundingRefunded = true
  | .complete _ => store.task.Settled ∨ store.task.isFree = true
  | .done => True

end MidjourneyWork

open Midjourney MidjourneyStore MidjourneyWork

variable {store store' : MidjourneyStore} {task stored : Midjourney}

lemma Midjourney.Stale.mono (h : task.Stale store.task) (hguar : Guar store store') :
    task.Stale store'.task :=
  ⟨h.frozen.trans hguar.frozen.symm, fun htask => hguar.billing (h.billing htask)⟩

/-- A refund that is done stays done. -/
lemma MidjourneyStore.Guar.settled (hguar : Guar store store')
    (h : store.task.Settled ∨ store.task.isFree = true) :
    store'.task.Settled ∨ store'.task.isFree = true := by
  rcases h with ⟨hfunding, htoken⟩ | hfree
  · refine .inl ⟨hguar.funding hfunding, fun hquota => hguar.token (htoken ?_)⟩
    rwa [← tokenRefundQuota_congr hguar.frozen]
  · exact .inr ((isFree_congr hguar.frozen).trans hfree)

/-- What a worker relies on survives the steps of the others. -/
lemma MidjourneyWork.Own.stable (hguar : Guar store store') (h : work.Own store) :
    work.Own store' := by
  cases work with
  | holding | load => exact Stale.mono h hguar
  | update | fund => exact ⟨h.1.mono hguar, h.2⟩
  | tokenKey | token => exact ⟨h.1.mono hguar, hguar.funding h.2⟩
  | complete target => exact hguar.settled h
  | done => trivial

/-! ## From one database step to the next -/

lemma own_afterRefund (h : store.task.Settled ∨ store.task.isFree = true)
    (target : Option String) : (afterRefund target).Own store := by
  cases target with
  | none => trivial
  | some target => exact h

lemma own_refundMidjourneyToken (hstale : task.Stale store.task)
    (hfunding : store.task.billingContext.fundingRefunded = true) (target : Option String) :
    (refundMidjourneyToken task target).Own store := by
  unfold refundMidjourneyToken
  split_ifs with hnone
  · refine own_afterRefund (.inl ⟨hfunding, fun hquota => ?_⟩) target
    rw [← tokenRefundQuota_congr hstale.frozen] at hquota
    have hzero : task.tokenRefundQuota ≤ 0 := by
      rcases hnone with hid | hle
      · rw [tokenRefundQuota, if_pos hid]
      · exact hle
    exact absurd hquota (not_lt.mpr hzero)
  · exact ⟨hstale, hfunding⟩

lemma own_refundMidjourneyQuota (hinv : store.Inv) (hstale : task.Stale store.task)
    (target : Option String) : (refundMidjourneyQuota task target).Own store := by
  unfold refundMidjourneyQuota
  split_ifs with hbilling hfree
  · -- the copy may be old, but the flag is still set in the row
    obtain ⟨hfunding, htoken⟩ := hinv.billing (hstale.billing hbilling)
    exact own_afterRefund (.inl ⟨hfunding, fun _ => htoken⟩) target
  · exact own_afterRefund (.inr ((isFree_congr hstale.frozen).symm.trans hfree)) target
  · exact ⟨hstale, .inr rfl⟩

lemma own_commitUpdate (hinv : store.Inv) (hstale : task.Stale store.task)
    (preStatus : String) (shouldRefund : Bool) :
    (commitMidjourneyTaskUpdate store.task task preStatus shouldRefund).Own store := by
  unfold commitMidjourneyTaskUpdate
  by_cases hpending : store.task.progress = refundPending
  · rw [if_pos hpending]
    exact own_refundMidjourneyQuota hinv ⟨rfl, id⟩ _
  · rw [if_neg hpending]
    by_cases hdone : store.task.progress = "100%"
    · rw [if_pos hdone]
      trivial
    · rw [if_neg hdone]
      by_cases hstatus : store.task.status ≠ preStatus
      · rw [if_pos hstatus]
        trivial
      · rw [if_neg hstatus]
        exact ⟨⟨frozen_withContext hstale.frozen, id⟩, hpending⟩

/-! ## Transactions -/

/-- What a worker may leave behind. -/
structure MidjourneyWork.Good (store : MidjourneyStore)
    (result : MidjourneyStore × MidjourneyWork) : Prop where
  inv : result.1.Inv
  own : result.2.Own result.1
  guar : Guar store result.1

lemma MidjourneyWork.Good.stay (hinv : store.Inv) (hown : work.Own store) :
    Good store (store, work) :=
  ⟨hinv, hown, .refl store⟩

lemma afterTx_good {result : RefundResult} {next : Midjourney → MidjourneyWork}
    (hinv : store.Inv)
    (hok : ∀ completed updated store', result = .ok ((completed, updated), store') →
      Good store (store', next { task with billingContext := updated })) :
    Good store (afterTx store task fails result next) := by
  unfold afterTx
  split
  · exact hok _ _ _ rfl
  · exact .stay hinv trivial

/-- A funding transaction that commits finds the leg done, or pays and marks it. -/
lemma refundFundingOnce_ok (h : refundFundingOnce pay store = .ok ((completed, updated), store')) :
    (store.task.billingContext.fundingRefunded = true ∧ updated = store.task.billingContext ∧
        store' = store) ∨
      store.task.billingContext.fundingRefunded = false ∧ ∃ paid, pay store = .ok paid ∧
        updated = completeMidjourneyFundingContext store.task.billingContext
          store.task.tokenRefundQuota ∧
        store' = paid.setContext updated := by
  unfold refundFundingOnce at h
  dsimp only at h
  split_ifs at h with hdone
  · simp only [pure_eq_ok, Prod.mk.injEq] at h
    exact .inl ⟨hdone, h.1.2.symm, h.2.symm⟩
  · obtain ⟨paid, hpaid, h⟩ := bind_eq_ok.mp h
    simp only [pure_eq_ok, Prod.mk.injEq] at h
    exact .inr ⟨by simpa using hdone, paid, hpaid, h.1.2.symm, h.1.2 ▸ h.2.symm⟩

/-- The payment of a funding transaction: the counts, and the tables that the invariant reads. -/
structure MidjourneyStore.Pays (store paid : MidjourneyStore) : Prop where
  task : paid.task = store.task
  tokenCredits : paid.tokenCredits = store.tokenCredits
  records : paid.accounts.db.preConsumeRecords = store.accounts.db.preConsumeRecords
  /-- Only the transactions that are not for a request pay. -/
  credits : paid.fundingCredits = store.fundingCredits ∨
    paid.fundingCredits = store.fundingCredits + 1 ∧ store.task.fundingPath ≠ .request

lemma completeFunding_flags (context : MidjourneyBillingContext) (tokenQuota : Int) :
    let updated := completeMidjourneyFundingContext context tokenQuota
    updated.fundingRefunded = true ∧
      (context.tokenRefunded = true → updated.tokenRefunded = true) ∧
      (context.billingRefunded = true → updated.billingRefunded = true) ∧
      (updated.billingRefunded = true →
        context.billingRefunded = true ∨ updated.tokenRefunded = true) := by
  unfold completeMidjourneyFundingContext
  split_ifs <;> simp +contextual

lemma frozen_completeFunding (task : Midjourney) (tokenQuota : Int) :
    ({ task with
        billingContext := completeMidjourneyFundingContext task.billingContext tokenQuota } :
      Midjourney).frozen = task.frozen := by
  unfold completeMidjourneyFundingContext
  split_ifs <;> rfl

/-- A leg that has been paid for in another way than by the request is marked. -/
lemma MidjourneyStore.Inv.credits_eq_zero (hinv : store.Inv)
    (hpath : store.task.fundingPath ≠ .request)
    (hopen : store.task.billingContext.fundingRefunded = false) : store.fundingCredits = 0 := by
  by_contra hne
  have hcredited := hinv.credited hne
  unfold Credited at hcredited
  split at hcredited
  · next hrequest => exact hpath hrequest
  · rw [hopen] at hcredited
    cases hcredited

/-- The funding leg is marked in one transaction with the payment, so a leg that has been paid for
is not paid for again. -/
lemma pays_inv (hinv : store.Inv) (hpays : Pays store paid)
    (hopen : store.task.billingContext.fundingRefunded = false) :
    (paid.setContext (completeMidjourneyFundingContext store.task.billingContext
      store.task.tokenRefundQuota)).Inv := by
  obtain ⟨hfunding, htoken, -, hbilling⟩ := completeFunding_flags
    store.task.billingContext store.task.tokenRefundQuota
  have hfrozen := frozen_completeFunding store.task store.task.tokenRefundQuota
  constructor
  case billing =>
    intro hall
    refine ⟨hfunding, (hbilling hall).resolve_left fun hbefore => ?_⟩
    rw [(hinv.billing hbefore).1] at hopen
    cases hopen
  case fundingOnce =>
    show paid.fundingCredits ≤ 1
    rcases hpays.credits with hsame | ⟨hnext, hpath⟩
    · exact hsame ▸ hinv.fundingOnce
    · rw [hnext, hinv.credits_eq_zero hpath hopen]
  case credited =>
    intro hne
    have hpath := fundingPath_congr hfrozen
    have hid := requestId_congr hfrozen
    unfold Credited setContext
    rw [hpays.task]
    dsimp only at hpath hid ⊢
    rw [hpath]
    split
    · next hrequest =>
        -- the request itself was refunded in a transaction of its own
        have hcredits : store.fundingCredits ≠ 0 := by
          rcases hpays.credits with hsame | ⟨-, hnot⟩
          · exact hsame ▸ hne
          · exact absurd hrequest hnot
        have hcredited := hinv.credited hcredits
        rw [Credited, hrequest] at hcredited
        rw [hid, requestRefunded, hpays.records]
        exact hcredited
    · exact hfunding
  case tokenOnce =>
    show paid.tokenCredits ≤ 1
    exact hpays.tokenCredits ▸ hinv.tokenOnce
  case tokenCredited =>
    intro hne
    exact htoken (hinv.tokenCredited (hpays.tokenCredits ▸ hne))

lemma fundingOnce_good (hinv : store.Inv) (hstale : task.Stale store.task)
    (hpay : ∀ paid, pay store = .ok paid → Pays store paid)
    (h : refundFundingOnce pay store = .ok ((completed, updated), store')) :
    Good store (store', refundMidjourneyToken { task with billingContext := updated } target) := by
  obtain ⟨hdone, rfl, rfl⟩ | ⟨hopen, paid, hpaid, rfl, rfl⟩ := refundFundingOnce_ok h
  · have hcopy : ({ task with billingContext := store'.task.billingContext } : Midjourney).Stale
        store'.task := ⟨frozen_withContext hstale.frozen, id⟩
    exact .stay hinv (own_refundMidjourneyToken hcopy hdone target)
  · have hpays := hpay paid hpaid
    obtain ⟨hfunding, htoken, hbilling, -⟩ := completeFunding_flags
      store.task.billingContext store.task.tokenRefundQuota
    have hfrozen := frozen_completeFunding store.task store.task.tokenRefundQuota
    have hguar : Guar store (paid.setContext (completeMidjourneyFundingContext
        store.task.billingContext store.task.tokenRefundQuota)) := by
      unfold setContext
      rw [hpays.task]
      exact ⟨hfrozen, fun _ => hfunding, htoken, hbilling,
        fun hpending hleft => absurd hpending hleft⟩
    have hcopy : ({ task with
          billingContext := completeMidjourneyFundingContext store.task.billingContext
            store.task.tokenRefundQuota } : Midjourney).Stale
        (paid.setContext (completeMidjourneyFundingContext store.task.billingContext
          store.task.tokenRefundQuota)).task :=
      ⟨frozen_withContext (hstale.frozen.trans hguar.frozen.symm), id⟩
    exact ⟨pays_inv hinv hpays hopen, own_refundMidjourneyToken hcopy hfunding target, hguar⟩

lemma payWallet_pays (hpath : store.task.fundingPath ≠ .request)
    (h : payWallet store = .ok paid) : Pays store paid := by
  obtain ⟨_, h⟩ := of_bind h
  cases h
  exact ⟨rfl, rfl, rfl, .inr ⟨rfl, hpath⟩⟩

lemma paySubscription_pays (hpath : store.task.fundingPath ≠ .request)
    (h : paySubscription store = .ok paid) : Pays store paid := by
  obtain ⟨_, h⟩ := of_bind h
  obtain ⟨db, hdb, h⟩ := bind_eq_ok.mp h
  cases h
  unfold payMidjourneySubscription at hdb
  split at hdb
  · cases hdb
  · cases hdb
    exact ⟨rfl, rfl, rfl, .inr ⟨rfl, hpath⟩⟩

lemma refundMidjourneyRequest_ok (h : refundMidjourneyRequest now task store = .ok (u, store')) :
    store'.task = store.task ∧ store'.tokenCredits = store.tokenCredits ∧
      requestRefunded store'.accounts.db (trimSpace task.billingContext.requestId) = true ∧
      store'.fundingCredits = store.fundingCredits +
        if requestRefunded store.accounts.db (trimSpace task.billingContext.requestId) then 0
        else 1 := by
  obtain ⟨⟨_, db⟩, hdb, h⟩ := bind_eq_ok.mp h
  cases h
  refine ⟨rfl, rfl, ?_, rfl⟩
  obtain ⟨-, record, hrecord, ⟨hstatus, rfl⟩ | ⟨-, sub, plan, db₁, -, -, -, rfl⟩⟩ :=
    refundPreConsume_ok hdb
  · obtain ⟨-, hkept, -⟩ := revokeUsage_frame store.accounts.db
      record.userSubscriptionId (trimSpace task.billingContext.requestId)
    show requestRefunded (revokeValuePackageUsageReservationTx _ _ _) _ = true
    rw [requestRefunded, hkept, hrecord]
    simp [hstatus]
  · have hid : record.requestId = trimSpace task.billingContext.requestId :=
      Table.key_of_get? hrecord
    have hput : ((revokeValuePackageUsageReservationTx db₁ record.userSubscriptionId
        record.requestId).savePreConsume (markRefunded record now)).preConsumeRecords.get?
        record.requestId = some (markRefunded record now) :=
      Table.get?_put_self _ (markRefunded record now)
    show requestRefunded (DB.savePreConsume _ (markRefunded record now)) _ = true
    rw [requestRefunded, ← hid, hput]
    rfl

section

variable (hinv : store.Inv) (hstale : task.Stale store.task) (hpath : task.fundingPath = .request)
  (h : refundMidjourneyRequest now task store = .ok (u, store'))

include hinv hstale hpath h

lemma refundMidjourneyRequest_inv : store'.Inv := by
  obtain ⟨htask, htoken, hrefunded, hcredits⟩ := refundMidjourneyRequest_ok h
  have hstored := (fundingPath_congr hstale.frozen).symm.trans hpath
  have hid := requestId_congr hstale.frozen
  constructor
  case billing => exact htask ▸ hinv.billing
  case fundingOnce =>
    rw [hcredits]
    split_ifs with hbefore
    · exact hinv.fundingOnce
    · have hzero : store.fundingCredits = 0 := by
        by_contra hne
        have hcredited := hinv.credited hne
        rw [Credited, hstored, ← hid] at hcredited
        exact hbefore hcredited
      rw [hzero]
  case credited =>
    intro _
    rw [Credited, htask, hstored, ← hid]
    exact hrefunded
  case tokenOnce => exact htoken ▸ hinv.tokenOnce
  case tokenCredited => exact htask ▸ htoken ▸ hinv.tokenCredited

lemma refundMidjourneyRequest_good : Good store (store', .fund .mark task target) := by
  obtain ⟨htask, -⟩ := refundMidjourneyRequest_ok h
  have hguar : Guar store store' := by
    constructor
    case frozen => rw [htask]
    case funding => exact htask ▸ id
    case token => exact htask ▸ id
    case billing => exact htask ▸ id
    case progress => exact htask ▸ fun hpending hleft => absurd hpending hleft
  exact ⟨refundMidjourneyRequest_inv hinv hstale hpath h, ⟨hstale.mono hguar, .inl rfl⟩, hguar⟩

end

/-- A token transaction that commits finds the leg done, or pays and marks it. -/
lemma refundTokenOnce_ok
    (h : refundMidjourneyTokenQuotaOnce task store = .ok ((completed, updated), store')) :
    (store.task.billingContext.tokenRefunded = true ∧ store' = store) ∨
      store.task.billingContext.tokenRefunded = false ∧
        store'.task = { store.task with
          billingContext := { store.task.billingContext with
            tokenRefunded := true
            billingRefunded := store.task.billingContext.fundingRefunded } } ∧
        store'.accounts.db = store.accounts.db ∧ store'.fundingCredits = store.fundingCredits ∧
        store'.tokenCredits = store.tokenCredits + 1 := by
  obtain ⟨_, h⟩ := of_bind h
  dsimp only at h
  split_ifs at h with hdone
  · simp only [pure_eq_ok, Prod.mk.injEq] at h
    exact .inl ⟨hdone, h.2.symm⟩
  · obtain ⟨_, h⟩ := of_bind h
    simp only [pure_eq_ok, Prod.mk.injEq] at h
    obtain ⟨-, rfl⟩ := h
    exact .inr ⟨by simpa using hdone, rfl, rfl, rfl, rfl⟩

lemma refundTokenOnce_good (hinv : store.Inv)
    (hfunding : store.task.billingContext.fundingRefunded = true)
    (h : refundMidjourneyTokenQuotaOnce task store = .ok ((completed, updated), store')) :
    Good store (store', afterRefund target) := by
  obtain ⟨hdone, rfl⟩ | ⟨hopen, htask, hdb, hcredits, htoken⟩ :=
    refundTokenOnce_ok h
  · exact .stay hinv (own_afterRefund (.inl ⟨hfunding, fun _ => hdone⟩) target)
  · have hzero : store.tokenCredits = 0 := by
      by_contra hne
      rw [hinv.tokenCredited hne] at hopen
      cases hopen
    constructor
    case inv =>
      constructor
      case billing =>
        rw [htask]
        exact fun hall => ⟨hall, rfl⟩
      case fundingOnce => exact hcredits ▸ hinv.fundingOnce
      case credited =>
        intro hne
        have hcredited := hinv.credited (hcredits ▸ hne)
        unfold Credited at hcredited ⊢
        rw [htask, hdb]
        exact hcredited
      case tokenOnce =>
        show store'.tokenCredits ≤ 1
        rw [htoken, hzero]
      case tokenCredited =>
        intro _
        rw [htask]
    case own =>
      refine own_afterRefund (.inl ?_) target
      rw [htask]
      exact ⟨hfunding, fun _ => rfl⟩
    case guar =>
      constructor
      case frozen =>
        rw [htask]
        rfl
      case funding =>
        rw [htask]
        exact id
      case token =>
        rw [htask]
        exact fun _ => rfl
      case billing =>
        rw [htask]
        exact fun _ => hfunding
      case progress =>
        rw [htask]
        exact fun hpending hleft => absurd hpending hleft

/-! ## Writes of status and progress -/

/-- A write of status and progress that keeps the frozen part and the flags keeps the invariant. -/
lemma MidjourneyStore.Inv.of_context (hinv : store.Inv) (hfrozen : task.frozen = store.task.frozen)
    (hcontext : task.billingContext = store.task.billingContext) :
    ({ store with task } : MidjourneyStore).Inv := by
  constructor
  case billing => exact hcontext ▸ hinv.billing
  case fundingOnce => exact hinv.fundingOnce
  case credited =>
    intro hne
    have hcredited := hinv.credited hne
    unfold Credited at hcredited ⊢
    rw [fundingPath_congr hfrozen, hcontext]
    exact hcredited
  case tokenOnce => exact hinv.tokenOnce
  case tokenCredited => exact hcontext ▸ hinv.tokenCredited

/-- Such a write is one that the workers tolerate, if it does not end `REFUND_PENDING` too early. -/
lemma MidjourneyStore.Guar.of_context (hfrozen : task.frozen = store.task.frozen)
    (hcontext : task.billingContext = store.task.billingContext)
    (hprogress : store.task.progress = refundPending →
      store.task.Settled ∨ store.task.isFree = true) :
    Guar store { store with task } := by
  constructor
  case frozen => exact hfrozen
  case funding => exact hcontext ▸ id
  case token => exact hcontext ▸ id
  case billing => exact hcontext ▸ id
  case progress => exact fun hpending _ => hprogress hpending

lemma update_good {shouldRefund : Bool} {preStatus fromProgress targetProgress : String}
    (hinv : store.Inv) (hstale : task.Stale store.task) (hfrom : fromProgress ≠ refundPending) :
    Good store (proceed now fails store
      (.update task preStatus fromProgress targetProgress shouldRefund)) := by
  unfold proceed
  dsimp only
  split
  · next hwins =>
      have hprogress : store.task.progress = fromProgress := by
        simpa using (Bool.and_eq_true_iff.mp hwins).2
      have hfrozen : ({ task with billingContext := store.task.billingContext } :
          Midjourney).frozen = store.task.frozen := frozen_withContext hstale.frozen
      have hinv' := hinv.of_context hfrozen rfl
      have hguar : Guar store { store with
          task := { task with billingContext := store.task.billingContext } } :=
        .of_context hfrozen rfl fun hpending => absurd (hprogress.symm.trans hpending) hfrom
      refine ⟨hinv', ?_, hguar⟩
      split_ifs
      · exact own_refundMidjourneyQuota hinv' (hstale.mono hguar) _
      · trivial
  · exact .stay hinv trivial

/-- Whoever shows the final progress knows that the refund is done. -/
lemma complete_good {target : String} (hinv : store.Inv)
    (hdone : store.task.Settled ∨ store.task.isFree = true) :
    Good store (proceed now fails store (.complete target)) := by
  unfold proceed
  dsimp only
  split_ifs
  · exact ⟨hinv.of_context rfl rfl, trivial, .of_context rfl rfl fun _ => hdone⟩
  · exact .stay hinv trivial

/-! ## The rule -/

lemma fund_good {path : FundingPath} (hinv : store.Inv) (hstale : task.Stale store.task)
    (hpath : path = .mark ∨ path = task.fundingPath) :
    Good store (proceed now fails store (.fund path task target)) := by
  have hstored := fundingPath_congr hstale.frozen
  cases path with
  | mark =>
    unfold proceed
    dsimp only
    refine afterTx_good hinv fun completed updated store' h => ?_
    refine fundingOnce_good hinv hstale (fun paid hpaid => ?_) h
    cases hpaid
    exact ⟨rfl, rfl, rfl, .inl rfl⟩
  | request =>
    unfold proceed
    dsimp only
    split
    · next hok =>
        exact refundMidjourneyRequest_good hinv hstale (hpath.resolve_left nofun).symm hok
    · exact .stay hinv trivial
  | subscription | wallet =>
    have hnot : store.task.fundingPath ≠ .request := by
      rw [← hstored, ← hpath.resolve_left nofun]
      exact nofun
    unfold proceed
    dsimp only
    refine afterTx_good hinv fun completed updated store' h => ?_
    obtain ⟨_, h⟩ := of_bind h
    first
    | exact fundingOnce_good hinv hstale (fun _ => paySubscription_pays hnot) h
    | exact fundingOnce_good hinv hstale (fun _ => payWallet_pays hnot) h

lemma proceed_good (hinv : store.Inv) (hown : work.Own store) :
    Good store (work.proceed now fails store) := by
  cases work with
  | holding task => exact .stay hinv hown
  | load task preStatus shouldRefund =>
    refine .stay hinv ?_
    split_ifs
    · trivial
    · exact own_commitUpdate hinv hown preStatus shouldRefund
  | update task preStatus fromProgress targetProgress shouldRefund =>
    exact update_good hinv hown.1 hown.2
  | fund path task target => exact fund_good hinv hown.1 hown.2
  | tokenKey task target =>
    refine .stay hinv ?_
    split_ifs
    · trivial
    · exact hown
  | token task target =>
    unfold proceed
    dsimp only
    refine afterTx_good hinv fun completed updated store' h => ?_
    exact refundTokenOnce_good hinv hown.2 h
  | complete target => exact complete_good hinv hown
  | done => exact .stay hinv trivial

lemma act_good (input : MidjourneyInput) (hinv : store.Inv) (hown : work.Own store) :
    Good store (work.act input store) := by
  unfold MidjourneyWork.act
  split
  · exact .stay hinv (own_refundMidjourneyQuota hinv hown none)
  · exact .stay hinv ⟨hown.frozen, hown.billing⟩
  · exact proceed_good hinv hown
  · exact .stay hinv hown

lemma midjourneyWorkers_rule :
    Workers.RelyGuarantee midjourneyWorkers Inv (fun store work => work.Own store) Guar where
  refl := .refl
  stable := fun _ _ _ hguar hown => hown.stable hguar
  spawn := fun _ _ _ => ⟨rfl, id⟩
  inv := fun input _ _ hinv hown => (act_good input hinv hown).inv
  own := fun input _ _ hinv hown => (act_good input hinv hown).own
  guar := fun input _ _ hinv hown => (act_good input hinv hown).guar

/-- For any number of workers and callbacks, any interleaving, old copies and failing steps: the
funding source and the token are credited at most once each, no flag is cleared, and the progress
leaves `REFUND_PENDING` only after the funding leg and, if there is a token quota to give back, the
token leg. A task without a billing context that has cost nothing has no legs. -/
theorem midjourney_refund_protocol (task : Midjourney) (accounts : Accounts)
    (hflags : task.billingContext.billingRefunded = true →
      task.billingContext.fundingRefunded = true ∧ task.billingContext.tokenRefunded = true)
    (moves : List (Workers.Move Unit MidjourneyInput))
    (move : Workers.Move Unit MidjourneyInput) :
    let state := exec midjourneyWorkers.step ⟨⟨task, accounts, 0, 0⟩, []⟩ moves
    let now := state.shared.task
    let next := (midjourneyWorkers.step state move).shared.task
    (state.shared.fundingCredits ≤ 1 ∧ state.shared.tokenCredits ≤ 1) ∧
      ((now.billingContext.fundingRefunded = true → next.billingContext.fundingRefunded = true) ∧
        (now.billingContext.tokenRefunded = true → next.billingContext.tokenRefunded = true) ∧
        (now.billingContext.billingRefunded = true →
          next.billingContext.billingRefunded = true)) ∧
      (now.progress = "REFUND_PENDING" → next.progress ≠ "REFUND_PENDING" →
        ¬(now.billingContext.version < 1 ∧ now.quota ≤ 0) →
        now.billingContext.fundingRefunded = true ∧
          (0 < now.tokenRefundQuota → now.billingContext.tokenRefunded = true)) := by
  intro state now next
  have hstart : Inv ⟨task, accounts, 0, 0⟩ :=
    ⟨hflags, Nat.zero_le 1, fun hne => absurd rfl hne, Nat.zero_le 1, fun hne => absurd rfl hne⟩
  have hholds := midjourneyWorkers_rule.exec (Workers.holds_nil hstart) moves
  have hguar := (midjourneyWorkers_rule.step hholds move).2
  refine ⟨⟨hholds.inv.fundingOnce, hholds.inv.tokenOnce⟩,
    ⟨hguar.funding, hguar.token, hguar.billing⟩, fun hpending hleft hcharged => ?_⟩
  rcases hguar.progress hpending hleft with hsettled | hfree
  · exact hsettled
  · rw [Midjourney.isFree, Bool.and_eq_true, decide_eq_true_eq, decide_eq_true_eq] at hfree
    exact absurd hfree hcharged

/-! ## Runs -/

/-- A task that was paid from the wallet and a token. -/
def walletMidjourney : Midjourney :=
  ⟨"IN_PROGRESS", "50%", 12, ⟨1, .wallet, 0, "", 7, 12, 10, false, false, false⟩⟩

/-- A worker and a callback have read the task, and both commit that it has failed. The refund of
the token by the worker fails. The callback finds the refund pending, and completes it. -/
def resumedRefund : List (Workers.Move Unit MidjourneyInput) :=
  [.spawn (), .spawn (), .act 0 (.commit "FAILURE" "100%" "IN_PROGRESS" true),
    .act 1 (.commit "FAILURE" "100%" "IN_PROGRESS" true), .act 0 (.proceed 1 false),
    .act 0 (.proceed 2 false), .act 1 (.proceed 2 false), .act 0 (.proceed 3 false),
    .act 1 (.proceed 3 false), .act 0 (.proceed 4 true), .act 1 (.proceed 4 false),
    .act 1 (.proceed 5 false)]

theorem resumedRefund_protocol :
    let state := exec midjourneyWorkers.step
      ⟨⟨walletMidjourney, ⟨sampleDB, 100, 90⟩, 0, 0⟩, []⟩ resumedRefund
    state.shared.task.progress = "REFUND_PENDING" ∧ state.shared.fundingCredits ≤ 1 ∧
      state.shared.tokenCredits ≤ 1 ∧ state.shared.task.billingContext.fundingRefunded = true ∧
      (0 < state.shared.task.tokenRefundQuota →
        state.shared.task.billingContext.tokenRefunded = true) := by
  -- the next step of the callback shows the final progress
  obtain ⟨⟨hfunding, htoken⟩, -, hleaves⟩ := midjourney_refund_protocol walletMidjourney
    ⟨sampleDB, 100, 90⟩ (by decide) resumedRefund (.act 1 (.proceed 6 false))
  exact ⟨by decide, hfunding, htoken, hleaves (by decide) (by decide) (by decide)⟩

/-- A task without a billing context that has cost nothing leaves `REFUND_PENDING`, and its funding
leg is not marked. -/
theorem free_task_leaves_pending :
    let task : Midjourney :=
      ⟨"IN_PROGRESS", "50%", 0, ⟨0, .other, 0, "", 0, 0, 0, false, false, false⟩⟩
    let before := exec midjourneyWorkers.step ⟨⟨task, ⟨sampleDB, 100, 90⟩, 0, 0⟩, []⟩
      [.spawn (), .act 0 (.commit "FAILURE" "100%" "IN_PROGRESS" true), .act 0 (.proceed 1 false),
        .act 0 (.proceed 2 false)]
    let after := midjourneyWorkers.step before (.act 0 (.proceed 3 false))
    before.shared.task.progress = "REFUND_PENDING" ∧ after.shared.task.progress = "100%" ∧
      after.shared.task.billingContext.fundingRefunded = false := by
  decide

end Yunbay
