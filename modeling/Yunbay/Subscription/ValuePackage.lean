import Yunbay.Subscription.Cycle
import Yunbay.Subscription.Window

/-!
# Value-package transactions

The transactions of `model/subscription.go` that move the books of a value package: the
running total `amountUsed` of the subscription, the usage record of each request, and the
pre-consume record that makes a request idempotent.

Each transaction takes the database and the clock reading its caller made before it. Next to each
one stands its inversion lemma: what was there and what was written when it commits.
-/

namespace Yunbay

open Except Table

variable {db db' : DB} {record usage : ValuePackageUsageRecord}
  {userId userSubscriptionId now amount targetQuota dbNow resetAt subscriptionId nowUnix
    purchasedEndUnix : Int}
  {sub sub' : UserSubscription} {plan : SubscriptionPlan} {result : SubscriptionPreConsumeResult}
  {requestId : String} {request : ReservedRequest} {u : Unit} {state : ValuePackageState}
  {env : Env} {subs : List UserSubscription}

/-- What the pre-consume and reserve calls return. -/
structure SubscriptionPreConsumeResult where
  userSubscriptionId : Int
  preConsumed : Int
  amountTotal : Int
  amountUsedBefore : Int
  amountUsedAfter : Int
  quotaEpoch : Int

/-! ## Shared parts -/

/-- The row lock of the pre-consume and reserve transactions:
`id = ? AND user_id = ? AND status = 'active' AND end_time > ?`. -/
def lockActiveSubscription (db : DB) (userId userSubscriptionId now : Int) :
    Option UserSubscription :=
  (db.subscriptions.get? userSubscriptionId).filter fun sub =>
    sub.userId = userId ∧ sub.status = .active ∧ now < sub.endTime

/-- The common opening of the pre-consume and reserve transactions: lock the subscription,
load its plan, require a value package and renew a due cycle. -/
def openValuePackageTx (db : DB) (userId userSubscriptionId now : Int) :
    Except TxError (UserSubscription × SubscriptionPlan × DB) :=
  match lockActiveSubscription db userId userSubscriptionId now with
  | none => .error .noActiveSubscription
  | some sub => do
    let plan ← getSubscriptionPlanByIdTx db sub.planId
    check plan.isValuePackage .notValuePackage
    let (sub, db) ← maybeAdvanceValuePackageCycleTx db sub plan now
    pure (sub, plan, db)

/-- The row the upsert of `recordValuePackageUsageTx` writes: on a conflict of
`(user_subscription_id, request_id)` only the user and the quota are overwritten. -/
def upsertedUsage (db : DB) (record : ValuePackageUsageRecord) : ValuePackageUsageRecord :=
  match db.usageRecords.get? record.key with
  | none => record
  | some old => { old with userId := record.userId, quota := record.quota }

def recordValuePackageUsageTx (db : DB) (record : ValuePackageUsageRecord) :
    Except TxError DB := do
  check (¬(record.userId ≤ 0 ∨ record.userSubscriptionId ≤ 0 ∨ record.quota < 0 ∨
    isBlank record.requestId)) .invalidUsageRecord
  pure (db.saveUsage (upsertedUsage db record))

/-- A usage record with `quota` set to zero. -/
@[simps]
def ValuePackageUsageRecord.revoked (usage : ValuePackageUsageRecord) : ValuePackageUsageRecord :=
  { usage with quota := 0 }

@[simp]
lemma ValuePackageUsageRecord.key_revoked (usage : ValuePackageUsageRecord) :
    usage.revoked.key = usage.key := rfl

def revokeValuePackageUsageReservationTx (db : DB) (userSubscriptionId : Int)
    (requestId : String) : DB :=
  if userSubscriptionId ≤ 0 ∨ isBlank requestId then db
  else
    match db.usageRecords.get? (userSubscriptionId, requestId) with
    | none => db
    | some usage => db.saveUsage usage.revoked

section

variable (db : DB) (record : ValuePackageUsageRecord)

@[simp]
lemma upsertedUsage_key : (upsertedUsage db record).key = record.key := by
  unfold upsertedUsage
  split
  · rfl
  · rename_i old h
    exact (key_of_get? h : old.key = record.key)

@[simp]
lemma upsertedUsage_userSubscriptionId :
    (upsertedUsage db record).userSubscriptionId = record.userSubscriptionId :=
  congrArg Prod.fst (upsertedUsage_key db record)

@[simp]
lemma upsertedUsage_quota : (upsertedUsage db record).quota = record.quota := by
  unfold upsertedUsage
  split <;> rfl

end

lemma upsertedUsage_of_none (h : db.usageRecords.get? record.key = none) :
    upsertedUsage db record = record := by
  simp [upsertedUsage, h]

lemma upsertedUsage_of_some {old : ValuePackageUsageRecord}
    (h : db.usageRecords.get? record.key = some old) :
    upsertedUsage db record = { old with userId := record.userId, quota := record.quota } := by
  simp [upsertedUsage, h]

lemma recordUsageTx_eq_ok :
    recordValuePackageUsageTx db record = .ok db' ↔
      ¬(record.userId ≤ 0 ∨ record.userSubscriptionId ≤ 0 ∨ record.quota < 0 ∨
          isBlank record.requestId) ∧
        db.saveUsage (upsertedUsage db record) = db' := by
  simp only [recordValuePackageUsageTx, bind_eq_ok, check_eq_ok,
    pure_eq_ok, exists_const]

lemma lockActive_eq_some :
    lockActiveSubscription db userId userSubscriptionId now = some sub ↔
      db.subscriptions.get? userSubscriptionId = some sub ∧
        sub.userId = userId ∧ sub.status = .active ∧ now < sub.endTime := by
  simp [lockActiveSubscription, Option.filter_eq_some_iff]

section

variable (h : openValuePackageTx db userId userSubscriptionId now = .ok (sub', plan, db'))

include h

lemma openValuePackageTx_ok :
    ∃ sub, db.subscriptions.get? userSubscriptionId = some sub ∧
      sub.userId = userId ∧ sub.status = .active ∧ now < sub.endTime ∧
      getSubscriptionPlanByIdTx db sub.planId = .ok plan ∧ plan.isValuePackage = true ∧
      maybeAdvanceValuePackageCycleTx db sub plan now = .ok (sub', db') := by
  unfold openValuePackageTx at h
  split at h
  · cases h
  · rename_i sub hlock
    obtain ⟨hget, huser, hactive, hend⟩ := lockActive_eq_some.mp hlock
    obtain ⟨plan', hplan, h⟩ := bind_eq_ok.mp h
    obtain ⟨hpackage, h⟩ := of_check h
    obtain ⟨⟨sub₁, db₁⟩, hadvance, h⟩ := bind_eq_ok.mp h
    simp only [pure_eq_ok, Prod.mk.injEq] at h
    obtain ⟨rfl, rfl, rfl⟩ := h
    exact ⟨sub, hget, huser, hactive, hend, hplan, hpackage, hadvance⟩

lemma openValuePackageTx_frame :
    db'.plans = db.plans ∧ db'.usageRecords = db.usageRecords ∧
      db'.preConsumeRecords = db.preConsumeRecords ∧
      db'.subscriptions.get? userSubscriptionId = some sub' := by
  obtain ⟨sub, hget, -, -, -, -, -, hadvance⟩ := openValuePackageTx_ok h
  obtain ⟨hplans, husage, hpre⟩ := maybeAdvance_frame hadvance
  have hid : sub.id = userSubscriptionId := key_of_get? hget
  subst hid
  exact ⟨hplans, husage, hpre, maybeAdvance_get? hadvance hget⟩

end

/-! ## Pre-consume -/

/-- The pre-consume record of a fresh request. The source's timestamps are the server's. -/
@[simps]
def newPreConsumeRecord (sub : UserSubscription) (requestId : String) (userId amount now : Int) :
    SubscriptionPreConsumeRecord where
  requestId := requestId
  userId := userId
  userSubscriptionId := sub.id
  preConsumed := amount
  quotaEpoch := sub.quotaEpoch
  status := .consumed
  updatedAt := now

/-- The usage record a request is written with. -/
@[simps]
def newUsageRecord (sub : UserSubscription) (requestId : String)
    (userId quota quotaEpoch now : Int) : ValuePackageUsageRecord where
  userId := userId
  userSubscriptionId := sub.id
  requestId := requestId
  quota := quota
  quotaEpoch := quotaEpoch
  createdAt := now

/-- The admission checks of a fresh pre-consume. -/
def checkPreConsumeLimits (db : DB) (sub : UserSubscription) (plan : SubscriptionPlan)
    (userId amount now : Int) : Except TxError Unit := do
  check (¬(0 < sub.amountTotal ∧ sub.amountTotal - sub.amountUsed < amount))
    (.quotaInsufficient amount)
  let details ← getValuePackageWindowUsageDetailsTx db userId sub.id now
  check (¬(0 < plan.limit5hAmount ∧ plan.limit5hAmount < details.used5h + amount))
    (.limit5hExceeded amount)
  check (¬(valuePackageHas7dWindow plan ∧ plan.limit7dAmount < details.used7d + amount))
    (.limit7dExceeded amount)

lemma total_of_checkPreConsumeLimits
    (h : checkPreConsumeLimits db sub plan userId amount now = .ok ())
    (htotal : 0 < sub.amountTotal) : sub.amountUsed + amount ≤ sub.amountTotal := by
  obtain ⟨_, hroom, -⟩ := bind_eq_ok.mp h
  have hnot := check_eq_ok.mp hroom
  by_contra hlt
  exact hnot ⟨htotal, by omega⟩

/-- The answer to a pre-consume whose record exists already. -/
def repeatedPreConsume (db : DB) (existing : SubscriptionPreConsumeRecord)
    (userId userSubscriptionId : Int) : Except TxError SubscriptionPreConsumeResult := do
  check (existing.status ≠ .refunded) .preConsumeAlreadyRefunded
  check (existing.userId = userId ∧ existing.userSubscriptionId = userSubscriptionId)
    .preConsumeRequestMismatch
  match db.subscriptions.get? existing.userSubscriptionId with
  | none => .error .recordNotFound
  | some sub =>
    pure {
      userSubscriptionId := sub.id, preConsumed := existing.preConsumed
      amountTotal := sub.amountTotal, amountUsedBefore := sub.amountUsed
      amountUsedAfter := sub.amountUsed, quotaEpoch := existing.quotaEpoch }

/-- The answer of the insert that meets a record of the same request
(`ON CONFLICT (request_id) DO NOTHING` with no row affected). -/
def conflictingPreConsume (sub : UserSubscription) (dup : SubscriptionPreConsumeRecord)
    (userId : Int) : Except TxError SubscriptionPreConsumeResult := do
  check (dup.status ≠ .refunded) .preConsumeAlreadyRefunded
  check (dup.userId = userId ∧ dup.userSubscriptionId = sub.id) .preConsumeRequestMismatch
  pure {
    userSubscriptionId := dup.userSubscriptionId, preConsumed := dup.preConsumed
    amountTotal := sub.amountTotal, amountUsedBefore := sub.amountUsed
    amountUsedAfter := sub.amountUsed, quotaEpoch := dup.quotaEpoch }

/-- The writes of an admitted pre-consume: the pre-consume record, the usage record and the
total. -/
def admitted (db : DB) (sub : UserSubscription) (requestId : String) (userId amount now : Int) :
    DB :=
  ((db.savePreConsume (newPreConsumeRecord sub requestId userId amount now)).saveUsage
    (upsertedUsage db
      (newUsageRecord sub requestId userId amount sub.quotaEpoch now))).saveSubscription
    { sub with amountUsed := sub.amountUsed + amount }

/-- The part of `PreConsumeValuePackageSubscription` after the lookup of the request. -/
def freshPreConsume (db : DB) (now : Int) (requestId : String)
    (userId userSubscriptionId amount : Int) :
    Except TxError (SubscriptionPreConsumeResult × DB) := do
  let (sub, plan, db) ← openValuePackageTx db userId userSubscriptionId now
  checkPreConsumeLimits db sub plan userId amount now
  match db.preConsumeRecords.get? requestId with
  | some dup => do
    let result ← conflictingPreConsume sub dup userId
    pure (result, db)
  | none => do
    let db := db.savePreConsume (newPreConsumeRecord sub requestId userId amount now)
    let db ← recordValuePackageUsageTx db
      (newUsageRecord sub requestId userId amount sub.quotaEpoch now)
    let charged := { sub with amountUsed := sub.amountUsed + amount }
    pure (
      { userSubscriptionId := sub.id, preConsumed := amount, amountTotal := sub.amountTotal
        amountUsedBefore := sub.amountUsed, amountUsedAfter := charged.amountUsed
        quotaEpoch := sub.quotaEpoch }, db.saveSubscription charged)

def preConsumeValuePackageSubscription (db : DB) (now : Int) (requestId : String)
    (userId userSubscriptionId amount : Int) :
    Except TxError (SubscriptionPreConsumeResult × DB) := do
  check (0 < userId) .invalidUserId
  check (0 < userSubscriptionId) .invalidUserSubscriptionId
  check (¬isBlank requestId) .requestIdEmpty
  check (0 < amount) .amountNotPositive
  match db.preConsumeRecords.get? requestId with
  | some existing => do
    let result ← repeatedPreConsume db existing userId userSubscriptionId
    pure (result, db)
  | none => freshPreConsume db now requestId userId userSubscriptionId amount

lemma repeatedPreConsume_ok {existing : SubscriptionPreConsumeRecord}
    (h : repeatedPreConsume db existing userId userSubscriptionId = .ok result) :
    existing.status ≠ .refunded ∧ existing.userSubscriptionId = userSubscriptionId ∧
      result.quotaEpoch = existing.quotaEpoch := by
  unfold repeatedPreConsume at h
  obtain ⟨hstatus, h⟩ := of_check h
  obtain ⟨howner, h⟩ := of_check h
  refine ⟨hstatus, howner.2, ?_⟩
  split at h
  · cases h
  · cases h
    rfl

section

variable
  (h : preConsumeValuePackageSubscription db now requestId userId userSubscriptionId amount =
    .ok (result, db'))

include h

/-- A pre-consume that commits either answers a repeated request without a write, or opens the
package, passes the limits, and writes both records and the new total. -/
lemma preConsumePackage_ok :
    (db' = db ∧ ∃ existing, db.preConsumeRecords.get? requestId = some existing ∧
        existing.userSubscriptionId = userSubscriptionId ∧
        result.quotaEpoch = existing.quotaEpoch) ∨
      db.preConsumeRecords.get? requestId = none ∧ 0 < amount ∧
        ∃ sub plan db₁,
          openValuePackageTx db userId userSubscriptionId now = .ok (sub, plan, db₁) ∧
          checkPreConsumeLimits db₁ sub plan userId amount now = .ok () ∧
          db' = admitted db₁ sub requestId userId amount now ∧
          result = ⟨sub.id, amount, sub.amountTotal, sub.amountUsed, sub.amountUsed + amount,
            sub.quotaEpoch⟩ := by
  unfold preConsumeValuePackageSubscription at h
  obtain ⟨_, h⟩ := of_bind h
  obtain ⟨_, h⟩ := of_bind h
  obtain ⟨_, h⟩ := of_bind h
  obtain ⟨hamount, h⟩ := of_check h
  split at h
  · rename_i existing hexisting
    obtain ⟨answer, hanswer, h⟩ := bind_eq_ok.mp h
    simp only [pure_eq_ok, Prod.mk.injEq] at h
    obtain ⟨rfl, rfl⟩ := h
    obtain ⟨-, howner, hepoch⟩ := repeatedPreConsume_ok hanswer
    exact .inl ⟨rfl, existing, hexisting, howner, hepoch⟩
  · rename_i hnone
    unfold freshPreConsume at h
    obtain ⟨⟨sub, plan, db₁⟩, hopen, h⟩ := bind_eq_ok.mp h
    obtain ⟨⟨⟩, hlimits, h⟩ := bind_eq_ok.mp h
    dsimp only at h hlimits
    split at h
    · -- no other transaction can have inserted the record since the lookup
      rename_i dup hdup
      rw [(openValuePackageTx_frame hopen).2.2.1, hnone] at hdup
      cases hdup
    · obtain ⟨db₂, husage, h⟩ := bind_eq_ok.mp h
      obtain ⟨-, rfl⟩ := recordUsageTx_eq_ok.mp husage
      simp only [pure_eq_ok, Prod.mk.injEq] at h
      obtain ⟨rfl, rfl⟩ := h
      exact .inr ⟨hnone, hamount, sub, plan, db₁, hopen, hlimits, rfl, rfl⟩

lemma preConsumePackage_notBlank : isBlank requestId = false := by
  unfold preConsumeValuePackageSubscription at h
  obtain ⟨_, h⟩ := of_bind h
  obtain ⟨_, h⟩ := of_bind h
  obtain ⟨_, hblank, -⟩ := bind_eq_ok.mp h
  simpa using hblank

end

/-! ## Reserve to a target -/

/-- What the reserve transaction finds of the request: the quota and creation time of its usage
record, `0` without one, and the epoch it belongs to. -/
structure ReservedRequest where
  currentQuota : Int
  currentCreatedAt : Int
  requestEpoch : Int

/-- The lookups of `ReserveValuePackageUsageToTarget`. The epoch of the usage record goes before
that of the pre-consume record, and that before the subscription's. -/
def findReservedRequest (db : DB) (sub : UserSubscription) (requestId : String)
    (userId userSubscriptionId : Int) : Except TxError ReservedRequest := do
  let preConsume := db.preConsumeRecords.get? requestId
  check (∀ record ∈ preConsume,
    record.userId = userId ∧ record.userSubscriptionId = userSubscriptionId)
    .preConsumeRequestMismatch
  match db.usageRecords.get? (userSubscriptionId, requestId) with
  | none => pure ⟨0, 0, (preConsume.map (·.quotaEpoch)).getD sub.quotaEpoch⟩
  | some existing => do
    check (∀ record ∈ preConsume, record.quotaEpoch = existing.quotaEpoch)
      .usageEpochMismatch
    pure ⟨existing.quota, existing.createdAt, existing.quotaEpoch⟩

/-- The usage records as they would be with the request at its target. -/
def nextUsageRecords (db : DB) (sub : UserSubscription) (requestId : String) (userId : Int)
    (request : ReservedRequest) (targetQuota now : Int) : List ValuePackageUsageRecord :=
  let usageRecords := queryUsageRecords db userId sub request.requestEpoch now fun record =>
    0 < record.quota || record.requestId = requestId
  let replaced := usageRecords.map fun record =>
    if record.requestId = requestId then { record with quota := targetQuota } else record
  if request.currentCreatedAt = 0 ∧ ∀ record ∈ usageRecords, record.requestId ≠ requestId then
    replaced ++ [newUsageRecord sub requestId userId targetQuota request.requestEpoch now]
  else replaced

/-- The admission checks of a reserve that raises the request's quota. -/
def checkReserveLimits (db : DB) (sub : UserSubscription) (plan : SubscriptionPlan)
    (requestId : String) (userId : Int) (request : ReservedRequest) (targetQuota now : Int) :
    Except TxError Unit := do
  let delta := targetQuota - request.currentQuota
  check (¬(0 < sub.amountTotal ∧ sub.amountTotal - sub.amountUsed < delta))
    (.quotaInsufficient delta)
  let lastResetAt := getLastValuePackageQuotaResetAtTx db userId sub.id now
  let details := buildValuePackageWindowUsageDetailsFromRecords sub plan
    (nextUsageRecords db sub requestId userId request targetQuota now) lastResetAt now
  check (¬(0 < plan.limit5hAmount ∧ plan.limit5hAmount < details.used5h))
    (.limit5hExceeded targetQuota)
  check (¬(valuePackageHas7dWindow plan ∧ plan.limit7dAmount < details.used7d))
    (.limit7dExceeded targetQuota)

lemma total_of_checkReserveLimits
    (h : checkReserveLimits db sub plan requestId userId request targetQuota now = .ok ())
    (htotal : 0 < sub.amountTotal) :
    sub.amountUsed + (targetQuota - request.currentQuota) ≤ sub.amountTotal := by
  obtain ⟨_, hroom, -⟩ := bind_eq_ok.mp h
  have hnot := check_eq_ok.mp hroom
  by_contra hlt
  exact hnot ⟨htotal, by omega⟩

/-- `sub.AmountUsed += delta`, not below zero. -/
def chargeUsed (sub : UserSubscription) (delta : Int) : UserSubscription :=
  { sub with amountUsed := max 0 (sub.amountUsed + delta) }

def reserveValuePackageUsageToTarget (db : DB) (now : Int) (requestId : String)
    (userId userSubscriptionId targetQuota : Int) :
    Except TxError (SubscriptionPreConsumeResult × DB) := do
  check (¬isBlank requestId) .requestIdEmpty
  check (0 < userId) .invalidUserId
  check (0 < userSubscriptionId) .invalidUserSubscriptionId
  check (0 ≤ targetQuota) .targetQuotaNegative
  let (sub, plan, db) ← openValuePackageTx db userId userSubscriptionId now
  let request ← findReservedRequest db sub requestId userId userSubscriptionId
  let delta := targetQuota - request.currentQuota
  let result (after : UserSubscription) : SubscriptionPreConsumeResult :=
    { userSubscriptionId := sub.id, preConsumed := targetQuota, amountTotal := sub.amountTotal
      amountUsedBefore := sub.amountUsed, amountUsedAfter := after.amountUsed
      quotaEpoch := request.requestEpoch }
  let usage := newUsageRecord sub requestId userId targetQuota request.requestEpoch now
  if delta = 0 then pure (result sub, db)
  else if sub.quotaEpoch ≠ request.requestEpoch then do
    -- the request belongs to an older epoch: keep its record, leave the total alone
    let db ← recordValuePackageUsageTx db usage
    pure (result sub, db)
  else do
    if 0 < delta then
      checkReserveLimits db sub plan requestId userId request targetQuota now
    let db ← recordValuePackageUsageTx db usage
    let charged := chargeUsed sub delta
    pure (result charged, db.saveSubscription charged)

lemma findReservedRequest_ok
    (h : findReservedRequest db sub requestId userId userSubscriptionId = .ok request) :
    (∀ record, db.preConsumeRecords.get? requestId = some record →
      record.userId = userId ∧ record.userSubscriptionId = userSubscriptionId) ∧
    (db.usageRecords.get? (userSubscriptionId, requestId) = none ∧
        request = ⟨0, 0,
          ((db.preConsumeRecords.get? requestId).map (·.quotaEpoch)).getD sub.quotaEpoch⟩ ∨
      ∃ existing, db.usageRecords.get? (userSubscriptionId, requestId) = some existing ∧
        (∀ record, db.preConsumeRecords.get? requestId = some record →
          record.quotaEpoch = existing.quotaEpoch) ∧
        request = ⟨existing.quota, existing.createdAt, existing.quotaEpoch⟩) := by
  unfold findReservedRequest at h
  obtain ⟨howner, h⟩ := of_check h
  refine ⟨howner, ?_⟩
  split at h
  · rename_i hnone
    simp only [pure_eq_ok] at h
    exact .inl ⟨hnone, h.symm⟩
  · rename_i existing hsome
    obtain ⟨hepoch, h⟩ := of_check h
    simp only [pure_eq_ok] at h
    exact .inr ⟨existing, hsome, hepoch, h.symm⟩

/-- A reserve that commits opens the package and finds the request, which is at its target already,
or of an older epoch, and only its usage record is written, or the total moves with the record. -/
lemma reserveUsage_ok
    (h : reserveValuePackageUsageToTarget db now requestId userId userSubscriptionId targetQuota =
      .ok (result, db')) :
    0 ≤ targetQuota ∧ ∃ sub plan db₁ request,
      openValuePackageTx db userId userSubscriptionId now = .ok (sub, plan, db₁) ∧
      findReservedRequest db₁ sub requestId userId userSubscriptionId = .ok request ∧
      (targetQuota = request.currentQuota ∧ db' = db₁ ∨
        targetQuota ≠ request.currentQuota ∧
          (sub.quotaEpoch ≠ request.requestEpoch ∧
              db' = db₁.saveUsage (upsertedUsage db₁
                (newUsageRecord sub requestId userId targetQuota request.requestEpoch now)) ∨
            sub.quotaEpoch = request.requestEpoch ∧
              (request.currentQuota < targetQuota →
                checkReserveLimits db₁ sub plan requestId userId request targetQuota now =
                  .ok ()) ∧
              db' = (db₁.saveUsage (upsertedUsage db₁
                  (newUsageRecord sub requestId userId targetQuota
                    request.requestEpoch now))).saveSubscription
                (chargeUsed sub (targetQuota - request.currentQuota)))) := by
  unfold reserveValuePackageUsageToTarget at h
  obtain ⟨_, h⟩ := of_bind h
  obtain ⟨_, h⟩ := of_bind h
  obtain ⟨_, h⟩ := of_bind h
  obtain ⟨htarget, h⟩ := of_check h
  obtain ⟨⟨sub, plan, db₁⟩, hopen, h⟩ := bind_eq_ok.mp h
  obtain ⟨request, hfind, h⟩ := bind_eq_ok.mp h
  refine ⟨htarget, sub, plan, db₁, request, hopen, hfind, ?_⟩
  dsimp only at h
  split_ifs at h with hdelta hepoch hraise
  · simp only [pure_eq_ok, Prod.mk.injEq] at h
    exact .inl ⟨by omega, h.2.symm⟩
  · obtain ⟨db₂, husage, h⟩ := bind_eq_ok.mp h
    obtain ⟨-, rfl⟩ := recordUsageTx_eq_ok.mp husage
    simp only [pure_eq_ok, Prod.mk.injEq] at h
    exact .inr ⟨by omega, .inl ⟨hepoch, h.2.symm⟩⟩
  · obtain ⟨⟨⟩, hlimits, h⟩ := bind_eq_ok.mp h
    obtain ⟨db₂, husage, h⟩ := bind_eq_ok.mp h
    obtain ⟨-, rfl⟩ := recordUsageTx_eq_ok.mp husage
    simp only [pure_eq_ok, Prod.mk.injEq] at h
    exact .inr ⟨by omega, .inr ⟨not_not.mp hepoch, fun _ => hlimits, h.2.symm⟩⟩
  · obtain ⟨db₂, husage, h⟩ := bind_eq_ok.mp h
    obtain ⟨-, rfl⟩ := recordUsageTx_eq_ok.mp husage
    simp only [pure_eq_ok, Prod.mk.injEq] at h
    exact .inr ⟨by omega, .inr ⟨not_not.mp hepoch, fun hlt => absurd hlt (by omega),
      h.2.symm⟩⟩

/-! ## Refund -/

/-- What a first refund gives back to a value package: the request's recorded usage. -/
def valuePackageRefundQuota (db : DB) (record : SubscriptionPreConsumeRecord) :
    Except TxError Int :=
  match db.usageRecords.get? (record.userSubscriptionId, record.requestId) with
  | none => pure record.preConsumed
  | some usage => do
    check (usage.quotaEpoch = record.quotaEpoch) .usageEpochMismatch
    pure usage.quota

/-- The subscription's part of a first refund. -/
def refundSubscription (db : DB) (record : SubscriptionPreConsumeRecord)
    (sub : UserSubscription) (plan : SubscriptionPlan) : Except TxError DB :=
  if plan.isValuePackage then do
    let refundQuota ← valuePackageRefundQuota db record
    if sub.quotaEpoch = record.quotaEpoch ∧ 0 < refundQuota then
      pure (db.saveSubscription (chargeUsed sub (-refundQuota)))
    else pure db
  else if 0 < record.preConsumed then
    pure (db.saveSubscription (chargeUsed sub (-record.preConsumed)))
  else pure db

/-- A pre-consume record marked as refunded. -/
def markRefunded (record : SubscriptionPreConsumeRecord) (now : Int) :
    SubscriptionPreConsumeRecord :=
  { record with status := .refunded, updatedAt := now }

def refundSubscriptionPreConsume (db : DB) (now : Int) (requestId : String) :
    Except TxError (Unit × DB) := do
  check (¬isBlank requestId) .requestIdEmpty
  match db.preConsumeRecords.get? requestId with
  | none => .error .recordNotFound
  | some record =>
    if record.status = .refunded then
      pure ((), revokeValuePackageUsageReservationTx db record.userSubscriptionId record.requestId)
    else
      match db.subscriptions.get? record.userSubscriptionId with
      | none => .error .recordNotFound
      | some sub => do
        let plan ← getSubscriptionPlanByIdTx db sub.planId
        let db ← refundSubscription db record sub plan
        let db := revokeValuePackageUsageReservationTx db record.userSubscriptionId record.requestId
        pure ((), db.savePreConsume (markRefunded record now))

lemma revokeUsage_eq (db : DB) (userSubscriptionId : Int)
    (requestId : String) :
    revokeValuePackageUsageReservationTx db userSubscriptionId requestId = db ∨
      ∃ usage, db.usageRecords.get? (userSubscriptionId, requestId) = some usage ∧
        revokeValuePackageUsageReservationTx db userSubscriptionId requestId =
          db.saveUsage usage.revoked := by
  unfold revokeValuePackageUsageReservationTx
  split_ifs
  · exact .inl rfl
  · cases h : db.usageRecords.get? (userSubscriptionId, requestId) with
    | none => exact .inl rfl
    | some usage => exact .inr ⟨usage, rfl, rfl⟩

/-- Revoking a reservation writes the usage records only. -/
lemma revokeUsage_frame (db : DB) (id : Int) (requestId : String) :
    (revokeValuePackageUsageReservationTx db id requestId).plans = db.plans ∧
      (revokeValuePackageUsageReservationTx db id requestId).preConsumeRecords =
        db.preConsumeRecords ∧
      (revokeValuePackageUsageReservationTx db id requestId).subscriptions = db.subscriptions := by
  obtain heq | ⟨usage, -, heq⟩ := revokeUsage_eq db id requestId
  · rw [heq]
    exact ⟨rfl, rfl, rfl⟩
  · rw [heq]
    exact ⟨rfl, rfl, rfl⟩

lemma revokeUsage_of_some (hid : 0 < userSubscriptionId)
    (hblank : ¬isBlank requestId)
    (husage : db.usageRecords.get? (userSubscriptionId, requestId) = some usage) :
    revokeValuePackageUsageReservationTx db userSubscriptionId requestId =
      db.saveUsage usage.revoked := by
  unfold revokeValuePackageUsageReservationTx
  rw [if_neg (by simp [hblank, hid]), husage]

/-- A first refund writes at most the total of the record's subscription, which it lowers. -/
lemma refundSubscription_ok {record : SubscriptionPreConsumeRecord}
    (h : refundSubscription db record sub plan = .ok db') :
    db' = db ∨ ∃ delta, delta < 0 ∧ db' = db.saveSubscription (chargeUsed sub delta) := by
  unfold refundSubscription at h
  split_ifs at h with hpackage hpos
  · obtain ⟨refundQuota, -, h⟩ := bind_eq_ok.mp h
    split_ifs at h with hcurrent <;> cases h
    · exact .inr ⟨_, neg_lt_zero.mpr hcurrent.2, rfl⟩
    · exact .inl rfl
  · cases h
    exact .inr ⟨_, neg_lt_zero.mpr hpos, rfl⟩
  · cases h
    exact .inl rfl

lemma refundSubscription_of_usage {record : SubscriptionPreConsumeRecord}
    (hpackage : plan.isValuePackage = true)
    (husage : db.usageRecords.get? (record.userSubscriptionId, record.requestId) = some usage)
    (h : refundSubscription db record sub plan = .ok db') :
    usage.quotaEpoch = record.quotaEpoch ∧
      (sub.quotaEpoch = record.quotaEpoch ∧ 0 < usage.quota ∧
          db' = db.saveSubscription (chargeUsed sub (-usage.quota)) ∨
        ¬(sub.quotaEpoch = record.quotaEpoch ∧ 0 < usage.quota) ∧ db' = db) := by
  unfold refundSubscription valuePackageRefundQuota at h
  rw [if_pos hpackage, husage] at h
  obtain ⟨refundQuota, hquota, h⟩ := bind_eq_ok.mp h
  obtain ⟨hepoch, hquota⟩ := of_check hquota
  cases hquota
  refine ⟨hepoch, ?_⟩
  split_ifs at h with hcurrent <;> cases h
  · exact .inl ⟨hcurrent.1, hcurrent.2, rfl⟩
  · exact .inr ⟨hcurrent, rfl⟩

/-- A refund that commits finds the request's record. A second refund only revokes the usage
record; a first one also takes the usage off the total and marks the record. -/
lemma refundPreConsume_ok
    (h : refundSubscriptionPreConsume db now requestId = .ok (u, db')) :
    ¬isBlank requestId ∧ ∃ record, db.preConsumeRecords.get? requestId = some record ∧
      (record.status = .refunded ∧
          db' = revokeValuePackageUsageReservationTx db record.userSubscriptionId requestId ∨
        record.status ≠ .refunded ∧ ∃ sub plan db₁,
          db.subscriptions.get? record.userSubscriptionId = some sub ∧
          getSubscriptionPlanByIdTx db sub.planId = .ok plan ∧
          refundSubscription db record sub plan = .ok db₁ ∧
          db' = (revokeValuePackageUsageReservationTx db₁ record.userSubscriptionId
              requestId).savePreConsume (markRefunded record now)) := by
  unfold refundSubscriptionPreConsume at h
  obtain ⟨hblank, h⟩ := of_check h
  refine ⟨hblank, ?_⟩
  cases hrecord : db.preConsumeRecords.get? requestId with
  | none => simp [hrecord] at h
  | some record =>
    obtain rfl : record.requestId = requestId := key_of_get? hrecord
    simp only [hrecord] at h
    refine ⟨record, rfl, ?_⟩
    split_ifs at h with hstatus
    · simp only [pure_eq_ok, Prod.mk.injEq] at h
      exact .inl ⟨hstatus, h.2.symm⟩
    · cases hsub : db.subscriptions.get? record.userSubscriptionId with
      | none => simp [hsub] at h
      | some sub =>
        simp only [hsub] at h
        obtain ⟨plan, hplan, h⟩ := bind_eq_ok.mp h
        obtain ⟨db₁, hrefund, h⟩ := bind_eq_ok.mp h
        simp only [pure_eq_ok, Prod.mk.injEq] at h
        exact .inr ⟨hstatus, sub, plan, db₁, rfl, hplan, hrefund, h.2.symm⟩

/-! ## Usage summary -/

/-- `ExhaustedReason`, with the renewal's own reason for a small remainder. -/
inductive ExhaustedReason where
  | totalQuotaExhausted
  | limit5hExhausted
  | limit7dExhausted
  | totalQuotaDust

/-- `ValuePackageUsageSummary` without the percentages and the display rows. -/
structure ValuePackageUsageSummary where
  totalUsed : Int
  totalLimit : Int
  totalRemaining : Int
  used5h : Int
  limit5h : Int
  limited5h : Bool
  used7d : Int
  limit7d : Int
  limited7d : Bool
  exhaustedReason : Option ExhaustedReason

def buildValuePackageUsageSummaryFromDetails (sub : UserSubscription) (plan : SubscriptionPlan)
    (details : ValuePackageWindowUsageDetails) : ValuePackageUsageSummary :=
  let limited5h : Bool := 0 < plan.limit5hAmount ∧ plan.limit5hAmount ≤ details.used5h
  let has7dWindow := valuePackageHas7dWindow plan
  let used7d := if has7dWindow then details.used7d else 0
  let limit7d := if has7dWindow then plan.limit7dAmount else 0
  let limited7d : Bool := has7dWindow ∧ 0 < limit7d ∧ limit7d ≤ used7d
  { totalUsed := sub.amountUsed
    totalLimit := sub.amountTotal
    totalRemaining :=
      if 0 < sub.amountTotal ∧ sub.amountUsed < sub.amountTotal then
        sub.amountTotal - sub.amountUsed
      else 0
    used5h := details.used5h
    limit5h := plan.limit5hAmount
    limited5h
    used7d
    limit7d
    limited7d
    exhaustedReason :=
      if 0 < sub.amountTotal ∧ sub.amountTotal ≤ sub.amountUsed then some .totalQuotaExhausted
      else if limited5h then some .limit5hExhausted
      else if limited7d then some .limit7dExhausted
      else none }

/-- `buildValuePackageUsageSummaryTx` for a stored subscription. -/
def buildValuePackageUsageSummaryTx (db : DB) (userId : Int) (sub : UserSubscription)
    (plan : SubscriptionPlan) (now : Int) : Except TxError ValuePackageUsageSummary := do
  let details ← getValuePackageWindowUsageDetailsTx db userId sub.id now
  pure (buildValuePackageUsageSummaryFromDetails sub plan details)

/-- `valuePackageRenewalExhaustedReason`: a positive remainder of at most one basis point of the
total and at most one cent counts as exhausted. The division is of a positive number. -/
def valuePackageRenewalExhaustedReason (env : Env) (usage : ValuePackageUsageSummary) :
    Option ExhaustedReason :=
  if usage.exhaustedReason.isSome then usage.exhaustedReason
  else if usage.totalLimit ≤ 0 ∨ usage.totalRemaining ≤ 0 then none
  else
    let relativeDustLimit := usage.totalLimit / 10000
    if relativeDustLimit ≤ 0 ∨ env.absoluteDustLimit ≤ 0 then none
    else if usage.totalRemaining ≤ min relativeDustLimit env.absoluteDustLimit then
      some .totalQuotaDust
    else none

/-! ## Reset card -/

/-- `ensureValuePackagePreferenceForUpdateTx`: the preference row, created when missing. -/
def ensureValuePackagePreferenceForUpdateTx (db : DB) (userId : Int) :
    UserValuePackagePreference × DB :=
  match db.preferences.get? userId with
  | some pref => (pref, db)
  | none =>
    let pref : UserValuePackagePreference := ⟨userId, false, 0, 0⟩
    (pref, db.savePreference pref)

/-- The subscription after a reset card. The cycle schedule is left as it is. -/
def resetCardSubscription (sub : UserSubscription) : UserSubscription :=
  { sub with amountUsed := 0, quotaEpoch := sub.quotaEpoch + 1 }

/-- The reset row of a reset card. -/
def resetCardReset (sub : UserSubscription) (userId resetAt : Int) : ValuePackageQuotaReset where
  userId := userId
  userSubscriptionId := sub.id
  resetAt := resetAt
  fromEpoch := sub.quotaEpoch
  toEpoch := sub.quotaEpoch + 1
  amountUsedBefore := sub.amountUsed
  source := .userConsumeCount

/-- `ValuePackageState` without the display part. -/
structure ValuePackageState where
  preference : UserValuePackagePreference
  subscription : UserSubscription
  plan : SubscriptionPlan
  usage : ValuePackageUsageSummary

/-- The time of a reset card: the requested one unless it is missing or in the future. -/
def resetCardTime (dbNow resetAt : Int) : Int :=
  if resetAt ≤ 0 ∨ dbNow < resetAt then dbNow else resetAt

/-- `ConsumeValuePackageResetCount`. Its clock `dbNow` is read inside the transaction. The
update of the count is conditional on a positive count, which has just been checked. -/
def consumeValuePackageResetCount (db : DB) (dbNow : Int)
    (userId userSubscriptionId resetAt : Int) :
    Except TxError (ValuePackageState × DB) := do
  check (0 < userId) .invalidUserIdForReset
  let resetAt := resetCardTime dbNow resetAt
  let (pref, db) := ensureValuePackagePreferenceForUpdateTx db userId
  check (0 < pref.resetCount) .resetCountInsufficient
  check (pref.enabled ∧ 0 < pref.activeUserSubscriptionId) .valuePackageNotEnabled
  check (¬(0 < userSubscriptionId ∧ userSubscriptionId ≠ pref.activeUserSubscriptionId))
    .activePackageMismatch
  match lockActiveSubscription db userId pref.activeUserSubscriptionId resetAt with
  | none => .error .noResettablePackage
  | some sub => do
    let plan ← getSubscriptionPlanByIdTx db sub.planId
    check plan.isValuePackage .noResettablePackage
    check (sub.quotaEpoch ≠ maxInt64) .quotaEpochOverflow
    let charged := { pref with resetCount := pref.resetCount - 1 }
    let reset := resetCardSubscription sub
    let db := db.savePreference charged
    let db := db.createQuotaReset (resetCardReset sub userId resetAt)
    let db := db.createResetCountLedger ⟨userId, -1, pref.resetCount, pref.resetCount - 1⟩
    let db := db.saveSubscription reset
    let usage ← buildValuePackageUsageSummaryTx db userId reset plan resetAt
    pure (⟨charged, reset, plan, usage⟩, db)

section

variable
  (h : consumeValuePackageResetCount db dbNow userId userSubscriptionId resetAt = .ok (state, db'))

include h

/-- What a call that consumes a reset card has found, and all it has written. -/
lemma consumeResetCount_inv :
    ∃ pref sub plan, db.preferences.get? userId = some pref ∧ 0 < pref.resetCount ∧
      sub.id = pref.activeUserSubscriptionId ∧ db.subscriptions.get? sub.id = some sub ∧
      sub.userId = userId ∧ sub.status = .active ∧ resetCardTime dbNow resetAt < sub.endTime ∧
      getSubscriptionPlanByIdTx db sub.planId = .ok plan ∧ plan.isValuePackage = true ∧
      sub.quotaEpoch ≠ maxInt64 ∧ state.subscription = resetCardSubscription sub ∧
      db' = (((db.savePreference { pref with resetCount := pref.resetCount - 1 }).createQuotaReset
        (resetCardReset sub userId (resetCardTime dbNow resetAt))).createResetCountLedger
          ⟨userId, -1, pref.resetCount, pref.resetCount - 1⟩).saveSubscription
            (resetCardSubscription sub) := by
  unfold consumeValuePackageResetCount at h
  obtain ⟨_, hensured⟩ := of_bind h
  clear h
  cases hpref : db.preferences.get? userId with
  | none =>
    -- a preference row created just now has no cards
    simp only [ensureValuePackagePreferenceForUpdateTx, hpref] at hensured
    obtain ⟨hcount, _⟩ := of_check hensured
    exact absurd hcount (lt_irrefl 0)
  | some pref =>
    simp only [ensureValuePackagePreferenceForUpdateTx, hpref] at hensured
    obtain ⟨hcount, h⟩ := of_check hensured
    obtain ⟨_, h⟩ := of_bind h
    obtain ⟨_, h⟩ := of_bind h
    split at h
    · cases h
    · rename_i sub hlock
      obtain ⟨hget, huser, hactive, hend⟩ := lockActive_eq_some.mp hlock
      have hid : sub.id = pref.activeUserSubscriptionId := key_of_get? hget
      rw [← hid] at hget
      obtain ⟨plan, hplan, h⟩ := bind_eq_ok.mp h
      obtain ⟨hpackage, h⟩ := of_check h
      obtain ⟨hepoch, h⟩ := of_check h
      obtain ⟨usage, _, h⟩ := bind_eq_ok.mp h
      simp only [pure_eq_ok, Prod.mk.injEq] at h
      obtain ⟨rfl, rfl⟩ := h
      exact ⟨pref, sub, plan, rfl, hcount, hid, hget, huser, hactive, hend,
        hplan, hpackage, hepoch, rfl, rfl⟩

end

/-! ## Renewal of the package -/

/-- The subscription after the renewal of an exhausted package. -/
def renewedSubscription (sub : UserSubscription) (plan : SubscriptionPlan)
    (nowUnix purchasedEndUnix : Int) : UserSubscription :=
  { sub with
    amountTotal := plan.totalAmount
    amountUsed := 0
    startTime := nowUnix
    endTime := purchasedEndUnix
    quotaEpoch := sub.quotaEpoch + 1
    lastResetTime := nowUnix
    nextResetTime := 0 }

/-- The reset row of the renewal of an exhausted package. -/
def renewalReset (sub : UserSubscription) (nowUnix : Int) : ValuePackageQuotaReset where
  userId := sub.userId
  userSubscriptionId := sub.id
  resetAt := nowUnix
  fromEpoch := sub.quotaEpoch
  toEpoch := sub.quotaEpoch + 1
  amountUsedBefore := sub.amountUsed
  source := .packageRenewal

/-- The subscription after a purchase that only lengthens it. -/
def extendedSubscription (sub : UserSubscription) (plan : SubscriptionPlan)
    (nowUnix duration : Int) : UserSubscription :=
  syncValuePackageCycleSchedule { sub with endTime := max sub.endTime nowUnix + duration } plan

lemma extendedSubscription_eq (sub : UserSubscription) (plan : SubscriptionPlan)
    (nowUnix duration : Int) :
    ∃ last next, extendedSubscription sub plan nowUnix duration =
      { sub with
        endTime := max sub.endTime nowUnix + duration
        lastResetTime := last, nextResetTime := next } :=
  syncCycleSchedule_eq _ plan

def extendValuePackageSubscriptionTx (env : Env) (db : DB) (subscriptionId : Int)
    (plan : SubscriptionPlan) (nowUnix purchasedEndUnix : Int) :
    Except TxError (UserSubscription × DB) := do
  check (0 < subscriptionId) .invalidSubscriptionId
  check (plan.isValuePackage ∧ 0 < plan.totalAmount) .invalidPlanTotal
  let duration := purchasedEndUnix - nowUnix
  check (0 < nowUnix ∧ 0 < duration) .invalidPurchaseDuration
  match db.subscriptions.get? subscriptionId with
  | none => .error .recordNotFound
  | some existing => do
    check (existing.status = .active) .subscriptionNotActive
    let (existing, db) ← maybeAdvanceValuePackageCycleTx db existing plan nowUnix
    let usage ← buildValuePackageUsageSummaryTx db existing.userId existing plan nowUnix
    if (valuePackageRenewalExhaustedReason env usage).isSome then do
      check (existing.quotaEpoch ≠ maxInt64) .quotaEpochOverflow
      let renewed := renewedSubscription existing plan nowUnix purchasedEndUnix
      pure (renewed, (db.createQuotaReset (renewalReset existing nowUnix)).saveSubscription renewed)
    else do
      check (max existing.endTime nowUnix ≤ maxInt64 - duration) .endTimeOverflow
      let extended := extendedSubscription existing plan nowUnix duration
      pure (extended, db.saveSubscription extended)

/-- A purchase that commits has checked its arguments, renews a due cycle, and then opens the next
epoch if the package is exhausted, and only lengthens it otherwise. -/
lemma extendPackage_inv {result : UserSubscription}
    (h : extendValuePackageSubscriptionTx env db subscriptionId plan nowUnix purchasedEndUnix =
      .ok (result, db')) :
    (plan.isValuePackage = true ∧ 0 < plan.totalAmount) ∧ 0 < nowUnix ∧
      0 < purchasedEndUnix - nowUnix ∧
      ∃ existing sub db₁ usage, db.subscriptions.get? subscriptionId = some existing ∧
        existing.status = .active ∧
        maybeAdvanceValuePackageCycleTx db existing plan nowUnix = .ok (sub, db₁) ∧
        buildValuePackageUsageSummaryTx db₁ sub.userId sub plan nowUnix = .ok usage ∧
        ((valuePackageRenewalExhaustedReason env usage).isSome = true ∧
            sub.quotaEpoch ≠ maxInt64 ∧
            result = renewedSubscription sub plan nowUnix purchasedEndUnix ∧
            db' = (db₁.createQuotaReset (renewalReset sub nowUnix)).saveSubscription result ∨
          (valuePackageRenewalExhaustedReason env usage).isSome = false ∧
            result = extendedSubscription sub plan nowUnix (purchasedEndUnix - nowUnix) ∧
            db' = db₁.saveSubscription result) := by
  unfold extendValuePackageSubscriptionTx at h
  obtain ⟨_, h⟩ := of_bind h
  obtain ⟨hplan, h⟩ := of_check h
  obtain ⟨htime, h⟩ := of_check h
  obtain ⟨hnow, hduration⟩ := htime
  refine ⟨hplan, hnow, hduration, ?_⟩
  split at h
  · cases h
  · rename_i existing hget
    obtain ⟨hactive, h⟩ := of_check h
    obtain ⟨⟨sub, db₁⟩, hadvance, h⟩ := bind_eq_ok.mp h
    obtain ⟨usage, husage, h⟩ := bind_eq_ok.mp h
    refine ⟨existing, sub, db₁, usage, hget, hactive, hadvance, husage, ?_⟩
    dsimp only at h
    split_ifs at h with hexhausted
    · obtain ⟨hepoch, h⟩ := of_check h
      simp only [pure_eq_ok, Prod.mk.injEq] at h
      obtain ⟨rfl, rfl⟩ := h
      exact .inl ⟨hexhausted, hepoch, rfl, rfl⟩
    · obtain ⟨_, h⟩ := of_bind h
      simp only [pure_eq_ok, Prod.mk.injEq] at h
      obtain ⟨rfl, rfl⟩ := h
      exact .inr ⟨Bool.not_eq_true _ ▸ hexhausted, rfl, rfl⟩

/-! ## Background jobs and raw adjustments -/

/-- A subscription whose reset is due, as both queries of `ResetDueSubscriptions` test it. -/
def resetDue (sub : UserSubscription) (now : Int) : Bool :=
  0 < sub.nextResetTime ∧ sub.nextResetTime ≤ now

/-- The transaction of `ResetDueSubscriptions` for one subscription, with the plan loaded before
it. The row is read again under the lock. -/
def resetDueSubscriptionTx (env : Env) (db : DB) (id : Int) (plan : SubscriptionPlan) (now : Int) :
    Except TxError (Unit × DB) :=
  match (db.subscriptions.get? id).filter (resetDue · now) with
  | none => pure ((), db)
  | some locked => do
    let (_, db) ←
      if plan.isValuePackage then maybeAdvanceValuePackageCycleTx db locked plan now
      else maybeResetUserSubscriptionWithPlanTx env db locked plan now
    pure ((), db)

/-- The loop of `ResetDueSubscriptions`: a subscription without a plan is skipped, and the first
failed transaction ends the loop. -/
def resetDueLoop (env : Env) (now : Int) : DB → List UserSubscription → DB
  | db, [] => db
  | db, sub :: subs =>
    match getSubscriptionPlanByIdTx db sub.planId with
    | .error _ => resetDueLoop env now db subs
    | .ok plan =>
      match resetDueSubscriptionTx env db sub.id plan now with
      | .error _ => db
      | .ok (_, db) => resetDueLoop env now db subs

def resetDueSubscriptions (env : Env) (db : DB) (now limit : Int) : DB :=
  let limit := if limit ≤ 0 then 200 else limit
  let due := (db.subscriptions.rows.filter fun sub => resetDue sub now && sub.status = .active)
    |>.insertionSort fun a b => a.nextResetTime ≤ b.nextResetTime
  resetDueLoop env now db (due.take limit.toNat)

section ResetDue

variable (Inv : DB → Prop)
  (hadvance : ∀ db sub plan sub' db', Inv db → db.subscriptions.get? sub.id = some sub →
    getSubscriptionPlanByIdTx db sub.planId = .ok plan → plan.isValuePackage = true →
    maybeAdvanceValuePackageCycleTx db sub plan now = .ok (sub', db') → Inv db')
  (hreset : ∀ db sub plan sub' db', Inv db → db.subscriptions.get? sub.id = some sub →
    resetDue sub now = true → getSubscriptionPlanByIdTx db sub.planId = .ok plan →
    plan.isValuePackage = false →
    maybeResetUserSubscriptionWithPlanTx env db sub plan now = .ok (sub', db') → Inv db')

/-- Every stored subscription is on the plan the job has read for it. -/
def PlansKnown (db : DB) (subs : List UserSubscription) : Prop :=
  ∀ sub ∈ subs, ∀ row, db.subscriptions.get? sub.id = some row → row.planId = sub.planId

lemma PlansKnown.saveSubscription (h : PlansKnown db subs) {old new : UserSubscription}
    (hget : db.subscriptions.get? old.id = some old) (hid : new.id = old.id)
    (hplan : new.planId = old.planId) : PlansKnown (db.saveSubscription new) subs := by
  intro sub hsub row hrow
  rw [DB.saveSubscription_subscriptions, get?_put] at hrow
  split_ifs at hrow with hkey
  · cases hrow
    rw [hplan]
    exact h sub hsub old (by rw [← hkey, hid]; exact hget)
  · exact h sub hsub row hrow

include hadvance hreset in
/-- One transaction of the job keeps the invariant and the plans. -/
lemma resetDueSubscriptionTx_step (hsub : sub ∈ subs) (hknown : PlansKnown db subs)
    (hinv : Inv db) (hplan : getSubscriptionPlanByIdTx db sub.planId = .ok plan)
    (h : resetDueSubscriptionTx env db sub.id plan now = .ok (u, db')) :
    Inv db' ∧ PlansKnown db' subs := by
  unfold resetDueSubscriptionTx at h
  split at h
  · cases h
    exact ⟨hinv, hknown⟩
  · rename_i locked hlocked
    obtain ⟨hget, hdue⟩ := Option.filter_eq_some_iff.mp hlocked
    rw [← hknown sub hsub locked hget] at hplan
    rw [← (key_of_get? hget : locked.id = sub.id)] at hget
    dsimp only at h
    split_ifs at h with hpackage
    · obtain ⟨⟨sub', db₁⟩, hstep, h⟩ := bind_eq_ok.mp h
      cases h
      refine ⟨hadvance db locked plan sub' db₁ hinv hget hplan hpackage hstep, ?_⟩
      obtain ⟨-, -, rfl⟩ | ⟨-, -, -, rfl⟩ := maybeAdvance_eq_ok.mp hstep
      · exact hknown
      · have hcreated : PlansKnown (db.createQuotaReset (cycleReset locked plan now)) subs := hknown
        exact hcreated.saveSubscription hget rfl rfl
    · obtain ⟨⟨sub', db₁⟩, hstep, h⟩ := bind_eq_ok.mp h
      cases h
      refine ⟨hreset db locked plan sub' db₁ hinv hget hdue hplan (by simpa using hpackage) hstep,
        ?_⟩
      obtain ⟨rfl, -⟩ | ⟨used, last, next, rfl, -, rfl⟩ :=
        maybeReset_ok hstep
      · exact hknown
      · exact hknown.saveSubscription hget rfl rfl

include hadvance hreset in
lemma resetDue_induction (limit : Int) (hinit : Inv db) :
    Inv (resetDueSubscriptions env db now limit) := by
  have hloop : ∀ subs db, Inv db → PlansKnown db subs → Inv (resetDueLoop env now db subs) := by
    intro subs
    induction subs with
    | nil => exact fun db hinv _ => hinv
    | cons sub subs ih =>
      intro db hinv hknown
      have htail : ∀ {db}, PlansKnown db (sub :: subs) → PlansKnown db subs :=
        fun hknown s hs => hknown s (List.mem_cons_of_mem _ hs)
      unfold resetDueLoop
      split
      · exact ih db hinv (htail hknown)
      · rename_i plan hplan
        split
        · exact hinv
        · rename_i u db' hstep
          obtain ⟨hinv', hknown'⟩ := resetDueSubscriptionTx_step Inv hadvance hreset
            List.mem_cons_self hknown hinv hplan hstep
          exact ih db' hinv' (htail hknown')
  refine hloop _ db hinit fun sub hsub row hrow => ?_
  -- the rows the job has read are the stored ones
  have hmem := (List.mem_insertionSort _).mp (List.mem_of_mem_take hsub)
  rw [get?_of_mem (List.mem_of_mem_filter hmem)] at hrow
  cases hrow
  rfl

end ResetDue

def cleanupSubscriptionPreConsumeRecords (db : DB) (now olderThanSeconds : Int) : DB :=
  let olderThanSeconds := if olderThanSeconds ≤ 0 then 7 * 24 * 3600 else olderThanSeconds
  { db with preConsumeRecords := db.preConsumeRecords.filter fun record =>
      !(record.updatedAt < now - olderThanSeconds) }

def postConsumeUserSubscriptionDelta (db : DB) (userSubscriptionId delta : Int) :
    Except TxError (Unit × DB) := do
  check (0 < userSubscriptionId) .invalidUserSubscriptionId
  if delta = 0 then pure ((), db)
  else
    match db.subscriptions.get? userSubscriptionId with
    | none => .error .recordNotFound
    | some sub => do
      let charged := chargeUsed sub delta
      check (¬(0 < sub.amountTotal ∧ sub.amountTotal < charged.amountUsed))
        (.usedExceedsTotal charged.amountUsed sub.amountTotal)
      pure ((), db.saveSubscription charged)

end Yunbay
