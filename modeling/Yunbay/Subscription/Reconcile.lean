import Yunbay.Data.OrderBy
import Yunbay.Subscription.Ledger

/-!
# Reset reconcile of value packages

`model/value_package_reset_reconcile.go` takes every active value package from the time before quota
epochs to epoch 1. For each one it finds the *anchor*, the moment its quota was last emptied (by the
quota migration called B2, a reset card, or the start of the period), and rebuilds the used amount
from the usage records after it.

A store is the database with the two tables of receipts and the primary keys of the usage records,
which grow along the table. The hashes of the two manifests are parameters.
-/

namespace Yunbay

open Except Table

/-! ## Tables and reports -/

/-- `LegacyValuePackageQuotaMigrationRow`. -/
structure B2Row where
  subscriptionId : Int
  planId : Int
  packageType : PackageType
  amountUsed : Int
  oldTotal : Int
  grant : Int
  newTotal : Int
  endTime : Int

/-- `LegacyValuePackageQuotaMigrationReport` without its statistics. -/
structure B2Report where
  migrationNow : Int
  rows : List B2Row
  manifestHash : String

/-- `ValuePackageQuotaMigrationReceipt`, for the version of the B2 migration. -/
structure B2Receipt where
  manifestHash : String
  appliedAt : Int
  updated : Int

/-- `ValuePackageResetReconcileReceipt`, for the version of the reconcile. -/
structure ReconcileReceipt where
  manifestHash : String
  b2ManifestHash : String
  appliedAt : Int
  updated : Int

/-- The anchor types. -/
inductive ReconcileAnchor where
  | native
  | b2Migration
  | userReset
  | packagePeriod
  deriving DecidableEq

/-- `ValuePackageResetReconcileRow`. -/
structure ReconcileRow where
  subscriptionId : Int
  userId : Int
  planId : Int
  packageType : PackageType
  endTime : Int
  anchorType : ReconcileAnchor
  anchorAt : Int
  anchorResetId : Nat
  b2BaselineUsed : Int
  oldTotal : Int
  oldUsed : Int
  oldEpoch : Int
  newTotal : Int
  newUsed : Int
  newEpoch : Int
  cycleStart : Int
  nextCycleAt : Int
  epochAfterAt : Int
  epochAfterId : Int
  evidenceRecords : Nat
  evidenceUsage : Int

def ReconcileRow.needsUpdate (row : ReconcileRow) : Bool :=
  row.oldTotal ≠ row.newTotal ∨ row.oldUsed ≠ row.newUsed ∨ row.oldEpoch ≠ row.newEpoch

/-- `ValuePackageResetReconcileReport`. -/
structure ReconcileReport where
  reconcileNow : Int
  b2ManifestHash : String
  b2AppliedAt : Int
  rows : List ReconcileRow
  manifestHash : String
  updated : Int
  alreadyApplied : Bool

/-- `valuePackageResetReconcileB2State`. -/
structure B2State where
  manifestHash : String
  appliedAt : Int
  rows : List B2Row

/-- The entry of a subscription in `RowsBySubID`. -/
def B2State.rowOf (state : B2State) (subscriptionId : Int) : Option B2Row :=
  state.rows.find? fun row => row.subscriptionId = subscriptionId

/-- `legacyValuePackageQuotaMigrationManifestRow`. -/
structure B2ManifestRow where
  subscriptionId : Int
  planId : Int
  packageType : PackageType
  grant : Int
  endTime : Int

/-- `valuePackageResetReconcileManifestRow`: the used amounts are not part of it, since they go on
growing between the preview and its application. -/
structure ReconcileManifestRow where
  subscriptionId : Int
  userId : Int
  planId : Int
  packageType : PackageType
  endTime : Int
  planTotal : Int
  oldTotal : Int
  oldEpoch : Int
  anchorType : ReconcileAnchor
  anchorAt : Int
  anchorResetId : Nat
  b2BaselineUsed : Int
  cycleStart : Int
  nextCycleAt : Int
  epochAfterAt : Int
  epochAfterId : Int

/-- The SHA-256 of the two manifests. -/
structure ReconcileEnv where
  b2Hash : List B2ManifestRow → String
  hash : List ReconcileManifestRow → String

def legacyValuePackageQuotaMigrationManifestHash (env : ReconcileEnv) (rows : List B2Row) :
    String :=
  env.b2Hash <| (rows.map fun row =>
      ⟨row.subscriptionId, row.planId, row.packageType, row.grant, row.endTime⟩).insertionSort
    fun a b => a.subscriptionId ≤ b.subscriptionId

def valuePackageResetReconcileManifestHash (env : ReconcileEnv) (rows : List ReconcileRow) :
    String :=
  env.hash <| (rows.map fun row =>
      { subscriptionId := row.subscriptionId, userId := row.userId, planId := row.planId
        packageType := row.packageType, endTime := row.endTime, planTotal := row.newTotal
        oldTotal := row.oldTotal, oldEpoch := row.oldEpoch, anchorType := row.anchorType
        anchorAt := row.anchorAt, anchorResetId := row.anchorResetId
        b2BaselineUsed := row.b2BaselineUsed, cycleStart := row.cycleStart
        nextCycleAt := row.nextCycleAt, epochAfterAt := row.epochAfterAt
        epochAfterId := row.epochAfterId }).insertionSort
    fun a b => a.subscriptionId ≤ b.subscriptionId

/-- The skip reasons of a plan. -/
inductive PlanSkip where
  | notValuePackage
  | invalidPackageType
  | invalidPlanTotal

/-- What the reconcile reads and writes. -/
structure ReconcileStore where
  db : DB
  /-- The primary key of a usage record. -/
  usageId : Int × String → Int
  /-- Primary keys grow along the table. -/
  usageId_lt : db.usageRecords.rows.Pairwise fun a b => usageId a.key < usageId b.key
  b2Receipts : Table String B2Receipt B2Receipt.manifestHash
  receipts : Table String ReconcileReceipt ReconcileReceipt.manifestHash

/-- The errors of the reconcile; most name the subscription. -/
inductive ReconcileError where
  | nowNotPositive
  | manifestRequired
  | b2MigrationTimeInvalid
  | b2ManifestInvalid
  | b2ReportMismatch
  | b2RowInvalid (id : Int)
  | b2PackageTypeInvalid (id : Int)
  | b2Duplicated (id : Int)
  | b2ReceiptMismatch
  | planInvalid (id : Int) (reason : PlanSkip)
  | b2Authorization (id : Int)
  | b2Total (id : Int)
  | b2ExtensionTotal (id : Int)
  | epochNotLegacy (id : Int)
  | resetMetadata (id : Int)
  | ambiguousUsage (id : Int)
  | negativeUsage (id : Int)
  | usageEpoch (id : Int)
  | usageAnchor
  | b2UsageAnchor
  | postApplyEvidence (id : Int)
  | splitsRecord (id : Int)
  | prefixMismatch (id : Int)
  | invalidLegacyUsage (id : Int)
  | usageIdOverflow (id : Int)
  | resetUsageExceedsStored (id : Int)
  | belowBaseline (id : Int)
  | b2EvidenceMismatch (id delta evidence : Int)
  | nativeEvidenceMismatch (id stored evidence : Int)
  | exceedsPlanTotal (id : Int)
  | receiptMismatch
  | manifestMismatch
  | authorizationChanged
  | epochInvalid

/-! ## The B2 report -/

/-- A SHA-256 in hexadecimal digits has 64 of them. -/
def isManifestHash (hash : String) : Bool := hash.utf8ByteSize = 64

/-- The day, week and month packages. -/
def PackageType.isFixed (packageType : PackageType) : Bool :=
  packageType = .day ∨ packageType = .week ∨ packageType = .month

/-- The check of one row of the B2 report, after the rows before it. -/
def checkB2Row (before : List B2Row) (row : B2Row) : Except ReconcileError Unit := do
  check (¬(row.subscriptionId ≤ 0 ∨ row.planId ≤ 0 ∨ row.amountUsed < 0 ∨
    row.oldTotal ≠ 0 ∨ row.grant ≤ 0 ∨ row.newTotal ≠ row.amountUsed + row.grant ∨
    row.endTime ≤ 0)) (.b2RowInvalid row.subscriptionId)
  check row.packageType.isFixed (.b2PackageTypeInvalid row.subscriptionId)
  check (∀ other ∈ before, other.subscriptionId ≠ row.subscriptionId)
    (.b2Duplicated row.subscriptionId)

/-- The loop over the rows of the B2 report. -/
def checkB2Rows : List B2Row → List B2Row → Except ReconcileError Unit
  | _, [] => pure ()
  | before, row :: rows => do
    checkB2Row before row
    checkB2Rows (before ++ [row]) rows

def validateValuePackageResetReconcileB2Report (env : ReconcileEnv) (store : ReconcileStore)
    (report : B2Report) : Except ReconcileError B2State := do
  check (0 < report.migrationNow) .b2MigrationTimeInvalid
  let manifestHash := trimSpace report.manifestHash
  check (isManifestHash manifestHash) .b2ManifestInvalid
  check (legacyValuePackageQuotaMigrationManifestHash env report.rows = manifestHash)
    .b2ReportMismatch
  checkB2Rows [] report.rows
  match store.b2Receipts.get? manifestHash with
  | none => .error .b2ReceiptMismatch
  | some receipt => do
    check (0 < receipt.appliedAt ∧ receipt.updated = report.rows.length) .b2ReceiptMismatch
    pure ⟨manifestHash, receipt.appliedAt, report.rows⟩

/-! ## The current period -/

def valuePackageResetReconcilePeriodSeconds : PackageType → Int
  | .day => 24 * 60 * 60
  | .week => 7 * 24 * 60 * 60
  | .month => 30 * 24 * 60 * 60
  | .other => 0

/-- The periods of a package whose span is a whole number of them, counted from its start. -/
def spanPeriodStart (sub : UserSubscription) (duration now : Int) : Option Int :=
  let span := sub.endTime - sub.startTime
  if duration < span ∧ span % duration = 0 ∧ 0 < (now - sub.startTime) / duration then
    some (sub.startTime + (now - sub.startTime) / duration * duration)
  else none

/-- The periods of a package that was extended after B2, counted from its end at that time. -/
def b2PeriodStart (sub : UserSubscription) (duration : Int) (b2Row : Option B2Row) (now : Int) :
    Option Int :=
  match b2Row with
  | none => none
  | some row =>
    if row.endTime < sub.endTime ∧ (sub.endTime - row.endTime) % duration = 0 ∧
        row.endTime ≤ now then
      some (row.endTime + (now - row.endTime) / duration * duration)
    else none

/-- `valuePackageResetReconcileCurrentPeriodStart`, `0` without a known period. The divisions are of
numbers that are not negative. -/
def valuePackageResetReconcileCurrentPeriodStart (sub : UserSubscription)
    (packageType : PackageType) (b2Row : Option B2Row) (now : Int) : Int :=
  let duration := valuePackageResetReconcilePeriodSeconds packageType
  if now ≤ sub.startTime ∨ sub.endTime ≤ now ∨ duration ≤ 0 then 0
  else (spanPeriodStart sub duration now <|> b2PeriodStart sub duration b2Row now).getD 0

/-! ## Evidence -/

/-- `ORDER BY created_at asc, id asc`. -/
def evidenceOrder (usageId : Int × String → Int) (a b : ValuePackageUsageRecord) : Prop :=
  a.createdAt < b.createdAt ∨
    (a.createdAt = b.createdAt ∧ usageId a.key ≤ usageId b.key)

instance (usageId : Int × String → Int) : DecidableRel (evidenceOrder usageId) := fun a b => by
  unfold evidenceOrder
  infer_instance

/-- The usage records of the subscription up to `now`, in order. -/
def legacyRecords (store : ReconcileStore) (sub : UserSubscription) (now : Int) :
    List ValuePackageUsageRecord :=
  (store.db.usageRecords.rows.filter fun record =>
      record.userId = sub.userId ∧ record.userSubscriptionId = sub.id ∧
        record.createdAt ≤ now).insertionSort (evidenceOrder store.usageId)

/-- The scan for the records that make up the baseline; the records after them are returned. -/
def scanB2Baseline (id anchorAt baseline : Int) :
    Int → List ValuePackageUsageRecord → Except ReconcileError (List ValuePackageUsageRecord)
  | historical, [] => do
    check (historical = baseline) (.prefixMismatch id)
    pure []
  | historical, record :: records =>
    if historical < baseline then do
      check (record.createdAt ≤ anchorAt) (.postApplyEvidence id)
      check (historical + record.quota ≤ baseline) (.splitsRecord id)
      scanB2Baseline id anchorAt baseline (historical + record.quota) records
    else do
      check (historical = baseline) (.prefixMismatch id)
      pure (record :: records)

def getValuePackageResetReconcileCurrentRecords (store : ReconcileStore) (sub : UserSubscription)
    (anchorType : ReconcileAnchor) (anchorAt b2Baseline now : Int) :
    Except ReconcileError (List ValuePackageUsageRecord) := do
  let records := legacyRecords store sub now
  records.forM fun record => do
    check (0 ≤ record.quota) (.negativeUsage sub.id)
    check (record.quotaEpoch = 0) (.usageEpoch sub.id)
  match anchorType with
  | .native => pure records
  | .userReset | .packagePeriod => do
    check (0 < anchorAt) .usageAnchor
    -- the binary search finds the first record that is not before the anchor
    pure (records.dropWhile fun record => record.createdAt < anchorAt)
  | .b2Migration => do
    check (0 < anchorAt ∧ 0 ≤ b2Baseline) .b2UsageAnchor
    scanB2Baseline sub.id anchorAt b2Baseline 0 records

/-- The scan for the last record of the baseline; its time and the id after its own. -/
def scanB2Boundary (usageId : Int × String → Int) (id baseline : Int) :
    Int → List ValuePackageUsageRecord → Except ReconcileError (Int × Int)
  | _, [] => .error (.prefixMismatch id)
  | historical, record :: records => do
    check (0 ≤ record.quota ∧ record.quotaEpoch = 0) (.invalidLegacyUsage id)
    check (historical + record.quota ≤ baseline) (.splitsRecord id)
    if historical + record.quota = baseline then do
      check (usageId record.key ≠ maxInt64) (.usageIdOverflow id)
      pure (record.createdAt, usageId record.key + 1)
    else scanB2Boundary usageId id baseline (historical + record.quota) records

def getValuePackageResetReconcileB2EpochBoundary (store : ReconcileStore) (sub : UserSubscription)
    (b2Baseline now : Int) : Except ReconcileError (Int × Int) :=
  if b2Baseline = 0 then pure (0, 0)
  else scanB2Boundary store.usageId sub.id b2Baseline 0 (legacyRecords store sub now)

def sumValuePackageResetReconcileUsage (records : List ValuePackageUsageRecord) : Int :=
  (records.map (·.quota)).sum

/-! ## The row of one subscription -/

def legacyValuePackageQuotaMigrationPlanAuthorization (plan : SubscriptionPlan) :
    Except PlanSkip PackageType := do
  check plan.isValuePackage .notValuePackage
  check plan.packageType.isFixed .invalidPackageType
  check (0 < plan.totalAmount) .invalidPlanTotal
  pure plan.packageType

def authenticateValuePackageResetReconcileB2Total (sub : UserSubscription)
    (plan : SubscriptionPlan) (row : B2Row) : Except ReconcileError Unit :=
  if sub.amountTotal = row.newTotal then pure ()
  else do
    let duration := valuePackageResetReconcilePeriodSeconds plan.packageType
    check (0 < duration ∧ row.endTime < sub.endTime ∧
      (sub.endTime - row.endTime) % duration = 0) (.b2Total sub.id)
    let extensions := (sub.endTime - row.endTime) / duration
    check (0 < extensions ∧ row.newTotal ≤ maxInt64 - extensions * plan.totalAmount)
      (.b2ExtensionTotal sub.id)
    check (sub.amountTotal = row.newTotal + extensions * plan.totalAmount) (.b2Total sub.id)

/-- `getLastValuePackageResetForReconcile`: the last reset by a card, with its place in the table
as its id. -/
def getLastValuePackageResetForReconcile (db : DB) (userId subscriptionId now : Int) :
    Option (ValuePackageQuotaReset × Nat) :=
  firstBy
    (fun a b => b.1.resetAt < a.1.resetAt ∨ (b.1.resetAt = a.1.resetAt ∧ b.2 < a.2))
    ((db.quotaResets.zipIdx 1).filter fun (reset, _) =>
      reset.userId = userId ∧ reset.userSubscriptionId = subscriptionId ∧
        reset.source = .userConsumeCount ∧ reset.resetAt ≤ now)

/-- The anchor of a subscription. -/
structure AnchorChoice where
  anchorType : ReconcileAnchor
  anchorAt : Int
  anchorResetId : Nat
  b2BaselineUsed : Int

/-- The choice of the anchor: B2 before nothing, a later reset card before B2, and a later period
before both. -/
def chooseAnchor (b2AppliedAt : Int) (b2Row : Option B2Row)
    (lastReset : Option (ValuePackageQuotaReset × Nat)) (packagePeriodAt : Int) : AnchorChoice :=
  let migrated : AnchorChoice :=
    match b2Row with
    | none => ⟨.native, 0, 0, 0⟩
    | some row => ⟨.b2Migration, b2AppliedAt, 0, row.amountUsed⟩
  let reset : AnchorChoice :=
    match lastReset with
    | none => migrated
    | some (reset, id) =>
      if migrated.anchorAt < reset.resetAt then
        { migrated with anchorType := .userReset, anchorAt := reset.resetAt, anchorResetId := id }
      else migrated
  if reset.anchorAt < packagePeriodAt then ⟨.packagePeriod, packagePeriodAt, 0, 0⟩ else reset

/-- What the evidence says: the boundary of the epoch, the evidence and the used amount. -/
structure RebuiltUsage where
  epochAfterAt : Int
  epochAfterId : Int
  evidence : List ValuePackageUsageRecord
  newUsed : Int

/-- The checks of a reset card that is the anchor. -/
def checkUserReset (store : ReconcileStore) (sub : UserSubscription)
    (lastReset : Option (ValuePackageQuotaReset × Nat)) (anchorAt : Int) :
    Except ReconcileError Unit := do
  check (∀ reset ∈ lastReset,
    reset.1.fromEpoch = 0 ∧ reset.1.toEpoch = 0 ∧ reset.1.amountUsedBefore = 0)
    (.resetMetadata sub.id)
  check (∀ record ∈ store.db.usageRecords.rows,
    ¬(record.userId = sub.userId ∧ record.userSubscriptionId = sub.id ∧
      record.createdAt = anchorAt)) (.ambiguousUsage sub.id)

/-- The evidence after a reset card or a period start. -/
def rebuildFromAnchor (store : ReconcileStore) (sub : UserSubscription) (choice : AnchorChoice)
    (now : Int) : Except ReconcileError RebuiltUsage := do
  let evidence ← getValuePackageResetReconcileCurrentRecords store sub choice.anchorType
    choice.anchorAt 0 now
  let usage := sumValuePackageResetReconcileUsage evidence
  check (usage ≤ sub.amountUsed) (.resetUsageExceedsStored sub.id)
  pure ⟨0, 0, evidence, usage⟩

/-- The `switch` over the anchor types. -/
def rebuildUsage (store : ReconcileStore) (sub : UserSubscription) (choice : AnchorChoice)
    (lastReset : Option (ValuePackageQuotaReset × Nat)) (now : Int) :
    Except ReconcileError RebuiltUsage :=
  match choice.anchorType with
  | .userReset => do
    checkUserReset store sub lastReset choice.anchorAt
    rebuildFromAnchor store sub choice now
  | .packagePeriod => rebuildFromAnchor store sub choice now
  | .b2Migration => do
    let baseline := choice.b2BaselineUsed
    check (baseline ≤ sub.amountUsed) (.belowBaseline sub.id)
    let (epochAfterAt, epochAfterId) ←
      getValuePackageResetReconcileB2EpochBoundary store sub baseline now
    let evidence ← getValuePackageResetReconcileCurrentRecords store sub .b2Migration
      choice.anchorAt baseline now
    let usage := sumValuePackageResetReconcileUsage evidence
    check (usage = sub.amountUsed - baseline)
      (.b2EvidenceMismatch sub.id (sub.amountUsed - baseline) usage)
    pure ⟨epochAfterAt, epochAfterId, evidence, sub.amountUsed - baseline⟩
  | .native => do
    let evidence ← getValuePackageResetReconcileCurrentRecords store sub .native 0 0 now
    let usage := sumValuePackageResetReconcileUsage evidence
    check (usage = sub.amountUsed) (.nativeEvidenceMismatch sub.id sub.amountUsed usage)
    pure ⟨0, 0, evidence, sub.amountUsed⟩

/-- The checks of the B2 row of a subscription. -/
def checkB2Authorization (sub : UserSubscription) (plan : SubscriptionPlan)
    (b2Row : Option B2Row) : Except ReconcileError Unit :=
  match b2Row with
  | none => pure ()
  | some row => do
    check (row.planId = sub.planId ∧ row.packageType = plan.packageType ∧
      row.grant = plan.totalAmount) (.b2Authorization sub.id)
    authenticateValuePackageResetReconcileB2Total sub plan row

/-- The row that the report gets for a subscription. -/
def newReconcileRow (sub : UserSubscription) (plan : SubscriptionPlan) (cycleStart : Int)
    (choice : AnchorChoice) (rebuilt : RebuiltUsage) : ReconcileRow :=
  let nextCycleAt := cycleStart + valuePackageResetReconcilePeriodSeconds plan.packageType
  { subscriptionId := sub.id, userId := sub.userId, planId := sub.planId
    packageType := plan.packageType, endTime := sub.endTime
    anchorType := choice.anchorType, anchorAt := choice.anchorAt
    anchorResetId := choice.anchorResetId, b2BaselineUsed := choice.b2BaselineUsed
    oldTotal := sub.amountTotal, oldUsed := sub.amountUsed, oldEpoch := sub.quotaEpoch
    newTotal := plan.totalAmount, newUsed := rebuilt.newUsed, newEpoch := 1, cycleStart
    nextCycleAt := if 0 < cycleStart ∧ nextCycleAt < sub.endTime then nextCycleAt else 0
    epochAfterAt := rebuilt.epochAfterAt, epochAfterId := rebuilt.epochAfterId
    evidenceRecords := rebuilt.evidence.length
    evidenceUsage := sumValuePackageResetReconcileUsage rebuilt.evidence }

/-- The row of a subscription on a value-package plan. -/
def reconcileRow (store : ReconcileStore) (now : Int) (b2 : B2State) (sub : UserSubscription)
    (plan : SubscriptionPlan) : Except ReconcileError ReconcileRow := do
  let packageType ← (legacyValuePackageQuotaMigrationPlanAuthorization plan).mapError
    (.planInvalid sub.id)
  let lastReset := getLastValuePackageResetForReconcile store.db sub.userId sub.id now
  let b2Row := b2.rowOf sub.id
  checkB2Authorization sub plan b2Row
  check (sub.quotaEpoch = 0) (.epochNotLegacy sub.id)
  let cycleStart := valuePackageResetReconcileCurrentPeriodStart sub packageType b2Row now
  let choice := chooseAnchor b2.appliedAt b2Row lastReset cycleStart
  let rebuilt ← rebuildUsage store sub choice lastReset now
  check (rebuilt.newUsed ≤ plan.totalAmount) (.exceedsPlanTotal sub.id)
  pure (newReconcileRow sub plan cycleStart choice rebuilt)

/-- The plan of a subscription, if it is a value package. -/
def valuePackagePlanOf (db : DB) (sub : UserSubscription) : Option SubscriptionPlan :=
  ((db.plans.get? sub.planId).map normalizeValuePackagePlan).filter (·.isValuePackage)

/-- The loop over the subscriptions; one without a value-package plan is skipped. -/
def reconcileRows (store : ReconcileStore) (now : Int) (b2 : B2State) :
    List UserSubscription → Except ReconcileError (List ReconcileRow)
  | [] => pure []
  | sub :: subs =>
    match valuePackagePlanOf store.db sub with
    | none => reconcileRows store now b2 subs
    | some plan => do
      let row ← reconcileRow store now b2 sub plan
      let rows ← reconcileRows store now b2 subs
      pure (row :: rows)

/-- The active subscriptions, in order of ids. -/
def legacySubscriptions (db : DB) (now : Int) : List UserSubscription :=
  (db.subscriptions.rows.filter fun sub =>
    sub.status = .active ∧ now < sub.endTime).insertionSort fun a b => a.id ≤ b.id

def buildValuePackageResetReconcileReport (env : ReconcileEnv) (store : ReconcileStore)
    (now : Int) (b2 : B2State) : Except ReconcileError ReconcileReport := do
  let rows ← reconcileRows store now b2 (legacySubscriptions store.db now)
  pure ⟨now, b2.manifestHash, b2.appliedAt, rows,
    valuePackageResetReconcileManifestHash env rows, 0, false⟩

/-! ## What a report says -/

/-- What the evidence of an anchor is, among the records of a subscription. -/
def IsEvidence (id : Int) (records : List ValuePackageUsageRecord) (anchorType : ReconcileAnchor)
    (anchorAt baseline : Int) (evidence : List ValuePackageUsageRecord) : Prop :=
  match anchorType with
  | .native => evidence = records
  | .userReset | .packagePeriod =>
    0 < anchorAt ∧ evidence = records.dropWhile fun record => record.createdAt < anchorAt
  | .b2Migration =>
    0 ≤ baseline ∧ scanB2Baseline id anchorAt baseline 0 records = .ok evidence

variable {store : ReconcileStore} {sub : UserSubscription} {now : Int}

lemma currentRecords_inv {anchorType : ReconcileAnchor}
    {anchorAt baseline : Int} {evidence : List ValuePackageUsageRecord}
    (h : getValuePackageResetReconcileCurrentRecords store sub anchorType anchorAt baseline now =
      .ok evidence) :
    (∀ record ∈ legacyRecords store sub now, 0 ≤ record.quota ∧ record.quotaEpoch = 0) ∧
      IsEvidence sub.id (legacyRecords store sub now) anchorType anchorAt baseline evidence := by
  simp only [getValuePackageResetReconcileCurrentRecords, bind_eq_ok] at h
  obtain ⟨_, hrecords, h⟩ := h
  constructor
  · intro record hrecord
    have hcheck := forM_eq_ok.mp hrecords record hrecord
    simpa only [bind_eq_ok, check_eq_ok, exists_const] using hcheck
  · cases anchorType with
    | native => exact (pure_eq_ok.mp h).symm
    | userReset | packagePeriod =>
      simp only [bind_eq_ok, check_eq_ok, pure_eq_ok, exists_const] at h
      exact ⟨h.1, h.2.symm⟩
    | b2Migration =>
      simp only [bind_eq_ok, check_eq_ok, exists_const] at h
      exact ⟨h.1.2, h.2⟩

variable {choice : AnchorChoice} {result : RebuiltUsage}

lemma rebuildFromAnchor_inv (h : rebuildFromAnchor store sub choice now = .ok result) :
    result.newUsed = sumValuePackageResetReconcileUsage result.evidence ∧
      getValuePackageResetReconcileCurrentRecords store sub choice.anchorType choice.anchorAt 0
        now = .ok result.evidence := by
  simp only [rebuildFromAnchor, bind_eq_ok, check_eq_ok, pure_eq_ok,
    exists_const] at h
  obtain ⟨evidence, hevidence, -, rfl⟩ := h
  exact ⟨rfl, hevidence⟩

variable {lastReset : Option (ValuePackageQuotaReset × Nat)}

lemma rebuildUsage_inv (h : rebuildUsage store sub choice lastReset now = .ok result) :
    result.newUsed = sumValuePackageResetReconcileUsage result.evidence ∧
      getValuePackageResetReconcileCurrentRecords store sub choice.anchorType choice.anchorAt
        choice.b2BaselineUsed now = .ok result.evidence ∧
      (choice.anchorType = .b2Migration →
        getValuePackageResetReconcileB2EpochBoundary store sub choice.b2BaselineUsed now =
          .ok (result.epochAfterAt, result.epochAfterId)) := by
  cases htype : choice.anchorType with
  | native =>
    simp only [rebuildUsage, htype, bind_eq_ok, check_eq_ok, pure_eq_ok,
      exists_const] at h
    obtain ⟨evidence, hevidence, hsum, rfl⟩ := h
    exact ⟨hsum.symm, hevidence, by simp⟩
  | userReset =>
    simp only [rebuildUsage, htype, bind_eq_ok] at h
    obtain ⟨-, -, h⟩ := h
    obtain ⟨hsum, hevidence⟩ := rebuildFromAnchor_inv h
    rw [htype] at hevidence
    -- the baseline plays no part after a reset
    exact ⟨hsum, hevidence, by simp⟩
  | packagePeriod =>
    simp only [rebuildUsage, htype] at h
    obtain ⟨hsum, hevidence⟩ := rebuildFromAnchor_inv h
    rw [htype] at hevidence
    exact ⟨hsum, hevidence, by simp⟩
  | b2Migration =>
    simp only [rebuildUsage, htype, bind_eq_ok, check_eq_ok, pure_eq_ok,
      exists_const, Prod.exists] at h
    obtain ⟨-, afterAt, afterId, hboundary, evidence, hevidence, hsum, rfl⟩ := h
    exact ⟨hsum.symm, hevidence, fun _ => hboundary⟩

lemma rebuildUsage_anchorAt_pos (h : rebuildUsage store sub choice lastReset now = .ok result)
    (htype : choice.anchorType = .userReset ∨ choice.anchorType = .packagePeriod) :
    0 < choice.anchorAt := by
  obtain ⟨-, hevidence, -⟩ := rebuildUsage_inv h
  obtain ⟨-, hcases⟩ := currentRecords_inv hevidence
  rcases htype with htype | htype <;> rw [htype] at hcases <;> exact hcases.1

/-- The start of the current period of a subscription, as its row has it. -/
def reconcileCycleStart (b2 : B2State) (sub : UserSubscription) (plan : SubscriptionPlan)
    (now : Int) : Int :=
  valuePackageResetReconcileCurrentPeriodStart sub plan.packageType (b2.rowOf sub.id) now

/-- The anchor of a subscription, as its row has it. -/
def reconcileChoice (store : ReconcileStore) (b2 : B2State) (sub : UserSubscription)
    (plan : SubscriptionPlan) (now : Int) : AnchorChoice :=
  chooseAnchor b2.appliedAt (b2.rowOf sub.id)
    (getLastValuePackageResetForReconcile store.db sub.userId sub.id now)
    (reconcileCycleStart b2 sub plan now)

variable {plan : SubscriptionPlan}

lemma migrationAuthorization_eq_ok {packageType : PackageType} :
    legacyValuePackageQuotaMigrationPlanAuthorization plan = .ok packageType ↔
      plan.isValuePackage = true ∧ plan.packageType.isFixed = true ∧ 0 < plan.totalAmount ∧
        plan.packageType = packageType := by
  simp only [legacyValuePackageQuotaMigrationPlanAuthorization, bind_eq_ok,
    check_eq_ok, pure_eq_ok, exists_and_left, exists_const]

variable {b2 : B2State} {row : ReconcileRow}

/-- A row comes from a subscription of the old epoch on a plan that is sold, and its used amount
from the evidence after the anchor. -/
lemma reconcileRow_inv (h : reconcileRow store now b2 sub plan = .ok row) :
    plan.isValuePackage = true ∧ plan.packageType.isFixed = true ∧ 0 < plan.totalAmount ∧
      sub.quotaEpoch = 0 ∧ ∃ rebuilt,
      rebuildUsage store sub (reconcileChoice store b2 sub plan now)
        (getLastValuePackageResetForReconcile store.db sub.userId sub.id now) now = .ok rebuilt ∧
      rebuilt.newUsed ≤ plan.totalAmount ∧
      row = newReconcileRow sub plan (reconcileCycleStart b2 sub plan now)
        (reconcileChoice store b2 sub plan now) rebuilt := by
  simp only [reconcileRow, bind_eq_ok, mapError_eq_ok, check_eq_ok,
    pure_eq_ok] at h
  obtain ⟨packageType, hplan, -, -, -, hepoch, rebuilt, hrebuilt, -, hle, hrow⟩ := h
  obtain ⟨hpackage, hfixed, htotal, rfl⟩ :=
    migrationAuthorization_eq_ok.mp hplan
  exact ⟨hpackage, hfixed, htotal, hepoch, rebuilt, hrebuilt, hle, hrow.symm⟩

variable {subs : List UserSubscription} {rows : List ReconcileRow}

lemma reconcileRows_inv (h : reconcileRows store now b2 subs = .ok rows) (hrow : row ∈ rows) :
    ∃ sub ∈ subs, ∃ plan, valuePackagePlanOf store.db sub = some plan ∧
      reconcileRow store now b2 sub plan = .ok row := by
  induction subs generalizing rows with
  | nil =>
    obtain rfl : [] = rows := pure_eq_ok.mp h
    simp at hrow
  | cons sub subs ih =>
    rw [reconcileRows] at h
    cases hplan : valuePackagePlanOf store.db sub with
    | none =>
      rw [hplan] at h
      obtain ⟨other, hmem, hother⟩ := ih h hrow
      exact ⟨other, List.mem_cons_of_mem sub hmem, hother⟩
    | some plan =>
      simp only [hplan, bind_eq_ok, pure_eq_ok] at h
      obtain ⟨head, hhead, rest, hrest, rfl⟩ := h
      rcases List.mem_cons.mp hrow with rfl | hmem
      · exact ⟨sub, List.mem_cons_self, plan, hplan, hhead⟩
      · obtain ⟨other, hmem, hother⟩ := ih hrest hmem
        exact ⟨other, List.mem_cons_of_mem sub hmem, hother⟩

lemma reconcileRows_sublist (h : reconcileRows store now b2 subs = .ok rows) :
    (rows.map (·.subscriptionId)).Sublist (subs.map (·.id)) := by
  induction subs generalizing rows with
  | nil =>
    obtain rfl : [] = rows := pure_eq_ok.mp h
    exact List.Sublist.refl []
  | cons sub subs ih =>
    rw [reconcileRows] at h
    cases hplan : valuePackagePlanOf store.db sub with
    | none =>
      rw [hplan] at h
      exact (ih h).cons _
    | some plan =>
      simp only [hplan, bind_eq_ok, pure_eq_ok] at h
      obtain ⟨head, hhead, rest, hrest, rfl⟩ := h
      obtain ⟨-, -, -, -, rebuilt, -, -, rfl⟩ := reconcileRow_inv hhead
      exact (ih hrest).cons_cons _

lemma mem_legacySubscriptions {db : DB} :
    sub ∈ legacySubscriptions db now ↔
      sub ∈ db.subscriptions.rows ∧ sub.status = .active ∧ now < sub.endTime := by
  simp [legacySubscriptions, List.mem_insertionSort]

lemma nodup_legacySubscriptions (db : DB) (now : Int) :
    ((legacySubscriptions db now).map (·.id)).Nodup := by
  have hperm := List.perm_insertionSort (fun a b : UserSubscription => a.id ≤ b.id)
    (db.subscriptions.rows.filter fun sub => sub.status = .active ∧ now < sub.endTime)
  rw [legacySubscriptions, (hperm.map _).nodup_iff]
  exact db.subscriptions.nodup.sublist (List.filter_sublist.map _)

/-! ## Applying the report -/

/-- The condition of the anchor on the usage records that move to the new epoch. -/
def ReconcileRow.selects (row : ReconcileRow) (usageId : Int × String → Int)
    (record : ValuePackageUsageRecord) : Bool :=
  match row.anchorType with
  | .native => true
  | .b2Migration =>
    ¬0 < row.epochAfterAt ∨ row.epochAfterAt < record.createdAt ∨
      (record.createdAt = row.epochAfterAt ∧ row.epochAfterId ≤ usageId record.key)
  | .userReset | .packagePeriod => row.anchorAt ≤ record.createdAt

/-- The usage records that move to the new epoch. -/
def ReconcileRow.moves (row : ReconcileRow) (usageId : Int × String → Int) (now : Int)
    (record : ValuePackageUsageRecord) : Bool :=
  decide (record.userId = row.userId ∧ record.userSubscriptionId = row.subscriptionId ∧
    record.quotaEpoch = row.oldEpoch ∧ record.createdAt ≤ now) && row.selects usageId record

/-- The update of one usage record. -/
def ReconcileRow.moveUsage (row : ReconcileRow) (usageId : Int × String → Int) (now : Int)
    (record : ValuePackageUsageRecord) : ValuePackageUsageRecord :=
  if row.moves usageId now record then { record with quotaEpoch := row.newEpoch } else record

@[simp]
lemma ReconcileRow.moveUsage_key (row : ReconcileRow) (usageId : Int × String → Int) (now : Int)
    (record : ValuePackageUsageRecord) : (row.moveUsage usageId now record).key = record.key := by
  unfold moveUsage
  split_ifs <;> rfl

/-- `requestIDs`. -/
def ReconcileRow.movedRequests (row : ReconcileRow) (store : ReconcileStore) (now : Int) :
    List String :=
  (store.db.usageRecords.rows.filter (row.moves store.usageId now)).map (·.requestId)

/-- The update of one pre-consume record. -/
def ReconcileRow.movePreConsume (row : ReconcileRow) (requestIds : List String)
    (record : SubscriptionPreConsumeRecord) : SubscriptionPreConsumeRecord :=
  if record.userId = row.userId ∧ record.userSubscriptionId = row.subscriptionId ∧
      record.quotaEpoch = row.oldEpoch ∧ record.requestId ∈ requestIds then
    { record with quotaEpoch := row.newEpoch }
  else record

@[simp]
lemma ReconcileRow.movePreConsume_requestId (row : ReconcileRow) (requestIds : List String)
    (record : SubscriptionPreConsumeRecord) :
    (row.movePreConsume requestIds record).requestId = record.requestId := by
  unfold movePreConsume
  split_ifs <;> rfl

/-- `applyValuePackageResetReconcileEpoch` after its checks. -/
def ReconcileStore.moveEpoch (store : ReconcileStore) (row : ReconcileRow) (now : Int) :
    ReconcileStore where
  db := { store.db with
    usageRecords := store.db.usageRecords.mapRows (row.moveUsage store.usageId now)
      (row.moveUsage_key store.usageId now)
    preConsumeRecords := store.db.preConsumeRecords.mapRows
      (row.movePreConsume (row.movedRequests store now))
      (row.movePreConsume_requestId (row.movedRequests store now)) }
  usageId := store.usageId
  usageId_lt := by
    simpa [mapRows, List.pairwise_map] using store.usageId_lt
  b2Receipts := store.b2Receipts
  receipts := store.receipts

def applyValuePackageResetReconcileEpoch (store : ReconcileStore) (row : ReconcileRow)
    (now : Int) : Except ReconcileError ReconcileStore := do
  check (0 < row.newEpoch) .epochInvalid
  check (row.anchorType = .userReset ∨ row.anchorType = .packagePeriod → 0 < row.anchorAt)
    .usageAnchor
  pure (store.moveEpoch row now)

/-- The subscription after its row has been written. -/
@[simps]
def ReconcileRow.rebuilt (row : ReconcileRow) (sub : UserSubscription) : UserSubscription :=
  { sub with
    amountTotal := row.newTotal, amountUsed := row.newUsed, quotaEpoch := row.newEpoch
    lastResetTime := row.cycleStart, nextResetTime := row.nextCycleAt }

/-- Write a subscription row of the store. -/
def ReconcileStore.saveSubscription (store : ReconcileStore) (sub : UserSubscription) :
    ReconcileStore :=
  { store with db := store.db.saveSubscription sub, usageId_lt := store.usageId_lt }

/-- The writes for one row: the subscription as the report has seen it, then its epoch. -/
def applyReconcileRow (store : ReconcileStore) (row : ReconcileRow) (now : Int) :
    Except ReconcileError ReconcileStore :=
  match (store.db.subscriptions.get? row.subscriptionId).filter fun sub =>
      sub.userId = row.userId ∧ sub.planId = row.planId ∧ sub.status = .active ∧
        sub.endTime = row.endTime ∧ now < sub.endTime ∧ sub.amountTotal = row.oldTotal ∧
        sub.amountUsed = row.oldUsed ∧ sub.quotaEpoch = row.oldEpoch with
  | none => .error .authorizationChanged
  | some sub =>
    applyValuePackageResetReconcileEpoch (store.saveSubscription (row.rebuilt sub)) row now

lemma applyRow_of_reconcileRow (hsub : sub ∈ legacySubscriptions store.db now)
    (hrow : reconcileRow store now b2 sub plan = .ok row) :
    applyReconcileRow store row now =
      .ok ((store.saveSubscription (row.rebuilt sub)).moveEpoch row now) := by
  obtain ⟨hmem, hactive, hend⟩ := mem_legacySubscriptions.mp hsub
  obtain ⟨-, -, -, -, rebuilt, hrebuilt, -, rfl⟩ := reconcileRow_inv hrow
  have hget : store.db.subscriptions.get? sub.id = some sub := get?_of_mem hmem
  have hanchor := rebuildUsage_anchorAt_pos hrebuilt
  simp only [applyReconcileRow, newReconcileRow, hget, hactive, hend, Option.filter_some,
    and_self, decide_true, if_true]
  simp only [applyValuePackageResetReconcileEpoch, bind_eq_ok, check_eq_ok,
    pure_eq_ok, exists_const]
  exact ⟨Int.one_pos, hanchor, trivial⟩

/-- The loop over the rows of the report, with the number of updates. -/
def applyReconcileRows (now : Int) :
    ReconcileStore → List ReconcileRow → Except ReconcileError (Int × ReconcileStore)
  | store, [] => pure (0, store)
  | store, row :: rows =>
    if row.needsUpdate then do
      let store ← applyReconcileRow store row now
      let (updated, store) ← applyReconcileRows now store rows
      pure (updated + 1, store)
    else applyReconcileRows now store rows

/-- `ApplyValuePackageResetReconcile`, where `appliedAt` is the server's time of the receipt. -/
def applyValuePackageResetReconcile (env : ReconcileEnv) (store : ReconcileStore)
    (now appliedAt : Int) (b2Report : B2Report) (manifestHash : String) :
    Except ReconcileError (ReconcileReport × ReconcileStore) := do
  check (0 < now) .nowNotPositive
  let manifestHash := trimSpace manifestHash
  check (isManifestHash manifestHash) .manifestRequired
  let b2 ← validateValuePackageResetReconcileB2Report env store b2Report
  match store.receipts.get? manifestHash with
  | some receipt => do
    check (receipt.b2ManifestHash = b2.manifestHash) .receiptMismatch
    pure (⟨now, b2.manifestHash, b2.appliedAt, [], manifestHash, 0, true⟩, store)
  | none => do
    let current ← buildValuePackageResetReconcileReport env store now b2
    check (current.manifestHash = manifestHash) .manifestMismatch
    let (updated, store) ← applyReconcileRows now store current.rows
    pure ({ current with updated },
      { store with
        receipts := store.receipts.put ⟨manifestHash, b2.manifestHash, appliedAt, updated⟩ })

end Yunbay
