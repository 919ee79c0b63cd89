import Yunbay.Subscription.ReconcileCycle

/-!
# The ledger after the reset reconcile

Three computations pick the usage records that the reconcile carries into epoch 1. The evidence is
found by a scan over the records in order, the boundary of the epoch is the time and id of the last
record of the baseline, and the update selects records by comparing with the boundary.

* `evidence_eq_filter`: they pick the same records, if no record has a time before 1970.
-/

namespace Yunbay

open Except Table ReconcileRow

variable {record : SubscriptionPreConsumeRecord} {usageId : Int × String → Int}
  {id anchorAt updated : Int} {records evidence : List ValuePackageUsageRecord}
  {store store' : ReconcileStore} {rows : List ReconcileRow} {sub : UserSubscription}
  {usage : ValuePackageUsageRecord}

/-! ## The evidence is a selection -/

/-- The order of the evidence without ties. -/
def EvidenceLt (usageId : Int × String → Int) (a b : ValuePackageUsageRecord) : Prop :=
  a.createdAt < b.createdAt ∨ (a.createdAt = b.createdAt ∧ usageId a.key < usageId b.key)

instance (usageId : Int × String → Int) : Std.Total (evidenceOrder usageId) where
  total a b := by
    unfold evidenceOrder
    omega

instance (usageId : Int × String → Int) : IsTrans _ (evidenceOrder usageId) where
  trans a b c := by
    unfold evidenceOrder
    omega

section Evidence

variable {now : Int}

lemma mem_legacyRecords {record : ValuePackageUsageRecord} :
    record ∈ legacyRecords store sub now ↔
      record ∈ store.db.usageRecords.rows ∧ record.userId = sub.userId ∧
        record.userSubscriptionId = sub.id ∧ record.createdAt ≤ now := by
  simp [legacyRecords, List.mem_insertionSort]

/-- Primary keys are distinct, so the records stand in strict order. -/
lemma legacyRecords_pairwise (store : ReconcileStore) (sub : UserSubscription) (now : Int) :
    (legacyRecords store sub now).Pairwise (EvidenceLt store.usageId) := by
  have hsorted : (legacyRecords store sub now).Pairwise (evidenceOrder store.usageId) :=
    List.pairwise_insertionSort _ _
  have hdistinct : (legacyRecords store sub now).Pairwise
      fun a b => store.usageId a.key ≠ store.usageId b.key := by
    have hrows := (store.usageId_lt.imp fun h => h.ne).filter fun record =>
      decide (record.userId = sub.userId ∧ record.userSubscriptionId = sub.id ∧
        record.createdAt ≤ now)
    refine (List.Perm.pairwise_iff ?_ (List.perm_insertionSort _ _)).mpr hrows
    exact fun h => h.symm
  refine (hsorted.and hdistinct).imp ?_
  rintro a b ⟨hle, hne⟩
  unfold evidenceOrder at hle
  unfold EvidenceLt
  omega

lemma scanB2_split {baseline historical afterAt afterId : Int} (hlt : historical < baseline)
    (hboundary : scanB2Boundary usageId id baseline historical records = .ok (afterAt, afterId))
    (hscan : scanB2Baseline id anchorAt baseline historical records = .ok evidence) :
    ∃ before last, records = before ++ last :: evidence ∧ afterAt = last.createdAt ∧
      afterId = usageId last.key + 1 := by
  induction records generalizing historical with
  | nil => cases hboundary
  | cons record records ih =>
    simp only [scanB2Baseline, if_pos hlt, bind_eq_ok, check_eq_ok,
      exists_const] at hscan
    obtain ⟨-, hle, hscan⟩ := hscan
    simp only [scanB2Boundary, bind_eq_ok, check_eq_ok, exists_const] at hboundary
    obtain ⟨-, -, hboundary⟩ := hboundary
    by_cases hlast : historical + record.quota = baseline
    · -- the baseline is complete: the scan for the evidence stops before the next record
      simp only [if_pos hlast, bind_eq_ok, check_eq_ok, pure_eq_ok,
        exists_const, Prod.mk.injEq] at hboundary
      obtain ⟨-, rfl, rfl⟩ := hboundary
      have hrest : evidence = records := by
        cases records with
        | nil =>
          simp only [scanB2Baseline, bind_eq_ok, check_eq_ok, pure_eq_ok,
            exists_const] at hscan
          exact hscan.2.symm
        | cons next records =>
          simp only [scanB2Baseline, hlast, lt_irrefl, if_false, bind_eq_ok,
            check_eq_ok, pure_eq_ok, exists_const] at hscan
          exact hscan.2.symm
      exact ⟨[], record, by rw [hrest]; rfl, rfl, rfl⟩
    · rw [if_neg hlast] at hboundary
      obtain ⟨before, last, rfl, hat, hid⟩ :=
        ih (lt_of_le_of_ne hle hlast) hboundary hscan
      exact ⟨record :: before, last, rfl, hat, hid⟩

lemma scanB2Baseline_zero (h : scanB2Baseline id anchorAt 0 0 records = .ok evidence) :
    evidence = records := by
  cases records <;>
    simp only [scanB2Baseline, lt_irrefl, if_false, bind_eq_ok, check_eq_ok,
      pure_eq_ok, exists_const, true_and] at h <;>
    exact h.symm

lemma filter_selects_of_split {row : ReconcileRow} {before : List ValuePackageUsageRecord}
    {last : ValuePackageUsageRecord}
    (hsorted : (before ++ last :: evidence).Pairwise (EvidenceLt usageId))
    (htype : row.anchorType = .b2Migration) (hpos : 0 < last.createdAt)
    (hat : row.epochAfterAt = last.createdAt) (hid : row.epochAfterId = usageId last.key + 1) :
    (before ++ last :: evidence).filter (row.selects usageId) = evidence := by
  obtain ⟨-, hrest, hcross⟩ := List.pairwise_append.mp hsorted
  obtain ⟨hafter, -⟩ := List.pairwise_cons.mp hrest
  have hselects : ∀ record, row.selects usageId record = true ↔ EvidenceLt usageId last record := by
    intro record
    simp only [ReconcileRow.selects, htype, hat, hid, EvidenceLt, decide_eq_true_eq]
    omega
  apply OrderBy.filter_append_cons
  · intro record hrecord
    have hlt := hcross record hrecord last List.mem_cons_self
    rw [← Bool.not_eq_true, hselects]
    unfold EvidenceLt at hlt ⊢
    omega
  · rw [← Bool.not_eq_true, hselects]
    unfold EvidenceLt
    omega
  · intro record hrecord
    exact (hselects record).mpr (hafter record hrecord)

theorem evidence_eq_filter (plan : SubscriptionPlan) (cycleStart : Int) {choice : AnchorChoice}
    {lastReset : Option (ValuePackageQuotaReset × Nat)} {rebuilt : RebuiltUsage}
    (hpos : ∀ record ∈ legacyRecords store sub now, 0 < record.createdAt)
    (h : rebuildUsage store sub choice lastReset now = .ok rebuilt) :
    rebuilt.evidence = (legacyRecords store sub now).filter
      ((newReconcileRow sub plan cycleStart choice rebuilt).selects store.usageId) := by
  obtain ⟨-, hevidence, hboundary⟩ := rebuildUsage_inv h
  obtain ⟨-, hevidence⟩ := currentRecords_inv hevidence
  have hsorted := legacyRecords_pairwise store sub now
  cases htype : choice.anchorType with
  | native =>
    rw [htype] at hevidence
    refine (hevidence.trans ?_)
    exact (List.filter_eq_self.mpr fun record _ => by
      simp [ReconcileRow.selects, newReconcileRow, htype]).symm
  | userReset | packagePeriod =>
    rw [htype] at hevidence
    have hselects : (newReconcileRow sub plan cycleStart choice rebuilt).selects store.usageId =
        fun record => decide (choice.anchorAt ≤ record.createdAt) := by
      funext record
      simp [ReconcileRow.selects, newReconcileRow, htype]
    rw [hselects, ← OrderBy.dropWhile_eq_filter]
    · simpa only [not_le, ← decide_not] using hevidence.2
    · refine hsorted.imp fun {a b} hlt => ?_
      simp only [decide_eq_true_eq]
      unfold EvidenceLt at hlt
      omega
  | b2Migration =>
    rw [htype] at hevidence
    obtain ⟨hnonneg, hscan⟩ := hevidence
    have hboundary := hboundary htype
    rw [getValuePackageResetReconcileB2EpochBoundary] at hboundary
    split_ifs at hboundary with hzero
    · -- no baseline, and so no boundary: every record is selected
      rw [hzero] at hscan
      obtain ⟨hat, -⟩ := Prod.mk.inj (pure_eq_ok.mp hboundary)
      refine (scanB2Baseline_zero hscan).trans ?_
      exact (List.filter_eq_self.mpr fun record _ => by
        simp [ReconcileRow.selects, newReconcileRow, htype, ← hat]).symm
    · obtain ⟨before, last, hsplit, hat, hid⟩ :=
        scanB2_split (by omega) hboundary hscan
      have hlast : 0 < last.createdAt := hpos last (by simp [hsplit])
      rw [hsplit] at hsorted ⊢
      exact (filter_selects_of_split hsorted htype hlast hat hid).symm

end Evidence

/-! ## Each package is changed by its own row -/

/-- What the store has of one package. -/
structure PackageView where
  subscription : Option UserSubscription
  usage : List ValuePackageUsageRecord
  preConsumes : List SubscriptionPreConsumeRecord

/-- The package with a given id. -/
@[simps]
def ReconcileStore.view (store : ReconcileStore) (id : Int) : PackageView where
  subscription := store.db.subscriptions.get? id
  usage := store.db.usageRecords.rows.filter fun record => record.userSubscriptionId = id
  preConsumes :=
    store.db.preConsumeRecords.rows.filter fun record => record.userSubscriptionId = id

/-- What a row does to its package. -/
@[simps]
def ReconcileRow.applyTo (row : ReconcileRow) (usageId : Int × String → Int) (now : Int)
    (view : PackageView) : PackageView where
  subscription := view.subscription.map row.rebuilt
  usage := view.usage.map (row.moveUsage usageId now)
  preConsumes := view.preConsumes.map
    (row.movePreConsume ((view.usage.filter (row.moves usageId now)).map (·.requestId)))

section Rows

variable {row : ReconcileRow} {now : Int}

@[simp]
lemma ReconcileRow.moveUsage_userSubscriptionId (record : ValuePackageUsageRecord) :
    (row.moveUsage usageId now record).userSubscriptionId = record.userSubscriptionId := by
  unfold moveUsage
  split_ifs <;> rfl

@[simp]
lemma ReconcileRow.movePreConsume_userSubscriptionId (requestIds : List String)
    (record : SubscriptionPreConsumeRecord) :
    (row.movePreConsume requestIds record).userSubscriptionId = record.userSubscriptionId := by
  unfold movePreConsume
  split_ifs <;> rfl

lemma ReconcileRow.moves_iff {record : ValuePackageUsageRecord} :
    row.moves usageId now record = true ↔
      (record.userId = row.userId ∧ record.userSubscriptionId = row.subscriptionId ∧
        record.quotaEpoch = row.oldEpoch ∧ record.createdAt ≤ now) ∧
      row.selects usageId record = true := by
  simp [moves]

lemma ReconcileRow.moveUsage_of_ne {record : ValuePackageUsageRecord}
    (h : record.userSubscriptionId ≠ row.subscriptionId) :
    row.moveUsage usageId now record = record :=
  if_neg fun hmoves => h (moves_iff.mp hmoves).1.2.1

lemma ReconcileRow.movePreConsume_of_ne {requestIds : List String}
    (h : record.userSubscriptionId ≠ row.subscriptionId) :
    row.movePreConsume requestIds record = record :=
  if_neg fun hmoves => h hmoves.2.1

/-- The requests that move are those of the row's own package. -/
lemma ReconcileRow.movedRequests_eq (store : ReconcileStore) :
    row.movedRequests store now =
      ((store.view row.subscriptionId).usage.filter (row.moves store.usageId now)).map
        (·.requestId) := by
  rw [movedRequests, ReconcileStore.view_usage, List.filter_filter]
  congr 1
  refine List.filter_congr fun record _ => ?_
  by_cases hmoves : row.moves store.usageId now record = true
  · simp [hmoves, (moves_iff.mp hmoves).1.2.1]
  · simp [hmoves]

/-- Moving to the new epoch changes the package of the row. -/
lemma view_moveEpoch_self (store : ReconcileStore) :
    (store.moveEpoch row now).view row.subscriptionId =
      { row.applyTo store.usageId now (store.view row.subscriptionId) with
        subscription := (store.view row.subscriptionId).subscription } := by
  simp only [ReconcileStore.view, ReconcileStore.moveEpoch, mapRows, applyTo,
    PackageView.mk.injEq, true_and]
  constructor
  · exact OrderBy.filter_map_update (fun record => by simp) _
  · rw [movedRequests_eq]
    exact OrderBy.filter_map_update (fun record => by simp) _

/-- Moving to the new epoch changes no other package. -/
lemma view_moveEpoch_of_ne (store : ReconcileStore) (hne : id ≠ row.subscriptionId) :
    (store.moveEpoch row now).view id = store.view id := by
  simp only [ReconcileStore.view, ReconcileStore.moveEpoch, mapRows, PackageView.mk.injEq,
    true_and]
  constructor
  · apply OrderBy.filter_map_of_fixed (fun record => by simp)
    intro record hrecord
    apply moveUsage_of_ne
    rwa [of_decide_eq_true hrecord]
  · apply OrderBy.filter_map_of_fixed (fun record => by simp)
    intro record hrecord
    apply movePreConsume_of_ne
    rwa [of_decide_eq_true hrecord]

/-- One row changes its own package only, and neither the ids of the usage records nor the
receipts. -/
lemma applyReconcileRow_view (h : applyReconcileRow store row now = .ok store') :
    store'.usageId = store.usageId ∧ store'.receipts = store.receipts ∧
      store'.view row.subscriptionId =
        row.applyTo store.usageId now (store.view row.subscriptionId) ∧
      ∀ id, id ≠ row.subscriptionId → store'.view id = store.view id := by
  rw [applyReconcileRow] at h
  split at h
  · cases h
  · next sub hfound =>
    obtain ⟨hget, -⟩ := Option.filter_eq_some_iff.mp hfound
    simp only [applyValuePackageResetReconcileEpoch, bind_eq_ok, check_eq_ok,
      pure_eq_ok, exists_const] at h
    obtain ⟨-, -, rfl⟩ := h
    have hid : sub.id = row.subscriptionId := key_of_get? hget
    refine ⟨rfl, rfl, ?_, ?_⟩
    · rw [view_moveEpoch_self]
      have hsub : (store.saveSubscription (row.rebuilt sub)).db.subscriptions.get?
          row.subscriptionId = some (row.rebuilt sub) := by
        rw [← hid]
        exact get?_put_self _ _
      simp only [applyTo, ReconcileStore.view, hsub, hget, Option.map_some]
      rfl
    · intro id hne
      rw [view_moveEpoch_of_ne _ hne]
      have hsub : (store.saveSubscription (row.rebuilt sub)).db.subscriptions.get? id =
          store.db.subscriptions.get? id :=
        get?_put_of_ne _ (by rw [ReconcileRow.rebuilt_id, hid]; exact hne.symm)
      simp only [ReconcileStore.view, hsub]
      rfl

/-- The rows of a report are independent: each package is changed by its own row, and by no
other. -/
theorem applyReconcileRows_view (hnodup : (rows.map (·.subscriptionId)).Nodup)
    (hupdate : ∀ row ∈ rows, row.needsUpdate = true)
    (h : applyReconcileRows now store rows = .ok (updated, store')) :
    store'.usageId = store.usageId ∧ store'.receipts = store.receipts ∧
      (∀ row ∈ rows, store'.view row.subscriptionId =
        row.applyTo store.usageId now (store.view row.subscriptionId)) ∧
      ∀ id, (∀ row ∈ rows, id ≠ row.subscriptionId) → store'.view id = store.view id := by
  induction rows generalizing store updated with
  | nil =>
    obtain ⟨-, rfl⟩ := Prod.mk.inj (pure_eq_ok.mp h)
    exact ⟨rfl, rfl, by simp, fun _ _ => rfl⟩
  | cons head rows ih =>
    rw [List.map_cons, List.nodup_cons] at hnodup
    have hother : ∀ row ∈ rows, row.subscriptionId ≠ head.subscriptionId := by
      intro row hrow heq
      exact hnodup.1 (List.mem_map.mpr ⟨row, hrow, heq⟩)
    simp only [applyReconcileRows, hupdate head List.mem_cons_self, if_true, bind_eq_ok,
      pure_eq_ok, Prod.exists, Prod.mk.injEq] at h
    obtain ⟨mid, hhead, count, final, hrest, -, rfl⟩ := h
    obtain ⟨husageId, hreceipts, hself, hframe⟩ := applyReconcileRow_view hhead
    obtain ⟨husageId', hreceipts', hrows, hframe'⟩ :=
      ih hnodup.2 (fun row hrow => hupdate row (List.mem_cons_of_mem head hrow)) hrest
    refine ⟨husageId'.trans husageId, hreceipts'.trans hreceipts, ?_, ?_⟩
    · intro row hrow
      rcases List.mem_cons.mp hrow with rfl | hrow
      · rw [hframe' _ fun other hmem => (hother other hmem).symm, hself]
      · rw [hrows row hrow, husageId, hframe _ (hother row hrow)]
    · intro id hid
      rw [hframe' id fun row hrow => hid row (List.mem_cons_of_mem head hrow),
        hframe id (hid head List.mem_cons_self)]

end Rows

/-! ## The rebuilt ledger -/

/-- What the reconcile takes for granted: usage records have a time and are not in the new epoch
yet, and the pre-consume record of a request is of the same user, package and epoch as its usage
record. -/
structure LegacySound (store : ReconcileStore) (sub : UserSubscription) : Prop where
  created_pos : ∀ usage ∈ (store.view sub.id).usage, 0 < usage.createdAt
  not_rebuilt : ∀ usage ∈ (store.view sub.id).usage, usage.quotaEpoch ≠ 1
  preConsume : ∀ usage ∈ (store.view sub.id).usage, ∀ record ∈ store.db.preConsumeRecords.rows,
    record.requestId = usage.requestId → record.userId = usage.userId ∧
      record.userSubscriptionId = sub.id ∧ record.quotaEpoch = usage.quotaEpoch

/-- A package after the reconcile, where `evidence` is what the report has found. -/
structure Reconciled (store' : ReconcileStore) (sub : UserSubscription) (plan : SubscriptionPlan)
    (evidence : List ValuePackageUsageRecord) : Prop where
  subscription : ∃ sub', store'.db.subscriptions.get? sub.id = some sub' ∧ sub'.quotaEpoch = 1 ∧
    sub'.amountTotal = plan.totalAmount ∧ sub'.amountUsed ≤ sub'.amountTotal ∧
    Balanced store'.db sub'
  moved : ∀ usage, (usage ∈ store'.db.usageRecords.rows ∧ usage.userSubscriptionId = sub.id ∧
      usage.quotaEpoch = 1) ↔ ∃ old ∈ evidence, usage = { old with quotaEpoch := 1 }
  preConsumes : ∀ old ∈ evidence, ∀ record ∈ store'.db.preConsumeRecords.rows,
    record.requestId = old.requestId → record.quotaEpoch = 1

lemma epochUsage_eq_sum_filter (store : ReconcileStore) (sub : UserSubscription) :
    epochUsage store.db sub = sumValuePackageResetReconcileUsage
      ((store.view sub.id).usage.filter fun usage => usage.quotaEpoch = sub.quotaEpoch) := by
  have hsum := (sum_filter
    (fun usage : ValuePackageUsageRecord =>
      usage.userSubscriptionId = sub.id ∧ usage.quotaEpoch = sub.quotaEpoch)
    (·.quota) store.db.usageRecords.rows).symm
  refine hsum.trans ?_
  rw [sumValuePackageResetReconcileUsage, ReconcileStore.view_usage, List.filter_filter]
  congr 2
  exact List.filter_congr fun usage _ => by simp [Bool.and_comm]

lemma exists_mem_reconcileRows {now : Int} {b2 : B2State} {subs : List UserSubscription}
    (h : reconcileRows store now b2 subs = .ok rows) (hsub : sub ∈ subs)
    {plan : SubscriptionPlan} (hplan : valuePackagePlanOf store.db sub = some plan) :
    ∃ row ∈ rows, reconcileRow store now b2 sub plan = .ok row := by
  induction subs generalizing rows with
  | nil => simp at hsub
  | cons head subs ih =>
    rw [reconcileRows] at h
    rcases List.mem_cons.mp hsub with rfl | hmem
    · simp only [hplan, bind_eq_ok, pure_eq_ok] at h
      obtain ⟨row, hrow, rest, -, rfl⟩ := h
      exact ⟨row, List.mem_cons_self, hrow⟩
    · cases hhead : valuePackagePlanOf store.db head with
      | none =>
        rw [hhead] at h
        exact ih h hmem
      | some other =>
        simp only [hhead, bind_eq_ok, pure_eq_ok] at h
        obtain ⟨first, -, rest, hrest, rfl⟩ := h
        obtain ⟨row, hrow, hmade⟩ := ih hrest hmem
        exact ⟨row, List.mem_cons_of_mem first hrow, hmade⟩

section Rebuilt

variable {now : Int} {b2 : B2State} {plan : SubscriptionPlan} {row : ReconcileRow}

lemma mem_view_usage :
    usage ∈ (store.view id).usage ↔
      usage ∈ store.db.usageRecords.rows ∧ usage.userSubscriptionId = id := by
  simp

lemma mem_view_preConsumes :
    record ∈ (store.view id).preConsumes ↔
      record ∈ store.db.preConsumeRecords.rows ∧ record.userSubscriptionId = id := by
  simp

/-- The evidence behind a row: its sum is the rebuilt amount, and it is what the row moves. -/
structure RowEvidence (store : ReconcileStore) (now : Int) (sub : UserSubscription)
    (row : ReconcileRow) (evidence : List ValuePackageUsageRecord) : Prop where
  subscriptionId : row.subscriptionId = sub.id
  newEpoch : row.newEpoch = 1
  newUsed : row.newUsed = sumValuePackageResetReconcileUsage evidence
  nodup : evidence.Nodup
  mem_iff : ∀ usage, usage ∈ evidence ↔
    usage ∈ (store.view sub.id).usage ∧ row.moves store.usageId now usage = true

lemma reconcileRow_evidence (hsound : LegacySound store sub)
    (h : reconcileRow store now b2 sub plan = .ok row) :
    ∃ evidence, getValuePackageResetReconcileCurrentRecords store sub row.anchorType row.anchorAt
        row.b2BaselineUsed now = .ok evidence ∧ RowEvidence store now sub row evidence := by
  obtain ⟨-, -, -, hepoch, rebuilt, hrebuilt, -, rfl⟩ := reconcileRow_inv h
  obtain ⟨hsum, hevidence, -⟩ := rebuildUsage_inv hrebuilt
  obtain ⟨hlegacy, -⟩ := currentRecords_inv hevidence
  have hpos : ∀ record ∈ legacyRecords store sub now, 0 < record.createdAt := by
    intro record hrecord
    obtain ⟨hmem, -, hid, -⟩ := mem_legacyRecords.mp hrecord
    exact hsound.created_pos record (mem_view_usage.mpr ⟨hmem, hid⟩)
  refine ⟨rebuilt.evidence, hevidence, rfl, rfl, hsum, ?_, ?_⟩
  · rw [evidence_eq_filter plan (reconcileCycleStart b2 sub plan now) hpos hrebuilt]
    have hrows : store.db.usageRecords.rows.Nodup := store.db.usageRecords.nodup.of_map _
    exact (((List.perm_insertionSort _ _).nodup_iff).mpr (hrows.filter _)).filter _
  · intro usage
    rw [evidence_eq_filter plan (reconcileCycleStart b2 sub plan now) hpos hrebuilt,
      List.mem_filter, mem_legacyRecords, mem_view_usage,
      ReconcileRow.moves_iff]
    constructor
    · rintro ⟨⟨hmem, huser, hid, hnow⟩, hselects⟩
      have hold := (hlegacy usage (mem_legacyRecords.mpr ⟨hmem, huser, hid, hnow⟩)).2
      exact ⟨⟨hmem, hid⟩, ⟨huser, hid, hold.trans hepoch.symm, hnow⟩, hselects⟩
    · rintro ⟨⟨hmem, -⟩, ⟨huser, hid, -, hnow⟩, hselects⟩
      exact ⟨⟨hmem, huser, hid, hnow⟩, hselects⟩

lemma moveUsage_quotaEpoch_eq_one (hnew : row.newEpoch = 1) (hold : usage.quotaEpoch ≠ 1) :
    (row.moveUsage store.usageId now usage).quotaEpoch = 1 ↔
      row.moves store.usageId now usage = true := by
  unfold ReconcileRow.moveUsage
  split_ifs with hmoves
  · exact iff_of_true hnew hmoves
  · exact iff_of_false hold hmoves

@[simp]
lemma moveUsage_quota (usageId : Int × String → Int) (usage : ValuePackageUsageRecord) :
    (row.moveUsage usageId now usage).quota = usage.quota := by
  unfold ReconcileRow.moveUsage
  split_ifs <;> rfl

lemma filter_epoch_map_moveUsage (hsound : LegacySound store sub) (hnew : row.newEpoch = 1) :
    ((store.view sub.id).usage.map (row.moveUsage store.usageId now)).filter
        (fun usage => usage.quotaEpoch = 1) =
      ((store.view sub.id).usage.filter (row.moves store.usageId now)).map
        (row.moveUsage store.usageId now) := by
  rw [List.filter_map]
  congr 1
  refine List.filter_congr fun usage husage => ?_
  have hmoved : (row.moveUsage store.usageId now usage).quotaEpoch = 1 ↔
      row.moves store.usageId now usage = true :=
    moveUsage_quotaEpoch_eq_one hnew (hsound.not_rebuilt usage husage)
  simp only [Function.comp_apply]
  rw [Bool.eq_iff_iff, decide_eq_true_eq, hmoved]

section

variable (hevidence : RowEvidence store now sub row evidence) (hsound : LegacySound store sub)
  (hview : store'.view sub.id = row.applyTo store.usageId now (store.view sub.id))

include hevidence hsound hview

/-- The used amount of the package is the sum of its records of the new epoch. -/
lemma RowEvidence.balanced : Balanced store'.db (row.rebuilt sub) := by
  have husage : (store'.view sub.id).usage =
      (store.view sub.id).usage.map (row.moveUsage store.usageId now) := by
    rw [hview, ReconcileRow.applyTo_usage]
  have hperm : evidence.Perm
      ((store.view sub.id).usage.filter (row.moves store.usageId now)) := by
    have hrows : (store.view sub.id).usage.Nodup :=
      (store.db.usageRecords.nodup.of_map _).filter _
    rw [List.perm_ext_iff_of_nodup hevidence.nodup (hrows.filter _)]
    intro usage
    rw [hevidence.mem_iff, List.mem_filter]
  rw [Balanced, epochUsage_eq_sum_filter, ReconcileRow.rebuilt_amountUsed,
    ReconcileRow.rebuilt_quotaEpoch, ReconcileRow.rebuilt_id, hevidence.newEpoch, husage,
    filter_epoch_map_moveUsage hsound hevidence.newEpoch, hevidence.newUsed]
  simp only [sumValuePackageResetReconcileUsage, List.map_map, Function.comp_def, moveUsage_quota]
  exact (hperm.map _).sum_eq

lemma RowEvidence.mem_epoch_iff (usage : ValuePackageUsageRecord) :
    (usage ∈ store'.db.usageRecords.rows ∧ usage.userSubscriptionId = sub.id ∧
        usage.quotaEpoch = 1) ↔ ∃ old ∈ evidence, usage = { old with quotaEpoch := 1 } := by
  have hmoved : ∀ old, row.moves store.usageId now old = true →
      row.moveUsage store.usageId now old = { old with quotaEpoch := 1 } := by
    intro old hmoves
    rw [ReconcileRow.moveUsage, if_pos hmoves, hevidence.newEpoch]
  have hmem : (usage ∈ store'.db.usageRecords.rows ∧ usage.userSubscriptionId = sub.id ∧
      usage.quotaEpoch = 1) ↔
      usage ∈ (store'.view sub.id).usage.filter fun usage => usage.quotaEpoch = 1 := by
    rw [List.mem_filter, mem_view_usage, decide_eq_true_eq, and_assoc]
  rw [hmem, hview, ReconcileRow.applyTo_usage,
    filter_epoch_map_moveUsage hsound hevidence.newEpoch, List.mem_map]
  refine exists_congr fun old => ?_
  rw [List.mem_filter, hevidence.mem_iff]
  refine and_congr_right fun hold => ?_
  rw [hmoved old hold.2]
  exact eq_comm

lemma RowEvidence.preConsume_epoch {old : ValuePackageUsageRecord} (hold : old ∈ evidence)
    (hrecord : record ∈ (store'.view sub.id).preConsumes)
    (hrequest : record.requestId = old.requestId) : record.quotaEpoch = 1 := by
  obtain ⟨husage, hmoves⟩ := (hevidence.mem_iff old).mp hold
  obtain ⟨⟨huser, -, hepoch, -⟩, -⟩ := ReconcileRow.moves_iff.mp hmoves
  rw [hview, ReconcileRow.applyTo_preConsumes] at hrecord
  obtain ⟨before, hbefore, rfl⟩ := List.mem_map.mp hrecord
  rw [movePreConsume_requestId] at hrequest
  obtain ⟨huser', hid', hepoch'⟩ :=
    hsound.preConsume old husage before (mem_view_preConsumes.mp hbefore).1 hrequest
  have hrequests : before.requestId ∈
      ((store.view sub.id).usage.filter (row.moves store.usageId now)).map (·.requestId) :=
    List.mem_map.mpr ⟨old, List.mem_filter.mpr ⟨husage, hmoves⟩, hrequest.symm⟩
  rw [ReconcileRow.movePreConsume, if_pos ⟨huser'.trans huser,
    hid'.trans hevidence.subscriptionId.symm, hepoch'.trans hepoch, hrequests⟩]
  exact hevidence.newEpoch

end

lemma applyReconcileRows_preConsume (hnodup : (rows.map (·.subscriptionId)).Nodup)
    (hupdate : ∀ row ∈ rows, row.needsUpdate = true)
    (h : applyReconcileRows now store rows = .ok (updated, store'))
    (hrecord : record ∈ (store'.view id).preConsumes) :
    ∃ before ∈ (store.view id).preConsumes, before.requestId = record.requestId := by
  obtain ⟨-, -, hrows, hframe⟩ := applyReconcileRows_view hnodup hupdate h
  by_cases hid : ∃ row ∈ rows, id = row.subscriptionId
  · obtain ⟨row, hrow, rfl⟩ := hid
    rw [hrows row hrow, ReconcileRow.applyTo_preConsumes] at hrecord
    obtain ⟨before, hbefore, rfl⟩ := List.mem_map.mp hrecord
    exact ⟨before, hbefore, (row.movePreConsume_requestId _ before).symm⟩
  · rw [hframe id fun row hrow heq => hid ⟨row, hrow, heq⟩] at hrecord
    exact ⟨record, hrecord, rfl⟩

end Rebuilt

/-! ## The reconcile as a whole -/

section Reconcile

variable {env : ReconcileEnv} {now appliedAt : Int} {b2Report : B2Report} {manifestHash : String}
  {report : ReconcileReport}

lemma applyReconcile_inv
    (h : applyValuePackageResetReconcile env store now appliedAt b2Report manifestHash =
      .ok (report, store')) (hnew : report.alreadyApplied = false) :
    ∃ b2 updated mid,
      reconcileRows store now b2 (legacySubscriptions store.db now) = .ok report.rows ∧
      applyReconcileRows now store report.rows = .ok (updated, mid) ∧
      store' = { mid with
        receipts := mid.receipts.put
          ⟨trimSpace manifestHash, b2.manifestHash, appliedAt, updated⟩ } := by
  simp only [applyValuePackageResetReconcile, bind_eq_ok, check_eq_ok,
    exists_const] at h
  obtain ⟨-, -, b2, -, h⟩ := h
  split at h
  · -- a receipt: the report says that it has been applied
    simp only [bind_eq_ok, check_eq_ok, pure_eq_ok, exists_const,
      Prod.mk.injEq] at h
    obtain ⟨-, rfl, -⟩ := h
    simp at hnew
  · simp only [buildValuePackageResetReconcileReport, bind_eq_ok, check_eq_ok,
      pure_eq_ok, exists_const, Prod.exists, Prod.mk.injEq] at h
    obtain ⟨current, ⟨rows, hrows, rfl⟩, -, updated, mid, happly, rfl, rfl⟩ := h
    exact ⟨b2, updated, mid, hrows, happly, rfl⟩

lemma applyReconcile_of_receipt {receipt : ReconcileReceipt}
    (hreceipt : store.receipts.get? (trimSpace manifestHash) = some receipt) :
    commit store
      (applyValuePackageResetReconcile env store now appliedAt b2Report manifestHash) = store := by
  apply commit_induction (fun result => result = store) rfl
  intro report result h
  simp only [applyValuePackageResetReconcile, hreceipt, bind_eq_ok, check_eq_ok,
    pure_eq_ok, exists_const, Prod.mk.injEq] at h
  obtain ⟨-, -, -, -, -, -, rfl⟩ := h
  rfl

/-- A reconcile brings every active value package whose records are sound to epoch 1, with the total
of its plan and the sum of its evidence as its used amount, moves that evidence and its pre-consume
records only, and does nothing when it is repeated. -/
theorem reconcile_rebuilds_ledger
    (h : applyValuePackageResetReconcile env store now appliedAt b2Report manifestHash =
      .ok (report, store')) (hnew : report.alreadyApplied = false)
    (hsound : ∀ sub ∈ legacySubscriptions store.db now,
      (valuePackagePlanOf store.db sub).isSome = true → LegacySound store sub) :
    (∀ sub ∈ legacySubscriptions store.db now, ∀ plan,
      valuePackagePlanOf store.db sub = some plan →
      ∃ row ∈ report.rows, row.subscriptionId = sub.id ∧
        ∃ evidence, getValuePackageResetReconcileCurrentRecords store sub row.anchorType
          row.anchorAt row.b2BaselineUsed now = .ok evidence ∧
          Reconciled store' sub plan evidence) ∧
    ∀ later laterAppliedAt laterReport laterHash,
      trimSpace laterHash = trimSpace manifestHash →
      commit store' (applyValuePackageResetReconcile env store' later laterAppliedAt
        laterReport laterHash) = store' := by
  obtain ⟨b2, updated, mid, hrows, happly, rfl⟩ := applyReconcile_inv h hnew
  constructor
  · intro sub hsub plan hplan
    obtain ⟨row, hrow, hmade⟩ := exists_mem_reconcileRows hrows hsub hplan
    have hlegacy := hsound sub hsub (by rw [hplan]; rfl)
    obtain ⟨evidence, hrecords, hevidence⟩ := reconcileRow_evidence hlegacy hmade
    have hnodup : (report.rows.map (·.subscriptionId)).Nodup :=
      (nodup_legacySubscriptions store.db now).sublist (reconcileRows_sublist hrows)
    have hupdate : ∀ row ∈ report.rows, row.needsUpdate = true := by
      intro row hrow
      obtain ⟨other, -, plan', -, hother⟩ := reconcileRows_inv hrows hrow
      obtain ⟨-, -, -, hepoch, rebuilt, -, -, rfl⟩ := reconcileRow_inv hother
      simp [ReconcileRow.needsUpdate, newReconcileRow, hepoch]
    obtain ⟨-, -, hviews, -⟩ := applyReconcileRows_view hnodup hupdate happly
    have hview := hviews row hrow
    rw [hevidence.subscriptionId] at hview
    refine ⟨row, hrow, hevidence.subscriptionId, evidence, hrecords, ?_⟩
    refine ⟨⟨row.rebuilt sub, ?_, hevidence.newEpoch, ?_, ?_, ?_⟩, ?_, ?_⟩
    · have hget : store.db.subscriptions.get? sub.id = some sub :=
        get?_of_mem (mem_legacySubscriptions.mp hsub).1
      have hwritten := congrArg PackageView.subscription hview
      rwa [ReconcileRow.applyTo_subscription, ReconcileStore.view_subscription,
        ReconcileStore.view_subscription, hget] at hwritten
    · obtain ⟨-, -, -, -, rebuilt, -, -, rfl⟩ := reconcileRow_inv hmade
      rfl
    · obtain ⟨-, -, -, -, rebuilt, -, hle, rfl⟩ := reconcileRow_inv hmade
      exact hle
    · exact hevidence.balanced hlegacy hview
    · exact hevidence.mem_epoch_iff hlegacy hview
    · intro old hold record hrecord hrequest
      -- the record belongs to this package, since it did so before the rows were applied
      have hmem : record ∈ (mid.view record.userSubscriptionId).preConsumes :=
        mem_view_preConsumes.mpr ⟨hrecord, rfl⟩
      obtain ⟨before, hbefore, hsame⟩ :=
        applyReconcileRows_preConsume hnodup hupdate happly hmem
      obtain ⟨hbefore, howner⟩ := mem_view_preConsumes.mp hbefore
      obtain ⟨-, hid, -⟩ := hlegacy.preConsume old ((hevidence.mem_iff old).mp hold).1 before
        hbefore (hsame.trans hrequest)
      rw [← howner, hid] at hmem
      exact hevidence.preConsume_epoch hlegacy hview hold hmem hrequest
  · intro later laterAppliedAt laterReport laterHash hhash
    apply applyReconcile_of_receipt
    rw [hhash]
    exact get?_put_self mid.receipts _

/-! ## Samples -/

/-- A manifest hash. -/
def sampleManifestHash : String := String.ofList (List.replicate 64 'a')

/-- The report of a migration that found `sampleSubscription` with 10 used. -/
def sampleB2Report : B2Report where
  migrationNow := 1500
  rows := [⟨1, 1, .month, 10, 0, 1000, 1010, 10000000⟩]
  manifestHash := String.ofList (List.replicate 64 'b')

/-- `sampleSubscription` after that migration: request `r1` made 10 of its 40, `r2` has used 30
since, and `r3` has come after the time of the reconcile. -/
def migratedStore (createdAt laterEpoch preConsumeEpoch : Int) : ReconcileStore where
  db := { sampleDB with
    subscriptions :=
      Table.empty.put { sampleSubscription with amountTotal := 1010, amountUsed := 40 }
    usageRecords := ⟨[⟨1, 1, "r1", 10, 0, createdAt⟩, ⟨1, 1, "r2", 30, 0, 1600⟩,
      ⟨1, 1, "r3", 5, laterEpoch, 3000⟩], by simp [ValuePackageUsageRecord.key]⟩
    preConsumeRecords := Table.empty.put ⟨"r2", 1, 1, 30, preConsumeEpoch, .consumed, 1600⟩ }
  usageId := fun key => if key.2 = "r1" then 1 else if key.2 = "r2" then 2 else 3
  usageId_lt := by simp [ValuePackageUsageRecord.key]
  b2Receipts := Table.empty.put ⟨sampleB2Report.manifestHash, 1500, 1⟩
  receipts := Table.empty

/-- The reconcile of a migrated package at time 2000. -/
def sampleReconcile (store : ReconcileStore) :
    Except ReconcileError (ReconcileReport × ReconcileStore) :=
  applyValuePackageResetReconcile sampleReconcileEnv store 2000 2000 sampleB2Report
    sampleManifestHash

/-- Only the package of `sampleSubscription` is active. -/
lemma legacySound_migratedStore
    (hsub : sub ∈ legacySubscriptions (migratedStore 1100 0 0).db 2000) :
    LegacySound (migratedStore 1100 0 0) sub := by
  obtain rfl : sub = { sampleSubscription with amountTotal := 1010, amountUsed := 40 } :=
    List.mem_singleton.mp hsub
  exact ⟨by decide, by decide, by decide⟩

/-- The package keeps the 30 of `r2`. -/
theorem reconcile_rebuilds_ledger_sample :
    ∃ report store', sampleReconcile (migratedStore 1100 0 0) = .ok (report, store') ∧
      report.alreadyApplied = false ∧
      (∀ sub ∈ legacySubscriptions (migratedStore 1100 0 0).db 2000, ∀ plan,
        valuePackagePlanOf (migratedStore 1100 0 0).db sub = some plan →
        ∃ row ∈ report.rows, row.subscriptionId = sub.id ∧
          ∃ evidence, getValuePackageResetReconcileCurrentRecords (migratedStore 1100 0 0) sub
            row.anchorType row.anchorAt row.b2BaselineUsed 2000 = .ok evidence ∧
            Reconciled store' sub plan evidence) ∧
      ∀ later laterAppliedAt laterReport laterHash,
        trimSpace laterHash = trimSpace sampleManifestHash →
        commit store' (applyValuePackageResetReconcile sampleReconcileEnv store' later
          laterAppliedAt laterReport laterHash) = store' := by
  obtain ⟨report, store', h, hnew⟩ : ∃ report store',
      sampleReconcile (migratedStore 1100 0 0) = .ok (report, store') ∧
        report.alreadyApplied = false := ⟨_, _, rfl, rfl⟩
  exact ⟨report, store', h, hnew, reconcile_rebuilds_ledger h hnew fun _ hsub _ =>
    legacySound_migratedStore hsub⟩

/-- The used amount of the package after the reconcile, the sum of its records of the epoch, and the
epoch of the pre-consume record of `r2`. -/
def reconciledAmounts (store : ReconcileStore) : Option (Int × Int × Option Int) := do
  let (_, store') ← (sampleReconcile store).toOption
  let sub ← store'.db.subscriptions.get? 1
  pure (sub.amountUsed, epochUsage store'.db sub,
    (store'.db.preConsumeRecords.get? "r2").map (·.quotaEpoch))

/-- The ledger drifts in each case that is not sound. With `r1` at time 0 the boundary at its time
is taken for none, and `r1` is moved as well. With `r3` in the new epoch, it counts. With the
pre-consume record of `r2` in another epoch, it stays there. -/
theorem reconcile_ledger_drifts :
    reconciledAmounts (migratedStore 0 0 0) = some (30, 40, some 1) ∧
      reconciledAmounts (migratedStore 1100 1 0) = some (30, 35, some 1) ∧
      reconciledAmounts (migratedStore 1100 0 7) = some (30, 30, some 7) := by
  decide +kernel

end Reconcile

end Yunbay
