import Yunbay.Data.OrderBy
import Yunbay.Subscription.Admission

/-!
# The management page

`listValuePackageManagementRowsTx` shows a page of value packages with the usage of their windows.
It reads the usage records and the last resets of all packages with one query each and sorts them
out in memory; `getValuePackageWindowUsageDetailsTx` reads those of one package.

`management_details_eq`: both compute the same windows. The queries select different records, but
those that count are the same (`detailsFromRecords_congr`).
-/

namespace Yunbay

/-! ## The page -/

/-- The columns of `users` the page reads. -/
structure ManagementUser where
  id : Int
  username : String
  displayName : String

/-- `ValuePackageManagementFilter.Active`; an unknown text is `active`. -/
inductive ActiveFilter where
  | active
  | expired
  | all

/-- `ValuePackageManagementFilter`. -/
structure ManagementFilter where
  /-- The conditions of `Keyword` on the row of the user, true without a keyword. -/
  matchesUser : ManagementUser → Bool
  /-- `PackageType`, `none` for the empty text and for `all`. -/
  packageType : Option PackageType
  active : ActiveFilter
  page : Int
  pageSize : Int

/-- The page number and the page size, with their defaults. -/
def ManagementFilter.normalized (filter : ManagementFilter) : Nat × Nat :=
  let page := if filter.page ≤ 0 then 1 else filter.page
  let pageSize :=
    if filter.pageSize ≤ 0 then 20 else if 100 < filter.pageSize then 100 else filter.pageSize
  (page.toNat, pageSize.toNat)

/-- The condition of `Active` on a subscription. -/
def ActiveFilter.selects (filter : ActiveFilter) (sub : UserSubscription) (now : Int) : Bool :=
  match filter with
  | .expired => sub.status = .expired ∨ (sub.status = .active ∧ sub.endTime ≤ now)
  | .all => sub.status = .expired ∨ sub.status = .active
  | .active => sub.status = .active ∧ now < sub.endTime

/-- The rows of `buildQuery`: subscriptions joined with their plan and their user. -/
def managementQuery (db : DB) (users : Table Int ManagementUser ManagementUser.id)
    (filter : ManagementFilter) (now : Int) : List UserSubscription :=
  db.subscriptions.rows.filter fun sub =>
    (db.plans.get? sub.planId).any (fun plan =>
      plan.isValuePackage && filter.packageType.all (plan.packageType = ·)) &&
    (users.get? sub.userId).any filter.matchesUser && filter.active.selects sub now

/-- The order of the page: `end_time desc, id desc`. -/
def pageOrder (a b : UserSubscription) : Prop :=
  b.endTime < a.endTime ∨ (b.endTime = a.endTime ∧ b.id ≤ a.id)

instance : DecidableRel pageOrder := fun a b => by
  unfold pageOrder
  infer_instance

/-- The subscriptions of the page. -/
def managementPage (db : DB) (users : Table Int ManagementUser ManagementUser.id)
    (filter : ManagementFilter) (now : Int) : List UserSubscription :=
  let (page, pageSize) := filter.normalized
  (((managementQuery db users filter now).insertionSort pageOrder).drop
    ((page - 1) * pageSize)).take pageSize

/-! ## The queries for the whole page -/

/-- The group of one subscription in the query of the last resets, `0` without one. -/
def pageLastReset (db : DB) (subs : List UserSubscription) (now subId : Int) : Int :=
  ((db.quotaResets.filter fun reset =>
      reset.userSubscriptionId ∈ subs.map (·.id) ∧ reset.resetAt ≤ now ∧
        reset.userSubscriptionId = subId).map (·.resetAt)).max?.getD 0

/-- One round of the loop that finds the earliest start of the page and notes a missing one. -/
def pageBoundStep (now : Int) (acc : Int × Bool) (sub : UserSubscription) : Int × Bool :=
  let anchorStart := valuePackageSubscriptionAnchorStart sub now
  if 0 < anchorStart then
    (if acc.1 = 0 ∨ anchorStart < acc.1 then anchorStart else acc.1, acc.2)
  else (acc.1, true)

/-- The lower bound of the usage query of the page. -/
def pageLowerBound (subs : List UserSubscription) (now : Int) : Int :=
  let (usageLowerBound, hasMissingAnchorStart) := subs.foldl (pageBoundStep now) (0, false)
  let fallback := now - valuePackage7dWindowSeconds
  let usageLowerBound :=
    if hasMissingAnchorStart ∧ (usageLowerBound = 0 ∨ fallback < usageLowerBound) then fallback
    else usageLowerBound
  if usageLowerBound = 0 then fallback else usageLowerBound

/-- The order of the usage query of the page: `user_subscription_id asc, created_at asc, id asc`,
where the table is in order of ids. -/
def usageOrder (a b : ValuePackageUsageRecord) : Prop :=
  a.userSubscriptionId < b.userSubscriptionId ∨
    (a.userSubscriptionId = b.userSubscriptionId ∧ a.createdAt ≤ b.createdAt)

instance : DecidableRel usageOrder := fun a b => by
  unfold usageOrder
  infer_instance

/-- The usage query of the page. -/
def pageUsageRecords (db : DB) (subs : List UserSubscription) (now : Int) :
    List ValuePackageUsageRecord :=
  (db.usageRecords.rows.filter fun record =>
      record.userSubscriptionId ∈ subs.map (·.id) ∧ pageLowerBound subs now ≤ record.createdAt ∧
        record.createdAt ≤ now ∧ 0 < record.quota).insertionSort usageOrder

/-- The entry of one subscription in `usageRecordsBySubID`. -/
def pageRecordsOf (db : DB) (subs : List UserSubscription) (now subId : Int) :
    List ValuePackageUsageRecord :=
  (pageUsageRecords db subs now).filter fun record => record.userSubscriptionId = subId

/-! ## The rows -/

/-- `ValuePackageManagementRow` without the title of the plan. -/
structure ManagementRow where
  userId : Int
  username : String
  displayName : String
  packageType : PackageType
  subscriptionId : Int
  subscriptionStatus : SubscriptionStatus
  startTime : Int
  endTime : Int
  enabled : Bool
  resetCount : Int
  /-- The variable `details` of the loop, from which `usage` is made. -/
  details : ValuePackageWindowUsageDetails
  usage : ValuePackageUsageSummary
  lastResetAt : Int

/-- The row of one subscription of the page; one without a user or a plan is skipped. A user
without a preference has the zero one. -/
def managementRow (db : DB) (users : Table Int ManagementUser ManagementUser.id)
    (subs : List UserSubscription) (now : Int) (sub : UserSubscription) :
    Option ManagementRow := do
  let user ← users.get? sub.userId
  let row ← db.plans.get? sub.planId
  let plan := normalizeValuePackagePlan row
  if plan.isValuePackage then
    let pref := (db.preferences.get? user.id).getD ⟨0, false, 0, 0⟩
    let lastResetAt := pageLastReset db subs now sub.id
    let details := buildValuePackageWindowUsageDetailsFromRecords sub plan
      (pageRecordsOf db subs now sub.id) lastResetAt now
    some {
      userId := user.id, username := user.username, displayName := user.displayName
      packageType := plan.packageType, subscriptionId := sub.id
      subscriptionStatus := sub.status, startTime := sub.startTime, endTime := sub.endTime
      enabled := pref.enabled && pref.activeUserSubscriptionId = sub.id
      resetCount := pref.resetCount, details
      usage := buildValuePackageUsageSummaryFromDetails sub plan details, lastResetAt }
  else none

/-- The clock of a read: the given time, or the database's without one. -/
def clockOr (dbNow now : Int) : Int := if now ≤ 0 then dbNow else now

/-- `listValuePackageManagementRowsTx`: the rows of the page and the number of all rows. -/
def listValuePackageManagementRowsTx (db : DB)
    (users : Table Int ManagementUser ManagementUser.id) (filter : ManagementFilter)
    (dbNow now : Int) : List ManagementRow × Nat :=
  let now := clockOr dbNow now
  let subs := managementPage db users filter now
  (subs.filterMap (managementRow db users subs now), (managementQuery db users filter now).length)

/-! ## Records that count -/

variable {sub : UserSubscription} {now : Int}

theorem detailsFromRecords_congr {plan : SubscriptionPlan}
    {records records' : List ValuePackageUsageRecord} {lastResetAt : Int}
    (h : records.filter (countsAt sub now) = records'.filter (countsAt sub now)) :
    buildValuePackageWindowUsageDetailsFromRecords sub plan records lastResetAt now =
      buildValuePackageWindowUsageDetailsFromRecords sub plan records' lastResetAt now := by
  -- every further test is made on records that count
  have hfilter : ∀ q : ValuePackageUsageRecord → Bool,
      (records.filter fun record => countsAt sub now record && q record) =
        records'.filter fun record => countsAt sub now record && q record := by
    intro q
    have hsplit : ∀ l : List ValuePackageUsageRecord,
        (l.filter fun record => countsAt sub now record && q record) =
          (l.filter (countsAt sub now)).filter q := by
      intro l
      simp only [List.filter_filter, Bool.and_comm]
    rw [hsplit, hsplit, h]
  have h5h : fiveHourRecords sub records lastResetAt now =
      fiveHourRecords sub records' lastResetAt now := hfilter _
  have h7d : ∀ window, sevenDayRecords sub plan window records lastResetAt now =
      sevenDayRecords sub plan window records' lastResetAt now := by
    intro window
    unfold sevenDayRecords
    simp only [Bool.and_assoc]
    exact hfilter _
  unfold buildValuePackageWindowUsageDetailsFromRecords fiveHourDetails
  simp only [h5h, h7d]

/-! ## The page against the single package -/

instance : Std.Total usageOrder where
  total a b := by
    unfold usageOrder
    omega

instance : IsTrans ValuePackageUsageRecord usageOrder where
  trans a b c := by
    unfold usageOrder
    omega

/-- What the rows of the tables keep to, for the subscriptions of a page. -/
structure PageSound (db : DB) (subs : List UserSubscription) : Prop where
  start_pos : ∀ sub ∈ subs, 0 < sub.startTime
  /-- The id of a stored plan is positive. -/
  plan_pos : ∀ sub ∈ subs, 0 < sub.planId
  record_owner : ∀ sub ∈ subs, ∀ record ∈ db.usageRecords.rows,
    record.userSubscriptionId = sub.id → record.userId = sub.userId
  record_started : ∀ sub ∈ subs, ∀ record ∈ db.usageRecords.rows,
    record.userSubscriptionId = sub.id → record.quotaEpoch = sub.quotaEpoch →
      sub.startTime ≤ record.createdAt
  reset_owner : ∀ sub ∈ subs, ∀ reset ∈ db.quotaResets,
    reset.userSubscriptionId = sub.id → reset.userId = sub.userId

variable {subs : List UserSubscription}

/-- The loop for the lower bound keeps a bound of the starts it has seen, and finds none
missing. -/
lemma pageBoundStep_foldl (now : Int) (hstart : ∀ sub ∈ subs, 0 < sub.startTime)
    (acc : Int × Bool) (hacc : 0 ≤ acc.1) :
    (subs.foldl (pageBoundStep now) acc).2 = acc.2 ∧
      0 ≤ (subs.foldl (pageBoundStep now) acc).1 ∧
      (0 < acc.1 → (subs.foldl (pageBoundStep now) acc).1 ≤ acc.1 ∧
        0 < (subs.foldl (pageBoundStep now) acc).1) ∧
      ∀ sub ∈ subs, (subs.foldl (pageBoundStep now) acc).1 ≤ sub.startTime ∧
        0 < (subs.foldl (pageBoundStep now) acc).1 := by
  induction subs generalizing acc with
  | nil => exact ⟨rfl, hacc, fun hpos => ⟨le_rfl, hpos⟩, by simp⟩
  | cons sub subs ih =>
    have hpos := hstart sub List.mem_cons_self
    have hstep : pageBoundStep now acc sub =
        (if acc.1 = 0 ∨ sub.startTime < acc.1 then sub.startTime else acc.1, acc.2) := by
      simp only [pageBoundStep, valuePackageSubscriptionAnchorStart, if_pos hpos]
    have hnext : 0 < (pageBoundStep now acc sub).1 ∧
        (pageBoundStep now acc sub).1 ≤ sub.startTime ∧
        (0 < acc.1 → (pageBoundStep now acc sub).1 ≤ acc.1) := by
      rw [hstep]
      dsimp only
      split_ifs <;> omega
    obtain ⟨hflag, hnonneg, hle, hall⟩ :=
      ih (fun s hs => hstart s (List.mem_cons_of_mem _ hs)) _ hnext.1.le
    obtain ⟨hbound, hbound_pos⟩ := hle hnext.1
    rw [List.foldl_cons]
    refine ⟨?_, hnonneg, fun hacc_pos => ⟨hbound.trans (hnext.2.2 hacc_pos), hbound_pos⟩, ?_⟩
    · rw [hflag, hstep]
    · intro s hs
      rcases List.mem_cons.mp hs with rfl | hs
      · exact ⟨hbound.trans hnext.2.1, hbound_pos⟩
      · exact hall s hs

lemma pageLowerBound_le (now : Int) (hstart : ∀ sub ∈ subs, 0 < sub.startTime)
    (hsub : sub ∈ subs) : pageLowerBound subs now ≤ sub.startTime := by
  obtain ⟨hflag, -, -, hall⟩ := pageBoundStep_foldl now hstart (0, false) le_rfl
  obtain ⟨hle, hpos⟩ := hall sub hsub
  unfold pageLowerBound
  generalize subs.foldl (pageBoundStep now) (0, false) = acc at hflag hle hpos
  obtain ⟨bound, missing⟩ := acc
  dsimp only at hflag hle hpos ⊢
  subst hflag
  simp [hpos.ne', hle]

variable {db : DB}

lemma pageLastReset_eq (hsound : PageSound db subs) (hsub : sub ∈ subs) (now : Int) :
    pageLastReset db subs now sub.id =
      getLastValuePackageQuotaResetAtTx db sub.userId sub.id now := by
  unfold pageLastReset getLastValuePackageQuotaResetAtTx
  congr 3
  refine List.filter_congr fun reset hreset => ?_
  rw [decide_eq_decide]
  have hmem : sub.id ∈ subs.map (·.id) := List.mem_map_of_mem hsub
  constructor
  · rintro ⟨-, hpast, hid⟩
    exact ⟨hsound.reset_owner sub hsub reset hreset hid, hid, hpast⟩
  · rintro ⟨-, hid, hpast⟩
    exact ⟨hid ▸ hmem, hpast, hid⟩

/-- The records of one package, out of the page's query, are in order of creation. -/
lemma pageRecordsOf_eq (db : DB) (subs : List UserSubscription) (now subId : Int) :
    pageRecordsOf db subs now subId =
      (db.usageRecords.rows.filter fun record =>
        decide (record.userSubscriptionId = subId) &&
          decide (record.userSubscriptionId ∈ subs.map (·.id) ∧
            pageLowerBound subs now ≤ record.createdAt ∧ record.createdAt ≤ now ∧
            0 < record.quota)).insertionSort fun a b => a.createdAt ≤ b.createdAt := by
  unfold pageRecordsOf pageUsageRecords
  rw [OrderBy.filter_insertionSort, List.filter_filter]
  refine OrderBy.insertionSort_congr fun a ha b hb => ?_
  simp only [List.mem_filter, Bool.and_eq_true, decide_eq_true_eq] at ha hb
  simp [usageOrder, ha.2.1, hb.2.1]

lemma pageRecordsOf_counted (hsound : PageSound db subs) (hsub : sub ∈ subs) (now : Int) :
    (pageRecordsOf db subs now sub.id).filter (countsAt sub now) =
      (queryUsageRecords db sub.userId sub sub.quotaEpoch now fun record =>
        0 < record.quota).filter (countsAt sub now) := by
  rw [pageRecordsOf_eq]
  unfold queryUsageRecords
  rw [OrderBy.filter_insertionSort, OrderBy.filter_insertionSort, List.filter_filter,
    List.filter_filter]
  congr 1
  refine List.filter_congr fun record hrecord => ?_
  have hbound : usageLowerBound sub now = sub.startTime := by
    have hpos := hsound.start_pos sub hsub
    simp [usageLowerBound, valuePackageSubscriptionAnchorStart, hpos]
  have hlower := pageLowerBound_le now hsound.start_pos hsub
  have hmem : sub.id ∈ subs.map (·.id) := List.mem_map_of_mem hsub
  rw [hbound, Bool.eq_iff_iff]
  simp only [countsAt, Bool.and_eq_true, decide_eq_true_eq]
  constructor
  · rintro ⟨⟨hepoch, hquota, hcreated, hpast⟩, hid, -⟩
    have howner := hsound.record_owner sub hsub record hrecord hid
    have hstarted := hsound.record_started sub hsub record hrecord hid hepoch
    exact ⟨⟨hepoch, hquota, hcreated, hpast⟩, ⟨⟨⟨⟨howner, hid⟩, hepoch⟩, hstarted⟩, hpast⟩, hquota⟩
  · rintro ⟨hcounts, ⟨⟨⟨⟨-, hid⟩, -⟩, hstarted⟩, hpast⟩, hquota⟩
    exact ⟨hcounts, hid, hid ▸ hmem, hlower.trans hstarted, hpast, hquota⟩

variable {users : Table Int ManagementUser ManagementUser.id}

lemma managementRow_eq_some {row : ManagementRow}
    (h : managementRow db users subs now sub = some row) :
    ∃ stored, db.plans.get? sub.planId = some stored ∧ row.userId = sub.userId ∧
      row.subscriptionId = sub.id ∧
      row.details = buildValuePackageWindowUsageDetailsFromRecords sub
        (normalizeValuePackagePlan stored) (pageRecordsOf db subs now sub.id)
        (pageLastReset db subs now sub.id) now ∧
      row.usage = buildValuePackageUsageSummaryFromDetails sub (normalizeValuePackagePlan stored)
        row.details := by
  unfold managementRow at h
  obtain ⟨user, huser, h⟩ := Option.bind_eq_some_iff.mp h
  obtain ⟨stored, hstored, h⟩ := Option.bind_eq_some_iff.mp h
  have hid : user.id = sub.userId := Table.key_of_get? huser
  dsimp only at h
  split_ifs at h
  obtain rfl := Option.some.inj h
  exact ⟨stored, hstored, hid, rfl, rfl, rfl⟩

lemma mem_managementPage {filter : ManagementFilter}
    (h : sub ∈ managementPage db users filter now) : db.subscriptions.get? sub.id = some sub := by
  unfold managementPage at h
  have hsorted := List.mem_of_mem_drop (List.mem_of_mem_take h)
  exact Table.get?_of_mem (List.mem_of_mem_filter ((List.mem_insertionSort _).mp hsorted))

/-- Every row of the page shows the windows that the single package has at the same time, and the
summary that is made of them. -/
theorem management_details_eq {db : DB} {users : Table Int ManagementUser ManagementUser.id}
    {filter : ManagementFilter} {dbNow now : Int}
    (hsound : PageSound db (managementPage db users filter (clockOr dbNow now)))
    {row : ManagementRow}
    (hrow : row ∈ (listValuePackageManagementRowsTx db users filter dbNow now).1) :
    getValuePackageWindowUsageDetailsTx db row.userId row.subscriptionId (clockOr dbNow now) =
        .ok row.details ∧
      ∃ sub plan, db.subscriptions.get? row.subscriptionId = some sub ∧
        getSubscriptionPlanByIdTx db sub.planId = .ok plan ∧
        buildValuePackageUsageSummaryTx db row.userId sub plan (clockOr dbNow now) =
          .ok row.usage := by
  obtain ⟨sub, hsub, hmade⟩ := List.mem_filterMap.mp hrow
  obtain ⟨stored, hstored, huser, hid, hdetails, husage⟩ := managementRow_eq_some hmade
  have hget := mem_managementPage hsub
  have hplan : getSubscriptionPlanByIdTx db sub.planId = .ok (normalizeValuePackagePlan stored) :=
    planById_eq_ok.mpr ⟨hsound.plan_pos sub hsub, stored, hstored, rfl⟩
  -- the records that count and the last reset are the same
  have hsingle : getValuePackageWindowUsageDetailsTx db sub.userId sub.id (clockOr dbNow now) =
      .ok row.details := by
    rw [windowUsageDetails_eq hget rfl hplan, hdetails, pageLastReset_eq hsound hsub]
    congr 1
    exact detailsFromRecords_congr
      (pageRecordsOf_counted hsound hsub _).symm
  rw [huser, hid]
  refine ⟨hsingle, sub, _, hget, hplan, ?_⟩
  rw [husage]
  unfold buildValuePackageUsageSummaryTx
  rw [hsingle]
  rfl

/-- `sampleDB` with a second package of the user, after a request on each. -/
def managedDB : DB :=
  ((sampleDB.saveSubscription { sampleSubscription with id := 5, startTime := 1200 }).saveUsage
    ⟨1, 1, "r1", 10, 0, 1500⟩).saveUsage ⟨1, 5, "r2", 20, 0, 1600⟩

def sampleUsers : Table Int ManagementUser ManagementUser.id :=
  Table.empty.put ⟨1, "alice", "Alice"⟩

def sampleFilter : ManagementFilter := ⟨fun _ => true, none, .active, 1, 20⟩

/-- Both rows of the page at the database's time 2000 show what is shown for their package. -/
theorem management_details_sample :
    let rows := (listValuePackageManagementRowsTx managedDB sampleUsers sampleFilter 2000 0).1
    rows.map (·.subscriptionId) = [5, 1] ∧
      ∀ row ∈ rows, getValuePackageWindowUsageDetailsTx managedDB row.userId row.subscriptionId
        (clockOr 2000 0) = .ok row.details := by
  have hpage : managementPage managedDB sampleUsers sampleFilter (clockOr 2000 0) =
      [{ sampleSubscription with id := 5, startTime := 1200 }, sampleSubscription] := by
    decide +kernel
  have hsound : PageSound managedDB
      (managementPage managedDB sampleUsers sampleFilter (clockOr 2000 0)) := by
    rw [hpage]
    constructor <;> decide
  exact ⟨by decide +kernel, fun row hmem => (management_details_eq hsound hmem).1⟩

end Yunbay
