import Yunbay.Subscription.Ledger
import Yunbay.Subscription.WindowUsage

/-!
# Window limits

Admission at one instant bounds the window usage at every later instant.

* `Within` is the invariant of a run: the records are in order, and what counts of them keeps to
  both limits.
* `SeesAll` says that a clock reading hides no record of the epoch. Every transaction whose
  reading does so keeps `Within`.
-/

namespace Yunbay

open Except Run Table

/-! ## The records of the current epoch -/

/-- A usage record of the package's current epoch. -/
def inEpoch (sub : UserSubscription) (usage : ValuePackageUsageRecord) : Bool :=
  usage.userSubscriptionId = sub.id ∧ usage.quotaEpoch = sub.quotaEpoch

/-- The usage records of the package's current epoch, oldest first. -/
def epochRecords (db : DB) (sub : UserSubscription) : List ValuePackageUsageRecord :=
  db.usageRecords.rows.filter (inEpoch sub)

/-- The latest reset of the package, `0` without one. -/
def lastReset (db : DB) (sub : UserSubscription) : Int :=
  ((db.quotaResets.filter fun reset =>
      reset.userId = sub.userId ∧ reset.userSubscriptionId = sub.id).map (·.resetAt)).max?.getD 0

/-- The records of the current epoch that the windows look at. -/
def countedRecords (db : DB) (sub : UserSubscription) : List ValuePackageUsageRecord :=
  (epochRecords db sub).filter fun usage => lastReset db sub ≤ usage.createdAt

section LastReset

variable {db : DB} {sub : UserSubscription}

lemma le_lastReset {reset : ValuePackageQuotaReset} (hreset : reset ∈ db.quotaResets)
    (huser : reset.userId = sub.userId) (hid : reset.userSubscriptionId = sub.id) :
    reset.resetAt ≤ lastReset db sub := by
  have hmem : reset.resetAt ∈ (db.quotaResets.filter fun reset =>
      reset.userId = sub.userId ∧ reset.userSubscriptionId = sub.id).map (·.resetAt) :=
    List.mem_map_of_mem (List.mem_filter.mpr ⟨hreset, by simp [huser, hid]⟩)
  unfold lastReset
  generalize List.map _ _ = times at hmem ⊢
  cases hmax : times.max? with
  | none => simp [List.max?_eq_none_iff.mp hmax] at hmem
  | some latest => exact (List.max?_eq_some_iff.mp hmax).2 _ hmem

lemma lastReset_le {time : Int} (htime : 0 ≤ time)
    (h : ∀ reset ∈ db.quotaResets, reset.userId = sub.userId →
      reset.userSubscriptionId = sub.id → reset.resetAt ≤ time) : lastReset db sub ≤ time := by
  unfold lastReset
  cases hmax : ((db.quotaResets.filter fun reset =>
      reset.userId = sub.userId ∧ reset.userSubscriptionId = sub.id).map (·.resetAt)).max? with
  | none => exact htime
  | some latest =>
    obtain ⟨reset, hreset, rfl⟩ := List.mem_map.mp (List.max?_eq_some_iff.mp hmax).1
    rw [List.mem_filter, decide_eq_true_eq] at hreset
    exact h reset hreset.1 hreset.2.1 hreset.2.2

/-- Once the latest reset is in the past, it is the one the query finds. -/
lemma lastQuotaResetAt_eq {now : Int} (h : lastReset db sub ≤ now) :
    getLastValuePackageQuotaResetAtTx db sub.userId sub.id now = lastReset db sub := by
  have hfilter : (db.quotaResets.filter fun reset => reset.userId = sub.userId ∧
      reset.userSubscriptionId = sub.id ∧ reset.resetAt ≤ now) =
      db.quotaResets.filter fun reset =>
        reset.userId = sub.userId ∧ reset.userSubscriptionId = sub.id := by
    refine List.filter_congr fun reset hreset => ?_
    rw [Bool.eq_iff_iff, decide_eq_true_eq, decide_eq_true_eq]
    constructor
    · rintro ⟨huser, hid, -⟩
      exact ⟨huser, hid⟩
    · rintro ⟨huser, hid⟩
      exact ⟨huser, hid, (le_lastReset hreset huser hid).trans h⟩
  unfold getLastValuePackageQuotaResetAtTx lastReset
  rw [hfilter]

end LastReset

/-! ## The invariant -/

/-- The window invariant of a package at time `time`. -/
structure Within (db : DB) (sub : UserSubscription) (plan : SubscriptionPlan) (time : Int) :
    Prop where
  stored : db.subscriptions.get? sub.id = some sub
  plan_eq : getSubscriptionPlanByIdTx db sub.planId = .ok plan
  package : plan.isValuePackage = true
  start_pos : 0 < sub.startTime
  start_le : sub.startTime ≤ time
  /-- No usage record belongs to a future epoch. -/
  usage_epoch_le : ∀ usage ∈ db.usageRecords.rows,
    usage.userSubscriptionId = sub.id → usage.quotaEpoch ≤ sub.quotaEpoch
  /-- No pre-consume record belongs to a future epoch. -/
  preConsume_epoch_le : ∀ record ∈ db.preConsumeRecords.rows,
    record.userSubscriptionId = sub.id → record.quotaEpoch ≤ sub.quotaEpoch
  /-- The records of the current epoch are the user's, positive, and created in the lifetime of
  the package. -/
  records : ∀ usage ∈ epochRecords db sub,
    usage.userId = sub.userId ∧ 0 < usage.quota ∧ sub.startTime ≤ usage.createdAt ∧
      usage.createdAt ≤ time
  sorted : (epochRecords db sub).Pairwise fun a b => a.createdAt ≤ b.createdAt
  reset_le : lastReset db sub ≤ time
  limits : Limits plan sub.startTime (countedRecords db sub) time

/-- A clock reading that hides no record: it is within the lifetime of the package, and no record
of the current epoch is later. -/
structure SeesAll (db : DB) (sub : UserSubscription) (now : Int) : Prop where
  start_le : sub.startTime ≤ now
  created_le : ∀ usage ∈ epochRecords db sub, usage.createdAt ≤ now

/-- The same package later in a run: its identity and its start stay. -/
structure SamePackage (sub sub' : UserSubscription) : Prop where
  id_eq : sub'.id = sub.id
  start_eq : sub'.startTime = sub.startTime

lemma SamePackage.refl (sub : UserSubscription) : SamePackage sub sub := ⟨rfl, rfl⟩

lemma SamePackage.trans {sub₁ sub₂ sub₃ : UserSubscription} (h : SamePackage sub₁ sub₂)
    (h' : SamePackage sub₂ sub₃) : SamePackage sub₁ sub₃ :=
  ⟨h'.id_eq.trans h.id_eq, h'.start_eq.trans h.start_eq⟩

namespace Within

variable {db db' : DB} {sub sub' : UserSubscription} {plan : SubscriptionPlan} {time now : Int}

section

variable (h : Within db sub plan time)

include h

lemma countedRecords_pos : ∀ usage ∈ countedRecords db sub, 0 < usage.quota :=
  fun usage husage => (h.records usage (List.mem_of_mem_filter husage)).2.1

lemma mono {later : Int} (hle : time ≤ later) :
    Within db sub plan later where
  stored := h.stored
  plan_eq := h.plan_eq
  package := h.package
  start_pos := h.start_pos
  start_le := h.start_le.trans hle
  usage_epoch_le := h.usage_epoch_le
  preConsume_epoch_le := h.preConsume_epoch_le
  records usage husage := by
    obtain ⟨huser, hpos, hstart, htime⟩ := h.records usage husage
    exact ⟨huser, hpos, hstart, htime.trans hle⟩
  sorted := h.sorted
  reset_le := h.reset_le.trans hle
  limits := h.limits.mono h.countedRecords_pos hle

lemma seesAll (hle : time ≤ now) : SeesAll db sub now where
  start_le := h.start_le.trans hle
  created_le usage husage := (h.records usage husage).2.2.2.trans hle

lemma epochRecords_eq_nil (hid : sub'.id = sub.id) (hlt : sub.quotaEpoch < sub'.quotaEpoch)
    (husage : db'.usageRecords = db.usageRecords) : epochRecords db' sub' = [] := by
  unfold epochRecords
  rw [husage, List.filter_eq_nil_iff]
  intro usage hmem hin
  simp only [inEpoch, decide_eq_true_eq, hid] at hin
  have hle := h.usage_epoch_le usage hmem hin.1
  omega

lemma newEpoch (hid : sub'.id = sub.id) (hplan : sub'.planId = sub.planId)
    (hstart : sub'.startTime = sub.startTime) (hlt : sub.quotaEpoch < sub'.quotaEpoch)
    (hplans : db'.plans = db.plans) (husage : db'.usageRecords = db.usageRecords)
    (hpre : db'.preConsumeRecords = db.preConsumeRecords)
    (hstored : db'.subscriptions.get? sub'.id = some sub') (hreset : lastReset db' sub' ≤ time) :
    Within db' sub' plan time := by
  have hnil := h.epochRecords_eq_nil hid hlt husage
  refine ⟨hstored, ?_, h.package, hstart ▸ h.start_pos, hstart ▸ h.start_le, ?_, ?_, ?_, ?_, hreset,
    ?_⟩
  · rw [hplan, planById_congr hplans]
    exact h.plan_eq
  · rw [husage, hid]
    intro usage hmem howner
    exact (h.usage_epoch_le usage hmem howner).trans hlt.le
  · rw [hpre, hid]
    intro record hmem howner
    exact (h.preConsume_epoch_le record hmem howner).trans hlt.le
  · rw [hnil]
    nofun
  · rw [hnil]
    exact List.Pairwise.nil
  · unfold countedRecords
    rw [hnil, List.filter_nil]
    exact Limits.nil _ _ _

/-- Nothing the invariant looks at has changed. -/
lemma congr (hid : sub'.id = sub.id) (huser : sub'.userId = sub.userId)
    (hplan : sub'.planId = sub.planId) (hstart : sub'.startTime = sub.startTime)
    (hepoch : sub'.quotaEpoch = sub.quotaEpoch) (hplans : db'.plans = db.plans)
    (hrecords : epochRecords db' sub = epochRecords db sub)
    (hresets : lastReset db' sub = lastReset db sub)
    (husage : ∀ usage ∈ db'.usageRecords.rows, usage.userSubscriptionId = sub.id →
      usage.quotaEpoch ≤ sub.quotaEpoch)
    (hpre : ∀ record ∈ db'.preConsumeRecords.rows, record.userSubscriptionId = sub.id →
      record.quotaEpoch ≤ sub.quotaEpoch) (hstored : db'.subscriptions.get? sub'.id = some sub') :
    Within db' sub' plan time := by
  have hrecords' : epochRecords db' sub' = epochRecords db sub := by
    rw [← hrecords]
    unfold epochRecords inEpoch
    rw [hid, hepoch]
  have hresets' : lastReset db' sub' = lastReset db sub := by
    rw [← hresets]
    unfold lastReset
    rw [huser, hid]
  refine ⟨hstored, ?_, h.package, hstart ▸ h.start_pos, hstart ▸ h.start_le, ?_, ?_, ?_, ?_, ?_, ?_⟩
  · rw [hplan, planById_congr hplans]
    exact h.plan_eq
  · rwa [hid, hepoch]
  · rwa [hid, hepoch]
  · rw [hrecords', huser, hstart]
    exact h.records
  · rw [hrecords']
    exact h.sorted
  · rw [hresets']
    exact h.reset_le
  · unfold countedRecords
    rw [hrecords', hresets', hstart]
    exact h.limits

end

/-! ### What a transaction sees -/

section

variable (h : Within db sub plan time) (hsees : SeesAll db sub now)

include h hsees

lemma allCount : AllCount sub (epochRecords db sub) now := by
  intro usage husage
  have hin := (List.mem_filter.mp husage).2
  simp only [inEpoch, decide_eq_true_eq] at hin
  obtain ⟨-, hpos, hstart, -⟩ := h.records usage husage
  exact ⟨hin.2, hpos, h.start_pos.trans_le hstart, hsees.created_le usage husage⟩

lemma queryUsageRecords_eq {p : ValuePackageUsageRecord → Bool}
    (hp : ∀ usage, 0 < usage.quota → p usage = true) :
    queryUsageRecords db sub.userId sub sub.quotaEpoch now p = epochRecords db sub := by
  have hlower : usageLowerBound sub now = sub.startTime := by
    have hanchor : valuePackageSubscriptionAnchorStart sub now = sub.startTime :=
      if_pos h.start_pos
    unfold usageLowerBound
    rw [hanchor]
    exact if_neg (not_le.mpr h.start_pos)
  have hfilter : (db.usageRecords.rows.filter fun usage =>
      usage.userId = sub.userId && usage.userSubscriptionId = sub.id &&
        usage.quotaEpoch = sub.quotaEpoch && usageLowerBound sub now ≤ usage.createdAt &&
        usage.createdAt ≤ now && p usage) = epochRecords db sub := by
    refine List.filter_congr fun usage hmem => ?_
    rw [Bool.eq_iff_iff, hlower]
    constructor
    · intro hall
      simp only [Bool.and_eq_true, decide_eq_true_eq] at hall
      simp [inEpoch, hall.1.1.1.1.2, hall.1.1.1.2]
    · intro hin
      have husage : usage ∈ epochRecords db sub := List.mem_filter.mpr ⟨hmem, hin⟩
      obtain ⟨huser, hpos, hstart, -⟩ := h.records usage husage
      simp only [inEpoch, decide_eq_true_eq] at hin
      simp [huser, hin.1, hin.2, hstart, hsees.created_le usage husage, hp usage hpos]
  unfold queryUsageRecords
  rw [hfilter]
  exact h.sorted.insertionSort_eq

section

variable (hreset : lastReset db sub ≤ now)

include hreset

lemma used5h_eq :
    (buildValuePackageWindowUsageDetailsFromRecords sub plan (epochRecords db sub)
      (lastReset db sub) now).used5h = used5hAt (countedRecords db sub) now :=
  details_used5h (h.start_pos.trans_le hsees.start_le) hreset h.sorted (h.allCount hsees)

lemma used7d_eq (hplan : valuePackageHas7dWindow plan = true) :
    (buildValuePackageWindowUsageDetailsFromRecords sub plan (epochRecords db sub)
        (lastReset db sub) now).used7d ≤ weekUsage sub.startTime (countedRecords db sub) now ∧
      (now < sub.endTime →
        (buildValuePackageWindowUsageDetailsFromRecords sub plan (epochRecords db sub)
          (lastReset db sub) now).used7d = weekUsage sub.startTime (countedRecords db sub) now) :=
  details_used7d hplan h.start_pos hsees.start_le hreset (h.allCount hsees)

lemma getDetails_eq :
    getValuePackageWindowUsageDetailsTx db sub.userId sub.id now =
      .ok (buildValuePackageWindowUsageDetailsFromRecords sub plan (epochRecords db sub)
        (lastReset db sub) now) := by
  unfold getValuePackageWindowUsageDetailsTx
  rw [h.stored]
  simp only [check, if_true]
  rw [h.plan_eq, lastQuotaResetAt_eq hreset]
  have hquery := h.queryUsageRecords_eq hsees (p := fun usage => 0 < usage.quota) (by simp)
  simp only [hquery]
  rfl

end

end

end Within

/-! ## What one write keeps -/

/-- The usage of one request set to `quota`, as the reserve transaction does it in memory. -/
def setQuota (requestId : String) (quota : Int) (usage : ValuePackageUsageRecord) :
    ValuePackageUsageRecord :=
  if usage.requestId = requestId then { usage with quota := quota } else usage

section

variable (requestId : String) (quota : Int) (usage : ValuePackageUsageRecord)

@[simp]
lemma setQuota_createdAt : (setQuota requestId quota usage).createdAt = usage.createdAt := by
  unfold setQuota
  split_ifs <;> rfl

@[simp]
lemma setQuota_quotaEpoch : (setQuota requestId quota usage).quotaEpoch = usage.quotaEpoch := by
  unfold setQuota
  split_ifs <;> rfl

@[simp]
lemma setQuota_userId : (setQuota requestId quota usage).userId = usage.userId := by
  unfold setQuota
  split_ifs <;> rfl

end

variable {quota : Int} {usage : ValuePackageUsageRecord}

lemma setQuota_quota_pos {requestId : String} (hquota : 0 < quota) (husage : 0 < usage.quota) :
    0 < (setQuota requestId quota usage).quota := by
  unfold setQuota
  split_ifs
  · exact hquota
  · exact husage

lemma filter_map_setQuota (requestId : String) (quota time : Int)
    (records : List ValuePackageUsageRecord) :
    (records.map (setQuota requestId quota)).filter (fun usage => time ≤ usage.createdAt) =
      (records.filter fun usage => time ≤ usage.createdAt).map (setQuota requestId quota) := by
  rw [List.filter_map]
  congr 1
  refine List.filter_congr fun usage _ => ?_
  rw [Function.comp_apply, setQuota_createdAt]

lemma sum_extra_le {records : List ValuePackageUsageRecord} (requestId : String)
    (hquota : 0 ≤ quota) (hnodup : (records.map (·.requestId)).Nodup) :
    (records.map fun usage => if usage.requestId = requestId then quota else 0).sum ≤ quota := by
  induction records with
  | nil => simpa using hquota
  | cons usage records ih =>
    rw [List.map_cons, List.nodup_cons] at hnodup
    rw [List.map_cons, List.sum_cons]
    by_cases hid : usage.requestId = requestId
    · -- no other record is of this request
      have hrest :
          (records.map fun u => if u.requestId = requestId then quota else 0).sum = 0 := by
        refine List.sum_eq_zero fun x hx => ?_
        obtain ⟨other, hother, rfl⟩ := List.mem_map.mp hx
        refine if_neg fun heq => hnodup.1 ?_
        rw [hid, ← heq]
        exact List.mem_map_of_mem hother
      rw [if_pos hid, hrest, add_zero]
    · rw [if_neg hid, zero_add]
      exact ih hnodup.2

lemma nodup_requestId (db : DB) (sub : UserSubscription) :
    ((countedRecords db sub).map (·.requestId)).Nodup := by
  have hsub : List.Sublist (countedRecords db sub) db.usageRecords.rows :=
    List.filter_sublist.trans List.filter_sublist
  have hkeys := db.usageRecords.nodup.sublist (hsub.map ValuePackageUsageRecord.key)
  have hkey : (countedRecords db sub).map ValuePackageUsageRecord.key =
      ((countedRecords db sub).map (·.requestId)).map (Prod.mk sub.id) := by
    rw [List.map_map]
    refine List.map_congr_left fun usage husage => ?_
    have hin := (List.mem_filter.mp (List.mem_of_mem_filter husage)).2
    simp only [inEpoch, decide_eq_true_eq] at hin
    simp [ValuePackageUsageRecord.key, hin.1]
  rw [hkey] at hkeys
  exact hkeys.of_map

namespace Within

variable {db db' : DB} {sub sub' : UserSubscription} {plan : SubscriptionPlan} {time now : Int}
  {requestId : String}

section

variable (h : Within db sub plan time)
  (hepoch : usage.userSubscriptionId = sub.id → usage.quotaEpoch ≤ sub.quotaEpoch)

include h hepoch

lemma saveUsage
    (hrecords : ∀ row ∈ epochRecords (db.saveUsage usage) sub,
      row.userId = sub.userId ∧ 0 < row.quota ∧ sub.startTime ≤ row.createdAt ∧
        row.createdAt ≤ time)
    (hsorted : (epochRecords (db.saveUsage usage) sub).Pairwise
      fun a b => a.createdAt ≤ b.createdAt)
    (hlimits : Limits plan sub.startTime (countedRecords (db.saveUsage usage) sub) time) :
    Within (db.saveUsage usage) sub plan time where
  stored := h.stored
  plan_eq := h.plan_eq
  package := h.package
  start_pos := h.start_pos
  start_le := h.start_le
  usage_epoch_le := forall_mem_put hepoch h.usage_epoch_le
  preConsume_epoch_le := h.preConsume_epoch_le
  records := hrecords
  sorted := hsorted
  reset_le := h.reset_le
  limits := hlimits

lemma saveUsage_stale (hnew : inEpoch sub usage = false)
    (hold : ∀ old, db.usageRecords.get? usage.key = some old → inEpoch sub old = false) :
    Within (db.saveUsage usage) sub plan time := by
  have hsame : epochRecords (db.saveUsage usage) sub = epochRecords db sub :=
    filter_put_of_not hnew hold
  have hcounted : countedRecords (db.saveUsage usage) sub = countedRecords db sub := by
    unfold countedRecords
    rw [hsame]
    rfl
  refine h.saveUsage hepoch ?_ ?_ ?_
  · rw [hsame]
    exact h.records
  · rw [hsame]
    exact h.sorted
  · rw [hcounted]
    exact h.limits

end

/-- A new record of the current epoch that fits in both windows. -/
lemma saveUsage_append (h : Within db sub plan time) (hsees : SeesAll db sub usage.createdAt)
    (hnone : db.usageRecords.get? usage.key = none) (hin : inEpoch sub usage = true)
    (huser : usage.userId = sub.userId) (hpos : 0 < usage.quota) (htime : usage.createdAt ≤ time)
    (hadmitted : lastReset db sub ≤ usage.createdAt →
      Limits plan sub.startTime (countedRecords db sub ++ [usage]) usage.createdAt) :
    Within (db.saveUsage usage) sub plan time := by
  have happend : epochRecords (db.saveUsage usage) sub = epochRecords db sub ++ [usage] := by
    unfold epochRecords
    rw [DB.saveUsage_usageRecords, filter_put_of_none hnone, if_pos hin]
  have hepoch : usage.quotaEpoch = sub.quotaEpoch := by
    simp only [inEpoch, decide_eq_true_eq] at hin
    exact hin.2
  have hrecords : ∀ row ∈ epochRecords db sub ++ [usage],
      row.userId = sub.userId ∧ 0 < row.quota ∧ sub.startTime ≤ row.createdAt ∧
        row.createdAt ≤ time := by
    rw [List.forall_mem_append, List.forall_mem_singleton]
    exact ⟨h.records, huser, hpos, hsees.start_le, htime⟩
  refine h.saveUsage (fun _ => hepoch.le) ?_ ?_ ?_
  · rwa [happend]
  · rw [happend, List.pairwise_append]
    refine ⟨h.sorted, List.pairwise_singleton _ _, ?_⟩
    intro row hrow last hlast
    rw [List.mem_singleton] at hlast
    rw [hlast]
    exact hsees.created_le row hrow
  · have hcounted : countedRecords (db.saveUsage usage) sub =
        countedRecords db sub ++ if lastReset db sub ≤ usage.createdAt then [usage] else [] := by
      have hreset : lastReset (db.saveUsage usage) sub = lastReset db sub := rfl
      unfold countedRecords
      rw [happend, hreset, List.filter_append]
      by_cases hle : lastReset db sub ≤ usage.createdAt <;> simp [hle]
    rw [hcounted]
    by_cases hle : lastReset db sub ≤ usage.createdAt
    · rw [if_pos hle]
      refine (hadmitted hle).mono ?_ htime
      rw [List.forall_mem_append, List.forall_mem_singleton]
      exact ⟨h.countedRecords_pos, hpos⟩
    · -- a record from before the last reset does not count
      rw [if_neg hle, List.append_nil]
      exact h.limits

variable {old : ValuePackageUsageRecord}

section

variable (h : Within db sub plan time)

include h

lemma epochRecords_upsert (quota epoch now : Int)
    (hold : db.usageRecords.get? (sub.id, requestId) = some old)
    (hcurrent : old.quotaEpoch = sub.quotaEpoch) :
    epochRecords (db.saveUsage (upsertedUsage db
        (newUsageRecord sub requestId sub.userId quota epoch now))) sub =
      (epochRecords db sub).map (setQuota requestId quota) := by
  have hkey : old.key = (sub.id, requestId) := key_of_get? hold
  have howner : old.userSubscriptionId = sub.id := congrArg Prod.fst hkey
  have hid : old.requestId = requestId := congrArg Prod.snd hkey
  have hin : inEpoch sub old = true := by simp [inEpoch, howner, hcurrent]
  have huser := (h.records old (List.mem_filter.mpr ⟨mem_of_get? hold, hin⟩)).1
  have hrow : upsertedUsage db (newUsageRecord sub requestId sub.userId quota epoch now) =
      setQuota requestId quota old := by
    rw [upsertedUsage_of_some hold, setQuota, if_pos hid, newUsageRecord_userId, ← huser,
      newUsageRecord_quota]
  have hsetKey : (setQuota requestId quota old).key = (sub.id, requestId) := by
    rw [← hrow, upsertedUsage_key]
    rfl
  have hget : db.usageRecords.get? (setQuota requestId quota old).key = some old := by
    rw [hsetKey]
    exact hold
  have hsame : inEpoch sub (setQuota requestId quota old) = inEpoch sub old := by
    rw [setQuota, if_pos hid]
    rfl
  rw [hrow]
  unfold epochRecords
  rw [DB.saveUsage_usageRecords, filter_put_of_some hget hsame]
  refine List.map_congr_left fun row hmem => ?_
  rw [List.mem_filter, inEpoch, decide_eq_true_eq] at hmem
  -- among the records of the package, the key is the request
  by_cases hreq : row.requestId = requestId
  · have hrowKey : row.key = (sub.id, requestId) := Prod.ext hmem.2.1 hreq
    have heq : row = old := by
      have := get?_of_mem hmem.1
      rw [hrowKey, hold] at this
      exact (Option.some.inj this).symm
    rw [heq, if_pos (hkey.trans hsetKey.symm)]
  · rw [if_neg fun hk => hreq (congrArg Prod.snd (hk.trans hsetKey)), setQuota, if_neg hreq]

lemma saveUsage_replace (epoch now : Int)
    (hold : db.usageRecords.get? (sub.id, requestId) = some old)
    (hcurrent : old.quotaEpoch = sub.quotaEpoch) (hpos : 0 < quota)
    (hlimits : Limits plan sub.startTime
      ((countedRecords db sub).map (setQuota requestId quota)) time) :
    Within (db.saveUsage (upsertedUsage db
      (newUsageRecord sub requestId sub.userId quota epoch now))) sub plan time := by
  have hmap := h.epochRecords_upsert quota epoch now hold hcurrent
  have hepoch : (upsertedUsage db
      (newUsageRecord sub requestId sub.userId quota epoch now)).quotaEpoch = sub.quotaEpoch := by
    rw [upsertedUsage_of_some hold]
    exact hcurrent
  refine h.saveUsage (fun _ => hepoch.le) ?_ ?_ ?_
  · rw [hmap]
    intro row hrow
    obtain ⟨row, hmem, rfl⟩ := List.mem_map.mp hrow
    obtain ⟨huser, hquota, hstart, htime⟩ := h.records row hmem
    rw [setQuota_userId, setQuota_createdAt]
    exact ⟨huser, setQuota_quota_pos hpos hquota, hstart, htime⟩
  · rw [hmap, List.pairwise_map]
    simpa using h.sorted
  · have hreset (usage : ValuePackageUsageRecord) :
        lastReset (db.saveUsage usage) sub = lastReset db sub := rfl
    unfold countedRecords
    rw [hmap, hreset, filter_map_setQuota]
    exact hlimits

/-- The upsert of a request's usage. A new record of the current epoch must fit in both windows at
the clock reading, one that is overwritten must leave the counted records within the limits, and
records of older epochs are free. -/
lemma upsert (hsees : SeesAll db sub now) (htime : now ≤ time) {epoch : Int} (hpos : 0 < quota)
    (hepoch : epoch ≤ sub.quotaEpoch)
    (hnew : db.usageRecords.get? (sub.id, requestId) = none → epoch = sub.quotaEpoch →
      lastReset db sub ≤ now → Limits plan sub.startTime (countedRecords db sub ++
        [newUsageRecord sub requestId sub.userId quota epoch now]) now)
    (hover : ∀ old, db.usageRecords.get? (sub.id, requestId) = some old →
      old.quotaEpoch = sub.quotaEpoch → Limits plan sub.startTime
        ((countedRecords db sub).map (setQuota requestId quota)) time) :
    Within (db.saveUsage (upsertedUsage db
      (newUsageRecord sub requestId sub.userId quota epoch now))) sub plan time := by
  cases hget : db.usageRecords.get? (sub.id, requestId) with
  | none =>
    rw [upsertedUsage_of_none hget]
    by_cases hcurrent : epoch = sub.quotaEpoch
    · refine h.saveUsage_append hsees hget ?_ rfl hpos htime (hnew hget hcurrent)
      simp [inEpoch, hcurrent]
    · refine h.saveUsage_stale (fun _ => hepoch) ?_ ?_
      · simp [inEpoch, hcurrent]
      · intro old hold
        cases hget.symm.trans hold
  | some old =>
    by_cases hcurrent : old.quotaEpoch = sub.quotaEpoch
    · exact h.saveUsage_replace epoch now hget hcurrent hpos (hover old hget hcurrent)
    · have howner : old.userSubscriptionId = sub.id := congrArg Prod.fst (key_of_get? hget)
      -- the upsert keeps the epoch of the record it overwrites
      refine h.saveUsage_stale ?_ ?_ ?_
      · rw [upsertedUsage_of_some hget]
        exact h.usage_epoch_le old (mem_of_get? hget)
      · rw [upsertedUsage_of_some hget]
        simp [inEpoch, hcurrent]
      · intro row hrow
        rw [upsertedUsage_key] at hrow
        cases hget.symm.trans hrow
        simp [inEpoch, hcurrent]

/-- The total of the package does not matter. -/
lemma charge (used : Int) :
    Within (db.saveSubscription { sub with amountUsed := used }) { sub with amountUsed := used }
      plan time :=
  h.congr rfl rfl rfl rfl rfl rfl rfl rfl h.usage_epoch_le h.preConsume_epoch_le
    (get?_put_self _ _)

/-- Another subscription's row does not matter. -/
lemma saveSubscription_other (other : UserSubscription) (hne : other.id ≠ sub.id) :
    Within (db.saveSubscription other) sub plan time :=
  h.congr rfl rfl rfl rfl rfl rfl rfl rfl h.usage_epoch_le h.preConsume_epoch_le
    ((get?_put_of_ne _ hne).trans h.stored)

/-- Another subscription's usage record does not matter. -/
lemma saveUsage_other (hne : usage.userSubscriptionId ≠ sub.id) :
    Within (db.saveUsage usage) sub plan time := by
  refine h.saveUsage_stale (fun howner => absurd howner hne) ?_ ?_
  · simp [inEpoch, hne]
  · intro old hold
    have hkey : old.key = usage.key := key_of_get? hold
    have howner : old.userSubscriptionId = usage.userSubscriptionId := congrArg Prod.fst hkey
    simp [inEpoch, howner, hne]

lemma savePreConsume (record : SubscriptionPreConsumeRecord)
    (hepoch : record.userSubscriptionId = sub.id → record.quotaEpoch ≤ sub.quotaEpoch) :
    Within (db.savePreConsume record) sub plan time := by
  refine h.congr rfl rfl rfl rfl rfl rfl rfl rfl h.usage_epoch_le ?_ h.stored
  exact forall_mem_put hepoch h.preConsume_epoch_le

lemma createQuotaReset_other (reset : ValuePackageQuotaReset)
    (hne : reset.userSubscriptionId ≠ sub.id) :
    Within (db.createQuotaReset reset) sub plan time := by
  have hreset : lastReset (db.createQuotaReset reset) sub = lastReset db sub := by
    unfold lastReset
    rw [DB.createQuotaReset_quotaResets, List.filter_append]
    simp [hne]
  exact h.congr rfl rfl rfl rfl rfl rfl rfl hreset h.usage_epoch_le h.preConsume_epoch_le h.stored

end

/-! ### What one transaction keeps -/

section

variable (h : Within db sub plan time)

include h

lemma reset {reset : ValuePackageQuotaReset} (hid : sub'.id = sub.id)
    (huser : sub'.userId = sub.userId) (hplan : sub'.planId = sub.planId)
    (hstart : sub'.startTime = sub.startTime) (hlt : sub.quotaEpoch < sub'.quotaEpoch)
    (hplans : db'.plans = db.plans) (husage : db'.usageRecords = db.usageRecords)
    (hpre : db'.preConsumeRecords = db.preConsumeRecords)
    (hsubs : db'.subscriptions = db.subscriptions.put sub')
    (hresets : db'.quotaResets = db.quotaResets ++ [reset]) (hreset : reset.resetAt ≤ time) :
    Within db' sub' plan time := by
  refine h.newEpoch hid hplan hstart hlt hplans husage hpre ?_ ?_
  · rw [hsubs]
    exact get?_put_self _ _
  · refine lastReset_le (h.start_pos.le.trans h.start_le) ?_
    intro row hrow hrowUser hrowId
    rw [hresets, List.mem_append, List.mem_singleton] at hrow
    rcases hrow with hrow | rfl
    · exact (le_lastReset hrow (hrowUser.trans huser) (hrowId.trans hid)).trans h.reset_le
    · exact hreset

lemma advance (htime : now ≤ time)
    (hadvance : maybeAdvanceValuePackageCycleTx db sub plan now = .ok (sub', db')) :
    SamePackage sub sub' ∧ Within db' sub' plan time ∧
      (SeesAll db sub now → SeesAll db' sub' now) := by
  obtain ⟨-, rfl, rfl⟩ | ⟨hdue, -, rfl, rfl⟩ := maybeAdvance_eq_ok.mp hadvance
  · exact ⟨SamePackage.refl sub', h, id⟩
  · have hlt : sub.quotaEpoch < (nextCycle sub plan now).quotaEpoch := Int.lt_succ _
    have hnil : epochRecords ((db.createQuotaReset (cycleReset sub plan now)).saveSubscription
        (nextCycle sub plan now)) (nextCycle sub plan now) = [] :=
      h.epochRecords_eq_nil rfl hlt rfl
    refine ⟨⟨rfl, rfl⟩, h.reset rfl rfl rfl rfl hlt rfl rfl rfl rfl rfl
      ((cycleStartAt_le hdue).trans htime), fun hsees => ⟨hsees.start_le, ?_⟩⟩
    rw [hnil]
    nofun

lemma advance_other {other other' : UserSubscription} {otherPlan : SubscriptionPlan}
    (hne : other.id ≠ sub.id)
    (hadvance : maybeAdvanceValuePackageCycleTx db other otherPlan now = .ok (other', db')) :
    Within db' sub plan time := by
  obtain ⟨-, -, rfl⟩ | ⟨-, -, -, rfl⟩ := maybeAdvance_eq_ok.mp hadvance
  · exact h
  · have hcreated := h.createQuotaReset_other (cycleReset other otherPlan now) hne
    exact hcreated.saveSubscription_other (nextCycle other otherPlan now) hne

/-- The row stored under the package's id is the package. -/
lemma eq_of_get? {id : Int} {row : UserSubscription} (hid : id = sub.id)
    (hget : db.subscriptions.get? id = some row) : sub = row := by
  rw [hid, h.stored] at hget
  exact Option.some.inj hget

end

variable {plan' : SubscriptionPlan}

lemma eq_of_plan (h : Within db sub plan time)
    (hplan : getSubscriptionPlanByIdTx db sub.planId = .ok plan') : plan = plan' := by
  rw [h.plan_eq] at hplan
  exact Except.ok.inj hplan

variable {userId sid : Int}

/-- Opening the package renews it at most; opening another one leaves it alone. -/
lemma openTx (h : Within db sub plan time) (htime : now ≤ time) {opened : UserSubscription}
    (hopen : openValuePackageTx db userId sid now = .ok (opened, plan', db')) :
    (sid = sub.id ∧ SamePackage sub opened ∧ opened.userId = userId ∧ now < opened.endTime ∧
        plan = plan' ∧ Within db' opened plan time ∧
        (SeesAll db sub now → SeesAll db' opened now)) ∨
      (sid ≠ sub.id ∧ opened.id = sid ∧ Within db' sub plan time) := by
  obtain ⟨row, hget, huser, -, hend, hplan, -, hadvance⟩ := openValuePackageTx_ok hopen
  have hid : row.id = sid := key_of_get? hget
  have hkey : opened.id = sid := key_of_get? (openValuePackageTx_frame hopen).2.2.2
  by_cases hown : sid = sub.id
  · obtain rfl := h.eq_of_get? hown hget
    obtain rfl := h.eq_of_plan hplan
    obtain ⟨hsame, hwithin, hsees⟩ := h.advance htime hadvance
    refine .inl ⟨hown, hsame, ?_, ?_, rfl, hwithin, hsees⟩
    -- a renewal keeps the user and the end of the package
    · obtain ⟨-, rfl, -⟩ | ⟨-, -, rfl, -⟩ := maybeAdvance_eq_ok.mp hadvance
      · exact huser
      · exact huser
    · obtain ⟨-, rfl, -⟩ | ⟨-, -, rfl, -⟩ := maybeAdvance_eq_ok.mp hadvance
      · exact hend
      · exact hend
  · exact .inr ⟨hown, hkey, h.advance_other (hid ▸ hown) hadvance⟩

variable {amount : Int}

lemma admitted (h : Within db sub plan time) (hsees : SeesAll db sub now)
    (hreset : lastReset db sub ≤ now) (hend : now < sub.endTime)
    (hcheck : checkPreConsumeLimits db sub plan sub.userId amount now = .ok ()) :
    (0 < plan.limit5hAmount →
        used5hAt (countedRecords db sub) now + amount ≤ plan.limit5hAmount) ∧
      (valuePackageHas7dWindow plan = true →
        weekUsage sub.startTime (countedRecords db sub) now + amount ≤ plan.limit7dAmount) := by
  unfold checkPreConsumeLimits at hcheck
  obtain ⟨_, hcheck⟩ := of_bind hcheck
  obtain ⟨details, hdetails, hcheck⟩ := bind_eq_ok.mp hcheck
  obtain ⟨_, h5h, h7d⟩ := bind_eq_ok.mp hcheck
  rw [check_eq_ok] at h5h h7d
  rw [h.getDetails_eq hsees hreset] at hdetails
  obtain rfl := Except.ok.inj hdetails
  constructor
  · intro hlimit
    rw [h.used5h_eq hsees hreset] at h5h
    exact not_lt.mp fun hlt => h5h ⟨hlimit, hlt⟩
  · intro hplan
    rw [(h.used7d_eq hsees hreset hplan).2 hend] at h7d
    exact not_lt.mp fun hlt => h7d ⟨hplan, hlt⟩

lemma countedRecords_eq_nil (hsees : SeesAll db sub now) (hreset : ¬lastReset db sub ≤ now) :
    countedRecords db sub = [] := by
  unfold countedRecords
  rw [List.filter_eq_nil_iff]
  intro usage husage hafter
  have hle := hsees.created_le usage husage
  rw [decide_eq_true_eq] at hafter
  omega

/-- Setting quotas to positive values keeps them positive. -/
lemma setQuota_pos (h : Within db sub plan time) (requestId : String) (hpos : 0 < quota) :
    ∀ row ∈ (countedRecords db sub).map (setQuota requestId quota), 0 < row.quota := by
  intro row hrow
  obtain ⟨row, hmem, rfl⟩ := List.mem_map.mp hrow
  exact setQuota_quota_pos hpos (h.countedRecords_pos row hmem)

/-- A fresh pre-consume that passes the limits. If its request has a usage record already, the
limits hold of the sum of both, so they hold of the new one alone. -/
lemma preConsumeUpsert (h : Within db sub plan time) (requestId : String)
    (hsees : SeesAll db sub now) (htime : now ≤ time) (hend : now < sub.endTime)
    (hamount : 0 < amount)
    (hcheck : checkPreConsumeLimits db sub plan sub.userId amount now = .ok ()) :
    Within (db.saveUsage (upsertedUsage db
      (newUsageRecord sub requestId sub.userId amount sub.quotaEpoch now))) sub plan time := by
  refine h.upsert hsees htime hamount le_rfl ?_ ?_
  · intro _ _ hreset
    obtain ⟨h5h, h7d⟩ := h.admitted hsees hreset hend hcheck
    refine Limits.append ?_ le_rfl h5h h7d
    rw [List.forall_mem_append, List.forall_mem_singleton]
    exact ⟨h.countedRecords_pos, hamount⟩
  · intro old _ _
    by_cases hreset : lastReset db sub ≤ now
    · obtain ⟨h5h, h7d⟩ := h.admitted hsees hreset hend hcheck
      have hsum := sum_extra_le requestId hamount.le (nodup_requestId db sub)
      have hlimits : Limits plan sub.startTime
          ((countedRecords db sub).map (setQuota requestId amount)) now := by
        refine Limits.map (fun usage => if usage.requestId = requestId then amount else 0)
          (setQuota_createdAt requestId amount) ?_ ?_ ?_ ?_
        · intro row _
          split_ifs
          · exact hamount.le
          · exact le_rfl
        · intro row hrow
          have hrowPos := h.countedRecords_pos row hrow
          unfold setQuota
          split_ifs
          · show amount ≤ row.quota + amount
            omega
          · exact (add_zero _).ge
        · intro hlimit
          have := h5h hlimit
          omega
        · intro hplan
          have := h7d hplan
          omega
      exact hlimits.mono (h.setQuota_pos requestId hamount) htime
    · rw [countedRecords_eq_nil hsees hreset]
      exact Limits.nil _ _ _

variable {result : SubscriptionPreConsumeResult}

section

variable (h : Within db sub plan time)

include h

lemma preConsume (htime : now ≤ time) (hsees : SeesAll db sub now)
    (hok : preConsumeValuePackageSubscription db now requestId userId sid amount =
      .ok (result, db')) : ∃ sub', SamePackage sub sub' ∧ Within db' sub' plan time := by
  obtain ⟨rfl, -⟩ | ⟨-, hamount, opened, plan', db₁, hopen, hcheck, rfl, -⟩ :=
    preConsumePackage_ok hok
  · exact ⟨sub, SamePackage.refl sub, h⟩
  rcases h.openTx htime hopen with ⟨-, hsame, rfl, hend, rfl, h₁, hsees₁⟩ | ⟨hne, hkey, h₁⟩
  · have hused := h₁.preConsumeUpsert requestId (hsees₁ hsees) htime hend hamount hcheck
    have hrecorded := hused.savePreConsume
      (newPreConsumeRecord opened requestId opened.userId amount now) fun _ => le_rfl
    exact ⟨{ opened with amountUsed := opened.amountUsed + amount },
      ⟨hsame.id_eq, hsame.start_eq⟩, hrecorded.charge (opened.amountUsed + amount)⟩
  · have hrecorded := h₁.savePreConsume (newPreConsumeRecord opened requestId userId amount now)
      fun howner => absurd (hkey.symm.trans howner) hne
    have hused : Within ((db₁.savePreConsume (newPreConsumeRecord opened requestId userId amount
        now)).saveUsage (upsertedUsage db₁ (newUsageRecord opened requestId userId amount
          opened.quotaEpoch now))) sub plan time := by
      refine hrecorded.saveUsage_other ?_
      rw [upsertedUsage_userSubscriptionId]
      exact hkey.trans_ne hne
    exact ⟨sub, SamePackage.refl sub, hused.saveSubscription_other _ (hkey.trans_ne hne)⟩

lemma nextUsageRecords_of_none (hsees : SeesAll db sub now)
    (targetQuota : Int) (hnone : db.usageRecords.get? (sub.id, requestId) = none) :
    nextUsageRecords db sub requestId sub.userId ⟨0, 0, sub.quotaEpoch⟩ targetQuota now =
      epochRecords db sub ++
        [newUsageRecord sub requestId sub.userId targetQuota sub.quotaEpoch now] := by
  have hquery := h.queryUsageRecords_eq hsees
    (p := fun record => 0 < record.quota || record.requestId = requestId)
    fun record hpos => by simp [hpos]
  have hother : ∀ record ∈ epochRecords db sub, record.requestId ≠ requestId := by
    intro record hrecord hid
    rw [epochRecords, List.mem_filter, inEpoch, decide_eq_true_eq] at hrecord
    exact get?_eq_none_iff.mp hnone record hrecord.1 (Prod.ext hrecord.2.1 hid)
  have hmap : (epochRecords db sub).map (fun record =>
      if record.requestId = requestId then { record with quota := targetQuota } else record) =
      epochRecords db sub := by
    refine (List.map_congr_left fun record hrecord => ?_).trans (List.map_id _)
    exact if_neg (hother record hrecord)
  unfold nextUsageRecords
  simp only [hquery, hmap]
  rw [if_pos ⟨trivial, hother⟩]

lemma nextUsageRecords_of_some (hsees : SeesAll db sub now)
    (targetQuota : Int) (hold : db.usageRecords.get? (sub.id, requestId) = some old)
    (hcurrent : old.quotaEpoch = sub.quotaEpoch) :
    nextUsageRecords db sub requestId sub.userId ⟨old.quota, old.createdAt, sub.quotaEpoch⟩
      targetQuota now = (epochRecords db sub).map (setQuota requestId targetQuota) := by
  have hquery := h.queryUsageRecords_eq hsees
    (p := fun record => 0 < record.quota || record.requestId = requestId)
    fun record hpos => by simp [hpos]
  have hkey : old.key = (sub.id, requestId) := key_of_get? hold
  have howner : old.userSubscriptionId = sub.id := congrArg Prod.fst hkey
  have hmem : old ∈ epochRecords db sub := by
    refine List.mem_filter.mpr ⟨mem_of_get? hold, ?_⟩
    simp [inEpoch, howner, hcurrent]
  unfold nextUsageRecords
  simp only [hquery]
  rw [if_neg fun hcond => hcond.2 old hmem (congrArg Prod.snd hkey)]
  rfl

end

variable {request : ReservedRequest} {targetQuota : Int}

section

variable (h : Within db sub plan time)

include h

section

variable (hsees : SeesAll db sub now) (hreset : lastReset db sub ≤ now) (hend : now < sub.endTime)

include hsees hreset hend

lemma limits_of_checkReserveLimits
    (hsorted : (nextUsageRecords db sub requestId sub.userId request targetQuota now).Pairwise
      fun a b => a.createdAt ≤ b.createdAt)
    (hcount : AllCount sub
      (nextUsageRecords db sub requestId sub.userId request targetQuota now) now)
    (hcheck : checkReserveLimits db sub plan requestId sub.userId request targetQuota now =
      .ok ()) :
    Limits plan sub.startTime
      ((nextUsageRecords db sub requestId sub.userId request targetQuota now).filter
        fun usage => lastReset db sub ≤ usage.createdAt) now := by
  have hnow := h.start_pos.trans_le hsees.start_le
  unfold checkReserveLimits at hcheck
  obtain ⟨_, hcheck⟩ := of_bind hcheck
  obtain ⟨_, h5h, h7d⟩ := bind_eq_ok.mp hcheck
  rw [check_eq_ok, lastQuotaResetAt_eq hreset] at h5h h7d
  rw [details_used5h hnow hreset hsorted hcount] at h5h
  refine ⟨fun hlimit => not_lt.mp fun hlt => h5h ⟨hlimit, hlt⟩, fun hplan => ?_⟩
  rw [(details_used7d hplan h.start_pos hsees.start_le hreset hcount).2 hend] at h7d
  exact not_lt.mp fun hlt => h7d ⟨hplan, hlt⟩

lemma limits_reserve_of_none (hpos : 0 < targetQuota)
    (hnone : db.usageRecords.get? (sub.id, requestId) = none)
    (hcheck : checkReserveLimits db sub plan requestId sub.userId ⟨0, 0, sub.quotaEpoch⟩ targetQuota
      now = .ok ()) :
    Limits plan sub.startTime (countedRecords db sub ++
      [newUsageRecord sub requestId sub.userId targetQuota sub.quotaEpoch now]) now := by
  have hnext := h.nextUsageRecords_of_none hsees targetQuota hnone
  have hlimits : Limits plan sub.startTime ((epochRecords db sub ++
      [newUsageRecord sub requestId sub.userId targetQuota sub.quotaEpoch now]).filter
        fun usage => lastReset db sub ≤ usage.createdAt) now := by
    rw [← hnext]
    refine h.limits_of_checkReserveLimits hsees hreset hend ?_ ?_ hcheck
    · rw [hnext, List.pairwise_append]
      refine ⟨h.sorted, List.pairwise_singleton _ _, ?_⟩
      intro row hrow last hlast
      rw [List.mem_singleton] at hlast
      rw [hlast]
      exact hsees.created_le row hrow
    · rw [hnext, AllCount, List.forall_mem_append, List.forall_mem_singleton]
      exact ⟨h.allCount hsees, rfl, hpos, h.start_pos.trans_le hsees.start_le, le_rfl⟩
  rw [List.filter_append] at hlimits
  simpa [countedRecords, hreset] using hlimits

end

lemma limits_reserve_of_some (hsees : SeesAll db sub now) (htime : now ≤ time)
    (hend : now < sub.endTime) (hpos : 0 < targetQuota)
    (hold : db.usageRecords.get? (sub.id, requestId) = some old)
    (hcurrent : old.quotaEpoch = sub.quotaEpoch)
    (hcheck : old.quota < targetQuota → checkReserveLimits db sub plan requestId sub.userId
      ⟨old.quota, old.createdAt, sub.quotaEpoch⟩ targetQuota now = .ok ()) :
    Limits plan sub.startTime ((countedRecords db sub).map (setQuota requestId targetQuota))
      time := by
  by_cases hreset : lastReset db sub ≤ now
  · by_cases hraise : old.quota < targetQuota
    · have hnext := h.nextUsageRecords_of_some hsees targetQuota hold hcurrent
      have hlimits : Limits plan sub.startTime
          (((epochRecords db sub).map (setQuota requestId targetQuota)).filter
            fun usage => lastReset db sub ≤ usage.createdAt) now := by
        rw [← hnext]
        refine h.limits_of_checkReserveLimits hsees hreset hend ?_ ?_ (hcheck hraise)
        · rw [hnext, List.pairwise_map]
          simpa using h.sorted
        · rw [hnext]
          intro row hrow
          obtain ⟨row, hmem, rfl⟩ := List.mem_map.mp hrow
          obtain ⟨hepoch, hquota, hcreated, hle⟩ := h.allCount hsees row hmem
          rw [setQuota_quotaEpoch, setQuota_createdAt]
          exact ⟨hepoch, setQuota_quota_pos hpos hquota, hcreated, hle⟩
      rw [filter_map_setQuota] at hlimits
      exact hlimits.mono (h.setQuota_pos requestId hpos) htime
    · -- no record is raised
      refine Limits.map (fun _ => 0) (setQuota_createdAt requestId targetQuota)
        (fun _ _ => le_rfl) ?_ ?_ ?_
      · intro row hrow
        unfold setQuota
        split_ifs with hid
        · have hmem := List.mem_filter.mp (List.mem_of_mem_filter hrow)
          simp only [inEpoch, decide_eq_true_eq] at hmem
          have hget := get?_of_mem hmem.1
          rw [show row.key = (sub.id, requestId) from Prod.ext hmem.2.1 hid, hold] at hget
          obtain rfl := Option.some.inj hget
          show targetQuota ≤ old.quota + 0
          omega
        · exact (add_zero _).ge
      · intro hlimit
        simpa using h.limits.used5h hlimit
      · intro hplan
        simpa using h.limits.used7d hplan
  · rw [countedRecords_eq_nil hsees hreset]
    exact Limits.nil _ _ _

lemma requestEpoch_le (hfind : findReservedRequest db sub requestId userId sub.id = .ok request) :
    request.requestEpoch ≤ sub.quotaEpoch := by
  obtain ⟨howner, ⟨-, rfl⟩ | ⟨old, hold, -, rfl⟩⟩ := findReservedRequest_ok hfind
  · cases hpre : db.preConsumeRecords.get? requestId with
    | none => exact le_rfl
    | some record =>
      exact h.preConsume_epoch_le record (mem_of_get? hpre) (howner record hpre).2
  · exact h.usage_epoch_le old (mem_of_get? hold) (congrArg Prod.fst (key_of_get? hold))

lemma reserveUpsert (hsees : SeesAll db sub now) (htime : now ≤ time) (hend : now < sub.endTime)
    (hpos : 0 < targetQuota)
    (hfind : findReservedRequest db sub requestId sub.userId sub.id = .ok request)
    (hcheck : sub.quotaEpoch = request.requestEpoch → request.currentQuota < targetQuota →
      checkReserveLimits db sub plan requestId sub.userId request targetQuota now = .ok ()) :
    Within (db.saveUsage (upsertedUsage db (newUsageRecord sub requestId sub.userId targetQuota
      request.requestEpoch now))) sub plan time := by
  refine h.upsert hsees htime hpos (h.requestEpoch_le hfind) ?_ ?_
  · intro hnone hcurrent hreset
    obtain ⟨-, ⟨-, hrequest⟩ | ⟨old, hold, -, -⟩⟩ := findReservedRequest_ok hfind
    · have hnew : request = ⟨0, 0, sub.quotaEpoch⟩ := by
        rw [hrequest] at hcurrent ⊢
        exact congrArg (ReservedRequest.mk 0 0) hcurrent
      rw [hnew] at hcheck ⊢
      exact h.limits_reserve_of_none hsees hreset hend hpos hnone (hcheck rfl hpos)
    · cases hnone.symm.trans hold
  · intro old hold hcurrent
    obtain ⟨-, ⟨hnone, -⟩ | ⟨old', hold', -, rfl⟩⟩ := findReservedRequest_ok hfind
    · cases hnone.symm.trans hold
    · obtain rfl := Option.some.inj (hold.symm.trans hold')
      rw [hcurrent] at hcheck
      exact h.limits_reserve_of_some hsees htime hend hpos hold hcurrent (hcheck rfl)

lemma reserve (htime : now ≤ time) (hsees : SeesAll db sub now)
    (hpos : db.usageRecords.get? (sid, requestId) = none ∨ 0 < targetQuota)
    (hok : reserveValuePackageUsageToTarget db now requestId userId sid targetQuota =
      .ok (result, db')) : ∃ sub', SamePackage sub sub' ∧ Within db' sub' plan time := by
  obtain ⟨htarget, opened, plan', db₁, request, hopen, hfind, hwrite⟩ :=
    reserveUsage_ok hok
  rcases h.openTx htime hopen with ⟨hsid, hsame, rfl, hend, rfl, h₁, hsees₁⟩ | ⟨hne, hkey, h₁⟩
  · rw [hsid, ← hsame.id_eq] at hfind
    obtain ⟨-, rfl⟩ | ⟨hmove, hwrite⟩ := hwrite
    · exact ⟨opened, hsame, h₁⟩
    -- a request without a record is at zero, so a target that moves it is positive
    have hpos : 0 < targetQuota := by
      rcases hpos with hnone | hpos
      · have hnone₁ : db₁.usageRecords.get? (opened.id, requestId) = none := by
          rw [(openValuePackageTx_frame hopen).2.1, hsame.id_eq, ← hsid]
          exact hnone
        obtain ⟨-, ⟨-, rfl⟩ | ⟨old, hold, -⟩⟩ := findReservedRequest_ok hfind
        · exact lt_of_le_of_ne htarget hmove.symm
        · cases hnone₁.symm.trans hold
      · exact hpos
    obtain ⟨hstale, rfl⟩ | ⟨hcurrent, hcheck, rfl⟩ := hwrite
    · exact ⟨opened, hsame, h₁.reserveUpsert (hsees₁ hsees) htime hend hpos hfind
        fun hcurrent => absurd hcurrent hstale⟩
    · have hused := h₁.reserveUpsert (hsees₁ hsees) htime hend hpos hfind fun _ => hcheck
      exact ⟨chargeUsed opened (targetQuota - request.currentQuota),
        ⟨hsame.id_eq, hsame.start_eq⟩, hused.charge _⟩
  · have howner : (upsertedUsage db₁ (newUsageRecord opened requestId userId targetQuota
        request.requestEpoch now)).userSubscriptionId ≠ sub.id := by
      rw [upsertedUsage_userSubscriptionId]
      exact hkey.trans_ne hne
    obtain ⟨-, rfl⟩ | ⟨-, ⟨-, rfl⟩ | ⟨-, -, rfl⟩⟩ := hwrite
    · exact ⟨sub, SamePackage.refl sub, h₁⟩
    · exact ⟨sub, SamePackage.refl sub, h₁.saveUsage_other howner⟩
    · exact ⟨sub, SamePackage.refl sub, (h₁.saveUsage_other howner).saveSubscription_other
        (chargeUsed opened (targetQuota - request.currentQuota)) (hkey.trans_ne hne)⟩

lemma consumeResetCount {dbNow resetAt : Int} (htime : dbNow ≤ time) {state : ValuePackageState}
    (hok : consumeValuePackageResetCount db dbNow userId sid resetAt = .ok (state, db')) :
    ∃ sub', SamePackage sub sub' ∧ Within db' sub' plan time := by
  obtain ⟨_, active, plan', -, -, -, hget, -, -, -, -, -, -, -, rfl⟩ :=
    consumeResetCount_inv hok
  have hcard : resetCardTime dbNow resetAt ≤ time := by
    unfold resetCardTime
    split_ifs <;> omega
  by_cases hown : active.id = sub.id
  · obtain rfl := h.eq_of_get? hown hget
    have hlt : sub.quotaEpoch < (resetCardSubscription sub).quotaEpoch := Int.lt_succ _
    exact ⟨resetCardSubscription sub, ⟨rfl, rfl⟩,
      h.reset rfl rfl rfl rfl hlt rfl rfl rfl rfl rfl hcard⟩
  · have hsaved := (h.createQuotaReset_other
      (resetCardReset active userId (resetCardTime dbNow resetAt)) hown).saveSubscription_other
      (resetCardSubscription active) hown
    exact ⟨sub, SamePackage.refl sub, hsaved.congr rfl rfl rfl rfl rfl rfl rfl rfl
      h.usage_epoch_le h.preConsume_epoch_le hsaved.stored⟩

lemma resetDue (env : Env) (htime : now ≤ time) (limit : Int) :
    ∃ sub', SamePackage sub sub' ∧
      Within (resetDueSubscriptions env db now limit) sub' plan time := by
  refine resetDue_induction
    (fun db' => ∃ sub', SamePackage sub sub' ∧ Within db' sub' plan time) ?_ ?_ limit
      ⟨sub, SamePackage.refl sub, h⟩
  · rintro db₁ due duePlan due' db₂ ⟨sub₁, hsame, h₁⟩ hget hplan - hadvance
    by_cases hown : due.id = sub₁.id
    · obtain rfl := h₁.eq_of_get? hown hget
      obtain rfl := h₁.eq_of_plan hplan
      obtain ⟨hsame', h₂, -⟩ := h₁.advance htime hadvance
      exact ⟨due', hsame.trans hsame', h₂⟩
    · exact ⟨sub₁, hsame, h₁.advance_other hown hadvance⟩
  · rintro db₁ due duePlan due' db₂ ⟨sub₁, hsame, h₁⟩ hget - hplan hregular hreset
    have hown : due.id ≠ sub₁.id := by
      intro hown
      obtain rfl := h₁.eq_of_get? hown hget
      obtain rfl := h₁.eq_of_plan hplan
      rw [h₁.package] at hregular
      cases hregular
    obtain ⟨rfl, -⟩ | ⟨used, last, next, rfl, -, rfl⟩ :=
      maybeReset_ok hreset
    · exact ⟨sub₁, hsame, h₁⟩
    · exact ⟨sub₁, hsame, h₁.saveSubscription_other _ hown⟩

lemma cleanup (now olderThanSeconds : Int) :
    Within (cleanupSubscriptionPreConsumeRecords db now olderThanSeconds) sub plan time := by
  refine h.congr rfl rfl rfl rfl rfl rfl rfl rfl h.usage_epoch_le ?_ h.stored
  intro record hrecord
  exact h.preConsume_epoch_le record (List.mem_of_mem_filter hrecord)

end

end Within

/-! ## Runs -/

/-- The calls that only admit usage: a reserve has a positive target, and there are neither
refunds nor purchases. -/
def PackageOp.Admits : PackageOp → Prop
  | .preConsume .. | .consumeResetCount .. | .resetDue .. | .cleanup .. => True
  | .reserve _ _ _ _ targetQuota => 0 < targetQuota
  | .refund .. | .extend .. => False

instance (op : PackageOp) : Decidable op.Admits := by
  induction op using PackageOp.casesOn <;> unfold PackageOp.Admits <;> infer_instance

variable {time : Int} {sub : UserSubscription} {plan : SubscriptionPlan}

/-- A call whose clock reading hides no record of the package keeps its windows within the
limits. -/
lemma Within.step {env : Env} {db : DB} (h : Within db sub plan time) {op : PackageOp}
    (hadmits : op.Admits) (htime : op.clock ≤ time) (hsees : SeesAll db sub op.clock) :
    ∃ sub', SamePackage sub sub' ∧ Within (packageStep env db op) sub' plan time := by
  have hcommit {α : Type} {x : Except TxError (α × DB)}
      (hx : ∀ a db', x = .ok (a, db') → ∃ sub', SamePackage sub sub' ∧ Within db' sub' plan time) :
      ∃ sub', SamePackage sub sub' ∧ Within (commit db x) sub' plan time :=
    commit_induction (fun db' => ∃ sub', SamePackage sub sub' ∧ Within db' sub' plan time)
      ⟨sub, SamePackage.refl sub, h⟩ hx
  cases op with
  | preConsume now requestId userId sid amount =>
    exact hcommit fun _ _ => h.preConsume htime hsees
  | reserve now requestId userId sid targetQuota =>
    exact hcommit fun _ _ => h.reserve htime hsees (.inr hadmits)
  | refund | extend => exact hadmits.elim
  | consumeResetCount dbNow userId sid resetAt =>
    exact hcommit fun _ _ => h.consumeResetCount htime
  | resetDue now limit => exact h.resetDue env htime limit
  | cleanup now olderThanSeconds =>
    exact ⟨sub, SamePackage.refl sub, h.cleanup now olderThanSeconds⟩

/-- A package as it has been bought: started, without records and without resets. -/
structure BoughtPackage (db : DB) (sub : UserSubscription) (plan : SubscriptionPlan) (time : Int) :
    Prop extends FreshPackage db sub.id where
  stored : db.subscriptions.get? sub.id = some sub
  plan_eq : getSubscriptionPlanByIdTx db sub.planId = .ok plan
  start_pos : 0 < sub.startTime
  start_le : sub.startTime ≤ time
  no_reset : ∀ reset ∈ db.quotaResets, reset.userSubscriptionId ≠ sub.id

lemma BoughtPackage.within {db : DB} (h : BoughtPackage db sub plan time) :
    Within db sub plan time := by
  have hpackage : plan.isValuePackage = true := by
    obtain ⟨sub', plan', hget, -, hplan, hpackage⟩ := h.package
    cases h.stored.symm.trans hget
    cases h.plan_eq.symm.trans hplan
    exact hpackage
  have hnil : epochRecords db sub = [] := by
    unfold epochRecords
    rw [List.filter_eq_nil_iff]
    intro usage husage hin
    rw [inEpoch, decide_eq_true_eq] at hin
    exact h.no_usage usage husage hin.1
  refine ⟨h.stored, h.plan_eq, hpackage, h.start_pos, h.start_le, ?_, ?_, ?_, ?_, ?_, ?_⟩
  · exact fun usage husage howner => absurd howner (h.no_usage usage husage)
  · exact fun record hrecord howner => absurd howner (h.no_preConsume record hrecord)
  · rw [hnil]
    nofun
  · rw [hnil]
    exact List.Pairwise.nil
  · exact lastReset_le (h.start_pos.le.trans h.start_le)
      fun reset hreset _ howner => absurd howner (h.no_reset reset hreset)
  · unfold countedRecords
    rw [hnil, List.filter_nil]
    exact Limits.nil _ _ _

lemma Within.details_le {db : DB} {t : Int} (h : Within db sub plan time) (ht : time ≤ t) :
    ∃ details, getValuePackageWindowUsageDetailsTx db sub.userId sub.id t = .ok details ∧
      (0 < plan.limit5hAmount → details.used5h ≤ plan.limit5hAmount) ∧
      (valuePackageHas7dWindow plan = true → details.used7d ≤ plan.limit7dAmount) := by
  have hlater := h.mono ht
  have hsees := h.seesAll ht
  have hreset := hlater.reset_le
  refine ⟨_, h.getDetails_eq hsees hreset, fun hlimit => ?_, fun hplan => ?_⟩
  · rw [h.used5h_eq hsees hreset]
    exact hlater.limits.used5h hlimit
  · exact (h.used7d_eq hsees hreset hplan).1.trans (hlater.limits.used7d hplan)

/-- One call, with the time of the last one. -/
def timedStep (env : Env) (state : DB × Int) (op : PackageOp) : DB × Int :=
  (packageStep env state.1 op, op.clock)

/-- The clock does not run backwards, and the call only admits usage. -/
def InOrder (state : DB × Int) (op : PackageOp) : Prop := state.2 ≤ op.clock ∧ op.Admits

instance (state : DB × Int) (op : PackageOp) : Decidable (InOrder state op) := by
  unfold InOrder
  infer_instance

/-- In a sequential run of pre-consumes, reserves with positive targets, cycle renewals and reset
cards, the window usage at any time from the last call on is within the limits of the plan. -/
theorem window_usage_le_limits {env : Env} {db : DB} {sub : UserSubscription}
    {plan : SubscriptionPlan} {start : Int} (hbought : BoughtPackage db sub plan start)
    (ops : List PackageOp) (hops : Along (timedStep env) InOrder (db, start) ops) (t : Int)
    (ht : (exec (timedStep env) (db, start) ops).2 ≤ t) :
    ∃ sub' details,
      (exec (timedStep env) (db, start) ops).1.subscriptions.get? sub.id = some sub' ∧
      getValuePackageWindowUsageDetailsTx (exec (timedStep env) (db, start) ops).1 sub'.userId
        sub.id t = .ok details ∧
      (0 < plan.limit5hAmount → details.used5h ≤ plan.limit5hAmount) ∧
      (valuePackageHas7dWindow plan = true → details.used7d ≤ plan.limit7dAmount) := by
  have hinv : ∃ sub', SamePackage sub sub' ∧
      Within (exec (timedStep env) (db, start) ops).1 sub'
      plan (exec (timedStep env) (db, start) ops).2 := by
    refine exec_induction (fun state : DB × Int =>
      ∃ sub', SamePackage sub sub' ∧ Within state.1 sub' plan state.2) ?_
        ⟨sub, SamePackage.refl sub, hbought.within⟩ hops
    rintro ⟨db, time⟩ op ⟨sub', hsame, h⟩ ⟨hclock, hadmits⟩
    -- every record was created by an earlier call, so none is hidden
    obtain ⟨sub'', hsame', h'⟩ := (h.mono hclock).step hadmits le_rfl (h.seesAll hclock)
    exact ⟨sub'', hsame.trans hsame', h'⟩
  obtain ⟨sub', hsame, h⟩ := hinv
  obtain ⟨details, hdetails, h5h, h7d⟩ := h.details_le ht
  rw [hsame.id_eq] at hdetails
  exact ⟨sub', details, hsame.id_eq ▸ h.stored, hdetails, h5h, h7d⟩

lemma boughtPackage_sampleDB : BoughtPackage sampleDB sampleSubscription samplePlan 1000 where
  toFreshPackage := freshPackage_sampleDB
  stored := by decide
  plan_eq := by decide
  start_pos := by decide
  start_le := by decide
  no_reset := nofun

/-- Requests that fill the 5h window, a rejected one, one lowered and one raised, a reset card, and
a renewal of the cycle. -/
def busyRun : List PackageOp :=
  [.preConsume 2000 "r1" 1 1 60, .preConsume 2001 "r2" 1 1 40, .preConsume 2002 "r3" 1 1 1,
    .reserve 2003 "r1" 1 1 30, .reserve 2004 "r4" 1 1 20, .consumeResetCount 2005 1 1 0,
    .preConsume 2006 "r5" 1 1 100, .reserve 2007 "r2" 1 1 90, .resetDue 2600000 0,
    .reserve 2600001 "r6" 1 1 80]

theorem busyRun_within_limits :
    ∃ sub' details,
      (exec (timedStep sampleEnv) (sampleDB, 1000) busyRun).1.subscriptions.get? 1 =
        some sub' ∧
      getValuePackageWindowUsageDetailsTx
        (exec (timedStep sampleEnv) (sampleDB, 1000) busyRun).1 sub'.userId 1 2600002 =
        .ok details ∧
      (0 < samplePlan.limit5hAmount → details.used5h ≤ samplePlan.limit5hAmount) ∧
      (valuePackageHas7dWindow samplePlan = true → details.used7d ≤ samplePlan.limit7dAmount) :=
  window_usage_le_limits boughtPackage_sampleDB busyRun (by decide) 2600002 (by decide)

end Yunbay
