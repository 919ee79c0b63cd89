import Yunbay.Subscription.Window

/-!
# Window usage over records in order of creation

The 5h window is a greedy partition whose boundaries depend on all earlier records of the epoch,
the 7d window is anchored at the start of the package, and both look only at records after the
last reset.

* `details_used5h` and `details_used7d` compute
  `buildValuePackageWindowUsageDetailsFromRecords` over records in order of creation.
-/

namespace Yunbay

variable {now later startTime : Int} {records : List ValuePackageUsageRecord}
  {record : ValuePackageUsageRecord} {f : ValuePackageUsageRecord → ValuePackageUsageRecord}

/-! ## The two windows over a sorted list -/

/-- The start of the 7d window that contains `now`. -/
def weekStart (startTime now : Int) : Int :=
  startTime + (now - startTime) / valuePackage7dWindowSeconds * valuePackage7dWindowSeconds

/-- The records of the 7d window that contains `now`. -/
def weekRecords (startTime : Int) (records : List ValuePackageUsageRecord) (now : Int) :
    List ValuePackageUsageRecord :=
  records.filter fun record => weekStart startTime now ≤ record.createdAt

/-- The quota used in the 7d window that contains `now`. -/
def weekUsage (startTime : Int) (records : List ValuePackageUsageRecord) (now : Int) : Int :=
  ((weekRecords startTime records now).map (·.quota)).sum

lemma weekStart_le (startTime now : Int) : weekStart startTime now ≤ now := by
  have h := Int.ediv_mul_le (now - startTime)
    (show valuePackage7dWindowSeconds ≠ 0 by decide)
  unfold weekStart
  omega

lemma lt_weekStart_add (startTime now : Int) :
    now < weekStart startTime now + valuePackage7dWindowSeconds := by
  have h := Int.lt_ediv_add_one_mul_self (now - startTime)
    (show 0 < valuePackage7dWindowSeconds by decide)
  rw [Int.add_mul, Int.one_mul] at h
  unfold weekStart
  omega

lemma weekStart_mono (startTime : Int) (hle : now ≤ later) :
    weekStart startTime now ≤ weekStart startTime later := by
  have hdiv := Int.ediv_le_ediv (show 0 < valuePackage7dWindowSeconds by decide)
    (show now - startTime ≤ later - startTime by omega)
  have hmul := Int.mul_le_mul_of_nonneg_right hdiv
    (show 0 ≤ valuePackage7dWindowSeconds by decide)
  unfold weekStart
  omega

lemma sum_quota_filter_le (hpos : ∀ record ∈ records, 0 < record.quota)
    {p q : ValuePackageUsageRecord → Bool} (hpq : ∀ record, p record = true → q record = true) :
    ((records.filter p).map (·.quota)).sum ≤ ((records.filter q).map (·.quota)).sum := by
  have hsub : List.Sublist (records.filter p) (records.filter q) :=
    List.monotone_filter_right records hpq
  refine (hsub.map _).sum_le_sum fun quota hquota => ?_
  obtain ⟨record, hrecord, rfl⟩ := List.mem_map.mp hquota
  exact (hpos record (List.mem_of_mem_filter hrecord)).le

/-- A bound on the 7d window survives the passing of time. -/
lemma weekUsage_le_of_le (hpos : ∀ record ∈ records, 0 < record.quota) (hle : now ≤ later) :
    weekUsage startTime records later ≤ weekUsage startTime records now := by
  refine sum_quota_filter_le hpos fun record hlater => ?_
  have hmono := weekStart_mono startTime hle
  simp only [decide_eq_true_eq] at hlater ⊢
  omega

lemma weekUsage_append_le {bound : Int} (hpos : ∀ r ∈ records ++ [record], 0 < r.quota)
    (hle : record.createdAt ≤ later)
    (h : weekUsage startTime records record.createdAt + record.quota ≤ bound) :
    weekUsage startTime (records ++ [record]) later ≤ bound := by
  refine (weekUsage_le_of_le hpos hle).trans (le_trans (le_of_eq ?_) h)
  have hin := weekStart_le startTime record.createdAt
  simp [weekUsage, weekRecords, List.filter_append, hin]

lemma weekUsage_map_le_add {extra : ValuePackageUsageRecord → Int}
    (htime : ∀ r, (f r).createdAt = r.createdAt) (hextra : ∀ r ∈ records, 0 ≤ extra r)
    (hquota : ∀ r ∈ records, (f r).quota ≤ r.quota + extra r) :
    weekUsage startTime (records.map f) now ≤
      weekUsage startTime records now + (records.map extra).sum := by
  induction records with
  | nil => simp [weekUsage, weekRecords]
  | cons record records ih =>
    have hrest := ih (fun r hr => hextra r (List.mem_cons_of_mem _ hr))
      fun r hr => hquota r (List.mem_cons_of_mem _ hr)
    have hnonneg := hextra record List.mem_cons_self
    have hraise := hquota record List.mem_cons_self
    unfold weekUsage weekRecords at hrest ⊢
    -- the record is in the window before and after, or in neither
    by_cases hin : weekStart startTime now ≤ record.createdAt
    · simp only [List.map_cons, List.filter_cons, htime, hin, decide_true, if_true,
        List.sum_cons]
      omega
    · simp only [List.map_cons, List.filter_cons, htime, hin, decide_false, Bool.false_eq_true,
        if_false, List.sum_cons]
      omega

/-! ## What the code computes over records in order of creation -/

section Details

variable {sub : UserSubscription} {plan : SubscriptionPlan} {lastResetAt : Int}

/-- Records of the current epoch, with a quota, and not in the future. -/
def AllCount (sub : UserSubscription) (records : List ValuePackageUsageRecord) (now : Int) : Prop :=
  ∀ record ∈ records, record.quotaEpoch = sub.quotaEpoch ∧ 0 < record.quota ∧
    0 < record.createdAt ∧ record.createdAt ≤ now

lemma AllCount.countsAt (h : AllCount sub records now) (hrecord : record ∈ records) :
    countsAt sub now record = true := by
  simpa [Yunbay.countsAt] using h record hrecord

lemma fiveHourRecords_eq (hreset : lastResetAt ≤ now) (h : AllCount sub records now) :
    fiveHourRecords sub records lastResetAt now =
      records.filter fun record => lastResetAt ≤ record.createdAt := by
  unfold fiveHourRecords
  refine List.filter_congr fun record hrecord => ?_
  obtain ⟨-, -, hcreated, -⟩ := h record hrecord
  rw [h.countsAt hrecord, Bool.true_and, Bool.eq_iff_iff]
  unfold effectiveLastResetAt
  split_ifs <;> simp <;> omega

lemma details_used5h_eq (hnow : 0 < now) :
    (buildValuePackageWindowUsageDetailsFromRecords sub plan records lastResetAt now).used5h =
      (valuePackageFixedWindowUsageDetails (fiveHourRecords sub records lastResetAt now)
        valuePackage5hWindowSeconds now).1 := by
  have hfive : (fiveHourDetails sub records lastResetAt now).used5h =
      (valuePackageFixedWindowUsageDetails (fiveHourRecords sub records lastResetAt now)
        valuePackage5hWindowSeconds now).1 := by
    unfold fiveHourDetails
    dsimp only
    split_ifs <;> rfl
  rw [← hfive]
  unfold buildValuePackageWindowUsageDetailsFromRecords
  rw [if_neg (by omega)]
  dsimp only
  split_ifs <;> rfl

theorem details_used5h (hnow : 0 < now) (hreset : lastResetAt ≤ now)
    (hsorted : records.Pairwise fun a b => a.createdAt ≤ b.createdAt)
    (h : AllCount sub records now) :
    (buildValuePackageWindowUsageDetailsFromRecords sub plan records lastResetAt now).used5h =
      used5hAt (records.filter fun record => lastResetAt ≤ record.createdAt) now := by
  rw [details_used5h_eq hnow, fiveHourRecords_eq hreset h]
  rw [fixedWindowDetails_used (hsorted.filter _) (by decide) hnow,
    List.filter_eq_self.mpr fun record hrecord => ?_]
  exact windowCounts_iff.mpr (h record (List.mem_of_mem_filter hrecord)).2

lemma anchoredWindow_eq {endTime : Int} (hstart : 0 < startTime) (hle : startTime ≤ now) :
    calcValuePackageAnchoredWindow startTime endTime valuePackage7dWindowSeconds now =
      let windowStart := weekStart startTime now
      let windowEnd :=
        if 0 < endTime ∧ endTime < windowStart + valuePackage7dWindowSeconds then endTime
        else windowStart + valuePackage7dWindowSeconds
      if windowEnd ≤ windowStart then ⟨0, 0⟩ else ⟨windowStart, windowEnd⟩ := by
  have hwindow : ¬(startTime ≤ 0 ∨ valuePackage7dWindowSeconds ≤ 0) := by
    simp [valuePackage7dWindowSeconds]
    omega
  have hclip : ¬(now ≤ 0 ∨ now < startTime) := by omega
  unfold calcValuePackageAnchoredWindow
  simp only [if_neg hwindow, if_neg hclip]
  rfl

/-- The 7d usage is summed over a window that is anchored at the start of the package, cut off at
the last reset, and ends at the latest with the package. -/
lemma details_used7d_eq (hplan : valuePackageHas7dWindow plan = true)
    (hanchor : 0 < valuePackageSubscriptionAnchorStart sub now)
    (hle : valuePackageSubscriptionAnchorStart sub now ≤ now) :
    ∃ windowEnd, (now < sub.endTime → now < windowEnd) ∧ ∀ records lastResetAt,
      (buildValuePackageWindowUsageDetailsFromRecords sub plan records lastResetAt now).used7d =
          ((sevenDayRecords sub plan
            ⟨weekStart (valuePackageSubscriptionAnchorStart sub now) now, windowEnd⟩ records
            lastResetAt now).map (·.quota)).sum ∨
        sub.endTime ≤ now ∧
          (buildValuePackageWindowUsageDetailsFromRecords sub plan records lastResetAt
            now).used7d = 0 := by
  have hfive : ∀ records lastResetAt, (fiveHourDetails sub records lastResetAt now).used7d = 0 := by
    intro records lastResetAt
    unfold fiveHourDetails
    dsimp only
    split_ifs <;> rfl
  unfold buildValuePackageWindowUsageDetailsFromRecords
  generalize valuePackageSubscriptionAnchorStart sub now = anchorStart at hanchor hle ⊢
  have hws := weekStart_le anchorStart now
  have hwe := lt_weekStart_add anchorStart now
  have hpos : anchorStart ≤ weekStart anchorStart now := by
    have := weekStart_mono anchorStart hle
    simpa [weekStart] using this
  have hnow : ¬now ≤ 0 := by omega
  simp only [if_neg hnow, hplan, Bool.not_true, Bool.false_eq_true, if_false,
    if_neg (not_le.mpr hanchor), anchoredWindow_eq hanchor hle]
  generalize hend : (if 0 < sub.endTime ∧ sub.endTime < weekStart anchorStart now +
    valuePackage7dWindowSeconds then sub.endTime else weekStart anchorStart now +
    valuePackage7dWindowSeconds) = windowEnd
  refine ⟨windowEnd, ?_, fun records lastResetAt => ?_⟩
  · intro hlt
    split_ifs at hend <;> omega
  · by_cases hempty : windowEnd ≤ weekStart anchorStart now
    · -- an empty window: the package ended before the window started
      refine .inr ⟨?_, ?_⟩
      · split_ifs at hend <;> omega
      · rw [if_pos hempty]
        simpa using hfive records lastResetAt
    · rw [if_neg hempty, if_neg (by dsimp only; omega)]
      exact .inl rfl

lemma sevenDayRecords_le (windowEnd : Int) (hplan : valuePackageHas7dWindow plan = true)
    (hreset : lastResetAt ≤ now) (h : AllCount sub records now) :
    ((sevenDayRecords sub plan ⟨weekStart sub.startTime now, windowEnd⟩ records lastResetAt
        now).map (·.quota)).sum ≤
      weekUsage sub.startTime (records.filter fun r => lastResetAt ≤ r.createdAt) now ∧
    (now < windowEnd →
      ((sevenDayRecords sub plan ⟨weekStart sub.startTime now, windowEnd⟩ records lastResetAt
        now).map (·.quota)).sum =
      weekUsage sub.startTime (records.filter fun r => lastResetAt ≤ r.createdAt) now) := by
  have hclears : valuePackageResetClears7d plan = true := hplan
  have hpos : ∀ r ∈ records, 0 < r.quota := fun r hr => (h r hr).2.1
  unfold sevenDayRecords weekUsage weekRecords effective7dStart effectiveLastResetAt
  rw [List.filter_filter]
  simp only [hclears, true_and]
  constructor
  · refine sum_quota_filter_le hpos fun r hr => ?_
    simp only [Bool.and_eq_true, decide_eq_true_eq, Yunbay.countsAt] at hr ⊢
    obtain ⟨⟨⟨-, -, hcreated, -⟩, hstart⟩, -⟩ := hr
    split_ifs at hstart <;> omega
  · intro hend
    congr 2
    refine List.filter_congr fun r hr => ?_
    obtain ⟨-, -, hcreated, hnow⟩ := h r hr
    rw [h.countsAt hr, Bool.true_and, Bool.eq_iff_iff]
    simp only [Bool.and_eq_true, decide_eq_true_eq]
    split_ifs <;> omega

/-- The 7d usage never exceeds that of the unclipped window, and equals it while the package
runs. -/
theorem details_used7d (hplan : valuePackageHas7dWindow plan = true) (hstart : 0 < sub.startTime)
    (hle : sub.startTime ≤ now) (hreset : lastResetAt ≤ now) (h : AllCount sub records now) :
    (buildValuePackageWindowUsageDetailsFromRecords sub plan records lastResetAt now).used7d ≤
      weekUsage sub.startTime (records.filter fun r => lastResetAt ≤ r.createdAt) now ∧
    (now < sub.endTime →
      (buildValuePackageWindowUsageDetailsFromRecords sub plan records lastResetAt now).used7d =
        weekUsage sub.startTime (records.filter fun r => lastResetAt ≤ r.createdAt) now) := by
  have hanchor : valuePackageSubscriptionAnchorStart sub now = sub.startTime := if_pos hstart
  have hpos : 0 < valuePackageSubscriptionAnchorStart sub now := hanchor.symm ▸ hstart
  have hpast : valuePackageSubscriptionAnchorStart sub now ≤ now := hanchor.symm ▸ hle
  obtain ⟨windowEnd, hend, hused⟩ := details_used7d_eq hplan hpos hpast
  rw [hanchor] at hused
  obtain heq | ⟨hover, heq⟩ := hused records lastResetAt
  · obtain ⟨hbound, hexact⟩ := sevenDayRecords_le windowEnd hplan hreset h
    rw [heq]
    exact ⟨hbound, fun hlt => hexact (hend hlt)⟩
  · refine ⟨?_, fun hlt => absurd hlt (not_lt.mpr hover)⟩
    rw [heq]
    refine List.sum_nonneg fun quota hquota => ?_
    obtain ⟨r, hr, rfl⟩ := List.mem_map.mp hquota
    have hmem := List.mem_of_mem_filter (List.mem_of_mem_filter hr)
    exact (h r hmem).2.1.le

end Details

/-! ## Both limits -/

/-- The records keep to the limits of the plan at time `now`. -/
structure Limits (plan : SubscriptionPlan) (startTime : Int)
    (records : List ValuePackageUsageRecord) (now : Int) : Prop where
  used5h : 0 < plan.limit5hAmount → used5hAt records now ≤ plan.limit5hAmount
  used7d : valuePackageHas7dWindow plan = true →
    weekUsage startTime records now ≤ plan.limit7dAmount

lemma limit7dAmount_pos {plan : SubscriptionPlan} (h : valuePackageHas7dWindow plan = true) :
    0 < plan.limit7dAmount := by
  simp only [valuePackageHas7dWindow, Bool.and_eq_true, decide_eq_true_eq] at h
  exact h.2

namespace Limits

variable {plan : SubscriptionPlan}

lemma nil (plan : SubscriptionPlan) (startTime now : Int) : Limits plan startTime [] now where
  used5h hlimit := by simpa using hlimit.le
  used7d hplan := (limit7dAmount_pos hplan).le

lemma mono (h : Limits plan startTime records now)
    (hpos : ∀ record ∈ records, 0 < record.quota) (hle : now ≤ later) :
    Limits plan startTime records later where
  used5h hlimit := GreedyWindow.usedAt_le_of_le hle hlimit.le (h.used5h hlimit)
  used7d hplan := (weekUsage_le_of_le hpos hle).trans (h.used7d hplan)

lemma append (hpos : ∀ r ∈ records ++ [record], 0 < r.quota) (hle : record.createdAt ≤ later)
    (h5h : 0 < plan.limit5hAmount →
      used5hAt records record.createdAt + record.quota ≤ plan.limit5hAmount)
    (h7d : valuePackageHas7dWindow plan = true →
      weekUsage startTime records record.createdAt + record.quota ≤ plan.limit7dAmount) :
    Limits plan startTime (records ++ [record]) later where
  used5h hlimit := GreedyWindow.usedAt_append_le hle (h5h hlimit) hlimit.le
  used7d hplan := weekUsage_append_le hpos hle (h7d hplan)

/-- Records may be raised by a total that fits in both windows. -/
lemma map (extra : ValuePackageUsageRecord → Int) (htime : ∀ r, (f r).createdAt = r.createdAt)
    (hextra : ∀ r ∈ records, 0 ≤ extra r)
    (hquota : ∀ r ∈ records, (f r).quota ≤ r.quota + extra r)
    (h5h : 0 < plan.limit5hAmount →
      used5hAt records now + (records.map extra).sum ≤ plan.limit5hAmount)
    (h7d : valuePackageHas7dWindow plan = true →
      weekUsage startTime records now + (records.map extra).sum ≤ plan.limit7dAmount) :
    Limits plan startTime (records.map f) now where
  used5h hlimit :=
    (GreedyWindow.usedAt_map_le_add htime hextra hquota now).trans (h5h hlimit)
  used7d hplan := (weekUsage_map_le_add htime hextra hquota).trans (h7d hplan)

end Limits

/-! ## Giving usage back -/

/-- The record opens a 5h window of the records before it. -/
def OpensWindow (windowSeconds now : Int) (before : List ValuePackageUsageRecord)
    (record : ValuePackageUsageRecord) : Prop :=
  windowCounts now record = true ∧
    GreedyWindow.Opens (·.createdAt) windowSeconds
      (GreedyWindow.last (·.createdAt) (·.quota) windowSeconds (before.filter (windowCounts now)))
      record

/-- The usage record of a request of one package. -/
def usageAt (requestId : String) (quota createdAt : Int) : ValuePackageUsageRecord :=
  ⟨1, 1, requestId, quota, 0, createdAt⟩

end Yunbay
