import Yunbay.Subscription.Ledger
import Yunbay.Subscription.WindowUsage

/-!
# Two ways to admit a fresh request

A request that is seen for the first time is charged by `preConsumeValuePackageSubscription`, which
adds the amount to the usage of the current windows, or by `reserveValuePackageUsageToTarget`, which
puts a record behind the others and computes all windows again.

The newest record adds its own quota to both windows, so the two agree (`admission_paths_agree`) if
the 7d window contains the present. One that is anchored in the future, or not at all, takes no new
record, and then the reserve never meets the 7d limit.
-/

namespace Yunbay

open Except Table

variable {db db₁ db' : DB} {userId now : Int} {sub : UserSubscription}
  {record : ValuePackageUsageRecord} {requestId : String} {plan : SubscriptionPlan}
  {outcome : SubscriptionPreConsumeResult × DB} {result : SubscriptionPreConsumeResult}

/-! ## The newest record -/

section Newest

variable {lastResetAt : Int} {records : List ValuePackageUsageRecord}

lemma effectiveLastResetAt_le (hnow : 0 < now) : effectiveLastResetAt lastResetAt now ≤ now := by
  unfold effectiveLastResetAt
  split_ifs <;> omega

lemma fiveHourRecords_append (hnow : 0 < now) (hcounts : countsAt sub now record = true)
    (hcreated : record.createdAt = now) :
    fiveHourRecords sub (records ++ [record]) lastResetAt now =
      fiveHourRecords sub records lastResetAt now ++ [record] := by
  have hreset : effectiveLastResetAt lastResetAt now ≤ now := effectiveLastResetAt_le hnow
  unfold fiveHourRecords
  rw [List.filter_append, List.filter_cons_of_pos]
  · rfl
  · simp only [hcounts, hcreated, Bool.true_and, Bool.not_eq_true', Bool.and_eq_false_iff,
      decide_eq_false_iff_not, not_lt]
    exact .inr hreset

theorem details_used5h_append (hnow : 0 < now)
    (hsorted : records.Pairwise fun a b => a.createdAt ≤ b.createdAt)
    (hpast : ∀ r ∈ records, r.createdAt ≤ now) (hcounts : countsAt sub now record = true)
    (hcreated : record.createdAt = now) :
    (buildValuePackageWindowUsageDetailsFromRecords sub plan (records ++ [record]) lastResetAt
        now).used5h =
      (buildValuePackageWindowUsageDetailsFromRecords sub plan records lastResetAt now).used5h +
        record.quota := by
  have hquota : 0 < record.quota ∧ 0 < record.createdAt ∧ record.createdAt ≤ now :=
    (of_decide_eq_true hcounts).2
  have hkept : (fiveHourRecords sub records lastResetAt now).Pairwise
      fun a b => a.createdAt ≤ b.createdAt := hsorted.filter _
  have hall : (fiveHourRecords sub records lastResetAt now ++ [record]).Pairwise
      fun a b => a.createdAt ≤ b.createdAt := by
    refine List.pairwise_append.mpr ⟨hkept, List.pairwise_singleton _ _, fun r hr b hb => ?_⟩
    rw [List.mem_singleton.mp hb, hcreated]
    exact hpast r (List.mem_of_mem_filter hr)
  rw [details_used5h_eq hnow, details_used5h_eq hnow, fiveHourRecords_append hnow hcounts hcreated,
    fixedWindowDetails_used hall (by decide) hnow,
    fixedWindowDetails_used hkept (by decide) hnow, List.filter_append,
    List.filter_cons_of_pos (windowCounts_iff.mpr hquota), List.filter_nil]
  -- the record stands at the end of the list and at the present
  subst hcreated
  exact GreedyWindow.usedAt_append_self (by decide) _ record

theorem details_used7d_append (hplan : valuePackageHas7dWindow plan = true)
    (hanchor : 0 < valuePackageSubscriptionAnchorStart sub now)
    (hle : valuePackageSubscriptionAnchorStart sub now ≤ now) (hend : now < sub.endTime)
    (hcounts : countsAt sub now record = true) (hcreated : record.createdAt = now) :
    (buildValuePackageWindowUsageDetailsFromRecords sub plan (records ++ [record]) lastResetAt
        now).used7d =
      (buildValuePackageWindowUsageDetailsFromRecords sub plan records lastResetAt now).used7d +
        record.quota := by
  obtain ⟨windowEnd, hopen, hused⟩ := details_used7d_eq hplan hanchor hle
  have hsum : ∀ records, (buildValuePackageWindowUsageDetailsFromRecords sub plan records
      lastResetAt now).used7d = ((sevenDayRecords sub plan
        ⟨weekStart (valuePackageSubscriptionAnchorStart sub now) now, windowEnd⟩ records
        lastResetAt now).map (·.quota)).sum :=
    fun records => (hused records lastResetAt).resolve_right fun h => absurd hend (not_lt.mpr h.1)
  have hreset : effectiveLastResetAt lastResetAt now ≤ now :=
    effectiveLastResetAt_le (hanchor.trans_le hle)
  have hstart : effective7dStart plan
      ⟨weekStart (valuePackageSubscriptionAnchorStart sub now) now, windowEnd⟩ lastResetAt now ≤
        now := by
    unfold effective7dStart
    split_ifs
    · exact hreset
    · exact weekStart_le _ now
  rw [hsum, hsum]
  unfold sevenDayRecords
  rw [List.filter_append, List.filter_cons_of_pos]
  · simp
  · simp only [hcounts, hcreated, hstart, hopen hend, decide_true, Bool.and_self]

end Newest

/-! ## The records of the queries -/

lemma queryUsageRecords_sorted (db : DB) (userId : Int) (sub : UserSubscription)
    (epoch now : Int) (p : ValuePackageUsageRecord → Bool) :
    (queryUsageRecords db userId sub epoch now p).Pairwise fun a b => a.createdAt ≤ b.createdAt :=
  List.pairwise_insertionSort _ _

lemma mem_queryUsageRecords {epoch : Int} {p : ValuePackageUsageRecord → Bool} :
    record ∈ queryUsageRecords db userId sub epoch now p ↔
      record ∈ db.usageRecords.rows ∧ record.userId = userId ∧
        record.userSubscriptionId = sub.id ∧ record.quotaEpoch = epoch ∧
        usageLowerBound sub now ≤ record.createdAt ∧ record.createdAt ≤ now ∧
        p record = true := by
  unfold queryUsageRecords
  simp only [List.mem_insertionSort, List.mem_filter, Bool.and_eq_true, decide_eq_true_eq]
  tauto

lemma requestId_ne_of_fresh (hfresh : db.usageRecords.get? (sub.id, requestId) = none)
    (hmem : record ∈ db.usageRecords.rows) (hsub : record.userSubscriptionId = sub.id) :
    record.requestId ≠ requestId := by
  rintro rfl
  have hget := get?_of_mem hmem
  rw [show record.key = (sub.id, record.requestId) by rw [← hsub]; rfl, hfresh] at hget
  cases hget

/-- With the target of a fresh request, the records are those of the pre-consume and one more. -/
lemma nextUsageRecords_of_fresh (userId amount now : Int)
    (hfresh : db.usageRecords.get? (sub.id, requestId) = none) :
    nextUsageRecords db sub requestId userId ⟨0, 0, sub.quotaEpoch⟩ amount now =
      queryUsageRecords db userId sub sub.quotaEpoch now (fun record => 0 < record.quota) ++
        [newUsageRecord sub requestId userId amount sub.quotaEpoch now] := by
  have hquery : queryUsageRecords db userId sub sub.quotaEpoch now
      (fun record => 0 < record.quota || record.requestId = requestId) =
        queryUsageRecords db userId sub sub.quotaEpoch now (fun record => 0 < record.quota) := by
    unfold queryUsageRecords
    congr 1
    refine List.filter_congr fun record hmem => ?_
    by_cases hsub : record.userSubscriptionId = sub.id
    · simp [requestId_ne_of_fresh hfresh hmem hsub]
    · simp [hsub]
  have hother : ∀ record ∈ queryUsageRecords db userId sub sub.quotaEpoch now
      (fun record => 0 < record.quota), record.requestId ≠ requestId := by
    intro record hrecord
    obtain ⟨hmem, -, hsub, -⟩ := mem_queryUsageRecords.mp hrecord
    exact requestId_ne_of_fresh hfresh hmem hsub
  unfold nextUsageRecords
  simp only [hquery]
  rw [if_pos ⟨trivial, hother⟩]
  congr 1
  refine (List.map_congr_left fun record hrecord => ?_).trans (List.map_id _)
  exact if_neg (hother record hrecord)

/-! ## The limits -/

/-- The present lies in the windows of the package. -/
structure InWindows (sub : UserSubscription) (plan : SubscriptionPlan) (now : Int) : Prop where
  now_pos : 0 < now
  anchored : valuePackageHas7dWindow plan = true →
    0 < valuePackageSubscriptionAnchorStart sub now ∧
      valuePackageSubscriptionAnchorStart sub now ≤ now

section

variable (hget : db.subscriptions.get? sub.id = some sub) (huser : sub.userId = userId)
  (hplan : getSubscriptionPlanByIdTx db sub.planId = .ok plan)

include hget huser hplan

lemma windowUsageDetails_eq : getValuePackageWindowUsageDetailsTx db userId sub.id now =
      .ok (buildValuePackageWindowUsageDetailsFromRecords sub plan
        (queryUsageRecords db userId sub sub.quotaEpoch now fun record => 0 < record.quota)
        (getLastValuePackageQuotaResetAtTx db userId sub.id now) now) := by
  unfold getValuePackageWindowUsageDetailsTx
  simp only [hget]
  rw [bind_eq_ok]
  exact ⟨(), check_eq_ok.mpr huser, bind_eq_ok.mpr ⟨plan, hplan, rfl⟩⟩

/-- The two admission checks of a fresh request pass alike. -/
lemma checkLimits_iff {amount : Int} (hend : now < sub.endTime)
    (hfresh : db.usageRecords.get? (sub.id, requestId) = none) (hamount : 0 < amount)
    (hwindows : InWindows sub plan now) :
    checkPreConsumeLimits db sub plan userId amount now = .ok () ↔
      checkReserveLimits db sub plan requestId userId ⟨0, 0, sub.quotaEpoch⟩ amount now =
        .ok () := by
  have hnow := hwindows.now_pos
  have hcounts : countsAt sub now
      (newUsageRecord sub requestId userId amount sub.quotaEpoch now) = true :=
    decide_eq_true ⟨rfl, hamount, hnow, le_rfl⟩
  have hsorted := queryUsageRecords_sorted db userId sub sub.quotaEpoch now
    fun record => 0 < record.quota
  have hpast : ∀ r ∈ queryUsageRecords db userId sub sub.quotaEpoch now
      (fun record => 0 < record.quota), r.createdAt ≤ now := by
    intro r hr
    obtain ⟨-, -, -, -, -, hle, -⟩ := mem_queryUsageRecords.mp hr
    exact hle
  unfold checkPreConsumeLimits checkReserveLimits
  rw [windowUsageDetails_eq hget huser hplan]
  simp only [nextUsageRecords_of_fresh userId amount now hfresh, sub_zero]
  generalize queryUsageRecords db userId sub sub.quotaEpoch now _ = records at hsorted hpast ⊢
  generalize getLastValuePackageQuotaResetAtTx db userId sub.id now = lastResetAt
  rw [details_used5h_append hnow hsorted hpast hcounts rfl]
  simp only [bind_eq_ok, check_eq_ok, Except.ok.injEq, exists_eq_left',
    exists_const, newUsageRecord_quota]
  refine and_congr_right fun _ => and_congr_right fun _ => ?_
  by_cases h7d : valuePackageHas7dWindow plan = true
  · obtain ⟨hanchor, hle⟩ := hwindows.anchored h7d
    rw [details_used7d_append h7d hanchor hle hend hcounts rfl, newUsageRecord_quota]
  · simp [h7d]

end

/-! ## Both calls -/

section Fresh

variable {userSubscriptionId amount : Int}

/-- The checks of the arguments that both calls make. -/
def ValidArgs (requestId : String) (userId userSubscriptionId : Int) : Prop :=
  0 < userId ∧ 0 < userSubscriptionId ∧ ¬isBlank requestId = true

section

variable (hargs : ValidArgs requestId userId userSubscriptionId)

include hargs

lemma recordUsageTx_of_valid (hid : sub.id = userSubscriptionId)
    (hamount : 0 < amount) (db : DB) (epoch : Int) :
    recordValuePackageUsageTx db (newUsageRecord sub requestId userId amount epoch now) =
      .ok (db.saveUsage
        (upsertedUsage db (newUsageRecord sub requestId userId amount epoch now))) := by
  obtain ⟨huser, hsub, hblank⟩ := hargs
  refine recordUsageTx_eq_ok.mpr ⟨?_, rfl⟩
  simp only [newUsageRecord_userId, newUsageRecord_userSubscriptionId, newUsageRecord_quota,
    newUsageRecord_requestId, hid]
  rintro (h | h | h | h)
  · omega
  · omega
  · omega
  · exact hblank h

lemma preConsume_of_fresh (hamount : 0 < amount)
    (hfresh : db.preConsumeRecords.get? requestId = none)
    (hopen : openValuePackageTx db userId userSubscriptionId now = .ok (sub, plan, db₁))
    (hlimits : checkPreConsumeLimits db₁ sub plan userId amount now = .ok ()) :
    ∃ outcome, preConsumeValuePackageSubscription db now requestId userId userSubscriptionId
      amount = .ok outcome := by
  obtain ⟨-, -, hpre, hget⟩ := openValuePackageTx_frame hopen
  have hid : sub.id = userSubscriptionId := key_of_get? hget
  obtain ⟨huser, hsub, hblank⟩ := id hargs
  unfold preConsumeValuePackageSubscription freshPreConsume
  simp only [hfresh, hopen, bind_eq_ok, check_eq_ok, Except.ok.injEq,
    exists_eq_left', exists_const]
  simp only [hpre, hfresh, hlimits, recordUsageTx_of_valid hargs hid hamount,
    bind_eq_ok, Except.ok.injEq, exists_eq_left', pure_eq_ok]
  exact ⟨_, huser, hsub, hblank, hamount, (), trivial, rfl⟩

lemma reserve_of_fresh (hamount : 0 < amount)
    (hfind : findReservedRequest db₁ sub requestId userId userSubscriptionId =
      .ok ⟨0, 0, sub.quotaEpoch⟩)
    (hopen : openValuePackageTx db userId userSubscriptionId now = .ok (sub, plan, db₁))
    (hlimits : checkReserveLimits db₁ sub plan requestId userId ⟨0, 0, sub.quotaEpoch⟩ amount now =
      .ok ()) :
    ∃ outcome, reserveValuePackageUsageToTarget db now requestId userId userSubscriptionId
      amount = .ok outcome := by
  obtain ⟨-, -, -, hget⟩ := openValuePackageTx_frame hopen
  have hid : sub.id = userSubscriptionId := key_of_get? hget
  obtain ⟨huser, hsub, hblank⟩ := id hargs
  unfold reserveValuePackageUsageToTarget
  simp only [hopen, hfind, bind_eq_ok, check_eq_ok, Except.ok.injEq,
    exists_eq_left', exists_const]
  have hdelta : ¬amount - 0 = 0 := by omega
  have hraise : 0 < amount - 0 := by omega
  simp only [if_neg hdelta, if_pos hraise, ne_eq, not_true, if_false, hlimits,
    recordUsageTx_of_valid hargs hid hamount, bind_eq_ok, Except.ok.injEq,
    exists_eq_left', pure_eq_ok]
  exact ⟨_, hblank, huser, hsub, hamount.le, (), trivial, rfl⟩

end

lemma findReservedRequest_of_fresh (hpre : db.preConsumeRecords.get? requestId = none)
    (husage : db.usageRecords.get? (userSubscriptionId, requestId) = none) :
    findReservedRequest db sub requestId userId userSubscriptionId =
      .ok ⟨0, 0, sub.quotaEpoch⟩ := by
  unfold findReservedRequest
  simp [hpre, husage, check, Bind.bind, Except.bind, Pure.pure, Except.pure]

lemma validArgs_of_preConsume
    (h : preConsumeValuePackageSubscription db now requestId userId userSubscriptionId amount =
      .ok outcome) : ValidArgs requestId userId userSubscriptionId := by
  unfold preConsumeValuePackageSubscription at h
  obtain ⟨huser, h⟩ := of_check h
  obtain ⟨hsub, h⟩ := of_check h
  obtain ⟨_, hblank, -⟩ := bind_eq_ok.mp h
  exact ⟨huser, hsub, check_eq_ok.mp hblank⟩

lemma validArgs_of_reserve
    (h : reserveValuePackageUsageToTarget db now requestId userId userSubscriptionId amount =
      .ok outcome) : ValidArgs requestId userId userSubscriptionId := by
  unfold reserveValuePackageUsageToTarget at h
  obtain ⟨hblank, h⟩ := of_check h
  obtain ⟨huser, h⟩ := of_check h
  obtain ⟨_, hsub, -⟩ := bind_eq_ok.mp h
  exact ⟨huser, check_eq_ok.mp hsub, hblank⟩

/-- The package is charged with something that is not negative, and the present lies in its
windows. -/
def ChargedInWindows (db : DB) (userSubscriptionId now : Int) : Prop :=
  ∀ sub plan, db.subscriptions.get? userSubscriptionId = some sub →
    getSubscriptionPlanByIdTx db sub.planId = .ok plan →
    0 ≤ sub.amountUsed ∧ InWindows sub plan now

/-- Once the package is open, the used amount is not negative and the two checks agree. A renewal of
the cycle leaves the anchor and the end of the package where they are. -/
lemma openValuePackageTx_of_fresh (hamount : 0 < amount)
    (husage : db.usageRecords.get? (userSubscriptionId, requestId) = none)
    (hstate : ChargedInWindows db userSubscriptionId now)
    (hopen : openValuePackageTx db userId userSubscriptionId now = .ok (sub, plan, db₁)) :
    0 ≤ sub.amountUsed ∧
      (checkPreConsumeLimits db₁ sub plan userId amount now = .ok () ↔
        checkReserveLimits db₁ sub plan requestId userId ⟨0, 0, sub.quotaEpoch⟩ amount now =
          .ok ()) := by
  obtain ⟨hplans, husage₁, -, hget₁⟩ := openValuePackageTx_frame hopen
  obtain ⟨stored, hget, huser, -, hend, hplan, -, hadvance⟩ := openValuePackageTx_ok hopen
  obtain ⟨hused, hwindows⟩ := hstate stored plan hget hplan
  have hid : sub.id = userSubscriptionId := key_of_get? hget₁
  subst hid
  have hlimits : sub.userId = userId → sub.planId = stored.planId → now < sub.endTime →
      InWindows sub plan now →
      (checkPreConsumeLimits db₁ sub plan userId amount now = .ok () ↔
        checkReserveLimits db₁ sub plan requestId userId ⟨0, 0, sub.quotaEpoch⟩ amount now =
          .ok ()) := by
    intro huser hplanId hend hwindows
    refine checkLimits_iff hget₁ huser ?_ hend (by rw [husage₁, husage]) hamount hwindows
    rw [planById_congr hplans, hplanId, hplan]
  obtain ⟨-, rfl, -⟩ | ⟨-, -, rfl, -⟩ := maybeAdvance_eq_ok.mp hadvance
  · exact ⟨hused, hlimits huser rfl hend hwindows⟩
  · exact ⟨le_rfl, hlimits huser rfl hend ⟨hwindows.now_pos, hwindows.anchored⟩⟩

lemma preConsume_fresh_inv (hpre : db.preConsumeRecords.get? requestId = none)
    (h : preConsumeValuePackageSubscription db now requestId userId userSubscriptionId amount =
      .ok (result, db')) :
    ∃ sub plan db₁, openValuePackageTx db userId userSubscriptionId now = .ok (sub, plan, db₁) ∧
      checkPreConsumeLimits db₁ sub plan userId amount now = .ok () ∧
      db' = admitted db₁ sub requestId userId amount now := by
  obtain ⟨-, existing, hexisting, -⟩ | ⟨-, -, sub, plan, db₁, hopen, hlimits, hdb, -⟩ :=
    preConsumePackage_ok h
  · simp [hpre] at hexisting
  · exact ⟨sub, plan, db₁, hopen, hlimits, hdb⟩

lemma reserve_fresh_inv (hamount : 0 < amount)
    (hfind : ∀ {sub plan db₁},
      openValuePackageTx db userId userSubscriptionId now = .ok (sub, plan, db₁) →
      findReservedRequest db₁ sub requestId userId userSubscriptionId = .ok ⟨0, 0, sub.quotaEpoch⟩)
    (h : reserveValuePackageUsageToTarget db now requestId userId userSubscriptionId amount =
      .ok (result, db')) :
    ∃ sub plan db₁, openValuePackageTx db userId userSubscriptionId now = .ok (sub, plan, db₁) ∧
      checkReserveLimits db₁ sub plan requestId userId ⟨0, 0, sub.quotaEpoch⟩ amount now =
        .ok () ∧
      db' = (db₁.saveUsage (upsertedUsage db₁
        (newUsageRecord sub requestId userId amount sub.quotaEpoch now))).saveSubscription
          (chargeUsed sub amount) := by
  obtain ⟨-, sub, plan, db₁, request, hopen, hrequest, hcases⟩ :=
    reserveUsage_ok h
  obtain rfl : request = ⟨0, 0, sub.quotaEpoch⟩ :=
    Except.ok.inj (hrequest.symm.trans (hfind hopen))
  refine ⟨sub, plan, db₁, hopen, ?_⟩
  -- the request is at no target yet, and belongs to the current epoch
  obtain ⟨hzero, -⟩ | ⟨-, ⟨hother, -⟩ | ⟨-, hlimits, hdb⟩⟩ := hcases
  · exact absurd hzero hamount.ne'
  · exact absurd rfl hother
  · rw [sub_zero] at hdb
    exact ⟨hlimits hamount, hdb⟩

/-- For a fresh request and a positive amount, at a time that lies in the windows of the package,
the pre-consume and the reserve to the same amount are both accepted or both rejected, and leave the
same subscription rows and the same usage records. -/
theorem admission_paths_agree (hamount : 0 < amount)
    (hpre : db.preConsumeRecords.get? requestId = none)
    (husage : db.usageRecords.get? (userSubscriptionId, requestId) = none)
    (hstate : ChargedInWindows db userSubscriptionId now) :
    ((∃ outcome, preConsumeValuePackageSubscription db now requestId userId userSubscriptionId
        amount = .ok outcome) ↔
      ∃ outcome, reserveValuePackageUsageToTarget db now requestId userId userSubscriptionId
        amount = .ok outcome) ∧
    ∀ result₁ db₁ result₂ db₂,
      preConsumeValuePackageSubscription db now requestId userId userSubscriptionId amount =
        .ok (result₁, db₁) →
      reserveValuePackageUsageToTarget db now requestId userId userSubscriptionId amount =
        .ok (result₂, db₂) →
      db₁.subscriptions = db₂.subscriptions ∧ db₁.usageRecords = db₂.usageRecords := by
  -- the lookups of the reserve find nothing in the opened package either
  have hfind : ∀ {sub plan db₁},
      openValuePackageTx db userId userSubscriptionId now = .ok (sub, plan, db₁) →
      findReservedRequest db₁ sub requestId userId userSubscriptionId =
        .ok ⟨0, 0, sub.quotaEpoch⟩ := by
    intro sub plan db₁ hopen
    obtain ⟨-, husage₁, hpre₁, -⟩ := openValuePackageTx_frame hopen
    exact findReservedRequest_of_fresh (by rw [hpre₁, hpre]) (by rw [husage₁, husage])
  refine ⟨⟨?_, ?_⟩, ?_⟩
  · rintro ⟨⟨result, db'⟩, h⟩
    obtain ⟨sub, plan, db₁, hopen, hlimits, -⟩ := preConsume_fresh_inv hpre h
    obtain ⟨-, hiff⟩ := openValuePackageTx_of_fresh hamount husage hstate hopen
    exact reserve_of_fresh (validArgs_of_preConsume h) hamount (hfind hopen) hopen
      (hiff.mp hlimits)
  · rintro ⟨⟨result, db'⟩, h⟩
    obtain ⟨sub, plan, db₁, hopen, hlimits, -⟩ := reserve_fresh_inv hamount hfind h
    obtain ⟨-, hiff⟩ := openValuePackageTx_of_fresh hamount husage hstate hopen
    exact preConsume_of_fresh (validArgs_of_reserve h) hamount hpre hopen (hiff.mpr hlimits)
  · intro result₁ db₁ result₂ db₂ h₁ h₂
    obtain ⟨sub, plan, db', hopen, -, rfl⟩ := preConsume_fresh_inv hpre h₁
    obtain ⟨sub', plan', db'', hopen', -, rfl⟩ := reserve_fresh_inv hamount hfind h₂
    -- the package is opened in the same way by both
    obtain ⟨rfl, rfl, rfl⟩ : sub = sub' ∧ plan = plan' ∧ db' = db'' := by
      simpa using hopen.symm.trans hopen'
    obtain ⟨hused, -⟩ := openValuePackageTx_of_fresh hamount husage hstate hopen
    have hcharged : chargeUsed sub amount = { sub with amountUsed := sub.amountUsed + amount } := by
      simp only [chargeUsed, max_eq_right (show 0 ≤ sub.amountUsed + amount by omega)]
    rw [hcharged]
    exact ⟨rfl, rfl⟩

end Fresh

/-- A request of `sampleDB` next to the record of another one. -/
theorem admission_paths_agree_sample :
    let db := sampleDB.saveUsage ⟨1, 1, "r0", 5, 0, 1500⟩
    ∃ result₁ db₁ result₂ db₂,
      preConsumeValuePackageSubscription db 2000 "r1" 1 1 10 = .ok (result₁, db₁) ∧
      reserveValuePackageUsageToTarget db 2000 "r1" 1 1 10 = .ok (result₂, db₂) ∧
      db₁.subscriptions = db₂.subscriptions ∧ db₁.usageRecords = db₂.usageRecords := by
  intro db
  have hstate : ChargedInWindows db 1 2000 := by
    intro sub plan hsub hplan
    obtain rfl : sampleSubscription = sub := Option.some.inj hsub
    obtain rfl : samplePlan = plan := Except.ok.inj hplan
    exact ⟨by decide, by decide, by decide⟩
  have haccepted : ∃ result₁ db₁, preConsumeValuePackageSubscription db 2000 "r1" 1 1 10 =
      .ok (result₁, db₁) := ⟨_, _, rfl⟩
  obtain ⟨result₁, db₁, hpre⟩ := haccepted
  obtain ⟨⟨result₂, db₂⟩, hreserve⟩ := (admission_paths_agree (by decide) (by decide) (by decide)
    hstate).1.mp ⟨_, hpre⟩
  exact ⟨result₁, db₁, result₂, db₂, hpre, hreserve, (admission_paths_agree (by decide) (by decide)
    (by decide) hstate).2 _ _ _ _ hpre hreserve⟩

/-- A package with a 7d limit of 500 that starts in the future. -/
def futureDB : DB where
  plans := Table.empty.put { samplePlan with limit5hAmount := 0 }
  subscriptions := Table.empty.put { sampleSubscription with startTime := 5000 }
  preConsumeRecords := Table.empty
  usageRecords := Table.empty
  quotaResets := []
  preferences := Table.empty
  resetCountLedger := []

/-- Before the start of the package a request over its 7d limit is rejected by the pre-consume and
accepted by the reserve, whose record falls before the window. -/
theorem admission_paths_differ :
    (futureDB.subscriptions.get? 1).map (·.amountUsed) = some 0 ∧ futureDB.usageRecords.rows = [] ∧
    (preConsumeValuePackageSubscription futureDB 2000 "r1" 1 1 600).toOption.isSome = false ∧
    (reserveValuePackageUsageToTarget futureDB 2000 "r1" 1 1 600).toOption.isSome = true := by
  decide +kernel

end Yunbay
