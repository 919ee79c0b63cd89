import Yunbay.Data.GreedyWindow
import Yunbay.Subscription.Schema

/-!
# Window usage of a value package

`valuePackageFixedWindowUsageDetails` is the loop that finds the usage of the current 5h window,
`calcValuePackageAnchoredWindow` the 7d window anchored at the start of the subscription, and
`buildValuePackageWindowUsageDetailsFromRecords` combines them over the records a query returned.

The loop runs a greedy partition and forgets the windows that have closed.
`fixedWindowDetails_eq` says that on records in order of creation it computes
the open weight of the last greedy window (`GreedyWindow.usedAt`).
-/

namespace Yunbay

open GreedyWindow

variable {windowSeconds now : Int} {window : FixedWindow} {record : ValuePackageUsageRecord}
  {records : List ValuePackageUsageRecord}

def valuePackage5hWindowSeconds : Int := 5 * 3600

def valuePackage7dWindowSeconds : Int := 7 * 24 * 3600

/-! ## The 5h loop -/

/-- The variables of the loop of `valuePackageFixedWindowUsageDetails`. -/
structure FixedWindow where
  windowStart : Int
  windowEnd : Int
  expiredUntil : Int
  used : Int

/-- A window opens at a record that meets none, or only one that has ended. -/
def FixedWindow.openAt (window : FixedWindow) (windowSeconds createdAt : Int) : FixedWindow :=
  if window.windowStart = 0 ∨ window.windowEnd ≤ createdAt then
    { window with
      windowStart := createdAt, windowEnd := createdAt + windowSeconds, used := 0 }
  else window

/-- One round of the loop. -/
def FixedWindow.next (windowSeconds now : Int) (window : FixedWindow)
    (record : ValuePackageUsageRecord) : FixedWindow :=
  if record.quota ≤ 0 ∨ record.createdAt ≤ 0 ∨ now < record.createdAt then window
  else if record.createdAt < window.expiredUntil then window
  else
    let window := window.openAt windowSeconds record.createdAt
    if window.windowEnd ≤ now then
      { windowStart := 0, windowEnd := 0, expiredUntil := window.windowEnd, used := 0 }
    else { window with used := window.used + record.quota }

/-- `valuePackageFixedWindowUsageDetails`: the usage of the current window and its start. -/
def valuePackageFixedWindowUsageDetails (records : List ValuePackageUsageRecord)
    (windowSeconds now : Int) : Int × Int :=
  if windowSeconds ≤ 0 ∨ now ≤ 0 ∨ records = [] then (0, 0)
  else
    let window := records.foldl (FixedWindow.next windowSeconds now) ⟨0, 0, 0, 0⟩
    if window.windowStart = 0 then (0, 0) else (window.used, window.windowStart)

/-! ## The anchored 7d window -/

def valuePackageSubscriptionAnchorStart (sub : UserSubscription) (now : Int) : Int :=
  if 0 < sub.startTime then sub.startTime
  else if 0 < sub.createdAt ∧ (now ≤ 0 ∨ sub.createdAt ≤ now) then sub.createdAt
  else 0

/-- A window of time. -/
structure AnchoredWindow where
  start : Int
  «end» : Int

/-- `calcValuePackageAnchoredWindow`. The division is of non-negative numbers, where Go's
truncation and `/` agree. -/
def calcValuePackageAnchoredWindow (startTime endTime windowSeconds now : Int) :
    AnchoredWindow :=
  if startTime ≤ 0 ∨ windowSeconds ≤ 0 then ⟨0, 0⟩
  else
    let now := if now ≤ 0 ∨ now < startTime then startTime else now
    let windowStart := startTime + (now - startTime) / windowSeconds * windowSeconds
    let windowEnd := windowStart + windowSeconds
    let windowEnd := if 0 < endTime ∧ endTime < windowEnd then endTime else windowEnd
    if windowEnd ≤ windowStart then ⟨0, 0⟩ else ⟨windowStart, windowEnd⟩

def valuePackageHas7dWindow (plan : SubscriptionPlan) : Bool :=
  plan.isValuePackage && plan.packageType = .month && 0 < plan.limit7dAmount

def valuePackageResetClears7d (plan : SubscriptionPlan) : Bool :=
  plan.isValuePackage && plan.packageType = .month && 0 < plan.limit7dAmount

/-! ## Both windows over a list of records -/

/-- What is used in each window. -/
structure ValuePackageWindowUsageDetails where
  used5h : Int := 0
  earliest5hCreatedAt : Int := 0
  resetAt5h : Int := 0
  resetSeconds5h : Int := 0
  used7d : Int := 0
  earliest7dCreatedAt : Int := 0
  resetAt7d : Int := 0
  resetSeconds7d : Int := 0

/-- The reset that the windows take into account: only a past one counts. -/
def effectiveLastResetAt (lastResetAt now : Int) : Int :=
  if 0 < lastResetAt ∧ lastResetAt ≤ now then lastResetAt else 0

/-- A record of the current epoch with positive quota that is not in the future. -/
def countsAt (sub : UserSubscription) (now : Int) (record : ValuePackageUsageRecord) : Bool :=
  record.quotaEpoch = sub.quotaEpoch ∧ 0 < record.quota ∧ 0 < record.createdAt ∧
    record.createdAt ≤ now

/-- The records the 5h loop reads. -/
def fiveHourRecords (sub : UserSubscription) (records : List ValuePackageUsageRecord)
    (lastResetAt now : Int) : List ValuePackageUsageRecord :=
  let resetAt := effectiveLastResetAt lastResetAt now
  records.filter fun record =>
    countsAt sub now record && !(0 < resetAt && record.createdAt < resetAt)

/-- The 5h half of `buildValuePackageWindowUsageDetailsFromRecords`. -/
def fiveHourDetails (sub : UserSubscription) (records : List ValuePackageUsageRecord)
    (lastResetAt now : Int) : ValuePackageWindowUsageDetails :=
  let usage := valuePackageFixedWindowUsageDetails
    (fiveHourRecords sub records lastResetAt now) valuePackage5hWindowSeconds now
  let details : ValuePackageWindowUsageDetails :=
    { used5h := usage.1, earliest5hCreatedAt := usage.2 }
  if 0 < usage.1 ∧ 0 < usage.2 then
    { details with
      resetAt5h := usage.2 + valuePackage5hWindowSeconds
      resetSeconds5h := max 0 (usage.2 + valuePackage5hWindowSeconds - now) }
  else details

/-- The start of the 7d window after a reset that clears it. -/
def effective7dStart (plan : SubscriptionPlan) (window : AnchoredWindow)
    (lastResetAt now : Int) : Int :=
  if valuePackageResetClears7d plan ∧ window.start < effectiveLastResetAt lastResetAt now then
    effectiveLastResetAt lastResetAt now
  else window.start

/-- The records counted in the 7d window. -/
def sevenDayRecords (sub : UserSubscription) (plan : SubscriptionPlan) (window : AnchoredWindow)
    (records : List ValuePackageUsageRecord) (lastResetAt now : Int) :
    List ValuePackageUsageRecord :=
  records.filter fun record =>
    countsAt sub now record && effective7dStart plan window lastResetAt now ≤ record.createdAt &&
      record.createdAt < window.end

/-- The earliest creation time of the records, or `0`. -/
def earliestCreatedAt (records : List ValuePackageUsageRecord) : Int :=
  records.foldl
    (fun earliest record =>
      if earliest = 0 ∨ record.createdAt < earliest then record.createdAt else earliest) 0

def buildValuePackageWindowUsageDetailsFromRecords (sub : UserSubscription)
    (plan : SubscriptionPlan) (records : List ValuePackageUsageRecord) (lastResetAt now : Int) :
    ValuePackageWindowUsageDetails :=
  if now ≤ 0 then {}
  else
    let details := fiveHourDetails sub records lastResetAt now
    if !valuePackageHas7dWindow plan then details
    else
      let anchorStart := valuePackageSubscriptionAnchorStart sub now
      if anchorStart ≤ 0 then details
      else
        let window := calcValuePackageAnchoredWindow anchorStart sub.endTime
          valuePackage7dWindowSeconds now
        if window.start ≤ 0 ∨ window.end ≤ 0 then details
        else
          let counted := sevenDayRecords sub plan window records lastResetAt now
          { details with
            used7d := (counted.map (·.quota)).sum
            earliest7dCreatedAt := earliestCreatedAt counted
            resetAt7d := window.end
            resetSeconds7d := max 0 (window.end - now) }

/-! ## Queries -/

/-- `getLastValuePackageQuotaResetAtTx`: `COALESCE(MAX(reset_at), 0)` over the past resets. -/
def getLastValuePackageQuotaResetAtTx (db : DB) (userId userSubscriptionId now : Int) : Int :=
  ((db.quotaResets.filter fun reset =>
      reset.userId = userId ∧ reset.userSubscriptionId = userSubscriptionId ∧
        reset.resetAt ≤ now).map (·.resetAt)).max?.getD 0

/-- The lower bound of the usage query. -/
def usageLowerBound (sub : UserSubscription) (now : Int) : Int :=
  let lowerBound := valuePackageSubscriptionAnchorStart sub now
  if lowerBound ≤ 0 then now - valuePackage7dWindowSeconds else lowerBound

/-- The usage records of one epoch between the lower bound and `now` that pass `p`, ordered by
`created_at asc, id asc`. The table is in order of ids, so a stable sort gives that order. -/
def queryUsageRecords (db : DB) (userId : Int) (sub : UserSubscription) (quotaEpoch now : Int)
    (p : ValuePackageUsageRecord → Bool) : List ValuePackageUsageRecord :=
  (db.usageRecords.rows.filter fun record =>
      record.userId = userId && record.userSubscriptionId = sub.id &&
        record.quotaEpoch = quotaEpoch && usageLowerBound sub now ≤ record.createdAt &&
        record.createdAt ≤ now && p record).insertionSort
    fun a b => a.createdAt ≤ b.createdAt

def getValuePackageWindowUsageDetailsTx (db : DB) (userId userSubscriptionId now : Int) :
    Except TxError ValuePackageWindowUsageDetails := do
  match db.subscriptions.get? userSubscriptionId with
  | none => .error .recordNotFound
  | some sub =>
    Except.check (sub.userId = userId) .recordNotFound
    let plan ← getSubscriptionPlanByIdTx db sub.planId
    let lastResetAt := getLastValuePackageQuotaResetAtTx db userId userSubscriptionId now
    let records := queryUsageRecords db userId sub sub.quotaEpoch now fun record =>
      0 < record.quota
    pure (buildValuePackageWindowUsageDetailsFromRecords sub plan records lastResetAt now)

/-! ## The loop computes the greedy partition -/

/-- The open weight of the last greedy 5h window. -/
abbrev used5hAt (records : List ValuePackageUsageRecord) (now : Int) : Int :=
  usedAt (·.createdAt) (·.quota) valuePackage5hWindowSeconds records now

/-- What the loop keeps of the last greedy window: everything while it is open at `now`, and only
its end once it has closed, which is not after the start of the last window. -/
def FixedWindow.Tracks (windowSeconds now : Int) (window : FixedWindow) :
    Option (Int × Int) → Prop
  | none => window = ⟨0, 0, 0, 0⟩
  | some (start, used) =>
    0 < start ∧
      if now < start + windowSeconds then
        window.windowStart = start ∧ window.windowEnd = start + windowSeconds ∧
          window.expiredUntil ≤ start ∧ window.used = used
      else window = ⟨0, 0, start + windowSeconds, 0⟩

/-- One round of the loop follows one greedy step, for a record that counts and does not
precede the last window. -/
lemma FixedWindow.Tracks.next {greedy : Option (Int × Int)}
    (h : window.Tracks windowSeconds now greedy) (hquota : 0 < record.quota)
    (hcreated : 0 < record.createdAt) (hnow : record.createdAt ≤ now)
    (hsorted : ∀ start used, greedy = some (start, used) → start ≤ record.createdAt) :
    (window.next windowSeconds now record).Tracks windowSeconds now
      (GreedyWindow.push (·.createdAt) (·.quota) windowSeconds greedy record) := by
  have hcounts : ¬(record.quota ≤ 0 ∨ record.createdAt ≤ 0 ∨ now < record.createdAt) := by omega
  simp only [FixedWindow.next, if_neg hcounts]
  rcases greedy with _ | ⟨start, used⟩
  · simp only [FixedWindow.Tracks] at h
    subst h
    have hexpired : ¬record.createdAt < 0 := by omega
    simp only [if_neg hexpired, FixedWindow.openAt, true_or, if_true, GreedyWindow.push]
    split_ifs with hclosed
    · exact ⟨hcreated, by rw [if_neg (by omega)]⟩
    · refine ⟨hcreated, ?_⟩
      rw [if_pos (by omega)]
      exact ⟨rfl, rfl, hcreated.le, by simp⟩
  · have hstart := hsorted start used rfl
    obtain ⟨hpos, hwindow⟩ := h
    simp only [GreedyWindow.push]
    by_cases hopen : now < start + windowSeconds
    · -- the last window is open at `now`, so the record joins it
      rw [if_pos hopen] at hwindow
      obtain ⟨h1, h2, h3, h4⟩ := hwindow
      have hsame : window.openAt windowSeconds record.createdAt = window := by
        unfold FixedWindow.openAt
        rw [if_neg (by omega)]
      have hexpired : ¬record.createdAt < window.expiredUntil := by omega
      have hend : ¬window.windowEnd ≤ now := by omega
      have hjoin : ¬start + windowSeconds ≤ record.createdAt := by omega
      rw [if_neg hexpired, hsame, if_neg hend, if_neg hjoin]
      exact ⟨hpos, by rw [if_pos hopen]; exact ⟨h1, h2, h3, by simp [h4]⟩⟩
    · rw [if_neg hopen] at hwindow
      subst hwindow
      by_cases hjoin : start + windowSeconds ≤ record.createdAt
      · rw [if_neg (by simpa using hjoin), if_pos hjoin]
        simp only [FixedWindow.openAt, true_or, if_true]
        split_ifs with hclosed
        · exact ⟨hcreated, by rw [if_neg (by omega)]⟩
        · refine ⟨hcreated, ?_⟩
          rw [if_pos (by omega)]
          exact ⟨rfl, rfl, hjoin, by simp⟩
      · rw [if_pos (by simpa using hjoin), if_neg hjoin]
        exact ⟨hpos, by rw [if_neg hopen]⟩

lemma last_start_le {bound : Int} (hbound : ∀ record ∈ records, record.createdAt ≤ bound)
    (start used : Int)
    (h : GreedyWindow.last (·.createdAt) (·.quota) windowSeconds records = some (start, used)) :
    start ≤ bound := by
  refine List.foldlRecOn (motive := fun greedy => ∀ start used, greedy = some (start, used) →
    start ≤ bound) records _ nofun ?_ start used h
  rintro (_ | ⟨start', used'⟩) ih record hrecord start used h
  all_goals
    have hcreated := hbound record hrecord
    simp only [GreedyWindow.push] at h
  · cases h
    exact hcreated
  · have hstart := ih start' used' rfl
    split_ifs at h <;> cases h <;> assumption

/-- The weight and the start of a window while it is open at `now`. -/
def openWindow (windowSeconds now : Int) : Option (Int × Int) → Int × Int
  | none => (0, 0)
  | some (start, used) => if now < start + windowSeconds then (used, start) else (0, 0)

lemma openWindow_fst (greedy : Option (Int × Int)) :
    (openWindow windowSeconds now greedy).1 = openWeight windowSeconds greedy now := by
  rcases greedy with _ | ⟨start, used⟩
  · rfl
  · simp only [openWindow, openWeight]
    split_ifs <;> rfl

/-- The records the loop does not skip. -/
def windowCounts (now : Int) (record : ValuePackageUsageRecord) : Bool :=
  0 < record.quota ∧ 0 < record.createdAt ∧ record.createdAt ≤ now

lemma windowCounts_iff :
    windowCounts now record = true ↔
      0 < record.quota ∧ 0 < record.createdAt ∧ record.createdAt ≤ now := by
  simp [windowCounts]

/-- A record that does not count passes the loop without a trace. -/
lemma FixedWindow.next_of_not_counts (h : ¬windowCounts now record = true) :
    window.next windowSeconds now record = window := by
  rw [windowCounts_iff] at h
  exact if_pos (by omega)

section

variable (hsorted : records.Pairwise fun a b => a.createdAt ≤ b.createdAt)

include hsorted

/-- After the whole loop, the variables follow the greedy partition of the records that count. -/
lemma tracks_foldl :
    (records.foldl (FixedWindow.next windowSeconds now) ⟨0, 0, 0, 0⟩).Tracks windowSeconds now
      (GreedyWindow.last (·.createdAt) (·.quota) windowSeconds
        (records.filter (windowCounts now))) := by
  induction records using List.reverseRecOn with
  | nil => simp [FixedWindow.Tracks]
  | append_singleton records record ih =>
    rw [List.pairwise_append] at hsorted
    obtain ⟨hpre, -, hcross⟩ := hsorted
    rw [List.foldl_append, List.filter_append, List.foldl_cons, List.foldl_nil]
    by_cases hcounts : windowCounts now record = true
    · obtain ⟨hquota, hcreated, hnow⟩ := windowCounts_iff.mp hcounts
      rw [List.filter_cons_of_pos hcounts, List.filter_nil, last_append]
      refine (ih hpre).next hquota hcreated hnow (last_start_le fun r hr => ?_)
      exact hcross r (List.mem_of_mem_filter hr) record (by simp)
    · rw [List.filter_cons_of_neg hcounts, List.filter_nil, List.append_nil,
        FixedWindow.next_of_not_counts hcounts]
      exact ih hpre

section

variable (hw : 0 < windowSeconds) (hnow : 0 < now)

include hw hnow

/-- On records in order of creation, the loop finds the last greedy window of the records that
count. -/
lemma fixedWindowDetails_eq :
    valuePackageFixedWindowUsageDetails records windowSeconds now =
      openWindow windowSeconds now (GreedyWindow.last (·.createdAt) (·.quota) windowSeconds
        (records.filter (windowCounts now))) := by
  by_cases hnil : records = []
  · subst hnil
    simp [valuePackageFixedWindowUsageDetails, openWindow]
  have htracks : FixedWindow.Tracks windowSeconds now _ _ := tracks_foldl hsorted
  unfold valuePackageFixedWindowUsageDetails
  rw [if_neg (by simp [hnil]; omega)]
  generalize List.foldl _ _ records = window at htracks ⊢
  generalize GreedyWindow.last _ _ _ _ = greedy at htracks ⊢
  rcases greedy with _ | ⟨start, used⟩
  · simp only [FixedWindow.Tracks] at htracks
    subst htracks
    rfl
  · obtain ⟨hpos, hwindow⟩ := htracks
    simp only [openWindow]
    by_cases hopen : now < start + windowSeconds
    · rw [if_pos hopen] at hwindow ⊢
      rw [if_neg (by omega), hwindow.1, hwindow.2.2.2]
    · rw [if_neg hopen] at hwindow ⊢
      rw [hwindow, if_pos rfl]

lemma fixedWindowDetails_used :
    (valuePackageFixedWindowUsageDetails records windowSeconds now).1 =
      usedAt (·.createdAt) (·.quota) windowSeconds
        (records.filter (windowCounts now)) now := by
  rw [fixedWindowDetails_eq hsorted hw hnow, openWindow_fst]
  rfl

end

end

/-- The last of the windows into which the records that count are cut greedily. -/
def lastWindow (windowSeconds now : Int) (records : List ValuePackageUsageRecord) :
    Option (List ValuePackageUsageRecord) :=
  (windows (·.createdAt) windowSeconds (records.filter (windowCounts now))).getLast?

/-- Two windows, of which the first one has closed. -/
def twoWindows : List ValuePackageUsageRecord :=
  [⟨1, 1, "r1", 7, 0, 10⟩, ⟨1, 1, "r2", 5, 0, 15⟩, ⟨1, 1, "r3", 3, 0, 20⟩, ⟨1, 1, "r4", 2, 0, 24⟩]

end Yunbay
