import Yunbay.Data.Grid
import Yunbay.Subscription.Reconcile
import Yunbay.Subscription.Renewal

/-!
# The reconcile and the live cycle grid

The reconcile writes the start of the current period of a package into `last_reset_time`. It counts
periods from the start of the package when the span of the package is a whole number of them, and
from the end the package had at the quota migration otherwise. The live renewal
(`maybeAdvanceValuePackageCycleTx`) counts them from the start of the package, always.
-/

namespace Yunbay

open Table

variable {sub : UserSubscription} {plan : SubscriptionPlan} {now t : Int}

/-! ## The live grid -/

lemma cycleStartAt_eq_start :
    cycleStartAt sub plan t = Grid.start sub.startTime (valuePackageCycleSeconds plan) t :=
  rfl

theorem cycleDue_iff (hd : 0 < valuePackageCycleSeconds plan) (hstart : 0 < sub.startTime) :
    CycleDue sub plan t ↔ max sub.startTime sub.lastResetTime <
      Grid.start sub.startTime (valuePackageCycleSeconds plan) t := by
  have hmax : (if sub.lastResetTime < sub.startTime then sub.startTime else sub.lastResetTime) =
      max sub.startTime sub.lastResetTime := by
    split_ifs <;> omega
  rw [CycleDue, hmax, cycleStartAt_eq_start]
  constructor
  · rintro ⟨-, hlate⟩
    exact not_le.mp hlate
  · intro hlate
    -- a period start after the first one is a whole period after it
    have hnext := Grid.add_le_start ((le_max_left _ _).trans_lt hlate)
    have hle : Grid.start sub.startTime (valuePackageCycleSeconds plan) t ≤ t := Grid.start_le hd
    exact ⟨by omega, not_le.mpr hlate⟩

lemma not_cycleDue_of_startTime_nonpos (hstart : sub.startTime ≤ 0) : ¬CycleDue sub plan t := by
  rintro ⟨hstarted, -⟩
  exact hstarted (.inr (.inl hstart))

lemma not_cycleDue_of_lt (ht : t < sub.startTime + valuePackageCycleSeconds plan) :
    ¬CycleDue sub plan t := by
  rintro ⟨hstarted, -⟩
  exact hstarted (.inr (.inr ht))

lemma forall_not_cycleDue_iff (hd : 0 < valuePackageCycleSeconds plan) (hstart : 0 < sub.startTime)
    (hreset : sub.startTime ≤ sub.lastResetTime) (hnow : sub.lastResetTime ≤ now)
    (hend : now < sub.lastResetTime + valuePackageCycleSeconds plan) :
    (∀ t, now ≤ t → t < sub.lastResetTime + valuePackageCycleSeconds plan →
        ¬CycleDue sub plan t) ↔
      valuePackageCycleSeconds plan ∣ sub.lastResetTime - sub.startTime := by
  rw [← Grid.forall_start_le_iff hd hnow hend]
  refine forall_congr' fun t => ?_
  rw [cycleDue_iff hd hstart, max_eq_right hreset, not_lt]

/-! ## The period of the reconcile -/

lemma cycleSeconds_eq (hpackage : plan.isValuePackage = true) : valuePackageCycleSeconds plan =
      valuePackageResetReconcilePeriodSeconds plan.packageType := by
  rw [valuePackageCycleSeconds, if_pos hpackage]
  cases plan.packageType <;> rfl

lemma cycleSeconds_pos (hpackage : plan.isValuePackage = true)
    (hfixed : plan.packageType.isFixed = true) : 0 < valuePackageCycleSeconds plan := by
  rw [cycleSeconds_eq hpackage]
  revert hfixed
  cases plan.packageType <;> decide

/-- The span of the package is a whole number of periods, and the first of them is over. -/
def OnSpanGrid (sub : UserSubscription) (duration now : Int) : Prop :=
  duration < sub.endTime - sub.startTime ∧ (sub.endTime - sub.startTime) % duration = 0 ∧
    sub.startTime + duration ≤ now

/-- The package was extended by whole periods after the migration, and its end of that time is
over. -/
def OnB2Grid (sub : UserSubscription) (duration now : Int) (row : B2Row) : Prop :=
  row.endTime < sub.endTime ∧ (sub.endTime - row.endTime) % duration = 0 ∧ row.endTime ≤ now

/-- The reconcile counts the periods from the end at the migration, and that end is not a whole
number of periods from the start of the package. -/
def GridsDiffer (sub : UserSubscription) (plan : SubscriptionPlan) (b2Row : Option B2Row)
    (now : Int) : Prop :=
  let duration := valuePackageCycleSeconds plan
  0 < sub.startTime ∧ sub.startTime < now ∧ ¬OnSpanGrid sub duration now ∧
    ∃ row, b2Row = some row ∧ OnB2Grid sub duration now row ∧
      sub.startTime ≤ row.endTime + (now - row.endTime) / duration * duration ∧
      ¬duration ∣ row.endTime - sub.startTime

lemma spanPeriodStart_of_onSpanGrid {duration : Int} (hd : 0 < duration)
    (h : OnSpanGrid sub duration now) :
    spanPeriodStart sub duration now = some (Grid.start sub.startTime duration now) := by
  obtain ⟨hspan, hwhole, hfirst⟩ := h
  have hindex : 1 ≤ (now - sub.startTime) / duration :=
    (Int.le_ediv_iff_mul_le hd).mpr (by omega)
  exact if_pos ⟨hspan, hwhole, hindex⟩

lemma spanPeriodStart_of_not_onSpanGrid {duration : Int} (hd : 0 < duration)
    (h : ¬OnSpanGrid sub duration now) : spanPeriodStart sub duration now = none := by
  refine if_neg ?_
  rintro ⟨hspan, hwhole, hindex⟩
  have hfirst : 1 * duration ≤ now - sub.startTime := (Int.le_ediv_iff_mul_le hd).mp hindex
  exact h ⟨hspan, hwhole, by omega⟩

section

variable (b2Row : Option B2Row) (hpackage : plan.isValuePackage = true)
  (hfixed : plan.packageType.isFixed = true) (hstart : sub.startTime < now)
  (hend : now < sub.endTime)

include hpackage hfixed hstart hend

/-- Once the package runs, the periods of its span come before those of the migration. -/
lemma currentPeriodStart_eq :
    valuePackageResetReconcileCurrentPeriodStart sub plan.packageType b2Row now =
      (spanPeriodStart sub (valuePackageCycleSeconds plan) now <|>
        b2PeriodStart sub (valuePackageCycleSeconds plan) b2Row now).getD 0 := by
  have hd := cycleSeconds_pos hpackage hfixed
  rw [valuePackageResetReconcileCurrentPeriodStart, ← cycleSeconds_eq hpackage]
  exact if_neg (by omega)

lemma currentPeriodStart_of_onSpanGrid
    (hspan : OnSpanGrid sub (valuePackageCycleSeconds plan) now) :
    valuePackageResetReconcileCurrentPeriodStart sub plan.packageType b2Row now =
      Grid.start sub.startTime (valuePackageCycleSeconds plan) now := by
  have hd := cycleSeconds_pos hpackage hfixed
  rw [currentPeriodStart_eq b2Row hpackage hfixed hstart hend,
    spanPeriodStart_of_onSpanGrid hd hspan]
  rfl

end

section

variable (hpackage : plan.isValuePackage = true) (hfixed : plan.packageType.isFixed = true)
  (hstart : sub.startTime < now) (hend : now < sub.endTime)
  (hspan : ¬OnSpanGrid sub (valuePackageCycleSeconds plan) now)

include hpackage hfixed hstart hend hspan

lemma currentPeriodStart_of_onB2Grid {b2 : B2Row}
    (hb2 : OnB2Grid sub (valuePackageCycleSeconds plan) now b2) :
    valuePackageResetReconcileCurrentPeriodStart sub plan.packageType (some b2) now =
      Grid.start b2.endTime (valuePackageCycleSeconds plan) now := by
  have hd := cycleSeconds_pos hpackage hfixed
  have hon : b2PeriodStart sub (valuePackageCycleSeconds plan) (some b2) now =
      some (Grid.start b2.endTime (valuePackageCycleSeconds plan) now) := if_pos hb2
  rw [currentPeriodStart_eq (some b2) hpackage hfixed hstart hend,
    spanPeriodStart_of_not_onSpanGrid hd hspan, hon]
  rfl

lemma currentPeriodStart_eq_zero {b2Row : Option B2Row}
    (hb2 : ∀ b2, b2Row = some b2 → ¬OnB2Grid sub (valuePackageCycleSeconds plan) now b2) :
    valuePackageResetReconcileCurrentPeriodStart sub plan.packageType b2Row now = 0 := by
  have hd := cycleSeconds_pos hpackage hfixed
  have hoff : b2PeriodStart sub (valuePackageCycleSeconds plan) b2Row now = none := by
    cases b2Row with
    | none => rfl
    | some b2 => exact if_neg (hb2 b2 rfl)
  rw [currentPeriodStart_eq b2Row hpackage hfixed hstart hend,
    spanPeriodStart_of_not_onSpanGrid hd hspan, hoff]
  rfl

end

/-! ## The renewal after the reconcile -/

/-- The end of the period that the row belongs to: the first period without a known start. -/
def ReconcileRow.periodEnd (row : ReconcileRow) (sub : UserSubscription)
    (plan : SubscriptionPlan) : Int :=
  (if row.cycleStart = 0 then sub.startTime else row.cycleStart) + valuePackageCycleSeconds plan

/-- No cycle of the rebuilt subscription falls due inside the period of its row. -/
def KeepsPeriod (row : ReconcileRow) (sub : UserSubscription) (plan : SubscriptionPlan)
    (now : Int) : Prop :=
  ∀ t, now ≤ t → t < row.periodEnd sub plan → ¬CycleDue (row.rebuilt sub) plan t

variable {row : ReconcileRow}

/-- Without a known period nothing is due before the end of the first one. -/
lemma keepsPeriod_of_cycleStart (hcycle : row.cycleStart = 0) :
    KeepsPeriod row sub plan now := by
  intro t _ ht
  rw [ReconcileRow.periodEnd, if_pos hcycle] at ht
  exact not_cycleDue_of_lt ht

lemma keepsPeriod_of_startTime_nonpos (hstart : sub.startTime ≤ 0) : KeepsPeriod row sub plan now :=
  fun _ _ _ => not_cycleDue_of_startTime_nonpos hstart

/-- A known period that begins before the package leaves its first cycle alone. -/
lemma keepsPeriod_of_cycleStart_lt (hcycle : row.cycleStart ≠ 0)
    (hlt : row.cycleStart < sub.startTime) : KeepsPeriod row sub plan now := by
  intro t _ ht
  rw [ReconcileRow.periodEnd, if_neg hcycle] at ht
  refine not_cycleDue_of_lt (ht.trans ?_)
  exact Int.add_lt_add_right hlt _

/-- A known period of a started package is kept exactly when it is on the live grid. -/
lemma keepsPeriod_iff_dvd (hd : 0 < valuePackageCycleSeconds plan) (hstart : 0 < sub.startTime)
    (hle : sub.startTime ≤ row.cycleStart) (hnow : row.cycleStart ≤ now)
    (hend : now < row.cycleStart + valuePackageCycleSeconds plan) :
    KeepsPeriod row sub plan now ↔
      valuePackageCycleSeconds plan ∣ row.cycleStart - sub.startTime := by
  have hcycle : row.cycleStart ≠ 0 := (hstart.trans_le hle).ne'
  rw [KeepsPeriod, ReconcileRow.periodEnd, if_neg hcycle]
  have hstart' : 0 < (row.rebuilt sub).startTime := hstart
  have hle' : (row.rebuilt sub).startTime ≤ (row.rebuilt sub).lastResetTime := hle
  exact forall_not_cycleDue_iff hd hstart' hle' hnow hend

/-- Counting periods from another origin keeps them on the grid, or off it. -/
lemma dvd_start_sub_iff {origin d c : Int} : d ∣ Grid.start c d now - origin ↔ d ∣ c - origin := by
  have hgrid : d ∣ Grid.start c d now - c := Grid.dvd_start_sub
  rw [← sub_add_sub_cancel (Grid.start c d now) c origin]
  exact dvd_add_right hgrid

lemma keepsPeriod_of_onSpanGrid (hd : 0 < valuePackageCycleSeconds plan)
    (hstart : 0 < sub.startTime) (hspan : OnSpanGrid sub (valuePackageCycleSeconds plan) now)
    (hcycle : row.cycleStart = Grid.start sub.startTime (valuePackageCycleSeconds plan) now) :
    KeepsPeriod row sub plan now := by
  have hle : row.cycleStart ≤ now := hcycle ▸ Grid.start_le hd
  have hlt : now < row.cycleStart + valuePackageCycleSeconds plan := hcycle ▸ Grid.lt_start_add hd
  have hlater : sub.startTime ≤ row.cycleStart := by
    have hfirst := hspan.2.2
    omega
  rw [keepsPeriod_iff_dvd hd hstart hlater hle hlt, hcycle]
  exact Grid.dvd_start_sub

/-- A period counted from the end at the migration is kept exactly when it began before the package
or that end is on the live grid. -/
lemma keepsPeriod_iff_of_onB2Grid {b2 : B2Row} (hd : 0 < valuePackageCycleSeconds plan)
    (hstart : 0 < sub.startTime)
    (hcycle : row.cycleStart = Grid.start b2.endTime (valuePackageCycleSeconds plan) now) :
    KeepsPeriod row sub plan now ↔
      ¬(sub.startTime ≤ row.cycleStart ∧
        ¬valuePackageCycleSeconds plan ∣ b2.endTime - sub.startTime) := by
  have hle : row.cycleStart ≤ now := hcycle ▸ Grid.start_le hd
  have hlt : now < row.cycleStart + valuePackageCycleSeconds plan := hcycle ▸ Grid.lt_start_add hd
  by_cases hlater : sub.startTime ≤ row.cycleStart
  · rw [keepsPeriod_iff_dvd hd hstart hlater hle hlt, hcycle, dvd_start_sub_iff, ← hcycle]
    simp [hlater]
  · refine iff_of_true ?_ fun hdiffer => hlater hdiffer.1
    by_cases hzero : row.cycleStart = 0
    · exact keepsPeriod_of_cycleStart hzero
    · exact keepsPeriod_of_cycleStart_lt hzero (not_le.mp hlater)

lemma keepsPeriod_iff {b2Row : Option B2Row} (hpackage : plan.isValuePackage = true)
    (hfixed : plan.packageType.isFixed = true) (hend : now < sub.endTime)
    (hcycle : row.cycleStart =
      valuePackageResetReconcileCurrentPeriodStart sub plan.packageType b2Row now) :
    KeepsPeriod row sub plan now ↔ ¬GridsDiffer sub plan b2Row now := by
  have hd := cycleSeconds_pos hpackage hfixed
  by_cases hstart : 0 < sub.startTime
  swap
  · exact iff_of_true (keepsPeriod_of_startTime_nonpos (not_lt.mp hstart))
      fun hdiffer => hstart hdiffer.1
  by_cases hnow : sub.startTime < now
  swap
  · -- the package has not begun, so no period is known
    have hzero : row.cycleStart = 0 := by
      rw [hcycle, valuePackageResetReconcileCurrentPeriodStart, if_pos (.inl (not_lt.mp hnow))]
    exact iff_of_true (keepsPeriod_of_cycleStart hzero) fun hdiffer => hnow hdiffer.2.1
  by_cases hspan : OnSpanGrid sub (valuePackageCycleSeconds plan) now
  · rw [currentPeriodStart_of_onSpanGrid b2Row hpackage hfixed hnow hend hspan] at hcycle
    exact iff_of_true (keepsPeriod_of_onSpanGrid hd hstart hspan hcycle)
      fun hdiffer => hdiffer.2.2.1 hspan
  by_cases hb2 : ∃ b2, b2Row = some b2 ∧ OnB2Grid sub (valuePackageCycleSeconds plan) now b2
  · obtain ⟨b2, rfl, hon⟩ := hb2
    rw [currentPeriodStart_of_onB2Grid hpackage hfixed hnow hend hspan hon] at hcycle
    rw [keepsPeriod_iff_of_onB2Grid hd hstart hcycle, hcycle]
    refine not_congr ⟨?_, ?_⟩
    · rintro ⟨hlater, hoff⟩
      exact ⟨hstart, hnow, hspan, b2, rfl, hon, hlater, hoff⟩
    · rintro ⟨-, -, -, other, hother, -, hlater, hoff⟩
      obtain rfl := Option.some.inj hother
      exact ⟨hlater, hoff⟩
  · have hzero : row.cycleStart = 0 := by
      rw [hcycle]
      exact currentPeriodStart_eq_zero hpackage hfixed hnow hend hspan
        fun b2 hsome hon => hb2 ⟨b2, hsome, hon⟩
    refine iff_of_true (keepsPeriod_of_cycleStart hzero) ?_
    rintro ⟨-, -, -, b2, hsome, hon, -⟩
    exact hb2 ⟨b2, hsome, hon⟩

lemma reconcileRow_of_mem_report {env : ReconcileEnv} {store : ReconcileStore} {b2 : B2State}
    {report : ReconcileReport}
    (hreport : buildValuePackageResetReconcileReport env store now b2 = .ok report)
    (hrow : row ∈ report.rows) (hsub : store.db.subscriptions.get? row.subscriptionId = some sub)
    (hplan : valuePackagePlanOf store.db sub = some plan) :
    sub ∈ legacySubscriptions store.db now ∧ reconcileRow store now b2 sub plan = .ok row := by
  simp only [buildValuePackageResetReconcileReport, Except.bind_eq_ok, Except.pure_eq_ok] at hreport
  obtain ⟨rows, hrows, rfl⟩ := hreport
  obtain ⟨other, hmem, plan', hplan', hother⟩ := reconcileRows_inv hrows hrow
  have hid : row.subscriptionId = other.id := by
    obtain ⟨-, -, -, -, rebuilt, -, -, rfl⟩ := reconcileRow_inv hother
    rfl
  have hget : store.db.subscriptions.get? other.id = some other :=
    get?_of_mem (mem_legacySubscriptions.mp hmem).1
  rw [hid, hget] at hsub
  obtain rfl := Option.some.inj hsub
  obtain rfl := Option.some.inj (hplan'.symm.trans hplan)
  exact ⟨hmem, hother⟩

/-- Every row of a report can be applied, and afterwards the live renewal does nothing inside the
period of the row, exactly unless the grid of the reconcile differs from the live one. -/
theorem reconciled_cycle_kept_iff {env : ReconcileEnv} {store : ReconcileStore} {b2 : B2State}
    {report : ReconcileReport}
    (hreport : buildValuePackageResetReconcileReport env store now b2 = .ok report)
    (hrow : row ∈ report.rows)
    (hsub : store.db.subscriptions.get? row.subscriptionId = some sub)
    (hplan : valuePackagePlanOf store.db sub = some plan) :
    ∃ store', applyReconcileRow store row now = .ok store' ∧
      store'.db.subscriptions.get? row.subscriptionId = some (row.rebuilt sub) ∧
      ((∀ t, now ≤ t → t < row.periodEnd sub plan →
          maybeAdvanceValuePackageCycleTx store'.db (row.rebuilt sub) plan t =
            .ok (row.rebuilt sub, store'.db)) ↔
        ¬GridsDiffer sub plan (b2.rowOf sub.id) now) := by
  obtain ⟨hmem, hmade⟩ := reconcileRow_of_mem_report hreport hrow hsub hplan
  refine ⟨_, applyRow_of_reconcileRow hmem hmade, ?_, ?_⟩
  · have hid : row.subscriptionId = (row.rebuilt sub).id := (key_of_get? hsub).symm
    rw [hid]
    exact get?_put_self _ _
  · obtain ⟨hpackage, hfixed, -, -, rebuilt, -, -, hmade⟩ := reconcileRow_inv hmade
    have hcycle : row.cycleStart = valuePackageResetReconcileCurrentPeriodStart sub
        plan.packageType (b2.rowOf sub.id) now := by
      rw [hmade]
      rfl
    rw [← keepsPeriod_iff hpackage hfixed (mem_legacySubscriptions.mp hmem).2.2 hcycle]
    simp only [maybeAdvance_eq_self_iff]
    rfl

/-- Manifest hashes of the right length. -/
def sampleReconcileEnv : ReconcileEnv where
  b2Hash := fun _ => String.ofList (List.replicate 64 'b')
  hash := fun _ => String.ofList (List.replicate 64 'a')

/-- `sampleDB` before its reconcile. -/
def sampleReconcileStore : ReconcileStore where
  db := sampleDB
  usageId := fun _ => 1
  usageId_lt := List.Pairwise.nil
  b2Receipts := Table.empty
  receipts := Table.empty

/-- A migration that has changed nothing. -/
def emptyB2State : B2State := ⟨"", 1500, []⟩

/-- A package that the migration has not seen. -/
theorem reconciled_cycle_kept_sample :
    ∃ report row, buildValuePackageResetReconcileReport sampleReconcileEnv sampleReconcileStore
        2000 emptyB2State = .ok report ∧ row ∈ report.rows ∧
      ∃ store', applyReconcileRow sampleReconcileStore row 2000 = .ok store' ∧
        store'.db.subscriptions.get? row.subscriptionId =
          some (row.rebuilt sampleSubscription) ∧
        ∀ t, 2000 ≤ t → t < row.periodEnd sampleSubscription samplePlan →
          maybeAdvanceValuePackageCycleTx store'.db (row.rebuilt sampleSubscription) samplePlan t =
            .ok (row.rebuilt sampleSubscription, store'.db) := by
  refine ⟨_, _, rfl, List.mem_cons_self, ?_⟩
  have hplan : valuePackagePlanOf sampleReconcileStore.db sampleSubscription = some samplePlan :=
    rfl
  have hreport : buildValuePackageResetReconcileReport sampleReconcileEnv sampleReconcileStore 2000
    emptyB2State = .ok _ := rfl
  obtain ⟨store', happly, hget, hiff⟩ :=
    reconciled_cycle_kept_iff hreport List.mem_cons_self rfl hplan
  refine ⟨store', happly, hget, hiff.mpr ?_⟩
  rintro ⟨-, -, -, row, hrow, -⟩
  cases hrow

/-- A package of 31 days at the migration, extended by a month of 30 days afterwards. -/
def extendedSubscription31 : UserSubscription :=
  { sampleSubscription with amountTotal := 2000, amountUsed := 300, endTime := 5271400 }

/-- The row of that package in the report of the migration. -/
def extendedB2Row : B2Row := ⟨1, 1, .month, 0, 0, 1000, 1000, 2679400⟩

/-- The package with one request in its second period. -/
def extendedStore : ReconcileStore where
  db := (sampleDB.saveSubscription extendedSubscription31).saveUsage ⟨1, 1, "r1", 300, 0, 2679401⟩
  usageId := fun _ => 1
  usageId_lt := List.pairwise_singleton _ _
  b2Receipts := Table.empty
  receipts := Table.empty

/-- The reconcile finds the second period of the package at `2679400` and rebuilds its usage of 300.
The live renewal discards it at `5185000`, before that period is over. -/
theorem reconciled_cycle_renewed_early :
    ∃ report row store', buildValuePackageResetReconcileReport sampleReconcileEnv extendedStore
        2679401 ⟨"", 1500, [extendedB2Row]⟩ = .ok report ∧ row ∈ report.rows ∧
      applyReconcileRow extendedStore row 2679401 = .ok store' ∧
      5185000 < row.periodEnd extendedSubscription31 samplePlan ∧
      ∃ sub next db', store'.db.subscriptions.get? row.subscriptionId = some sub ∧
        sub.amountUsed = 300 ∧
        maybeAdvanceValuePackageCycleTx store'.db sub samplePlan 5185000 = .ok (next, db') ∧
        next.amountUsed = 0 :=
  ⟨_, _, _, rfl, List.mem_cons_self, rfl, by decide, _, _, _, rfl, rfl, rfl, rfl⟩

end Yunbay
