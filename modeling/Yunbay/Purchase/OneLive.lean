import Yunbay.Purchase.Lifecycle

/-!
# One running package per user

A purchase replaces or extends the highest running package of the user. `one_live_package`: there is
never a second one, in every run of the shop in which the clock does not go back and the plans keep
their kind, and a covered package does not come back to life.

The step lemma is `PackageSold.running_cases`: after a sale the only running package of the buyer
is the one that has been sold.
-/

namespace Yunbay

open Run Table

variable {later userId now : Int} {sub : UserSubscription} {subPlan plan : SubscriptionPlan}
  {shop : Shop} {env : ShopEnv} {op : ShopOp}

/-! ## Running packages -/

section Running

variable {db db' : DB}

lemma RunningPackage.mono (h : RunningPackage db userId later sub plan) (hle : now ≤ later) :
    RunningPackage db userId now sub plan :=
  { h with running := lt_of_le_of_lt hle h.running }

/-- A row that was there before has been running before. -/
lemma RunningPackage.of_old (h : RunningPackage db' userId now sub plan)
    (hplans : db'.plans = db.plans) (hold : db.subscriptions.get? sub.id = some sub) :
    RunningPackage db userId now sub plan :=
  { h with
    stored := hold
    hasPlan := by rw [← planById_congr hplans]; exact h.hasPlan }

/-- The user has at most one running package. -/
def OneRunning (userId now : Int) (db : DB) : Prop :=
  ∀ a planA b planB, RunningPackage db userId now a planA → RunningPackage db userId now b planB →
    a.id = b.id

lemma OneRunning.mono (h : OneRunning userId now db) (hle : now ≤ later) :
    OneRunning userId later db :=
  fun a planA b planB ha hb => h a planA b planB (ha.mono hle) (hb.mono hle)

lemma OneRunning.of_running (h : OneRunning userId now db)
    (hold : ∀ sub plan, RunningPackage db' userId now sub plan →
      ∃ plan', RunningPackage db userId now sub plan') : OneRunning userId now db' := by
  intro a planA b planB ha hb
  obtain ⟨planA', ha⟩ := hold a planA ha
  obtain ⟨planB', hb⟩ := hold b planB hb
  exact h a planA' b planB' ha hb

end Running

/-! ## Sales -/

section Sale

variable {shop' : Shop} {times : SaleTimes} {buyer : Int} {completed : UserSubscription}

section

variable (h : PackageSold env shop times buyer plan completed shop')
  (hplans : shop'.db.plans = shop.db.plans) (hone : OneRunning userId times.intentNow shop.db)

include h hplans hone

/-- After a sale the buyer runs the package sold, and the others what they have run before. -/
theorem PackageSold.running_cases
    (hrunning : RunningPackage shop'.db userId times.intentNow sub subPlan) :
    userId = buyer ∧ sub = completed ∨
      userId ≠ buyer ∧ RunningPackage shop.db userId times.intentNow sub subPlan := by
  have hmem := mem_of_get? hrunning.stored
  -- an old row that is still running cannot be the buyer's
  have hold (hrow : sub ∈ shop.db.subscriptions.rows)
      (hbuyer : RunningPackage shop.db buyer times.intentNow sub subPlan → False) :
      userId = buyer ∧ sub = completed ∨
        userId ≠ buyer ∧ RunningPackage shop.db userId times.intentNow sub subPlan := by
    have hbefore := hrunning.of_old hplans (get?_of_mem hrow)
    refine .inr ⟨?_, hbefore⟩
    rintro rfl
    exact hbuyer hbefore
  cases h with
  | created endUnix hend hnone hnew hsubs hlast =>
    rw [hsubs, mem_put] at hmem
    rcases hmem with rfl | ⟨hrow, -⟩
    · have huser := hrunning.user
      rw [hnew, newValuePackage_userId] at huser
      exact .inl ⟨huser.symm, rfl⟩
    · exact hold hrow (hnone sub subPlan)
  | extended endUnix existing currentPlan db' hend hexisting hplan hextend hsubs hlast =>
    obtain ⟨stored, hget, -, hid, huser, -, -, -, hdb⟩ :=
      extendPackage_row hextend
    obtain rfl : existing = stored := Option.some.inj (hexisting.stored.symm.trans hget)
    rw [hsubs, hdb, mem_put] at hmem
    rcases hmem with rfl | ⟨hrow, hne⟩
    · refine .inl ⟨?_, rfl⟩
      rw [← hrunning.user, huser, hexisting.user]
    · by_cases hsame : userId = buyer
      · subst hsame
        refine hold hrow fun hbefore => hne ?_
        rw [hid]
        exact hone sub subPlan existing currentPlan hbefore hexisting
      · exact .inr ⟨hsame, hrunning.of_old hplans (get?_of_mem hrow)⟩
  | upgraded endUnix current currentPlan hend hcurrent hplan hnew hsubs hlast =>
    rw [hsubs, mem_put] at hmem
    rcases hmem with rfl | ⟨hrow, -⟩
    · have huser := hrunning.user
      rw [hnew, newValuePackage_userId] at huser
      exact .inl ⟨huser.symm, rfl⟩
    · rcases mem_put.mp hrow with rfl | ⟨hrow, hne⟩
      · -- the covered package does not run any more
        cases hrunning.active
      · by_cases hsame : userId = buyer
        · subst hsame
          exact hold hrow fun hbefore =>
            hne (hone sub subPlan current currentPlan hbefore hcurrent)
        · exact .inr ⟨hsame, hrunning.of_old hplans (get?_of_mem hrow)⟩

lemma PackageSold.oneRunning : OneRunning userId times.intentNow shop'.db := by
  intro a planA b planB ha hb
  rcases h.running_cases hplans hone ha with ⟨huser, rfl⟩ | ⟨hother, ha⟩
  · rcases h.running_cases hplans hone hb with ⟨-, rfl⟩ | ⟨hother, -⟩
    · rfl
    · exact absurd huser hother
  · rcases h.running_cases hplans hone hb with ⟨huser, -⟩ | ⟨-, hb⟩
    · exact absurd huser hother
    · exact hone a planA b planB ha hb

end

end Sale

/-! ## All calls -/

/-- An edit of a plan leaves the kind, the type and the level alone; a new plan has no subscriptions
yet. -/
def Shop.keepsPlans (shop : Shop) : ShopOp → Bool
  | .updatePlan plan terms =>
    match shop.db.plans.get? plan.id with
    | some old => old.planKind = plan.planKind ∧ old.packageType = plan.packageType ∧
        (shop.terms plan.id).packageLevel = terms.packageLevel
    | none => shop.db.subscriptions.rows.all fun sub => sub.planId ≠ plan.id
  | _ => true

lemma RunningPackage.of_savePlan {terms : PlanTerms}
    (hkeeps : shop.keepsPlans (.updatePlan plan terms) = true)
    (h : RunningPackage (shop.savePlan plan terms).db userId now sub subPlan) :
    ∃ oldPlan, RunningPackage shop.db userId now sub oldPlan := by
  have hstored : shop.db.subscriptions.get? sub.id = some sub := h.stored
  obtain ⟨hpos, row, hrow, hnormal⟩ := planById_eq_ok.mp h.hasPlan
  have hrow : (shop.db.plans.put plan).get? sub.planId = some row := hrow
  rw [get?_put] at hrow
  split_ifs at hrow with hkey
  · -- the subscription is on the plan that has been edited
    obtain rfl : plan = row := Option.some.inj hrow
    rw [Shop.keepsPlans] at hkeeps
    cases hold : shop.db.plans.get? plan.id with
    | none =>
      rw [hold] at hkeeps
      have hother := List.all_eq_true.mp hkeeps sub (mem_of_get? hstored)
      exact absurd hkey.symm (by simpa using hother)
    | some old =>
      rw [hold] at hkeeps
      obtain ⟨hkind, -⟩ := of_decide_eq_true hkeeps
      refine ⟨normalizeValuePackagePlan old, hstored, h.user, h.active, h.running, ?_, ?_⟩
      · rw [← hkey]
        exact planById_eq_ok.mpr ⟨hkey ▸ hpos, old, hold, rfl⟩
      · have hpackage := h.package
        rw [← hnormal, normalizePlan_isValuePackage] at hpackage
        rw [normalizePlan_isValuePackage, SubscriptionPlan.isValuePackage, hkind]
        exact hpackage
  · exact ⟨subPlan, hstored, h.user, h.active, h.running,
      planById_eq_ok.mpr ⟨hpos, row, hrow, hnormal⟩, h.package⟩

lemma expireRows_active
    (hget : (shop.expireRows userId now).db.subscriptions.get? sub.id = some sub)
    (hactive : sub.status = .active) : shop.db.subscriptions.get? sub.id = some sub := by
  unfold Shop.expireRows at hget
  rw [Shop.withDB_db, get?_mapRows] at hget
  obtain ⟨row, hrow, hexpire⟩ := Option.map_eq_some_iff.mp hget
  unfold expireRow at hexpire
  split_ifs at hexpire
  · rw [← hexpire] at hactive
    cases hactive
  · rw [hexpire] at hrow
    exact hrow

/-- After a call that does not sell a package, only packages run that were running before. -/
lemma ShopChange.running_old {shop' : Shop} (h : ShopChange env shop op shop')
    (hsale : op.saleTimes? = none) (hkeeps : shop.keepsPlans op = true)
    (hrunning : RunningPackage shop'.db userId now sub subPlan) :
    ∃ oldPlan, RunningPackage shop.db userId now sub oldPlan := by
  cases h with
  | unchanged | orderExpired => exact ⟨subPlan, hrunning⟩
  | sold htimes =>
    rw [hsale] at htimes
    cases htimes
  | @regularSold nowUnix timestamp buyer planId plan new hplan huser hkind hnew =>
    obtain ⟨users, heq⟩ := shop.upgradeUser_eq buyer plan
    rw [heq] at hrunning
    have hget := hrunning.stored
    rw [Shop.createSubscription_db, DB.saveSubscription_subscriptions, get?_put] at hget
    split_ifs at hget with hid
    · -- the new subscription is not a value package
      obtain rfl : new = sub := Option.some.inj hget
      have hsub : getSubscriptionPlanByIdTx shop.db planId = .ok subPlan := by
        rw [← planById_id hplan, ← hnew.planId]
        exact hrunning.hasPlan
      obtain rfl : plan = subPlan := Except.ok.inj (hplan.symm.trans hsub)
      exact absurd (hkind.symm.trans hrunning.package) Bool.false_ne_true
    · exact ⟨subPlan, hrunning.of_old rfl hget⟩
  | expired clock limit =>
    refine ⟨subPlan, ?_⟩
    refine expireDue_induction (fun state : Shop =>
      RunningPackage state.db userId now sub subPlan →
        RunningPackage shop.db userId now sub subPlan) ?_ limit id hrunning
    intro state other _ hstate hafter
    obtain ⟨users, heq⟩ := expireDueUser_users clock state other
    rw [heq] at hafter
    exact hstate (hafter.of_old rfl (expireRows_active hafter.stored hafter.active))
  | @cancelled clock id old _ hget hdowngrade =>
    obtain ⟨users, rfl⟩ := downgradeGroup_users hdowngrade
    have hstored := hrunning.stored
    have hstored : (shop.db.subscriptions.put
      { old with status := .cancelled, endTime := clock }).get? sub.id = some sub := hstored
    rw [get?_put] at hstored
    split_ifs at hstored
    · rw [← Option.some.inj hstored] at hrunning
      cases hrunning.active
    · exact ⟨subPlan, hrunning.of_old rfl hstored⟩
  | deleted hget hdowngrade =>
    obtain ⟨users, rfl⟩ := downgradeGroup_users hdowngrade
    exact ⟨subPlan, hrunning.of_old rfl (get?_filter_eq_some.mp hrunning.stored).1⟩
  | planUpdated plan terms => exact hrunning.of_savePlan hkeeps

lemma timedShopStep_oneRunning (env : ShopEnv) {state : TimedShop}
    (horder : state.inOrder op = true) (hkeeps : state.shop.keepsPlans op = true)
    (hone : OneRunning userId state.clock state.shop.db) :
    OneRunning userId (timedShopStep env state op).clock (timedShopStep env state op).shop.db := by
  have hclock := TimedShop.clock_le env horder
  have hchange := shopStep_change env state.shop op
  cases hsale : op.saleTimes? with
  | none => exact (hone.mono hclock).of_running fun sub plan => hchange.running_old hsale hkeeps
  | some times =>
    obtain ⟨hfirst, hlast, hafter⟩ := TimedShop.inOrder_of_sale env hsale horder
    rw [hafter]
    unfold timedShopStep
    dsimp only
    -- the sale is decided at the first reading of the clock
    have hfirst := hone.mono hfirst
    generalize shopStep env state.shop op = shop' at hchange
    cases hchange with
    | unchanged => exact hfirst.mono hlast
    | sold htimes _ _ hsold hframe hdb _ =>
      obtain rfl := Option.some.inj (hsale.symm.trans htimes)
      rw [hdb]
      exact (hsold.oneRunning hframe.plans hfirst).mono hlast
    | _ => cases hsale

/-! ## Covered packages -/

/-- The id is that of a subscription that is not active or has been deleted. -/
def Retired (id : Int) (shop : Shop) : Prop :=
  (∃ sub, shop.db.subscriptions.get? id = some sub ∧ sub.status ≠ .active) ∨
    shop.db.subscriptions.get? id = none ∧ id ≤ shop.lastSubscriptionId

namespace Retired

variable {id : Int} {shop' : Shop}

section

variable (h : Retired id shop)

include h

lemma put (row : UserSubscription)
    (hrow : row.id = shop.nextSubscriptionId ∨
      ∃ old, shop.db.subscriptions.get? row.id = some old ∧ old.status = .active)
    (hsubs : shop'.db.subscriptions = shop.db.subscriptions.put row)
    (hlast : shop.lastSubscriptionId ≤ shop'.lastSubscriptionId) : Retired id shop' := by
  have hne : row.id ≠ id := by
    rintro rfl
    rcases hrow with hnew | ⟨old, hold, hactive⟩
    · rcases h with ⟨sub, hsub, -⟩ | ⟨-, hle⟩
      · rw [hnew, shop.get?_nextSubscriptionId] at hsub
        cases hsub
      · have := shop.lastSubscriptionId_lt
        omega
    · rcases h with ⟨sub, hsub, hstatus⟩ | ⟨hnone, -⟩
      · rw [hold] at hsub
        rw [← Option.some.inj hsub] at hstatus
        exact hstatus hactive
      · rw [hold] at hnone
        cases hnone
  unfold Retired
  rw [hsubs, get?_put_of_ne _ hne]
  exact h.imp (fun hsome => hsome) fun ⟨hnone, hle⟩ => ⟨hnone, hle.trans hlast⟩

lemma put_inactive (row : UserSubscription) (hrow : row.status ≠ .active)
    (hsubs : shop'.db.subscriptions = shop.db.subscriptions.put row)
    (hlast : shop'.lastSubscriptionId = shop.lastSubscriptionId) : Retired id shop' := by
  unfold Retired
  rw [hsubs, hlast, get?_put]
  split_ifs
  · exact .inl ⟨row, rfl, hrow⟩
  · exact h

lemma packageSold {times : SaleTimes} {buyer : Int} {completed : UserSubscription}
    (hsold : PackageSold env shop times buyer plan completed shop') : Retired id shop' := by
  cases hsold with
  | created endUnix hend hnone hnew hsubs hlast =>
    refine h.put completed (.inl ?_) hsubs (hlast ▸ le_max_left _ _)
    rw [hnew, newValuePackage_id]
  | extended endUnix existing currentPlan db' hend hrunning hplan hextend hsubs hlast =>
    obtain ⟨stored, hget, hactive, hid, -, -, -, -, hdb⟩ :=
      extendPackage_row hextend
    have hstored : stored.id = existing.id := key_of_get? hget
    refine h.put completed (.inr ⟨stored, ?_, hactive⟩) (by rw [hsubs, hdb]) hlast.ge
    rw [hid, hstored]
    exact hget
  | upgraded endUnix current currentPlan hend hrunning hplan hnew hsubs hlast =>
    obtain ⟨hcover, hnext⟩ := coverSubscription_eq hrunning.stored
    have hcovered : Retired id (shop.coverSubscription current) := by
      rw [hcover]
      exact h.put_inactive { current with status := .covered } (by simp) rfl rfl
    refine hcovered.put completed (.inl ?_) ?_ ?_
    · rw [hnext, hnew, newValuePackage_id]
    · rw [hcover]
      exact hsubs
    · rw [hcover, hlast]
      exact le_max_left _ _

/-- The expiry job does not activate anything. -/
lemma expireRows : Retired id (shop.expireRows userId now) := by
  unfold Retired Shop.expireRows
  rw [Shop.withDB_db, get?_mapRows]
  rcases h with ⟨sub, hsub, hstatus⟩ | ⟨hnone, hle⟩
  · refine .inl ⟨expireRow userId now sub, by rw [hsub]; rfl, ?_⟩
    unfold expireRow
    split_ifs
    · simp
    · exact hstatus
  · exact .inr ⟨by rw [hnone]; rfl, hle⟩

/-- A deleted id is not used again. -/
lemma deleteSubscription (other : Int) : Retired id (shop.deleteSubscription other) := by
  unfold Retired Shop.deleteSubscription
  dsimp only
  rcases h with ⟨sub, hsub, hstatus⟩ | ⟨hnone, hle⟩
  · have hkey : sub.id = id := key_of_get? hsub
    by_cases hother : sub.id = other
    · refine .inr ⟨?_, ?_⟩
      · rw [Option.eq_none_iff_forall_not_mem]
        intro row hrow
        obtain ⟨hrow, hkept⟩ := get?_filter_eq_some.mp hrow
        rw [hsub] at hrow
        rw [← Option.some.inj hrow] at hkept
        exact absurd hother (by simpa using hkept)
      · rw [← hkey, hother]
        exact le_max_right _ _
    · exact .inl ⟨sub, get?_filter_eq_some.mpr ⟨hsub, by simpa using hother⟩, hstatus⟩
  · refine .inr ⟨?_, hle.trans (le_max_left _ _)⟩
    rw [Option.eq_none_iff_forall_not_mem]
    intro row hrow
    rw [(get?_filter_eq_some.mp hrow).1] at hnone
    cases hnone

lemma change (hchange : ShopChange env shop op shop') : Retired id shop' := by
  cases hchange with
  | unchanged | orderExpired => exact h
  | sold _ _ _ hsold _ hdb hlast =>
    have hsold := h.packageSold hsold
    unfold Retired at hsold ⊢
    rwa [hdb, hlast]
  | @regularSold _ _ buyer _ plan new _ _ _ hnew =>
    obtain ⟨users, heq⟩ := shop.upgradeUser_eq buyer plan
    rw [heq]
    exact h.put new (.inl hnew.id) rfl (le_max_left _ _)
  | expired now limit =>
    refine expireDue_induction (Retired id) ?_ limit h
    intro state userId _ hstate
    obtain ⟨users, heq⟩ := expireDueUser_users now state userId
    rw [heq]
    exact hstate.expireRows
  | cancelled hget hdowngrade =>
    obtain ⟨users, rfl⟩ := downgradeGroup_users hdowngrade
    exact h.put_inactive _ (by simp) rfl rfl
  | @deleted now other sub _ hget hdowngrade =>
    obtain ⟨users, rfl⟩ := downgradeGroup_users hdowngrade
    exact h.deleteSubscription other
  | planUpdated => exact h

end

end Retired

/-! ## Whole runs -/

/-- The call comes in order and keeps the plans. -/
def TimedShop.allows (state : TimedShop) (op : ShopOp) : Bool :=
  state.inOrder op && state.shop.keepsPlans op

/-- A user who starts without a running package has at most one at every later time, and a covered
package is never active again. -/
theorem one_live_package (env : ShopEnv) (userId : Int) (start : TimedShop)
    (hnone : ∀ sub plan, ¬RunningPackage start.shop.db userId start.clock sub plan)
    (ops : List ShopOp)
    (hops : Along (timedShopStep env) (fun state op => state.allows op = true) start ops) :
    (∀ time, (exec (timedShopStep env) start ops).clock ≤ time → ∀ a planA b planB,
      RunningPackage (exec (timedShopStep env) start ops).shop.db userId time a planA →
      RunningPackage (exec (timedShopStep env) start ops).shop.db userId time b planB → a = b) ∧
    ∀ earlier later, ops = earlier ++ later → ∀ id covered,
      (exec (timedShopStep env) start earlier).shop.db.subscriptions.get? id = some covered →
      covered.status = .covered → ∀ sub,
      (exec (timedShopStep env) start ops).shop.db.subscriptions.get? id = some sub →
      sub.status ≠ .active := by
  constructor
  · intro time htime a planA b planB ha hb
    have hone : OneRunning userId (exec (timedShopStep env) start ops).clock
        (exec (timedShopStep env) start ops).shop.db := by
      refine exec_induction
        (fun state : TimedShop => OneRunning userId state.clock state.shop.db) ?_ ?_ hops
      · intro state op hstate hallows
        obtain ⟨horder, hkeeps⟩ := Bool.and_eq_true_iff.mp hallows
        exact timedShopStep_oneRunning env horder hkeeps hstate
      · exact fun a planA b planB ha _ => absurd ha (hnone a planA)
    have hid := hone.mono htime a planA b planB ha hb
    exact Option.some.inj (ha.stored.symm.trans (hid ▸ hb.stored))
  · rintro earlier later rfl id covered hcovered hstatus sub hsub hactive
    have hretired : Retired id (exec (timedShopStep env) start earlier).shop :=
      .inl ⟨covered, hcovered, by rw [hstatus]; decide⟩
    rw [exec_append] at hsub
    have hlater : Retired id (exec (timedShopStep env)
        (exec (timedShopStep env) start earlier) later).shop :=
      exec_invariant (fun state : TimedShop => Retired id state.shop)
        (fun state op hstate => hstate.change (shopStep_change env state.shop op)) hretired later
    rcases hlater with ⟨stored, hstored, hinactive⟩ | ⟨hgone, -⟩
    · rw [hsub] at hstored
      exact hinactive (Option.some.inj hstored ▸ hactive)
    · rw [hsub] at hgone
      cases hgone

/-- A day package is redeemed, covered by the month package of the order, and both have ended when
the day package is bought again. -/
def coveredAndEnded : List ShopOp :=
  [.updatePlan ⟨3, .valuePackage, .day, 0, 0, 50, .never, 0⟩ ⟨0, .day, 1, 0, true, 0, 0, ""⟩,
    .redeemPackage ⟨2000, 2000, 2000⟩ 1 3, .completeOrder ⟨2001, 2002, 2002⟩ "T1" "" "" true,
    .expireDue 2600000 0, .redeemPackage ⟨2600001, 2600001, 2600001⟩ 1 3]

theorem coveredAndEnded_one :
    ((exec (timedShopStep sampleShopEnv) ⟨sampleShop, 1000⟩
        coveredAndEnded).shop.db.subscriptions.rows.map fun sub => (sub.planId, sub.status)) =
      [(3, .covered), (1, .expired), (3, .active)] ∧
    (∀ time, (exec (timedShopStep sampleShopEnv) ⟨sampleShop, 1000⟩ coveredAndEnded).clock ≤
        time → ∀ a planA b planB,
      RunningPackage (exec (timedShopStep sampleShopEnv) ⟨sampleShop, 1000⟩
        coveredAndEnded).shop.db 1 time a planA →
      RunningPackage (exec (timedShopStep sampleShopEnv) ⟨sampleShop, 1000⟩
        coveredAndEnded).shop.db 1 time b planB → a = b) ∧
    ∀ earlier later, coveredAndEnded = earlier ++ later → ∀ id covered,
      (exec (timedShopStep sampleShopEnv) ⟨sampleShop, 1000⟩
        earlier).shop.db.subscriptions.get? id = some covered →
      covered.status = .covered → ∀ sub,
      (exec (timedShopStep sampleShopEnv) ⟨sampleShop, 1000⟩
        coveredAndEnded).shop.db.subscriptions.get? id = some sub →
      sub.status ≠ .active :=
  ⟨by decide, one_live_package sampleShopEnv 1 ⟨sampleShop, 1000⟩
    (fun _ _ hrunning => by cases hrunning.stored) coveredAndEnded (by decide)⟩

end Yunbay
