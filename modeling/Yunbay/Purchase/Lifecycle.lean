import Yunbay.Purchase.Order

/-!
# Life of a subscription

The other transactions that create and end subscriptions: the sale of a regular plan, the job that
expires what has ended, and the two calls of an administrator. A regular plan can move its user to
an upgrade group; the subscription keeps the group the user comes from, and the transactions that
end a subscription move the user back.

`ShopOp` has one constructor for each transaction of the shop, and `shopStep` runs it.
-/

namespace Yunbay

open Except

variable {sub : UserSubscription} {now userId planId id : Int} {times : SaleTimes} {α : Type}
  {state : TimedShop} {op : ShopOp}

/-! ## User groups -/

/-- `getUserGroupByIdTx`: the empty group for a user that does not exist. -/
def Shop.groupOf (shop : Shop) (userId : Int) : String :=
  (shop.users.get? userId).elim "" (·.group)

/-- `UPDATE users SET group = ? WHERE id = ?`. -/
def Shop.setGroup (shop : Shop) (userId : Int) (group : String) : Shop :=
  match shop.users.get? userId with
  | none => shop
  | some user => shop.saveUser { user with group }

/-- A subscription of the user that is active and has not ended, with an upgrade group. -/
def Shop.isUpgrading (shop : Shop) (userId now : Int) (sub : UserSubscription) : Bool :=
  sub.userId = userId ∧ sub.status = .active ∧ now < sub.endTime ∧
    (shop.upgrades sub.id).upgradeGroup ≠ ""

def downgradeUserGroupForSubscriptionTx (shop : Shop) (sub : UserSubscription) (now : Int) :
    Except ShopError Shop := do
  let upgradeGroup := trimSpace (shop.upgrades sub.id).upgradeGroup
  if upgradeGroup = "" then pure shop
  else do
    check (0 < sub.userId) .invalidUserIdForGroup
    let currentGroup := shop.groupOf sub.userId
    if currentGroup ≠ upgradeGroup then pure shop
    else if shop.db.subscriptions.rows.any fun other =>
        shop.isUpgrading sub.userId now other && other.id ≠ sub.id then pure shop
    else
      let prevGroup := trimSpace (shop.upgrades sub.id).prevUserGroup
      if prevGroup = "" ∨ prevGroup = currentGroup then pure shop
      else pure (shop.setGroup sub.userId prevGroup)

/-! ## The transactions -/

/-- `CreateUserSubscriptionFromPlanTx`, with the plan that its caller has loaded. -/
def createUserSubscriptionFromPlanTx (env : ShopEnv) (shop : Shop) (nowUnix timestamp : Int)
    (userId planId : Int) : Except ShopError (UserSubscription × Shop) := do
  let plan ← (getSubscriptionPlanByIdTx shop.db planId).mapError ShopError.tx
  let terms := shop.termsOf plan
  check (plan.id ≠ 0) .invalidPlan
  check (0 < userId) .invalidUserId
  check (¬plan.isValuePackage) .useValuePackageFlow
  let count : Int := (shop.db.subscriptions.rows.filter fun sub =>
    sub.userId = userId ∧ sub.planId = plan.id).length
  check (¬(0 < terms.maxPurchasePerUser ∧ terms.maxPurchasePerUser ≤ count))
    .purchaseLimitReached
  let endUnix ← calcPlanEndTime env nowUnix terms
  let nextReset := calcNextResetTime env.env.calendar nowUnix plan endUnix
  let lastReset := if 0 < nextReset then nowUnix else 0
  let upgradeGroup := trimSpace terms.upgradeGroup
  let currentGroup := shop.groupOf userId
  let moved := upgradeGroup ≠ "" ∧ currentGroup ≠ upgradeGroup
  let prevGroup := if moved then currentGroup else ""
  let sub : UserSubscription :=
    { id := shop.nextSubscriptionId, userId, planId := plan.id, amountTotal := plan.totalAmount
      amountUsed := 0, quotaEpoch := 0, startTime := nowUnix, endTime := endUnix, status := .active
      lastResetTime := lastReset, nextResetTime := nextReset, createdAt := timestamp }
  let shop := if moved then shop.setGroup userId upgradeGroup else shop
  pure (sub, shop.createSubscription sub ⟨upgradeGroup, prevGroup⟩)

def adminInvalidateUserSubscription (shop : Shop) (now userSubscriptionId : Int) :
    Except ShopError (Unit × Shop) := do
  check (0 < userSubscriptionId) .invalidUserSubscriptionId
  match shop.db.subscriptions.get? userSubscriptionId with
  | none => .error .recordNotFound
  | some sub => do
    let cancelled := { sub with status := .cancelled, endTime := now }
    let shop ← downgradeUserGroupForSubscriptionTx
      (shop.withDB (shop.db.saveSubscription cancelled)) cancelled now
    pure ((), shop)

/-- Delete a subscription row. Its id is not used again. -/
def Shop.deleteSubscription (shop : Shop) (id : Int) : Shop :=
  { shop with
    db := { shop.db with subscriptions := shop.db.subscriptions.filter fun sub => sub.id ≠ id }
    lastSubscriptionId := max shop.lastSubscriptionId id }

def adminDeleteUserSubscription (shop : Shop) (now userSubscriptionId : Int) :
    Except ShopError (Unit × Shop) := do
  check (0 < userSubscriptionId) .invalidUserSubscriptionId
  match shop.db.subscriptions.get? userSubscriptionId with
  | none => .error .recordNotFound
  | some sub => do
    let shop ← downgradeUserGroupForSubscriptionTx shop sub now
    pure ((), shop.deleteSubscription userSubscriptionId)

/-- An active subscription that has ended. -/
def hasEnded (sub : UserSubscription) (now : Int) : Bool :=
  sub.status = .active ∧ 0 < sub.endTime ∧ sub.endTime ≤ now

/-- The row after the update of the expiry job for one user. -/
def expireRow (userId now : Int) (sub : UserSubscription) : UserSubscription :=
  if sub.userId = userId ∧ hasEnded sub now then { sub with status := .expired } else sub

@[simp]
lemma expireRow_id (userId now : Int) (sub : UserSubscription) :
    (expireRow userId now sub).id = sub.id := by
  unfold expireRow
  split_ifs <;> rfl

/-- The first update of the expiry job for one user. -/
def Shop.expireRows (shop : Shop) (userId now : Int) : Shop :=
  shop.withDB
    { shop.db with
      subscriptions := shop.db.subscriptions.mapRows (expireRow userId now)
        (expireRow_id userId now) }

/-- The expired subscription with an upgrade group that has ended last. -/
def Shop.lastExpired (shop : Shop) (userId : Int) : Option UserSubscription :=
  ((shop.db.subscriptions.rows.filter fun sub =>
    sub.userId = userId ∧ sub.status = .expired ∧ (shop.upgrades sub.id).upgradeGroup ≠ "")
      |>.insertionSort fun a b => endsLater a b).head?

/-- The transaction of the expiry job for one user. -/
def expireDueUser (now : Int) (shop : Shop) (userId : Int) : Shop :=
  let shop := shop.expireRows userId now
  if shop.db.subscriptions.rows.any (shop.isUpgrading userId now) then shop
  else
    match shop.lastExpired userId with
    | none => shop
    | some last =>
      let upgradeGroup := trimSpace (shop.upgrades last.id).upgradeGroup
      let prevGroup := trimSpace (shop.upgrades last.id).prevUserGroup
      let currentGroup := shop.groupOf userId
      if upgradeGroup = "" ∨ prevGroup = "" ∨ currentGroup ≠ upgradeGroup ∨
          currentGroup = prevGroup then shop
      else shop.setGroup userId prevGroup

/-- The users whose subscriptions a run of the expiry job looks at. -/
def dueUsers (shop : Shop) (now limit : Int) : List Int :=
  let limit := if limit ≤ 0 then 200 else limit
  let due := (shop.db.subscriptions.rows.filter fun sub => hasEnded sub now)
    |>.insertionSort fun a b => endsLater b a
  (((due.take limit.toNat).map (·.userId)).filter (0 < ·)).dedup

/-- `ExpireDueSubscriptions`. The users are independent of each other, so their order, which is
that of a Go map, does not matter. -/
def expireDueSubscriptions (shop : Shop) (now limit : Int) : Shop :=
  (dueUsers shop now limit).foldl (expireDueUser now) shop

/-! ## What the transactions do -/

section Inversion

variable {env : ShopEnv} {shop shop' : Shop}

lemma Shop.setGroup_eq (shop : Shop) (userId : Int) (group : String) :
    ∃ users, shop.setGroup userId group = { shop with users := users } := by
  unfold Shop.setGroup
  split
  · exact ⟨shop.users, rfl⟩
  · exact ⟨_, rfl⟩

/-- The user is in the group to which the subscription has moved them, and the subscription keeps
another group to go back to. -/
structure Shop.Undoes (shop : Shop) (userId : Int) (sub : UserSubscription) : Prop where
  upgrade : trimSpace (shop.upgrades sub.id).upgradeGroup ≠ ""
  prev : trimSpace (shop.upgrades sub.id).prevUserGroup ≠ ""
  current : shop.groupOf userId = trimSpace (shop.upgrades sub.id).upgradeGroup
  moved : shop.groupOf userId ≠ trimSpace (shop.upgrades sub.id).prevUserGroup

/-- The downgrade moves the user back, unless another upgrade is running. -/
lemma downgradeGroup_cases
    (h : downgradeUserGroupForSubscriptionTx shop sub now = .ok shop') :
    (shop' = shop ∧ (shop.Undoes sub.userId sub → ∃ other ∈ shop.db.subscriptions.rows,
      shop.isUpgrading sub.userId now other = true ∧ other.id ≠ sub.id)) ∨
    (shop.Undoes sub.userId sub ∧
      shop' = shop.setGroup sub.userId (trimSpace (shop.upgrades sub.id).prevUserGroup)) := by
  unfold downgradeUserGroupForSubscriptionTx at h
  dsimp only at h
  split_ifs at h with hblank hcurrent hrunning hback
  · cases h
    exact .inl ⟨rfl, fun hundoes => absurd hblank hundoes.upgrade⟩
  all_goals obtain ⟨_, h⟩ := of_bind h
  · cases h
    exact .inl ⟨rfl, fun hundoes => absurd hundoes.current hcurrent⟩
  · cases h
    obtain ⟨other, hmem, hother⟩ := List.any_eq_true.mp hrunning
    obtain ⟨hupgrading, hne⟩ := Bool.and_eq_true_iff.mp hother
    exact .inl ⟨rfl, fun _ => ⟨other, hmem, hupgrading, of_decide_eq_true hne⟩⟩
  · cases h
    exact .inl ⟨rfl, fun hundoes => absurd hback
      (not_or.mpr ⟨hundoes.prev, hundoes.moved.symm⟩)⟩
  · cases h
    obtain ⟨hprev, hmoved⟩ := not_or.mp hback
    exact .inr ⟨⟨hblank, hprev, not_not.mp hcurrent, Ne.symm hmoved⟩, rfl⟩

lemma downgradeGroup_users
    (h : downgradeUserGroupForSubscriptionTx shop sub now = .ok shop') :
    ∃ users, shop' = { shop with users := users } := by
  rcases downgradeGroup_cases h with ⟨rfl, -⟩ | ⟨-, rfl⟩
  · exact ⟨shop'.users, rfl⟩
  · exact shop.setGroup_eq sub.userId _

lemma createPackage_ok {completed : UserSubscription}
    (h : createValuePackageSubscriptionFromPlanTx env shop times userId planId =
      .ok (completed, shop')) :
    ∃ plan giftResetCount, getSubscriptionPlanByIdTx shop.db planId = .ok plan ∧
      plan.isValuePackage = true ∧ PackageSold env shop times userId plan completed shop' ∧
      SaleFrame shop userId giftResetCount shop' := by
  obtain ⟨plan, hplan, h⟩ := bind_eq_ok.mp h
  obtain ⟨_, h⟩ := of_bind h
  obtain ⟨_, h⟩ := of_bind h
  obtain ⟨hpackage, h⟩ := of_check h
  obtain ⟨_, h⟩ := of_bind h
  obtain ⟨_, h⟩ := of_bind h
  obtain ⟨intent, hintent, h⟩ := bind_eq_ok.mp h
  obtain ⟨hsold, hframe⟩ :=
    sellValuePackage_sold (checkPurchaseIntent_ok hintent) hpackage h
  exact ⟨plan, _, mapError_eq_ok.mp hplan, hpackage, hsold, hframe⟩

/-- The row that the sale of a regular plan creates. -/
structure RegularCreated (env : ShopEnv) (shop : Shop) (nowUnix userId : Int)
    (plan : SubscriptionPlan) (sub : UserSubscription) : Prop where
  id : sub.id = shop.nextSubscriptionId
  userId : sub.userId = userId
  planId : sub.planId = plan.id
  status : sub.status = .active
  endTime : calcPlanEndTime env nowUnix (shop.termsOf plan) = .ok sub.endTime

/-- The upgrade columns of a subscription that is created now. -/
def Shop.upgradeFor (shop : Shop) (userId : Int) (plan : SubscriptionPlan) :
    SubscriptionUpgrade where
  upgradeGroup := trimSpace (shop.termsOf plan).upgradeGroup
  prevUserGroup :=
    if trimSpace (shop.termsOf plan).upgradeGroup ≠ "" ∧
        shop.groupOf userId ≠ trimSpace (shop.termsOf plan).upgradeGroup then
      shop.groupOf userId
    else ""

/-- The users after the sale of a regular plan. -/
def Shop.upgradeUser (shop : Shop) (userId : Int) (plan : SubscriptionPlan) : Shop :=
  if trimSpace (shop.termsOf plan).upgradeGroup ≠ "" ∧
      shop.groupOf userId ≠ trimSpace (shop.termsOf plan).upgradeGroup then
    shop.setGroup userId (trimSpace (shop.termsOf plan).upgradeGroup)
  else shop

lemma Shop.upgradeUser_eq (shop : Shop) (userId : Int) (plan : SubscriptionPlan) :
    ∃ users, shop.upgradeUser userId plan = { shop with users := users } := by
  unfold Shop.upgradeUser
  split_ifs
  · exact shop.setGroup_eq userId _
  · exact ⟨shop.users, rfl⟩

lemma createSubscriptionTx_ok {nowUnix timestamp : Int}
    (h : createUserSubscriptionFromPlanTx env shop nowUnix timestamp userId planId =
      .ok (sub, shop')) :
    ∃ plan, getSubscriptionPlanByIdTx shop.db planId = .ok plan ∧ 0 < userId ∧
      plan.isValuePackage = false ∧ RegularCreated env shop nowUnix userId plan sub ∧
      shop' = (shop.upgradeUser userId plan).createSubscription sub
        (shop.upgradeFor userId plan) := by
  obtain ⟨plan, hplan, h⟩ := bind_eq_ok.mp h
  obtain ⟨_, h⟩ := of_bind h
  obtain ⟨huser, h⟩ := of_check h
  obtain ⟨hkind, h⟩ := of_check h
  obtain ⟨_, h⟩ := of_bind h
  obtain ⟨endUnix, hend, h⟩ := bind_eq_ok.mp h
  cases h
  exact ⟨plan, mapError_eq_ok.mp hplan, huser,
    by simpa using hkind, ⟨rfl, rfl, rfl, rfl, hend⟩, rfl⟩

lemma adminInvalidate_ok (h : adminInvalidateUserSubscription shop now id = .ok ((), shop')) :
    ∃ sub, shop.db.subscriptions.get? id = some sub ∧
      downgradeUserGroupForSubscriptionTx
        (shop.withDB (shop.db.saveSubscription { sub with status := .cancelled, endTime := now }))
        { sub with status := .cancelled, endTime := now } now = .ok shop' := by
  obtain ⟨_, h⟩ := of_bind h
  split at h
  · cases h
  · rename_i sub hget
    obtain ⟨downgraded, hdowngrade, h⟩ := bind_eq_ok.mp h
    cases h
    exact ⟨sub, hget, hdowngrade⟩

lemma adminDelete_ok (h : adminDeleteUserSubscription shop now id = .ok ((), shop')) :
    ∃ sub downgraded, shop.db.subscriptions.get? id = some sub ∧
      downgradeUserGroupForSubscriptionTx shop sub now = .ok downgraded ∧
      shop' = downgraded.deleteSubscription id := by
  obtain ⟨_, h⟩ := of_bind h
  split at h
  · cases h
  · rename_i sub hget
    obtain ⟨downgraded, hdowngrade, h⟩ := bind_eq_ok.mp h
    cases h
    exact ⟨sub, downgraded, hget, hdowngrade, rfl⟩

/-- The job for one user looks at the upgrade that has ended last, unless another one is running. -/
lemma expireDueUser_cases (now : Int) (shop : Shop) (userId : Int) :
    (expireDueUser now shop userId = shop.expireRows userId now ∧
      ∀ last, (shop.expireRows userId now).lastExpired userId = some last →
        (shop.expireRows userId now).Undoes userId last →
        ∃ other ∈ (shop.expireRows userId now).db.subscriptions.rows,
          (shop.expireRows userId now).isUpgrading userId now other = true) ∨
    ∃ last, (shop.expireRows userId now).lastExpired userId = some last ∧
      expireDueUser now shop userId = (shop.expireRows userId now).setGroup userId
        (trimSpace ((shop.expireRows userId now).upgrades last.id).prevUserGroup) ∧
      (shop.expireRows userId now).Undoes userId last := by
  unfold expireDueUser
  dsimp only
  generalize shop.expireRows userId now = expired
  split_ifs with hrunning
  · exact .inl ⟨rfl, fun _ _ _ => List.any_eq_true.mp hrunning⟩
  · cases hlast : expired.lastExpired userId with
    | none => exact .inl ⟨rfl, fun last hnone => absurd hnone (Option.some_ne_none last).symm⟩
    | some last =>
      dsimp only
      split_ifs with hback
      · refine .inl ⟨rfl, fun other hother hundoes => ?_⟩
        obtain rfl := Option.some.inj hother
        rcases hback with hblank | hprev | hcurrent | hmoved
        · exact absurd hblank hundoes.upgrade
        · exact absurd hprev hundoes.prev
        · exact absurd hundoes.current hcurrent
        · exact absurd hmoved hundoes.moved
      · simp only [not_or, not_not] at hback
        obtain ⟨hblank, hprev, hcurrent, hmoved⟩ := hback
        exact .inr ⟨last, rfl, rfl, ⟨hblank, hprev, hcurrent, hmoved⟩⟩

lemma expireDueUser_users (now : Int) (shop : Shop) (userId : Int) :
    ∃ users, expireDueUser now shop userId =
      { shop.expireRows userId now with users := users } := by
  rcases expireDueUser_cases now shop userId with ⟨heq, -⟩ | ⟨last, -, heq, -⟩
  · exact ⟨(shop.expireRows userId now).users, heq⟩
  · rw [heq]
    exact (shop.expireRows userId now).setGroup_eq userId _

/-- What the job for each user keeps holds after the whole job. -/
lemma expireDue_induction (Inv : Shop → Prop)
    (hstep : ∀ shop userId, 0 < userId → Inv shop → Inv (expireDueUser now shop userId))
    (limit : Int) (hinit : Inv shop) : Inv (expireDueSubscriptions shop now limit) := by
  have hpos : ∀ userId ∈ dueUsers shop now limit, 0 < userId := by
    intro userId hmem
    have := (List.mem_filter.mp (List.mem_dedup.mp hmem)).2
    simpa using this
  unfold expireDueSubscriptions
  generalize dueUsers shop now limit = userIds at hpos
  induction userIds generalizing shop with
  | nil => exact hinit
  | cons userId userIds ih =>
    exact ih (hstep shop userId (hpos userId List.mem_cons_self) hinit)
      fun other hmem => hpos other (List.mem_cons_of_mem userId hmem)

end Inversion

/-! ## Runs -/

/-- A transaction of the shop. -/
inductive ShopOp where
  /-- `CompleteValuePackageOrder`. -/
  | completeOrder (times : SaleTimes) (tradeNo expectedPaymentProvider actualPaymentMethod : String)
      (confirmedCover : Bool)
  /-- `ExpireSubscriptionOrder`. -/
  | expireOrder (tradeNo expectedPaymentProvider : String)
  /-- `CreateValuePackageSubscriptionFromPlanTx`, by a redemption code. -/
  | redeemPackage (times : SaleTimes) (userId planId : Int)
  /-- `CreateUserSubscriptionFromPlanTx`. -/
  | createSubscription (nowUnix timestamp userId planId : Int)
  /-- `ExpireDueSubscriptions`. -/
  | expireDue (now limit : Int)
  /-- `AdminInvalidateUserSubscription`. -/
  | invalidate (now userSubscriptionId : Int)
  /-- `AdminDeleteUserSubscription`. -/
  | delete (now userSubscriptionId : Int)
  /-- An administrator's edit of a plan. -/
  | updatePlan (plan : SubscriptionPlan) (terms : PlanTerms)

/-- Write a plan. -/
@[simps]
def Shop.savePlan (shop : Shop) (plan : SubscriptionPlan) (terms : PlanTerms) : Shop :=
  { shop with
    db := { shop.db with plans := shop.db.plans.put plan }
    terms := Function.update shop.terms plan.id terms }

/-- Forget the result of a transaction. -/
def dropResult {α : Type} (tx : Except ShopError (α × Shop)) : Except ShopError (Unit × Shop) :=
  tx.map fun result => ((), result.2)

lemma commit_dropResult (shop : Shop) (tx : Except ShopError (α × Shop)) :
    commit shop (dropResult tx) = commit shop tx := by
  cases tx <;> rfl

lemma dropResult_eq_ok {tx : Except ShopError (α × Shop)} {u : Unit} {shop : Shop}
    (h : dropResult tx = .ok (u, shop)) : ∃ a, tx = .ok (a, shop) := by
  cases tx with
  | error err => cases h
  | ok result =>
    cases h
    exact ⟨result.1, rfl⟩

/-- The call of a transaction. -/
def shopCall (env : ShopEnv) (shop : Shop) : ShopOp → Except ShopError (Unit × Shop)
  | .completeOrder times tradeNo expectedPaymentProvider actualPaymentMethod confirmedCover =>
    dropResult (completeValuePackageOrder env shop times tradeNo expectedPaymentProvider
      actualPaymentMethod confirmedCover)
  | .expireOrder tradeNo expectedPaymentProvider =>
    expireSubscriptionOrder shop tradeNo expectedPaymentProvider
  | .redeemPackage times userId planId =>
    dropResult (createValuePackageSubscriptionFromPlanTx env shop times userId planId)
  | .createSubscription nowUnix timestamp userId planId =>
    dropResult (createUserSubscriptionFromPlanTx env shop nowUnix timestamp userId planId)
  | .expireDue now limit => pure ((), expireDueSubscriptions shop now limit)
  | .invalidate now userSubscriptionId =>
    adminInvalidateUserSubscription shop now userSubscriptionId
  | .delete now userSubscriptionId => adminDeleteUserSubscription shop now userSubscriptionId
  | .updatePlan plan terms => pure ((), shop.savePlan plan terms)

/-- The tables after a call. -/
def shopStep (env : ShopEnv) (shop : Shop) (op : ShopOp) : Shop :=
  commit shop (shopCall env shop op)

/-! ## What a call does -/

/-- The clock readings of a sale of a value package. -/
def ShopOp.saleTimes? : ShopOp → Option SaleTimes
  | .completeOrder times .. | .redeemPackage times .. => some times
  | _ => none

/-- What a call does to the subscriptions, the plans and the users of the shop. -/
inductive ShopChange (env : ShopEnv) (shop : Shop) : ShopOp → Shop → Prop where
  /-- The call has failed, or has answered for a settled order. -/
  | unchanged (op : ShopOp) : ShopChange env shop op shop
  | orderExpired (tradeNo provider : String) (order : SubscriptionOrder) :
      ShopChange env shop (.expireOrder tradeNo provider) (shop.saveOrder order)
  | sold {op : ShopOp} {shop' sold : Shop} {times : SaleTimes} {userId planId giftResetCount : Int}
      {plan : SubscriptionPlan} {completed : UserSubscription}
      (htimes : op.saleTimes? = some times)
      (hplan : getSubscriptionPlanByIdTx shop.db planId = .ok plan)
      (hpackage : plan.isValuePackage = true)
      (hsold : PackageSold env shop times userId plan completed sold)
      (hframe : SaleFrame shop userId giftResetCount sold)
      (hdb : shop'.db = sold.db)
      (hlast : shop'.lastSubscriptionId = sold.lastSubscriptionId) : ShopChange env shop op shop'
  | regularSold {nowUnix timestamp userId planId : Int} {plan : SubscriptionPlan}
      {sub : UserSubscription}
      (hplan : getSubscriptionPlanByIdTx shop.db planId = .ok plan) (huser : 0 < userId)
      (hkind : plan.isValuePackage = false)
      (hsub : RegularCreated env shop nowUnix userId plan sub) :
      ShopChange env shop (.createSubscription nowUnix timestamp userId planId)
        ((shop.upgradeUser userId plan).createSubscription sub (shop.upgradeFor userId plan))
  | expired (now limit : Int) :
      ShopChange env shop (.expireDue now limit) (expireDueSubscriptions shop now limit)
  | cancelled {now id : Int} {sub : UserSubscription} {shop' : Shop}
      (hget : shop.db.subscriptions.get? id = some sub)
      (hdowngrade : downgradeUserGroupForSubscriptionTx
        (shop.withDB (shop.db.saveSubscription { sub with status := .cancelled, endTime := now }))
        { sub with status := .cancelled, endTime := now } now = .ok shop') :
      ShopChange env shop (.invalidate now id) shop'
  | deleted {now id : Int} {sub : UserSubscription} {downgraded : Shop}
      (hget : shop.db.subscriptions.get? id = some sub)
      (hdowngrade : downgradeUserGroupForSubscriptionTx shop sub now = .ok downgraded) :
      ShopChange env shop (.delete now id) (downgraded.deleteSubscription id)
  | planUpdated (plan : SubscriptionPlan) (terms : PlanTerms) :
      ShopChange env shop (.updatePlan plan terms) (shop.savePlan plan terms)

/-- Every call is one of these changes. -/
lemma shopStep_change (env : ShopEnv) (shop : Shop) (op : ShopOp) :
    ShopChange env shop op (shopStep env shop op) := by
  unfold shopStep
  refine commit_induction (ShopChange env shop op) (.unchanged op) ?_
  intro _ shop' hcall
  cases op with
  | completeOrder times tradeNo expected method confirmed =>
    obtain ⟨completed, hrun⟩ := dropResult_eq_ok hcall
    obtain ⟨order, -, ⟨-, rfl⟩ | ⟨-, hsettle⟩⟩ := completeValuePackageOrder_cases hrun
    · exact .unchanged _
    · obtain ⟨plan, sold, hplan, hpackage, hsold, hframe, hpaid⟩ := settleOrder_ok hsettle
      have hpaid := recordPayment_ok (by exact hframe.user_pos) hpaid
      exact .sold rfl hplan hpackage hsold hframe hpaid.db hpaid.lastSubscriptionId
  | expireOrder tradeNo expected =>
    obtain ⟨order, -, ⟨-, rfl⟩ | ⟨-, rfl⟩⟩ := expireOrder_cases hcall
    · exact .unchanged _
    · exact .orderExpired tradeNo expected _
  | redeemPackage times userId planId =>
    obtain ⟨completed, hrun⟩ := dropResult_eq_ok hcall
    obtain ⟨plan, gift, hplan, hpackage, hsold, hframe⟩ :=
      createPackage_ok hrun
    exact .sold rfl hplan hpackage hsold hframe rfl rfl
  | createSubscription nowUnix timestamp userId planId =>
    obtain ⟨sub, hrun⟩ := dropResult_eq_ok hcall
    obtain ⟨plan, hplan, huser, hkind, hsub, rfl⟩ := createSubscriptionTx_ok hrun
    exact .regularSold hplan huser hkind hsub
  | expireDue now limit =>
    cases hcall
    exact .expired now limit
  | invalidate now id =>
    obtain ⟨sub, hget, hdowngrade⟩ := adminInvalidate_ok hcall
    exact .cancelled hget hdowngrade
  | delete now id =>
    obtain ⟨sub, downgraded, hget, hdowngrade, rfl⟩ := adminDelete_ok hcall
    exact .deleted hget hdowngrade
  | updatePlan plan terms =>
    cases hcall
    exact .planUpdated plan terms

/-! ## Time -/

/-- The first and the last clock reading of a call. -/
def ShopOp.readings : ShopOp → Option (Int × Int)
  | .completeOrder times .. | .redeemPackage times .. => some (times.intentNow, times.nowUnix)
  | .createSubscription nowUnix .. => some (nowUnix, nowUnix)
  | .expireDue now _ | .invalidate now _ | .delete now _ => some (now, now)
  | .expireOrder .. | .updatePlan .. => none

/-- The shop with the last reading of the clock. -/
structure TimedShop where
  shop : Shop
  clock : Int

def timedShopStep (env : ShopEnv) (state : TimedShop) (op : ShopOp) : TimedShop :=
  ⟨shopStep env state.shop op, op.readings.elim state.clock (·.2)⟩

/-- The clock does not go back. -/
def TimedShop.inOrder (state : TimedShop) (op : ShopOp) : Bool :=
  op.readings.all fun reading => state.clock ≤ reading.1 ∧ reading.1 ≤ reading.2

lemma TimedShop.clock_le (env : ShopEnv) (h : state.inOrder op = true) :
    state.clock ≤ (timedShopStep env state op).clock := by
  unfold inOrder at h
  unfold timedShopStep
  cases hreadings : op.readings with
  | none => exact le_refl _
  | some reading =>
    rw [hreadings] at h
    obtain ⟨hfirst, hlast⟩ := of_decide_eq_true h
    exact hfirst.trans hlast

/-- The two readings of a sale come one after the other. -/
lemma TimedShop.inOrder_of_sale (env : ShopEnv) (hsale : op.saleTimes? = some times)
    (h : state.inOrder op = true) :
    state.clock ≤ times.intentNow ∧ times.intentNow ≤ times.nowUnix ∧
      (timedShopStep env state op).clock = times.nowUnix := by
  cases op with
  | completeOrder | redeemPackage =>
    cases hsale
    obtain ⟨hfirst, hlast⟩ := of_decide_eq_true h
    exact ⟨hfirst, hlast, rfl⟩
  | _ => cases hsale

/-! ## A small shop -/

/-- Surroundings with months of thirty days and the commission rate of 0.15. -/
def sampleShopEnv : ShopEnv where
  env := sampleEnv
  addDate start years months := start + years * 31536000 + months * 2592000
  commissionMoney
    | .finite unscaled scale => .finite (15 * unscaled) (scale + 2)
    | money => money
  vipQualified _ := false

/-- An order of the month package for 9.9, with two reset cards as a gift. -/
def sampleOrder : SubscriptionOrder :=
  ⟨"T1", 1, 1, .finite 99 1, "ldxp", "ldxp", 0, 2, .pending⟩

/-- One plan for a month package, a user with an inviter, and an order of the user. -/
def sampleShop : Shop where
  db := { sampleDB with subscriptions := Table.empty, preferences := Table.empty }
  terms _ := ⟨0, .day, 1, 0, true, 0, 0, ""⟩
  upgrades _ := ⟨"", ""⟩
  users := (Table.empty.put ⟨1, "default", true, 2, 0, 0⟩).put ⟨2, "default", true, 0, 0, 0⟩
  orders := Table.empty.put sampleOrder
  topUps := Table.empty
  commissions := Table.empty
  lastSubscriptionId := 0
  lastTopUpId := 0

end Yunbay
