import Yunbay.Purchase.Schema

/-!
# Sale of a value package

What a purchase of a value package does depends on the highest package of the user that is still
running: without one it creates a subscription, the same plan is extended, and a package of another
plan that is not of a higher level is covered by a new one. `CompleteValuePackageOrder` and
`CreateValuePackageSubscriptionFromPlanTx` share this choice, which
`checkValuePackagePurchaseIntentTx` makes and `applyPurchaseAction` carries out.
-/

namespace Yunbay

open Except Table

variable {db db' : DB} {userId now giftResetCount : Int} {sub : UserSubscription} {shop : Shop}
  {plan : SubscriptionPlan}

/-! ## Terms of a plan -/

/-- `normalizeValuePackagePlan` on the sale columns. -/
def normalizePlanTerms (plan : SubscriptionPlan) (terms : PlanTerms) : PlanTerms :=
  let packageLevel :=
    if terms.packageLevel ≤ 0 then
      match plan.packageType with
      | .day => 1
      | .week => 2
      | .month => 3
      | .other => terms.packageLevel
    else terms.packageLevel
  let terms := { terms with packageLevel }
  if plan.isValuePackage then
    match plan.packageType with
    | .day => { terms with durationUnit := .day, durationValue := 1, customSeconds := 0 }
    | .week => { terms with durationUnit := .day, durationValue := 7, customSeconds := 0 }
    | .month => { terms with durationUnit := .day, durationValue := 30, customSeconds := 0 }
    | .other => terms
  else terms

/-- The sale columns of a plan as the transactions read them. -/
def Shop.termsOf (shop : Shop) (plan : SubscriptionPlan) : PlanTerms :=
  normalizePlanTerms plan (shop.terms plan.id)

def calcPlanEndTime (env : ShopEnv) (start : Int) (terms : PlanTerms) : Except ShopError Int := do
  check (¬(terms.durationValue ≤ 0 ∧ terms.durationUnit ≠ .custom)) .durationValueNotPositive
  match terms.durationUnit with
  | .year => pure (env.addDate start terms.durationValue 0)
  | .month => pure (env.addDate start 0 terms.durationValue)
  | .day => pure (addCustomSeconds start (terms.durationValue * 86400))
  | .hour => pure (addCustomSeconds start (terms.durationValue * 3600))
  | .custom => do
    check (0 < terms.customSeconds) .customSecondsNotPositive
    pure (addCustomSeconds start terms.customSeconds)
  | .other text => .error (.invalidDurationUnit text)

def clampSubscriptionPlanGiftResetCount (count : Int) : Int :=
  if count ≤ 0 then 0 else if 100 < count then 100 else count

/-! ## The purchase intent -/

/-- The order `end_time desc, id desc`. -/
def endsLater (a b : UserSubscription) : Bool :=
  b.endTime < a.endTime ∨ (a.endTime = b.endTime ∧ b.id ≤ a.id)

/-- The subscriptions that `getActiveValuePackageSubscriptionsTx` reads before it looks at their
plans. -/
def runningSubscriptions (db : DB) (userId now : Int) : List UserSubscription :=
  (db.subscriptions.rows.filter fun sub =>
    sub.userId = userId ∧ sub.status = .active ∧ now < sub.endTime).insertionSort
      fun a b => endsLater a b

/-- The loop of `getActiveValuePackageSubscriptionsTx`, with the plans it has loaded. -/
def loadValuePackages (db : DB) :
    List UserSubscription → Except TxError (List (UserSubscription × SubscriptionPlan))
  | [] => pure []
  | sub :: subs => do
    let plan ← getSubscriptionPlanByIdTx db sub.planId
    let rest ← loadValuePackages db subs
    pure (if plan.isValuePackage then (sub, plan) :: rest else rest)

/-- One round of the loop of `getHighestActiveValuePackageTx`. -/
def higherPackage (shop : Shop) (best : Option (UserSubscription × SubscriptionPlan))
    (candidate : UserSubscription × SubscriptionPlan) :
    Option (UserSubscription × SubscriptionPlan) :=
  match best with
  | none => some candidate
  | some best =>
    let level := (shop.termsOf candidate.2).packageLevel
    let bestLevel := (shop.termsOf best.2).packageLevel
    if bestLevel < level ∨ (level = bestLevel ∧ best.1.endTime < candidate.1.endTime) then
      some candidate
    else some best

def getHighestActiveValuePackageTx (shop : Shop) (userId now : Int) :
    Except TxError (Option (UserSubscription × SubscriptionPlan)) := do
  let packages ← loadValuePackages shop.db (runningSubscriptions shop.db userId now)
  pure (packages.foldl (higherPackage shop) none)

def validateValuePackagePlanLifecycleLimits (plan : SubscriptionPlan) : Except ShopError Unit := do
  check (0 < plan.totalAmount) .totalAmountNotPositive
  check (¬(plan.packageType = .month ∧ plan.totalAmount < plan.limit7dAmount))
    .limit7dAboveTotal

/-- `ValuePackagePurchaseIntent.Action`, with the current subscription where there is one. -/
inductive PurchaseAction where
  | create
  | extend (current : UserSubscription)
  | upgrade (current : UserSubscription)

/-- `ValuePackagePurchaseIntent`. -/
structure PurchaseIntent where
  action : PurchaseAction
  requiresConfirmation : Bool

def checkValuePackagePurchaseIntentTx (shop : Shop) (userId : Int) (plan : SubscriptionPlan)
    (confirmedCover : Bool) (now : Int) : Except ShopError PurchaseIntent := do
  validateValuePackagePlanLifecycleLimits plan
  match ← (getHighestActiveValuePackageTx shop userId now).mapError ShopError.tx with
  | none => pure ⟨.create, false⟩
  | some (currentSub, currentPlan) =>
    if plan.id = currentPlan.id then pure ⟨.extend currentSub, false⟩
    else do
      check
        (¬(shop.termsOf plan).packageLevel < (shop.termsOf currentPlan).packageLevel)
        .lowerLevelPackage
      pure ⟨.upgrade currentSub, !confirmedCover⟩

/-! ## The sale -/

/-- The subscription that a purchase creates. -/
def newValuePackage (id userId : Int) (plan : SubscriptionPlan) (nowUnix endUnix createdAt : Int) :
    UserSubscription :=
  syncValuePackageCycleSchedule
    { id, userId, planId := plan.id, amountTotal := plan.totalAmount, amountUsed := 0
      quotaEpoch := 0, startTime := nowUnix, endTime := endUnix, status := .active
      lastResetTime := 0, nextResetTime := 0, createdAt } plan

section NewPackage

variable (id userId : Int) (plan : SubscriptionPlan) (nowUnix endUnix createdAt : Int)

lemma newValuePackage_eq :
    ∃ last next, newValuePackage id userId plan nowUnix endUnix createdAt =
      ⟨id, userId, plan.id, plan.totalAmount, 0, 0, nowUnix, endUnix, .active, last, next,
        createdAt⟩ :=
  syncCycleSchedule_eq _ plan

@[simp]
lemma newValuePackage_id : (newValuePackage id userId plan nowUnix endUnix createdAt).id = id := by
  obtain ⟨last, next, heq⟩ := newValuePackage_eq id userId plan nowUnix endUnix createdAt
  rw [heq]

@[simp]
lemma newValuePackage_userId :
    (newValuePackage id userId plan nowUnix endUnix createdAt).userId = userId := by
  obtain ⟨last, next, heq⟩ := newValuePackage_eq id userId plan nowUnix endUnix createdAt
  rw [heq]

@[simp]
lemma newValuePackage_status :
    (newValuePackage id userId plan nowUnix endUnix createdAt).status = .active := by
  obtain ⟨last, next, heq⟩ := newValuePackage_eq id userId plan nowUnix endUnix createdAt
  rw [heq]

end NewPackage

/-- Mark the current subscription as covered. -/
def Shop.coverSubscription (shop : Shop) (current : UserSubscription) : Shop :=
  match shop.db.subscriptions.get? current.id with
  | none => shop
  | some stored => shop.withDB (shop.db.saveSubscription { stored with status := .covered })

/-- The clock readings of a sale: the two readings of the database clock, and the server's. -/
structure SaleTimes where
  intentNow : Int
  nowUnix : Int
  timestamp : Int
  deriving DecidableEq

/-- The `case` for new subscriptions. -/
def Shop.createValuePackage (shop : Shop) (userId : Int) (plan : SubscriptionPlan)
    (nowUnix endUnix createdAt : Int) : UserSubscription × Shop :=
  let sub := newValuePackage shop.nextSubscriptionId userId plan nowUnix endUnix createdAt
  (sub, shop.createSubscription sub ⟨"", ""⟩)

/-- The `switch` on the action of the intent. -/
def applyPurchaseAction (env : ShopEnv) (shop : Shop) (userId : Int) (plan : SubscriptionPlan)
    (action : PurchaseAction) (nowUnix endUnix createdAt : Int) :
    Except ShopError (UserSubscription × Shop) :=
  match action with
  | .extend current => do
    let (existing, db) ← (extendValuePackageSubscriptionTx env.env shop.db current.id plan nowUnix
      endUnix).mapError ShopError.tx
    pure (existing, shop.withDB db)
  | .upgrade current =>
    pure ((shop.coverSubscription current).createValuePackage userId plan nowUnix endUnix createdAt)
  | .create => pure (shop.createValuePackage userId plan nowUnix endUnix createdAt)

def ensureValuePackagePreferenceAfterPurchaseTx (db : DB) (userId completedSubId : Int)
    (plan : SubscriptionPlan) (giftResetCount : Int) : Except ShopError DB := do
  check (0 < userId ∧ 0 < completedSubId) .invalidPreferenceArgs
  let (_, db) := upsertValuePackagePreferenceTx db userId true completedSubId
  let giftCount := clampSubscriptionPlanGiftResetCount giftResetCount
  if plan.isValuePackage ∧ giftCount ≠ 0 then do
    let (_, db) ← (grantValuePackageResetCountTx db userId giftCount).mapError ShopError.card
    pure db
  else pure db

/-- The part that both flows share, after the choice of the action: carry it out, and make the
subscription the preferred one of the user. -/
def sellValuePackage (env : ShopEnv) (shop : Shop) (times : SaleTimes) (userId : Int)
    (plan : SubscriptionPlan) (action : PurchaseAction) (giftResetCount : Int) :
    Except ShopError (UserSubscription × Shop) := do
  let endUnix ← calcPlanEndTime env times.nowUnix (shop.termsOf plan)
  let (completed, shop) ←
    applyPurchaseAction env shop userId plan action times.nowUnix endUnix times.timestamp
  check (0 < completed.id) .completedSubscriptionMissing
  let db ← ensureValuePackagePreferenceAfterPurchaseTx shop.db userId completed.id plan
    giftResetCount
  pure (completed, shop.withDB db)

/-- `CreateValuePackageSubscriptionFromPlanTx`, with the plan that the redemption has loaded. -/
def createValuePackageSubscriptionFromPlanTx (env : ShopEnv) (shop : Shop) (times : SaleTimes)
    (userId : Int) (planId : Int) : Except ShopError (UserSubscription × Shop) := do
  let plan ← (getSubscriptionPlanByIdTx shop.db planId).mapError ShopError.tx
  check (plan.id ≠ 0) .invalidPlan
  check (0 < userId) .invalidUserId
  check plan.isValuePackage .targetNotValuePackage
  check (shop.termsOf plan).enabled .planNotEnabled
  check (shop.users.get? userId).isSome .userNotFound
  let intent ← checkValuePackagePurchaseIntentTx shop userId plan true times.intentNow
  sellValuePackage env shop times userId plan intent.action
    (clampSubscriptionPlanGiftResetCount (shop.termsOf plan).giftResetCount)

/-! ## What the intent has found -/

/-- A value package of the user that is running, with its plan. -/
structure RunningPackage (db : DB) (userId now : Int) (sub : UserSubscription)
    (plan : SubscriptionPlan) : Prop where
  stored : db.subscriptions.get? sub.id = some sub
  user : sub.userId = userId
  active : sub.status = .active
  running : now < sub.endTime
  hasPlan : getSubscriptionPlanByIdTx db sub.planId = .ok plan
  package : plan.isValuePackage = true

lemma mem_runningSubscriptions :
    sub ∈ runningSubscriptions db userId now ↔
      db.subscriptions.get? sub.id = some sub ∧ sub.userId = userId ∧ sub.status = .active ∧
        now < sub.endTime := by
  unfold runningSubscriptions
  rw [(List.perm_insertionSort _ _).mem_iff, List.mem_filter, get?_eq_some_iff]
  simp

lemma mem_loadValuePackages {subs : List UserSubscription}
    {packages : List (UserSubscription × SubscriptionPlan)}
    (h : loadValuePackages db subs = .ok packages) (sub : UserSubscription)
    (plan : SubscriptionPlan) :
    (sub, plan) ∈ packages ↔
      sub ∈ subs ∧ getSubscriptionPlanByIdTx db sub.planId = .ok plan ∧
        plan.isValuePackage = true := by
  induction subs generalizing packages with
  | nil =>
    cases h
    simp
  | cons head subs ih =>
    obtain ⟨headPlan, hplan, h⟩ := bind_eq_ok.mp h
    obtain ⟨rest, hrest, h⟩ := bind_eq_ok.mp h
    rw [pure_eq_ok] at h
    subst h
    have hhead : sub = head ∧ getSubscriptionPlanByIdTx db sub.planId = .ok plan →
        plan = headPlan := by
      rintro ⟨rfl, hsub⟩
      exact Except.ok.inj (hsub.symm.trans hplan)
    cases hpackage : headPlan.isValuePackage with
    | true =>
      rw [if_pos rfl, List.mem_cons, ih hrest, List.mem_cons, Prod.mk.injEq]
      constructor
      · rintro (⟨rfl, rfl⟩ | ⟨hmem, hsub⟩)
        · exact ⟨.inl rfl, hplan, hpackage⟩
        · exact ⟨.inr hmem, hsub⟩
      · rintro ⟨rfl | hmem, hsub⟩
        · exact .inl ⟨rfl, hhead ⟨rfl, hsub.1⟩⟩
        · exact .inr ⟨hmem, hsub⟩
    | false =>
      rw [if_neg (by simp), ih hrest, List.mem_cons]
      constructor
      · rintro ⟨hmem, hsub⟩
        exact ⟨.inr hmem, hsub⟩
      · rintro ⟨rfl | hmem, hsub⟩
        · -- the head is not on a value package
          rw [hhead ⟨rfl, hsub.1⟩, hpackage] at hsub
          exact absurd hsub.2 (by simp)
        · exact ⟨hmem, hsub⟩

/-- The loop over the packages ends with one of them, if there is one. -/
lemma foldl_higherPackage (shop : Shop) (packages : List (UserSubscription × SubscriptionPlan))
    (best : Option (UserSubscription × SubscriptionPlan)) :
    (packages.foldl (higherPackage shop) best = none → best = none ∧ packages = []) ∧
      ∀ found, packages.foldl (higherPackage shop) best = some found →
        best = some found ∨ found ∈ packages := by
  induction packages generalizing best with
  | nil => exact ⟨fun h => ⟨h, rfl⟩, fun found h => .inl h⟩
  | cons head packages ih =>
    obtain ⟨hnone, hsome⟩ := ih (higherPackage shop best head)
    have hbest : higherPackage shop best head = some head ∨
        best.isSome = true ∧ higherPackage shop best head = best := by
      unfold higherPackage
      cases best with
      | none => exact .inl rfl
      | some old =>
        dsimp only
        split_ifs
        · exact .inl rfl
        · exact .inr ⟨rfl, rfl⟩
    refine ⟨fun h => ?_, fun found h => ?_⟩
    · have hlost := (hnone h).1
      rcases hbest with hhead | ⟨hold, hkept⟩
      · rw [hlost] at hhead
        cases hhead
      · rw [← hkept, hlost] at hold
        cases hold
    · rcases hsome found h with hfound | hmem
      · rcases hbest with hhead | ⟨-, hkept⟩
        · rw [hfound] at hhead
          rw [Option.some.inj hhead]
          exact .inr List.mem_cons_self
        · exact .inl (hkept ▸ hfound)
      · exact .inr (List.mem_cons_of_mem head hmem)

lemma highestActive_ok {highest : Option (UserSubscription × SubscriptionPlan)}
    (h : getHighestActiveValuePackageTx shop userId now = .ok highest) :
    (∀ sub plan, highest = some (sub, plan) → RunningPackage shop.db userId now sub plan) ∧
      (highest = none → ∀ sub plan, ¬RunningPackage shop.db userId now sub plan) := by
  obtain ⟨packages, hpackages, h⟩ := bind_eq_ok.mp h
  rw [pure_eq_ok] at h
  subst h
  have hmem := mem_loadValuePackages hpackages
  obtain ⟨hnone, hsome⟩ := foldl_higherPackage shop packages none
  refine ⟨fun sub plan hfound => ?_, fun hempty sub plan hrunning => ?_⟩
  · rcases hsome (sub, plan) hfound with hstart | hpackage
    · cases hstart
    · obtain ⟨hrunning, hplan, hkind⟩ := (hmem sub plan).mp hpackage
      obtain ⟨hget, huser, hactive, hend⟩ := mem_runningSubscriptions.mp hrunning
      exact ⟨hget, huser, hactive, hend, hplan, hkind⟩
  · have hpackage : (sub, plan) ∈ packages := (hmem sub plan).mpr
      ⟨mem_runningSubscriptions.mpr
        ⟨hrunning.stored, hrunning.user, hrunning.active, hrunning.running⟩,
        hrunning.hasPlan, hrunning.package⟩
    rw [(hnone hempty).2] at hpackage
    cases hpackage

/-- What the choice of the action rests on. -/
inductive ActionFits (shop : Shop) (userId now : Int) (plan : SubscriptionPlan) :
    PurchaseAction → Prop where
  | create (hnone : ∀ sub plan, ¬RunningPackage shop.db userId now sub plan) :
      ActionFits shop userId now plan .create
  | extend (current : UserSubscription) (currentPlan : SubscriptionPlan)
      (hrunning : RunningPackage shop.db userId now current currentPlan)
      (hplan : plan.id = currentPlan.id) : ActionFits shop userId now plan (.extend current)
  | upgrade (current : UserSubscription) (currentPlan : SubscriptionPlan)
      (hrunning : RunningPackage shop.db userId now current currentPlan)
      (hplan : plan.id ≠ currentPlan.id) : ActionFits shop userId now plan (.upgrade current)

lemma checkPurchaseIntent_ok {confirmedCover : Bool} {intent : PurchaseIntent}
    (h : checkValuePackagePurchaseIntentTx shop userId plan confirmedCover now = .ok intent) :
    ActionFits shop userId now plan intent.action := by
  obtain ⟨_, h⟩ := of_bind h
  obtain ⟨highest, hhighest, h⟩ := bind_eq_ok.mp h
  obtain ⟨hsome, hnone⟩ := highestActive_ok (mapError_eq_ok.mp hhighest)
  split at h
  · rw [pure_eq_ok] at h
    subst h
    exact .create (hnone rfl)
  · rename_i currentSub currentPlan
    split_ifs at h with hplan
    · rw [pure_eq_ok] at h
      subst h
      exact .extend currentSub currentPlan (hsome _ _ rfl) hplan
    · obtain ⟨_, h⟩ := of_bind h
      rw [pure_eq_ok] at h
      subst h
      exact .upgrade currentSub currentPlan (hsome _ _ rfl) hplan

/-! ## What a sale does -/

lemma grantResetCount_frame {count : Int} {pref : UserValuePackagePreference}
    (h : grantValuePackageResetCountTx db userId count = .ok (pref, db')) :
    ∃ preferences line, db' = { db with
      preferences := preferences, resetCountLedger := db.resetCountLedger ++ [line] } := by
  obtain ⟨_, h⟩ := of_bind h
  obtain ⟨_, h⟩ := of_bind h
  have hensured : ∃ preferences, (ensureValuePackagePreferenceForUpdateTx db userId).2 =
      { db with preferences := preferences } := by
    unfold ensureValuePackagePreferenceForUpdateTx
    split
    · exact ⟨db.preferences, rfl⟩
    · exact ⟨_, rfl⟩
  obtain ⟨preferences, hensured⟩ := hensured
  rw [pure_eq_ok, Prod.mk.injEq] at h
  rw [← h.2, hensured]
  exact ⟨_, _, rfl⟩

/-- Settling the preference touches the preference row and the journal only, and the journal has
one line more exactly if there is a gift. -/
lemma preferenceAfterPurchase_ok {completedSubId : Int} (hpackage : plan.isValuePackage = true)
    (h : ensureValuePackagePreferenceAfterPurchaseTx db userId completedSubId plan giftResetCount =
      .ok db') :
    0 < userId ∧ ∃ preferences lines, db' = { db with
        preferences := preferences, resetCountLedger := db.resetCountLedger ++ lines } ∧
      lines.length = if clampSubscriptionPlanGiftResetCount giftResetCount ≠ 0 then 1 else 0 := by
  obtain ⟨hargs, h⟩ := of_check h
  refine ⟨hargs.1, ?_⟩
  have hupsert : ∃ preferences,
      (upsertValuePackagePreferenceTx db userId true completedSubId).2 =
        { db with preferences := preferences } := ⟨_, rfl⟩
  obtain ⟨preferences, hupsert⟩ := hupsert
  simp only [hpackage, true_and] at h
  split_ifs at h with hgift
  · obtain ⟨⟨pref, db₁⟩, hgrant, h⟩ := bind_eq_ok.mp h
    cases h
    obtain ⟨granted, line, hdb⟩ :=
      grantResetCount_frame (mapError_eq_ok.mp hgrant)
    rw [hupsert] at hdb
    exact ⟨granted, [line], hdb, by rw [if_pos hgift]; rfl⟩
  · cases h
    exact ⟨preferences, [], by rw [hupsert, List.append_nil], by rw [if_neg hgift]; rfl⟩

lemma sellValuePackage_ok {env : ShopEnv} {shop' : Shop} {times : SaleTimes}
    {action : PurchaseAction} {completed : UserSubscription}
    (hpackage : plan.isValuePackage = true)
    (h : sellValuePackage env shop times userId plan action giftResetCount =
      .ok (completed, shop')) :
    0 < userId ∧ ∃ endUnix sold preferences lines,
      calcPlanEndTime env times.nowUnix (shop.termsOf plan) = .ok endUnix ∧
      applyPurchaseAction env shop userId plan action times.nowUnix endUnix times.timestamp =
        .ok (completed, sold) ∧
      shop' = sold.withDB { sold.db with
        preferences := preferences, resetCountLedger := sold.db.resetCountLedger ++ lines } ∧
      lines.length = if clampSubscriptionPlanGiftResetCount giftResetCount ≠ 0 then 1 else 0 := by
  obtain ⟨endUnix, hend, h⟩ := bind_eq_ok.mp h
  obtain ⟨⟨sub, sold⟩, hsold, h⟩ := bind_eq_ok.mp h
  obtain ⟨_, h⟩ := of_bind h
  obtain ⟨db, hdb, h⟩ := bind_eq_ok.mp h
  cases h
  obtain ⟨huser, preferences, lines, rfl, hlines⟩ :=
    preferenceAfterPurchase_ok hpackage hdb
  exact ⟨huser, endUnix, sold, preferences, lines, hend, hsold, rfl, hlines⟩

/-- A renewed cycle keeps the identity, the status and the end of the subscription, and is
overwritten by a later write of the row. -/
lemma maybeAdvance_row {sub' : UserSubscription}
    (h : maybeAdvanceValuePackageCycleTx db sub plan now = .ok (sub', db')) :
    (sub'.id = sub.id ∧ sub'.userId = sub.userId ∧ sub'.planId = sub.planId ∧
        sub'.status = sub.status ∧ sub'.endTime = sub.endTime ∧
        sub.quotaEpoch ≤ sub'.quotaEpoch) ∧
      ∀ (row : UserSubscription) (resets : List ValuePackageQuotaReset), row.id = sub.id →
        { db' with subscriptions := db'.subscriptions.put row, quotaResets := resets } =
          { db with subscriptions := db.subscriptions.put row, quotaResets := resets } := by
  obtain ⟨-, rfl, rfl⟩ | ⟨-, -, rfl, rfl⟩ := maybeAdvance_eq_ok.mp h
  · exact ⟨⟨rfl, rfl, rfl, rfl, rfl, le_refl _⟩, fun row resets _ => rfl⟩
  · refine ⟨⟨rfl, rfl, rfl, rfl, rfl, (Int.lt_succ sub.quotaEpoch).le⟩, fun row resets hid => ?_⟩
    have hput : (db.subscriptions.put (nextCycle sub plan now)).put row =
        db.subscriptions.put row := put_put db.subscriptions hid
    rw [← hput]
    rfl

/-- An extension writes the row it returns, with the identity and the status of the stored one. -/
lemma extendPackage_row {env : Env} {subscriptionId : Int}
    {nowUnix purchasedEndUnix : Int} {result : UserSubscription}
    (h : extendValuePackageSubscriptionTx env db subscriptionId plan nowUnix purchasedEndUnix =
      .ok (result, db')) :
    ∃ existing, db.subscriptions.get? subscriptionId = some existing ∧
      existing.status = .active ∧ result.id = existing.id ∧ result.userId = existing.userId ∧
      result.planId = existing.planId ∧ result.status = .active ∧
      (existing.endTime < result.endTime ∨ existing.quotaEpoch < result.quotaEpoch) ∧
      db' = { db with
        subscriptions := db.subscriptions.put result, quotaResets := db'.quotaResets } := by
  obtain ⟨-, -, hduration, existing, sub, db₁, _, hget, hactive, hadvance, -, hwrite⟩ :=
    extendPackage_inv h
  obtain ⟨⟨hid, huser, hplan, hstatus, hend, hepoch⟩, hsave⟩ :=
    maybeAdvance_row hadvance
  refine ⟨existing, hget, hactive, ?_⟩
  rcases hwrite with ⟨-, -, rfl, rfl⟩ | ⟨-, hresult, rfl⟩
  · refine ⟨hid, huser, hplan, hstatus.trans hactive, .inr (Int.lt_add_one_of_le hepoch), ?_⟩
    exact hsave (renewedSubscription sub plan nowUnix purchasedEndUnix) _ hid
  · -- the schedule leaves everything else of the lengthened row alone
    obtain ⟨last, next, heq⟩ :=
      extendedSubscription_eq sub plan nowUnix (purchasedEndUnix - nowUnix)
    rw [heq] at hresult
    subst hresult
    refine ⟨hid, huser, hplan, hstatus.trans hactive, .inl ?_, hsave _ _ hid⟩
    have hmax := le_max_left sub.endTime nowUnix
    show existing.endTime < max sub.endTime nowUnix + (purchasedEndUnix - nowUnix)
    omega

section Sale

variable {env : ShopEnv} {shop' : Shop} {times : SaleTimes} {action : PurchaseAction}
  {completed : UserSubscription}

/-- What a sale does to the subscriptions. -/
inductive PackageSold (env : ShopEnv) (shop : Shop) (times : SaleTimes) (userId : Int)
    (plan : SubscriptionPlan) (completed : UserSubscription) (shop' : Shop) : Prop where
  | created (endUnix : Int)
      (hend : calcPlanEndTime env times.nowUnix (shop.termsOf plan) = .ok endUnix)
      (hnone : ∀ sub plan, ¬RunningPackage shop.db userId times.intentNow sub plan)
      (hnew : completed =
        newValuePackage shop.nextSubscriptionId userId plan times.nowUnix endUnix times.timestamp)
      (hsubs : shop'.db.subscriptions = shop.db.subscriptions.put completed)
      (hlast : shop'.lastSubscriptionId = max shop.lastSubscriptionId completed.id)
  | extended (endUnix : Int) (existing : UserSubscription) (currentPlan : SubscriptionPlan)
      (db' : DB)
      (hend : calcPlanEndTime env times.nowUnix (shop.termsOf plan) = .ok endUnix)
      (hrunning : RunningPackage shop.db userId times.intentNow existing currentPlan)
      (hplan : plan.id = currentPlan.id)
      (hextend : extendValuePackageSubscriptionTx env.env shop.db existing.id plan times.nowUnix
        endUnix = .ok (completed, db'))
      (hsubs : shop'.db.subscriptions = db'.subscriptions)
      (hlast : shop'.lastSubscriptionId = shop.lastSubscriptionId)
  | upgraded (endUnix : Int) (current : UserSubscription) (currentPlan : SubscriptionPlan)
      (hend : calcPlanEndTime env times.nowUnix (shop.termsOf plan) = .ok endUnix)
      (hrunning : RunningPackage shop.db userId times.intentNow current currentPlan)
      (hplan : plan.id ≠ currentPlan.id)
      (hnew : completed =
        newValuePackage shop.nextSubscriptionId userId plan times.nowUnix endUnix times.timestamp)
      (hsubs : shop'.db.subscriptions =
        (shop.db.subscriptions.put { current with status := .covered }).put completed)
      (hlast : shop'.lastSubscriptionId = max shop.lastSubscriptionId completed.id)

/-- What a sale leaves alone, and the lines of its gift. -/
structure SaleFrame (shop : Shop) (userId giftResetCount : Int) (shop' : Shop) : Prop where
  user_pos : 0 < userId
  terms : shop'.terms = shop.terms
  users : shop'.users = shop.users
  orders : shop'.orders = shop.orders
  topUps : shop'.topUps = shop.topUps
  lastTopUpId : shop'.lastTopUpId = shop.lastTopUpId
  commissions : shop'.commissions = shop.commissions
  plans : shop'.db.plans = shop.db.plans
  journal : ∃ lines, shop'.db.resetCountLedger = shop.db.resetCountLedger ++ lines ∧
    lines.length = if clampSubscriptionPlanGiftResetCount giftResetCount ≠ 0 then 1 else 0

lemma coverSubscription_eq {current : UserSubscription}
    (hstored : shop.db.subscriptions.get? current.id = some current) :
    shop.coverSubscription current =
        shop.withDB (shop.db.saveSubscription { current with status := .covered }) ∧
      (shop.coverSubscription current).nextSubscriptionId = shop.nextSubscriptionId := by
  have hcover : shop.coverSubscription current =
      shop.withDB (shop.db.saveSubscription { current with status := .covered }) := by
    unfold Shop.coverSubscription
    rw [hstored]
  refine ⟨hcover, ?_⟩
  have hkeys : (shop.db.subscriptions.put { current with status := .covered }).rows.map
      UserSubscription.id = shop.db.subscriptions.rows.map UserSubscription.id :=
    map_key_put hstored
  rw [hcover]
  unfold Shop.nextSubscriptionId nextId
  rw [Shop.withDB_db, DB.saveSubscription_subscriptions, hkeys]
  rfl

/-- Every sale creates, extends or upgrades, as its action has been chosen. -/
theorem sellValuePackage_sold (hfits : ActionFits shop userId times.intentNow plan action)
    (hpackage : plan.isValuePackage = true)
    (h : sellValuePackage env shop times userId plan action giftResetCount =
      .ok (completed, shop')) :
    PackageSold env shop times userId plan completed shop' ∧
      SaleFrame shop userId giftResetCount shop' := by
  obtain ⟨huser, endUnix, sold, preferences, lines, hend, hsold, rfl, hlines⟩ :=
    sellValuePackage_ok hpackage h
  cases hfits with
  | create hnone =>
    cases hsold
    exact ⟨.created endUnix hend hnone rfl rfl rfl, huser, rfl, rfl, rfl, rfl, rfl, rfl, rfl,
      lines, rfl, hlines⟩
  | extend current currentPlan hrunning hplan =>
    obtain ⟨⟨result, db'⟩, hextend, hsold⟩ := bind_eq_ok.mp hsold
    cases hsold
    have hextend := mapError_eq_ok.mp hextend
    obtain ⟨-, -, -, -, -, -, -, -, hdb⟩ := extendPackage_row hextend
    refine ⟨.extended endUnix current currentPlan db' hend hrunning hplan hextend rfl rfl,
      huser, rfl, rfl, rfl, rfl, rfl, rfl, ?_, lines, ?_, hlines⟩
    · show db'.plans = shop.db.plans
      rw [hdb]
    · show db'.resetCountLedger ++ lines = shop.db.resetCountLedger ++ lines
      rw [hdb]
  | upgrade current currentPlan hrunning hplan =>
    obtain ⟨hcover, hnext⟩ := coverSubscription_eq hrunning.stored
    rw [applyPurchaseAction, Shop.createValuePackage, hnext, hcover] at hsold
    cases hsold
    exact ⟨.upgraded endUnix current currentPlan hend hrunning hplan rfl rfl rfl,
      huser, rfl, rfl, rfl, rfl, rfl, rfl, rfl, lines, rfl, hlines⟩

end Sale

end Yunbay
