import Yunbay.Data.Transaction
import Yunbay.Purchase.Lifecycle

/-!
# Redemption codes

`Redeem` turns a code into quota, a subscription or reset cards in one transaction: it reads the
code, claims it with an update that is conditional on its status, and then credits the user. Only
databases other than SQLite lock the code when it is read.
-/

namespace Yunbay

open Except Table

/-! ## The tables -/

inductive RedemptionStatus where
  | enabled
  | disabled
  | used
  deriving DecidableEq

/-- `redemptions.type`, with one case for all texts that mean nothing. -/
inductive RedemptionType where
  | blank
  | quota
  | subscription
  | resetCard
  | unknown
  deriving DecidableEq

/-- What a code is for. -/
inductive RedemptionKind where
  | blank
  | legacy
  | paidTopUp
  | promoCredit
  | coupon
  | unknown
  deriving DecidableEq

/-- Where a code comes from. -/
inductive RedemptionSource where
  | blank
  | manual
  | ldxp
  | promo
  | unknown
  deriving DecidableEq

/-- A code to redeem. -/
structure Redemption where
  id : Int
  key : String
  status : RedemptionStatus
  quota : Int
  type : RedemptionType
  planId : Int
  kind : RedemptionKind
  amount : Int
  money : Money
  countAsTopUp : Bool
  source : RedemptionSource
  redeemedTime : Int
  usedUserId : Int
  /-- `0` for a code that does not expire. -/
  expiredTime : Int
  resetCardCount : Int

/-- The columns that a claim writes. -/
@[simps]
def Redemption.markUsed (redemption : Redemption) (userId now : Int) : Redemption :=
  { redemption with status := .used, redeemedTime := now, usedUserId := userId }

/-- The shop, the quotas of its users and the redemption codes. -/
structure Bank where
  shop : Shop
  /-- `users.quota`, for the users of the shop. -/
  quotaOf : Int → Int
  redemptions : Table Int Redemption Redemption.id

/-- The code with a given key. -/
def Bank.codeOf (bank : Bank) (key : String) : Option Redemption :=
  bank.redemptions.rows.find? fun redemption => redemption.key = key

inductive RedeemError where
  | notProvided
  | invalid
  | used
  | expired
  | unsupportedKind
  /-- `ErrRedeemFailed`, which `redeemError` puts in the place of all other errors. -/
  | failed
  deriving DecidableEq

/-! ## The transaction -/

/-- A call of `Redeem` on a code that is given otherwise. -/
structure RedeemCall where
  userId : Int
  /-- The database is not SQLite. -/
  locks : Bool
  /-- The server's clock when the code is read. -/
  now : Int
  /-- The clock readings when a subscription is created. -/
  times : SaleTimes

/-- What the checks let through. -/
structure RedeemPlan where
  redemption : Redemption
  /-- The plan of the code is a value package. -/
  valuePackage : Bool

def normalizeRedemptionType : RedemptionType → RedemptionType
  | .blank => .quota
  | type => type

def normalizeRedeemedRedemption (redemption : Redemption) : Redemption :=
  { redemption with
    type := normalizeRedemptionType redemption.type
    kind := if redemption.kind = .blank then .legacy else redemption.kind
    source := if redemption.source = .blank then .manual else redemption.source }

/-- The checks of a code for quota. -/
def checkQuotaCode (redemption : Redemption) : Except RedeemError Unit := do
  check
    (redemption.kind = .legacy ∨ redemption.kind = .paidTopUp ∨ redemption.kind = .promoCredit)
    .unsupportedKind
  check
    (¬(redemption.kind = .paidTopUp ∧
      (redemption.countAsTopUp = false ∨ redemption.amount ≤ 0 ∨ redemption.money.leZero = true)))
    .invalid
  check (¬(redemption.kind = .promoCredit ∧ redemption.countAsTopUp = true)) .invalid

/-- `redeemWithTx` up to the claim of the code. -/
def redeemRead (key : String) (call : RedeemCall) (bank : Bank) :
    Except RedeemError RedeemPlan := do
  check (key ≠ "") .notProvided
  check (call.userId ≠ 0) .invalid
  match bank.codeOf key with
  | none => .error .invalid
  | some stored => do
    check (stored.status = .enabled) .used
    check (¬(stored.expiredTime ≠ 0 ∧ stored.expiredTime < call.now)) .expired
    let redemption := normalizeRedeemedRedemption stored
    match redemption.type with
    | .subscription => do
      let plan ← (getSubscriptionPlanByIdTx bank.shop.db redemption.planId).mapError
        fun _ => RedeemError.failed
      pure ⟨redemption, plan.isValuePackage⟩
    | .resetCard => do
      check
        (0 < redemption.resetCardCount ∧ redemption.resetCardCount ≤ maxRedemptionResetCardCount)
        .invalid
      -- `ensureExistingUserForUpdateTx`
      check (0 < call.userId ∧ (bank.shop.users.get? call.userId).isSome = true) .failed
      pure ⟨redemption, false⟩
    | .quota => do
      checkQuotaCode redemption
      pure ⟨redemption, false⟩
    | _ => .error .invalid

/-- The statements that change something. -/
inductive RedeemStatement where
  /-- `claimRedemptionCodeTx`. -/
  | claim (id userId now : Int)
  | createValuePackage (times : SaleTimes) (userId planId : Int)
  | createSubscription (times : SaleTimes) (userId planId : Int)
  | grantResetCount (userId count : Int)
  | addQuota (userId quota : Int)
  | createTopUp (userId amount : Int) (money : Money) (tradeNo : String)
  | addValidTopupCents (userId cents : Int)
  /-- `MaybeCreateAffiliateCommissionForTopUpTx` for the top-up that was created. -/
  | createCommission (tradeNo : String)
  | upgradeToVIP (userId : Int)
  deriving DecidableEq

def createRedemptionTopUpTradeNo (redemptionId userId : Int) : String :=
  "RDM" ++ toString redemptionId ++ "U" ++ toString userId

def amountToValidTopupCents (amount : Int) : Int :=
  if amount ≤ 0 ∨ maxInt64 / 100 < amount then 0 else amount * 100

def validTopupCentsForTopUp (amount : Int) (money : Money) : Int :=
  if 0 < amount then amountToValidTopupCents amount else moneyToValidTopupCents money

/-- The statements after the claim. -/
def creditStatements (call : RedeemCall) (plan : RedeemPlan) : List RedeemStatement :=
  let redemption := plan.redemption
  match redemption.type with
  | .subscription =>
    if plan.valuePackage then [.createValuePackage call.times call.userId redemption.planId]
    else [.createSubscription call.times call.userId redemption.planId]
  | .resetCard => [.grantResetCount call.userId redemption.resetCardCount]
  | _ =>
    let tradeNo := createRedemptionTopUpTradeNo redemption.id call.userId
    -- Only a code that was paid for counts as a top-up.
    .addQuota call.userId redemption.quota ::
      if redemption.kind = .paidTopUp ∧ redemption.countAsTopUp = true then
        [.createTopUp call.userId redemption.amount redemption.money tradeNo,
          .addValidTopupCents call.userId
            (validTopupCentsForTopUp redemption.amount redemption.money),
          .createCommission tradeNo,
          .upgradeToVIP call.userId]
      else []

def redeemWrites (call : RedeemCall) (plan : RedeemPlan) : List RedeemStatement :=
  .claim plan.redemption.id call.userId call.now :: creditStatements call plan

namespace Bank

/-- The bank with another shop. -/
@[simps]
def withShop (bank : Bank) (shop : Shop) : Bank := { bank with shop }

/-- `UPDATE users SET quota = quota + ? WHERE id = ?`. -/
@[simps]
def addQuota (bank : Bank) (userId quota : Int) : Bank :=
  { bank with quotaOf := Function.update bank.quotaOf userId (bank.quotaOf userId + quota) }

/-- Go on with the shop that a transaction of the shop has left. -/
def onShop {α : Type} (bank : Bank) (tx : Except ShopError (α × Shop)) : Except RedeemError Bank :=
  match tx with
  | .error _ => .error .failed
  | .ok (_, shop) => .ok (bank.withShop shop)

/-- `claimRedemptionCodeTx`. -/
def claim (bank : Bank) (id userId now : Int) : Except RedeemError Bank :=
  match bank.redemptions.get? id with
  | none => .error .used
  | some redemption =>
    if redemption.status = .enabled then
      .ok { bank with redemptions := bank.redemptions.put (redemption.markUsed userId now) }
    else .error .used

/-- `tx.Create(topUp)`, which fails if the trade number is taken. -/
def createTopUp (bank : Bank) (topUp : TopUp) : Except RedeemError Bank :=
  if (bank.shop.topUps.get? topUp.tradeNo).isSome then .error .failed
  else .ok (bank.withShop (bank.shop.saveTopUp topUp))

end Bank

/-- The effect of a statement. -/
def runRedeemStatement (env : ShopEnv) (statement : RedeemStatement) (bank : Bank) :
    Except RedeemError Bank :=
  match statement with
  | .claim id userId now => bank.claim id userId now
  | .createValuePackage times userId planId =>
    bank.onShop (createValuePackageSubscriptionFromPlanTx env bank.shop times userId planId)
  | .createSubscription times userId planId =>
    bank.onShop
      (createUserSubscriptionFromPlanTx env bank.shop times.nowUnix times.timestamp userId planId)
  | .grantResetCount userId count =>
    match grantValuePackageResetCountTx bank.shop.db userId count with
    | .error _ => .error .failed
    | .ok (_, db) => .ok (bank.withShop (bank.shop.withDB db))
  | .addQuota userId quota =>
    if (bank.shop.users.get? userId).isSome then .ok (bank.addQuota userId quota)
    else .error .invalid
  | .createTopUp userId amount money tradeNo =>
    bank.createTopUp
      ⟨tradeNo, bank.shop.nextTopUpId, userId, amount, money, "redemption_code",
        "redemption_code", .success⟩
  | .addValidTopupCents userId cents =>
    match addUserValidTopupCentsTx bank.shop userId cents with
    | .error _ => .error .failed
    | .ok shop => .ok (bank.withShop shop)
  | .createCommission tradeNo =>
    match bank.shop.topUps.get? tradeNo with
    | none => .error .failed
    | some topUp =>
      .ok (bank.withShop (maybeCreateAffiliateCommissionForTopUpTx env bank.shop topUp))
  | .upgradeToVIP userId => bank.onShop (maybeUpgradeUserToVIPTx env bank.shop userId)

/-- `Redeem` on the code with a given key. -/
def redeemProgram (env : ShopEnv) (key : String) :
    Transaction.Program Bank RedeemCall RedeemPlan RedeemStatement RedeemError where
  locks := RedeemCall.locks
  read := redeemRead key
  writes := redeemWrites
  run := runRedeemStatement env

/-- `RedeemWithTx`, all at once. -/
def redeemWithTx (env : ShopEnv) (bank : Bank) (key : String) (call : RedeemCall) :
    Except RedeemError (RedeemPlan × Bank) := do
  let plan ← redeemRead key call bank
  let bank ← (redeemProgram env key).runAll (redeemWrites call plan) bank
  pure (plan, bank)

/-! ## What a transaction does to the code -/

def RedeemStatement.isClaim : RedeemStatement → Bool
  | .claim _ _ _ => true
  | _ => false

variable {env : ShopEnv} {bank bank' : Bank} {key : String}

lemma Bank.onShop_redemptions {α : Type} {tx : Except ShopError (α × Shop)}
    (h : bank.onShop tx = .ok bank') : bank'.redemptions = bank.redemptions := by
  unfold Bank.onShop at h
  split at h
  · cases h
  · cases h
    rfl

lemma runRedeemStatement_redemptions {statement : RedeemStatement}
    (hclaim : statement.isClaim = false) (h : runRedeemStatement env statement bank = .ok bank') :
    bank'.redemptions = bank.redemptions := by
  unfold runRedeemStatement at h
  cases statement with
  | claim => cases hclaim
  | createValuePackage | createSubscription | upgradeToVIP => exact Bank.onShop_redemptions h
  | grantResetCount | addValidTopupCents | createCommission =>
    dsimp only at h
    split at h
    · cases h
    · cases h
      rfl
  | addQuota userId quota =>
    dsimp only at h
    split_ifs at h
    cases h
    rfl
  | createTopUp userId amount money tradeNo =>
    dsimp only [Bank.createTopUp] at h
    split_ifs at h
    cases h
    rfl

lemma creditStatements_isClaim (call : RedeemCall) (plan : RedeemPlan) :
    ∀ statement ∈ creditStatements call plan, statement.isClaim = false := by
  unfold creditStatements
  dsimp only
  split
  · split_ifs <;> simp [RedeemStatement.isClaim]
  · simp [RedeemStatement.isClaim]
  · split_ifs <;> simp [RedeemStatement.isClaim]

lemma runAll_redemptions {statements : List RedeemStatement}
    (hclaim : ∀ statement ∈ statements, statement.isClaim = false)
    (h : (redeemProgram env key).runAll statements bank = .ok bank') :
    bank'.redemptions = bank.redemptions := by
  induction statements generalizing bank with
  | nil =>
    cases h
    rfl
  | cons statement statements ih =>
    obtain ⟨middle, hfirst, hrest⟩ := bind_eq_ok.mp h
    rw [List.forall_mem_cons] at hclaim
    rw [ih hclaim.2 hrest]
    exact runRedeemStatement_redemptions hclaim.1 hfirst

lemma Bank.claim_ok {id userId now : Int} (h : bank.claim id userId now = .ok bank') :
    ∃ redemption, bank.redemptions.get? id = some redemption ∧ redemption.status = .enabled ∧
      bank'.redemptions = bank.redemptions.put (redemption.markUsed userId now) := by
  unfold Bank.claim at h
  split at h
  · cases h
  next redemption hget =>
    split_ifs at h with hstatus
    cases h
    exact ⟨redemption, hget, hstatus, rfl⟩

variable {call : RedeemCall} {plan : RedeemPlan} {code : Redemption}

/-- A transaction that runs to its end has found the code enabled, and has claimed it. -/
lemma redeemWrites_ok
    (h : (redeemProgram env key).runAll (redeemWrites call plan) bank = .ok bank') :
    ∃ redemption, bank.redemptions.get? plan.redemption.id = some redemption ∧
      redemption.status = .enabled ∧
      bank'.redemptions =
        bank.redemptions.put (redemption.markUsed call.userId call.now) := by
  obtain ⟨claimed, hclaim, hcredit⟩ := bind_eq_ok.mp h
  obtain ⟨redemption, hget, hstatus, hput⟩ := Bank.claim_ok hclaim
  exact ⟨redemption, hget, hstatus,
    (runAll_redemptions (creditStatements_isClaim call plan) hcredit).trans hput⟩

lemma Bank.codeOf_mem (h : bank.codeOf key = some code) :
    bank.redemptions.get? code.id = some code :=
  get?_of_mem (List.mem_of_find?_eq_some h)

lemma Bank.codeOf_put {old row : Redemption} (hcode : bank.codeOf key = some code)
    (hold : bank.redemptions.get? row.id = some old) (hkey : row.key = old.key)
    (hbank : bank'.redemptions = bank.redemptions.put row) :
    bank'.codeOf key = some (if code.id = row.id then row else code) := by
  unfold Bank.codeOf at hcode ⊢
  rw [hbank, put_rows_of_some hold, List.find?_map]
  -- The search looks at keys only, which the write has left alone.
  have hsame : bank.redemptions.rows.find?
        ((fun redemption => decide (redemption.key = key)) ∘
          fun other => if other.id = row.id then row else other) =
      bank.redemptions.rows.find? fun redemption => redemption.key = key := by
    apply List.find?_congr
    intro other hmem
    simp only [Function.comp_apply]
    split_ifs with hid
    · have hother : bank.redemptions.get? row.id = some other := hid ▸ get?_of_mem hmem
      rw [hold, Option.some.injEq] at hother
      rw [hkey, hother]
    · rfl
  rw [hsame, hcode]
  rfl

/-! ## The race for a code -/

/-- The code has been claimed by the transaction that has committed, if there is one. -/
def ClaimedBy (key : String) (bank : Bank) (history : List (RedeemCall × RedeemPlan)) : Prop :=
  history = [] ∨ ∃ entry code, history = [entry] ∧ bank.codeOf key = some code ∧
    code.status = .used ∧ code.usedUserId = entry.1.userId

/-- What was read is the code, as it was at some time. -/
def ReadCode (key : String) (bank : Bank) (_ : RedeemCall) (plan : RedeemPlan) : Prop :=
  ∃ code, bank.codeOf key = some code ∧ code.id = plan.redemption.id

lemma redeemRead_readCode
    (h : redeemRead key call bank = .ok plan) : ReadCode key bank call plan := by
  unfold redeemRead at h
  obtain ⟨_, h⟩ := of_bind h
  obtain ⟨_, h⟩ := of_bind h
  split at h
  · cases h
  next stored hcode =>
    refine ⟨stored, hcode, ?_⟩
    obtain ⟨_, h⟩ := of_bind h
    obtain ⟨_, h⟩ := of_bind h
    dsimp only at h
    -- All branches go on with the code that was read.
    split at h
    · obtain ⟨_, h⟩ := of_bind h
      rw [← pure_eq_ok.mp h]
      rfl
    · obtain ⟨_, h⟩ := of_bind h
      obtain ⟨_, h⟩ := of_bind h
      rw [← pure_eq_ok.mp h]
      rfl
    · obtain ⟨_, h⟩ := of_bind h
      rw [← pure_eq_ok.mp h]
      rfl
    · cases h

lemma redeem_rule (env : ShopEnv) (key : String) :
    Transaction.Rule (redeemProgram env key) (ClaimedBy key) (ReadCode key) fun _ _ _ => True where
  read := fun _ _ _ _ _ hread => redeemRead_readCode hread
  commit := by
    rintro bank history call plan bank' hclaimed ⟨code, hcode, hid⟩ - - hrun
    obtain ⟨redemption, hget, hstatus, hput⟩ := redeemWrites_ok hrun
    have hcodeGet := Bank.codeOf_mem hcode
    rw [hid, hget, Option.some.injEq] at hcodeGet
    subst hcodeGet
    rcases hclaimed with rfl | ⟨entry, other, -, hother, hused, -⟩
    · have hold : bank.redemptions.get? (redemption.markUsed call.userId call.now).id =
          some redemption := Bank.codeOf_mem hcode
      refine .inr ⟨_, _, rfl, Bank.codeOf_put hcode hold rfl hput, ?_⟩
      simp
    · -- The code would have been used already.
      rw [hcode, Option.some.injEq] at hother
      rw [← hother, hstatus] at hused
      cases hused
  stable := by
    rintro bank history call plan bank' - - hrun other seen ⟨code, hcode, hid⟩
    obtain ⟨redemption, hget, -, hput⟩ := redeemWrites_ok hrun
    have hold : bank.redemptions.get? (redemption.markUsed call.userId call.now).id =
        some redemption := get?_of_mem (mem_of_get? hget)
    refine ⟨_, Bank.codeOf_put hcode hold rfl hput, ?_⟩
    split_ifs with hsame
    · exact hsame.symm.trans hid
    · exact hid

/-- The state after transactions on the code in some interleaving. -/
def redeemRun (env : ShopEnv) (key : String) (bank : Bank)
    (moves : List (Transaction.Move RedeemCall)) :
    Transaction.State Bank RedeemCall RedeemPlan RedeemStatement :=
  Run.exec (redeemProgram env key).system.step (Transaction.start bank) moves

/-- A redemption code pays at most once. In any interleaving of transactions on a code, at most one
has committed; if one has, the code is used with its user; and every further step leaves all tables
as they are unless it is a commit. -/
theorem redemption_paid_once (env : ShopEnv) (key : String) (bank : Bank)
    (moves : List (Transaction.Move RedeemCall)) :
    ((redeemRun env key bank moves).workers.map Transaction.Task.done).sum ≤ 1 ∧
    (∀ task ∈ (redeemRun env key bank moves).workers, ∀ plan, task.stage = .committed plan →
      ∃ code, (redeemRun env key bank moves).shared.store.codeOf key = some code ∧
        code.status = .used ∧ code.usedUserId = task.call.userId) ∧
    ∀ ref fails,
      ((redeemProgram env key).system.step (redeemRun env key bank moves)
          (.act ref fails)).shared.store = (redeemRun env key bank moves).shared.store ∨
        ∃ call plan,
          ((redeemProgram env key).system.step (redeemRun env key bank moves)
            (.act ref fails)).workers[ref]? = some ⟨call, .committed plan⟩ := by
  have hrecorded : Transaction.Recorded (redeemRun env key bank moves) :=
    Transaction.recorded_exec (redeemProgram env key) bank moves
  have hstart : Transaction.Holds (redeemProgram env key) (ClaimedBy key) (ReadCode key)
      (Transaction.start bank) := Transaction.holds_start (.inl rfl)
  have hclaimed := ((redeem_rule env key).exec_all hstart moves).inv
  change ClaimedBy key (redeemRun env key bank moves).shared.store
    (redeemRun env key bank moves).shared.history at hclaimed
  refine ⟨?_, fun task hmem plan hstage => ?_, fun ref fails => ?_⟩
  · rw [hrecorded.count]
    rcases hclaimed with hnone | ⟨entry, code, hone, -⟩
    · simp [hnone]
    · simp [hone]
  · have hentry := hrecorded.mem task hmem plan hstage
    rcases hclaimed with hnone | ⟨entry, code, hone, hcode, hstatus, huser⟩
    · rw [hnone] at hentry
      cases hentry
    · rw [hone, List.mem_singleton] at hentry
      exact ⟨code, hcode, hstatus, by rw [huser, ← hentry]⟩
  · exact Transaction.store_eq_or_committed _ _ ref fails

/-- A code of quota `500` that was paid for, in the sample shop. -/
def sampleBank : Bank where
  shop := sampleShop
  quotaOf _ := 0
  redemptions := Table.empty.put
    ⟨3, "K", .enabled, 500, .blank, 0, .paidTopUp, 1, .finite 10 0, true, .manual, 0, 0, 0, 0⟩

/-- A call by a user, with a read that does not lock. -/
def sampleRedeem (userId : Int) : RedeemCall := ⟨userId, false, 100, ⟨100, 100, 100⟩⟩

end Yunbay
