import Yunbay.Data.OneShot
import Yunbay.Purchase.Lifecycle

/-!
# Affiliate payouts

A top-up brings its user's inviter a commission. The inviter asks for withdrawals, which an
administrator marks as paid or rejects. No table holds a balance: `GetAffiliateSummaryTx` recomputes
it from the commissions and the withdrawals.

Money is counted in whole cents. Each of the four calls is one transaction, and they come in any
order.
-/

namespace Yunbay

open Except Run Table

/-! ## Money -/

/-- `decimal.NewFromFloat(value).Round(2)` in cents: half a cent is rounded away from zero. -/
def roundCents (unscaled : Int) (scale : Nat) : Int :=
  unscaled.sign * ((2 * (unscaled.natAbs * 100) + 10 ^ scale) / (2 * 10 ^ scale) : Nat)

def roundAffiliateMoney : Money → Money
  | .finite unscaled scale => .finite (roundCents unscaled scale) 2
  | money => money

def Money.cents : Money → Int
  | .finite unscaled scale => roundCents unscaled scale
  | _ => 0

lemma Money.cents_nonneg {money : Money} (h : money.isFinitePositive = true) : 0 ≤ money.cents := by
  cases money with
  | finite unscaled scale =>
    have hpos : 0 < unscaled := of_decide_eq_true h
    rw [cents, roundCents, Int.sign_eq_one_of_pos hpos, one_mul]
    exact Int.natCast_nonneg _
  | nan | posInf | negInf => cases h

/-! ## The tables -/

inductive CommissionStatus where
  | available
  | canceled
  deriving DecidableEq

inductive WithdrawalStatus where
  | pending
  | paid
  | rejected
  | canceled
  deriving DecidableEq

/-- A payout an inviter asks for. -/
structure AffiliateWithdrawal where
  id : Int
  userId : Int
  amount : Money
  contact : String
  remark : String
  status : WithdrawalStatus
  adminRemark : String
  createdTime : Int
  updatedTime : Int
  processedTime : Int

/-- The shop with the tables that only the affiliate calls use. -/
structure Affiliate where
  shop : Shop
  /-- The status of the commission for a top-up. -/
  commissionStatus : Int → CommissionStatus
  withdrawals : Table Int AffiliateWithdrawal AffiliateWithdrawal.id
  /-- The auto-increment counter. -/
  lastWithdrawalId : Int

inductive AffiliateError where
  | invalidAmount
  | contactRequired
  | insufficientBalance
  | withdrawalNotFound
  | withdrawalBadStatus
  /-- `gorm.ErrRecordNotFound` for the user. -/
  | recordNotFound

/-- `AffiliateSummary`, in cents. -/
structure AffiliateSummary where
  inviteCount : Nat
  totalMoney : Int
  availableMoney : Int
  frozenMoney : Int
  withdrawnMoney : Int

/-- What a withdrawal is asked for with. -/
structure WithdrawalInput where
  amount : Money
  contact : String
  remark : String

def normalizeAffiliateWithdrawalInput (input : WithdrawalInput) :
    Except AffiliateError WithdrawalInput := do
  let amount := roundAffiliateMoney input.amount
  check (amount.isFinitePositive = true) .invalidAmount
  let contact := trimSpace input.contact
  check (contact ≠ "") .contactRequired
  pure ⟨amount, String.ofList (contact.toList.take 255), trimSpace input.remark⟩

namespace Affiliate

/-- The sum of the available commissions of an inviter. -/
def commissionCents (db : Affiliate) (userId : Int) : Int :=
  db.shop.commissions.sumBy fun commission =>
    if commission.inviterUserId = userId ∧ db.commissionStatus commission.topupId = .available then
      commission.commissionMoney.cents
    else 0

/-- The sum of the withdrawals of an inviter that have the given status. -/
def withdrawalCents (db : Affiliate) (userId : Int) (status : WithdrawalStatus) : Int :=
  db.withdrawals.sumBy fun withdrawal =>
    if withdrawal.userId = userId ∧ withdrawal.status = status then withdrawal.amount.cents else 0

/-- `MaybeCreateAffiliateCommissionForTopUpTx`, with the status of what it creates. -/
def maybeCreateCommission (env : ShopEnv) (db : Affiliate) (topUp : TopUp) : Affiliate :=
  { db with
    shop := maybeCreateAffiliateCommissionForTopUpTx env db.shop topUp
    commissionStatus :=
      match commissionFor env db.shop topUp with
      | none => db.commissionStatus
      | some commission => Function.update db.commissionStatus commission.topupId .available }

def getAffiliateSummaryTx (db : Affiliate) (userId : Int) :
    Except AffiliateError AffiliateSummary := do
  check ((db.shop.users.get? userId).isSome = true) .recordNotFound
  let totalMoney := db.commissionCents userId
  let frozenMoney := db.withdrawalCents userId .pending
  let withdrawnMoney := db.withdrawalCents userId .paid
  pure
    { inviteCount := db.shop.users.rows.countP fun user => user.inviterId = userId
      totalMoney
      availableMoney := max (totalMoney - frozenMoney - withdrawnMoney) 0
      frozenMoney
      withdrawnMoney }

def createAffiliateWithdrawalTx (db : Affiliate) (now userId : Int) (input : WithdrawalInput) :
    Except AffiliateError (AffiliateWithdrawal × Affiliate) := do
  let input ← normalizeAffiliateWithdrawalInput input
  -- `lockAffiliateUserTx`
  check ((db.shop.users.get? userId).isSome = true) .recordNotFound
  let summary ← db.getAffiliateSummaryTx userId
  check (input.amount.cents ≤ summary.availableMoney) .insufficientBalance
  let id := db.withdrawals.nextId db.lastWithdrawalId
  let withdrawal : AffiliateWithdrawal :=
    { id, userId
      amount := input.amount
      contact := input.contact
      remark := input.remark
      status := .pending
      adminRemark := ""
      createdTime := now
      updatedTime := now
      processedTime := 0 }
  pure (withdrawal,
    { db with withdrawals := db.withdrawals.put withdrawal, lastWithdrawalId := id })

/-- `CreateAffiliateWithdrawal`, which normalizes its input before the transaction does it again. -/
def createAffiliateWithdrawal (db : Affiliate) (now userId : Int) (input : WithdrawalInput) :
    Except AffiliateError (AffiliateWithdrawal × Affiliate) := do
  let input ← normalizeAffiliateWithdrawalInput input
  db.createAffiliateWithdrawalTx now userId input

def loadPendingAffiliateWithdrawalForUpdate (db : Affiliate) (id : Int) :
    Except AffiliateError AffiliateWithdrawal :=
  if id ≤ 0 then .error .withdrawalNotFound
  else
    match db.withdrawals.get? id with
    | none => .error .withdrawalNotFound
    | some withdrawal =>
      if withdrawal.status = .pending then .ok withdrawal else .error .withdrawalBadStatus

/-- The common body of `MarkAffiliateWithdrawalPaid` and `RejectAffiliateWithdrawal`. -/
def processWithdrawal (status : WithdrawalStatus) (db : Affiliate) (now id : Int)
    (adminRemark : String) : Except AffiliateError (AffiliateWithdrawal × Affiliate) := do
  let loaded ← db.loadPendingAffiliateWithdrawalForUpdate id
  let loaded : AffiliateWithdrawal :=
    { loaded with
      status
      adminRemark := trimSpace adminRemark
      updatedTime := now
      processedTime := now }
  pure (loaded, { db with withdrawals := db.withdrawals.put loaded })

def markAffiliateWithdrawalPaid (db : Affiliate) (now id : Int) (adminRemark : String) :
    Except AffiliateError (AffiliateWithdrawal × Affiliate) :=
  processWithdrawal .paid db now id adminRemark

def rejectAffiliateWithdrawal (db : Affiliate) (now id : Int) (adminRemark : String) :
    Except AffiliateError (AffiliateWithdrawal × Affiliate) :=
  processWithdrawal .rejected db now id adminRemark

end Affiliate

/-- The transactions. -/
inductive AffiliateCall where
  | maybeCreateAffiliateCommissionForTopUp (topUp : TopUp)
  | createAffiliateWithdrawal (now userId : Int) (input : WithdrawalInput)
  | markAffiliateWithdrawalPaid (now id : Int) (adminRemark : String)
  | rejectAffiliateWithdrawal (now id : Int) (adminRemark : String)

namespace Affiliate

def step (env : ShopEnv) (db : Affiliate) : AffiliateCall → Affiliate
  | .maybeCreateAffiliateCommissionForTopUp topUp => db.maybeCreateCommission env topUp
  | .createAffiliateWithdrawal now userId input =>
    commit db (db.createAffiliateWithdrawal now userId input)
  | .markAffiliateWithdrawalPaid now id adminRemark =>
    commit db (db.markAffiliateWithdrawalPaid now id adminRemark)
  | .rejectAffiliateWithdrawal now id adminRemark =>
    commit db (db.rejectAffiliateWithdrawal now id adminRemark)

/-! ## What a transaction does -/

/-- What a transaction can do to the tables. -/
inductive Change (env : ShopEnv) (db : Affiliate) : Affiliate → Prop
  | none : Change env db db
  | commission (topUp : TopUp) (commission : AffiliateCommission)
      (hnew : commissionFor env db.shop topUp = some commission) :
      Change env db
        { db with
          shop := db.shop.saveCommission commission
          commissionStatus := Function.update db.commissionStatus commission.topupId .available }
  | withdrawal (withdrawal : AffiliateWithdrawal)
      (hnew : db.withdrawals.get? withdrawal.id = .none)
      (hstatus : withdrawal.status = .pending)
      (hnonneg : 0 ≤ withdrawal.amount.cents)
      (havailable : withdrawal.amount.cents ≤
        max (db.commissionCents withdrawal.userId - db.withdrawalCents withdrawal.userId .pending -
          db.withdrawalCents withdrawal.userId .paid) 0) :
      Change env db
        { db with
          withdrawals := db.withdrawals.put withdrawal
          lastWithdrawalId := withdrawal.id }
  | processed (old withdrawal : AffiliateWithdrawal)
      (hold : db.withdrawals.get? withdrawal.id = some old)
      (hpending : old.status = .pending)
      (hstatus : withdrawal.status = .paid ∨ withdrawal.status = .rejected)
      (huser : withdrawal.userId = old.userId)
      (hamount : withdrawal.amount = old.amount) :
      Change env db { db with withdrawals := db.withdrawals.put withdrawal }

variable {env : ShopEnv} {db db' : Affiliate}

lemma maybeCreateCommission_change (env : ShopEnv) (db : Affiliate) (topUp : TopUp) :
    Change env db (db.maybeCreateCommission env topUp) := by
  unfold maybeCreateCommission maybeCreateAffiliateCommissionForTopUpTx
  cases hcommission : commissionFor env db.shop topUp with
  | none => exact .none
  | some commission => exact .commission topUp commission hcommission

variable {input : WithdrawalInput} {userId now id : Int} {withdrawal : AffiliateWithdrawal}

lemma withdrawalInput_nonneg {input' : WithdrawalInput}
    (h : normalizeAffiliateWithdrawalInput input = .ok input') : 0 ≤ input'.amount.cents := by
  unfold normalizeAffiliateWithdrawalInput at h
  obtain ⟨hpositive, h⟩ := of_check h
  obtain ⟨_, h⟩ := of_bind h
  rw [← pure_eq_ok.mp h]
  exact Money.cents_nonneg hpositive

lemma affiliateSummary_available {summary : AffiliateSummary}
    (h : db.getAffiliateSummaryTx userId = .ok summary) :
    summary.availableMoney = max (db.commissionCents userId -
      db.withdrawalCents userId .pending - db.withdrawalCents userId .paid) 0 := by
  unfold getAffiliateSummaryTx at h
  obtain ⟨_, h⟩ := of_bind h
  rw [← pure_eq_ok.mp h]

lemma createWithdrawal_change
    (h : db.createAffiliateWithdrawal now userId input = .ok (withdrawal, db')) :
    Change env db db' := by
  unfold createAffiliateWithdrawal createAffiliateWithdrawalTx at h
  obtain ⟨_, h⟩ := of_bind h
  obtain ⟨input', hinput, h⟩ := bind_eq_ok.mp h
  obtain ⟨_, h⟩ := of_bind h
  obtain ⟨summary, hsummary, h⟩ := bind_eq_ok.mp h
  obtain ⟨henough, h⟩ := of_check h
  obtain ⟨rfl, rfl⟩ := Prod.mk.inj (pure_eq_ok.mp h)
  rw [affiliateSummary_available hsummary] at henough
  exact .withdrawal _ (get?_nextId _ _) rfl
    (withdrawalInput_nonneg hinput) henough

lemma loadPendingWithdrawal_ok
    (h : db.loadPendingAffiliateWithdrawalForUpdate id = .ok withdrawal) :
    db.withdrawals.get? withdrawal.id = some withdrawal ∧ withdrawal.status = .pending := by
  unfold loadPendingAffiliateWithdrawalForUpdate at h
  split_ifs at h
  split at h
  · cases h
  next loaded hget =>
    split_ifs at h with hstatus
    cases h
    exact ⟨get?_of_mem (mem_of_get? hget), hstatus⟩

lemma processWithdrawal_change {status : WithdrawalStatus} {adminRemark : String}
    (hstatus : status = .paid ∨ status = .rejected)
    (h : processWithdrawal status db now id adminRemark = .ok (withdrawal, db')) :
    Change env db db' := by
  unfold processWithdrawal at h
  obtain ⟨loaded, hloaded, h⟩ := bind_eq_ok.mp h
  obtain ⟨rfl, rfl⟩ := Prod.mk.inj (pure_eq_ok.mp h)
  obtain ⟨hget, hpending⟩ := loadPendingWithdrawal_ok hloaded
  exact .processed loaded _ hget hpending hstatus rfl rfl

/-- Every transaction does one of these things, or nothing. -/
lemma step_change (env : ShopEnv) (db : Affiliate) (call : AffiliateCall) :
    Change env db (db.step env call) := by
  cases call with
  | maybeCreateAffiliateCommissionForTopUp topUp => exact maybeCreateCommission_change env db topUp
  | createAffiliateWithdrawal now userId input =>
    apply commit_induction (Change env db) .none
    exact fun _ _ h => createWithdrawal_change h
  | markAffiliateWithdrawalPaid now id adminRemark =>
    apply commit_induction (Change env db) .none
    exact fun _ _ h => processWithdrawal_change (.inl rfl) h
  | rejectAffiliateWithdrawal now id adminRemark =>
    apply commit_induction (Change env db) .none
    exact fun _ _ h => processWithdrawal_change (.inr rfl) h

/-! ## The sums -/

lemma commissionCents_le_commission {topUp : TopUp} {commission : AffiliateCommission}
    (hnew : commissionFor env db.shop topUp = some commission) (userId : Int) :
    db.commissionCents userId ≤
      commissionCents
        { db with
          shop := db.shop.saveCommission commission
          commissionStatus := Function.update db.commissionStatus commission.topupId .available }
        userId := by
  obtain ⟨-, -, hpositive⟩ := commissionFor_some hnew
  have hnone : db.shop.commissions.get? commission.topupId = Option.none := commissionFor_new hnew
  -- The status of the commissions that are there stays as it is.
  have hold : ∀ other ∈ db.shop.commissions.rows,
      Function.update db.commissionStatus commission.topupId .available other.topupId =
        db.commissionStatus other.topupId := by
    intro other hmem
    exact Function.update_of_ne (get?_eq_none_iff.mp hnone other hmem) _ _
  have hsum : db.commissionCents userId = db.shop.commissions.sumBy fun other =>
      if other.inviterUserId = userId ∧ Function.update db.commissionStatus commission.topupId
        .available other.topupId = .available then other.commissionMoney.cents else 0 := by
    apply sumBy_congr
    intro other hmem
    rw [hold other hmem]
  rw [hsum, commissionCents, Shop.saveCommission_commissions, sumBy_put, hnone,
    Option.elim_none, sub_zero]
  apply le_add_of_nonneg_right
  split_ifs
  · exact Money.cents_nonneg hpositive
  · exact le_refl 0

/-- A new row adds to the sum of its status. -/
lemma withdrawalCents_put (db : Affiliate) (withdrawal : AffiliateWithdrawal) (lastId userId : Int)
    (status : WithdrawalStatus) :
    withdrawalCents
        { db with
          withdrawals := db.withdrawals.put withdrawal
          lastWithdrawalId := lastId } userId status =
      db.withdrawalCents userId status -
        ((db.withdrawals.get? withdrawal.id).elim 0 fun old =>
          if old.userId = userId ∧ old.status = status then old.amount.cents else 0) +
        if withdrawal.userId = userId ∧ withdrawal.status = status then withdrawal.amount.cents
        else 0 :=
  db.withdrawals.sumBy_put withdrawal

/-! ## The invariant -/

/-- What an inviter has asked for and not been refused is covered by the commissions. -/
structure Covered (db : Affiliate) : Prop where
  nonneg : ∀ withdrawal ∈ db.withdrawals.rows, 0 ≤ withdrawal.amount.cents
  bound : ∀ userId, db.withdrawalCents userId .pending + db.withdrawalCents userId .paid ≤
    db.commissionCents userId

/-- A withdrawal takes no more than the summary says is left. -/
lemma Covered.withdrawn (h : db.Covered)
    (hnew : db.withdrawals.get? withdrawal.id = none) (hstatus : withdrawal.status = .pending)
    (hnonneg : 0 ≤ withdrawal.amount.cents)
    (havailable : withdrawal.amount.cents ≤
      max (db.commissionCents withdrawal.userId - db.withdrawalCents withdrawal.userId .pending -
        db.withdrawalCents withdrawal.userId .paid) 0) :
    Covered
      { db with
        withdrawals := db.withdrawals.put withdrawal
        lastWithdrawalId := withdrawal.id } where
  nonneg := forall_mem_put hnonneg h.nonneg
  bound := by
    intro userId
    have hbound := h.bound userId
    rw [withdrawalCents_put, withdrawalCents_put, hnew, hstatus]
    simp only [Option.elim_none, sub_zero, and_true, reduceCtorEq, and_false, if_false, add_zero]
    show _ ≤ db.commissionCents userId
    split_ifs with huser
    · rw [huser, max_eq_left (by omega)] at havailable
      omega
    · omega

lemma Covered.processed (h : db.Covered) {old : AffiliateWithdrawal}
    (hold : db.withdrawals.get? withdrawal.id = some old) (hpending : old.status = .pending)
    (hstatus : withdrawal.status = .paid ∨ withdrawal.status = .rejected)
    (huser : withdrawal.userId = old.userId) (hamount : withdrawal.amount = old.amount) :
    Covered { db with withdrawals := db.withdrawals.put withdrawal } where
  nonneg := by
    refine forall_mem_put ?_ h.nonneg
    rw [hamount]
    exact h.nonneg old (mem_of_get? hold)
  bound := by
    intro userId
    have hbound := h.bound userId
    have hnonneg := h.nonneg old (mem_of_get? hold)
    have hput := db.withdrawalCents_put withdrawal db.lastWithdrawalId userId
    show withdrawalCents
        { db with
          withdrawals := db.withdrawals.put withdrawal
          lastWithdrawalId := db.lastWithdrawalId } userId .pending + withdrawalCents
        { db with
          withdrawals := db.withdrawals.put withdrawal
          lastWithdrawalId := db.lastWithdrawalId } userId .paid ≤ db.commissionCents userId
    rw [hput, hput, hold, huser, hamount]
    rcases hstatus with hpaid | hrejected
    · simp only [Option.elim_some, hpending, hpaid, and_true, reduceCtorEq, and_false, if_false]
      split_ifs <;> omega
    · simp only [Option.elim_some, hpending, hrejected, and_true, reduceCtorEq, and_false, if_false]
      split_ifs <;> omega

lemma Covered.change (h : db.Covered) (hchange : Change env db db') : db'.Covered := by
  cases hchange with
  | none => exact h
  | commission topUp commission hnew =>
    exact ⟨h.nonneg, fun userId =>
      (h.bound userId).trans (commissionCents_le_commission hnew userId)⟩
  | withdrawal withdrawal hnew hstatus hnonneg havailable =>
    exact h.withdrawn hnew hstatus hnonneg havailable
  | processed old withdrawal hold hpending hstatus huser hamount =>
    exact h.processed hold hpending hstatus huser hamount

lemma covered_of_empty (hwithdrawals : db.withdrawals = Table.empty)
    (hcommissions : db.shop.commissions = Table.empty) : db.Covered where
  nonneg := by
    rw [hwithdrawals]
    exact List.forall_mem_nil _
  bound := by
    intro userId
    simp only [withdrawalCents, commissionCents, hwithdrawals, hcommissions]
    exact le_refl _

/-! ## Steps that happen once -/

/-- The withdrawal is there and waits for the administrator. -/
def isPending (id : Int) (db : Affiliate) : Bool :=
  (db.withdrawals.get? id).any fun withdrawal => withdrawal.status = .pending

/-- The call takes the withdrawal out of `pending`. -/
def leavesPending (env : ShopEnv) (id : Int) (db : Affiliate) (call : AffiliateCall) : Bool :=
  db.isPending id && !(db.step env call).isPending id

/-- The call creates a commission for the top-up. -/
def createsCommission (env : ShopEnv) (topupId : Int) (db : Affiliate) : AffiliateCall → Bool
  | .maybeCreateAffiliateCommissionForTopUp topUp =>
    (commissionFor env db.shop topUp).any fun commission => commission.topupId = topupId
  | _ => false

/-- The withdrawal has been paid or rejected. -/
def IsProcessed (id : Int) (db : Affiliate) : Prop :=
  ∃ withdrawal, db.withdrawals.get? id = some withdrawal ∧ withdrawal.status ≠ .pending

/-- What has been paid or rejected stays as it is. -/
lemma IsProcessed.change (h : db.IsProcessed id) (hchange : Change env db db') :
    db'.IsProcessed id := by
  obtain ⟨withdrawal, hget, hstatus⟩ := h
  cases hchange with
  | none | commission => exact ⟨withdrawal, hget, hstatus⟩
  | withdrawal added hnew =>
    refine ⟨withdrawal, ?_, hstatus⟩
    rw [get?_put_of_ne]
    · exact hget
    · rintro rfl
      rw [hnew] at hget
      cases hget
  | processed old added hold hpending =>
    refine ⟨withdrawal, ?_, hstatus⟩
    rw [get?_put_of_ne]
    · exact hget
    · rintro rfl
      rw [hold] at hget
      cases hget
      exact hstatus hpending

/-- What leaves `pending` has been paid or rejected, as no row is deleted. -/
lemma isProcessed_of_leaves (hpending : db.isPending id = true)
    (hchange : Change env db db') (hleft : db'.isPending id = false) : db'.IsProcessed id := by
  unfold isPending at hpending hleft
  obtain ⟨withdrawal, hget⟩ : ∃ withdrawal, db'.withdrawals.get? id = some withdrawal := by
    obtain ⟨withdrawal, hget, -⟩ := (Option.any_eq_true _ _).mp hpending
    cases hchange with
    | none | commission => exact ⟨withdrawal, hget⟩
    | withdrawal added | processed old added =>
      rw [get?_put]
      split_ifs
      · exact ⟨added, rfl⟩
      · exact ⟨withdrawal, hget⟩
  refine ⟨withdrawal, hget, fun hstatus => ?_⟩
  simp [hget, hstatus] at hleft

lemma leavesPending_latch (env : ShopEnv) (id : Int) :
    Run.Latch (step env) (leavesPending env id) (fun _ => True) (IsProcessed id) where
  inv := fun _ _ _ => trivial
  fire := by
    intro db call _ hfires
    obtain ⟨hpending, hleft⟩ := Bool.and_eq_true_iff.mp hfires
    refine ⟨?_, isProcessed_of_leaves hpending (step_change env db call) (by simpa using hleft)⟩
    rintro ⟨withdrawal, hget, hstatus⟩
    simp [isPending, hget, hstatus] at hpending
  keep := fun db call _ hprocessed => hprocessed.change (step_change env db call)

lemma isSome_commission_change {topupId : Int}
    (h : (db.shop.commissions.get? topupId).isSome = true) (hchange : Change env db db') :
    (db'.shop.commissions.get? topupId).isSome = true := by
  cases hchange with
  | none | withdrawal | processed => exact h
  | commission topUp commission hnew =>
    rw [Shop.saveCommission_commissions, get?_put]
    split_ifs
    · rfl
    · exact h

lemma createsCommission_latch (env : ShopEnv) (topupId : Int) :
    Run.Latch (step env) (createsCommission env topupId) (fun _ => True)
      (fun db => (db.shop.commissions.get? topupId).isSome = true) where
  inv := fun _ _ _ => trivial
  fire := by
    intro db call _ hfires
    cases call with
    | maybeCreateAffiliateCommissionForTopUp topUp =>
      obtain ⟨commission, hnew, htopUp⟩ := (Option.any_eq_true _ _).mp hfires
      have htopUp : commission.topupId = topupId := of_decide_eq_true htopUp
      subst htopUp
      constructor
      · simp [commissionFor_new hnew]
      · simp [step, maybeCreateCommission, maybeCreateAffiliateCommissionForTopUpTx, hnew]
    | createAffiliateWithdrawal | markAffiliateWithdrawalPaid | rejectAffiliateWithdrawal =>
      cases hfires
  keep := fun db call _ hsome => isSome_commission_change hsome (step_change env db call)

end Affiliate

/-- Payouts never exceed commissions. In every state of every run, what an inviter has asked for and
not been refused is covered by the available commissions, and the summary reports the difference. No
withdrawal leaves `pending` twice and no top-up brings two commissions. -/
theorem payouts_covered (env : ShopEnv) (start : Affiliate) (hstart : start.Covered)
    (calls : List AffiliateCall) :
    (∀ userId,
      (exec (Affiliate.step env) start calls).withdrawalCents userId .pending +
          (exec (Affiliate.step env) start calls).withdrawalCents userId .paid ≤
        (exec (Affiliate.step env) start calls).commissionCents userId) ∧
    (∀ id, Run.countFires (Affiliate.step env) (Affiliate.leavesPending env id) start calls ≤ 1) ∧
    (∀ topupId,
      Run.countFires (Affiliate.step env) (Affiliate.createsCommission env topupId) start calls
        ≤ 1) ∧
    ∀ userId summary,
      (exec (Affiliate.step env) start calls).getAffiliateSummaryTx userId = .ok summary →
      summary.availableMoney =
        (exec (Affiliate.step env) start calls).commissionCents userId -
          (exec (Affiliate.step env) start calls).withdrawalCents userId .pending -
          (exec (Affiliate.step env) start calls).withdrawalCents userId .paid := by
  have hcovered : (exec (Affiliate.step env) start calls).Covered := by
    apply exec_invariant Affiliate.Covered _ hstart
    exact fun db call h => h.change (Affiliate.step_change env db call)
  refine ⟨hcovered.bound, fun id => ?_, fun topupId => ?_, fun userId summary hsummary => ?_⟩
  · exact (Affiliate.leavesPending_latch env id).count_le_one trivial calls
  · exact (Affiliate.createsCommission_latch env topupId).count_le_one trivial calls
  · have hbound := hcovered.bound userId
    rw [Affiliate.affiliateSummary_available hsummary, max_eq_left (by omega)]

/-- A shop in which nobody has earned or withdrawn anything yet. -/
def sampleAffiliate : Affiliate where
  shop := sampleShop
  commissionStatus _ := .canceled
  withdrawals := Table.empty
  lastWithdrawalId := 0

/-- User `1`, invited by user `2`, tops up 100. Of the commission the inviter asks for 6 and gets
it, for 10, which is refused at once, and for 3.999, which is rejected later. -/
def sampleAffiliateCalls : List AffiliateCall :=
  [.maybeCreateAffiliateCommissionForTopUp ⟨"T2", 5, 1, 0, .finite 100 0, "ldxp", "ldxp", .success⟩,
    .createAffiliateWithdrawal 100 2 ⟨.finite 6 0, " wx ", ""⟩,
    .markAffiliateWithdrawalPaid 200 1 "",
    .createAffiliateWithdrawal 300 2 ⟨.finite 10 0, "wx", ""⟩,
    .createAffiliateWithdrawal 400 2 ⟨.finite 3999 3, "wx", ""⟩,
    .rejectAffiliateWithdrawal 500 2 "no",
    .markAffiliateWithdrawalPaid 600 2 ""]

theorem sampleAffiliateCalls_covered :
    sampleAffiliate.Covered ∧
    (exec (Affiliate.step sampleShopEnv) sampleAffiliate sampleAffiliateCalls).withdrawalCents 2
        .paid = 600 ∧
    (exec (Affiliate.step sampleShopEnv) sampleAffiliate sampleAffiliateCalls).commissionCents 2
        = 1500 ∧
    Run.countFires (Affiliate.step sampleShopEnv) (Affiliate.leavesPending sampleShopEnv 2)
        sampleAffiliate sampleAffiliateCalls ≤ 1 := by
  have hcovered : sampleAffiliate.Covered := Affiliate.covered_of_empty rfl rfl
  refine ⟨hcovered, by decide +kernel, by decide +kernel, ?_⟩
  exact (payouts_covered sampleShopEnv sampleAffiliate hcovered sampleAffiliateCalls).2.1 2

end Yunbay
