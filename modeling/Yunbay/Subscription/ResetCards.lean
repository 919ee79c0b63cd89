import Yunbay.Data.Journal
import Yunbay.Subscription.Ledger

/-!
# Reset cards

A user's reset cards are a counter in the preference row, and every change of it has a line in the
reset-card journal. Cards come from plan gifts, from redemption codes and from an administrator; the
user spends them one at a time.
-/

namespace Yunbay

open Except Run Table

variable {userId newCount delta user count value now : Int} {db db' db'' : DB}
  {pref : UserValuePackagePreference} {mode : AdjustMode} {users : Int → Bool}
  {err : ResetCardError} {state : CardState} {key : String}

/-! ## Transactions -/

/-- A value of Go's `int`, which has 64 bits. -/
abbrev GoInt := { n : Int // -maxInt64 - 1 ≤ n ∧ n ≤ maxInt64 }

/-- The errors of the transactions on reset cards. -/
inductive ResetCardError where
  /-- An error of a shared part of the subscription transactions. -/
  | tx (err : TxError)
  | invalidUserId
  | userNotFound
  | invalidResetCardCount
  | countNegative
  | adjustmentNotPositive
  | invalidAdjustMode
  | countUnchanged
  | invalidActivationArgs
  | notValuePackage
  | redemptionInvalid
  | redemptionUsed
  | redemptionExpired
  deriving DecidableEq

/-- The text of an error. -/
def ResetCardError.message : ResetCardError → String
  | .tx err => err.message
  | .invalidUserId => "invalid user id"
  | .userNotFound => "用户不存在"
  | .invalidResetCardCount => "invalid reset card count"
  | .countNegative => "重置次数不能为负数"
  | .adjustmentNotPositive => "调整次数必须大于 0"
  | .invalidAdjustMode => "无效的调整模式"
  | .countUnchanged => "重置次数没有变化"
  | .invalidActivationArgs => "invalid activation args"
  | .notValuePackage => "订阅不是超值套餐"
  | .redemptionInvalid => "redemption.invalid"
  | .redemptionUsed => "redemption.used"
  | .redemptionExpired => "redemption.expired"

/-- `upsertValuePackagePreferenceTx`. The reset count of an existing row is left alone. -/
def upsertValuePackagePreferenceTx (db : DB) (userId : Int) (enabled : Bool) (activeSubId : Int) :
    UserValuePackagePreference × DB :=
  let pref : UserValuePackagePreference :=
    match db.preferences.get? userId with
    | none => ⟨userId, enabled, activeSubId, 0⟩
    | some old =>
      { old with
        enabled
        activeUserSubscriptionId :=
          if 0 < activeSubId ∨ enabled = false then activeSubId
          else old.activeUserSubscriptionId }
  (pref, db.savePreference pref)

/-- The update of the count, and its line in the journal. -/
def DB.changeResetCount (db : DB) (pref : UserValuePackagePreference) (newCount delta : Int) : DB :=
  (db.savePreference { pref with resetCount := newCount }).createResetCountLedger
    ⟨pref.userId, delta, pref.resetCount, newCount⟩

def grantValuePackageResetCountTx (db : DB) (userId count : Int) :
    Except ResetCardError (UserValuePackagePreference × DB) := do
  check (0 < userId) .invalidUserId
  check (0 < count) .invalidResetCardCount
  let (pref, db) := ensureValuePackagePreferenceForUpdateTx db userId
  let newCount := wrapInt (pref.resetCount + count)
  pure ({ pref with resetCount := newCount }, db.changeResetCount pref newCount count)

/-- `ValuePackageResetCountAdjustMode`. -/
inductive AdjustMode where
  | set
  | add
  | subtract
  | other

/-- The count after an adjustment. -/
def adjustedCount (mode : AdjustMode) (oldCount value : Int) : Except ResetCardError Int :=
  match mode with
  | .set => pure value
  | .add => do
    check (0 < value) .adjustmentNotPositive
    pure (wrapInt (oldCount + value))
  | .subtract => do
    check (0 < value) .adjustmentNotPositive
    let newCount := wrapInt (oldCount - value)
    pure (if newCount < 0 then 0 else newCount)
  | .other => .error .invalidAdjustMode

/-- `ValuePackageResetCountAdjustment` without the texts. -/
structure ValuePackageResetCountAdjustment where
  userId : Int
  oldCount : Int
  newCount : Int
  delta : Int
  mode : AdjustMode

/-- `AdjustValuePackageResetCount`, where `users` are the ids of the existing users. -/
def adjustValuePackageResetCount (users : Int → Bool) (db : DB) (userId : Int) (mode : AdjustMode)
    (value : Int) : Except ResetCardError (ValuePackageResetCountAdjustment × DB) := do
  check (0 < userId) .invalidUserId
  check (0 ≤ value) .countNegative
  check (users userId) .userNotFound
  let (pref, db) := ensureValuePackagePreferenceForUpdateTx db userId
  let newCount ← adjustedCount mode pref.resetCount value
  let delta := wrapInt (newCount - pref.resetCount)
  check (delta ≠ 0) .countUnchanged
  pure (⟨userId, pref.resetCount, newCount, delta, mode⟩, db.changeResetCount pref newCount delta)

def activateValuePackage (db : DB) (now userId userSubscriptionId : Int) :
    Except ResetCardError (ValuePackageState × DB) := do
  check (0 < userId ∧ 0 < userSubscriptionId) .invalidActivationArgs
  match lockActiveSubscription db userId userSubscriptionId now with
  | none => .error (.tx .recordNotFound)
  | some sub => do
    let plan ← (getSubscriptionPlanByIdTx db sub.planId).mapError .tx
    check plan.isValuePackage .notValuePackage
    let (pref, db) := upsertValuePackagePreferenceTx db userId true sub.id
    let usage ← (buildValuePackageUsageSummaryTx db userId sub plan now).mapError .tx
    pure (⟨pref, sub, plan, usage⟩, db)

/-- What the query of the state does at the end of `DeactivateValuePackage`. It enables the
preference again if two time stamps of the row agree, which are not kept here. -/
inductive StateQuery where
  | fails (err : TxError)
  | leaves
  | enables (activeSubId : Int)

def deactivateValuePackage (db : DB) (userId : Int) (query : StateQuery) :
    Except ResetCardError (UserValuePackagePreference × DB) := do
  check (0 < userId) (.tx .invalidUserId)
  let activeSubId := (db.preferences.get? userId).elim 0 (·.activeUserSubscriptionId)
  let (pref, db) := upsertValuePackagePreferenceTx db userId false activeSubId
  match query with
  | .fails err => .error (.tx err)
  | .leaves => pure (pref, db)
  | .enables activeSubId =>
    pure (pref, (upsertValuePackagePreferenceTx db userId true activeSubId).2)

/-- A redemption code for reset cards. -/
structure ResetCardCode where
  key : String
  enabled : Bool
  /-- `0` for a code that does not expire. -/
  expiredTime : Int
  resetCardCount : Int

def maxRedemptionResetCardCount : Int := 100

/-- The database, and the redemption codes for reset cards. -/
structure CardState where
  db : DB
  codes : Table String ResetCardCode ResetCardCode.key

/-- `redeemWithTx` for a reset-card code. The claim of the code is conditional on its status, which
has just been checked. -/
def redeemResetCard (users : Int → Bool) (state : CardState) (now : Int) (key : String)
    (userId : Int) : Except ResetCardError (Unit × CardState) :=
  match state.codes.get? key with
  | none => .error .redemptionInvalid
  | some code => do
    check code.enabled .redemptionUsed
    check (¬(code.expiredTime ≠ 0 ∧ code.expiredTime < now)) .redemptionExpired
    check (0 < code.resetCardCount ∧ code.resetCardCount ≤ maxRedemptionResetCardCount)
      .redemptionInvalid
    check (0 < userId) .invalidUserId
    check (users userId) .userNotFound
    let (_, db) ← grantValuePackageResetCountTx state.db userId code.resetCardCount
    pure ((), ⟨db, state.codes.put { code with enabled := false }⟩)

/-! ## Runs -/

/-- A call of one of the transactions. -/
inductive CardOp where
  /-- `grantValuePackageResetCountTx`. -/
  | gift (userId : Int) (count : GoInt)
  /-- The redemption of a reset-card code. -/
  | redeem (now : Int) (key : String) (userId : Int)
  /-- `AdjustValuePackageResetCount`. -/
  | adjust (userId : Int) (mode : AdjustMode) (value : GoInt)
  /-- `ConsumeValuePackageResetCount`. -/
  | consume (dbNow userId userSubscriptionId resetAt : Int)
  /-- `ActivateValuePackage`. -/
  | activate (now userId userSubscriptionId : Int)
  /-- `DeactivateValuePackage`. -/
  | deactivate (userId : Int) (query : StateQuery)
  /-- `upsertValuePackagePreferenceTx`. -/
  | upsert (userId : Int) (enabled : Bool) (activeSubId : Int)

/-- The database after a transaction on it. -/
def CardState.commitDB {ε α : Type} (state : CardState) (tx : Except ε (α × DB)) : CardState :=
  { state with db := commit state.db tx }

def cardStep (users : Int → Bool) (state : CardState) : CardOp → CardState
  | .gift userId count => state.commitDB (grantValuePackageResetCountTx state.db userId count)
  | .redeem now key userId => commit state (redeemResetCard users state now key userId)
  | .adjust userId mode value =>
    state.commitDB (adjustValuePackageResetCount users state.db userId mode value)
  | .consume dbNow userId userSubscriptionId resetAt =>
    state.commitDB
      (consumeValuePackageResetCount state.db dbNow userId userSubscriptionId resetAt)
  | .activate now userId userSubscriptionId =>
    state.commitDB (activateValuePackage state.db now userId userSubscriptionId)
  | .deactivate userId query => state.commitDB (deactivateValuePackage state.db userId query)
  | .upsert userId enabled activeSubId =>
    { state with db := (upsertValuePackagePreferenceTx state.db userId enabled activeSubId).2 }

/-- The reset count of the user, zero without a preference row. -/
def resetCountOf (db : DB) (userId : Int) : Int :=
  (db.preferences.get? userId).elim 0 (·.resetCount)

/-- The user's lines of the journal. -/
def journalOf (db : DB) (userId : Int) : List (Journal.Entry Int) :=
  (db.resetCountLedger.filter fun line => line.userId = userId).map fun line =>
    ⟨line.delta, line.beforeCount, line.afterCount⟩

/-- The count is not negative, and the journal accounts for it. -/
structure CardsAccounted (userId : Int) (db : DB) : Prop where
  nonneg : 0 ≤ resetCountOf db userId
  faithful : Journal.Faithful (journalOf db userId) (resetCountOf db userId)

/-- The code can be redeemed. -/
def ResetCardCode.redeemable (code : ResetCardCode) (now : Int) : Bool :=
  code.enabled ∧ ¬(code.expiredTime ≠ 0 ∧ code.expiredTime < now) ∧
    0 < code.resetCardCount ∧ code.resetCardCount ≤ maxRedemptionResetCardCount

/-- The call does not take the user's count beyond the largest `int`. A grant or an addition that
is refused does not. -/
def CardState.fits (users : Int → Bool) (userId : Int) (state : CardState) : CardOp → Bool
  | .gift user count =>
    !(user = userId ∧ 0 < user) || resetCountOf state.db userId + count ≤ maxInt64
  | .redeem now key user =>
    !(user = userId ∧ 0 < user ∧ users user) || (state.codes.get? key).all fun code =>
      !code.redeemable now || resetCountOf state.db userId + code.resetCardCount ≤ maxInt64
  | .adjust user .add value =>
    !(user = userId ∧ 0 < user ∧ users user) || resetCountOf state.db userId + value ≤ maxInt64
  | _ => true

/-! ## What a call does to one user's cards -/

/-- The user's count and journal are as before. -/
structure CardsKept (userId : Int) (db db' : DB) : Prop where
  count : resetCountOf db' userId = resetCountOf db userId
  journal : journalOf db' userId = journalOf db userId

/-- The user's count is another one, and the change has its line. -/
structure CardsChanged (userId newCount delta : Int) (db db' : DB) : Prop where
  count : resetCountOf db' userId = newCount
  journal : journalOf db' userId =
    journalOf db userId ++ [⟨delta, resetCountOf db userId, newCount⟩]

namespace CardsKept

lemma refl (userId : Int) (db : DB) : CardsKept userId db db := ⟨rfl, rfl⟩

lemma trans (h : CardsKept userId db db') (h' : CardsKept userId db' db'') :
    CardsKept userId db db'' :=
  ⟨h'.count.trans h.count, h'.journal.trans h.journal⟩

/-- A write to other tables. -/
lemma of_eq (hprefs : db'.preferences = db.preferences)
    (hledger : db'.resetCountLedger = db.resetCountLedger) : CardsKept userId db db' := by
  refine ⟨?_, ?_⟩
  · rw [resetCountOf, hprefs, resetCountOf]
  · rw [journalOf, hledger, journalOf]

lemma savePreference (pref : UserValuePackagePreference)
    (hcount : pref.resetCount = resetCountOf db pref.userId) :
    CardsKept userId db (db.savePreference pref) := by
  refine ⟨?_, rfl⟩
  by_cases huser : pref.userId = userId
  · subst huser
    unfold resetCountOf
    rw [DB.savePreference_preferences, get?_put_self]
    exact hcount
  · unfold resetCountOf
    rw [DB.savePreference_preferences, get?_put_of_ne _ huser]

lemma upsert (db : DB) (user : Int) (enabled : Bool) (activeSubId : Int) :
    CardsKept userId db (upsertValuePackagePreferenceTx db user enabled activeSubId).2 := by
  unfold upsertValuePackagePreferenceTx
  dsimp only
  apply savePreference
  cases hget : db.preferences.get? user with
  | none => simp [resetCountOf, hget]
  | some old =>
    have hkey : old.userId = user := key_of_get? hget
    simp [resetCountOf, hget, hkey]

end CardsKept

lemma ensurePreference_spec (db : DB) (user userId : Int) :
    (ensureValuePackagePreferenceForUpdateTx db user).1.userId = user ∧
      (ensureValuePackagePreferenceForUpdateTx db user).1.resetCount = resetCountOf db user ∧
      CardsKept userId db (ensureValuePackagePreferenceForUpdateTx db user).2 := by
  unfold ensureValuePackagePreferenceForUpdateTx
  cases hget : db.preferences.get? user with
  | some pref =>
    exact ⟨key_of_get? hget, by simp [resetCountOf, hget], CardsKept.refl userId db⟩
  | none =>
    have hzero : resetCountOf db user = 0 := by simp [resetCountOf, hget]
    exact ⟨rfl, hzero.symm, CardsKept.savePreference ⟨user, false, 0, 0⟩ hzero.symm⟩

lemma changeResetCount_kept (newCount delta : Int) (huser : pref.userId ≠ userId) :
    CardsKept userId db (db.changeResetCount pref newCount delta) := by
  refine ⟨?_, ?_⟩
  · show ((db.preferences.put { pref with resetCount := newCount }).get? userId).elim 0 _ = _
    rw [get?_put_of_ne]
    · rfl
    · exact huser
  · simp [journalOf, DB.changeResetCount, huser]

lemma changeResetCount_changed (newCount delta : Int) (huser : pref.userId = userId)
    (hcount : pref.resetCount = resetCountOf db userId) :
    CardsChanged userId newCount delta db (db.changeResetCount pref newCount delta) := by
  subst huser
  refine ⟨?_, ?_⟩
  · show ((db.preferences.put { pref with resetCount := newCount }).get? pref.userId).elim 0 _ = _
    have hget : (db.preferences.put { pref with resetCount := newCount }).get? pref.userId =
        some { pref with resetCount := newCount } := get?_put_self _ _
    rw [hget]
    rfl
  · simp [journalOf, DB.changeResetCount, hcount]

lemma CardsChanged.of_kept (h : CardsKept userId db db')
    (h' : CardsChanged userId newCount delta db' db'') :
    CardsChanged userId newCount delta db db'' :=
  ⟨h'.count, by rw [h'.journal, h.journal, h.count]⟩

lemma CardsChanged.kept (h : CardsChanged userId newCount delta db db')
    (h' : CardsKept userId db' db'') : CardsChanged userId newCount delta db db'' :=
  ⟨h'.count.trans h.count, h'.journal.trans h.journal⟩

/-- The change of the count of a user whose row has just been locked. -/
lemma ensured_changed (db : DB) (user newCount delta : Int) :
    CardsChanged user newCount delta db
      ((ensureValuePackagePreferenceForUpdateTx db user).2.changeResetCount
        (ensureValuePackagePreferenceForUpdateTx db user).1 newCount delta) := by
  obtain ⟨huser, hcount, hkept⟩ := ensurePreference_spec db user user
  exact .of_kept hkept (changeResetCount_changed _ _ huser (hcount.trans hkept.count.symm))

lemma ensured_kept (db : DB) (newCount delta : Int) (hne : user ≠ userId) :
    CardsKept userId db
      ((ensureValuePackagePreferenceForUpdateTx db user).2.changeResetCount
        (ensureValuePackagePreferenceForUpdateTx db user).1 newCount delta) := by
  obtain ⟨huser, _, hkept⟩ := ensurePreference_spec db user userId
  exact hkept.trans (changeResetCount_kept _ _ (huser.trans_ne hne))

/-- The count of the user is a value that the journal can account for. -/
def CountInRange (userId : Int) (db : DB) : Prop :=
  0 ≤ resetCountOf db userId ∧ resetCountOf db userId ≤ maxInt64

/-- What a call does to the cards of a user: nothing, an entered change to a count in range, or, if
the call does not fit, a change to a negative count. -/
inductive CardsStep (userId : Int) (fits : Prop) (db db' : DB) : Prop where
  | kept (hkept : CardsKept userId db db') (hfits : fits)
  | changed (newCount delta : Int) (hchanged : CardsChanged userId newCount delta db db')
      (hlow : 0 ≤ newCount) (hhigh : newCount ≤ maxInt64)
      (hdelta : newCount = resetCountOf db userId + delta) (hfits : fits)
  | wrapped (newCount delta : Int) (hchanged : CardsChanged userId newCount delta db db')
      (hneg : newCount < 0) (hfits : ¬fits)

namespace CardsStep

variable {fits : Prop}

lemma of_increase (hrange : CountInRange userId db) (hpos : 0 < count) (hcount : count ≤ maxInt64)
    (hdelta : resetCountOf db userId + count ≤ maxInt64 → delta = count)
    (hchanged : CardsChanged userId (wrapInt (resetCountOf db userId + count)) delta db db') :
    CardsStep userId (resetCountOf db userId + count ≤ maxInt64) db db' := by
  obtain ⟨hlow, hhigh⟩ := hrange
  have hmax : (0 : Int) ≤ maxInt64 := by decide
  by_cases hfits : resetCountOf db userId + count ≤ maxInt64
  · have hexact : wrapInt (resetCountOf db userId + count) = resetCountOf db userId + count :=
      wrapInt_eq (by omega) hfits
    exact .changed _ _ hchanged (by omega) (by omega) (by rw [hexact, hdelta hfits]) hfits
  · exact .wrapped _ _ hchanged (wrapInt_neg (by omega) (by omega)) hfits

section

variable (h : CardsStep userId fits db db')

include h

lemma imp {fits' : Prop} (hiff : fits ↔ fits') : CardsStep userId fits' db db' := by
  rwa [← propext hiff]

lemma accounted (hfits : fits) (haccounted : CardsAccounted userId db)
    (hrange : CountInRange userId db) : CardsAccounted userId db' ∧ CountInRange userId db' := by
  cases h with
  | kept hkept _ =>
    obtain ⟨hcount, hjournal⟩ := hkept
    refine ⟨⟨?_, ?_⟩, ?_⟩
    · rw [hcount]
      exact haccounted.nonneg
    · rw [hcount, hjournal]
      exact haccounted.faithful
    · rwa [CountInRange, hcount]
  | changed newCount delta hchanged hlow hhigh hdelta _ =>
    obtain ⟨hcount, hjournal⟩ := hchanged
    refine ⟨⟨?_, ?_⟩, ?_⟩
    · rwa [hcount]
    · rw [hcount, hjournal]
      exact haccounted.faithful.append rfl hdelta
    · rw [CountInRange, hcount]
      exact ⟨hlow, hhigh⟩
  | wrapped _ _ _ _ hnot => exact absurd hfits hnot

/-- A call after which the count is not negative has fitted. -/
lemma fits_of_nonneg (hnonneg : 0 ≤ resetCountOf db' userId) : fits := by
  cases h with
  | kept _ hfits | changed _ _ _ _ _ _ hfits => exact hfits
  | wrapped newCount delta hchanged hneg _ =>
    rw [hchanged.count] at hnonneg
    omega

end

end CardsStep

/-! ## One step per transaction -/

section Steps

lemma grantResetCount_commit (huser : 0 < user) (hpos : 0 < count) :
    commit db (grantValuePackageResetCountTx db user count) =
      (ensureValuePackagePreferenceForUpdateTx db user).2.changeResetCount
        (ensureValuePackagePreferenceForUpdateTx db user).1
        (wrapInt (resetCountOf db user + count)) count := by
  rw [← (ensurePreference_spec db user user).2.1]
  simp only [grantValuePackageResetCountTx, check, huser, hpos, if_true]
  rfl

lemma grantResetCount_error (h : ¬(0 < user ∧ 0 < count)) :
    commit db (grantValuePackageResetCountTx db user count) = db := by
  unfold grantValuePackageResetCountTx
  by_cases huser : 0 < user
  · have hpos : ¬0 < count := fun hpos => h ⟨huser, hpos⟩
    simp only [check, huser, hpos, if_true, if_false]
    rfl
  · simp only [check, huser, if_false]
    rfl

lemma grantResetCount_step (user : Int) (hrange : CountInRange userId db)
    (hcount : count ≤ maxInt64) :
    CardsStep userId (user = userId ∧ 0 < user → resetCountOf db userId + count ≤ maxInt64) db
      (commit db (grantValuePackageResetCountTx db user count)) := by
  by_cases hgrant : 0 < user ∧ 0 < count
  · obtain ⟨huser, hpos⟩ := hgrant
    rw [grantResetCount_commit huser hpos]
    by_cases hsame : user = userId
    · subst hsame
      have hstep := CardsStep.of_increase hrange hpos hcount (fun _ => rfl)
        (ensured_changed db user _ count)
      exact hstep.imp ⟨fun h _ => h, fun h => h ⟨rfl, huser⟩⟩
    · exact .kept (ensured_kept db _ count hsame) fun h => absurd h.1 hsame
  · rw [grantResetCount_error hgrant]
    refine .kept (.refl userId db) fun ⟨_, huser⟩ => ?_
    -- the count granted is not positive
    have hpos : ¬0 < count := fun hpos => hgrant ⟨huser, hpos⟩
    have hhigh := hrange.2
    omega

lemma adjustedCount_step (hrange : CountInRange userId db) (hnonneg : 0 ≤ value)
    (hvalue : value ≤ maxInt64)
    (h : adjustedCount mode (resetCountOf db userId) value = .ok newCount)
    (hchanged : CardsChanged userId newCount (wrapInt (newCount - resetCountOf db userId)) db db') :
    CardsStep userId (mode = .add → resetCountOf db userId + value ≤ maxInt64) db db' := by
  obtain ⟨hlow, hhigh⟩ := id hrange
  have hmax : (0 : Int) ≤ maxInt64 := by decide
  -- the difference of two counts in range is exact
  have hexact {n : Int} (hn : 0 ≤ n) (hn' : n ≤ maxInt64) :
      wrapInt (n - resetCountOf db userId) = n - resetCountOf db userId :=
    wrapInt_eq (by omega) (by omega)
  cases mode with
  | set =>
    cases h
    rw [hexact hnonneg hvalue] at hchanged
    exact .changed _ _ hchanged hnonneg hvalue (by omega) (by simp)
  | add =>
    obtain ⟨hpos, h⟩ := of_check h
    cases h
    refine (CardsStep.of_increase hrange hpos hvalue ?_ hchanged).imp
      ⟨fun h _ => h, fun h => h rfl⟩
    intro hfits
    rw [wrapInt_eq (n := resetCountOf db userId + value) (by omega) hfits,
      hexact (by omega) hfits]
    omega
  | subtract =>
    obtain ⟨hpos, h⟩ := of_check h
    have hdiff : wrapInt (resetCountOf db userId - value) = resetCountOf db userId - value :=
      wrapInt_eq (by omega) (by omega)
    simp only [hdiff, pure_eq_ok] at h
    have hnew : 0 ≤ newCount ∧ newCount ≤ maxInt64 := by
      split at h <;> omega
    rw [hexact hnew.1 hnew.2] at hchanged
    exact .changed _ _ hchanged hnew.1 hnew.2 (by omega) (by simp)
  | other => cases h

lemma wrapInt_added_sub {oldCount : Int} (hpos : 0 < value) (hvalue : value ≤ maxInt64) :
    wrapInt (wrapInt (oldCount + value) - oldCount) = value := by
  have hcancel : wrapInt (wrapInt (oldCount + value) - oldCount) = wrapInt value := by
    unfold wrapInt
    rw [Int.bmod_sub_bmod, add_sub_cancel_left]
  have hmax : (0 : Int) ≤ maxInt64 := by decide
  rw [hcancel, wrapInt_eq (by omega) hvalue]

/-- The database after an adjustment that is not refused. -/
lemma adjustResetCount_ok {adjustment : ValuePackageResetCountAdjustment}
    (h : adjustValuePackageResetCount users db user mode value = .ok (adjustment, db')) :
    ∃ newCount, 0 < user ∧ users user = true ∧ 0 ≤ value ∧
      adjustedCount mode (resetCountOf db user) value = .ok newCount ∧
      db' = (ensureValuePackagePreferenceForUpdateTx db user).2.changeResetCount
        (ensureValuePackagePreferenceForUpdateTx db user).1 newCount
        (wrapInt (newCount - resetCountOf db user)) := by
  rw [← (ensurePreference_spec db user user).2.1]
  unfold adjustValuePackageResetCount at h
  obtain ⟨huser, h⟩ := of_check h
  obtain ⟨hnonneg, h⟩ := of_check h
  obtain ⟨hexists, h⟩ := of_check h
  obtain ⟨newCount, hnew, h⟩ := bind_eq_ok.mp h
  obtain ⟨_, h⟩ := of_bind h
  exact ⟨newCount, huser, hexists,
    hnonneg, hnew,
    (Prod.ext_iff.mp (Except.ok.inj h)).2.symm⟩

lemma adjustResetCount_add_error (huser : 0 < user) (hexists : users user = true)
    (hvalue : value ≤ maxInt64)
    (h : adjustValuePackageResetCount users db user .add value = .error err) : value ≤ 0 := by
  by_contra hpos
  have hpos : 0 < value := by omega
  have hcount := (ensurePreference_spec db user user).2.1
  have hdelta : wrapInt (wrapInt (resetCountOf db user + value) - resetCountOf db user) ≠ 0 := by
    rw [wrapInt_added_sub hpos hvalue]
    omega
  simp [adjustValuePackageResetCount, adjustedCount, check, huser, hexists, hpos,
    hpos.le, hcount, hdelta, bind, Except.bind, pure, Except.pure] at h

/-- An adjustment by an administrator. -/
lemma adjustResetCount_step (users : Int → Bool) (user : Int) (mode : AdjustMode)
    (hrange : CountInRange userId db) (hvalue : value ≤ maxInt64) :
    CardsStep userId
      (user = userId ∧ 0 < user ∧ users user → mode = .add →
        resetCountOf db userId + value ≤ maxInt64) db
      (commit db (adjustValuePackageResetCount users db user mode value)) := by
  cases hadjust : adjustValuePackageResetCount users db user mode value with
  | error err =>
    refine .kept (.refl userId db) ?_
    rintro ⟨rfl, huser, hexists⟩ rfl
    have hrefused := adjustResetCount_add_error huser hexists hvalue hadjust
    have hhigh := hrange.2
    omega
  | ok result =>
    obtain ⟨adjustment, db'⟩ := result
    obtain ⟨newCount, huser, hexists, hnonneg, hnew, rfl⟩ :=
      adjustResetCount_ok hadjust
    by_cases hsame : user = userId
    · subst hsame
      refine (adjustedCount_step hrange hnonneg hvalue hnew (ensured_changed db user _ _)).imp
        ⟨fun h _ => h, fun h => h ⟨rfl, huser, hexists⟩⟩
    · exact .kept (ensured_kept db _ _ hsame) fun h => absurd h.1 hsame

lemma consumeResetCount_step (dbNow user userSubscriptionId resetAt : Int)
    (hrange : CountInRange userId db) :
    CardsStep userId True db
      (commit db
        (consumeValuePackageResetCount db dbNow user userSubscriptionId resetAt)) := by
  cases hconsume : consumeValuePackageResetCount db dbNow user userSubscriptionId resetAt with
  | error err => exact .kept (.refl userId db) trivial
  | ok result =>
    obtain ⟨state, db'⟩ := result
    obtain ⟨pref, sub, plan, hpref, hpos, -, -, -, -, -, -, -, -, -, hdb⟩ :=
      consumeResetCount_inv hconsume
    have huser : pref.userId = user := key_of_get? hpref
    have hcount : resetCountOf db user = pref.resetCount := by simp [resetCountOf, hpref]
    -- the count and the journal are those of a change by one
    have hkept : CardsKept userId (db.changeResetCount pref (pref.resetCount - 1) (-1)) db' :=
      .of_eq (by rw [hdb]; rfl) (by rw [hdb, ← huser]; rfl)
    rw [commit_ok]
    by_cases hsame : user = userId
    · subst hsame
      have hhigh := hrange.2
      exact .changed _ _ ((changeResetCount_changed _ _ huser hcount.symm).kept hkept) (by omega)
        (by omega) (by omega) trivial
    · exact .kept ((changeResetCount_kept _ _ (huser.trans_ne hsame)).trans hkept) trivial

lemma activateValuePackage_step (now user userSubscriptionId : Int) :
    CardsStep userId True db
      (commit db (activateValuePackage db now user userSubscriptionId)) := by
  refine .kept (commit_induction (CardsKept userId db) (.refl userId db) ?_) trivial
  intro state db' h
  obtain ⟨_, h⟩ := of_bind h
  split at h
  · cases h
  · obtain ⟨plan, _, h⟩ := bind_eq_ok.mp h
    obtain ⟨_, h⟩ := of_bind h
    obtain ⟨usage, _, h⟩ := bind_eq_ok.mp h
    cases h
    exact .upsert db user true _

lemma deactivateValuePackage_step (user : Int) (query : StateQuery) :
    CardsStep userId True db (commit db (deactivateValuePackage db user query)) := by
  refine .kept (commit_induction (CardsKept userId db) (.refl userId db) ?_) trivial
  intro pref db' h
  obtain ⟨_, h⟩ := of_bind h
  cases query with
  | fails err => cases h
  | leaves =>
    cases h
    exact .upsert db user false _
  | enables activeSubId =>
    cases h
    exact (CardsKept.upsert db user false _).trans (.upsert _ user true activeSubId)

lemma redeemResetCard_ok {state' : CardState}
    (h : redeemResetCard users state now key user = .ok ((), state')) :
    ∃ code, state.codes.get? key = some code ∧ code.redeemable now = true ∧ 0 < user ∧
      users user = true ∧
      state'.db = commit state.db
        (grantValuePackageResetCountTx state.db user code.resetCardCount) := by
  unfold redeemResetCard at h
  split at h
  · cases h
  · rename_i code hcode
    obtain ⟨henabled, h⟩ := of_check h
    obtain ⟨hexpired, h⟩ := of_check h
    obtain ⟨hcards, h⟩ := of_check h
    obtain ⟨huser, h⟩ := of_check h
    obtain ⟨hexists, h⟩ := of_check h
    obtain ⟨⟨pref, db⟩, hgrant, h⟩ := bind_eq_ok.mp h
    cases h
    refine ⟨code, hcode, decide_eq_true ⟨?_, ?_, ?_⟩, huser,
      hexists, by rw [hgrant]; rfl⟩
    · exact henabled
    · exact hexpired
    · exact hcards

lemma redeemResetCard_not_error {code : ResetCardCode} (hcode : state.codes.get? key = some code)
    (hredeem : code.redeemable now = true) (huser : 0 < user) (hexists : users user = true) :
    redeemResetCard users state now key user ≠ .error err := by
  obtain ⟨henabled, hexpired, hlow, hhigh⟩ := of_decide_eq_true hredeem
  simp only [redeemResetCard, hcode, grantValuePackageResetCountTx, check, henabled,
    hexpired, hlow, hhigh, huser, hexists]
  exact fun h => by cases h

lemma redeemResetCard_step (users : Int → Bool) (state : CardState) (now : Int) (key : String)
    (user : Int) (hrange : CountInRange userId state.db) :
    CardsStep userId
      (user = userId ∧ 0 < user ∧ users user → ∀ code, state.codes.get? key = some code →
        code.redeemable now → resetCountOf state.db userId + code.resetCardCount ≤ maxInt64)
      state.db (commit state (redeemResetCard users state now key user)).db := by
  cases hredeem : redeemResetCard users state now key user with
  | error err =>
    refine .kept (.refl userId state.db) ?_
    rintro ⟨_, huser, hexists⟩ code hcode hredeemable
    exact absurd hredeem (redeemResetCard_not_error hcode hredeemable huser hexists)
  | ok result =>
    obtain ⟨⟨⟩, state'⟩ := result
    obtain ⟨code, hcode, hredeemable, huser, hexists, hdb⟩ := redeemResetCard_ok hredeem
    obtain ⟨_, _, _, hhigh⟩ := of_decide_eq_true hredeemable
    rw [commit_ok, hdb]
    refine (grantResetCount_step user hrange (hhigh.trans (by decide))).imp ?_
    constructor
    · rintro hfits ⟨rfl, _⟩ other hother _
      obtain rfl : code = other := Option.some.inj (hcode.symm.trans hother)
      exact hfits ⟨rfl, huser⟩
    · rintro hfits ⟨hsame, _⟩
      exact hfits ⟨hsame, huser, hexists⟩ code hcode hredeemable

lemma cardStep_step (users : Int → Bool) (state : CardState) (op : CardOp)
    (hrange : CountInRange userId state.db) :
    CardsStep userId (state.fits users userId op = true) state.db (cardStep users state op).db := by
  cases op with
  | gift user count =>
    refine (grantResetCount_step user hrange count.2.2).imp ?_
    simp only [CardState.fits]
    grind
  | redeem now key user =>
    refine (redeemResetCard_step users state now key user hrange).imp ?_
    simp only [CardState.fits]
    cases hcode : state.codes.get? key <;> grind
  | adjust user mode value =>
    refine (adjustResetCount_step users user mode hrange value.2.2).imp ?_
    cases mode <;> simp only [CardState.fits] <;> grind
  | consume dbNow user userSubscriptionId resetAt =>
    exact (consumeResetCount_step dbNow user userSubscriptionId resetAt hrange).imp
      (by simp [CardState.fits])
  | activate now user userSubscriptionId =>
    exact (activateValuePackage_step now user userSubscriptionId).imp (by simp [CardState.fits])
  | deactivate user query =>
    exact (deactivateValuePackage_step user query).imp (by simp [CardState.fits])
  | upsert user enabled activeSubId =>
    exact .kept (.upsert state.db user enabled activeSubId) rfl

end Steps

/-! ## Whole runs -/

/-- A consumption raises the epoch of the subscription by one. -/
def ConsumptionRaisesEpoch (db : DB) : Prop :=
  ∀ dbNow userId userSubscriptionId resetAt state db',
    consumeValuePackageResetCount db dbNow userId userSubscriptionId resetAt = .ok (state, db') →
    ∃ sub sub', db.subscriptions.get? state.subscription.id = some sub ∧
      db'.subscriptions.get? state.subscription.id = some sub' ∧
      sub'.quotaEpoch = sub.quotaEpoch + 1

lemma consumptionRaisesEpoch (db : DB) : ConsumptionRaisesEpoch db := by
  intro dbNow userId userSubscriptionId resetAt state db' h
  obtain ⟨pref, sub, plan, -, -, -, hget, -, -, -, -, -, -, hstate, rfl⟩ :=
    consumeResetCount_inv h
  refine ⟨sub, resetCardSubscription sub, ?_, ?_, rfl⟩
  · rw [hstate]
    exact hget
  · rw [hstate]
    exact get?_put_self _ _

/-- The journal of a user who starts without cards accounts for the counter in every state of a
run, exactly when no call takes the counter beyond the largest `int`. -/
theorem journal_faithful_iff (users : Int → Bool) (userId : Int) (state : CardState)
    (ops : List CardOp) (hcount : resetCountOf state.db userId = 0)
    (hjournal : journalOf state.db userId = []) :
    (∀ ops', ops' <+: ops →
      CardsAccounted userId (exec (cardStep users) state ops').db ∧
        ConsumptionRaisesEpoch (exec (cardStep users) state ops').db) ↔
      Along (cardStep users) (fun state op => state.fits users userId op = true) state ops := by
  have hinit : CardsAccounted userId state.db ∧ CountInRange userId state.db := by
    refine ⟨⟨hcount.ge, ?_⟩, hcount.ge, ?_⟩
    · rw [hcount, hjournal]
      exact Journal.faithful_nil
    · rw [hcount]
      decide
  refine forall_prefix_iff_along
    (fun state : CardState => CardsAccounted userId state.db ∧ CountInRange userId state.db)
    (fun state : CardState => CardsAccounted userId state.db ∧ ConsumptionRaisesEpoch state.db)
    ?_ ?_ ?_ hinit
  · exact fun state hinv => ⟨hinv.1, consumptionRaisesEpoch state.db⟩
  · exact fun state op ⟨haccounted, hrange⟩ hfits =>
      (cardStep_step users state op hrange).accounted hfits haccounted hrange
  · exact fun state op ⟨_, hrange⟩ hgood =>
      (cardStep_step users state op hrange).fits_of_nonneg hgood.1.nonneg

/-- A user with an active package and no cards, and a code for three of them. -/
def threeCards : CardState where
  db := { sampleDB with preferences := Table.empty }
  codes := Table.empty.put ⟨"K3", true, 0, 3⟩

/-- A code is redeemed, one card is used after the package has been activated, and an
administrator takes away more than are left. -/
def redeemedAndUsed : List CardOp :=
  [.redeem 2000 "K3" 1, .activate 2001 1 1, .consume 2002 1 1 0, .deactivate 1 .leaves,
    .adjust 1 .subtract ⟨5, by decide⟩]

theorem redeemedAndUsed_faithful :
    (resetCountOf threeCards.db 1 = 0 ∧ journalOf threeCards.db 1 = []) ∧
    CardsAccounted 1 (exec (cardStep fun user => user = 1) threeCards redeemedAndUsed).db ∧
      ConsumptionRaisesEpoch
        (exec (cardStep fun user => user = 1) threeCards redeemedAndUsed).db :=
  ⟨⟨rfl, rfl⟩, (journal_faithful_iff (fun user => user = 1) 1 threeCards redeemedAndUsed rfl
    rfl).mpr (by decide) redeemedAndUsed List.prefix_rfl⟩

/-- An administrator adds a card, and then as many as an `int` holds. The count becomes
negative. -/
theorem admin_add_wraps :
    resetCountOf threeCards.db 1 = 0 ∧ journalOf threeCards.db 1 = [] ∧
      resetCountOf
        (exec (cardStep fun user => user = 1) threeCards
          [.adjust 1 .add ⟨1, by decide⟩, .adjust 1 .add ⟨maxInt64, by decide⟩]).db 1 =
        -9223372036854775808 ∧
      ¬CardsAccounted 1
        (exec (cardStep fun user => user = 1) threeCards
          [.adjust 1 .add ⟨1, by decide⟩, .adjust 1 .add ⟨maxInt64, by decide⟩]).db := by
  refine ⟨rfl, rfl, by decide, fun haccounted => ?_⟩
  exact absurd haccounted.nonneg (by decide)

end Yunbay
