import Yunbay.Redemption.Redeem

/-!
# Valid top-ups and their backfill

`model/svip.go` keeps two counters for a user, in cents. `valid_topup_cents` is what makes a user an
SVIP: the successful LDXP and redemption-code top-ups, and what an administrator has granted.
`valid_topup_history_cents` is the watermark: how much of the top-up history has been accounted for.

`backfillUserValidTopupCents` adds up the history of every user and makes up the difference to the
watermark (`backfill_totals`, `backfill_users`).
-/

namespace Yunbay

open Except Table

variable {totals totals' : Int → Int} {rows : List TopUp} {user : User} {cents userId : Int}
  {shop shop' : Shop} {userIds : List Int}

/-! ## The functions -/

inductive SvipError where
  | recordNotFound
  | quotaNotPositive
  | centsNegative
  | totalOverflow
  | reconciliationOverflow

def increaseUserQuotaAndValidTopupCents (bank : Bank) (userId quota cents : Int) :
    Except SvipError Bank := do
  check (0 < userId) .recordNotFound
  check (0 < quota) .quotaNotPositive
  check (0 ≤ cents) .centsNegative
  match bank.shop.users.get? userId with
  | none => .error .recordNotFound
  | some user =>
    pure ((bank.addQuota userId quota).withShop
      (bank.shop.saveUser { user with validTopupCents := user.validTopupCents + cents }))

/-- The top-ups that the backfill reads. -/
def TopUp.isCounted (topUp : TopUp) : Bool :=
  topUp.status = .success ∧
    (topUp.paymentProvider = "ldxp" ∨ topUp.paymentProvider = "redemption_code")

/-- `validTopupCentsForTopUp` of a row. -/
def TopUp.validCents (topUp : TopUp) : Int := validTopupCentsForTopUp topUp.amount topUp.money

/-- One top-up in the loop over the history. -/
def addTotal (totals : Int → Int) (topUp : TopUp) : Except SvipError (Int → Int) :=
  if topUp.validCents ≤ 0 then pure totals
  else if maxInt64 - topUp.validCents < totals topUp.userId then .error .totalOverflow
  else
    pure (Function.update totals topUp.userId (totals topUp.userId + topUp.validCents))

/-- One user in the loop over the totals. The update names the columns as they were read, which
nothing changes within the transaction. -/
def reconcileValidTopup (initialized : Bool) (cents : Int) (user : User) :
    Except SvipError User := do
  let accountedHistory :=
    if initialized then user.validTopupHistoryCents else min (max user.validTopupCents 0) cents
  let missingCents := if accountedHistory < cents then cents - accountedHistory else 0
  check (¬(0 < missingCents ∧ maxInt64 - missingCents < user.validTopupCents))
    .reconciliationOverflow
  let targetHistory :=
    if user.validTopupHistoryCents < cents then cents else user.validTopupHistoryCents
  if missingCents = 0 ∧ targetHistory = user.validTopupHistoryCents then pure user
  else
    pure { user with
      validTopupHistoryCents := targetHistory
      validTopupCents :=
        if 0 < missingCents then user.validTopupCents + missingCents else user.validTopupCents }

/-- The body of the loop over the user ids. -/
def backfillUser (initialized : Bool) (totals : Int → Int) (shop : Shop) (userId : Int) :
    Except SvipError Shop :=
  if totals userId ≤ 0 then pure shop
  else
    match shop.users.get? userId with
    | none => pure shop
    | some user => do
      let user ← reconcileValidTopup initialized (totals userId) user
      pure (shop.saveUser user)

/-- The top-ups that count, as the backfill reads them. -/
def countedTopUps (shop : Shop) : List TopUp := shop.topUps.rows.filter TopUp.isCounted

/-- The users with a total, in order. -/
def backfillUserIds (shop : Shop) : List Int :=
  (((countedTopUps shop).filter fun topUp => 0 < topUp.validCents).map
    (·.userId)).dedup.insertionSort (· ≤ ·)

/-- `backfillUserValidTopupCents`, where `initialized` says that the receipt is there. -/
def backfillUserValidTopupCents (initialized : Bool) (shop : Shop) : Except SvipError Shop := do
  let totals ← (countedTopUps shop).foldlM addTotal fun _ => 0
  (backfillUserIds shop).foldlM (backfillUser initialized totals) shop

/-! ## The history of a user -/

lemma amountToCents_nonneg (amount : Int) : 0 ≤ amountToValidTopupCents amount := by
  unfold amountToValidTopupCents
  split_ifs <;> omega

lemma TopUp.validCents_nonneg (topUp : TopUp) : 0 ≤ topUp.validCents := by
  unfold validCents validTopupCentsForTopUp
  split_ifs
  · exact amountToCents_nonneg topUp.amount
  · exact moneyToCents_nonneg topUp.money

/-- What a top-up adds to the history of a user. -/
def TopUp.centsFor (topUp : TopUp) (userId : Int) : Int :=
  if topUp.isCounted ∧ topUp.userId = userId then topUp.validCents else 0

lemma TopUp.centsFor_nonneg (topUp : TopUp) (userId : Int) : 0 ≤ topUp.centsFor userId := by
  unfold centsFor
  split_ifs
  · exact topUp.validCents_nonneg
  · exact le_refl 0

/-- The cents of the successful LDXP and redemption-code top-ups of a user. -/
def Shop.historyCents (shop : Shop) (userId : Int) : Int :=
  shop.topUps.sumBy fun topUp => topUp.centsFor userId

lemma Shop.historyCents_nonneg (shop : Shop) (userId : Int) : 0 ≤ shop.historyCents userId := by
  refine List.sum_nonneg fun x hx => ?_
  obtain ⟨topUp, -, rfl⟩ := List.mem_map.mp hx
  exact topUp.centsFor_nonneg userId

/-- The sum over the rows that the backfill reads. -/
def totalCents (rows : List TopUp) (userId : Int) : Int :=
  (rows.map fun topUp => if topUp.userId = userId then topUp.validCents else 0).sum

lemma historyCents_eq_totalCents (shop : Shop) (userId : Int) :
    shop.historyCents userId = totalCents (countedTopUps shop) userId := by
  have hsum := sum_filter (fun topUp : TopUp => topUp.isCounted = true)
    (fun topUp => if topUp.userId = userId then topUp.validCents else 0) shop.topUps.rows
  simp only [Bool.decide_eq_true, ← ite_and] at hsum
  exact hsum.symm

lemma totalCents_nonneg (rows : List TopUp) (userId : Int) : 0 ≤ totalCents rows userId := by
  refine List.sum_nonneg fun x hx => ?_
  obtain ⟨topUp, -, rfl⟩ := List.mem_map.mp hx
  split_ifs
  · exact topUp.validCents_nonneg
  · exact le_refl 0

/-! ## The totals -/

lemma addTotal_apply {topUp : TopUp} (h : addTotal totals topUp = .ok totals') (userId : Int) :
    totals' userId = totals userId + if topUp.userId = userId then topUp.validCents else 0 := by
  have hnonneg := topUp.validCents_nonneg
  unfold addTotal at h
  split_ifs at h with hzero
  · obtain rfl := pure_eq_ok.mp h
    split_ifs <;> omega
  · obtain rfl := pure_eq_ok.mp h
    by_cases huser : topUp.userId = userId
    · subst huser
      simp
    · rw [Function.update_of_ne (Ne.symm huser), if_neg huser, add_zero]

theorem backfill_totals (h : rows.foldlM addTotal totals = .ok totals') (userId : Int) :
    totals' userId = totals userId + totalCents rows userId := by
  induction rows generalizing totals with
  | nil =>
    obtain rfl := pure_eq_ok.mp h
    simp [totalCents]
  | cons topUp rows ih =>
    rw [List.foldlM_cons] at h
    obtain ⟨mid, hmid, h⟩ := bind_eq_ok.mp h
    rw [ih h, addTotal_apply hmid userId, totalCents, totalCents, List.map_cons, List.sum_cons]
    omega

lemma backfill_totals_ok (hfits : ∀ userId, totals userId + totalCents rows userId ≤ maxInt64) :
    ∃ totals', rows.foldlM addTotal totals = .ok totals' := by
  induction rows generalizing totals with
  | nil => exact ⟨totals, rfl⟩
  | cons topUp rows ih =>
    have hsum : ∀ userId, totalCents (topUp :: rows) userId =
        (if topUp.userId = userId then topUp.validCents else 0) + totalCents rows userId := by
      intro userId
      rw [totalCents, totalCents, List.map_cons, List.sum_cons]
    obtain ⟨mid, hmid⟩ : ∃ mid, addTotal totals topUp = .ok mid := by
      have hown := hfits topUp.userId
      rw [hsum, if_pos rfl] at hown
      have hrest := totalCents_nonneg rows topUp.userId
      unfold addTotal
      split_ifs with hzero hover
      · exact ⟨totals, rfl⟩
      · omega
      · exact ⟨_, rfl⟩
    obtain ⟨totals', htotals'⟩ : ∃ totals', rows.foldlM addTotal mid = .ok totals' := by
      apply ih
      intro userId
      have huser := hfits userId
      rw [hsum] at huser
      rw [addTotal_apply hmid userId]
      omega
    refine ⟨totals', ?_⟩
    rw [List.foldlM_cons, hmid]
    exact htotals'

/-! ## The repair -/

/-- What the backfill makes of a user with a given history, once the receipt is there. -/
@[simps]
def User.repaired (user : User) (cents : Int) : User :=
  { user with
    validTopupCents := user.validTopupCents + max 0 (cents - user.validTopupHistoryCents)
    validTopupHistoryCents := max user.validTopupHistoryCents cents }

/-- A user without a history is passed over. -/
def User.backfilled (user : User) (cents : Int) : User :=
  if cents ≤ 0 then user else user.repaired cents

lemma User.repaired_eq_self (h : cents ≤ user.validTopupHistoryCents) :
    user.repaired cents = user := by
  have hmissing : max 0 (cents - user.validTopupHistoryCents) = 0 := by omega
  rw [User.repaired, hmissing, max_eq_left h, add_zero]

lemma reconcileValidTopup_eq_ok {user' : User} :
    reconcileValidTopup true cents user = .ok user' ↔
      ¬(user.validTopupHistoryCents < cents ∧
        maxInt64 - (cents - user.validTopupHistoryCents) < user.validTopupCents) ∧
      user' = user.repaired cents := by
  by_cases hless : user.validTopupHistoryCents < cents
  · have hmissing : max 0 (cents - user.validTopupHistoryCents) =
        cents - user.validTopupHistoryCents := by omega
    have hne : ¬cents - user.validTopupHistoryCents = 0 := by omega
    simp only [reconcileValidTopup, if_true, hless, bind_eq_ok, check_eq_ok,
      sub_pos, true_and, exists_const, hne, false_and, if_false, pure_eq_ok]
    rw [User.repaired, hmissing, max_eq_right hless.le]
    exact and_congr_right fun _ => eq_comm
  · rw [User.repaired_eq_self (not_lt.mp hless)]
    simp [reconcileValidTopup, hless, check, eq_comm]

/-- One user of the loop is repaired, and no other is touched. -/
lemma backfillUser_eq (h : backfillUser true totals shop userId = .ok shop') :
    ∃ users, shop' = { shop with users } ∧
      ∀ other, users.get? other = (shop.users.get? other).map fun user =>
        if other = userId then user.backfilled (totals userId) else user := by
  unfold backfillUser at h
  split_ifs at h with hzero
  · refine ⟨shop.users, (pure_eq_ok.mp h).symm, fun other => ?_⟩
    exact (map_get?_of_fixed (fun user _ => if_pos hzero) other).symm
  · cases hget : shop.users.get? userId with
    | none =>
      rw [hget] at h
      refine ⟨shop.users, (pure_eq_ok.mp h).symm, fun other => ?_⟩
      refine (map_get?_of_fixed (fun user huser => ?_) other).symm
      rw [hget] at huser
      cases huser
    | some user =>
      simp only [hget, bind_eq_ok, pure_eq_ok] at h
      obtain ⟨user', huser', rfl⟩ := h
      obtain ⟨-, rfl⟩ := reconcileValidTopup_eq_ok.mp huser'
      have hbackfilled : user.backfilled (totals userId) = user.repaired (totals userId) :=
        if_neg hzero
      rw [← hbackfilled]
      refine ⟨_, rfl, get?_put_update (User.backfilled · (totals userId)) hget ?_⟩
      simp only [hbackfilled, User.repaired_id]
      exact key_of_get? hget

/-- The loop over distinct users repairs each of them once. -/
lemma backfillUsers_eq (hnodup : userIds.Nodup)
    (h : userIds.foldlM (backfillUser true totals) shop = .ok shop') :
    ∃ users, shop' = { shop with users } ∧
      ∀ other, users.get? other = (shop.users.get? other).map fun user =>
        if other ∈ userIds then user.backfilled (totals other) else user := by
  induction userIds generalizing shop with
  | nil =>
    obtain rfl := pure_eq_ok.mp h
    exact ⟨shop.users, rfl, by simp⟩
  | cons userId userIds ih =>
    rw [List.foldlM_cons] at h
    obtain ⟨mid, hmid, h⟩ := bind_eq_ok.mp h
    obtain ⟨hfirst, hrest⟩ := List.nodup_cons.mp hnodup
    obtain ⟨users, rfl, hself⟩ := backfillUser_eq hmid
    obtain ⟨users', rfl, hothers⟩ := ih hrest h
    refine ⟨users', rfl, fun other => ?_⟩
    rw [hothers, hself, Option.map_map]
    congr 1
    funext user
    by_cases hother : other = userId
    · -- the first user is not met again
      subst hother
      simp [hfirst]
    · simp [hother]

/-- The loop goes through when no repaired user overflows. -/
lemma backfillUsers_ok (hnodup : userIds.Nodup)
    (hfits : ∀ userId ∈ userIds, ∀ user, shop.users.get? userId = some user →
      (user.repaired (totals userId)).validTopupCents ≤ maxInt64) :
    ∃ shop', userIds.foldlM (backfillUser true totals) shop = .ok shop' := by
  induction userIds generalizing shop with
  | nil => exact ⟨shop, rfl⟩
  | cons userId userIds ih =>
    obtain ⟨hfirst, hrest⟩ := List.nodup_cons.mp hnodup
    obtain ⟨mid, hmid⟩ : ∃ mid, backfillUser true totals shop userId = .ok mid := by
      unfold backfillUser
      split_ifs
      · exact ⟨shop, rfl⟩
      · cases hget : shop.users.get? userId with
        | none => exact ⟨shop, rfl⟩
        | some user =>
          have hle := hfits userId List.mem_cons_self user hget
          rw [User.repaired_validTopupCents] at hle
          have hok : reconcileValidTopup true (totals userId) user =
              .ok (user.repaired (totals userId)) :=
            reconcileValidTopup_eq_ok.mpr ⟨by omega, rfl⟩
          simp only [hok]
          exact ⟨_, rfl⟩
    obtain ⟨users, rfl, hself⟩ := backfillUser_eq hmid
    obtain ⟨shop', hshop'⟩ : ∃ shop', userIds.foldlM (backfillUser true totals)
        { shop with users } = .ok shop' := by
      apply ih hrest
      intro other hother user huser
      have hne : other ≠ userId := fun heq => hfirst (heq ▸ hother)
      simp only [hself, hne, if_false, Option.map_id'] at huser
      exact hfits other (List.mem_cons_of_mem userId hother) user huser
    refine ⟨shop', ?_⟩
    rw [List.foldlM_cons, hmid]
    exact hshop'

/-! ## The backfill as a whole -/

lemma nodup_backfillUserIds (shop : Shop) : (backfillUserIds shop).Nodup :=
  ((List.perm_insertionSort _ _).nodup_iff).mpr (List.nodup_dedup _)

lemma mem_backfillUserIds (h : 0 < shop.historyCents userId) : userId ∈ backfillUserIds shop := by
  rw [historyCents_eq_totalCents] at h
  obtain ⟨topUp, htopUp, hpos⟩ : ∃ topUp ∈ countedTopUps shop,
      0 < if topUp.userId = userId then topUp.validCents else 0 := by
    by_contra hnone
    push Not at hnone
    have hzero : totalCents (countedTopUps shop) userId = 0 := by
      refine List.sum_eq_zero fun x hx => ?_
      obtain ⟨topUp, htopUp, rfl⟩ := List.mem_map.mp hx
      have hnonneg := topUp.validCents_nonneg
      have hnonpos := hnone topUp htopUp
      split_ifs at hnonpos ⊢ <;> omega
    omega
  split_ifs at hpos with huser
  · rw [backfillUserIds, List.mem_insertionSort, List.mem_dedup, List.mem_map]
    exact ⟨topUp, List.mem_filter.mpr ⟨htopUp, by simpa using hpos⟩, huser⟩
  · exact absurd hpos (lt_irrefl 0)

theorem backfill_users (h : backfillUserValidTopupCents true shop = .ok shop') :
    ∃ users, shop' = { shop with users } ∧
      ∀ userId, users.get? userId =
        (shop.users.get? userId).map (·.backfilled (shop.historyCents userId)) := by
  obtain ⟨totals, htotals, h⟩ := bind_eq_ok.mp h
  obtain ⟨users, rfl, hget⟩ := backfillUsers_eq (nodup_backfillUserIds shop) h
  refine ⟨users, rfl, fun userId => ?_⟩
  rw [hget, backfill_totals htotals, ← historyCents_eq_totalCents, zero_add]
  congr 1
  funext user
  split_ifs with hmem
  · rfl
  · -- a user who is not in the loop has no history
    exact (if_pos (not_lt.mp fun hpos => hmem (mem_backfillUserIds hpos))).symm

/-- A backfill goes through when the histories and the repaired totals fit. -/
theorem backfill_ok (hhistory : ∀ userId, shop.historyCents userId ≤ maxInt64)
    (hfits : ∀ userId user, shop.users.get? userId = some user →
      (user.repaired (shop.historyCents userId)).validTopupCents ≤ maxInt64) :
    ∃ shop', backfillUserValidTopupCents true shop = .ok shop' := by
  obtain ⟨totals, htotals⟩ : ∃ totals, (countedTopUps shop).foldlM addTotal (fun _ => 0) =
      .ok totals := by
    apply backfill_totals_ok
    intro userId
    rw [zero_add, ← historyCents_eq_totalCents]
    exact hhistory userId
  have htotal : ∀ userId, totals userId = shop.historyCents userId := by
    intro userId
    rw [backfill_totals htotals, historyCents_eq_totalCents, zero_add]
  obtain ⟨shop', hshop'⟩ : ∃ shop', (backfillUserIds shop).foldlM (backfillUser true totals) shop =
      .ok shop' := by
    apply backfillUsers_ok (nodup_backfillUserIds shop)
    intro userId _ user huser
    rw [htotal]
    exact hfits userId user huser
  refine ⟨shop', ?_⟩
  rw [backfillUserValidTopupCents, htotals]
  exact hshop'

end Yunbay
