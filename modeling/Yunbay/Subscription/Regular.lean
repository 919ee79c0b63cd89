import Yunbay.Subscription.ValuePackage

/-!
# Regular subscriptions

`PreConsumeUserSubscription` takes a request's quota from the first regular subscription of the
user, in order of end times, that can still cover it. A due calendar reset is made on the way.
-/

namespace Yunbay

open Except Table

variable {sub row : UserSubscription} {plan : SubscriptionPlan} {db₁ : DB} {sid : Int}

/-- The pre-consume record of a request on a regular subscription. It carries no epoch. -/
@[simps]
def regularPreConsumeRecord (sub : UserSubscription) (requestId : String)
    (userId amount now : Int) : SubscriptionPreConsumeRecord where
  requestId := requestId
  userId := userId
  userSubscriptionId := sub.id
  preConsumed := amount
  quotaEpoch := 0
  status := .consumed
  updatedAt := now

/-- The charge of `PreConsumeUserSubscription` on the subscription it has chosen. -/
def chargeRegular (db : DB) (sub : UserSubscription) (requestId : String)
    (userId amount now : Int) : Except TxError (SubscriptionPreConsumeResult × DB) :=
  match db.preConsumeRecords.get? requestId with
  | some dup => do
    -- the insert meets a record of the same request
    check (dup.status ≠ .refunded) .preConsumeAlreadyRefunded
    pure (
      { userSubscriptionId := sub.id, preConsumed := dup.preConsumed, amountTotal := sub.amountTotal
        amountUsedBefore := sub.amountUsed, amountUsedAfter := sub.amountUsed,
        quotaEpoch := 0 }, db)
  | none =>
    let charged := { sub with amountUsed := sub.amountUsed + amount }
    pure (
      { userSubscriptionId := sub.id, preConsumed := amount, amountTotal := sub.amountTotal
        amountUsedBefore := sub.amountUsed, amountUsedAfter := charged.amountUsed
        quotaEpoch := 0 },
      (db.savePreConsume (regularPreConsumeRecord sub requestId userId amount now)).saveSubscription
        charged)

/-- The loop over the candidates: value packages are passed over, and so are subscriptions that
cannot cover the amount. -/
def preConsumeFromCandidates (env : Env) (now : Int) (requestId : String) (userId amount : Int) :
    DB → List UserSubscription → Except TxError (SubscriptionPreConsumeResult × DB)
  | _, [] => .error (.subscriptionQuotaInsufficient amount)
  | db, candidate :: rest => do
    let plan ← getSubscriptionPlanByIdTx db candidate.planId
    if plan.isValuePackage then
      preConsumeFromCandidates env now requestId userId amount db rest
    else do
      let (sub, db) ← maybeResetUserSubscriptionWithPlanTx env db candidate plan now
      if 0 < sub.amountTotal ∧ sub.amountTotal - sub.amountUsed < amount then
        preConsumeFromCandidates env now requestId userId amount db rest
      else chargeRegular db sub requestId userId amount now

/-- The part of the loop before the charge: the subscription that is going to be charged, as the
transaction holds it. -/
def selectCandidate (env : Env) (now amount : Int) :
    DB → List UserSubscription → Except TxError (UserSubscription × DB)
  | _, [] => .error (.subscriptionQuotaInsufficient amount)
  | db, candidate :: rest => do
    let plan ← getSubscriptionPlanByIdTx db candidate.planId
    if plan.isValuePackage then selectCandidate env now amount db rest
    else do
      let (sub, db) ← maybeResetUserSubscriptionWithPlanTx env db candidate plan now
      if 0 < sub.amountTotal ∧ sub.amountTotal - sub.amountUsed < amount then
        selectCandidate env now amount db rest
      else pure (sub, db)

lemma preConsumeFromCandidates_eq (env : Env) (now : Int) (requestId : String)
    (userId amount : Int) (db : DB) (candidates : List UserSubscription) :
    preConsumeFromCandidates env now requestId userId amount db candidates =
      (do
        let (sub, db) ← selectCandidate env now amount db candidates
        chargeRegular db sub requestId userId amount now) := by
  induction candidates generalizing db with
  | nil => rfl
  | cons candidate rest ih =>
    unfold preConsumeFromCandidates selectCandidate
    cases getSubscriptionPlanByIdTx db candidate.planId with
    | error err => rfl
    | ok plan =>
      dsimp only [bind, Except.bind]
      split_ifs
      · exact ih db
      cases maybeResetUserSubscriptionWithPlanTx env db candidate plan now with
      | error err => rfl
      | ok reset =>
        dsimp only
        split_ifs
        · exact ih reset.2
        · rfl

/-- The active subscriptions of the user, `ORDER BY end_time asc, id asc`. The table is in order
of ids, so a stable sort by end time is that order. -/
def activeSubscriptions (db : DB) (userId now : Int) : List UserSubscription :=
  (db.subscriptions.rows.filter fun sub =>
      sub.userId = userId && sub.status = .active && now < sub.endTime).insertionSort
    fun a b => a.endTime ≤ b.endTime

def preConsumeUserSubscription (env : Env) (db : DB) (now : Int) (requestId : String)
    (userId amount : Int) : Except TxError (SubscriptionPreConsumeResult × DB) := do
  check (0 < userId) .invalidUserId
  check (¬isBlank requestId) .requestIdEmpty
  check (0 < amount) .amountNotPositive
  match db.preConsumeRecords.get? requestId with
  | some existing => do
    check (existing.status ≠ .refunded) .preConsumeAlreadyRefunded
    match db.subscriptions.get? existing.userSubscriptionId with
    | none => .error .recordNotFound
    | some sub =>
      pure (
        { userSubscriptionId := sub.id, preConsumed := existing.preConsumed
          amountTotal := sub.amountTotal, amountUsedBefore := sub.amountUsed
          amountUsedAfter := sub.amountUsed, quotaEpoch := existing.quotaEpoch }, db)
  | none => do
    let subs := activeSubscriptions db userId now
    check (subs ≠ []) .noActiveSubscription
    preConsumeFromCandidates env now requestId userId amount db subs

/-- The part of `PreConsumeUserSubscription` before the charge: the answer to a repeated request, or
the subscription that is going to be charged. -/
def readPreConsume (env : Env) (db : DB) (now : Int) (requestId : String) (userId amount : Int) :
    Except TxError (SubscriptionPreConsumeResult ⊕ UserSubscription × DB) := do
  check (0 < userId) .invalidUserId
  check (¬isBlank requestId) .requestIdEmpty
  check (0 < amount) .amountNotPositive
  match db.preConsumeRecords.get? requestId with
  | some existing => do
    check (existing.status ≠ .refunded) .preConsumeAlreadyRefunded
    match db.subscriptions.get? existing.userSubscriptionId with
    | none => .error .recordNotFound
    | some sub =>
      pure (.inl {
        userSubscriptionId := sub.id, preConsumed := existing.preConsumed
        amountTotal := sub.amountTotal, amountUsedBefore := sub.amountUsed
        amountUsedAfter := sub.amountUsed, quotaEpoch := existing.quotaEpoch })
  | none => do
    let subs := activeSubscriptions db userId now
    check (subs ≠ []) .noActiveSubscription
    let selected ← selectCandidate env now amount db subs
    pure (.inr selected)

/-- What a fresh request leaves behind: a subscription that is not a value package has been charged
the amount, and the request has its record. -/
structure RegularCharge (db db' : DB) (requestId : String) (userId amount : Int)
    (result : SubscriptionPreConsumeResult) : Prop where
  notBlank : isBlank requestId = false
  amount_pos : 0 < amount
  preConsumed : result.preConsumed = amount
  used : result.amountUsedAfter = result.amountUsedBefore + amount
  /-- The charged row is a stored one, with the same use or a reset one. -/
  stored : ∃ sub row plan, db.subscriptions.get? result.userSubscriptionId = some row ∧
    (result.amountUsedBefore = row.amountUsed ∨ result.amountUsedBefore = 0) ∧
    db'.subscriptions.get? result.userSubscriptionId = some sub ∧
    sub.amountUsed = result.amountUsedAfter ∧
    (0 < sub.amountTotal → sub.amountUsed ≤ sub.amountTotal) ∧
    getSubscriptionPlanByIdTx db' sub.planId = .ok plan ∧ plan.isValuePackage = false
  record : ∃ record, db'.preConsumeRecords.get? requestId = some record ∧
    record.userSubscriptionId = result.userSubscriptionId ∧ record.preConsumed = amount ∧
    record.status = .consumed

section

variable {env : Env} {db db' : DB} {now : Int} {requestId : String} {userId amount : Int}
  {result : SubscriptionPreConsumeResult}

lemma maybeReset_frame {sub' : UserSubscription}
    (hget : db.subscriptions.get? sub.id = some sub)
    (h : maybeResetUserSubscriptionWithPlanTx env db sub plan now = .ok (sub', db')) :
    sub'.id = sub.id ∧ sub'.planId = sub.planId ∧
      (sub'.amountUsed = sub.amountUsed ∨ sub'.amountUsed = 0) ∧
      db'.plans = db.plans ∧ db'.preConsumeRecords = db.preConsumeRecords ∧
      db'.subscriptions.get? sub.id = some sub' ∧
      ∀ id, id ≠ sub.id → db'.subscriptions.get? id = db.subscriptions.get? id := by
  obtain ⟨rfl, rfl⟩ | ⟨used, last, next, rfl, hused, rfl⟩ :=
    maybeReset_ok h
  · exact ⟨rfl, rfl, .inl rfl, rfl, rfl, hget, fun _ _ => rfl⟩
  · refine ⟨rfl, rfl, hused, rfl, rfl, get?_put_self _ _, fun id hne => ?_⟩
    exact get?_put_of_ne _ hne.symm

/-- The loop has come to `candidate`, a regular subscription, and returns its row `sub` in `db₁`. -/
structure Selected (db : DB) (amount : Int) (candidate : UserSubscription) (plan : SubscriptionPlan)
    (sub : UserSubscription) (db₁ : DB) : Prop where
  id : sub.id = candidate.id
  planId : sub.planId = candidate.planId
  stored : db₁.subscriptions.get? sub.id = some sub
  plans : db₁.plans = db.plans
  preConsumeRecords : db₁.preConsumeRecords = db.preConsumeRecords
  plan_eq : getSubscriptionPlanByIdTx db candidate.planId = .ok plan
  regular : plan.isValuePackage = false
  room : 0 < sub.amountTotal → sub.amountUsed + amount ≤ sub.amountTotal

lemma id_not_mem_of_nodup {before after : List UserSubscription} {candidate : UserSubscription}
    (hnodup : ((before ++ candidate :: after).map (·.id)).Nodup) :
    candidate.id ∉ before.map (·.id) ∧ candidate.id ∉ after.map (·.id) := by
  rw [List.map_append, List.map_cons, List.nodup_middle, List.nodup_cons, List.mem_append,
    not_or] at hnodup
  exact hnodup.1

section Loop

/-- The reset of a stored regular subscription preserves what holds of the candidates that the loop
has passed. -/
def ResetKeeps (env : Env) (now : Int) (Inv : List UserSubscription → DB → Prop) : Prop :=
  ∀ passed db candidate plan sub' db', Inv passed db →
    candidate.id ∉ passed.map (·.id) → db.subscriptions.get? candidate.id = some candidate →
    getSubscriptionPlanByIdTx db candidate.planId = .ok plan → plan.isValuePackage = false →
    maybeResetUserSubscriptionWithPlanTx env db candidate plan now = .ok (sub', db') →
    Inv (passed ++ [candidate]) db'

variable (Inv : List UserSubscription → DB → Prop)
  (hskip : ∀ passed db candidate plan, Inv passed db → candidate.id ∉ passed.map (·.id) →
    db.subscriptions.get? candidate.id = some candidate →
    getSubscriptionPlanByIdTx db candidate.planId = .ok plan → plan.isValuePackage = true →
    Inv (passed ++ [candidate]) db)
  (hreset : ResetKeeps env now Inv)

include hskip hreset in
/-- The rule of the loop. What passing over a value package and resetting a stored regular
subscription preserve holds of the candidates up to the selected one. -/
lemma selectCandidate_loop (passed : List UserSubscription) {candidates : List UserSubscription}
    (hinv : Inv passed db) (hnodup : ((passed ++ candidates).map (·.id)).Nodup)
    (hrows : ∀ sub ∈ candidates, db.subscriptions.get? sub.id = some sub)
    (h : selectCandidate env now amount db candidates = .ok (sub, db₁)) :
    ∃ before candidate after plan, candidates = before ++ candidate :: after ∧
      Inv (passed ++ before ++ [candidate]) db₁ ∧ Selected db amount candidate plan sub db₁ := by
  induction candidates generalizing db passed with
  | nil => cases h
  | cons candidate rest ih =>
    have hget := hrows candidate List.mem_cons_self
    have hrest : ∀ sub ∈ rest, db.subscriptions.get? sub.id = some sub :=
      fun sub hsub => hrows sub (List.mem_cons_of_mem _ hsub)
    have hahead := id_not_mem_of_nodup hnodup
    have hsplit : passed ++ candidate :: rest = (passed ++ [candidate]) ++ rest := by simp
    rw [hsplit] at hnodup
    unfold selectCandidate at h
    obtain ⟨plan, hplan, h⟩ := bind_eq_ok.mp h
    split_ifs at h with hpackage
    · obtain ⟨before, charged, after, hrun⟩ :=
        ih _ (hskip passed db candidate plan hinv hahead.1 hget hplan hpackage) hnodup hrest h
      refine ⟨candidate :: before, charged, after, ?_⟩
      simpa using hrun
    have hregular : plan.isValuePackage = false := by simpa using hpackage
    obtain ⟨⟨reset, db₂⟩, hresetOk, h⟩ := bind_eq_ok.mp h
    have hinv₂ :=
      hreset passed db candidate plan reset db₂ hinv hahead.1 hget hplan hregular hresetOk
    obtain ⟨hid, hplanId, -, hplans, hpre, hget₂, hother⟩ :=
      maybeReset_frame hget hresetOk
    dsimp only at h
    split_ifs at h with hfull
    · -- the reset of this candidate has left the rows ahead alone
      have hrest₂ : ∀ later ∈ rest, db₂.subscriptions.get? later.id = some later := by
        intro later hlater
        rw [hother later.id fun heq => hahead.2 (heq ▸ List.mem_map_of_mem hlater)]
        exact hrest later hlater
      obtain ⟨before, charged, after, plan', hcandidates, hinv₁, hrun⟩ :=
        ih _ hinv₂ hnodup hrest₂ h
      refine ⟨candidate :: before, charged, after, plan', ?_, ?_,
        { hrun with
          plans := hrun.plans.trans hplans
          preConsumeRecords := hrun.preConsumeRecords.trans hpre
          plan_eq := ?_ }⟩
      · rw [hcandidates, List.cons_append]
      · simpa using hinv₁
      · rw [← planById_congr hplans]
        exact hrun.plan_eq
    · cases h
      refine ⟨[], candidate, rest, plan, rfl, ?_, hid, hplanId, hid ▸ hget₂, hplans, hpre,
        hplan, hregular, fun htotal => ?_⟩
      · simpa using hinv₂
      · have hroom : ¬sub.amountTotal - sub.amountUsed < amount := fun h => hfull ⟨htotal, h⟩
        omega

end Loop

lemma mem_of_mem_active (h : sub ∈ activeSubscriptions db userId now) :
    sub ∈ db.subscriptions.rows :=
  List.mem_of_mem_filter ((List.mem_insertionSort _).mp h)

lemma activeSubscriptions_nodup (db : DB) (userId now : Int) :
    ((activeSubscriptions db userId now).map (·.id)).Nodup := by
  refine ((List.perm_insertionSort _ _).map _).nodup_iff.mpr ?_
  exact db.subscriptions.nodup.sublist (List.filter_sublist.map UserSubscription.id)

lemma get?_of_mem_active :
    ∀ sub ∈ activeSubscriptions db userId now, db.subscriptions.get? sub.id = some sub :=
  fun _ hsub => get?_of_mem (mem_of_mem_active hsub)

lemma selectCandidate_ok
    (h : selectCandidate env now amount db (activeSubscriptions db userId now) = .ok (sub, db₁)) :
    ∃ candidate plan, candidate ∈ activeSubscriptions db userId now ∧
      Selected db amount candidate plan sub db₁ := by
  obtain ⟨before, candidate, after, plan, hsplit, -, hselected⟩ :=
    selectCandidate_loop (fun _ _ => True) (fun _ _ _ _ _ _ _ _ _ => trivial)
      (fun _ _ _ _ _ _ _ _ _ _ _ _ => trivial) [] trivial
      (activeSubscriptions_nodup db userId now) get?_of_mem_active h
  refine ⟨candidate, plan, ?_, hselected⟩
  rw [show activeSubscriptions db userId now = before ++ candidate :: after from hsplit]
  simp

/-- A call that commits answers a repeated request without a write, or selects one of the active
subscriptions and charges it. -/
lemma preConsumeUser_cases
    (h : preConsumeUserSubscription env db now requestId userId amount = .ok (result, db')) :
    isBlank requestId = false ∧ 0 < amount ∧
      ((db.preConsumeRecords.get? requestId).isSome ∧ db' = db ∨
        db.preConsumeRecords.get? requestId = none ∧
          ∃ sub db₁, selectCandidate env now amount db (activeSubscriptions db userId now) =
              .ok (sub, db₁) ∧
            result = ⟨sub.id, amount, sub.amountTotal, sub.amountUsed, sub.amountUsed + amount, 0⟩ ∧
            db' = (db₁.savePreConsume (regularPreConsumeRecord sub requestId userId amount
              now)).saveSubscription { sub with amountUsed := sub.amountUsed + amount }) := by
  unfold preConsumeUserSubscription at h
  obtain ⟨_, h⟩ := of_bind h
  obtain ⟨_, hblank, h⟩ := bind_eq_ok.mp h
  obtain ⟨hamount, h⟩ := of_check h
  refine ⟨by simpa using hblank, hamount, ?_⟩
  split at h
  · obtain ⟨_, h⟩ := of_bind h
    split at h
    · cases h
    · cases h
      exact .inl ⟨by simp [*], rfl⟩
  · next hnone =>
      obtain ⟨_, h⟩ := of_bind h
      rw [preConsumeFromCandidates_eq] at h
      obtain ⟨⟨sub, db₁⟩, hselect, h⟩ := bind_eq_ok.mp h
      have hfresh : db₁.preConsumeRecords.get? requestId = none := by
        obtain ⟨_, _, -, hselected⟩ := selectCandidate_ok hselect
        rw [hselected.preConsumeRecords, hnone]
      unfold chargeRegular at h
      simp only [hfresh, pure_eq_ok, Prod.mk.injEq] at h
      exact .inr ⟨hnone, sub, db₁, hselect, h.1.symm, h.2.symm⟩

theorem preConsumeUserSubscription_ok (hnone : db.preConsumeRecords.get? requestId = none)
    (h : preConsumeUserSubscription env db now requestId userId amount = .ok (result, db')) :
    RegularCharge db db' requestId userId amount result := by
  obtain ⟨hblank, hamount, ⟨hsome, -⟩ | ⟨-, sub, db₁, hselect, rfl, rfl⟩⟩ :=
    preConsumeUser_cases h
  · rw [hnone] at hsome
    cases hsome
  -- every stored row keeps its used amount or is reset
  let Inv : List UserSubscription → DB → Prop := fun _ db₁ => ∀ id row₁,
    db₁.subscriptions.get? id = some row₁ → ∃ row, db.subscriptions.get? id = some row ∧
      (row₁.amountUsed = row.amountUsed ∨ row₁.amountUsed = 0)
  have hinit : Inv [] db := fun _ row hrow => ⟨row, hrow, .inl rfl⟩
  have hstep : ResetKeeps env now Inv := by
    intro _ db₁ candidate plan sub' db₂ hinv _ hget _ _ hreset id row₁ hrow₁
    obtain ⟨-, -, hused, -, -, hget', hother⟩ :=
      maybeReset_frame hget hreset
    by_cases hid : id = candidate.id
    · subst hid
      rw [hget'] at hrow₁
      cases hrow₁
      obtain ⟨row, hrow, hold⟩ := hinv _ candidate hget
      refine ⟨row, hrow, ?_⟩
      rcases hused with hsame | hzero
      · exact hsame ▸ hold
      · exact .inr hzero
    · exact hinv id row₁ (hother id hid ▸ hrow₁)
  obtain ⟨_, _, _, plan, -, hrows, hselected⟩ :=
    selectCandidate_loop Inv (fun _ _ _ _ hinv _ _ _ _ => hinv) hstep [] hinit
      (activeSubscriptions_nodup db userId now) get?_of_mem_active hselect
  obtain ⟨row, hrow, hused⟩ := hrows sub.id sub hselected.stored
  have hplan := hselected.plan_eq
  rw [← hselected.planId, ← planById_congr hselected.plans] at hplan
  exact ⟨hblank, hamount, rfl, rfl,
    ⟨{ sub with amountUsed := sub.amountUsed + amount }, row, plan, hrow, hused,
      get?_put_self _ _, rfl, hselected.room, hplan, hselected.regular⟩,
    ⟨regularPreConsumeRecord sub requestId userId amount now, get?_put_self _ _, rfl, rfl,
      rfl⟩⟩

/-- What the resets and the charge of `PreConsumeUserSubscription` preserve, the call preserves. The
resets are of stored rows, and so is the charge. -/
lemma preConsumeUser_induction (Inv : DB → Prop) (hinit : Inv db)
    (hreset : ∀ db sub plan sub' db', Inv db → db.subscriptions.get? sub.id = some sub →
      getSubscriptionPlanByIdTx db sub.planId = .ok plan → plan.isValuePackage = false →
      maybeResetUserSubscriptionWithPlanTx env db sub plan now = .ok (sub', db') → Inv db')
    (hcharge : ∀ db sub, Inv db → db.subscriptions.get? sub.id = some sub →
      db.preConsumeRecords.get? requestId = none → 0 < amount →
      (0 < sub.amountTotal → sub.amountUsed + amount ≤ sub.amountTotal) →
      Inv ((db.savePreConsume (regularPreConsumeRecord sub requestId userId amount
        now)).saveSubscription { sub with amountUsed := sub.amountUsed + amount }))
    (h : preConsumeUserSubscription env db now requestId userId amount = .ok (result, db')) :
    Inv db' := by
  obtain ⟨-, hamount, ⟨-, rfl⟩ | ⟨hnone, sub, db₁, hselect, -, rfl⟩⟩ :=
    preConsumeUser_cases h
  · exact hinit
  · obtain ⟨_, _, _, _, -, hinv, hselected⟩ :=
      selectCandidate_loop (fun _ db => Inv db) (fun _ _ _ _ hinv _ _ _ _ => hinv)
        (fun _ db candidate plan sub' db' hinv _ => hreset db candidate plan sub' db' hinv) [] hinit
        (activeSubscriptions_nodup db userId now) get?_of_mem_active hselect
    exact hcharge db₁ sub hinv hselected.stored (hselected.preConsumeRecords ▸ hnone) hamount
      hselected.room

/-! ### One subscription's row -/

/-- The subscriptions the loop has come to when it charges `charged`. -/
def visitedIds (candidates : List UserSubscription) (charged : Int) : List Int :=
  (candidates.map (·.id)).takeWhile (· ≠ charged) ++ [charged]

lemma visitedIds_append {before after : List UserSubscription} {candidate : UserSubscription}
    (hnodup : ((before ++ candidate :: after).map (·.id)).Nodup) :
    visitedIds (before ++ candidate :: after) candidate.id =
      (before ++ [candidate]).map (·.id) := by
  unfold visitedIds
  rw [List.map_append, List.map_append, List.map_cons, List.takeWhile_append_of_pos]
  · simp
  · intro id hid
    simpa using fun heq : id = candidate.id => (id_not_mem_of_nodup hnodup).1 (heq ▸ hid)

/-- The call that has charged `charged` has reset `sid` on its way. -/
def resetOnTheWay (env : Env) (sid : Int) (db : DB) (now userId charged : Int) : Bool :=
  sid ∈ visitedIds (activeSubscriptions db userId now) charged &&
    (db.subscriptions.get? sid).any fun row =>
      match getSubscriptionPlanByIdTx db row.planId with
      | .ok plan => resetsAt env row plan now
      | .error _ => false

section

variable (hrow : db.subscriptions.get? sid = some row)
  (hplan : getSubscriptionPlanByIdTx db row.planId = .ok plan)
  (hregular : plan.isValuePackage = false)

include hrow hplan hregular

lemma selectCandidate_row
    (h : selectCandidate env now amount db (activeSubscriptions db userId now) = .ok (sub, db')) :
    ∃ row', db'.subscriptions.get? sid = some row' ∧ row'.planId = row.planId ∧
      row'.amountUsed =
        if resetOnTheWay env sid db now userId sub.id then 0 else row.amountUsed := by
  have hway : resetOnTheWay env sid db now userId sub.id = true ↔
      sid ∈ visitedIds (activeSubscriptions db userId now) sub.id ∧
        resetsAt env row plan now = true := by
    simp [resetOnTheWay, hrow, hplan]
  simp only [hway]
  -- the row is reset, if it is due, when the loop comes to it, and not touched before
  let Inv : List UserSubscription → DB → Prop := fun passed db₁ =>
    db₁.plans = db.plans ∧
      ∃ row₁, db₁.subscriptions.get? sid = some row₁ ∧ row₁.planId = row.planId ∧
        (sid ∉ passed.map (·.id) → row₁ = row) ∧
        row₁.amountUsed =
          if sid ∈ passed.map (·.id) ∧ resetsAt env row plan now then 0 else row.amountUsed
  have hinit : Inv [] db := ⟨rfl, row, hrow, rfl, fun _ => rfl, by simp⟩
  have hother : ∀ passed (db₁ db₂ : DB) (candidate : UserSubscription), Inv passed db₁ →
      candidate.id ≠ sid → db₂.plans = db₁.plans →
      db₂.subscriptions.get? sid = db₁.subscriptions.get? sid →
        Inv (passed ++ [candidate]) db₂ := by
    rintro passed db₁ db₂ candidate ⟨hplans, row₁, hget, hplanId, hsame, hused⟩ hne hplans₂ hget₂
    have hmem : sid ∈ (passed ++ [candidate]).map (·.id) ↔ sid ∈ passed.map (·.id) := by
      simp [Ne.symm hne]
    refine ⟨hplans₂.trans hplans, row₁, hget₂.trans hget, hplanId, ?_, ?_⟩
    · rwa [hmem]
    · simpa only [hmem] using hused
  have hskip : ∀ passed db₁ candidate plan₁, Inv passed db₁ →
      candidate.id ∉ passed.map (·.id) → db₁.subscriptions.get? candidate.id = some candidate →
      getSubscriptionPlanByIdTx db₁ candidate.planId = .ok plan₁ → plan₁.isValuePackage = true →
      Inv (passed ++ [candidate]) db₁ := by
    intro passed db₁ candidate plan₁ hinv _ hget hplan₁ hpackage
    refine hother passed db₁ db₁ candidate hinv (fun hsid => ?_) rfl rfl
    -- the row's own plan is regular
    obtain ⟨hplans, row₁, hget₁, hplanId, -⟩ := hinv
    rw [← hsid, hget] at hget₁
    cases hget₁
    rw [planById_congr hplans, hplanId, hplan] at hplan₁
    cases hplan₁
    rw [hregular] at hpackage
    cases hpackage
  have hstep : ResetKeeps env now Inv := by
    intro passed db₁ candidate plan₁ sub' db₂ hinv hahead hget hplan₁ _ hreset
    obtain ⟨-, hplanId', -, hplans', -, hget', hframe⟩ :=
      maybeReset_frame hget hreset
    by_cases hsid : candidate.id = sid
    · obtain ⟨hplans, row₁, hget₁, -, hsame, -⟩ := hinv
      rw [hsid] at hahead hget hget'
      obtain rfl : row₁ = row := hsame hahead
      rw [hget₁] at hget
      cases hget
      rw [planById_congr hplans, hplan] at hplan₁
      cases hplan₁
      have hmem : sid ∈ (passed ++ [candidate]).map (·.id) := by simp [hsid]
      refine ⟨hplans'.trans hplans, sub', hget', hplanId', ?_, ?_⟩
      · exact fun hnot => absurd hmem hnot
      · rw [maybeReset_amountUsed hreset]
        simp only [hmem, true_and]
    · exact hother passed db₁ db₂ candidate hinv hsid hplans' (hframe sid (Ne.symm hsid))
  obtain ⟨before, candidate, after, _, hsplit, ⟨-, row', hget', hplanId, -, hused⟩, hselected⟩ :=
    selectCandidate_loop Inv hskip hstep [] hinit (activeSubscriptions_nodup db userId now)
      get?_of_mem_active h
  have hsplit : activeSubscriptions db userId now = before ++ candidate :: after := hsplit
  have hnodup := activeSubscriptions_nodup db userId now
  rw [hsplit] at hnodup
  refine ⟨row', hget', hplanId, ?_⟩
  simp only [hsplit, hselected.id, visitedIds_append hnodup]
  exact hused

lemma preConsumeUser_row (hnone : db.preConsumeRecords.get? requestId = none)
    (h : preConsumeUserSubscription env db now requestId userId amount = .ok (result, db')) :
    db'.plans = db.plans ∧
      (∃ sub, sub.id = result.userSubscriptionId ∧ db'.preConsumeRecords =
        db.preConsumeRecords.put (regularPreConsumeRecord sub requestId userId amount now)) ∧
      ∃ row', db'.subscriptions.get? sid = some row' ∧ row'.planId = row.planId ∧
        row'.amountUsed =
          (if resetOnTheWay env sid db now userId result.userSubscriptionId then 0
            else row.amountUsed) + if result.userSubscriptionId = sid then amount else 0 := by
  obtain ⟨-, -, ⟨hsome, -⟩ | ⟨-, sub, db₁, hselect, rfl, rfl⟩⟩ := preConsumeUser_cases h
  · rw [hnone] at hsome
    cases hsome
  obtain ⟨_, _, -, hselected⟩ := selectCandidate_ok hselect
  obtain ⟨row₁, hget₁, hplanId, hused⟩ := selectCandidate_row hrow hplan hregular hselect
  refine ⟨hselected.plans, ⟨sub, rfl, by simp [hselected.preConsumeRecords]⟩, ?_⟩
  dsimp only
  rw [← hused]
  by_cases hsid : sub.id = sid
  · subst hsid
    rw [hselected.stored] at hget₁
    cases hget₁
    refine ⟨{ sub with amountUsed := sub.amountUsed + amount }, get?_put_self _ _, hplanId,
      ?_⟩
    rw [if_pos rfl]
  · refine ⟨row₁, ?_, hplanId, ?_⟩
    · rw [DB.saveSubscription_subscriptions, get?_put_of_ne]
      · exact hget₁
      · exact hsid
    · rw [if_neg hsid, add_zero]

end

/-- A correction commits if the subscription is there and the use stays within the total. -/
theorem postConsumeDelta_eq_ok {id delta : Int} {u : Unit} (hdelta : delta ≠ 0) :
    postConsumeUserSubscriptionDelta db id delta = .ok (u, db') ↔
      0 < id ∧ ∃ sub, db.subscriptions.get? id = some sub ∧
        (0 < sub.amountTotal → (chargeUsed sub delta).amountUsed ≤ sub.amountTotal) ∧
        db' = db.saveSubscription (chargeUsed sub delta) := by
  unfold postConsumeUserSubscriptionDelta
  simp only [bind_eq_ok, check_eq_ok, exists_const, if_neg hdelta]
  cases hget : db.subscriptions.get? id with
  | none => simp
  | some sub =>
    simp only [bind_eq_ok, check_eq_ok, exists_const, pure_eq_ok,
      Prod.mk.injEq, true_and, not_and, not_lt, Option.some.injEq, exists_eq_left']
    rw [eq_comm (a := db')]

theorem refundPreConsume_regular (now : Int) {record : SubscriptionPreConsumeRecord}
    (hblank : isBlank requestId = false)
    (hrecord : db.preConsumeRecords.get? requestId = some record)
    (hconsumed : record.status = .consumed) (hpos : 0 < record.preConsumed)
    (hsub : db.subscriptions.get? record.userSubscriptionId = some sub)
    (hplan : getSubscriptionPlanByIdTx db sub.planId = .ok plan)
    (hregular : plan.isValuePackage = false) :
    ∃ db', refundSubscriptionPreConsume db now requestId = .ok ((), db') ∧
      db'.subscriptions = db.subscriptions.put (chargeUsed sub (-record.preConsumed)) ∧
      db'.plans = db.plans ∧
      db'.preConsumeRecords = db.preConsumeRecords.put (markRefunded record now) := by
  refine ⟨(revokeValuePackageUsageReservationTx
    (db.saveSubscription (chargeUsed sub (-record.preConsumed))) record.userSubscriptionId
    record.requestId).savePreConsume (markRefunded record now), ?_, ?_⟩
  · unfold refundSubscriptionPreConsume refundSubscription
    simp [hblank, hrecord, hconsumed, hsub, hplan, hregular, hpos, check, bind, Except.bind,
      pure, Except.pure]
  · obtain ⟨hplans, hpre, hsubs⟩ := revokeUsage_frame
      (db.saveSubscription (chargeUsed sub (-record.preConsumed))) record.userSubscriptionId
      record.requestId
    exact ⟨hsubs, hplans, congrArg (·.put (markRefunded record now)) hpre⟩

end

end Yunbay
