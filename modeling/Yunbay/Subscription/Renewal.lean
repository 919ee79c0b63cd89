import Yunbay.Subscription.Ledger

/-!
# Paid renewals and the cycle grid

Two calls open a new quota epoch at the user's request. A purchase of the plan that is already
running (`extendValuePackageSubscriptionTx`) lengthens the package, or starts it afresh when it is
exhausted; a reset card (`consumeValuePackageResetCount`) empties the used amount.
-/

namespace Yunbay

variable {env : Env} {db db' : DB} {sub sub' : UserSubscription} {plan : SubscriptionPlan}
  {now : Int}

/-! ## The purchase of a running plan -/

/-- The purchase finds the package exhausted, once a due cycle has been renewed. -/
def renewalExhausted (env : Env) (db : DB) (sub : UserSubscription) (plan : SubscriptionPlan)
    (now : Int) : Bool :=
  match maybeAdvanceValuePackageCycleTx db sub plan now with
  | .error _ => false
  | .ok (sub, db) =>
    match buildValuePackageUsageSummaryTx db sub.userId sub plan now with
    | .error _ => false
    | .ok usage => (valuePackageRenewalExhaustedReason env usage).isSome

lemma renewalExhausted_eq {usage : ValuePackageUsageSummary}
    (hadvance : maybeAdvanceValuePackageCycleTx db sub plan now = .ok (sub', db'))
    (husage : buildValuePackageUsageSummaryTx db' sub'.userId sub' plan now = .ok usage) :
    renewalExhausted env db sub plan now =
      (valuePackageRenewalExhaustedReason env usage).isSome := by
  simp only [renewalExhausted, hadvance, husage]

lemma maybeAdvance_endTime
    (h : maybeAdvanceValuePackageCycleTx db sub plan now = .ok (sub', db')) :
    sub'.endTime = sub.endTime := by
  obtain ⟨-, rfl, -⟩ | ⟨-, -, rfl, -⟩ := maybeAdvance_eq_ok.mp h
  · rfl
  · rfl

@[simp]
lemma extendedSubscription_endTime (sub : UserSubscription) (plan : SubscriptionPlan)
    (now duration : Int) :
    (extendedSubscription sub plan now duration).endTime = max sub.endTime now + duration := by
  obtain ⟨last, next, heq⟩ := extendedSubscription_eq sub plan now duration
  rw [heq]

/-- A purchase that commits leaves the package with the end of the purchase if it was exhausted,
and with the purchase added to its own end otherwise. -/
lemma extendPackage_endTime {subscriptionId : Int} {d : Int}
    {existing result : UserSubscription}
    (hget : db.subscriptions.get? subscriptionId = some existing)
    (h : extendValuePackageSubscriptionTx env db subscriptionId plan now (now + d) =
      .ok (result, db')) :
    0 < d ∧ result.endTime =
      if renewalExhausted env db existing plan now then now + d
      else max existing.endTime now + d := by
  obtain ⟨-, -, hduration, stored, sub, db₁, usage, hstored, -, hadvance, husage, hcases⟩ :=
    extendPackage_inv h
  obtain rfl : stored = existing := Option.some.inj (hstored.symm.trans hget)
  refine ⟨by omega, ?_⟩
  rw [renewalExhausted_eq hadvance husage]
  obtain ⟨hexhausted, -, rfl, -⟩ | ⟨hleft, rfl, -⟩ := hcases
  · rw [if_pos hexhausted]
    rfl
  · have hnot : ¬(valuePackageRenewalExhaustedReason env usage).isSome = true := by simp [hleft]
    rw [if_neg hnot, extendedSubscription_endTime, maybeAdvance_endTime hadvance,
      add_sub_cancel_left]

/-- A purchase of length `d` leaves the package at least as long as it was, and as the purchase,
exactly unless it starts an exhausted package afresh whose end lay beyond the new one. -/
theorem renewal_keeps_end_iff {env : Env} {db db' : DB} {subscriptionId : Int}
    {plan : SubscriptionPlan} {now d : Int} {existing result : UserSubscription}
    (hget : db.subscriptions.get? subscriptionId = some existing)
    (h : extendValuePackageSubscriptionTx env db subscriptionId plan now (now + d) =
      .ok (result, db')) :
    (existing.endTime ≤ result.endTime ∧ now + d ≤ result.endTime) ↔
      ¬(renewalExhausted env db existing plan now = true ∧ now + d < existing.endTime) := by
  obtain ⟨hpos, hend⟩ := extendPackage_endTime hget h
  by_cases hexhausted : renewalExhausted env db existing plan now = true
  · rw [if_pos hexhausted] at hend
    simp [hend, hexhausted]
  · -- the purchase is added to the later one of the old end and now
    rw [if_neg hexhausted] at hend
    have hlonger : existing.endTime ≤ result.endTime ∧ now + d ≤ result.endTime := by
      constructor <;> omega
    simp [hlonger, hexhausted]

/-- A package with something left is lengthened by the purchase. -/
theorem renewal_keeps_end_sample :
    ∃ result db',
      extendValuePackageSubscriptionTx sampleEnv sampleDB 1 samplePlan 2000 (2000 + 2592000) =
        .ok (result, db') ∧
      sampleSubscription.endTime ≤ result.endTime ∧ 2000 + 2592000 ≤ result.endTime := by
  have hget : sampleDB.subscriptions.get? 1 = some sampleSubscription := rfl
  have hextend : ∃ result db', extendValuePackageSubscriptionTx sampleEnv sampleDB 1 samplePlan 2000
      (2000 + 2592000) = .ok (result, db') := ⟨_, _, rfl⟩
  obtain ⟨result, db', h⟩ := hextend
  exact ⟨result, db', h, (renewal_keeps_end_iff hget h).mpr (by decide)⟩

/-- `sampleSubscription`, prepaid for several cycles, with its first cycle used up. -/
def prepaidDB : DB := sampleDB.saveSubscription { sampleSubscription with amountUsed := 1000 }

/-- Buying another month of the exhausted package at time 2000 takes away all the time that was
paid for beyond that month. -/
theorem renewal_shortens_prepaid :
    (extendValuePackageSubscriptionTx sampleEnv prepaidDB 1 samplePlan 2000 2594000).toOption.map
      (·.1.endTime) = some 2594000 ∧
    (prepaidDB.subscriptions.get? 1).map (·.endTime) = some 10000000 := by
  decide +kernel

/-! ## Reset cards -/

/-- Renewing a cycle that is due never leaves things as they are. -/
lemma maybeAdvance_eq_self_iff :
    maybeAdvanceValuePackageCycleTx db sub plan now = .ok (sub, db) ↔ ¬CycleDue sub plan now := by
  rw [maybeAdvance_eq_ok]
  constructor
  · rintro (⟨hnot, -, -⟩ | ⟨-, -, hsame, -⟩)
    · exact hnot
    · -- the next cycle has another epoch
      have hepoch : sub.quotaEpoch = sub.quotaEpoch + 1 :=
        congrArg UserSubscription.quotaEpoch hsame
      omega
  · intro hnot
    exact .inl ⟨hnot, rfl, rfl⟩

/-- A card moves neither the start nor the last reset of the package, so what was due stays due. -/
lemma cycleDue_resetCardSubscription :
    CycleDue (resetCardSubscription sub) plan now ↔ CycleDue sub plan now :=
  Iff.rfl

/-- After a reset card, the cycle renewal at a time `t` changes nothing, exactly when no cycle of
the package was due at `t` before the card. This is so at the time of the card itself. -/
theorem reset_card_kept_iff {db db' : DB} {dbNow userId userSubscriptionId resetAt t : Int}
    {state : ValuePackageState} {pref : UserValuePackagePreference} {sub : UserSubscription}
    {plan : SubscriptionPlan} (hpref : db.preferences.get? userId = some pref)
    (hsub : db.subscriptions.get? pref.activeUserSubscriptionId = some sub)
    (hplan : getSubscriptionPlanByIdTx db sub.planId = .ok plan)
    (h : consumeValuePackageResetCount db dbNow userId userSubscriptionId resetAt =
      .ok (state, db')) :
    maybeAdvanceValuePackageCycleTx db' state.subscription plan t =
        .ok (state.subscription, db') ↔
      ¬CycleDue sub plan t := by
  obtain ⟨pref', stored, _, hpref', -, hid, hstored, -, -, -, -, -, -, hstate, -⟩ :=
    consumeResetCount_inv h
  obtain rfl : pref' = pref := Option.some.inj (hpref'.symm.trans hpref)
  rw [hid] at hstored
  obtain rfl : stored = sub := Option.some.inj (hstored.symm.trans hsub)
  rw [maybeAdvance_eq_self_iff, hstate, cycleDue_resetCardSubscription]

/-- A card spent inside the first cycle. -/
theorem reset_card_kept_sample :
    ∃ state db', consumeValuePackageResetCount sampleDB 2000 1 1 2000 = .ok (state, db') ∧
      maybeAdvanceValuePackageCycleTx db' state.subscription samplePlan 2000 =
        .ok (state.subscription, db') := by
  have hpref : sampleDB.preferences.get? 1 = some ⟨1, true, 1, 1⟩ := rfl
  have hcard : ∃ state db', consumeValuePackageResetCount sampleDB 2000 1 1 2000 =
      .ok (state, db') := ⟨_, _, rfl⟩
  obtain ⟨state, db', h⟩ := hcard
  exact ⟨state, db', h, (reset_card_kept_iff hpref rfl rfl h).mpr (by decide)⟩

/-- A card is spent at the very second at which the second cycle begins, and the renewal at that
second still opens a new epoch with nothing used. -/
theorem reset_card_spent_on_due_cycle :
    (consumeValuePackageResetCount sampleDB 2593000 1 1 2593000).toOption.bind
      (fun (state, db') =>
        (maybeAdvanceValuePackageCycleTx db' state.subscription samplePlan 2593000).toOption.map
          fun (renewed, _) =>
            (state.preference.resetCount, state.subscription.quotaEpoch, renewed.quotaEpoch)) =
      some (0, 1, 2) := by
  decide +kernel

end Yunbay
