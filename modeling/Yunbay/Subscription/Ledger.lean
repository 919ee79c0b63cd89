import Yunbay.Subscription.ValuePackage

/-!
# The books of a value package

A value package keeps two books: the running total `amountUsed` of the subscription, and one
usage record per request. This module runs the value-package transactions in any order and
relates the two.
-/

namespace Yunbay

open Except Run Table

variable {db db' : DB} {sub sub' other : UserSubscription} {usage : ValuePackageUsageRecord}
  {record : SubscriptionPreConsumeRecord} {result : SubscriptionPreConsumeResult} {env : Env}
  {sid : Int} {ops : List PackageOp}

/-! ## Runs -/

/-- A call to one of the value-package transactions, with the clock reading it makes. -/
inductive PackageOp where
  | preConsume (now : Int) (requestId : String) (userId userSubscriptionId amount : Int)
  | reserve (now : Int) (requestId : String) (userId userSubscriptionId targetQuota : Int)
  | refund (now : Int) (requestId : String)
  | consumeResetCount (dbNow userId userSubscriptionId resetAt : Int)
  | extend (subscriptionId : Int) (plan : SubscriptionPlan) (nowUnix purchasedEndUnix : Int)
  | resetDue (now limit : Int)
  | cleanup (now olderThanSeconds : Int)

/-- One call; a failed transaction leaves the database as it was. -/
def packageStep (env : Env) (db : DB) : PackageOp → DB
  | .preConsume now requestId userId userSubscriptionId amount =>
    commit db
      (preConsumeValuePackageSubscription db now requestId userId userSubscriptionId amount)
  | .reserve now requestId userId userSubscriptionId targetQuota =>
    commit db
      (reserveValuePackageUsageToTarget db now requestId userId userSubscriptionId targetQuota)
  | .refund now requestId => commit db (refundSubscriptionPreConsume db now requestId)
  | .consumeResetCount dbNow userId userSubscriptionId resetAt =>
    commit db (consumeValuePackageResetCount db dbNow userId userSubscriptionId resetAt)
  | .extend subscriptionId plan nowUnix purchasedEndUnix =>
    commit db
      (extendValuePackageSubscriptionTx env db subscriptionId plan nowUnix purchasedEndUnix)
  | .resetDue now limit => resetDueSubscriptions env db now limit
  | .cleanup now olderThanSeconds => cleanupSubscriptionPreConsumeRecords db now olderThanSeconds

/-! ## The usage of the current epoch -/

/-- What a usage record contributes to the current epoch of a subscription. -/
def epochQuota (sub : UserSubscription) (usage : ValuePackageUsageRecord) : Int :=
  if usage.userSubscriptionId = sub.id ∧ usage.quotaEpoch = sub.quotaEpoch then usage.quota else 0

/-- The sum of `Quota` over the usage records of the subscription's current epoch. -/
def epochUsage (db : DB) (sub : UserSubscription) : Int := db.usageRecords.sumBy (epochQuota sub)

/-- The total of the subscription is the sum of its usage records of the current epoch. -/
def Balanced (db : DB) (sub : UserSubscription) : Prop := sub.amountUsed = epochUsage db sub

lemma epochUsage_saveUsage (db : DB) (sub : UserSubscription) (usage : ValuePackageUsageRecord) :
    epochUsage (db.saveUsage usage) sub =
      epochUsage db sub - (db.usageRecords.get? usage.key).elim 0 (epochQuota sub) +
        epochQuota sub usage :=
  sumBy_put _ _

/-- The sum depends only on the usage records and on the identity and epoch of the package. -/
lemma epochUsage_congr (husage : db'.usageRecords = db.usageRecords) (hid : sub'.id = sub.id)
    (hepoch : sub'.quotaEpoch = sub.quotaEpoch) : epochUsage db' sub' = epochUsage db sub := by
  unfold epochUsage
  rw [husage]
  exact sumBy_congr fun row _ => by simp only [epochQuota, hid, hepoch]

/-! ## How the tables hang together -/

/-- The links between the tables of a stored value package. -/
structure Linked (db : DB) (sub : UserSubscription) : Prop where
  id_pos : 0 < sub.id
  stored : db.subscriptions.get? sub.id = some sub
  package : ∃ plan, getSubscriptionPlanByIdTx db sub.planId = .ok plan ∧ plan.isValuePackage = true
  /-- A usage record of the package is never negative. -/
  quota_nonneg : ∀ usage ∈ db.usageRecords.rows,
    usage.userSubscriptionId = sub.id → 0 ≤ usage.quota
  /-- No usage record of the package belongs to a future epoch. -/
  epoch_le : ∀ usage ∈ db.usageRecords.rows,
    usage.userSubscriptionId = sub.id → usage.quotaEpoch ≤ sub.quotaEpoch
  /-- A pre-consume record of the package has a usage record of the same epoch. -/
  usage_of_preConsume : ∀ record ∈ db.preConsumeRecords.rows, record.userSubscriptionId = sub.id →
    ∃ usage, db.usageRecords.get? (sub.id, record.requestId) = some usage ∧
      usage.quotaEpoch = record.quotaEpoch

/-- A usage record that may be written: if it is the package's, it is non-negative, of no later
epoch, and keeps the epoch of the record it replaces. -/
def Fits (db : DB) (sub : UserSubscription) (usage : ValuePackageUsageRecord) : Prop :=
  usage.userSubscriptionId = sub.id →
    0 ≤ usage.quota ∧ usage.quotaEpoch ≤ sub.quotaEpoch ∧
      ∀ old, db.usageRecords.get? usage.key = some old → usage.quotaEpoch = old.quotaEpoch

namespace Linked

section

variable (h : Linked db sub)

include h

/-- The row stored under the package's id is the package. -/
lemma eq_of_get? {id : Int} {row : UserSubscription} (hid : id = sub.id)
    (hget : db.subscriptions.get? id = some row) : sub = row := by
  rw [hid, h.stored] at hget
  exact Option.some.inj hget

lemma isValuePackage_of_plan {plan : SubscriptionPlan}
    (hplan : getSubscriptionPlanByIdTx db sub.planId = .ok plan) : plan.isValuePackage = true := by
  obtain ⟨plan', hplan', hpackage⟩ := h.package
  rw [hplan] at hplan'
  cases hplan'
  exact hpackage

/-- The links do not look at the reset rows, the preferences and the card journal. -/
lemma congr (hplans : db'.plans = db.plans) (hsubs : db'.subscriptions = db.subscriptions)
    (husage : db'.usageRecords = db.usageRecords)
    (hpre : db'.preConsumeRecords = db.preConsumeRecords) : Linked db' sub where
  id_pos := h.id_pos
  stored := hsubs ▸ h.stored
  package := by
    obtain ⟨plan, hplan, hpackage⟩ := h.package
    refine ⟨plan, ?_, hpackage⟩
    rwa [planById_congr hplans]
  quota_nonneg := husage ▸ h.quota_nonneg
  epoch_le := husage ▸ h.epoch_le
  usage_of_preConsume := by
    rw [hpre, husage]
    exact h.usage_of_preConsume

/-- A package that has been stored with a later or equal epoch keeps its links. -/
lemma saveSubscription (hid : sub'.id = sub.id) (hplan : sub'.planId = sub.planId)
    (hepoch : sub.quotaEpoch ≤ sub'.quotaEpoch) :
    Linked (db.saveSubscription sub') sub' where
  id_pos := hid ▸ h.id_pos
  stored := get?_put_self _ _
  package := by
    rw [hplan]
    exact h.package
  quota_nonneg := by
    rw [hid]
    exact h.quota_nonneg
  epoch_le usage husage howner := (h.epoch_le usage husage (howner.trans hid)).trans hepoch
  usage_of_preConsume := by
    rw [hid]
    exact h.usage_of_preConsume

/-- Another subscription's row does not matter. -/
lemma saveSubscription_other (hne : other.id ≠ sub.id) :
    Linked (db.saveSubscription other) sub where
  id_pos := h.id_pos
  stored := (get?_put_of_ne _ hne).trans h.stored
  package := h.package
  quota_nonneg := h.quota_nonneg
  epoch_le := h.epoch_le
  usage_of_preConsume := h.usage_of_preConsume

lemma saveUsage (hown : Fits db sub usage) :
    Linked (db.saveUsage usage) sub where
  id_pos := h.id_pos
  stored := h.stored
  package := h.package
  quota_nonneg := forall_mem_put (fun howner => (hown howner).1) h.quota_nonneg
  epoch_le := forall_mem_put (fun howner => (hown howner).2.1) h.epoch_le
  usage_of_preConsume := by
    intro record hrecord howner
    obtain ⟨old, hold, hsame⟩ := h.usage_of_preConsume record hrecord howner
    rw [DB.saveUsage_usageRecords, get?_put]
    split_ifs with hkey
    · have hkeep := (hown (congrArg Prod.fst hkey)).2.2 old (hkey ▸ hold)
      exact ⟨usage, rfl, hkeep.trans hsame⟩
    · exact ⟨old, hold, hsame⟩

lemma savePreConsume
    (husage : record.userSubscriptionId = sub.id →
      ∃ usage, db.usageRecords.get? (sub.id, record.requestId) = some usage ∧
        usage.quotaEpoch = record.quotaEpoch) : Linked (db.savePreConsume record) sub where
  id_pos := h.id_pos
  stored := h.stored
  package := h.package
  quota_nonneg := h.quota_nonneg
  epoch_le := h.epoch_le
  usage_of_preConsume := forall_mem_put husage h.usage_of_preConsume

/-- Nothing has been used yet in an epoch after the current one. -/
lemma epochUsage_of_lt (hid : sub'.id = sub.id) (hlt : sub.quotaEpoch < sub'.quotaEpoch) :
    epochUsage db sub' = 0 := by
  have hzero : ∀ row ∈ db.usageRecords.rows, epochQuota sub' row = 0 := by
    intro row hrow
    unfold epochQuota
    rw [if_neg]
    rintro ⟨howner, hepoch⟩
    have := h.epoch_le row hrow (howner.trans hid)
    omega
  unfold epochUsage sumBy
  exact List.sum_eq_zero fun x hx => by
    obtain ⟨row, hrow, rfl⟩ := List.mem_map.mp hx
    exact hzero row hrow

lemma epochQuota_nonneg (husage : usage ∈ db.usageRecords.rows) : 0 ≤ epochQuota sub usage := by
  unfold epochQuota
  split_ifs with hcond
  · exact h.quota_nonneg usage husage hcond.1
  · exact le_rfl

lemma epochUsage_nonneg : 0 ≤ epochUsage db sub :=
  List.sum_nonneg fun x hx => by
    obtain ⟨row, hrow, rfl⟩ := List.mem_map.mp hx
    exact h.epochQuota_nonneg hrow

end

end Linked

/-! ## What one write keeps -/

/-- A linked package stays linked, and balanced if it was. -/
structure Keeps (db : DB) (sub : UserSubscription) (db' : DB) (sub' : UserSubscription) :
    Prop where
  id_eq : sub'.id = sub.id
  linked : Linked db' sub'
  balanced : Balanced db sub → Balanced db' sub'

namespace Keeps

variable {db₁ db₂ : DB} {sub₁ sub₂ : UserSubscription}

lemma refl (h : Linked db sub) : Keeps db sub db sub := ⟨rfl, h, id⟩

lemma trans (h₁ : Keeps db sub db₁ sub₁) (h₂ : Keeps db₁ sub₁ db₂ sub₂) : Keeps db sub db₂ sub₂ :=
  ⟨h₂.id_eq.trans h₁.id_eq, h₂.linked, h₂.balanced ∘ h₁.balanced⟩

section

variable (h : Linked db sub)

include h

/-- Neither book looks at the reset rows, the preferences and the card journal. -/
lemma congr (hplans : db'.plans = db.plans) (hsubs : db'.subscriptions = db.subscriptions)
    (husage : db'.usageRecords = db.usageRecords)
    (hpre : db'.preConsumeRecords = db.preConsumeRecords) : Keeps db sub db' sub :=
  ⟨rfl, h.congr hplans hsubs husage hpre, fun hb => hb.trans (epochUsage_congr husage rfl rfl).symm⟩

/-- Another subscription's row does not matter. -/
lemma saveSubscription_other (other : UserSubscription) (hne : other.id ≠ sub.id) :
    Keeps db sub (db.saveSubscription other) sub :=
  ⟨rfl, h.saveSubscription_other hne, id⟩

/-- A row of the package with the same total and epoch, or a new epoch with nothing used. -/
lemma saveSubscription (hid : sub'.id = sub.id) (hplan : sub'.planId = sub.planId)
    (hbooks : sub'.quotaEpoch = sub.quotaEpoch ∧ sub'.amountUsed = sub.amountUsed ∨
      sub.quotaEpoch < sub'.quotaEpoch ∧ sub'.amountUsed = 0) :
    Keeps db sub (db.saveSubscription sub') sub' := by
  refine ⟨hid, h.saveSubscription hid hplan (by omega), fun hb => ?_⟩
  rcases hbooks with ⟨hepoch, hused⟩ | ⟨hlt, hused⟩
  · exact (hused.trans hb).trans (epochUsage_congr rfl hid hepoch).symm
  · have hzero : epochUsage db sub' = 0 := h.epochUsage_of_lt hid hlt
    exact hused.trans hzero.symm

/-- A usage record that leaves the sum of the current epoch alone. -/
lemma saveUsage (hown : Fits db sub usage)
    (hsum : epochUsage (db.saveUsage usage) sub = epochUsage db sub) :
    Keeps db sub (db.saveUsage usage) sub :=
  ⟨rfl, h.saveUsage hown, fun hb => Eq.trans hb hsum.symm⟩

/-- Another subscription's usage record does not matter. -/
lemma saveUsage_other (hne : usage.userSubscriptionId ≠ sub.id) :
    Keeps db sub (db.saveUsage usage) sub := by
  refine saveUsage h (fun howner => absurd howner hne) ?_
  have hnew : epochQuota sub usage = 0 := if_neg fun hcond => hne hcond.1
  have hold : (db.usageRecords.get? usage.key).elim 0 (epochQuota sub) = 0 := by
    cases hget : db.usageRecords.get? usage.key with
    | none => rfl
    | some old =>
      have hkey : old.key = usage.key := key_of_get? hget
      have howner : old.userSubscriptionId = usage.userSubscriptionId := congrArg Prod.fst hkey
      exact if_neg fun hcond => hne (howner ▸ hcond.1)
  rw [epochUsage_saveUsage, hnew, hold]
  omega

lemma savePreConsume (record : SubscriptionPreConsumeRecord)
    (husage : record.userSubscriptionId = sub.id →
      ∃ usage, db.usageRecords.get? (sub.id, record.requestId) = some usage ∧
        usage.quotaEpoch = record.quotaEpoch) : Keeps db sub (db.savePreConsume record) sub :=
  ⟨rfl, h.savePreConsume husage, id⟩

/-- A charge: the total moves with the sum of the usage records. -/
lemma charge (sub' : UserSubscription) {delta : Int} (hown : Fits db sub usage)
    (hsum : epochUsage (db.saveUsage usage) sub = epochUsage db sub + delta)
    (hid : sub'.id = sub.id) (hplan : sub'.planId = sub.planId)
    (hepoch : sub'.quotaEpoch = sub.quotaEpoch)
    (hused : 0 ≤ sub.amountUsed + delta → sub'.amountUsed = sub.amountUsed + delta) :
    Keeps db sub ((db.saveUsage usage).saveSubscription sub') sub' := by
  have hlinked := h.saveUsage hown
  refine ⟨hid, hlinked.saveSubscription hid hplan hepoch.ge, fun hb => ?_⟩
  have hnonneg := hlinked.epochUsage_nonneg
  have htotal : sub.amountUsed + delta = epochUsage (db.saveUsage usage) sub := by
    rw [hsum, show sub.amountUsed = epochUsage db sub from hb]
  exact (hused (by omega)).trans (htotal.trans (epochUsage_congr rfl hid hepoch).symm)

end

end Keeps

/-! ## What one transaction keeps -/

section Transactions

variable {plan : SubscriptionPlan} {now : Int} {requestId : String}
  {userId userSubscriptionId : Int}

section

variable (h : Linked db sub)

include h

lemma keeps_advance (hadvance : maybeAdvanceValuePackageCycleTx db sub plan now = .ok (sub', db')) :
    Keeps db sub db' sub' := by
  obtain ⟨-, rfl, rfl⟩ | ⟨-, -, rfl, rfl⟩ := maybeAdvance_eq_ok.mp hadvance
  · exact Keeps.refl h
  · have hcreated : Keeps db sub (db.createQuotaReset (cycleReset sub plan now)) sub :=
      Keeps.congr h rfl rfl rfl rfl
    exact hcreated.trans (Keeps.saveSubscription hcreated.linked rfl rfl
      (.inr ⟨Int.lt_succ sub.quotaEpoch, rfl⟩))

lemma keeps_advance_other {other' : UserSubscription} (hne : other.id ≠ sub.id)
    (hadvance : maybeAdvanceValuePackageCycleTx db other plan now = .ok (other', db')) :
    Keeps db sub db' sub := by
  obtain ⟨-, -, rfl⟩ | ⟨-, -, -, rfl⟩ := maybeAdvance_eq_ok.mp hadvance
  · exact Keeps.refl h
  · have hcreated : Keeps db sub (db.createQuotaReset (cycleReset other plan now)) sub :=
      Keeps.congr h rfl rfl rfl rfl
    exact hcreated.trans (Keeps.saveSubscription_other hcreated.linked _ hne)

lemma keeps_open
    (hopen : openValuePackageTx db userId userSubscriptionId now = .ok (sub', plan, db')) :
    userSubscriptionId = sub.id ∧ Keeps db sub db' sub' ∨
      userSubscriptionId ≠ sub.id ∧ sub'.id = userSubscriptionId ∧ Keeps db sub db' sub := by
  obtain ⟨opened, hget, -, -, -, -, -, hadvance⟩ := openValuePackageTx_ok hopen
  have hid : opened.id = userSubscriptionId := key_of_get? hget
  by_cases hown : userSubscriptionId = sub.id
  · obtain rfl := h.eq_of_get? hown hget
    exact .inl ⟨hown, keeps_advance h hadvance⟩
  · have hkey : sub'.id = userSubscriptionId :=
      key_of_get? (openValuePackageTx_frame hopen).2.2.2
    exact .inr ⟨hown, hkey, keeps_advance_other h (hid ▸ hown) hadvance⟩

lemma fits_upsertedUsage (requestId : String) (userId now : Int)
    {quota epoch : Int} (hquota : 0 ≤ quota) (hepoch : epoch ≤ sub.quotaEpoch) :
    Fits db sub (upsertedUsage db (newUsageRecord sub requestId userId quota epoch now)) := by
  intro _
  rw [upsertedUsage_key]
  cases hget : db.usageRecords.get?
      (newUsageRecord sub requestId userId quota epoch now).key with
  | none =>
    rw [upsertedUsage_of_none hget]
    exact ⟨hquota, hepoch, nofun⟩
  | some old =>
    have howner : old.userSubscriptionId = sub.id := congrArg Prod.fst (key_of_get? hget)
    rw [upsertedUsage_of_some hget]
    refine ⟨hquota, h.epoch_le old (mem_of_get? hget) howner, ?_⟩
    rintro old' ⟨⟩
    rfl

end

lemma epochUsage_upsert_of_none (userId quota epoch now : Int)
    (hnone : db.usageRecords.get? (sub.id, requestId) = none) :
    epochUsage (db.saveUsage (upsertedUsage db
        (newUsageRecord sub requestId userId quota epoch now))) sub =
      epochUsage db sub + if epoch = sub.quotaEpoch then quota else 0 := by
  have hkey : db.usageRecords.get?
      (newUsageRecord sub requestId userId quota epoch now).key = none := hnone
  rw [epochUsage_saveUsage, upsertedUsage_key, hkey, upsertedUsage_of_none hkey]
  simp [epochQuota, newUsageRecord]

lemma epochUsage_upsert_of_some (userId quota epoch now : Int) {old : ValuePackageUsageRecord}
    (hsome : db.usageRecords.get? (sub.id, requestId) = some old) :
    epochUsage (db.saveUsage (upsertedUsage db
        (newUsageRecord sub requestId userId quota epoch now))) sub =
      epochUsage db sub + if old.quotaEpoch = sub.quotaEpoch then quota - old.quota else 0 := by
  have hkey : db.usageRecords.get?
      (newUsageRecord sub requestId userId quota epoch now).key = some old := hsome
  have howner : old.userSubscriptionId = sub.id := congrArg Prod.fst (key_of_get? hsome)
  rw [epochUsage_saveUsage, upsertedUsage_key, hkey, upsertedUsage_of_some hkey]
  simp only [Option.elim_some, epochQuota, howner, true_and, newUsageRecord]
  split_ifs <;> omega

section

variable (h : Linked db sub)

include h

lemma keeps_charge_other (usage : ValuePackageUsageRecord)
    (other : UserSubscription) (husage : usage.userSubscriptionId ≠ sub.id)
    (hother : other.id ≠ sub.id) : Keeps db sub ((db.saveUsage usage).saveSubscription other) sub :=
  have hsaved := Keeps.saveUsage_other h husage
  hsaved.trans (Keeps.saveSubscription_other hsaved.linked other hother)

lemma keeps_preConsume {amount : Int}
    (hfresh : userSubscriptionId = sub.id → db.preConsumeRecords.get? requestId = none →
      db.usageRecords.get? (sub.id, requestId) = none)
    (hok : preConsumeValuePackageSubscription db now requestId userId userSubscriptionId amount =
      .ok (result, db')) : ∃ sub', Keeps db sub db' sub' := by
  obtain ⟨rfl, -⟩ | ⟨hnone, hamount, opened, plan, db₁, hopen, -, rfl, -⟩ :=
    preConsumePackage_ok hok
  · exact ⟨sub, Keeps.refl h⟩
  obtain ⟨-, husage₁, -, -⟩ := openValuePackageTx_frame hopen
  rcases keeps_open h hopen with ⟨hid, hopened⟩ | ⟨hne, hkey, hopened⟩
  · have hnew : db₁.usageRecords.get? (opened.id, requestId) = none := by
      rw [husage₁, hopened.id_eq]
      exact hfresh hid hnone
    have hfits := fits_upsertedUsage hopened.linked requestId userId now hamount.le le_rfl
    have hsum := epochUsage_upsert_of_none userId amount opened.quotaEpoch now hnew
    rw [if_pos rfl] at hsum
    have hcharged := Keeps.charge hopened.linked
      { opened with amountUsed := opened.amountUsed + amount } hfits hsum rfl rfl rfl fun _ => rfl
    have hrecorded := Keeps.savePreConsume hcharged.linked
      (newPreConsumeRecord opened requestId userId amount now) fun _ => by
        refine ⟨_, get?_eq_some_iff.mpr ⟨mem_put.mpr (.inl rfl), ?_⟩, ?_⟩
        · exact upsertedUsage_key _ _
        · rw [upsertedUsage_of_none hnew]
          rfl
    exact ⟨_, (hopened.trans hcharged).trans hrecorded⟩
  · have hcharged := keeps_charge_other hopened.linked
      (upsertedUsage db₁ (newUsageRecord opened requestId userId amount opened.quotaEpoch now))
      { opened with amountUsed := opened.amountUsed + amount }
      (by simpa [hkey] using hne) (by simpa [hkey] using hne)
    have hrecorded := Keeps.savePreConsume hcharged.linked
      (newPreConsumeRecord opened requestId userId amount now)
      fun howner => absurd (hkey.symm.trans howner) hne
    exact ⟨sub, (hopened.trans hcharged).trans hrecorded⟩

lemma findReservedRequest_linked {request : ReservedRequest}
    (hfind : findReservedRequest db sub requestId userId sub.id = .ok request) :
    db.usageRecords.get? (sub.id, requestId) = none ∧ request = ⟨0, 0, sub.quotaEpoch⟩ ∨
      ∃ old, db.usageRecords.get? (sub.id, requestId) = some old ∧
        request = ⟨old.quota, old.createdAt, old.quotaEpoch⟩ := by
  obtain ⟨howner, ⟨hnone, rfl⟩ | ⟨old, hold, -, rfl⟩⟩ := findReservedRequest_ok hfind
  · refine .inl ⟨hnone, ?_⟩
    cases hpre : db.preConsumeRecords.get? requestId with
    | none => rfl
    | some record =>
      -- its pre-consume record would have a usage record
      obtain rfl : record.requestId = requestId := key_of_get? hpre
      obtain ⟨usage, husage, -⟩ :=
        h.usage_of_preConsume record (mem_of_get? hpre) (howner record hpre).2
      rw [hnone] at husage
      cases husage
  · exact .inr ⟨old, hold, rfl⟩

lemma keeps_reserve {targetQuota : Int}
    (hok : reserveValuePackageUsageToTarget db now requestId userId userSubscriptionId targetQuota =
      .ok (result, db')) : ∃ sub', Keeps db sub db' sub' := by
  obtain ⟨htarget, opened, plan, db₁, request, hopen, hfind, hwrite⟩ :=
    reserveUsage_ok hok
  rcases keeps_open h hopen with ⟨hid, hopened⟩ | ⟨hne, hkey, hopened⟩
  · rw [hid, ← hopened.id_eq] at hfind
    have hrequest := findReservedRequest_linked hopened.linked hfind
    have hepoch : request.requestEpoch ≤ opened.quotaEpoch := by
      obtain ⟨-, rfl⟩ | ⟨old, hold, rfl⟩ := hrequest
      · exact le_rfl
      · exact hopened.linked.epoch_le old (mem_of_get? hold)
          (congrArg Prod.fst (key_of_get? hold))
    have hfits := fits_upsertedUsage hopened.linked requestId userId now htarget hepoch
    have hsum : epochUsage (db₁.saveUsage (upsertedUsage db₁
          (newUsageRecord opened requestId userId targetQuota request.requestEpoch now))) opened =
        epochUsage db₁ opened + if request.requestEpoch = opened.quotaEpoch then
          targetQuota - request.currentQuota else 0 := by
      obtain ⟨hnone, rfl⟩ | ⟨old, hold, rfl⟩ := hrequest
      · simpa using epochUsage_upsert_of_none userId targetQuota opened.quotaEpoch now hnone
      · exact epochUsage_upsert_of_some userId targetQuota old.quotaEpoch now hold
    obtain ⟨-, rfl⟩ | ⟨-, ⟨hstale, rfl⟩ | ⟨hcurrent, -, rfl⟩⟩ := hwrite
    · exact ⟨opened, hopened⟩
    · rw [if_neg (Ne.symm hstale), add_zero] at hsum
      exact ⟨opened, hopened.trans (Keeps.saveUsage hopened.linked hfits hsum)⟩
    · rw [if_pos hcurrent.symm] at hsum
      exact ⟨_, hopened.trans (Keeps.charge hopened.linked _ hfits hsum rfl rfl rfl max_eq_right)⟩
  · have husage : (upsertedUsage db₁ (newUsageRecord opened requestId userId targetQuota
        request.requestEpoch now)).userSubscriptionId ≠ sub.id := by
      simpa [hkey] using hne
    obtain ⟨-, rfl⟩ | ⟨-, ⟨-, rfl⟩ | ⟨-, -, rfl⟩⟩ := hwrite
    · exact ⟨sub, hopened⟩
    · exact ⟨sub, hopened.trans (Keeps.saveUsage_other hopened.linked husage)⟩
    · exact ⟨sub, hopened.trans (keeps_charge_other hopened.linked _
        (chargeUsed opened (targetQuota - request.currentQuota)) husage (hkey ▸ hne))⟩

lemma fits_revoked (husage : db.usageRecords.get? (sub.id, requestId) = some usage) :
    Fits db sub usage.revoked := by
  intro howner
  refine ⟨le_rfl, h.epoch_le usage (mem_of_get? husage) howner, fun old hold => ?_⟩
  rw [usage.key_revoked, key_of_get? husage, husage] at hold
  cases hold
  rfl

end

lemma epochUsage_revoked (husage : db.usageRecords.get? (sub.id, requestId) = some usage) :
    epochUsage (db.saveUsage usage.revoked) sub =
      epochUsage db sub - if usage.quotaEpoch = sub.quotaEpoch then usage.quota else 0 := by
  have hkey : usage.key = (sub.id, requestId) := key_of_get? husage
  have howner : usage.userSubscriptionId = sub.id := congrArg Prod.fst hkey
  rw [epochUsage_saveUsage, usage.key_revoked, hkey, husage]
  simp [epochQuota, howner]

section

variable (h : Linked db sub)

include h

/-- Revoking a reservation of the package keeps the links; it keeps the balance if the record it
empties is empty already or of another epoch. -/
lemma linked_revoke (requestId : String) :
    Linked (revokeValuePackageUsageReservationTx db sub.id requestId) sub ∧
      ((∀ usage, db.usageRecords.get? (sub.id, requestId) = some usage →
          usage.quotaEpoch = sub.quotaEpoch → usage.quota = 0) →
        Keeps db sub (revokeValuePackageUsageReservationTx db sub.id requestId) sub) := by
  obtain heq | ⟨usage, husage, heq⟩ :=
    revokeUsage_eq db sub.id requestId
  · rw [heq]
    exact ⟨h, fun _ => Keeps.refl h⟩
  · rw [heq]
    have hfits := fits_revoked h husage
    refine ⟨h.saveUsage hfits, fun hempty => Keeps.saveUsage h hfits ?_⟩
    rw [epochUsage_revoked husage]
    split_ifs with hepoch
    · rw [hempty usage husage hepoch, sub_zero]
    · exact sub_zero _

/-- Revoking another subscription's reservation does not matter. -/
lemma keeps_revoke_other {owner : Int} (hne : owner ≠ sub.id) (requestId : String) :
    Keeps db sub (revokeValuePackageUsageReservationTx db owner requestId) sub := by
  obtain heq | ⟨usage, husage, heq⟩ := revokeUsage_eq db owner requestId
  · rw [heq]
    exact Keeps.refl h
  · have howner : usage.userSubscriptionId = owner := congrArg Prod.fst (key_of_get? husage)
    rw [heq]
    exact Keeps.saveUsage_other h (howner ▸ hne)

lemma keeps_first_refund (now : Int) {db₁ : DB}
    (hrecord : db.preConsumeRecords.get? requestId = some record) (hblank : ¬isBlank requestId)
    (howner : record.userSubscriptionId = sub.id) (hpackage : plan.isValuePackage = true)
    (hrefund : refundSubscription db record sub plan = .ok db₁) :
    ∃ sub', Keeps db sub ((revokeValuePackageUsageReservationTx db₁ sub.id
      requestId).savePreConsume (markRefunded record now)) sub' := by
  obtain rfl : record.requestId = requestId := key_of_get? hrecord
  obtain ⟨usage, husage, hsame⟩ :=
    h.usage_of_preConsume record (mem_of_get? hrecord) howner
  have hfits := fits_revoked h husage
  have hkey : usage.key = (sub.id, record.requestId) := key_of_get? husage
  obtain ⟨hepoch, hcases⟩ := refundSubscription_of_usage hpackage (howner ▸ husage) hrefund
  have hsum := epochUsage_revoked husage
  -- the marked record still has its usage record, now empty
  have hmark : ∀ {db' sub'}, db'.usageRecords = db.usageRecords.put usage.revoked →
      Keeps db sub db' sub' → Keeps db sub (db'.savePreConsume (markRefunded record now)) sub' := by
    intro db' sub' hrows hkept
    refine hkept.trans (Keeps.savePreConsume hkept.linked _ fun _ => ⟨usage.revoked, ?_, hepoch⟩)
    rw [hrows, hkept.id_eq]
    exact get?_eq_some_iff.mpr ⟨mem_put.mpr (.inl rfl), hkey⟩
  obtain ⟨hcurrent, hpos, rfl⟩ | ⟨hstale, rfl⟩ := hcases
  · rw [if_pos (hepoch.trans hcurrent.symm)] at hsum
    have husage₁ : (db.saveSubscription (chargeUsed sub (-usage.quota))).usageRecords.get?
        (sub.id, record.requestId) = some usage := husage
    rw [revokeUsage_of_some h.id_pos hblank husage₁]
    exact ⟨_, hmark rfl (Keeps.charge h (chargeUsed sub (-usage.quota)) hfits hsum rfl rfl rfl
      max_eq_right)⟩
  · rw [revokeUsage_of_some h.id_pos hblank husage]
    refine ⟨sub, hmark rfl (Keeps.saveUsage h hfits ?_)⟩
    have hnonneg := h.quota_nonneg usage (mem_of_get? husage)
      (congrArg Prod.fst (key_of_get? husage))
    rw [hsum]
    split_ifs with hnow
    · have : ¬0 < usage.quota := fun hpos => hstale ⟨hnow.symm.trans hepoch, hpos⟩
      omega
    · exact sub_zero _

/-- A refund keeps the links. It keeps the balance unless it is the second refund of a request
that has been reserved again in the current epoch. -/
lemma linked_refund {u : Unit}
    (hok : refundSubscriptionPreConsume db now requestId = .ok (u, db')) :
    ∃ sub', sub'.id = sub.id ∧ Linked db' sub' ∧
      ((∀ record usage, db.preConsumeRecords.get? requestId = some record →
          record.status = .refunded → record.userSubscriptionId = sub.id →
          db.usageRecords.get? (sub.id, requestId) = some usage →
          usage.quotaEpoch = sub.quotaEpoch → usage.quota = 0) →
        Keeps db sub db' sub') := by
  obtain ⟨hblank, record, hrecord, ⟨hstatus, rfl⟩ | ⟨-, owner, plan, db₁, hget, hplan, hrefund,
    rfl⟩⟩ := refundPreConsume_ok hok
  · by_cases howner : record.userSubscriptionId = sub.id
    · rw [howner]
      obtain ⟨hlinked, hkeeps⟩ := linked_revoke h requestId
      exact ⟨sub, rfl, hlinked, fun hcond =>
        hkeeps fun usage => hcond record usage hrecord hstatus howner⟩
    · have hkeeps := keeps_revoke_other h howner requestId
      exact ⟨sub, rfl, hkeeps.linked, fun _ => hkeeps⟩
  · by_cases howner : record.userSubscriptionId = sub.id
    · obtain rfl := h.eq_of_get? howner hget
      rw [howner]
      obtain ⟨sub', hkeeps⟩ := keeps_first_refund h now hrecord hblank howner
        (h.isValuePackage_of_plan hplan) hrefund
      exact ⟨sub', hkeeps.id_eq, hkeeps.linked, fun _ => hkeeps⟩
    · have hid : owner.id = record.userSubscriptionId := key_of_get? hget
      have hcharged : Keeps db sub db₁ sub := by
        obtain rfl | ⟨delta, -, rfl⟩ := refundSubscription_ok hrefund
        · exact Keeps.refl h
        · exact Keeps.saveSubscription_other h (chargeUsed owner delta) (hid ▸ howner)
      have hrevoked := hcharged.trans (keeps_revoke_other hcharged.linked howner requestId)
      have hkeeps := hrevoked.trans (Keeps.savePreConsume hrevoked.linked
        (markRefunded record now) fun heq => absurd heq howner)
      exact ⟨sub, rfl, hkeeps.linked, fun _ => hkeeps⟩

lemma keeps_consumeResetCount {dbNow resetAt : Int} {state : ValuePackageState}
    (hok : consumeValuePackageResetCount db dbNow userId userSubscriptionId resetAt =
      .ok (state, db')) : ∃ sub', Keeps db sub db' sub' := by
  obtain ⟨_, active, plan, -, -, -, hget, -, -, -, -, -, -, -, rfl⟩ :=
    consumeResetCount_inv hok
  have hwrite : ∃ sub', Keeps db sub (db.saveSubscription (resetCardSubscription active)) sub' := by
    by_cases hown : active.id = sub.id
    · obtain rfl := h.eq_of_get? hown hget
      exact ⟨_, Keeps.saveSubscription h rfl rfl (.inr ⟨Int.lt_succ sub.quotaEpoch, rfl⟩)⟩
    · exact ⟨sub, Keeps.saveSubscription_other h _ hown⟩
  obtain ⟨sub', hsaved⟩ := hwrite
  exact ⟨sub', hsaved.trans (Keeps.congr hsaved.linked rfl rfl rfl rfl)⟩

lemma keeps_extend {subscriptionId nowUnix purchasedEndUnix : Int} {result : UserSubscription}
    (hok : extendValuePackageSubscriptionTx env db subscriptionId plan nowUnix purchasedEndUnix =
      .ok (result, db')) : ∃ sub', Keeps db sub db' sub' := by
  obtain ⟨-, -, -, existing, advanced, db₁, _, hget, -, hadvance, -, hwrite⟩ :=
    extendPackage_inv hok
  have hid : existing.id = subscriptionId := key_of_get? hget
  by_cases hown : subscriptionId = sub.id
  · obtain rfl := h.eq_of_get? hown hget
    have hadvanced := keeps_advance h hadvance
    obtain ⟨-, -, rfl, rfl⟩ | ⟨-, rfl, rfl⟩ := hwrite
    · have hcreated : Keeps db₁ advanced (db₁.createQuotaReset (renewalReset advanced nowUnix))
          advanced := Keeps.congr hadvanced.linked rfl rfl rfl rfl
      exact ⟨_, (hadvanced.trans hcreated).trans (Keeps.saveSubscription hcreated.linked rfl rfl
        (.inr ⟨Int.lt_succ advanced.quotaEpoch, rfl⟩))⟩
    · obtain ⟨last, next, heq⟩ := extendedSubscription_eq advanced plan nowUnix _
      rw [heq]
      exact ⟨_, hadvanced.trans (Keeps.saveSubscription hadvanced.linked rfl rfl
        (.inl ⟨rfl, rfl⟩))⟩
  · have hadvanced := keeps_advance_other h (hid ▸ hown) hadvance
    have hkey : advanced.id = subscriptionId := by
      have := maybeAdvance_get? hadvance (hid ▸ hget)
      exact (key_of_get? this).trans hid
    obtain ⟨-, -, rfl, rfl⟩ | ⟨-, rfl, rfl⟩ := hwrite
    · have hcreated : Keeps db₁ sub (db₁.createQuotaReset (renewalReset advanced nowUnix)) sub :=
        Keeps.congr hadvanced.linked rfl rfl rfl rfl
      exact ⟨sub, (hadvanced.trans hcreated).trans
        (Keeps.saveSubscription_other hcreated.linked _ (hkey ▸ hown))⟩
    · obtain ⟨last, next, heq⟩ := extendedSubscription_eq advanced plan nowUnix _
      rw [heq]
      exact ⟨sub, hadvanced.trans
        (Keeps.saveSubscription_other hadvanced.linked _ (hkey ▸ hown))⟩

lemma keeps_resetDue (env : Env) (now limit : Int) :
    ∃ sub', Keeps db sub (resetDueSubscriptions env db now limit) sub' := by
  refine resetDue_induction (fun db' => ∃ sub', Keeps db sub db' sub') ?_ ?_
    limit ⟨sub, Keeps.refl h⟩
  · rintro db₁ due plan due' db₂ ⟨sub₁, hkept⟩ hget - - hadvance
    by_cases hown : due.id = sub₁.id
    · obtain rfl := hkept.linked.eq_of_get? hown hget
      exact ⟨due', hkept.trans (keeps_advance hkept.linked hadvance)⟩
    · exact ⟨sub₁, hkept.trans (keeps_advance_other hkept.linked hown hadvance)⟩
  · rintro db₁ due plan due' db₂ ⟨sub₁, hkept⟩ hget - hplan hregular hreset
    have hown : due.id ≠ sub₁.id := by
      intro hown
      obtain rfl := hkept.linked.eq_of_get? hown hget
      rw [hkept.linked.isValuePackage_of_plan hplan] at hregular
      cases hregular
    obtain ⟨rfl, -⟩ | ⟨used, last, next, rfl, -, rfl⟩ :=
      maybeReset_ok hreset
    · exact ⟨sub₁, hkept⟩
    · exact ⟨sub₁, hkept.trans (Keeps.saveSubscription_other hkept.linked _ hown)⟩

lemma keeps_cleanup (now olderThanSeconds : Int) :
    Keeps db sub (cleanupSubscriptionPreConsumeRecords db now olderThanSeconds) sub := by
  refine ⟨rfl, ⟨h.id_pos, h.stored, h.package, h.quota_nonneg, h.epoch_le, ?_⟩, id⟩
  intro record hrecord
  exact h.usage_of_preConsume record (List.mem_of_mem_filter hrecord)

end

end Transactions

/-! ## What a run keeps -/

/-- A pre-consume of a request without a pre-consume record meets no usage record of it. This fails
only for an id that is used again after its pre-consume record was cleaned up, or that was reserved
before any pre-consume was accepted. -/
def NoReusedRequest (sid : Int) (db : DB) : PackageOp → Prop
  | .preConsume _ requestId _ userSubscriptionId _ =>
    userSubscriptionId = sid → db.preConsumeRecords.get? requestId = none →
      db.usageRecords.get? (sid, requestId) = none
  | _ => True

/-- A request that has been refunded is refunded again only if it uses nothing of the current
epoch. -/
def NoRefundOfReReserved (sid : Int) (db : DB) : PackageOp → Prop
  | .refund _ requestId =>
    ∀ record ∈ db.preConsumeRecords.get? requestId, ∀ sub ∈ db.subscriptions.get? sid,
      ∀ usage ∈ db.usageRecords.get? (sid, requestId),
        record.status = .refunded → record.userSubscriptionId = sid →
          usage.quotaEpoch = sub.quotaEpoch → usage.quota = 0
  | _ => True

instance (sid : Int) (db : DB) (op : PackageOp) : Decidable (NoReusedRequest sid db op) := by
  cases op <;> unfold NoReusedRequest <;> infer_instance

instance (sid : Int) (db : DB) (op : PackageOp) : Decidable (NoRefundOfReReserved sid db op) := by
  cases op <;> unfold NoRefundOfReReserved <;> infer_instance

lemma packageStep_keeps (h : Linked db sub) {op : PackageOp}
    (hreuse : NoReusedRequest sub.id db op) :
    ∃ sub', sub'.id = sub.id ∧ Linked (packageStep env db op) sub' ∧
      (NoRefundOfReReserved sub.id db op → Keeps db sub (packageStep env db op) sub') := by
  have hcommit {α : Type} {x : Except TxError (α × DB)}
      (hx : ∀ a db', x = .ok (a, db') → ∃ sub', Keeps db sub db' sub') :
      ∃ sub', sub'.id = sub.id ∧ Linked (commit db x) sub' ∧
        (True → Keeps db sub (commit db x) sub') := by
    obtain ⟨sub', hkeeps⟩ := commit_induction (fun db' => ∃ sub', Keeps db sub db' sub')
      ⟨sub, Keeps.refl h⟩ hx
    exact ⟨sub', hkeeps.id_eq, hkeeps.linked, fun _ => hkeeps⟩
  cases op with
  | preConsume now requestId userId userSubscriptionId amount =>
    exact hcommit fun _ _ => keeps_preConsume h hreuse
  | reserve now requestId userId userSubscriptionId targetQuota =>
    exact hcommit fun _ _ => keeps_reserve h
  | refund now requestId =>
    cases hx : refundSubscriptionPreConsume db now requestId with
    | error e =>
      simp only [packageStep, hx, commit_error]
      exact ⟨sub, rfl, h, fun _ => Keeps.refl h⟩
    | ok r =>
      obtain ⟨u, db'⟩ := r
      simp only [packageStep, hx, commit_ok]
      obtain ⟨sub', hid, hlinked, hkeeps⟩ := linked_refund h hx
      refine ⟨sub', hid, hlinked, fun hcond => hkeeps ?_⟩
      intro record usage hrecord hstatus howner husage
      exact hcond record hrecord sub h.stored usage husage hstatus howner
  | consumeResetCount dbNow userId userSubscriptionId resetAt =>
    exact hcommit fun _ _ => keeps_consumeResetCount h
  | extend subscriptionId plan nowUnix purchasedEndUnix =>
    exact hcommit fun _ _ => keeps_extend h
  | resetDue now limit =>
    obtain ⟨sub', hkeeps⟩ := keeps_resetDue h env now limit
    exact ⟨sub', hkeeps.id_eq, hkeeps.linked, fun _ => hkeeps⟩
  | cleanup now olderThanSeconds =>
    have hkeeps := keeps_cleanup h now olderThanSeconds
    exact ⟨sub, rfl, hkeeps.linked, fun _ => hkeeps⟩

/-- A value package that has just been bought: nothing used and no records. -/
structure FreshPackage (db : DB) (sid : Int) : Prop where
  id_pos : 0 < sid
  package : ∃ sub plan, db.subscriptions.get? sid = some sub ∧ sub.amountUsed = 0 ∧
    getSubscriptionPlanByIdTx db sub.planId = .ok plan ∧ plan.isValuePackage = true
  no_usage : ∀ usage ∈ db.usageRecords.rows, usage.userSubscriptionId ≠ sid
  no_preConsume : ∀ record ∈ db.preConsumeRecords.rows, record.userSubscriptionId ≠ sid

lemma FreshPackage.linked (h : FreshPackage db sid) :
    ∃ sub, sub.id = sid ∧ Linked db sub ∧ Balanced db sub := by
  obtain ⟨sub, plan, hget, hused, hplan, hpackage⟩ := h.package
  have hid : sub.id = sid := key_of_get? hget
  subst hid
  refine ⟨sub, rfl, ⟨h.id_pos, hget, ⟨plan, hplan, hpackage⟩, ?_, ?_, ?_⟩, ?_⟩
  · exact fun usage husage howner => absurd howner (h.no_usage usage husage)
  · exact fun usage husage howner => absurd howner (h.no_usage usage husage)
  · exact fun record hrecord howner => absurd howner (h.no_preConsume record hrecord)
  · refine hused.trans (List.sum_eq_zero fun x hx => ?_).symm
    obtain ⟨row, hrow, rfl⟩ := List.mem_map.mp hx
    exact if_neg fun hcond => h.no_usage row hrow hcond.1

lemma linked_of_run (hfresh : FreshPackage db sid)
    (hops : Along (packageStep env) (NoReusedRequest sid) db ops) :
    ∃ sub, sub.id = sid ∧ Linked (exec (packageStep env) db ops) sub := by
  obtain ⟨sub, hid, hlinked, -⟩ := hfresh.linked
  refine exec_induction (fun db => ∃ sub, sub.id = sid ∧ Linked db sub) ?_
    ⟨sub, hid, hlinked⟩ hops
  rintro db op ⟨sub, rfl, hlinked⟩ hreuse
  obtain ⟨sub', hid, hlinked', -⟩ := packageStep_keeps hlinked hreuse
  exact ⟨sub', hid, hlinked'⟩

/-- If besides no refunded request that has been reserved again in the current epoch is refunded
once more, the package stays balanced. -/
lemma balanced_of_run (hfresh : FreshPackage db sid)
    (hops : Along (packageStep env)
      (fun db op => NoReusedRequest sid db op ∧ NoRefundOfReReserved sid db op) db ops) :
    ∃ sub, sub.id = sid ∧ Linked (exec (packageStep env) db ops) sub ∧
      Balanced (exec (packageStep env) db ops) sub := by
  refine exec_induction
    (fun db => ∃ sub, sub.id = sid ∧ Linked db sub ∧ Balanced db sub) ?_ hfresh.linked hops
  rintro db op ⟨sub, rfl, hlinked, hbalanced⟩ ⟨hreuse, hrefund⟩
  obtain ⟨sub', hid, hlinked', hkeeps⟩ := packageStep_keeps hlinked hreuse
  exact ⟨sub', hid, hlinked', (hkeeps hrefund).balanced hbalanced⟩

/-- In every run in which no request id is reused, and no refunded request that was reserved again
in the current epoch is refunded once more, the total of the package equals the sum of its usage
records of the current epoch. -/
theorem amountUsed_eq_epochUsage {env : Env} {db : DB} {sid : Int} (hfresh : FreshPackage db sid)
    (ops : List PackageOp)
    (hops : Along (packageStep env)
      (fun db op => NoReusedRequest sid db op ∧ NoRefundOfReReserved sid db op) db ops) :
    ∃ sub, (exec (packageStep env) db ops).subscriptions.get? sid = some sub ∧
      sub.amountUsed = epochUsage (exec (packageStep env) db ops) sub := by
  obtain ⟨sub, rfl, hlinked, hbalanced⟩ := balanced_of_run hfresh hops
  exact ⟨sub, hlinked.stored, hbalanced⟩

/-! ## A run that loses the balance -/

def sampleEnv : Env := ⟨.fixedOffset 0, 5000, 10⟩

/-- A month package with a 5h limit of 100 and a 7d limit of 500. -/
def samplePlan : SubscriptionPlan := ⟨1, .valuePackage, .month, 100, 500, 1000, .never, 0⟩

/-- A package bought at time 1000, with one reset card to spend. -/
def sampleSubscription : UserSubscription :=
  ⟨1, 1, 1, 1000, 0, 0, 1000, 10000000, .active, 1000, 2593000, 1000⟩

def sampleDB : DB where
  plans := Table.empty.put samplePlan
  subscriptions := Table.empty.put sampleSubscription
  preConsumeRecords := Table.empty
  usageRecords := Table.empty
  quotaResets := []
  preferences := Table.empty.put ⟨1, true, 1, 1⟩
  resetCountLedger := []

lemma freshPackage_sampleDB : FreshPackage sampleDB 1 where
  id_pos := by decide
  package := ⟨sampleSubscription, samplePlan, by decide, rfl, by decide, by decide⟩
  no_usage := nofun
  no_preConsume := nofun

/-- A request that is pre-consumed, raised and refunded, with a reset card in between. -/
def lateRefundRun : List PackageOp :=
  [.preConsume 2000 "r1" 1 1 10, .reserve 2001 "r1" 1 1 25, .preConsume 2002 "r2" 1 1 5,
    .consumeResetCount 2003 1 1 0, .refund 2004 "r1", .reserve 2005 "r2" 1 1 8,
    .preConsume 2006 "r3" 1 1 7, .refund 2007 "r1"]

theorem lateRefundRun_balanced :
    ∃ sub, (exec (packageStep sampleEnv) sampleDB lateRefundRun).subscriptions.get? 1 =
        some sub ∧
      sub.amountUsed = epochUsage (exec (packageStep sampleEnv) sampleDB lateRefundRun) sub :=
  amountUsed_eq_epochUsage freshPackage_sampleDB lateRefundRun (by decide)

/-- The clock reading of a call. -/
def PackageOp.clock : PackageOp → Int
  | .preConsume now .. | .reserve now .. | .refund now .. | .consumeResetCount now ..
  | .extend _ _ now .. | .resetDue now .. | .cleanup now .. => now

/-- The request a call is about. -/
def PackageOp.request? : PackageOp → Option String
  | .preConsume _ requestId .. | .reserve _ requestId .. | .refund _ requestId => some requestId
  | _ => none

def PackageOp.isPreConsume : PackageOp → Bool
  | .preConsume .. => true
  | _ => false

def PackageOp.isCleanup : PackageOp → Bool
  | .cleanup .. => true
  | _ => false

/-- The first call about each request is its pre-consume. -/
def StartsWithPreConsume (ops : List PackageOp) : Prop :=
  ∀ op ∈ ops, ∀ requestId ∈ op.request?,
    ∀ first ∈ ops.find? (fun op => op.request? = some requestId), first.isPreConsume

/-- A request that is refunded, reserved again and refunded once more. -/
def reReservedRun : List PackageOp :=
  [.preConsume 2000 "r1" 1 1 10, .refund 2001 "r1", .reserve 2002 "r1" 1 1 7, .refund 2003 "r1"]

/-- The second refund empties the usage record but leaves the total, so seven units stay charged
that no record accounts for. -/
theorem reReservedRun_unbalanced :
    FreshPackage sampleDB 1 ∧ StartsWithPreConsume reReservedRun ∧
      (reReservedRun.map PackageOp.clock).Pairwise (· ≤ ·) ∧
      (∀ op ∈ reReservedRun, ¬op.isCleanup) ∧
      ∃ sub, (exec (packageStep sampleEnv) sampleDB reReservedRun).subscriptions.get? 1 =
          some sub ∧
        sub.amountUsed = 7 ∧
        epochUsage (exec (packageStep sampleEnv) sampleDB reReservedRun) sub = 0 :=
  ⟨freshPackage_sampleDB, by unfold StartsWithPreConsume; decide, by decide, by decide,
    { sampleSubscription with amountUsed := 7 }, by decide, rfl, by decide⟩

end Yunbay
