import Yunbay.Subscription.Ledger

/-!
# Late settlement

A request belongs to the quota epoch in which it was pre-consumed. When the package has moved on
to a later epoch, a reserve or refund of the request must not touch the books of the new one.

`late_settlement_isolated`: this holds in every run in which no id is pre-consumed again after its
record was cleaned up, except that a reserve renews a cycle that is due, like every other.
-/

namespace Yunbay

open Except Run Table

/-! ## The records of a request carry its epoch -/

/-- The usage record of the request is of epoch `epoch`, and its pre-consume record, if it has
not been cleaned up, belongs to the package. -/
structure Carries (db : DB) (sid : Int) (requestId : String) (epoch : Int) : Prop where
  usage : ∃ usage, db.usageRecords.get? (sid, requestId) = some usage ∧ usage.quotaEpoch = epoch
  owner : ∀ record, db.preConsumeRecords.get? requestId = some record →
    record.userSubscriptionId = sid

/-- No request that has a usage record on the package is pre-consumed once its pre-consume record
is gone. -/
def NoReusedId (sid : Int) (db : DB) : PackageOp → Prop
  | .preConsume _ requestId _ _ _ =>
    db.preConsumeRecords.get? requestId = none → db.usageRecords.get? (sid, requestId) = none
  | _ => True

instance (sid : Int) (db : DB) (op : PackageOp) : Decidable (NoReusedId sid db op) := by
  induction op using PackageOp.casesOn <;> unfold NoReusedId <;> infer_instance

lemma NoReusedId.noReusedRequest {sid : Int} {db : DB} {op : PackageOp}
    (h : NoReusedId sid db op) : NoReusedRequest sid db op := by
  cases op with
  | preConsume => exact fun _ => h
  | _ => trivial

/-- A usage record that is written over another keeps its epoch. -/
def KeepsEpoch (db : DB) (usage : ValuePackageUsageRecord) : Prop :=
  ∀ old, db.usageRecords.get? usage.key = some old → usage.quotaEpoch = old.quotaEpoch

lemma keepsEpoch_upsertedUsage (db : DB) (record : ValuePackageUsageRecord) :
    KeepsEpoch db (upsertedUsage db record) := by
  intro old hold
  rw [upsertedUsage_key] at hold
  rw [upsertedUsage_of_some hold]

variable {usage : ValuePackageUsageRecord}

lemma keepsEpoch_revoked {db : DB} {k : Int × String}
    (husage : db.usageRecords.get? k = some usage) : KeepsEpoch db usage.revoked := by
  intro old hold
  rw [usage.key_revoked, key_of_get? husage, husage] at hold
  cases hold
  rfl

section Carries

variable {env : Env} {db db' : DB} {sid : Int} {requestId : String} {epoch : Int}

section

variable (h : Carries db sid requestId epoch)

include h

lemma Carries.saveUsage (hkeep : KeepsEpoch db usage) :
    Carries (db.saveUsage usage) sid requestId epoch where
  usage := by
    obtain ⟨old, hold, hepoch⟩ := h.usage
    rw [DB.saveUsage_usageRecords, get?_put]
    split_ifs with hkey
    · exact ⟨usage, rfl, (hkeep old (hkey ▸ hold)).trans hepoch⟩
    · exact ⟨old, hold, hepoch⟩
  owner := h.owner

lemma Carries.savePreConsume (record : SubscriptionPreConsumeRecord)
    (howner : record.requestId = requestId → record.userSubscriptionId = sid) :
    Carries (db.savePreConsume record) sid requestId epoch where
  usage := h.usage
  owner := by
    intro row hrow
    rw [DB.savePreConsume_preConsumeRecords, get?_put] at hrow
    split_ifs at hrow with hkey
    · cases hrow
      exact howner hkey
    · exact h.owner row hrow

lemma Carries.congr (husage : db'.usageRecords = db.usageRecords)
    (hpre : db'.preConsumeRecords = db.preConsumeRecords) : Carries db' sid requestId epoch :=
  ⟨husage ▸ h.usage, hpre ▸ h.owner⟩

lemma carries_revoke (owner : Int) (other : String) :
    Carries (revokeValuePackageUsageReservationTx db owner other) sid requestId epoch := by
  obtain heq | ⟨usage, husage, heq⟩ := revokeUsage_eq db owner other
  · rwa [heq]
  · rw [heq]
    exact h.saveUsage (keepsEpoch_revoked husage)

end

variable {now userSubscriptionId : Int} {other : String} {result : SubscriptionPreConsumeResult}

section

variable (h : Carries db sid requestId epoch)

include h

lemma carries_preConsume {userId amount : Int}
    (hreuse : db.preConsumeRecords.get? other = none → db.usageRecords.get? (sid, other) = none)
    (hok : preConsumeValuePackageSubscription db now other userId userSubscriptionId amount =
      .ok (result, db')) : Carries db' sid requestId epoch := by
  obtain ⟨rfl, -⟩ | ⟨hnone, -, opened, plan, db₁, hopen, -, rfl, -⟩ :=
    preConsumePackage_ok hok
  · exact h
  obtain ⟨-, husage₁, hpre₁, -⟩ := openValuePackageTx_frame hopen
  have hcarried := (h.congr husage₁ hpre₁).saveUsage
    (keepsEpoch_upsertedUsage db₁ (newUsageRecord opened other userId amount opened.quotaEpoch now))
  refine (hcarried.savePreConsume (newPreConsumeRecord opened other userId amount now)
    fun hkey => ?_).congr rfl rfl
  -- the request itself has a usage record, so it cannot be the one pre-consumed now
  obtain rfl : other = requestId := hkey
  obtain ⟨usage, husage, -⟩ := h.usage
  rw [hreuse hnone] at husage
  cases husage

lemma carries_reserve {userId targetQuota : Int}
    (hok : reserveValuePackageUsageToTarget db now other userId userSubscriptionId targetQuota =
      .ok (result, db')) : Carries db' sid requestId epoch := by
  obtain ⟨-, opened, plan, db₁, request, hopen, -, hwrite⟩ :=
    reserveUsage_ok hok
  obtain ⟨-, husage₁, hpre₁, -⟩ := openValuePackageTx_frame hopen
  have hopened := h.congr husage₁ hpre₁
  obtain ⟨-, rfl⟩ | ⟨-, ⟨-, rfl⟩ | ⟨-, -, rfl⟩⟩ := hwrite
  · exact hopened
  · exact hopened.saveUsage (keepsEpoch_upsertedUsage _ _)
  · exact (hopened.saveUsage (keepsEpoch_upsertedUsage _ _)).congr rfl rfl

lemma carries_refund {u : Unit} (hok : refundSubscriptionPreConsume db now other = .ok (u, db')) :
    Carries db' sid requestId epoch := by
  obtain ⟨-, record, hrecord, ⟨-, rfl⟩ | ⟨-, owner, plan, db₁, -, -, hrefund, rfl⟩⟩ :=
    refundPreConsume_ok hok
  · exact carries_revoke h _ _
  · have hcharged : Carries db₁ sid requestId epoch := by
      obtain rfl | ⟨delta, -, rfl⟩ := refundSubscription_ok hrefund
      · exact h
      · exact h.congr rfl rfl
    refine (carries_revoke hcharged _ _).savePreConsume _ fun hkey => ?_
    have hid : record.requestId = other := key_of_get? hrecord
    exact h.owner record (by rw [← hkey, markRefunded, hid]; exact hrecord)

end

lemma resetDue_frame (env : Env) (db : DB) (now limit : Int) :
    (resetDueSubscriptions env db now limit).usageRecords = db.usageRecords ∧
      (resetDueSubscriptions env db now limit).preConsumeRecords = db.preConsumeRecords := by
  refine resetDue_induction (fun db' => db'.usageRecords = db.usageRecords ∧
    db'.preConsumeRecords = db.preConsumeRecords) ?_ ?_ limit ⟨rfl, rfl⟩
  · rintro db₁ sub plan sub' db₂ ⟨husage, hpre⟩ - - - hadvance
    obtain ⟨-, husage₂, hpre₂⟩ := maybeAdvance_frame hadvance
    exact ⟨husage₂.trans husage, hpre₂.trans hpre⟩
  · rintro db₁ sub plan sub' db₂ ⟨husage, hpre⟩ - - - - hreset
    obtain ⟨rfl, -⟩ | ⟨used, last, next, -, -, rfl⟩ :=
      maybeReset_ok hreset
    · exact ⟨husage, hpre⟩
    · exact ⟨husage, hpre⟩

lemma extendPackage_frame {subscriptionId : Int} {plan : SubscriptionPlan}
    {nowUnix purchasedEndUnix : Int} {result : UserSubscription}
    (hok : extendValuePackageSubscriptionTx env db subscriptionId plan nowUnix purchasedEndUnix =
      .ok (result, db')) :
    db'.usageRecords = db.usageRecords ∧ db'.preConsumeRecords = db.preConsumeRecords := by
  obtain ⟨-, -, -, existing, sub, db₁, _, -, -, hadvance, -, hwrite⟩ :=
    extendPackage_inv hok
  obtain ⟨-, husage, hpre⟩ := maybeAdvance_frame hadvance
  obtain ⟨-, -, -, rfl⟩ | ⟨-, -, rfl⟩ := hwrite
  · exact ⟨husage, hpre⟩
  · exact ⟨husage, hpre⟩

theorem carries_packageStep (h : Carries db sid requestId epoch) {op : PackageOp}
    (hreuse : NoReusedId sid db op) : Carries (packageStep env db op) sid requestId epoch := by
  have hcommit {α : Type} {x : Except TxError (α × DB)}
      (hx : ∀ a db', x = .ok (a, db') → Carries db' sid requestId epoch) :
      Carries (commit db x) sid requestId epoch :=
    commit_induction (Carries · sid requestId epoch) h hx
  cases op with
  | preConsume now other userId userSubscriptionId amount =>
    exact hcommit fun _ _ => carries_preConsume h hreuse
  | reserve now other userId userSubscriptionId targetQuota =>
    exact hcommit fun _ _ => carries_reserve h
  | refund now other => exact hcommit fun _ _ => carries_refund h
  | consumeResetCount dbNow userId userSubscriptionId resetAt =>
    refine hcommit fun _ _ hok => ?_
    obtain ⟨_, _, _, -, -, -, -, -, -, -, -, -, -, -, rfl⟩ := consumeResetCount_inv hok
    exact h.congr rfl rfl
  | extend subscriptionId plan nowUnix purchasedEndUnix =>
    refine hcommit fun _ _ hok => ?_
    obtain ⟨husage, hpre⟩ := extendPackage_frame hok
    exact h.congr husage hpre
  | resetDue now limit =>
    obtain ⟨husage, hpre⟩ := resetDue_frame env db now limit
    exact h.congr husage hpre
  | cleanup now olderThanSeconds =>
    exact ⟨h.usage, fun record hrecord => h.owner record (get?_filter_eq_some.mp hrecord).1⟩

end Carries

/-! ## What late calls leave alone -/

/-- Late calls for a request of epoch `epoch` leave the total quota and the usage records of all
other epochs as they were, and the used amount, too, unless the package was `renewed` on the way. -/
structure Isolated (epoch : Int) (renewed : Prop) (db : DB) (sub : UserSubscription) (db' : DB)
    (sub' : UserSubscription) : Prop where
  id_eq : sub'.id = sub.id
  amountTotal_eq : sub'.amountTotal = sub.amountTotal
  amountUsed : sub'.quotaEpoch = sub.quotaEpoch ∧ sub'.amountUsed = sub.amountUsed ∨
    renewed ∧ sub.quotaEpoch < sub'.quotaEpoch ∧ sub'.amountUsed = 0
  usage_iff : ∀ requestId usage, usage.quotaEpoch ≠ epoch →
    (db'.usageRecords.get? (sub.id, requestId) = some usage ↔
      db.usageRecords.get? (sub.id, requestId) = some usage)

namespace Isolated

variable {epoch : Int} {renewed : Prop} {db db₁ db₂ : DB} {sub sub₁ sub₂ : UserSubscription}

lemma refl (db : DB) (sub : UserSubscription) : Isolated epoch renewed db sub db sub :=
  ⟨rfl, rfl, .inl ⟨rfl, rfl⟩, fun _ _ _ => Iff.rfl⟩

lemma imp (h : Isolated epoch renewed db sub db₁ sub₁) {q : Prop} (hq : renewed → q) :
    Isolated epoch q db sub db₁ sub₁ :=
  { h with amountUsed := h.amountUsed.imp_right fun h => ⟨hq h.1, h.2⟩ }

lemma trans (h₁ : Isolated epoch renewed db sub db₁ sub₁)
    (h₂ : Isolated epoch renewed db₁ sub₁ db₂ sub₂) : Isolated epoch renewed db sub db₂ sub₂ where
  id_eq := h₂.id_eq.trans h₁.id_eq
  amountTotal_eq := h₂.amountTotal_eq.trans h₁.amountTotal_eq
  amountUsed := by
    have hu₁ := h₁.amountUsed
    have hu₂ := h₂.amountUsed
    by_cases hrenewed : renewed <;>
      simp only [hrenewed, true_and, false_and, or_false] at hu₁ hu₂ ⊢ <;> omega
  usage_iff requestId usage hepoch := by
    rw [← h₁.usage_iff requestId usage hepoch, ← h₁.id_eq]
    exact h₂.usage_iff requestId usage hepoch

lemma saveUsage {old : ValuePackageUsageRecord} (hold : db.usageRecords.get? usage.key = some old)
    (hepoch : old.quotaEpoch = epoch) (hkeep : KeepsEpoch db usage) :
    Isolated epoch renewed db sub (db.saveUsage usage) sub where
  id_eq := rfl
  amountTotal_eq := rfl
  amountUsed := .inl ⟨rfl, rfl⟩
  usage_iff requestId row hrow := by
    rw [DB.saveUsage_usageRecords, get?_put]
    split_ifs with hkey
    · rw [← hkey, hold, Option.some.injEq, Option.some.injEq]
      constructor
      · rintro rfl
        exact absurd ((hkeep old hold).trans hepoch) hrow
      · rintro rfl
        exact absurd hepoch hrow
    · exact Iff.rfl

lemma advance {plan : SubscriptionPlan} {now : Int}
    (h : maybeAdvanceValuePackageCycleTx db sub plan now = .ok (sub₁, db₁)) :
    Isolated epoch (CycleDue sub plan now) db sub db₁ sub₁ := by
  obtain ⟨-, rfl, rfl⟩ | ⟨hdue, -, rfl, rfl⟩ := maybeAdvance_eq_ok.mp h
  · exact refl _ _
  · exact ⟨rfl, rfl, .inr ⟨hdue, Int.lt_succ sub.quotaEpoch, rfl⟩, fun _ _ _ => Iff.rfl⟩

end Isolated

/-- A late call for a request of the package. -/
inductive LateCall where
  | reserve (now userId targetQuota : Int)
  | refund (now : Int)

/-- A late call as a transaction. -/
def LateCall.op (sid : Int) (requestId : String) : LateCall → PackageOp
  | .reserve now userId targetQuota => .reserve now requestId userId sid targetQuota
  | .refund now => .refund now requestId

def LateCall.step (env : Env) (sid : Int) (requestId : String) (db : DB) (call : LateCall) : DB :=
  packageStep env db (call.op sid requestId)

/-- The call is a reserve at a time when the next cycle of the package is due. -/
def LateCall.Renews (sid : Int) (db : DB) : LateCall → Prop
  | .reserve now _ _ => ∃ sub plan, db.subscriptions.get? sid = some sub ∧
    getSubscriptionPlanByIdTx db sub.planId = .ok plan ∧ CycleDue sub plan now
  | .refund _ => False

/-- The error a late call ends with. -/
def LateCall.error? (sid : Int) (requestId : String) (db : DB) : LateCall → Option TxError
  | .reserve now userId targetQuota =>
    (reserveValuePackageUsageToTarget db now requestId userId sid targetQuota).error?
  | .refund now => (refundSubscriptionPreConsume db now requestId).error?

section Late

variable {env : Env} {db db' : DB} {sub : UserSubscription} {requestId : String} {epoch : Int}
  {now : Int}

section

variable (h : Linked db sub) (hcarries : Carries db sub.id requestId epoch)
  (hlate : epoch < sub.quotaEpoch)

include h hcarries hlate

/-- A late reserve writes at most the request's own usage record, after a possible renewal. -/
lemma isolated_reserve {userId targetQuota : Int} {result : SubscriptionPreConsumeResult}
    (hok : reserveValuePackageUsageToTarget db now requestId userId sub.id targetQuota =
      .ok (result, db')) :
    ∃ sub', Linked db' sub' ∧ Isolated epoch
      ((LateCall.reserve now userId targetQuota).Renews sub.id db) db sub db' sub' := by
  obtain ⟨sub', hkeeps⟩ := keeps_reserve h hok
  obtain ⟨-, opened, plan, db₁, request, hopen, hfind, hwrite⟩ :=
    reserveUsage_ok hok
  obtain ⟨stored, hget, -, -, -, hplan, -, hadvance⟩ := openValuePackageTx_ok hopen
  obtain rfl := h.eq_of_get? rfl hget
  obtain ⟨-, husage₁, -, hget₁⟩ := openValuePackageTx_frame hopen
  have hopened : Isolated epoch ((LateCall.reserve now userId targetQuota).Renews sub.id db) db sub
      db₁ opened := (Isolated.advance hadvance).imp fun hdue => ⟨sub, plan, hget, hplan, hdue⟩
  obtain ⟨old, hold, hepoch⟩ := hcarries.usage
  rw [← husage₁, ← hopened.id_eq] at hold
  rw [← hopened.id_eq] at hfind
  have hnewer : epoch < opened.quotaEpoch := by
    have := hopened.amountUsed
    omega
  obtain ⟨-, ⟨hnone, -⟩ | ⟨existing, hexisting, -, rfl⟩⟩ := findReservedRequest_ok hfind
  · rw [hold] at hnone
    cases hnone
  · rw [hold] at hexisting
    cases hexisting
    obtain ⟨-, rfl⟩ | ⟨-, ⟨-, rfl⟩ | ⟨hcurrent, -, rfl⟩⟩ := hwrite
    · obtain rfl := hkeeps.linked.eq_of_get? hkeeps.id_eq.symm hget₁
      exact ⟨_, hkeeps.linked, hopened⟩
    · obtain rfl := hkeeps.linked.eq_of_get? hkeeps.id_eq.symm hget₁
      refine ⟨_, hkeeps.linked, hopened.trans (Isolated.saveUsage ?_ hepoch
        (keepsEpoch_upsertedUsage _ _))⟩
      rw [upsertedUsage_key]
      exact hold
    · -- the request would be of the current epoch
      have : opened.quotaEpoch = epoch := hcurrent.trans hepoch
      omega

/-- A late refund writes at most the request's own records. -/
lemma isolated_refund {u : Unit}
    (hok : refundSubscriptionPreConsume db now requestId = .ok (u, db')) :
    ∃ sub', Linked db' sub' ∧ Isolated epoch False db sub db' sub' := by
  obtain ⟨sub', hid, hlinked, -⟩ := linked_refund h hok
  obtain ⟨usage, husage, hepoch⟩ := hcarries.usage
  have hrevoked : Isolated epoch False db sub
      (revokeValuePackageUsageReservationTx db sub.id requestId) sub := by
    obtain heq | ⟨usage', husage', heq⟩ :=
      revokeUsage_eq db sub.id requestId
    · rw [heq]
      exact Isolated.refl _ _
    · rw [husage] at husage'
      cases husage'
      rw [heq]
      refine Isolated.saveUsage ?_ hepoch (keepsEpoch_revoked husage)
      rw [usage.key_revoked, key_of_get? husage, husage]
  have hsubs : (revokeValuePackageUsageReservationTx db sub.id requestId).subscriptions.get?
      sub.id = some sub := (linked_revoke h requestId).1.stored
  obtain ⟨-, record, hrecord, ⟨-, rfl⟩ | ⟨-, owner, plan, db₁, hget, hplan, hrefund, rfl⟩⟩ :=
    refundPreConsume_ok hok
  · rw [hcarries.owner record hrecord] at hlinked ⊢
    obtain rfl := hlinked.eq_of_get? hid.symm hsubs
    exact ⟨_, hlinked, hrevoked⟩
  · have howner := hcarries.owner record hrecord
    obtain rfl := h.eq_of_get? howner hget
    obtain rfl : record.requestId = requestId := key_of_get? hrecord
    obtain ⟨hsame, ⟨hcurrent, -⟩ | ⟨-, rfl⟩⟩ := refundSubscription_of_usage
      (h.isValuePackage_of_plan hplan) (howner ▸ husage) hrefund
    · omega
    · rw [howner] at hlinked ⊢
      obtain rfl := hlinked.eq_of_get? hid.symm hsubs
      exact ⟨_, hlinked, hrevoked.id_eq, hrevoked.amountTotal_eq, hrevoked.amountUsed,
        hrevoked.usage_iff⟩

end

end Late

/-! ## Late calls never meet an epoch mismatch -/

section Mismatch

variable {db : DB} {sub : UserSubscription} {requestId : String}

lemma planById_ne_mismatch (db : DB) (id : Int) :
    getSubscriptionPlanByIdTx db id ≠ .error .usageEpochMismatch := by
  refine bind_ne_error (check_ne_error nofun) fun _ _ => ?_
  split <;> nofun

lemma openValuePackageTx_ne_mismatch (db : DB) (userId userSubscriptionId now : Int) :
    openValuePackageTx db userId userSubscriptionId now ≠ .error .usageEpochMismatch := by
  unfold openValuePackageTx
  split
  · simp
  · refine bind_ne_error (planById_ne_mismatch _ _) fun plan _ => ?_
    refine bind_ne_error (check_ne_error (by simp)) fun _ _ => ?_
    refine bind_ne_error ?_ fun _ _ => pure_ne_error
    unfold maybeAdvanceValuePackageCycleTx
    split_ifs
    · exact bind_ne_error (check_ne_error (by simp)) fun _ _ => pure_ne_error
    · simp

lemma recordUsageTx_ne_mismatch (db : DB) (record : ValuePackageUsageRecord) :
    recordValuePackageUsageTx db record ≠ .error .usageEpochMismatch :=
  bind_ne_error (check_ne_error nofun) fun _ _ => nofun

/-- The links rule the mismatch out in the lookups of a reserve. -/
lemma findReservedRequest_ne_mismatch (h : Linked db sub) (requestId : String) (userId : Int) :
    findReservedRequest db sub requestId userId sub.id ≠ .error .usageEpochMismatch := by
  refine bind_ne_error (check_ne_error nofun) fun _ howner => ?_
  rw [check_eq_ok] at howner
  split
  · nofun
  · rename_i existing hexisting
    refine bind_ne_error (fun herror => (check_eq_error.mp herror).1 ?_)
      fun _ _ => nofun
    intro record hrecord
    obtain rfl : record.requestId = requestId := key_of_get? hrecord
    obtain ⟨usage, husage, hsame⟩ :=
      h.usage_of_preConsume record (mem_of_get? hrecord) (howner record hrecord).2
    rw [hexisting] at husage
    cases husage
    exact hsame.symm

lemma reserve_ne_mismatch (h : Linked db sub) (now userId targetQuota : Int) :
    reserveValuePackageUsageToTarget db now requestId userId sub.id targetQuota ≠
      .error .usageEpochMismatch := by
  refine bind_ne_error (check_ne_error nofun) fun _ _ => ?_
  refine bind_ne_error (check_ne_error nofun) fun _ _ => ?_
  refine bind_ne_error (check_ne_error nofun) fun _ _ => ?_
  refine bind_ne_error (check_ne_error nofun) fun _ _ => ?_
  refine bind_ne_error (openValuePackageTx_ne_mismatch _ _ _ _) ?_
  rintro ⟨opened, plan, db₁⟩ hopen
  obtain ⟨-, hkept⟩ | ⟨hne, -⟩ := keeps_open h hopen
  · have hfind := findReservedRequest_ne_mismatch hkept.linked requestId userId
    rw [hkept.id_eq] at hfind
    refine bind_ne_error hfind fun request _ => ?_
    dsimp only
    split_ifs
    · nofun
    · exact bind_ne_error (recordUsageTx_ne_mismatch _ _) fun _ _ => nofun
    · refine bind_ne_error ?_ fun _ _ => ?_
      · refine bind_ne_error (check_ne_error nofun) fun _ _ => ?_
        exact bind_ne_error (check_ne_error nofun) fun _ _ =>
          check_ne_error nofun
      · exact bind_ne_error (recordUsageTx_ne_mismatch _ _) fun _ _ => nofun
    · exact bind_ne_error (recordUsageTx_ne_mismatch _ _) fun _ _ => nofun
  · exact absurd rfl hne

lemma refund_ne_mismatch (h : Linked db sub)
    (howner : ∀ record, db.preConsumeRecords.get? requestId = some record →
      record.userSubscriptionId = sub.id) (now : Int) :
    refundSubscriptionPreConsume db now requestId ≠ .error .usageEpochMismatch := by
  refine bind_ne_error (check_ne_error (by simp)) fun _ _ => ?_
  split
  · simp
  · rename_i record hrecord
    split_ifs
    · simp
    · split
      · simp
      · rename_i owner hget
        obtain rfl : record.requestId = requestId := key_of_get? hrecord
        obtain rfl := h.eq_of_get? (howner record hrecord) hget
        obtain ⟨usage, husage, hsame⟩ :=
          h.usage_of_preConsume record (mem_of_get? hrecord) (howner record hrecord)
        rw [← howner record hrecord] at husage
        refine bind_ne_error (planById_ne_mismatch _ _) fun plan _ => ?_
        refine bind_ne_error ?_ fun _ _ => pure_ne_error
        unfold refundSubscription valuePackageRefundQuota
        rw [husage]
        split_ifs
        · refine bind_ne_error ?_ fun _ _ => ?_
          · exact bind_ne_error (fun herror => (check_eq_error.mp herror).1 hsame)
              fun _ _ => pure_ne_error
          · split_ifs <;> exact pure_ne_error
        · simp
        · simp

end Mismatch

/-! ## Late settlement in a run -/

section Run

variable {env : Env} {db db₁ : DB} {sub : UserSubscription} {sid : Int} {requestId : String}
  {epoch : Int}

lemma carries_of_preConsume (h : Linked db sub) {now userId amount : Int}
    {result : SubscriptionPreConsumeResult}
    (hreuse : db.preConsumeRecords.get? requestId = none →
      db.usageRecords.get? (sub.id, requestId) = none)
    (hok : preConsumeValuePackageSubscription db now requestId userId sub.id amount =
      .ok (result, db₁)) : Carries db₁ sub.id requestId result.quotaEpoch := by
  obtain ⟨rfl, existing, hexisting, howner, hepoch⟩ | ⟨hnone, -, opened, plan, db₂, hopen, -, rfl,
    rfl⟩ := preConsumePackage_ok hok
  · obtain rfl : existing.requestId = requestId := key_of_get? hexisting
    obtain ⟨usage, husage, hsame⟩ :=
      h.usage_of_preConsume existing (mem_of_get? hexisting) howner
    refine ⟨⟨usage, husage, hsame.trans hepoch.symm⟩, fun record hrecord => ?_⟩
    rw [hexisting] at hrecord
    cases hrecord
    exact howner
  · obtain ⟨-, husage, -, hget⟩ := openValuePackageTx_frame hopen
    have hid : opened.id = sub.id := key_of_get? hget
    have hnew : db₂.usageRecords.get? (opened.id, requestId) = none := by
      rw [husage, hid]
      exact hreuse hnone
    constructor
    · refine ⟨newUsageRecord opened requestId userId amount opened.quotaEpoch now, ?_, rfl⟩
      rw [← hid]
      refine get?_eq_some_iff.mpr ⟨mem_put.mpr (.inl ?_), rfl⟩
      exact (upsertedUsage_of_none hnew).symm
    · intro record hrecord
      have hput : (db₂.preConsumeRecords.put
          (newPreConsumeRecord opened requestId userId amount now)).get? requestId =
          some record := hrecord
      rw [get?_put, newPreConsumeRecord_requestId, if_pos rfl] at hput
      cases hput
      exact hid

lemma Carries.preConsume_epoch (h : Carries db sid requestId epoch) (hlinked : Linked db sub)
    (hid : sub.id = sid) {record : SubscriptionPreConsumeRecord}
    (hrecord : db.preConsumeRecords.get? requestId = some record) : record.quotaEpoch = epoch := by
  subst hid
  obtain rfl : record.requestId = requestId := key_of_get? hrecord
  obtain ⟨usage, husage, hsame⟩ :=
    hlinked.usage_of_preConsume record (mem_of_get? hrecord) (h.owner record hrecord)
  obtain ⟨usage', husage', hepoch⟩ := h.usage
  rw [husage] at husage'
  cases husage'
  exact hsame.symm.trans hepoch

lemma late_step (env : Env) (h : Linked db sub) (hcarries : Carries db sub.id requestId epoch)
    (hlate : epoch < sub.quotaEpoch) (call : LateCall) :
    ∃ sub', Linked (call.step env sub.id requestId db) sub' ∧
      Isolated epoch (call.Renews sub.id db) db sub (call.step env sub.id requestId db) sub' := by
  have hcommit {α : Type} {x : Except TxError (α × DB)} {renewed : Prop}
      (hx : ∀ a db', x = .ok (a, db') → ∃ sub', Linked db' sub' ∧
        Isolated epoch renewed db sub db' sub') :=
    commit_induction (fun db' => ∃ sub', Linked db' sub' ∧ Isolated epoch renewed db sub db' sub')
      ⟨sub, h, Isolated.refl _ _⟩ hx
  cases call with
  | reserve now userId targetQuota => exact hcommit fun _ _ => isolated_reserve h hcarries hlate
  | refund now => exact hcommit fun _ _ => isolated_refund h hcarries hlate

lemma late_no_mismatch (h : Linked db sub) (hcarries : Carries db sub.id requestId epoch)
    (call : LateCall) : call.error? sub.id requestId db ≠ some .usageEpochMismatch := by
  cases call with
  | reserve now userId targetQuota =>
    simp only [LateCall.error?, ne_eq, error?_eq_some]
    exact reserve_ne_mismatch h now userId targetQuota
  | refund now =>
    simp only [LateCall.error?, ne_eq, error?_eq_some]
    exact refund_ne_mismatch h hcarries.owner now

lemma late_run (env : Env) (calls : List LateCall) (h : Linked db sub) (hid : sub.id = sid)
    (hcarries : Carries db sid requestId epoch) (hlate : epoch < sub.quotaEpoch) :
    let step := LateCall.step env sid requestId
    (∃ sub', Linked (exec step db calls) sub' ∧ Isolated epoch
        (¬Along step (fun db call => ¬call.Renews sid db) db calls) db sub
        (exec step db calls) sub') ∧
      Carries (exec step db calls) sid requestId epoch ∧
      Along step (fun db call => call.error? sid requestId db ≠ some .usageEpochMismatch)
        db calls := by
  induction calls generalizing db sub with
  | nil => exact ⟨⟨sub, h, Isolated.refl _ _⟩, hcarries, trivial⟩
  | cons call calls ih =>
    subst hid
    obtain ⟨sub₁, hlinked₁, hisolated₁⟩ := late_step env h hcarries hlate call
    have hcarries₁ : Carries (call.step env sub.id requestId db) sub.id requestId epoch :=
      carries_packageStep hcarries (by cases call <;> trivial)
    have hlate₁ : epoch < sub₁.quotaEpoch := by
      have := hisolated₁.amountUsed
      omega
    obtain ⟨⟨sub₂, hlinked₂, hisolated₂⟩, hcarries₂, halong⟩ :=
      ih hlinked₁ hisolated₁.id_eq hcarries₁ hlate₁
    refine ⟨⟨sub₂, hlinked₂, ?_⟩, hcarries₂, late_no_mismatch h hcarries call, halong⟩
    exact (hisolated₁.imp fun hrenews hnone => hnone.1 hrenews).trans
      (hisolated₂.imp fun hsome hnone => hsome hnone.2)

lemma linked_carries_of_run (h : Linked db sub) (hid : sub.id = sid)
    (hcarries : Carries db sid requestId epoch) {ops : List PackageOp}
    (hops : Along (packageStep env) (NoReusedId sid) db ops) :
    (∃ sub', sub'.id = sid ∧ Linked (exec (packageStep env) db ops) sub') ∧
      Carries (exec (packageStep env) db ops) sid requestId epoch := by
  refine exec_induction (fun db => (∃ sub', sub'.id = sid ∧ Linked db sub') ∧
    Carries db sid requestId epoch) ?_ ⟨⟨sub, hid, h⟩, hcarries⟩ hops
  rintro db op ⟨⟨sub, rfl, hlinked⟩, hcarries⟩ hreuse
  obtain ⟨sub', hid', hlinked', -⟩ := packageStep_keeps hlinked hreuse.noReusedRequest
  exact ⟨⟨sub', hid', hlinked'⟩, carries_packageStep hcarries hreuse⟩

/-- The calls for a request of epoch `epoch` leave the total quota and the usage records of every
other epoch as they are. They leave the used amount, too, unless one of them is a reserve at a due
cycle, which empties it and opens the next epoch. No call meets an epoch mismatch, and in every
continuation the records of the request carry its epoch. -/
def SettledApart (env : Env) (sid : Int) (requestId : String) (epoch : Int) (late : DB)
    (sub : UserSubscription) (calls : List LateCall) : Prop :=
  let step := LateCall.step env sid requestId
  let settled := exec step late calls
  (∃ sub', settled.subscriptions.get? sid = some sub' ∧ Isolated epoch
      (¬Along step (fun db call => ¬call.Renews sid db) late calls) late sub settled sub') ∧
    Along step (fun db call => call.error? sid requestId db ≠ some .usageEpochMismatch) late calls ∧
    ∀ later, Along (packageStep env) (NoReusedId sid) settled later →
      let final := exec (packageStep env) settled later
      (∃ usage, final.usageRecords.get? (sid, requestId) = some usage ∧
        usage.quotaEpoch = epoch) ∧
      ∀ record, final.preConsumeRecords.get? requestId = some record → record.quotaEpoch = epoch

/-- In a run without reused ids, a request is pre-consumed in some epoch of a package that moves on
to a later one. Then any reserve and refund calls for the request leave the package alone. -/
theorem late_settlement_isolated (hfresh : FreshPackage db sid) (before after : List PackageOp)
    (now userId amount : Int) (result : SubscriptionPreConsumeResult)
    (hreuse : Along (packageStep env) (NoReusedId sid) db
      (before ++ .preConsume now requestId userId sid amount :: after))
    (haccepted : preConsumeValuePackageSubscription (exec (packageStep env) db before) now
      requestId userId sid amount = .ok (result, db₁))
    (hsub : (exec (packageStep env) db₁ after).subscriptions.get? sid = some sub)
    (hlate : result.quotaEpoch < sub.quotaEpoch) (calls : List LateCall) :
    SettledApart env sid requestId result.quotaEpoch (exec (packageStep env) db₁ after) sub
      calls := by
  rw [along_append, along_cons] at hreuse
  obtain ⟨hbefore, hcall, hafter⟩ := hreuse
  have hstep : packageStep env (exec (packageStep env) db before)
      (.preConsume now requestId userId sid amount) = db₁ := by
    simp only [packageStep, haccepted, commit_ok]
  rw [hstep] at hafter
  obtain ⟨sub₀, rfl, hlinked₀⟩ := linked_of_run hfresh (hbefore.imp fun _ _ => (·.noReusedRequest))
  obtain ⟨sub₁, hkeeps⟩ := keeps_preConsume hlinked₀ (fun _ => hcall) haccepted
  have hcarries₁ := carries_of_preConsume hlinked₀ hcall haccepted
  obtain ⟨⟨sub₂, hid₂, hlinked₂⟩, hcarries₂⟩ :=
    linked_carries_of_run hkeeps.linked hkeeps.id_eq hcarries₁ hafter
  obtain rfl := hlinked₂.eq_of_get? hid₂.symm hsub
  obtain ⟨⟨sub', hlinked', hisolated⟩, hcarries', halong⟩ :=
    late_run env calls hlinked₂ hid₂ hcarries₂ hlate
  have hid' : sub'.id = sub₀.id := hisolated.id_eq.trans hid₂
  refine ⟨⟨sub', hid' ▸ hlinked'.stored, hisolated⟩, halong, fun later hlater => ?_⟩
  obtain ⟨⟨sub₃, hid₃, hlinked₃⟩, hcarries₃⟩ :=
    linked_carries_of_run hlinked' hid' hcarries' hlater
  exact ⟨hcarries₃.usage, fun record => hcarries₃.preConsume_epoch hlinked₃ hid₃⟩

end Run

/-- A request of epoch 0, a reset card, and a request of epoch 1. -/
def resetCardRun : List PackageOp :=
  [.consumeResetCount 2001 1 1 0, .preConsume 2002 "r2" 1 1 5]

/-- The database after the first request of the sample package. -/
def admittedDB : DB :=
  packageStep sampleEnv sampleDB (.preConsume 2000 "r1" 1 1 10)

/-- The package after the reset card and the second request. -/
def secondEpochSubscription : UserSubscription :=
  { sampleSubscription with quotaEpoch := 1, amountUsed := 5 }

/-- A reserve and two refunds of the first request leave the second epoch alone. -/
theorem resetCardRun_isolated :
    SettledApart sampleEnv 1 "r1" 0 (exec (packageStep sampleEnv) admittedDB resetCardRun)
      secondEpochSubscription [.reserve 2003 1 25, .refund 2004, .refund 2005] :=
  late_settlement_isolated freshPackage_sampleDB [] resetCardRun 2000 1 10 ⟨1, 10, 1000, 0, 10, 0⟩
    (by decide) rfl (by decide) (by decide) _

/-- The first request is cleaned up, and its id is used again in the second epoch. Its usage record
keeps the first epoch. -/
def reusedIdRun : List PackageOp :=
  [.preConsume 2000 "r1" 1 1 10, .cleanup 4000 10, .consumeResetCount 4001 1 1 0,
    .preConsume 4002 "r1" 1 1 5, .resetDue 2600000 10]

/-- A reserve of the first request when the next cycle is due empties the used amount of the second
epoch and opens the third. After an id was used again, a reserve meets the mismatch. -/
theorem late_reserve_renews :
    let late := exec (packageStep sampleEnv) admittedDB resetCardRun
    FreshPackage sampleDB 1 ∧
      Along (packageStep sampleEnv) (NoReusedId 1) sampleDB
        (.preConsume 2000 "r1" 1 1 10 :: resetCardRun) ∧
      (∃ usage, admittedDB.usageRecords.get? (1, "r1") = some usage ∧ usage.quotaEpoch = 0) ∧
      late.subscriptions.get? 1 = some secondEpochSubscription ∧
      (∃ sub', (packageStep sampleEnv late (.reserve 2600000 "r1" 1 1 25)).subscriptions.get? 1 =
          some sub' ∧ sub'.amountUsed ≠ secondEpochSubscription.amountUsed) ∧
      (LateCall.reserve 2600001 1 25).error? 1 "r1" (exec (packageStep sampleEnv) sampleDB
        reusedIdRun) = some .usageEpochMismatch :=
  ⟨freshPackage_sampleDB, by decide, ⟨⟨1, 1, "r1", 10, 0, 2000⟩, by decide, rfl⟩, by decide,
    ⟨{ sampleSubscription with
      quotaEpoch := 2, lastResetTime := 2593000, nextResetTime := 5185000 }, by decide, by decide⟩,
    by decide⟩

end Yunbay
