import Yunbay.Subscription.Schema

/-!
# The frozen price of a request

A request is priced when its session is created, and it may then be retried with channels of other
groups. A retry computes the price anew, so the session puts back what it has frozen:
`RestoreBillingSessionTuple` writes the frozen tuple, and `EnsureSubscriptionBillingRatio` derives
the ratio of a subscription from the one that the session was created with.

`price_frozen`: after every retry the price is the frozen one. The billing group is frozen only if
the request has one. The operations on ratios are a parameter.
-/

namespace Yunbay

/-- What the code does with ratios. -/
structure RatioOps (ρ : Type) where
  one : ρ
  minusOne : ρ
  /-- `validSubscriptionBillingRatio` -/
  valid : ρ → Bool
  /-- `QuotaRound` of an estimate times a ratio. -/
  quotaRound : ρ → ρ → Int

/-- The ratios of a group. -/
structure GroupRatioInfo (ρ : Type) where
  groupRatio : ρ
  groupSpecialRatio : ρ
  hasSpecialRatio : Bool

/-- A snapshot with the billing mode `tiered_expr`. -/
structure TieredSnapshot (ρ : Type) where
  groupRatio : ρ
  estimatedQuotaBeforeGroup : ρ
  estimatedQuotaAfterGroup : Int

inductive SubscriptionRatioSource where
  | regular | default | configured
  deriving DecidableEq

/-- The fields of `RelayInfo` that the price consists of or depends on. -/
structure PriceInfo (ρ : Type) where
  groupRatioInfo : GroupRatioInfo ρ
  /-- `OriginalGroupRatioInfo`, if there is one. -/
  originalGroupRatioInfo : Option (GroupRatioInfo ρ)
  /-- `SubscriptionRatioApplied`, with the source. -/
  appliedSource : Option (Option SubscriptionRatioSource)
  usingGroup : String
  billingUsingGroup : String
  billingUserGroup : String
  valuePackageSubscriptionId : Int
  valuePackageBillingGroup : String
  /-- `BillingSource` is that of subscriptions. -/
  fromSubscription : Bool
  snapshot : Option (TieredSnapshot ρ)

/-- The price fields of `BillingSession`. -/
structure PriceSession (ρ : Type) where
  /-- The ratio of a subscription and its source. -/
  subscription : Option (ρ × Option SubscriptionRatioSource)
  preConsumedQuota : Int
  billingUsingGroup : String
  billingGroupRatioInfo : GroupRatioInfo ρ
  /-- `tieredGroupRatio` and `tieredEstimatedQuota` -/
  tieredTuple : Option (ρ × Int)

section Code

variable {ρ : Type} [DecidableEq ρ] (ops : RatioOps ρ)

def PriceInfo.isValuePackage (info : PriceInfo ρ) : Bool := 0 < info.valuePackageSubscriptionId

def defaultSubscriptionBillingRatio (isValuePackage : Bool) : ρ × Option SubscriptionRatioSource :=
  (ops.one, some (if isValuePackage then .default else .regular))

def normalizeFrozenSubscriptionBillingRatio (isValuePackage : Bool)
    (frozen : ρ × Option SubscriptionRatioSource) : ρ × Option SubscriptionRatioSource :=
  if ops.valid frozen.1 then
    match frozen.2 with
    | some .regular => if !isValuePackage ∧ frozen.1 = ops.one then frozen
      else defaultSubscriptionBillingRatio ops isValuePackage
    | some .default => if isValuePackage ∧ frozen.1 = ops.one then frozen
      else defaultSubscriptionBillingRatio ops isValuePackage
    | some .configured => if isValuePackage then frozen
      else defaultSubscriptionBillingRatio ops isValuePackage
    | none => defaultSubscriptionBillingRatio ops isValuePackage
  else defaultSubscriptionBillingRatio ops isValuePackage

def resolveSubscriptionBillingRatio (info : PriceInfo ρ) : ρ × Option SubscriptionRatioSource :=
  match info.appliedSource with
  | some source => normalizeFrozenSubscriptionBillingRatio ops info.isValuePackage
      (info.groupRatioInfo.groupRatio, source)
  | none =>
    if !info.isValuePackage then (ops.one, some .regular)
    else if trimSpace info.valuePackageBillingGroup = "" then (ops.one, some .default)
    else if trimSpace info.billingUserGroup ≠ "" ∧
        trimSpace info.billingUserGroup ≠ trimSpace info.valuePackageBillingGroup then
      (ops.one, some .default)
    else if info.groupRatioInfo.hasSpecialRatio ∧
        ops.valid info.groupRatioInfo.groupSpecialRatio then
      (info.groupRatioInfo.groupSpecialRatio, some .configured)
    else (ops.one, some .default)

/-- The ratio and its source as a subscription writes them. -/
def PriceInfo.withRatio (info : PriceInfo ρ) (ratio : ρ)
    (source : Option SubscriptionRatioSource) : PriceInfo ρ :=
  { info with
    originalGroupRatioInfo := some (info.originalGroupRatioInfo.getD info.groupRatioInfo)
    appliedSource := some source
    groupRatioInfo := ⟨ratio, ops.minusOne, false⟩
    snapshot := info.snapshot.map fun snap => { snap with
      groupRatio := ratio
      estimatedQuotaAfterGroup := ops.quotaRound snap.estimatedQuotaBeforeGroup ratio } }

/-- The ratio of the session, if it has one, decides. -/
def resolveAuthoritativeSubscriptionBillingRatio (session : Option (PriceSession ρ))
    (info : PriceInfo ρ) : (ρ × Option SubscriptionRatioSource) × Bool :=
  match session.bind (·.subscription) with
  | some frozen => (normalizeFrozenSubscriptionBillingRatio ops info.isValuePackage frozen, true)
  | none => (resolveSubscriptionBillingRatio ops info, false)

def applySubscriptionBillingRatio (session : Option (PriceSession ρ)) (info : PriceInfo ρ)
    (ratio : ρ × Option SubscriptionRatioSource) : PriceInfo ρ :=
  let authoritative := resolveAuthoritativeSubscriptionBillingRatio ops session info
  let chosen :=
    if authoritative.2 then authoritative.1
    else if info.appliedSource.isSome then resolveSubscriptionBillingRatio ops info
    else normalizeFrozenSubscriptionBillingRatio ops info.isValuePackage ratio
  info.withRatio ops chosen.1 chosen.2

def restoreOriginalBillingRatio (info : PriceInfo ρ) : PriceInfo ρ :=
  match info.originalGroupRatioInfo with
  | none => info
  | some original =>
    { info with
      groupRatioInfo := original
      appliedSource := none
      snapshot := info.snapshot.map fun snap => { snap with
        groupRatio := original.groupRatio
        estimatedQuotaAfterGroup :=
          ops.quotaRound snap.estimatedQuotaBeforeGroup original.groupRatio } }

/-- `prepareValuePackageWalletFallback`, with the ratio of the user's own group. -/
def prepareValuePackageWalletFallback (userGroup : String) (walletGroupRatioInfo : GroupRatioInfo ρ)
    (info : PriceInfo ρ) : PriceInfo ρ :=
  restoreOriginalBillingRatio ops
    { info with
      billingUserGroup := userGroup
      originalGroupRatioInfo := some walletGroupRatioInfo
      valuePackageSubscriptionId := 0
      valuePackageBillingGroup := "" }

def freezeBillingTuple (info : PriceInfo ρ)
    (subscription : Option (ρ × Option SubscriptionRatioSource)) (preConsumedQuota : Int) :
    PriceSession ρ where
  subscription := subscription
  preConsumedQuota := preConsumedQuota
  billingUsingGroup := trimSpace info.usingGroup
  billingGroupRatioInfo := info.groupRatioInfo
  tieredTuple := info.snapshot.map fun snap => (snap.groupRatio, snap.estimatedQuotaAfterGroup)

/-- `syncRelayInfo` of a new session. -/
def syncRelayInfo (session : PriceSession ρ) (info : PriceInfo ρ) : PriceInfo ρ :=
  { info with
    fromSubscription := session.subscription.isSome
    billingUsingGroup := if session.billingUsingGroup ≠ "" then session.billingUsingGroup
      else if info.billingUsingGroup = "" then trimSpace info.usingGroup
      else info.billingUsingGroup }

/-- The ways to a session. A value package is charged like a regular subscription. -/
inductive SessionKind (ρ : Type) where
  | wallet
  | subscription
  | valuePackageFallback (userGroup : String) (walletGroupRatioInfo : GroupRatioInfo ρ)

/-- What all tries end with: the session, and the request as the session leaves it. -/
def openSession (subscription : Option (ρ × Option SubscriptionRatioSource))
    (preConsumedQuota : Int) (info : PriceInfo ρ) : PriceSession ρ × PriceInfo ρ :=
  let session := freezeBillingTuple info subscription preConsumedQuota
  (session, syncRelayInfo session info)

def tryWallet (preConsumedQuota : Int) (info : PriceInfo ρ) : PriceSession ρ × PriceInfo ρ :=
  openSession none preConsumedQuota (restoreOriginalBillingRatio ops info)

def trySubscription (preConsumedQuota : Int) (info : PriceInfo ρ) : PriceSession ρ × PriceInfo ρ :=
  let ratio := resolveSubscriptionBillingRatio ops info
  openSession (some ratio) preConsumedQuota (applySubscriptionBillingRatio ops none info ratio)

/-- `NewBillingSession`: the try that succeeds, with what it has charged. Tries that failed before
it are part of how `info` came about. -/
def newPriceSession (kind : SessionKind ρ) (preConsumedQuota : Int) (info : PriceInfo ρ) :
    PriceSession ρ × PriceInfo ρ :=
  match kind with
  | .wallet => tryWallet ops preConsumedQuota info
  | .subscription => trySubscription ops preConsumedQuota info
  | .valuePackageFallback userGroup walletGroupRatioInfo => tryWallet ops preConsumedQuota
      (prepareValuePackageWalletFallback ops userGroup walletGroupRatioInfo info)

def restoreBillingSessionTuple (session : PriceSession ρ) (info : PriceInfo ρ) : PriceInfo ρ :=
  { info with
    billingUsingGroup := if session.billingUsingGroup ≠ "" then session.billingUsingGroup
      else info.billingUsingGroup
    groupRatioInfo := session.billingGroupRatioInfo
    snapshot :=
      match session.tieredTuple with
      | none => info.snapshot
      | some (ratio, estimate) => info.snapshot.map fun snap =>
          { snap with groupRatio := ratio, estimatedQuotaAfterGroup := estimate } }

/-- `EnsureSubscriptionBillingRatio`. The amount is computed if nothing was charged before. -/
def ensureSubscriptionBillingRatio (session : PriceSession ρ) (computedQuota : Int)
    (info : PriceInfo ρ) : PriceInfo ρ :=
  if info.fromSubscription then
    let ratio := (resolveAuthoritativeSubscriptionBillingRatio ops (some session) info).1
    let info := { info with billingUsingGroup := if session.billingUsingGroup ≠ "" then
      session.billingUsingGroup else info.billingUsingGroup }
    if session.preConsumedQuota ≤ 0 ∧ computedQuota ≤ 0 then info
    else applySubscriptionBillingRatio ops (some session) info ratio
  else info

/-- What a retry writes for the new group. -/
structure PriceWrites (ρ : Type) where
  groupRatioInfo : GroupRatioInfo ρ
  billingUsingGroup : String
  usingGroup : String
  snapshotRatio : ρ
  snapshotEstimate : Int
  computedQuota : Int

def PriceInfo.overwrite (info : PriceInfo ρ) (writes : PriceWrites ρ) : PriceInfo ρ :=
  { info with
    groupRatioInfo := writes.groupRatioInfo
    billingUsingGroup := writes.billingUsingGroup
    usingGroup := writes.usingGroup
    snapshot := info.snapshot.map fun snap => { snap with
      groupRatio := writes.snapshotRatio, estimatedQuotaAfterGroup := writes.snapshotEstimate } }

/-- A retry: the writes, and then the two functions. -/
def priceRetry (session : PriceSession ρ) (info : PriceInfo ρ) (writes : PriceWrites ρ) :
    PriceInfo ρ :=
  ensureSubscriptionBillingRatio ops session writes.computedQuota
    (restoreBillingSessionTuple session (info.overwrite writes))

end Code

section Proofs

variable {ρ : Type}

/-- The group ratio and, for tiered billing, the ratio and the estimate of the snapshot. -/
def PriceInfo.ratios (info : PriceInfo ρ) : GroupRatioInfo ρ × Option (ρ × Int) :=
  (info.groupRatioInfo,
    info.snapshot.map fun snap => (snap.groupRatio, snap.estimatedQuotaAfterGroup))

/-- The ratios that the session has frozen. -/
def PriceSession.ratios (session : PriceSession ρ) : GroupRatioInfo ρ × Option (ρ × Int) :=
  (session.billingGroupRatioInfo, session.tieredTuple)

/-- What a retry leaves alone: whether a subscription pays, whether it is a value package, and the
estimate before the ratio. -/
def PriceInfo.basis (info : PriceInfo ρ) : Bool × Bool × Option ρ :=
  (info.fromSubscription, info.isValuePackage, info.snapshot.map (·.estimatedQuotaBeforeGroup))

variable [DecidableEq ρ] {ops : RatioOps ρ} {session : PriceSession ρ} {info : PriceInfo ρ}

/-- The ratios that a subscription with this ratio writes. -/
def subscriptionRatios (ops : RatioOps ρ) (basis : Bool × Option ρ)
    (frozen : ρ × Option SubscriptionRatioSource) : GroupRatioInfo ρ × Option (ρ × Int) :=
  let ratio := (normalizeFrozenSubscriptionBillingRatio ops basis.1 frozen).1
  (⟨ratio, ops.minusOne, false⟩, basis.2.map fun before => (ratio, ops.quotaRound before ratio))

/-- The frozen ratios are those that the basis gives again. -/
structure Refreezable (ops : RatioOps ρ) (session : PriceSession ρ)
    (basis : Bool × Bool × Option ρ) : Prop where
  source : basis.1 = session.subscription.isSome
  tiered : session.tieredTuple.isSome = basis.2.2.isSome
  ratios : ∀ frozen, session.subscription = some frozen →
    session.ratios = subscriptionRatios ops basis.2 frozen

lemma normalize_default (isValuePackage : Bool) :
    (normalizeFrozenSubscriptionBillingRatio ops isValuePackage
      (defaultSubscriptionBillingRatio ops isValuePackage)).1 = ops.one := by
  cases isValuePackage <;> by_cases hvalid : ops.valid ops.one <;>
    simp [normalizeFrozenSubscriptionBillingRatio, defaultSubscriptionBillingRatio, hvalid]

lemma normalize_normalize (isValuePackage : Bool) (ratio : ρ × Option SubscriptionRatioSource) :
    (normalizeFrozenSubscriptionBillingRatio ops isValuePackage
      (normalizeFrozenSubscriptionBillingRatio ops isValuePackage ratio)).1 =
      (normalizeFrozenSubscriptionBillingRatio ops isValuePackage ratio).1 := by
  by_cases hsame : normalizeFrozenSubscriptionBillingRatio ops isValuePackage ratio = ratio
  · rw [hsame, hsame]
  · -- what is not kept is replaced by the default
    have hreplaced : normalizeFrozenSubscriptionBillingRatio ops isValuePackage ratio =
        defaultSubscriptionBillingRatio ops isValuePackage := by
      revert hsame
      unfold normalizeFrozenSubscriptionBillingRatio
      split
      · split <;> (try split) <;> simp
      · simp
    rw [hreplaced]
    exact normalize_default isValuePackage

/-- The ratio that a new session gets is one that normalisation keeps. -/
lemma normalize_resolve :
    (normalizeFrozenSubscriptionBillingRatio ops info.isValuePackage
      (resolveSubscriptionBillingRatio ops info)).1 =
      (resolveSubscriptionBillingRatio ops info).1 := by
  unfold resolveSubscriptionBillingRatio
  cases info.appliedSource with
  | some source => exact normalize_normalize _ _
  | none =>
    simp only
    cases info.isValuePackage with
    | false => exact normalize_default false
    | true =>
      simp only [Bool.not_true, Bool.false_eq_true, if_false]
      split_ifs with _ _ hspecial
      · exact normalize_default true
      · exact normalize_default true
      · simp [normalizeFrozenSubscriptionBillingRatio, hspecial.2]
      · exact normalize_default true

omit [DecidableEq ρ] in
lemma withRatio_basis (ratio : ρ) (source : Option SubscriptionRatioSource) :
    (info.withRatio ops ratio source).basis = info.basis := by
  cases info with | mk _ _ _ _ _ _ _ _ _ snapshot => cases snapshot <;> rfl

omit [DecidableEq ρ] in
lemma restore_basis : (restoreBillingSessionTuple session info).basis = info.basis := by
  cases session with | mk _ _ _ _ tiered =>
  cases info with | mk _ _ _ _ _ _ _ _ _ snapshot => cases tiered <;> cases snapshot <;> rfl

omit [DecidableEq ρ] in
lemma overwrite_basis (info : PriceInfo ρ) (writes : PriceWrites ρ) :
    (info.overwrite writes).basis = info.basis := by
  cases info with | mk _ _ _ _ _ _ _ _ _ snapshot => cases snapshot <;> rfl

lemma ensure_basis (computedQuota : Int) :
    (ensureSubscriptionBillingRatio ops session computedQuota info).basis = info.basis := by
  unfold ensureSubscriptionBillingRatio
  split
  · simp only
    split
    · rfl
    · exact withRatio_basis _ _
  · rfl

lemma priceRetry_basis (writes : PriceWrites ρ) :
    (priceRetry ops session info writes).basis = info.basis := by
  rw [priceRetry, ensure_basis, restore_basis, overwrite_basis]

lemma withRatio_ratios (frozen : ρ × Option SubscriptionRatioSource)
    (source : Option SubscriptionRatioSource) :
    (info.withRatio ops (normalizeFrozenSubscriptionBillingRatio ops info.isValuePackage frozen).1
      source).ratios = subscriptionRatios ops info.basis.2 frozen := by
  cases info with | mk _ _ _ _ _ _ _ _ _ snapshot => cases snapshot <;> rfl

section

variable (h : Refreezable ops session info.basis)

include h

lemma restore_ratios : (restoreBillingSessionTuple session info).ratios = session.ratios := by
  have htiered := h.tiered
  cases session with | mk _ _ _ _ tiered =>
  cases info with | mk _ _ _ _ _ _ _ _ _ snapshot =>
  cases tiered <;> cases snapshot <;> first | rfl | simp [PriceInfo.basis] at htiered

lemma ensure_ratios (hinfo : info.ratios = session.ratios) (computedQuota : Int) :
    (ensureSubscriptionBillingRatio ops session computedQuota info).ratios = session.ratios := by
  unfold ensureSubscriptionBillingRatio
  split
  · rename_i hsubscription
    obtain ⟨frozen, hfrozen⟩ := Option.isSome_iff_exists.mp (h.source.symm.trans hsubscription)
    simp only
    split
    · exact hinfo
    · rw [h.ratios frozen hfrozen]
      simp only [applySubscriptionBillingRatio, resolveAuthoritativeSubscriptionBillingRatio,
        Option.bind_some, hfrozen, if_true]
      exact withRatio_ratios frozen _
  · exact hinfo

lemma priceRetry_ratios (writes : PriceWrites ρ) :
    (priceRetry ops session info writes).ratios = session.ratios := by
  rw [← overwrite_basis info writes] at h
  have hrestored : Refreezable ops session
      (restoreBillingSessionTuple session (info.overwrite writes)).basis := by
    rw [restore_basis]
    exact h
  exact ensure_ratios hrestored (restore_ratios h) writes.computedQuota

end

omit [DecidableEq ρ] in
lemma restoreOriginal_usingGroup :
    (restoreOriginalBillingRatio ops info).usingGroup = info.usingGroup := by
  unfold restoreOriginalBillingRatio
  split <;> rfl

/-- Whichever branch writes the ratio of a new subscription, it is the resolved one. -/
lemma applySubscription_eq (ops : RatioOps ρ) (info : PriceInfo ρ) :
    ∃ source, applySubscriptionBillingRatio ops none info
      (resolveSubscriptionBillingRatio ops info) = info.withRatio ops
        (normalizeFrozenSubscriptionBillingRatio ops info.isValuePackage
          (resolveSubscriptionBillingRatio ops info)).1 source := by
  simp only [applySubscriptionBillingRatio, resolveAuthoritativeSubscriptionBillingRatio,
    Option.bind_none, Bool.false_eq_true, if_false]
  split_ifs
  · exact ⟨_, by rw [normalize_resolve]⟩
  · exact ⟨_, rfl⟩

lemma newPriceSession_eq (ops : RatioOps ρ) (kind : SessionKind ρ) (preConsumedQuota : Int)
    (info : PriceInfo ρ) : ∃ subscription priced,
      newPriceSession ops kind preConsumedQuota info =
        openSession subscription preConsumedQuota priced ∧
      priced.usingGroup = info.usingGroup ∧ ∀ frozen, subscription = some frozen →
        priced.ratios = subscriptionRatios ops priced.basis.2 frozen := by
  cases kind with
  | wallet => exact ⟨none, _, rfl, restoreOriginal_usingGroup, nofun⟩
  | valuePackageFallback userGroup walletGroupRatioInfo =>
    refine ⟨none, _, rfl, ?_, nofun⟩
    rw [restoreOriginal_usingGroup, prepareValuePackageWalletFallback, restoreOriginal_usingGroup]
  | subscription =>
    obtain ⟨source, happly⟩ := applySubscription_eq ops info
    refine ⟨_, _, rfl, ?_, ?_⟩
    · rw [happly]
      rfl
    · rintro frozen hfrozen
      obtain rfl := Option.some.inj hfrozen
      rw [happly, withRatio_ratios, withRatio_basis]

lemma openSession_refreezable {subscription : Option (ρ × Option SubscriptionRatioSource)}
    (h : ∀ frozen, subscription = some frozen →
      info.ratios = subscriptionRatios ops info.basis.2 frozen) (preConsumedQuota : Int) :
    Refreezable ops (openSession subscription preConsumedQuota info).1
      (openSession subscription preConsumedQuota info).2.basis where
  source := rfl
  tiered := by simp [openSession, freezeBillingTuple, syncRelayInfo, PriceInfo.basis]
  ratios := h

lemma priceRetry_billingUsingGroup (writes : PriceWrites ρ) :
    (priceRetry ops session info writes).billingUsingGroup =
      if session.billingUsingGroup ≠ "" then session.billingUsingGroup
      else writes.billingUsingGroup := by
  have hensure : ∀ restored : PriceInfo ρ,
      (ensureSubscriptionBillingRatio ops session writes.computedQuota restored).billingUsingGroup =
        if session.billingUsingGroup ≠ "" ∧ restored.fromSubscription then
          session.billingUsingGroup else restored.billingUsingGroup := by
    intro restored
    unfold ensureSubscriptionBillingRatio
    by_cases hgroup : session.billingUsingGroup = "" <;>
      by_cases hsource : restored.fromSubscription <;>
      by_cases hnone : session.preConsumedQuota ≤ 0 ∧ writes.computedQuota ≤ 0 <;>
      simp [hgroup, hsource, hnone, applySubscriptionBillingRatio, PriceInfo.withRatio]
  rw [priceRetry, hensure]
  by_cases hgroup : session.billingUsingGroup = "" <;>
    simp [hgroup, restoreBillingSessionTuple, PriceInfo.overwrite]

lemma priceRetries_ratios (h : Refreezable ops session info.basis)
    (hinfo : info.ratios = session.ratios) (retries : List (PriceWrites ρ)) :
    (retries.foldl (priceRetry ops session) info).ratios = session.ratios := by
  induction retries generalizing info with
  | nil => exact hinfo
  | cons writes rest ih =>
    refine ih ?_ (priceRetry_ratios h writes)
    rw [priceRetry_basis]
    exact h

lemma priceRetries_billingUsingGroup (hgroup : session.billingUsingGroup ≠ "")
    (hinfo : info.billingUsingGroup = session.billingUsingGroup) (retries : List (PriceWrites ρ)) :
    (retries.foldl (priceRetry ops session) info).billingUsingGroup =
      session.billingUsingGroup := by
  induction retries generalizing info with
  | nil => exact hinfo
  | cons writes rest ih =>
    refine ih ?_
    rw [priceRetry_billingUsingGroup, if_pos hgroup]

/-- In every kind of session, and after any number of retries, the ratios are those that the session
was created with. The billing group is kept exactly if the request has one. -/
theorem price_frozen (ops : RatioOps ρ) (kind : SessionKind ρ) (preConsumedQuota : Int)
    (info : PriceInfo ρ) :
    let created := newPriceSession ops kind preConsumedQuota info
    let retried (retries : List (PriceWrites ρ)) :=
      retries.foldl (priceRetry ops created.1) created.2
    (∀ retries, (retried retries).ratios = created.2.ratios) ∧
      ((∀ retries, (retried retries).billingUsingGroup = created.2.billingUsingGroup) ↔
        trimSpace info.usingGroup ≠ "") := by
  intro created retried
  obtain ⟨subscription, priced, hcreated, husing, hpriced⟩ :=
    newPriceSession_eq ops kind preConsumedQuota info
  have hopen : created = openSession subscription preConsumedQuota priced := hcreated
  have hgroup : created.1.billingUsingGroup = trimSpace info.usingGroup := by
    rw [hopen, ← husing]
    rfl
  refine ⟨fun retries => ?_, fun hkept hblank => ?_, fun hnonblank retries => ?_⟩
  · have hratios : created.2.ratios = created.1.ratios := by
      rw [hopen]
      rfl
    rw [hratios]
    refine priceRetries_ratios ?_ hratios retries
    rw [hopen]
    exact openSession_refreezable hpriced preConsumedQuota
  · -- a retry that writes another group is not undone
    have hwritten := hkept [⟨info.groupRatioInfo, created.2.billingUsingGroup ++ "'", "",
      ops.one, 0, 0⟩]
    rw [show retried [_] = priceRetry ops created.1 created.2 _ from rfl,
      priceRetry_billingUsingGroup, hgroup, if_neg (not_not.mpr hblank)] at hwritten
    simp at hwritten
  · rw [← hgroup] at hnonblank
    have hsync : created.2.billingUsingGroup = created.1.billingUsingGroup := by
      rw [hopen] at hnonblank ⊢
      exact if_pos hnonblank
    rw [hsync]
    exact priceRetries_billingUsingGroup hnonblank hsync retries

end Proofs

def wholeRatios : RatioOps Nat where
  one := 1
  minusOne := 0
  valid ratio := 0 < ratio
  quotaRound estimate ratio := estimate * ratio

/-- A request without a group: the group that a retry writes stays. -/
theorem blank_group_not_frozen :
    let info : PriceInfo Nat := ⟨⟨1, 0, false⟩, none, none, "", "", "default", 0, "", false, none⟩
    let created := newPriceSession wholeRatios .wallet 5 info
    created.2.billingUsingGroup = "" ∧
      (priceRetry wholeRatios created.1 created.2
        ⟨⟨2, 0, false⟩, "vip", "vip", 2, 0, 0⟩).billingUsingGroup = "vip" := by
  decide

end Yunbay
