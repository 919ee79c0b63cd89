import Yunbay.Purchase.Lifecycle

/-!
# Undoing a group upgrade

A plan with an upgrade group moves its buyer to that group, and the subscription keeps the group the
buyer comes from. When the subscription ends the buyer is moved back, unless another upgrade is
running.
-/

namespace Yunbay

open Run Table Shop

variable {shop shop' : Shop} {g : String} {userId clock now bought id owner : Int}
  {sub : UserSubscription} {state : TimedShop}

/-! ## The group of a user -/

section Group

lemma Shop.groupOf_setGroup (hgroup : shop.groupOf userId ≠ "") (group : String) :
    (shop.setGroup userId group).groupOf userId = group := by
  unfold setGroup
  cases hget : shop.users.get? userId with
  | none =>
    -- a user that does not exist has the empty group
    refine absurd ?_ hgroup
    rw [groupOf, hget]
    rfl
  | some user =>
    obtain rfl : user.id = userId := key_of_get? hget
    unfold groupOf
    rw [Shop.saveUser_users, get?_put, if_pos rfl]
    rfl

lemma Shop.groupOf_setGroup_of_ne {other : Int} (hne : other ≠ userId) (group : String) :
    (shop.setGroup other group).groupOf userId = shop.groupOf userId := by
  unfold setGroup
  cases hget : shop.users.get? other with
  | none => rfl
  | some user =>
    obtain rfl : user.id = other := key_of_get? hget
    unfold groupOf
    rw [Shop.saveUser_users, get?_put, if_neg hne]

end Group

/-! ## Subscriptions with an upgrade group -/

/-- A subscription of the user with an upgrade group. -/
structure Upgraded (shop : Shop) (userId : Int) (sub : UserSubscription) : Prop where
  stored : shop.db.subscriptions.get? sub.id = some sub
  user : sub.userId = userId
  upgrade : (shop.upgrades sub.id).upgradeGroup ≠ ""

/-- The upgrade columns that a purchase from the group `g` writes. -/
structure FromGroup (g : String) (columns : SubscriptionUpgrade) : Prop where
  trimmed : trimSpace columns.upgradeGroup = columns.upgradeGroup
  prev : columns.prevUserGroup = if columns.upgradeGroup = g then "" else g

/-- The subscription is active and its upgrade group is the group of the user, who comes from `g`.
It was bought when every other upgrade had ended. -/
structure InForce (g : String) (userId : Int) (shop : Shop) (bought : Int)
    (sub : UserSubscription) : Prop extends Upgraded shop userId sub where
  active : sub.status = .active
  group : shop.groupOf userId = (shop.upgrades sub.id).upgradeGroup
  moved : (shop.upgrades sub.id).upgradeGroup ≠ g
  running : bought < sub.endTime
  others : ∀ other, Upgraded shop userId other → other.id ≠ sub.id →
    other.status = .active ∨ other.status = .expired → other.endTime ≤ bought

/-- The invariant: the user is in the group `g`, or one upgrade accounts for the group. -/
structure GroupKept (g : String) (userId : Int) (state : TimedShop) : Prop where
  columns : ∀ sub, Upgraded state.shop userId sub → FromGroup g (state.shop.upgrades sub.id)
  expired : ∀ sub, Upgraded state.shop userId sub → sub.status = .expired →
    sub.endTime ≤ state.clock
  ends : ∀ sub, Upgraded state.shop userId sub → sub.status = .active → 0 < sub.endTime
  group : state.shop.groupOf userId = g ∨
    ∃ bought sub, bought ≤ state.clock ∧ InForce g userId state.shop bought sub

/-! ## Steps that buy no upgrade -/

/-- What happens to an upgrade after it has been bought. -/
inductive RowAges (now : Int) (sub : UserSubscription) : UserSubscription → Prop where
  | same : RowAges now sub sub
  | cancelled {sub' : UserSubscription} (hstatus : sub'.status = .cancelled) : RowAges now sub sub'
  | expired (hactive : sub.status = .active) (hend : sub.endTime ≤ now) :
      RowAges now sub { sub with status := .expired }

/-- The upgrades of the user after a step are those before it, some of them ended. -/
def RowsAge (now userId : Int) (shop shop' : Shop) : Prop :=
  ∀ sub', Upgraded shop' userId sub' → shop'.upgrades sub'.id = shop.upgrades sub'.id ∧
    ∃ sub, Upgraded shop userId sub ∧ sub.id = sub'.id ∧ RowAges now sub sub'

lemma RowsAge.refl (now userId : Int) (hdb : shop'.db.subscriptions = shop.db.subscriptions)
    (hupgrades : shop'.upgrades = shop.upgrades) : RowsAge now userId shop shop' := by
  intro sub hsub
  have hstored := hsub.stored
  have hupgrade := hsub.upgrade
  rw [hdb] at hstored
  rw [hupgrades] at hupgrade
  exact ⟨by rw [hupgrades], sub, ⟨hstored, hsub.user, hupgrade⟩, rfl, .same⟩

/-- A step that buys no upgrade keeps the invariant if it moves the user to `g`, or leaves the group
and the upgrade that accounts for it alone. -/
lemma GroupKept.age (h : GroupKept g userId ⟨shop, clock⟩) (hle : clock ≤ now)
    (hage : RowsAge now userId shop shop')
    (hgroup : shop'.groupOf userId = g ∨ (shop'.groupOf userId = shop.groupOf userId ∧
      ∀ bought sub, bought ≤ clock → InForce g userId shop bought sub →
        Upgraded shop' userId sub)) :
    GroupKept g userId ⟨shop', now⟩ where
  columns sub' hsub' := by
    obtain ⟨hcolumns, sub, hsub, hid, -⟩ := hage sub' hsub'
    have hfrom := h.columns sub hsub
    rw [hid] at hfrom
    rw [hcolumns]
    exact hfrom
  expired sub' hsub' hstatus := by
    obtain ⟨-, sub, hsub, -, hrow⟩ := hage sub' hsub'
    cases hrow with
    | same => exact (h.expired sub' hsub hstatus).trans hle
    | cancelled hcancelled => exact absurd (hcancelled.symm.trans hstatus) (by decide)
    | expired hactive hend => exact hend
  ends sub' hsub' hstatus := by
    obtain ⟨-, sub, hsub, -, hrow⟩ := hage sub' hsub'
    cases hrow with
    | same => exact h.ends sub' hsub hstatus
    | cancelled hcancelled => exact absurd (hcancelled.symm.trans hstatus) (by decide)
    | expired hactive hend => cases hstatus
  group := by
    rcases hgroup with hback | ⟨hsame, hkept⟩
    · exact .inl hback
    rcases h.group with hg | ⟨bought, sub, hbought, hforce⟩
    · exact .inl (hsame.trans hg)
    have hsub' := hkept bought sub hbought hforce
    have hcolumns := (hage sub hsub').1
    refine .inr ⟨bought, sub, hbought.trans hle, hsub', hforce.active, ?_, ?_, hforce.running, ?_⟩
    · rw [hcolumns, ← hforce.group]
      exact hsame
    · rw [hcolumns]
      exact hforce.moved
    · intro other' hother' hne hstatus
      obtain ⟨-, other, hother, hid, hrow⟩ := hage other' hother'
      rw [← hid] at hne
      cases hrow with
      | same => exact hforce.others other' hother hne hstatus
      | cancelled hcancelled =>
        rw [hcancelled] at hstatus
        rcases hstatus with hstatus | hstatus <;> cases hstatus
      | expired hactive hend => exact hforce.others other hother hne (.inl hactive)

/-- Time passes. -/
lemma GroupKept.wait (h : GroupKept g userId ⟨shop, clock⟩) (hle : clock ≤ now) :
    GroupKept g userId ⟨shop, now⟩ :=
  h.age hle (.refl now userId rfl rfl) (.inr ⟨rfl, fun _ _ _ hforce => hforce.toUpgraded⟩)

/-! ## Moving the user back -/

section Back

/-- A group name with nothing to trim. -/
structure OrdinaryGroup (g : String) : Prop where
  nonempty : g ≠ ""
  trimmed : trimSpace g = g

/-- Whoever is moved back is moved to `g`. -/
lemma Shop.Undoes.prev_eq (h : shop.Undoes userId sub) (hg : OrdinaryGroup g)
    (hcolumns : FromGroup g (shop.upgrades sub.id)) :
    trimSpace (shop.upgrades sub.id).prevUserGroup = g := by
  have hprev := h.prev
  rw [hcolumns.prev] at hprev ⊢
  split_ifs at hprev ⊢ with heq
  · exact absurd rfl hprev
  · exact hg.trimmed

/-- The upgrade that accounts for the group can be undone. -/
lemma InForce.undoes (h : InForce g userId shop bought sub) (hg : OrdinaryGroup g)
    (hcolumns : FromGroup g (shop.upgrades sub.id)) : shop.Undoes userId sub := by
  have hprev : trimSpace (shop.upgrades sub.id).prevUserGroup = g := by
    rw [hcolumns.prev, if_neg h.moved, hg.trimmed]
  refine ⟨?_, ?_, ?_, ?_⟩
  · rw [hcolumns.trimmed]
    exact h.upgrade
  · rw [hprev]
    exact hg.nonempty
  · rw [hcolumns.trimmed]
    exact h.group
  · rw [hprev, h.group]
    exact h.moved

lemma GroupKept.groupOf_ne (h : GroupKept g userId ⟨shop, clock⟩) (hg : OrdinaryGroup g) :
    shop.groupOf userId ≠ "" := by
  rcases h.group with hgroup | ⟨bought, sub, -, hforce⟩
  · rw [hgroup]
    exact hg.nonempty
  · rw [hforce.group]
    exact hforce.upgrade

end Back

/-! ## Ending a subscription -/

section End

variable {base downgraded : Shop} {ended : UserSubscription}

lemma Upgraded.of_kept (h : Upgraded shop userId sub)
    (hget : shop'.db.subscriptions.get? sub.id = some sub)
    (hcolumns : shop'.upgrades sub.id = shop.upgrades sub.id) : Upgraded shop' userId sub := by
  refine ⟨hget, h.user, ?_⟩
  rw [hcolumns]
  exact h.upgrade

section

variable (h : GroupKept g userId ⟨shop, clock⟩) (hg : OrdinaryGroup g) (hle : clock ≤ now)

include h hg hle

/-- The downgrade for an ended row moves the user back to `g`, or leaves the group alone and the row
did not account for it. In the tables `base` only the ended row may differ. -/
lemma GroupKept.downgrade (hget : shop.db.subscriptions.get? sub.id = some sub)
    (hdowngrade : downgradeUserGroupForSubscriptionTx base ended now = .ok downgraded)
    (hid : ended.id = sub.id) (huser : ended.userId = sub.userId) (husers : base.users = shop.users)
    (hupgrades : base.upgrades = shop.upgrades)
    (hrows : ∀ other ∈ base.db.subscriptions.rows, other.id ≠ sub.id →
      shop.db.subscriptions.get? other.id = some other) :
    downgraded.groupOf userId = g ∨ (downgraded.groupOf userId = shop.groupOf userId ∧
      ∀ bought s, bought ≤ clock → InForce g userId shop bought s → s.id ≠ sub.id) := by
  have hgroupOf (id : Int) : base.groupOf id = shop.groupOf id := by
    unfold groupOf
    rw [husers]
  have hstored {bought : Int} {s : UserSubscription} (hforce : InForce g userId shop bought s)
      (heq : s.id = sub.id) : s = sub := by
    have hsame := hforce.stored
    rw [heq, hget] at hsame
    exact (Option.some.inj hsame).symm
  by_cases hown : sub.userId = userId
  · rcases downgradeGroup_cases hdowngrade with ⟨rfl, hblocked⟩ | ⟨hback, rfl⟩
    · refine .inr ⟨hgroupOf userId, fun bought s hbought hforce heq => ?_⟩
      -- the row that accounts for the group would have been undone: nothing else is running
      obtain rfl := hstored hforce heq
      have hundoes := hforce.undoes hg (h.columns s hforce.toUpgraded)
      have hundoes' : downgraded.Undoes ended.userId ended := by
        constructor <;> rw [hid, hupgrades]
        · exact hundoes.upgrade
        · exact hundoes.prev
        · rw [huser, hown, hgroupOf]
          exact hundoes.current
        · rw [huser, hown, hgroupOf]
          exact hundoes.moved
      obtain ⟨other, hmem, hupgrading, hne⟩ := hblocked hundoes'
      obtain ⟨hotherUser, hactive, hrunning, hupgrade⟩ := of_decide_eq_true hupgrading
      rw [hid] at hne
      rw [hupgrades] at hupgrade
      have hother : Upgraded shop userId other :=
        ⟨hrows other hmem hne, hotherUser.trans (huser.trans hown), hupgrade⟩
      have hend := hforce.others other hother hne (.inl hactive)
      omega
    · refine .inl ?_
      have hne : base.groupOf userId ≠ "" := by
        rw [hgroupOf]
        exact h.groupOf_ne hg
      rw [huser, hown] at hback ⊢
      have hcolumns : FromGroup g (base.upgrades ended.id) := by
        rw [hid, hupgrades]
        refine h.columns sub ⟨hget, hown, fun hblank => hback.upgrade ?_⟩
        rw [hid, hupgrades, hblank]
        rfl
      rw [groupOf_setGroup hne, hback.prev_eq hg hcolumns]
  · refine .inr ⟨?_, fun bought s _ hforce heq => hown (hstored hforce heq ▸ hforce.user)⟩
    rcases downgradeGroup_cases hdowngrade with ⟨rfl, -⟩ | ⟨-, rfl⟩
    · exact hgroupOf userId
    · rw [huser, groupOf_setGroup_of_ne hown, hgroupOf]

lemma GroupKept.cancelled (hget : shop.db.subscriptions.get? id = some sub)
    (hdowngrade : downgradeUserGroupForSubscriptionTx
      (shop.withDB (shop.db.saveSubscription { sub with status := .cancelled, endTime := now }))
      { sub with status := .cancelled, endTime := now } now = .ok downgraded) :
    GroupKept g userId ⟨downgraded, now⟩ := by
  obtain rfl : sub.id = id := key_of_get? hget
  have hgroup := h.downgrade hg hle hget hdowngrade rfl rfl rfl rfl fun other hmem hne => by
    rcases mem_put.mp hmem with rfl | ⟨hrow, -⟩
    · exact absurd rfl hne
    · exact get?_of_mem hrow
  obtain ⟨users, rfl⟩ := downgradeGroup_users hdowngrade
  refine h.age hle ?_ (hgroup.imp_right fun ⟨hsame, hother⟩ =>
    ⟨hsame, fun bought s hbought hforce => ?_⟩)
  · intro row hrow
    have hstored :
      (shop.db.subscriptions.put { sub with status := .cancelled, endTime := now }).get?
        row.id = some row := hrow.stored
    refine ⟨rfl, ?_⟩
    rw [get?_put] at hstored
    split_ifs at hstored with hkey
    · obtain rfl := Option.some.inj hstored
      exact ⟨sub, ⟨hget, hrow.user, hrow.upgrade⟩, rfl, .cancelled rfl⟩
    · exact ⟨row, ⟨hstored, hrow.user, hrow.upgrade⟩, rfl, .same⟩
  · refine hforce.toUpgraded.of_kept ?_ rfl
    refine (get?_put_of_ne shop.db.subscriptions ?_).trans hforce.stored
    exact (hother bought s hbought hforce).symm

lemma GroupKept.deleted (hget : shop.db.subscriptions.get? id = some sub)
    (hdowngrade : downgradeUserGroupForSubscriptionTx shop sub now = .ok downgraded) :
    GroupKept g userId ⟨downgraded.deleteSubscription id, now⟩ := by
  obtain rfl : sub.id = id := key_of_get? hget
  have hgroup := h.downgrade hg hle hget hdowngrade rfl rfl rfl rfl
    fun other hmem _ => get?_of_mem hmem
  obtain ⟨users, rfl⟩ := downgradeGroup_users hdowngrade
  refine h.age hle ?_ (hgroup.imp_right fun ⟨hsame, hother⟩ =>
    ⟨hsame, fun bought s hbought hforce => ?_⟩)
  · intro row hrow
    obtain ⟨hstored, -⟩ := get?_filter_eq_some.mp hrow.stored
    exact ⟨rfl, row, ⟨hstored, hrow.user, hrow.upgrade⟩, rfl, .same⟩
  · refine hforce.toUpgraded.of_kept (get?_filter_eq_some.mpr ⟨hforce.stored, ?_⟩) rfl
    exact decide_eq_true (hother bought s hbought hforce)

end

end End

/-! ## The expiry job -/

section Expiry

lemma Shop.lastExpired_upgraded (h : shop.lastExpired userId = some sub) :
    Upgraded shop userId sub := by
  obtain ⟨hmem, hsub⟩ := List.mem_filter.mp ((List.mem_insertionSort _).mp (List.mem_of_head? h))
  obtain ⟨huser, -, hupgrade⟩ := of_decide_eq_true hsub
  exact ⟨get?_of_mem hmem, huser, hupgrade⟩

lemma Shop.lastExpired_eq (hsub : Upgraded shop userId sub) (hstatus : sub.status = .expired)
    (hlast : ∀ other, Upgraded shop userId other → other.status = .expired → other.id ≠ sub.id →
      other.endTime < sub.endTime) :
    shop.lastExpired userId = some sub := by
  have htotal : Std.Total fun a b : UserSubscription => endsLater a b = true :=
    ⟨fun a b => by simp only [endsLater, decide_eq_true_eq]; omega⟩
  have htrans : IsTrans UserSubscription fun a b => endsLater a b = true :=
    ⟨fun a b c => by simp only [endsLater, decide_eq_true_eq]; omega⟩
  unfold lastExpired
  set rows := shop.db.subscriptions.rows.filter fun sub =>
    sub.userId = userId ∧ sub.status = .expired ∧ (shop.upgrades sub.id).upgradeGroup ≠ ""
  have hrows {other : UserSubscription} (hmem : other ∈ rows) :
      Upgraded shop userId other ∧ other.status = .expired := by
    obtain ⟨hmem, hother⟩ := List.mem_filter.mp hmem
    obtain ⟨huser, hexpired, hupgrade⟩ := of_decide_eq_true hother
    exact ⟨⟨get?_of_mem hmem, huser, hupgrade⟩, hexpired⟩
  have hperm := List.perm_insertionSort (fun a b => endsLater a b = true) rows
  have hsorted := List.pairwise_insertionSort (fun a b => endsLater a b = true) rows
  have hmem : sub ∈ rows := List.mem_filter.mpr
    ⟨mem_of_get? hsub.stored, decide_eq_true ⟨hsub.user, hstatus, hsub.upgrade⟩⟩
  have hmem := hperm.mem_iff.mpr hmem
  cases hsort : rows.insertionSort fun a b => endsLater a b = true with
  | nil =>
    rw [hsort] at hmem
    cases hmem
  | cons first rest =>
    rw [hsort] at hmem hsorted
    rcases List.mem_cons.mp hmem with rfl | hrest
    · rfl
    -- the head of the list ends no earlier than `sub`, so it is `sub`
    obtain ⟨hfirst, hexpired⟩ := hrows (hperm.mem_iff.mp (hsort ▸ List.mem_cons_self))
    have hlater := (List.pairwise_cons.mp hsorted).1 sub hrest
    simp only [endsLater, decide_eq_true_eq] at hlater
    by_cases hid : first.id = sub.id
    · have hsame := hfirst.stored
      rw [hid, hsub.stored] at hsame
      exact hsame.symm
    · have := hlast first hfirst hexpired hid
      omega

lemma Shop.get?_expireRows (owner : Int) {row : UserSubscription}
    (hget : (shop.expireRows owner now).db.subscriptions.get? row.id = some row) :
    ∃ old, shop.db.subscriptions.get? old.id = some old ∧ expireRow owner now old = row := by
  unfold Shop.expireRows at hget
  rw [Shop.withDB_db, get?_mapRows] at hget
  obtain ⟨old, hold, hexpire⟩ := Option.map_eq_some_iff.mp hget
  exact ⟨old, get?_of_mem (mem_of_get? hold), hexpire⟩

lemma Shop.expireRows_age (shop : Shop) (owner now userId : Int) :
    RowsAge now userId shop (shop.expireRows owner now) := by
  intro row hrow
  obtain ⟨old, hold, hexpire⟩ := get?_expireRows owner hrow.stored
  have hid : old.id = row.id := by
    rw [← hexpire, expireRow_id]
  have hupgrade : (shop.upgrades old.id).upgradeGroup ≠ "" := by
    rw [hid]
    exact hrow.upgrade
  refine ⟨rfl, old, ?_⟩
  unfold expireRow at hexpire
  split_ifs at hexpire with hdue
  · obtain ⟨-, hended⟩ := hdue
    obtain ⟨hactive, -, hend⟩ := of_decide_eq_true hended
    subst hexpire
    exact ⟨⟨hold, hrow.user, hupgrade⟩, rfl, .expired hactive hend⟩
  · subst hexpire
    exact ⟨⟨hold, hrow.user, hupgrade⟩, rfl, .same⟩

lemma Upgraded.expireRows (h : Upgraded shop userId sub)
    (hdue : ¬(sub.userId = owner ∧ hasEnded sub now)) :
    Upgraded (shop.expireRows owner now) userId sub := by
  refine h.of_kept ?_ rfl
  unfold Shop.expireRows
  rw [Shop.withDB_db, get?_mapRows, h.stored, Option.map_some, expireRow, if_neg hdue]

lemma InForce.due_undone (hkept : GroupKept g userId ⟨shop, now⟩) (hg : OrdinaryGroup g)
    (hbought : bought ≤ now) (h : InForce g userId shop bought sub)
    (hended : hasEnded sub now = true) :
    ∃ last, (shop.expireRows userId now).lastExpired userId = some last ∧
      (shop.expireRows userId now).Undoes userId last ∧
      ∀ other ∈ (shop.expireRows userId now).db.subscriptions.rows,
        (shop.expireRows userId now).isUpgrading userId now other = false := by
  have hage := shop.expireRows_age userId now userId
  have hundoes := h.undoes hg (hkept.columns sub h.toUpgraded)
  refine ⟨{ sub with status := .expired }, ?_, ⟨hundoes.upgrade, hundoes.prev, hundoes.current,
    hundoes.moved⟩, ?_⟩
  · have hrow : Upgraded (shop.expireRows userId now) userId { sub with status := .expired } := by
      refine ⟨?_, h.user, h.upgrade⟩
      unfold Shop.expireRows
      rw [Shop.withDB_db, get?_mapRows, h.stored, Option.map_some, expireRow,
        if_pos ⟨h.user, hended⟩]
    refine lastExpired_eq hrow rfl fun other' hother' hexpired hne => ?_
    obtain ⟨-, other, hother, hid, hages⟩ := hage other' hother'
    have hrunning := h.running
    have hne' : other.id ≠ sub.id := hid ▸ hne
    cases hages with
    | same => exact (h.others other' hother hne' (.inr hexpired)).trans_lt hrunning
    | cancelled hcancelled => exact absurd (hcancelled.symm.trans hexpired) (by decide)
    | expired hactive hend => exact (h.others other hother hne' (.inl hactive)).trans_lt hrunning
  · intro other' hmem
    rw [← Bool.not_eq_true]
    intro hupgrading
    obtain ⟨huser, hactive, hrunning, hupgrade⟩ := of_decide_eq_true hupgrading
    obtain ⟨-, other, hother, hid, hages⟩ := hage other' ⟨get?_of_mem hmem, huser, hupgrade⟩
    cases hages with
    | same =>
      -- it has not been expired, so it is another one, and the others have ended
      by_cases hne : other'.id = sub.id
      · have hsame := hother.stored
        rw [hne, h.stored] at hsame
        obtain rfl := Option.some.inj hsame
        obtain ⟨-, -, hend⟩ := of_decide_eq_true hended
        omega
      · have := h.others other' hother hne (.inl hactive)
        omega
    | cancelled hcancelled => exact absurd (hcancelled.symm.trans hactive) (by decide)
    | expired hold hend => cases hactive

lemma GroupKept.userExpired (h : GroupKept g userId ⟨shop, now⟩) (hg : OrdinaryGroup g)
    (owner : Int) : GroupKept g userId ⟨expireDueUser now shop owner, now⟩ := by
  have hage := shop.expireRows_age owner now userId
  rcases expireDueUser_cases now shop owner with ⟨heq, hblocked⟩ | ⟨last, hlast, heq, hundoes⟩
  · rw [heq]
    refine h.age le_rfl hage (.inr ⟨rfl, fun bought sub hbought hforce =>
      hforce.toUpgraded.expireRows fun hdue => ?_⟩)
    -- otherwise the job would have moved the user back
    obtain rfl : userId = owner := hforce.user.symm.trans hdue.1
    obtain ⟨last, hlast, hundoes, hnone⟩ := hforce.due_undone h hg hbought hdue.2
    obtain ⟨other, hmem, hupgrading⟩ := hblocked last hlast hundoes
    exact absurd hupgrading (Bool.eq_false_iff.mp (hnone other hmem))
  · obtain ⟨users, hresult⟩ := expireDueUser_users now shop owner
    refine h.age le_rfl (fun row hrow => ?_) ?_
    · rw [hresult] at hrow ⊢
      exact hage row ⟨hrow.stored, hrow.user, hrow.upgrade⟩
    rw [heq]
    by_cases hown : owner = userId
    · subst hown
      have hsub := lastExpired_upgraded hlast
      obtain ⟨-, old, hold, hid, -⟩ := hage last hsub
      have hcolumns := h.columns old hold
      rw [hid] at hcolumns
      have hne : (shop.expireRows owner now).groupOf owner ≠ "" := h.groupOf_ne hg
      refine .inl ?_
      rw [groupOf_setGroup hne]
      exact hundoes.prev_eq hg hcolumns
    · refine .inr ⟨groupOf_setGroup_of_ne hown _, fun bought sub hbought hforce => ?_⟩
      have hkept : Upgraded (shop.expireRows owner now) userId sub :=
        hforce.toUpgraded.expireRows fun hdue => hown (hdue.1.symm.trans hforce.user)
      rw [← heq, hresult]
      exact ⟨hkept.stored, hkept.user, hkept.upgrade⟩

end Expiry

/-! ## Buying an upgrade -/

/-- The plan, bought now, ends later. -/
def endsAhead (env : ShopEnv) (nowUnix : Int) (terms : PlanTerms) : Bool :=
  match calcPlanEndTime env nowUnix terms with
  | .error _ => true
  | .ok endUnix => nowUnix < endUnix ∧ 0 < endUnix

/-- A purchase of an upgrade by the user finds the user in `g` and no upgrade running, and its end
lies ahead. -/
def TimedShop.upgradesAlone (env : ShopEnv) (g : String) (userId : Int) (state : TimedShop) :
    ShopOp → Bool
  | .createSubscription nowUnix _ buyer planId =>
    match getSubscriptionPlanByIdTx state.shop.db planId with
    | .error _ => true
    | .ok plan =>
      (buyer ≠ userId ∨ trimSpace (state.shop.termsOf plan).upgradeGroup = "") ∨
        state.shop.groupOf userId = g ∧
        (∀ sub ∈ state.shop.db.subscriptions.rows,
          state.shop.isUpgrading userId nowUnix sub = false) ∧
        endsAhead env nowUnix (state.shop.termsOf plan)
  | _ => true

section Purchase

variable {env : ShopEnv} {buyer nowUnix : Int} {plan : SubscriptionPlan} {new : UserSubscription}

/-- The tables after the sale of a regular plan. -/
def Shop.sellRegular (shop : Shop) (buyer : Int) (plan : SubscriptionPlan)
    (new : UserSubscription) : Shop :=
  (shop.upgradeUser buyer plan).createSubscription new (shop.upgradeFor buyer plan)

lemma Shop.sellRegular_subscriptions :
    (shop.sellRegular buyer plan new).db.subscriptions = shop.db.subscriptions.put new := by
  obtain ⟨users, heq⟩ := shop.upgradeUser_eq buyer plan
  unfold Shop.sellRegular
  rw [heq]
  rfl

lemma Shop.sellRegular_upgrades :
    (shop.sellRegular buyer plan new).upgrades =
      Function.update shop.upgrades new.id (shop.upgradeFor buyer plan) := by
  obtain ⟨users, heq⟩ := shop.upgradeUser_eq buyer plan
  unfold Shop.sellRegular
  rw [heq]
  rfl

lemma Shop.sellRegular_groupOf :
    (shop.sellRegular buyer plan new).groupOf userId =
      (shop.upgradeUser buyer plan).groupOf userId := by
  unfold Shop.sellRegular groupOf
  rw [Shop.createSubscription_users]

lemma Upgraded.of_sellRegular (hnew : RegularCreated env shop nowUnix buyer plan new)
    (h : Upgraded (shop.sellRegular buyer plan new) userId sub) :
    (sub.id ≠ new.id ∧ Upgraded shop userId sub) ∨
      (sub = new ∧ buyer = userId ∧ trimSpace (shop.termsOf plan).upgradeGroup ≠ "") := by
  obtain ⟨hstored, huser, hupgrade⟩ := h
  rw [sellRegular_subscriptions, get?_put] at hstored
  rw [sellRegular_upgrades] at hupgrade
  split_ifs at hstored with hid
  · obtain rfl := Option.some.inj hstored
    rw [Function.update_self] at hupgrade
    exact .inr ⟨rfl, hnew.userId.symm.trans huser, hupgrade⟩
  · rw [Function.update_of_ne (Ne.symm hid)] at hupgrade
    exact .inl ⟨Ne.symm hid, hstored, huser, hupgrade⟩

lemma Upgraded.sellRegular (hnew : RegularCreated env shop nowUnix buyer plan new)
    (h : Upgraded shop userId sub) : Upgraded (shop.sellRegular buyer plan new) userId sub := by
  have hne : sub.id ≠ new.id := by
    intro heq
    have hstored := h.stored
    rw [heq, hnew.id, shop.get?_nextSubscriptionId] at hstored
    cases hstored
  refine h.of_kept ?_ ?_
  · rw [sellRegular_subscriptions, get?_put_of_ne _ hne.symm]
    exact h.stored
  · rw [sellRegular_upgrades, Function.update_of_ne hne]

lemma GroupKept.otherSold (h : GroupKept g userId ⟨shop, clock⟩) (hle : clock ≤ nowUnix)
    (hnew : RegularCreated env shop nowUnix buyer plan new)
    (hother : buyer ≠ userId ∨ trimSpace (shop.termsOf plan).upgradeGroup = "") :
    GroupKept g userId ⟨shop.sellRegular buyer plan new, nowUnix⟩ := by
  refine h.age hle ?_ (.inr ⟨?_, fun _ _ _ hforce => hforce.toUpgraded.sellRegular hnew⟩)
  · intro sub hsub
    rcases hsub.of_sellRegular hnew with ⟨hne, hold⟩ | ⟨-, hbuyer, hupgrade⟩
    · refine ⟨?_, sub, hold, rfl, .same⟩
      rw [sellRegular_upgrades, Function.update_of_ne hne]
    · exact (hother.elim (· hbuyer) hupgrade).elim
  · rw [sellRegular_groupOf, Shop.upgradeUser]
    split_ifs with hmoved
    · exact groupOf_setGroup_of_ne (hother.resolve_right hmoved.1) _
    · rfl

lemma GroupKept.upgradeSold (h : GroupKept g userId ⟨shop, clock⟩) (hg : OrdinaryGroup g)
    (hle : clock ≤ nowUnix) (hnew : RegularCreated env shop nowUnix userId plan new)
    (hupgrade : trimSpace (shop.termsOf plan).upgradeGroup ≠ "") (hgroup : shop.groupOf userId = g)
    (hnone : ∀ sub ∈ shop.db.subscriptions.rows, shop.isUpgrading userId nowUnix sub = false)
    (hrunning : nowUnix < new.endTime) (hpos : 0 < new.endTime) :
    GroupKept g userId ⟨shop.sellRegular userId plan new, nowUnix⟩ := by
  have hcolumns : (shop.sellRegular userId plan new).upgrades new.id =
      shop.upgradeFor userId plan := by
    rw [sellRegular_upgrades, Function.update_self]
  have hold {sub : UserSubscription} (hne : sub.id ≠ new.id) :
      (shop.sellRegular userId plan new).upgrades sub.id = shop.upgrades sub.id := by
    rw [sellRegular_upgrades, Function.update_of_ne hne]
  refine ⟨fun sub hsub => ?_, fun sub hsub hstatus => ?_, fun sub hsub hstatus => ?_, ?_⟩
  · rcases hsub.of_sellRegular hnew with ⟨hne, hsub⟩ | ⟨rfl, -⟩
    · dsimp only
      rw [hold hne]
      exact h.columns sub hsub
    · dsimp only
      rw [hcolumns]
      refine ⟨trimSpace_trimSpace _, ?_⟩
      simp only [upgradeFor, hgroup, hupgrade, ne_eq, not_false_eq_true, true_and,
        eq_comm, ite_not]
  · rcases hsub.of_sellRegular hnew with ⟨-, hsub⟩ | ⟨rfl, -⟩
    · exact (h.expired sub hsub hstatus).trans hle
    · exact absurd (hnew.status.symm.trans hstatus) (by decide)
  · rcases hsub.of_sellRegular hnew with ⟨-, hsub⟩ | ⟨rfl, -⟩
    · exact h.ends sub hsub hstatus
    · exact hpos
  · dsimp only
    rw [sellRegular_groupOf, Shop.upgradeUser]
    split_ifs with hmoved
    · -- the new subscription accounts for the group
      obtain ⟨-, hne⟩ := hmoved
      rw [groupOf_setGroup (h.groupOf_ne hg)]
      refine .inr
        ⟨nowUnix, new, le_rfl, ⟨⟨?_, hnew.userId, ?_⟩, hnew.status, ?_, ?_, hrunning, ?_⟩⟩
      · rw [sellRegular_subscriptions, get?_put, if_pos rfl]
      · rw [hcolumns]
        exact hupgrade
      · rw [hcolumns, sellRegular_groupOf, Shop.upgradeUser, if_pos ⟨hupgrade, hne⟩,
          groupOf_setGroup (h.groupOf_ne hg)]
        rfl
      · rw [hcolumns]
        exact hgroup ▸ hne.symm
      · intro other hother hid hstatus
        rcases hother.of_sellRegular hnew with ⟨-, hother⟩ | ⟨rfl, -⟩
        · rcases hstatus with hactive | hexpired
          · -- it was not running when the new one was bought
            have hidle := hnone other (mem_of_get? hother.stored)
            have := of_decide_eq_false hidle
            by_contra hlater
            exact this ⟨hother.user, hactive, not_le.mp hlater, hother.upgrade⟩
          · exact (h.expired other hother hexpired).trans hle
        · exact absurd rfl hid
    · exact .inl hgroup

end Purchase

/-! ## Runs -/

/-- The calls that create and end regular subscriptions, and the edit of a plan. -/
def ShopOp.isRegular : ShopOp → Bool
  | .createSubscription .. | .expireDue .. | .invalidate .. | .delete .. | .updatePlan .. => true
  | .completeOrder .. | .expireOrder .. | .redeemPackage .. => false

section Run

variable {env : ShopEnv}

/-- The whole job. -/
lemma GroupKept.dueExpired (h : GroupKept g userId ⟨shop, now⟩) (hg : OrdinaryGroup g)
    (limit : Int) : GroupKept g userId ⟨expireDueSubscriptions shop now limit, now⟩ :=
  expireDue_induction (fun shop => GroupKept g userId ⟨shop, now⟩)
    (fun _ owner _ hkept => hkept.userExpired hg owner) limit h

/-- A purchase that meets the condition. -/
lemma GroupKept.regularSold {nowUnix timestamp buyer planId : Int} {plan : SubscriptionPlan}
    {new : UserSubscription} (h : GroupKept g userId state) (hg : OrdinaryGroup g)
    (hle : state.clock ≤ nowUnix)
    (hplan : getSubscriptionPlanByIdTx state.shop.db planId = .ok plan)
    (hnew : RegularCreated env state.shop nowUnix buyer plan new)
    (halone : state.upgradesAlone env g userId
      (.createSubscription nowUnix timestamp buyer planId) = true) :
    GroupKept g userId ⟨state.shop.sellRegular buyer plan new, nowUnix⟩ := by
  rw [TimedShop.upgradesAlone, hplan] at halone
  rcases of_decide_eq_true halone with hother | ⟨hgroup, hnone, hahead⟩
  · exact h.otherSold hle hnew hother
  · by_cases hother : buyer ≠ userId ∨ trimSpace (state.shop.termsOf plan).upgradeGroup = ""
    · exact h.otherSold hle hnew hother
    · obtain ⟨hbuyer, hupgrade⟩ := not_or.mp hother
      obtain rfl := not_not.mp hbuyer
      unfold endsAhead at hahead
      rw [hnew.endTime] at hahead
      obtain ⟨hrunning, hpos⟩ := of_decide_eq_true hahead
      exact h.upgradeSold hg hle hnew hupgrade hgroup hnone hrunning hpos

/-- Every call that meets the condition keeps the invariant. -/
lemma timedShopStep_groupKept (hg : OrdinaryGroup g) {op : ShopOp} (hop : op.isRegular = true)
    (horder : state.inOrder op = true) (halone : state.upgradesAlone env g userId op = true)
    (h : GroupKept g userId state) : GroupKept g userId (timedShopStep env state op) := by
  have hclock := state.clock_le env horder
  have hchange := shopStep_change env state.shop op
  unfold timedShopStep at hclock ⊢
  generalize shopStep env state.shop op = shop' at hchange hclock ⊢
  cases hchange with
  | unchanged => exact h.wait hclock
  | orderExpired => cases hop
  | sold htimes =>
    have hsale : op.saleTimes? = none := by
      cases op <;> first | rfl | cases hop
    rw [hsale] at htimes
    cases htimes
  | regularSold hplan _ _ hnew => exact h.regularSold hg hclock hplan hnew halone
  | expired now limit => exact (h.wait hclock).dueExpired hg limit
  | cancelled hget hdowngrade => exact h.cancelled hg hclock hget hdowngrade
  | deleted hget hdowngrade => exact h.deleted hg hclock hget hdowngrade
  | planUpdated plan terms =>
    exact h.age le_rfl (.refl state.clock userId rfl rfl)
      (.inr ⟨rfl, fun _ _ _ hforce => hforce.toUpgraded.of_kept hforce.stored rfl⟩)

lemma expireDueUser_due (hmem : sub ∈ (expireDueUser now shop owner).db.subscriptions.rows)
    (hended : hasEnded sub now = true) : sub ∈ shop.db.subscriptions.rows ∧ sub.userId ≠ owner := by
  obtain ⟨users, heq⟩ := expireDueUser_users now shop owner
  rw [heq] at hmem
  obtain ⟨old, hold, hexpire⟩ := get?_expireRows owner (get?_of_mem hmem)
  unfold expireRow at hexpire
  split_ifs at hexpire with hdue
  · subst hexpire
    cases (of_decide_eq_true hended).1
  · subst hexpire
    exact ⟨mem_of_get? hold, fun howner => hdue ⟨howner, hended⟩⟩

/-- The job looks at the user if a subscription of the user is due. -/
def Shop.reaches (shop : Shop) (now limit userId : Int) : Bool :=
  shop.db.subscriptions.rows.all fun sub =>
    decide (sub.userId = userId ∧ hasEnded sub now) → userId ∈ dueUsers shop now limit

lemma expireDue_none_due {limit : Int} (hreaches : shop.reaches now limit userId = true)
    (hmem : sub ∈ (expireDueSubscriptions shop now limit).db.subscriptions.rows)
    (huser : sub.userId = userId) : hasEnded sub now = false := by
  rw [← Bool.not_eq_true]
  intro hended
  -- going back through the users, the row was due before each of them and belongs to none
  have hback (owners : List Int) (state : Shop)
      (hrow : sub ∈ (owners.foldl (expireDueUser now) state).db.subscriptions.rows) :
      sub ∈ state.db.subscriptions.rows ∧ userId ∉ owners := by
    induction owners generalizing state with
    | nil => exact ⟨hrow, List.not_mem_nil⟩
    | cons owner owners ih =>
      obtain ⟨hstep, hrest⟩ := ih (expireDueUser now state owner) hrow
      obtain ⟨hbefore, howner⟩ := expireDueUser_due hstep hended
      rw [huser] at howner
      exact ⟨hbefore, fun hin => (List.mem_cons.mp hin).elim howner hrest⟩
  obtain ⟨hbefore, hout⟩ := hback _ shop hmem
  have hin := of_decide_eq_true (List.all_eq_true.mp hreaches sub hbefore)
  exact hout (hin (decide_eq_true ⟨huser, hended⟩))

end Run

/-- Let a user be in the group `g` before the first upgrade, and let every upgrade be bought from
`g` while no other is running. Then the user is in `g` whenever no subscription with an upgrade
group is active, and whenever the expiry job has run and no upgrade is running. -/
theorem group_restored (env : ShopEnv) (g : String) (hg : OrdinaryGroup g) (userId : Int)
    (start : TimedShop) (hgroup : start.shop.groupOf userId = g)
    (hnone : ∀ sub, ¬Upgraded start.shop userId sub) (ops : List ShopOp)
    (hops : ∀ op ∈ ops, op.isRegular = true)
    (horder : Along (timedShopStep env) (fun state op => state.inOrder op = true) start ops)
    (halone : Along (timedShopStep env)
      (fun state op => state.upgradesAlone env g userId op = true) start ops) :
    ((∀ sub, Upgraded (exec (timedShopStep env) start ops).shop userId sub →
        sub.status ≠ .active) →
      (exec (timedShopStep env) start ops).shop.groupOf userId = g) ∧
    ∀ now limit, (exec (timedShopStep env) start ops).clock ≤ now →
      (exec (timedShopStep env) start ops).shop.reaches now limit userId = true →
      (∀ sub ∈ (expireDueSubscriptions (exec (timedShopStep env) start ops).shop now
          limit).db.subscriptions.rows,
        (expireDueSubscriptions (exec (timedShopStep env) start ops).shop now
          limit).isUpgrading userId now sub = false) →
      (expireDueSubscriptions (exec (timedShopStep env) start ops).shop now limit).groupOf
        userId = g := by
  have hstart : GroupKept g userId start :=
    ⟨fun sub hsub => absurd hsub (hnone sub), fun sub hsub => absurd hsub (hnone sub),
      fun sub hsub => absurd hsub (hnone sub), .inl hgroup⟩
  have hkept : GroupKept g userId (exec (timedShopStep env) start ops) := by
    refine exec_induction (GroupKept g userId) ?_ hstart
      ((horder.and halone).and_of_forall_mem hops)
    rintro state op hstate ⟨⟨hin, hcondition⟩, hop⟩
    exact timedShopStep_groupKept hg hop hin hcondition hstate
  generalize exec (timedShopStep env) start ops = state at hkept ⊢
  -- an active upgrade is the only thing that keeps the user out of `g`
  have hback {reached : TimedShop} (h : GroupKept g userId reached)
      (hinactive : ∀ sub, Upgraded reached.shop userId sub → sub.status ≠ .active) :
      reached.shop.groupOf userId = g := by
    rcases h.group with hin | ⟨bought, sub, -, hforce⟩
    · exact hin
    · exact absurd hforce.active (hinactive sub hforce.toUpgraded)
  refine ⟨hback hkept, fun now limit hle hreaches hidle => ?_⟩
  have hjob := (hkept.wait hle).dueExpired hg limit
  refine hback hjob fun sub hsub hactive => ?_
  have hmem := mem_of_get? hsub.stored
  have hnotDue := of_decide_eq_false (expireDue_none_due hreaches hmem hsub.user)
  have hnotRunning := of_decide_eq_false (hidle sub hmem)
  by_cases hend : now < sub.endTime
  · exact hnotRunning ⟨hsub.user, hactive, hend, hsub.upgrade⟩
  · exact hnotDue ⟨hactive, hjob.ends sub hsub hactive, not_lt.mp hend⟩

/-- A regular plan of a day that moves its buyer to the group "vip". -/
def upgradePlan : ShopOp :=
  .updatePlan ⟨2, .subscription, .other, 0, 0, 100, .never, 0⟩ ⟨0, .day, 1, 0, true, 0, 0, "vip"⟩

/-- The plan is bought, ends, and is bought again; the second subscription is cancelled. -/
def boughtInTurn : List ShopOp :=
  [upgradePlan, .createSubscription 2000 2000 1 2, .expireDue 90000 0,
    .createSubscription 90001 90001 1 2, .invalidate 90002 2]

theorem boughtInTurn_restored :
    (exec (timedShopStep sampleShopEnv) ⟨sampleShop, 1000⟩ (boughtInTurn.take 4)).shop.groupOf
      1 = "vip" ∧
    (exec (timedShopStep sampleShopEnv) ⟨sampleShop, 1000⟩ boughtInTurn).shop.groupOf 1 =
      "default" :=
  ⟨by decide, (group_restored sampleShopEnv "default" ⟨by decide, by decide⟩ 1 ⟨sampleShop, 1000⟩
    (by decide) (fun _ hsub => by cases hsub.stored) boughtInTurn (by decide) (by decide)
    (by decide)).1 fun sub hsub => by
      have hall : ∀ row ∈ (exec (timedShopStep sampleShopEnv) ⟨sampleShop, 1000⟩
        boughtInTurn).shop.db.subscriptions.rows, row.status ≠ .active := by decide
      exact hall sub (mem_of_get? hsub.stored)⟩

/-- The plan is bought twice, and both subscriptions have ended when the job runs. -/
theorem second_upgrade_sticks :
    (sampleShop.groupOf 1 = "default" ∧ ∀ sub, ¬Upgraded sampleShop 1 sub) ∧
    ((exec (timedShopStep sampleShopEnv) ⟨sampleShop, 1000⟩
        [upgradePlan, .createSubscription 2000 2000 1 2, .createSubscription 3000 3000 1 2,
          .expireDue 90000 0]).shop.db.subscriptions.rows.map (·.status)) = [.expired, .expired] ∧
    (exec (timedShopStep sampleShopEnv) ⟨sampleShop, 1000⟩
        [upgradePlan, .createSubscription 2000 2000 1 2, .createSubscription 3000 3000 1 2,
          .expireDue 90000 0]).shop.groupOf 1 = "vip" :=
  ⟨⟨by decide, fun _ hsub => by cases hsub.stored⟩, by decide, by decide⟩

end Yunbay
