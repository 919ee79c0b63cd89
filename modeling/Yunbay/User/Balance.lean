import Yunbay.Data.Workers

/-!
# The balance of a user

Six functions write the columns `quota` and `aff_quota` of a user. Three are single updates. The
others read the row first, without a lock, and write it later: `TransferAffQuotaToQuota` and
`inviteUser` save every column of their copy, and `User.Update`, as `ManageUser` calls it, writes
every column of its copy that is not zero.
-/

namespace Yunbay

open Except Run

/-- The columns of the row that the calls read and change. -/
structure UserRow where
  id : Int
  role : Int
  status : Int
  quota : Int
  affCount : Int
  affQuota : Int
  affHistoryQuota : Int
  deriving DecidableEq

def roleCommonUser : Int := 1
def roleAdminUser : Int := 10
def roleRootUser : Int := 100

def userStatusEnabled : Int := 1
def userStatusDisabled : Int := 2

/-- The errors of the calls, with the message keys of `ManageUser`. -/
inductive UserError where
  | quotaNegative
  | invalidUserId
  | userQuotaNotEnough (need : Int)
  | transferBelowMinimum
  | affQuotaNotEnough
  | emptyId
  | noPermissionHigherLevel
  | cannotDisableRootUser
  | adminCannotPromote
  | alreadyAdmin
  | cannotDemoteRootUser
  | alreadyCommon

/-- The actions of `ManageUser` that end in `User.Update`. -/
inductive ManageAction where
  | disable
  | enable
  | promote
  | demote
  deriving DecidableEq

def canManageTargetRole (myRole targetRole : Int) : Prop :=
  myRole = roleRootUser ∨ targetRole < myRole

instance (myRole targetRole : Int) : Decidable (canManageTargetRole myRole targetRole) :=
  inferInstanceAs (Decidable (_ ∨ _))

/-- `ManageUser` up to its call of `User.Update`, on the row it has read. -/
def manageUser (myRole : Int) (action : ManageAction) (user : UserRow) :
    Except UserError UserRow := do
  check (canManageTargetRole myRole user.role) .noPermissionHigherLevel
  match action with
  | .disable => do
    check (user.role ≠ roleRootUser) .cannotDisableRootUser
    pure { user with status := userStatusDisabled }
  | .enable => pure { user with status := userStatusEnabled }
  | .promote => do
    check (myRole = roleRootUser) .adminCannotPromote
    check (user.role < roleAdminUser) .alreadyAdmin
    pure { user with role := roleAdminUser }
  | .demote => do
    check (user.role ≠ roleRootUser) .cannotDemoteRootUser
    check (user.role ≠ roleCommonUser) .alreadyCommon
    pure { user with role := roleCommonUser }

/-- The column `old` after `Updates` with the field `new`. -/
def updatedField (old new : Int) : Int := if new = 0 then old else new

/-- `DB.Model(user).Updates(newUser)`, which writes the fields of `newUser` that are not zero. -/
def UserRow.updates (row newUser : UserRow) : UserRow where
  id := row.id
  role := updatedField row.role newUser.role
  status := updatedField row.status newUser.status
  quota := updatedField row.quota newUser.quota
  affCount := updatedField row.affCount newUser.affCount
  affQuota := updatedField row.affQuota newUser.affQuota
  affHistoryQuota := updatedField row.affHistoryQuota newUser.affHistoryQuota

/-! ## The calls -/

/-- The calls that are a single update. -/
inductive QuotaUpdate where
  | increaseUserQuota (quota : Int)
  | decreaseUserQuota (quota : Int)
  | decreaseUserQuotaIfEnough (quota : Int)
  deriving DecidableEq

namespace QuotaUpdate

def run (row : UserRow) : QuotaUpdate → Except UserError UserRow
  | .increaseUserQuota quota => pure { row with quota := row.quota + quota }
  | .decreaseUserQuota quota => pure { row with quota := row.quota - quota }
  | .decreaseUserQuotaIfEnough quota => do
    check (0 ≤ quota) .quotaNegative
    if quota = 0 then pure row
    else do
      check (0 < row.id) .invalidUserId
      -- This condition is part of the update.
      check (quota ≤ row.quota) (.userQuotaNotEnough quota)
      pure { row with quota := row.quota - quota }

/-- What a successful call adds to the quota. -/
def quotaChange : QuotaUpdate → Int
  | .increaseUserQuota quota => quota
  | .decreaseUserQuota quota => -quota
  | .decreaseUserQuotaIfEnough quota => -quota

end QuotaUpdate

/-- The calls that read the row and write it later. -/
inductive RowRewrite where
  /-- With the option `QuotaPerUnit` at the time of the call. -/
  | transferAffQuotaToQuota (quotaPerUnit : Rat) (quota : Int)
  /-- With the option `QuotaForInviter` at the time of the call. -/
  | inviteUser (quotaForInviter : Int)
  /-- `User.Update` as `ManageUser` calls it. -/
  | update (myRole : Int) (action : ManageAction)
  deriving DecidableEq

namespace RowRewrite

/-- The copy of the row that the call goes on with. -/
def read (row : UserRow) : RowRewrite → Except UserError UserRow
  | .transferAffQuotaToQuota quotaPerUnit quota => do
    check (quotaPerUnit ≤ quota) .transferBelowMinimum
    pure row
  | .inviteUser _ => do
    check (row.id ≠ 0) .emptyId
    pure row
  | .update _ _ => pure row

/-- What the call makes of its copy. -/
def change (copy : UserRow) : RowRewrite → Except UserError UserRow
  | .transferAffQuotaToQuota _ quota => do
    check (quota ≤ copy.affQuota) .affQuotaNotEnough
    pure { copy with affQuota := copy.affQuota - quota, quota := copy.quota + quota }
  | .inviteUser quotaForInviter =>
    pure { copy with
      affCount := copy.affCount + 1
      affQuota := copy.affQuota + quotaForInviter
      affHistoryQuota := copy.affHistoryQuota + quotaForInviter }
  | .update myRole action => manageUser myRole action copy

/-- The row after the changed copy has been written: `Save` writes all of it. -/
def write (row changed : UserRow) : RowRewrite → UserRow
  | .transferAffQuotaToQuota _ _ => changed
  | .inviteUser _ => changed
  | .update _ _ => row.updates changed

/-- What a successful call adds to the quota. -/
def quotaChange : RowRewrite → Int
  | .transferAffQuotaToQuota _ quota => quota
  | .inviteUser _ => 0
  | .update _ _ => 0

/-- What a successful call adds to the affiliate quota. -/
def affQuotaChange : RowRewrite → Int
  | .transferAffQuotaToQuota _ quota => -quota
  | .inviteUser quotaForInviter => quotaForInviter
  | .update _ _ => 0

/-- The balances that the call puts back are those of the row. -/
def Fresh (row copy : UserRow) : RowRewrite → Prop
  | .update _ _ =>
    (copy.quota ≠ 0 → copy.quota = row.quota) ∧
      (copy.affQuota ≠ 0 → copy.affQuota = row.affQuota)
  | _ => copy.quota = row.quota ∧ copy.affQuota = row.affQuota

end RowRewrite

/-- How far a rewrite has come. -/
inductive RewriteStage where
  | ready
  | read (copy : UserRow)
  | succeeded
  | failed
  deriving DecidableEq

/-- A call that has been made. -/
inductive UserTask where
  /-- With whether it has succeeded, once it is over. -/
  | update (call : QuotaUpdate) (succeeded : Option Bool)
  | rewrite (call : RowRewrite) (stage : RewriteStage)
  deriving DecidableEq

namespace UserTask

def start : QuotaUpdate ⊕ RowRewrite → UserRow → UserTask
  | .inl call, _ => .update call none
  | .inr call, _ => .rewrite call .ready

/-- The next step of a call. With `fails` the database rejects its statement. -/
def act (fails : Bool) (row : UserRow) : UserTask → UserRow × UserTask
  | .update call none =>
    match fails, call.run row with
    | false, .ok row' => (row', .update call (some true))
    | _, _ => (row, .update call (some false))
  | .rewrite call .ready =>
    match fails, call.read row with
    | false, .ok copy => (row, .rewrite call (.read copy))
    | _, _ => (row, .rewrite call .failed)
  | .rewrite call (.read copy) =>
    match fails, call.change copy with
    | false, .ok changed => (call.write row changed, .rewrite call .succeeded)
    | _, _ => (row, .rewrite call .failed)
  | task => (row, task)

/-- What the call has added to the quota. -/
def quotaChange : UserTask → Int
  | .update call (some true) => call.quotaChange
  | .rewrite call .succeeded => call.quotaChange
  | _ => 0

/-- What the call has added to the affiliate quota. -/
def affQuotaChange : UserTask → Int
  | .rewrite call .succeeded => call.affQuotaChange
  | _ => 0

/-- A write of the call puts back the balances that the row has. -/
def PutsBack (fails : Bool) (row : UserRow) : UserTask → Prop
  | .rewrite call (.read copy) =>
    fails = false → (call.change copy).isOk = true → call.Fresh row copy
  | _ => True

end UserTask

/-! ## What one step does to the balances -/

lemma QuotaUpdate.run_balances {row row' : UserRow} {call : QuotaUpdate}
    (h : call.run row = .ok row') :
    row'.quota = row.quota + call.quotaChange ∧ row'.affQuota = row.affQuota := by
  cases call with
  | increaseUserQuota quota =>
    rw [← pure_eq_ok.mp h]
    exact ⟨rfl, rfl⟩
  | decreaseUserQuota quota =>
    rw [← pure_eq_ok.mp h]
    exact ⟨sub_eq_add_neg _ _, rfl⟩
  | decreaseUserQuotaIfEnough quota =>
    rw [run] at h
    obtain ⟨_, h⟩ := of_bind h
    split_ifs at h with hzero
    · rw [← pure_eq_ok.mp h, quotaChange, hzero]
      simp
    · obtain ⟨_, h⟩ := of_bind h
      obtain ⟨_, h⟩ := of_bind h
      rw [← pure_eq_ok.mp h]
      exact ⟨sub_eq_add_neg _ _, rfl⟩

lemma manageUser_balances {myRole : Int} {action : ManageAction} {user changed : UserRow}
    (h : manageUser myRole action user = .ok changed) :
    changed.quota = user.quota ∧ changed.affQuota = user.affQuota := by
  unfold manageUser at h
  obtain ⟨_, h⟩ := of_bind h
  cases action with
  | disable =>
    obtain ⟨_, h⟩ := of_bind h
    simp [← pure_eq_ok.mp h]
  | enable => simp [← pure_eq_ok.mp h]
  | promote | demote =>
    obtain ⟨_, h⟩ := of_bind h
    obtain ⟨_, h⟩ := of_bind h
    simp [← pure_eq_ok.mp h]

lemma updatedField_eq_iff {old new : Int} : updatedField old new = old ↔ (new ≠ 0 → new = old) := by
  unfold updatedField
  split_ifs with hzero <;> simp [hzero]

namespace RowRewrite

lemma change_balances {copy changed : UserRow} {call : RowRewrite}
    (h : call.change copy = .ok changed) :
    changed.quota = copy.quota + call.quotaChange ∧
      changed.affQuota = copy.affQuota + call.affQuotaChange := by
  cases call with
  | transferAffQuotaToQuota quotaPerUnit quota =>
    obtain ⟨_, h⟩ := of_bind h
    rw [← pure_eq_ok.mp h]
    exact ⟨rfl, sub_eq_add_neg _ _⟩
  | inviteUser quotaForInviter =>
    rw [← pure_eq_ok.mp h]
    exact ⟨(add_zero _).symm, rfl⟩
  | update myRole action => simpa [quotaChange, affQuotaChange] using manageUser_balances h

lemma write_balances_iff {row copy changed : UserRow} {call : RowRewrite}
    (h : call.change copy = .ok changed) :
    ((call.write row changed).quota = row.quota + call.quotaChange ∧
      (call.write row changed).affQuota = row.affQuota + call.affQuotaChange) ↔
    call.Fresh row copy := by
  obtain ⟨hquota, haff⟩ := change_balances h
  cases call with
  | transferAffQuotaToQuota | inviteUser =>
    simp [write, Fresh, hquota, haff]
  | update myRole action =>
    simp only [quotaChange, affQuotaChange, add_zero] at hquota haff ⊢
    rw [write, UserRow.updates, hquota, haff]
    exact and_congr updatedField_eq_iff updatedField_eq_iff

end RowRewrite

lemma UserTask.act_balances_iff (fails : Bool) (row : UserRow) (task : UserTask) :
    ((act fails row task).1.quota =
        row.quota - task.quotaChange + (act fails row task).2.quotaChange ∧
      (act fails row task).1.affQuota =
        row.affQuota - task.affQuotaChange + (act fails row task).2.affQuotaChange) ↔
    task.PutsBack fails row := by
  cases task with
  | update call succeeded =>
    refine iff_of_true ?_ trivial
    cases succeeded with
    | some succeeded => simp [act]
    | none =>
      cases fails with
      | true => simp [act, quotaChange, affQuotaChange]
      | false =>
        cases hrun : call.run row with
        | error error => simp [act, hrun, quotaChange, affQuotaChange]
        | ok row' => simp [act, hrun, quotaChange, affQuotaChange, call.run_balances hrun]
  | rewrite call stage =>
    cases stage with
    | ready =>
      refine iff_of_true ?_ trivial
      cases hread : call.read row <;> cases fails <;>
        simp [act, hread, quotaChange, affQuotaChange]
    | read copy =>
      cases fails with
      | true => simp [act, PutsBack, quotaChange, affQuotaChange]
      | false =>
        cases hchange : call.change copy with
        | error error =>
          simp [act, hchange, PutsBack, Except.isOk, Except.toBool, quotaChange,
            affQuotaChange]
        | ok changed =>
          simp [act, hchange, PutsBack, Except.isOk, Except.toBool, quotaChange,
            affQuotaChange, RowRewrite.write_balances_iff hchange]
    | succeeded | failed => exact iff_of_true (by simp [act]) trivial

/-! ## The race -/

/-- The calls on one user. -/
def userRace : Workers.System UserRow UserTask (QuotaUpdate ⊕ RowRewrite) Bool :=
  ⟨UserTask.start, UserTask.act⟩

abbrev UserState := Workers.State UserRow UserTask

abbrev UserMove := Workers.Move (QuotaUpdate ⊕ RowRewrite) Bool

namespace UserState

/-- The sum of the successful changes and transfers. -/
def quotaChange (state : UserState) : Int := (state.workers.map UserTask.quotaChange).sum

/-- The sum of the inviter rewards, less the successful transfers. -/
def affQuotaChange (state : UserState) : Int := (state.workers.map UserTask.affQuotaChange).sum

/-- The balances of the row account for the calls that have succeeded since the row `start`. -/
structure Conserved (start : UserRow) (state : UserState) : Prop where
  quota : state.shared.quota = start.quota + state.quotaChange
  affQuota : state.shared.affQuota = start.affQuota + state.affQuotaChange

/-- If the move writes balances from a copy, they are the balances that the row has. -/
def PutsBack (state : UserState) : UserMove → Prop
  | .spawn _ => True
  | .act ref fails => ∀ task ∈ state.workers[ref]?, task.PutsBack fails state.shared

lemma step_conserved_iff {start : UserRow} {state : UserState} (h : state.Conserved start)
    (move : UserMove) : Conserved start (userRace.step state move) ↔ state.PutsBack move := by
  cases move with
  | spawn input =>
    -- A new call has changed nothing yet.
    refine iff_of_true ⟨?_, ?_⟩ trivial
    · cases input <;>
        simp [Workers.System.step, userRace, UserTask.start, quotaChange, UserTask.quotaChange,
          h.quota]
    · cases input <;>
        simp [Workers.System.step, userRace, UserTask.start, affQuotaChange,
          UserTask.affQuotaChange, h.affQuota]
  | act ref fails =>
    cases hget : state.workers[ref]? with
    | none =>
      rw [userRace.step_act_of_none hget]
      exact iff_of_true h (by simp [PutsBack, hget])
    | some task =>
      have hquota := h.quota
      have haff := h.affQuota
      unfold quotaChange at hquota
      unfold affQuotaChange at haff
      have hput : state.PutsBack (.act ref fails) ↔ task.PutsBack fails state.shared := by
        simp [PutsBack, hget]
      rw [hput, ← UserTask.act_balances_iff, userRace.step_act hget]
      -- The sums change by what the step completes, as the row has to.
      constructor
      · rintro ⟨hquota', haff'⟩
        rw [quotaChange, Workers.sum_map_set _ hget] at hquota'
        rw [affQuotaChange, Workers.sum_map_set _ hget] at haff'
        dsimp only [userRace] at hquota' haff'
        omega
      · rintro ⟨hquota', haff'⟩
        constructor
        · rw [quotaChange, Workers.sum_map_set _ hget]
          dsimp only [userRace]
          omega
        · rw [affQuotaChange, Workers.sum_map_set _ hget]
          dsimp only [userRace]
          omega

end UserState

/-- The balances account for all successful calls, in every state of a run, exactly when every write
of the run puts back the balances that the row has. -/
theorem balance_conserved_iff (row : UserRow) (moves : List UserMove) :
    (∀ front, front <+: moves →
      UserState.Conserved row (exec userRace.step ⟨row, []⟩ front)) ↔
    Along userRace.step UserState.PutsBack ⟨row, []⟩ moves := by
  have hinit : UserState.Conserved row ⟨row, []⟩ :=
    ⟨(add_zero _).symm, (add_zero _).symm⟩
  apply forall_prefix_iff_along (UserState.Conserved row) (UserState.Conserved row)
  · exact fun state h => h
  · exact fun state move h hput => (UserState.step_conserved_iff h move).mpr hput
  · exact fun state move h hafter => (UserState.step_conserved_iff h move).mp hafter
  · exact hinit

/-- An administrator reads the user, a payment of `50` comes in, and the administrator's call to
disable the user is completed. -/
def disabledMeanwhile : List UserMove :=
  [.spawn (.inr (.update roleRootUser .disable)), .act 0 false,
    .spawn (.inl (.increaseUserQuota 50)), .act 1 false, .act 0 false]

def payingUser : UserRow := ⟨7, roleCommonUser, userStatusEnabled, 100, 0, 0, 0⟩

/-- Both calls succeed, and the user does not have the payment. -/
theorem disable_undoes_payment :
    (exec userRace.step ⟨payingUser, []⟩ disabledMeanwhile).workers =
        [.rewrite (.update roleRootUser .disable) .succeeded,
          .update (.increaseUserQuota 50) (some true)] ∧
      (exec userRace.step ⟨payingUser, []⟩ disabledMeanwhile).shared.quota = 100 ∧
      ¬ UserState.Conserved payingUser
        (exec userRace.step ⟨payingUser, []⟩ disabledMeanwhile) := by
  refine ⟨by decide, by decide, fun h => ?_⟩
  exact absurd h.quota (by decide)

end Yunbay
