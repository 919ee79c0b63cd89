import Yunbay.Billing.TokenRace

/-!
# Tokens that run out

`ValidateUserToken` marks a token as exhausted when it finds no quota left. The mark stays: the
functions that give quota back to the token write its quota only, and a request that still holds a
reservation gives it back after the mark has been set. Each call is one step here, without Redis
and batch updates.
-/

namespace Yunbay

open Run

/-- `TokenStatusEnabled` and the others. -/
inductive TokenStatus where
  | enabled
  | disabled
  | expired
  | exhausted
  deriving DecidableEq

/-- The columns that the validation and the updates of the quota use. -/
structure UserToken extends Token where
  usedQuota : Int
  status : TokenStatus
  /-- `-1` for never. -/
  expiredTime : Int

namespace UserToken

/-- Whether the token is accepted, and the token with its status written by `SelectUpdate`. -/
def validateUserToken (now : Int) (token : UserToken) : Bool × UserToken :=
  if token.status ≠ .enabled then (false, token)
  else if token.expiredTime ≠ -1 ∧ token.expiredTime < now then
    (false, { token with status := .expired })
  else if ¬token.unlimitedQuota ∧ token.remainQuota ≤ 0 then
    (false, { token with status := .exhausted })
  else (true, token)

def increaseTokenQuota (quota : Int) (token : UserToken) : UserToken :=
  if quota < 0 then token
  else
    { token with remainQuota := token.remainQuota + quota, usedQuota := token.usedQuota - quota }

def decreaseTokenQuota (quota : Int) (token : UserToken) : UserToken :=
  if quota < 0 then token
  else
    { token with remainQuota := token.remainQuota - quota, usedQuota := token.usedQuota + quota }

def preConsumeTokenQuota (info : RelayInfo) (quota : Int) (token : UserToken) : UserToken :=
  match checkTokenQuota info token.toToken quota with
  | .ok (some quota) => token.decreaseTokenQuota quota
  | _ => token

/-- A call by one of the requests with the token. -/
inductive Call where
  | validate (now : Int)
  | preConsume (info : RelayInfo) (quota : Int)
  | decrease (quota : Int)
  /-- A refund, or a settlement for less than the reservation. -/
  | increase (quota : Int)

def step (token : UserToken) : Call → UserToken
  | .validate now => (token.validateUserToken now).2
  | .preConsume info quota => token.preConsumeTokenQuota info quota
  | .decrease quota => token.decreaseTokenQuota quota
  | .increase quota => token.increaseTokenQuota quota

/-- The token is accepted exactly if it has quota left. -/
def Usable (token : UserToken) : Prop :=
  ∀ now, (token.validateUserToken now).1 = true ↔ 0 < token.remainQuota

/-- The call does not give an exhausted token quota again. -/
def InTime (token : UserToken) : Call → Prop
  | .increase quota => token.status = .exhausted → token.remainQuota + quota ≤ 0
  | _ => True

instance (token : UserToken) : (call : Call) → Decidable (token.InTime call)
  | .validate _ => isTrue trivial
  | .preConsume _ _ => isTrue trivial
  | .decrease _ => isTrue trivial
  | .increase quota =>
    inferInstanceAs (Decidable (token.status = .exhausted → token.remainQuota + quota ≤ 0))

/-! ## The status along a run -/

/-- A limited token that never expires: the validation alone changes its status. -/
structure Limited (token : UserToken) : Prop where
  limited : token.unlimitedQuota = false
  never : token.expiredTime = -1
  status : token.status = .enabled ∨ token.status = .exhausted

/-- The mark of an exhausted token is right. -/
structure Marked (token : UserToken) : Prop extends Limited token where
  empty : token.status = .exhausted → token.remainQuota ≤ 0

variable {token : UserToken}

lemma Limited.accepts_iff (h : token.Limited) (now : Int) :
    (token.validateUserToken now).1 = true ↔ token.status = .enabled ∧ 0 < token.remainQuota := by
  unfold validateUserToken
  split_ifs with hstatus hexpired hempty
  · exact iff_of_false id fun haccepted => hstatus haccepted.1
  · exact absurd h.never hexpired.1
  · exact iff_of_false id fun haccepted => hempty.2.not_gt haccepted.2
  · refine iff_of_true rfl ⟨not_not.mp hstatus, ?_⟩
    simpa [h.limited] using hempty

lemma Limited.usable_iff (h : token.Limited) :
    token.Usable ↔ (token.status = .exhausted → token.remainQuota ≤ 0) := by
  simp only [Usable, h.accepts_iff, forall_const]
  rcases h.status with hstatus | hstatus <;> simp [hstatus]

lemma Limited.validate (h : token.Limited) (now : Int) :
    (token.validateUserToken now).2 = token ∨
      token.remainQuota ≤ 0 ∧
        (token.validateUserToken now).2 = { token with status := .exhausted } := by
  unfold validateUserToken
  split_ifs with hstatus hexpired hempty
  · exact .inl rfl
  · exact absurd h.never hexpired.1
  · exact .inr ⟨hempty.2, rfl⟩
  · exact .inl rfl

section

variable (h : token.Marked)

include h

/-- The quota of a token may be lower, and nothing else of what decides on its status changes. -/
lemma Marked.lower {remain used : Int} (hle : remain ≤ token.remainQuota) :
    Marked { token with remainQuota := remain, usedQuota := used } :=
  ⟨⟨h.limited, h.never, h.status⟩, fun hstatus => hle.trans (h.empty hstatus)⟩

lemma Marked.decrease (quota : Int) : (token.decreaseTokenQuota quota).Marked := by
  unfold decreaseTokenQuota
  split_ifs with hneg
  · exact h
  · exact h.lower (by omega)

lemma Marked.preConsume (info : RelayInfo) (quota : Int) :
    (token.preConsumeTokenQuota info quota).Marked := by
  unfold preConsumeTokenQuota
  split
  · exact h.decrease _
  · exact h

lemma Marked.step {call : Call} (hin : token.InTime call) : (token.step call).Marked := by
  cases call with
  | validate now =>
    obtain heq | ⟨hempty, heq⟩ := h.toLimited.validate now
    · rw [UserToken.step, heq]
      exact h
    · rw [UserToken.step, heq]
      exact ⟨⟨h.limited, h.never, .inr rfl⟩, fun _ => hempty⟩
  | preConsume info quota => exact h.preConsume info quota
  | decrease quota => exact h.decrease quota
  | increase quota =>
    simp only [UserToken.step, increaseTokenQuota]
    split_ifs with hneg
    · exact h
    · exact ⟨⟨h.limited, h.never, h.status⟩, hin⟩

/-- A call that leaves the token usable has not given quota to an exhausted one. -/
lemma Marked.inTime {call : Call} (husable : (token.step call).Usable) : token.InTime call := by
  cases call with
  | increase quota =>
    intro hstatus
    have hempty := h.empty hstatus
    simp only [UserToken.step, increaseTokenQuota] at husable
    split_ifs at husable with hneg
    · omega
    · refine (Limited.usable_iff ?_).mp husable hstatus
      exact ⟨h.limited, h.never, h.status⟩
  | _ => trivial

end

/-- A limited token is accepted in every state of a run exactly if it has quota left there, if and
only if no call gives quota to a token that a validation has marked as exhausted. -/
theorem token_usable_iff (token : UserToken) (henabled : token.status = .enabled)
    (hlimited : token.unlimitedQuota = false) (hnever : token.expiredTime = -1)
    (calls : List Call) :
    (∀ front, front <+: calls → (exec step token front).Usable) ↔
      Along step InTime token calls := by
  apply forall_prefix_iff_along Marked Usable
  · exact fun token h => h.toLimited.usable_iff.mpr h.empty
  · exact fun token call h hin => h.step hin
  · exact fun token call h husable => h.inTime husable
  · exact ⟨⟨hlimited, hnever, .inl henabled⟩, by simp [henabled]⟩

end UserToken

/-- A limited token with a quota of `10`. -/
def tenToken : UserToken := ⟨⟨10, false⟩, 0, .enabled, -1⟩

/-- A reservation is refunded before the next validation. -/
theorem refunded_in_time :
    tenToken.status = .enabled ∧
      ∀ front, front <+: [.validate 0, .preConsume tokenInfo 10, .increase 4, .validate 1] →
        (exec UserToken.step tenToken front).Usable :=
  ⟨rfl, (UserToken.token_usable_iff tenToken rfl rfl rfl _).mpr (by decide)⟩

/-- The second validation comes while the first request holds all of the quota. -/
theorem refunded_token_refused :
    (let token := exec UserToken.step tenToken
      [.validate 0, .preConsume tokenInfo 10, .validate 1, .increase 10]
    token.remainQuota = 10 ∧ (token.validateUserToken 2).1 = false) := by
  decide

end Yunbay
