import Yunbay.Billing.Session
import Yunbay.Data.Workers

/-!
# Requests that share a token

`PreConsumeTokenQuota` reads the token, checks that its remaining quota is enough, and then takes
the amount with an update of its own. Any number of requests with one token do this at the same
time, so other requests may take their amounts between the check and the update.

The wallet has no such gap: `DecreaseUserQuotaIfEnough` checks and takes in one update.
-/

namespace Yunbay

open Run

/-- The columns of the token that the requests use. -/
structure Token where
  remainQuota : Int
  unlimitedQuota : Bool

/-- A request, with what it has reserved on the token and not refunded. -/
structure TokenRequest where
  info : RelayInfo
  reserved : Int
  /-- The amount that has been checked and not been taken yet. -/
  pending : Option Int

/-- A step of a request. A call that `fails` is one that the database rejects. -/
inductive TokenAction where
  /-- `PreConsumeTokenQuota` up to its check. -/
  | check (quota : Int)
  /-- The `DecreaseTokenQuota` at its end. -/
  | decrease (fails : Bool)
  /-- The `IncreaseTokenQuota` of a refund or a rollback. -/
  | refund (quota : Int) (fails : Bool)

/-- `PreConsumeTokenQuota` up to its check, with the amount that is left to take. -/
def checkTokenQuota (info : RelayInfo) (token : Token) (quota : Int) :
    Except AccountError (Option Int) := do
  Except.check (0 ≤ quota) .quotaNegative
  if info.isPlayground then pure none
  else do
    Except.check (info.tokenUnlimited ∨ quota ≤ token.remainQuota) .tokenQuotaNotEnough
    pure (some quota)

namespace TokenRequest

/-- A new request, with the limit of the token copied to its `RelayInfo`. -/
def start (info : RelayInfo) (token : Token) : TokenRequest :=
  ⟨{ info with tokenUnlimited := token.unlimitedQuota }, 0, none⟩

/-- What a request does next. Its calls run one at a time, as its session holds a lock. -/
def act : TokenAction → Token → TokenRequest → Token × TokenRequest
  | .check quota, token, request =>
    match request.pending, checkTokenQuota request.info token quota with
    | none, .ok pending => (token, { request with pending })
    | _, _ => (token, request)
  | .decrease fails, token, request =>
    match request.pending with
    | none => (token, request)
    | some quota =>
      if fails then (token, { request with pending := none })
      else ({ token with remainQuota := token.remainQuota - quota },
        { request with reserved := request.reserved + quota, pending := none })
  | .refund quota fails, token, request =>
    -- A session gives back no more than it has taken.
    if fails = false ∧ 0 ≤ quota ∧ quota ≤ request.reserved then
      ({ token with remainQuota := token.remainQuota + quota },
        { request with reserved := request.reserved - quota })
    else (token, request)

/-- No update takes more than the token has left. -/
def Enough (token : Token) (request : TokenRequest) : TokenAction → Prop
  | .decrease false => ∀ quota ∈ request.pending, quota ≤ token.remainQuota
  | _ => True

instance (token : Token) (request : TokenRequest) :
    (action : TokenAction) → Decidable (request.Enough token action)
  | .check _ => isTrue trivial
  | .decrease true => isTrue trivial
  | .decrease false =>
    inferInstanceAs (Decidable (∀ quota ∈ request.pending, quota ≤ token.remainQuota))
  | .refund _ _ => isTrue trivial

lemma act_conserves (action : TokenAction) (token : Token) (request : TokenRequest) :
    (act action token request).1.remainQuota + (act action token request).2.reserved =
      token.remainQuota + request.reserved := by
  unfold act
  cases action with
  | check quota => dsimp only; split <;> rfl
  | decrease fails =>
    dsimp only
    split
    · rfl
    · cases fails
      · -- The update takes what the request counts as its own from here on.
        simp only [Bool.false_eq_true, if_false]
        omega
      · rfl
  | refund quota fails =>
    dsimp only
    split_ifs
    · simp only
      omega
    · rfl

/-- An update that finds enough leaves no debt, and one that leaves no debt found enough. -/
lemma act_nonneg_iff {action : TokenAction} {token : Token} {request : TokenRequest}
    (htoken : 0 ≤ token.remainQuota) :
    0 ≤ (act action token request).1.remainQuota ↔ request.Enough token action := by
  unfold act
  cases action with
  | check quota =>
    refine iff_of_true ?_ trivial
    dsimp only
    split <;> exact htoken
  | decrease fails =>
    cases fails with
    | false =>
      cases hpending : request.pending with
      | none => simp [Enough, hpending, htoken]
      | some quota => simp [Enough, hpending]
    | true =>
      refine iff_of_true ?_ trivial
      dsimp only
      split <;> exact htoken
  | refund quota fails =>
    refine iff_of_true ?_ trivial
    dsimp only
    split_ifs with hrefund
    · exact add_nonneg htoken hrefund.2.1
    · exact htoken

end TokenRequest

/-! ## The race -/

/-- The requests with one token. -/
def tokenRace : Workers.System Token TokenRequest RelayInfo TokenAction :=
  ⟨TokenRequest.start, TokenRequest.act⟩

abbrev TokenState := Workers.State Token TokenRequest

abbrev TokenMove := Workers.Move RelayInfo TokenAction

namespace TokenState

/-- The reservations that have not been refunded. -/
def reserved (state : TokenState) : Int := (state.workers.map TokenRequest.reserved).sum

/-- The move finds the amount that it takes. -/
def Enough (state : TokenState) : TokenMove → Prop
  | .spawn _ => True
  | .act ref action => ∀ request ∈ state.workers[ref]?, request.Enough state.shared action

instance (state : TokenState) : (move : TokenMove) → Decidable (state.Enough move)
  | .spawn _ => isTrue trivial
  | .act ref action =>
    inferInstanceAs
      (Decidable (∀ request ∈ state.workers[ref]?, request.Enough state.shared action))

/-- The token and the reservations make up the quota `R`, and the token has no debt. -/
structure Within (R : Int) (state : TokenState) : Prop where
  total : state.shared.remainQuota + state.reserved = R
  nonneg : 0 ≤ state.shared.remainQuota

lemma step_total (state : TokenState) (move : TokenMove) :
    (tokenRace.step state move).shared.remainQuota + reserved (tokenRace.step state move) =
      state.shared.remainQuota + state.reserved := by
  unfold reserved
  cases move with
  | spawn info => simp [Workers.System.step, tokenRace, TokenRequest.start]
  | act ref action =>
    cases hget : state.workers[ref]? with
    | none => rw [tokenRace.step_act_of_none hget]
    | some request =>
      have hact := TokenRequest.act_conserves action state.shared request
      rw [tokenRace.step_act hget, Workers.sum_map_set TokenRequest.reserved hget]
      dsimp only [tokenRace]
      omega

variable {state : TokenState} {move : TokenMove}

/-- A move leaves the token without a debt exactly when it finds the amount that it takes. -/
lemma step_nonneg_iff (hstate : 0 ≤ state.shared.remainQuota) :
    0 ≤ (tokenRace.step state move).shared.remainQuota ↔ state.Enough move := by
  cases move with
  | spawn info => exact iff_of_true hstate trivial
  | act ref action =>
    unfold Enough
    cases hget : state.workers[ref]? with
    | none => simp [tokenRace.step_act_of_none hget, hget, hstate]
    | some request =>
      simp only [tokenRace.step_act hget, hget, Option.mem_def, Option.some.injEq, forall_eq']
      exact TokenRequest.act_nonneg_iff hstate

lemma Within.step {R : Int} (h : state.Within R)
    (henough : state.Enough move) : TokenState.Within R (tokenRace.step state move) :=
  ⟨(state.step_total move).trans h.total, (step_nonneg_iff h.nonneg).mpr henough⟩

end TokenState

/-- A token with the quota `R` that no request uses yet. -/
def unusedToken (R : Int) : TokenState := ⟨⟨R, false⟩, []⟩

lemma unusedToken_within {R : Int} (hR : 0 ≤ R) : (unusedToken R).Within R :=
  ⟨by simp [unusedToken, TokenState.reserved], hR⟩

/-- The reservations stay within the quota of the token, and the token never has a debt, exactly
when every update of the run finds the amount that it takes. -/
theorem token_not_overdrawn_iff (R : Int) (hR : 0 ≤ R) (moves : List TokenMove) :
    (∀ front, front <+: moves →
      TokenState.reserved (exec tokenRace.step (unusedToken R) front) ≤ R ∧
      0 ≤ (exec tokenRace.step (unusedToken R) front).shared.remainQuota) ↔
    Along tokenRace.step TokenState.Enough (unusedToken R) moves := by
  apply forall_prefix_iff_along (TokenState.Within R)
    (fun state => state.reserved ≤ R ∧ 0 ≤ state.shared.remainQuota)
  · rintro state ⟨htotal, hnonneg⟩
    exact ⟨by omega, hnonneg⟩
  · exact fun state move hwithin henough => hwithin.step henough
  · rintro state move ⟨-, hnonneg⟩ ⟨-, hafter⟩
    exact (TokenState.step_nonneg_iff hnonneg).mp hafter
  · exact unusedToken_within hR

/-- A request of user `1`. -/
def tokenInfo : RelayInfo :=
  ⟨1, "req", false, false, false, .walletOnly, false, 0, false, 0, 0, 0⟩

/-- Two requests with one token, the second of which starts after the first has been refunded. -/
def takenInTurn : List TokenMove :=
  [.spawn tokenInfo, .spawn tokenInfo, .act 0 (.check 10), .act 0 (.decrease false),
    .act 0 (.refund 4 false), .act 1 (.check 4), .act 1 (.decrease false)]

theorem takenInTurn_within :
    (0 : Int) ≤ 10 ∧
      ((∀ front, front <+: takenInTurn →
        TokenState.reserved (exec tokenRace.step (unusedToken 10) front) ≤ 10 ∧
        0 ≤ (exec tokenRace.step (unusedToken 10) front).shared.remainQuota) ↔
      Along tokenRace.step TokenState.Enough (unusedToken 10) takenInTurn) ∧
      Along tokenRace.step TokenState.Enough (unusedToken 10) takenInTurn :=
  ⟨by decide, token_not_overdrawn_iff 10 (by decide) takenInTurn, by decide⟩

/-- Both requests check the quota before either of them takes it. -/
def takenAtOnce : List TokenMove :=
  [.spawn tokenInfo, .spawn tokenInfo, .act 0 (.check 10), .act 1 (.check 10),
    .act 0 (.decrease false), .act 1 (.decrease false)]

/-- Both checks pass, the reservations come to twice the quota, and the token is in debt. -/
theorem two_checks_overdraw :
    TokenState.reserved (exec tokenRace.step (unusedToken 10) takenAtOnce) = 20 ∧
      (exec tokenRace.step (unusedToken 10) takenAtOnce).shared.remainQuota = -10 := by
  decide

end Yunbay
