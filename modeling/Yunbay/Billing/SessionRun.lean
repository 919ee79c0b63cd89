import Yunbay.Billing.Calls
import Yunbay.Data.Hold

/-!
# Runs of a billing session

The calls on one session in any order, with the asynchronous part of a refund as a step of its own.

* `SessionRun.hold` reads a run as a hold on an account: open at `preConsumedQuota`, settled, or
  released. `sessionStep_refines` says that every call is a move of the hold, except for a
  settlement that comes after a refund has taken effect.
-/

namespace Yunbay

open Run

open BillingSession

/-! ## Runs -/

/-- A session with its accounts and the refund that is on its way. The last two fields are history:
the quota of the settlement that took effect, and whether a refund has been asked for. -/
structure SessionRun where
  accounts : Accounts
  session : BillingSession
  job : Option RefundJob
  settledWith : Option Int
  refundCalled : Bool

/-- A call on the session, or the asynchronous part of a refund. -/
inductive SessionCall where
  | reserve (faults : Faults) (targetQuota : Int)
  | reserveRealtime (faults : Faults) (now deltaQuota : Int)
  | settle (faults : Faults) (now actualQuota : Int)
  | refund
  | runRefund (now : Int)

/-- A session that has just been built. -/
def SessionRun.start (session : BillingSession) (accounts : Accounts) : SessionRun :=
  ⟨accounts, session, none, none, false⟩

def sessionStep (run : SessionRun) : SessionCall → SessionRun
  | .reserve faults targetQuota =>
    let (_, session, accounts) := run.session.reserve faults targetQuota run.accounts
    { run with session, accounts }
  | .reserveRealtime faults now deltaQuota =>
    let (_, session, accounts) := run.session.reserveRealtime faults now deltaQuota run.accounts
    { run with session, accounts }
  | .settle faults now actualQuota =>
    let (_, session, accounts) := run.session.settle faults now actualQuota run.accounts
    -- the settlement takes effect when it marks the session
    let settledWith :=
      if session.settled ∧ ¬run.session.settled then some actualQuota else run.settledWith
    { run with session, accounts, settledWith }
  | .refund =>
    let (job, session) := run.session.refund
    { run with session, job := job.orElse fun _ => run.job, refundCalled := true }
  | .runRefund now =>
    match run.job with
    | none => run
    | some job =>
      { run with accounts := run.session.runRefund now job run.accounts, job := none }

/-- The hold that a run stands for. -/
def SessionRun.hold (run : SessionRun) : Hold :=
  match run.settledWith with
  | some actual => .settled actual
  | none =>
    if run.session.refunded then
      if run.job.isSome then .releasing run.session.preConsumedQuota else .released
    else .held run.session.preConsumedQuota

variable {run : SessionRun}

lemma SessionRun.hold_of_settledWith {actual : Int} (h : run.settledWith = some actual) :
    run.hold = .settled actual := by
  rw [SessionRun.hold, h]

/-! ## The hold behind a run -/

/-- The control state of a run. -/
structure Control (run : SessionRun) : Prop where
  settledWith : run.settledWith.isSome = run.session.settled
  fundingSettled : run.session.fundingSettled = true → run.session.settled = true
  /-- At most one of `Settle` and `Refund` has taken effect. -/
  once : ¬(run.session.settled = true ∧ run.session.refunded = true)
  /-- A job on its way has what the session has. -/
  job : ∀ job ∈ run.job, run.session.refunded = true ∧ job =
    ⟨run.session.tokenConsumed, run.session.extraReserved, run.session.info.subscriptionId⟩
  nonneg : 0 ≤ run.session.preConsumedQuota

/-- No settlement after a refund has taken effect. -/
def NoSettleAfterRefund (run : SessionRun) : SessionCall → Prop
  | .settle .. => run.session.refunded = false
  | _ => True

instance (run : SessionRun) (call : SessionCall) : Decidable (NoSettleAfterRefund run call) := by
  cases call <;> unfold NoSettleAfterRefund <;> infer_instance

namespace Control

section

variable (h : Control run)

include h

lemma settledWith_eq_none (hopen : run.session.settled = false) : run.settledWith = none := by
  rw [← Option.not_isSome_iff_eq_none, h.settledWith, hopen]
  exact Bool.false_ne_true

lemma fundingSettled_eq_false (hopen : run.session.settled = false) :
    run.session.fundingSettled = false := by
  rw [← Bool.not_eq_true]
  intro htrue
  cases hopen.symm.trans (h.fundingSettled htrue)

lemma job_eq_none (hopen : run.session.refunded = false) : run.job = none := by
  cases hjob : run.job with
  | none => rfl
  | some job =>
    have hrefunded := (h.job job hjob).1
    rw [hopen] at hrefunded
    cases hrefunded

lemma hold_of_open (hopen : run.session.Open) : run.hold = .held run.session.preConsumedQuota := by
  simp [SessionRun.hold, h.settledWith_eq_none hopen.1, hopen.2]

lemma hold_of_refunded (hrefunded : run.session.refunded = true) (hjob : run.job = none) :
    run.hold = .released := by
  have hsettled : run.session.settled = false := by
    rw [← Bool.not_eq_true]
    exact fun hsettled => h.once ⟨hsettled, hrefunded⟩
  simp [SessionRun.hold, h.settledWith_eq_none hsettled, hrefunded, hjob]

/-- What a ledger that follows the hold shows in the end. -/
lemma charged {Held Charged : ℤ → Prop} (hfollows : run.hold.Follows Held Charged) :
    (∀ actual, run.settledWith = some actual → Charged actual) ∧
      (run.session.refunded = true → run.job = none → Charged 0) := by
  constructor
  · intro actual hsettled
    rw [SessionRun.hold_of_settledWith hsettled] at hfollows
    exact hfollows
  · intro hrefunded hjob
    rw [h.hold_of_refunded hrefunded hjob] at hfollows
    exact hfollows

lemma hold_of_job {job : RefundJob} (hjob : run.job = some job) :
    run.hold = .releasing run.session.preConsumedQuota ∧
      ∀ accounts, { run with accounts := accounts, job := none : SessionRun }.hold = .released := by
  have hrefunded := (h.job job hjob).1
  have hsettled : run.session.settled = false := by
    rw [← Bool.not_eq_true]
    exact fun hsettled => h.once ⟨hsettled, hrefunded⟩
  have hnone := h.settledWith_eq_none hsettled
  constructor
  · simp [SessionRun.hold, hnone, hrefunded, hjob]
  · intro accounts
    simp [SessionRun.hold, hnone, hrefunded]

/-- Reserving moves the hold. -/
lemma grown {session' : BillingSession} {accounts' : Accounts}
    (hgrown : Grown run.session session') :
    Control { run with session := session', accounts := accounts' } ∧
      Hold.Step run.hold
        { run with session := session', accounts := accounts' : SessionRun }.hold := by
  by_cases hopen : run.session.Open
  · have hopen' : session'.Open := ⟨hgrown.settled.trans hopen.1, hgrown.refunded.trans hopen.2⟩
    have hcontrol : Control { run with session := session', accounts := accounts' } := by
      refine ⟨h.settledWith.trans hgrown.settled.symm, ?_, ?_, ?_,
        h.nonneg.trans hgrown.preConsumedQuota⟩
      · rw [hgrown.fundingSettled, hgrown.settled]
        exact h.fundingSettled
      · rw [hgrown.settled, hgrown.refunded]
        exact h.once
      · intro job hjob
        rw [h.job_eq_none hopen.2] at hjob
        cases hjob
    refine ⟨hcontrol, ?_⟩
    rw [h.hold_of_open hopen, hcontrol.hold_of_open hopen']
    exact Hold.Step.move _ _
  · obtain ⟨actual, reserved, rfl⟩ := hgrown.frozen hopen
    exact ⟨⟨h.settledWith, h.fundingSettled, h.once, h.job, h.nonneg⟩, Hold.Step.idle _⟩

end

end Control

lemma sessionStep_settle_cases (run : SessionRun) (faults : Faults) (now actualQuota : Int) :
    sessionStep run (.settle faults now actualQuota) = run ∨
      run.session.settled = false ∧ ∃ settledFunding accounts₁,
        sessionStep run (.settle faults now actualQuota) =
          { run with
            session := { run.session with fundingSettled := settledFunding, settled := true }
            accounts := (recordValuePackageUsage faults.usage now run.session.info actualQuota
              (settleToken faults.token run.session.info
                (actualQuota - run.session.preConsumedQuota) accounts₁).2).2
            settledWith := some actualQuota } ∧
        (actualQuota = run.session.preConsumedQuota ∧ accounts₁ = run.accounts ∨
          actualQuota ≠ run.session.preConsumedQuota ∧
            run.session.settleFunding faults.funding now actualQuota run.accounts =
              .ok accounts₁) := by
  rcases hr : run.session.settle faults now actualQuota run.accounts with
    ⟨error, session', accounts'⟩
  obtain ⟨rfl, rfl⟩ | ⟨hsettled, settledFunding, accounts₁, rfl, rfl, hfunding⟩ := settle_cases hr
  · left
    simp [sessionStep, hr]
  · right
    refine ⟨hsettled, settledFunding, accounts₁, ?_, hfunding⟩
    simp [sessionStep, hr, hsettled]

/-- What the synchronous part of a refund can do to a run: nothing but be remembered, or start a
job. -/
lemma sessionStep_refund_cases (run : SessionRun) :
    (sessionStep run .refund = { run with refundCalled := true } ∧
        (run.session.Open → run.session.needsRefund = false)) ∨
      run.session.Open ∧ run.session.needsRefund = true ∧
        sessionStep run .refund =
          { run with
            session := { run.session with refunded := true }
            job := some ⟨run.session.tokenConsumed, run.session.extraReserved,
              run.session.info.subscriptionId⟩
            refundCalled := true } := by
  rcases hr : run.session.refund with ⟨job, session'⟩
  obtain ⟨rfl, rfl, hidle⟩ | ⟨hopen, hneeds, rfl, rfl⟩ := refund_cases hr
  · left
    refine ⟨?_, hidle⟩
    simp [sessionStep, hr]
  · right
    refine ⟨hopen, hneeds, ?_⟩
    simp [sessionStep, hr]

lemma sessionStep_runRefund_cases (run : SessionRun) (now : Int) :
    (run.job = none ∧ sessionStep run (.runRefund now) = run) ∨
      ∃ job, run.job = some job ∧ sessionStep run (.runRefund now) =
        { run with accounts := run.session.runRefund now job run.accounts, job := none } := by
  cases hjob : run.job with
  | none =>
    left
    simp [sessionStep, hjob]
  | some job =>
    right
    exact ⟨job, rfl, by simp [sessionStep, hjob]⟩

/-- Every call is a move of the hold, except for a settlement after a refund has taken effect. -/
theorem sessionStep_refines {call : SessionCall} (h : Control run)
    (hsettle : NoSettleAfterRefund run call) :
    Control (sessionStep run call) ∧ Hold.Step run.hold (sessionStep run call).hold := by
  cases call with
  | reserve faults targetQuota =>
    exact h.grown (Grown.of_reserve rfl)
  | reserveRealtime faults now deltaQuota =>
    exact h.grown (Grown.of_reserveRealtime rfl)
  | settle faults now actualQuota =>
    obtain heq | ⟨hsettled, settledFunding, accounts₁, heq, -⟩ :=
      sessionStep_settle_cases run faults now actualQuota
    · rw [heq]
      exact ⟨h, Hold.Step.idle _⟩
    · rw [heq, h.hold_of_open ⟨hsettled, hsettle⟩]
      refine ⟨⟨rfl, fun _ => rfl, ?_, ?_, h.nonneg⟩, Hold.Step.settle _ _⟩
      · rintro ⟨-, hrefunded⟩
        cases hsettle.symm.trans hrefunded
      · intro job hjob
        rw [h.job_eq_none hsettle] at hjob
        cases hjob
  | refund =>
    obtain ⟨heq, -⟩ | ⟨hopen, -, heq⟩ := sessionStep_refund_cases run
    · rw [heq]
      exact ⟨⟨h.settledWith, h.fundingSettled, h.once, h.job, h.nonneg⟩, Hold.Step.idle _⟩
    · rw [heq, h.hold_of_open hopen]
      refine ⟨⟨h.settledWith, h.fundingSettled, ?_, ?_, h.nonneg⟩, ?_⟩
      · rintro ⟨hsettled, -⟩
        cases hopen.1.symm.trans hsettled
      · rintro job ⟨⟩
        exact ⟨rfl, rfl⟩
      · simp only [SessionRun.hold, h.settledWith_eq_none hopen.1, if_true, Option.isSome_some]
        exact Hold.Step.release _
  | runRefund now =>
    obtain ⟨-, heq⟩ | ⟨job, hjob, heq⟩ := sessionStep_runRefund_cases run now
    · rw [heq]
      exact ⟨h, Hold.Step.idle _⟩
    · obtain ⟨hbefore, hafter⟩ := h.hold_of_job hjob
      rw [heq, hbefore, hafter]
      exact ⟨⟨h.settledWith, h.fundingSettled, h.once, nofun, h.nonneg⟩, Hold.Step.finish _⟩

variable {calls : List SessionCall}

lemma sessionRun_refines (h : Control run)
    (hcalls : Along sessionStep NoSettleAfterRefund run calls) :
    Control (exec sessionStep run calls) ∧
      Relation.ReflTransGen Hold.Step run.hold (exec sessionStep run calls).hold := by
  refine exec_induction (fun state => Control state ∧
    Relation.ReflTransGen Hold.Step run.hold state.hold) ?_ ⟨h, .refl⟩ hcalls
  rintro state call ⟨hcontrol, hsteps⟩ hsettle
  obtain ⟨hcontrol', hstep⟩ := sessionStep_refines hcontrol hsettle
  exact ⟨hcontrol', hsteps.tail hstep⟩

end Yunbay
