import Yunbay.Subscription.WindowLimit

/-!
# Concurrent admission

The pre-consume and reserve calls read the database clock before their transaction, and then wait
for the row lock of the subscription. Between the two, other calls may commit. The transaction
looks only at usage records that are not later than its reading, so it misses what was admitted
after it.
-/

namespace Yunbay

open Run

/-- A call on the package that reads the clock before its transaction. -/
inductive AdmissionCall where
  | preConsume (requestId : String) (userId amount : Int)
  | reserve (requestId : String) (userId targetQuota : Int)

/-- The transaction of a call, with the reading it has made. -/
def AdmissionCall.op (sid : Int) (now : Int) : AdmissionCall → PackageOp
  | .preConsume requestId userId amount => .preConsume now requestId userId sid amount
  | .reserve requestId userId targetQuota => .reserve now requestId userId sid targetQuota

/-- A call that asks for usage: a reserve has a positive target, or its request has no usage record
yet. -/
def AdmissionCall.Asks (sid : Int) (db : DB) : AdmissionCall → Prop
  | .preConsume .. => True
  | .reserve requestId _ targetQuota =>
    db.usageRecords.get? (sid, requestId) = none ∨ 0 < targetQuota

instance (sid : Int) (db : DB) (call : AdmissionCall) : Decidable (call.Asks sid db) := by
  cases call <;> unfold AdmissionCall.Asks <;> infer_instance

/-- The database, the global clock, and the calls that wait for the lock with their readings. -/
structure Interleaved where
  db : DB
  clock : Int
  waiting : List (AdmissionCall × Int)

/-- One step of one call. -/
inductive CallStep where
  | readClock (call : AdmissionCall) (now : Int)
  | runTx (index : Nat)

/-- A call reads the clock and starts to wait, or a waiting call gets the lock and runs its
transaction. -/
def interleavedStep (env : Env) (sid : Int) (state : Interleaved) : CallStep → Interleaved
  | .readClock call now =>
    { state with clock := now, waiting := state.waiting ++ [(call, now)] }
  | .runTx index =>
    match state.waiting[index]? with
    | none => state
    | some (call, now) =>
      { state with
        db := packageStep env state.db (call.op sid now)
        waiting := state.waiting.eraseIdx index }

/-- The global clock does not run backwards, and every call asks for usage. -/
def ClockForward (sid : Int) (state : Interleaved) : CallStep → Prop
  | .readClock _ now => state.clock ≤ now
  | .runTx index => ∀ waiting ∈ state.waiting[index]?, waiting.1.Asks sid state.db

/-- No record of the current epoch is later than the reading of the call that gets the lock. -/
def NothingHidden (sid : Int) (state : Interleaved) : CallStep → Prop
  | .readClock .. => True
  | .runTx index => ∀ waiting ∈ state.waiting[index]?, ∀ sub ∈ state.db.subscriptions.get? sid,
      ∀ usage ∈ epochRecords state.db sub, usage.createdAt ≤ waiting.2

instance (sid : Int) (state : Interleaved) (step : CallStep) :
    Decidable (ClockForward sid state step) := by
  cases step <;> unfold ClockForward <;> infer_instance

instance (sid : Int) (state : Interleaved) (step : CallStep) :
    Decidable (NothingHidden sid state step) := by
  cases step <;> unfold NothingHidden <;> infer_instance

/-- The invariant of an interleaving: the package is within its limits, and every waiting call
has read the clock since the start of the package. -/
structure Orderly (sub : UserSubscription) (plan : SubscriptionPlan) (state : Interleaved) :
    Prop where
  within : ∃ sub', SamePackage sub sub' ∧ Within state.db sub' plan state.clock
  readings : ∀ waiting ∈ state.waiting, sub.startTime ≤ waiting.2 ∧ waiting.2 ≤ state.clock

namespace Orderly

variable {env : Env} {sub : UserSubscription} {plan : SubscriptionPlan} {state : Interleaved}

lemma readClock (h : Orderly sub plan state) (call : AdmissionCall) {now : Int}
    (hclock : state.clock ≤ now) :
    Orderly sub plan (interleavedStep env sub.id state (.readClock call now)) := by
  obtain ⟨sub', hsame, hwithin⟩ := h.within
  refine ⟨⟨sub', hsame, hwithin.mono hclock⟩, ?_⟩
  intro waiting hwaiting
  rcases List.mem_append.mp hwaiting with hold | hnew
  · obtain ⟨hstart, hle⟩ := h.readings waiting hold
    exact ⟨hstart, hle.trans hclock⟩
  · rw [List.mem_singleton] at hnew
    rw [hnew]
    -- the package has started before the clock reached its present value
    have hstart : sub.startTime ≤ state.clock := hsame.start_eq ▸ hwithin.start_le
    exact ⟨hstart.trans hclock, le_rfl⟩

lemma call (h : Orderly sub plan state) {call : AdmissionCall} {now : Int}
    (hasks : call.Asks sub.id state.db) (hstart : sub.startTime ≤ now) (hle : now ≤ state.clock)
    (hsees : ∀ row ∈ state.db.subscriptions.get? sub.id, ∀ usage ∈ epochRecords state.db row,
      usage.createdAt ≤ now) :
    ∃ sub', SamePackage sub sub' ∧
      Within (packageStep env state.db (call.op sub.id now)) sub' plan state.clock := by
  obtain ⟨sub', hsame, hwithin⟩ := h.within
  have hall : SeesAll state.db sub' now := by
    refine ⟨hsame.start_eq ▸ hstart, ?_⟩
    have hget := hwithin.stored
    rw [hsame.id_eq] at hget
    exact hsees sub' hget
  have hcommit {α : Type} {x : Except TxError (α × DB)}
      (hx : ∀ a db', x = .ok (a, db') →
        ∃ sub'', SamePackage sub' sub'' ∧ Within db' sub'' plan state.clock) :
      ∃ sub'', SamePackage sub sub'' ∧
        Within (Except.commit state.db x) sub'' plan state.clock := by
    obtain ⟨sub'', hsame', hwithin'⟩ := Except.commit_induction
      (fun db' => ∃ sub'', SamePackage sub' sub'' ∧ Within db' sub'' plan state.clock)
      ⟨sub', SamePackage.refl sub', hwithin⟩ hx
    exact ⟨sub'', hsame.trans hsame', hwithin'⟩
  cases call with
  | preConsume requestId userId amount =>
    exact hcommit fun _ _ => hwithin.preConsume hle hall
  | reserve requestId userId targetQuota =>
    exact hcommit fun _ _ => hwithin.reserve hle hall hasks

lemma runTx (h : Orderly sub plan state) {index : Nat}
    (hasks : ClockForward sub.id state (.runTx index))
    (hhidden : NothingHidden sub.id state (.runTx index)) :
    Orderly sub plan (interleavedStep env sub.id state (.runTx index)) := by
  cases hget : state.waiting[index]? with
  | none =>
    have hsame : interleavedStep env sub.id state (.runTx index) = state := by
      simp [interleavedStep, hget]
    rw [hsame]
    exact h
  | some entry =>
    obtain ⟨call, now⟩ := entry
    have hstep : interleavedStep env sub.id state (.runTx index) =
        { state with
          db := packageStep env state.db (call.op sub.id now)
          waiting := state.waiting.eraseIdx index } := by
      simp [interleavedStep, hget]
    obtain ⟨hstart, hle⟩ := h.readings (call, now) (List.mem_of_getElem? hget)
    rw [hstep]
    refine ⟨h.call (hasks _ hget) hstart hle (hhidden _ hget), ?_⟩
    intro waiting hwaiting
    exact h.readings waiting (List.mem_of_mem_eraseIdx hwaiting)

end Orderly

/-- In every interleaving in which no transaction runs with a reading before a record of the
current epoch, the 5h usage at any time from the last clock value on is within the limit. -/
theorem interleaved_used5h_le_limit {env : Env} {db : DB} {sub : UserSubscription}
    {plan : SubscriptionPlan} {start : Int} (hbought : BoughtPackage db sub plan start)
    (hlimit : 0 < plan.limit5hAmount) (steps : List CallStep)
    (hsteps : Along (interleavedStep env sub.id)
      (fun state step => ClockForward sub.id state step ∧ NothingHidden sub.id state step)
      ⟨db, start, []⟩ steps) (t : Int)
    (ht : (exec (interleavedStep env sub.id) ⟨db, start, []⟩ steps).clock ≤ t) :
    ∃ sub' details,
      (exec (interleavedStep env sub.id) ⟨db, start, []⟩ steps).db.subscriptions.get? sub.id =
        some sub' ∧
      getValuePackageWindowUsageDetailsTx
        (exec (interleavedStep env sub.id) ⟨db, start, []⟩ steps).db sub'.userId sub.id t =
        .ok details ∧
      details.used5h ≤ plan.limit5hAmount := by
  have hinv : Orderly sub plan (exec (interleavedStep env sub.id) ⟨db, start, []⟩ steps) := by
    refine exec_induction (Orderly sub plan) ?_ ?_ hsteps
    · rintro state (⟨call, now⟩ | index) h ⟨hforward, hhidden⟩
      · exact h.readClock call hforward
      · exact h.runTx hforward hhidden
    · exact ⟨⟨sub, SamePackage.refl sub, hbought.within⟩, nofun⟩
  obtain ⟨sub', hsame, hwithin⟩ := hinv.within
  obtain ⟨details, hdetails, h5h, -⟩ := hwithin.details_le ht
  rw [hsame.id_eq] at hdetails
  exact ⟨sub', details, hsame.id_eq ▸ hwithin.stored, hdetails, h5h hlimit⟩

/-- Three calls that overlap, and commit in the order of their readings. -/
def orderlySteps : List CallStep :=
  [.readClock (.preConsume "r1" 1 60) 2000, .readClock (.preConsume "r2" 1 60) 2001, .runTx 0,
    .readClock (.reserve "r3" 1 40) 2002, .runTx 0, .runTx 0]

theorem orderlySteps_within_limit :
    ∃ sub' details,
      (exec (interleavedStep sampleEnv 1) ⟨sampleDB, 1000, []⟩
        orderlySteps).db.subscriptions.get?
        1 = some sub' ∧
      getValuePackageWindowUsageDetailsTx
        (exec (interleavedStep sampleEnv 1) ⟨sampleDB, 1000, []⟩ orderlySteps).db sub'.userId 1
        2002 = .ok details ∧
      details.used5h ≤ samplePlan.limit5hAmount :=
  interleaved_used5h_le_limit boughtPackage_sampleDB (by decide) orderlySteps (by decide) 2002
    (by decide)

/-- Two calls of which the later reader gets the lock first. -/
def overtakingSteps : List CallStep :=
  [.readClock (.preConsume "r1" 1 60) 2000, .readClock (.preConsume "r2" 1 60) 2001, .runTx 1,
    .runTx 0]

/-- The call that was overtaken does not see the record of the other one, so both are admitted and
the 5h window holds 120 of 100. -/
theorem overtaken_call_exceeds_limit :
    BoughtPackage sampleDB sampleSubscription samplePlan 1000 ∧
      samplePlan.limit5hAmount = 100 ∧
      Along (interleavedStep sampleEnv 1) (ClockForward 1) ⟨sampleDB, 1000, []⟩
        overtakingSteps ∧
      (exec (interleavedStep sampleEnv 1) ⟨sampleDB, 1000, []⟩ overtakingSteps).clock = 2001 ∧
      (getValuePackageWindowUsageDetailsTx
        (exec (interleavedStep sampleEnv 1) ⟨sampleDB, 1000, []⟩ overtakingSteps).db 1 1
        2001).toOption.map (·.used5h) = some 120 :=
  ⟨boughtPackage_sampleDB, rfl, by decide, by decide, by decide⟩

end Yunbay
