import Yunbay.Data.Copies
import Yunbay.Data.Workers
import Yunbay.Subscription.Period

/-!
# Overlapping charges of a regular subscription

The query of `PreConsumeUserSubscription` asks for a lock through an option that gorm ignores. A
call therefore reads the subscription, and later saves its copy of the whole row, while other calls
do the same.
-/

namespace Yunbay

open Except Run Table

variable {sub row : UserSubscription} {sid now userId amount : Int} {db : DB} {env : Env}
  {call : RegularCall} {work : RegularWork} {ref : Nat}

open Workers

/-! ## Calls in two steps -/

/-- A call of `PreConsumeUserSubscription`. -/
structure RegularCall where
  now : Int
  requestId : String
  userId : Int
  amount : Int

/-- What is started: a call, or the job for the subscription. -/
inductive RegularInput where
  | preConsume (call : RegularCall)
  | resetDue (now : Int)

/-- Where a call or a run of the job stands. -/
inductive RegularWork where
  /-- The call has read, and is going to charge its copy of the row. -/
  | charge (call : RegularCall) (sub : UserSubscription) (reset : Bool)
  | returned (call : RegularCall) (result : Except TxError SubscriptionPreConsumeResult)
  /-- The job has read, and is going to save the row it has reset. -/
  | reset (sub : UserSubscription)
  | finished

/-- The read step of a call. -/
def readCall (env : Env) (sid : Int) (db : DB) (call : RegularCall) : RegularWork :=
  match readPreConsume env db call.now call.requestId call.userId call.amount with
  | .error err => .returned call (.error err)
  | .ok (.inl result) => .returned call (.ok result)
  | .ok (.inr (sub, _)) =>
    .charge call sub (resetOnTheWay env sid db call.now call.userId sub.id)

/-- The save step of a call: the record is inserted, and the whole row is overwritten. -/
def saveCall (db : DB) (call : RegularCall) (sub : UserSubscription) : DB × RegularWork :=
  match chargeRegular db sub call.requestId call.userId call.amount call.now with
  | .error err => (db, .returned call (.error err))
  | .ok (result, db) => (db, .returned call (.ok result))

/-- The read step of the job, for one subscription. -/
def readJob (env : Env) (sid : Int) (db : DB) (now : Int) : RegularWork :=
  match (db.subscriptions.get? sid).filter fun sub => resetDue sub now && sub.status = .active with
  | none => .finished
  | some sub =>
    match getSubscriptionPlanByIdTx db sub.planId with
    | .error _ => .finished
    | .ok plan =>
      match maybeResetUserSubscriptionWithPlanTx env db sub plan now with
      | .error _ => .finished
      | .ok (reset, _) => if reset = sub then .finished else .reset reset

/-- The next step of a worker. -/
def RegularWork.save (db : DB) : RegularWork → DB × RegularWork
  | .charge call sub _ => saveCall db call sub
  | .reset sub => (db.saveSubscription sub, .finished)
  | .returned call result => (db, .returned call result)
  | .finished => (db, .finished)

/-- Any number of calls and runs of the job on the subscription `sid`. -/
def regularWorkers (env : Env) (sid : Int) : System DB RegularWork RegularInput Unit where
  spawn
    | .preConsume call, db => readCall env sid db call
    | .resetDue now, db => readJob env sid db now
  act _ db work := work.save db

/-- The state of the system. -/
abbrev Overlap := State DB RegularWork

/-- A step of the system. -/
abbrev OverlapMove := Move RegularInput Unit

/-! ## One regular subscription -/

/-- No other subscription is a regular one. -/
def OnlyRegular (sid : Int) (db : DB) : Prop :=
  ∀ row ∈ db.subscriptions.rows, ∀ plan, getSubscriptionPlanByIdTx db row.planId = .ok plan →
    plan.isValuePackage = false → row.id = sid

/-- The second of two writes of one subscription counts. -/
lemma saveSubscription_twice (db : DB) {sub' : UserSubscription}
    (hid : sub'.id = sub.id) :
    (db.saveSubscription sub).saveSubscription sub' = db.saveSubscription sub' := by
  unfold DB.saveSubscription
  dsimp only
  rw [put_put _ hid]

lemma OnlyRegular.saveSubscription (h : OnlyRegular sid db) (hid : sub.id = sid) :
    OnlyRegular sid (db.saveSubscription sub) :=
  forall_mem_put (fun _ _ _ => hid) h

lemma selectCandidate_only {db₁ : DB} (honly : OnlyRegular sid db)
    (h : selectCandidate env now amount db (activeSubscriptions db userId now) = .ok (sub, db₁)) :
    sub.id = sid ∧ (db₁ = db ∨ db₁ = db.saveSubscription sub) := by
  have hid : sub.id = sid := by
    obtain ⟨candidate, plan, hmem, hselected⟩ := selectCandidate_ok h
    exact hselected.id.trans (honly candidate (mem_of_mem_active hmem) plan
      hselected.plan_eq hselected.regular)
  refine ⟨hid, ?_⟩
  -- every regular candidate is the one subscription, so only its row can have been written
  let Inv : List UserSubscription → DB → Prop := fun _ db₁ =>
    OnlyRegular sid db₁ ∧ (db₁ = db ∨ ∃ row, row.id = sid ∧ db₁ = db.saveSubscription row)
  have hstep : ResetKeeps env now Inv := by
    rintro passed db₁ candidate plan sub' db₂ ⟨honly₁, hcases⟩ - hget hplan hregular hreset
    have hsid : candidate.id = sid := honly₁ candidate (mem_of_get? hget) plan hplan hregular
    have hsid' : sub'.id = sid :=
      (maybeReset_frame hget hreset).1.trans hsid
    obtain ⟨rfl, -⟩ | ⟨_, _, _, -, -, rfl⟩ := maybeReset_ok hreset
    · exact ⟨honly₁, hcases⟩
    · refine ⟨honly₁.saveSubscription hsid', .inr ⟨sub', hsid', ?_⟩⟩
      obtain rfl | ⟨row, hrow, rfl⟩ := hcases
      · rfl
      · exact saveSubscription_twice db (hsid'.trans hrow.symm)
  obtain ⟨_, _, _, _, -, ⟨-, hcases⟩, hselected⟩ := selectCandidate_loop Inv
    (fun _ _ _ _ hinv _ _ _ _ => hinv) hstep [] ⟨honly, .inl rfl⟩
    (activeSubscriptions_nodup db userId now) get?_of_mem_active h
  have hget := hselected.stored
  rcases hcases with rfl | ⟨row, hrow, rfl⟩
  · exact .inl rfl
  · rw [hid, ← hrow, DB.saveSubscription_subscriptions, get?_put_self] at hget
    cases hget
    exact .inr rfl

/-- A repeated call reads its answer, and any other call the subscription it is going to charge. -/
lemma readPreConsume_cases {requestId : String}
    {read : SubscriptionPreConsumeResult ⊕ UserSubscription × DB}
    (h : readPreConsume env db now requestId userId amount = .ok read) :
    ((db.preConsumeRecords.get? requestId).isSome ∧ ∃ result, read = .inl result) ∨
      db.preConsumeRecords.get? requestId = none ∧ 0 < amount ∧ ∃ sub db₁, read = .inr (sub, db₁) ∧
        selectCandidate env now amount db (activeSubscriptions db userId now) = .ok (sub, db₁) := by
  unfold readPreConsume at h
  obtain ⟨_, h⟩ := of_bind h
  obtain ⟨_, h⟩ := of_bind h
  obtain ⟨hamount, h⟩ := of_check h
  split at h
  · obtain ⟨_, h⟩ := of_bind h
    split at h
    · cases h
    · cases h
      exact .inl ⟨by simp [*], _, rfl⟩
  · next hnone =>
      obtain ⟨_, h⟩ := of_bind h
      obtain ⟨⟨sub, db₁⟩, hselect, h⟩ := bind_eq_ok.mp h
      cases h
      exact .inr ⟨hnone, hamount, sub, db₁, rfl, hselect⟩

/-- The charge of a request without a record overwrites the row. -/
lemma saveCall_of_none (sub : UserSubscription)
    (hnone : db.preConsumeRecords.get? call.requestId = none) :
    saveCall db call sub =
      ((db.savePreConsume (regularPreConsumeRecord sub call.requestId call.userId call.amount
        call.now)).saveSubscription { sub with amountUsed := sub.amountUsed + call.amount },
      .returned call (.ok ⟨sub.id, call.amount, sub.amountTotal, sub.amountUsed,
        sub.amountUsed + call.amount, 0⟩)) := by
  unfold saveCall chargeRegular
  rw [hnone]
  rfl

/-! ## Interleavings -/

/-- The request of a worker, if it is a call. -/
def RegularWork.requestId? : RegularWork → Option String
  | .charge call _ _ => some call.requestId
  | .returned call _ => some call.requestId
  | _ => none

/-- The used amount that the worker is going to add to. A copy that has been reset is none. -/
def RegularWork.copy? : RegularWork → Option Int
  | .charge _ sub false => some sub.amountUsed
  | _ => none

/-- The amount of a call that has returned success. -/
def RegularWork.success : RegularWork → Int
  | .returned call (.ok _) => call.amount
  | _ => 0

namespace Overlap

/-- A new call has a request id that no earlier call and no record has. -/
def newRequest (state : Overlap) : OverlapMove → Bool
  | .spawn (.preConsume call) =>
    (state.shared.preConsumeRecords.get? call.requestId).isNone &&
      state.workers.all fun work => work.requestId? ≠ some call.requestId
  | _ => true

/-- The move does not save a row that has been reset. -/
def noReset (state : Overlap) : OverlapMove → Bool
  | .act ref _ =>
    match state.workers[ref]? with
    | some (.charge _ _ reset) => !reset
    | some (.reset _) => false
    | _ => true
  | _ => true

/-- A call that saves finds the used amount it has read. -/
def upToDate (sid : Int) (state : Overlap) : OverlapMove → Bool
  | .act ref _ =>
    match state.workers[ref]? with
    | some (.charge _ sub _) =>
      (state.shared.subscriptions.get? sid).all fun row => row.amountUsed = sub.amountUsed
    | _ => true
  | _ => true

/-- The sum of the amounts of the calls that have returned success. -/
def charged (state : Overlap) : Int := (state.workers.map RegularWork.success).sum

/-- The used amount as a counter that the calls write through copies. -/
def view (sid : Int) (state : Overlap) : Copies.View Int where
  value := (state.shared.subscriptions.get? sid).elim 0 (·.amountUsed)
  copies := state.workers.filterMap RegularWork.copy?
  total := state.charged

/-- What holds in every interleaving of calls with new request ids. -/
structure Inv (sid planId : Int) (plan : SubscriptionPlan) (state : Overlap) : Prop where
  only : OnlyRegular sid state.shared
  plan_eq : getSubscriptionPlanByIdTx state.shared planId = .ok plan
  row : ∃ row, state.shared.subscriptions.get? sid = some row ∧ row.planId = planId ∧
    (0 < row.amountTotal → row.amountUsed ≤ row.amountTotal)
  /-- A call that is going to save has a row with room for its amount, and no record. -/
  charges : ∀ (ref : Nat) (call : RegularCall) (sub : UserSubscription) (reset : Bool),
    state.workers[ref]? = some (.charge call sub reset) →
    sub.id = sid ∧ sub.planId = planId ∧ 0 < call.amount ∧
      (0 < sub.amountTotal → sub.amountUsed + call.amount ≤ sub.amountTotal) ∧
      state.shared.preConsumeRecords.get? call.requestId = none
  requestIds : ∀ (ref ref' : Nat) (work work' : RegularWork) (requestId : String),
    state.workers[ref]? = some work → state.workers[ref']? = some work' →
    work.requestId? = some requestId → work'.requestId? = some requestId → ref = ref'

variable {planId : Int} {plan : SubscriptionPlan} {state : Overlap}

/-! ### Reads -/

lemma readCall_cases (h : Inv sid planId plan state) (hregular : plan.isValuePackage = false)
    (hrow : state.shared.subscriptions.get? sid = some row)
    (hnone : state.shared.preConsumeRecords.get? call.requestId = none) :
    (∃ err, readCall env sid state.shared call = .returned call (.error err)) ∨
      ∃ sub reset, readCall env sid state.shared call = .charge call sub reset ∧
        sub.id = sid ∧ sub.planId = planId ∧ 0 < call.amount ∧
        (0 < sub.amountTotal → sub.amountUsed + call.amount ≤ sub.amountTotal) ∧
        (reset = false → sub.amountUsed = row.amountUsed) := by
  unfold readCall
  cases hread : readPreConsume env state.shared call.now call.requestId call.userId call.amount with
  | error err => exact .inl ⟨err, rfl⟩
  | ok read =>
    obtain ⟨hsome, -⟩ | ⟨-, hamount, sub, db₁, rfl, hselect⟩ := readPreConsume_cases hread
    · rw [hnone] at hsome
      cases hsome
    obtain ⟨hid, -⟩ := selectCandidate_only h.only hselect
    obtain ⟨_, _, -, hselected⟩ := selectCandidate_ok hselect
    obtain ⟨row', hget', hplanId, -⟩ := h.row
    rw [hrow] at hget'
    cases hget'
    obtain ⟨row₁, hget₁, hplanId₁, hused⟩ :=
      selectCandidate_row hrow (hplanId ▸ h.plan_eq) hregular hselect
    rw [← hid, hselected.stored] at hget₁
    cases hget₁
    refine .inr ⟨sub, _, rfl, hid, hplanId₁.trans hplanId, hamount, hselected.room,
      fun hreset => ?_⟩
    rw [hused, hid]
    rw [hid] at hreset
    simp [hreset]

/-- A worker that has read joins the system. -/
lemma Inv.append (h : Inv sid planId plan state)
    (hcharge : ∀ call sub reset, work = .charge call sub reset →
      sub.id = sid ∧ sub.planId = planId ∧ 0 < call.amount ∧
        (0 < sub.amountTotal → sub.amountUsed + call.amount ≤ sub.amountTotal) ∧
        state.shared.preConsumeRecords.get? call.requestId = none)
    (hnew : ∀ requestId, work.requestId? = some requestId →
      ∀ other ∈ state.workers, other.requestId? ≠ some requestId) :
    Inv sid planId plan { state with workers := state.workers ++ [work] } where
  only := h.only
  plan_eq := h.plan_eq
  row := h.row
  charges := by
    intro ref call sub reset hget
    rcases List.mem_append.mp (List.mem_of_getElem? hget) with hold | hlast
    · obtain ⟨ref', hget'⟩ := List.mem_iff_getElem?.mp hold
      exact h.charges ref' call sub reset hget'
    · exact hcharge call sub reset (List.mem_singleton.mp hlast).symm
  requestIds := by
    -- an index is of an old worker, or the last one
    have hcases : ∀ {ref other}, (state.workers ++ [work])[ref]? = some other →
        state.workers[ref]? = some other ∨ ref = state.workers.length ∧ other = work := by
      intro ref other hget
      rw [List.getElem?_append] at hget
      split_ifs at hget with hlt
      · exact .inl hget
      · obtain ⟨hzero, heq⟩ := List.getElem?_eq_some_iff.mp hget
        simp only [List.length_singleton] at hzero
        exact .inr ⟨by omega, by simpa using heq.symm⟩
    intro ref ref' other other' requestId hget hget' hid hid'
    rcases hcases hget with hold | ⟨rfl, rfl⟩ <;> rcases hcases hget' with hold' | ⟨rfl, rfl⟩
    · exact h.requestIds ref ref' other other' requestId hold hold' hid hid'
    · exact absurd hid (hnew requestId hid' other (List.mem_of_getElem? hold))
    · exact absurd hid' (hnew requestId hid other' (List.mem_of_getElem? hold'))
    · rfl

/-- A worker that joins adds at most a copy of the current row. -/
lemma reads_append (hcopy : ∀ copy, work.copy? = some copy → copy = (view sid state).value)
    (hsuccess : work.success = 0) :
    Copies.Reads (view sid state) (view sid { state with workers := state.workers ++ [work] }) where
  value := rfl
  total := by
    show ((state.workers ++ [work]).map RegularWork.success).sum = _
    simp [hsuccess, view, charged]
  copies := by
    intro copy hmem
    have hmem : copy ∈ (state.workers ++ [work]).filterMap RegularWork.copy? := hmem
    rw [List.filterMap_append, List.mem_append] at hmem
    rcases hmem with hold | hlast
    · exact .inl hold
    · rw [List.mem_filterMap] at hlast
      obtain ⟨other, hother, hlast⟩ := hlast
      rw [List.mem_singleton.mp hother] at hlast
      exact .inr (hcopy copy hlast)

/-- A call that has returned an error, or a run of the job, joins the system. -/
lemma Inv.append_idle (h : Inv sid planId plan state)
    (hidle : ∀ call sub reset, work ≠ .charge call sub reset)
    (hnew : ∀ requestId, work.requestId? = some requestId →
      ∀ other ∈ state.workers, other.requestId? ≠ some requestId) (hsuccess : work.success = 0) :
    Inv sid planId plan { state with workers := state.workers ++ [work] } ∧
      Copies.Reads (view sid state)
        (view sid { state with workers := state.workers ++ [work] }) := by
  refine ⟨h.append (fun call sub reset heq => absurd heq (hidle call sub reset)) hnew,
    reads_append ?_ hsuccess⟩
  intro copy hcopy
  unfold RegularWork.copy? at hcopy
  split at hcopy
  · exact absurd rfl (hidle _ _ _)
  · cases hcopy

lemma readJob_cases (env : Env) (sid : Int) (db : DB) (now : Int) :
    (∃ sub, readJob env sid db now = .reset sub) ∨ readJob env sid db now = .finished := by
  unfold readJob
  split
  · exact .inr rfl
  split
  · exact .inr rfl
  split
  · exact .inr rfl
  split_ifs
  · exact .inr rfl
  · exact .inl ⟨_, rfl⟩

lemma spawn (h : Inv sid planId plan state) (hregular : plan.isValuePackage = false)
    (input : RegularInput) (hnew : newRequest state (.spawn input) = true) :
    Inv sid planId plan ((regularWorkers env sid).step state (.spawn input)) ∧
      Copies.Reads (view sid state)
        (view sid ((regularWorkers env sid).step state (.spawn input))) := by
  obtain ⟨row, hrow, -⟩ := h.row
  have hvalue : (view sid state).value = row.amountUsed := by simp [view, hrow]
  cases input with
  | preConsume call =>
    obtain ⟨hnone, hothers⟩ : state.shared.preConsumeRecords.get? call.requestId = none ∧
        ∀ work ∈ state.workers, work.requestId? ≠ some call.requestId := by
      simpa [newRequest] using hnew
    have hnames : ∀ requestId, some call.requestId = some requestId →
        ∀ other ∈ state.workers, other.requestId? ≠ some requestId :=
      fun requestId heq => heq ▸ hothers
    show Inv sid planId plan { state with workers := state.workers ++
      [readCall env sid state.shared
        call] } ∧ Copies.Reads (view sid state) (view sid { state with
          workers := state.workers ++ [readCall env sid state.shared call] })
    obtain ⟨err, hread⟩ | ⟨sub, reset, hread, hid, hplanId, hamount, hfits, hused⟩ :=
      readCall_cases h hregular hrow hnone
    · rw [hread]
      exact h.append_idle (fun _ _ _ heq => by cases heq) hnames rfl
    · rw [hread]
      refine ⟨h.append ?_ hnames, reads_append ?_ rfl⟩
      · intro call' sub' reset' heq
        cases heq
        exact ⟨hid, hplanId, hamount, hfits, hnone⟩
      · intro copy hcopy
        cases reset with
        | true => cases hcopy
        | false =>
          cases hcopy
          rw [hvalue]
          exact hused rfl
  | resetDue now =>
    show Inv sid planId plan { state with workers := state.workers ++
      [readJob env sid state.shared
        now] } ∧ Copies.Reads (view sid state) (view sid { state with
          workers := state.workers ++ [readJob env sid state.shared now] })
    have hnone : ∀ requestId, (none : Option String) = some requestId →
        ∀ other ∈ state.workers, other.requestId? ≠ some requestId :=
      fun _ heq => by cases heq
    obtain ⟨sub, hjob⟩ | hjob := readJob_cases env sid state.shared now
    · rw [hjob]
      exact h.append_idle (fun _ _ _ heq => by cases heq) hnone rfl
    · rw [hjob]
      exact h.append_idle (fun _ _ _ heq => by cases heq) hnone rfl

/-! ### Saves -/

/-- A call that saves: its record and its copy of the row are written. -/
lemma Inv.saveCall (h : Inv sid planId plan state) {reset : Bool}
    {result : Except TxError SubscriptionPreConsumeResult}
    (hget : state.workers[ref]? = some (.charge call sub reset)) :
    Inv sid planId plan ⟨(state.shared.savePreConsume (regularPreConsumeRecord sub call.requestId
        call.userId call.amount call.now)).saveSubscription
          { sub with amountUsed := sub.amountUsed + call.amount },
      state.workers.set ref (.returned call result)⟩ := by
  obtain ⟨hid, hplanId, hamount, hfits, hnone⟩ := h.charges ref call sub reset hget
  -- every worker still has the request it had before
  have hold : ∀ {other : Nat} {work : RegularWork} {requestId : String},
      (state.workers.set ref (.returned call result))[other]? = some work →
      work.requestId? = some requestId →
      ∃ before, state.workers[other]? = some before ∧ before.requestId? = some requestId := by
    intro other work requestId hother hrequest
    rw [List.getElem?_set] at hother
    split_ifs at hother with heq hlt
    · subst heq
      cases hother
      exact ⟨_, hget, hrequest⟩
    · exact ⟨work, hother, hrequest⟩
  refine ⟨?_, h.plan_eq, ?_, ?_, ?_⟩
  · have hrecorded : OnlyRegular sid (state.shared.savePreConsume (regularPreConsumeRecord sub
        call.requestId call.userId call.amount call.now)) := h.only
    exact hrecorded.saveSubscription hid
  · refine ⟨{ sub with amountUsed := sub.amountUsed + call.amount }, ?_, hplanId, hfits⟩
    rw [← hid, DB.saveSubscription_subscriptions]
    exact get?_put_self _ _
  · intro other call' sub' reset' hother
    rw [List.getElem?_set] at hother
    split_ifs at hother with heq hlt
    · cases hother
    · obtain ⟨hid', hplanId', hamount', hfits', hnone'⟩ := h.charges other call' sub' reset' hother
      refine ⟨hid', hplanId', hamount', hfits',
        (get?_put_of_ne _ fun hsame => ?_).trans hnone'⟩
      -- two calls of one request would be one call
      exact heq (h.requestIds ref other _ _ call'.requestId hget hother (congrArg some hsame) rfl)
  · intro other other' work work' requestId hother hother' hrequest hrequest'
    obtain ⟨before, hbefore, hrequest⟩ := hold hother hrequest
    obtain ⟨before', hbefore', hrequest'⟩ := hold hother' hrequest'
    exact h.requestIds other other' before before' requestId hbefore hbefore' hrequest hrequest'

lemma writes_saveCall {result : SubscriptionPreConsumeResult}
    (hget : state.workers[ref]? = some (.charge call sub false)) (hamount : 0 < call.amount)
    (hrow : db.subscriptions.get? sid = some row)
    (hused : row.amountUsed = sub.amountUsed + call.amount) :
    Copies.Writes sub.amountUsed call.amount (view sid state)
      (view sid ⟨db, state.workers.set ref (.returned call (.ok result))⟩) where
  mem := List.mem_filterMap.mpr ⟨_, List.mem_of_getElem? hget, rfl⟩
  pos := hamount
  value := by
    show (db.subscriptions.get? sid).elim 0 (·.amountUsed) = _
    rw [hrow]
    exact hused
  total := by
    obtain ⟨hlt, heq⟩ := List.getElem?_eq_some_iff.mp hget
    show ((state.workers.set ref (.returned call (.ok result))).map RegularWork.success).sum = _
    rw [List.map_set, List.sum_set']
    simp [hlt, heq, RegularWork.success, view, charged]
  copies := by
    intro copy hmem
    obtain ⟨work, hwork, hcopy⟩ := List.mem_filterMap.mp hmem
    rcases List.mem_or_eq_of_mem_set hwork with hold | rfl
    · exact List.mem_filterMap.mpr ⟨work, hold, hcopy⟩
    · cases hcopy

lemma reads_refl (state : Overlap) : Copies.Reads (view sid state) (view sid state) :=
  ⟨rfl, rfl, fun _ hmem => .inl hmem⟩

lemma act (h : Inv sid planId plan state) (ref : Nat) (input : Unit)
    (hreset : noReset state (.act ref input) = true) :
    Inv sid planId plan ((regularWorkers env sid).step state (.act ref input)) ∧
      (Copies.Reads (view sid state)
            (view sid ((regularWorkers env sid).step state (.act ref input))) ∧
          upToDate sid state (.act ref input) = true ∨
        ∃ copy amount, Copies.Writes copy amount (view sid state)
            (view sid ((regularWorkers env sid).step state (.act ref input))) ∧
          (upToDate sid state (.act ref input) = true ↔ copy = (view sid state).value)) := by
  -- a worker without a step left stays as it is
  have hidle : ∀ work, state.workers[ref]? = some work → work.save state.shared =
      (state.shared, work) → (regularWorkers env sid).step state (.act ref input) = state := by
    intro work hget hsave
    obtain ⟨hlt, heq⟩ := List.getElem?_eq_some_iff.mp hget
    unfold System.step
    dsimp only [regularWorkers]
    rw [hget]
    dsimp only
    rw [hsave, ← heq, List.set_getElem_self]
  cases hget : state.workers[ref]? with
  | none =>
    have hstep : (regularWorkers env sid).step state (.act ref input) = state := by
      simp [System.step, hget]
    rw [hstep]
    exact ⟨h, .inl ⟨reads_refl state, by simp [upToDate, hget]⟩⟩
  | some work =>
    cases work with
    | returned | finished =>
      rw [hidle _ hget rfl]
      exact ⟨h, .inl ⟨reads_refl state, by simp [upToDate, hget]⟩⟩
    | reset sub => simp [noReset, hget] at hreset
    | charge call sub reset =>
      obtain rfl : reset = false := by simpa [noReset, hget] using hreset
      obtain ⟨hid, -, hamount, -, hnone⟩ := h.charges ref call sub false hget
      obtain ⟨row, hrow, -⟩ := h.row
      have hstep : (regularWorkers env sid).step state (.act ref input) =
          ⟨(saveCall state.shared call sub).1,
            state.workers.set ref (saveCall state.shared call sub).2⟩ := by
        simp [System.step, hget, regularWorkers, RegularWork.save]
      rw [hstep, saveCall_of_none sub hnone]
      refine ⟨h.saveCall hget, .inr ⟨sub.amountUsed, call.amount, ?_, ?_⟩⟩
      · have hsaved : ((state.shared.savePreConsume (regularPreConsumeRecord sub call.requestId
            call.userId call.amount call.now)).saveSubscription
              { sub with amountUsed := sub.amountUsed + call.amount }).subscriptions.get? sid =
            some { sub with amountUsed := sub.amountUsed + call.amount } := by
          rw [← hid, DB.saveSubscription_subscriptions]
          exact get?_put_self _ _
        exact writes_saveCall hget hamount hsaved rfl
      · simp [upToDate, hget, hrow, view, eq_comm]

lemma step (h : Inv sid planId plan state) (hregular : plan.isValuePackage = false)
    (move : OverlapMove) (hnew : newRequest state move = true)
    (hreset : noReset state move = true) :
    Inv sid planId plan ((regularWorkers env sid).step state move) ∧
      (Copies.Reads (view sid state) (view sid ((regularWorkers env sid).step state move)) ∧
          upToDate sid state move = true ∨
        ∃ copy amount, Copies.Writes copy amount (view sid state)
            (view sid ((regularWorkers env sid).step state move)) ∧
          (upToDate sid state move = true ↔ copy = (view sid state).value)) := by
  cases move with
  | spawn input =>
    obtain ⟨hinv, hreads⟩ := spawn h hregular input hnew
    exact ⟨hinv, .inl ⟨hreads, rfl⟩⟩
  | act ref input => exact act h ref input hreset

end Overlap

/-- On the only regular subscription, let calls with new request ids and runs of the job be
interleaved such that no reset is saved. The used amount has grown by the amounts of the successful
calls, and is within the total, exactly when every call has saved while the used amount was the one
it had read. -/
theorem charges_kept_iff (env : Env) (sid : Int) (db : DB) (row : UserSubscription)
    (plan : SubscriptionPlan) (hrow : db.subscriptions.get? sid = some row)
    (hplan : getSubscriptionPlanByIdTx db row.planId = .ok plan)
    (hregular : plan.isValuePackage = false) (honly : OnlyRegular sid db)
    (htotal : 0 < row.amountTotal → row.amountUsed ≤ row.amountTotal) (moves : List OverlapMove)
    (hnew : Along (regularWorkers env sid).step
      (fun state move => Overlap.newRequest state move = true) ⟨db, []⟩ moves)
    (hreset : Along (regularWorkers env sid).step
      (fun state move => Overlap.noReset state move = true) ⟨db, []⟩ moves) :
    (∃ row', (exec (regularWorkers env sid).step ⟨db, []⟩ moves).shared.subscriptions.get? sid =
          some row' ∧
        row'.amountUsed = row.amountUsed +
          Overlap.charged (exec (regularWorkers env sid).step ⟨db, []⟩ moves) ∧
        (0 < row'.amountTotal → row'.amountUsed ≤ row'.amountTotal)) ↔
      Along (regularWorkers env sid).step
        (fun state move => Overlap.upToDate sid state move = true) ⟨db, []⟩ moves := by
  have hstart : Overlap.Inv sid row.planId plan ⟨db, []⟩ := by
    refine ⟨honly, hplan, ⟨row, hrow, rfl, htotal⟩, ?_, ?_⟩
    · intro ref call sub reset hget
      simp at hget
    · intro ref ref' work work' requestId hget
      simp at hget
  have hkept : Copies.Kept row.amountUsed (Overlap.view sid ⟨db, []⟩) := by
    refine ⟨by simp [Overlap.view, Overlap.charged, hrow], ?_⟩
    intro copy hcopy
    simp [Overlap.view] at hcopy
  have hconditions := hnew.and hreset
  have hfinal := exec_induction (Overlap.Inv sid row.planId plan)
    (fun _ move h hmove => (Overlap.step h hregular move hmove.1 hmove.2).1) hstart hconditions
  rw [← Copies.kept_iff_fresh (Overlap.view sid)
    (fun _ move h hmove => (Overlap.step h hregular move hmove.1 hmove.2).1)
    (fun _ move h hmove => (Overlap.step h hregular move hmove.1 hmove.2).2) hstart hconditions
      hkept]
  obtain ⟨row', hrow', -, hbound⟩ := hfinal.row
  have hvalue : (Overlap.view sid (exec (regularWorkers env sid).step ⟨db, []⟩ moves)).value =
      row'.amountUsed := by
    simp [Overlap.view, hrow']
  rw [hvalue]
  constructor
  · rintro ⟨row'', hrow'', hused, -⟩
    rw [hrow'] at hrow''
    cases hrow''
    exact hused
  · exact fun hused => ⟨row', hrow', hused, hbound⟩

/-- Two calls for `10` each, one after the other, and then a run of the job that finds nothing
due. -/
def separateCalls : List OverlapMove :=
  [.spawn (.preConsume ⟨1001, "r1", 1, 10⟩), .act 0 (), .spawn (.preConsume ⟨1002, "r2", 1, 10⟩),
    .act 1 (), .spawn (.resetDue 1003), .act 2 ()]

lemma onlyRegular_hundredSecondDB : OnlyRegular 2 hundredSecondDB := by
  intro row hrow plan hplan hregular
  rcases mem_put.mp hrow with rfl | ⟨hold, -⟩
  · rfl
  · -- the other subscription is to a value package
    rcases mem_put.mp hold with rfl | ⟨hnone, -⟩
    · cases hplan
      cases hregular
    · cases hnone

theorem separateCalls_kept :
    ∃ row', (exec (regularWorkers sampleEnv 2).step ⟨hundredSecondDB, []⟩
        separateCalls).shared.subscriptions.get? 2 = some row' ∧
      row'.amountUsed = 0 + Overlap.charged (exec (regularWorkers sampleEnv 2).step
        ⟨hundredSecondDB, []⟩ separateCalls) ∧
      (0 < row'.amountTotal → row'.amountUsed ≤ row'.amountTotal) :=
  (charges_kept_iff sampleEnv 2 hundredSecondDB
    ⟨2, 1, 2, 100, 0, 0, 1000, 10000000, .active, 1000, 1100, 1000⟩
    ⟨2, .subscription, .other, 0, 0, 100, .custom, 100⟩ rfl rfl rfl onlyRegular_hundredSecondDB
    (by decide) separateCalls (by decide) (by decide)).mpr (by decide)

/-- Both calls read before either saves. Each returns success, and the used amount is `10`. -/
theorem overlapping_charge_lost :
    let final := exec (regularWorkers sampleEnv 2).step ⟨hundredSecondDB, []⟩
      [.spawn (.preConsume ⟨1001, "r1", 1, 10⟩), .spawn (.preConsume ⟨1002, "r2", 1, 10⟩),
        .act 0 (),
        .act 1 ()]
    Overlap.charged final = 20 ∧
      (final.shared.subscriptions.get? 2).map (·.amountUsed) = some 10 := by
  decide

end Yunbay
