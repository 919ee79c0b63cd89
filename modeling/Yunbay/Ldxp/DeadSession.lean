import Yunbay.Ldxp.Verify

/-!
# Dead LDXP sessions

All calls on LDXP sessions in any order, one transaction at a time. A verification does not look at
the status of the session: it turns even a canceled session into one whose verification has failed,
to which a mail can be matched again.

What protects a dead session is its status text. Only `RecordLdxpWorkerResult` writes it, which
takes a session from `qr_ready` to `worker_paid`, and a verification does not pass without it.
-/

namespace Yunbay

open Except Run Table

variable {session : LdxpTopupSession} {sessionId candidate workerId id : String}
  {set : LdxpTopupSession → LdxpTopupSession} {now : Int} {call : LdxpVerifyCall}
  {times : SettleTimes} {settlement : Settlement} {outcome : SettleOutcome} {p : LdxpTrack → Prop}
  {moves : List LdxpMove}

/-! ## The system -/

/-- The tables and the calls that run. -/
structure LdxpSystem where
  db : LdxpDb
  /-- The calls that have verified a value package and have not finished. One that is never
  scheduled again has crashed. -/
  settling : List Settlement

/-- One transaction of a call. -/
inductive LdxpMove where
  | create (new : NewLdxpSession)
  | cancel (sessionId : String) (userId now : Int)
  | expire (now : Int)
  | claim (candidate workerId : String) (now : Int)
  | claimPaidWatch (candidate workerId : String) (now : Int)
  | recordQr (sessionId : String) (payload : LdxpWorkerQrPayload) (now : Int)
  | recordResult (sessionId : String) (payload : LdxpWorkerResultPayload) (now : Int)
  | recordError (sessionId workerId message snapshotPath : String) (now : Int)
  | saveMail (parsed : LdxpParsedMail)
  | matchMail (eventId now : Int)
  | verify (call : LdxpVerifyCall)
  | settle (ref : Nat) (times : SettleTimes)

namespace LdxpSystem

/-- The tables after a call, which are the old ones if it has failed. -/
def tryUpdate (system : LdxpSystem) : Except LdxpError LdxpDb → LdxpSystem
  | .ok db => { system with db }
  | .error _ => system

def step (env : LdxpEnv) (system : LdxpSystem) : LdxpMove → LdxpSystem
  | .create new => { system with db := (insertLdxpTopupSession system.db new).getD system.db }
  | .cancel sessionId userId now =>
    system.tryUpdate (cancelLdxpTopupSession system.db sessionId userId now)
  | .expire now => { system with db := markExpiredLdxpTopupSessions system.db now }
  | .claim candidate workerId now =>
    system.tryUpdate (claimSelectedLdxpTopupSession system.db candidate workerId now)
  | .claimPaidWatch candidate workerId now =>
    system.tryUpdate (claimPaidWatchSession system.db candidate workerId now)
  | .recordQr sessionId payload now =>
    system.tryUpdate (recordLdxpQr system.db sessionId payload now)
  | .recordResult sessionId payload now =>
    system.tryUpdate (recordLdxpWorkerResult system.db sessionId payload now)
  | .recordError sessionId workerId message snapshotPath now =>
    system.tryUpdate (recordLdxpWorkerError system.db sessionId workerId message snapshotPath now)
  | .saveMail parsed => { system with db := saveLdxpMailEvent system.db parsed }
  | .matchMail eventId now => system.tryUpdate (tryMatchLdxpMailEvent env system.db eventId now)
  | .verify call =>
    match verifyLdxpSessionTx env system.db call with
    | .error _ => system
    | .ok (⟨.answer _, _⟩, db) => { system with db }
    | .ok (⟨.settle session, _⟩, db) => ⟨db, system.settling ++ [.link session]⟩
  | .settle ref times =>
    match system.settling[ref]? with
    | none => system
    | some settlement =>
      let outcome := settleStep env system.db times settlement
      ⟨outcome.db, system.settling.eraseIdx ref ++ outcome.next.toList⟩

/-- No sessions yet. -/
def start (ledger : LdxpLedger) (orderIdOf : String → Int) : LdxpSystem :=
  ⟨⟨ledger, Table.empty, Table.empty, orderIdOf⟩, []⟩

end LdxpSystem

/-! ## What a transaction does to a session -/

/-- The columns that decide whether a session can pay. -/
structure LdxpTrack where
  status : LdxpStatus
  workerId : Trimmed
  workerOrderNo : Trimmed
  workerStatusText : Trimmed

def LdxpTopupSession.track (session : LdxpTopupSession) : LdxpTrack :=
  ⟨session.status, session.workerId, session.workerOrderNo, session.workerStatusText⟩

def LdxpDb.track (db : LdxpDb) (id : String) : Option LdxpTrack :=
  (db.sessions.get? id).map LdxpTopupSession.track

/-- The session was given up. -/
def LdxpStatus.isDead : LdxpStatus → Bool
  | .canceled | .expired | .workerFailed => true
  | _ => false

/-- The session has passed a verification. -/
def LdxpStatus.isVerified : LdxpStatus → Bool
  | .verified | .redeemed | .success | .redeemFailed => true
  | _ => false

/-- What a transaction can do to the session `id`. -/
inductive TrackStep (db : LdxpDb) (move : LdxpMove) (id : String) :
    LdxpTrack → LdxpTrack → Prop where
  | same (track : LdxpTrack) : TrackStep db move id track track
  | claim {track : LdxpTrack} {workerId : String} {now : Int} {db' : LdxpDb}
      (hmove : move = .claim id workerId now)
      (hok : claimSelectedLdxpTopupSession db id workerId now = .ok db')
      (hstatus : track.status = .created) :
      TrackStep db move id track
        { track with status := .workerClaimed, workerId := .of workerId }
  | qr {track : LdxpTrack} (workerOrderNo : Trimmed)
      (hstatus : isLdxpCancelableStatus track.status = true) :
      TrackStep db move id track { track with status := .qrReady, workerOrderNo }
  | paid {track : LdxpTrack} {payload : LdxpWorkerResultPayload} {now : Int} {db' : LdxpDb}
      (hmove : move = .recordResult id payload now)
      (hok : recordLdxpWorkerResult db id payload now = .ok db')
      (hworker : Trimmed.of payload.workerId ≠ .blank)
      (hsame : track.workerId = .of payload.workerId)
      (horder : track.workerOrderNo = .of payload.workerOrderNo)
      (hstatus : track.status = .qrReady) :
      TrackStep db move id track
        { track with status := .workerPaid, workerStatusText := .of payload.workerStatusText }
  | close {track : LdxpTrack} {status : LdxpStatus} (hdead : status.isDead = true)
      (hstatus : isLdxpCancelableStatus track.status = true) :
      TrackStep db move id track { track with status }
  | verifyFailed (track : LdxpTrack) :
      TrackStep db move id track { track with status := .verifyFailed }
  | verified {track : LdxpTrack} {status : LdxpStatus} (hverified : status.isVerified = true)
      (hpaid : isPaidText track.workerStatusText = true) :
      TrackStep db move id track { track with status }

/-- The columns of a new session. -/
def LdxpTrack.fresh : LdxpTrack := ⟨.created, .blank, .blank, .blank⟩

/-- What a transaction can do to the place of a session. -/
inductive PlaceStep (db : LdxpDb) (move : LdxpMove) (id : String) :
    Option LdxpTrack → Option LdxpTrack → Prop where
  | absent : PlaceStep db move id none none
  | created : PlaceStep db move id none (some .fresh)
  | changed {track track' : LdxpTrack} (hstep : TrackStep db move id track track') :
      PlaceStep db move id (some track) (some track')

section Step

variable {env : LdxpEnv} {db db' : LdxpDb} {move : LdxpMove}

lemma PlaceStep.refl (db : LdxpDb) (move : LdxpMove) (id : String) (place : Option LdxpTrack) :
    PlaceStep db move id place place := by
  cases place with
  | none => exact .absent
  | some track => exact .changed (.same track)

lemma LdxpDb.track_put (hput : db'.sessions = db.sessions.put session) (id : String) :
    db'.track id = if session.sessionId = id then some session.track else db.track id := by
  unfold LdxpDb.track
  rw [hput, get?_put]
  split_ifs
  · rfl
  · rfl

lemma PlaceStep.save {session' : LdxpTopupSession}
    (hget : db.sessions.get? sessionId = some session)
    (hput : db'.sessions = db.sessions.put session') (hid : session'.sessionId = session.sessionId)
    (hstep : TrackStep db move sessionId session.track session'.track) :
    PlaceStep db move id (db.track id) (db'.track id) := by
  have hkey : session.sessionId = sessionId := key_of_get? hget
  rw [LdxpDb.track_put hput, hid, hkey]
  split_ifs with hsame
  · subst hsame
    rw [LdxpDb.track, hget]
    exact .changed hstep
  · exact .refl db move id _

lemma PlaceStep.updateWhere {cond : LdxpTopupSession → Prop} [DecidablePred cond]
    (h : db.updateWhere sessionId cond set = some db')
    (hid : ∀ session, (set session).sessionId = session.sessionId)
    (hstep : ∀ session, cond session →
      TrackStep db move sessionId session.track (set session).track) :
    PlaceStep db move id (db.track id) (db'.track id) := by
  obtain ⟨session, hget, hcond, rfl⟩ := LdxpDb.updateWhere_eq_some h
  exact .save hget (LdxpDb.saveSession_sessions db _) (hid session) (hstep session hcond)

lemma Option.elim_error_ok {α ε : Type} {x : Option α} {err : ε} {a : α}
    (h : x.elim (.error err) Except.ok = .ok a) : x = some a := by
  cases x with
  | none => cases h
  | some b => rw [Except.ok.inj h]

lemma insert_placeStep {new : NewLdxpSession} (h : insertLdxpTopupSession db new = some db') :
    PlaceStep db move id (db.track id) (db'.track id) := by
  unfold insertLdxpTopupSession at h
  split at h
  · cases h
  next hnone =>
    cases h
    rw [LdxpDb.track_put (LdxpDb.saveSession_sessions db _)]
    split_ifs with hid
    · have hplace : db.track id = none := by
        rw [LdxpDb.track, ← hid]
        exact congrArg (Option.map LdxpTopupSession.track) hnone
      rw [hplace]
      exact .created
    · exact .refl db move id _

lemma cancel_placeStep {userId : Int}
    (h : cancelLdxpTopupSession db sessionId userId now = .ok db') :
    PlaceStep db move id (db.track id) (db'.track id) := by
  unfold cancelLdxpTopupSession at h
  split at h
  · cases h
  · obtain ⟨_, h⟩ := of_bind h
    refine .updateWhere (Option.elim_error_ok h) (fun _ => rfl) ?_
    intro session hcond
    exact .close rfl hcond.2

lemma expire_placeStep (db : LdxpDb) (move : LdxpMove) (id : String) (now : Int) :
    PlaceStep db move id (db.track id) ((markExpiredLdxpTopupSessions db now).track id) := by
  unfold LdxpDb.track markExpiredLdxpTopupSessions
  rw [get?_mapRows]
  cases db.sessions.get? id with
  | none => exact .absent
  | some session =>
    refine .changed ?_
    change TrackStep db move id session.track (session.expireAt now).track
    unfold LdxpTopupSession.expireAt
    split_ifs with hexpired
    · exact .close rfl hexpired.1
    · exact .same _

lemma claim_placeStep (hmove : move = .claim candidate workerId now)
    (h : claimSelectedLdxpTopupSession db candidate workerId now = .ok db') :
    PlaceStep db move id (db.track id) (db'.track id) := by
  obtain ⟨_, hupdate⟩ := of_bind h
  refine .updateWhere (Option.elim_error_ok hupdate) (fun _ => rfl) ?_
  intro session hcond
  exact .claim hmove h hcond.1

lemma claimPaidWatch_placeStep (h : claimPaidWatchSession db candidate workerId now = .ok db') :
    PlaceStep db move id (db.track id) (db'.track id) := by
  obtain ⟨_, hupdate⟩ := of_bind h
  refine .updateWhere (Option.elim_error_ok hupdate) (fun _ => rfl) ?_
  intro session _
  exact .same _

/-- A report of a worker either changes a session or nothing. -/
lemma ignoreIfCanceled_ok {workerId : Trimmed} {update : Option LdxpDb}
    (h : ignoreIfCanceled db sessionId workerId update = .ok db') :
    update = some db' ∨ db' = db := by
  unfold ignoreIfCanceled at h
  split at h
  · exact .inl (congrArg some (Except.ok.inj h))
  · split at h
    · cases h
    · split_ifs at h
      exact .inr (Except.ok.inj h).symm

lemma recordQr_placeStep {payload : LdxpWorkerQrPayload}
    (h : recordLdxpQr db sessionId payload now = .ok db') :
    PlaceStep db move id (db.track id) (db'.track id) := by
  obtain ⟨_, h⟩ := of_bind h
  obtain ⟨_, h⟩ := of_bind h
  obtain ⟨_, h⟩ := of_bind h
  obtain ⟨_, h⟩ := of_bind h
  rcases ignoreIfCanceled_ok h with hupdate | rfl
  · refine .updateWhere hupdate (fun _ => rfl) ?_
    rintro session ⟨-, hstatus, -⟩
    apply TrackStep.qr (Trimmed.of payload.workerOrderNo)
    rcases hstatus with hstatus | hstatus <;>
      simp [LdxpTopupSession.track, hstatus, isLdxpCancelableStatus]
  · exact .refl _ _ _ _

lemma recordResult_placeStep {payload : LdxpWorkerResultPayload}
    (hmove : move = .recordResult sessionId payload now)
    (h : recordLdxpWorkerResult db sessionId payload now = .ok db') :
    PlaceStep db move id (db.track id) (db'.track id) := by
  obtain ⟨hworker, hrest⟩ := of_check h
  obtain ⟨_, hrest⟩ := of_bind hrest
  obtain ⟨_, hrest⟩ := of_bind hrest
  refine .updateWhere (Option.elim_error_ok hrest) (fun _ => rfl) ?_
  rintro session ⟨hsame, hstatus, horder⟩
  have hpaid : (session.paidBy payload now).track =
      { session.track with
        status := .workerPaid, workerStatusText := .of payload.workerStatusText } := by
    simp [LdxpTopupSession.track, LdxpTopupSession.paidBy, horder]
  rw [hpaid]
  exact .paid hmove h hworker hsame horder hstatus

lemma recordError_placeStep {message snapshotPath : String}
    (h : recordLdxpWorkerError db sessionId workerId message snapshotPath now = .ok db') :
    PlaceStep db move id (db.track id) (db'.track id) := by
  obtain ⟨_, h⟩ := of_bind h
  obtain ⟨_, h⟩ := of_bind h
  obtain ⟨_, h⟩ := of_bind h
  rcases ignoreIfCanceled_ok h with hupdate | rfl
  · refine .updateWhere hupdate (fun _ => rfl) ?_
    rintro session ⟨-, hstatus⟩
    apply TrackStep.close rfl
    rcases hstatus with hstatus | hstatus <;>
      simp [LdxpTopupSession.track, hstatus, isLdxpCancelableStatus]
  · exact .refl _ _ _ _

lemma matchMail_placeStep {eventId : Int} (h : tryMatchLdxpMailEvent env db eventId now = .ok db') :
    PlaceStep db move id (db.track id) (db'.track id) := by
  unfold tryMatchLdxpMailEvent at h
  split at h
  · cases h
  obtain ⟨_, h⟩ := of_bind h
  split at h
  · cases h
  next session hfirst =>
    split_ifs at h
    · obtain ⟨_, h⟩ := of_bind h
      cases h
      exact .refl _ _ _ _
    · obtain ⟨_, h⟩ := of_bind h
      cases h
      -- The mail columns are none of those that are tracked.
      have hget := get?_of_mem (first?_eq_some hfirst).1
      exact .save hget (LdxpDb.saveSession_sessions db _) rfl (.same _)

lemma verify_placeStep {outcome : VerifyOutcome} (h : VerifyStep env db call outcome db') :
    PlaceStep db move id (db.track id) (db'.track id) := by
  cases h with
  | kept result => exact .refl _ _ _ _
  | failed hget hunpaid =>
    exact .save hget (LdxpDb.saveSession_sessions db _) rfl (.verifyFailed _)
  | settling hpassed hpurpose =>
    exact .save hpassed.get (LdxpDb.saveSession_sessions db _) rfl
      (.verified rfl hpassed.fields.2)
  | redeemed hpassed hpurpose hverified hphase =>
    subst hverified
    refine .save hpassed.get (LdxpDb.saveSession_sessions _ _) ?_ ?_
    · unfold RedeemPhase.row
      split <;> rfl
    · unfold RedeemPhase.row
      split
      · exact .verified rfl hpassed.fields.2
      · exact .verified rfl hpassed.fields.2

lemma updateSession_placeStep {status : LdxpStatus} (hverified : status.isVerified = true)
    (hid : ∀ row, (set row).sessionId = row.sessionId)
    (htrack : ∀ row, (set row).track = { row.track with status })
    (hpaid : ∀ track, db.track sessionId = some track → isPaidText track.workerStatusText = true) :
    PlaceStep db move id (db.track id) ((db.updateSession sessionId set).track id) := by
  unfold LdxpDb.updateSession
  cases hget : db.sessions.get? sessionId with
  | none => exact .refl _ _ _ _
  | some row =>
    refine .save hget (LdxpDb.saveSession_sessions db _) (hid row) ?_
    rw [htrack]
    apply TrackStep.verified hverified
    apply hpaid
    rw [LdxpDb.track, hget]
    rfl

lemma settle_placeStep (hstep : SettleStep env db times settlement outcome)
    (hpaid : ∀ track, db.track settlement.session.sessionId = some track →
      isPaidText track.workerStatusText = true) :
    PlaceStep db move id (db.track id) (outcome.db.track id) := by
  cases hstep with
  | unlinked | failed | succeeded =>
    exact updateSession_placeStep rfl (fun _ => rfl) (fun _ => rfl) hpaid
  -- The other transactions do not write to the sessions.
  | _ => exact .refl _ _ _ _

lemma SettleStep.session_next {next : Settlement}
    (hstep : SettleStep env db times settlement outcome) (hnext : outcome.next = some next) :
    next.session = settlement.session := by
  cases hstep with
  | linked | completed | rejected =>
    cases hnext
    rfl
  | _ => cases hnext

end Step

/-! ## The invariant -/

namespace LdxpTrack

/-- Before the order is paid there is no status text, and a verified session has a paid one. -/
structure Sound (track : LdxpTrack) : Prop where
  unpaid : isLdxpCancelableStatus track.status = true ∨ track.status.isDead = true →
    track.workerStatusText = .blank
  verified : track.status.isVerified = true → isPaidText track.workerStatusText = true

/-- The order has been reported as paid. -/
structure Paid (track : LdxpTrack) : Prop where
  text : isPaidText track.workerStatusText = true
  closed : isLdxpCancelableStatus track.status = false

/-- The order has not been reported as paid, and will not be. -/
structure Lost (track : LdxpTrack) : Prop where
  text : track.workerStatusText = .blank
  closed : isLdxpCancelableStatus track.status = false
  unverified : track.status.isVerified = false

variable {db : LdxpDb} {move : LdxpMove} {track track' : LdxpTrack}

lemma sound_fresh : fresh.Sound := ⟨fun _ => rfl, nofun⟩

lemma Sound.step (h : track.Sound) (hstep : TrackStep db move id track track') : track'.Sound := by
  cases hstep with
  | same => exact h
  | claim hmove hok hstatus =>
    refine ⟨fun _ => h.unpaid ?_, nofun⟩
    simp [hstatus, isLdxpCancelableStatus]
  | qr workerOrderNo hstatus => exact ⟨fun _ => h.unpaid (.inl hstatus), nofun⟩
  | paid | verifyFailed =>
    exact ⟨fun hstatus => by simp [isLdxpCancelableStatus, LdxpStatus.isDead] at hstatus, nofun⟩
  | close hdead hstatus =>
    refine ⟨fun _ => h.unpaid (.inl hstatus), fun hverified => ?_⟩
    -- No status is both dead and verified.
    rename_i status
    cases status <;> simp [LdxpStatus.isDead, LdxpStatus.isVerified] at hdead hverified
  | verified hverified hpaid =>
    refine ⟨fun hstatus => ?_, fun _ => hpaid⟩
    rename_i status
    cases status <;>
      simp [isLdxpCancelableStatus, LdxpStatus.isDead, LdxpStatus.isVerified] at hstatus hverified

lemma Paid.step (h : track.Paid) (hstep : TrackStep db move id track track') : track'.Paid := by
  have hopen := h.closed
  cases hstep with
  | same => exact h
  | claim hmove hok hstatus | paid hmove hok hworker hsame horder hstatus =>
    simp [hstatus, isLdxpCancelableStatus] at hopen
  | qr workerOrderNo hstatus | close hdead hstatus => simp [hstatus] at hopen
  | verifyFailed => exact ⟨h.text, rfl⟩
  | verified hverified hpaid =>
    refine ⟨hpaid, ?_⟩
    rename_i status
    cases status <;> simp [isLdxpCancelableStatus, LdxpStatus.isVerified] at hverified ⊢

/-- What the worker has reported stays. -/
lemma Paid.exists_status (h : track.Paid) (hstep : TrackStep db move id track track') :
    ∃ status, track' = { track with status } := by
  have hopen := h.closed
  cases hstep with
  | same | verifyFailed | verified => exact ⟨_, rfl⟩
  | claim hmove hok hstatus | paid hmove hok hworker hsame horder hstatus =>
    simp [hstatus, isLdxpCancelableStatus] at hopen
  | qr workerOrderNo hstatus | close hdead hstatus => simp [hstatus] at hopen

/-- A session that has been reported as paid is neither open nor dead. -/
lemma Sound.reported (h : track.Sound) (htext : isPaidText track.workerStatusText = true) :
    isLdxpCancelableStatus track.status = false ∧ track.status.isDead = false := by
  rw [← Bool.not_eq_true, ← Bool.not_eq_true, ← not_or]
  intro hunpaid
  rw [h.unpaid hunpaid, isPaidText_blank] at htext
  cases htext

lemma Lost.step (h : track.Lost) (hstep : TrackStep db move id track track') : track'.Lost := by
  have hopen := h.closed
  cases hstep with
  | same => exact h
  | claim hmove hok hstatus | paid hmove hok hworker hsame horder hstatus =>
    simp [hstatus, isLdxpCancelableStatus] at hopen
  | qr workerOrderNo hstatus | close hdead hstatus => simp [hstatus] at hopen
  | verifyFailed => exact ⟨h.text, rfl, rfl⟩
  | verified hverified hpaid =>
    rw [h.text, isPaidText_blank] at hpaid
    cases hpaid

lemma Sound.lost (h : track.Sound) (hdead : track.status.isDead = true) : track.Lost := by
  refine ⟨h.unpaid (.inr hdead), ?_, ?_⟩
  · cases hstatus : track.status <;> simp [hstatus, LdxpStatus.isDead] at hdead <;> rfl
  · cases hstatus : track.status <;> simp [hstatus, LdxpStatus.isDead] at hdead <;> rfl

end LdxpTrack

namespace LdxpSystem

variable {env : LdxpEnv} {system : LdxpSystem}

/-- The session `id` is there, and its columns have the property `p`. -/
def Has (system : LdxpSystem) (id : String) (p : LdxpTrack → Prop) : Prop :=
  ∃ track, system.db.track id = some track ∧ p track

/-- All sessions are sound, and what is being settled has been paid. -/
structure Inv (system : LdxpSystem) : Prop where
  sound : ∀ id track, system.db.track id = some track → track.Sound
  settling : ∀ settlement ∈ system.settling,
    system.Has settlement.session.sessionId LdxpTrack.Paid

lemma inv_start (ledger : LdxpLedger) (orderIdOf : String → Int) :
    (start ledger orderIdOf).Inv where
  sound := by
    intro id track htrack
    simp [start, LdxpDb.track] at htrack
  settling := List.forall_mem_nil _

lemma tryUpdate_placeStep {move : LdxpMove} {tx : Except LdxpError LdxpDb}
    (h : ∀ db', tx = .ok db' → PlaceStep system.db move id (system.db.track id) (db'.track id)) :
    PlaceStep system.db move id (system.db.track id) ((system.tryUpdate tx).db.track id) := by
  cases htx : tx with
  | error err => exact .refl _ _ _ _
  | ok db' => exact h db' htx

lemma settling_tryUpdate (system : LdxpSystem) (tx : Except LdxpError LdxpDb) :
    (system.tryUpdate tx).settling = system.settling := by
  cases tx with
  | error | ok => rfl

/-- Every transaction does one of the things that `PlaceStep` lists to every session. -/
lemma placeStep (env : LdxpEnv) (h : system.Inv) (move : LdxpMove) (id : String) :
    PlaceStep system.db move id (system.db.track id) ((system.step env move).db.track id) := by
  cases move with
  | create new =>
    rw [step]
    cases hinsert : insertLdxpTopupSession system.db new with
    | none => exact .refl _ _ _ _
    | some db' => exact insert_placeStep hinsert
  | cancel sessionId userId now =>
    rw [step]
    exact tryUpdate_placeStep fun _ => cancel_placeStep
  | expire now =>
    rw [step]
    exact expire_placeStep system.db _ id now
  | claim candidate workerId now =>
    rw [step]
    exact tryUpdate_placeStep fun _ => claim_placeStep rfl
  | claimPaidWatch candidate workerId now =>
    rw [step]
    exact tryUpdate_placeStep fun _ => claimPaidWatch_placeStep
  | recordQr sessionId payload now =>
    rw [step]
    exact tryUpdate_placeStep fun _ => recordQr_placeStep
  | recordResult sessionId payload now =>
    rw [step]
    exact tryUpdate_placeStep fun _ => recordResult_placeStep rfl
  | recordError sessionId workerId message snapshotPath now =>
    rw [step]
    exact tryUpdate_placeStep fun _ => recordError_placeStep
  | saveMail parsed =>
    rw [step]
    exact .refl _ _ _ _
  | matchMail eventId now =>
    rw [step]
    exact tryUpdate_placeStep fun _ => matchMail_placeStep
  | verify call =>
    rw [step]
    split
    · exact .refl _ _ _ _
    next hverify => exact verify_placeStep (verifyLdxpSessionTx_step hverify)
    next hverify => exact verify_placeStep (verifyLdxpSessionTx_step hverify)
  | settle ref times =>
    rw [step]
    split
    · exact .refl _ _ _ _
    next settlement hget =>
      apply settle_placeStep (settleStep_step env _ times settlement)
      intro track htrack
      obtain ⟨_, htrack', hpaid⟩ := h.settling settlement (List.mem_of_getElem? hget)
      rw [htrack, Option.some.injEq] at htrack'
      exact htrack' ▸ hpaid.text

/-- What every change of a session keeps is kept by every transaction. -/
lemma Has.step (h : system.Has id p) (hinv : system.Inv)
    (hstep : ∀ db move track track', TrackStep db move id track track' → p track → p track')
    (env : LdxpEnv) (move : LdxpMove) : (system.step env move).Has id p := by
  obtain ⟨track, htrack, hp⟩ := h
  have hplace := placeStep env hinv move id
  rw [htrack] at hplace
  unfold Has
  generalize (system.step env move).db.track id = place' at hplace ⊢
  cases hplace with
  | changed hchange => exact ⟨_, rfl, hstep _ _ _ _ hchange hp⟩

lemma paid_step (h : system.Inv) (move : LdxpMove) (hpaid : system.Has id LdxpTrack.Paid) :
    (system.step env move).Has id LdxpTrack.Paid :=
  hpaid.step h (fun _ _ _ _ hchange hpaid => hpaid.step hchange) env move

lemma paid_of_settle {db db' : LdxpDb} {credit : Option LdxpCredit}
    (h : VerifyStep env db call ⟨.settle session, credit⟩ db') (settling : List Settlement) :
    Has ⟨db', settling⟩ session.sessionId LdxpTrack.Paid := by
  cases h with
  | settling hpassed hpurpose =>
    unfold Has
    rw [LdxpDb.track_put (LdxpDb.saveSession_sessions db _), if_pos rfl]
    exact ⟨_, rfl, hpassed.fields.2, rfl⟩

lemma inv_step (h : system.Inv) (move : LdxpMove) : (system.step env move).Inv where
  sound := by
    intro id track' htrack'
    have hplace := placeStep env h move id
    rw [htrack'] at hplace
    generalize hplace' : system.db.track id = place at hplace
    cases hplace with
    | created => exact LdxpTrack.sound_fresh
    | changed hstep => exact (h.sound id _ hplace').step hstep
  settling := by
    intro settlement hmem
    by_cases hold : settlement ∈ system.settling
    · exact paid_step h move (h.settling settlement hold)
    -- Only a verification, and a settlement that goes on, add to the list.
    cases move with
    | verify call =>
      rw [step] at hmem ⊢
      split at hmem
      · exact absurd hmem hold
      · exact absurd hmem hold
      next hverify =>
        rw [List.mem_append, List.mem_singleton] at hmem
        rcases hmem with hmem | rfl
        · exact absurd hmem hold
        · exact paid_of_settle (verifyLdxpSessionTx_step hverify) _
    | settle ref times =>
      have hnext : ∃ old ∈ system.settling, settlement.session = old.session := by
        rw [step] at hmem
        split at hmem
        · exact absurd hmem hold
        next old hget =>
          rw [List.mem_append, Option.mem_toList] at hmem
          rcases hmem with hmem | hnext
          · exact absurd (List.mem_of_mem_eraseIdx hmem) hold
          · exact ⟨old, List.mem_of_getElem? hget,
              (settleStep_step env _ times old).session_next hnext⟩
      obtain ⟨old, hmem, hsession⟩ := hnext
      rw [hsession]
      exact paid_step h _ (h.settling old hmem)
    | create | expire | saveMail =>
      rw [step] at hmem
      exact absurd hmem hold
    | _ =>
      rw [step, settling_tryUpdate] at hmem
      exact absurd hmem hold

end LdxpSystem

/-! ## Runs -/

/-- The system after some transactions. -/
def ldxpRun (env : LdxpEnv) (ledger : LdxpLedger) (orderIdOf : String → Int)
    (moves : List LdxpMove) : LdxpSystem :=
  exec (LdxpSystem.step env) (LdxpSystem.start ledger orderIdOf) moves

section Run

variable {env : LdxpEnv} {ledger : LdxpLedger} {orderIdOf : String → Int}

lemma ldxpRun_inv (env : LdxpEnv) (ledger : LdxpLedger) (orderIdOf : String → Int)
    (moves : List LdxpMove) : (ldxpRun env ledger orderIdOf moves).Inv :=
  exec_invariant LdxpSystem.Inv (fun _ move h => LdxpSystem.inv_step h move)
    (LdxpSystem.inv_start ledger orderIdOf) moves

lemma lost_exec {system : LdxpSystem} (hinv : system.Inv) (moves : List LdxpMove)
    (hlost : system.Has id LdxpTrack.Lost) :
    (exec (LdxpSystem.step env) system moves).Has id LdxpTrack.Lost := by
  refine (exec_invariant (fun system : LdxpSystem => system.Inv ∧
    system.Has id LdxpTrack.Lost) ?_ ⟨hinv, hlost⟩ moves).2
  rintro system move ⟨hinv, hlost⟩
  refine ⟨LdxpSystem.inv_step hinv move, ?_⟩
  exact hlost.step hinv (fun _ _ _ _ hchange hlost => hlost.step hchange) env move

/-- A property that new sessions do not have has come about by a change of the session. -/
lemma exists_trackStep (hfresh : ¬p .fresh) (h : (ldxpRun env ledger orderIdOf moves).Has id p) :
    ∃ before move after track track', moves = before ++ move :: after ∧
      (ldxpRun env ledger orderIdOf before).db.track id = some track ∧ ¬p track ∧ p track' ∧
      TrackStep (ldxpRun env ledger orderIdOf before).db move id track track' := by
  have hstart : ¬(LdxpSystem.start ledger orderIdOf).Has id p := by
    rintro ⟨track, htrack, -⟩
    simp [LdxpSystem.start, LdxpDb.track] at htrack
  obtain ⟨before, move, after, rfl, hnot, track', htrack', hp⟩ :=
    exists_turn (P := fun system : LdxpSystem => system.Has id p) hstart h
  have hplace := LdxpSystem.placeStep env (ldxpRun_inv env ledger orderIdOf before) move id
  change (LdxpSystem.step env (ldxpRun env ledger orderIdOf before) move).db.track id = _ at htrack'
  rw [htrack'] at hplace
  generalize hplace' : (ldxpRun env ledger orderIdOf before).db.track id = place at hplace
  cases hplace with
  | created => exact absurd hp hfresh
  | changed hchange =>
    exact ⟨before, move, after, _, track', rfl, hplace', fun hp' => hnot ⟨_, hplace', hp'⟩, hp,
      hchange⟩

lemma exists_claim {workerId : Trimmed} (hworker : workerId ≠ .blank)
    (h : (ldxpRun env ledger orderIdOf moves).Has id (·.workerId = workerId)) :
    ∃ before claimant now after db', moves = before ++ .claim id claimant now :: after ∧
      claimSelectedLdxpTopupSession (ldxpRun env ledger orderIdOf before).db id claimant now =
        .ok db' ∧ Trimmed.of claimant = workerId := by
  obtain ⟨before, move, after, track, track', hmoves, -, hnot, hp, hchange⟩ :=
    exists_trackStep hworker.symm h
  cases hchange with
  | claim hmove hok hstatus => exact ⟨before, _, _, after, _, hmove ▸ hmoves, hok, hp⟩
  | _ => exact absurd hp hnot

/-- The report by which a session came to its status text. -/
structure Reported (db : LdxpDb) (id : String) (payload : LdxpWorkerResultPayload) (now : Int)
    (workerId workerOrderNo : Trimmed) : Prop where
  ok : ∃ db', recordLdxpWorkerResult db id payload now = .ok db'
  ready : ∃ session, db.sessions.get? id = some session ∧ session.status = .qrReady ∧
    session.workerId = workerId ∧ session.workerOrderNo = workerOrderNo
  worker : Trimmed.of payload.workerId = workerId
  order : Trimmed.of payload.workerOrderNo = workerOrderNo
  named : workerId ≠ .blank

lemma exists_result {track : LdxpTrack}
    (htrack : (ldxpRun env ledger orderIdOf moves).db.track id = some track)
    (htext : track.workerStatusText ≠ .blank) :
    ∃ before payload now after, moves = before ++ .recordResult id payload now :: after ∧
      Reported (ldxpRun env ledger orderIdOf before).db id payload now track.workerId
        track.workerOrderNo := by
  obtain ⟨before, move, after, old, new, hmoves, hold, hnot, ⟨hnew, hworker, horder⟩, hchange⟩ :=
    exists_trackStep (p := fun other => other.workerStatusText ≠ .blank ∧
      other.workerId = track.workerId ∧ other.workerOrderNo = track.workerOrderNo)
      (fun h => h.1 rfl) ⟨track, htrack, htext, rfl, rfl⟩
  have hsound := (ldxpRun_inv env ledger orderIdOf before).sound id old hold
  cases hchange with
  | paid hmove hok hnamed hsame hsameOrder hstatus =>
    refine ⟨before, _, _, after, hmove ▸ hmoves, ⟨_, hok⟩, ?_, hsame.symm.trans hworker,
      hsameOrder.symm.trans horder, ?_⟩
    · obtain ⟨session, hget, rfl⟩ := Option.map_eq_some_iff.mp hold
      exact ⟨session, hget, hstatus, hworker, horder⟩
    · rw [← hworker]
      change old.workerId ≠ .blank
      rw [hsame]
      exact hnamed
  -- Before a report there is no status text.
  | claim hmove hok hstatus =>
    exact absurd (hsound.unpaid (.inl (by simp [hstatus, isLdxpCancelableStatus]))) hnew
  | qr workerOrderNo hstatus => exact absurd (hsound.unpaid (.inl hstatus)) hnew
  | close hdead hstatus => exact absurd (hsound.unpaid (.inl hstatus)) hnew
  -- The other changes leave all three columns alone.
  | _ => exact absurd ⟨hnew, hworker, horder⟩ hnot

/-- A dead session never pays. In every run of transactions, a session that has once been canceled,
expired or given up by its worker is never verified, redeemed or successful later. And a session is
successful only if the worker that has claimed it has reported it, while it was in `qr_ready` with
the order number that it has in the end. -/
theorem dead_session_never_pays (env : LdxpEnv) (ledger : LdxpLedger) (orderIdOf : String → Int)
    (moves later : List LdxpMove) (id : String) :
    (∀ session, (ldxpRun env ledger orderIdOf moves).db.sessions.get? id = some session →
      session.status.isDead = true →
      ∀ session', (ldxpRun env ledger orderIdOf (moves ++ later)).db.sessions.get? id =
          some session' →
        session'.status ≠ .verified ∧ session'.status ≠ .redeemed ∧ session'.status ≠ .success) ∧
    ∀ session, (ldxpRun env ledger orderIdOf moves).db.sessions.get? id = some session →
      session.status = .success →
      ∃ before claimant claimedAt between payload paidAt after,
        moves = before ++ .claim id claimant claimedAt ::
          (between ++ .recordResult id payload paidAt :: after) ∧
        (∃ db', claimSelectedLdxpTopupSession (ldxpRun env ledger orderIdOf before).db id claimant
          claimedAt = .ok db') ∧
        Trimmed.of claimant = session.workerId ∧
        Reported (ldxpRun env ledger orderIdOf
          (before ++ .claim id claimant claimedAt :: between)).db id payload paidAt
          session.workerId session.workerOrderNo := by
  have hinv := ldxpRun_inv env ledger orderIdOf moves
  refine ⟨fun session hget hdead session' hget' => ?_, fun session hget hsuccess => ?_⟩
  · have htrack : (ldxpRun env ledger orderIdOf moves).db.track id = some session.track :=
      congrArg (Option.map LdxpTopupSession.track) hget
    have hlost := (hinv.sound id _ htrack).lost hdead
    obtain ⟨track, htrack', hlost'⟩ := lost_exec hinv later ⟨_, htrack, hlost⟩
    have hsame : track = session'.track := by
      rw [ldxpRun, exec_append] at hget'
      have := congrArg (Option.map LdxpTopupSession.track) hget'
      exact Option.some.inj (htrack'.symm.trans this)
    have hunverified := hlost'.unverified
    rw [hsame] at hunverified
    refine ⟨?_, ?_, ?_⟩ <;>
      · intro hstatus
        simp [LdxpTopupSession.track, hstatus, LdxpStatus.isVerified] at hunverified
  · have htrack : (ldxpRun env ledger orderIdOf moves).db.track id = some session.track :=
      congrArg (Option.map LdxpTopupSession.track) hget
    have hpaid : isPaidText session.workerStatusText = true := by
      apply (hinv.sound id _ htrack).verified
      simp [LdxpTopupSession.track, hsuccess, LdxpStatus.isVerified]
    have htext : session.workerStatusText ≠ .blank := by
      intro hblank
      rw [hblank, isPaidText_blank] at hpaid
      cases hpaid
    obtain ⟨front, payload, paidAt, after, hmoves, hreported⟩ := exists_result htrack htext
    obtain ⟨ready, hready, -, hworker, -⟩ := hreported.ready
    obtain ⟨before, claimant, claimedAt, between, db', hfront, hclaim, hsame⟩ :=
      exists_claim hreported.named ⟨ready.track,
        congrArg (Option.map LdxpTopupSession.track) hready, hworker⟩
    subst hfront
    refine ⟨before, claimant, claimedAt, between, payload, paidAt, after, ?_, ⟨db', hclaim⟩, hsame,
      hreported⟩
    rw [hmoves, List.append_assoc, List.cons_append]

/-- A reported payment is kept. A session whose order has been reported as paid is never open,
canceled, expired or given up later, and its worker, order number and report stay. Every session
that is verified or beyond has been reported. -/
theorem reported_payment_kept (later : List LdxpMove) :
    (∀ track, (ldxpRun env ledger orderIdOf moves).db.track id = some track →
      isPaidText track.workerStatusText = true →
      ∃ status, isLdxpCancelableStatus status = false ∧ status.isDead = false ∧
        (ldxpRun env ledger orderIdOf (moves ++ later)).db.track id = some { track with status }) ∧
    ∀ track, (ldxpRun env ledger orderIdOf moves).db.track id = some track →
      track.status.isVerified = true → isPaidText track.workerStatusText = true := by
  have hinv := ldxpRun_inv env ledger orderIdOf moves
  refine ⟨fun track htrack htext => ?_, fun track htrack => (hinv.sound id _ htrack).verified⟩
  have hpaid : track.Paid := ⟨htext, ((hinv.sound id _ htrack).reported htext).1⟩
  have hlater : (ldxpRun env ledger orderIdOf (moves ++ later)).Inv ∧
      (ldxpRun env ledger orderIdOf (moves ++ later)).Has id fun track' =>
        track'.Paid ∧ ∃ status, track' = { track with status } := by
    rw [ldxpRun, exec_append]
    refine exec_invariant (fun system : LdxpSystem => system.Inv ∧ system.Has id _) ?_
      ⟨hinv, _, htrack, hpaid, _, rfl⟩ later
    rintro system move ⟨hinv, hhas⟩
    refine ⟨LdxpSystem.inv_step hinv move, hhas.step hinv ?_ env move⟩
    rintro _ _ _ track' hchange ⟨hpaid, status, rfl⟩
    obtain ⟨status', rfl⟩ := hpaid.exists_status hchange
    exact ⟨hpaid.step hchange, status', rfl⟩
  obtain ⟨hinv', _, htrack', hpaid', status, rfl⟩ := hlater
  obtain ⟨hclosed, halive⟩ := (hinv'.sound id _ htrack').reported hpaid'.text
  exact ⟨status, hclosed, halive, htrack'⟩

end Run

end Yunbay
