import Yunbay.Task.BilledOnce

/-!
# Failed tasks are refunded

One round of `TaskPollingLoop`: the sweep of the tasks that have timed out, then the update of the
unfinished ones, platform by platform. The rounds here are any steps after one sweep, so that the
order in which the round comes to platforms, channels and tasks is left open.

* `Round.Inv` says that a row of status `FAILURE` has been refunded in the round, or is about to be.
-/

namespace Yunbay

open Run Table

/-! ## Rounds -/

/-- The tasks of a platform that the loop puts into `nullTaskIds`. -/
def nullTaskIds (tasks : List Task) : List Int :=
  (tasks.filter fun task => task.getUpstreamTaskID = "").map Task.id

/-- The `failedIDs` of a channel that can not be found: the tasks that `taskM` has for the upstream
ids of the channel. -/
def failedIDs (tasks : List Task) (channelId : Int) : List Int :=
  let known := tasks.filter fun task => task.getUpstreamTaskID ≠ ""
  (known.filter fun task => task.channelId = channelId).filterMap fun task =>
    ((Polling.taskM known).get? task.getUpstreamTaskID).map Task.id

/-- The condition on which the sweep of `sweepTimedOutTasks` leaves a task without a refund. -/
def Task.isLegacy (task : Task) : Bool := 0 < task.submitTime ∧ task.submitTime < legacyTaskCutoff

/-- A round in progress, with the row and the quota of every call of `RefundTaskQuota`. -/
structure Round where
  polling : Polling
  refunds : List (Int × Int)

namespace Round

/-- The call of `RefundTaskQuota` that a step makes, whether or not the call succeeds. -/
def refundCall (state : Polling) : PollingStep → List (Int × Int)
  | .perform ref _ =>
    match state.copies[ref]? with
    | some copy =>
      if copy.todo.head? = some (.bill .refund) then [(copy.task.id, copy.task.quota)] else []
    | none => []
  | _ => []

def step (config : PollingConfig) (round : Round) (move : PollingStep) : Round :=
  ⟨round.polling.step config move, refundCall round.polling move ++ round.refunds⟩

def afterSweep : PollingStep → Bool
  | .sweep _ _ => false
  | _ => true

/-- A bulk update meets only rows that have failed already. Every other step is free. -/
def bulkMeetsFailed (round : Round) : PollingStep → Bool
  | .bulkFail ids _ => ids.all fun id =>
    (round.polling.rows.get? id).all fun row => row.status = .failure
  | _ => true

end Round

/-! ## The invariant -/

/-- What is still to be done for a task in memory. Whoever writes that the task has failed refunds
it, and the poller of Suno tasks has done so before. -/
inductive Backed (refunds : List (Int × Int)) (task : Task) : List Action → Prop
  | idle : Backed refunds task []
  | claiming {fromStatus : TaskStatus} {bills : List TaskAdjustment}
      (hfailed : task.status = .failure → bills = [.refund]) (hbills : bills.length ≤ 1) :
      Backed refunds task [.saveIf fromStatus bills]
  | writing {fromStatus : TaskStatus} {bills : List TaskAdjustment}
      (hfailed : task.status = .failure → bills = [.refund]) (hbills : bills.length ≤ 1) :
      Backed refunds task (.writeIf fromStatus :: bills.map .bill)
  | billing {adjustment : TaskAdjustment} : Backed refunds task [.bill adjustment]
  | refunding : Backed refunds task [.bill .refund, .save]
  | saving (hfailed : task.status = .failure → (task.id, task.quota) ∈ refunds) :
      Backed refunds task [.save]

lemma Backed.bills (refunds : List (Int × Int)) (task : Task) {bills : List TaskAdjustment}
    (h : bills.length ≤ 1) : Backed refunds task (bills.map .bill) := by
  match bills, h with
  | [], _ => exact .idle
  | [adjustment], _ => exact .billing

variable {task : Task} {todo : List Action}

lemma Backed.mono {refunds refunds' : List (Int × Int)} (h : Backed refunds task todo)
    (hsub : refunds ⊆ refunds') : Backed refunds' task todo := by
  cases h with
  | idle => exact .idle
  | claiming hfailed hbills => exact .claiming hfailed hbills
  | writing hfailed hbills => exact .writing hfailed hbills
  | billing => exact .billing
  | refunding => exact .refunding
  | saving hfailed => exact .saving fun hstatus => hsub (hfailed hstatus)

/-- A worker is about to call `RefundTaskQuota` for the row. -/
def Copy.Refunding (copy : Copy) (id quota : Int) : Prop :=
  copy.todo.head? = some (.bill .refund) ∧ copy.task.id = id ∧ copy.task.quota = quota

namespace Round

/-- The row had failed before the round, has been refunded in it, or is about to be. -/
def Paid (rows₀ : Table Int Task Task.id) (round : Round) (id quota : Int) : Prop :=
  (∃ row₀, rows₀.get? id = some row₀ ∧ row₀.status = .failure) ∨ (id, quota) ∈ round.refunds ∨
    ∃ copy ∈ round.polling.copies, copy.Refunding id quota

structure Inv (rows₀ : Table Int Task Task.id) (round : Round) : Prop where
  quota_pos : ∀ copy ∈ round.polling.copies, 0 < copy.task.quota
  rowQuota_pos : ∀ id row, round.polling.rows.get? id = some row → row.ended = false →
    0 < row.quota
  /-- A sweeper has no legacy task before it. -/
  notLegacy : ∀ copy ∈ round.polling.copies, copy.holder = .sweeper → copy.task.isLegacy = false
  backed : ∀ copy ∈ round.polling.copies, Backed round.refunds copy.task copy.todo
  paid : ∀ id row, round.polling.rows.get? id = some row → row.status = .failure →
    Paid rows₀ round id row.quota

variable {rows₀ : Table Int Task Task.id} {state : Polling} {refunds refunds' : List (Int × Int)}
  {ref : Nat} {copy copy' : Copy}

/-- What has been paid stays paid when a copy is set, if the copy that is replaced was not about to
make a refund, or has just made it. -/
lemma Paid.setCopy {id quota : Int} (h : Paid rows₀ ⟨state, refunds⟩ id quota)
    (hget : state.copies[ref]? = some copy) (hsub : refunds ⊆ refunds')
    (hcalled : ∀ id quota, copy.Refunding id quota → (id, quota) ∈ refunds') :
    Paid rows₀ ⟨state.setCopy ref copy', refunds'⟩ id quota := by
  rcases h with hbefore | hrefunded | ⟨other, hmem, hother⟩
  · exact .inl hbefore
  · exact .inr (.inl (hsub hrefunded))
  · by_cases hsame : other = copy
    · exact .inr (.inl (hcalled id quota (hsame ▸ hother)))
    · exact .inr (.inr ⟨other, Polling.mem_setCopy_of_ne hget hmem hsame, hother⟩)

namespace Inv

section

variable (h : Inv rows₀ ⟨state, refunds⟩)

include h

lemma setCopy (hget : state.copies[ref]? = some copy) (hsub : refunds ⊆ refunds')
    (hquota : 0 < copy'.task.quota)
    (hlegacy : copy'.holder = .sweeper → copy'.task.isLegacy = false)
    (hbacked : Backed refunds' copy'.task copy'.todo)
    (hcalled : ∀ id quota, copy.Refunding id quota → (id, quota) ∈ refunds') :
    Inv rows₀ ⟨state.setCopy ref copy', refunds'⟩ where
  quota_pos := by
    intro other hmem
    obtain rfl | hmem := Polling.mem_setCopy hmem
    · exact hquota
    · exact h.quota_pos other hmem
  rowQuota_pos := h.rowQuota_pos
  notLegacy := by
    intro other hmem
    obtain rfl | hmem := Polling.mem_setCopy hmem
    · exact hlegacy
    · exact h.notLegacy other hmem
  backed := by
    intro other hmem
    obtain rfl | hmem := Polling.mem_setCopy hmem
    · exact hbacked
    · exact (h.backed other hmem).mono hsub
  paid := by
    intro id row hrow hfailed
    exact (h.paid id row hrow hfailed).setCopy hget hsub hcalled

lemma writeRow (hquota : task.ended = false → 0 < task.quota)
    (hpaid : task.status = .failure → Paid rows₀ ⟨state, refunds⟩ task.id task.quota) :
    Inv rows₀ ⟨state.writeRow task, refunds⟩ where
  quota_pos := h.quota_pos
  rowQuota_pos := by
    intro id row hrow hended
    rw [Polling.writeRow, get?_put] at hrow
    split_ifs at hrow with hid
    · cases hrow
      exact hquota hended
    · exact h.rowQuota_pos id row hrow hended
  notLegacy := h.notLegacy
  backed := h.backed
  paid := by
    intro id row hrow hfailed
    rw [Polling.writeRow, get?_put] at hrow
    split_ifs at hrow with hid
    · cases hrow
      exact hid ▸ hpaid hfailed
    · exact h.paid id row hrow hfailed

/-- Copies that have just been read have nothing to do. -/
lemma append {copies : List Copy}
    (hnew : ∀ copy ∈ copies, copy.todo = [] ∧ 0 < copy.task.quota ∧
      (copy.holder = .sweeper → copy.task.isLegacy = false)) :
    Inv rows₀ ⟨{ state with copies := state.copies ++ copies }, refunds⟩ where
  quota_pos := List.forall_mem_append.mpr
    ⟨h.quota_pos, fun copy hmem => (hnew copy hmem).2.1⟩
  rowQuota_pos := h.rowQuota_pos
  notLegacy := List.forall_mem_append.mpr
    ⟨h.notLegacy, fun copy hmem => (hnew copy hmem).2.2⟩
  backed := by
    refine List.forall_mem_append.mpr ⟨h.backed, fun copy hmem => ?_⟩
    rw [(hnew copy hmem).1]
    exact .idle
  paid := by
    intro id row hrow hfailed
    refine (h.paid id row hrow hfailed).imp_right (Or.imp_right ?_)
    rintro ⟨copy, hmem, hcopy⟩
    exact ⟨copy, List.mem_append_left _ hmem, hcopy⟩

lemma done (hget : state.copies[ref]? = some copy) (hbacked : Backed refunds copy.task todo)
    (hhead : copy.todo.head? ≠ some (.bill .refund)) :
    Inv rows₀ ⟨state.setCopy ref { copy with todo }, refunds⟩ := by
  have hmem := List.mem_of_getElem? hget
  refine h.setCopy hget (List.Subset.refl _) (h.quota_pos copy hmem) (h.notLegacy copy hmem)
    hbacked ?_
  rintro id quota ⟨hrefund, -⟩
  exact absurd hrefund hhead

lemma written {bills : List TaskAdjustment} (hget : state.copies[ref]? = some copy)
    (hhead : copy.todo.head? ≠ some (.bill .refund))
    (hfailed : copy.task.status = .failure → bills = [.refund]) (hbills : bills.length ≤ 1) :
    Inv rows₀ ⟨(state.writeRow copy.task).setCopy ref { copy with todo := bills.map .bill },
      refunds⟩ := by
  have hset := h.done hget (.bills refunds copy.task hbills) hhead
  refine hset.writeRow (fun _ => h.quota_pos copy (List.mem_of_getElem? hget)) fun hstatus => ?_
  refine .inr (.inr ⟨_, Polling.mem_setCopy_self hget, ?_, rfl, rfl⟩)
  rw [hfailed hstatus]
  rfl

end

end Inv

/-! ## Steps of a worker -/

/-- An adjustment leaves a quota that is positive, and the row it belongs to. -/
lemma adjusted_quota_pos {adjustment : TaskAdjustment} (hdelta : adjustment.delta task ≠ 0)
    (hquota : 0 < task.quota) : 0 < (adjustment.adjusted task).quota := by
  cases adjustment with
  | refund => exact hquota
  | recalculate actualQuota =>
    simp only [TaskAdjustment.delta] at hdelta
    split_ifs at hdelta with hidle
    · exact absurd rfl hdelta
    · exact not_le.mp hidle

namespace Inv

variable {fails : Bool}

section

variable (h : Inv rows₀ ⟨state, refunds⟩) (hget : state.copies[ref]? = some copy)

include h hget

/-- The worker calls `RefundTaskQuota`. The call does not change the task, whether it succeeds or
not. -/
lemma perform_refund {rest : List Action} (htodo : copy.todo = .bill .refund :: rest)
    (hrest : rest = [] ∨ rest = [.save]) :
    Inv rows₀ ⟨state.perform ref fails copy, (copy.task.id, copy.task.quota) :: refunds⟩ := by
  have hmem := List.mem_of_getElem? hget
  have hbacked :
      Backed ((copy.task.id, copy.task.quota) :: refunds) copy.task rest := by
    obtain rfl | rfl := hrest
    · exact .idle
    · exact .saving fun _ => List.mem_cons_self
  have hset : Inv rows₀ ⟨state.setCopy ref { copy with todo := rest },
      (copy.task.id, copy.task.quota) :: refunds⟩ := by
    refine h.setCopy hget (List.subset_cons_self _ _) (h.quota_pos copy hmem)
      (h.notLegacy copy hmem) hbacked ?_
    rintro id quota ⟨-, rfl, rfl⟩
    exact List.mem_cons_self
  unfold Polling.perform
  rw [htodo]
  dsimp only
  split_ifs
  · exact ⟨hset.quota_pos, hset.rowQuota_pos, hset.notLegacy, hset.backed, hset.paid⟩
  · exact hset

lemma perform_recalculate {actualQuota : Int}
    (htodo : copy.todo = [.bill (.recalculate actualQuota)]) :
    Inv rows₀ ⟨state.perform ref fails copy, refunds⟩ := by
  have hmem := List.mem_of_getElem? hget
  have hhead : copy.todo.head? ≠ some (.bill .refund) := by simp [htodo]
  unfold Polling.perform
  rw [htodo]
  dsimp only
  split_ifs with heffect
  · have hdelta : (TaskAdjustment.recalculate actualQuota).delta copy.task ≠ 0 := by
      simpa using (Bool.and_eq_true_iff.mp heffect).2
    have hset : Inv rows₀ ⟨state.setCopy ref { copy with
        todo := [], task := (TaskAdjustment.recalculate actualQuota).adjusted copy.task },
        refunds⟩ :=
      h.setCopy hget (List.Subset.refl _) (adjusted_quota_pos hdelta (h.quota_pos copy hmem))
        (h.notLegacy copy hmem) .idle fun _ _ hrefund => absurd hrefund.1 hhead
    exact ⟨hset.quota_pos, hset.rowQuota_pos, hset.notLegacy, hset.backed, hset.paid⟩
  · exact h.done hget .idle hhead

/-- The next thing a worker does, if it is not a refund. -/
lemma perform_other (hhead : copy.todo.head? ≠ some (.bill .refund)) :
    Inv rows₀ ⟨state.perform ref fails copy, refunds⟩ := by
  have hmem := List.mem_of_getElem? hget
  have hbacked := h.backed copy hmem
  generalize htodo : copy.todo = todo at hbacked
  cases hbacked with
  | idle =>
    unfold Polling.perform
    rw [htodo]
    exact h
  | claiming hfailed hbills =>
    unfold Polling.perform
    rw [htodo]
    dsimp only
    split_ifs
    · rw [List.append_nil]
      exact h.written hget hhead hfailed hbills
    · exact h.done hget .idle hhead
  | writing hfailed hbills =>
    unfold Polling.perform
    rw [htodo]
    dsimp only
    split_ifs
    · exact h.written hget hhead hfailed hbills
    · exact h.done hget (.bills _ _ hbills) hhead
  | @billing adjustment =>
    cases adjustment with
    | refund =>
      rw [htodo] at hhead
      exact absurd rfl hhead
    | recalculate actualQuota => exact h.perform_recalculate hget htodo
  | refunding =>
    rw [htodo] at hhead
    exact absurd rfl hhead
  | saving hfailed =>
    unfold Polling.perform
    rw [htodo]
    dsimp only
    split_ifs
    · exact h.done hget .idle hhead
    · have hwritten := h.writeRow (fun _ => h.quota_pos copy hmem)
        fun hstatus => .inr (.inl (hfailed hstatus))
      exact hwritten.done hget .idle hhead

lemma perform {config : PollingConfig} :
    Inv rows₀ (step config ⟨state, refunds⟩ (.perform ref fails)) := by
  simp only [step, Polling.step, refundCall, hget]
  by_cases hhead : copy.todo.head? = some (.bill .refund)
  · rw [if_pos hhead]
    obtain ⟨rest, htodo⟩ : ∃ rest, copy.todo = .bill .refund :: rest := by
      simpa [List.head?_eq_some_iff] using hhead
    refine h.perform_refund hget htodo ?_
    have hbacked := h.backed copy (List.mem_of_getElem? hget)
    rw [htodo] at hbacked
    cases hbacked with
    | billing => exact .inl rfl
    | refunding => exact .inr rfl
  · rw [if_neg hhead]
    exact h.perform_other hget hhead

end

end Inv

/-! ## The loop bodies -/

lemma timeOut_backed (config : PollingConfig) (now : Int) (hquota : 0 < task.quota)
    (hlegacy : task.isLegacy = false) (refunds : List (Int × Int)) :
    Backed refunds (timeOut config now task).1 (timeOut config now task).2 := by
  have hbills : (if !task.isLegacy && decide (task.quota ≠ 0) then [TaskAdjustment.refund]
      else []) = [.refund] := by
    rw [hlegacy, decide_eq_true hquota.ne']
    rfl
  exact .claiming (fun _ => hbills) (congrArg List.length hbills).le

lemma updateSuno_backed (item : SunoItem) (task : Task) (refunds : List (Int × Int)) :
    Backed refunds (updateSuno item task).1 (updateSuno item task).2 := by
  unfold updateSuno
  split_ifs with hneeds
  · dsimp only
    split_ifs with hfailed
    · exact .refunding
    · exact .saving fun hstatus => absurd (.inr hstatus) hfailed
  · exact .idle

lemma videoBills_of_failure (answer : VideoAnswer) {info : TaskInfo}
    (hstatus : info.status = .failure) (hquota : 0 < task.quota) :
    videoBills answer info task = [.refund] := by
  rw [videoBills, hstatus]
  exact if_pos hquota.ne'

lemma updateVideo_backed (config : PollingConfig) (now : Int) (answer : VideoAnswer)
    (hquota : 0 < task.quota) (refunds : List (Int × Int)) :
    (updateVideo config now answer task).1.quota = task.quota ∧
      Backed refunds (updateVideo config now answer task).1
        (updateVideo config now answer task).2 := by
  unfold updateVideo
  cases hresult : answer.taskResult with
  | none => exact ⟨rfl, .idle⟩
  | some info =>
    dsimp only
    cases hvideo : videoTask config now info { task with data := answer.data } with
    | none => exact ⟨rfl, .idle⟩
    | some updated =>
      obtain ⟨-, -, hstatus, hupdated⟩ := Polling.videoTask_eq_some hvideo
      have hfailed : updated.status = .failure → videoBills answer info task = [.refund] :=
        fun hfailure => videoBills_of_failure answer (hstatus.symm.trans hfailure) hquota
      have hbills := Polling.videoBills_length_le answer info task
      dsimp only
      split_ifs
      · exact ⟨hupdated, .claiming hfailed hbills⟩
      · exact ⟨hupdated, .writing hfailed hbills⟩
      · exact ⟨hupdated, .bills _ _ hbills⟩

/-! ## Runs -/

/-- The worker comes to an idle copy, which says what to do. -/
lemma Inv.visit {visits : Nat} (h : Inv rows₀ ⟨state, refunds⟩)
    (hget : state.copies[ref]? = some copy) (hidle : copy.todo = []) (hquota : 0 < task.quota)
    (hlegacy : copy.holder = .sweeper → task.isLegacy = false)
    (hbacked : Backed refunds task todo) :
    Inv rows₀ ⟨state.setCopy ref ⟨copy.holder, task, visits, todo⟩, refunds⟩ := by
  refine h.setCopy hget (List.Subset.refl _) hquota hlegacy hbacked ?_
  rintro id quota ⟨hhead, -⟩
  rw [hidle] at hhead
  cases hhead

namespace Inv

variable {config : PollingConfig} {now : Int} {ids : List Int}

section

variable (h : Inv rows₀ ⟨state, refunds⟩)

include h

/-- The sweep at the start of the round reads tasks that are not legacy ones. -/
lemma sweep
    (hrows : ∀ id row, state.rows.get? id = some row → row.ended = false → row.isLegacy = false) :
    Inv rows₀ (step config ⟨state, refunds⟩ (.sweep now ids)) := by
  simp only [step, Polling.step, refundCall, List.nil_append]
  split_ifs
  · exact h
  · refine h.append fun copy hmem => ?_
    obtain ⟨task, htask, rfl⟩ := List.mem_map.mp hmem
    obtain ⟨hrow, hended⟩ := Polling.mem_unfinished (List.mem_filter.mp htask).1
    exact ⟨rfl, h.rowQuota_pos _ task hrow hended, fun _ => hrows _ task hrow hended⟩

lemma poll {platform : TaskPlatform} :
    Inv rows₀ (step config ⟨state, refunds⟩ (.poll platform ids)) := by
  refine h.append fun copy hmem => ?_
  obtain ⟨task, htask, rfl⟩ := List.mem_map.mp hmem
  have hfound := (List.mem_filter.mp (Polling.mem_taskM htask)).1
  obtain ⟨hrow, hended⟩ := Polling.mem_unfinished (List.mem_filter.mp hfound).1
  exact ⟨rfl, h.rowQuota_pos _ task hrow hended, nofun⟩

lemma timeOut : Inv rows₀ (step config ⟨state, refunds⟩ (.timeOut ref now)) := by
  simp only [step, Polling.step, refundCall, List.nil_append]
  split
  · next task visits todo hidle =>
      obtain ⟨hget, htodo⟩ := Polling.idleCopy_eq_some hidle
      have hmem := List.mem_of_getElem? hget
      have hquota := h.quota_pos _ hmem
      have hlegacy := h.notLegacy _ hmem rfl
      exact h.visit hget htodo hquota (fun _ => hlegacy)
        (timeOut_backed config now hquota hlegacy refunds)
  · exact h

lemma sunoItem {item : SunoItem} :
    Inv rows₀ (step config ⟨state, refunds⟩ (.sunoItem ref item)) := by
  simp only [step, Polling.step, refundCall, List.nil_append]
  split
  · next task visits todo hidle =>
      obtain ⟨hget, htodo⟩ := Polling.idleCopy_eq_some hidle
      have hquota := h.quota_pos _ (List.mem_of_getElem? hget)
      split_ifs
      · refine h.visit hget htodo ?_ nofun (updateSuno_backed item task refunds)
        unfold updateSuno
        split_ifs <;> exact hquota
      · exact h
  · exact h

lemma videoAnswer {answer : VideoAnswer} :
    Inv rows₀ (step config ⟨state, refunds⟩ (.videoAnswer ref answer now)) := by
  simp only [step, Polling.step, refundCall, List.nil_append]
  split
  · next task visits todo hidle =>
      obtain ⟨hget, htodo⟩ := Polling.idleCopy_eq_some hidle
      have hquota := h.quota_pos _ (List.mem_of_getElem? hget)
      split
      · obtain ⟨hsame, hbacked⟩ := updateVideo_backed config now answer hquota refunds
        exact h.visit hget htodo (hsame.symm ▸ hquota) nofun hbacked
      · exact h
  · exact h

lemma bulkFail {failReason : Option String}
    (hmeets : bulkMeetsFailed ⟨state, refunds⟩ (.bulkFail ids failReason) = true) :
    Inv rows₀ (step config ⟨state, refunds⟩ (.bulkFail ids failReason)) := by
  have hfold : ∀ (rows : List Task) (state : Polling), Inv rows₀ ⟨state, refunds⟩ →
      (∀ row ∈ rows, Paid rows₀ ⟨state, refunds⟩ row.id row.quota) →
      Inv rows₀ ⟨rows.foldl (fun state row =>
        state.writeRow (Polling.bulkFailed failReason row)) state, refunds⟩ := by
    intro rows
    induction rows with
    | nil => exact fun state h _ => h
    | cons row rest ih =>
      intro state h hpaid
      have hended : (Polling.bulkFailed failReason row).ended = true := rfl
      refine ih _ (h.writeRow ?_ fun _ => hpaid row List.mem_cons_self) ?_
      · intro hopen
        exact absurd (hended.symm.trans hopen) (by decide)
      · exact fun other hmem => hpaid other (List.mem_cons_of_mem _ hmem)
  refine hfold _ state h fun row hmem => ?_
  obtain ⟨id, hid, hget⟩ := List.mem_filterMap.mp hmem
  have hfailed := List.all_eq_true.mp hmeets id hid
  rw [hget, Option.all_some, decide_eq_true_eq] at hfailed
  obtain rfl : row.id = id := key_of_get? hget
  exact h.paid row.id row hget hfailed

end

lemma step {round : Round} {move : PollingStep} (h : Inv rows₀ round)
    (hmeets : round.bulkMeetsFailed move = true) (hafter : afterSweep move = true) :
    Inv rows₀ (round.step config move) := by
  cases move with
  | sweep now ids => cases hafter
  | poll platform ids => exact h.poll
  | timeOut ref now => exact h.timeOut
  | sunoItem ref item => exact h.sunoItem
  | videoAnswer ref answer now => exact h.videoAnswer
  | perform ref fails =>
    cases hget : round.polling.copies[ref]? with
    | none =>
      simp only [Round.step, Polling.step, refundCall, hget]
      exact h
    | some copy => exact h.perform hget
  | bulkFail ids failReason => exact h.bulkFail hmeets

end Inv

end Round

open Round in
/-- Each row that a round of the polling loop moves into `FAILURE` has had `RefundTaskQuota` called
for its quota when the round is over, for any unfinished tasks that are charged and not legacy ones,
any answers and any failing writes, if bulk updates meet failed rows only. -/
theorem failed_task_refunded (config : PollingConfig) (rows : Table Int Task Task.id)
    (hcharged : ∀ id row, rows.get? id = some row → row.ended = false →
      0 < row.quota ∧ row.isLegacy = false)
    (now : Int) (ids : List Int) (moves : List PollingStep)
    (hround : ∀ move ∈ moves, afterSweep move = true)
    (hbulk : Along (step config) (fun round move => round.bulkMeetsFailed move = true)
      ⟨⟨rows, [], []⟩, []⟩ (.sweep now ids :: moves)) :
    let final := exec (step config) ⟨⟨rows, [], []⟩, []⟩ (.sweep now ids :: moves)
    (∀ copy ∈ final.polling.copies, copy.todo = []) →
      ∀ id row, final.polling.rows.get? id = some row → row.status = .failure →
        (∀ row₀, rows.get? id = some row₀ → row₀.status ≠ .failure) →
        (id, row.quota) ∈ final.refunds := by
  intro final hdone id row hrow hfailed hmoved
  have hstart : Inv rows ⟨⟨rows, [], []⟩, []⟩ := by
    constructor
    case quota_pos => exact List.forall_mem_nil _
    case rowQuota_pos => exact fun id row hrow hopen => (hcharged id row hrow hopen).1
    case notLegacy => exact List.forall_mem_nil _
    case backed => exact List.forall_mem_nil _
    case paid => exact fun id row hrow hfailed => .inl ⟨row, hrow, hfailed⟩
  have hswept : Inv rows (step config ⟨⟨rows, [], []⟩, []⟩ (.sweep now ids)) :=
    hstart.sweep fun id row hrow hopen => (hcharged id row hrow hopen).2
  have hmoves := hbulk.2.and_of_forall_mem hround
  have hfinal : Inv rows final := by
    show Inv rows (exec (step config) (step config _ (.sweep now ids)) moves)
    exact exec_induction (Inv rows) (fun _ _ h hmove => h.step hmove.1 hmove.2) hswept hmoves
  -- nobody has anything left to do, so the refund that is owed has been made
  rcases hfinal.paid id row hrow hfailed with ⟨row₀, hrow₀, hbefore⟩ | hrefunded |
    ⟨copy, hmem, hhead, -⟩
  · exact absurd hbefore (hmoved row₀ hrow₀)
  · exact hrefunded
  · rw [hdone copy hmem] at hhead
    cases hhead

/-- The sample Suno task, and a video task. -/
def roundRows : Table Int Task Task.id :=
  (Table.empty.put sunoSampleTask).put { packageTask with id := 2, submitTime := 1750010000 }

/-- The Suno task times out, and the video task fails upstream. -/
def failedRound : List PollingStep :=
  [.timeOut 0 1750010000, .perform 0 false, .perform 0 false, .poll (.video "kling") [2],
    .videoAnswer 1 failedAnswer 1750010002, .perform 1 false, .perform 1 false]

/-- The row of the video task after the round. -/
def failedRow : Task :=
  { packageTask with
    id := 2, submitTime := 1750010000, status := .failure, progress := "100%"
    finishTime := 1750010002, failReason := "failed" }

theorem failedRound_refunded :
    (2, 12) ∈ (exec (Round.step samplePolling) ⟨⟨roundRows, [], []⟩, []⟩
      (.sweep 1750010000 [1, 2] :: failedRound)).refunds := by
  have hcharged : ∀ row ∈ roundRows.rows, 0 < row.quota ∧ row.isLegacy = false := by decide
  refine failed_task_refunded samplePolling roundRows
    (fun id row hrow _ => hcharged row (mem_of_get? hrow)) 1750010000 [1, 2] failedRound
    (by decide) (by decide) (by decide) 2 failedRow (by decide) rfl ?_
  intro row₀ hrow₀
  have hopen : ∀ row ∈ roundRows.rows, row.status ≠ .failure := by decide
  exact hopen row₀ (mem_of_get? hrow₀)

/-- A video task that has no upstream id. -/
def namelessTask : Task :=
  { packageTask with taskId := "", upstreamTaskId := "", submitTime := 1750010000 }

/-- A video task of a channel that is gone. -/
def orphanTask : Task := { packageTask with channelId := 7, submitTime := 1750010000 }

/-- Two tasks that keep their charge. One has no upstream id, and the channel of the other can not
be found. Both rows fail, and there is no call of `RefundTaskQuota`. -/
theorem bulk_failed_task_not_refunded :
    let nameless := exec (Round.step samplePolling)
      ⟨⟨Table.empty.put namelessTask, [], []⟩, []⟩
      [.sweep 1750010000 [1], .poll (.video "kling") [1],
        .bulkFail (nullTaskIds [namelessTask]) none]
    let orphan := exec (Round.step samplePolling)
      ⟨⟨Table.empty.put orphanTask, [], []⟩, []⟩
      [.sweep 1750010000 [1], .poll (.video "kling") [1],
        .bulkFail (failedIDs [orphanTask] 7) (some "Failed to get channel info, channel ID: 7")]
    ∀ round ∈ [nameless, orphan],
      (round.polling.rows.get? 1).map (fun row => (row.status, row.quota)) = some (.failure, 12) ∧
        (∀ copy ∈ round.polling.copies, copy.todo = []) ∧ round.refunds = [] := by
  decide

end Yunbay
