import Yunbay.Task.Billing

/-!
# Polling of asynchronous tasks

`service/task_polling.go`, with the reads and writes of `model/task.go`. Any number of pollers and
timeout sweepers work on copies of the task rows, and each of their reads, writes and adjustments is
a step of its own.

* `Polling.step` is one step of one worker.
-/

namespace Yunbay

/-! ## Rows and answers -/

/-- The two statuses at which a task has come to an end. -/
def TaskStatus.terminal (status : TaskStatus) : Bool :=
  status = .failure ∨ status = .success

namespace Task

/-- A row that the queries for unfinished tasks leave out. -/
def ended (task : Task) : Bool := task.status.terminal || decide (task.progress = "100%")

def getUpstreamTaskID (task : Task) : String :=
  if task.upstreamTaskId ≠ "" then task.upstreamTaskId else task.taskId

end Task

/-- The fields that a poll compares. -/
structure TaskSnapshot where
  status : TaskStatus
  progress : String
  startTime : Int
  finishTime : Int
  failReason : String
  resultURL : String
  data : List Nat
  deriving DecidableEq

def Task.snapshot (task : Task) : TaskSnapshot :=
  ⟨task.status, task.progress, task.startTime, task.finishTime, task.failReason, task.resultURL,
    task.data⟩

/-- Settings that the workers read. -/
structure PollingConfig where
  /-- `constant.TaskTimeoutMinutes`. -/
  timeoutMinutes : Int
  /-- `system_setting.ServerAddress`. -/
  serverAddress : String

/-- An item of Suno's answer. -/
structure SunoItem where
  status : TaskStatus
  failReason : String
  submitTime : Int
  startTime : Int
  finishTime : Int
  data : List Nat

/-- `TaskInfo`, as far as it is read. -/
structure TaskInfo where
  status : TaskStatus
  reason : String
  url : String
  progress : String
  totalTokens : Int

def failTaskInfo (reason : String) : TaskInfo := ⟨.failure, reason, "", "", 0⟩

/-- What the body of an answer without a status turns out to be. -/
inductive ErrorBody where
  /-- An error of code 429. -/
  | rateLimited
  | openAIError
  | unrecognized
  | unparsable

/-- A video platform's answer that could be fetched and parsed. -/
structure VideoAnswer where
  info : TaskInfo
  errorBody : ErrorBody
  /-- The body after `redactVideoResponseBody`. -/
  data : List Nat
  /-- What `AdjustBillingOnComplete` of the adaptor returns. -/
  adjustedQuota : Int
  /-- The quota that `RecalculateTaskQuotaByTokens` comes to, or zero if it gives up. -/
  tokenQuota : Int

/-- The result of the answer; none if the platform asks to come back later. -/
def VideoAnswer.taskResult (answer : VideoAnswer) : Option TaskInfo :=
  if answer.info.status ≠ .empty then some answer.info
  else
    match answer.errorBody with
    | .rateLimited => none
    | .openAIError => some (failTaskInfo "upstream returned error")
    | .unrecognized => some (failTaskInfo "upstream returned unrecognized message")
    | .unparsable => some answer.info

/-! ## Copies -/

/-- What a worker does for a task besides changing its copy. -/
inductive Action where
  /-- `UpdateWithStatus`, and the adjustments if it has won. -/
  | saveIf (fromStatus : TaskStatus) (bills : List TaskAdjustment)
  /-- `UpdateWithStatus` whose outcome is not looked at. -/
  | writeIf (fromStatus : TaskStatus)
  /-- `Update`. -/
  | save
  | bill (adjustment : TaskAdjustment)
  deriving DecidableEq

inductive Holder where
  | sweeper
  | poller
  deriving DecidableEq

/-- A task in the memory of a worker. -/
structure Copy where
  holder : Holder
  task : Task
  /-- How often the loop over tasks, or over channels, still comes to the copy. -/
  visits : Nat
  todo : List Action
  deriving DecidableEq

/-- What an adjustment that takes effect leaves of the task in memory. -/
def TaskAdjustment.adjusted (task : Task) : TaskAdjustment → Task
  | .refund => task
  | .recalculate actualQuota => { task with quota := actualQuota }

/-! ## The bodies of the loops -/

def legacyTaskCutoff : Int := 1740182400

/-- The loop body of `sweepTimedOutTasks`. -/
def timeOut (config : PollingConfig) (now : Int) (task : Task) : Task × List Action :=
  let isLegacy : Bool := 0 < task.submitTime ∧ task.submitTime < legacyTaskCutoff
  let reason := "任务超时（" ++ toString config.timeoutMinutes ++ "分钟）"
  let legacyReason := "任务超时（旧系统遗留任务，不进行退款，请联系管理员）"
  ({ task with
      status := .failure
      progress := "100%"
      finishTime := now
      failReason := if isLegacy then legacyReason else reason },
    [.saveIf task.status (if !isLegacy && task.quota ≠ 0 then [.refund] else [])])

/-- `taskNeedsUpdate`. The data are compared as sorted bytes. -/
def taskNeedsUpdate (task : Task) (item : SunoItem) : Bool :=
  task.submitTime ≠ item.submitTime || task.startTime ≠ item.startTime ||
    task.finishTime ≠ item.finishTime || task.status ≠ item.status ||
    task.failReason ≠ item.failReason ||
    (task.status.terminal && task.progress ≠ "100%") || !task.data.isPerm item.data

/-- The copy after the loop body of `updateSunoTasks`. -/
def sunoTask (task : Task) (item : SunoItem) : Task :=
  let status := if item.status ≠ .empty then item.status else task.status
  { task with
    status
    failReason := if item.failReason ≠ "" then item.failReason else task.failReason
    submitTime := if item.submitTime ≠ 0 then item.submitTime else task.submitTime
    startTime := if item.startTime ≠ 0 then item.startTime else task.startTime
    finishTime := if item.finishTime ≠ 0 then item.finishTime else task.finishTime
    progress :=
      if item.failReason ≠ "" ∨ status = .failure ∨ item.status = .success then "100%"
      else task.progress
    data := item.data }

/-- The loop body of `updateSunoTasks`: a failed task is refunded, and then the copy is saved. -/
def updateSuno (item : SunoItem) (task : Task) : Task × List Action :=
  if taskNeedsUpdate task item then
    let failed := item.failReason ≠ "" ∨ (sunoTask task item).status = .failure
    (sunoTask task item, if failed then [.bill .refund, .save] else [.save])
  else (task, [])

def buildProxyURL (config : PollingConfig) (taskId : String) : String :=
  config.serverAddress ++ "/v1/videos/" ++ taskId ++ "/content"

/-- The url that a successful task keeps. A `data:` url stays in the data. -/
def videoResultURL (config : PollingConfig) (task : Task) (info : TaskInfo) : String :=
  if "data:".toList.isPrefixOf info.url.toList then buildProxyURL config task.taskId
  else if info.url ≠ "" then info.url
  else buildProxyURL config task.taskId

/-- The `switch` of `updateVideoSingleTask` on the status, and the progress after it; none for a
status that it does not know. -/
def videoTask (config : PollingConfig) (now : Int) (info : TaskInfo) (task : Task) : Option Task :=
  let task := { task with status := info.status }
  let progress := fun (default : String) => if info.progress ≠ "" then info.progress else default
  match info.status with
  | .submitted => some { task with progress := progress "10%" }
  | .queued => some { task with progress := progress "20%" }
  | .inProgress => some { task with
      progress := progress "30%"
      startTime := if task.startTime = 0 then now else task.startTime }
  | .success => some { task with
      progress := progress "100%"
      finishTime := if task.finishTime = 0 then now else task.finishTime
      resultURL := videoResultURL config task info }
  | .failure => some { task with
      progress := "100%"
      finishTime := if task.finishTime = 0 then now else task.finishTime
      failReason := info.reason }
  | _ => none

/-- `settleTaskBillingOnComplete`, and the refund of a failed task. -/
def videoBills (answer : VideoAnswer) (info : TaskInfo) (task : Task) : List TaskAdjustment :=
  match info.status with
  | .success =>
    if task.perCallBilling then []
    else if 0 < answer.adjustedQuota then [.recalculate answer.adjustedQuota]
    else if 0 < info.totalTokens then [.recalculate answer.tokenQuota]
    else []
  | .failure => if task.quota ≠ 0 then [.refund] else []
  | _ => []

/-- `updateVideoSingleTask`, from the answer on. The bills are guarded by the conditional write only
if the status of the copy changes. -/
def updateVideo (config : PollingConfig) (now : Int) (answer : VideoAnswer) (task : Task) :
    Task × List Action :=
  let answered := { task with data := answer.data }
  match answer.taskResult with
  | none => (answered, [])
  | some info =>
    match videoTask config now info answered with
    | none => ({ answered with status := info.status }, [])
    | some updated =>
      let bills := videoBills answer info task
      if updated.status.terminal ∧ task.status ≠ updated.status then
        (updated, [.saveIf task.status bills])
      else if task.snapshot ≠ updated.snapshot then
        (updated, .writeIf task.status :: bills.map .bill)
      else (updated, bills.map .bill)

/-! ## Steps -/

/-- The table of tasks, the copies of all workers, oldest first, and the rows that an adjustment has
taken effect for. -/
structure Polling where
  rows : Table Int Task Task.id
  copies : List Copy
  effects : List Int

/-- A step of one worker. Which rows come within the limit of a query is left open, and so is
whether a call fails. -/
inductive PollingStep where
  /-- `GetTimedOutUnfinishedTasks`. -/
  | sweep (now : Int) (ids : List Int)
  /-- `GetAllUnFinishSyncTasks`, for the tasks of one platform. -/
  | poll (platform : TaskPlatform) (ids : List Int)
  /-- A sweeper comes to a copy. -/
  | timeOut (ref : Nat) (now : Int)
  /-- A poller comes to an item of Suno's answer. -/
  | sunoItem (ref : Nat) (item : SunoItem)
  /-- A poller comes to a video task, and fetches an answer. -/
  | videoAnswer (ref : Nat) (answer : VideoAnswer) (now : Int)
  /-- The worker does the next thing for a copy. -/
  | perform (ref : Nat) (fails : Bool)
  /-- `TaskBulkUpdateByID`, for tasks without an upstream id or without a channel. -/
  | bulkFail (ids : List Int) (failReason : Option String)

namespace Polling

/-- The unfinished rows of a query. -/
def unfinished (state : Polling) (ids : List Int) : List Task :=
  (ids.filterMap state.rows.get?).filter fun task => !task.ended

/-- `taskM`: the tasks by upstream id. Of two tasks with one upstream id the later stays. -/
def taskM (tasks : List Task) : Table String Task Task.getUpstreamTaskID :=
  tasks.foldl Table.put .empty

/-- The copies of a poller. A copy is visited as often as its upstream id stands in `taskChannelM`,
whichever tasks it was put there for. -/
def pollerCopies (tasks : List Task) : List Copy :=
  let tasks := tasks.filter fun task => task.getUpstreamTaskID ≠ ""
  (taskM tasks).rows.map fun task =>
    ⟨.poller, task, tasks.countP fun other => other.getUpstreamTaskID = task.getUpstreamTaskID, []⟩

/-- The copy `ref`, if the worker has nothing else to do for it. -/
def idleCopy (state : Polling) (ref : Nat) : Option Copy :=
  state.copies[ref]?.filter fun copy => copy.todo.isEmpty

def setCopy (state : Polling) (ref : Nat) (copy : Copy) : Polling :=
  { state with copies := state.copies.set ref copy }

/-- The row has the status that a conditional write asks for. -/
def hasStatus (state : Polling) (id : Int) (status : TaskStatus) : Bool :=
  (state.rows.get? id).any fun row => row.status = status

/-- `Save`, and the write of `UpdateWithStatus`. -/
def writeRow (state : Polling) (task : Task) : Polling :=
  { state with rows := state.rows.put task }

/-- What `TaskBulkUpdateByID` makes of a row. -/
def bulkFailed (failReason : Option String) (row : Task) : Task :=
  { row with
    status := .failure
    progress := "100%"
    failReason := failReason.getD row.failReason }

/-- The next thing a worker has to do for a copy. -/
def perform (ref : Nat) (fails : Bool) (copy : Copy) (state : Polling) : Polling :=
  match copy.todo with
  | [] => state
  | .saveIf fromStatus bills :: rest =>
    if !fails && state.hasStatus copy.task.id fromStatus then
      (state.writeRow copy.task).setCopy ref { copy with todo := bills.map .bill ++ rest }
    else state.setCopy ref { copy with todo := rest }
  | .writeIf fromStatus :: rest =>
    (if !fails && state.hasStatus copy.task.id fromStatus then state.writeRow copy.task
      else state).setCopy ref { copy with todo := rest }
  | .save :: rest =>
    (if fails then state else state.writeRow copy.task).setCopy ref { copy with todo := rest }
  | .bill adjustment :: rest =>
    if !fails && adjustment.delta copy.task ≠ 0 then
      { state with effects := copy.task.id :: state.effects }.setCopy ref
        { copy with todo := rest, task := adjustment.adjusted copy.task }
    else state.setCopy ref { copy with todo := rest }

def step (config : PollingConfig) (state : Polling) : PollingStep → Polling
  | .sweep now ids =>
    if config.timeoutMinutes ≤ 0 then state
    else
      let tasks := (state.unfinished ids).filter fun task =>
        task.submitTime < now - config.timeoutMinutes * 60
      { state with copies := state.copies ++ tasks.map fun task => ⟨.sweeper, task, 1, []⟩ }
  | .poll platform ids =>
    let tasks := (state.unfinished ids).filter fun task => task.platform = platform
    { state with copies := state.copies ++ pollerCopies tasks }
  | .timeOut ref now =>
    match state.idleCopy ref with
    | some ⟨.sweeper, task, visits + 1, _⟩ =>
      let (task, todo) := Yunbay.timeOut config now task
      state.setCopy ref ⟨.sweeper, task, visits, todo⟩
    | _ => state
  | .sunoItem ref item =>
    -- the items of an answer are Suno's choice, so a copy can be named any number of times
    match state.idleCopy ref with
    | some ⟨.poller, task, visits, _⟩ =>
      if task.platform = .suno then
        let (task, todo) := updateSuno item task
        state.setCopy ref ⟨.poller, task, visits, todo⟩
      else state
    | _ => state
  | .videoAnswer ref answer now =>
    match state.idleCopy ref with
    | some ⟨.poller, task, visits + 1, _⟩ =>
      match task.platform with
      | .video _ =>
        let (task, todo) := updateVideo config now answer task
        state.setCopy ref ⟨.poller, task, visits, todo⟩
      | _ => state
    | _ => state
  | .perform ref fails =>
    match state.copies[ref]? with
    | some copy => state.perform ref fails copy
    | none => state
  | .bulkFail ids failReason =>
    (ids.filterMap state.rows.get?).foldl
      (fun state row => state.writeRow (bulkFailed failReason row)) state

end Polling

end Yunbay
