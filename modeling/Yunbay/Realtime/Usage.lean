import Mathlib.Algebra.BigOperators.Group.List.Basic
import Mathlib.Tactic

/-!
# Usage of a realtime session

A realtime session relays events between a client and an upstream. The handler counts the tokens of
every event itself, and at the end of a turn it charges the usage that the upstream reports for the
turn, or its own count if the upstream reports none.
-/

namespace Yunbay

variable {a : RealtimeUsage} {turn events : List RealtimeEvent} {state : RealtimeState}
  {event : RealtimeEvent}

/-! ## Token counts -/

/-- `dto.RealtimeUsage`, with the fields of `InputTokenDetails` and `OutputTokenDetails` in line. -/
@[ext]
structure RealtimeUsage where
  totalTokens : Int
  inputTokens : Int
  outputTokens : Int
  inputCachedTokens : Int
  inputCachedCreationTokens : Int
  inputTextTokens : Int
  inputAudioTokens : Int
  inputImageTokens : Int
  outputTextTokens : Int
  outputAudioTokens : Int
  outputImageTokens : Int
  outputReasoningTokens : Int
  deriving DecidableEq

namespace RealtimeUsage

instance : Zero RealtimeUsage := ⟨⟨0, 0, 0, 0, 0, 0, 0, 0, 0, 0, 0, 0⟩⟩

def addUsage (a b : RealtimeUsage) : RealtimeUsage :=
  ⟨a.totalTokens + b.totalTokens, a.inputTokens + b.inputTokens, a.outputTokens + b.outputTokens,
    a.inputCachedTokens + b.inputCachedTokens,
    a.inputCachedCreationTokens + b.inputCachedCreationTokens,
    a.inputTextTokens + b.inputTextTokens, a.inputAudioTokens + b.inputAudioTokens,
    a.inputImageTokens + b.inputImageTokens, a.outputTextTokens + b.outputTextTokens,
    a.outputAudioTokens + b.outputAudioTokens, a.outputImageTokens + b.outputImageTokens,
    a.outputReasoningTokens + b.outputReasoningTokens⟩

instance : Add RealtimeUsage := ⟨addUsage⟩

instance : Neg RealtimeUsage :=
  ⟨fun a =>
    ⟨-a.totalTokens, -a.inputTokens, -a.outputTokens, -a.inputCachedTokens,
      -a.inputCachedCreationTokens, -a.inputTextTokens, -a.inputAudioTokens, -a.inputImageTokens,
      -a.outputTextTokens, -a.outputAudioTokens, -a.outputImageTokens, -a.outputReasoningTokens⟩⟩

lemma zero_def : (0 : RealtimeUsage) = ⟨0, 0, 0, 0, 0, 0, 0, 0, 0, 0, 0, 0⟩ := rfl

lemma add_def (a b : RealtimeUsage) : a + b = addUsage a b := rfl

/-- Usages are added field by field. -/
instance : AddCommGroup RealtimeUsage where
  add_assoc a b c := by ext <;> exact Int.add_assoc _ _ _
  zero_add a := by ext <;> exact Int.zero_add _
  add_zero a := by ext <;> exact Int.add_zero _
  add_comm a b := by ext <;> exact Int.add_comm _ _
  neg_add_cancel a := by ext <;> exact Int.add_left_neg _
  nsmul := nsmulRec
  zsmul := zsmulRec

/-- `total.X += usage.X` for the fields that the handler adds up, both when it collects what the
upstream reports and in `preConsumeUsage`. -/
def addCounted (total usage : RealtimeUsage) : RealtimeUsage :=
  { total with
    totalTokens := total.totalTokens + usage.totalTokens
    inputTokens := total.inputTokens + usage.inputTokens
    outputTokens := total.outputTokens + usage.outputTokens
    inputCachedTokens := total.inputCachedTokens + usage.inputCachedTokens
    inputTextTokens := total.inputTextTokens + usage.inputTextTokens
    inputAudioTokens := total.inputAudioTokens + usage.inputAudioTokens
    outputTextTokens := total.outputTextTokens + usage.outputTextTokens
    outputAudioTokens := total.outputAudioTokens + usage.outputAudioTokens }

/-- Tokens of the input side, counted by the handler. -/
def ofInput (textToken audioToken : Nat) : RealtimeUsage :=
  { (0 : RealtimeUsage) with
    totalTokens := textToken + audioToken
    inputTokens := textToken + audioToken
    inputTextTokens := textToken
    inputAudioTokens := audioToken }

/-- Tokens of the output side, counted by the handler. -/
def ofOutput (textToken audioToken : Nat) : RealtimeUsage :=
  { (0 : RealtimeUsage) with
    totalTokens := textToken + audioToken
    outputTokens := textToken + audioToken
    outputTextTokens := textToken
    outputAudioTokens := audioToken }

/-- The token kinds that the handler adds up. -/
def counted (usage : RealtimeUsage) : RealtimeUsage :=
  { usage with
    inputCachedCreationTokens := 0
    inputImageTokens := 0
    outputImageTokens := 0
    outputReasoningTokens := 0 }

/-- The token kinds that it does not: cached creation, image and reasoning tokens. -/
def uncounted (usage : RealtimeUsage) : RealtimeUsage :=
  { (0 : RealtimeUsage) with
    inputCachedCreationTokens := usage.inputCachedCreationTokens
    inputImageTokens := usage.inputImageTokens
    outputImageTokens := usage.outputImageTokens
    outputReasoningTokens := usage.outputReasoningTokens }

/-! ### Algebra of the counts -/

lemma addCounted_eq (total usage : RealtimeUsage) :
    addCounted total usage = total + counted usage := by
  simp [addCounted, counted, add_def, addUsage]

@[simp]
lemma zero_totalTokens : (0 : RealtimeUsage).totalTokens = 0 := rfl

@[simp]
lemma counted_totalTokens (a : RealtimeUsage) : (counted a).totalTokens = a.totalTokens := rfl

@[simp]
lemma counted_zero : counted 0 = 0 := rfl

@[simp]
lemma counted_add (a b : RealtimeUsage) : counted (a + b) = counted a + counted b := by
  simp [counted, add_def, addUsage]

@[simp]
lemma uncounted_zero : uncounted 0 = 0 := rfl

@[simp]
lemma uncounted_add (a b : RealtimeUsage) : uncounted (a + b) = uncounted a + uncounted b := by
  simp [uncounted, add_def, addUsage, zero_def]

section

variable (a : RealtimeUsage)

lemma counted_add_uncounted : counted a + uncounted a = a := by
  simp [counted, uncounted, add_def, addUsage, zero_def]

@[simp]
lemma counted_counted : counted (counted a) = counted a := rfl

@[simp]
lemma uncounted_counted : uncounted (counted a) = 0 := rfl

@[simp]
lemma counted_uncounted : counted (uncounted a) = 0 := rfl

end

/-! ### Local counts -/

/-- A sum of counts of the handler: four numbers determine it. -/
def IsLocal (usage : RealtimeUsage) : Prop :=
  ∃ inputText inputAudio outputText outputAudio : Nat,
    usage = ofInput inputText inputAudio + ofOutput outputText outputAudio

lemma isLocal_zero : IsLocal 0 := ⟨0, 0, 0, 0, rfl⟩

lemma isLocal_ofInput (textToken audioToken : Nat) : IsLocal (ofInput textToken audioToken) :=
  ⟨textToken, audioToken, 0, 0, (add_zero _).symm⟩

lemma isLocal_ofOutput (textToken audioToken : Nat) : IsLocal (ofOutput textToken audioToken) :=
  ⟨0, 0, textToken, audioToken, (zero_add _).symm⟩

lemma IsLocal.add {b : RealtimeUsage} (ha : IsLocal a) (hb : IsLocal b) : IsLocal (a + b) := by
  obtain ⟨it, ia, ot, oa, rfl⟩ := ha
  obtain ⟨it', ia', ot', oa', rfl⟩ := hb
  refine ⟨it + it', ia + ia', ot + ot', oa + oa', ?_⟩
  simp only [ofInput, ofOutput, add_def, addUsage, zero_def, mk.injEq, Nat.cast_add]
  omega

lemma IsLocal.counted_eq (h : IsLocal a) : counted a = a := by
  obtain ⟨it, ia, ot, oa, rfl⟩ := h
  simp [counted, ofInput, ofOutput, add_def, addUsage, zero_def]

lemma IsLocal.uncounted_eq (h : IsLocal a) : uncounted a = 0 := by
  rw [← h.counted_eq, uncounted_counted]

lemma IsLocal.eq_zero (h : IsLocal a) (htotal : a.totalTokens = 0) : a = 0 := by
  obtain ⟨it, ia, ot, oa, rfl⟩ := h
  simp only [ofInput, ofOutput, add_def, addUsage, zero_def, mk.injEq] at htotal ⊢
  omega

end RealtimeUsage

/-! ## The handler -/

/-- An event of the session, with what the handler counts for it. -/
inductive RealtimeEvent where
  /-- An event of the client. -/
  | client (textToken audioToken : Nat)
  /-- `session.created` or `session.updated` of the upstream, for which nothing is counted. -/
  | session
  /-- Another event of the upstream. -/
  | upstream (textToken audioToken : Nat)
  /-- `response.done` with the usage of the turn; `charged` says whether `PreWssConsumeQuota`
  succeeds. -/
  | reported (usage : RealtimeUsage) (charged : Bool)
  /-- `response.done` without usage. -/
  | done (textToken audioToken : Nat) (charged : Bool)

/-- The variables of `OpenaiRealtimeHandler`. -/
structure RealtimeState where
  /-- What the upstream has reported and no charge has cleared. -/
  usage : RealtimeUsage
  /-- What the handler has counted and no charge has cleared. -/
  localUsage : RealtimeUsage
  sumUsage : RealtimeUsage
  /-- The upstream reader runs. It returns after a failed charge. -/
  reading : Bool

namespace RealtimeState

def init : RealtimeState := ⟨0, 0, 0, true⟩

/-- One round of the upstream reader. `preConsumeUsage` adds to the sum before the charge is tried,
and the counts are cleared only after it has succeeded. -/
def handleUpstream (state : RealtimeState) : RealtimeEvent → RealtimeState
  | .client .. | .session => state
  | .upstream textToken audioToken =>
    { state with localUsage := state.localUsage + .ofOutput textToken audioToken }
  | .reported realtimeUsage charged =>
    let usage := state.usage.addCounted realtimeUsage
    let sumUsage := state.sumUsage.addCounted usage
    if charged then ⟨0, 0, sumUsage, true⟩ else ⟨usage, state.localUsage, sumUsage, false⟩
  | .done textToken audioToken charged =>
    let localUsage := state.localUsage + .ofInput textToken audioToken
    let sumUsage := state.sumUsage.addCounted localUsage
    if charged then ⟨state.usage, 0, sumUsage, true⟩
    else ⟨state.usage, localUsage, sumUsage, false⟩

/-- One round of either reader. -/
def handle (state : RealtimeState) : RealtimeEvent → RealtimeState
  | .client textToken audioToken =>
    { state with localUsage := state.localUsage + .ofInput textToken audioToken }
  | event => if state.reading then state.handleUpstream event else state

/-- The end of the handler: what is left in either variable is charged, and added to the sum whether
the charge succeeds or not. -/
def finish (state : RealtimeState) : RealtimeUsage :=
  let sumUsage :=
    if state.usage.totalTokens ≠ 0 then state.sumUsage.addCounted state.usage else state.sumUsage
  if state.localUsage.totalTokens ≠ 0 then sumUsage.addCounted state.localUsage else sumUsage

end RealtimeState

/-- `OpenaiRealtimeHandler`: the usage it returns. -/
def openaiRealtimeHandler (events : List RealtimeEvent) : RealtimeUsage :=
  (events.foldl RealtimeState.handle RealtimeState.init).finish

/-! ## What it should return -/

namespace RealtimeEvent

def isClient : RealtimeEvent → Bool
  | client .. => true
  | _ => false

/-- `response.done`. -/
def endsTurn : RealtimeEvent → Bool
  | reported .. | done .. => true
  | _ => false

/-- The event ends the upstream reader. -/
def failsCharge : RealtimeEvent → Bool
  | reported _ charged | done _ _ charged => !charged
  | _ => false

/-- The usage that the upstream reports. -/
def usage? : RealtimeEvent → Option RealtimeUsage
  | reported usage _ => some usage
  | _ => none

/-- The tokens that the handler counts for the event. -/
def localUsage : RealtimeEvent → RealtimeUsage
  | client textToken audioToken => .ofInput textToken audioToken
  | upstream textToken audioToken => .ofOutput textToken audioToken
  | done textToken audioToken _ => .ofInput textToken audioToken
  | session | reported .. => 0

lemma isLocal_localUsage (event : RealtimeEvent) : event.localUsage.IsLocal := by
  cases event with
  | client text audio | done text audio charged => exact RealtimeUsage.isLocal_ofInput text audio
  | session | reported => exact RealtimeUsage.isLocal_zero
  | upstream text audio => exact RealtimeUsage.isLocal_ofOutput text audio

end RealtimeEvent

/-- The events that are handled: after a failed charge only those of the client. -/
def handledEvents : List RealtimeEvent → List RealtimeEvent
  | [] => []
  | event :: events =>
    event :: if event.failsCharge then events.filter (·.isClient) else handledEvents events

/-- The turns of a sequence of events, if the events of `turn` have come before. The last one may be
unfinished. -/
def turnsFrom (turn : List RealtimeEvent) : List RealtimeEvent → List (List RealtimeEvent)
  | [] => [turn]
  | event :: events =>
    if event.endsTurn then (turn ++ [event]) :: turnsFrom [] events
    else turnsFrom (turn ++ [event]) events

/-- The local counts of some events. -/
def localSum (events : List RealtimeEvent) : RealtimeUsage := (events.map (·.localUsage)).sum

/-- A turn that ends with a report counts for what is reported, any other one for the local
counts. -/
def turnUsage (turn : List RealtimeEvent) : RealtimeUsage :=
  match turn.getLast?.bind RealtimeEvent.usage? with
  | some usage => usage
  | none => localSum turn

/-- The sum over the turns of the events that are handled. -/
def expectedUsage (events : List RealtimeEvent) : RealtimeUsage :=
  ((turnsFrom [] (handledEvents events)).map turnUsage).sum

/-- What the end of the handler adds up once more after the charge at `event` has failed: the usage
of the turn and its local counts. -/
def countedTwice (turn : RealtimeUsage) (event : RealtimeEvent) : RealtimeUsage :=
  (match event.usage? with
    | some usage => if usage.totalTokens ≠ 0 then usage.counted else 0
    | none => 0) + (turn + event.localUsage)

/-- What the handler adds up twice, if the local counts of the turn so far are `turn`. -/
def countedTwiceFrom (turn : RealtimeUsage) : List RealtimeEvent → RealtimeUsage
  | [] => 0
  | event :: events =>
    if event.failsCharge then countedTwice turn event
    else countedTwiceFrom (if event.endsTurn then 0 else turn + event.localUsage) events

/-! ## The handler against the turns -/

@[simp]
lemma localSum_nil : localSum [] = 0 := rfl

@[simp]
lemma localSum_append (events events' : List RealtimeEvent) :
    localSum (events ++ events') = localSum events + localSum events' := by
  simp [localSum]

@[simp]
lemma localSum_singleton (event : RealtimeEvent) : localSum [event] = event.localUsage := by
  simp [localSum]

lemma isLocal_localSum (events : List RealtimeEvent) : (localSum events).IsLocal := by
  induction events with
  | nil => exact RealtimeUsage.isLocal_zero
  | cons event events ih =>
    rw [← List.singleton_append, localSum_append, localSum_singleton]
    exact event.isLocal_localUsage.add ih

/-- A turn ends with a report, or counts for the local counts. -/
lemma turnUsage_append (turn : List RealtimeEvent) (event : RealtimeEvent) :
    turnUsage (turn ++ [event]) = event.usage?.getD (localSum turn + event.localUsage) := by
  unfold turnUsage
  rw [List.getLast?_concat, Option.bind_some, localSum_append, localSum_singleton]
  cases event.usage? <;> rfl

/-- Without a report at its end, an unfinished turn counts for the local counts. -/
lemma turnUsage_of_not_endsTurn (hturn : ∀ event ∈ turn, event.endsTurn = false) :
    turnUsage turn = localSum turn := by
  unfold turnUsage
  cases hlast : turn.getLast? with
  | none => rfl
  | some event =>
    have hends := hturn event (List.mem_of_getLast? hlast)
    cases event with
    | reported => cases hends
    | _ => rfl

namespace RealtimeState

lemma finish_eq (hlocal : state.localUsage.IsLocal) :
    state.finish = state.sumUsage +
      (if state.usage.totalTokens ≠ 0 then state.usage.counted else 0) + state.localUsage := by
  have hflush (sum : RealtimeUsage) :
      (if state.localUsage.totalTokens ≠ 0 then sum.addCounted state.localUsage else sum) =
        sum + state.localUsage := by
    split_ifs with htotal
    · rw [RealtimeUsage.addCounted_eq, hlocal.counted_eq]
    · rw [hlocal.eq_zero (not_not.mp htotal), add_zero]
  unfold finish
  dsimp only
  rw [hflush]
  split_ifs
  · rw [RealtimeUsage.addCounted_eq]
  · rw [add_zero]

/-- The upstream reader has returned. -/
lemma handle_of_stopped (hreading : state.reading = false) (hclient : event.isClient = false) :
    state.handle event = state := by
  cases event with
  | client => cases hclient
  | _ => simp [handle, hreading]

lemma handle_of_not_endsTurn (hends : event.endsTurn = false)
    (usage localUsage sumUsage : RealtimeUsage) :
    handle ⟨usage, localUsage, sumUsage, true⟩ event =
      ⟨usage, localUsage + event.localUsage, sumUsage, true⟩ := by
  cases event with
  | reported | done => cases hends
  | session => simp [handle, handleUpstream, RealtimeEvent.localUsage]
  | _ => rfl

lemma handle_reported (realtimeUsage localUsage sumUsage : RealtimeUsage) (charged : Bool) :
    handle ⟨0, localUsage, sumUsage, true⟩ (.reported realtimeUsage charged) =
      if charged then ⟨0, 0, sumUsage + realtimeUsage.counted, true⟩
      else ⟨realtimeUsage.counted, localUsage, sumUsage + realtimeUsage.counted, false⟩ := by
  simp [handle, handleUpstream, RealtimeUsage.addCounted_eq]

/-- Without a report the local count is. -/
lemma handle_done {localUsage : RealtimeUsage} (hlocal : localUsage.IsLocal)
    (sumUsage : RealtimeUsage) (textToken audioToken : Nat) (charged : Bool) :
    handle ⟨0, localUsage, sumUsage, true⟩ (.done textToken audioToken charged) =
      if charged then ⟨0, 0, sumUsage + (localUsage + .ofInput textToken audioToken), true⟩
      else ⟨0, localUsage + .ofInput textToken audioToken,
        sumUsage + (localUsage + .ofInput textToken audioToken), false⟩ := by
  have hcount := (hlocal.add (RealtimeUsage.isLocal_ofInput textToken audioToken)).counted_eq
  simp only [handle, handleUpstream, RealtimeUsage.addCounted_eq, hcount, if_true]

/-- After a failed charge the events of the client are counted, and nothing else happens. -/
lemma foldl_stopped (state : RealtimeState) (hreading : state.reading = false)
    (events : List RealtimeEvent) :
    events.foldl handle state =
      { state with localUsage := state.localUsage + localSum (events.filter (·.isClient)) } := by
  induction events generalizing state with
  | nil => simp
  | cons event events ih =>
    rw [List.foldl_cons]
    cases event with
    | client text audio =>
      -- the client's reader is still running
      have hnext : (state.handle (.client text audio)).reading = false := hreading
      rw [ih _ hnext, List.filter_cons_of_pos rfl, ← List.singleton_append, localSum_append,
        localSum_singleton]
      simp [handle, RealtimeEvent.localUsage, add_assoc]
    | _ =>
      rw [handle_of_stopped hreading rfl, ih state hreading]
      rfl

end RealtimeState

lemma turnsFrom_clients (turn : List RealtimeEvent)
    (hevents : ∀ event ∈ events, event.endsTurn = false) :
    turnsFrom turn events = [turn ++ events] := by
  induction events generalizing turn with
  | nil => simp [turnsFrom]
  | cons event events ih =>
    have hnot := hevents event List.mem_cons_self
    rw [turnsFrom, if_neg (by simp [hnot]),
      ih (turn ++ [event]) fun e he => hevents e (List.mem_cons_of_mem event he)]
    simp

lemma RealtimeEvent.failsCharge_of_not_endsTurn (hends : event.endsTurn = false) :
    event.failsCharge = false := by
  cases event with
  | reported | done => cases hends
  | _ => rfl

lemma RealtimeEvent.not_endsTurn_of_mem_filter (hmem : event ∈ events.filter (·.isClient)) :
    event.endsTurn = false := by
  have hclient := List.of_mem_filter hmem
  cases event with
  | client => rfl
  | _ => cases hclient

lemma handle_charged (hends : event.endsTurn = true) (hcharged : event.failsCharge = false)
    (turn : List RealtimeEvent) (sum : RealtimeUsage) :
    RealtimeState.handle ⟨0, localSum turn, sum, true⟩ event =
      ⟨0, 0, sum + (turnUsage (turn ++ [event])).counted, true⟩ := by
  rw [turnUsage_append]
  cases event with
  | reported usage charged =>
    obtain rfl : charged = true := by simpa [RealtimeEvent.failsCharge] using hcharged
    rw [RealtimeState.handle_reported, if_pos rfl]
    rfl
  | done text audio charged =>
    obtain rfl : charged = true := by simpa [RealtimeEvent.failsCharge] using hcharged
    have hcount := (isLocal_localSum turn).add (RealtimeUsage.isLocal_ofInput text audio)
    rw [RealtimeState.handle_done (isLocal_localSum turn), if_pos rfl]
    simp only [RealtimeEvent.usage?, RealtimeEvent.localUsage, Option.getD_none,
      hcount.counted_eq]
  | _ => cases hends

lemma finish_of_failed (hfails : event.failsCharge = true) (turn events : List RealtimeEvent)
    (sum : RealtimeUsage) :
    (events.foldl RealtimeState.handle
        (RealtimeState.handle ⟨0, localSum turn, sum, true⟩ event)).finish =
      sum + (turnUsage (turn ++ [event])).counted + localSum (events.filter (·.isClient)) +
        countedTwice (localSum turn) event := by
  have hlocal := isLocal_localSum turn
  have hrest := isLocal_localSum (events.filter (·.isClient))
  rw [turnUsage_append]
  unfold countedTwice
  cases event with
  | reported usage charged =>
    -- both variables still hold the failed turn
    obtain rfl : charged = false := by simpa [RealtimeEvent.failsCharge] using hfails
    rw [RealtimeState.handle_reported, if_neg Bool.false_ne_true,
      RealtimeState.foldl_stopped _ rfl, RealtimeState.finish_eq (hlocal.add hrest)]
    simp only [RealtimeEvent.usage?, RealtimeEvent.localUsage, Option.getD_some,
      RealtimeUsage.counted_totalTokens, RealtimeUsage.counted_counted]
    by_cases htotal : usage.totalTokens = 0
    · simp only [htotal, ne_eq, not_true_eq_false, if_false]
      abel
    · simp only [htotal, ne_eq, not_false_eq_true, if_true]
      abel
  | done text audio charged =>
    have hcount := hlocal.add (RealtimeUsage.isLocal_ofInput text audio)
    obtain rfl : charged = false := by simpa [RealtimeEvent.failsCharge] using hfails
    rw [RealtimeState.handle_done hlocal, if_neg Bool.false_ne_true,
      RealtimeState.foldl_stopped _ rfl, RealtimeState.finish_eq (hcount.add hrest)]
    simp only [RealtimeEvent.usage?, RealtimeEvent.localUsage, Option.getD_none,
      RealtimeUsage.zero_totalTokens, ne_eq, not_true_eq_false, if_false, hcount.counted_eq]
    abel
  | _ => cases hfails

/-- In the middle of a turn, the handler returns what it has added up so far, what the turns should
count for, and what it adds up twice. -/
lemma foldl_handle_finish (events : List RealtimeEvent)
    (hturn : ∀ event ∈ turn, event.endsTurn = false) (sum : RealtimeUsage) :
    (events.foldl RealtimeState.handle ⟨0, localSum turn, sum, true⟩).finish =
      sum + ((turnsFrom turn (handledEvents events)).map turnUsage).sum.counted +
        countedTwiceFrom (localSum turn) events := by
  induction events generalizing turn sum with
  | nil =>
    rw [List.foldl_nil, RealtimeState.finish_eq (isLocal_localSum turn)]
    simp [handledEvents, turnsFrom, countedTwiceFrom, turnUsage_of_not_endsTurn hturn,
      (isLocal_localSum turn).counted_eq]
  | cons event events ih =>
    rw [List.foldl_cons]
    cases hends : event.endsTurn with
    | false =>
      have hfails := RealtimeEvent.failsCharge_of_not_endsTurn hends
      have hturn' : ∀ e ∈ turn ++ [event], e.endsTurn = false := by
        simpa [or_imp, forall_and] using ⟨hturn, hends⟩
      rw [RealtimeState.handle_of_not_endsTurn hends, ← localSum_singleton event,
        ← localSum_append, ih hturn']
      simp [handledEvents, turnsFrom, countedTwiceFrom, hends, hfails]
    | true =>
      cases hfails : event.failsCharge with
      | false =>
        have hnone : ∀ e ∈ [], RealtimeEvent.endsTurn e = false := List.forall_mem_nil _
        have hnext := ih hnone (sum + (turnUsage (turn ++ [event])).counted)
        rw [localSum_nil] at hnext
        rw [handle_charged hends hfails, hnext]
        simp [handledEvents, turnsFrom, countedTwiceFrom, hends, hfails, add_assoc]
      | true =>
        -- what is left are events of the client, in an unfinished turn
        have hclients : ∀ e ∈ events.filter (·.isClient), e.endsTurn = false :=
          fun _ hmem => RealtimeEvent.not_endsTurn_of_mem_filter hmem
        have hrest := isLocal_localSum (events.filter (·.isClient))
        rw [finish_of_failed hfails]
        simp [handledEvents, turnsFrom, countedTwiceFrom, hends, hfails, countedTwice,
          turnsFrom_clients [] hclients, turnUsage_of_not_endsTurn hclients,
          hrest.counted_eq, add_assoc]

/-! ## The result -/

/-- Only reports carry token kinds that are not added up. -/
lemma uncounted_turns (events : List RealtimeEvent)
    (hturn : ∀ event ∈ turn, event.endsTurn = false) :
    ((turnsFrom turn events).map turnUsage).sum.uncounted =
      (events.filterMap RealtimeEvent.usage?).sum.uncounted := by
  induction events generalizing turn with
  | nil =>
    simp [turnsFrom, turnUsage_of_not_endsTurn hturn, (isLocal_localSum turn).uncounted_eq]
  | cons event events ih =>
    have hnone : ∀ e ∈ [], RealtimeEvent.endsTurn e = false := List.forall_mem_nil _
    have hcount : (localSum turn + event.localUsage).uncounted = 0 :=
      ((isLocal_localSum turn).add event.isLocal_localUsage).uncounted_eq
    cases hends : event.endsTurn with
    | false =>
      have hturn' : ∀ e ∈ turn ++ [event], e.endsTurn = false := by
        simpa [or_imp, forall_and] using ⟨hturn, hends⟩
      have husage : event.usage? = none := by
        cases event with
        | reported => cases hends
        | _ => rfl
      rw [turnsFrom, if_neg (by simp [hends]), ih hturn', List.filterMap_cons_none husage]
    | true =>
      rw [turnsFrom, if_pos hends, List.map_cons, List.sum_cons, turnUsage_append,
        RealtimeUsage.uncounted_add, ih hnone]
      cases husage : event.usage? with
      | none => rw [List.filterMap_cons_none husage, Option.getD_none, hcount, zero_add]
      | some usage => simp [husage]

/-- Only token kinds that are added up are added up twice. -/
lemma counted_countedTwiceFrom (events : List RealtimeEvent) {turn : RealtimeUsage}
    (hturn : turn.IsLocal) :
    (countedTwiceFrom turn events).counted = countedTwiceFrom turn events := by
  induction events generalizing turn with
  | nil => rfl
  | cons event events ih =>
    have hcount := hturn.add event.isLocal_localUsage
    unfold countedTwiceFrom
    split_ifs
    · unfold countedTwice
      rw [RealtimeUsage.counted_add, hcount.counted_eq]
      congr 1
      split
      · split_ifs <;> rfl
      · rfl
    · exact ih RealtimeUsage.isLocal_zero
    · exact ih hcount

/-- The handler returns the usage of every turn exactly once if and only if a turn whose charge has
failed comes to nothing, and so do the cached creation, image and reasoning tokens of all reports.
-/
theorem realtime_counts_turns_once_iff (events : List RealtimeEvent) :
    openaiRealtimeHandler events = expectedUsage events ↔
      countedTwiceFrom 0 events = 0 ∧
        (((handledEvents events).filterMap RealtimeEvent.usage?).sum).uncounted = 0 := by
  have hfinish : openaiRealtimeHandler events =
      (expectedUsage events).counted + countedTwiceFrom 0 events := by
    have hnone : ∀ e ∈ [], RealtimeEvent.endsTurn e = false := List.forall_mem_nil _
    have hrun := foldl_handle_finish events hnone 0
    rw [localSum_nil, zero_add] at hrun
    exact hrun
  have hreports : (expectedUsage events).uncounted =
      ((handledEvents events).filterMap RealtimeEvent.usage?).sum.uncounted :=
    uncounted_turns (handledEvents events) (List.forall_mem_nil _)
  have htwice := counted_countedTwiceFrom events RealtimeUsage.isLocal_zero
  rw [hfinish, ← hreports]
  constructor
  · intro heq
    -- the two sides differ in what is added up twice and in what is not added up
    have hdiff : countedTwiceFrom 0 events = (expectedUsage events).uncounted := by
      have hsplit := (expectedUsage events).counted_add_uncounted
      exact add_left_cancel (heq.trans hsplit.symm)
    have hzero : countedTwiceFrom 0 events = 0 := by
      rw [← htwice, hdiff, RealtimeUsage.counted_uncounted]
    exact ⟨hzero, hdiff.symm.trans hzero⟩
  · rintro ⟨hzero, hnone⟩
    have hsplit := (expectedUsage events).counted_add_uncounted
    rw [hnone] at hsplit
    rw [hzero]
    exact hsplit

/-- A turn with three text tokens of the client, reported as ten tokens. -/
def reportedTurn (charged : Bool) : List RealtimeEvent :=
  [.client 3 0, .upstream 2 0, .reported ⟨10, 6, 4, 0, 0, 6, 0, 0, 4, 0, 0, 0⟩ charged]

/-- If the charge of the turn fails, the report is returned twice, and the local counts as well. -/
theorem failed_charge_counted_twice :
    expectedUsage (reportedTurn false) = ⟨10, 6, 4, 0, 0, 6, 0, 0, 4, 0, 0, 0⟩ ∧
      openaiRealtimeHandler (reportedTurn false) = ⟨25, 15, 10, 0, 0, 15, 0, 0, 10, 0, 0, 0⟩ :=
  ⟨by decide, by decide⟩

end Yunbay
