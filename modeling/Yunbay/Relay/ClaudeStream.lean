import Mathlib.Data.List.Flatten
import Mathlib.Tactic.SplitIfs

/-!
# Streams for Claude clients

`StreamResponseOpenAI2Claude` turns the chunks of an OpenAI stream into the events of a Claude
stream, which write fragments of text, of reasoning and of tool arguments to content blocks.

`stream_loses_nothing_iff`: each chunk goes through branches that exclude each other, so a fragment
next to another kind is dropped, and so is all of a last chunk without usage.
-/

namespace Yunbay

/-! ### Chunks and events -/

/-- A part of a tool call. -/
structure ToolCallResponse where
  index : Option Nat := none
  name : String := ""
  arguments : String := ""

/-- A choice of a chunk. Texts that are not there are empty. -/
structure StreamChoice where
  content : String := ""
  reasoning : String := ""
  toolCalls : List ToolCallResponse := []
  finishReason : String := ""

structure StreamChunk where
  choices : List StreamChoice
  /-- The chunk has the usage with it. -/
  usage : Bool := false

/-- What a delta carries. The tool index is not sent. -/
inductive StreamDelta where
  | text (text : String)
  | thinking (text : String)
  | inputJson (toolIndex : Nat) (partialJson : String)

inductive BlockKind where
  | text | thinking | toolUse
  deriving DecidableEq

/-- An event that is sent. -/
inductive ClaudeEvent where
  | messageStart
  | blockStart (index : Nat) (kind : BlockKind)
  | blockDelta (index : Nat) (delta : StreamDelta)
  | blockStop (index : Nat)
  | messageDelta
  | messageStop

/-- `ClaudeConvertInfo`. The last message type is `none` without open blocks. -/
structure ClaudeConvertInfo where
  index : Nat := 0
  lastMessagesType : Option BlockKind := none
  toolCallBaseIndex : Nat := 0
  toolCallMaxIndexOffset : Nat := 0
  usage : Bool := false
  done : Bool := false

namespace ClaudeConvertInfo

def stopOpenBlocks (info : ClaudeConvertInfo) : List ClaudeEvent :=
  match info.lastMessagesType with
  | none => []
  | some .toolUse => (List.range (info.toolCallMaxIndexOffset + 1)).map fun offset =>
      .blockStop (info.toolCallBaseIndex + offset)
  | some _ => [.blockStop info.index]

/-- The state after `stopOpenBlocksAndAdvance`. -/
def advance (info : ClaudeConvertInfo) : ClaudeConvertInfo :=
  match info.lastMessagesType with
  | none => info
  | some .toolUse =>
    { info with index := info.toolCallBaseIndex + info.toolCallMaxIndexOffset + 1
                toolCallBaseIndex := 0, toolCallMaxIndexOffset := 0, lastMessagesType := none }
  | some _ => { info with index := info.index + 1, lastMessagesType := none }

/-- A text or reasoning fragment. It opens a block unless the last block is of its kind. The first
chunk of a message finds no such block and always opens one. -/
def addFragment (info : ClaudeConvertInfo) (kind : BlockKind) (delta : StreamDelta) :
    ClaudeConvertInfo × List ClaudeEvent :=
  if info.lastMessagesType = some kind then (info, [.blockDelta info.index delta])
  else ({ info.advance with lastMessagesType := some kind },
    info.stopOpenBlocks ++
      [.blockStart info.advance.index kind, .blockDelta info.advance.index delta])

/-- The reasoning of a choice, or else its text. -/
def addTexts (info : ClaudeConvertInfo) (choice : StreamChoice) :
    ClaudeConvertInfo × List ClaudeEvent :=
  if choice.reasoning ≠ "" then info.addFragment .thinking (.thinking choice.reasoning)
  else if choice.content ≠ "" then info.addFragment .text (.text choice.content)
  else (info, [])

/-- The end of the message. -/
def finish (info : ClaudeConvertInfo) (usage : Bool) : ClaudeConvertInfo × List ClaudeEvent :=
  ({ info with done := true },
    info.stopOpenBlocks ++ (if usage || info.usage then [.messageDelta] else []) ++ [.messageStop])

end ClaudeConvertInfo

/-- The events of one fragment of a tool call. -/
def toolCallEvents (block toolIndex : Nat) (call : ToolCallResponse) : List ClaudeEvent :=
  (if call.name ≠ "" then [.blockStart block .toolUse] else []) ++
    if call.arguments ≠ "" then [.blockDelta block (.inputJson toolIndex call.arguments)] else []

/-- The events of tool calls, of which the first is the `i`-th of the chunk. -/
def toolEvents (base : Nat) : List ToolCallResponse → Nat → List ClaudeEvent
  | [], _ => []
  | call :: rest, i =>
    toolCallEvents (base + call.index.getD i) (call.index.getD i) call ++
      toolEvents base rest (i + 1)

def maxOffset : List ToolCallResponse → Nat → Nat → Nat
  | [], _, offset => offset
  | call :: rest, i, offset => maxOffset rest (i + 1) (max offset (call.index.getD i))

/-- The tool calls of a chunk after the first one. -/
def ClaudeConvertInfo.addTools (info : ClaudeConvertInfo) (calls : List ToolCallResponse) :
    ClaudeConvertInfo × List ClaudeEvent :=
  let inTools := info.lastMessagesType = some .toolUse
  let base := if inTools then info.toolCallBaseIndex else info.advance.index
  let offset := maxOffset calls 0 (if inTools then info.toolCallMaxIndexOffset else 0)
  ({ info with index := base + offset, lastMessagesType := some .toolUse
               toolCallBaseIndex := base, toolCallMaxIndexOffset := offset },
    (if inTools then [] else info.stopOpenBlocks) ++ toolEvents base calls 0)

/-- The first tool call of the first chunk. -/
def ClaudeConvertInfo.addFirstTool (info : ClaudeConvertInfo) (calls : List ToolCallResponse) :
    ClaudeConvertInfo × List ClaudeEvent :=
  match calls with
  | [] => (info, [])
  | call :: _ =>
    ({ info with lastMessagesType := some .toolUse, toolCallBaseIndex := 0
                 toolCallMaxIndexOffset := 0 },
      .blockStart 0 .toolUse :: if call.arguments ≠ "" then
        [.blockDelta 0 (.inputJson (call.index.getD 0) call.arguments)] else [])

/-- `StreamResponseOpenAI2Claude`. `first` says that `SendResponseCount` is 1. -/
def streamResponseOpenAI2Claude (first : Bool) (info : ClaudeConvertInfo) (chunk : StreamChunk) :
    ClaudeConvertInfo × List ClaudeEvent :=
  if info.done then (info, [])
  else if first then
    match chunk.choices with
    | [] => (info, [.messageStart])
    | choice :: _ =>
      let (info, tools) := info.addFirstTool choice.toolCalls
      let (info, texts) := info.addTexts choice
      let (info, stops) := if choice.finishReason ≠ "" then info.finish chunk.usage else (info, [])
      (info, .messageStart :: tools ++ texts ++ stops)
  else
    match chunk.choices with
    | [] => if chunk.usage || info.usage then info.finish chunk.usage else (info, [])
    | choice :: _ =>
      if choice.finishReason ≠ "" ∧ chunk.usage = false then (info, [])
      else
        let (info, events) := if choice.toolCalls ≠ [] then info.addTools choice.toolCalls
          else info.addTexts choice
        let (info, stops) := if choice.finishReason ≠ "" then info.finish chunk.usage
          else (info, [])
        (info, events ++ stops)

/-- All events of the chunks after the first one. -/
def streamRest (info : ClaudeConvertInfo) : List StreamChunk → List ClaudeEvent
  | [] => []
  | chunk :: rest =>
    (streamResponseOpenAI2Claude false info chunk).2 ++
      streamRest (streamResponseOpenAI2Claude false info chunk).1 rest

/-- All events of a stream. -/
def stream (info : ClaudeConvertInfo) : List StreamChunk → List ClaudeEvent
  | [] => []
  | chunk :: rest =>
    (streamResponseOpenAI2Claude true info chunk).2 ++
      streamRest (streamResponseOpenAI2Claude true info chunk).1 rest

/-! ### Payloads -/

/-- The kinds of payload. -/
inductive Payload where
  | text | thinking
  | json (toolIndex : Nat)

def StreamDelta.payload (kind : Payload) (delta : StreamDelta) : List Char :=
  match kind, delta with
  | .text, .text value => value.toList
  | .thinking, .thinking value => value.toList
  | .json t, .inputJson toolIndex partialJson => if toolIndex = t then partialJson.toList else []
  | _, _ => []

def ClaudeEvent.payload (kind : Payload) : ClaudeEvent → List Char
  | .blockDelta _ delta => delta.payload kind
  | _ => []

/-- The payload of a kind that the events carry together. -/
def payload (kind : Payload) (events : List ClaudeEvent) : List Char :=
  events.flatMap (ClaudeEvent.payload kind)

/-- The argument fragments of one tool index. -/
def toolFragments (t : Nat) : List ToolCallResponse → Nat → List Char
  | [], _ => []
  | call :: rest, i =>
    (if call.index.getD i = t then call.arguments.toList else []) ++ toolFragments t rest (i + 1)

def StreamChoice.fragments (kind : Payload) (choice : StreamChoice) : List Char :=
  match kind with
  | .text => choice.content.toList
  | .thinking => choice.reasoning.toList
  | .json t => toolFragments t choice.toolCalls 0

/-- The fragments of a kind in all choices. -/
def fragments (kind : Payload) (chunks : List StreamChunk) : List Char :=
  chunks.flatMap fun chunk => chunk.choices.flatMap (StreamChoice.fragments kind)

section Payload

variable (kind : Payload) (info : ClaudeConvertInfo)

@[simp]
lemma payload_append (a b : List ClaudeEvent) :
    payload kind (a ++ b) = payload kind a ++ payload kind b := List.flatMap_append

@[simp]
lemma payload_cons (event : ClaudeEvent) (events : List ClaudeEvent) :
    payload kind (event :: events) = event.payload kind ++ payload kind events :=
  List.flatMap_cons

@[simp]
lemma payload_nil : payload kind [] = [] := rfl

@[simp]
lemma payload_stopOpenBlocks : payload kind info.stopOpenBlocks = [] := by
  refine List.flatMap_eq_nil_iff.mpr fun event hevent => ?_
  unfold ClaudeConvertInfo.stopOpenBlocks at hevent
  split at hevent
  · cases hevent
  · obtain ⟨offset, -, rfl⟩ := List.mem_map.mp hevent
    rfl
  · rw [List.mem_singleton.mp hevent]
    rfl

@[simp]
lemma payload_finish (usage : Bool) : payload kind (info.finish usage).2 = [] := by
  unfold ClaudeConvertInfo.finish
  split_ifs <;> simp [ClaudeEvent.payload]

lemma payload_addFragment (block : BlockKind) (delta : StreamDelta) :
    payload kind (info.addFragment block delta).2 = delta.payload kind := by
  unfold ClaudeConvertInfo.addFragment
  split_ifs <;> simp [ClaudeEvent.payload]

lemma payload_addTexts (choice : StreamChoice) : payload kind (info.addTexts choice).2 =
    match kind with
    | .text => if choice.reasoning = "" then choice.content.toList else []
    | .thinking => choice.reasoning.toList
    | .json _ => [] := by
  unfold ClaudeConvertInfo.addTexts
  by_cases hreasoning : choice.reasoning = ""
  · by_cases hcontent : choice.content = ""
    · cases kind <;> simp [hreasoning, hcontent]
    · cases kind <;> simp [hreasoning, hcontent, payload_addFragment, StreamDelta.payload]
  · cases kind <;> simp [hreasoning, payload_addFragment, StreamDelta.payload]

lemma payload_toolEvents (base : Nat) (calls : List ToolCallResponse) (i : Nat) :
    payload kind (toolEvents base calls i) =
      match kind with
      | .json t => toolFragments t calls i
      | _ => [] := by
  induction calls generalizing i with
  | nil => cases kind <;> rfl
  | cons call rest ih =>
    rw [toolEvents, payload_append, ih]
    unfold toolCallEvents
    by_cases hname : call.name = "" <;> by_cases harguments : call.arguments = "" <;>
      cases kind <;> simp [hname, harguments, ClaudeEvent.payload, StreamDelta.payload,
        toolFragments]

lemma payload_addTools (calls : List ToolCallResponse) :
    payload kind (info.addTools calls).2 =
      match kind with
      | .json t => toolFragments t calls 0
      | _ => [] := by
  unfold ClaudeConvertInfo.addTools
  simp only [payload_append, payload_toolEvents]
  split_ifs <;> simp

lemma payload_addFirstTool (calls : List ToolCallResponse) :
    payload kind (info.addFirstTool calls).2 =
      match kind with
      | .json t => toolFragments t (calls.take 1) 0
      | _ => [] := by
  unfold ClaudeConvertInfo.addFirstTool
  cases calls with
  | nil => cases kind <;> rfl
  | cons call rest =>
    by_cases harguments : call.arguments = "" <;>
      cases kind <;> simp [harguments, ClaudeEvent.payload, StreamDelta.payload, toolFragments]

end Payload

/-! ### One chunk -/

/-- The fragments of a kind that get into the stream. -/
def StreamChoice.kept (first usage : Bool) (kind : Payload) (choice : StreamChoice) : List Char :=
  if ¬first ∧ choice.finishReason ≠ "" ∧ usage = false then []
  else
    match kind with
    | .text => if (first ∨ choice.toolCalls = []) ∧ choice.reasoning = "" then choice.content.toList
      else []
    | .thinking => if first ∨ choice.toolCalls = [] then choice.reasoning.toList else []
    | .json t => toolFragments t (if first then choice.toolCalls.take 1 else choice.toolCalls) 0

/-- No fragment of the choice is dropped. -/
def StreamChoice.Complete (first usage : Bool) (choice : StreamChoice) : Prop :=
  if first then (choice.reasoning = "" ∨ choice.content = "") ∧
    ∀ call ∈ choice.toolCalls.tail, call.arguments = ""
  else if choice.finishReason ≠ "" ∧ usage = false then
    choice.content = "" ∧ choice.reasoning = "" ∧ ∀ call ∈ choice.toolCalls, call.arguments = ""
  else if choice.toolCalls = [] then choice.reasoning = "" ∨ choice.content = ""
  else choice.reasoning = "" ∧ choice.content = ""

section Chunk

variable {first usage : Bool} {kind : Payload} {info : ClaudeConvertInfo} {chunk : StreamChunk}
  {choice : StreamChoice}

lemma payload_chunk (hdone : info.done = false) (hchoice : chunk.choices = [choice]) :
    payload kind (streamResponseOpenAI2Claude first info chunk).2 =
      choice.kept first chunk.usage kind := by
  unfold streamResponseOpenAI2Claude StreamChoice.kept
  simp only [hdone, hchoice, Bool.false_eq_true, if_false]
  cases first with
  | true =>
    by_cases hfinish : choice.finishReason = "" <;> cases kind <;>
      simp [hfinish, payload_addFirstTool, payload_addTexts, ClaudeEvent.payload]
  | false =>
    by_cases hfinish : choice.finishReason = "" <;> by_cases hcalls : choice.toolCalls = [] <;>
      cases chunk.usage <;> cases kind <;>
      simp [hfinish, hcalls, payload_addTools, payload_addTexts, toolFragments]

lemma payload_usageOnly (hchoice : chunk.choices = []) :
    payload kind (streamResponseOpenAI2Claude first info chunk).2 = [] := by
  unfold streamResponseOpenAI2Claude
  simp only [hchoice]
  split_ifs <;> simp [ClaudeEvent.payload]

lemma done_chunk (hdone : info.done = false) (hchoice : chunk.choices = [choice])
    (hfinish : choice.finishReason = "") :
    (streamResponseOpenAI2Claude first info chunk).1.done = false := by
  have hadvance : ∀ info : ClaudeConvertInfo, info.advance.done = info.done := by
    intro info
    unfold ClaudeConvertInfo.advance
    split <;> rfl
  have htexts : ∀ info : ClaudeConvertInfo, (info.addTexts choice).1.done = info.done := by
    intro info
    unfold ClaudeConvertInfo.addTexts ClaudeConvertInfo.addFragment
    split_ifs <;> simp [hadvance]
  have hfirst : (info.addFirstTool choice.toolCalls).1.done = info.done := by
    unfold ClaudeConvertInfo.addFirstTool
    split <;> rfl
  unfold streamResponseOpenAI2Claude
  simp only [hdone, hchoice, hfinish, Bool.false_eq_true, if_false, ne_eq, not_true_eq_false,
    false_and]
  split_ifs
  · simp [htexts, hfirst, hdone]
  · simp [htexts, hdone]
  · exact hdone

/-! What is kept is a part of the fragments, and all of them if the choice is complete. -/

lemma toolFragments_take_sublist (t : Nat) (calls : List ToolCallResponse) :
    List.Sublist (toolFragments t (calls.take 1) 0) (toolFragments t calls 0) := by
  cases calls with
  | nil => exact List.Sublist.refl _
  | cons call rest => simp [toolFragments]

lemma kept_sublist : List.Sublist (choice.kept first usage kind) (choice.fragments kind) := by
  have hpart : ∀ (p : Prop) [Decidable p] (text : String),
      List.Sublist (if p then text.toList else []) text.toList := by
    intro p _ text
    split_ifs
    · exact List.Sublist.refl _
    · exact List.nil_sublist _
  unfold StreamChoice.kept
  by_cases hlast : ¬first ∧ choice.finishReason ≠ "" ∧ usage = false
  · rw [if_pos hlast]
    exact List.nil_sublist _
  · rw [if_neg hlast]
    cases kind with
    | text => exact hpart _ choice.content
    | thinking => exact hpart _ choice.reasoning
    | json t =>
      cases first with
      | true => exact toolFragments_take_sublist t choice.toolCalls
      | false => exact List.Sublist.refl _

lemma toolFragments_eq_nil_iff (calls : List ToolCallResponse) (i : Nat) :
    (∀ t, toolFragments t calls i = []) ↔ ∀ call ∈ calls, call.arguments = "" := by
  induction calls generalizing i with
  | nil => simp [toolFragments]
  | cons call rest ih =>
    rw [List.forall_mem_cons, ← ih (i + 1)]
    constructor
    · intro h
      refine ⟨?_, fun t => (List.append_eq_nil_iff.mp (h t)).2⟩
      have hcall := (List.append_eq_nil_iff.mp (h (call.index.getD i))).1
      rw [if_pos rfl] at hcall
      exact String.toList_eq_nil_iff.mp hcall
    · rintro ⟨hcall, hrest⟩ t
      rw [toolFragments, hrest t, hcall]
      simp

lemma toolFragments_take_iff (calls : List ToolCallResponse) :
    (∀ t, toolFragments t (calls.take 1) 0 = toolFragments t calls 0) ↔
      ∀ call ∈ calls.tail, call.arguments = "" := by
  cases calls with
  | nil => simp
  | cons call rest =>
    rw [List.tail_cons, ← toolFragments_eq_nil_iff rest 1]
    refine forall_congr' fun t => ?_
    simp only [List.take_succ_cons, List.take_zero, toolFragments, List.append_nil]
    exact List.self_eq_append_right

lemma kept_eq_iff (first usage : Bool) (choice : StreamChoice) :
    (∀ kind, choice.kept first usage kind = choice.fragments kind) ↔
      choice.Complete first usage := by
  have hkinds : (∀ kind, choice.kept first usage kind = choice.fragments kind) ↔
      choice.kept first usage .text = choice.content.toList ∧
      choice.kept first usage .thinking = choice.reasoning.toList ∧
      ∀ t, choice.kept first usage (.json t) = toolFragments t choice.toolCalls 0 := by
    refine ⟨fun h => ⟨h .text, h .thinking, fun t => h (.json t)⟩, fun h kind => ?_⟩
    cases kind with
    | text => exact h.1
    | thinking => exact h.2.1
    | json t => exact h.2.2 t
  have hempty : ∀ text : String, [] = text.toList ↔ text = "" := fun text => by
    rw [eq_comm, String.toList_eq_nil_iff]
  rw [hkinds]
  unfold StreamChoice.kept StreamChoice.Complete
  cases first with
  | true =>
    simp only [not_true_eq_false, false_and, if_false, true_or, true_and, if_true,
      toolFragments_take_iff]
    refine and_congr_left fun _ => ?_
    split_ifs with hreasoning
    · simp [hreasoning]
    · simp [hreasoning, hempty]
  | false =>
    simp only [Bool.false_eq_true, not_false_eq_true, true_and, if_false, false_or]
    by_cases hlast : choice.finishReason ≠ "" ∧ usage = false
    · simp only [if_pos hlast, hempty, ← toolFragments_eq_nil_iff choice.toolCalls 0]
      exact and_congr_right fun _ => and_congr_right fun _ => forall_congr' fun t => eq_comm
    · by_cases hcalls : choice.toolCalls = []
      · by_cases hreasoning : choice.reasoning = ""
        · simp [hlast, hcalls, hreasoning]
        · simp [hlast, hcalls, hreasoning, hempty]
      · simp [hlast, hcalls, hempty, and_comm]

end Chunk

/-! ### A whole stream -/

/-- Chunks with one choice each, of which only the last has a finish reason, and then one with only
the usage. -/
structure OneMessage (body : List StreamChunk) (last usageOnly : StreamChunk) : Prop where
  body : ∀ chunk ∈ body, ∃ choice, chunk.choices = [choice] ∧ choice.finishReason = ""
  last : ∃ choice, last.choices = [choice] ∧ choice.finishReason ≠ ""
  usageOnly : usageOnly.choices = [] ∧ usageOnly.usage = true

/-- The chunks, with a mark at the first one. -/
def markFirst : List StreamChunk → List (Bool × StreamChunk)
  | [] => []
  | chunk :: rest => (true, chunk) :: rest.map (false, ·)

/-- What the choices of a marked chunk keep. -/
def keptOf (kind : Payload) (marked : Bool × StreamChunk) : List Char :=
  marked.2.choices.flatMap (StreamChoice.kept marked.1 marked.2.usage kind)

/-- No fragment of the chunk is dropped. -/
def StreamChunk.Complete (first : Bool) (chunk : StreamChunk) : Prop :=
  ∀ choice ∈ chunk.choices, choice.Complete first chunk.usage

section Stream

variable {body : List StreamChunk} {last usageOnly : StreamChunk} {info : ClaudeConvertInfo}

section

variable (kind : Payload) (h : OneMessage body last usageOnly)

include h

lemma payload_streamRest (hdone : info.done = false) :
    payload kind (streamRest info (body ++ [last, usageOnly])) =
      ((body ++ [last]).map (false, ·)).flatMap (keptOf kind) := by
  obtain ⟨hbody, ⟨choice, hchoice, hfinish⟩, husage⟩ := h
  induction body generalizing info with
  | nil =>
    simp [streamRest, payload_chunk hdone hchoice, payload_usageOnly husage.1, keptOf, hchoice]
  | cons chunk rest ih =>
    obtain ⟨⟨chunkChoice, hchunk, hgoes⟩, hrest⟩ := List.forall_mem_cons.mp hbody
    rw [List.cons_append, streamRest, payload_append, payload_chunk hdone hchunk,
      ih (done_chunk hdone hchunk hgoes) hrest]
    simp [keptOf, hchunk]

lemma payload_stream (hdone : info.done = false) :
    payload kind (stream info (body ++ [last, usageOnly])) =
      (markFirst (body ++ [last])).flatMap (keptOf kind) := by
  cases body with
  | nil =>
    obtain ⟨-, ⟨choice, hchoice, hfinish⟩, husage⟩ := h
    simp [stream, streamRest, markFirst, payload_chunk hdone hchoice, payload_usageOnly husage.1,
      keptOf, hchoice]
  | cons chunk rest =>
    obtain ⟨⟨choice, hchunk, hgoes⟩, hrest⟩ := List.forall_mem_cons.mp h.body
    rw [List.cons_append, stream, payload_append, payload_chunk hdone hchunk,
      payload_streamRest kind ⟨hrest, h.last, h.usageOnly⟩ (done_chunk hdone hchunk hgoes)]
    simp [markFirst, keptOf, hchunk]

lemma fragments_eq :
    fragments kind (body ++ [last, usageOnly]) =
      (markFirst (body ++ [last])).flatMap fun marked =>
        marked.2.choices.flatMap (StreamChoice.fragments kind) := by
  have hmark : ∀ chunks : List StreamChunk, (markFirst chunks).map Prod.snd = chunks := by
    intro chunks
    cases chunks with
    | nil => rfl
    | cons chunk rest => simp [markFirst, Function.comp_def]
  have husage : fragments kind [usageOnly] = [] := by simp [fragments, h.usageOnly.1]
  have hsplit : body ++ [last, usageOnly] = (body ++ [last]) ++ [usageOnly] := by simp
  rw [hsplit, fragments, List.flatMap_append]
  change fragments kind (body ++ [last]) ++ fragments kind [usageOnly] = _
  rw [husage, List.append_nil]
  exact (congrArg (fragments kind) (hmark (body ++ [last]))).symm.trans (List.flatMap_map ..)

end

/-- Parts of lists make up the whole only if each of them is everything. -/
lemma flatMap_eq_iff {α β : Type} {f g : α → List β} {l : List α}
    (h : ∀ a ∈ l, List.Sublist (f a) (g a)) : l.flatMap f = l.flatMap g ↔ ∀ a ∈ l, f a = g a := by
  refine ⟨fun heq => ?_, fun hall => by rw [List.flatMap_def, List.flatMap_def,
    List.map_congr_left hall]⟩
  induction l with
  | nil => simp
  | cons a rest ih =>
    obtain ⟨ha, hrest⟩ := List.forall_mem_cons.mp h
    have hsub : List.Sublist (rest.flatMap f) (rest.flatMap g) := by
      clear ih heq h
      induction rest with
      | nil => exact List.Sublist.refl _
      | cons b rest ih =>
        obtain ⟨hb, hrest⟩ := List.forall_mem_cons.mp hrest
        exact hb.append (ih hrest)
    rw [List.flatMap_cons, List.flatMap_cons] at heq
    have hlength := congrArg List.length heq
    rw [List.length_append, List.length_append] at hlength
    have hfirst : f a = g a := ha.eq_of_length (by
      have := ha.length_le
      have := hsub.length_le
      omega)
    rw [hfirst] at heq
    exact List.forall_mem_cons.mpr ⟨hfirst, ih hrest (List.append_cancel_left heq)⟩

/-- The payloads are all fragments exactly when every chunk is complete. -/
theorem stream_loses_nothing_iff (h : OneMessage body last usageOnly) (hdone : info.done = false) :
    (∀ kind, payload kind (stream info (body ++ [last, usageOnly])) =
      fragments kind (body ++ [last, usageOnly])) ↔
    ∀ marked ∈ markFirst (body ++ [last]), marked.2.Complete marked.1 := by
  have hsub : ∀ (kind : Payload), ∀ marked ∈ markFirst (body ++ [last]),
      List.Sublist (keptOf kind marked)
        (marked.2.choices.flatMap (StreamChoice.fragments kind)) := by
    intro kind marked _
    unfold keptOf
    induction marked.2.choices with
    | nil => exact List.Sublist.refl _
    | cons choice rest ih => exact kept_sublist.append ih
  have hchunk : ∀ marked ∈ markFirst (body ++ [last]), (∀ kind, keptOf kind marked =
      marked.2.choices.flatMap (StreamChoice.fragments kind)) ↔
      marked.2.Complete marked.1 := by
    intro marked _
    simp only [keptOf, StreamChunk.Complete, flatMap_eq_iff fun _ _ => kept_sublist, ← kept_eq_iff]
    exact ⟨fun h choice hc kind => h kind choice hc, fun h kind choice hc => h choice hc kind⟩
  simp only [payload_stream _ h hdone, fragments_eq _ h]
  constructor
  · intro hall marked hmarked
    exact (hchunk marked hmarked).mp fun kind =>
      (flatMap_eq_iff (hsub kind)).mp (hall kind) marked hmarked
  · intro hall kind
    exact (flatMap_eq_iff (hsub kind)).mpr fun marked hmarked =>
      (hchunk marked hmarked).mpr (hall marked hmarked) kind

end Stream

/-- A stream of one text, with a last chunk that only says that it is over. -/
theorem plain_stream_complete :
    payload .text (stream {} ([⟨[{ content := "Hi" }], false⟩] ++
        [⟨[{ finishReason := "stop" }], false⟩, ⟨[], true⟩])) =
      fragments .text ([⟨[{ content := "Hi" }], false⟩] ++
        [⟨[{ finishReason := "stop" }], false⟩, ⟨[], true⟩]) := by
  refine (stream_loses_nothing_iff ⟨?_, ⟨_, rfl, by decide⟩, rfl, rfl⟩ rfl).mpr ?_ .text
  · simp
  · simp [markFirst, StreamChunk.Complete, StreamChoice.Complete]

/-- A last chunk with text and without the usage. -/
def cutOffStream : List StreamChunk :=
  [⟨[{ content := "Hel" }], false⟩, ⟨[{ content := "lo", finishReason := "stop" }], false⟩,
    ⟨[], true⟩]

/-- Its text is lost. -/
theorem last_text_lost :
    payload .text (stream {} cutOffStream) = "Hel".toList ∧
      fragments .text cutOffStream = "Hello".toList := by
  decide

end Yunbay
