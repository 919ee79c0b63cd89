import Mathlib.Data.List.Basic
import Mathlib.Tactic.SplitIfs

/-!
# Requests of Claude clients

`ClaudeToOpenAIRequest` turns the messages of a Claude request into OpenAI messages. A message of a
Claude request is a list of blocks. Its tool results become messages of their own, and what is left
becomes one message, with the tool calls or else with the texts and the images.

`conversation_kept_iff`: nothing is lost exactly when no message has both a tool call and a text.
-/

namespace Yunbay

/-! ### OpenAI messages -/

/-- A call of a tool. -/
structure ToolCallRequest where
  id : String
  name : String
  /-- The arguments as a JSON text. -/
  arguments : String
  deriving DecidableEq

inductive MediaContent where
  | text (text : String)
  | imageUrl (url : String)
  deriving DecidableEq

inductive MessageContent where
  | null
  | text (text : String)
  | media (items : List MediaContent)
  deriving DecidableEq

/-- A message of a request. -/
structure Message where
  role : String
  content : MessageContent := .null
  name : Option String := none
  toolCalls : List ToolCallRequest := []
  toolCallId : String := ""
  deriving DecidableEq

def Message.parseContent (message : Message) : List MediaContent :=
  match message.content with
  | .null => []
  | .text text => [.text text]
  | .media items => items

/-- A message is added only if it has content or tool calls. -/
def appendMessage (messages : List Message) (message : Message) : List Message :=
  if 0 < message.parseContent.length ∨ 0 < message.toolCalls.length then messages ++ [message]
  else messages

def MediaContent.text? : MediaContent → Option String
  | .text value => some value
  | .imageUrl _ => none

/-! ### Claude messages -/

/-- A block of a message. -/
inductive ClaudeBlock where
  /-- A block of the type `text` or `input_text`. -/
  | text (text : String)
  | image (mediaType data : String)
  /-- The input is its JSON text, as `toJSONString` gives it. -/
  | toolUse (id name input : String)
  /-- The content is a text, or the JSON text of its parts. -/
  | toolResult (toolUseId name content : String)
  | other

inductive ClaudeContent where
  | text (text : String)
  | blocks (blocks : List ClaudeBlock)

/-- A message for Claude. -/
structure ClaudeMessage where
  role : String
  content : ClaudeContent

inductive ClaudeSystem where
  | text (text : String)
  | blocks (texts : List String)

structure ClaudeRequest where
  system : Option ClaudeSystem := none
  messages : List ClaudeMessage

namespace ClaudeBlock

def id : ClaudeBlock → String
  | toolUse id _ _ => id
  | _ => ""

def name : ClaudeBlock → String
  | toolUse _ name _ => name
  | toolResult _ name _ => name
  | _ => ""

def text? : ClaudeBlock → Option String
  | .text value => some value
  | _ => none

def toolUse? : ClaudeBlock → Option ToolCallRequest
  | toolUse id name input => some ⟨id, name, input⟩
  | _ => none

def toolResult? : ClaudeBlock → Option String
  | toolResult toolUseId _ _ => some toolUseId
  | _ => none

end ClaudeBlock

namespace ClaudeMessage

def blocks (message : ClaudeMessage) : List ClaudeBlock :=
  match message.content with
  | .text _ => []
  | .blocks blocks => blocks

def texts (message : ClaudeMessage) : List String :=
  match message.content with
  | .text text => [text]
  | .blocks blocks => blocks.filterMap ClaudeBlock.text?

end ClaudeMessage

/-! ### The conversion -/

def ClaudeRequest.searchToolNameByToolCallId (request : ClaudeRequest) (toolCallId : String) :
    String :=
  (((request.messages.flatMap ClaudeMessage.blocks).find? (·.id = toolCallId)).map
    ClaudeBlock.name).getD ""

/-- The variables of the loop over the blocks of one message. -/
structure BlockState where
  toolCalls : List ToolCallRequest := []
  mediaMessages : List MediaContent := []
  openAIMessages : List Message

def BlockState.add (searchToolName : String → String) (s : BlockState) : ClaudeBlock → BlockState
  | .text text => { s with mediaMessages := s.mediaMessages ++ [.text text] }
  | .image mediaType data =>
    { s with mediaMessages := s.mediaMessages ++
        [.imageUrl ("data:" ++ mediaType ++ ";base64," ++ data)] }
  | .toolUse id name input => { s with toolCalls := s.toolCalls ++ [⟨id, name, input⟩] }
  | .toolResult toolUseId name content =>
    { s with openAIMessages := s.openAIMessages ++
        [{ role := "tool", content := .text content, toolCallId := toolUseId
           name := some (if name = "" then searchToolName toolUseId else name) }] }
  | .other => s

/-- The body of the loop over the messages. -/
def convertClaudeMessage (searchToolName : String → String) (openAIMessages : List Message)
    (message : ClaudeMessage) : List Message :=
  match message.content with
  | .text text => appendMessage openAIMessages { role := message.role, content := .text text }
  | .blocks blocks =>
    let s := blocks.foldl (BlockState.add searchToolName) { openAIMessages := openAIMessages }
    appendMessage s.openAIMessages
      { role := message.role, toolCalls := s.toolCalls
        content := if 0 < s.mediaMessages.length ∧ s.toolCalls.length = 0 then
          .media s.mediaMessages else .null }

def claudeSystemMessages (system : Option ClaudeSystem) (isOpenRouterClaude : Bool) :
    List Message :=
  match system with
  | none => []
  | some (.text text) => if text = "" then [] else [{ role := "system", content := .text text }]
  | some (.blocks texts) =>
    if texts = [] then []
    else if isOpenRouterClaude then [{ role := "system", content := .media (texts.map .text) }]
    else [{ role := "system", content := .text (String.join texts) }]

/-- The messages of `ClaudeToOpenAIRequest`. -/
def claudeToOpenAIRequest (request : ClaudeRequest) (isOpenRouterClaude : Bool) : List Message :=
  request.messages.foldl (convertClaudeMessage request.searchToolNameByToolCallId)
    (claudeSystemMessages request.system isOpenRouterClaude)

/-! ### What is kept -/

/-- The texts of a message that are not empty. -/
def Message.texts (message : Message) : List String :=
  (message.parseContent.filterMap MediaContent.text?).filter (· ≠ "")

/-- The messages have all that the Claude message has, each part once and in order. A tool result is
told from the other messages by its name. -/
structure MessageKept (message : ClaudeMessage) (converted : List Message) : Prop where
  texts : (converted.filter (·.name.isNone)).flatMap Message.texts = message.texts.filter (· ≠ "")
  roles : ∀ entry ∈ converted, entry.name.isNone → entry.role = message.role
  toolUses : converted.flatMap (·.toolCalls) = message.blocks.filterMap ClaudeBlock.toolUse?
  toolResults : (converted.filter (·.name.isSome)).map (fun answer => (answer.role,
    answer.toolCallId)) = (message.blocks.filterMap ClaudeBlock.toolResult?).map ("tool", ·)

/-- The messages are those of the Claude messages, one after the other, and keep each of them. -/
structure ConversationKept (request : ClaudeRequest) (isOpenRouterClaude : Bool)
    (converted : List Message) : Prop where
  inOrder : converted = claudeSystemMessages request.system isOpenRouterClaude ++
    request.messages.flatMap (convertClaudeMessage request.searchToolNameByToolCallId [])
  kept : ∀ message ∈ request.messages,
    MessageKept message (convertClaudeMessage request.searchToolNameByToolCallId [] message)

/-- The message has a tool call, and a text that is not empty. -/
def ClaudeMessage.Mixed (message : ClaudeMessage) : Prop :=
  message.blocks.filterMap ClaudeBlock.toolUse? ≠ [] ∧ ∃ text ∈ message.texts, text ≠ ""

section Conversion

variable (search : String → String)

/-- The tool results of a list of blocks, as messages. -/
def toolResultMessage? : ClaudeBlock → Option Message
  | .toolResult toolUseId name content =>
    some { role := "tool", content := .text content, toolCallId := toolUseId
           name := some (if name = "" then search toolUseId else name) }
  | _ => none

/-- The texts and images of a list of blocks. -/
def mediaContent? : ClaudeBlock → Option MediaContent
  | .text text => some (.text text)
  | .image mediaType data => some (.imageUrl ("data:" ++ mediaType ++ ";base64," ++ data))
  | _ => none

lemma foldl_add (blocks : List ClaudeBlock) (s : BlockState) :
    blocks.foldl (BlockState.add search) s =
      ⟨s.toolCalls ++ blocks.filterMap ClaudeBlock.toolUse?,
        s.mediaMessages ++ blocks.filterMap mediaContent?,
        s.openAIMessages ++ blocks.filterMap (toolResultMessage? search)⟩ := by
  induction blocks generalizing s with
  | nil => simp
  | cons block rest ih =>
    rw [List.foldl_cons, ih]
    cases block <;> simp [BlockState.add, ClaudeBlock.toolUse?, mediaContent?, toolResultMessage?,
      List.filterMap_cons]

lemma appendMessage_eq (messages : List Message) (message : Message) :
    appendMessage messages message = messages ++ appendMessage [] message := by
  unfold appendMessage
  split_ifs <;> simp

lemma convertClaudeMessage_eq (messages : List Message) (message : ClaudeMessage) :
    convertClaudeMessage search messages message =
      messages ++ convertClaudeMessage search [] message := by
  unfold convertClaudeMessage
  cases message.content with
  | text text => exact appendMessage_eq _ _
  | blocks blocks =>
    simp only [foldl_add, List.nil_append]
    rw [appendMessage_eq, appendMessage_eq (blocks.filterMap _), List.append_assoc]

lemma foldl_convertClaudeMessage (messages : List ClaudeMessage) (start : List Message) :
    messages.foldl (convertClaudeMessage search) start =
      start ++ messages.flatMap (convertClaudeMessage search []) := by
  induction messages generalizing start with
  | nil => simp
  | cons message rest ih =>
    rw [List.foldl_cons, ih, convertClaudeMessage_eq, List.append_assoc, List.flatMap_cons]

/-! What the tool results of a message add. -/

/-- A tool result is a message with a name and without tool calls. -/
lemma of_mem_toolResults {blocks : List ClaudeBlock} {answer : Message}
    (h : answer ∈ blocks.filterMap (toolResultMessage? search)) :
    answer.name.isSome = true ∧ answer.toolCalls = [] := by
  obtain ⟨block, -, hblock⟩ := List.mem_filterMap.mp h
  cases block <;> cases hblock
  exact ⟨rfl, rfl⟩

section

variable (blocks : List ClaudeBlock)

lemma filter_toolResults :
    (blocks.filterMap (toolResultMessage? search)).filter (·.name.isNone) = [] := by
  refine List.filter_eq_nil_iff.mpr fun answer hanswer => ?_
  rw [Option.isNone_iff_eq_none, ← ne_eq, ← Option.isSome_iff_ne_none]
  exact (of_mem_toolResults search hanswer).1

lemma filter_toolResults_isSome :
    (blocks.filterMap (toolResultMessage? search)).filter (·.name.isSome) =
      blocks.filterMap (toolResultMessage? search) :=
  List.filter_eq_self.mpr fun _ hanswer => (of_mem_toolResults search hanswer).1

lemma flatMap_toolCalls_toolResults :
    (blocks.filterMap (toolResultMessage? search)).flatMap (·.toolCalls) = [] :=
  List.flatMap_eq_nil_iff.mpr fun _ hanswer => (of_mem_toolResults search hanswer).2

lemma map_toolResults :
    (blocks.filterMap (toolResultMessage? search)).map
        (fun answer => (answer.role, answer.toolCallId)) =
      (blocks.filterMap ClaudeBlock.toolResult?).map ("tool", ·) := by
  induction blocks with
  | nil => rfl
  | cons block rest ih =>
    rw [List.filterMap_cons, List.filterMap_cons]
    cases block <;> simp [toolResultMessage?, ClaudeBlock.toolResult?, ih]

lemma filterMap_mediaContent :
    (blocks.filterMap mediaContent?).filterMap MediaContent.text? =
      blocks.filterMap ClaudeBlock.text? := by
  induction blocks with
  | nil => rfl
  | cons block rest ih =>
    rw [List.filterMap_cons, List.filterMap_cons]
    cases block <;> simp [mediaContent?, MediaContent.text?, ClaudeBlock.text?, ih,
      List.filterMap_cons]

end

/-- The message that is made of the rest of the blocks. -/
def entry (role : String) (blocks : List ClaudeBlock) : Message where
  role := role
  toolCalls := blocks.filterMap ClaudeBlock.toolUse?
  content := if 0 < (blocks.filterMap mediaContent?).length ∧
      (blocks.filterMap ClaudeBlock.toolUse?).length = 0 then
    .media (blocks.filterMap mediaContent?) else .null

/-- Leaving out an empty message loses nothing. -/
lemma flatMap_appendMessage {β : Type} (f : Message → List β) (message : Message)
    (h : message.parseContent = [] → message.toolCalls = [] → f message = []) :
    (appendMessage [] message).flatMap f = f message := by
  unfold appendMessage
  split_ifs with hadd
  · simp
  · obtain ⟨hcontent, hcalls⟩ := not_or.mp hadd
    rw [List.flatMap_nil, h (List.length_eq_zero_iff.mp (by omega))
      (List.length_eq_zero_iff.mp (by omega))]

lemma convertClaudeMessage_blocks (role : String) (blocks : List ClaudeBlock) :
    convertClaudeMessage search [] ⟨role, .blocks blocks⟩ =
      blocks.filterMap (toolResultMessage? search) ++ appendMessage [] (entry role blocks) := by
  unfold convertClaudeMessage
  simp only [foldl_add, List.nil_append]
  exact appendMessage_eq _ _

lemma mem_appendMessage {message other : Message} (h : other ∈ appendMessage [] message) :
    other = message := by
  unfold appendMessage at h
  split_ifs at h
  · simpa using h
  · cases h

lemma texts_entry (role : String) (blocks : List ClaudeBlock) :
    (entry role blocks).texts = if blocks.filterMap ClaudeBlock.toolUse? = [] then
      (blocks.filterMap ClaudeBlock.text?).filter (· ≠ "") else [] := by
  by_cases hcalls : blocks.filterMap ClaudeBlock.toolUse? = []
  · rw [if_pos hcalls, ← filterMap_mediaContent]
    by_cases hmedia : 0 < (blocks.filterMap mediaContent?).length
    · simp [Message.texts, Message.parseContent, entry, hcalls, hmedia]
    · have hnil : blocks.filterMap mediaContent? = [] := List.length_eq_zero_iff.mp (by omega)
      simp [Message.texts, Message.parseContent, entry, hnil]
  · simp [Message.texts, Message.parseContent, entry, hcalls]

lemma messageKept_iff (message : ClaudeMessage) :
    MessageKept message (convertClaudeMessage search [] message) ↔ ¬message.Mixed := by
  obtain ⟨role, content⟩ := message
  cases content with
  | text text =>
    refine iff_of_true ?_ fun h => h.1 rfl
    constructor <;> simp [convertClaudeMessage, appendMessage, Message.parseContent, Message.texts,
      MediaContent.text?, ClaudeMessage.texts, ClaudeMessage.blocks]
  | blocks blocks =>
    rw [convertClaudeMessage_blocks]
    have hname : ∀ other ∈ appendMessage [] (entry role blocks), other.name = none := by
      intro other hother
      rw [mem_appendMessage hother]
      rfl
    have hnone : (appendMessage [] (entry role blocks)).filter (·.name.isNone) =
        appendMessage [] (entry role blocks) :=
      List.filter_eq_self.mpr fun other hother => by rw [hname other hother]; rfl
    have hsome : (appendMessage [] (entry role blocks)).filter (·.name.isSome) = [] :=
      List.filter_eq_nil_iff.mpr fun other hother => by rw [hname other hother]; simp
    have htexts : ((blocks.filterMap (toolResultMessage? search) ++
        appendMessage [] (entry role blocks)).filter (·.name.isNone)).flatMap Message.texts =
        (entry role blocks).texts := by
      rw [List.filter_append, filter_toolResults, List.nil_append, hnone]
      refine flatMap_appendMessage Message.texts _ fun hcontent _ => ?_
      rw [Message.texts, hcontent]
      rfl
    constructor
    · rintro ⟨hkept, -, -, -⟩ ⟨hcalls, text, htext, hne⟩
      change blocks.filterMap ClaudeBlock.toolUse? ≠ [] at hcalls
      rw [htexts, texts_entry, if_neg hcalls] at hkept
      exact List.filter_eq_nil_iff.mp hkept.symm text htext (decide_eq_true hne)
    · intro hmixed
      refine ⟨?_, ?_, ?_, ?_⟩
      · rw [htexts, texts_entry]
        split_ifs with hcalls
        · rfl
        · refine (List.filter_eq_nil_iff.mpr fun text htext hne => ?_).symm
          exact hmixed ⟨hcalls, text, htext, of_decide_eq_true hne⟩
      · intro other hother hothername
        rcases List.mem_append.mp hother with hother | hother
        · have hnot := List.filter_eq_nil_iff.mp (filter_toolResults search blocks) other hother
          exact absurd hothername hnot
        · rw [mem_appendMessage hother]
          rfl
      · rw [List.flatMap_append, flatMap_toolCalls_toolResults, List.nil_append]
        exact flatMap_appendMessage (·.toolCalls) _ fun _ hcalls => hcalls
      · rw [List.filter_append, filter_toolResults_isSome, hsome, List.append_nil]
        exact map_toolResults search blocks

end Conversion

/-- The conversation is kept exactly when no message has both a tool call and a text. -/
theorem conversation_kept_iff (request : ClaudeRequest) (isOpenRouterClaude : Bool) :
    ConversationKept request isOpenRouterClaude
        (claudeToOpenAIRequest request isOpenRouterClaude) ↔
      ∀ message ∈ request.messages, ¬message.Mixed := by
  constructor
  · rintro ⟨-, hkept⟩ message hmessage
    exact (messageKept_iff _ message).mp (hkept message hmessage)
  · intro hmixed
    refine ⟨foldl_convertClaudeMessage _ _ _, fun message hmessage => ?_⟩
    exact (messageKept_iff _ message).mpr (hmixed message hmessage)

/-- The assistant says something and calls a tool. -/
def mixedRequest : ClaudeRequest where
  messages := [⟨"assistant", .blocks [.text "Let me look.", .toolUse "t1" "search" "\x7b\x7d"]⟩]

/-- What it says is lost. -/
theorem text_next_to_tool_call_lost :
    claudeToOpenAIRequest mixedRequest false =
        [{ role := "assistant", toolCalls := [⟨"t1", "search", "\x7b\x7d"⟩] }] ∧
      ¬ConversationKept mixedRequest false (claudeToOpenAIRequest mixedRequest false) := by
  refine ⟨by decide, ?_⟩
  rintro ⟨-, hkept⟩
  exact (messageKept_iff _ _).mp (hkept _ List.mem_cons_self)
    ⟨by decide, "Let me look.", by decide, by decide⟩

end Yunbay
