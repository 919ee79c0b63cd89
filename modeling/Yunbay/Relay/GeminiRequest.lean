import Mathlib.Data.List.Nodup
import Yunbay.Relay.ClaudeRequest

/-!
# Requests of Gemini clients

`GeminiToOpenAIRequest` turns the contents of a Gemini request into OpenAI messages. Gemini function
calls have no ids, so the ids are made up: the calls of one content are numbered from 1, and a
function response gets the number of calls before it in its own content. A response comes in another
content than its call, where the numbers start again, so it is never paired with it.
-/

namespace Yunbay

/-- A part is one of these. The code asks for them in this order. -/
inductive GeminiPart where
  | text (text : String)
  | inlineData (mimeType data : String)
  | fileData (mimeType fileUri : String)
  | functionCall (name arguments : String)
  | functionResponse (response : String)

structure GeminiContent where
  role : String
  parts : List GeminiPart

/-- `fmt.Sprintf("call_%d", n)` -/
def callId (n : Nat) : String := "call_" ++ String.ofList (Nat.toDigits 10 n)

def convertGeminiRoleToOpenAI (geminiRole : String) : String :=
  if geminiRole = "user" then "user"
  else if geminiRole = "model" then "assistant"
  else if geminiRole = "function" then "function"
  else "user"

/-- The variables of the loop over the parts of one content. -/
structure PartState where
  mediaContents : List MediaContent := []
  toolCalls : List ToolCallRequest := []
  messages : List Message

def PartState.add (s : PartState) : GeminiPart → PartState
  | .text text =>
    if text = "" then s else { s with mediaContents := s.mediaContents ++ [.text text] }
  | .inlineData mimeType data =>
    { s with mediaContents := s.mediaContents ++
        [.imageUrl ("data:" ++ mimeType ++ ";base64," ++ data)] }
  | .fileData _ fileUri => { s with mediaContents := s.mediaContents ++ [.imageUrl fileUri] }
  | .functionCall name arguments =>
    { s with toolCalls := s.toolCalls ++ [⟨callId (s.toolCalls.length + 1), name, arguments⟩] }
  | .functionResponse response =>
    { s with messages := s.messages ++ [{ role := "tool", content := .text response
                                          toolCallId := callId s.toolCalls.length }] }

/-- The body of the loop over the contents. -/
def convertGeminiContent (messages : List Message) (content : GeminiContent) : List Message :=
  let s := content.parts.foldl PartState.add { messages := messages }
  appendMessage s.messages
    { role := convertGeminiRoleToOpenAI content.role
      toolCalls := s.toolCalls
      content := if 0 < s.toolCalls.length then .null
        else match s.mediaContents with
          | [] => .null
          | [.text text] => .text text
          | items => .media items }

/-- The messages of `GeminiToOpenAIRequest`. -/
def geminiToOpenAIRequest (contents : List GeminiContent) : List Message :=
  contents.foldl convertGeminiContent []

/-! ### Calls and answers -/

def Message.IsAnswer (message : Message) : Prop := message.role = "tool"

instance (message : Message) : Decidable message.IsAnswer :=
  inferInstanceAs (Decidable (_ = _))

/-- All tool calls of a conversation. -/
def allCalls (messages : List Message) : List ToolCallRequest := messages.flatMap (·.toolCalls)

/-- No two calls have one id, and the `k`-th answer has the id of the `k`-th call, which is one of
the messages before it. -/
structure CallsPaired (messages : List Message) : Prop where
  nodup : ((allCalls messages).map (·.id)).Nodup
  answered : ∀ before answer after, messages = before ++ answer :: after → answer.IsAnswer →
    ∃ call, (allCalls before)[before.countP (·.IsAnswer)]? = some call ∧
      call.id = answer.toolCallId

def GeminiPart.isCall : GeminiPart → Bool
  | .functionCall _ _ => true
  | _ => false

def GeminiPart.isResponse : GeminiPart → Bool
  | .functionResponse _ => true
  | _ => false

def GeminiContent.HasCall (content : GeminiContent) : Prop :=
  ∃ part ∈ content.parts, part.isCall = true

instance (content : GeminiContent) : Decidable content.HasCall :=
  inferInstanceAs (Decidable (∃ part ∈ content.parts, _))

/-! ### One content -/

/-- What the loop over the parts does to its variables, apart from the media. -/
structure Collected (s s' : PartState) (parts : List GeminiPart) (calls : List ToolCallRequest)
    (answers : List Message) : Prop where
  calls_eq : s'.toolCalls = s.toolCalls ++ calls
  messages_eq : s'.messages = s.messages ++ answers
  ids : calls.map (·.id) = (List.range' (s.toolCalls.length + 1) calls.length).map callId
  isCall : calls = [] ↔ ∀ part ∈ parts, part.isCall = false
  isAnswer : ∀ answer ∈ answers, answer.IsAnswer ∧ answer.toolCalls = [] ∧
    ∃ n, n ≤ s.toolCalls.length + calls.length ∧ answer.toolCallId = callId n
  isResponse : answers = [] ↔ ∀ part ∈ parts, part.isResponse = false

lemma foldl_collected (parts : List GeminiPart) (s : PartState) :
    ∃ calls answers, Collected s (parts.foldl PartState.add s) parts calls answers := by
  induction parts generalizing s with
  | nil => exact ⟨[], [], by constructor <;> simp⟩
  | cons part rest ih =>
    obtain ⟨calls, answers, h⟩ := ih (s.add part)
    have hother : (s.add part).toolCalls = s.toolCalls → (s.add part).messages = s.messages →
        part.isCall = false → part.isResponse = false →
        Collected s ((part :: rest).foldl PartState.add s) (part :: rest) calls answers := by
      intro hcalls hmessages hcall hresponse
      obtain ⟨h₁, h₂, h₃, h₄, h₅, h₆⟩ := h
      rw [hcalls] at h₁ h₃ h₅
      rw [hmessages] at h₂
      exact ⟨h₁, h₂, h₃, by simp [h₄, hcall], h₅, by simp [h₆, hresponse]⟩
    cases part with
    | text text =>
      refine ⟨calls, answers, hother ?_ ?_ rfl rfl⟩ <;>
        (simp only [PartState.add]; split_ifs <;> rfl)
    | inlineData | fileData => exact ⟨calls, answers, hother rfl rfl rfl rfl⟩
    | functionCall name arguments =>
      refine ⟨⟨callId (s.toolCalls.length + 1), name, arguments⟩ :: calls, answers, ?_⟩
      obtain ⟨h₁, h₂, h₃, -, h₅, h₆⟩ := h
      simp only [PartState.add, List.length_append, List.length_singleton] at h₁ h₂ h₃ h₅
      refine ⟨by simp [h₁, PartState.add], h₂, ?_, by simp [GeminiPart.isCall], ?_,
        by simp [h₆, GeminiPart.isResponse]⟩
      · rw [List.map_cons, h₃, List.length_cons, List.range'_succ, List.map_cons]
      · intro answer hanswer
        obtain ⟨hrole, hcalls, n, hn, hid⟩ := h₅ answer hanswer
        exact ⟨hrole, hcalls, n, by rw [List.length_cons]; omega, hid⟩
    | functionResponse response =>
      refine ⟨calls, { role := "tool", content := .text response
                       toolCallId := callId s.toolCalls.length } :: answers, ?_⟩
      obtain ⟨h₁, h₂, h₃, h₄, h₅, -⟩ := h
      simp only [PartState.add] at h₁ h₂ h₃ h₅
      refine ⟨h₁, by simp [h₂, PartState.add], h₃, by simp [h₄, GeminiPart.isCall], ?_,
        by simp [GeminiPart.isResponse]⟩
      exact List.forall_mem_cons.mpr
        ⟨⟨rfl, rfl, s.toolCalls.length, Nat.le_add_right _ _, rfl⟩, h₅⟩

/-- The messages that a content adds: first the answers, then the message with the calls. -/
structure Converted (content : GeminiContent) (answers entry : List Message) : Prop where
  isAnswer : ∀ answer ∈ answers, answer.IsAnswer ∧ answer.toolCalls = [] ∧
    ∃ n, n ≤ (allCalls entry).length ∧ answer.toolCallId = callId n
  isResponse : answers = [] ↔ ∀ part ∈ content.parts, part.isResponse = false
  not_answer : ∀ message ∈ entry, ¬message.IsAnswer
  ids : (allCalls entry).map (·.id) = (List.range' 1 (allCalls entry).length).map callId
  hasCall : allCalls entry ≠ [] ↔ content.HasCall

lemma role_ne_tool (geminiRole : String) : convertGeminiRoleToOpenAI geminiRole ≠ "tool" := by
  unfold convertGeminiRoleToOpenAI
  split_ifs <;> decide

lemma convertGeminiContent_eq (messages : List Message) (content : GeminiContent) :
    ∃ answers entry, Converted content answers entry ∧
      convertGeminiContent messages content = messages ++ (answers ++ entry) := by
  obtain ⟨calls, answers, h⟩ := foldl_collected content.parts { messages := messages }
  obtain ⟨h₁, h₂, h₃, h₄, h₅, h₆⟩ := h
  have hcalls : ∀ message : Message, message.toolCalls = calls →
      allCalls (appendMessage [] message) = calls := by
    rintro message rfl
    exact flatMap_appendMessage (·.toolCalls) message fun _ h => h
  unfold convertGeminiContent
  simp only [h₁, h₂, List.nil_append, List.length_nil, Nat.zero_add] at h₃ h₅ ⊢
  refine ⟨answers, appendMessage [] _, ?_, (appendMessage_eq _ _).trans (List.append_assoc ..)⟩
  constructor
  · rw [hcalls _ rfl]
    exact h₅
  · exact h₆
  · intro message hmessage
    rw [mem_appendMessage hmessage]
    exact role_ne_tool content.role
  · rw [hcalls _ rfl]
    exact h₃
  · rw [hcalls _ rfl, ne_eq, h₄]
    simp [GeminiContent.HasCall]

/-! ### All contents -/

variable {contents : List GeminiContent} {messages : List Message}

lemma no_answers (hstart : ∀ message ∈ messages, ¬message.IsAnswer)
    (h : ∀ content ∈ contents, ∀ part ∈ content.parts, part.isResponse = false) :
    ∀ message ∈ contents.foldl convertGeminiContent messages, ¬message.IsAnswer := by
  induction contents generalizing messages with
  | nil => exact hstart
  | cons content rest ih =>
    obtain ⟨hcontent, hrest⟩ := List.forall_mem_cons.mp h
    obtain ⟨answers, entry, hconverted, heq⟩ := convertGeminiContent_eq messages content
    rw [List.foldl_cons, heq, hconverted.isResponse.mpr hcontent, List.nil_append]
    exact ih (List.forall_mem_append.mpr ⟨hstart, hconverted.not_answer⟩) hrest

lemma callId_injective : Function.Injective callId := by
  intro m n h
  have hdigits : Nat.toDigits 10 m = Nat.toDigits 10 n :=
    String.ofList_injective (String.append_right_inj "call_" |>.mp h)
  have hvalue := congrArg (Nat.ofDigitChars 10 · 0) hdigits
  simpa only [Nat.ofDigitChars_toDigits (b := 10) (by decide) (by decide)] using hvalue

lemma allCalls_append (a b : List Message) : allCalls (a ++ b) = allCalls a ++ allCalls b :=
  List.flatMap_append

variable {content : GeminiContent} {answers : List Message}

lemma Converted.allCalls_eq {entry : List Message} (h : Converted content answers entry) :
    allCalls (answers ++ entry) = allCalls entry := by
  have hanswers : allCalls answers = [] :=
    List.flatMap_eq_nil_iff.mpr fun answer hanswer => (h.isAnswer answer hanswer).2.1
  rw [allCalls_append, hanswers, List.nil_append]

lemma Converted.ids_of_hasCall {entry : List Message} (h : Converted content answers entry)
    (hcall : content.HasCall) : ∃ rest, (allCalls entry).map (·.id) = callId 1 :: rest := by
  obtain ⟨n, hn⟩ := Nat.exists_eq_succ_of_ne_zero
    (mt List.length_eq_zero_iff.mp (h.hasCall.mpr hcall))
  rw [h.ids, hn, List.range'_succ]
  exact ⟨_, rfl⟩

lemma exists_messages (contents : List GeminiContent) (messages : List Message) :
    ∃ more, contents.foldl convertGeminiContent messages = messages ++ more := by
  induction contents generalizing messages with
  | nil => exact ⟨[], (List.append_nil _).symm⟩
  | cons content rest ih =>
    obtain ⟨answers, entry, -, heq⟩ := convertGeminiContent_eq messages content
    obtain ⟨more, hmore⟩ := ih (messages ++ (answers ++ entry))
    exact ⟨answers ++ entry ++ more, by rw [List.foldl_cons, heq, hmore, List.append_assoc]⟩

lemma allCalls_of_noCalls (messages : List Message) (h : ∀ content ∈ contents, ¬content.HasCall) :
    allCalls (contents.foldl convertGeminiContent messages) = allCalls messages := by
  induction contents generalizing messages with
  | nil => rfl
  | cons content rest ih =>
    obtain ⟨hcontent, hrest⟩ := List.forall_mem_cons.mp h
    obtain ⟨answers, entry, hconverted, heq⟩ := convertGeminiContent_eq messages content
    have hnone : allCalls entry = [] := not_not.mp (mt hconverted.hasCall.mp hcontent)
    rw [List.foldl_cons, heq, ih _ hrest, allCalls_append, hconverted.allCalls_eq, hnone,
      List.append_nil]

lemma length_filter_le_count (contents : List GeminiContent) (messages : List Message) :
    (contents.filter (·.HasCall)).length + ((allCalls messages).map (·.id)).count (callId 1) ≤
      ((allCalls (contents.foldl convertGeminiContent messages)).map (·.id)).count (callId 1) := by
  induction contents generalizing messages with
  | nil => simp
  | cons content rest ih =>
    obtain ⟨answers, entry, hconverted, heq⟩ := convertGeminiContent_eq messages content
    have hrest := ih (messages ++ (answers ++ entry))
    rw [allCalls_append, hconverted.allCalls_eq, List.map_append, List.count_append] at hrest
    rw [List.foldl_cons, heq, List.filter_cons]
    split_ifs with hcall
    · obtain ⟨ids, hids⟩ := hconverted.ids_of_hasCall (of_decide_eq_true hcall)
      rw [hids, List.count_cons_self] at hrest
      rw [List.length_cons]
      omega
    · omega

lemma first_id {call : ToolCallRequest}
    (hstart : ∀ call, (allCalls messages)[0]? = some call → call.id = callId 1)
    (h : (allCalls (contents.foldl convertGeminiContent messages))[0]? = some call) :
    call.id = callId 1 := by
  induction contents generalizing messages with
  | nil => exact hstart call h
  | cons content rest ih =>
    obtain ⟨answers, entry, hconverted, heq⟩ := convertGeminiContent_eq messages content
    rw [List.foldl_cons, heq] at h
    refine ih (fun first hfirst => ?_) h
    rw [allCalls_append, hconverted.allCalls_eq] at hfirst
    cases hcalls : allCalls messages with
    | cons c cs =>
      rw [hcalls] at hfirst
      exact hstart first (by rw [hcalls]; exact hfirst)
    | nil =>
      rw [hcalls, List.nil_append] at hfirst
      have hcall := hconverted.hasCall.mp (List.ne_nil_of_mem (List.mem_of_getElem? hfirst))
      obtain ⟨ids, hids⟩ := hconverted.ids_of_hasCall hcall
      have hid := congrArg (·[0]?) hids
      simp only [List.getElem?_map, hfirst, Option.map_some, List.getElem?_cons_zero,
        Option.some.injEq] at hid
      exact hid

lemma not_paired_of_response (hcontent : content ∈ contents) {part : GeminiPart}
    (hpart : part ∈ content.parts) (hresponse : part.isResponse = true) :
    ¬CallsPaired (geminiToOpenAIRequest contents) := by
  intro hpaired
  -- the first content with a response
  obtain ⟨B, hB⟩ : ∃ B, contents.find? (fun c => c.parts.any (·.isResponse)) = some B :=
    Option.isSome_iff_exists.mp (List.find?_isSome.mpr
      ⟨content, hcontent, List.any_eq_true.mpr ⟨part, hpart, hresponse⟩⟩)
  obtain ⟨hBresponse, pre, post, rfl, hpre⟩ := List.find?_eq_some_iff_append.mp hB
  have hpre' : ∀ c ∈ pre, ∀ p ∈ c.parts, p.isResponse = false := by
    intro c hc p hp
    have := hpre c hc
    simp only [Bool.not_eq_true', List.any_eq_false] at this
    exact Bool.eq_false_iff.mpr (this p hp)
  obtain ⟨answers, entry, hconverted, heq⟩ :=
    convertGeminiContent_eq (pre.foldl convertGeminiContent []) B
  obtain ⟨more, hmore⟩ := exists_messages post
    (pre.foldl convertGeminiContent [] ++ (answers ++ entry))
  obtain ⟨answer, rest, rfl⟩ : ∃ answer rest, answers = answer :: rest := by
    refine List.exists_cons_of_ne_nil fun hnil => ?_
    obtain ⟨p, hp, hpresponse⟩ := List.any_eq_true.mp hBresponse
    rw [hconverted.isResponse.mp hnil p hp] at hpresponse
    cases hpresponse
  have hmessages : geminiToOpenAIRequest (pre ++ B :: post) =
      pre.foldl convertGeminiContent [] ++ answer :: (rest ++ entry ++ more) := by
    rw [geminiToOpenAIRequest, List.foldl_append, List.foldl_cons, heq, hmore]
    simp
  obtain ⟨hanswer, -, n, hn, hid⟩ := hconverted.isAnswer answer List.mem_cons_self
  have hcount : (pre.foldl convertGeminiContent []).countP (·.IsAnswer) = 0 :=
    List.countP_eq_zero.mpr fun message hmessage =>
      mt of_decide_eq_true (no_answers (by simp) hpre' message hmessage)
  obtain ⟨call, hcall, hcallId⟩ := hpaired.answered _ answer _ hmessages hanswer
  rw [hcount] at hcall
  -- its answer needs the first id, so the content has a call of that id itself
  have hone : callId n = callId 1 := by
    rw [← hid, ← hcallId]
    exact first_id (by simp [allCalls]) hcall
  have hBcall : B.HasCall := by
    refine hconverted.hasCall.mp fun hnil => ?_
    have hn1 := callId_injective hone
    rw [hnil, List.length_nil] at hn
    omega
  have hprecall : ∃ c ∈ pre, c.HasCall := by
    by_contra hnone
    rw [allCalls_of_noCalls [] fun c hc hcall => hnone ⟨c, hc, hcall⟩] at hcall
    cases hcall
  obtain ⟨c, hc, hccall⟩ := hprecall
  have hle := Nat.le_trans (length_filter_le_count (pre ++ B :: post) [])
    (List.nodup_iff_count_le_one.mp hpaired.nodup (callId 1))
  have hpos : 0 < (pre.filter (·.HasCall)).length :=
    List.length_pos_of_mem (List.mem_filter.mpr ⟨hc, decide_eq_true hccall⟩)
  rw [List.filter_append, List.filter_cons, if_pos (decide_eq_true hBcall), List.length_append,
    List.length_cons] at hle
  omega

/-- Calls and answers are paired exactly when there are no answers, and no two contents with
calls. -/
theorem gemini_calls_paired_iff (contents : List GeminiContent) :
    CallsPaired (geminiToOpenAIRequest contents) ↔
      (∀ content ∈ contents, ∀ part ∈ content.parts, part.isResponse = false) ∧
        (contents.filter (·.HasCall)).length ≤ 1 := by
  constructor
  · intro hpaired
    refine ⟨fun content hcontent part hpart => ?_, ?_⟩
    · by_contra hresponse
      exact not_paired_of_response hcontent hpart (Bool.not_eq_false _ |>.mp hresponse) hpaired
    · have hle := Nat.le_trans (length_filter_le_count contents [])
        (List.nodup_iff_count_le_one.mp hpaired.nodup (callId 1))
      exact Nat.le_of_add_right_le hle
  · rintro ⟨hresponse, hcalls⟩
    refine ⟨?_, fun before answer after heq hanswer => ?_⟩
    · -- the calls of the only content that has some
      have hids : ∃ n, (allCalls (geminiToOpenAIRequest contents)).map (·.id) =
          (List.range' 1 n).map callId := by
        cases hfilter : contents.filter (·.HasCall) with
        | nil =>
          have hnone : ∀ content ∈ contents, ¬content.HasCall := fun content hcontent hcall =>
            List.filter_eq_nil_iff.mp hfilter content hcontent (decide_eq_true hcall)
          exact ⟨0, by rw [geminiToOpenAIRequest, allCalls_of_noCalls [] hnone]; rfl⟩
        | cons A others =>
          obtain ⟨pre, post, rfl, hpre, -, hpost⟩ := List.filter_eq_cons_iff.mp hfilter
          have hothers : others = [] := by
            rw [hfilter, List.length_cons] at hcalls
            exact List.length_eq_zero_iff.mp (by omega)
          obtain ⟨answers, entry, hconverted, heq⟩ :=
            convertGeminiContent_eq (pre.foldl convertGeminiContent []) A
          have hpostNone : ∀ content ∈ post, ¬content.HasCall := fun content hcontent hcall =>
            List.filter_eq_nil_iff.mp (hpost.trans hothers) content hcontent (decide_eq_true hcall)
          have hpreNone : ∀ content ∈ pre, ¬content.HasCall := fun content hcontent hcall =>
            hpre content hcontent (decide_eq_true hcall)
          refine ⟨_, Eq.trans (congrArg _ ?_) hconverted.ids⟩
          rw [geminiToOpenAIRequest, List.foldl_append, List.foldl_cons, heq,
            allCalls_of_noCalls _ hpostNone, allCalls_append, hconverted.allCalls_eq,
            allCalls_of_noCalls [] hpreNone]
          rfl
      obtain ⟨n, hn⟩ := hids
      rw [hn]
      exact (List.nodup_range' ..).map callId_injective
    · have hmem : answer ∈ contents.foldl convertGeminiContent [] := by
        rw [← geminiToOpenAIRequest, heq]
        exact List.mem_append_right _ List.mem_cons_self
      exact absurd hanswer (no_answers (by simp) hresponse answer hmem)

/-- A call in one content, and its answer in the next. -/
def answeredCall : List GeminiContent :=
  [⟨"model", [.functionCall "search" "\x7b\x7d"]⟩, ⟨"user", [.functionResponse "found"]⟩]

/-- The answer gets an id that no call has. -/
theorem answer_not_paired :
    geminiToOpenAIRequest answeredCall =
        [{ role := "assistant", toolCalls := [⟨"call_1", "search", "\x7b\x7d"⟩] },
          { role := "tool", content := .text "found", toolCallId := "call_0" }] ∧
      ¬CallsPaired (geminiToOpenAIRequest answeredCall) := by
  refine ⟨by decide +kernel, not_paired_of_response (List.mem_cons_of_mem _ List.mem_cons_self)
    List.mem_cons_self rfl⟩

end Yunbay
