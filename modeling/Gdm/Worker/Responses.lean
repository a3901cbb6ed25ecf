import Gdm.Worker.Conversation

/-!
# The responses of the PAM conversation

Each message that is processed leaves its blocks at the end of the memory, and its reply is the
address of one of them.  So the memory is the blocks of the messages one after another, and the
clearing of the replies goes through it in the same order.
-/

namespace Gdm

open Blocks

namespace ConversationSurroundings

/-! ## One message -/

variable {around : ConversationSurroundings}

/-- The header of the reply to a message of an extension. -/
def headerOf (around : ConversationSurroundings) (query : ExtensionMessage) : List UInt8 :=
  if around.hasType query choiceList = some true then
    around.replyHeader choiceListResponseSize choiceList
  else around.replyHeader customJsonSize customJson

/-- The length of a reply is so small that its header begins with a NUL. -/
theorem headerOf_eq (around : ConversationSurroundings) (query : ExtensionMessage) :
    ∃ bytes, around.headerOf query = 0 :: bytes := by
  unfold headerOf
  split
  · exact ⟨_, rfl⟩
  · exact ⟨_, rfl⟩

/-- The blocks that a message with an answer leaves, from the address `base` on. -/
def blocksLeft (around : ConversationSurroundings) (base : Nat) (answer : CString) :
    PamMessage → Memory
  | .promptEchoOff _ | .promptEchoOn _ | .radioType _ =>
    [.string (List.replicate (answer.bytes.length + 1) 0),
      .ofString (answer.bytes.take (pamMaxRespSize - 1))]
  | .binaryPrompt query =>
    [.record (around.headerOf query) (some (base + 1)), .ofString answer.bytes]
  | .errorMsg _ | .textInfo _ | .other _ => []

/-- The response to a message whose blocks begin at the address `base`. -/
def responseLeft (base : Nat) : PamMessage → Option Nat
  | .promptEchoOff _ | .promptEchoOn _ | .radioType _ => some (base + 1)
  | .binaryPrompt _ => some base
  | .errorMsg _ | .textInfo _ | .other _ => none

theorem copyAnswer_some (answer : CString) (memory : Memory) :
    copyAnswer (some answer) memory =
      (memory ++ [.string (List.replicate (answer.bytes.length + 1) 0),
        .ofString (answer.bytes.take (pamMaxRespSize - 1))], true, some (memory.length + 1)) := by
  rw [copyAnswer]
  simp only [Memory.clear_append_cons, clear_ofString answer.noNul]

/-- Whether the worker has a name for the type does not depend on the name that is looked for. -/
theorem hasType_isSome_iff (around : ConversationSurroundings) (query : ExtensionMessage)
    (name : List Char) : (around.hasType query name).isSome ↔
      ∃ extensions, around.extensions = some extensions ∧
        query.type.toNat < extensions.length := by
  unfold hasType messageMatch
  cases around.extensions with
  | none => simp
  | some extensions => simp

theorem processPamMessage_of_some {i : Nat} {message : PamMessage} {answer : CString}
    (hanswer : around.answerTo i message = some answer) (memory : Memory) :
    around.processPamMessage i message memory =
      some (memory ++ around.blocksLeft memory.length answer message, true,
        responseLeft memory.length message) := by
  cases message with
  | promptEchoOff msg =>
    have hask : around.askForSecret i msg = some answer := hanswer
    rw [processPamMessage, hask, copyAnswer_some]
    rfl
  | promptEchoOn msg =>
    have hask : around.askQuestion i msg = some answer := hanswer
    rw [processPamMessage, hask, copyAnswer_some]
    rfl
  | radioType msg =>
    have hask : around.askQuestion i (msg ++ " (yes/no)") = some answer := hanswer
    rw [processPamMessage, hask, copyAnswer_some]
    rfl
  | errorMsg msg =>
    simp only [answerTo] at hanswer
    simp [processPamMessage, reportProblem, hanswer, blocksLeft, responseLeft]
  | textInfo msg =>
    simp only [answerTo] at hanswer
    simp [processPamMessage, reportInfo, hanswer, blocksLeft, responseLeft]
  | other style => cases hanswer
  | binaryPrompt query =>
    simp only [answerTo, Bool.or_eq_true] at hanswer
    split at hanswer
    · cases hanswer
    · next hvalid =>
      rw [not_or] at hvalid
      simp only [processPamMessage, processExtendedPamMessage, if_neg hvalid.1, if_neg hvalid.2,
        Option.bind_eq_bind]
      split at hanswer
      · next hlist =>
        simp [hlist, hanswer, replyWith, blocksLeft, responseLeft, headerOf]
      · next hlist =>
        split at hanswer
        · next hjson =>
          have hsome : (around.hasType query choiceList).isSome := by
            rw [hasType_isSome_iff, ← hasType_isSome_iff around query customJson, hjson]
            rfl
          obtain ⟨isList, hasList⟩ := Option.isSome_iff_exists.mp hsome
          have hfalse : isList = false := by
            rw [Bool.eq_false_iff]
            rintro rfl
            exact hlist hasList
          simp [hfalse, hjson, hanswer, replyWith, blocksLeft, responseLeft, headerOf, hasList]
        · cases hanswer

/-- A message that is not processed leaves no string. -/
theorem processPamMessage_of_none {i : Nat} {message : PamMessage}
    (hanswer : around.answerTo i message = none) (hname : around.HasName message)
    (memory : Memory) :
    ∃ more, around.processPamMessage i message memory = some (memory ++ more, false, none) ∧
      Memory.Wiped more := by
  cases message with
  | promptEchoOff msg =>
    have hask : around.askForSecret i msg = none := hanswer
    exact ⟨[], by simp [processPamMessage, hask, copyAnswer], Memory.wiped_nil⟩
  | promptEchoOn msg =>
    have hask : around.askQuestion i msg = none := hanswer
    exact ⟨[], by simp [processPamMessage, hask, copyAnswer], Memory.wiped_nil⟩
  | radioType msg =>
    have hask : around.askQuestion i (msg ++ " (yes/no)") = none := hanswer
    exact ⟨[], by simp [processPamMessage, hask, copyAnswer], Memory.wiped_nil⟩
  | errorMsg msg =>
    simp only [answerTo] at hanswer
    exact ⟨[], by simp [processPamMessage, reportProblem, hanswer], Memory.wiped_nil⟩
  | textInfo msg =>
    simp only [answerTo] at hanswer
    exact ⟨[], by simp [processPamMessage, reportInfo, hanswer], Memory.wiped_nil⟩
  | other style => exact ⟨[], by simp [processPamMessage], Memory.wiped_nil⟩
  | binaryPrompt query =>
    simp only [processPamMessage, processExtendedPamMessage]
    split
    · exact ⟨[], by simp, Memory.wiped_nil⟩
    · next hcomplete =>
      split
      · exact ⟨[], by simp, Memory.wiped_nil⟩
      · next hvalid =>
        have hnames := hname (Bool.eq_false_iff.mpr hcomplete) (Bool.eq_false_iff.mpr hvalid)
        obtain ⟨isList, hisList⟩ := Option.isSome_iff_exists.mp
          ((hasType_isSome_iff around query choiceList).mpr hnames)
        obtain ⟨isJson, hisJson⟩ := Option.isSome_iff_exists.mp
          ((hasType_isSome_iff around query customJson).mpr hnames)
        simp only [answerTo, Bool.or_eq_true, if_neg (not_or.mpr ⟨hcomplete, hvalid⟩), hisList,
          hisJson, Option.some.injEq] at hanswer
        simp only [hisList, hisJson, Option.bind_eq_bind, Option.bind_some]
        cases isList with
        | true =>
          have hask : around.askListOfChoices i query.listRequest = none := hanswer
          exact ⟨[.record (around.replyHeader choiceListResponseSize choiceList) none],
            by simp [hask, replyWith], by simp⟩
        | false =>
          cases isJson with
          | true =>
            have hask : around.processCustomJsonProtocol i query.jsonRequest = none := hanswer
            exact ⟨[.record (around.replyHeader customJsonSize customJson) none],
              by simp [hask, replyWith], by simp⟩
          | false => exact ⟨[], by simp, Memory.wiped_nil⟩

/-- Without a name for its type a message is not processed, and nothing is returned. -/
theorem processPamMessage_of_not_hasName {message : PamMessage} (hname : ¬ around.HasName message)
    (i : Nat) (memory : Memory) : around.processPamMessage i message memory = none := by
  cases message with
  | binaryPrompt query =>
    simp only [HasName, not_forall] at hname
    obtain ⟨hcomplete, hvalid, hnames⟩ := hname
    rw [← hasType_isSome_iff around query choiceList, Bool.not_eq_true, Option.isSome_eq_false_iff,
      Option.isNone_iff_eq_none] at hnames
    simp [processPamMessage, processExtendedPamMessage, hcomplete, hvalid, hnames]
  | _ => exact absurd trivial hname

/-! ## The messages with answers -/

/-- The messages from the `i`-th one on have these answers. -/
inductive Answered (around : ConversationSurroundings) : Nat → List PamMessage → List CString → Prop
  | nil (i : Nat) : Answered around i [] []
  | cons {i : Nat} {message : PamMessage} {answer : CString} {messages : List PamMessage}
      {answers : List CString} (hanswer : around.answerTo i message = some answer)
      (hrest : Answered around (i + 1) messages answers) :
      Answered around i (message :: messages) (answer :: answers)

/-- Either all messages have answers, or there is a first one without. -/
theorem answered_or_first (around : ConversationSurroundings) (messages : List PamMessage)
    (i : Nat) : (∃ answers, Answered around i messages answers) ∨
      ∃ front message rest answers, messages = front ++ message :: rest ∧
        Answered around i front answers ∧ around.answerTo (i + front.length) message = none := by
  induction messages generalizing i with
  | nil => exact .inl ⟨[], .nil i⟩
  | cons message messages ih =>
    cases hanswer : around.answerTo i message with
    | none => exact .inr ⟨[], message, messages, [], rfl, .nil i, hanswer⟩
    | some answer =>
      rcases ih (i + 1) with ⟨answers, hall⟩ | ⟨front, first, rest, answers, rfl, hfront, hnone⟩
      · exact .inl ⟨answer :: answers, .cons hanswer hall⟩
      · refine .inr ⟨message :: front, first, rest, answer :: answers, rfl,
          .cons hanswer hfront, ?_⟩
        rw [List.length_cons, ← hnone]
        congr 1
        omega

theorem Answered.getElem? {i : Nat} {messages : List PamMessage} {answers : List CString}
    (h : Answered around i messages answers) {k : Nat} {message : PamMessage}
    (hmessage : messages[k]? = some message) :
    ∃ answer, answers[k]? = some answer ∧ around.answerTo (i + k) message = some answer := by
  induction h generalizing k with
  | nil i => cases hmessage
  | @cons i first answer messages answers hanswer hrest ih =>
    cases k with
    | zero =>
      obtain rfl : first = message := by simpa using hmessage
      exact ⟨answer, rfl, hanswer⟩
    | succ k =>
      obtain ⟨answer', hget, hanswer'⟩ := ih hmessage
      refine ⟨answer', hget, ?_⟩
      rw [← hanswer']
      congr 1
      omega

/-- The blocks that the messages leave. -/
def allBlocks (around : ConversationSurroundings) (base : Nat) :
    List PamMessage → List CString → Memory
  | message :: messages, answer :: answers =>
    around.blocksLeft base answer message ++
      allBlocks around (base + (around.blocksLeft base answer message).length) messages answers
  | _, _ => []

/-- The replies to the messages. -/
def allReplies (around : ConversationSurroundings) (base : Nat) :
    List PamMessage → List CString → List PamResponse
  | message :: messages, answer :: answers =>
    { resp := responseLeft base message } ::
      allReplies around (base + (around.blocksLeft base answer message).length) messages answers
  | _, _ => []

theorem Answered.length_allReplies {i : Nat} {messages : List PamMessage} {answers : List CString}
    (h : Answered around i messages answers) (base : Nat) :
    (around.allReplies base messages answers).length = messages.length := by
  induction h generalizing base with
  | nil i => rfl
  | cons hanswer hrest ih => simp [allReplies, ih]

/-- The loop goes over the messages with answers. -/
theorem Answered.processMessages_eq {i : Nat} {front : List PamMessage} {answers : List CString}
    (h : Answered around i front answers) (rest : List PamMessage) (done : List PamResponse)
    (hdone : done.length = i) (memory : Memory) :
    around.processMessages i (front ++ rest)
        (done ++ emptyReplies (front ++ rest).length) memory =
      around.processMessages (i + front.length) rest
        (done ++ around.allReplies memory.length front answers ++ emptyReplies rest.length)
        (memory ++ around.allBlocks memory.length front answers) := by
  induction h generalizing done memory with
  | nil i => simp [allReplies, allBlocks]
  | @cons i message answer messages answers hanswer hrest ih =>
    have hset : (done ++ emptyReplies (message :: (messages ++ rest)).length).set i
          { resp := responseLeft memory.length message, respRetcode := pamSuccess } =
        done ++ [{ resp := responseLeft memory.length message }] ++
          emptyReplies (messages ++ rest).length := by
      rw [← hdone, emptyReplies, List.length_cons, List.replicate_succ]
      simp [emptyReplies]
    rw [List.cons_append, ConversationSurroundings.processMessages,
      processPamMessage_of_some hanswer]
    simp only [Option.bind_eq_bind, Option.bind_some, if_true]
    rw [hset, ih _ (by simp [hdone])]
    simp only [allReplies, allBlocks, List.length_append, List.length_cons, List.append_assoc,
      List.cons_append]
    congr 1
    omega

/-! ## The replies -/

theorem isResponse_responseLeft (around : ConversationSurroundings) (memory more : Memory)
    (answer : CString) (message : PamMessage) :
    IsResponse (memory ++ around.blocksLeft memory.length answer message ++ more) answer
      (responseLeft memory.length message) message := by
  cases message with
  | binaryPrompt query =>
    exact ⟨_, around.headerOf query, memory.length + 1, rfl, by simp [blocksLeft],
      by simp [blocksLeft]⟩
  | errorMsg msg => rfl
  | textInfo msg => rfl
  | other style => rfl
  | _ => exact ⟨_, rfl, by simp [blocksLeft]⟩

/-- Each reply is the response to its message. -/
theorem Answered.isResponse {i : Nat} {messages : List PamMessage} {answers : List CString}
    (h : Answered around i messages answers) (memory more : Memory) {k : Nat}
    {message : PamMessage} (hmessage : messages[k]? = some message) :
    ∃ answer reply, around.answerTo (i + k) message = some answer ∧
      (around.allReplies memory.length messages answers)[k]? = some reply ∧
      reply.respRetcode = pamSuccess ∧
      IsResponse (memory ++ around.allBlocks memory.length messages answers ++ more) answer
        reply.resp message := by
  induction h generalizing memory k with
  | nil i => cases hmessage
  | @cons i first answer messages answers hanswer hrest ih =>
    cases k with
    | zero =>
      obtain rfl : first = message := by simpa using hmessage
      refine ⟨answer, _, hanswer, rfl, rfl, ?_⟩
      have hresponse := isResponse_responseLeft around memory
        (around.allBlocks (memory.length + (around.blocksLeft memory.length answer first).length)
          messages answers ++ more) answer first
      simpa [allBlocks] using hresponse
    | succ k =>
      obtain ⟨answer', reply, hanswer', hreply, hretcode, hresponse⟩ :=
        ih (memory ++ around.blocksLeft memory.length answer first) hmessage
      rw [List.length_append] at hreply hresponse
      refine ⟨answer', reply, ?_, hreply, hretcode, by simpa [allBlocks] using hresponse⟩
      rw [← hanswer']
      congr 1
      omega

/-! ## The clearing -/

/-- What the clearing of a reply leaves of the blocks of its message. -/
def blocksCleared (around : ConversationSurroundings) (base : Nat) (answer : CString) :
    PamMessage → Memory
  | .promptEchoOff _ | .promptEchoOn _ | .radioType _ =>
    [.string (List.replicate (answer.bytes.length + 1) 0),
      .string (List.replicate ((answer.bytes.take (pamMaxRespSize - 1)).length + 1) 0)]
  | .binaryPrompt query =>
    [.record (around.headerOf query) (some (base + 1)), .ofString answer.bytes]
  | .errorMsg _ | .textInfo _ | .other _ => []

theorem clearReplies_cons (reply : PamResponse) (replies : List PamResponse) (memory : Memory) :
    clearReplies (reply :: replies) memory = clearReplies replies (clearReplies [reply] memory) :=
  rfl

theorem clearReplies_emptyReplies (n : Nat) (memory : Memory) :
    clearReplies (emptyReplies n) memory = memory := by
  induction n with
  | zero => rfl
  | succ n ih => exact ih

theorem clearReplies_append (replies others : List PamResponse) (memory : Memory) :
    clearReplies (replies ++ others) memory = clearReplies others (clearReplies replies memory) :=
  List.foldl_append

/-- A string is cleared, a record with the string behind it is left as it is. -/
theorem clearReplies_singleton (around : ConversationSurroundings) (memory more : Memory)
    (answer : CString) (message : PamMessage) :
    clearReplies [{ resp := responseLeft memory.length message }]
        (memory ++ around.blocksLeft memory.length answer message ++ more) =
      memory ++ around.blocksCleared memory.length answer message ++ more := by
  have hstring : ∀ first : Block,
      Memory.clear (memory ++ [first, .ofString (answer.bytes.take (pamMaxRespSize - 1))] ++ more)
          (memory.length + 1) =
        memory ++ [first, .string (List.replicate
          ((answer.bytes.take (pamMaxRespSize - 1)).length + 1) 0)] ++ more := by
    intro first
    have hnul : 0 ∉ answer.bytes.take (pamMaxRespSize - 1) :=
      fun hmem => answer.noNul (List.mem_of_mem_take hmem)
    have hclear := Memory.clear_append_cons (memory ++ [first]) more
      (.ofString (answer.bytes.take (pamMaxRespSize - 1)))
    rw [clear_ofString hnul, List.length_append, List.length_singleton] at hclear
    simpa using hclear
  cases message with
  | binaryPrompt query =>
    obtain ⟨bytes, hheader⟩ := headerOf_eq around query
    have hclear := Memory.clear_append_cons memory (.ofString answer.bytes :: more)
      (.record (0 :: bytes) (some (memory.length + 1)))
    rw [clear_record_zero] at hclear
    simpa [clearReplies, responseLeft, blocksLeft, blocksCleared, hheader] using hclear
  | promptEchoOff msg => exact hstring _
  | promptEchoOn msg => exact hstring _
  | radioType msg => exact hstring _
  | _ => rfl

/-- What the clearing of the replies leaves. -/
def allCleared (around : ConversationSurroundings) (base : Nat) :
    List PamMessage → List CString → Memory
  | message :: messages, answer :: answers =>
    around.blocksCleared base answer message ++
      allCleared around (base + (around.blocksLeft base answer message).length) messages answers
  | _, _ => []

theorem length_blocksCleared (around : ConversationSurroundings) (base : Nat) (answer : CString)
    (message : PamMessage) : (around.blocksCleared base answer message).length =
      (around.blocksLeft base answer message).length := by
  cases message <;> rfl

theorem Answered.clearReplies_eq {i : Nat} {messages : List PamMessage} {answers : List CString}
    (h : Answered around i messages answers) (memory more : Memory) :
    clearReplies (around.allReplies memory.length messages answers)
        (memory ++ around.allBlocks memory.length messages answers ++ more) =
      memory ++ around.allCleared memory.length messages answers ++ more := by
  induction h generalizing memory with
  | nil i => rfl
  | @cons i message answer messages answers hanswer hrest ih =>
    have hfirst := clearReplies_singleton around memory
      (around.allBlocks (memory.length + (around.blocksLeft memory.length answer message).length)
        messages answers ++ more) answer message
    have hothers := ih (memory ++ around.blocksCleared memory.length answer message)
    rw [List.length_append, length_blocksCleared] at hothers
    rw [allReplies, allBlocks, allCleared, clearReplies_cons]
    simp only [List.append_assoc] at hfirst hothers ⊢
    rw [hfirst, hothers]

/-- Nothing is left of the answers exactly if none is behind a record. -/
theorem Answered.wiped_allCleared_iff {i : Nat} {messages : List PamMessage}
    {answers : List CString} (h : Answered around i messages answers) (base : Nat) :
    Memory.Wiped (around.allCleared base messages answers) ↔
      ∀ k message, messages[k]? = some message → around.NoRecord (i + k) message := by
  induction h generalizing base with
  | nil i => simp [allCleared]
  | @cons i first answer messages answers hanswer hrest ih =>
    have hfirst : Memory.Wiped (around.blocksCleared base answer first) ↔
        around.NoRecord i first := by
      cases first with
      | binaryPrompt query =>
        simp only [blocksCleared, Block.ofString, Memory.wiped_record_cons,
          Memory.wiped_string_cons, Memory.wiped_nil, and_true, NoRecord, hanswer,
          Option.some.injEq, forall_eq']
        constructor
        · intro hzero
          rw [List.eq_nil_iff_forall_not_mem]
          intro b hb
          exact answer.noNul (hzero b (List.mem_append_left _ hb) ▸ hb)
        · intro hempty
          simp [hempty]
      | _ => simp [blocksCleared, NoRecord, List.mem_replicate]
    rw [allCleared, Memory.wiped_append, hfirst, ih]
    constructor
    · rintro ⟨hzero, hsucc⟩ k message hmessage
      cases k with
      | zero =>
        obtain rfl : first = message := by simpa using hmessage
        exact hzero
      | succ k =>
        have hnext := hsucc k message hmessage
        rwa [Nat.add_assoc, Nat.add_comm 1] at hnext
    · intro hall
      constructor
      · exact hall 0 first rfl
      · intro k message hmessage
        have hnext := hall (k + 1) message hmessage
        rwa [Nat.add_assoc, Nat.add_comm 1]

/-! ## The whole conversation -/

/-- What is done with the replies at the end. -/
def finish (responses : Bool) (done : Bool) (replies : List PamResponse) (memory : Memory) :
    ConversationEnd :=
  if done && responses then
    { returnValue := pamSuccess, responses := some (some replies), memory := memory }
  else
    { returnValue := if done then pamSuccess else pamConvErr
      responses := if responses then some none else none
      memory := ConversationSurroundings.clearReplies replies memory }

theorem pamNewMessagesHandler_eq (around : ConversationSurroundings) {messages : List PamMessage}
    (hmessages : messages ≠ []) (responses : Bool) (memory : Memory) :
    around.pamNewMessagesHandler messages.length messages responses memory =
      (around.processMessages 0 messages (emptyReplies messages.length) memory).map
        fun looped => finish responses looped.2.1 looped.2.2 looped.1 := by
  have hlength : messages.length ≠ 0 := by simpa using hmessages
  have hzero : ((messages.length : Nat) : Int) ≠ 0 := by omega
  have hnotNeg : ¬ ((messages.length : Nat) : Int) < 0 := by omega
  rw [pamNewMessagesHandler, if_neg hnotNeg, if_neg hzero, Int.toNat_natCast]
  cases around.processMessages 0 messages (emptyReplies messages.length) memory with
  | none => rfl
  | some looped =>
    obtain ⟨memory', done, replies⟩ := looped
    cases done <;> cases responses <;> simp [finish, pamSuccess, pamConvErr]

/-- A message that is processed has a name for its type. -/
theorem hasName_of_answerTo {i : Nat} {message : PamMessage} {answer : CString}
    (hanswer : around.answerTo i message = some answer) : around.HasName message := by
  by_contra hname
  have hnone := processPamMessage_of_not_hasName hname i []
  rw [processPamMessage_of_some hanswer] at hnone
  cases hnone

theorem Answered.isSome {messages : List PamMessage} {answers : List CString}
    (h : Answered around 0 messages answers) {k : Nat} {message : PamMessage}
    (hmessage : messages[k]? = some message) : (around.answerTo k message).isSome := by
  obtain ⟨answer, -, hanswer⟩ := h.getElem? hmessage
  rw [Nat.zero_add] at hanswer
  rw [hanswer]
  rfl

theorem Answered.cleansUp {messages : List PamMessage} {answers : List CString}
    (h : Answered around 0 messages answers) : around.CleansUp messages := by
  rintro front message rest rfl -
  have hmessage : (front ++ message :: rest)[front.length]? = some message := by simp
  obtain ⟨answer, -, hanswer⟩ := h.getElem? hmessage
  rw [Nat.zero_add] at hanswer
  refine ⟨hasName_of_answerTo hanswer, ?_⟩
  intro hnone
  rw [hanswer] at hnone
  cases hnone

/-- When every message is processed the replies are handed over. -/
theorem Answered.handlesRight {messages : List PamMessage} {answers : List CString}
    (h : Answered around 0 messages answers) (responses : Bool) (memory : Memory) :
    around.HandlesRight messages responses memory
      (finish responses true (around.allReplies memory.length messages answers)
        (memory ++ around.allBlocks memory.length messages answers)) := by
  have hsuccess : (finish responses true (around.allReplies memory.length messages answers)
      (memory ++ around.allBlocks memory.length messages answers)).returnValue = pamSuccess := by
    cases responses <;> rfl
  refine ⟨?_, ?_, fun hfailed => absurd hsuccess hfailed⟩
  · exact ⟨fun _ k message hmessage => h.isSome hmessage, fun _ => hsuccess⟩
  · rintro - rfl
    refine ⟨_, rfl, h.length_allReplies _, ?_⟩
    intro k message hmessage
    obtain ⟨answer, reply, hanswer, hreply, hretcode, hresponse⟩ :=
      h.isResponse memory [] hmessage
    rw [Nat.zero_add] at hanswer
    rw [List.append_nil] at hresponse
    exact ⟨answer, reply, hanswer, hreply, hretcode, hresponse⟩

/-- The clean-up is right at the first message that is not processed, and so at each. -/
theorem Answered.cleansUp_iff {front : List PamMessage} {answers : List CString}
    (h : Answered around 0 front answers) {message : PamMessage} (rest : List PamMessage)
    (hnone : around.answerTo front.length message = none) :
    around.CleansUp (front ++ message :: rest) ↔
      around.HasName message ∧
        ∀ i earlier, front[i]? = some earlier → around.NoRecord i earlier := by
  constructor
  · intro hcleans
    obtain ⟨hname, hrecord⟩ := hcleans front message rest rfl fun i earlier hi => h.isSome hi
    exact ⟨hname, hrecord hnone⟩
  · rintro ⟨hname, hrecord⟩ front' message' rest' heq hall
    rcases Nat.lt_trichotomy front'.length front.length with hlt | hlen | hgt
    · have hmessage' : front[front'.length]? = some message' := by
        have hinFront : (front ++ message :: rest)[front'.length]? = front[front'.length]? :=
          List.getElem?_append_left hlt
        rw [← hinFront, heq]
        simp
      obtain ⟨answer, hanswer⟩ := Option.isSome_iff_exists.mp (h.isSome hmessage')
      refine ⟨hasName_of_answerTo hanswer, ?_⟩
      intro hnone'
      rw [hanswer] at hnone'
      cases hnone'
    · obtain ⟨rfl, hrest⟩ := List.append_inj heq hlen.symm
      obtain ⟨rfl, -⟩ := List.cons.inj hrest
      exact ⟨hname, fun _ => hrecord⟩
    · have hmessage : front'[front.length]? = some message := by
        have hinFront : (front' ++ message' :: rest')[front.length]? = front'[front.length]? :=
          List.getElem?_append_left hgt
        rw [← hinFront, ← heq]
        simp
      have hsome := hall front.length message hmessage
      rw [hnone] at hsome
      cases hsome

/-- Where a message is not processed after these, the end is right exactly if no answer is left. -/
theorem Answered.handlesRight_append_iff {front : List PamMessage} {answers : List CString}
    (h : Answered around 0 front answers) {message : PamMessage} (rest : List PamMessage)
    (hnone : around.answerTo front.length message = none) (responses : Bool) (memory : Memory)
    {more : Memory} (hmore : Memory.Wiped more) :
    around.HandlesRight (front ++ message :: rest) responses memory
        (finish responses false
          (around.allReplies memory.length front answers ++ emptyReplies (message :: rest).length)
          (memory ++ around.allBlocks memory.length front answers ++ more)) ↔
      ∀ i earlier, front[i]? = some earlier → around.NoRecord i earlier := by
  have hcleared : clearReplies (around.allReplies memory.length front answers ++
        emptyReplies (message :: rest).length)
      (memory ++ around.allBlocks memory.length front answers ++ more) =
        memory ++ around.allCleared memory.length front answers ++ more := by
    rw [clearReplies_append, h.clearReplies_eq, clearReplies_emptyReplies]
  have hnotAll : ¬ ∀ i earlier, (front ++ message :: rest)[i]? = some earlier →
      (around.answerTo i earlier).isSome := by
    intro hall
    have hsome := hall front.length message (by simp)
    rw [hnone] at hsome
    cases hsome
  have hfailed : ∀ replies memory', (finish responses false replies memory').returnValue ≠
      pamSuccess := by
    intro replies memory'
    cases responses <;> simp [finish, pamSuccess, pamConvErr]
  have hwiped : Memory.Wiped ((finish responses false
      (around.allReplies memory.length front answers ++ emptyReplies (message :: rest).length)
      (memory ++ around.allBlocks memory.length front answers ++ more)).memory.drop
        memory.length) ↔
      ∀ i earlier, front[i]? = some earlier → around.NoRecord i earlier := by
    simp only [finish, Bool.false_and, Bool.false_eq_true, if_false, hcleared]
    rw [List.append_assoc, List.drop_left, Memory.wiped_append, and_iff_left hmore,
      h.wiped_allCleared_iff]
    simp only [Nat.zero_add]
  constructor
  · intro hright
    exact hwiped.mp (hright.failure (hfailed _ _)).2
  · intro hrecord
    refine ⟨iff_of_false (hfailed _ _) hnotAll, fun h => absurd h (hfailed _ _), fun _ => ?_⟩
    refine ⟨?_, hwiped.mpr hrecord⟩
    intro replies
    cases responses <;> simp [finish]

/-- Success is returned exactly if all messages are processed, with their responses, and else
nothing is left of any answer, exactly if no message fails behind a message of an extension that
has been answered. -/
theorem handlesRight_iff (around : ConversationSurroundings) (messages : List PamMessage)
    (responses : Bool) (memory : Memory) :
    (∃ result, around.pamNewMessagesHandler messages.length messages responses memory =
        some result ∧ around.HandlesRight messages responses memory result) ↔
      around.CleansUp messages := by
  by_cases hmessages : messages = []
  · subst hmessages
    refine iff_of_true ⟨{ returnValue := pamSuccess
                          responses := if responses then some none else none
                          memory := memory }, rfl, ?_, ?_, ?_⟩ (Answered.nil 0).cleansUp
    · simp
    · rintro - rfl
      exact ⟨[], rfl, rfl, by simp⟩
    · exact fun hfailed => absurd rfl hfailed
  rw [pamNewMessagesHandler_eq around hmessages]
  rcases answered_or_first around messages 0 with
    ⟨answers, hall⟩ | ⟨front, message, rest, answers, rfl, hfront, hnone⟩
  · -- every message is processed
    have hloop := hall.processMessages_eq [] [] rfl memory
    simp only [List.append_nil, List.nil_append, List.length_nil, emptyReplies,
      List.replicate_zero, processMessages] at hloop
    refine iff_of_true ⟨_, ?_, hall.handlesRight responses memory⟩ hall.cleansUp
    rw [emptyReplies, hloop]
    rfl
  · -- the loop ends at the first message that is not processed
    have hloop := hfront.processMessages_eq (message :: rest) [] rfl memory
    rw [Nat.zero_add] at hnone hloop
    rw [hfront.cleansUp_iff rest hnone]
    simp only [List.nil_append] at hloop
    by_cases hname : around.HasName message
    · obtain ⟨more, hprocess, hmore⟩ := processPamMessage_of_none hnone hname
        (memory ++ around.allBlocks memory.length front answers)
      rw [hloop, processMessages, hprocess]
      simp only [Option.bind_eq_bind, Option.bind_some, Bool.false_eq_true, if_false,
        Option.map_some, Option.some.injEq, exists_eq_left']
      rw [hfront.handlesRight_append_iff rest hnone responses memory hmore]
      simp [hname]
    · rw [hloop, processMessages, processPamMessage_of_not_hasName hname]
      simp [hname]

/-- A worker whose user chooses an item of a list and is then asked for a secret, which does not
come. -/
def chosenFirst : ConversationSurroundings where
  size := 0
  env := { block := ⟨[], rfl⟩, entry := .inherited choiceList }
  extensions := some [choiceList]
  service := "gdm-password"
  exchange := fun i _ => if i = 0 then some ⟨[112, 119], by decide⟩ else none
  validJson := fun _ => true

/-- The answer is left in the memory. -/
theorem chosenFirst_not_handlesRight :
    ¬ ∃ result, chosenFirst.pamNewMessagesHandler 2
        [.binaryPrompt { length := 32, type := 0 }, .promptEchoOff "Password:"] true [] =
          some result ∧
      chosenFirst.HandlesRight
        [.binaryPrompt { length := 32, type := 0 }, .promptEchoOff "Password:"] true [] result := by
  rintro ⟨result, hresult, hright⟩
  have hcomputed : chosenFirst.pamNewMessagesHandler 2
      [.binaryPrompt { length := 32, type := 0 }, .promptEchoOff "Password:"] true [] =
        some { returnValue := pamConvErr, responses := some none
               memory := [.record [0, 0, 0, 16, 0] (some 1), .string [112, 119, 0]] } := by
    decide +kernel
  rw [hcomputed, Option.some.injEq] at hresult
  subst hresult
  have hwiped := (hright.failure (by decide)).2
  exact absurd (hwiped [112, 119, 0] (by decide) 112 (by decide)) (by decide)

end ConversationSurroundings

end Gdm
