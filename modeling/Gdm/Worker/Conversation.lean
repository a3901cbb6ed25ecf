import Gdm.Library.Blocks
import Gdm.Worker.PamExtensions

/-!
# The PAM conversation

A PAM module hands messages to the worker, which asks the daemon one after another and collects
the answers as replies.  The reply to a message of an extension is a record that points to the
answer.  When a message fails, the replies so far are cleared as strings.
-/

namespace Gdm

open Blocks

/-- A C string, without the NUL behind it. -/
structure CString where
  bytes : List UInt8
  noNul : 0 ∉ bytes
  deriving DecidableEq, Repr

/-- `PAM_MAX_RESP_SIZE` -/
def pamMaxRespSize : Nat := 512

/-- `PAM_SUCCESS` -/
def pamSuccess : Int := 0

/-- `PAM_CONV_ERR` -/
def pamConvErr : Int := 19

/-- What the daemon is asked, for the service of the worker. -/
inductive DaemonCall
  | infoQuery (service question : String)
  | secretInfoQuery (service question : String)
  | info (service info : String)
  | problem (service problem : String)
  | choiceListQuery (service promptMessage : String) (choices : List (String × String))
  | customJsonRequest (service protocol : String) (version : Nat) (json : String)
  deriving DecidableEq, Repr

/-- `GdmChoiceListItems` -/
structure ChoiceListItem where
  key : Option String
  text : String
  deriving DecidableEq, Repr

/-- `GdmPamExtensionChoiceListRequest`, behind its header. -/
structure ChoiceListRequest where
  promptMessage : String := ""
  items : List ChoiceListItem := []
  deriving DecidableEq, Repr

/-- `GdmPamExtensionJSONProtocol`, behind its header. -/
structure JsonProtocol where
  protocolName : String := ""
  version : Nat := 0
  json : Option String := none
  deriving DecidableEq, Repr

/-- `GdmPamExtensionMessage`, and how each extension reads what is behind the header. -/
structure ExtensionMessage where
  length : UInt32
  type : UInt8
  listRequest : ChoiceListRequest := {}
  jsonRequest : JsonProtocol := {}
  deriving DecidableEq, Repr

/-- A message from PAM, by its style.  The texts are as `convert_to_utf8` gives them. -/
inductive PamMessage
  | promptEchoOff (msg : String)
  | promptEchoOn (msg : String)
  | errorMsg (msg : String)
  | textInfo (msg : String)
  | radioType (msg : String)
  | binaryPrompt (query : ExtensionMessage)
  | other (msgStyle : Int)
  deriving DecidableEq, Repr

/-- `struct pam_response` -/
structure PamResponse where
  resp : Option Nat := none
  respRetcode : Int := pamSuccess
  deriving DecidableEq, Repr

/-- The replies as `calloc` gives them. -/
def emptyReplies (n : Nat) : List PamResponse :=
  List.replicate n {}

/-- What the handler meets: the worker, the variable with the extensions, and the daemon.  The
call for a message has an answer if it succeeds; that of a report is not used. -/
structure ConversationSurroundings where
  size : Nat
  env : PamEnvironment size
  extensions : Option (List (List Char))
  service : String
  exchange : Nat → DaemonCall → Option CString
  validJson : String → Bool

namespace ConversationSurroundings

variable (around : ConversationSurroundings)

/-! ## The calls -/

/-- `gdm_session_worker_ask_question` -/
def askQuestion (i : Nat) (question : String) : Option CString :=
  around.exchange i (.infoQuery around.service question)

/-- `gdm_session_worker_ask_for_secret` -/
def askForSecret (i : Nat) (question : String) : Option CString :=
  around.exchange i (.secretInfoQuery around.service question)

/-- `gdm_session_worker_report_info` -/
def reportInfo (i : Nat) (info : String) : Bool :=
  (around.exchange i (.info around.service info)).isSome

/-- `gdm_session_worker_report_problem` -/
def reportProblem (i : Nat) (problem : String) : Bool :=
  (around.exchange i (.problem around.service problem)).isSome

/-- `gdm_session_worker_ask_list_of_choices` -/
def askListOfChoices (i : Nat) (request : ChoiceListRequest) : Option CString :=
  if request.items.any (·.key = none) then none
  else
    around.exchange i (.choiceListQuery around.service request.promptMessage
      (request.items.map fun item => (item.key.getD "", item.text)))

/-- `gdm_session_worker_process_custom_json_protocol` -/
def processCustomJsonProtocol (i : Nat) (request : JsonProtocol) : Option CString :=
  match request.json with
  | none => none
  | some json =>
    if around.validJson json then
      around.exchange i
        (.customJsonRequest around.service request.protocolName request.version json)
    else none

/-! ## Messages of extensions -/

/-- `sizeof (GdmPamExtensionMessage)` -/
def sizeofExtensionMessage : Nat := 8

/-- `GDM_PAM_EXTENSION_CHOICE_LIST` -/
def choiceList : List Char := "org.gnome.DisplayManager.UserVerifier.ChoiceList".toList

/-- `GDM_PAM_EXTENSION_CUSTOM_JSON` -/
def customJson : List Char := "org.gnome.DisplayManager.UserVerifier.CustomJSON".toList

/-- `GDM_PAM_EXTENSION_CHOICE_LIST_RESPONSE_SIZE` -/
def choiceListResponseSize : UInt32 := 16

/-- `GDM_PAM_EXTENSION_CUSTOM_JSON_SIZE` -/
def customJsonSize : UInt32 := 88

/-- `htobe32`, in the order of the memory. -/
def bigEndian (length : UInt32) : List UInt8 :=
  [(length >>> 24).toUInt8, (length >>> 16).toUInt8, (length >>> 8).toUInt8, length.toUInt8]

/-- The header of a reply.  The rest of the fixed part is not modelled. -/
def replyHeader (length : UInt32) (name : List Char) : List UInt8 :=
  bigEndian length ++ [UInt8.ofNat ((lookUpType around.env name).getD 0)]

/-- `GDM_PAM_EXTENSION_MESSAGE_TRUNCATED` -/
def truncated (query : ExtensionMessage) : Bool :=
  query.length.toNat < sizeofExtensionMessage

/-- `GDM_PAM_EXTENSION_MESSAGE_MATCH` with the array of the worker.  There is no result where it
has no name of this type. -/
def hasType (query : ExtensionMessage) (name : List Char) : Option Bool :=
  around.extensions.bind fun extensions => messageMatch query.type.toNat extensions name

/-- The record for a reply, which is allocated first and gets the answer afterwards. -/
def replyWith (length : UInt32) (name : List Char) (answer : Option CString) (memory : Memory) :
    Memory × Bool × Option Nat :=
  match answer with
  | none => (memory ++ [.record (around.replyHeader length name) none], false, none)
  | some answer =>
    (memory ++ [.record (around.replyHeader length name) (some (memory.length + 1)),
      .ofString answer.bytes], true, some memory.length)

/-- `gdm_session_worker_process_extended_pam_message` -/
def processExtendedPamMessage (i : Nat) (query : ExtensionMessage) (memory : Memory) :
    Option (Memory × Bool × Option Nat) :=
  if truncated query then some (memory, false, none)
  else if messageInvalidType around.env query.type then some (memory, false, none)
  else do
    if ← around.hasType query choiceList then
      some (around.replyWith choiceListResponseSize choiceList
        (around.askListOfChoices i query.listRequest) memory)
    else if ← around.hasType query customJson then
      some (around.replyWith customJsonSize customJson
        (around.processCustomJsonProtocol i query.jsonRequest) memory)
    else some (memory, false, none)

/-! ## The handler -/

/-- The end of `gdm_session_worker_process_pam_message`: the answer is copied as far as a reply
may be long, and then cleared. -/
def copyAnswer (answer : Option CString) (memory : Memory) : Memory × Bool × Option Nat :=
  match answer with
  | none => (memory, false, none)
  | some answer =>
    let copied := memory ++ [.ofString answer.bytes,
      .ofString (answer.bytes.take (pamMaxRespSize - 1))]
    (copied.clear memory.length, true, some (memory.length + 1))

/-- `gdm_session_worker_process_pam_message`: what it returns, and the response. -/
def processPamMessage (i : Nat) (message : PamMessage) (memory : Memory) :
    Option (Memory × Bool × Option Nat) :=
  match message with
  | .binaryPrompt query => around.processExtendedPamMessage i query memory
  | .promptEchoOn msg => some (copyAnswer (around.askQuestion i msg) memory)
  | .promptEchoOff msg => some (copyAnswer (around.askForSecret i msg) memory)
  | .textInfo msg => some (memory, around.reportInfo i msg, none)
  | .errorMsg msg => some (memory, around.reportProblem i msg, none)
  | .radioType msg => some (copyAnswer (around.askQuestion i (msg ++ " (yes/no)")) memory)
  | .other _ => some (memory, false, none)

/-- The loop of the handler over the messages from the `i`-th one on. -/
def processMessages (i : Nat) (messages : List PamMessage) (replies : List PamResponse)
    (memory : Memory) : Option (Memory × Bool × List PamResponse) :=
  match messages with
  | [] => some (memory, true, replies)
  | message :: messages => do
    let (memory, gotResponse, response) ← around.processPamMessage i message memory
    if gotResponse then
      processMessages (i + 1) messages
        (replies.set i { resp := response, respRetcode := pamSuccess }) memory
    else some (memory, false, replies)

/-- The clearing of the replies. -/
def clearReplies (replies : List PamResponse) (memory : Memory) : Memory :=
  replies.foldl (fun memory reply =>
    match reply.resp with
    | none => memory
    | some resp => memory.clear resp) memory

end ConversationSurroundings

/-- How the handler ends.  Where it writes the replies they may be `NULL`. -/
structure ConversationEnd where
  returnValue : Int
  responses : Option (Option (List PamResponse))
  memory : Memory
  deriving DecidableEq, Repr

namespace ConversationSurroundings

variable (around : ConversationSurroundings)

/-- `gdm_session_worker_pam_new_messages_handler`, with or without a place for the responses.
There is no result where a message makes it read behind the names of the extensions. -/
def pamNewMessagesHandler (numberOfMessages : Int) (messages : List PamMessage)
    (responses : Bool) (memory : Memory) : Option ConversationEnd :=
  if numberOfMessages < 0 then
    some { returnValue := pamConvErr, responses := none, memory := memory }
  else if numberOfMessages = 0 then
    some { returnValue := pamSuccess, responses := if responses then some none else none
           memory := memory }
  else do
    let (memory, done, replies) ← around.processMessages 0 messages
      (emptyReplies numberOfMessages.toNat) memory
    let returnValue := if done then pamSuccess else pamConvErr
    if returnValue ≠ pamSuccess ∨ responses = false then
      some { returnValue := returnValue, responses := if responses then some none else none
             memory := clearReplies replies memory }
    else some { returnValue := returnValue, responses := some (some replies), memory := memory }

/-! ## What the handler is for -/

/-- What the daemon answers for a message, if the message is processed. -/
def answerTo (i : Nat) : PamMessage → Option CString
  | .promptEchoOff msg => around.askForSecret i msg
  | .promptEchoOn msg => around.askQuestion i msg
  | .errorMsg msg => around.exchange i (.problem around.service msg)
  | .textInfo msg => around.exchange i (.info around.service msg)
  | .radioType msg => around.askQuestion i (msg ++ " (yes/no)")
  | .binaryPrompt query =>
    if truncated query || messageInvalidType around.env query.type then none
    else if around.hasType query choiceList = some true then
      around.askListOfChoices i query.listRequest
    else if around.hasType query customJson = some true then
      around.processCustomJsonProtocol i query.jsonRequest
    else none
  | .other _ => none

/-- The response to a message with this answer. -/
def IsResponse (memory : Memory) (answer : CString) (resp : Option Nat) : PamMessage → Prop
  | .promptEchoOff _ | .promptEchoOn _ | .radioType _ =>
    ∃ address, resp = some address ∧
      memory[address]? = some (.ofString (answer.bytes.take (pamMaxRespSize - 1)))
  | .binaryPrompt _ =>
    ∃ address header text, resp = some address ∧
      memory[address]? = some (.record header (some text)) ∧
      memory[text]? = some (.ofString answer.bytes)
  | .errorMsg _ | .textInfo _ | .other _ => resp = none

/-- Success is returned exactly if every message has been processed, and then the replies are the
responses.  Else there are no replies, and no answer is left in the memory. -/
structure HandlesRight (messages : List PamMessage) (responses : Bool) (memory : Memory)
    (result : ConversationEnd) : Prop where
  success : result.returnValue = pamSuccess ↔
    ∀ i message, messages[i]? = some message → (around.answerTo i message).isSome
  replies : result.returnValue = pamSuccess → responses = true →
    ∃ replies : List PamResponse, result.responses.map (·.getD []) = some replies ∧
      replies.length = messages.length ∧
      ∀ i message, messages[i]? = some message →
        ∃ answer reply, around.answerTo i message = some answer ∧ replies[i]? = some reply ∧
          reply.respRetcode = pamSuccess ∧ IsResponse result.memory answer reply.resp message
  failure : result.returnValue ≠ pamSuccess →
    (∀ replies, result.responses ≠ some (some replies)) ∧
      Memory.Wiped (result.memory.drop memory.length)

/-- The worker has a name for the type of a message that is complete and whose type the variable
has. -/
def HasName : PamMessage → Prop
  | .binaryPrompt query =>
    truncated query = false → messageInvalidType around.env query.type = false →
      ∃ extensions, around.extensions = some extensions ∧ query.type.toNat < extensions.length
  | _ => True

/-- The message has had no answer that its reply would only point to. -/
def NoRecord (i : Nat) : PamMessage → Prop
  | .binaryPrompt query =>
    ∀ answer, around.answerTo i (.binaryPrompt query) = some answer → answer.bytes = []
  | _ => True

/-- Every message that the handler comes to has a name for its type, and if it is not processed
no message of an extension has had an answer before it. -/
def CleansUp (messages : List PamMessage) : Prop :=
  ∀ front message rest, messages = front ++ message :: rest →
    (∀ i earlier, front[i]? = some earlier → (around.answerTo i earlier).isSome) →
    around.HasName message ∧
      (around.answerTo front.length message = none →
        ∀ i earlier, front[i]? = some earlier → around.NoRecord i earlier)

end ConversationSurroundings

end Gdm
