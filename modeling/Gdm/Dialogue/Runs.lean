import Gdm.Dialogue.Posting

/-!
# The connection over whole runs

A callback of a worker is its own step and what it says.  Both ends agree again when it
is over, so that they do after every event of every run.
-/

namespace Gdm.Dialogue

open GdmSession

variable {e e' : Dialogue} {id i : Nat} {rest : List Effect} {calls : List WorkerCall}
  {state : GdmSessionWorkerState} {c : Conversation}

/-! ## What has not changed -/

theorem InTurn.same (h : e.InTurn i) (hsession : e'.session = e.session)
    (hprocess : e'.processes i = e.processes i) : e'.InTurn i := by
  obtain ⟨hgated, hkeeps, hheard, hwords⟩ := h
  refine ⟨?_, ?_, ?_, ?_⟩
  all_goals rw [hprocess]
  · exact hgated
  · exact hkeeps
  · rw [hsession]
    exact hheard
  · rw [hsession]
    exact hwords

theorem Waits.same (h : e.Waits i) (hsession : e'.session = e.session)
    (hprocess : e'.processes i = e.processes i) : e'.Waits i := by
  obtain ⟨hlog, hstate, htaken, hheard, hcalls, hdelivered⟩ := h
  refine ⟨?_, ?_, ?_, ?_, hsession ▸ hcalls, hsession ▸ hdelivered⟩
  all_goals rw [hprocess]
  · exact hlog
  · exact hstate
  · exact htaken
  · exact hheard

theorem unread_same (hsession : e'.session = e.session)
    (hheard : (e'.processes i).heard = (e.processes i).heard) : e'.unread i = e.unread i := by
  rw [unread, unread, hsession, hheard]

theorem Links.same (h : e.Links c) (hsession : e'.session = e.session)
    (hprocess : e'.processes c.id = e.processes c.id) : e'.Links c := by
  obtain ⟨hwaits, hwords, hattuned⟩ := h
  refine ⟨fun hproxy => ⟨(hwaits hproxy).1.same hsession hprocess, (hwaits hproxy).2⟩, ?_, ?_⟩
  · rw [hsession, hprocess]
    exact hwords
  · intro hrunning hconnected
    rw [hsession] at hrunning
    obtain ⟨hsaid, hcalls, hstate⟩ := hattuned hrunning hconnected
    refine ⟨?_, ?_, ?_⟩
    · rw [hsession, hprocess]
      exact hsaid
    · rw [hprocess, unread_same hsession (congrArg WorkerProcess.heard hprocess)]
      exact hcalls
    · rw [hprocess]
      exact hstate

theorem processes_modifyProcess (f : WorkerProcess → WorkerProcess) :
    (e.modifyProcess id f).processes id = f (e.processes id) :=
  if_pos rfl

theorem processes_modifyProcess_of_ne (f : WorkerProcess → WorkerProcess) (hi : i ≠ id) :
    (e.modifyProcess id f).processes i = e.processes i :=
  if_neg hi

/-- The entries that are left for the session are not touched by the books on the calls. -/
theorem Speaking.modifyProcess (h : e.Speaking id rest calls state)
    {f : WorkerProcess → WorkerProcess}
    (hheard : (f (e.processes id)).heard = (e.processes id).heard)
    (hworker : (f (e.processes id)).worker = (e.processes id).worker) :
    (e.modifyProcess id f).Speaking id rest calls state := by
  have hsame : ((e.modifyProcess id f).processes id).heard = (e.processes id).heard ∧
      ((e.modifyProcess id f).processes id).worker = (e.processes id).worker := by
    rw [processes_modifyProcess]
    exact ⟨hheard, hworker⟩
  refine ⟨h.wellFormed, ?_, h.known, ?_, ?_, h.proxy, ?_, ?_, ?_, ?_⟩
  · exact fun j hj => (h.others j hj).same rfl (processes_modifyProcess_of_ne f hj)
  · intro j hj
    have hne : j ≠ id := (Nat.lt_of_lt_of_le h.known hj).ne'
    exact (h.fresh j hj).same rfl (processes_modifyProcess_of_ne f hne)
  · exact fun c hc hcid => (h.links c hc hcid).same rfl (processes_modifyProcess_of_ne f hcid)
  · rw [hsame.1]
    exact h.heard
  · rw [hsame.2]
    exact h.delivered
  · rw [hsame.2]
    exact h.said
  · have hunread : (e.modifyProcess id f).unread id = e.unread id := unread_same rfl hsame.1
    rw [hsame.2, hunread]
    exact h.attuned

/-! ## A reply -/

/-- What follows a reply in the history goes on once the reply has come. -/
theorem Speaking.post_reply {invocation : Invocation} {reply : Reply} {call : WorkerCall}
    {taken : List (Nat × WorkerCall)}
    (h : e.Speaking id (.completed (some invocation) reply :: rest) calls state)
    (htaken : (e.processes id).taken = (invocation.serial, call) :: taken)
    (hcall : call ∈ calls) (hmethod : call.method? = some invocation.method)
    (hanswers : reply.Answers invocation.method)
    (hsuccess : reply.isError = false → state = invocation.method.before ∧
      (e.processes id).worker.state = invocation.method.after)
    (herror : reply.isError = true → (e.processes id).worker.state = .none ∨
      (e.processes id).worker.state.visible = state) :
    (e.post id (.completed (some invocation) reply)).Speaking id rest (calls.erase call)
        (e.processes id).worker.state.visible ∧
      (e.post id (.completed (some invocation) reply)).processes id =
        { e.processes id with taken := taken } := by
  have hpost : e.post id (.completed (some invocation) reply) =
      (e.hears (e.replyEvent id call reply)).modifyProcess id fun p =>
        { p with taken := p.taken.eraseP fun entry => entry.1 = invocation.serial } := by
    have hfind : (e.processes id).taken.find? (fun entry => entry.1 = invocation.serial) =
        some (invocation.serial, call) := by
      rw [htaken]
      exact List.find?_cons_of_pos (by simp)
    simp only [post, hfind]
  have hheard : (e.hears (e.replyEvent id call reply)).Speaking id rest (calls.erase call)
      (e.processes id).worker.state.visible := by
    cases hreply : reply.isError with
    | false =>
      obtain ⟨hbefore, hafter⟩ := hsuccess hreply
      rw [hafter, Method.visible_after]
      exact h.hears_success hcall hmethod hanswers hreply hbefore
    | true =>
      cases reply with
      | error error => exact h.hears_error hcall hmethod (herror rfl)
      | _ => cases hreply
  rw [hpost]
  refine ⟨hheard.modifyProcess rfl rfl, ?_⟩
  rw [processes_modifyProcess]
  have hprocess : (e.hears (e.replyEvent id call reply)).processes id = e.processes id := rfl
  rw [hprocess, htaken, List.eraseP_cons_of_pos (by simp)]

/-! ## The beginning and the end of a callback -/

theorem mem_of_listens (hlistens : e.listens id = true) :
    id < e.session.nextConversation ∧
      ∀ c ∈ e.session.conversations, c.id = id → c.workerProxy = true := by
  simp only [listens, Bool.and_eq_true, decide_eq_true_eq, List.all_eq_true] at hlistens
  refine ⟨hlistens.1, fun c hc hid => ?_⟩
  have hc' := hlistens.2 c hc
  simpa [hid] using hc'

/-- A worker has made a step, and has said nothing of it. -/
theorem Inv.speaking (h : Inv e) (hlistens : e.listens id = true)
    (hrunning : (e.processes id).worker.status = .running) {p : WorkerProcess}
    {new : List Effect} (hlog : p.worker.log = (e.processes id).worker.log ++ new)
    (hheard : p.heard <+: plainCalls id e.session.log)
    (hcalls : calls ++ (plainCalls id e.session.log).drop p.heard.length =
      (e.processes id).taken.map Prod.snd ++ e.unread id) :
    (e.modifyProcess id fun _ => p).Speaking id new calls
      (e.processes id).worker.state.visible := by
  obtain ⟨hknown, hproxy⟩ := mem_of_listens hlistens
  have hprocess : (e.modifyProcess id fun _ => p).processes id = p :=
    processes_modifyProcess _
  have hwords : words p.worker.log = words (e.processes id).worker.log ++ words new := by
    rw [hlog, words_append]
  refine ⟨h.wellFormed, ?_, hknown, ?_, ?_, hproxy, ?_, ?_, ?_, ?_⟩
  · exact fun j hj => (h.inTurn j).same rfl (processes_modifyProcess_of_ne _ hj)
  · intro j hj
    have hne : j ≠ id := (Nat.lt_of_lt_of_le hknown hj).ne'
    exact (h.fresh j hj).same rfl (processes_modifyProcess_of_ne _ hne)
  · exact fun c hc hcid => (h.links c hc).same rfl (processes_modifyProcess_of_ne _ hcid)
  · rw [hprocess]
    exact hheard
  · rw [hprocess, hwords]
    exact (h.inTurn id).words.trans (List.prefix_append _ _)
  · rintro c hc rfl
    rw [hprocess, hwords]
    exact (h.links c hc).words.trans (List.prefix_append _ _)
  · rintro hstatus c hc rfl hconnected
    obtain ⟨hsaid, houtstanding, hstate⟩ := (h.links c hc).attuned hstatus hconnected
    refine ⟨?_, ?_, hstate hrunning⟩
    · rw [hprocess, hwords]
      exact congrArg (· ++ words new) hsaid
    · rw [houtstanding, ← hcalls, unread, hprocess]
      rfl

/-- The session has heard all. -/
theorem Speaking.inv (h : e.Speaking id [] calls state)
    (hgated : (e.processes id).worker.Gated)
    (hkeeps : (e.processes id).worker.status = .running →
      (e.processes id).worker.Keeps (e.processes id).taken)
    (hcalls : calls = (e.processes id).taken.map Prod.snd)
    (hstate : (e.processes id).worker.status = .running →
      state = (e.processes id).worker.state.visible) : Inv e := by
  refine ⟨h.wellFormed, ?_, h.fresh, ?_⟩
  · intro j
    by_cases hj : j = id
    · subst hj
      exact ⟨hgated, hkeeps, h.heard, h.delivered⟩
    · exact h.others j hj
  · intro c hc
    by_cases hid : c.id = id
    swap
    · exact h.links c hc hid
    subst hid
    refine ⟨?_, h.said c hc rfl, ?_⟩
    · intro hproxy
      rw [h.proxy c hc rfl] at hproxy
      cases hproxy
    · intro hstatus hconnected
      obtain ⟨hsaid, houtstanding, hview⟩ := h.attuned hstatus c hc rfl hconnected
      refine ⟨?_, hcalls ▸ houtstanding, fun hrunning => hview.trans (hstate hrunning)⟩
      exact (List.append_nil _).symm.trans hsaid

/-! ## A callback of a worker -/

theorem modifyProcess_congr {f g : WorkerProcess → WorkerProcess}
    (h : f (e.processes id) = g (e.processes id)) :
    e.modifyProcess id f = e.modifyProcess id g := by
  unfold Dialogue.modifyProcess
  congr 1
  funext i
  by_cases hi : i = id
  · rw [if_pos hi, if_pos hi, hi]
    exact h
  · rw [if_neg hi, if_neg hi]

theorem posts_append (log new : List Effect) :
    e.posts id (log ++ new) = (e.posts id log).posts id new :=
  List.foldl_append

theorem runs_iff : e.runs id = true ↔
    e.listens id = true ∧ (e.processes id).worker.status = .running := by
  simp [runs]

/-- The entries that a callback has added reach the session one after another. -/
theorem act_of_log {event : WorkerEvent} {new : List Effect}
    (hlog : ((e.processes id).worker.step event).log = (e.processes id).worker.log ++ new) :
    e.act id event = (e.modifyProcess id fun p =>
      { p with worker := (e.processes id).worker.step event }).posts id new := by
  unfold act
  dsimp only
  rw [hlog, List.drop_left]

/-- At the beginning of a callback. -/
theorem Inv.speaking_act (h : Inv e) (hruns : e.runs id = true) {worker : GdmSessionWorker}
    {new : List Effect} (hlog : worker.log = (e.processes id).worker.log ++ new) :
    (e.modifyProcess id fun p => { p with worker := worker }).Speaking id new
        ((e.processes id).taken.map Prod.snd) (e.processes id).worker.state.visible ∧
      (e.modifyProcess id fun p => { p with worker := worker }).processes id =
        { e.processes id with worker := worker } := by
  obtain ⟨hlistens, hrunning⟩ := runs_iff.mp hruns
  refine ⟨?_, processes_modifyProcess _⟩
  rw [modifyProcess_congr (g := fun _ => { e.processes id with worker := worker }) rfl]
  exact h.speaking hlistens hrunning hlog (h.inTurn id).heard rfl

theorem Inv.act (h : Inv e) (hruns : e.runs id = true) {event : WorkerEvent}
    (hcall : event.isCall = false) : Inv (e.act id event) := by
  obtain ⟨hlistens, hrunning⟩ := runs_iff.mp hruns
  have hgated := (h.inTurn id).gated
  have hkeeps := (h.inTurn id).keeps hrunning
  have hgated' : ((e.processes id).worker.step event).Gated := by
    refine GdmSessionWorker.gated_step hgated ?_
    cases event with
    | call request => cases hcall
    | _ => trivial
  have hutters := GdmSessionWorker.step_utters hgated hcall
  generalize hstep : (e.processes id).worker.step event = worker at *
  cases hutters with
  | nothing hdiscreet hvisible =>
    obtain ⟨murmurs, hlog, hmurmurs⟩ := hdiscreet.log
    obtain ⟨hspeaking, hprocess⟩ := h.speaking_act hruns hlog
    rw [act_of_log (hstep.symm ▸ hlog), hstep]
    rw [← List.append_nil murmurs] at hspeaking
    obtain ⟨hposted, hprocesses⟩ := hspeaking.posts_of_not_isReport hmurmurs
    refine hposted.inv ?_ ?_ ?_ ?_
    all_goals rw [hprocesses, hprocess]
    · exact hgated'
    · exact fun _ => hkeeps.same hdiscreet.pendingInvocation
    · exact fun hrunning' => (hvisible hrunning').symm
  | @replies w invocation reply hpending hdiscreet hanswers hsuccess herror =>
    obtain ⟨murmurs, hlog, hmurmurs⟩ := hdiscreet.log
    obtain ⟨call, htaken, hmethod⟩ := hkeeps.call hpending
    have hlog' : (w.answer reply).log =
        (e.processes id).worker.log ++ (murmurs ++ [.completed (some invocation) reply]) := by
      rw [← List.append_assoc, ← hlog, ← hpending, ← hdiscreet.pendingInvocation]
      rfl
    obtain ⟨hspeaking, hprocess⟩ := h.speaking_act hruns hlog'
    rw [act_of_log (hstep.symm ▸ hlog'), hstep, posts_append]
    obtain ⟨hposted, hprocesses⟩ := hspeaking.posts_of_not_isReport hmurmurs
    generalize (e.modifyProcess id _).posts id murmurs = e₁ at *
    have hprocess := (congrFun hprocesses id).trans hprocess
    have htaken₁ : (e₁.processes id).taken = [(invocation.serial, call)] := by
      rw [hprocess]
      exact htaken
    obtain ⟨hreplied, hprocess'⟩ := hposted.post_reply htaken₁ (by simp [htaken]) hmethod
      hanswers (by rw [hprocess]; exact hsuccess) (by rw [hprocess]; exact herror)
    refine hreplied.inv ?_ ?_ ?_ ?_
    all_goals rw [hprocess', hprocess]
    · exact hgated'
    · exact fun _ => .inl ⟨rfl, rfl⟩
    · simp [htaken]
    · exact fun _ => rfl
  | @exits w status pid hstarted hdiscreet hnone =>
    obtain ⟨murmurs, hlog, hmurmurs⟩ := hdiscreet.log
    have hlog' : ((w.emit (.sessionExited w.service status)).emit (.killed pid)).log =
        (e.processes id).worker.log ++
          (murmurs ++ [.sessionExited w.service status, .killed pid]) := by
      rw [← List.append_assoc, ← hlog]
      exact List.append_assoc w.log [_] [_]
    obtain ⟨hspeaking, hprocess⟩ := h.speaking_act hruns hlog'
    rw [act_of_log (hstep.symm ▸ hlog'), hstep, posts_append]
    obtain ⟨hposted, hprocesses⟩ := hspeaking.posts_of_not_isReport hmurmurs
    generalize (e.modifyProcess id _).posts id murmurs = e₁ at *
    rw [hstarted] at hposted
    obtain ⟨hexited, hprocesses₁⟩ := hposted.post_sessionExited
    have hsilent : (Effect.killed pid).isReport = false := rfl
    obtain ⟨hkilled, hprocesses₂⟩ := hexited.post_of_not_isReport hsilent
    have hprocess₂ := congrFun (hprocesses₂.trans (hprocesses₁.trans hprocesses)) id
    rw [hprocess] at hprocess₂
    refine hkilled.inv ?_ ?_ ?_ ?_
    all_goals rw [hprocess₂]
    · exact hgated'
    · exact fun _ => hkeeps.same hdiscreet.pendingInvocation
    · intro _
      show GdmSessionWorkerState.none = w.state.visible
      rw [hnone]
      rfl

/-! ## A call -/

theorem method?_of_request {call : WorkerCall} {seat0HasVts : Bool}
    {argv : Except String (List String)} {request : Request}
    (h : call.request seat0HasVts argv = some request) : call.method? = some request.method := by
  cases call <;> cases h <;> rfl

theorem modifyProcess_modifyProcess (f g : WorkerProcess → WorkerProcess) :
    (e.modifyProcess id f).modifyProcess id g = e.modifyProcess id fun p => g (f p) := by
  unfold Dialogue.modifyProcess
  congr 1
  funext i
  by_cases hi : i = id
  · simp only [if_pos hi]
  · simp only [if_neg hi]

/-- A worker that gets StartProgram next accepts it. -/
def AcceptsStart (e : Dialogue) (id : Nat) : Prop :=
  e.runs id = true → (e.unread id).head? = some .StartProgram →
    (e.processes id).worker.Accepts .sessionStarted

theorem erase_concat_of_length_le {call : WorkerCall} (hlength : calls.length ≤ 1) :
    (calls ++ [call]).erase call = calls := by
  match calls, hlength with
  | [], _ => simp
  | [other], _ =>
    by_cases heq : other = call
    · simp [heq]
    · simp [heq]

/-- At the beginning of a callback for a call. -/
theorem Inv.speaking_receive (h : Inv e) (hruns : e.runs id = true) {call : WorkerCall}
    {left : List WorkerCall} (hunread : e.unread id = call :: left) {worker : GdmSessionWorker}
    {new : List Effect} (hlog : worker.log = (e.processes id).worker.log ++ new) :
    (e.modifyProcess id fun _ => { (e.processes id).takes call with worker := worker }).Speaking
      id new ((e.processes id).taken.map Prod.snd ++ [call])
      (e.processes id).worker.state.visible := by
  obtain ⟨hlistens, hrunning⟩ := runs_iff.mp hruns
  obtain ⟨after, hafter⟩ := (h.inTurn id).heard
  have hdrop : after = call :: left := by
    rw [← hunread, unread, ← hafter, List.drop_left]
  subst hdrop
  have hcalls : plainCalls id e.session.log =
      ((e.processes id).heard ++ [call]) ++ left := by
    rw [← hafter, List.append_assoc]
    rfl
  refine h.speaking hlistens hrunning hlog ?_ ?_
  · exact hcalls ▸ List.prefix_append _ _
  · show _ ++ (plainCalls id e.session.log).drop ((e.processes id).heard ++ [call]).length = _
    rw [hcalls, List.drop_left, hunread, List.append_assoc]
    rfl

/-- The callback for a call. -/
theorem receive_of_log {call : WorkerCall} {left : List WorkerCall} {request : Request}
    {seat0HasVts : Bool} {argv : Except String (List String)} {new : List Effect}
    (hunread : e.unread id = call :: left) (hrequest : call.request seat0HasVts argv = some request)
    (hlog : ((e.processes id).worker.step (.call request)).log =
      (e.processes id).worker.log ++ new) :
    e.receive id seat0HasVts argv = (e.modifyProcess id fun _ =>
      { (e.processes id).takes call with
        worker := (e.processes id).worker.step (.call request) }).posts id new := by
  unfold receive
  simp only [hunread, hrequest]
  have hlog' : (((e.modifyProcess id fun p => p.takes call).processes id).worker.step
      (.call request)).log =
        ((e.modifyProcess id fun p => p.takes call).processes id).worker.log ++ new := by
    rw [processes_modifyProcess]
    exact hlog
  rw [act_of_log hlog', modifyProcess_modifyProcess, processes_modifyProcess]
  congr 1
  exact modifyProcess_congr rfl

theorem Inv.receive (h : Inv e) (hruns : e.runs id = true) (haccepts : e.AcceptsStart id)
    (seat0HasVts : Bool) (argv : Except String (List String)) :
    Inv (e.receive id seat0HasVts argv) := by
  cases hunread : e.unread id with
  | nil =>
    simp only [Dialogue.receive, hunread]
    exact h
  | cons call rest =>
  cases hrequest : call.request seat0HasVts argv with
  | none =>
    simp only [Dialogue.receive, hunread, hrequest]
    exact h
  | some request =>
    obtain ⟨hlistens, hrunning⟩ := runs_iff.mp hruns
    have hmethod := method?_of_request hrequest
    have hgated := (h.inTurn id).gated
    have hkeeps := (h.inTurn id).keeps hrunning
    have haccepted : (e.processes id).worker.StartProgramAccepted (.call request) := by
      cases call <;> cases hrequest
      case StartProgram => exact fun _ => haccepts hruns (by rw [hunread]; rfl)
      all_goals trivial
    have hgated' := GdmSessionWorker.gated_step hgated haccepted.inOrder
    obtain ⟨hhears, hstate⟩ :=
      GdmSessionWorker.receive_hears (hgated.requests hrunning) hrunning haccepted
    have hreceive : (e.processes id).worker.step (.call request) =
        (e.processes id).worker.receive request := by
      unfold GdmSessionWorker.step
      rw [if_neg (not_not.mpr hrunning)]
    rw [← hreceive] at hhears hstate
    generalize hstep : (e.processes id).worker.step (.call request) = worker at *
    cases hhears with
    | takes hnone hdiscreet =>
      obtain ⟨murmurs, hlog, hmurmurs⟩ := hdiscreet.log
      have hlog' : worker.log = (e.processes id).worker.log ++
          (.received ⟨(e.processes id).worker.nextSerial, request.method⟩ :: murmurs) :=
        hlog.trans (List.append_assoc _ [_] _)
      have htaken : (e.processes id).taken = [] := by
        rcases hkeeps with ⟨hempty, _⟩ | ⟨_, _, _, _, _, hsome⟩
        · exact hempty
        · exact absurd (hsome.symm.trans hnone) (by simp)
      have hspeaking := h.speaking_receive hruns hunread hlog'
      rw [receive_of_log hunread hrequest (hstep.symm ▸ hlog'), hstep]
      rw [← List.append_nil (_ :: murmurs)] at hspeaking
      obtain ⟨hposted, hprocesses⟩ :=
        hspeaking.posts_of_not_isReport (by simpa using ⟨rfl, hmurmurs⟩)
      refine hposted.inv ?_ ?_ ?_ ?_
      all_goals rw [hprocesses, processes_modifyProcess]
      · exact hgated'
      · intro _
        refine .inr ⟨(e.processes id).worker.nextSerial, call, request.method, ?_, hmethod,
          hdiscreet.pendingInvocation⟩
        show _ :: (e.processes id).taken = _
        rw [htaken]
      · show _ = call :: (e.processes id).taken.map Prod.snd
        rw [htaken]
        rfl
      · exact fun _ => congrArg GdmSessionWorkerState.visible hstate.symm
    | @rejects w error hdiscreet =>
      obtain ⟨murmurs, hlog, hmurmurs⟩ := hdiscreet.log
      have hlog' : (w.emit (.completed (some ⟨(e.processes id).worker.nextSerial,
          request.method⟩) (.error error))).log = (e.processes id).worker.log ++
          ((.received ⟨(e.processes id).worker.nextSerial, request.method⟩ :: murmurs) ++
            [.completed (some ⟨(e.processes id).worker.nextSerial, request.method⟩)
              (.error error)]) := by
        have hw : w.log = (e.processes id).worker.log ++
            (.received ⟨(e.processes id).worker.nextSerial, request.method⟩ :: murmurs) :=
          hlog.trans (List.append_assoc _ [_] _)
        rw [← List.append_assoc, ← hw]
        rfl
      have hspeaking := h.speaking_receive hruns hunread hlog'
      rw [receive_of_log hunread hrequest (hstep.symm ▸ hlog'), hstep, posts_append]
      obtain ⟨hposted, hprocesses⟩ :=
        hspeaking.posts_of_not_isReport (by simpa using ⟨rfl, hmurmurs⟩)
      have hprocess := (congrFun hprocesses id).trans (processes_modifyProcess _)
      generalize (e.modifyProcess id _).posts id _ = e₁ at *
      have htaken : (e₁.processes id).taken =
          ((e.processes id).worker.nextSerial, call) :: (e.processes id).taken := by
        rw [hprocess]
        rfl
      have hsame : w.state = (e.processes id).worker.state := hstate
      obtain ⟨hreplied, hprocess'⟩ := hposted.post_reply htaken (by simp) hmethod trivial
        (fun hok => by cases hok)
        (fun _ => .inr (by rw [hprocess]; exact congrArg GdmSessionWorkerState.visible hsame))
      have hlength : ((e.processes id).taken.map Prod.snd).length ≤ 1 := by
        rcases hkeeps with ⟨hempty, _⟩ | ⟨_, _, _, hone, _, _⟩
        · simp [hempty]
        · simp [hone]
      refine hreplied.inv ?_ ?_ ?_ ?_
      all_goals rw [hprocess']
      · rw [hprocess]
        exact hgated'
      · rw [hprocess]
        exact fun _ => hkeeps.same hdiscreet.pendingInvocation
      · exact erase_concat_of_length_le hlength
      · exact fun _ => rfl

/-! ## What is said beside the calls -/

/-- The session takes what is said aside. -/
theorem Inv.hears_aside (h : Inv e) (hruns : e.runs id = true)
    {done : List WorkerCall → List WorkerCall} {s : GdmSession} (hs : WellFormed s)
    (hdone : ∀ outstanding : List WorkerCall,
      ((done outstanding).filter fun call => call.method?.isSome) =
        outstanding.filter fun call => call.method?.isSome)
    (hhearing : ∀ after, (e.session.status = .running → ∀ c ∈ e.session.conversations,
      c.id = id → c.connected = true → c.worker.state = after) →
        Hearing e.session id none done after s) : Inv { e with session := s } := by
  obtain ⟨hlistens, hrunning⟩ := runs_iff.mp hruns
  have hlog : (e.processes id).worker.log = (e.processes id).worker.log ++ [] :=
    (List.append_nil _).symm
  have hbegin := h.speaking hlistens hrunning hlog (h.inTurn id).heard rfl
  have hsame : (e.modifyProcess id fun _ => e.processes id) = e := by
    rw [modifyProcess_congr (g := fun p => p) rfl]
    unfold Dialogue.modifyProcess
    simp only [ite_self]
  rw [hsame] at hbegin
  have hspeaking : Speaking { e with session := s } id [] ((e.processes id).taken.map Prod.snd)
      (e.processes id).worker.state.visible := by
    refine hbegin.hearing rfl (hhearing _ ?_) hs fun outstanding houtstanding => ?_
    · intro hstatus c hc hid hconnected
      exact (hbegin.attuned hstatus c hc hid hconnected).2.2
    · rw [hdone]
      exact houtstanding
  exact hspeaking.inv (h.inTurn id).gated (h.inTurn id).keeps rfl fun _ => rfl

theorem filter_erase_of_aside {call : WorkerCall} (hcall : call.method? = none)
    (outstanding : List WorkerCall) :
    ((outstanding.erase call).filter fun call => call.method?.isSome) =
      outstanding.filter fun call => call.method?.isSome := by
  rw [← List.erase_filter, List.erase_of_not_mem]
  intro hmem
  have hsome := (List.mem_filter.mp hmem).2
  rw [hcall] at hsome
  cases hsome

/-- What is said aside leaves the calls and the state of the worker. -/
theorem hearing_aside {s : GdmSession} (hs : WellFormed s) {event : SessionEvent}
    {around : Surroundings} (haside : event.asideOf = some id)
    (hne : s.step (event, around) ≠ s) :
    ∃ done : List WorkerCall → List WorkerCall,
      (∀ outstanding : List WorkerCall,
        ((done outstanding).filter fun call => call.method?.isSome) =
          outstanding.filter fun call => call.method?.isSome) ∧
      ∀ after, (s.status = .running → ∀ c ∈ s.conversations, c.id = id → c.connected = true →
        c.worker.state = after) → Hearing s id none done after (s.step (event, around)) := by
  unfold SessionEvent.asideOf at haside
  split at haside
  · rename_i i pid uid address
    obtain rfl : i = id := Option.some.inj haside
    refine ⟨_, filter_erase_of_aside rfl, fun after hafter =>
      @hearing_workerAnswers s i around hs _ (.StartReauthentication address) after ?_⟩
    intro hrunning d hd hid hconnected
    cases hat : s.awaiting i (.StartReauthentication pid uid) with
    | none =>
      refine absurd ?_ hne
      unfold GdmSession.step
      simp only [hrunning, handleEvent, workerAnswers, hat, if_true]
    | some c =>
      obtain ⟨hc, hcid, _, hmem⟩ := mem_of_awaiting hat
      obtain rfl := hs.eq_of_id hd hc (hid.trans hcid.symm)
      refine ⟨hmem, ?_⟩
      by_cases hstarted : d.worker.state = .sessionStarted
      · exact ⟨d.worker, if_pos hstarted, hafter hrunning d hd hid hconnected⟩
      · refine absurd ?_ hne
        unfold GdmSession.step
        simp only [hrunning, handleEvent, workerAnswers, hat, WorkerView.perform,
          if_neg hstarted, if_true]
  · rename_i i pid uid error
    obtain rfl : i = id := Option.some.inj haside
    have hword : (WorkerMessage.failure (WorkerCall.StartReauthentication pid uid).method
        error).word = none := rfl
    refine ⟨_, filter_erase_of_aside rfl, fun after hafter => hword ▸ hearing_workerRefuses hs ?_⟩
    intro hrunning d hd hid hconnected
    refine ⟨?_, hafter hrunning d hd hid hconnected⟩
    cases hat : s.awaiting i (.StartReauthentication pid uid) with
    | none =>
      refine absurd ?_ hne
      unfold GdmSession.step
      simp only [hrunning, handleEvent, workerRefuses, hat, if_true]
    | some c =>
      obtain ⟨hc, hcid, _, hmem⟩ := mem_of_awaiting hat
      obtain rfl := hs.eq_of_id hd hc (hid.trans hcid.symm)
      exact hmem
  · rename_i i signal
    split at haside
    swap
    · cases haside
    rename_i hsignal
    obtain rfl : i = id := Option.some.inj haside
    have hword : (WorkerMessage.signal signal).word = none := if_pos hsignal
    refine ⟨fun calls => calls, fun _ => rfl, fun after hafter => hword ▸ hearing_workerSends hs ?_⟩
    intro hrunning d hd hid hconnected
    have hview := hafter hrunning d hd hid hconnected
    cases signal with
    | cancelPendingQuery => exact ⟨d.worker, rfl, hview⟩
    | reauthenticated service status user =>
      by_cases hstarted : d.worker.state = .sessionStarted
      · exact ⟨d.worker, if_pos hstarted, hview⟩
      · refine absurd ?_ hne
        have hat : (s.conversationAt i).filter (fun c => c.connected) = some d := by
          rw [← hid, hs.conversationAt hd]
          simp [hconnected]
        unfold GdmSession.step
        simp only [hrunning, handleEvent, workerSends, hat, WorkerView.send, if_neg hstarted,
          if_true]
    | _ => cases hsignal
  · cases haside

theorem Inv.aside (h : Inv e) {event : SessionEvent} (haside : event.asideOf = some id)
    (hruns : e.runs id = true) (around : Surroundings) :
    Inv { e with session := e.session.step (event, around) } := by
  have hs := step_wellFormed h.wellFormed (event, around)
  by_cases hsame : e.session.step (event, around) = e.session
  · rw [hsame]
    exact h
  · obtain ⟨done, hdone, hhearing⟩ := hearing_aside h.wellFormed haside hsame
    exact h.hears_aside hruns hs hdone hhearing

/-! ## Every event -/

/-- The next event is not a StartProgram that comes out of turn. -/
def StartsInTurn (e : Dialogue) : DialogueEvent → Prop
  | .receive id _ _ => e.AcceptsStart id
  | _ => True

theorem inv_step (h : Inv e) {event : DialogueEvent} (hstarts : e.StartsInTurn event) :
    Inv (e.step event) := by
  cases event with
  | session event around =>
    dsimp only [step]
    split
    · rename_i hcomes
      cases hdaemon : event.isOfDaemon with
      | true => exact h.session around hdaemon
      | false =>
        rw [hdaemon, Bool.false_or] at hcomes
        obtain ⟨id, haside, hruns⟩ := (Option.any_eq_true _ _).mp hcomes
        exact h.aside haside hruns around
    · exact h
  | receive id seat0HasVts argv =>
    dsimp only [step]
    split
    · rename_i hruns
      exact h.receive hruns hstarts seat0HasVts argv
    · exact h
  | worker id event =>
    dsimp only [step]
    split
    · rename_i hacts
      obtain ⟨hruns, hcall⟩ : e.runs id = true ∧ event.isCall = false := by simpa using hacts
      exact h.act hruns hcall
    · exact h

theorem inv_run {events : List DialogueEvent} (h : machine.Start e)
    (hstarts : machine.Meets StartsInTurn e events) : Inv (machine.run e events) := by
  obtain ⟨owner, hostname, device, seatId, isLocal, accounts, rfl⟩ := h
  exact hstarts.invariant Inv (fun _ _ h => inv_step h)
    (inv_new owner hostname device seatId isLocal accounts)

end Gdm.Dialogue
