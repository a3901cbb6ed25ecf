import Gdm.Session.StepCases

/-!
# What a move leaves of a conversation, and what it says

Two inversion lemmas on the moves.  A conversation after a move has just been
started, or it has evolved from one that was there before in one of a few ways.
And each entry that a move adds to the history has its reason in the state
before.
-/

namespace Gdm

namespace GdmSession

variable {self self' : GdmSession} {p : Permits}

/-! ## Conversations -/

/-- What a move can make of a conversation. -/
inductive Evolves (p : Permits) (s s' : GdmSession) (c : Conversation) : Conversation → Prop
  | harmless {f : Conversation → Conversation} : Harmless f → Evolves p s s' c (f c)
  | registers : c.workerProxy = false → s'.log = s.log ++ [.registered c.id] →
      Evolves p s s' c { c with workerProxy := true, connected := true }
  | called {call : WorkerCall} : Prompted p s c.id call → c.workerProxy = true →
      c.connected = true → s'.log = s.log ++ [.called c.id call] →
      Evolves p s s' c { c with outstanding := c.outstanding ++ [call] }
  | asked {pid : Int} {uid : Nat} : s.sessionConversation = some c.id → c.workerProxy = true →
      c.connected = true → s'.log = s.log ++ [.called c.id (.StartReauthentication pid uid)] →
      Evolves p s s' c { c with
        reauthPidOfCaller := pid
        outstanding := c.outstanding ++ [.StartReauthentication pid uid] }
  | askedInVain {pid : Int} : s.sessionConversation = some c.id → c.connected = false →
      Evolves p s s' c { c with reauthPidOfCaller := pid }
  | forgetsCaller {message : WorkerMessage} : dispatching s.log = some (c.id, message) →
      message.endsReauthentication = true → Evolves p s s' c { c with reauthPidOfCaller := 0 }
  | answers {call : WorkerCall} {answer : Answer} {worker : WorkerView} : c.connected = true →
      call ∈ c.outstanding → c.worker.perform call answer = some worker →
      s'.log = s.log ++ [.answered c.id call answer] →
      Evolves p s s' c { c with
        outstanding := c.outstanding.erase call
        worker := worker
        inbox := c.inbox ++ [.success answer] }
  | fails {call : WorkerCall} {error : WorkerError} {state : GdmSessionWorkerState} :
      c.connected = true → call ∈ c.outstanding → state = c.worker.state ∨ state = .none →
      Evolves p s s' c { c with
        outstanding := c.outstanding.erase call
        worker := { c.worker with state := state }
        inbox := c.inbox ++ [.failure call.method error] }
  | sends {signal : WorkerSignal} {worker : WorkerView} : c.connected = true →
      c.worker.send signal = some worker →
      Evolves p s s' c { c with worker := worker, inbox := c.inbox ++ [.signal signal] }
  | queryPends : c.pendingInvocation = none →
      Evolves p s s' c { c with pendingInvocation := some s.nextQuery }
  | completes : Evolves p s s' c { c with pendingInvocation := none }
  | begins {username : Option String} : p.begins c.serviceName username →
      c.startingInvocation = none → s'.log = s.log ++ [.began c.id s.nextInvocation] →
      Evolves p s s' c { c with
        startingInvocation := some s.nextInvocation
        startingUsername := username }
  | returnsStarting : Evolves p s s' c { c with startingInvocation := none }

theorem harmless_id : Harmless fun c => c where
  id _ := rfl
  serviceName _ := rfl
  workerPid _ := rfl
  job _ := rfl
  workerProxy _ := rfl
  pendingInvocation _ := rfl
  startingInvocation _ := rfl
  startingUsername _ := .inl rfl
  reauthPidOfCaller _ := rfl
  inbox _ := rfl
  worker _ := rfl
  name _ := rfl
  verified _ := rfl
  outstanding _ _ h := h
  connected _ h := h

/-- A conversation that nothing happens to. -/
theorem Evolves.refl (p : Permits) (s s' : GdmSession) (c : Conversation) :
    Evolves p s s' c c :=
  .harmless harmless_id

/-- Only the conversation with the number has changed. -/
theorem image_modify (hw : WellFormed self) {c : Conversation} (hc : c ∈ self.conversations)
    {f : Conversation → Conversation} (hf : Evolves p self self' c (f c)) {c' : Conversation}
    (hc' : c' ∈ self.conversations.map fun d => if d.id = c.id then f d else d) :
    ∃ d ∈ self.conversations, Evolves p self self' d c' := by
  obtain ⟨d, hd, rfl⟩ := List.mem_map.mp hc'
  by_cases hid : d.id = c.id
  · rw [if_pos hid, hw.eq_of_id hd hc hid]
    exact ⟨c, hc, hf⟩
  · rw [if_neg hid]
    exact ⟨d, hd, .refl ..⟩

theorem callWorker_conversations {c : Conversation} (hproxy : c.workerProxy = true)
    (call : WorkerCall) :
    (self.callWorker c call).conversations = self.conversations.map fun d =>
      if d.id = c.id then
        (if d.connected then { d with outstanding := d.outstanding ++ [call] } else d)
      else d := by
  rw [callWorker_of_proxy hproxy]
  rfl

/-- A conversation after a move has just been started, or is the image of one
before. -/
theorem Move.image (h : Move p self self') (hw : WellFormed self) {c' : Conversation}
    (hc' : c' ∈ self'.conversations) :
    (∃ c ∈ self.conversations, Evolves p self self' c c') ∨
      ∃ serviceName pid, MayInsert p self (some pid) serviceName ∧
        self' = self.inserted serviceName pid ∧
        c' = { id := self.nextConversation, serviceName := serviceName, workerPid := pid } := by
  have hsame : c' ∈ self.conversations → ∃ c ∈ self.conversations, Evolves p self self' c c' :=
    fun hc => ⟨c', hc, .refl ..⟩
  cases h with
  | aside h => exact .inl (hsame (h.conversations ▸ hc'))
  | adjusts h =>
    obtain ⟨c, hc, rfl⟩ := List.mem_map.mp hc'
    exact .inl ⟨c, hc, .harmless h⟩
  | registers hc hproxy => exact .inl (image_modify hw hc (.registers hproxy rfl) hc')
  | @calls c call hc hprompted _ =>
    left
    cases hproxy : c.workerProxy with
    | false =>
      rw [callWorker_of_no_proxy hproxy] at hc'
      exact hsame hc'
    | true =>
      rw [callWorker_conversations hproxy] at hc'
      refine image_modify hw hc
        (f := fun d => if d.connected then { d with outstanding := d.outstanding ++ [call] } else d)
        ?_ hc'
      show Evolves p self _ c
        (if c.connected then { c with outstanding := c.outstanding ++ [call] } else c)
      split
      · rename_i hconnected
        refine .called hprompted hproxy hconnected ?_
        rw [callWorker_log, if_pos hproxy]
      · exact .refl ..
  | @asks c pid uid hc hsession =>
    left
    have hproxy : c.workerProxy = true := hw.session c hc hsession
    rw [callWorker_conversations hproxy, modifyConversation, List.map_map] at hc'
    obtain ⟨d, hd, rfl⟩ := List.mem_map.mp hc'
    refine ⟨d, hd, ?_⟩
    simp only [Function.comp_apply]
    by_cases hid : d.id = c.id
    · have hdc : d = c := hw.eq_of_id hd hc hid
      subst hdc
      simp only [if_true]
      split
      · rename_i hconnected
        refine .asked hsession hproxy hconnected ?_
        rw [callWorker_log, if_pos hproxy]
        rfl
      · rename_i hconnected
        exact .askedInVain hsession (by simpa using hconnected)
    · simp only [if_neg hid]
      exact .refl ..
  | @inserts serviceName pid _ hinsert =>
    rcases mem_inserted.mp hc' with ⟨hc, _⟩ | hnew
    · exact .inl (hsame hc)
    · exact .inr ⟨serviceName, pid, hinsert, rfl, hnew⟩
  | insertsNull _ => exact .inl (hsame (mem_insertedNull.mp hc').1)
  | resets _ _ =>
    rw [doReset_conversations] at hc'
    cases hc'
  | steals _ _ => exact .inl (hsame (mem_stealConversation.mp hc').1)
  | forgetsCaller hc hdispatching hends =>
    exact .inl (image_modify hw hc (.forgetsCaller hdispatching hends) hc')
  | answers hc hconnected hcall hperform =>
    exact .inl (image_modify hw hc (.answers hconnected hcall hperform rfl) hc')
  | fails error state hc hconnected hcall hstate =>
    exact .inl (image_modify hw hc (.fails hconnected hcall hstate) hc')
  | sends hc hconnected hsend =>
    exact .inl (image_modify hw hc (.sends hconnected hsend) hc')
  | queryPends _ hc hnone => exact .inl (image_modify hw hc (.queryPends hnone) hc')
  | completes _ hc _ => exact .inl (image_modify hw hc .completes hc')
  | begins hc hnone hbegins => exact .inl (image_modify hw hc (.begins hbegins hnone rfl) hc')
  | returnsStarting _ hc _ => exact .inl (image_modify hw hc .returnsStarting hc')
  | _ => exact .inl (hsame hc')

/-- The number and the service of a conversation stay. -/
theorem Evolves.id {s s' : GdmSession} {c c' : Conversation} (h : Evolves p s s' c c') :
    c'.id = c.id := by
  cases h with
  | harmless h => exact h.id c
  | _ => rfl

theorem Evolves.serviceName {s s' : GdmSession} {c c' : Conversation}
    (h : Evolves p s s' c c') : c'.serviceName = c.serviceName := by
  cases h with
  | harmless h => exact h.serviceName c
  | _ => rfl

/-- No move changes the name or the user of a worker, or takes its proxy away. -/
theorem Evolves.name {s s' : GdmSession} {c c' : Conversation} (h : Evolves p s s' c c') :
    c'.name = c.name := by
  cases h with
  | harmless h => exact h.name c
  | _ => rfl

theorem Evolves.verified {s s' : GdmSession} {c c' : Conversation} (h : Evolves p s s' c c') :
    c'.verified = c.verified := by
  cases h with
  | harmless h => exact h.verified c
  | _ => rfl

theorem Evolves.workerProxy {s s' : GdmSession} {c c' : Conversation} (h : Evolves p s s' c c')
    (hproxy : c'.workerProxy = false) : c.workerProxy = false := by
  cases h with
  | harmless h => exact h.workerProxy c ▸ hproxy
  | registers _ _ => cases hproxy
  | _ => exact hproxy

/-! ## Entries of the history -/

/-- The reason for an entry of the history. -/
def Reason (p : Permits) (s : GdmSession) : SessionEffect → Prop
  | .called id call => ∃ c ∈ s.conversations, c.id = id ∧ c.workerProxy = true ∧
      (Prompted p s id call ∨
        s.sessionConversation = some id ∧ call.method = .StartReauthentication)
  | .calledNull _ _ => p.callsEarly
  | .signal (.verificationComplete serviceName) => ∃ c ∈ s.conversations, ∃ answer,
      c.serviceName = serviceName ∧ dispatching s.log = some (c.id, .success answer) ∧
        answer.Completes
  | .signal (.sessionOpened serviceName sessionId) => p.opens ∧ ∃ c ∈ s.conversations,
      c.serviceName = serviceName ∧ dispatching s.log = some (c.id, .success (.Open sessionId))
  | .signal (.sessionStarted serviceName pid id) => ∃ c ∈ s.conversations,
      c.serviceName = serviceName ∧ c.id = id ∧
        dispatching s.log = some (c.id, .success (.StartProgram pid))
  | .signal (.sessionExited code id) => p.marks (.sessionExited code id)
  | .signal (.sessionDied signum id) => p.marks (.sessionDied signum id)
  | .signal (.stopConflictingSession sessionId) => s.isOpened = true ∧ sessionId = s.sessionOpened
  | .signal (.reauthenticationStarted pid address) => ∃ c ∈ s.conversations,
      c.reauthPidOfCaller = pid ∧
        dispatching s.log = some (c.id, .success (.StartReauthentication address))
  | .started id _ pid => id = s.nextConversation ∧ p.spawns (some pid)
  | .freed _ pending starting => p.frees pending starting
  | .registered id => ∃ c ∈ s.conversations, c.id = id
  | .began id invocation => invocation = s.nextInvocation ∧ ∃ c ∈ s.conversations, c.id = id
  | .answered id call answer => ∃ c ∈ s.conversations, c.id = id ∧ c.connected = true ∧
      call ∈ c.outstanding ∧ (c.worker.perform call answer).isSome = true
  | .returned invocation _ => invocation = some s.nextInvocation ∨
      ∃ c ∈ s.conversations, c.startingInvocation = invocation ∧
        (invocation = none → p.returnsNull)
  | .delivered _ _ => False
  | .queryCompleted query _ => query = some s.nextQuery ∨
      ∃ c ∈ s.conversations, c.pendingInvocation = query ∧ (query = none → p.lapses)
  | .queryReceived query _ => query = s.nextQuery
  | .selectedUser username => p.selects username
  | .reset => p.resets
  | .signal _ | .killed _ => True

theorem reason_of_isMinor {effect : SessionEffect} (h : effect.isMinor = true) :
    Reason p self effect := by
  cases effect with
  | signal signal => cases signal <;> trivial
  | killed pid => trivial
  | _ => cases h

theorem reason_freedEntries {conversations : List Conversation}
    (h : ∀ c ∈ conversations, p.Frees c) :
    ∀ effect ∈ freedEntries conversations, Reason p self effect := by
  intro effect heffect
  obtain ⟨c, hc, rfl⟩ := List.mem_map.mp heffect
  exact h c hc

/-- Each entry that a move adds has its reason. -/
theorem Move.reasons (h : Move p self self') (hw : WellFormed self) :
    ∃ new, self'.log = self.log ++ new ∧ ∀ effect ∈ new, Reason p self effect := by
  have hone : ∀ {effect : SessionEffect}, Reason p self effect →
      ∀ x ∈ [effect], Reason p self x := by
    intro effect heffect x hx
    rw [List.mem_singleton.mp hx]
    exact heffect
  have hnil : ∀ x ∈ ([] : List SessionEffect), Reason p self x := by simp
  cases h with
  | aside haside =>
    obtain ⟨new, hlog, hminor⟩ := haside.log
    exact ⟨new, hlog, fun effect heffect => reason_of_isMinor (hminor effect heffect)⟩
  | adjusts _ => exact ⟨[], by simp, hnil⟩
  | @registers c hc _ => exact ⟨[.registered c.id], rfl, hone ⟨c, hc, rfl⟩⟩
  | selects hselects => exact ⟨_, rfl, hone hselects⟩
  | @calls c call hc hprompted hearly =>
    refine ⟨_, callWorker_log c call, ?_⟩
    cases hproxy : c.workerProxy with
    | true => exact hone ⟨c, hc, rfl, hproxy, .inl hprompted⟩
    | false => exact hone (hearly hproxy)
  | @asks c pid uid hc hsession =>
    have hproxy : c.workerProxy = true := hw.session c hc hsession
    refine ⟨[.called c.id (.StartReauthentication pid uid)], ?_,
      hone ⟨c, hc, rfl, hproxy, .inr ⟨hsession, rfl⟩⟩⟩
    rw [callWorker_log, if_pos hproxy]
    rfl
  | @inserts serviceName pid _ hinsert =>
    refine ⟨_, inserted_log _ _, ?_⟩
    intro effect heffect
    rcases List.mem_cons.mp heffect with rfl | heffect
    · exact ⟨rfl, hinsert.spawns⟩
    · refine reason_freedEntries ?_ effect heffect
      intro c hc
      obtain ⟨hc, hname⟩ := List.mem_filter.mp hc
      exact hinsert.frees c hc (of_decide_eq_true hname)
  | @insertsNull serviceName hinsert =>
    refine ⟨_, insertedNull_log _, reason_freedEntries ?_⟩
    intro c hc
    obtain ⟨hc, hname⟩ := List.mem_filter.mp hc
    exact hinsert.frees c hc (of_decide_eq_true hname)
  | resets hresets hfrees =>
    refine ⟨_, doReset_log, ?_⟩
    intro effect heffect
    rcases List.mem_append.mp heffect with heffect | heffect
    · rcases List.mem_append.mp heffect with heffect | heffect
      · obtain ⟨c, _, rfl⟩ := List.mem_map.mp heffect
        trivial
      · exact reason_freedEntries hfrees effect heffect
    · exact hone (show Reason p self .reset from hresets) effect heffect
  | steals _ _ => exact ⟨[], by simp [stealConversation], hnil⟩
  | concludes hfrees => exact ⟨_, rfl, hone hfrees⟩
  | @verifies c answer hc hdispatching hcompletes =>
    exact ⟨_, rfl, hone ⟨c, hc, answer, rfl, hdispatching, hcompletes⟩⟩
  | @opens c sessionId hopens hc hdispatching =>
    exact ⟨_, rfl, hone ⟨hopens, c, hc, rfl, hdispatching⟩⟩
  | keepsSessionId _ _ => exact ⟨[], by simp, hnil⟩
  | setsOpened _ _ => exact ⟨[], by simp, hnil⟩
  | conflicts hopened => exact ⟨_, rfl, hone ⟨hopened, rfl⟩⟩
  | @starts c pid hc hdispatching => exact ⟨_, rfl, hone ⟨c, hc, rfl, rfl, hdispatching⟩⟩
  | @marks signal hend hmarks =>
    refine ⟨_, rfl, hone ?_⟩
    cases signal with
    | sessionExited
    | sessionDied => exact hmarks
    | _ => cases hend
  | @reauthenticates c address hc hdispatching =>
    exact ⟨_, rfl, hone ⟨c, hc, rfl, hdispatching⟩⟩
  | forgetsCaller _ _ _ => exact ⟨[], by simp [modifyConversation], hnil⟩
  | @answers c call answer worker hc hconnected hcall hperform =>
    exact ⟨_, rfl, hone ⟨c, hc, rfl, hconnected, hcall, by simp [hperform]⟩⟩
  | fails _ _ _ _ _ _ => exact ⟨[], by simp [reply, modifyConversation], hnil⟩
  | sends _ _ _ => exact ⟨[], by simp [modifyConversation], hnil⟩
  | queryPends serviceName _ _ => exact ⟨[.queryReceived self.nextQuery serviceName], rfl, hone rfl⟩
  | queryRefused serviceName reply =>
    refine ⟨[.queryReceived self.nextQuery serviceName,
      .queryCompleted (some self.nextQuery) reply], ?_, ?_⟩
    · simp [receiveQuery, completeQuery, emit]
    · intro effect heffect
      rcases List.mem_cons.mp heffect with rfl | heffect
      · rfl
      · have hreason : Reason p self (.queryCompleted (some self.nextQuery) reply) := .inl rfl
        exact hone hreason effect heffect
  | queryLost serviceName _ => exact ⟨[.queryReceived self.nextQuery serviceName], rfl, hone rfl⟩
  | queryAborts serviceName _ => exact ⟨[.queryReceived self.nextQuery serviceName], rfl, hone rfl⟩
  | @completes c reply hc hlapses =>
    exact ⟨[.queryCompleted c.pendingInvocation reply], rfl, hone (.inr ⟨c, hc, rfl, hlapses⟩)⟩
  | returnsCall error =>
    exact ⟨[.returned (some self.nextInvocation) error], rfl, hone (.inl rfl)⟩
  | losesCall _ => exact ⟨[], by simp, hnil⟩
  | @begins c username hc _ _ =>
    exact ⟨[.began c.id self.nextInvocation], rfl, hone ⟨rfl, c, hc, rfl⟩⟩
  | @returnsStarting c error hc hnull =>
    exact ⟨[.returned c.startingInvocation error], rfl, hone (.inr ⟨c, hc, rfl, hnull⟩)⟩

end GdmSession

end Gdm
