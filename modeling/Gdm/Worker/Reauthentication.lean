import Gdm.Session.Handlers
import Gdm.Worker.Handlers
import Mathlib.Data.Finmap

/-!
# Reauthentication in a worker

A worker whose session has started opens a server for each request to reauthenticate, and
keeps the request in a hash table under the process that it has been told of.  A client that
disconnects from a server takes from the table what is there under its own process.
-/

namespace Gdm

/-- `ReauthenticationRequest`; one that has been freed is no longer told anything. -/
structure ReauthenticationRequest where
  pidOfCaller : Int
  uidOfCaller : Nat
  session : GdmSession
  freed : Bool := false

/-- A worker with the requests that there have been; the table has their numbers. -/
structure ReauthenticationWorker where
  worker : GdmSessionWorker
  requests : List ReauthenticationRequest := []
  reauthenticationRequests : Finmap fun _ : Int => Nat := ∅
  replies : List (Except WorkerError String) := []

/-- What happens in the main loop of the worker: what the other modules have, a call of
StartReauthentication with the address that the new server gets, and the events of the
session of a request. -/
inductive ReauthenticationEvent
  | worker (event : WorkerEvent)
  | startReauthentication (pidOfCaller : Int) (uidOfCaller : Nat) (address : String)
  | session (request : Nat) (event : SessionEvent) (around : Surroundings)

namespace ReauthenticationWorker

variable (self : ReauthenticationWorker)

/-- No function of the worker or of a session has ended the process. -/
def running : Bool :=
  self.worker.status = .running &&
    self.requests.all fun request => request.freed || request.session.status = .running

def modifyRequest (r : Nat) (f : ReauthenticationRequest → ReauthenticationRequest) :
    ReauthenticationWorker :=
  { self with requests := self.requests.modify r f }

/-- `reauthentication_request_free` -/
def freeRequest (r : Nat) : ReauthenticationWorker :=
  self.modifyRequest r fun request => { request with freed := true }

/-- `on_reauthentication_client_disconnected` -/
def onReauthenticationClientDisconnected (pidOfClient : Int) : ReauthenticationWorker :=
  match self.reauthenticationRequests.lookup pidOfClient with
  | none => self
  | some r =>
    { self.freeRequest r with
      reauthenticationRequests := self.reauthenticationRequests.erase pidOfClient }

/-- `reauthentication_request_new` -/
def reauthenticationRequestNew (pidOfCaller : Int) (uidOfCaller : Nat) (address : String) :
    ReauthenticationWorker :=
  { self with
    requests := self.requests ++
      [{ pidOfCaller := pidOfCaller
         uidOfCaller := uidOfCaller
         session := .new .reauthenticationRequest self.worker.hostname self.worker.displayDevice
           self.worker.displaySeatId self.worker.displayIsLocal }]
    replies := self.replies ++ [.ok address] }

/-- `gdm_session_worker_handle_start_reauthentication` -/
def handleStartReauthentication (pidOfCaller : Int) (uidOfCaller : Nat) (address : String) :
    ReauthenticationWorker :=
  if self.worker.state ≠ .sessionStarted then
    match getStateName self.worker.state.toNat with
    | none => { self with worker := self.worker.abort .getStateName }
    | some name =>
      { self with
        replies := self.replies ++
          [.error ⟨.wrongState, "Cannot reauthenticate while in state " ++ name⟩] }
  else
    let created := self.reauthenticationRequestNew pidOfCaller uidOfCaller address
    let replaced :=
      match self.reauthenticationRequests.lookup pidOfCaller with
      | none => created
      | some old => created.freeRequest old
    { replaced with
      reauthenticationRequests :=
        replaced.reauthenticationRequests.insert pidOfCaller self.requests.length }

def stepSession (r : Nat) (event : SessionEvent × Surroundings) : ReauthenticationWorker :=
  self.modifyRequest r fun request => { request with session := request.session.step event }

/-- The client of a server disconnects; the session goes if it is that of the request which
is removed. -/
def clientDisconnects (r : Nat) (pid : Int) (around : Surroundings) : ReauthenticationWorker :=
  (self.stepSession r (.clientDisconnected pid,
    { around with
      isOwnClient := self.reauthenticationRequests.lookup pid =
        some r })).onReauthenticationClientDisconnected pid

/-- An event of the session of a request.  The worker calls no function of such a session but
where it is told something, and it is told of a client that has disconnected where a
connection is closed and nowhere else. -/
def receive (r : Nat) (event : SessionEvent) (around : Surroundings) : ReauthenticationWorker :=
  match self.requests[r]? with
  | none => self
  | some request =>
    if request.freed then self
    else
      match event with
      | .owner _ => self
      | .clientDisconnected pid =>
        if pid ∈ request.session.outsideConnections then self.clientDisconnects r pid around
        else self
      | event => self.stepSession r (event, around)

/-- One event of the main loop, as long as the process runs. -/
def step (event : ReauthenticationEvent) : ReauthenticationWorker :=
  if self.running then
    match event with
    | .worker event => { self with worker := self.worker.step event }
    | .startReauthentication pidOfCaller uidOfCaller address =>
      self.handleStartReauthentication pidOfCaller uidOfCaller address
    | .session r event around => self.receive r event around
  else self

/-- The worker from its construction on. -/
def machine : EventMachine ReauthenticationWorker ReauthenticationEvent where
  Start self := ∃ worker, GdmSessionWorker.machine.Start worker ∧ self = { worker := worker }
  step := step

/-! ## The table and the requests -/

variable {self}

/-- The table has the requests that have not been freed, each under the process that it has
been made for. -/
structure Kept (state : ReauthenticationWorker) : Prop where
  entry : ∀ pid r, state.reauthenticationRequests.lookup pid = some r →
    ∃ request, state.requests[r]? = some request ∧ request.pidOfCaller = pid ∧
      request.freed = false
  request : ∀ r request, state.requests[r]? = some request → request.freed = false →
    state.reauthenticationRequests.lookup request.pidOfCaller = some r

theorem getElem?_modifyRequest (r i : Nat) (f : ReauthenticationRequest → ReauthenticationRequest) :
    (self.modifyRequest r f).requests[i]? =
      if r = i then (self.requests[i]?).map f else self.requests[i]? := by
  unfold modifyRequest
  split
  · rename_i hri
    subst hri
    rw [List.getElem?_modify_eq]
    rfl
  · rename_i hri
    rw [List.getElem?_modify_ne _ _ hri]

theorem Kept.stepSession (h : Kept self) (r : Nat) (event : SessionEvent × Surroundings) :
    Kept (self.stepSession r event) := by
  constructor
  · intro pid i hi
    obtain ⟨request, hrequest, hpid, hfreed⟩ := h.entry pid i hi
    unfold ReauthenticationWorker.stepSession
    rw [getElem?_modifyRequest]
    split
    · exact ⟨{ request with session := request.session.step event }, by rw [hrequest]; rfl, hpid,
        hfreed⟩
    · exact ⟨request, hrequest, hpid, hfreed⟩
  · intro i request hi hfreed
    unfold ReauthenticationWorker.stepSession at hi
    rw [getElem?_modifyRequest] at hi
    split at hi
    · obtain ⟨before, hbefore, rfl⟩ := Option.map_eq_some_iff.mp hi
      exact h.request i before hbefore hfreed
    · exact h.request i request hi hfreed

/-- What is removed is freed. -/
theorem Kept.onReauthenticationClientDisconnected (h : Kept self) (pid : Int) :
    Kept (self.onReauthenticationClientDisconnected pid) := by
  unfold ReauthenticationWorker.onReauthenticationClientDisconnected
  split
  · exact h
  · rename_i r hr
    constructor
    · intro pid' i hi
      dsimp only at hi
      by_cases hsame : pid' = pid
      · rw [hsame, Finmap.lookup_erase] at hi
        cases hi
      · rw [Finmap.lookup_erase_ne hsame] at hi
        obtain ⟨request, hrequest, hpid, hfreed⟩ := h.entry pid' i hi
        refine ⟨request, ?_, hpid, hfreed⟩
        show (self.freeRequest r).requests[i]? = some request
        unfold freeRequest
        rw [getElem?_modifyRequest, if_neg]
        · exact hrequest
        · rintro rfl
          -- the one that is freed is for another process
          obtain ⟨removed, hremoved, hpid', -⟩ := h.entry pid r hr
          rw [hrequest] at hremoved
          obtain rfl := Option.some.inj hremoved
          exact hsame (hpid.symm.trans hpid')
    · intro i request hi hfreed
      have hi' : (self.freeRequest r).requests[i]? = some request := hi
      unfold freeRequest at hi'
      rw [getElem?_modifyRequest] at hi'
      split at hi'
      · obtain ⟨before, -, rfl⟩ := Option.map_eq_some_iff.mp hi'
        cases hfreed
      · rename_i hri
        have hfound := h.request i request hi' hfreed
        dsimp only
        rw [Finmap.lookup_erase_ne]
        · exact hfound
        · intro hpid
          rw [hpid, hr] at hfound
          exact hri (Option.some.inj hfound)

/-- The request that is replaced, if there is one, is freed, and the new one is the last. -/
theorem handleStartReauthentication_started (h : Kept self) (pid : Int) (uid : Nat)
    (address : String) (hstate : self.worker.state = .sessionStarted) :
    (self.handleStartReauthentication pid uid address).reauthenticationRequests =
        self.reauthenticationRequests.insert pid self.requests.length ∧
      (∃ request, (self.handleStartReauthentication pid uid
          address).requests[self.requests.length]? = some request ∧
        request.pidOfCaller = pid ∧ request.freed = false) ∧
      ∀ i, i ≠ self.requests.length →
        (self.handleStartReauthentication pid uid address).requests[i]? =
          if self.reauthenticationRequests.lookup pid = some i then
            (self.requests[i]?).map fun request => { request with freed := true }
          else self.requests[i]? := by
  obtain ⟨created, hcreated⟩ :
      ∃ created, created = self.reauthenticationRequestNew pid uid address := ⟨_, rfl⟩
  have hlast : ∃ request, created.requests[self.requests.length]? = some request ∧
      request.pidOfCaller = pid ∧ request.freed = false := by
    subst hcreated
    exact ⟨{ pidOfCaller := pid, uidOfCaller := uid, session := _ },
      List.getElem?_concat_length, rfl, rfl⟩
  have hbefore : ∀ i, i ≠ self.requests.length → created.requests[i]? = self.requests[i]? := by
    intro i hi
    subst hcreated
    rcases Nat.lt_or_gt_of_ne hi with hlt | hgt
    · exact List.getElem?_append_left hlt
    · rw [List.getElem?_eq_none (Nat.le_of_lt hgt), List.getElem?_eq_none]
      simpa [reauthenticationRequestNew] using Nat.succ_le_of_lt hgt
  unfold handleStartReauthentication
  rw [if_neg (by simp [hstate]), ← hcreated]
  cases hold : self.reauthenticationRequests.lookup pid with
  | none =>
    refine ⟨by rw [hcreated]; rfl, hlast, ?_⟩
    intro i hi
    rw [if_neg (by simp)]
    exact hbefore i hi
  | some old =>
    obtain ⟨request, hrequest, -⟩ := h.entry pid old hold
    have hlt : old < self.requests.length := (List.getElem?_eq_some_iff.mp hrequest).1
    refine ⟨by rw [hcreated]; rfl, ?_, ?_⟩
    · show ∃ request, (created.freeRequest old).requests[self.requests.length]? = some request ∧ _
      unfold freeRequest
      rw [getElem?_modifyRequest, if_neg (by omega)]
      exact hlast
    · intro i hi
      show (created.freeRequest old).requests[i]? = _
      unfold freeRequest
      rw [getElem?_modifyRequest, hbefore i hi]
      simp only [Option.some.injEq]

theorem Kept.handleStartReauthentication (h : Kept self) (pid : Int) (uid : Nat)
    (address : String) : Kept (self.handleStartReauthentication pid uid address) := by
  by_cases hstate : self.worker.state = .sessionStarted
  · obtain ⟨htable, ⟨new, hnew, hpid, hfreed⟩, hold⟩ :=
      handleStartReauthentication_started h pid uid address hstate
    constructor
    · intro pid' i hi
      rw [htable] at hi
      by_cases hsame : pid' = pid
      · subst hsame
        rw [Finmap.lookup_insert] at hi
        obtain rfl := Option.some.inj hi
        exact ⟨new, hnew, hpid, hfreed⟩
      · rw [Finmap.lookup_insert_of_ne _ hsame] at hi
        obtain ⟨request, hrequest, hpid', hfreed'⟩ := h.entry pid' i hi
        refine ⟨request, ?_, hpid', hfreed'⟩
        have hlt : i < self.requests.length := (List.getElem?_eq_some_iff.mp hrequest).1
        rw [hold i (Nat.ne_of_lt hlt), if_neg]
        · exact hrequest
        · intro hreplaced
          obtain ⟨replaced, hreplaced, hpid'', -⟩ := h.entry pid i hreplaced
          rw [hrequest] at hreplaced
          obtain rfl := Option.some.inj hreplaced
          exact hsame (hpid'.symm.trans hpid'')
    · intro i request hi hlive
      rw [htable]
      by_cases hlast : i = self.requests.length
      · subst hlast
        rw [hnew] at hi
        obtain rfl := Option.some.inj hi
        rw [hpid, Finmap.lookup_insert]
      · rw [hold i hlast] at hi
        split at hi
        · obtain ⟨before, -, rfl⟩ := Option.map_eq_some_iff.mp hi
          cases hlive
        · rename_i hkept
          have hfound := h.request i request hi hlive
          rw [Finmap.lookup_insert_of_ne]
          · exact hfound
          · intro hpid'
            rw [hpid'] at hfound
            exact hkept hfound
  · unfold ReauthenticationWorker.handleStartReauthentication
    rw [if_pos hstate]
    split
    · exact ⟨h.entry, h.request⟩
    · exact ⟨h.entry, h.request⟩

theorem Kept.receive (h : Kept self) (r : Nat) (event : SessionEvent) (around : Surroundings) :
    Kept (self.receive r event around) := by
  unfold ReauthenticationWorker.receive
  split
  · exact h
  · split
    · exact h
    · split
      · exact h
      · split
        · exact (h.stepSession r _).onReauthenticationClientDisconnected _
        · exact h
      · exact h.stepSession r _

theorem Kept.step (h : Kept self) (event : ReauthenticationEvent) : Kept (self.step event) := by
  unfold ReauthenticationWorker.step
  split
  · cases event with
    | worker event => exact ⟨h.entry, h.request⟩
    | startReauthentication pid uid address => exact h.handleStartReauthentication pid uid address
    | session r event around => exact h.receive r event around
  · exact h

theorem run_kept {s : ReauthenticationWorker} (hstart : machine.Start s)
    (events : List ReauthenticationEvent) : Kept (machine.run s events) := by
  apply machine.run_invariant Kept
  · intro self event h
    exact h.step event
  · obtain ⟨worker, -, rfl⟩ := hstart
    constructor
    · intro pid r hr
      rw [Finmap.lookup_empty] at hr
      cases hr
    · intro r request hr
      cases hr

/-! ## Clients and their requests -/

/-- The event is that a client disconnects from the server of a request. -/
def Disconnects (self : ReauthenticationWorker) (event : ReauthenticationEvent) (r : Nat)
    (pid : Int) : Prop :=
  ∃ around request, event = .session r (.clientDisconnected pid) around ∧ self.running = true ∧
    self.requests[r]? = some request ∧ request.freed = false ∧
    pid ∈ request.session.outsideConnections

/-- A client that disconnects takes its request with it and no other one, and without that no
request goes whose client is connected. -/
def RemovesOwn (self : ReauthenticationWorker) (event : ReauthenticationEvent) : Prop :=
  (∀ r pid, Disconnects self event r pid →
    ∀ key j, self.reauthenticationRequests.lookup key = some j →
      ((self.step event).reauthenticationRequests.lookup key = some j ↔ j ≠ r)) ∧
  ((∀ r pid, ¬ Disconnects self event r pid) →
    ∀ key j request, self.reauthenticationRequests.lookup key = some j →
      self.requests[j]? = some request → request.session.clientIsConnected = true →
      (self.step event).reauthenticationRequests.lookup key = some j)

/-- A client that disconnects from a server is the process that the request has been made for,
and the process of a new request has no other one whose client is connected. -/
def OwnProcess (self : ReauthenticationWorker) (event : ReauthenticationEvent) : Prop :=
  (∀ r pid request, Disconnects self event r pid → self.requests[r]? = some request →
    pid = request.pidOfCaller) ∧
  ∀ pid uid address, event = .startReauthentication pid uid address → self.running = true →
    self.worker.state = .sessionStarted →
    ∀ j request, self.reauthenticationRequests.lookup pid = some j →
      self.requests[j]? = some request → request.session.clientIsConnected = false

theorem onReauthenticationClientDisconnected_lookup (pid key : Int) :
    (self.onReauthenticationClientDisconnected pid).reauthenticationRequests.lookup key =
      if key = pid then none else self.reauthenticationRequests.lookup key := by
  unfold onReauthenticationClientDisconnected
  split
  · rename_i hnone
    split
    · rename_i hsame
      rw [hsame, hnone]
    · rfl
  · split
    · rename_i hsame
      rw [hsame, Finmap.lookup_erase]
    · rename_i hne
      rw [Finmap.lookup_erase_ne hne]

theorem Disconnects.lookup {event : ReauthenticationEvent} {r : Nat} {pid : Int}
    (h : Disconnects self event r pid) (key : Int) :
    (self.step event).reauthenticationRequests.lookup key =
      if key = pid then none else self.reauthenticationRequests.lookup key := by
  obtain ⟨around, request, rfl, hrunning, hrequest, hlive, hconnected⟩ := h
  rw [step, if_pos hrunning]
  simp only [receive, hrequest, hlive, hconnected, Bool.false_eq_true, if_false, if_true]
  exact onReauthenticationClientDisconnected_lookup pid key

/-- Without a client that disconnects the table changes only by an insertion. -/
theorem lookup_of_not_disconnects {event : ReauthenticationEvent}
    (h : ∀ r pid, ¬ Disconnects self event r pid)
    (hstart : ∀ pid uid address, event = .startReauthentication pid uid address →
      self.running = true → self.worker.state ≠ .sessionStarted) :
    (self.step event).reauthenticationRequests = self.reauthenticationRequests := by
  unfold step
  split
  · rename_i hrunning
    cases event with
    | worker event => rfl
    | startReauthentication pid uid address =>
      simp only [handleStartReauthentication]
      rw [if_pos (hstart pid uid address rfl hrunning)]
      split
      · rfl
      · rfl
    | session r event around =>
      simp only [receive]
      split
      · rfl
      · rename_i request hrequest
        split
        · rfl
        · rename_i hlive
          split
          · rfl
          · rename_i pid
            split
            · rename_i hconnected
              exact absurd ⟨around, request, rfl, hrunning, hrequest, by simpa using hlive,
                hconnected⟩ (h r pid)
            · rfl
          · rfl
  · rfl

theorem removesOwn_iff (h : Kept self) (event : ReauthenticationEvent) :
    RemovesOwn self event ↔ OwnProcess self event := by
  constructor
  · rintro ⟨htakes, hkeeps⟩
    constructor
    · intro r pid request hdisconnects hrequest
      obtain ⟨_, request', _, _, hrequest', hlive, _⟩ := id hdisconnects
      rw [hrequest] at hrequest'
      obtain rfl := Option.some.inj hrequest'
      have hfound := h.request r request hrequest hlive
      have hgone := htakes r pid hdisconnects request.pidOfCaller r hfound
      rw [hdisconnects.lookup, hfound] at hgone
      by_contra hne
      rw [if_neg (Ne.symm hne)] at hgone
      exact hgone.mp rfl rfl
    · rintro pid uid address rfl hrunning hstate j request hj hrequest
      by_contra hconnected
      rw [Bool.not_eq_false] at hconnected
      have hstays := hkeeps (by rintro r pid' ⟨_, _, hevent, -⟩; cases hevent) pid j request hj
        hrequest hconnected
      rw [step, if_pos hrunning, (handleStartReauthentication_started h _ _ _ hstate).1,
        Finmap.lookup_insert] at hstays
      have hlt : j < self.requests.length := (List.getElem?_eq_some_iff.mp hrequest).1
      exact Nat.ne_of_gt hlt (Option.some.inj hstays)
  · rintro ⟨hown, hnew⟩
    constructor
    · intro r pid hdisconnects key j hj
      obtain ⟨_, request, _, _, hrequest, hlive, _⟩ := id hdisconnects
      obtain rfl := hown r pid request hdisconnects hrequest
      have hfound := h.request r request hrequest hlive
      rw [hdisconnects.lookup]
      split
      · rename_i hkey
        rw [hkey, hfound] at hj
        obtain rfl := Option.some.inj hj
        simp
      · rename_i hkey
        refine iff_of_true hj ?_
        rintro rfl
        obtain ⟨request', hrequest', hpid, -⟩ := h.entry key j hj
        rw [hrequest] at hrequest'
        obtain rfl := Option.some.inj hrequest'
        exact hkey hpid.symm
    · intro hnone key j request hj hrequest hconnected
      by_cases hstart : ∃ pid uid address, event = .startReauthentication pid uid address ∧
          self.running = true ∧ self.worker.state = .sessionStarted
      · obtain ⟨pid, uid, address, rfl, hrunning, hstate⟩ := hstart
        rw [step, if_pos hrunning, (handleStartReauthentication_started h _ _ _ hstate).1,
          Finmap.lookup_insert_of_ne]
        · exact hj
        · rintro rfl
          have hfree := hnew key uid address rfl hrunning hstate j request hj hrequest
          rw [hconnected] at hfree
          cases hfree
      · rw [lookup_of_not_disconnects hnone]
        · exact hj
        · intro pid uid address hevent hrunning hstate
          exact hstart ⟨pid, uid, address, hevent, hrunning, hstate⟩

/-- A worker that has just been constructed. -/
def new (isReauthSession : Bool) (accounts : String → Option Account) : ReauthenticationWorker :=
  { worker := .new isReauthSession accounts }

theorem start_new (isReauthSession : Bool) (accounts : String → Option Account) :
    machine.Start (new isReauthSession accounts) :=
  ⟨_, ⟨isReauthSession, accounts, rfl⟩, rfl⟩

/-- All through a run a client takes its own request with it, and no request goes before its
client, just when the processes of clients and requests are the same ones. -/
theorem run_removesOwnRequest (isReauthSession : Bool) (accounts : String → Option Account)
    (events : List ReauthenticationEvent) :
    machine.Meets OwnProcess (new isReauthSession accounts) events ↔
      ∀ before event after, events = before ++ event :: after →
        RemovesOwn (machine.run (new isReauthSession accounts) before) event := by
  have hkept := run_kept (start_new isReauthSession accounts)
  rw [EventMachine.meets_iff_forall_step]
  constructor
  · intro hmeets before event after hes
    exact (removesOwn_iff (hkept before) event).mpr (hmeets before event after hes)
  · intro hremoves before event after hes
    exact (removesOwn_iff (hkept before) event).mp (hremoves before event after hes)

/-- A request for one process whose server another one connects to. -/
def otherClient : List ReauthenticationEvent :=
  GdmSessionWorker.programLogin.map .worker ++
    [.startReauthentication 700 1000 "unix:abstract=a", .session 0 (.clientConnected 701) {}]

/-- The client disconnects, and the request is still there. -/
theorem run_otherClient :
    ¬ ∀ (before : List ReauthenticationEvent) (event : ReauthenticationEvent),
      RemovesOwn (machine.run (new false fun _ => none) before) event := by
  intro h
  obtain ⟨htakes, -⟩ := h otherClient (.session 0 (.clientDisconnected 701) {})
  have hfound : (machine.run (new false fun _ => none)
      otherClient).reauthenticationRequests.lookup 700 = some 0 := by decide +kernel
  have hstays : ((machine.run (new false fun _ => none) otherClient).step
      (.session 0 (.clientDisconnected 701) {})).reauthenticationRequests.lookup 700 = some 0 := by
    decide +kernel
  have hany : ((machine.run (new false fun _ => none) otherClient).requests[0]?.any fun request =>
      !request.freed && decide (701 ∈ request.session.outsideConnections)) = true := by
    decide +kernel
  obtain ⟨request, hrequest, hconnected⟩ := (Option.any_eq_true _ _).mp hany
  simp only [Bool.and_eq_true, Bool.not_eq_true', decide_eq_true_eq] at hconnected
  have hrunning : (machine.run (new false fun _ => none) otherClient).running = true := by
    decide +kernel
  exact (htakes 0 701 ⟨{}, request, rfl, hrunning, hrequest, hconnected⟩ 700 0 hfound).mp
    hstays rfl

end ReauthenticationWorker

end Gdm
