import Gdm.Wrapper.Lifecycle
import Mathlib.Data.List.Infix

/-!
# What a session is given

The session is started in the environment of the very X server and message bus that its program
has started, and the display manager hears of the session and of its display in this order.
-/

namespace Gdm

open Environ WrapperState

/-- What does not change of a process once it has been started. -/
structure ProcessTexts where
  argv : List (List Char)
  environment : Environ
  line : Option (List Char)
  deriving DecidableEq, Repr

def Subprocess.texts (self : Subprocess) : ProcessTexts :=
  { argv := self.argv, environment := self.environment, line := self.line }

@[simp] theorem Subprocess.finish_texts (self : Subprocess) (ending : ProcessEnding) :
    (self.finish ending).texts = self.texts := rfl

@[simp] theorem Subprocess.sendSigterm_texts (self : Subprocess) :
    self.sendSigterm.texts = self.texts := by
  simp [Subprocess.texts]

namespace WrapperProcess

variable {program : WrapperProgram} {config : WrapperConfig} {self next : WrapperProcess}

def texts (self : WrapperProcess) (role : SubprocessRole) : Option ProcessTexts :=
  (self.processes role).map Subprocess.texts

/-! ## The calls -/

/-- What a call of `main` asks of others, and what follows from it later. -/
def asked (self : WrapperProcess) : StartCall → List WrapperCall
  | .updateBusEnvironment => [.updateActivationEnvironment self.displayName self.authFile]
  | .registerSession => [.registerSession, .registerDisplay]
  | _ => []

/-- All that a program asks of others. -/
def wholeCalls (program : WrapperProgram) (self : WrapperProcess) : List WrapperCall :=
  match program with
  | .gdmXSession =>
    [.updateActivationEnvironment self.displayName self.authFile, .registerSession,
      .registerDisplay]
  | .gdmWaylandSession true => [.registerSession, .registerDisplay]
  | .gdmWaylandSession false => []

theorem wholeCalls_eq : wholeCalls program self = program.startCalls.flatMap self.asked := by
  match program with
  | .gdmXSession => rfl
  | .gdmWaylandSession true => rfl
  | .gdmWaylandSession false => rfl

/-- What comes later in `main` than a call. -/
def ComesLater (call : StartCall) (rest : List StartCall) : Prop :=
  match call with
  | .spawnXServer => .updateBusEnvironment ∈ rest ∧ .spawnSession ∈ rest
  | .spawnBus | .importEnvironment => .spawnSession ∈ rest
  | .spawnSession => .spawnXServer ∉ rest ∧ .updateBusEnvironment ∉ rest
  | .registerSession => rest = []
  | _ => True

instance (call : StartCall) (rest : List StartCall) : Decidable (ComesLater call rest) := by
  unfold ComesLater
  split <;> infer_instance

theorem comesLater {call : StartCall} {rest : List StartCall}
    (h : call :: rest <:+ program.startCalls) : ComesLater call rest := by
  have hall : ∀ calls ∈ program.startCalls.tails, ∀ call ∈ calls.head?,
      ComesLater call calls.tail := by
    match program with
    | .gdmXSession => decide
    | .gdmWaylandSession true => decide
    | .gdmWaylandSession false => decide
  exact hall (call :: rest) ((List.mem_tails _ _).mpr h) call rfl

/-! ## What the session is given -/

/-- The file of the server is behind `-auth`, or there is none and `-auth` is the last word. -/
def AuthArgument (argv : List (List Char)) : Option (List Char) → Prop
  | none => ["-auth".toList] <:+ argv
  | some authFile => ["-auth".toList, authFile] <:+: argv

/-- The bus has taken over the display of the program. -/
def Told (wrapper : WrapperProcess) : Prop :=
  wrapper.activationEnvironment = some (wrapper.displayName, wrapper.authFile)

/-- The X server of the session has said its number, and the bus has been told of it. -/
structure Served (wrapper : WrapperProcess) : Prop where
  xServer : ∃ texts number, wrapper.texts .xServer = some texts ∧ texts.line = some number
  bus : wrapper.Told

/-- What is known of the processes by what the program has noted of them. -/
structure Ordered (program : WrapperProgram) (config : WrapperConfig) (wrapper : WrapperProcess) :
    Prop where
  xServer : ∀ texts number, wrapper.texts .xServer = some texts → texts.line = some number →
    wrapper.displayName = ':' :: number ∧ AuthArgument texts.argv wrapper.authFile
  bus : ∀ texts address, wrapper.texts .bus = some texts → texts.line = some address →
    wrapper.busAddress = some address
  session : ∀ texts, wrapper.texts .session = some texts →
    texts.environment = wrapper.sessionEnvironment program config ∧
      (program = .gdmXSession → wrapper.Served)
  calls : wrapper.calls <+: wholeCalls program wrapper
  registered : .registerSession ∈ wrapper.calls → ∃ texts, wrapper.texts .session = some texts
  timeout : wrapper.displayTimeout = true →
    wrapper.calls ++ [.registerDisplay] = wholeCalls program wrapper

/-- What is known before the calls that are left. -/
structure StartOrdered (program : WrapperProgram) (rest : List StartCall)
    (wrapper : WrapperProcess) : Prop where
  timeout : wrapper.displayTimeout = false
  fresh : ∀ role, role.startCall ∈ rest → wrapper.texts role = none
  done : ∃ done, program.startCalls = done ++ rest ∧ wrapper.calls = done.flatMap wrapper.asked
  xServer : .spawnXServer ∈ program.startCalls → .spawnXServer ∉ rest →
    ∃ texts number, wrapper.texts .xServer = some texts ∧ texts.line = some number
  bus : .updateBusEnvironment ∈ program.startCalls → .updateBusEnvironment ∉ rest → wrapper.Told
  session : .spawnSession ∉ rest → ∃ texts, wrapper.texts .session = some texts

/-- The state of the program as far as the session has to do with it. -/
structure SameSupplies (wrapper next : WrapperProcess) : Prop where
  state : next.toXWrapperState = wrapper.toXWrapperState
  texts : next.texts = wrapper.texts
  calls : next.calls = wrapper.calls
  activation : next.activationEnvironment = wrapper.activationEnvironment

theorem SameSupplies.sessionEnvironment (h : SameSupplies self next) :
    next.sessionEnvironment program config = self.sessionEnvironment program config := by
  unfold WrapperProcess.sessionEnvironment
  rw [h.state]

theorem SameSupplies.asked (h : SameSupplies self next) : next.asked = self.asked := by
  funext call
  cases call <;> simp [WrapperProcess.asked, h.state]

theorem SameSupplies.wholeCalls (h : SameSupplies self next) :
    wholeCalls program next = wholeCalls program self := by
  rw [wholeCalls_eq, wholeCalls_eq, h.asked]

theorem SameSupplies.told (h : SameSupplies self next) (htold : self.Told) : next.Told := by
  rw [Told, h.activation, h.state]
  exact htold

theorem SameSupplies.served (h : SameSupplies self next) (hserved : self.Served) :
    next.Served := by
  refine ⟨?_, h.told hserved.bus⟩
  rw [h.texts]
  exact hserved.xServer

theorem Ordered.congr (h : Ordered program config self) (hsame : SameSupplies self next)
    (htimeout : next.displayTimeout = true → self.displayTimeout = true) :
    Ordered program config next := by
  refine ⟨?_, ?_, ?_, ?_, ?_, ?_⟩
  · rw [hsame.texts, hsame.state]
    exact h.xServer
  · rw [hsame.texts, hsame.state]
    exact h.bus
  · rw [hsame.texts, hsame.sessionEnvironment]
    exact fun texts htexts => ⟨(h.session texts htexts).1,
      fun hprogram => hsame.served ((h.session texts htexts).2 hprogram)⟩
  · rw [hsame.calls, hsame.wholeCalls]
    exact h.calls
  · rw [hsame.calls, hsame.texts]
    exact h.registered
  · rw [hsame.calls, hsame.wholeCalls]
    exact fun htrue => h.timeout (htimeout htrue)

/-! ## The start -/

/-- What one call of `main` leaves, when it has returned. -/
structure OrderedAfter (program : WrapperProgram) (config : WrapperConfig) (call : StartCall)
    (rest : List StartCall) (performed : WrapperProcess × Bool) : Prop where
  ordered : Ordered program config performed.1
  start : performed.2 = true ∨ call.failureStatus = none → rest ≠ [] →
    StartOrdered program rest performed.1

/-- A call that has nothing to do with the processes and asks nothing of others. -/
theorem StartOrdered.aside {call : StartCall} {rest : List StartCall}
    (h : StartOrdered program (call :: rest) self) (hasked : self.asked call = [])
    (hxServer : call ≠ .spawnXServer) (hsession : call ≠ .spawnSession)
    (hasksSame : next.asked = self.asked) (hcalls : next.calls = self.calls)
    (htold : self.Told → next.Told) (htimeout : next.displayTimeout = self.displayTimeout)
    (hfresh : ∀ role, role.startCall ∈ rest → next.texts role = self.texts role)
    (htexts : ∀ role, role ≠ .bus → next.texts role = self.texts role) :
    StartOrdered program rest next := by
  obtain ⟨done, hstart, hdone⟩ := h.done
  have hbus : call ≠ .updateBusEnvironment := by
    rintro rfl
    cases hasked
  refine ⟨htimeout.trans h.timeout, ?_, ⟨done ++ [call], ?_, ?_⟩, ?_, ?_, ?_⟩
  · intro role hmem
    rw [hfresh role hmem]
    exact h.fresh role (List.mem_cons_of_mem _ hmem)
  · rw [hstart, List.append_assoc, List.singleton_append]
  · rw [hcalls, hdone, hasksSame, List.flatMap_append]
    simp [hasked]
  · intro hmem hnotMem
    rw [htexts _ (by decide)]
    exact h.xServer hmem (by simp [hxServer.symm, hnotMem])
  · intro hmem hnotMem
    exact htold (h.bus hmem (by simp [hbus.symm, hnotMem]))
  · intro hnotMem
    rw [htexts _ (by decide)]
    exact h.session (by simp [hsession.symm, hnotMem])

theorem Ordered.failed {call : StartCall} {rest : List StartCall}
    (h : Ordered program config self) (hstatus : call.failureStatus ≠ none) :
    OrderedAfter program config call rest (self, false) := by
  refine ⟨h, fun hret => ?_⟩
  rcases hret with htrue | hnone
  · cases htrue
  · exact absurd hnone hstatus

theorem Ordered.aside {call : StartCall} {rest : List StartCall} {ret : Bool}
    (h : Ordered program config self) (hstart : StartOrdered program (call :: rest) self)
    (hsame : SameSupplies self next) (htimeout : next.displayTimeout = self.displayTimeout)
    (hasked : self.asked call = []) (hxServer : call ≠ .spawnXServer)
    (hsession : call ≠ .spawnSession) : OrderedAfter program config call rest (next, ret) := by
  refine ⟨h.congr hsame fun htrue => htimeout.symm.trans htrue, fun _ _ => ?_⟩
  exact hstart.aside hasked hxServer hsession hsame.asked hsame.calls hsame.told htimeout
    (fun role _ => congrFun hsame.texts role) (fun role _ => congrFun hsame.texts role)

theorem texts_setProcess (role role' : SubprocessRole) (process : Subprocess) :
    (self.setProcess role process).texts role' =
      if role' = role then some process.texts else self.texts role' := by
  by_cases hsame : role' = role
  · subst hsame
    simp [texts, setProcess]
  · simp [texts, setProcess, hsame]

theorem authArgument_xServerArguments (authFile : Option (List Char)) :
    AuthArgument (self.xServerArguments config authFile) authFile := by
  cases authFile with
  | none =>
    refine ⟨config.xServer :: (vtArgument config.own).toList ++ ["-displayfd".toList, "3".toList],
      ?_⟩
    simp [xServerArguments]
  | some authFile =>
    refine ⟨config.xServer :: (vtArgument config.own).toList ++ ["-displayfd".toList, "3".toList],
      self.xServerOptions, ?_⟩
    simp [xServerArguments]

/-- Before the X server is started nothing has been asked of others. -/
theorem spawnXServer_ordered {rest : List StartCall} (h : Ordered program config self)
    (hstart : StartOrdered program (.spawnXServer :: rest) self)
    (hlater : ComesLater .spawnXServer rest) (authFile : Option (List Char)) (launch : Launch) :
    OrderedAfter program config .spawnXServer rest (self.spawnXServer config authFile launch) := by
  have hsession : self.texts .session = none :=
    hstart.fresh .session (List.mem_cons_of_mem _ hlater.2)
  cases launch with
  | noPipe => exact h.failed (by decide)
  | notStarted => exact h.failed (by decide)
  | silent =>
    refine ⟨⟨?_, h.bus, ?_, h.calls, h.registered, h.timeout⟩, fun hret => ?_⟩
    · intro texts number htexts hline
      rw [show (self.spawnXServer config authFile .silent).1.texts .xServer = _ from
        texts_setProcess .xServer .xServer _, if_pos rfl] at htexts
      obtain rfl := Option.some.inj htexts
      cases hline
    · intro texts htexts
      cases hsession.symm.trans htexts
    · rcases hret with htrue | hnone
      · cases htrue
      · cases hnone
  | wrote number =>
    have htexts : ∀ role, (self.spawnXServer config authFile (.wrote number)).1.texts role =
        if role = .xServer then
          some
            { argv := self.xServerArguments config authFile
              environment := launcherSetenv config.own "XORG_RUN_AS_USER_OK".toList ['1'] true
              line := some number }
        else self.texts role :=
      fun role => texts_setProcess .xServer role _
    have hcalls : (self.spawnXServer config authFile (.wrote number)).1.calls = self.calls := rfl
    have htimeout : (self.spawnXServer config authFile (.wrote number)).1.displayTimeout =
        self.displayTimeout := rfl
    have hbus : (self.spawnXServer config authFile (.wrote number)).1.busAddress =
        self.busAddress := rfl
    have hname : (self.spawnXServer config authFile (.wrote number)).1.displayName =
        ':' :: number := rfl
    have hfile : (self.spawnXServer config authFile (.wrote number)).1.authFile = authFile := rfl
    generalize (self.spawnXServer config authFile (.wrote number)) = performed at *
    obtain ⟨done, hdone, hself⟩ := hstart.done
    have hnotDone : .updateBusEnvironment ∉ done := by
      intro hmem
      have hnodup := startCalls_nodup program
      rw [hdone] at hnodup
      exact (List.nodup_append.mp hnodup).2.2 _ hmem _ (List.mem_cons_of_mem _ hlater.1) rfl
    have hasked : done.flatMap self.asked = done.flatMap performed.1.asked := by
      apply List.flatMap_congr
      intro call hmem
      cases call with
      | updateBusEnvironment => exact absurd hmem hnotDone
      | _ => rfl
    refine ⟨⟨?_, ?_, ?_, ?_, ?_, ?_⟩, fun _ _ => ⟨?_, ?_, ?_, ?_, ?_, ?_⟩⟩
    · intro texts number' hsome hline
      rw [htexts, if_pos rfl] at hsome
      obtain rfl := Option.some.inj hsome
      obtain rfl := Option.some.inj hline
      rw [hname, hfile]
      exact ⟨rfl, authArgument_xServerArguments authFile⟩
    · rw [htexts, if_neg (by decide), hbus]
      exact h.bus
    · intro texts hsome
      rw [htexts, if_neg (by decide), hsession] at hsome
      cases hsome
    · rw [hcalls, hself, hasked, wholeCalls_eq, hdone, List.flatMap_append]
      exact List.prefix_append _ _
    · rw [hcalls, htexts, if_neg (by decide)]
      exact h.registered
    · rw [htimeout, hstart.timeout]
      intro htrue
      cases htrue
    · exact htimeout.trans hstart.timeout
    · intro role hmem
      have hne : role ≠ .xServer := by
        rintro rfl
        have hnodup := startCalls_nodup program
        rw [hdone] at hnodup
        exact (List.nodup_cons.mp (List.nodup_append.mp hnodup).2.1).1 hmem
      rw [htexts, if_neg hne]
      exact hstart.fresh role (List.mem_cons_of_mem _ hmem)
    · refine ⟨done ++ [.spawnXServer], by rw [hdone]; simp, ?_⟩
      rw [hcalls, hself, hasked, List.flatMap_append]
      simp [asked]
    · exact fun _ _ => ⟨_, number, (htexts .xServer).trans (if_pos rfl), rfl⟩
    · exact fun _ hnotMem => absurd hlater.1 hnotMem
    · exact fun hnotMem => absurd hlater.2 hnotMem

theorem spawnBus_ordered {rest : List StartCall} (h : Ordered program config self)
    (hstart : StartOrdered program (.spawnBus :: rest) self)
    (hlater : ComesLater .spawnBus rest) (running : Bool) (launch : Launch) (connected : Bool) :
    OrderedAfter program config .spawnBus rest
      (self.spawnBus program config running launch connected) := by
  have hsession : self.texts .session = none :=
    hstart.fresh .session (List.mem_cons_of_mem _ hlater)
  obtain ⟨done, hdone, -⟩ := hstart.done
  have hbus : ∀ role : SubprocessRole, role.startCall ∈ rest → role ≠ .bus := by
    rintro role hmem rfl
    have hnodup := startCalls_nodup program
    rw [hdone] at hnodup
    exact (List.nodup_cons.mp (List.nodup_append.mp hnodup).2.1).1 hmem
  cases running with
  | true => exact h.aside hstart ⟨rfl, rfl, rfl, rfl⟩ rfl rfl (by decide) (by decide)
  | false =>
    cases launch with
    | noPipe => exact h.failed (by decide)
    | notStarted => exact h.failed (by decide)
    | silent =>
      refine ⟨⟨h.xServer, ?_, ?_, h.calls, h.registered, h.timeout⟩, fun hret => ?_⟩
      · intro texts address htexts hline
        rw [show (self.spawnBus program config false .silent connected).1.texts .bus = _ from
          texts_setProcess .bus .bus _, if_pos rfl] at htexts
        obtain rfl := Option.some.inj htexts
        cases hline
      · intro texts htexts
        cases hsession.symm.trans htexts
      · rcases hret with htrue | hnone
        · cases htrue
        · cases hnone
    | wrote address =>
      have htexts : ∀ role,
          (self.spawnBus program config false (.wrote address) connected).1.texts role =
            if role = .bus then
              some
                { argv := ["dbus-daemon".toList, "--print-address".toList,
                    program.busAddressFileno, "--session".toList]
                  environment := config.own
                  line := some address }
            else self.texts role :=
        fun role => texts_setProcess .bus role _
      refine ⟨⟨h.xServer, ?_, ?_, h.calls, h.registered, h.timeout⟩, fun _ _ => ?_⟩
      · intro texts address' hsome hline
        rw [htexts, if_pos rfl] at hsome
        obtain rfl := Option.some.inj hsome
        exact hline
      · intro texts hsome
        cases hsession.symm.trans hsome
      · have hasked :
            (self.spawnBus program config false (.wrote address) connected).1.asked =
              self.asked := by
          funext call
          cases call <;> rfl
        exact hstart.aside rfl (by decide) (by decide) hasked rfl id rfl
          (fun role hmem => (htexts role).trans (if_neg (hbus role hmem)))
          (fun role hne => (htexts role).trans (if_neg hne))

/-- The environment is imported before there is a session. -/
theorem importEnvironment_ordered {rest : List StartCall} (h : Ordered program config self)
    (hstart : StartOrdered program (.importEnvironment :: rest) self)
    (hlater : ComesLater .importEnvironment rest) (reply : Option Environ) :
    OrderedAfter program config .importEnvironment rest (self.importEnvironment reply) := by
  have hsession : self.texts .session = none :=
    hstart.fresh .session (List.mem_cons_of_mem _ hlater)
  cases reply with
  | none => exact h.aside hstart ⟨rfl, rfl, rfl, rfl⟩ rfl rfl (by decide) (by decide)
  | some environment =>
    refine ⟨⟨h.xServer, h.bus, ?_, h.calls, h.registered, h.timeout⟩, fun _ _ => ?_⟩
    · intro texts hsome
      cases hsession.symm.trans hsome
    · exact hstart.aside rfl (by decide) (by decide) rfl rfl id rfl (fun role _ => rfl)
        (fun role _ => rfl)

theorem updateBusEnvironment_ordered {rest : List StartCall} (h : Ordered program config self)
    (hstart : StartOrdered program (.updateBusEnvironment :: rest) self)
    (updated : Bool) :
    OrderedAfter program config .updateBusEnvironment rest
      (self.updateBusEnvironment updated) := by
  obtain ⟨done, hdone, hcalls⟩ := hstart.done
  have hwhole : program.startCalls = (done ++ [.updateBusEnvironment]) ++ rest := by
    rw [hdone]
    simp
  have hnext : self.calls ++ [.updateActivationEnvironment self.displayName self.authFile] =
      (done ++ [StartCall.updateBusEnvironment]).flatMap self.asked := by
    rw [List.flatMap_append, ← hcalls]
    rfl
  have hasked : Ordered program config { self with
      calls := self.calls ++ [.updateActivationEnvironment self.displayName self.authFile] } := by
    refine ⟨h.xServer, h.bus, ?_, ?_, ?_, ?_⟩
    · intro texts hsome
      obtain ⟨henvironment, hserved⟩ := h.session texts hsome
      exact ⟨henvironment, fun hprogram =>
        ⟨(hserved hprogram).xServer, (hserved hprogram).bus⟩⟩
    · have hall : wholeCalls program self =
          (done ++ [StartCall.updateBusEnvironment]).flatMap self.asked ++
            rest.flatMap self.asked := by
        rw [wholeCalls_eq, hwhole]
        exact List.flatMap_append
      show _ <+: wholeCalls program self
      rw [hall, ← hnext]
      exact List.prefix_append _ _
    · intro hmem
      rcases List.mem_append.mp hmem with hbefore | hnew
      · exact h.registered hbefore
      · cases List.mem_singleton.mp hnew
    · intro htrue
      cases hstart.timeout.symm.trans htrue
  cases updated with
  | false => exact hasked.failed (by decide)
  | true =>
    refine ⟨⟨h.xServer, h.bus, ?_, hasked.calls, hasked.registered, hasked.timeout⟩,
      fun _ _ => ⟨hstart.timeout, ?_, ⟨done ++ [.updateBusEnvironment], hwhole, ?_⟩, ?_, ?_, ?_⟩⟩
    · intro texts hsome
      obtain ⟨henvironment, hserved⟩ := h.session texts hsome
      exact ⟨henvironment, fun hprogram => ⟨(hserved hprogram).xServer, rfl⟩⟩
    · exact fun role hmem => hstart.fresh role (List.mem_cons_of_mem _ hmem)
    · have hsame : (self.updateBusEnvironment true).1.asked = self.asked := by
        funext call
        cases call <;> rfl
      rw [hsame]
      exact hnext
    · exact fun hmem hnotMem => hstart.xServer hmem (by simp [hnotMem])
    · exact fun _ _ => rfl
    · exact fun hnotMem => hstart.session (by simp [hnotMem])

/-- The session is started when all that it needs is there. -/
theorem spawnSession_ordered {rest : List StartCall} (h : Ordered program config self)
    (hstart : StartOrdered program (.spawnSession :: rest) self)
    (hlater : ComesLater .spawnSession rest) (started : Bool) :
    OrderedAfter program config .spawnSession rest
      (self.spawnSession program config started) := by
  obtain ⟨done, hdone, hcalls⟩ := hstart.done
  cases hargv : self.sessionArguments program config with
  | none =>
    simp only [WrapperProcess.spawnSession, hargv]
    exact h.failed (by decide)
  | some argv =>
    cases started with
    | false =>
      simp only [WrapperProcess.spawnSession, hargv]
      exact h.failed (by decide)
    | true =>
      have hresult : self.spawnSession program config true =
          ((self.setProcess .session
            { argv := argv, environment := self.sessionEnvironment program config }).keep .session,
            true) := by
        simp only [WrapperProcess.spawnSession, hargv, if_true]
      rw [hresult]
      have htexts : ∀ role, ((self.setProcess .session
          { argv := argv, environment := self.sessionEnvironment program config }).keep
            .session).texts role =
          if role = .session then
            some
              { argv := argv, environment := self.sessionEnvironment program config, line := none }
          else self.texts role :=
        fun role => texts_setProcess .session role _
      have hserved : program = .gdmXSession → self.Served := by
        rintro rfl
        exact ⟨hstart.xServer (by decide) (by simp [hlater.1]),
          hstart.bus (by decide) (by simp [hlater.2])⟩
      refine ⟨⟨h.xServer, h.bus, ?_, h.calls, ?_, h.timeout⟩,
        fun _ _ => ⟨hstart.timeout, ?_, ?_, ?_, ?_, ?_⟩⟩
      · intro texts hsome
        rw [htexts, if_pos rfl] at hsome
        obtain rfl := Option.some.inj hsome
        exact ⟨rfl, fun hprogram => ⟨(hserved hprogram).xServer, (hserved hprogram).bus⟩⟩
      · exact fun _ => ⟨_, (htexts .session).trans (if_pos rfl)⟩
      · intro role hmem
        have hne : role ≠ .session := by
          rintro rfl
          have hnodup := startCalls_nodup program
          rw [hdone] at hnodup
          exact (List.nodup_cons.mp (List.nodup_append.mp hnodup).2.1).1 hmem
        rw [htexts, if_neg hne]
        exact hstart.fresh role (List.mem_cons_of_mem _ hmem)
      · refine ⟨done ++ [.spawnSession], by rw [hdone]; simp, ?_⟩
        rw [List.flatMap_append]
        exact hcalls.trans (List.append_nil _).symm
      · exact fun hmem hnotMem => hstart.xServer hmem (by simp [hnotMem])
      · exact fun hmem hnotMem => hstart.bus hmem (by simp [hnotMem])
      · exact fun _ => ⟨_, (htexts .session).trans (if_pos rfl)⟩

theorem registerSession_ordered {rest : List StartCall} (h : Ordered program config self)
    (hstart : StartOrdered program (.registerSession :: rest) self)
    (hlater : ComesLater .registerSession rest) (registered : Bool) :
    OrderedAfter program config .registerSession rest (self.registerSession registered) := by
  obtain ⟨done, hdone, hcalls⟩ := hstart.done
  obtain rfl := hlater
  have hwhole : wholeCalls program self = self.calls ++ [.registerSession, .registerDisplay] := by
    rw [wholeCalls_eq, hdone, List.flatMap_append, ← hcalls]
    rfl
  have hasked : Ordered program config { self with calls := self.calls ++ [.registerSession] } := by
    refine ⟨h.xServer, h.bus, ?_, ?_, fun _ => hstart.session (by simp), ?_⟩
    · intro texts hsome
      obtain ⟨henvironment, hserved⟩ := h.session texts hsome
      exact ⟨henvironment, fun hprogram =>
        ⟨(hserved hprogram).xServer, (hserved hprogram).bus⟩⟩
    · show _ <+: wholeCalls program self
      rw [hwhole]
      exact ⟨[.registerDisplay], by simp⟩
    · intro htrue
      cases hstart.timeout.symm.trans htrue
  cases registered with
  | false => exact hasked.failed (by decide)
  | true =>
    refine ⟨⟨h.xServer, h.bus, ?_, hasked.calls, hasked.registered, ?_⟩,
      fun _ hne => absurd rfl hne⟩
    · intro texts hsome
      obtain ⟨henvironment, hserved⟩ := h.session texts hsome
      exact ⟨henvironment, fun hprogram =>
        ⟨(hserved hprogram).xServer, (hserved hprogram).bus⟩⟩
    intro _
    show (self.calls ++ [.registerSession]) ++ [.registerDisplay] = wholeCalls program self
    rw [hwhole]
    simp

theorem perform_ordered {rest : List StartCall} (result : StartResult)
    (h : Ordered program config self) (hstart : StartOrdered program (result.call :: rest) self)
    (hlater : ComesLater result.call rest) :
    OrderedAfter program config result.call rest (self.perform program config result) := by
  cases result with
  | takeArguments arguments =>
    match arguments with
    | [] => exact h.failed nofun
    | [command] => exact h.aside hstart ⟨rfl, rfl, rfl, rfl⟩ rfl rfl nofun nofun
    | _ :: _ :: _ => exact h.failed nofun
  | readSettings initialized debug disallowTcp =>
    cases initialized with
    | false => exact h.failed nofun
    | true => exact h.aside hstart ⟨rfl, rfl, rfl, rfl⟩ rfl rfl nofun nofun
  | spawnXServer authFile launch => exact spawnXServer_ordered h hstart hlater authFile launch
  | spawnBus running launch connected =>
    exact spawnBus_ordered h hstart hlater running launch connected
  | importEnvironment reply => exact importEnvironment_ordered h hstart hlater reply
  | updateBusEnvironment updated => exact updateBusEnvironment_ordered h hstart updated
  | connectToDisplayManager connected =>
    exact h.aside hstart ⟨rfl, rfl, rfl, rfl⟩ rfl rfl nofun nofun
  | spawnSession started => exact spawnSession_ordered h hstart hlater started
  | registerSession registered => exact registerSession_ordered h hstart hlater registered

/-! ## Every run -/

/-- What holds of the program at every time. -/
def OrderedInv (program : WrapperProgram) (config : WrapperConfig) (wrapper : WrapperProcess) :
    Prop :=
  Ordered program config wrapper ∧
    ∀ rest, wrapper.stage = .starting rest → StartOrdered program rest wrapper

theorem Ordered.inv_of_stage (h : Ordered program config self)
    (hstage : ∀ rest, self.stage ≠ .starting rest) : OrderedInv program config self :=
  ⟨h, fun rest hstarting => absurd hstarting (hstage rest)⟩

theorem orderedInv_init : OrderedInv program config (init program) := by
  refine ⟨⟨?_, ?_, ?_, List.nil_prefix, ?_, ?_⟩, ?_⟩
  · intro texts number htexts
    cases htexts
  · intro texts address htexts
    cases htexts
  · intro texts htexts
    cases htexts
  · intro hmem
    cases hmem
  · intro htrue
    cases htrue
  · intro rest hstage
    obtain rfl := MainStage.starting.inj hstage
    refine ⟨rfl, fun _ _ => rfl, ⟨[], rfl, rfl⟩, fun hmem hnotMem => absurd hmem hnotMem,
      fun hmem hnotMem => absurd hmem hnotMem, ?_⟩
    intro hnotMem
    have hmem : StartCall.spawnSession ∈ program.startCalls := by
      match program with
      | .gdmXSession => decide
      | .gdmWaylandSession true => decide
      | .gdmWaylandSession false => decide
    exact absurd hmem hnotMem

theorem signalSubprocesses_sameSupplies :
    SameSupplies self self.signalSubprocesses ∧
      self.signalSubprocesses.displayTimeout = self.displayTimeout := by
  have hone : ∀ (self : WrapperProcess) (role : SubprocessRole),
      (self.signalSubprocess role).toXWrapperState = self.toXWrapperState ∧
        (self.signalSubprocess role).calls = self.calls ∧
          (self.signalSubprocess role).activationEnvironment = self.activationEnvironment ∧
            (self.signalSubprocess role).displayTimeout = self.displayTimeout := by
    intro self role
    unfold signalSubprocess
    split
    · exact ⟨rfl, rfl, rfl, rfl⟩
    · exact ⟨rfl, rfl, rfl, rfl⟩
  obtain ⟨h1, c1, a1, t1⟩ := hone self .session
  obtain ⟨h2, c2, a2, t2⟩ := hone (self.signalSubprocess .session) .bus
  obtain ⟨h3, c3, a3, t3⟩ := hone ((self.signalSubprocess .session).signalSubprocess .bus) .xServer
  refine ⟨⟨h3.trans (h2.trans h1), ?_, c3.trans (c2.trans c1), a3.trans (a2.trans a1)⟩,
    t3.trans (t2.trans t1)⟩
  funext role
  simp only [texts, signalSubprocesses_processes]
  split
  · rw [Option.map_map]
    congr 1
    funext process
    exact process.sendSigterm_texts
  · rfl

theorem Ordered.leave (h : Ordered program config self) (status : Nat)
    {wrapper : WrapperProcess} (hsame : SameSupplies (self.leave status) wrapper)
    (htimeout : wrapper.displayTimeout = (self.leave status).displayTimeout)
    (hstage : wrapper.stage = (self.leave status).stage) : OrderedInv program config wrapper := by
  obtain ⟨hsignalled, hkept⟩ := @signalSubprocesses_sameSupplies self
  have hleft : SameSupplies self (self.leave status) :=
    ⟨hsignalled.state, hsignalled.texts, hsignalled.calls, hsignalled.activation⟩
  apply Ordered.inv_of_stage
  · apply (h.congr hleft fun htrue => hkept.symm.trans htrue).congr hsame
    exact fun htrue => htimeout.symm.trans htrue
  · intro rest hstarting
    rw [hstage] at hstarting
    cases hstarting

theorem OrderedAfter.proceed {call : StartCall} {rest : List StartCall}
    {performed : WrapperProcess × Bool} (h : OrderedAfter program config call rest performed) :
    OrderedInv program config (proceed call rest performed) := by
  obtain ⟨next, ret⟩ := performed
  have hgoOn : ret = true ∨ call.failureStatus = none →
      OrderedInv program config (next.goOn rest) := by
    intro hret
    unfold WrapperProcess.goOn
    split
    · apply Ordered.inv_of_stage
      · exact h.ordered.congr ⟨rfl, rfl, rfl, rfl⟩ id
      · intro rest' hstarting
        cases hstarting
    · rename_i hne
      refine ⟨h.ordered.congr ⟨rfl, rfl, rfl, rfl⟩ id, fun rest' hstarting => ?_⟩
      obtain rfl := MainStage.starting.inj hstarting
      have hstart := h.start hret hne
      exact ⟨hstart.timeout, hstart.fresh, hstart.done, hstart.xServer, hstart.bus,
        hstart.session⟩
  cases ret with
  | true => exact hgoOn (.inl rfl)
  | false =>
    simp only [WrapperProcess.proceed]
    split
    · rename_i hstatus
      exact hgoOn (.inr hstatus)
    · rename_i status _
      exact h.ordered.leave status ⟨rfl, rfl, rfl, rfl⟩ rfl rfl

/-- The display is registered after the session, and once. -/
theorem Ordered.registerDisplayTimeoutCb (h : Ordered program config self) :
    Ordered program config self.registerDisplayTimeoutCb := by
  unfold WrapperProcess.registerDisplayTimeoutCb
  split
  · rename_i htimeout
    by_cases hcancelled : self.cancelled = true
    · simp only [hcancelled, if_true]
      exact h.congr ⟨rfl, rfl, rfl, rfl⟩ nofun
    · simp only [hcancelled]
      have hwhole := h.timeout htimeout
      refine ⟨h.xServer, h.bus, ?_, ?_, ?_, nofun⟩
      · intro texts hsome
        obtain ⟨henvironment, hserved⟩ := h.session texts hsome
        exact ⟨henvironment, fun hprogram =>
          ⟨(hserved hprogram).xServer, (hserved hprogram).bus⟩⟩
      · show _ <+: wholeCalls program self
        rw [← hwhole]
        exact List.prefix_refl _
      · intro hmem
        rcases List.mem_append.mp hmem with hbefore | hnew
        · exact h.registered hbefore
        · cases List.mem_singleton.mp hnew
  · exact h

theorem Ordered.onFinished {role : SubprocessRole}
    {noted : WrapperProcess → ProcessEnding → WrapperProcess} (h : Ordered program config self)
    (hnoted : ∀ ending, SameSupplies self (noted self ending) ∧
      (noted self ending).displayTimeout = self.displayTimeout) :
    Ordered program config (self.onFinished role noted) := by
  unfold WrapperProcess.onFinished
  split
  · split
    · exact h.congr ⟨rfl, rfl, rfl, rfl⟩ id
    · split
      · exact h
      · rename_i ending _
        obtain ⟨hsame, htimeout⟩ := hnoted ending
        exact h.congr ⟨hsame.state, hsame.texts, hsame.calls, hsame.activation⟩
          fun htrue => htimeout.symm.trans htrue
  · exact h

theorem Ordered.dispatch (h : Ordered program config self) (callback : MainCallback) :
    Ordered program config (self.dispatch callback) := by
  cases callback with
  | onXServerFinished =>
    apply h.onFinished
    exact fun ending => ⟨⟨rfl, rfl, rfl, rfl⟩, rfl⟩
  | onBusFinished =>
    apply h.onFinished
    exact fun ending => ⟨⟨rfl, rfl, rfl, rfl⟩, rfl⟩
  | onSessionFinished =>
    apply h.onFinished
    intro ending
    cases ending <;> exact ⟨⟨rfl, rfl, rfl, rfl⟩, rfl⟩
  | onSigterm => exact h.congr ⟨rfl, rfl, rfl, rfl⟩ id
  | registerDisplayTimeoutCb => exact h.registerDisplayTimeoutCb

theorem Ordered.foldl_dispatch (h : Ordered program config self) (callbacks : List MainCallback) :
    Ordered program config (callbacks.foldl WrapperProcess.dispatch self) ∧
      (callbacks.foldl WrapperProcess.dispatch self).stage = self.stage := by
  induction callbacks generalizing self with
  | nil => exact ⟨h, rfl⟩
  | cons callback callbacks ih =>
    obtain ⟨hordered, hstage⟩ := ih (h.dispatch callback)
    exact ⟨hordered, hstage.trans (dispatch_stage callback)⟩

theorem Ordered.iterate (h : Ordered program config self) (hstage : self.stage = .looping)
    (callbacks : List MainCallback) : OrderedInv program config (self.iterate callbacks) := by
  obtain ⟨hnext, hsame⟩ := h.foldl_dispatch callbacks
  unfold WrapperProcess.iterate
  dsimp only
  split
  · apply hnext.inv_of_stage
    intro rest hstarting
    rw [hsame, hstage] at hstarting
    cases hstarting
  · exact hnext.leave _ ⟨rfl, rfl, rfl, rfl⟩ rfl rfl

theorem Ordered.waitOnSubprocess (h : OrderedInv program config self) :
    OrderedInv program config self.waitOnSubprocess := by
  have hwaiting : ∀ roles, OrderedInv program config { self with stage := .waiting roles } := by
    intro roles
    apply Ordered.inv_of_stage
    · exact h.1.congr ⟨rfl, rfl, rfl, rfl⟩ id
    · intro rest hstarting
      cases hstarting
  unfold WrapperProcess.waitOnSubprocess
  split
  · apply Ordered.inv_of_stage
    · refine h.1.congr ⟨rfl, rfl, rfl, rfl⟩ fun htrue => ?_
      cases htrue
    · intro rest hstarting
      cases hstarting
  · split
    · split
      · exact h
      · split
        · exact hwaiting _
        · exact h
    · exact hwaiting _
  · exact h

theorem OrderedInv.ends (h : OrderedInv program config self) (role : SubprocessRole)
    (ending : ProcessEnding) :
    OrderedInv program config { self with
      processes := Function.update self.processes role
        ((self.processes role).map fun process => process.finish ending) } := by
  generalize hnext : ({ self with
      processes := Function.update self.processes role
        ((self.processes role).map fun process => process.finish ending) } : WrapperProcess) = next
  have hsame : SameSupplies self next := by
    subst hnext
    refine ⟨rfl, ?_, rfl, rfl⟩
    funext role'
    by_cases hrole : role' = role
    · subst hrole
      simp [texts, Option.map_map, Function.comp_def]
    · simp [texts, hrole]
  have htimeout : next.displayTimeout = self.displayTimeout := by rw [← hnext]
  have hstage : next.stage = self.stage := by rw [← hnext]
  refine ⟨h.1.congr hsame fun htrue => htimeout.symm.trans htrue, fun rest hstarting => ?_⟩
  have hstart := h.2 rest (hstage.symm.trans hstarting)
  refine ⟨htimeout.trans hstart.timeout, ?_, ?_, ?_, ?_, ?_⟩
  · rw [hsame.texts]
    exact hstart.fresh
  · rw [hsame.calls, hsame.asked]
    exact hstart.done
  · rw [hsame.texts]
    exact hstart.xServer
  · exact fun hmem hnotMem => hsame.told (hstart.bus hmem hnotMem)
  · rw [hsame.texts]
    exact hstart.session

theorem OrderedInv.step (h : OrderedInv program config self) (event : WrapperEvent) :
    OrderedInv program config (self.step program config event) := by
  cases event with
  | ends role ending => exact h.ends role ending
  | call result =>
    simp only [WrapperProcess.step]
    split
    · rename_i call rest hstage
      split
      · rename_i hcall
        subst hcall
        have hstart := h.2 _ hstage
        obtain ⟨done, hdone, -⟩ := hstart.done
        have hlater : ComesLater result.call rest := comesLater ⟨done, hdone.symm⟩
        exact (perform_ordered result h.1 hstart hlater).proceed
      · exact h
    · exact h
  | iterate callbacks =>
    simp only [WrapperProcess.step]
    split
    · rename_i hstage
      exact h.1.iterate hstage callbacks
    · exact h
  | wait => exact Ordered.waitOnSubprocess h

theorem ordered_run (events : List WrapperEvent) :
    Ordered program config ((machine program config).run (init program) events) := by
  have hinv := EventMachine.run_invariant (M := machine program config)
    (OrderedInv program config) (fun self event h => h.step event) events
    (@orderedInv_init program config)
  exact hinv.1

/-! ## Main results -/

/-- What the display manager and the bus hear of a program. -/
structure RegistersInOrder (program : WrapperProgram) (wrapper : WrapperProcess) : Prop where
  /-- It is the beginning of what there is to be said, so each is said once, and in its turn. -/
  calls : wrapper.calls <+: wholeCalls program wrapper
  session : .registerSession ∈ wrapper.calls →
    ∃ process, wrapper.processes .session = some process

/-- In every run, the activation environment is set before the session is registered, and the
session before its display; a Wayland session that registers itself is not registered here. -/
theorem run_registersInOrder (program : WrapperProgram) (config : WrapperConfig)
    (events : List WrapperEvent) :
    RegistersInOrder program ((machine program config).run (init program) events) := by
  have hordered := @ordered_run program config events
  refine ⟨hordered.calls, fun hmem => ?_⟩
  obtain ⟨texts, htexts⟩ := hordered.registered hmem
  obtain ⟨process, hprocess, -⟩ := Option.map_eq_some_iff.mp htexts
  exact ⟨process, hprocess⟩

end WrapperProcess

end Gdm
