import Gdm.Jobs.WorkerJob
import Gdm.Library.History
import Gdm.Library.Leases

/-!
# What the jobs do to their processes

The functions of the jobs are put together from a few changes.  Each of them keeps the account of
the processes: which of them the system still has something to tell of, and who is to be told.
-/

namespace Gdm

/-- The end of the process of a conversation is reported. -/
def JobEffect.notifies (c : ℕ) : JobEffect → Bool
  | exited d _ => d = c
  | died d _ => d = c
  | _ => false

/-- The children that have not been waited for in vain. -/
def JobEffect.owned (pids : List Int) : JobEffect → List Int
  | spawned _ pid _ => pid :: pids
  | reaped pid => pids.filter (· ≠ pid)
  | disowned pid => pids.filter (· ≠ pid)
  | _ => pids

def owned (log : List JobEffect) : List Int :=
  log.foldl JobEffect.owned []

theorem children_concat (log : List JobEffect) (effect : JobEffect) :
    children (log ++ [effect]) = effect.children (children log) := by
  rw [children, List.foldl_append]
  rfl

theorem owned_concat (log : List JobEffect) (effect : JobEffect) :
    owned (log ++ [effect]) = effect.owned (owned log) := by
  rw [owned, List.foldl_append]
  rfl

/-- The numbers of the children that have not been waited for in vain. -/
def ownedEntry (log : List JobEffect) (pid : Int) : Option Unit :=
  if pid ∈ owned log then some () else none

theorem ownedEntry_eq_some_iff {log : List JobEffect} {pid : Int} {entry : Unit} :
    ownedEntry log pid = some entry ↔ pid ∈ owned log := by
  unfold ownedEntry
  split
  · rename_i hin
    simp [hin]
  · rename_i hnot
    simp [hnot]

theorem ownedEntry_concat_spawned (log : List JobEffect) (c : ℕ) (pid : Int)
    (arguments : List (List Char)) :
    ownedEntry (log ++ [.spawned c pid arguments]) =
      Function.update (ownedEntry log) pid (some ()) := by
  funext other
  unfold ownedEntry
  rw [owned_concat, JobEffect.owned]
  by_cases hsame : other = pid
  · rw [hsame, Function.update_self, if_pos List.mem_cons_self]
  · rw [Function.update_of_ne hsame]
    simp [hsame]

/-- The effect is the last that is heard of the process. -/
def JobEffect.Settles (pid : Int) (effect : JobEffect) : Prop :=
  effect = .reaped pid ∨ effect = .disowned pid

theorem ownedEntry_concat_settles {log : List JobEffect} {pid : Int} {effect : JobEffect}
    (h : effect.Settles pid) :
    ownedEntry (log ++ [effect]) = Function.update (ownedEntry log) pid none := by
  have howned : effect.owned (owned log) = (owned log).filter (· ≠ pid) := by
    rcases h with rfl | rfl
    · rfl
    · rfl
  funext other
  unfold ownedEntry
  rw [owned_concat, howned]
  by_cases hsame : other = pid
  · rw [hsame, Function.update_self]
    simp
  · rw [Function.update_of_ne hsame]
    simp [hsame]

/-- The last thing that has been got from the system is the status of the process that was started
for a conversation. -/
def JustEnded (c : ℕ) (log : List JobEffect) : Prop :=
  ∃ pid arguments, .spawned c pid arguments ∈ log ∧ log.getLast? = some (.reaped pid)

/-- An effect that is in order after those before it. -/
def Warranted (before : List JobEffect) : JobEffect → Prop
  | .spawned _ pid _ => 1 < pid ∧ pid ∉ children before
  | .signalled pid => 1 < pid ∧ pid ∈ owned before
  | .reaped pid => pid ∈ owned before
  | .disowned pid => pid ∈ owned before ∧ .signalled pid ∈ before
  | .sourceRemoved _ watch => watch = .attached
  | .exited c _ => JustEnded c before ∧ (∀ effect ∈ before, effect.notifies c = false) ∧
      .freed c ∉ before
  | .died c _ => JustEnded c before ∧ (∀ effect ∈ before, effect.notifies c = false) ∧
      .freed c ∉ before
  | .freed c => .freed c ∉ before

/-- The number of the conversation that an effect is about. -/
def JobEffect.conversation : JobEffect → Option ℕ
  | spawned c _ _ => some c
  | exited c _ => some c
  | died c _ => some c
  | freed c => some c
  | _ => none

namespace WorkerConversation

/-- The process of the conversation that is waited for by the main loop. -/
def watchedPid (conversation : WorkerConversation) : Option Int :=
  if conversation.job.childWatch = .attached then some conversation.job.pid else none

/-- What the log tells of a conversation. -/
structure Recorded (log : List JobEffect) (c : ℕ) (conversation : WorkerConversation) : Prop where
  pid : conversation.job.childWatch = .attached → 1 < conversation.job.pid
  noPid : conversation.job.childWatch ≠ .attached → conversation.job.pid = -1
  freed : conversation.freed = true ↔ .freed c ∈ log
  kept : conversation.job.childWatch = .attached → conversation.freed = false
  spawned : conversation.job.childWatch = .attached →
    ∃ arguments, .spawned c conversation.job.pid arguments ∈ log
  notified : ∀ effect ∈ log, effect.notifies c = true → conversation.job.childWatch = .destroyed

variable {conversation next : WorkerConversation} {log : List JobEffect} {c : ℕ}

theorem watchedPid_eq_some_iff {pid : Int} : conversation.watchedPid = some pid ↔
    conversation.job.childWatch = .attached ∧ conversation.job.pid = pid := by
  unfold watchedPid
  split
  · rename_i hattached
    simp [hattached]
  · rename_i hnot
    simp [hnot]

theorem watchedPid_eq_none_iff :
    conversation.watchedPid = none ↔ conversation.job.childWatch ≠ .attached := by
  unfold watchedPid
  split
  · rename_i hattached
    simp [hattached]
  · rename_i hnot
    simp [hnot]

/-- An effect that is not about a conversation says nothing of it. -/
theorem Recorded.aside (h : conversation.Recorded log c) {effect : JobEffect}
    (haside : effect.conversation ≠ some c) : conversation.Recorded (log ++ [effect]) c := by
  have hfreed : effect ≠ .freed c := by
    rintro rfl
    exact haside rfl
  have hnotifies : effect.notifies c = false := by
    cases effect with
    | exited d code =>
      exact decide_eq_false fun hsame => haside (by rw [JobEffect.conversation, hsame])
    | died d signum =>
      exact decide_eq_false fun hsame => haside (by rw [JobEffect.conversation, hsame])
    | spawned => rfl
    | signalled => rfl
    | reaped => rfl
    | disowned => rfl
    | sourceRemoved => rfl
    | freed => rfl
  constructor
  · exact h.pid
  · exact h.noPid
  · rw [h.freed, List.mem_append, List.mem_singleton]
    constructor
    · exact .inl
    · rintro (hin | hsame)
      · exact hin
      · exact absurd hsame.symm hfreed
  · exact h.kept
  · intro hattached
    obtain ⟨arguments, hin⟩ := h.spawned hattached
    exact ⟨arguments, List.mem_append_left _ hin⟩
  · intro effect' hin hnotified
    rcases List.mem_append.mp hin with hold | hnew
    · exact h.notified effect' hold hnotified
    · obtain rfl := List.mem_singleton.mp hnew
      rw [hnotifies] at hnotified
      cases hnotified

/-- The job is the same, and so is whether the conversation has been freed. -/
theorem Recorded.congr (h : conversation.Recorded log c) (hjob : next.job = conversation.job)
    (hfreed : next.freed = conversation.freed) : next.Recorded log c := by
  constructor
  · rw [hjob]
    exact h.pid
  · rw [hjob]
    exact h.noPid
  · rw [hfreed]
    exact h.freed
  · rw [hjob, hfreed]
    exact h.kept
  · rw [hjob]
    exact h.spawned
  · rw [hjob]
    exact h.notified

end WorkerConversation

namespace WorkerJobs

open WorkerConversation

/-- Each process has been started with the words of the command, and the name of its service. -/
def Named (jobs : WorkerJobs) : Prop :=
  ∀ c pid arguments, .spawned c pid arguments ∈ jobs.log → ∃ conversation,
    jobs.conversations[c]? = some conversation ∧
      getJobArguments jobs.command (jobName conversation.serviceName) = some arguments

/-- The account of the processes. -/
structure Accounted (jobs : WorkerJobs) : Prop where
  leased : Leases.Leased watchedPid (fun _ _ => True) (ownedEntry jobs.log) jobs.conversations
  known : ∀ pid ∈ owned jobs.log, pid ∈ children jobs.log
  missed : ∀ pid ∈ children jobs.log, pid ∈ owned jobs.log ∨ .disowned pid ∈ jobs.log
  recorded : ∀ (c : ℕ) conversation, jobs.conversations[c]? = some conversation →
    conversation.Recorded jobs.log c
  number : ∀ effect ∈ jobs.log, ∀ c, effect.conversation = some c → c < jobs.conversations.length
  named : Named jobs
  warranted : History.Justified Warranted jobs.log

variable {self next : WorkerJobs} {c : ℕ} {conversation : WorkerConversation}

/-- What the functions of the jobs are put together from. -/
inductive JobChange : WorkerJobs → WorkerJobs → Prop
  /-- What the processes have nothing to do with. -/
  | aside {self next : WorkerJobs} (hconversations : next.conversations = self.conversations)
      (hlog : next.log = self.log) (hcommand : next.command = self.command) : JobChange self next
  | created {self : WorkerJobs} (serviceName : String) :
      JobChange self
        { self with conversations := self.conversations ++ [{ serviceName := serviceName }] }
  | marked {self : WorkerJobs} (c : ℕ) (f : WorkerConversation → WorkerConversation)
      (hjob : ∀ conversation, (f conversation).job = conversation.job)
      (hfreed : ∀ conversation, (f conversation).freed = conversation.freed)
      (hserviceName : ∀ conversation, (f conversation).serviceName = conversation.serviceName) :
      JobChange self (self.modifyConversation c f)
  | spawned {self : WorkerJobs} {c : ℕ} {conversation : WorkerConversation}
      (hat : self.conversations[c]? = some conversation) (hnew : conversation.job = {})
      (hkept : conversation.freed = false) {pid : Int} (hfresh : self.Fresh pid)
      {arguments : List (List Char)}
      (harguments :
        getJobArguments self.command (jobName conversation.serviceName) = some arguments) :
      JobChange self ((self.modifyJob c fun job =>
        { job with pid := pid, childWatch := .attached }).emit (.spawned c pid arguments))
  | signalled {self : WorkerJobs} {c : ℕ} {conversation : WorkerConversation}
      (hat : self.conversations[c]? = some conversation)
      (hattached : conversation.job.childWatch = .attached) :
      JobChange self (self.emit (.signalled conversation.job.pid))
  /-- The watch is removed, and the process is ended and waited for. -/
  | stoppedNow {self : WorkerJobs} {c : ℕ} {conversation : WorkerConversation}
      (hat : self.conversations[c]? = some conversation)
      (hattached : conversation.job.childWatch = .attached) {effect : JobEffect}
      (hwaited : effect.Settles conversation.job.pid) :
      JobChange self ((((self.emit (.sourceRemoved c .attached)).emit
        (.signalled conversation.job.pid)).emit effect).modifyJob c fun _ => {})
  /-- The callback of the watch. -/
  | notified {self : WorkerJobs} {c : ℕ} {conversation : WorkerConversation}
      (hat : self.conversations[c]? = some conversation)
      (hattached : conversation.job.childWatch = .attached) {effect : JobEffect}
      (hended : (∃ code, effect = .exited c code) ∨ ∃ signum, effect = .died c signum) :
      JobChange self (((self.emit (.reaped conversation.job.pid)).modifyJob c fun job =>
        { job with pid := -1, childWatch := .destroyed }).emit effect)
  | freed {self : WorkerJobs} {c : ℕ} {conversation : WorkerConversation}
      (hat : self.conversations[c]? = some conversation)
      (hdetached : conversation.job.childWatch ≠ .attached) (hkept : conversation.freed = false) :
      JobChange self (self.freeConversation c)

theorem accounted_new (command : List Char) : Accounted { command := command } := by
  constructor
  · exact Leases.leased_nil
  · intro pid hin
    cases hin
  · intro pid hin
    cases hin
  · intro c conversation hat
    cases hat
  · intro effect hin
    cases hin
  · intro c pid arguments hin
    cases hin
  · exact History.justified_nil

/-! ## Effects -/

@[simp] theorem emit_log (effect : JobEffect) : (self.emit effect).log = self.log ++ [effect] := rfl

@[simp] theorem emit_conversations (effect : JobEffect) :
    (self.emit effect).conversations = self.conversations := rfl

@[simp] theorem modifyConversation_log (f : WorkerConversation → WorkerConversation) :
    (self.modifyConversation c f).log = self.log := rfl

@[simp] theorem modifyConversation_conversations (f : WorkerConversation → WorkerConversation) :
    (self.modifyConversation c f).conversations = self.conversations.modify c f := rfl

@[simp] theorem modifyJob_log (f : GdmSessionWorkerJob → GdmSessionWorkerJob) :
    (self.modifyJob c f).log = self.log := rfl

@[simp] theorem modifyJob_conversations (f : GdmSessionWorkerJob → GdmSessionWorkerJob) :
    (self.modifyJob c f).conversations = self.conversations.modify c
      fun conversation => { conversation with job := f conversation.job } := rfl

/-- Nothing is started, and the conversations keep their services. -/
theorem Named.keep (h : Named self) (hcommand : next.command = self.command)
    (hlog : ∀ c pid arguments, .spawned c pid arguments ∈ next.log →
      .spawned c pid arguments ∈ self.log)
    (hserviceName : ∀ (c : ℕ) conversation, self.conversations[c]? = some conversation →
      ∃ conversation', next.conversations[c]? = some conversation' ∧
        conversation'.serviceName = conversation.serviceName) : Named next := by
  intro c pid arguments hin
  obtain ⟨conversation, hat, harguments⟩ := h c pid arguments (hlog c pid arguments hin)
  obtain ⟨conversation', hat', hsame⟩ := hserviceName c conversation hat
  refine ⟨conversation', hat', ?_⟩
  rw [hcommand, hsame]
  exact harguments

theorem serviceName_modify {f : WorkerConversation → WorkerConversation}
    (hf : ∀ conversation, (f conversation).serviceName = conversation.serviceName) (d : ℕ)
    (hat : self.conversations[c]? = some conversation) :
    ∃ conversation', (self.conversations.modify d f)[c]? = some conversation' ∧
      conversation'.serviceName = conversation.serviceName := by
  by_cases hsame : d = c
  · rw [hsame, List.getElem?_modify_eq, hat]
    exact ⟨f conversation, rfl, hf conversation⟩
  · rw [List.getElem?_modify_ne _ _ hsame]
    exact ⟨conversation, hat, rfl⟩

theorem mem_of_mem_concat {log : List JobEffect} {effect effect' : JobEffect}
    (hne : effect ≠ effect') (hin : effect ∈ log ++ [effect']) : effect ∈ log :=
  (List.mem_append.mp hin).resolve_right fun hsame => hne (List.mem_singleton.mp hsame)

/-- An effect that leaves the processes and is not about a conversation. -/
theorem Accounted.emit_aside (h : Accounted self) {effect : JobEffect}
    (hchildren : ∀ pids, effect.children pids = pids) (howned : ∀ pids, effect.owned pids = pids)
    (haside : effect.conversation = none) (hwarranted : Warranted self.log effect) :
    Accounted (self.emit effect) := by
  have hchildren' : children (self.log ++ [effect]) = children self.log := by
    rw [children_concat, hchildren]
  have howned' : owned (self.log ++ [effect]) = owned self.log := by
    rw [owned_concat, howned]
  have hentry : ownedEntry (self.log ++ [effect]) = ownedEntry self.log := by
    funext pid
    rw [ownedEntry, howned', ownedEntry]
  constructor
  · rw [emit_log, hentry]
    exact h.leased
  · rw [emit_log, hchildren', howned']
    exact h.known
  · rw [emit_log, hchildren', howned']
    intro pid hin
    exact (h.missed pid hin).imp id (List.mem_append_left _)
  · intro c conversation hat
    apply (h.recorded c conversation hat).aside
    rw [haside]
    exact (Option.some_ne_none c).symm
  · intro effect' hin c hc
    rcases List.mem_append.mp hin with hold | hnew
    · exact h.number effect' hold c hc
    · obtain rfl := List.mem_singleton.mp hnew
      rw [haside] at hc
      cases hc
  · refine h.named.keep rfl ?_ ?_
    · intro c pid arguments hin
      apply mem_of_mem_concat _ hin
      rintro rfl
      cases haside
    · exact fun _ conversation hat => ⟨conversation, hat, rfl⟩
  · exact History.justified_concat.mpr ⟨h.warranted, hwarranted⟩

/-- The process of a job that is waited for is a child. -/
theorem Accounted.mem_owned (h : Accounted self) (hat : self.conversations[c]? = some conversation)
    (hattached : conversation.job.childWatch = .attached) :
    conversation.job.pid ∈ owned self.log := by
  obtain ⟨entry, hentry, -⟩ :=
    h.leased.entry c conversation _ hat (watchedPid_eq_some_iff.mpr ⟨hattached, rfl⟩)
  exact ownedEntry_eq_some_iff.mp hentry

theorem Accounted.signalled (h : Accounted self)
    (hat : self.conversations[c]? = some conversation)
    (hattached : conversation.job.childWatch = .attached) :
    Accounted (self.emit (.signalled conversation.job.pid)) :=
  h.emit_aside (fun _ => rfl) (fun _ => rfl) rfl
    ⟨(h.recorded c conversation hat).pid hattached, h.mem_owned hat hattached⟩

/-- Nothing more is heard of the process of a job that is waited for. -/
theorem Accounted.settled (h : Accounted self) (hat : self.conversations[c]? = some conversation)
    (hattached : conversation.job.childWatch = .attached) {effect : JobEffect}
    (hsettles : effect.Settles conversation.job.pid) (hwarranted : Warranted self.log effect)
    {f : GdmSessionWorkerJob → GdmSessionWorkerJob} (hpid : ∀ job, (f job).pid = -1)
    (hwatch : ∀ job, (f job).childWatch ≠ .attached) :
    Accounted ((self.emit effect).modifyJob c f) := by
  have hentry := @ownedEntry_concat_settles self.log _ _ hsettles
  have haside : effect.conversation = none := by
    rcases hsettles with rfl | rfl
    · rfl
    · rfl
  have howned : owned (self.log ++ [effect]) =
      (owned self.log).filter (· ≠ conversation.job.pid) := by
    rw [owned_concat]
    rcases hsettles with rfl | rfl
    · rfl
    · rfl
  constructor
  · rw [modifyJob_log, emit_log, hentry]
    apply h.leased.release hat (watchedPid_eq_some_iff.mpr ⟨hattached, rfl⟩)
    exact watchedPid_eq_none_iff.mpr (hwatch _)
  · rw [modifyJob_log, emit_log, howned]
    intro pid hin
    rw [List.mem_filter] at hin
    have hold := h.known pid hin.1
    rw [children_concat]
    rcases hsettles with rfl | rfl
    · exact List.mem_filter.mpr ⟨hold, hin.2⟩
    · exact hold
  · rw [modifyJob_log, emit_log, howned]
    intro pid hin
    rw [children_concat] at hin
    rcases hsettles with rfl | rfl
    · obtain ⟨hold, hne⟩ := List.mem_filter.mp hin
      exact (h.missed pid hold).imp (fun howns => List.mem_filter.mpr ⟨howns, hne⟩)
        (List.mem_append_left _)
    · by_cases hsame : pid = conversation.job.pid
      · rw [hsame]
        exact .inr (List.mem_append_right _ (List.mem_singleton.mpr rfl))
      · exact (h.missed pid hin).imp
          (fun howns => List.mem_filter.mpr ⟨howns, by simpa using hsame⟩) (List.mem_append_left _)
  · intro d other hother
    have hnone : effect.conversation ≠ some d := by
      rw [haside]
      exact (Option.some_ne_none d).symm
    rcases Leases.getElem?_modify_cases hother with ⟨rfl, x, hx, rfl⟩ | ⟨-, hold⟩
    · obtain rfl := Option.some.inj (hx.symm.trans hat)
      have hrecorded := (h.recorded d x hx).aside hnone
      constructor
      · exact fun habsurd => absurd habsurd (hwatch _)
      · exact fun _ => hpid _
      · exact hrecorded.freed
      · exact fun habsurd => absurd habsurd (hwatch _)
      · exact fun habsurd => absurd habsurd (hwatch _)
      · intro effect' hin hnotified
        have habsurd := hrecorded.notified effect' hin hnotified
        rw [hattached] at habsurd
        cases habsurd
    · exact (h.recorded d other hold).aside hnone
  · intro effect' hin d hd
    rw [modifyJob_conversations, List.length_modify]
    rcases List.mem_append.mp hin with hold | hnew
    · exact h.number effect' hold d hd
    · obtain rfl := List.mem_singleton.mp hnew
      rw [haside] at hd
      cases hd
  · refine h.named.keep rfl ?_ ?_
    · intro d pid arguments hin
      apply mem_of_mem_concat _ hin
      rintro rfl
      cases haside
    · exact fun _ _ hother => serviceName_modify
        (f := fun conversation => { conversation with job := f conversation.job })
        (fun _ => rfl) c hother
  · exact History.justified_concat.mpr ⟨h.warranted, hwarranted⟩

theorem Accounted.stoppedNow (h : Accounted self)
    (hat : self.conversations[c]? = some conversation)
    (hattached : conversation.job.childWatch = .attached) {effect : JobEffect}
    (hwaited : effect.Settles conversation.job.pid) :
    Accounted ((((self.emit (.sourceRemoved c .attached)).emit
      (.signalled conversation.job.pid)).emit effect).modifyJob c fun _ => {}) := by
  have hremoved : Accounted (self.emit (.sourceRemoved c .attached)) :=
    h.emit_aside (fun _ => rfl) (fun _ => rfl) rfl rfl
  have hsignalled := hremoved.signalled hat hattached
  have hchild := hsignalled.mem_owned hat hattached
  refine hsignalled.settled hat hattached hwaited ?_ (fun _ => rfl)
    (fun _ => ChildWatch.noConfusion)
  rcases hwaited with rfl | rfl
  · exact hchild
  · exact ⟨hchild, List.mem_append_right _ (List.mem_singleton.mpr rfl)⟩

/-- An effect about one conversation, which leaves the processes. -/
theorem Accounted.emit_about (h : Accounted self) {effect : JobEffect}
    {f : WorkerConversation → WorkerConversation}
    (hat : self.conversations[c]? = some conversation)
    (hchildren : ∀ pids, effect.children pids = pids) (howned : ∀ pids, effect.owned pids = pids)
    (habout : effect.conversation = some c)
    (hjob : ∀ conversation, (f conversation).job = conversation.job)
    (hserviceName : ∀ conversation, (f conversation).serviceName = conversation.serviceName)
    (hrecorded : (f conversation).Recorded (self.log ++ [effect]) c)
    (hwarranted : Warranted self.log effect) :
    Accounted ((self.modifyConversation c f).emit effect) := by
  have hchildren' : children (self.log ++ [effect]) = children self.log := by
    rw [children_concat, hchildren]
  have howned' : owned (self.log ++ [effect]) = owned self.log := by
    rw [owned_concat, howned]
  have hentry : ownedEntry (self.log ++ [effect]) = ownedEntry self.log := by
    funext pid
    rw [ownedEntry, howned', ownedEntry]
  have hwatched : ∀ conversation, (f conversation).watchedPid = conversation.watchedPid := by
    intro conversation
    rw [watchedPid, hjob, watchedPid]
  constructor
  · rw [emit_log, modifyConversation_log, hentry]
    exact h.leased.modify (fun x _ => hwatched x) (fun _ _ _ _ => trivial)
  · rw [emit_log, modifyConversation_log, hchildren', howned']
    exact h.known
  · rw [emit_log, modifyConversation_log, hchildren', howned']
    intro pid hin
    exact (h.missed pid hin).imp id (List.mem_append_left _)
  · intro d other hother
    rcases Leases.getElem?_modify_cases hother with ⟨rfl, x, hx, rfl⟩ | ⟨hne, hold⟩
    · obtain rfl := Option.some.inj (hx.symm.trans hat)
      exact hrecorded
    · apply (h.recorded d other hold).aside
      rw [habout]
      exact fun hsame => hne (Option.some.inj hsame).symm
  · intro effect' hin d hd
    rw [emit_conversations, modifyConversation_conversations, List.length_modify]
    rcases List.mem_append.mp hin with hold | hnew
    · exact h.number effect' hold d hd
    · obtain rfl := List.mem_singleton.mp hnew
      obtain rfl := Option.some.inj (habout.symm.trans hd)
      exact (List.getElem?_eq_some_iff.mp hat).1
  · refine h.named.keep rfl ?_ ?_
    · intro d pid arguments hin
      apply mem_of_mem_concat _ hin
      rintro rfl
      cases howned []
    · exact fun _ _ hother => serviceName_modify hserviceName c hother
  · exact History.justified_concat.mpr ⟨h.warranted, hwarranted⟩

theorem Accounted.freed (h : Accounted self) (hat : self.conversations[c]? = some conversation)
    (hdetached : conversation.job.childWatch ≠ .attached) (hkept : conversation.freed = false) :
    Accounted (self.freeConversation c) := by
  have hrecorded := h.recorded c conversation hat
  have hnever : .freed c ∉ self.log := by
    rw [← hrecorded.freed, hkept]
    exact Bool.false_ne_true
  unfold freeConversation
  refine h.emit_about hat (fun _ => rfl) (fun _ => rfl) rfl (fun _ => rfl) (fun _ => rfl) ?_ hnever
  constructor
  · exact hrecorded.pid
  · exact hrecorded.noPid
  · exact iff_of_true rfl (List.mem_append_right _ (List.mem_singleton.mpr rfl))
  · exact fun habsurd => absurd habsurd hdetached
  · exact fun habsurd => absurd habsurd hdetached
  · intro effect hin hnotified
    rcases List.mem_append.mp hin with hold | hnew
    · exact hrecorded.notified effect hold hnotified
    · obtain rfl := List.mem_singleton.mp hnew
      cases hnotified

/-- The end of a process is reported. -/
theorem Accounted.reported (h : Accounted self) (hat : self.conversations[c]? = some conversation)
    (hdestroyed : conversation.job.childWatch = .destroyed) (hkept : conversation.freed = false)
    (hspawned : JustEnded c self.log)
    (hnever : ∀ effect ∈ self.log, effect.notifies c = false) {effect : JobEffect}
    (hended : (∃ code, effect = .exited c code) ∨ ∃ signum, effect = .died c signum) :
    Accounted (self.emit effect) := by
  have hrecorded := h.recorded c conversation hat
  have hnot : conversation.job.childWatch ≠ .attached := by
    rw [hdestroyed]
    exact ChildWatch.noConfusion
  have hfreed : .freed c ∉ self.log := by
    rw [← hrecorded.freed, hkept]
    exact Bool.false_ne_true
  have hsame : self.modifyConversation c id = self := by
    rw [modifyConversation, List.modify_id]
  have hne : effect ≠ .freed c := by
    rcases hended with ⟨code, rfl⟩ | ⟨signum, rfl⟩
    · exact JobEffect.noConfusion
    · exact JobEffect.noConfusion
  have hnext : conversation.Recorded (self.log ++ [effect]) c := by
    constructor
    · exact hrecorded.pid
    · exact hrecorded.noPid
    · rw [hrecorded.freed, List.mem_append, List.mem_singleton]
      exact ⟨.inl, fun hin => hin.resolve_right (Ne.symm hne)⟩
    · exact hrecorded.kept
    · exact fun habsurd => absurd habsurd hnot
    · exact fun _ _ _ => hdestroyed
  rw [← hsame]
  rcases hended with ⟨code, rfl⟩ | ⟨signum, rfl⟩
  · exact h.emit_about hat (fun _ => rfl) (fun _ => rfl) rfl (fun _ => rfl) (fun _ => rfl) hnext
      ⟨hspawned, hnever, hfreed⟩
  · exact h.emit_about hat (fun _ => rfl) (fun _ => rfl) rfl (fun _ => rfl) (fun _ => rfl) hnext
      ⟨hspawned, hnever, hfreed⟩

theorem Accounted.notified (h : Accounted self) (hat : self.conversations[c]? = some conversation)
    (hattached : conversation.job.childWatch = .attached) {effect : JobEffect}
    (hended : (∃ code, effect = .exited c code) ∨ ∃ signum, effect = .died c signum) :
    Accounted (((self.emit (.reaped conversation.job.pid)).modifyJob c fun job =>
      { job with pid := -1, childWatch := .destroyed }).emit effect) := by
  have hrecorded := h.recorded c conversation hat
  have hsettled := h.settled hat hattached (.inl rfl) (h.mem_owned hat hattached)
    (f := fun job => { job with pid := -1, childWatch := .destroyed }) (fun _ => rfl)
    (fun _ => ChildWatch.noConfusion)
  have hnever : ∀ effect ∈ self.log, effect.notifies c = false := by
    intro effect hin
    by_contra hnotified
    have habsurd := hrecorded.notified effect hin (by simpa using hnotified)
    rw [hattached] at habsurd
    cases habsurd
  obtain ⟨arguments, hspawned⟩ := hrecorded.spawned hattached
  have hat' : ((self.emit (.reaped conversation.job.pid)).modifyJob c fun job =>
      { job with pid := -1, childWatch := .destroyed }).conversations[c]? =
      some { conversation with
        job := { conversation.job with pid := -1, childWatch := .destroyed } } := by
    rw [modifyJob_conversations, List.getElem?_modify_eq, emit_conversations, hat]
    rfl
  apply hsettled.reported hat' rfl (hrecorded.kept hattached)
    ⟨_, arguments, List.mem_append_left _ hspawned, List.getLast?_concat⟩ _ hended
  intro effect' hin
  rcases List.mem_append.mp hin with hold | hnew
  · exact hnever effect' hold
  · obtain rfl := List.mem_singleton.mp hnew
    rfl

/-! ## Conversations -/

theorem Accounted.created (h : Accounted self) (serviceName : String) :
    Accounted { self with
      conversations := self.conversations ++ [{ serviceName := serviceName }] } := by
  constructor
  · exact h.leased.concat rfl
  · exact h.known
  · exact h.missed
  · intro c conversation hat
    rw [List.getElem?_append] at hat
    split at hat
    · exact h.recorded c conversation hat
    · rename_i hlarge
      obtain rfl := List.mem_singleton.mp (List.mem_of_getElem? hat)
      constructor
      · intro habsurd
        cases habsurd
      · exact fun _ => rfl
      · apply iff_of_false Bool.false_ne_true
        exact fun hin => hlarge (h.number _ hin c rfl)
      · intro habsurd
        cases habsurd
      · intro habsurd
        cases habsurd
      · intro effect hin hnotified
        have habout : effect.conversation = some c := by
          cases effect with
          | exited d code => exact congrArg some (of_decide_eq_true hnotified)
          | died d signum => exact congrArg some (of_decide_eq_true hnotified)
          | spawned => cases hnotified
          | signalled => cases hnotified
          | reaped => cases hnotified
          | disowned => cases hnotified
          | sourceRemoved => cases hnotified
          | freed => cases hnotified
        exact absurd (h.number effect hin c habout) hlarge
  · intro effect hin c hc
    rw [List.length_append]
    exact Nat.lt_add_right _ (h.number effect hin c hc)
  · refine h.named.keep rfl (fun _ _ _ hin => hin) ?_
    intro c conversation hat
    refine ⟨conversation, ?_, rfl⟩
    rw [List.getElem?_append_left (List.getElem?_eq_some_iff.mp hat).1]
    exact hat
  · exact h.warranted

theorem Accounted.marked (h : Accounted self) {f : WorkerConversation → WorkerConversation}
    (hjob : ∀ conversation, (f conversation).job = conversation.job)
    (hfreed : ∀ conversation, (f conversation).freed = conversation.freed)
    (hserviceName : ∀ conversation, (f conversation).serviceName = conversation.serviceName) :
    Accounted (self.modifyConversation c f) := by
  constructor
  · apply h.leased.modify
    · intro x hx
      rw [watchedPid, hjob, watchedPid]
    · exact fun _ _ _ _ => trivial
  · exact h.known
  · exact h.missed
  · intro d other hother
    rcases Leases.getElem?_modify_cases hother with ⟨rfl, x, hx, rfl⟩ | ⟨-, hold⟩
    · exact (h.recorded d x hx).congr (hjob x) (hfreed x)
    · exact h.recorded d other hold
  · intro effect hin d hd
    rw [modifyConversation_conversations, List.length_modify]
    exact h.number effect hin d hd
  · exact h.named.keep rfl (fun _ _ _ hin => hin) fun _ _ hat =>
      serviceName_modify hserviceName c hat
  · exact h.warranted

theorem Accounted.spawned (h : Accounted self) (hat : self.conversations[c]? = some conversation)
    (hnew : conversation.job = {}) (hkept : conversation.freed = false) {pid : Int}
    (hfresh : self.Fresh pid) {arguments : List (List Char)}
    (harguments :
      getJobArguments self.command (jobName conversation.serviceName) = some arguments) :
    Accounted ((self.modifyJob c fun job => { job with pid := pid, childWatch := .attached }).emit
      (.spawned c pid arguments)) := by
  have hrecorded := h.recorded c conversation hat
  have hlength : c < self.conversations.length := (List.getElem?_eq_some_iff.mp hat).1
  have habsent : ownedEntry self.log pid = none := by
    rw [ownedEntry, if_neg]
    exact fun hin => hfresh.2 (h.known pid hin)
  constructor
  · rw [emit_log, modifyJob_log, ownedEntry_concat_spawned]
    apply h.leased.acquire hat _ habsent _ trivial
    · rw [watchedPid_eq_none_iff, hnew]
      exact ChildWatch.noConfusion
    · exact watchedPid_eq_some_iff.mpr ⟨rfl, rfl⟩
  · rw [emit_log, modifyJob_log, owned_concat, children_concat]
    intro other hin
    rcases List.mem_cons.mp hin with rfl | hold
    · exact List.mem_cons_self
    · exact List.mem_cons_of_mem _ (h.known other hold)
  · rw [emit_log, modifyJob_log, owned_concat, children_concat]
    intro other hin
    rcases List.mem_cons.mp hin with rfl | hold
    · exact .inl List.mem_cons_self
    · exact (h.missed other hold).imp (List.mem_cons_of_mem _) (List.mem_append_left _)
  · intro d other hother
    rcases Leases.getElem?_modify_cases hother with ⟨rfl, x, hx, rfl⟩ | ⟨hne, hold⟩
    · obtain rfl := Option.some.inj (hx.symm.trans hat)
      constructor
      · exact fun _ => hfresh.1
      · exact fun habsurd => absurd rfl habsurd
      · rw [emit_log, List.mem_append, List.mem_singleton]
        apply hrecorded.freed.trans
        exact ⟨.inl, fun hin => hin.resolve_right JobEffect.noConfusion⟩
      · exact fun _ => hkept
      · exact fun _ => ⟨arguments, List.mem_append_right _ (List.mem_singleton.mpr rfl)⟩
      · intro effect hin hnotified
        rcases List.mem_append.mp hin with hbefore | hnow
        · have habsurd := hrecorded.notified effect hbefore hnotified
          rw [hnew] at habsurd
          cases habsurd
        · obtain rfl := List.mem_singleton.mp hnow
          cases hnotified
    · exact (h.recorded d other hold).aside fun hsame => hne (Option.some.inj hsame).symm
  · intro effect hin d hd
    rw [emit_conversations, modifyJob_conversations, List.length_modify]
    rcases List.mem_append.mp hin with hold | hnow
    · exact h.number effect hold d hd
    · obtain rfl := List.mem_singleton.mp hnow
      obtain rfl := Option.some.inj hd
      exact hlength
  · intro d pid' arguments' hin
    by_cases hnow : JobEffect.spawned d pid' arguments' = .spawned c pid arguments
    · cases hnow
      have hat' : (self.conversations.modify c fun conversation => { conversation with
          job := { conversation.job with pid := pid, childWatch := .attached } })[c]? =
          some { conversation with
            job := { conversation.job with pid := pid, childWatch := .attached } } := by
        rw [List.getElem?_modify_eq, hat]
        rfl
      exact ⟨_, hat', harguments⟩
    · obtain ⟨conversation', hat', harguments'⟩ :=
        h.named d pid' arguments' (mem_of_mem_concat hnow hin)
      obtain ⟨conversation'', hat'', hsame⟩ := serviceName_modify
        (f := fun conversation => { conversation with
          job := { conversation.job with pid := pid, childWatch := .attached } })
        (fun _ => rfl) c hat'
      exact ⟨conversation'', hat'', hsame ▸ harguments'⟩
  · exact History.justified_concat.mpr ⟨h.warranted, hfresh⟩

theorem Accounted.aside (h : Accounted self)
    (hconversations : next.conversations = self.conversations) (hlog : next.log = self.log)
    (hcommand : next.command = self.command) : Accounted next := by
  constructor
  · rw [hconversations, hlog]
    exact h.leased
  · rw [hlog]
    exact h.known
  · rw [hlog]
    exact h.missed
  · rw [hconversations, hlog]
    exact h.recorded
  · rw [hconversations, hlog]
    exact h.number
  · refine h.named.keep hcommand ?_ ?_
    · rw [hlog]
      exact fun _ _ _ hin => hin
    · rw [hconversations]
      exact fun _ conversation hat => ⟨conversation, hat, rfl⟩
  · rw [hlog]
    exact h.warranted

/-- Every change keeps the account. -/
theorem Accounted.change (hchange : JobChange self next) (h : Accounted self) : Accounted next := by
  cases hchange with
  | aside hconversations hlog hcommand => exact h.aside hconversations hlog hcommand
  | created serviceName => exact h.created serviceName
  | marked c f hjob hfreed hserviceName => exact h.marked hjob hfreed hserviceName
  | spawned hat hnew hkept hfresh harguments => exact h.spawned hat hnew hkept hfresh harguments
  | signalled hat hattached => exact h.signalled hat hattached
  | stoppedNow hat hattached hwaited => exact h.stoppedNow hat hattached hwaited
  | notified hat hattached hended => exact h.notified hat hattached hended
  | freed hat hdetached hkept => exact h.freed hat hdetached hkept

end WorkerJobs

end Gdm
