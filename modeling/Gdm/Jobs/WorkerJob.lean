import Gdm.Common.WaitOnPid
import Gdm.Library.EventMachine
import Gdm.Library.ShellWords

/-!
# Worker jobs

A session has a worker process for each of its conversations.  The job of a conversation starts the
process, is told by the main loop when it has ended, and ends it when the conversation is stopped.
-/

namespace Gdm

/-! ## The job -/

/-- `child_watch_id`, and whether the source that it is the number of still exists. -/
inductive ChildWatch
  | none
  | attached
  | destroyed
  deriving DecidableEq, Repr

/-- `struct _GdmSessionWorkerJob`, but for what its process is started with. -/
structure GdmSessionWorkerJob where
  pid : Int := -1
  childWatch : ChildWatch := .none
  deriving DecidableEq, Repr

/-- The fields of `GdmSessionConversation` that concern its process. -/
structure WorkerConversation where
  serviceName : String
  workerPid : Int := -1
  /-- The job that has been created for it. -/
  job : GdmSessionWorkerJob := {}
  /-- `job` is not `NULL` -/
  hasJob : Bool := true
  isStopping : Bool := false
  freed : Bool := false
  deriving DecidableEq, Repr

/-- `get_job_arguments`: the file that is executed, and then what the process has as arguments. -/
def getJobArguments (command name : List Char) : Option (List (List Char)) :=
  match ShellWords.parseArgv command with
  | some (file :: arguments) => some (file :: name :: arguments)
  | _ => none

theorem getJobArguments_eq_some {command name : List Char} {arguments : List (List Char)} :
    getJobArguments command name = some arguments ↔
      ∃ file words, ShellWords.parseArgv command = some (file :: words) ∧
        arguments = file :: name :: words := by
  unfold getJobArguments
  split
  · rename_i file words hwords
    simp [hwords, eq_comm]
  · rename_i hnot
    constructor
    · exact nofun
    · rintro ⟨file, words, hwords, _⟩
      exact absurd hwords (hnot file words)

/-- The name that `start_conversation` gives to the process. -/
def jobName (serviceName : String) : List Char :=
  "gdm-session-worker [pam/".toList ++ serviceName.toList ++ "]".toList

/-! ## The jobs of a session -/

/-- What the jobs do, and what comes of it. -/
inductive JobEffect
  | spawned (conversation : Nat) (pid : Int) (arguments : List (List Char))
  /-- `SIGTERM` -/
  | signalled (pid : Int)
  /-- The status of the process has been got from the system. -/
  | reaped (pid : Int)
  /-- The process has been waited for in vain. -/
  | disowned (pid : Int)
  | sourceRemoved (conversation : Nat) (watch : ChildWatch)
  | exited (conversation code : Nat)
  | died (conversation signum : Nat)
  | freed (conversation : Nat)
  deriving DecidableEq, Repr

/-- The children of the process for which the system still has something to tell. -/
def JobEffect.children (pids : List Int) : JobEffect → List Int
  | spawned _ pid _ => pid :: pids
  | reaped pid => pids.filter (· ≠ pid)
  | _ => pids

def children (log : List JobEffect) : List Int :=
  log.foldl JobEffect.children []

/-- The conversations that there have been, by their numbers, and the hash table of a session, in
which a worker that could not be started leaves `NULL`. -/
structure WorkerJobs where
  /-- `command` -/
  command : List Char
  conversations : List WorkerConversation := []
  table : List (String × Option Nat) := []
  crashed : Bool := false
  log : List JobEffect := []

/-- What `waitpid` returns when a process is waited for. -/
abbrev JobWaits := Nat → List WaitpidResult

inductive JobEvent
  | startConversation (serviceName : String) (spawn : Option Int) (waits : JobWaits)
  | stopConversation (serviceName : String)
  /-- A session is started: the others are stopped. -/
  | stopAllOtherConversations (keep : String)
  | doReset (waits : JobWaits)
  | childWatch (conversation : Nat) (ending : ProcessEnding)
  /-- The signals of `worker_exited` and `worker_died` have been emitted. -/
  | conclude (conversation : Nat)

namespace WorkerJobs

variable (self : WorkerJobs)

def modifyConversation (c : Nat) (f : WorkerConversation → WorkerConversation) : WorkerJobs :=
  { self with conversations := self.conversations.modify c f }

def modifyJob (c : Nat) (f : GdmSessionWorkerJob → GdmSessionWorkerJob) : WorkerJobs :=
  self.modifyConversation c fun conversation => { conversation with job := f conversation.job }

def emit (effect : JobEffect) : WorkerJobs :=
  { self with log := self.log ++ [effect] }

/-- The job of a conversation. -/
def job (c : Nat) : GdmSessionWorkerJob :=
  match self.conversations[c]? with
  | some conversation => conversation.job
  | none => {}

/-- A process that is started has a number that no child has. -/
def Fresh (pid : Int) : Prop :=
  1 < pid ∧ pid ∉ children self.log

instance (pid : Int) : Decidable (self.Fresh pid) :=
  inferInstanceAs (Decidable (_ ∧ _))

/-! ### One job -/

/-- `gdm_session_worker_job_start`, with the process that the system starts, if it does.  If it
does not, the number stays -1, which `g_child_watch_add` refuses to watch. -/
def jobStart (c : Nat) (name : List Char) (spawn : Option Int) : WorkerJobs × Bool :=
  match getJobArguments self.command name, spawn.filter fun pid => self.Fresh pid with
  | some arguments, some pid =>
    ((self.modifyJob c fun job => { job with pid := pid, childWatch := .attached }).emit
      (.spawned c pid arguments), true)
  | _, _ => (self, false)

/-- `gdm_session_worker_job_stop` -/
def jobStop (c : Nat) : WorkerJobs :=
  if 1 < (self.job c).pid then self.emit (.signalled (self.job c).pid) else self

/-- `g_clear_handle_id` for `child_watch_id` -/
def clearChildWatch (c : Nat) : WorkerJobs :=
  match (self.job c).childWatch with
  | .none => self
  | watch =>
    (self.modifyJob c fun job => { job with childWatch := .none }).emit (.sourceRemoved c watch)

/-- `handle_session_worker_job_death` -/
def handleDeath (c : Nat) (results : List WaitpidResult) : WorkerJobs :=
  let reaped := (gdmWaitOnAndDisownPid 5 results).got.any fun result =>
    match result with
    | .pid _ => true
    | _ => false
  let waited := if reaped then self.emit (.reaped (self.job c).pid)
    else self.emit (.disowned (self.job c).pid)
  waited.modifyJob c fun job => { job with pid := -1 }

/-- `gdm_session_worker_job_stop_now` -/
def jobStopNow (c : Nat) (results : List WaitpidResult) : WorkerJobs :=
  if 1 < (self.job c).pid then ((self.clearChildWatch c).jobStop c).handleDeath c results else self

/-! ### Conversations -/

/-- `free_conversation` -/
def freeConversation (c : Nat) : WorkerJobs :=
  (self.modifyConversation c fun conversation => { conversation with freed := true }).emit
    (.freed c)

/-- The last reference to the job is dropped, and it is finalized. -/
def unrefJob (c : Nat) : WorkerJobs :=
  (self.jobStop c).modifyConversation c fun conversation => { conversation with hasJob := false }

/-- `start_conversation`, with the number of what it returns, or `NULL`. -/
def startWorker (serviceName : String) (spawn : Option Int) : WorkerJobs × Option Nat :=
  let c := self.conversations.length
  let created : WorkerJobs := { self with
    conversations := self.conversations ++ [{ serviceName := serviceName }] }
  match created.jobStart c (jobName serviceName) spawn with
  | (started, true) =>
    (started.modifyConversation c fun conversation =>
      { conversation with workerPid := conversation.job.pid }, some c)
  | (failed, false) => ((failed.unrefJob c).freeConversation c, none)

/-- `g_hash_table_insert`: freeing `NULL` crashes. -/
def insert (serviceName : String) (conversation : Option Nat) : WorkerJobs :=
  let freed : WorkerJobs := match self.table.lookup serviceName with
    | some (some old) => self.freeConversation old
    | some none => { self with crashed := true }
    | none => self
  { freed with
    table := (serviceName, conversation) :: freed.table.filter fun entry => entry.1 ≠ serviceName }

/-- `start_conversation`, and the insertion of what it returns. -/
def startAndInsert (serviceName : String) (spawn : Option Int) : WorkerJobs :=
  let (started, conversation) := self.startWorker serviceName spawn
  started.insert serviceName conversation

/-- `gdm_session_start_conversation` -/
def startConversation (serviceName : String) (spawn : Option Int) (waits : JobWaits) : WorkerJobs :=
  match self.table.lookup serviceName with
  | some (some old) =>
    match self.conversations[old]? with
    | some conversation =>
      if conversation.isStopping then
        ((self.jobStopNow old (waits old)).unrefJob old).startAndInsert serviceName spawn
      else self
    | none => self
  | _ => self.startAndInsert serviceName spawn

/-- `stop_conversation` -/
def stop (c : Nat) : WorkerJobs :=
  (self.modifyConversation c fun conversation => { conversation with isStopping := true }).jobStop c

/-- `gdm_session_stop_conversation` -/
def stopConversation (serviceName : String) : WorkerJobs :=
  match self.table.lookup serviceName with
  | some (some c) => self.stop c
  | _ => self

/-- `stop_all_other_conversations`, for the entries of the table that are left; stopping `NULL`
crashes. -/
def stopOthers (keep : Nat) : List (String × Option Nat) → WorkerJobs → WorkerJobs
  | [], self => self
  | (_, none) :: _, self => { self with crashed := true }
  | (_, some c) :: rest, self => stopOthers keep rest (if c = keep then self else self.stop c)

/-- `gdm_session_start_session`, up to what it does to the conversations. -/
def stopAllOtherConversations (keep : String) : WorkerJobs :=
  match self.table.lookup keep with
  | some (some c) => stopOthers c self.table self
  | _ => self

/-- `stop_conversation_now`, and what is left of the conversation when the table is emptied. -/
def stopNow (waits : JobWaits) (self : WorkerJobs) (entry : String × Option Nat) : WorkerJobs :=
  match entry.2 with
  | some c => (self.jobStopNow c (waits c)).unrefJob c
  | none => self

def freeEntry (self : WorkerJobs) (entry : String × Option Nat) : WorkerJobs :=
  match entry.2 with
  | some c => self.freeConversation c
  | none => self

/-- `do_reset`, which stops all conversations at once; an entry that is `NULL` is kept like the
conversation that there is none of, and so leaves the table first. -/
def doReset (waits : JobWaits) : WorkerJobs :=
  { self.table.foldl freeEntry (self.table.foldl (stopNow waits) self) with table := [] }

/-- The callback of the child watch, with `worker_exited` or `worker_died` up to the signals.  GLib
gets the status of the process only when it dispatches the watch, and removes the source then. -/
def childWatch (c : Nat) (ending : ProcessEnding) : WorkerJobs :=
  match self.conversations[c]? with
  | none => self
  | some conversation =>
    if conversation.job.childWatch = .attached then
      let reaped := self.emit (.reaped conversation.job.pid)
      let done := reaped.modifyJob c fun job => { job with pid := -1, childWatch := .destroyed }
      let emitted := match ending with
        | .exited code => done.emit (.exited c code)
        | .killed signum => done.emit (.died c signum)
      { emitted with
        table := emitted.table.filter fun entry => entry.1 ≠ conversation.serviceName }
    else self

/-- The end of `worker_exited` and `worker_died`. -/
def conclude (c : Nat) : WorkerJobs :=
  match self.conversations[c]? with
  | none => self
  | some conversation =>
    if conversation.job.childWatch = .destroyed ∧ conversation.freed = false then
      (if conversation.isStopping then self.unrefJob c else self).freeConversation c
    else self

/-! ### The machine -/

def step (self : WorkerJobs) (event : JobEvent) : WorkerJobs :=
  if self.crashed then self
  else
    match event with
    | .startConversation serviceName spawn waits =>
      self.startConversation serviceName spawn waits
    | .stopConversation serviceName => self.stopConversation serviceName
    | .stopAllOtherConversations keep => self.stopAllOtherConversations keep
    | .doReset waits => self.doReset waits
    | .childWatch c ending => self.childWatch c ending
    | .conclude c => self.conclude c

/-- The jobs, from the creation of the session on. -/
def machine : EventMachine WorkerJobs JobEvent where
  Start self := ∃ command, self = { command := command }
  step := step

end WorkerJobs

end Gdm
