import Gdm.Jobs.Accounts
import Mathlib.Data.List.Nodup
import Mathlib.Logic.Relation

/-!
# The table of conversations and their processes

The conversations whose processes are waited for by the main loop are those of the table.
-/

namespace Gdm

/-- Where a conversation stands. -/
structure Standing where
  serviceName : String
  watch : ChildWatch
  freed : Bool
  deriving DecidableEq, Repr

namespace Standing

def free (standing : Standing) : Standing :=
  { standing with freed := true }

/-- The watch of a process that is ended at once is gone. -/
def detach (standing : Standing) : Standing :=
  if standing.watch = .attached then { standing with watch := .none } else standing

variable {standing : Standing}

theorem watch_detach : standing.detach.watch ≠ .attached := by
  unfold detach
  split
  · exact ChildWatch.noConfusion
  · rename_i hnot
    exact hnot

@[simp] theorem freed_detach : standing.detach.freed = standing.freed := by
  unfold detach
  split
  · rfl
  · rfl

theorem detach_eq_self (h : standing.watch ≠ .attached) : standing.detach = standing :=
  if_neg h

end Standing

def WorkerConversation.standing (conversation : WorkerConversation) : Standing :=
  { serviceName := conversation.serviceName
    watch := conversation.job.childWatch
    freed := conversation.freed }

namespace WorkerJobs

open WorkerConversation

variable {self next : WorkerJobs} {c : ℕ} {conversation : WorkerConversation}

def standings (self : WorkerJobs) : List Standing :=
  self.conversations.map WorkerConversation.standing

/-- A chain of changes. -/
def JobChanges : WorkerJobs → WorkerJobs → Prop :=
  Relation.ReflTransGen JobChange

theorem JobChanges.accounted (hchanges : JobChanges self next) (h : Accounted self) :
    Accounted next := by
  induction hchanges with
  | refl => exact h
  | tail _ hlast ih => exact ih.change hlast

/-- What a function of the jobs does that leaves the table. -/
structure Does (jobs next : WorkerJobs) (left : List Standing) : Prop where
  changes : JobChanges jobs next
  table : next.table = jobs.table
  standings : next.standings = left

theorem Does.refl : Does self self self.standings :=
  ⟨Relation.ReflTransGen.refl, rfl, rfl⟩

theorem Does.trans {last : WorkerJobs} {left left' : List Standing}
    (h : Does self next left) (h' : Does next last left') : Does self last left' :=
  ⟨h.changes.trans h'.changes, h'.table.trans h.table, h'.standings⟩

/-- It goes on with the account that it has been given. -/
theorem Does.then {last : WorkerJobs} {left left' : List Standing}
    (h : Does self next left) (haccounted : Accounted self)
    (hthen : Accounted next → Does next last left') : Does self last left' :=
  h.trans (hthen (h.changes.accounted haccounted))

theorem standings_modify {f : WorkerConversation → WorkerConversation} {g : Standing → Standing}
    (h : ∀ conversation, self.conversations[c]? = some conversation →
      (f conversation).standing = g conversation.standing) :
    (self.modifyConversation c f).standings = self.standings.modify c g := by
  apply List.ext_getElem?
  intro d
  rw [standings, standings, List.getElem?_map, modifyConversation_conversations]
  by_cases hsame : c = d
  · rw [← hsame, List.getElem?_modify_eq, List.getElem?_modify_eq, List.getElem?_map]
    cases hat : self.conversations[c]? with
    | none => rfl
    | some conversation => exact congrArg some (h conversation hat)
  · rw [List.getElem?_modify_ne _ _ hsame, List.getElem?_modify_ne _ _ hsame, List.getElem?_map]

theorem standings_getElem? (hat : self.conversations[c]? = some conversation) :
    self.standings[c]? = some conversation.standing := by
  rw [standings, List.getElem?_map, hat]
  rfl

theorem exists_of_standing {standing : Standing} (h : self.standings[c]? = some standing) :
    ∃ conversation, self.conversations[c]? = some conversation ∧
      conversation.standing = standing := by
  rw [standings, List.getElem?_map] at h
  exact Option.map_eq_some_iff.mp h

/-- A change of a conversation that is not about its process. -/
theorem does_marked {f : WorkerConversation → WorkerConversation}
    (hjob : ∀ conversation, (f conversation).job = conversation.job)
    (hfreed : ∀ conversation, (f conversation).freed = conversation.freed)
    (hserviceName : ∀ conversation, (f conversation).serviceName = conversation.serviceName) :
    Does self (self.modifyConversation c f) self.standings := by
  refine ⟨Relation.ReflTransGen.single (.marked c f hjob hfreed hserviceName), rfl, ?_⟩
  have hstandings := @standings_modify self c f id fun conversation _ => by
    rw [WorkerConversation.standing, hjob, hfreed, hserviceName]
    rfl
  rw [hstandings, List.modify_id]

/-! ## Functions of the jobs -/

theorem job_eq (hat : self.conversations[c]? = some conversation) :
    self.job c = conversation.job := by
  rw [job, hat]

/-- A job with a process is waited for. -/
theorem Accounted.attached (h : Accounted self) (hpid : 1 < (self.job c).pid) :
    ∃ conversation, self.conversations[c]? = some conversation ∧
      conversation.job.childWatch = .attached := by
  cases hat : self.conversations[c]? with
  | none =>
    rw [job, hat] at hpid
    exact absurd hpid (by decide)
  | some conversation =>
    refine ⟨conversation, rfl, ?_⟩
    by_contra hnot
    rw [job_eq hat, (h.recorded c conversation hat).noPid hnot] at hpid
    exact absurd hpid (by decide)

theorem jobStop_does (h : Accounted self) (c : ℕ) : Does self (self.jobStop c) self.standings := by
  unfold jobStop
  split
  · rename_i hpid
    obtain ⟨conversation, hat, hattached⟩ := h.attached hpid
    rw [job_eq hat]
    exact ⟨Relation.ReflTransGen.single (.signalled hat hattached), rfl, rfl⟩
  · exact Does.refl

theorem stop_does (h : Accounted self) (c : ℕ) : Does self (self.stop c) self.standings := by
  have hmarked : Does self (self.modifyConversation c fun conversation =>
      { conversation with isStopping := true }) self.standings :=
    does_marked (fun _ => rfl) (fun _ => rfl) (fun _ => rfl)
  rw [← hmarked.standings]
  exact hmarked.then h fun haccounted => jobStop_does haccounted c

theorem unrefJob_does (h : Accounted self) (c : ℕ) :
    Does self (self.unrefJob c) self.standings := by
  have hstopped := jobStop_does h c
  refine hstopped.trans ?_
  rw [← hstopped.standings]
  exact does_marked (fun _ => rfl) (fun _ => rfl) (fun _ => rfl)

/-- `gdm_session_worker_job_stop_now`, for a process that is waited for. -/
theorem jobStopNow_eq (hat : self.conversations[c]? = some conversation)
    (hattached : conversation.job.childWatch = .attached) (hpid : 1 < conversation.job.pid)
    (results : List WaitpidResult) :
    ∃ effect : JobEffect, effect.Settles conversation.job.pid ∧
      self.jobStopNow c results = (((self.emit (.sourceRemoved c .attached)).emit
        (.signalled conversation.job.pid)).emit effect).modifyJob c fun _ => {} := by
  have hcleared : self.clearChildWatch c = (self.modifyJob c fun job =>
      { job with childWatch := .none }).emit (.sourceRemoved c .attached) := by
    rw [clearChildWatch, job_eq hat, hattached]
  have hat' : (self.clearChildWatch c).conversations[c]? =
      some { conversation with job := { conversation.job with childWatch := .none } } := by
    rw [hcleared, emit_conversations, modifyJob_conversations, List.getElem?_modify_eq, hat]
    rfl
  have hsignalled : (self.clearChildWatch c).jobStop c =
      (self.clearChildWatch c).emit (.signalled conversation.job.pid) := by
    rw [jobStop, job_eq hat', if_pos hpid]
  have hmodify : ∀ conversations : List WorkerConversation,
      (conversations.modify c fun conversation =>
        { conversation with job := { conversation.job with childWatch := .none } }).modify c
        (fun conversation => { conversation with job := { conversation.job with pid := -1 } }) =
      conversations.modify c fun conversation => { conversation with job := {} } :=
    fun conversations => List.modify_modify_eq _ _ c conversations
  have hjob : ((self.clearChildWatch c).emit (.signalled conversation.job.pid)).job c =
      { conversation.job with childWatch := .none } := job_eq hat'
  rw [jobStopNow, job_eq hat, if_pos hpid, hsignalled, handleDeath, hjob, hcleared]
  dsimp only
  split
  · refine ⟨.reaped conversation.job.pid, .inl rfl, ?_⟩
    simp only [emit, modifyJob, modifyConversation, hmodify]
  · refine ⟨.disowned conversation.job.pid, .inr rfl, ?_⟩
    simp only [emit, modifyJob, modifyConversation, hmodify]

theorem jobStopNow_does (h : Accounted self) (c : ℕ) (results : List WaitpidResult) :
    Does self (self.jobStopNow c results) (self.standings.modify c Standing.detach) := by
  by_cases hpid : 1 < (self.job c).pid
  · obtain ⟨conversation, hat, hattached⟩ := h.attached hpid
    have hpid' := (h.recorded c conversation hat).pid hattached
    obtain ⟨effect, hsettles, heq⟩ := jobStopNow_eq hat hattached hpid' results
    rw [heq]
    refine ⟨Relation.ReflTransGen.single (.stoppedNow hat hattached hsettles), rfl, ?_⟩
    apply @standings_modify (((self.emit (.sourceRemoved c .attached)).emit
      (.signalled conversation.job.pid)).emit effect)
    intro other hother
    obtain rfl := Option.some.inj (hother.symm.trans hat)
    have hwatch : other.standing.watch = .attached := hattached
    rw [Standing.detach, if_pos hwatch]
    rfl
  · have hsame : self.standings.modify c Standing.detach = self.standings := by
      apply List.ext_getElem?
      intro d
      by_cases hcd : c = d
      · rw [← hcd, List.getElem?_modify_eq]
        cases hstanding : self.standings[c]? with
        | none => rfl
        | some standing =>
          obtain ⟨conversation, hat, rfl⟩ := exists_of_standing hstanding
          refine congrArg some (Standing.detach_eq_self fun hattached => hpid ?_)
          rw [job_eq hat]
          exact (h.recorded c conversation hat).pid hattached
      · rw [List.getElem?_modify_ne _ _ hcd]
    rw [jobStopNow, if_neg hpid, hsame]
    exact Does.refl

theorem freeConversation_does (hat : self.conversations[c]? = some conversation)
    (hdetached : conversation.job.childWatch ≠ .attached) (hkept : conversation.freed = false) :
    Does self (self.freeConversation c) (self.standings.modify c Standing.free) :=
  ⟨Relation.ReflTransGen.single (.freed hat hdetached hkept), rfl, standings_modify fun _ _ => rfl⟩

/-! ## The table -/

/-- The conversations of the table are those whose processes are waited for by the main loop. -/
structure Listed (standings : List Standing) (table : List (String × Option ℕ)) : Prop where
  keys : (table.map Prod.fst).Nodup
  entry : ∀ serviceName c, (serviceName, some c) ∈ table →
    ∃ standing, standings[c]? = some standing ∧ standing.serviceName = serviceName ∧
      standing.watch = .attached
  listed : ∀ (c : ℕ) standing, standings[c]? = some standing → standing.watch = .attached →
    (standing.serviceName, some c) ∈ table

variable {standings : List Standing} {table : List (String × Option ℕ)} {serviceName : String}

theorem mem_of_lookup {value : Option ℕ} (h : table.lookup serviceName = some value) :
    (serviceName, value) ∈ table := by
  obtain ⟨before, after, rfl, -⟩ := List.lookup_eq_some_iff.mp h
  exact List.mem_append_right _ List.mem_cons_self

/-- A service has one entry. -/
theorem Listed.unique (h : Listed standings table) {value value' : Option ℕ}
    (hin : (serviceName, value) ∈ table) (hin' : (serviceName, value') ∈ table) : value = value' :=
  congrArg Prod.snd (List.inj_on_of_nodup_map h.keys hin hin' rfl)

theorem Listed.lookup_of_mem (h : Listed standings table) {value : Option ℕ}
    (hin : (serviceName, value) ∈ table) : table.lookup serviceName = some value := by
  cases hlookup : table.lookup serviceName with
  | none =>
    have habsurd := List.lookup_eq_none_iff.mp hlookup _ hin
    simp at habsurd
  | some found => rw [h.unique (mem_of_lookup hlookup) hin]

/-- A conversation has one entry. -/
theorem Listed.unique_service (h : Listed standings table) {other : String}
    (hin : (serviceName, some c) ∈ table) (hin' : (other, some c) ∈ table) :
    serviceName = other := by
  obtain ⟨standing, hat, rfl, -⟩ := h.entry serviceName c hin
  obtain ⟨standing', hat', rfl, -⟩ := h.entry other c hin'
  rw [Option.some.inj (hat.symm.trans hat')]

theorem nodup_keys_filter (h : (table.map Prod.fst).Nodup) (serviceName : String) :
    ((table.filter fun entry => entry.1 ≠ serviceName).map Prod.fst).Nodup :=
  h.sublist (List.filter_sublist.map Prod.fst)

theorem mem_filter_iff {other : String} {value : Option ℕ} :
    (other, value) ∈ table.filter (fun entry => entry.1 ≠ serviceName) ↔
      (other, value) ∈ table ∧ other ≠ serviceName := by
  rw [List.mem_filter, decide_eq_true_iff]

/-- A conversation that is no longer waited for leaves the table. -/
theorem Listed.leave (h : Listed standings table) {standing : Standing}
    (hat : standings[c]? = some standing) (hattached : standing.watch = .attached)
    {f : Standing → Standing} (hwatch : (f standing).watch ≠ .attached) :
    Listed (standings.modify c f) (table.filter fun entry => entry.1 ≠ standing.serviceName) := by
  have hentry := h.listed c standing hat hattached
  constructor
  · exact nodup_keys_filter h.keys _
  · intro other d hin
    obtain ⟨hin, hne⟩ := mem_filter_iff.mp hin
    obtain ⟨standing', hat', hservice, hattached'⟩ := h.entry other d hin
    refine ⟨standing', ?_, hservice, hattached'⟩
    rw [List.getElem?_modify_ne]
    · exact hat'
    · rintro rfl
      exact hne (h.unique_service hin hentry)
  · intro d standing' hat' hattached'
    rcases Leases.getElem?_modify_cases hat' with ⟨rfl, x, hx, rfl⟩ | ⟨hne, hold⟩
    · obtain rfl := Option.some.inj (hx.symm.trans hat)
      exact absurd hattached' hwatch
    · apply mem_filter_iff.mpr
      refine ⟨h.listed d standing' hold hattached', ?_⟩
      intro hsame
      have hin := h.listed d standing' hold hattached'
      rw [hsame] at hin
      exact hne (Option.some.inj (h.unique hin hentry))

/-- What is not waited for does not matter. -/
theorem Listed.modify (h : Listed standings table) {f : Standing → Standing}
    (hdetached : ∀ standing, standings[c]? = some standing → standing.watch ≠ .attached ∧
      (f standing).watch ≠ .attached) : Listed (standings.modify c f) table := by
  constructor
  · exact h.keys
  · intro serviceName d hin
    obtain ⟨standing, hat, hservice, hattached⟩ := h.entry serviceName d hin
    refine ⟨standing, ?_, hservice, hattached⟩
    rw [List.getElem?_modify_ne]
    · exact hat
    · rintro rfl
      exact (hdetached standing hat).1 hattached
  · intro d standing hat hattached
    rcases Leases.getElem?_modify_cases hat with ⟨rfl, x, hx, rfl⟩ | ⟨-, hold⟩
    · exact absurd hattached (hdetached x hx).2
    · exact h.listed d standing hold hattached

/-- A service that has no conversation gets one. -/
theorem Listed.insert (h : Listed standings table) (hfree : serviceName ∉ table.map Prod.fst)
    {standing : Standing} {value : Option ℕ}
    (hstanding : (value = some standings.length ∧ standing.serviceName = serviceName ∧
      standing.watch = .attached) ∨ (value = none ∧ standing.watch ≠ .attached)) :
    Listed (standings ++ [standing]) ((serviceName, value) :: table) := by
  have hold : ∀ (c : ℕ) x, standings[c]? = some x → (standings ++ [standing])[c]? = some x := by
    intro c x hx
    rw [List.getElem?_append_left (List.getElem?_eq_some_iff.mp hx).1]
    exact hx
  constructor
  · exact List.nodup_cons.mpr ⟨hfree, h.keys⟩
  · intro other c hin
    rcases List.mem_cons.mp hin with hsame | hin
    · cases hsame
      rcases hstanding with ⟨hvalue, hservice, hattached⟩ | ⟨habsurd, -⟩
      · obtain rfl := Option.some.inj hvalue
        exact ⟨standing, List.getElem?_concat_length, hservice, hattached⟩
      · cases habsurd
    · obtain ⟨standing', hat, hservice, hattached⟩ := h.entry other c hin
      exact ⟨standing', hold c standing' hat, hservice, hattached⟩
  · intro c standing' hat hattached
    rw [List.getElem?_append] at hat
    split at hat
    · exact List.mem_cons_of_mem _ (h.listed c standing' hat hattached)
    · rename_i hlarge
      obtain rfl := List.mem_singleton.mp (List.mem_of_getElem? hat)
      have hc : c = standings.length := by
        have hlength := (List.getElem?_eq_some_iff.mp hat).1
        rw [List.length_singleton] at hlength
        omega
      rcases hstanding with ⟨hvalue, hservice, -⟩ | ⟨-, habsurd⟩
      · rw [hvalue, hservice, hc]
        exact List.mem_cons_self
      · exact absurd hattached habsurd

/-- What is not waited for needs no entry. -/
theorem Listed.filter (h : Listed standings table) (hfree : ∀ c, (serviceName, some c) ∉ table) :
    Listed standings (table.filter fun entry => entry.1 ≠ serviceName) := by
  constructor
  · exact nodup_keys_filter h.keys serviceName
  · intro other c hin
    exact h.entry other c (mem_filter_iff.mp hin).1
  · intro c standing hat hattached
    have hin := h.listed c standing hat hattached
    apply mem_filter_iff.mpr
    refine ⟨hin, ?_⟩
    intro hsame
    rw [hsame] at hin
    exact hfree c hin

/-- A service has no process that is waited for, and its conversation can be freed. -/
structure Vacant (jobs : WorkerJobs) (serviceName : String) : Prop where
  accounted : Accounted jobs
  listed : Listed jobs.standings (jobs.table.filter fun entry => entry.1 ≠ serviceName)
  old : ∀ c, jobs.table.lookup serviceName = some (some c) → ∃ standing : Standing,
    jobs.standings[c]? = some standing ∧ standing.watch ≠ .attached ∧ standing.freed = false

end WorkerJobs

end Gdm
