import Gdm.Jobs.Supervision

/-!
# The ends of the workers

Each event keeps the account of the processes and the table.  So a signal only goes to a child, the
end of a worker is reported once and to a conversation that is there, and the workers that are left
are those of the table and those that did not end in time.
-/

namespace Gdm

namespace WorkerJobs

open WorkerConversation

variable {self next : WorkerJobs} {c : ℕ} {conversation : WorkerConversation} {serviceName : String}

/-- What the events keep. -/
structure Inv (jobs : WorkerJobs) : Prop where
  accounted : Accounted jobs
  listed : Listed jobs.standings jobs.table

/-- What an event does that leaves the table and where the conversations stand. -/
theorem Inv.does (h : Inv self) (hdoes : Does self next self.standings) : Inv next := by
  refine ⟨hdoes.changes.accounted h.accounted, ?_⟩
  rw [hdoes.standings, hdoes.table]
  exact h.listed

/-! ## Starting -/

/-- The process is started and waited for, or nothing happens. -/
theorem jobStart_cases (hat : self.conversations[c]? = some conversation)
    (hnew : conversation.job = {}) (hkept : conversation.freed = false) (spawn : Option Int) :
    (∃ next, self.jobStart c (jobName conversation.serviceName) spawn = (next, true) ∧
      Does self next
        (self.standings.modify c fun standing => { standing with watch := .attached })) ∨
    self.jobStart c (jobName conversation.serviceName) spawn = (self, false) := by
  unfold jobStart
  split
  · rename_i arguments pid harguments hpid
    left
    have hfresh : self.Fresh pid := by
      obtain ⟨-, hfresh⟩ := Option.filter_eq_some_iff.mp hpid
      exact of_decide_eq_true hfresh
    exact ⟨_, rfl, Relation.ReflTransGen.single (.spawned hat hnew hkept hfresh harguments), rfl,
      standings_modify fun _ _ => rfl⟩
  · exact .inr rfl

theorem modify_concat_length {α : Type*} (l : List α) (x : α) (f : α → α) :
    (l ++ [x]).modify l.length f = l ++ [f x] := by
  induction l with
  | nil => rfl
  | cons y l ih => exact congrArg (y :: ·) ih

/-- A new worker, if it can be started. -/
theorem startWorker_does (h : Accounted self) (serviceName : String) (spawn : Option Int) :
    ∃ standing, Does self (self.startWorker serviceName spawn).1 (self.standings ++ [standing]) ∧
      (((self.startWorker serviceName spawn).2 = some self.standings.length ∧
          standing.serviceName = serviceName ∧ standing.watch = .attached) ∨
        ((self.startWorker serviceName spawn).2 = none ∧ standing.watch ≠ .attached)) := by
  have hlength : self.standings.length = self.conversations.length := List.length_map _
  have hcreated : Does self { self with
      conversations := self.conversations ++ [{ serviceName := serviceName }] }
      (self.standings ++ [⟨serviceName, .none, false⟩]) :=
    ⟨Relation.ReflTransGen.single (.created serviceName), rfl, List.map_append⟩
  have hat : (self.conversations ++ [{ serviceName := serviceName }])[self.conversations.length]? =
      some { serviceName := serviceName } := List.getElem?_concat_length
  have hcases := @jobStart_cases { self with
    conversations := self.conversations ++ [{ serviceName := serviceName }] } _ _ hat rfl rfl spawn
  unfold startWorker
  dsimp only
  rcases hcases with ⟨next, hnext, hdoes⟩ | hsame
  · rw [hnext]
    refine ⟨⟨serviceName, .attached, false⟩, ?_, .inl ⟨congrArg some hlength.symm, rfl, rfl⟩⟩
    have hstarted := hcreated.trans hdoes
    rw [hcreated.standings, ← hlength, modify_concat_length] at hstarted
    refine hstarted.trans ?_
    rw [← hstarted.standings]
    exact does_marked (fun _ => rfl) (fun _ => rfl) (fun _ => rfl)
  · rw [hsame]
    refine ⟨⟨serviceName, .none, true⟩, ?_, .inr ⟨rfl, ChildWatch.noConfusion⟩⟩
    have hunref := hcreated.then h fun haccounted =>
      unrefJob_does haccounted self.conversations.length
    rw [hcreated.standings] at hunref
    have hstanding : (unrefJob { self with
        conversations := self.conversations ++ [{ serviceName := serviceName }] }
        self.conversations.length).standings[self.conversations.length]? =
        some ⟨serviceName, .none, false⟩ := by
      rw [hunref.standings, ← hlength]
      exact List.getElem?_concat_length
    obtain ⟨conversation, hat', hstands⟩ := exists_of_standing hstanding
    have hwatch : conversation.job.childWatch = .none := congrArg Standing.watch hstands
    have hkept : conversation.freed = false := congrArg Standing.freed hstands
    have hfreed := freeConversation_does hat' (by rw [hwatch]; exact ChildWatch.noConfusion) hkept
    rw [hunref.standings, ← hlength, modify_concat_length] at hfreed
    rw [← hlength] at hunref ⊢
    exact hunref.trans hfreed

/-- The new conversation takes the place of the old one, which is freed. -/
theorem Vacant.startAndInsert (h : Vacant self serviceName) (spawn : Option Int) :
    Inv (self.startAndInsert serviceName spawn) := by
  obtain ⟨standing, hdoes, hvalue⟩ := startWorker_does h.accounted serviceName spawn
  unfold WorkerJobs.startAndInsert
  generalize self.startWorker serviceName spawn = started at hdoes hvalue ⊢
  obtain ⟨next, value⟩ := started
  dsimp only at hdoes hvalue ⊢
  have haccounted := hdoes.changes.accounted h.accounted
  have hfree : serviceName ∉
      (self.table.filter fun entry => entry.1 ≠ serviceName).map Prod.fst := by
    intro hin
    obtain ⟨⟨other, value⟩, hin, hsame⟩ := List.mem_map.mp hin
    exact (mem_filter_iff.mp hin).2 hsame
  have hlisted := h.listed.insert hfree hvalue
  rw [← hdoes.standings, ← hdoes.table] at hlisted
  unfold insert
  split
  · rename_i old hlookup
    rw [hdoes.table] at hlookup
    obtain ⟨standing', hat, hdetached, hkept⟩ := h.old old hlookup
    have hat' : next.standings[old]? = some standing' := by
      rw [hdoes.standings, List.getElem?_append_left (List.getElem?_eq_some_iff.mp hat).1]
      exact hat
    obtain ⟨conversation, hconversation, rfl⟩ := exists_of_standing hat'
    have hfrees := freeConversation_does hconversation hdetached hkept
    refine ⟨(hfrees.changes.accounted haccounted).aside rfl rfl rfl, ?_⟩
    have hfreed : Listed (next.standings.modify old Standing.free)
        ((serviceName, value) :: next.table.filter fun entry => entry.1 ≠ serviceName) := by
      apply hlisted.modify
      intro x hx
      obtain rfl := Option.some.inj (hx.symm.trans hat')
      exact ⟨hdetached, hdetached⟩
    rw [← hfrees.standings, ← hfrees.table] at hfreed
    exact hfreed
  · exact ⟨haccounted.aside rfl rfl rfl, hlisted⟩
  · exact ⟨haccounted.aside rfl rfl rfl, hlisted⟩

theorem Inv.vacant (h : Inv self) (hfree : ∀ c, (serviceName, some c) ∉ self.table) :
    Vacant self serviceName := by
  refine ⟨h.accounted, h.listed.filter hfree, ?_⟩
  intro c hlookup
  exact absurd (mem_of_lookup hlookup) (hfree c)

/-- The process of the conversation is ended at once. -/
theorem Inv.vacant_of_stopped (h : Inv self)
    (hlookup : self.table.lookup serviceName = some (some c)) (results : List WaitpidResult) :
    Vacant ((self.jobStopNow c results).unrefJob c) serviceName := by
  obtain ⟨standing, hat, hservice, hattached⟩ := h.listed.entry _ c (mem_of_lookup hlookup)
  obtain ⟨conversation, hconversation, rfl⟩ := exists_of_standing hat
  have hkept := (h.accounted.recorded c conversation hconversation).kept hattached
  have hstopped := jobStopNow_does h.accounted c results
  have hunref := hstopped.then h.accounted fun haccounted => unrefJob_does haccounted c
  rw [hstopped.standings] at hunref
  constructor
  · exact hunref.changes.accounted h.accounted
  · rw [hunref.standings, hunref.table, ← hservice]
    exact h.listed.leave hat hattached Standing.watch_detach
  · intro d hd
    rw [hunref.table, hlookup] at hd
    obtain rfl := Option.some.inj (Option.some.inj hd)
    refine ⟨conversation.standing.detach, ?_, Standing.watch_detach, ?_⟩
    · rw [hunref.standings, List.getElem?_modify_eq, hat]
      rfl
    · rw [Standing.freed_detach]
      exact hkept

theorem Inv.startConversation (h : Inv self) (serviceName : String) (spawn : Option Int)
    (waits : JobWaits) : Inv (self.startConversation serviceName spawn waits) := by
  unfold WorkerJobs.startConversation
  split
  · rename_i old hlookup
    split
    · split
      · exact (h.vacant_of_stopped hlookup (waits old)).startAndInsert spawn
      · exact h
    · exact h
  · rename_i hlookup
    refine (h.vacant ?_).startAndInsert spawn
    intro c hin
    exact hlookup c (h.listed.lookup_of_mem hin)

/-! ## Stopping -/

theorem Inv.stopConversation (h : Inv self) (serviceName : String) :
    Inv (self.stopConversation serviceName) := by
  unfold WorkerJobs.stopConversation
  split
  · rename_i c hlookup
    exact h.does (stop_does h.accounted c)
  · exact h

theorem Inv.crash (h : Inv self) : Inv { self with crashed := true } :=
  ⟨h.accounted.aside rfl rfl rfl, h.listed⟩

theorem Inv.stopOthers (keep : ℕ) (entries : List (String × Option ℕ)) (h : Inv self) :
    Inv (stopOthers keep entries self) := by
  induction entries generalizing self with
  | nil => exact h
  | cons entry entries ih =>
    obtain ⟨serviceName, value⟩ := entry
    cases value with
    | none => exact h.crash
    | some c =>
      rw [WorkerJobs.stopOthers]
      split
      · exact ih h
      · exact ih (h.does (stop_does h.accounted c))

theorem Inv.stopAllOtherConversations (h : Inv self) (keep : String) :
    Inv (self.stopAllOtherConversations keep) := by
  unfold WorkerJobs.stopAllOtherConversations
  split
  · rename_i c hlookup
    exact h.stopOthers c self.table
  · exact h

/-! ## Resetting -/

theorem stopNow_does (h : Accounted self) (waits : JobWaits) (serviceName : String) (c : ℕ) :
    Does self (stopNow waits self (serviceName, some c))
      (self.standings.modify c Standing.detach) := by
  have hstopped := jobStopNow_does h c (waits c)
  have hunref := hstopped.then h fun haccounted => unrefJob_does haccounted c
  rw [hstopped.standings] at hunref
  exact hunref

/-- The processes of the entries are ended, one after the other. -/
theorem stopNow_foldl (waits : JobWaits) (entries : List (String × Option ℕ)) (h : Accounted self) :
    ∃ left, Does self (entries.foldl (stopNow waits) self) left ∧
      left.length = self.standings.length ∧
      ∀ (c : ℕ) standing, left[c]? = some standing → ∃ old, self.standings[c]? = some old ∧
        standing.freed = old.freed ∧
        (standing.watch = .attached → old = standing ∧
          ∀ serviceName, (serviceName, some c) ∉ entries) := by
  induction entries generalizing self with
  | nil =>
    refine ⟨self.standings, Does.refl, rfl, ?_⟩
    intro c standing hat
    exact ⟨standing, hat, rfl, fun _ => ⟨rfl, fun _ => List.not_mem_nil⟩⟩
  | cons entry entries ih =>
    obtain ⟨serviceName, value⟩ := entry
    cases value with
    | none =>
      obtain ⟨left, hdoes, hlength, hleft⟩ := ih h
      refine ⟨left, hdoes, hlength, ?_⟩
      intro c standing hat
      obtain ⟨old, hold, hfreed, hwatch⟩ := hleft c standing hat
      refine ⟨old, hold, hfreed, ?_⟩
      intro hattached
      obtain ⟨hsame, hnone⟩ := hwatch hattached
      refine ⟨hsame, ?_⟩
      intro other hin
      rcases List.mem_cons.mp hin with habsurd | hin
      · cases habsurd
      · exact hnone other hin
    | some d =>
      have hfirst := stopNow_does h waits serviceName d
      obtain ⟨left, hdoes, hlength, hleft⟩ := ih (hfirst.changes.accounted h)
      rw [hfirst.standings, List.length_modify] at hlength
      refine ⟨left, hfirst.trans hdoes, hlength, ?_⟩
      intro c standing hat
      obtain ⟨between, hbetween, hfreed, hwatch⟩ := hleft c standing hat
      rw [hfirst.standings] at hbetween
      rcases Leases.getElem?_modify_cases hbetween with ⟨rfl, old, hold, rfl⟩ | ⟨hne, hold⟩
      · refine ⟨old, hold, hfreed.trans Standing.freed_detach, ?_⟩
        intro hattached
        obtain ⟨rfl, -⟩ := hwatch hattached
        exact absurd hattached Standing.watch_detach
      · refine ⟨between, hold, hfreed, ?_⟩
        intro hattached
        obtain ⟨hsame, hnone⟩ := hwatch hattached
        refine ⟨hsame, ?_⟩
        intro other hin
        rcases List.mem_cons.mp hin with hsame' | hin
        · cases hsame'
          exact hne rfl
        · exact hnone other hin

/-- Conversations of which none is waited for are freed, each once. -/
theorem freeEntry_foldl (entries : List (String × Option ℕ)) (h : Accounted self)
    (hnodup : (entries.filterMap Prod.snd).Nodup)
    (hfree : ∀ c ∈ entries.filterMap Prod.snd, ∃ standing : Standing,
      self.standings[c]? = some standing ∧ standing.watch ≠ .attached ∧ standing.freed = false) :
    ∃ left, Does self (entries.foldl freeEntry self) left ∧
      ∀ (c : ℕ) standing, left[c]? = some standing → ∃ old, self.standings[c]? = some old ∧
        standing.watch = old.watch := by
  induction entries generalizing self with
  | nil => exact ⟨self.standings, Does.refl, fun c standing hat => ⟨standing, hat, rfl⟩⟩
  | cons entry entries ih =>
    obtain ⟨serviceName, value⟩ := entry
    cases value with
    | none => exact ih h hnodup hfree
    | some d =>
      obtain ⟨hnew, hnodup⟩ := List.nodup_cons.mp hnodup
      obtain ⟨standing, hat, hdetached, hkept⟩ := hfree d List.mem_cons_self
      obtain ⟨conversation, hconversation, rfl⟩ := exists_of_standing hat
      have hfirst := freeConversation_does hconversation hdetached hkept
      have hothers : ∀ c ∈ entries.filterMap Prod.snd, ∃ standing : Standing,
          (self.freeConversation d).standings[c]? = some standing ∧ standing.watch ≠ .attached ∧
            standing.freed = false := by
        intro c hc
        obtain ⟨standing, hat, hstanding⟩ := hfree c (List.mem_cons_of_mem _ hc)
        refine ⟨standing, ?_, hstanding⟩
        rw [hfirst.standings, List.getElem?_modify_ne]
        · exact hat
        · rintro rfl
          exact hnew hc
      obtain ⟨left, hdoes, hleft⟩ := ih (hfirst.changes.accounted h) hnodup hothers
      refine ⟨left, hfirst.trans hdoes, ?_⟩
      intro c standing hat
      obtain ⟨between, hbetween, hwatch⟩ := hleft c standing hat
      rw [hfirst.standings] at hbetween
      rcases Leases.getElem?_modify_cases hbetween with ⟨rfl, old, hold, rfl⟩ | ⟨-, hold⟩
      · exact ⟨old, hold, hwatch⟩
      · exact ⟨between, hold, hwatch⟩

theorem Listed.nodup_values {standings : List Standing} {table : List (String × Option ℕ)}
    (h : Listed standings table) : (table.filterMap Prod.snd).Nodup := by
  have hkeys : table.Pairwise fun entry entry' => entry.1 ≠ entry'.1 := List.pairwise_map.mp h.keys
  rw [List.Nodup, List.pairwise_filterMap]
  refine hkeys.imp_of_mem ?_
  rintro ⟨serviceName, value⟩ ⟨serviceName', value'⟩ hin hin' hne c rfl c' rfl rfl
  exact hne (h.unique_service hin hin')

/-- No conversation is left, and no process is waited for. -/
theorem Inv.doReset (h : Inv self) (waits : JobWaits) :
    Inv (self.doReset waits) ∧ ∀ (c : ℕ) conversation,
      (self.doReset waits).conversations[c]? = some conversation →
        conversation.job.childWatch ≠ .attached := by
  obtain ⟨ended, hends, hlength, hended⟩ := stopNow_foldl waits self.table h.accounted
  have haccounted := hends.changes.accounted h.accounted
  have hnever : ∀ (c : ℕ) standing, ended[c]? = some standing → standing.watch ≠ .attached := by
    intro c standing hat hattached
    obtain ⟨old, hold, -, hwatch⟩ := hended c standing hat
    obtain ⟨rfl, hnone⟩ := hwatch hattached
    exact hnone _ (h.listed.listed c _ hold hattached)
  have hfree : ∀ c ∈ self.table.filterMap Prod.snd, ∃ standing : Standing,
      (self.table.foldl (stopNow waits) self).standings[c]? = some standing ∧
        standing.watch ≠ .attached ∧ standing.freed = false := by
    intro c hc
    obtain ⟨⟨serviceName, value⟩, hin, hvalue⟩ := List.mem_filterMap.mp hc
    obtain rfl : value = some c := hvalue
    obtain ⟨standing, hat, -, hattached⟩ := h.listed.entry serviceName c hin
    obtain ⟨conversation, hconversation, rfl⟩ := exists_of_standing hat
    have hkept := (h.accounted.recorded c conversation hconversation).kept hattached
    have hlt : c < ended.length := by
      rw [hlength]
      exact (List.getElem?_eq_some_iff.mp hat).1
    obtain ⟨old, hold, hfreed, -⟩ := hended c _ (List.getElem?_eq_getElem hlt)
    obtain rfl := Option.some.inj (hold.symm.trans hat)
    rw [hends.standings]
    exact ⟨_, List.getElem?_eq_getElem hlt, hnever c _ (List.getElem?_eq_getElem hlt),
      hfreed.trans hkept⟩
  obtain ⟨left, hfrees, hleft⟩ := freeEntry_foldl self.table haccounted h.listed.nodup_values hfree
  have hdetached : ∀ (c : ℕ) standing, left[c]? = some standing → standing.watch ≠ .attached := by
    intro c standing hat
    obtain ⟨old, hold, hwatch⟩ := hleft c standing hat
    rw [hends.standings] at hold
    rw [hwatch]
    exact hnever c old hold
  have hstandings : (self.doReset waits).standings = left := hfrees.standings
  refine ⟨⟨(hfrees.changes.accounted haccounted).aside rfl rfl rfl, ?_⟩, ?_⟩
  · rw [hstandings]
    constructor
    · exact List.nodup_nil
    · intro serviceName c hin
      cases hin
    · intro c standing hat hattached
      exact absurd hattached (hdetached c standing hat)
  · intro c conversation hat
    have hstanding := standings_getElem? hat
    rw [hstandings] at hstanding
    exact hdetached c _ hstanding

/-! ## The ends of processes -/

theorem Inv.childWatch (h : Inv self) (c : ℕ) (ending : ProcessEnding) :
    Inv (self.childWatch c ending) := by
  unfold WorkerJobs.childWatch
  split
  · exact h
  · rename_i conversation hat
    split
    · rename_i hattached
      have hleft := h.listed.leave (standings_getElem? hat) hattached
        (f := fun standing => { standing with watch := .destroyed }) ChildWatch.noConfusion
      have hchange : ∀ effect : JobEffect, ((∃ code, effect = .exited c code) ∨
          ∃ signum, effect = .died c signum) →
          Inv { ((self.emit (.reaped conversation.job.pid)).modifyJob c fun job =>
              { job with pid := -1, childWatch := .destroyed }).emit effect with
            table := self.table.filter fun entry => entry.1 ≠ conversation.serviceName } := by
        intro effect hended
        have hnotified := h.accounted.change (.notified hat hattached hended)
        refine ⟨hnotified.aside rfl rfl rfl, ?_⟩
        have hstandings := @standings_modify (self.emit (.reaped conversation.job.pid)) c
          (fun conversation => { conversation with
            job := { conversation.job with pid := -1, childWatch := .destroyed } })
          (fun standing => { standing with watch := .destroyed }) fun _ _ => rfl
        exact hstandings ▸ hleft
      cases ending with
      | exited code => exact hchange _ (.inl ⟨code, rfl⟩)
      | killed signum => exact hchange _ (.inr ⟨signum, rfl⟩)
    · exact h

theorem Inv.conclude (h : Inv self) (c : ℕ) : Inv (self.conclude c) := by
  unfold WorkerJobs.conclude
  split
  · exact h
  · rename_i conversation hat
    split
    · rename_i hconcluded
      obtain ⟨hdestroyed, hkept⟩ := hconcluded
      have hunref : Does self (if conversation.isStopping then self.unrefJob c else self)
          self.standings := by
        split
        · exact unrefJob_does h.accounted c
        · exact Does.refl
      generalize (if conversation.isStopping then self.unrefJob c else self) = between at hunref ⊢
      have hinv := h.does hunref
      have hbetween : between.standings[c]? = some conversation.standing := by
        rw [hunref.standings]
        exact standings_getElem? hat
      obtain ⟨other, hother, hstands⟩ := exists_of_standing hbetween
      have hwatch : other.job.childWatch = .destroyed :=
        (congrArg Standing.watch hstands).trans hdestroyed
      have hdetached : other.job.childWatch ≠ .attached := by
        rw [hwatch]
        exact ChildWatch.noConfusion
      have hkept' : other.freed = false := (congrArg Standing.freed hstands).trans hkept
      have hfrees := freeConversation_does hother hdetached hkept'
      refine ⟨hfrees.changes.accounted hinv.accounted, ?_⟩
      rw [hfrees.standings, hfrees.table]
      apply hinv.listed.modify
      intro standing hstanding
      obtain rfl := Option.some.inj (hstanding.symm.trans (standings_getElem? hother))
      exact ⟨hdetached, hdetached⟩
    · exact h

/-! ## Runs -/

theorem inv_new (command : List Char) : Inv { command := command } := by
  refine ⟨accounted_new command, ?_⟩
  constructor
  · exact List.nodup_nil
  · intro serviceName c hin
    cases hin
  · intro c standing hat
    cases hat

theorem Inv.step (h : Inv self) (event : JobEvent) : Inv (self.step event) := by
  unfold WorkerJobs.step
  split
  · exact h
  · cases event with
    | startConversation serviceName spawn waits => exact h.startConversation serviceName spawn waits
    | stopConversation serviceName => exact h.stopConversation serviceName
    | stopAllOtherConversations keep => exact h.stopAllOtherConversations keep
    | doReset waits => exact (h.doReset waits).1
    | childWatch c ending => exact h.childWatch c ending
    | conclude c => exact h.conclude c

theorem inv_run (command : List Char) (events : List JobEvent) :
    Inv (machine.run { command := command } events) :=
  EventMachine.run_invariant Inv (fun _ event h => h.step event) events (inv_new command)

/-- A process has been started, and since then its status has not been got and it has not been
waited for in vain. -/
def StillChild (pid : Int) (log : List JobEffect) : Prop :=
  ∃ before c arguments after, log = before ++ .spawned c pid arguments :: after ∧
    .reaped pid ∉ after ∧ .disowned pid ∉ after

theorem StillChild.concat {pid : Int} {log : List JobEffect} (h : StillChild pid log)
    {effect : JobEffect} (hsettles : ¬effect.Settles pid) : StillChild pid (log ++ [effect]) := by
  obtain ⟨before, c, arguments, after, rfl, hreaped, hdisowned⟩ := h
  refine ⟨before, c, arguments, after ++ [effect], by simp, ?_, ?_⟩
  · intro hin
    exact hreaped (mem_of_mem_concat (fun hsame => hsettles (.inl hsame.symm)) hin)
  · intro hin
    exact hdisowned (mem_of_mem_concat (fun hsame => hsettles (.inr hsame.symm)) hin)

theorem stillChild_of_mem_owned {pid : Int} {log : List JobEffect} (h : pid ∈ owned log) :
    StillChild pid log := by
  induction log using List.reverseRecOn with
  | nil => cases h
  | append_singleton log effect ih =>
    rw [owned_concat] at h
    cases effect with
    | spawned c pid' arguments =>
      rcases List.mem_cons.mp h with rfl | hold
      · exact ⟨log, c, arguments, [], rfl, List.not_mem_nil, List.not_mem_nil⟩
      · exact (ih hold).concat (by simp [JobEffect.Settles])
    | reaped pid' =>
      obtain ⟨hold, hne⟩ := List.mem_filter.mp h
      apply (ih hold).concat
      rintro (hsame | hsame)
      · cases hsame
        exact of_decide_eq_true hne rfl
      · cases hsame
    | disowned pid' =>
      obtain ⟨hold, hne⟩ := List.mem_filter.mp h
      apply (ih hold).concat
      rintro (hsame | hsame)
      · cases hsame
      · cases hsame
        exact of_decide_eq_true hne rfl
    | signalled pid' => exact (ih h).concat (by simp [JobEffect.Settles])
    | sourceRemoved c watch => exact (ih h).concat (by simp [JobEffect.Settles])
    | exited c code => exact (ih h).concat (by simp [JobEffect.Settles])
    | died c signum => exact (ih h).concat (by simp [JobEffect.Settles])
    | freed c => exact (ih h).concat (by simp [JobEffect.Settles])

theorem one_lt_of_mem_owned {pid : Int} {log : List JobEffect}
    (hwarranted : History.Justified Warranted log) (h : pid ∈ owned log) : 1 < pid := by
  obtain ⟨before, c, arguments, after, heq, -, -⟩ := stillChild_of_mem_owned h
  exact (hwarranted before _ after heq).1

/-- In every run, a process that is signalled, or waited for, has been started by the session, and
nobody has got its status or given it up since; and each source that is removed still exists. -/
theorem run_stillChild (command : List Char) (events : List JobEvent) (told : List JobEffect)
    (effect : JobEffect) (rest : List JobEffect)
    (hlog : (machine.run { command := command } events).log = told ++ effect :: rest) :
    (∀ pid, effect = .signalled pid ∨ effect = .reaped pid ∨ effect = .disowned pid →
      1 < pid ∧ StillChild pid told) ∧
    ∀ c watch, effect = .sourceRemoved c watch → watch = .attached := by
  have hjustified := (inv_run command events).accounted.warranted
  have hwarranted := hjustified told effect rest hlog
  rw [hlog] at hjustified
  constructor
  · intro pid heffect
    have howned : pid ∈ owned told := by
      rcases heffect with rfl | rfl | rfl
      · exact hwarranted.2
      · exact hwarranted
      · exact hwarranted.1
    exact ⟨one_lt_of_mem_owned hjustified.of_append howned, stillChild_of_mem_owned howned⟩
  · rintro c watch rfl
    exact hwarranted

/-- A worker that is told to end, and then ended at once so that another takes its place. -/
def restarted : WorkerJobs :=
  machine.run { command := "gdm-session-worker".toList }
    [.startConversation "gdm-password" (some 100) fun _ => [], .stopConversation "gdm-password",
      .startConversation "gdm-password" (some 101) fun _ => [.zero, .pid 15]]

theorem run_stillChild_restarted : 1 < (100 : Int) ∧ StillChild 100 (restarted.log.take 4) :=
  (run_stillChild "gdm-session-worker".toList
    [.startConversation "gdm-password" (some 100) fun _ => [], .stopConversation "gdm-password",
      .startConversation "gdm-password" (some 101) fun _ => [.zero, .pid 15]]
    (restarted.log.take 4) (.reaped 100) (restarted.log.drop 5) (by decide +kernel)).1 100
    (.inr (.inl rfl))

/-- In every run, the end of a worker is reported to the conversation that it was started for,
right after the system has told of it, once, and before the conversation is freed; and that happens
once. -/
theorem run_reported (command : List Char) (events : List JobEvent) (told : List JobEffect)
    (effect : JobEffect) (rest : List JobEffect)
    (hlog : (machine.run { command := command } events).log = told ++ effect :: rest) (c : ℕ) :
    (effect.notifies c = true → JustEnded c told ∧
      (∀ earlier ∈ told, earlier.notifies c = false) ∧ .freed c ∉ told) ∧
    (effect = .freed c → .freed c ∉ told) := by
  have hwarranted := (inv_run command events).accounted.warranted told effect rest hlog
  constructor
  · intro hnotifies
    cases effect with
    | exited d code =>
      obtain rfl : d = c := of_decide_eq_true hnotifies
      exact hwarranted
    | died d signum =>
      obtain rfl : d = c := of_decide_eq_true hnotifies
      exact hwarranted
    | spawned => cases hnotifies
    | signalled => cases hnotifies
    | reaped => cases hnotifies
    | disowned => cases hnotifies
    | sourceRemoved => cases hnotifies
    | freed => cases hnotifies
  · rintro rfl
    exact hwarranted

/-- A worker that is told to end, and does. -/
def stopped : WorkerJobs :=
  machine.run { command := "gdm-session-worker".toList }
    [.startConversation "gdm-password" (some 100) fun _ => [], .stopConversation "gdm-password",
      .childWatch 0 (.killed 15), .conclude 0]

theorem run_reported_stopped : JustEnded 0 (stopped.log.take 3) ∧
    (∀ earlier ∈ stopped.log.take 3, earlier.notifies 0 = false) ∧ .freed 0 ∉ stopped.log.take 3 :=
  (run_reported "gdm-session-worker".toList
    [.startConversation "gdm-password" (some 100) fun _ => [], .stopConversation "gdm-password",
      .childWatch 0 (.killed 15), .conclude 0]
    (stopped.log.take 3) (.died 0 15) [.freed 0] (by decide +kernel) 0).1 rfl

/-- The main loop waits for a process of a conversation that is in the table. -/
structure Supervised (jobs : WorkerJobs) (serviceName : String) (c : ℕ) (pid : Int) : Prop where
  listed : (serviceName, some c) ∈ jobs.table
  watched : (jobs.job c).childWatch = .attached
  process : (jobs.job c).pid = pid
  kept : .freed c ∉ jobs.log
  /-- The words of the command are given to the process after the name of its service. -/
  started : ∃ file words, ShellWords.parseArgv jobs.command = some (file :: words) ∧
    .spawned c pid (file :: jobName serviceName :: words) ∈ jobs.log

theorem Inv.supervised (h : Inv self) (hat : self.conversations[c]? = some conversation)
    (hattached : conversation.job.childWatch = .attached) :
    Supervised self conversation.serviceName c conversation.job.pid := by
  have hrecorded := h.accounted.recorded c conversation hat
  obtain ⟨arguments, hspawned⟩ := hrecorded.spawned hattached
  obtain ⟨other, hother, harguments⟩ := h.accounted.named c _ arguments hspawned
  obtain rfl := Option.some.inj (hother.symm.trans hat)
  have hkept : .freed c ∉ self.log := by
    rw [← hrecorded.freed, hrecorded.kept hattached]
    exact Bool.false_ne_true
  constructor
  · exact h.listed.listed c _ (standings_getElem? hat) hattached
  · rw [job_eq hat]
    exact hattached
  · rw [job_eq hat]
  · exact hkept
  · obtain ⟨file, words, hwords, rfl⟩ := getJobArguments_eq_some.mp harguments
    exact ⟨file, words, hwords, hspawned⟩

/-- The children that are left are waited for, or have been waited for in vain. -/
theorem Inv.children_cases (h : Inv self) {pid : Int} (hin : pid ∈ children self.log) :
    (∃ serviceName c, Supervised self serviceName c pid) ∨
      .signalled pid ∈ self.log ∧ .disowned pid ∈ self.log := by
  rcases h.accounted.missed pid hin with howned | hdisowned
  · obtain ⟨c, conversation, hat, hkey⟩ :=
      h.accounted.leased.holder pid () (ownedEntry_eq_some_iff.mpr howned)
    obtain ⟨hattached, rfl⟩ := watchedPid_eq_some_iff.mp hkey
    exact .inl ⟨_, c, h.supervised hat hattached⟩
  · obtain ⟨told, rest, hlog⟩ := List.append_of_mem hdisowned
    have hsignalled := (h.accounted.warranted told _ rest hlog).2
    refine .inr ⟨?_, hdisowned⟩
    rw [hlog]
    exact List.mem_append_left _ hsignalled

/-- In every run, each worker of which the system has something to tell is that of a conversation
of the table, or has been waited for in vain after a `SIGTERM`; each conversation of the table has
such a worker, started under its name. -/
theorem run_supervised (command : List Char) (events : List JobEvent) :
    (∀ pid ∈ children (machine.run { command := command } events).log,
      (∃ serviceName c,
        Supervised (machine.run { command := command } events) serviceName c pid) ∨
      .signalled pid ∈ (machine.run { command := command } events).log ∧
        .disowned pid ∈ (machine.run { command := command } events).log) ∧
    ∀ serviceName c, (serviceName, some c) ∈ (machine.run { command := command } events).table →
      ∃ pid ∈ children (machine.run { command := command } events).log,
        Supervised (machine.run { command := command } events) serviceName c pid := by
  have h := inv_run command events
  constructor
  · exact fun pid hin => h.children_cases hin
  · intro serviceName c hin
    obtain ⟨standing, hat, hservice, hattached⟩ := h.listed.entry serviceName c hin
    obtain ⟨conversation, hconversation, rfl⟩ := exists_of_standing hat
    have howned := h.accounted.mem_owned hconversation hattached
    exact ⟨_, h.accounted.known _ howned, hservice ▸ h.supervised hconversation hattached⟩

/-- When the session is reset the table is emptied, and the only workers that are left are those
that have been waited for in vain. -/
theorem run_doReset (command : List Char) (events : List JobEvent) (waits : JobWaits)
    (hcrashed : (machine.run { command := command } events).crashed = false) :
    (machine.run { command := command } (events ++ [.doReset waits])).table = [] ∧
    ∀ pid ∈ children (machine.run { command := command } (events ++ [.doReset waits])).log,
      .signalled pid ∈ (machine.run { command := command } (events ++ [.doReset waits])).log ∧
        .disowned pid ∈ (machine.run { command := command } (events ++ [.doReset waits])).log := by
  have h := inv_run command (events ++ [.doReset waits])
  have htable : (machine.run { command := command } (events ++ [.doReset waits])).table = [] := by
    rw [EventMachine.run_concat machine]
    exact congrArg WorkerJobs.table (if_neg (ne_true_of_eq_false hcrashed))
  refine ⟨htable, ?_⟩
  intro pid hin
  rcases h.children_cases hin with ⟨serviceName, c, hsupervised⟩ | hvain
  · have hlisted := hsupervised.listed
    rw [htable] at hlisted
    cases hlisted
  · exact hvain

/-- A worker that does not end in five seconds. -/
def reset : WorkerJobs :=
  machine.run { command := "gdm-session-worker".toList }
    ([.startConversation "gdm-password" (some 100) fun _ => []] ++
      [.doReset fun _ => List.replicate 50 .zero])

theorem run_doReset_reset : .signalled 100 ∈ reset.log ∧ .disowned 100 ∈ reset.log :=
  (run_doReset "gdm-session-worker".toList
    [.startConversation "gdm-password" (some 100) fun _ => []] (fun _ => List.replicate 50 .zero)
    (by decide +kernel)).2 100 (by decide +kernel)

end WorkerJobs

end Gdm
