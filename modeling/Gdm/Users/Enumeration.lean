import Gdm.Users.Varlink

/-!
# The users that the system is told of

In every state of a run with userdb, a call that accepts several messages is told of the
users that it asks for, each of them once, and which message is the last.
-/

namespace Gdm

/-! ## Keeping back -/

namespace SdVarlink

variable {ρ : Type} {call : SdVarlink ρ} {build : DynamicUser → ρ} {test : DynamicUser → Bool}

/-- Messages after others are accepted. -/
def AcceptsMore (call : SdVarlink ρ) : Prop :=
  ∀ sent record, call.notify sent record = none

/-- What passes the test has been sent, but for the last one. -/
theorem keepBack_eq (haccepts : call.AcceptsMore) (order : List DynamicUser)
    (found : Option DynamicUser) (sent : List ρ) :
    call.keepBack build test order found sent =
      (sent ++ (found.toList ++ order.filter test).dropLast.map build,
        .ok (found.toList ++ order.filter test).getLast?) := by
  induction order generalizing found sent with
  | nil => cases found <;> simp [keepBack]
  | cons next rest ih =>
    unfold keepBack
    split
    · rename_i hpasses
      cases found with
      | none => simp [ih, hpasses]
      | some user =>
        -- the user that was kept back is sent, and `next` is kept back in its place
        simp [haccepts sent (build user), ih, hpasses]
    · rename_i hfails
      simp [ih, hfails]

end SdVarlink

namespace VarlinkAnswer

variable {ρ : Type}

/-- The messages tell of the users that match, each of them once, and just the last message
is told to be the last. -/
structure TellsOf (answer : VarlinkAnswer ρ) (build : DynamicUser → ρ)
    (Matching : DynamicUser → Prop) : Prop where
  returns : answer.failure = none
  users : ∃ users : List DynamicUser, users.Nodup ∧ (∀ user, user ∈ users ↔ Matching user) ∧
    answer.messages.filterMap VarlinkMessage.record = users.map build
  final : ∃ earlier last, answer.messages = earlier ++ [last] ∧ last.isFinal = true ∧
    ∀ message ∈ earlier, message.isFinal = false

variable {build : DynamicUser → ρ} {Matching : DynamicUser → Prop}

/-- An answer that is one error. -/
theorem tellsOf_error {name : String} (hnone : ∀ user, ¬ Matching user) :
    TellsOf { messages := [.error name] } build Matching := by
  refine ⟨rfl, ⟨[], List.nodup_nil, ?_, rfl⟩, [], .error name, rfl, rfl, ?_⟩
  · intro user
    simp [hnone user]
  · exact fun message hmessage => absurd hmessage List.not_mem_nil

/-- An answer that tells of one user. -/
theorem tellsOf_reply {user : DynamicUser} (hone : ∀ other, Matching other ↔ other = user) :
    TellsOf { messages := [.reply (build user)] } build Matching := by
  refine ⟨rfl, ⟨[user], List.nodup_singleton user, ?_, rfl⟩, [], .reply (build user), rfl, rfl, ?_⟩
  · intro other
    rw [List.mem_singleton, hone]
  · exact fun message hmessage => absurd hmessage List.not_mem_nil

/-- An answer after an iteration in which somebody was found. -/
theorem tellsOf_keptBack {users : List DynamicUser} {last : DynamicUser} (hnodup : users.Nodup)
    (hmatching : ∀ user, user ∈ users ↔ Matching user) (hlast : users.getLast? = some last) :
    TellsOf { messages := (users.dropLast.map build).map .notify ++ [.reply (build last)] }
      build Matching := by
  have hsplit : users = users.dropLast ++ [last] := by
    rw [List.dropLast_append_getLast? last hlast]
  refine ⟨rfl, ⟨users, hnodup, hmatching, ?_⟩, _, .reply (build last), rfl, rfl, ?_⟩
  · have hsent : ((users.dropLast.map build).map VarlinkMessage.notify).filterMap
        VarlinkMessage.record = users.dropLast.map build := by
      rw [List.filterMap_map]
      exact List.filterMap_some
    rw [List.filterMap_append, hsent]
    calc
      users.dropLast.map build ++ [build last] = (users.dropLast ++ [last]).map build := by simp
      _ = users.map build := by rw [← hsplit]
  · intro message hmessage
    obtain ⟨record, -, rfl⟩ := List.mem_map.mp hmessage
    rfl

/-- An answer that tells of somebody is no error. -/
theorem TellsOf.ne_error {answer : VarlinkAnswer ρ} {user : DynamicUser}
    (h : TellsOf answer build Matching) (hmatches : Matching user) (name : String) :
    answer.messages ≠ [.error name] := by
  intro hmessages
  obtain ⟨users, -, hmem, hrecords⟩ := h.users
  rw [hmessages] at hrecords
  have hempty : users = [] := List.map_eq_nil_iff.mp hrecords.symm
  rw [← hmem, hempty] at hmatches
  cases hmatches

end VarlinkAnswer

namespace GdmDynamicUserStore

variable {store : GdmDynamicUserStore} {nologinPath : String}

/-- A user of the store. -/
def Has (store : GdmDynamicUserStore) (user : DynamicUser) : Prop :=
  store.byName.lookup user.username = some user

/-- An order in which an iteration may give the users of a store. -/
def IsOrderOf (order : List DynamicUser) (store : GdmDynamicUserStore) : Prop :=
  (order : Multiset DynamicUser) = store.byName.entries.map Sigma.snd

/-- An iteration gives the users of the store, each of them once. -/
theorem IsOrderOf.mem_iff {order : List DynamicUser} (h : IsOrderOf order store)
    (hindexed : TwoIndexes.Indexed DynamicUser.username DynamicUser.uid store.byName store.byUid)
    (user : DynamicUser) : user ∈ order ↔ store.Has user := by
  rw [← Multiset.mem_coe, h, Multiset.mem_map]
  constructor
  · rintro ⟨⟨name, user⟩, hentry, rfl⟩
    have hfound := Finmap.lookup_eq_some_iff.mpr hentry
    have hkey := (hindexed.left name user hfound).1
    unfold Has
    rw [hkey]
    exact hfound
  · intro hhas
    exact ⟨⟨user.username, user⟩, Finmap.lookup_eq_some_iff.mp hhas, rfl⟩

theorem IsOrderOf.nodup {order : List DynamicUser} (h : IsOrderOf order store)
    (hindexed : TwoIndexes.Indexed DynamicUser.username DynamicUser.uid store.byName store.byUid) :
    order.Nodup := by
  rw [← Multiset.coe_nodup, h]
  apply Multiset.Nodup.map_on _ store.byName.nodup_entries
  rintro ⟨name, user⟩ hentry ⟨other, user'⟩ hentry' hsame
  obtain rfl : user = user' := hsame
  -- both entries are under the name of the user
  have hkey := (hindexed.left name user (Finmap.lookup_eq_some_iff.mpr hentry)).1
  have hkey' := (hindexed.left other user (Finmap.lookup_eq_some_iff.mpr hentry')).1
  rw [← hkey, ← hkey']

/-! ## Users -/

/-- The user is in the store and is one that the call asks for. -/
def RecordMatches (store : GdmDynamicUserStore) (params : GetUserRecordParams)
    (user : DynamicUser) : Prop :=
  store.Has user ∧ (params.uid ≠ uidInvalid → user.uid = params.uid) ∧
    ∀ username, params.username = some username → user.username = username

/-- The number is that of a user who is not called by the name that is asked for. -/
def RecordConflicts (store : GdmDynamicUserStore) (params : GetUserRecordParams) : Prop :=
  params.uid ≠ uidInvalid ∧ ∃ user username, store.Has user ∧ user.uid = params.uid ∧
    params.username = some username ∧ user.username ≠ username

/-- The answer to a call for users. -/
structure AnswersGetUserRecord (nologinPath : String) (store : GdmDynamicUserStore)
    (params : GetUserRecordParams) (answer : VarlinkAnswer UserRecord) : Prop where
  tells : answer.TellsOf (DynamicUser.buildRecord nologinPath) (store.RecordMatches params)
  noRecord : answer.messages = [.error (userDatabaseError "NoRecordFound")] ↔
    (∀ user, ¬ store.RecordMatches params user) ∧ ¬ store.RecordConflicts params
  conflict : answer.messages = [.error (userDatabaseError "ConflictingRecordFound")] ↔
    store.RecordConflicts params

theorem noRecord_ne_conflict :
    userDatabaseError "NoRecordFound" ≠ userDatabaseError "ConflictingRecordFound" := by
  decide

/-- Nobody is found, and there is no conflict. -/
theorem answersGetUserRecord_none {params : GetUserRecordParams}
    (hnone : ∀ user, ¬ store.RecordMatches params user)
    (hconflicts : ¬ store.RecordConflicts params) :
    AnswersGetUserRecord nologinPath store params
      { messages := [.error (userDatabaseError "NoRecordFound")] } := by
  refine ⟨VarlinkAnswer.tellsOf_error hnone, ⟨fun _ => ⟨hnone, hconflicts⟩, fun _ => rfl⟩, ?_⟩
  constructor
  · intro hmessages
    cases noRecord_ne_conflict (by simpa using hmessages)
  · exact fun h => absurd h hconflicts

theorem answersGetUserRecord_conflict {params : GetUserRecordParams}
    (hnone : ∀ user, ¬ store.RecordMatches params user)
    (hconflicts : store.RecordConflicts params) :
    AnswersGetUserRecord nologinPath store params
      { messages := [.error (userDatabaseError "ConflictingRecordFound")] } := by
  refine ⟨VarlinkAnswer.tellsOf_error hnone, ?_, ⟨fun _ => hconflicts, fun _ => rfl⟩⟩
  constructor
  · intro hmessages
    cases noRecord_ne_conflict (by simpa using hmessages.symm)
  · exact fun h => absurd hconflicts h.2

/-- Somebody is found, so the answer is no error. -/
theorem answersGetUserRecord_some {params : GetUserRecordParams}
    {answer : VarlinkAnswer UserRecord} {user : DynamicUser}
    (hmatches : store.RecordMatches params user) (hconflicts : ¬ store.RecordConflicts params)
    (htells : answer.TellsOf (DynamicUser.buildRecord nologinPath) (store.RecordMatches params)) :
    AnswersGetUserRecord nologinPath store params answer := by
  refine ⟨htells, ⟨fun hmessages => absurd hmessages (htells.ne_error hmatches _), ?_⟩,
    ⟨fun hmessages => absurd hmessages (htells.ne_error hmatches _), fun h => absurd h hconflicts⟩⟩
  rintro ⟨hnone, -⟩
  exact absurd hmatches (hnone user)

theorem Has.eq_of_uid
    (hindexed : TwoIndexes.Indexed DynamicUser.username DynamicUser.uid store.byName store.byUid)
    {user other : DynamicUser} (hhas : store.Has user) (hother : store.Has other)
    (hsame : other.uid = user.uid) : other = user :=
  hindexed.eq_of_key hother hhas (.inr hsame)

/-- A user that has been looked up by its number. -/
theorem answersGetUserRecord_uid {params : GetUserRecordParams} {user : DynamicUser}
    (hindexed : TwoIndexes.Indexed DynamicUser.username DynamicUser.uid store.byName store.byUid)
    (hhas : store.Has user) (hgiven : params.uid ≠ uidInvalid) (huid : user.uid = params.uid) :
    AnswersGetUserRecord nologinPath store params
      { messages := [answerFound nologinPath params (some user)] } := by
  have honly : ∀ other, store.Has other → other.uid = params.uid → other = user := fun other hother
    hsame => hhas.eq_of_uid hindexed hother (hsame.trans huid.symm)
  by_cases hname : ∃ username, params.username = some username ∧ username ≠ user.username
  · obtain ⟨username, husername, hne⟩ := hname
    have herror : answerFound nologinPath params (some user) =
        .error (userDatabaseError "ConflictingRecordFound") := by
      simp [answerFound, husername, hne]
    rw [herror]
    apply answersGetUserRecord_conflict
    · rintro other ⟨hother, hsame, hcalled⟩
      obtain rfl := honly other hother (hsame hgiven)
      exact hne (hcalled username husername).symm
    · exact ⟨hgiven, user, username, hhas, huid, husername, Ne.symm hne⟩
  · have hcalled : ∀ username, params.username = some username → user.username = username := by
      intro username husername
      by_contra hne
      exact hname ⟨username, husername, Ne.symm hne⟩
    have hreply : answerFound nologinPath params (some user) =
        .reply (user.buildRecord nologinPath) := by
      cases husername : params.username with
      | none => simp [answerFound, husername, huid]
      | some username => simp [answerFound, husername, huid, hcalled username husername]
    rw [hreply]
    have hone : ∀ other, store.RecordMatches params other ↔ other = user := by
      intro other
      constructor
      · rintro ⟨hother, hsame, -⟩
        exact honly other hother (hsame hgiven)
      · rintro rfl
        exact ⟨hhas, fun _ => huid, hcalled⟩
    apply answersGetUserRecord_some ((hone user).mpr rfl) _ (VarlinkAnswer.tellsOf_reply hone)
    rintro ⟨-, other, username, hother, hsame, husername, hne⟩
    obtain rfl := honly other hother hsame
    exact hne (hcalled username husername)

theorem not_recordConflicts {params : GetUserRecordParams} (hnotGiven : ¬ params.uid ≠ uidInvalid) :
    ¬ store.RecordConflicts params := fun h => hnotGiven h.1

/-- A user that has been looked up by its name. -/
theorem answersGetUserRecord_username {params : GetUserRecordParams} {user : DynamicUser}
    (hindexed : TwoIndexes.Indexed DynamicUser.username DynamicUser.uid store.byName store.byUid)
    (hhas : store.Has user) (hnotGiven : ¬ params.uid ≠ uidInvalid)
    (husername : params.username = some user.username) :
    AnswersGetUserRecord nologinPath store params
      { messages := [answerFound nologinPath params (some user)] } := by
  have hone : ∀ other, store.RecordMatches params other ↔ other = user := by
    intro other
    constructor
    · rintro ⟨hother, -, hname⟩
      exact hindexed.eq_of_key hother hhas (.inl (hname _ husername))
    · rintro rfl
      refine ⟨hhas, fun hgiven => absurd hgiven hnotGiven, ?_⟩
      intro username hsame
      exact Option.some.inj (husername.symm.trans hsame)
  have hreply : answerFound nologinPath params (some user) =
      .reply (user.buildRecord nologinPath) := by
    simp [answerFound, husername, hnotGiven]
  rw [hreply]
  exact answersGetUserRecord_some ((hone user).mpr rfl) (not_recordConflicts hnotGiven)
    (VarlinkAnswer.tellsOf_reply hone)

/-- A call for all users: the last of them is in the reply, and the others before it. -/
theorem answersGetUserRecord_all {params : GetUserRecordParams}
    (hindexed : TwoIndexes.Indexed DynamicUser.username DynamicUser.uid store.byName store.byUid)
    {order : List DynamicUser} (horder : IsOrderOf order store)
    (hnotGiven : ¬ params.uid ≠ uidInvalid) (hnoName : params.username = none) :
    AnswersGetUserRecord nologinPath store params
      { messages := (order.dropLast.map (DynamicUser.buildRecord nologinPath)).map .notify ++
          [answerFound nologinPath params order.getLast?] } := by
  have hall : ∀ user, user ∈ order ↔ store.RecordMatches params user := by
    intro user
    rw [horder.mem_iff hindexed]
    constructor
    · intro hhas
      refine ⟨hhas, fun hgiven => absurd hgiven hnotGiven, ?_⟩
      intro username hname
      rw [hnoName] at hname
      cases hname
    · exact fun h => h.1
  cases hlast : order.getLast? with
  | none =>
    obtain rfl := List.getLast?_eq_none_iff.mp hlast
    apply answersGetUserRecord_none _ (not_recordConflicts hnotGiven)
    intro user hmatches
    exact absurd ((hall user).mpr hmatches) List.not_mem_nil
  | some last =>
    have hreply : answerFound nologinPath params (some last) =
        .reply (last.buildRecord nologinPath) := by
      simp [answerFound, hnoName, hnotGiven]
    rw [hreply]
    exact answersGetUserRecord_some ((hall last).mp (List.mem_of_getLast? hlast))
      (not_recordConflicts hnotGiven)
      (VarlinkAnswer.tellsOf_keptBack (horder.nodup hindexed) hall hlast)

theorem vlGetUserRecord_answers {call : SdVarlink UserRecord} (haccepts : call.AcceptsMore)
    {params : GetUserRecordParams} (hservice : params.service = some gdmServiceId)
    (hindexed : TwoIndexes.Indexed DynamicUser.username DynamicUser.uid store.byName store.byUid)
    {order : List DynamicUser} (horder : IsOrderOf order store) :
    AnswersGetUserRecord nologinPath store params
      (vlGetUserRecord nologinPath call params (some store) order) := by
  unfold vlGetUserRecord
  rw [if_neg (not_not_intro hservice)]
  dsimp only
  split
  · rename_i hgiven
    cases hfound : store.byUid.lookup params.uid with
    | none =>
      have hnobody : ∀ user, store.Has user → user.uid ≠ params.uid := by
        intro user hhas huid
        rw [← huid, (hindexed.left _ user hhas).2] at hfound
        cases hfound
      apply answersGetUserRecord_none
      · rintro user ⟨hhas, huid, -⟩
        exact hnobody user hhas (huid hgiven)
      · rintro ⟨-, user, username, hhas, huid, -⟩
        exact hnobody user hhas huid
    | some user =>
      obtain ⟨huid, hhas⟩ := hindexed.right _ user hfound
      exact answersGetUserRecord_uid hindexed hhas hgiven huid
  · rename_i hnotGiven
    split
    · rename_i username husername
      cases hfound : store.byName.lookup username with
      | none =>
        apply answersGetUserRecord_none _ (not_recordConflicts hnotGiven)
        rintro user ⟨hhas, -, hname⟩
        unfold Has at hhas
        rw [hname username husername, hfound] at hhas
        cases hhas
      | some user =>
        obtain ⟨rfl, -⟩ := hindexed.left _ user hfound
        exact answersGetUserRecord_username hindexed hfound hnotGiven husername
    · rename_i hnoName
      simp only [SdVarlink.keepBack_eq haccepts, Option.toList_none, List.nil_append,
        List.filter_true]
      exact answersGetUserRecord_all hindexed horder hnotGiven hnoName

/-! ## Memberships -/

/-- The user is in the store, and is one that the call asks for. -/
def MembershipMatches (store : GdmDynamicUserStore) (params : GetMembershipsParams)
    (user : DynamicUser) : Prop :=
  store.Has user ∧ (∀ username, params.username = some username → user.username = username) ∧
    ∀ group, params.groupname = some group → user.group = group

/-- The answer to a call for memberships. -/
structure AnswersGetMemberships (store : GdmDynamicUserStore) (params : GetMembershipsParams)
    (answer : VarlinkAnswer UserGroup) : Prop where
  tells : answer.TellsOf DynamicUser.userGroup (store.MembershipMatches params)
  noRecord : answer.messages = [.error (userDatabaseError "NoRecordFound")] ↔
    ∀ user, ¬ store.MembershipMatches params user

theorem testGroupMembership_iff {user : DynamicUser} {group : Option String} :
    user.testGroupMembership group = true ↔ ∀ name, group = some name → user.group = name := by
  cases group <;> simp [DynamicUser.testGroupMembership]

theorem answersGetMemberships_none {params : GetMembershipsParams}
    (hnone : ∀ user, ¬ store.MembershipMatches params user) :
    AnswersGetMemberships store params
      { messages := [.error (userDatabaseError "NoRecordFound")] } :=
  ⟨VarlinkAnswer.tellsOf_error hnone, fun _ => hnone, fun _ => rfl⟩

theorem answersGetMemberships_some {params : GetMembershipsParams}
    {answer : VarlinkAnswer UserGroup} {user : DynamicUser}
    (hmatches : store.MembershipMatches params user)
    (htells : answer.TellsOf DynamicUser.userGroup (store.MembershipMatches params)) :
    AnswersGetMemberships store params answer :=
  ⟨htells, fun hmessages => absurd hmessages (htells.ne_error hmatches _),
    fun hnone => absurd hmatches (hnone user)⟩

theorem vlGetMemberships_answers {call : SdVarlink UserGroup} (haccepts : call.AcceptsMore)
    {params : GetMembershipsParams} (hservice : params.service = some gdmServiceId)
    (hindexed : TwoIndexes.Indexed DynamicUser.username DynamicUser.uid store.byName store.byUid)
    {order : List DynamicUser} (horder : IsOrderOf order store) :
    AnswersGetMemberships store params (vlGetMemberships call params (some store) order) := by
  unfold vlGetMemberships
  rw [if_neg (not_not_intro hservice)]
  dsimp only
  split
  · rename_i username husername
    have hcalled : ∀ user, store.MembershipMatches params user →
        store.byName.lookup username = some user := by
      rintro user ⟨hhas, hname, -⟩
      rw [← hname username husername]
      exact hhas
    split
    · rename_i user hfound
      obtain ⟨rfl, -⟩ := hindexed.left _ user hfound
      split
      · rename_i htest
        have hone : ∀ other, store.MembershipMatches params other ↔ other = user := by
          intro other
          constructor
          · intro hmatches
            exact (Option.some.inj (hfound.symm.trans (hcalled other hmatches))).symm
          · rintro rfl
            refine ⟨hfound, ?_, testGroupMembership_iff.mp htest⟩
            intro username hsame
            exact Option.some.inj (husername.symm.trans hsame)
        exact answersGetMemberships_some ((hone user).mpr rfl) (VarlinkAnswer.tellsOf_reply hone)
      · rename_i htest
        apply answersGetMemberships_none
        intro other hmatches
        obtain rfl := Option.some.inj (hfound.symm.trans (hcalled other hmatches))
        exact htest (testGroupMembership_iff.mpr hmatches.2.2)
    · rename_i hfound
      apply answersGetMemberships_none
      intro user hmatches
      rw [hcalled user hmatches] at hfound
      cases hfound
  · rename_i hnoName
    have hall : ∀ user,
        user ∈ order.filter (fun user => user.testGroupMembership params.groupname) ↔
          store.MembershipMatches params user := by
      intro user
      rw [List.mem_filter, horder.mem_iff hindexed, testGroupMembership_iff]
      constructor
      · rintro ⟨hhas, hgroup⟩
        refine ⟨hhas, ?_, hgroup⟩
        intro username hname
        rw [hnoName] at hname
        cases hname
      · exact fun h => ⟨h.1, h.2.2⟩
    simp only [SdVarlink.keepBack_eq haccepts, Option.toList_none, List.nil_append]
    have hnodup := (horder.nodup hindexed).filter fun user =>
      user.testGroupMembership params.groupname
    generalize order.filter (fun user => user.testGroupMembership params.groupname) = members at *
    cases hlast : members.getLast? with
    | none =>
      obtain rfl := List.getLast?_eq_none_iff.mp hlast
      apply answersGetMemberships_none
      intro user hmatches
      exact absurd ((hall user).mpr hmatches) List.not_mem_nil
    | some last =>
      exact answersGetMemberships_some ((hall last).mp (List.mem_of_getLast? hlast))
        (VarlinkAnswer.tellsOf_keptBack hnodup hall hlast)

end GdmDynamicUserStore

/-! ## Runs -/

namespace UserStoreProcess

open GdmDynamicUserStore

/-- With userdb, in every state of a run, each call for users and each call for memberships is
answered with the users that it asks for; when it asks for all of them, both have the same
users. -/
theorem run_answersCalls {config : UserdbConfig} (huserdb : config.haveUserdb = true)
    (events : List UserStoreEvent) (nologinPath : String) {users : SdVarlink UserRecord}
    {groups : SdVarlink UserGroup} (husers : users.AcceptsMore) (hgroups : groups.AcceptsMore)
    {order order' : List DynamicUser}
    (horder : IsOrderOf order ((machine config).run (init config) events).store)
    (horder' : IsOrderOf order' ((machine config).run (init config) events).store) :
    (∀ params : GetUserRecordParams, params.service = some gdmServiceId →
      AnswersGetUserRecord nologinPath ((machine config).run (init config) events).store params
        (vlGetUserRecord nologinPath users params
          (some ((machine config).run (init config) events).store) order)) ∧
    (∀ params : GetMembershipsParams, params.service = some gdmServiceId →
      AnswersGetMemberships ((machine config).run (init config) events).store params
        (vlGetMemberships groups params
          (some ((machine config).run (init config) events).store) order')) ∧
    List.Perm
      (((vlGetUserRecord nologinPath users { service := some gdmServiceId }
        (some ((machine config).run (init config) events).store) order).messages.filterMap
          VarlinkMessage.record).map UserRecord.userName)
      (((vlGetMemberships groups { service := some gdmServiceId }
        (some ((machine config).run (init config) events).store) order').messages.filterMap
          VarlinkMessage.record).map UserGroup.userName) := by
  have hindexed := (run_numbered huserdb events).indexed
  refine ⟨?_, ?_, ?_⟩
  · intro params hservice
    exact vlGetUserRecord_answers husers hservice hindexed horder
  · intro params hservice
    exact vlGetMemberships_answers hgroups hservice hindexed horder'
  · have hrecords : AnswersGetUserRecord nologinPath _ { service := some gdmServiceId } _ :=
      vlGetUserRecord_answers husers rfl hindexed horder
    have hpairs : AnswersGetMemberships _ { service := some gdmServiceId } _ :=
      vlGetMemberships_answers hgroups rfl hindexed horder'
    obtain ⟨told, htold, hmem, hmessages⟩ := hrecords.tells.users
    obtain ⟨told', htold', hmem', hmessages'⟩ := hpairs.tells.users
    rw [hmessages, hmessages', List.map_map, List.map_map]
    have hsame : told.Perm told' := by
      rw [List.perm_ext_iff_of_nodup htold htold']
      intro user
      rw [hmem, hmem']
      simp [RecordMatches, MembershipMatches]
    exact hsame.map _

/-- The store in which a user for a greeter has been created. -/
def greeterProcess : UserStoreProcess :=
  (machine {}).run (init {}) [.create {} greeterRequest]

/-- The user that it has. -/
def greeterUser : DynamicUser where
  username := "gdm-greeter"
  displayName := "GNOME Display Manager"
  home := "/run/gdm/home/gdm-greeter"
  group := "gdm"
  uid := 60578
  gid := 120

theorem greeterProcess_order : IsOrderOf [greeterUser] greeterProcess.store := by
  unfold IsOrderOf
  decide

theorem run_answersCalls_greeter :
    (vlGetMemberships {} { service := some gdmServiceId } (some greeterProcess.store)
        [greeterUser]).messages = [.reply { userName := "gdm-greeter", groupName := "gdm" }] ∧
      AnswersGetMemberships greeterProcess.store { service := some gdmServiceId }
        (vlGetMemberships {} { service := some gdmServiceId } (some greeterProcess.store)
          [greeterUser]) :=
  ⟨by decide, (@run_answersCalls {} rfl [.create {} greeterRequest] "/usr/sbin/nologin" {} {}
    (fun _ _ => rfl) (fun _ _ => rfl) _ _ greeterProcess_order greeterProcess_order).2.1 _ rfl⟩

/-- The number and the name are those of two users of the store. -/
def NamesTwoUsers (store : GdmDynamicUserStore) (params : GetUserRecordParams) : Prop :=
  ∃ user other, store.Has user ∧ store.Has other ∧ user ≠ other ∧ user.uid = params.uid ∧
    params.username = some other.username

/-- A call for the number of a greeter and the name of a user that the store does not have. -/
theorem greeter_notRoot :
    ¬ ∀ (config : UserdbConfig) (events : List UserStoreEvent) (order : List DynamicUser)
      (params : GetUserRecordParams), config.haveUserdb = true →
      IsOrderOf order ((machine config).run (init config) events).store →
      params.service = some gdmServiceId →
      ¬ NamesTwoUsers ((machine config).run (init config) events).store params →
      ((vlGetUserRecord "/usr/sbin/nologin" {} params
          (some ((machine config).run (init config) events).store) order).messages =
          [.error (userDatabaseError "NoRecordFound")] ↔
        ∀ user, ¬ ((machine config).run (init config) events).store.RecordMatches params user) := by
  intro h
  have hiff := h {} [.create {} greeterRequest] [greeterUser]
    { uid := 60578, username := some "root", service := some gdmServiceId } rfl
    greeterProcess_order rfl
  have hroot : greeterProcess.store.byName.lookup "root" = none := by decide
  have hnobody : ∀ user, greeterProcess.store.Has user → user.username ≠ "root" := by
    intro user hhas hname
    unfold Has at hhas
    rw [hname, hroot] at hhas
    cases hhas
  have hnoRecord := (hiff ?_).mpr ?_
  · revert hnoRecord
    decide
  · rintro ⟨user, other, -, hother, -, -, hname⟩
    exact hnobody other hother (Option.some.inj hname).symm
  · rintro user ⟨hhas, -, hname⟩
    exact hnobody user hhas (hname "root" rfl)

end UserStoreProcess

end Gdm
