import Gdm.Client.SessionAgreement
import Gdm.Library.StableSort

/-!
# Sessions with the same name

The walk that removes duplicates keeps the names it has seen in a table whose keys belong to the
sessions.  A name that comes again replaces its key, and then its session is freed.  So the keys
stay valid exactly as long as no name comes again, and then nothing is removed.
-/

namespace Gdm

open StableSort

/-- One way in which the directories and the hash table are enumerated. -/
structure Enumeration (files : SessionFiles) where
  listing : String → List String
  listing_perm : ∀ dir, (listing dir).Perm (files.listing dir)
  memory : GreeterMemory

/-- The sessions have different translated names. -/
def NamesDiffer (map : SessionMap) (id id' : String) : Prop :=
  ∀ session session', map.lookup id = some session → map.lookup id' = some session' →
    session.translatedName ≠ session'.translatedName

def DistinctNames (map : SessionMap) : Prop :=
  ∀ id id', id ≠ id' → NamesDiffer map id id'

/-- Every key of the names belongs to a session that has not been freed. -/
def KeysLive (state : SessionMap × List NameKey) : Prop :=
  ∀ key ∈ state.2, (state.1.lookup key.owner).isSome

namespace Enumeration

variable {files : SessionFiles} (e : Enumeration files) (seat : Bool)
  (supported : Option (List String))

/-- The sessions before duplicates are removed. -/
def sessionsFound : SessionMap :=
  { files with listing := e.listing }.sessionsFound seat supported

/-- The sessions that are left. -/
def collectSessions : SessionMap :=
  { files with listing := e.listing }.collectSessions seat supported e.memory

/-- Of each name one session is left, and all the time the keys belong to sessions that are. -/
structure RemovesDuplicates : Prop where
  one : ∀ id session, (e.sessionsFound seat supported).lookup id = some session →
    ∃! left, ∃ session', (e.collectSessions seat supported).lookup left = some session' ∧
      session'.translatedName = session.translatedName
  live : ∀ seen rest, e.memory.order (e.sessionsFound seat supported) = seen ++ rest →
    KeysLive (e.memory.walk (e.sessionsFound seat supported) seen)

/-- Both enumerations remove the duplicates, and leave the same sessions. -/
structure RemovesSameDuplicates (e' : Enumeration files) : Prop where
  left : e.RemovesDuplicates seat supported
  right : e'.RemovesDuplicates seat supported
  same : ∀ id, (e.collectSessions seat supported).lookup id =
    (e'.collectSessions seat supported).lookup id

end Enumeration

/-! ## The table of the names -/

namespace GreeterMemory

variable {around : GreeterMemory} {map : SessionMap}

theorem gHashTableAdd_of_new {key : NameKey} {names : List NameKey}
    (h : ∀ seen ∈ names, around.nameAt map seen ≠ key.name) :
    around.gHashTableAdd map key names = (names ++ [key], true) := by
  induction names with
  | nil => rfl
  | cons seen names ih =>
    have hseen : ¬ (around.nameHash seen.name = around.nameHash key.name ∧
        around.nameAt map seen = key.name) := fun heq => h seen (by simp) heq.2
    rw [gHashTableAdd, if_neg hseen, ih fun key' hmem => h key' (List.mem_cons_of_mem _ hmem)]
    rfl

/-- A name that is there gets the new key. -/
theorem gHashTableAdd_of_seen {key seen : NameKey} {names : List NameKey} (hmem : seen ∈ names)
    (hhash : seen.name = key.name) (hname : around.nameAt map seen = key.name) :
    ∃ names', around.gHashTableAdd map key names = (names', false) ∧ key ∈ names' := by
  induction names with
  | nil => cases hmem
  | cons first names ih =>
    rw [gHashTableAdd]
    split
    · exact ⟨key :: names, rfl, by simp⟩
    · next hfirst =>
      rcases List.mem_cons.mp hmem with rfl | hmem
      · exact absurd ⟨congrArg _ hhash, hname⟩ hfirst
      · obtain ⟨names', hadd, hkey⟩ := ih hmem
        exact ⟨first :: names', by rw [hadd], List.mem_cons_of_mem _ hkey⟩

variable (map) in
/-- The keys of the sessions with these ids. -/
def keysOf (ids : List String) : List NameKey :=
  ids.filterMap fun id =>
    (map.lookup id).map fun session => { owner := id, name := session.translatedName }

theorem mem_keysOf {ids : List String} {key : NameKey} :
    key ∈ keysOf map ids ↔ ∃ id ∈ ids, ∃ session, map.lookup id = some session ∧
      { owner := id, name := session.translatedName } = key := by
  simp [keysOf, List.mem_filterMap]

theorem nameAt_of_lookup {id name : String} {session : GdmSessionFile}
    (h : map.lookup id = some session) :
    around.nameAt map { owner := id, name := name } = session.translatedName := by
  simp [nameAt, h]

theorem keysLive_keysOf (ids : List String) : KeysLive (map, keysOf map ids) := by
  intro key hmem
  obtain ⟨id, -, session, hlookup, rfl⟩ := mem_keysOf.mp hmem
  rw [hlookup]
  rfl

/-! ## One session of the walk -/

theorem removeDuplicateSession_of_new {ids : List String} {id : String}
    (h : ∀ id' ∈ ids, NamesDiffer map id' id) :
    around.removeDuplicateSession (map, keysOf map ids) id = (map, keysOf map (ids ++ [id])) := by
  unfold removeDuplicateSession
  cases hlookup : map.lookup id with
  | none => simp [keysOf, List.filterMap_append, hlookup]
  | some session =>
    have hnew : ∀ seen ∈ keysOf map ids, around.nameAt map seen ≠ session.translatedName := by
      intro seen hmem
      obtain ⟨id', hid', session', hlookup', rfl⟩ := mem_keysOf.mp hmem
      rw [nameAt_of_lookup hlookup']
      exact h id' hid' session' session hlookup' hlookup
    have hadd : around.gHashTableAdd map { owner := id, name := session.translatedName }
        (keysOf map ids) = (keysOf map ids ++ [{ owner := id, name := session.translatedName }],
          true) := gHashTableAdd_of_new hnew
    simp only [hadd, if_true]
    simp [keysOf, List.filterMap_append, hlookup]

/-- A session with a name that has come before is freed, and the table points to its name. -/
theorem removeDuplicateSession_of_seen {ids : List String} {id id' : String} (hid' : id' ∈ ids)
    (h : ¬ NamesDiffer map id' id) :
    ¬ KeysLive (around.removeDuplicateSession (map, keysOf map ids) id) := by
  simp only [NamesDiffer, not_forall, not_not] at h
  obtain ⟨session', session, hlookup', hlookup, hname⟩ := h
  have hmem : { owner := id', name := session'.translatedName } ∈ keysOf map ids :=
    mem_keysOf.mpr ⟨id', hid', session', hlookup', rfl⟩
  have hnameAt : around.nameAt map { owner := id', name := session'.translatedName } =
      session.translatedName := by rw [nameAt_of_lookup hlookup', hname]
  obtain ⟨names', hadd, hkey⟩ : ∃ names', around.gHashTableAdd map
      { owner := id, name := session.translatedName } (keysOf map ids) = (names', false) ∧
        { owner := id, name := session.translatedName } ∈ names' :=
    gHashTableAdd_of_seen hmem hname hnameAt
  have hremoved : around.removeDuplicateSession (map, keysOf map ids) id =
      (map.erase id, names') := by
    unfold removeDuplicateSession
    simp only [hlookup, hadd, Bool.false_eq_true, if_false]
  rw [hremoved]
  intro hlive
  have hfreed := hlive _ hkey
  simp [AList.lookup_erase] at hfreed

/-! ## The walk -/

theorem walk_concat (ids : List String) (id : String) :
    around.walk map (ids ++ [id]) = around.removeDuplicateSession (around.walk map ids) id := by
  rw [walk, List.foldl_append]
  rfl

/-- Where the names differ nothing is removed. -/
theorem walk_of_namesDiffer (around : GreeterMemory) {ids : List String}
    (h : ids.Pairwise (NamesDiffer map)) :
    around.walk map ids = (map, keysOf map ids) := by
  induction ids using List.reverseRecOn with
  | nil => rfl
  | append_singleton ids id ih =>
    rw [List.pairwise_append] at h
    rw [walk_concat, ih h.1]
    exact removeDuplicateSession_of_new fun id' hid' => h.2.2 id' hid' id (by simp)

/-- As long as all keys belong to sessions the names differ. -/
theorem namesDiffer_of_keysLive {ids : List String}
    (h : ∀ seen rest, ids = seen ++ rest → KeysLive (around.walk map seen)) :
    ids.Pairwise (NamesDiffer map) := by
  induction ids using List.reverseRecOn with
  | nil => exact List.Pairwise.nil
  | append_singleton ids id ih =>
    have hids : ids.Pairwise (NamesDiffer map) := by
      apply ih
      intro seen rest heq
      exact h seen (rest ++ [id]) (by rw [heq, List.append_assoc])
    rw [List.pairwise_append]
    refine ⟨hids, List.pairwise_singleton _ _, ?_⟩
    intro id' hid' last hlast
    obtain rfl := List.mem_singleton.mp hlast
    by_contra hsame
    have hlive := h (ids ++ [last]) [] (List.append_nil _).symm
    rw [walk_concat, walk_of_namesDiffer around hids] at hlive
    exact removeDuplicateSession_of_seen hid' hsame hlive

theorem distinctNames_iff (around : GreeterMemory) : (around.order map).Pairwise (NamesDiffer map) ↔
    DistinctNames map := by
  have hnodup : (around.order map).Nodup :=
    (around.order_perm map).nodup_iff.mpr (AList.keys_nodup map)
  have hmem : ∀ {id session}, map.lookup id = some session → id ∈ around.order map := by
    intro id session hlookup
    rw [(around.order_perm map).mem_iff, ← AList.mem_keys, ← AList.lookup_isSome, hlookup]
    rfl
  rw [pairwise_iff]
  constructor
  · intro h id id' hne session session' hlookup hlookup'
    rcases before_or_before (hmem hlookup) (hmem hlookup') hne with hbefore | hbefore
    · exact h id id' hbefore session session' hlookup hlookup'
    · exact (h id' id hbefore session' session hlookup' hlookup).symm
  · intro h id id' hbefore
    exact h id id' (hbefore.ne hnodup)

end GreeterMemory

/-! ## Two enumerations -/

namespace Enumeration

variable {files : SessionFiles} {seat : Bool} {supported : Option (List String)}

/-- The sessions found do not depend on the enumeration. -/
theorem lookup_sessionsFound (e : Enumeration files) (id : String) :
    (e.sessionsFound seat supported).lookup id =
      (files.sessionsFound seat supported).lookup id := by
  rw [sessionsFound, SessionFiles.sessionsFound, SessionFiles.sessionsFound,
    SessionFiles.lookup_collect, SessionFiles.lookup_collect]
  have hfile : ∀ dir, { files with listing := e.listing }.completeFile id dir =
      files.completeFile id dir := by
    intro dir
    simp only [SessionFiles.completeFile, (e.listing_perm _).mem_iff]
  simp only [funext hfile]
  rfl

theorem distinctNames_sessionsFound (e : Enumeration files) :
    DistinctNames (e.sessionsFound seat supported) ↔
      DistinctNames (files.sessionsFound seat supported) := by
  simp only [DistinctNames, NamesDiffer, lookup_sessionsFound]

theorem collectSessions_of_distinctNames (e : Enumeration files)
    (h : DistinctNames (e.sessionsFound seat supported)) :
    e.collectSessions seat supported = e.sessionsFound seat supported := by
  have hwalk := e.memory.walk_of_namesDiffer (e.memory.distinctNames_iff.mpr h)
  exact congrArg Prod.fst hwalk

theorem removesDuplicates_of_distinctNames (e : Enumeration files)
    (h : DistinctNames (e.sessionsFound seat supported)) :
    e.RemovesDuplicates seat supported := by
  constructor
  · intro id session hlookup
    rw [collectSessions_of_distinctNames e h]
    refine ⟨id, ⟨session, hlookup, rfl⟩, ?_⟩
    rintro left ⟨session', hlookup', hname⟩
    by_contra hne
    exact h left id hne session' session hlookup' hlookup hname
  · intro seen rest horder
    have hpairwise := e.memory.distinctNames_iff.mpr h
    rw [horder] at hpairwise
    rw [e.memory.walk_of_namesDiffer (List.pairwise_append.mp hpairwise).1]
    exact GreeterMemory.keysLive_keysOf seen

/-- Two enumerations remove the same duplicates, and never look at what has been freed, exactly
if there are none. -/
theorem removesSameDuplicates_iff (e e' : Enumeration files) (seat : Bool)
    (supported : Option (List String)) :
    e.RemovesSameDuplicates seat supported e' ↔
      DistinctNames (files.sessionsFound seat supported) := by
  constructor
  · intro h
    rw [← distinctNames_sessionsFound e]
    exact e.memory.distinctNames_iff.mp (GreeterMemory.namesDiffer_of_keysLive h.left.live)
  · intro h
    have hleft := (distinctNames_sessionsFound e).mpr h
    have hright := (distinctNames_sessionsFound e').mpr h
    refine ⟨removesDuplicates_of_distinctNames e hleft,
      removesDuplicates_of_distinctNames e' hright, ?_⟩
    intro id
    rw [collectSessions_of_distinctNames e hleft, collectSessions_of_distinctNames e' hright,
      lookup_sessionsFound, lookup_sessionsFound]

end Enumeration

/-- The session GNOME in two files. -/
def twoNamedGnome : SessionFiles where
  systemDataDirs := ["/usr/share/"]
  read path :=
    if path = "/usr/share/xsessions/gnome.desktop" ∨
        path = "/usr/share/xsessions/gnome-xorg.desktop" then
      some (.entry { name := some "GNOME" })
    else none
  listing dir :=
    if dir = "/usr/share/xsessions" then ["gnome.desktop", "gnome-xorg.desktop"] else []

/-- The directories and the table as they come. -/
def asListed : Enumeration twoNamedGnome where
  listing := twoNamedGnome.listing
  listing_perm _ := .refl _
  memory := .newestFirst

/-- The name that is kept is that of the session which has been freed. -/
theorem twoNamedGnome_not_removesSameDuplicates :
    ¬ asListed.RemovesSameDuplicates true none asListed := by
  intro h
  have horder : asListed.memory.order (asListed.sessionsFound true none) =
      ["gnome-xorg", "gnome"] ++ [] := by
    decide +kernel
  have hlive := h.left.live _ _ horder
  have hkey : (asListed.memory.walk (asListed.sessionsFound true none)
      ["gnome-xorg", "gnome"]).2 = [{ owner := "gnome", name := "GNOME" }] := by
    decide +kernel
  have hfreed : (asListed.memory.walk (asListed.sessionsFound true none)
      ["gnome-xorg", "gnome"]).1.lookup "gnome" = none := by
    decide +kernel
  have hsome := hlive { owner := "gnome", name := "GNOME" } (by rw [hkey]; simp)
  rw [hfreed] at hsome
  cases hsome

end Gdm
