import Gdm.Client.SessionAgreement
import Gdm.Library.StableSort
import Mathlib.Data.List.Perm.Basic

/-!
# The order of the sessions that a greeter offers

The comparison looks the bytes of the addresses up, where hardly ever a session is found, and
then says that the first comes before the second.  So the ids stay in the order in which the hash
table has been walked, and `NULL` stays at the end.
-/

namespace Gdm

open StableSort

namespace GreeterMemory

variable (around : GreeterMemory)

/-- The session that the bytes of the address of an id name. -/
def sessionAtAddress (map : SessionMap) (id : String) : Option GdmSessionFile :=
  map.lookup (around.addressText id)

/-- An id is put before another one: by the names of the sessions at their addresses, first those
where there is none, and else in the order of the walk. -/
def PutBefore (map : SessionMap) (id id' : String) : Prop :=
  match around.sessionAtAddress map id, around.sessionAtAddress map id' with
  | none, none => Before (around.order map) id id'
  | none, some _ => True
  | some _, none => False
  | some found, some found' =>
    found.translatedName ≤ found'.translatedName ∧
      (found'.translatedName ≤ found.translatedName → Before (around.order map) id id')

end GreeterMemory

/-- The translated name of the first id is not greater. -/
def NamesInOrder (map : SessionMap) (id id' : String) : Prop :=
  ∀ session session', map.lookup id = some session → map.lookup id' = some session' →
    session.translatedName ≤ session'.translatedName

/-- The ids of the sessions, each once and in the order of the translated names, and `NULL`. -/
def IdsInOrder (map : SessionMap) (array : List (Option String)) : Prop :=
  ∃ ids : List String, array = ids.map some ++ [none] ∧ ids.Perm map.keys ∧ ids.Nodup ∧
    ids.Pairwise (NamesInOrder map)

/-- The ids are put in the order of the translated names, and no session at an address has a
greater name than one with an empty id. -/
def PutInOrder (around : GreeterMemory) (map : SessionMap) : Prop :=
  (∀ id ∈ map.keys, ∀ id' ∈ map.keys, id ≠ id' → around.PutBefore map id id' →
    NamesInOrder map id id') ∧
  ∀ id ∈ map.keys, ∀ found, around.sessionAtAddress map id = some found →
    ∃ empty, map.lookup "" = some empty ∧ found.translatedName ≤ empty.translatedName

/-! ## The comparison -/

theorem gStrcmp0_le_iff (a b : String) : gStrcmp0 a b ≤ 0 ↔ a ≤ b := by
  unfold gStrcmp0
  split
  · next hlt =>
    have hle : a ≤ b := String.not_lt.mp (String.lt_asymm hlt)
    simp [hle]
  · next hnot =>
    split
    · next heq => simp [heq]
    · next hne =>
      have hle : ¬ a ≤ b := fun hle => hne (String.le_antisymm hle (String.not_lt.mp hnot))
      simp [hle]

theorem compareSessionIds_le_iff (map : SessionMap) (a b : String) :
    compareSessionIds map a b ≤ 0 ↔ ∀ sessionA, map.lookup a = some sessionA →
      ∃ sessionB, map.lookup b = some sessionB ∧
        sessionA.translatedName ≤ sessionB.translatedName := by
  unfold compareSessionIds
  cases map.lookup a with
  | none => simp
  | some sessionA =>
    cases map.lookup b with
    | none => simp
    | some sessionB => simp [gStrcmp0_le_iff]

/-- The comparison of two cells, as the sort uses it. -/
def cellsInOrder (around : GreeterMemory) (map : SessionMap) (a b : Option String) : Bool :=
  compareSessionIds map (around.cellText a) (around.cellText b) ≤ 0

theorem cellsInOrder_iff {around : GreeterMemory} {map : SessionMap} {a b : Option String} :
    cellsInOrder around map a b = true ↔
      ∀ sessionA, map.lookup (around.cellText a) = some sessionA →
        ∃ sessionB, map.lookup (around.cellText b) = some sessionB ∧
          sessionA.translatedName ≤ sessionB.translatedName := by
  rw [cellsInOrder, decide_eq_true_iff, compareSessionIds_le_iff]

theorem cellsInOrder_trans (around : GreeterMemory) (map : SessionMap) (a b c : Option String)
    (hab : cellsInOrder around map a b) (hbc : cellsInOrder around map b c) :
    cellsInOrder around map a c := by
  rw [cellsInOrder_iff] at hab hbc ⊢
  intro sessionA hA
  obtain ⟨sessionB, hB, hleB⟩ := hab sessionA hA
  obtain ⟨sessionC, hC, hleC⟩ := hbc sessionB hB
  exact ⟨sessionC, hC, String.le_trans hleB hleC⟩

theorem cellsInOrder_total (around : GreeterMemory) (map : SessionMap) (a b : Option String) :
    cellsInOrder around map a b || cellsInOrder around map b a := by
  rw [Bool.or_eq_true, cellsInOrder_iff, cellsInOrder_iff]
  cases hA : map.lookup (around.cellText a) with
  | none => simp
  | some sessionA =>
    cases hB : map.lookup (around.cellText b) with
    | none => simp
    | some sessionB =>
      simpa using String.le_total sessionA.translatedName sessionB.translatedName

/-! ## The array -/

section

variable (around : GreeterMemory) (map : SessionMap)

/-- The array before the sort. -/
def walkedArray : List (Option String) :=
  (around.order map).map some ++ [none]

/-- The array after the sort. -/
def sortedArray : List (Option String) :=
  (walkedArray around map).mergeSort (cellsInOrder around map)

variable {around map}

theorem nodup_order : (around.order map).Nodup :=
  (around.order_perm map).nodup_iff.mpr (AList.keys_nodup map)

theorem mem_order {id : String} : id ∈ around.order map ↔ id ∈ map.keys :=
  (around.order_perm map).mem_iff

theorem nodup_walkedArray : (walkedArray around map).Nodup := by
  rw [walkedArray, List.nodup_append]
  refine ⟨nodup_order.map (Option.some_injective _), List.nodup_singleton _, ?_⟩
  intro a ha b hb
  obtain ⟨id, -, rfl⟩ := List.mem_map.mp ha
  obtain rfl := List.mem_singleton.mp hb
  simp

theorem some_mem_walkedArray {id : String} : some id ∈ walkedArray around map ↔ id ∈ map.keys := by
  simp [walkedArray, mem_order]

theorem none_mem_walkedArray : none ∈ walkedArray around map := by
  simp [walkedArray]

theorem nodup_sortedArray : (sortedArray around map).Nodup :=
  (List.mergeSort_perm _ _).nodup_iff.mpr nodup_walkedArray

theorem before_walkedArray {id id' : String} :
    Before (walkedArray around map) (some id) (some id') ↔ Before (around.order map) id id' := by
  rw [walkedArray, before_concat_of_ne (by simp), before_map (Option.some_injective _)]

/-- The order of the ids after the sort. -/
theorem before_sortedArray_iff {id id' : String} (hid : id ∈ map.keys) (hid' : id' ∈ map.keys)
    (hne : id ≠ id') : Before (sortedArray around map) (some id) (some id') ↔
      around.PutBefore map id id' := by
  rw [sortedArray, before_mergeSort_iff (cellsInOrder_trans around map)
    (cellsInOrder_total around map) nodup_walkedArray (some_mem_walkedArray.mpr hid)
    (some_mem_walkedArray.mpr hid') (by simpa using hne), cellsInOrder_iff, cellsInOrder_iff,
    before_walkedArray, GreeterMemory.PutBefore]
  simp only [GreeterMemory.cellText, GreeterMemory.sessionAtAddress]
  cases map.lookup (around.addressText id) with
  | none => cases map.lookup (around.addressText id') <;> simp
  | some found => cases map.lookup (around.addressText id') <;> simp

/-- An id comes before `NULL` unless the session at its address has a greater name. -/
theorem before_null_iff {id : String} (hid : id ∈ map.keys) :
    Before (sortedArray around map) (some id) none ↔
      ∀ found, around.sessionAtAddress map id = some found →
        ∃ empty, map.lookup "" = some empty ∧ found.translatedName ≤ empty.translatedName := by
  have hwalked : Before (walkedArray around map) (some id) none := by
    rw [walkedArray, before_concat (by simp), List.mem_map]
    exact ⟨id, mem_order.mpr hid, rfl⟩
  rw [sortedArray, before_mergeSort_iff (cellsInOrder_trans around map)
    (cellsInOrder_total around map) nodup_walkedArray (some_mem_walkedArray.mpr hid)
    none_mem_walkedArray (by simp), cellsInOrder_iff]
  simp [hwalked, GreeterMemory.sessionAtAddress, GreeterMemory.cellText]

theorem exists_eq_map_some {cells : List (Option String)} (h : none ∉ cells) :
    ∃ ids : List String, cells = ids.map some := by
  induction cells with
  | nil => exact ⟨[], rfl⟩
  | cons cell cells ih =>
    obtain ⟨hcell, hcells⟩ := not_or.mp (mt List.mem_cons.mpr h)
    obtain ⟨ids, rfl⟩ := ih hcells
    cases cell with
    | none => exact absurd rfl hcell
    | some id => exact ⟨id :: ids, rfl⟩

/-- `NULL` is at the end exactly if every id comes before it. -/
theorem exists_ids_iff : (∃ ids : List String, sortedArray around map = ids.map some ++ [none]) ↔
    ∀ id ∈ map.keys, Before (sortedArray around map) (some id) none := by
  constructor
  · rintro ⟨ids, hids⟩ id hid
    have hmem : some id ∈ sortedArray around map :=
      List.mem_mergeSort.mpr (some_mem_walkedArray.mpr hid)
    rw [hids] at hmem ⊢
    rw [before_concat (by simp)]
    simpa using hmem
  · intro hall
    have hnodup : (sortedArray around map).Nodup := nodup_sortedArray
    obtain ⟨front, hfront⟩ := exists_eq_concat hnodup
      (List.mem_mergeSort.mpr none_mem_walkedArray) (by
        rintro (_ | id) hmem hne
        · exact absurd rfl hne
        · exact hall id (some_mem_walkedArray.mp (List.mem_mergeSort.mp hmem)))
    have hnone : none ∉ front := by
      rw [hfront, List.nodup_append] at hnodup
      intro hmem
      exact hnodup.2.2 none hmem none (by simp) rfl
    obtain ⟨ids, rfl⟩ := exists_eq_map_some hnone
    exact ⟨ids, hfront⟩

/-- Each id is in the array once. -/
theorem perm_of_sortedArray_eq {ids : List String}
    (h : sortedArray around map = ids.map some ++ [none]) : ids.Perm map.keys := by
  have hperm : (ids.map some ++ [none]).Perm ((around.order map).map some ++ [none]) :=
    h ▸ List.mergeSort_perm _ _
  have hmap : (ids.map some).Perm ((around.order map).map some) :=
    (List.perm_append_right_iff _).mp hperm
  exact ((List.map_perm_map_iff (Option.some_injective _)).mp hmap).trans (around.order_perm map)

/-- The array of the ids is right exactly if they are put in the order of the names. -/
theorem idsInOrder_sortedArray_iff (around : GreeterMemory) (map : SessionMap) :
    IdsInOrder map (sortedArray around map) ↔ PutInOrder around map := by
  have hnull : (∃ ids : List String, sortedArray around map = ids.map some ++ [none]) ↔
      ∀ id ∈ map.keys, ∀ found, around.sessionAtAddress map id = some found →
        ∃ empty, map.lookup "" = some empty ∧ found.translatedName ≤ empty.translatedName := by
    rw [exists_ids_iff]
    exact forall₂_congr fun id hid => before_null_iff hid
  have horder : ∀ ids : List String, sortedArray around map = ids.map some ++ [none] →
      (ids.Pairwise (NamesInOrder map) ↔ ∀ id ∈ map.keys, ∀ id' ∈ map.keys, id ≠ id' →
        around.PutBefore map id id' → NamesInOrder map id id') := by
    intro ids hids
    have hperm := perm_of_sortedArray_eq hids
    have hnodup : ids.Nodup := hperm.nodup_iff.mpr (AList.keys_nodup map)
    have hbefore : ∀ {id id'}, Before (sortedArray around map) (some id) (some id') ↔
        Before ids id id' := by
      intro id id'
      rw [hids, before_concat_of_ne (by simp), before_map (Option.some_injective _)]
    rw [pairwise_iff]
    constructor
    · intro h id hid id' hid' hne hput
      exact h id id' (hbefore.mp ((before_sortedArray_iff hid hid' hne).mpr hput))
    · intro h id id' hput
      have hid := hperm.mem_iff.mp hput.mem_left
      have hid' := hperm.mem_iff.mp hput.mem_right
      have hne := hput.ne hnodup
      exact h id hid id' hid' hne ((before_sortedArray_iff hid hid' hne).mp (hbefore.mpr hput))
  constructor
  · rintro ⟨ids, hids, -, -, hnames⟩
    exact ⟨(horder ids hids).mp hnames, hnull.mp ⟨ids, hids⟩⟩
  · rintro ⟨hnames, hlast⟩
    obtain ⟨ids, hids⟩ := hnull.mpr hlast
    have hperm := perm_of_sortedArray_eq hids
    exact ⟨ids, hids, hperm, hperm.nodup_iff.mpr (AList.keys_nodup map),
      (horder ids hids).mpr hnames⟩

/-- Where no address names a session, the walk has to be in the order of the names. -/
theorem putInOrder_iff_of_no_session
    (h : ∀ id ∈ map.keys, around.sessionAtAddress map id = none) :
    PutInOrder around map ↔ (around.order map).Pairwise (NamesInOrder map) := by
  have hput : ∀ id ∈ map.keys, ∀ id' ∈ map.keys,
      (around.PutBefore map id id' ↔ Before (around.order map) id id') := by
    intro id hid id' hid'
    simp only [GreeterMemory.PutBefore, h id hid, h id' hid']
  rw [pairwise_iff]
  constructor
  · rintro ⟨hnames, -⟩ id id' hbefore
    have hid := mem_order.mp hbefore.mem_left
    have hid' := mem_order.mp hbefore.mem_right
    exact hnames id hid id' hid' (hbefore.ne nodup_order) ((hput id hid id' hid').mpr hbefore)
  · intro hnames
    refine ⟨fun id hid id' hid' _ hbefore => hnames id id' ((hput id hid id' hid').mp hbefore), ?_⟩
    intro id hid found hfound
    rw [h id hid] at hfound
    cases hfound

end

/-- The ids come in the order of the translated names with `NULL` at the end exactly if they are
put in this order by the walk and by the sessions at their addresses. -/
theorem gdmGetSessionIds_inOrder_iff (files : SessionFiles) (seat : Bool)
    (supported : Option (List String)) (around : GreeterMemory) :
    IdsInOrder (files.collectSessions seat supported around)
        (files.gdmGetSessionIds seat supported around) ↔
      PutInOrder around (files.collectSessions seat supported around) :=
  idsInOrder_sortedArray_iff around (files.collectSessions seat supported around)

/-- Two sessions, of which the one that is collected last has the greater name. -/
def unsortedSessions : SessionFiles where
  systemDataDirs := ["/usr/share/"]
  read path :=
    if path = "/usr/share/xsessions/plasma.desktop" then some (.entry { name := some "Plasma" })
    else if path = "/usr/share/xsessions/gnome.desktop" then some (.entry { name := some "GNOME" })
    else none
  listing dir :=
    if dir = "/usr/share/xsessions" then ["gnome.desktop", "plasma.desktop"] else []

/-- They are offered in the order of the walk. -/
theorem unsortedSessions_not_inOrder :
    ¬ IdsInOrder (unsortedSessions.collectSessions true none .newestFirst)
      (unsortedSessions.gdmGetSessionIds true none .newestFirst) := by
  intro h
  obtain ⟨map, hmap⟩ : ∃ map, map = unsortedSessions.collectSessions true none .newestFirst :=
    ⟨_, rfl⟩
  have hkeys : map.keys = ["plasma", "gnome"] := by
    rw [hmap]
    decide +kernel
  have hplasma : (map.lookup "plasma").map (·.translatedName) = some "Plasma" := by
    rw [hmap]
    decide +kernel
  have hgnome : (map.lookup "gnome").map (·.translatedName) = some "GNOME" := by
    rw [hmap]
    decide +kernel
  have hnone : ∀ id ∈ map.keys, GreeterMemory.newestFirst.sessionAtAddress map id = none := by
    rw [hmap]
    decide +kernel
  have hinOrder : IdsInOrder map (sortedArray .newestFirst map) := by
    rw [hmap]
    exact h
  have hput := (putInOrder_iff_of_no_session hnone).mp
    ((idsInOrder_sortedArray_iff _ map).mp hinOrder)
  have hwalk : GreeterMemory.newestFirst.order map = ["plasma", "gnome"] := hkeys
  rw [hwalk] at hput
  obtain ⟨plasma, hplasma', hname⟩ := Option.map_eq_some_iff.mp hplasma
  obtain ⟨gnome, hgnome', hname'⟩ := Option.map_eq_some_iff.mp hgnome
  have hle := List.rel_of_pairwise_cons hput (by simp : "gnome" ∈ ["gnome"]) plasma gnome
    hplasma' hgnome'
  rw [hname, hname'] at hle
  exact absurd hle (by decide)

end Gdm
