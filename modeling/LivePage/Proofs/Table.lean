/-
The order and the values of a table.

* `Table.ofList_eq_latest` — setting the entries of a list one after the
  other leaves one entry for each key, at the place where the key first
  occurs, with the value that it was given last;
* `Table.forall_mem_latest_iff` — no entry is lost exactly if no key is given
  two values;
* `Table.ofList_append` — entries that are set after others update the table of
  these: a key that is there keeps its place, and a new one goes to the end.
-/
import Mathlib.Data.List.Basic
import Mathlib.Data.List.Induction
import LivePage.Table

namespace LivePage.Table

variable {κ ν : Type} [BEq κ]

/-- The entries of a list that count: for each key, in the order of first occurrence, the last
entry with that key. -/
def latest (entries : List (κ × ν)) : Table κ ν :=
  (entries.map (·.1)).eraseDups.filterMap fun k => entries.reverse.find? (·.1 == k)

/-- A table with the entries of another set over it: a key that is there keeps its place and takes
the new value if there is one, and the keys that are not there follow in the order of the other. -/
def updated (s t : Table κ ν) : Table κ ν :=
  s.map (fun entry => (entry.1, (get? entry.1 t).getD entry.2)) ++
    t.filter fun entry => !(s.map (·.1)).contains entry.1

theorem ofList_append_singleton (entries : List (κ × ν)) (k : κ) (v : ν) :
    ofList (entries ++ [(k, v)]) = insert k v (ofList entries) := by
  simp [ofList, List.foldl_append]

theorem mem_of_mem_latest {entries : List (κ × ν)} {entry : κ × ν} (h : entry ∈ latest entries) :
    entry ∈ entries := by
  obtain ⟨k, -, hfind⟩ := List.mem_filterMap.mp h
  exact List.mem_reverse.mp (List.mem_of_find?_eq_some hfind)

theorem updated_nil (s : Table κ ν) : s.updated [] = s := by
  simp [updated, get?]

variable [LawfulBEq κ]

/-- What is looked up is an entry. -/
theorem mem_of_get? {k : κ} {v : ν} {t : Table κ ν} (h : get? k t = some v) : (k, v) ∈ t := by
  induction t with
  | nil => exact absurd h (by simp [get?])
  | cons entry t ih =>
    rw [get?] at h
    split at h
    · rename_i hkey
      rw [Option.some_inj] at h
      rw [← eq_of_beq hkey, ← h]
      exact List.mem_cons_self
    · exact List.mem_cons_of_mem _ (ih h)

theorem get?_of_mem {k : κ} {v : ν} {t : Table κ ν} (hnodup : (t.map (·.1)).Nodup)
    (h : (k, v) ∈ t) : get? k t = some v := by
  induction t with
  | nil => exact absurd h List.not_mem_nil
  | cons entry t ih =>
    obtain ⟨hnot, hnodup⟩ := List.nodup_cons.mp hnodup
    rw [get?]
    rcases List.mem_cons.mp h with rfl | h
    · rw [if_pos (beq_self_eq_true k)]
    · have hne : entry.1 ≠ k := by
        rintro rfl
        exact hnot (List.mem_map.mpr ⟨_, h, rfl⟩)
      rw [if_neg (by simpa using hne), ih hnodup h]

/-! ### Setting one key -/

theorem get?_insert (k other : κ) (v : ν) (t : Table κ ν) :
    get? other (insert k v t) = if k == other then some v else get? other t := by
  induction t with
  | nil => rfl
  | cons entry t ih =>
    rw [insert]
    by_cases hkey : entry.1 = k
    · rw [if_pos (beq_iff_eq.mpr hkey), get?, get?, hkey]
      split <;> rfl
    · rw [if_neg (by simpa using hkey), get?, ih, get?]
      by_cases hother : entry.1 = other
      · have hne : k ≠ other := fun h => hkey (hother.trans h.symm)
        simp [hother, hne]
      · simp [hother]

theorem insert_append_of_mem {k : κ} {s : Table κ ν} (h : k ∈ s.map (·.1)) (v : ν)
    (t : Table κ ν) : insert k v (s ++ t) = insert k v s ++ t := by
  induction s with
  | nil => exact absurd h List.not_mem_nil
  | cons entry s ih =>
    by_cases hkey : entry.1 = k
    · simp [insert, hkey]
    · have hmem : k ∈ s.map (·.1) := (List.mem_cons.mp h).resolve_left (Ne.symm hkey)
      simp [insert, hkey, ih hmem]

theorem insert_append_of_not_mem {k : κ} {s : Table κ ν} (h : k ∉ s.map (·.1)) (v : ν)
    (t : Table κ ν) : insert k v (s ++ t) = s ++ insert k v t := by
  induction s with
  | nil => rfl
  | cons entry s ih =>
    rw [List.map_cons, List.mem_cons, not_or] at h
    simp [insert, Ne.symm h.1, ih h.2]

/-- A new key goes to the end. -/
theorem insert_of_not_mem {k : κ} {t : Table κ ν} (h : k ∉ t.map (·.1)) (v : ν) :
    insert k v t = t ++ [(k, v)] := by
  simpa [insert] using insert_append_of_not_mem h v []

/-- A key that is there keeps its place. -/
theorem insert_of_mem {k : κ} {t : Table κ ν} (hnodup : (t.map (·.1)).Nodup)
    (h : k ∈ t.map (·.1)) (v : ν) :
    insert k v t = t.map fun entry => if entry.1 == k then (k, v) else entry := by
  induction t with
  | nil => simp at h
  | cons entry t ih =>
    obtain ⟨hnot, hnodup⟩ := List.nodup_cons.mp hnodup
    by_cases hk : entry.1 = k
    · have hrest : t.map (fun other => if other.1 == k then (k, v) else other) = t := by
        refine (List.map_congr_left fun other hother => ?_).trans (List.map_id t)
        have hne : other.1 ≠ k := by
          intro he
          exact hnot (List.mem_map.mpr ⟨other, hother, he.trans hk.symm⟩)
        simp [hne]
      simp [insert, hk, hrest]
    · have hmem : k ∈ t.map (·.1) := by
        rcases List.mem_cons.mp h with he | hmem
        · exact absurd he.symm hk
        · exact hmem
      simp [insert, hk, ih hnodup hmem]

/-! ### Setting the entries of a list -/

/-- Every key of a list has a last entry. -/
theorem exists_last_entry {entries : List (κ × ν)} {k : κ} (h : k ∈ entries.map (·.1)) :
    ∃ v, entries.reverse.find? (·.1 == k) = some (k, v) := by
  obtain ⟨entry, hentry, hk⟩ := List.mem_map.mp h
  cases hfind : entries.reverse.find? (·.1 == k) with
  | none =>
    have hnone := List.find?_eq_none.mp hfind entry (List.mem_reverse.mpr hentry)
    exact absurd hk (by simpa using hnone)
  | some last =>
    have hlast : last.1 = k := by simpa using List.find?_some hfind
    exact ⟨last.2, by rw [← hlast]⟩

theorem filterMap_last_entry_keys {entries : List (κ × ν)} :
    ∀ {ks : List κ}, (∀ k ∈ ks, k ∈ entries.map (·.1)) →
      (ks.filterMap fun k => entries.reverse.find? (·.1 == k)).map (·.1) = ks := by
  intro ks
  induction ks with
  | nil =>
    intro _
    rfl
  | cons k ks ih =>
    intro h
    obtain ⟨v, hv⟩ := exists_last_entry (h k (List.mem_cons_self ..))
    have hks := ih fun k hk => h k (List.mem_cons_of_mem _ hk)
    simp [hv, hks]

/-- The keys that count are the keys of the list, each once. -/
theorem latest_keys (entries : List (κ × ν)) :
    (latest entries).map (·.1) = (entries.map (·.1)).eraseDups :=
  filterMap_last_entry_keys fun _ hk => List.mem_eraseDups.mp hk

theorem eraseDups_append_singleton (ks : List κ) (k : κ) :
    (ks ++ [k]).eraseDups = if k ∈ ks then ks.eraseDups else ks.eraseDups ++ [k] := by
  rw [List.eraseDups_append]
  by_cases hk : k ∈ ks
  · simp [List.removeAll, hk]
  · simp [List.removeAll, hk, List.eraseDups_cons]

theorem nodup_eraseDups (ks : List κ) : ks.eraseDups.Nodup := by
  induction ks using List.reverseRecOn with
  | nil => simp
  | append_singleton ks k ih =>
    rw [eraseDups_append_singleton]
    by_cases hk : k ∈ ks
    · rw [if_pos hk]
      exact ih
    · rw [if_neg hk]
      refine List.nodup_append.mpr ⟨ih, by simp, ?_⟩
      intro a ha b hb hab
      rw [List.mem_singleton.mp hb] at hab
      exact hk (List.mem_eraseDups.mp (hab ▸ ha))

/-- One more entry sets its key. -/
theorem latest_append_singleton (entries : List (κ × ν)) (k : κ) (v : ν) :
    latest (entries ++ [(k, v)]) = insert k v (latest entries) := by
  have hkeys := latest_keys entries
  by_cases hk : k ∈ entries.map (·.1)
  · -- the key keeps its place, and its entry is now the last of the list
    have hmem : k ∈ (latest entries).map (·.1) := by
      rw [hkeys]
      exact List.mem_eraseDups.mpr hk
    rw [insert_of_mem (hkeys ▸ nodup_eraseDups _) hmem]
    rw [latest, latest, List.map_append, List.map_singleton, eraseDups_append_singleton, if_pos hk,
      List.map_filterMap]
    refine List.filterMap_congr fun a ha => ?_
    obtain ⟨w, hw⟩ := exists_last_entry (List.mem_eraseDups.mp ha)
    by_cases hak : a = k
    · subst hak
      simp [hw]
    · simp [hw, hak, Ne.symm hak]
  · have hnot : k ∉ (latest entries).map (·.1) := by
      rw [hkeys]
      exact fun h => hk (List.mem_eraseDups.mp h)
    rw [insert_of_not_mem hnot]
    rw [latest, latest, List.map_append, List.map_singleton, eraseDups_append_singleton, if_neg hk,
      List.filterMap_append]
    congr 1
    · refine List.filterMap_congr fun a ha => ?_
      have hne : k ≠ a := fun he => hk (he ▸ List.mem_eraseDups.mp ha)
      simp [hne]
    · simp

/-- A table that is set entry by entry holds each key where it first occurs, with its last
value. -/
theorem ofList_eq_latest (entries : List (κ × ν)) : ofList entries = latest entries := by
  induction entries using List.reverseRecOn with
  | nil => rfl
  | append_singleton entries entry ih =>
    rw [ofList_append_singleton, latest_append_singleton, ih]

/-! ### Entries that count -/

/-- A key that counts has one value. -/
theorem eq_of_mem_latest {entries : List (κ × ν)} {k : κ} {v w : ν} (hv : (k, v) ∈ latest entries)
    (hw : (k, w) ∈ latest entries) : v = w := by
  have last_of_mem : ∀ {u : ν}, (k, u) ∈ latest entries →
      entries.reverse.find? (·.1 == k) = some (k, u) := by
    intro u hu
    obtain ⟨key, -, hfind⟩ := List.mem_filterMap.mp hu
    have hkey : k = key := by simpa using List.find?_some hfind
    rw [hkey]
    rw [hkey] at hfind
    exact hfind
  have hsame := (last_of_mem hv).symm.trans (last_of_mem hw)
  simpa using hsame

/-- All entries of a list count exactly if no key is given two values. -/
theorem forall_mem_latest_iff {entries : List (κ × ν)} :
    (∀ entry ∈ entries, entry ∈ latest entries) ↔
      ∀ k v w, (k, v) ∈ entries → (k, w) ∈ entries → v = w := by
  constructor
  · intro hall k v w hv hw
    exact eq_of_mem_latest (hall _ hv) (hall _ hw)
  · rintro hone ⟨k, v⟩ hentry
    have hkey : k ∈ (latest entries).map (·.1) := by
      rw [latest_keys, List.mem_eraseDups]
      exact List.mem_map.mpr ⟨(k, v), hentry, rfl⟩
    obtain ⟨⟨key, w⟩, hw, rfl⟩ := List.mem_map.mp hkey
    rw [hone key v w hentry (mem_of_mem_latest hw)]
    exact hw

/-! ### Entries set after others -/

theorem nodup_keys_ofList (entries : List (κ × ν)) : ((ofList entries).map (·.1)).Nodup := by
  rw [ofList_eq_latest, latest_keys]
  exact nodup_eraseDups _

/-- A choice of entries by their keys takes a key that is set, or passes it over. -/
theorem filter_insert (keep : κ → Bool) (k : κ) (v : ν) (t : Table κ ν) :
    (insert k v t).filter (fun entry => keep entry.1) =
      if keep k then insert k v (t.filter fun entry => keep entry.1)
      else t.filter fun entry => keep entry.1 := by
  induction t with
  | nil => simp [insert, List.filter_cons]
  | cons entry t ih =>
    by_cases hkey : entry.1 = k
    · subst hkey
      cases hkeep : keep entry.1 <;> simp [insert, hkeep]
    · cases hkeep : keep entry.1 <;> simp [insert, hkey, hkeep, ih, apply_ite (List.cons entry)]

/-- Setting a key in the table that is set over another sets it in the result. -/
theorem updated_insert {s : Table κ ν} (hnodup : (s.map (·.1)).Nodup) (k : κ) (v : ν)
    (t : Table κ ν) : s.updated (insert k v t) = insert k v (s.updated t) := by
  have hkeys : (s.map fun entry => (entry.1, (get? entry.1 t).getD entry.2)).map (·.1) =
      s.map (·.1) := by
    rw [List.map_map]
    rfl
  rw [updated, updated, filter_insert (!(s.map (·.1)).contains ·)]
  by_cases hk : k ∈ s.map (·.1)
  · -- the key takes the value at its place in `s`
    rw [if_neg (by simpa using hk), insert_append_of_mem (by rwa [hkeys]),
      insert_of_mem (t := s.map _) (by rwa [hkeys]) (by rwa [hkeys]), List.map_map]
    congr 1
    refine List.map_congr_left fun entry _ => ?_
    rw [get?_insert]
    by_cases hkey : entry.1 = k
    · simp [hkey]
    · simp [hkey, Ne.symm hkey]
  · rw [if_pos (by simpa using hk), insert_append_of_not_mem (by rwa [hkeys])]
    congr 1
    refine List.map_congr_left fun entry hentry => ?_
    have hne : k ≠ entry.1 := fun h => hk (h ▸ List.mem_map_of_mem hentry)
    rw [get?_insert, if_neg (by simpa using hne)]

/-- Entries set after others update the table of these. -/
theorem ofList_append (entries others : List (κ × ν)) :
    ofList (entries ++ others) = (ofList entries).updated (ofList others) := by
  induction others using List.reverseRecOn with
  | nil => rw [List.append_nil, show ofList ([] : List (κ × ν)) = [] from rfl, updated_nil]
  | append_singleton others entry ih =>
    rw [← List.append_assoc, ofList_append_singleton, ih, ofList_append_singleton,
      updated_insert (nodup_keys_ofList entries)]

end LivePage.Table
