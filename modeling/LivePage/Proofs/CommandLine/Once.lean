/-
The status of a run that builds once.

* `Config.listed` — the entries that a configuration lists, as they stand in its
  file;
* `Config.listed_of_load` — a configuration holds the table of these entries;
* `Workspace.runCommand_eq_exit_iff` — when a run that builds once comes to a
  status;
* `Workspace.once_status` — the status is 0 if each source that is listed was
  written to the destination that is listed for it last;
* `Workspace.once_skips_entry` — the status can be 0 though an entry was never
  built.

Design notes: a table has one destination for each source, so what a run
counts are the entries of the table and not the listed ones. The two agree
exactly if no source is listed with two destinations.
-/
import Mathlib.Data.List.Basic
import LivePage.CommandLine.Run
import LivePage.Proofs.Build
import LivePage.Proofs.Config.Acceptance

namespace LivePage

/-! ### Entries of a configuration -/

namespace Config

open Yaml (Value)

/-- The sources and destinations that a configuration lists, in order and with repetitions. -/
def listed (tree : FileTree) (path : Path) (read : Yaml.Reader := Yaml.load) :
    Except ConfigFault (List (Path × Path)) := do
  let t ← (tree.readText path).mapError .file
  match ← (read t).mapError .text with
  | .map entries =>
    match valueOf? "write" entries with
    | some (.list values) => values.mapM (pairOf path.parent)
    | _ => .error .writeNotList
  | _ => .error .rootNotMapping

theorem pairs_of_ofEntries {tree : FileTree} {base : Path} {entries : List (Value × Value)}
    {config : Config} (h : ofEntries tree base entries = .ok config) :
    ∃ values pairs, valueOf? "write" entries = some (.list values) ∧
      values.mapM (pairOf base) = .ok pairs ∧ config.pairs = Table.ofList pairs := by
  obtain ⟨write, hwrite, -, hpairs, -⟩ := ofEntries_eq_ok h
  obtain ⟨values, pairs, rfl, hvalues, htable⟩ := pairsOf_eq_ok hpairs
  exact ⟨values, pairs, hwrite, hvalues, htable⟩

/-- A configuration holds the table of the entries that it lists. -/
theorem listed_of_load {read : Yaml.Reader} {tree : FileTree} {path : Path} {config : Config}
    (h : load tree path read = .ok config) :
    ∃ entries, listed tree path read = .ok entries ∧ config.pairs = Table.latest entries := by
  obtain ⟨t, ht, h⟩ := bind_eq_ok_iff.mp h
  obtain ⟨value, hvalue, h⟩ := bind_eq_ok_iff.mp h
  cases value with
  | map members =>
    obtain ⟨values, pairs, hwrite, hpairs, hconfig⟩ := pairs_of_ofEntries h
    refine ⟨pairs, ?_, hconfig.trans (Table.ofList_eq_latest pairs)⟩
    simp only [listed, ht, hvalue, hwrite, hpairs, bind, Except.bind]
  | null => exact absurd h (by simp [ofValue, ofEntries, valueOf?, Table.get?])
  | bool | int | float | text | list | other => exact absurd h (by simp [ofValue])

theorem nodup_of_load {read : Yaml.Reader} {tree : FileTree} {path : Path} {config : Config}
    (h : load tree path read = .ok config) : (config.pairs.map Prod.fst).Nodup := by
  obtain ⟨entries, -, hpairs⟩ := listed_of_load h
  rw [hpairs, Table.latest_keys]
  exact Table.nodup_eraseDups _

end Config

/-! ### The run -/

theorem BuildCount.status_eq_zero_iff {count : BuildCount} :
    count.status = 0 ↔ count.written = count.pairs := by
  unfold status
  split <;> simp_all

theorem BuildCount.status_cases (count : BuildCount) : count.status = 0 ∨ count.status = 1 := by
  unfold status
  split
  · exact .inl rfl
  · exact .inr rfl

namespace Workspace

/-- A run that builds once comes to a status if there is a configuration and no fault ends the
build. -/
theorem runCommand_eq_exit_iff {read : Yaml.Reader} {ws : Workspace} {arguments : List Text}
    {config : Text} (hrequest : Request.ofArguments arguments = .once config) (events : List Event)
    (waits : List (List Change)) (run : Run) (status : Nat) :
    ws.runCommand arguments events waits read = (run, .exit status) ↔
      ∃ loaded, Config.load ws.tree (.ofText config.raw) read = .ok loaded ∧
        let built := LivePage.build loaded.frame ws.tree loaded.pairs
        built.2 = none ∧
          run = { workspace := { ws with tree := built.1.tree,
                                         records := ws.records ++ built.1.records }, events } ∧
          status = BuildCount.status ⟨loaded.pairs.length, built.1.written⟩ := by
  unfold runCommand buildOnce
  rw [hrequest]
  dsimp only
  cases hload : Config.load ws.tree (.ofText config.raw) read with
  | error fault => simp
  | ok loaded =>
    unfold build
    cases hbuilt : LivePage.build loaded.frame ws.tree loaded.pairs with
    | mk state fault? =>
      cases fault? with
      | some fault => simp [hbuilt]
      | none => simp [hbuilt, eq_comm]

/-- A run that writes every pair ends with 0. -/
theorem runCommand_eq_exit_zero {read : Yaml.Reader} {ws : Workspace} {arguments : List Text}
    {config : Text} (hrequest : Request.ofArguments arguments = .once config) {loaded : Config}
    (hload : Config.load ws.tree (.ofText config.raw) read = .ok loaded)
    (hbuilt : ∀ pair ∈ loaded.pairs, Built loaded.frame ws.tree loaded.pairs pair)
    (events : List Event) (waits : List (List Change)) :
    ∃ run, ws.runCommand arguments events waits read = (run, .exit 0) ∧
      run.workspace.tree = (LivePage.build loaded.frame ws.tree loaded.pairs).1.tree := by
  have hwritten := (written_build (Config.nodup_of_load hload)).mpr hbuilt
  refine ⟨_, (runCommand_eq_exit_iff hrequest events waits _ 0).mpr
    ⟨loaded, hload, build_eq_none_of_written hwritten, rfl, ?_⟩, rfl⟩
  exact (BuildCount.status_eq_zero_iff.mpr hwritten).symm

/-- **The status of a run that builds once.** If a run that builds once comes to a status, whichever
reader reads its configuration, the status is 0 or 1, and it is 0 exactly if each source that the configuration lists was read, compiled
and written to the destination that is listed last for it. So all listed entries were written
exactly if the status is 0 and no source is listed with two destinations. -/
theorem once_status {read : Yaml.Reader} {ws : Workspace} {arguments : List Text} {config : Text}
    {events : List Event} {waits : List (List Change)} {run : Run} {status : Nat}
    (hrequest : Request.ofArguments arguments = .once config)
    (h : ws.runCommand arguments events waits read = (run, .exit status)) :
    ∃ loaded entries, Config.load ws.tree (.ofText config.raw) read = .ok loaded ∧
      Config.listed ws.tree (.ofText config.raw) read = .ok entries ∧
      run.workspace.tree = (LivePage.build loaded.frame ws.tree loaded.pairs).1.tree ∧
      (status = 0 ∨ status = 1) ∧
      (status = 0 ↔
        ∀ entry ∈ Table.latest entries, Built loaded.frame ws.tree loaded.pairs entry) ∧
      ((∀ entry ∈ entries, Built loaded.frame ws.tree loaded.pairs entry) ↔
        status = 0 ∧ ∀ source destination other, (source, destination) ∈ entries →
          (source, other) ∈ entries → destination = other) := by
  obtain ⟨loaded, hload, -, hrun, hstatus⟩ :=
    (runCommand_eq_exit_iff hrequest events waits run status).mp h
  obtain ⟨entries, hlisted, hpairs⟩ := Config.listed_of_load hload
  have hzero : status = 0 ↔
      ∀ entry ∈ Table.latest entries, Built loaded.frame ws.tree loaded.pairs entry := by
    rw [hstatus, BuildCount.status_eq_zero_iff, ← hpairs]
    exact written_build (Config.nodup_of_load hload)
  refine ⟨loaded, entries, hload, hlisted, by rw [hrun], ?_, hzero, ?_⟩
  · rw [hstatus]
    exact BuildCount.status_cases _
  · rw [hzero, ← Table.forall_mem_latest_iff]
    constructor
    · intro hall
      refine ⟨fun entry hentry => hall entry (Table.mem_of_mem_latest hentry), ?_⟩
      -- an entry that was built is one of the table
      intro entry hentry
      rw [← hpairs]
      exact (hall entry hentry).mem
    · rintro ⟨hlatest, hcount⟩ entry hentry
      exact hlatest entry (hcount entry hentry)

/-- An entry is listed twice, with its source spelled in two ways. -/
theorem once_status_spelled :
    let tree : FileTree :=
      ⟨[], [([raw "y"], .file (encode
          "write:\n- src: a\n  dst: b\n- src: ./a\n  dst: b\n".toList)),
        ([raw "a"], .file [])]⟩
    let arguments : List Text := ["y".toList, "--once".toList]
    Request.ofArguments arguments = .once "y".toList ∧
      ∃ run loaded entries,
        Workspace.runCommand { tree } arguments [] [] = (run, .exit 0) ∧
        Config.load tree (.ofText (raw "y")) = .ok loaded ∧
        Config.listed tree (.ofText (raw "y")) = .ok entries ∧ entries.length = 2 ∧
        ∀ entry ∈ entries, Built loaded.frame tree loaded.pairs entry := by
  intro tree arguments
  let pair : Path × Path := (.ofText (raw "a"), .ofText (raw "b"))
  have hrequest : Request.ofArguments arguments = .once "y".toList := by decide +kernel
  have hload : Config.load tree (.ofText (raw "y")) =
      .ok { pairs := [pair], watch := [], debounce := Config.defaultDebounce, frame := {} } :=
    toOption_eq_some_iff.mp (by decide +kernel)
  have hlisted : Config.listed tree (.ofText (raw "y")) = .ok [pair, pair] :=
    toOption_eq_some_iff.mp (by decide +kernel)
  have hwrites : Writes {} tree pair :=
    writes_iff.mpr ⟨⟨[], by decide +kernel⟩, ⟨[raw "b"], by decide +kernel, by decide +kernel⟩⟩
  obtain ⟨run, hrun, -⟩ := @runCommand_eq_exit_zero Yaml.load { tree } arguments _ hrequest _ hload
    (built_singleton hwrites) [] []
  obtain ⟨loaded, entries, hloaded, hentries, -, -, -, hall⟩ := once_status hrequest hrun
  obtain rfl := Except.ok.inj (hlisted.symm.trans hentries)
  refine ⟨hrequest, run, loaded, _, hrun, hloaded, hlisted, rfl, hall.mpr ⟨rfl, ?_⟩⟩
  intro source destination other hdestination hother
  simp only [List.mem_cons, List.not_mem_nil, or_false, or_self] at hdestination hother
  exact congrArg Prod.snd (hdestination.trans hother.symm)

/-- A source is listed with two destinations. The run ends with 0, but it has never built the first
of the entries, and there is no file at its destination. -/
theorem once_skips_entry :
    let tree : FileTree :=
      ⟨[], [([raw "y"], .file (encode
          "write:\n- src: a\n  dst: b\n- src: a\n  dst: c\n".toList)),
        ([raw "a"], .file [])]⟩
    let arguments : List Text := ["y".toList, "--once".toList]
    let entry : Path × Path := (.ofText (raw "a"), .ofText (raw "b"))
    Request.ofArguments arguments = .once "y".toList ∧
      ∃ run loaded entries,
        Workspace.runCommand { tree } arguments [] [] = (run, .exit 0) ∧
        Config.load tree (.ofText (raw "y")) = .ok loaded ∧
        Config.listed tree (.ofText (raw "y")) = .ok entries ∧ entry ∈ entries ∧
        ¬ Built loaded.frame tree loaded.pairs entry ∧
        run.workspace.tree.find? [raw "b"] = none := by
  intro tree arguments entry
  let pair : Path × Path := (.ofText (raw "a"), .ofText (raw "c"))
  have hrequest : Request.ofArguments arguments = .once "y".toList := by decide +kernel
  have hload : Config.load tree (.ofText (raw "y")) =
      .ok { pairs := [pair], watch := [], debounce := Config.defaultDebounce, frame := {} } :=
    toOption_eq_some_iff.mp (by decide +kernel)
  have hlisted : Config.listed tree (.ofText (raw "y")) = .ok [entry, pair] :=
    toOption_eq_some_iff.mp (by decide +kernel)
  have hwrites : Writes {} tree pair :=
    writes_iff.mpr ⟨⟨[], by decide +kernel⟩, ⟨[raw "c"], by decide +kernel, by decide +kernel⟩⟩
  obtain ⟨run, hrun, htree⟩ := @runCommand_eq_exit_zero Yaml.load { tree } arguments _ hrequest _ hload
    (built_singleton hwrites) [] []
  refine ⟨hrequest, run, _, _, hrun, hload, hlisted, List.mem_cons_self, ?_, ?_⟩
  · intro hbuilt
    exact absurd hbuilt.mem (by decide +kernel)
  · rw [htree]
    exact (find?_build (by decide +kernel)).trans (by decide +kernel)

end Workspace

end LivePage
