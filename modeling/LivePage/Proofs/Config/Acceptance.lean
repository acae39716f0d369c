/-
Which values are configurations, and which configurations they are.

* `Check`, `Config.checks`, `Check.fault?` — all checks of a configuration in the
  order in which they are made, and the fault that each one finds;
* `Config.faultOf?_ofValue` — the fault of a configuration is that of the first
  check that finds one;
* `Config.Acceptable`, `Config.exists_ofValue_iff` — what a value must be to be a
  configuration;
* `Config.Describes`, `Config.describes_of_ofValue` — the configuration that a
  value stands for;
* `Config.load_accepts` — all of it for the configuration in a file;
* `Config.load_refuses_long_lang` — a file can be refused only because an integer
  is given as its language.

Design notes: a key that is absent stands for its default, so that a check looks
at one value in both cases (`Config.given`). Every default passes its own check,
but there is no default for `write`.
-/
import Mathlib.Data.List.Forall2
import LivePage.Config
import LivePage.Proofs.Files.Tree
import LivePage.Proofs.Number.Reading
import LivePage.Proofs.Yaml.Hexadecimal
import LivePage.Proofs.Yaml.Writable

namespace LivePage

open Yaml (Value)

/-! ### Faults of results -/

/-- The fault that a result is, if it is one. -/
def faultOf? {ε α : Type} : Except ε α → Option ε
  | .ok _ => none
  | .error e => some e

section Faults

variable {ε α β : Type}

theorem faultOf?_eq_some_iff {x : Except ε α} {e : ε} : faultOf? x = some e ↔ x = .error e := by
  cases x <;> simp [faultOf?]

theorem faultOf?_eq_none_iff {x : Except ε α} : faultOf? x = none ↔ ∃ a, x = .ok a := by
  cases x <;> simp [faultOf?]

/-- The fault of two steps is that of the first one, and otherwise that of the second. -/
theorem faultOf?_bind {x : Except ε α} {f : α → Except ε β} {rest : Option ε}
    (h : ∀ a, x = .ok a → faultOf? (f a) = rest) : faultOf? (x >>= f) = (faultOf? x).or rest := by
  cases x with
  | error e => rfl
  | ok a => exact h a rfl

theorem faultOf?_bind_ok (x : Except ε α) (g : α → β) :
    faultOf? (x >>= fun a => .ok (g a)) = faultOf? x := by
  cases x <;> rfl

theorem mapError_eq_ok_iff {ε' : Type} {f : ε → ε'} {x : Except ε α} {a : α} :
    x.mapError f = .ok a ↔ x = .ok a := by
  cases x <;> simp [Except.mapError]

theorem findSome?_cons_eq_or (f : α → Option β) (x : α) (xs : List α) :
    (x :: xs).findSome? f = (f x).or (xs.findSome? f) := by
  rw [List.findSome?_cons]
  cases f x <;> rfl

theorem mem_iff_of_mapM {f : α → Except ε β} {xs : List α} {ys : List β}
    (h : xs.mapM f = .ok ys) (y : β) : y ∈ ys ↔ ∃ x ∈ xs, f x = .ok y := by
  have hall := forall₂_of_mapM h
  clear h
  induction hall with
  | nil => simp
  | cons hx _ ih => simp [ih, hx, eq_comm]

/-- The fault of a list of steps is the first one. -/
theorem faultOf?_mapM (f : α → Except ε β) (xs : List α) :
    faultOf? (xs.mapM f) = xs.findSome? fun x => faultOf? (f x) := by
  induction xs with
  | nil => rfl
  | cons x xs ih =>
    rw [List.mapM_cons, findSome?_cons_eq_or, ← ih]
    exact faultOf?_bind fun y _ => faultOf?_bind_ok (xs.mapM f) (y :: ·)

end Faults

/-! ### What a value gives for a key -/

namespace Config

/-- The members of a root. Nothing at all counts as an empty mapping. -/
def members? : Value → Option (List (Value × Value))
  | .null => some []
  | .map members => some members
  | _ => none

/-- What a root has for a key. -/
def member? (key : String) (v : Value) : Option Value :=
  (members? v).bind (valueOf? key)

/-- What a root has for a key, or a default if it has nothing. -/
def given (key : String) (default v : Value) : Value :=
  (member? key v).getD default

/-- The items of a list. -/
def itemsOf : Value → List Value
  | .list items => items
  | _ => []

/-- What a root gives for the seconds. -/
def debounceGiven (v : Value) : Value :=
  given "debounce" (.float defaultDebounce) v

/-- What a root gives to be watched. -/
def watchGiven (v : Value) : Value :=
  given "watch" .null v

/-- What a root gives for the language. -/
def langGiven (v : Value) : Value :=
  given "lang" (.text ({} : Frame).lang) v

/-- What a root gives for the direction. -/
def dirGiven (v : Value) : Value :=
  given "dir" (.text ({} : Frame).dir) v

/-- The entries that a root gives to be written. -/
def entriesGiven (v : Value) : List Value :=
  ((member? "write" v).map itemsOf).getD []

/-- The patterns that a root gives to be watched. -/
def patternsGiven (v : Value) : List Value :=
  itemsOf (watchGiven v)

end Config

/-! ### Checks -/

/-- A check of a configuration. -/
inductive Check where
  /-- The root is a mapping. -/
  | root
  /-- The mapping has `write`. -/
  | write
  /-- The seconds are a number. -/
  | seconds
  /-- The seconds are not zero or less. -/
  | sign
  /-- What is to be written is a list. -/
  | writeKind
  /-- An item of that list has a source and a destination. -/
  | entry (item : Value)
  /-- Something is to be written. -/
  | someEntry
  /-- What is to be watched is nothing or a list. -/
  | watchKind
  /-- An item of that list is a pattern of files. -/
  | pattern (item : Value)
  /-- The language can be made a text. -/
  | lang
  /-- The direction can be made a text. -/
  | dir

namespace Config

/-- The checks of the seconds. -/
def debounceChecks : List Check :=
  [.seconds, .sign]

/-- The checks of what is to be written. -/
def writeChecks (v : Value) : List Check :=
  .writeKind :: ((entriesGiven v).map .entry ++ [.someEntry])

/-- The checks of what is to be watched. -/
def watchChecks (v : Value) : List Check :=
  .watchKind :: (patternsGiven v).map .pattern

/-- All checks of a root, in the order in which they are made. -/
def checks (v : Value) : List Check :=
  .root :: .write :: (debounceChecks ++ (writeChecks v ++ (watchChecks v ++ [.lang, .dir])))

end Config

open Config

/-- The fault that a check of a root finds. -/
def Check.fault? (tree : FileTree) (base : Path) (v : Value) : Check → Option ConfigFault
  | .root => if (members? v).isSome then none else some .rootNotMapping
  | .write => if (member? "write" v).isSome then none else some .noWrite
  | .seconds => faultOf? (Config.seconds (debounceGiven v))
  | .sign =>
    match Config.seconds (debounceGiven v) with
    | .ok d => if d.isNonPositive then some .debounceNotPositive else none
    | .error _ => none
  | .writeKind =>
    match member? "write" v with
    | none | some (.list _) => none
    | some _ => some .writeNotList
  | .entry item =>
    match sidesOf? item with
    | some (src, dst) => (faultOf? (textOf src)).or (faultOf? (textOf dst))
    | none => some (refusalOf item)
  | .someEntry => if (entriesGiven v).isEmpty then some .nothingToWrite else none
  | .watchKind =>
    match watchGiven v with
    | .null | .list _ => none
    | _ => some .watchNotList
  | .pattern item => faultOf? (matchesOf tree base item)
  | .lang => faultOf? (textOf (langGiven v))
  | .dir => faultOf? (textOf (dirGiven v))

namespace Config

variable {tree : FileTree} {base : Path} {v : Value} {members : List (Value × Value)}

theorem member?_eq (h : members? v = some members) (key : String) :
    member? key v = valueOf? key members := by
  rw [member?, h]
  rfl

theorem given_eq (h : members? v = some members) (key : String) (default : Value) :
    given key default v = (valueOf? key members).getD default := by
  rw [given, member?_eq h]

theorem faultOf?_pairOf (item : Value) :
    faultOf? (pairOf base item) = (Check.entry item).fault? tree base v := by
  rw [pairOf, Check.fault?]
  cases sidesOf? item with
  | none => rfl
  | some sides =>
    exact faultOf?_bind fun src _ => faultOf?_bind_ok (textOf sides.2) fun dst =>
      (base.join (.ofText src), base.join (.ofText dst))

theorem debounceOf_eq (h : members? v = some members) :
    debounceOf members = (do
      let d ← Config.seconds (debounceGiven v)
      if d.isNonPositive then .error .debounceNotPositive else .ok d) := by
  rw [debounceOf, debounceGiven, given_eq h]
  cases valueOf? "debounce" members <;> rfl

theorem watchOf_eq (h : members? v = some members) :
    watchOf tree base (valueOf? "watch" members) = watchOf tree base (some (watchGiven v)) := by
  rw [watchGiven, given_eq h]
  cases valueOf? "watch" members <;> rfl

theorem textOrDefault_eq (h : members? v = some members) (key : String) (default : RawText) :
    textOrDefault key default members = textOf (given key (.text default) v) := by
  rw [textOrDefault, given_eq h]
  cases valueOf? key members <;> rfl

theorem faultOf?_debounceOf (h : members? v = some members) :
    faultOf? (debounceOf members) = debounceChecks.findSome? (Check.fault? tree base v) := by
  rw [debounceOf_eq h, debounceChecks, findSome?_cons_eq_or, List.findSome?_singleton]
  refine faultOf?_bind fun d hd => ?_
  rw [Check.fault?, hd]
  cases hsign : d.isNonPositive <;> simp [faultOf?, hsign]

theorem faultOf?_pairsOf {write : Value} (h : member? "write" v = some write) :
    faultOf? (pairsOf base write) = (writeChecks v).findSome? (Check.fault? tree base v) := by
  rw [writeChecks, findSome?_cons_eq_or]
  cases write with
  | null | bool | int | float | text | map | other => simp [pairsOf, Check.fault?, h, faultOf?]
  | list items =>
    have hitems : entriesGiven v = items := by
      rw [entriesGiven, h]
      rfl
    have hkind : Check.writeKind.fault? tree base v = none := by
      rw [Check.fault?, h]
    have hentries : faultOf? (items.mapM (pairOf base)) =
        items.findSome? (Check.fault? tree base v ∘ .entry) := by
      rw [faultOf?_mapM]
      exact congrArg (List.findSome? · items) (funext faultOf?_pairOf)
    rw [pairsOf, hkind, Option.none_or, List.findSome?_append, List.findSome?_map,
      List.findSome?_singleton, hitems, ← hentries]
    refine faultOf?_bind fun pairs hpairs => ?_
    -- each item gave one pair
    have hempty : pairs.isEmpty = items.isEmpty := by
      have hlength := (forall₂_of_mapM hpairs).length_eq
      cases pairs <;> cases items <;> simp_all
    rw [Check.fault?, hitems, hempty]
    cases items.isEmpty <;> rfl

theorem faultOf?_watchOf (h : members? v = some members) :
    faultOf? (watchOf tree base (valueOf? "watch" members)) =
      (watchChecks v).findSome? (Check.fault? tree base v) := by
  rw [watchOf_eq h, watchChecks, findSome?_cons_eq_or, List.findSome?_map, patternsGiven,
    Check.fault?]
  cases watchGiven v with
  | null => rfl
  | bool | int | float | text | map | other => rfl
  | list items =>
    have hpatterns := faultOf?_mapM (matchesOf tree base) items
    exact (faultOf?_bind_ok _ fun found => found.flatten.eraseDups).trans hpatterns

/-- The fault of a mapping is that of the first check that finds one. -/
theorem faultOf?_ofEntries (h : members? v = some members) :
    faultOf? (ofEntries tree base members) = (checks v).findSome? (Check.fault? tree base v) := by
  have hroot : Check.root.fault? tree base v = none := by
    rw [Check.fault?, h]
    rfl
  rw [checks, findSome?_cons_eq_or, hroot, Option.none_or, findSome?_cons_eq_or, ofEntries,
    ← member?_eq h]
  cases hwrite : member? "write" v with
  | none => simp [faultOf?, Check.fault?, hwrite]
  | some write =>
    have hpresent : Check.write.fault? tree base v = none := by
      rw [Check.fault?, hwrite]
      rfl
    rw [hpresent, Option.none_or, List.findSome?_append, List.findSome?_append,
      List.findSome?_append, ← faultOf?_debounceOf h, ← faultOf?_pairsOf hwrite,
      ← faultOf?_watchOf h, findSome?_cons_eq_or, List.findSome?_singleton]
    refine faultOf?_bind fun debounce _ => ?_
    refine faultOf?_bind fun pairs _ => ?_
    refine faultOf?_bind fun watch _ => ?_
    rw [Check.fault?, Check.fault?, langGiven, dirGiven, ← textOrDefault_eq h,
      ← textOrDefault_eq h]
    exact faultOf?_bind fun lang _ => faultOf?_bind_ok _ fun dir =>
      Config.mk pairs watch debounce ⟨lang, dir⟩

/-- **Order of the checks.** The fault of a configuration is that of the first check that finds
one. -/
theorem faultOf?_ofValue (tree : FileTree) (base : Path) (v : Value) :
    faultOf? (ofValue tree base v) = (checks v).findSome? (Check.fault? tree base v) := by
  cases v with
  | null => exact faultOf?_ofEntries (v := .null) rfl
  | map members => exact faultOf?_ofEntries (v := .map members) rfl
  | bool | int | float | text | list | other => rfl

/-! ### What a configuration must be -/

/-- An item has a source and a destination, and both can be made texts. -/
def IsEntry (item : Value) : Prop :=
  ∃ members src dst, item = .map members ∧ valueOf? "src" members = some src ∧
    valueOf? "dst" members = some dst ∧ src.Writable ∧ dst.Writable

/-- An item is a pattern, and these are the paths that match it below a base. -/
def Finds (tree : FileTree) (base : Path) (item : Value) (found : List Path) : Prop :=
  ∃ t pattern, item.asText? = some t ∧ Pattern.ofText t = .ok pattern ∧
    tree.glob base pattern = .ok found

/-- What a configuration must be. -/
structure Acceptable (tree : FileTree) (base : Path) (v : Value) : Prop where
  /-- A mapping that lists something to be written. -/
  write : ∃ members items, v = .map members ∧ valueOf? "write" members = some (.list items) ∧
    items ≠ [] ∧ ∀ item ∈ items, IsEntry item
  /-- Its seconds are a number and not zero or less. -/
  seconds : ∃ d, Config.seconds (debounceGiven v) = .ok d ∧ (d.Positive ∨ d = .nan)
  /-- Nothing is to be watched, or a list of patterns. -/
  watch : watchGiven v = .null ∨ ∃ items, watchGiven v = .list items ∧
    ∀ item ∈ items, ∃ found, Finds tree base item found
  /-- Its language can be made a text. -/
  lang : (langGiven v).Writable
  /-- Its direction can be made a text. -/
  dir : (dirGiven v).Writable

theorem textOf_eq_ok_iff {value : Value} {t : RawText} :
    textOf value = .ok t ↔ value.asText? = some t := by
  unfold textOf
  cases value.asText? <;> simp

theorem faultOf?_textOf_eq_none_iff {value : Value} :
    faultOf? (textOf value) = none ↔ value.Writable := by
  rw [faultOf?_eq_none_iff, ← value.asText?_isSome_iff, Option.isSome_iff_exists]
  simp only [textOf_eq_ok_iff]

theorem textOf_of_not_writable {value : Value} (h : ¬ value.Writable) :
    textOf value = .error .integerTooLong := by
  rw [← value.asText?_isSome_iff, Bool.not_eq_true, Option.isSome_eq_false_iff,
    Option.isNone_iff_eq_none] at h
  rw [textOf, h]

theorem matchesOf_eq_ok_iff {item : Value} {found : List Path} :
    matchesOf tree base item = .ok found ↔ Finds tree base item found := by
  simp only [matchesOf, Finds, bind_eq_ok_iff, textOf_eq_ok_iff, mapError_eq_ok_iff,
    exists_and_left]

theorem sidesOf?_eq_some_iff {item src dst : Value} :
    sidesOf? item = some (src, dst) ↔
      ∃ members, item = .map members ∧ valueOf? "src" members = some src ∧
        valueOf? "dst" members = some dst := by
  cases item with
  | map members => simp [sidesOf?, Option.bind_eq_some_iff]
  | null | bool | int | float | text | list | other => simp [sidesOf?]

theorem fault?_entry_eq_none_iff {item : Value} :
    (Check.entry item).fault? tree base v = none ↔ IsEntry item := by
  rw [Check.fault?]
  cases hsides : sidesOf? item with
  | none =>
    refine iff_of_false (by simp) ?_
    rintro ⟨members, src, dst, hitem, hsrc, hdst, -⟩
    have hsome := sidesOf?_eq_some_iff.mpr ⟨members, hitem, hsrc, hdst⟩
    exact absurd (hsides.symm.trans hsome) (by simp)
  | some sides =>
    obtain ⟨members, rfl, hsrc, hdst⟩ := sidesOf?_eq_some_iff.mp hsides
    simp [Option.or_eq_none_iff, faultOf?_textOf_eq_none_iff, IsEntry, hsrc, hdst]

theorem member?_eq_some_iff {key : String} {value : Value} :
    member? key v = some value ↔
      ∃ members, v = .map members ∧ valueOf? key members = some value := by
  cases v with
  | map members => simp [member?, members?]
  | null => simp [member?, members?, valueOf?, Table.get?]
  | bool | int | float | text | list | other => simp [member?, members?]

theorem findSome?_debounceChecks_eq_none_iff :
    debounceChecks.findSome? (Check.fault? tree base v) = none ↔
      ∃ d, Config.seconds (debounceGiven v) = .ok d ∧ (d.Positive ∨ d = .nan) := by
  rw [debounceChecks, findSome?_cons_eq_or, List.findSome?_singleton, Check.fault?, Check.fault?]
  cases Config.seconds (debounceGiven v) with
  | error fault => simp [faultOf?]
  | ok d => simp [faultOf?, ← d.isNonPositive_eq_false_iff]

theorem findSome?_writeChecks_eq_none_iff {write : Value} (h : member? "write" v = some write) :
    (writeChecks v).findSome? (Check.fault? tree base v) = none ↔
      ∃ items, write = .list items ∧ items ≠ [] ∧ ∀ item ∈ items, IsEntry item := by
  have hitems : entriesGiven v = itemsOf write := by
    rw [entriesGiven, h]
    rfl
  rw [writeChecks, findSome?_cons_eq_or, List.findSome?_append, List.findSome?_singleton,
    Option.or_eq_none_iff, Option.or_eq_none_iff, List.findSome?_eq_none_iff,
    List.forall_mem_map, Check.fault?, Check.fault?, hitems, h]
  simp only [fault?_entry_eq_none_iff]
  cases write with
  | list items => simp [itemsOf, and_comm]
  | null | bool | int | float | text | map | other => simp

theorem findSome?_watchChecks_eq_none_iff :
    (watchChecks v).findSome? (Check.fault? tree base v) = none ↔
      watchGiven v = .null ∨ ∃ items, watchGiven v = .list items ∧
        ∀ item ∈ items, ∃ found, Finds tree base item found := by
  rw [watchChecks, findSome?_cons_eq_or, Option.or_eq_none_iff, List.findSome?_eq_none_iff,
    List.forall_mem_map, Check.fault?, patternsGiven]
  simp only [Check.fault?, faultOf?_eq_none_iff, matchesOf_eq_ok_iff]
  cases watchGiven v with
  | null => simp [itemsOf]
  | list items => simp [itemsOf]
  | bool | int | float | text | map | other => simp

/-- No check finds a fault exactly if the root is what a configuration must be. -/
theorem findSome?_checks_eq_none_iff :
    (checks v).findSome? (Check.fault? tree base v) = none ↔ Acceptable tree base v := by
  rw [checks, findSome?_cons_eq_or, findSome?_cons_eq_or, List.findSome?_append,
    List.findSome?_append, List.findSome?_append, findSome?_cons_eq_or, List.findSome?_singleton]
  simp only [Option.or_eq_none_iff, findSome?_debounceChecks_eq_none_iff,
    findSome?_watchChecks_eq_none_iff]
  constructor
  · rintro ⟨-, hpresent, hseconds, hentries, hwatch, hlang, hdir⟩
    obtain ⟨write, hwrite⟩ : ∃ write, member? "write" v = some write := by
      simpa [Check.fault?, Option.isSome_iff_exists] using hpresent
    obtain ⟨items, rfl, hne, hitems⟩ := (findSome?_writeChecks_eq_none_iff hwrite).mp hentries
    obtain ⟨members, hv, hlist⟩ := member?_eq_some_iff.mp hwrite
    exact ⟨⟨members, items, hv, hlist, hne, hitems⟩, hseconds, hwatch,
      faultOf?_textOf_eq_none_iff.mp hlang, faultOf?_textOf_eq_none_iff.mp hdir⟩
  · rintro ⟨⟨members, items, rfl, hlist, hne, hitems⟩, hseconds, hwatch, hlang, hdir⟩
    have hwrite : member? "write" (.map members) = some (.list items) :=
      member?_eq_some_iff.mpr ⟨members, rfl, hlist⟩
    refine ⟨rfl, ?_, hseconds, ?_, hwatch, faultOf?_textOf_eq_none_iff.mpr hlang,
      faultOf?_textOf_eq_none_iff.mpr hdir⟩
    · simp [Check.fault?, hwrite]
    · exact (findSome?_writeChecks_eq_none_iff hwrite).mpr ⟨items, rfl, hne, hitems⟩

/-- A root is a configuration exactly if it is what one must be. -/
theorem exists_ofValue_iff (tree : FileTree) (base : Path) (v : Value) :
    (∃ config, ofValue tree base v = .ok config) ↔ Acceptable tree base v := by
  rw [← faultOf?_eq_none_iff, faultOf?_ofValue, findSome?_checks_eq_none_iff]

/-! ### The configuration that a value stands for -/

/-- The pair of paths that an item stands for, seen from a base. -/
def Names (base : Path) (item : Value) (pair : Path × Path) : Prop :=
  ∃ members src dst s t, item = .map members ∧ valueOf? "src" members = some src ∧
    valueOf? "dst" members = some dst ∧ src.asText? = some s ∧ dst.asText? = some t ∧
    pair = (base.join (.ofText s), base.join (.ofText t))

/-- The configuration that a root stands for. -/
structure Describes (tree : FileTree) (base : Path) (v : Value) (config : Config) : Prop where
  /-- For each source the last destination, in the order in which the sources come first. -/
  pairs : ∃ pairs, List.Forall₂ (Names base) (entriesGiven v) pairs ∧
    config.pairs = Table.latest pairs
  /-- Each path that is watched is there once. -/
  nodup : config.watch.Nodup
  /-- The paths that are watched are those that match a pattern. -/
  watch : ∀ path, path ∈ config.watch ↔
    ∃ item ∈ patternsGiven v, ∃ found, Finds tree base item found ∧ path ∈ found
  /-- The seconds. -/
  debounce : Config.seconds (debounceGiven v) = .ok config.debounce
  /-- The language. -/
  lang : (langGiven v).asText? = some config.frame.lang
  /-- The direction. -/
  dir : (dirGiven v).asText? = some config.frame.dir

theorem names_of_pairOf {item : Value} {pair : Path × Path} (h : pairOf base item = .ok pair) :
    Names base item pair := by
  unfold pairOf at h
  split at h
  · rename_i src dst hsides
    obtain ⟨members, hitem, hsrc, hdst⟩ := sidesOf?_eq_some_iff.mp hsides
    obtain ⟨s, hs, h⟩ := bind_eq_ok_iff.mp h
    obtain ⟨t, ht, h⟩ := bind_eq_ok_iff.mp h
    exact ⟨members, src, dst, s, t, hitem, hsrc, hdst, textOf_eq_ok_iff.mp hs,
      textOf_eq_ok_iff.mp ht, (Except.ok.inj h).symm⟩
  · exact absurd h (by simp)

theorem pairsOf_eq_ok {write : Value} {table : Pairs} (h : pairsOf base write = .ok table) :
    ∃ items pairs, write = .list items ∧ items.mapM (pairOf base) = .ok pairs ∧
      table = Table.ofList pairs := by
  cases write with
  | list items =>
    obtain ⟨pairs, hpairs, h⟩ := bind_eq_ok_iff.mp h
    split at h
    · exact absurd h (by simp)
    · exact ⟨items, pairs, rfl, hpairs, (Except.ok.inj h).symm⟩
  | null | bool | int | float | text | map | other => exact absurd h (by simp [pairsOf])

theorem latest_of_pairsOf {write : Value} {table : Pairs} (h : pairsOf base write = .ok table) :
    ∃ pairs, List.Forall₂ (Names base) (itemsOf write) pairs ∧ table = Table.latest pairs := by
  obtain ⟨items, pairs, rfl, hpairs, htable⟩ := pairsOf_eq_ok h
  have hnames := (forall₂_of_mapM hpairs).imp fun item pair => names_of_pairOf
  exact ⟨pairs, hnames, htable.trans (Table.ofList_eq_latest pairs)⟩

theorem mem_of_watchOf {value : Value} {watch : List Path}
    (h : watchOf tree base (some value) = .ok watch) :
    watch.Nodup ∧ ∀ path, path ∈ watch ↔
      ∃ item ∈ itemsOf value, ∃ found, Finds tree base item found ∧ path ∈ found := by
  cases value with
  | null =>
    obtain rfl := Except.ok.inj h
    simp [itemsOf]
  | list items =>
    obtain ⟨found, hfound, h⟩ := bind_eq_ok_iff.mp h
    obtain rfl := Except.ok.inj h
    refine ⟨Table.nodup_eraseDups _, fun path => ?_⟩
    simp only [List.mem_eraseDups, List.mem_flatten, mem_iff_of_mapM hfound, matchesOf_eq_ok_iff,
      itemsOf]
    constructor
    · rintro ⟨paths, ⟨item, hitem, hpaths⟩, hpath⟩
      exact ⟨item, hitem, paths, hpaths, hpath⟩
    · rintro ⟨item, hitem, paths, hpaths, hpath⟩
      exact ⟨paths, ⟨item, hitem, hpaths⟩, hpath⟩
  | bool | int | float | text | map | other => exact absurd h (by simp [watchOf])

/-- All that goes into a configuration. -/
theorem ofEntries_eq_ok {config : Config} (h : ofEntries tree base members = .ok config) :
    ∃ write, valueOf? "write" members = some write ∧
      debounceOf members = .ok config.debounce ∧ pairsOf base write = .ok config.pairs ∧
      watchOf tree base (valueOf? "watch" members) = .ok config.watch ∧
      textOrDefault "lang" ({} : Frame).lang members = .ok config.frame.lang ∧
      textOrDefault "dir" ({} : Frame).dir members = .ok config.frame.dir := by
  unfold ofEntries at h
  split at h
  · exact absurd h (by simp)
  · rename_i write hwrite
    obtain ⟨debounce, hdebounce, h⟩ := bind_eq_ok_iff.mp h
    obtain ⟨pairs, hpairs, h⟩ := bind_eq_ok_iff.mp h
    obtain ⟨watch, hwatch, h⟩ := bind_eq_ok_iff.mp h
    obtain ⟨lang, hlang, h⟩ := bind_eq_ok_iff.mp h
    obtain ⟨dir, hdir, h⟩ := bind_eq_ok_iff.mp h
    obtain rfl := Except.ok.inj h
    exact ⟨write, hwrite, hdebounce, hpairs, hwatch, hlang, hdir⟩

theorem members?_of_ofValue {config : Config} (h : ofValue tree base v = .ok config) :
    ∃ members, members? v = some members ∧ ofEntries tree base members = .ok config := by
  cases v with
  | null => exact ⟨[], rfl, h⟩
  | map members => exact ⟨members, rfl, h⟩
  | bool | int | float | text | list | other => exact absurd h (by simp [ofValue])

theorem describes_of_ofValue {config : Config} (h : ofValue tree base v = .ok config) :
    Describes tree base v config := by
  obtain ⟨members, hmembers, h⟩ := members?_of_ofValue h
  obtain ⟨write, hwrite, hdebounce, hpairs, hwatch, hlang, hdir⟩ := ofEntries_eq_ok h
  rw [debounceOf_eq hmembers] at hdebounce
  rw [watchOf_eq hmembers] at hwatch
  rw [textOrDefault_eq hmembers, textOf_eq_ok_iff] at hlang hdir
  have hentries : entriesGiven v = itemsOf write := by
    rw [entriesGiven, member?_eq hmembers, hwrite]
    rfl
  obtain ⟨d, hd, hdebounce⟩ := bind_eq_ok_iff.mp hdebounce
  obtain ⟨hnodup, hmem⟩ := mem_of_watchOf hwatch
  refine ⟨hentries ▸ latest_of_pairsOf hpairs, hnodup, hmem, ?_, hlang, hdir⟩
  split at hdebounce
  · exact absurd hdebounce (by simp)
  · rw [hd, hdebounce]

/-- The paths that are watched do not depend on the order of the patterns. -/
theorem Describes.watch_perm {other : Config} {w : Value} {config : Config}
    (h : Describes tree base v config) (hother : Describes tree base w other)
    (hsame : ∀ item, item ∈ patternsGiven w ↔ item ∈ patternsGiven v) :
    other.watch.Perm config.watch := by
  refine (List.perm_ext_iff_of_nodup hother.nodup h.nodup).mpr fun path => ?_
  rw [hother.watch, h.watch]
  simp only [hsame]

theorem load_eq_ofValue {read : Yaml.Reader} {path : Path} {t : Text}
    (ht : tree.readText path = .ok t) (hv : read t = .ok v) :
    load tree path read = ofValue tree path.parent v := by
  simp only [load, ht, hv, Except.mapError, bind, Except.bind]

/-- **Which files are configurations.** If a reader, whichever it is, finds a value in a file, the
file is read as a configuration exactly if the value is acceptable: it is a mapping with a list of things to be written that is not
empty and names a source and a destination each time, its seconds are a number and not zero or less,
what is to be watched is nothing or a list of patterns that can be looked for, and no integer that
is to be a text has more than 4300 digits. Otherwise the fault is that of the first check that finds
one. The configuration has each source once, in the order in which they come first, with its last
destination, and all paths that match a pattern, whatever the order of the patterns. -/
theorem load_accepts {read : Yaml.Reader} {path : Path} {t : Text}
    (ht : tree.readText path = .ok t) (hv : read t = .ok v) :
    ((∃ config, load tree path read = .ok config) ↔ Acceptable tree path.parent v) ∧
      (∀ fault, load tree path read = .error fault ↔
        (checks v).findSome? (Check.fault? tree path.parent v) = some fault) ∧
      ∀ config, load tree path read = .ok config → Describes tree path.parent v config ∧
        ∀ w other, ofValue tree path.parent w = .ok other →
          (∀ item, item ∈ patternsGiven w ↔ item ∈ patternsGiven v) →
          other.watch.Perm config.watch := by
  rw [load_eq_ofValue ht hv]
  refine ⟨exists_ofValue_iff tree path.parent v, fun fault => ?_, fun config hconfig => ?_⟩
  · rw [← faultOf?_eq_some_iff, faultOf?_ofValue]
  · have hdescribes := describes_of_ofValue hconfig
    refine ⟨hdescribes, fun w other hother hsame => ?_⟩
    exact hdescribes.watch_perm (describes_of_ofValue hother) hsame

/-- A source is listed in two spellings, the seconds are spelled with an underscore, and two
patterns match the same file. -/
theorem load_accepts_spelled :
    let tree : FileTree :=
      ⟨[], [([raw "y"], .file (encode ("write:\n- src: a\n  dst: b\n- src: ./a\n  dst: c\n" ++
          "watch: ['*', a]\ndebounce: '1_0e-1'\n").toList)),
        ([raw "a"], .file [])]⟩
    let path := Path.ofText (raw "y")
    ∃ t v config, tree.readText path = .ok t ∧ Yaml.load t = .ok v ∧
      load tree path = .ok config ∧ Acceptable tree path.parent v ∧
      Describes tree path.parent v config ∧
      config.pairs = [(.ofText (raw "a"), .ofText (raw "c"))] ∧
      config.watch = [.ofText (raw "y"), .ofText (raw "a")] := by
  intro tree path
  have hload : load tree path = .ok
      { pairs := [(.ofText (raw "a"), .ofText (raw "c"))]
        watch := [.ofText (raw "y"), .ofText (raw "a")]
        debounce := .ofNat 1, frame := {} } :=
    toOption_eq_some_iff.mp (by decide +kernel)
  obtain ⟨t, ht, h⟩ := bind_eq_ok_iff.mp hload
  obtain ⟨v, hv, -⟩ := bind_eq_ok_iff.mp h
  rw [mapError_eq_ok_iff] at ht hv
  obtain ⟨haccepts, -, hdescribes⟩ := load_accepts ht hv
  exact ⟨t, v, _, ht, hv, hload, haccepts.mp ⟨_, hload⟩, (hdescribes _ hload).1, rfl, rfl⟩

theorem ofEntries_langMembers (tree : FileTree) (base : Path) {n : Int}
    (h : ¬ Value.Writable (.int n)) :
    ofEntries tree base (Yaml.langMembers n) = .error .integerTooLong := by
  have hwrite : valueOf? "write" (Yaml.langMembers n) = some (.list [Yaml.langItem]) := rfl
  have hdebounce : debounceOf (Yaml.langMembers n) = .ok defaultDebounce := rfl
  have hpairs : pairsOf base (.list [Yaml.langItem]) =
      .ok [(base.join (.ofText (raw "a")), base.join (.ofText (raw "b")))] := rfl
  have hwatch : watchOf tree base (valueOf? "watch" (Yaml.langMembers n)) = .ok [] := rfl
  have hlang : textOrDefault "lang" ({} : Frame).lang (Yaml.langMembers n) =
      .error .integerTooLong := by
    have hgiven : valueOf? "lang" (Yaml.langMembers n) = some (.int n) := rfl
    rw [textOrDefault, hgiven]
    exact textOf_of_not_writable h
  simp only [ofEntries, hwrite, hdebounce, hpairs, hwatch, hlang, bind, Except.bind]

/-- A file that is refused for an integer as the language. -/
theorem load_langDocument {digits : Text} (hdigits : ∀ c ∈ digits, Yaml.IsHexDigit c)
    (hne : digits ≠ []) (hlong : ¬ Value.Writable (.int (Yaml.hexadecimal digits))) :
    load ⟨[], [([raw "y"], .file (encode (Yaml.langDocument digits)))]⟩ (.ofText (raw "y")) =
      .error .integerTooLong := by
  rw [load_eq_ofValue (Yaml.readText_langDocument hdigits) (Yaml.load_langDocument hdigits hne)]
  exact ofEntries_langMembers _ _ hlong

theorem not_writable_hexadecimal {k : Nat} (h : Yaml.maxDecimalDigits ≤ 6 * k) :
    ¬ Value.Writable (.int (Yaml.hexadecimal ('1' :: List.replicate (5 * k) '0'))) := by
  rw [Value.writable_int, Int.natAbs_natCast, Yaml.hexadecimal_replicate_zero, Nat.not_lt]
  exact (Nat.pow_le_pow_right (by decide) h).trans (Yaml.ten_pow_le_sixteen_pow k)

/-- The language is an integer of 4001 hexadecimal digits. The file is refused, though its value is
a mapping with one thing to be written, and neither seconds nor patterns are given. -/
theorem load_refuses_long_lang :
    let digits : Text := '1' :: List.replicate 4000 '0'
    let tree : FileTree := ⟨[], [([raw "y"], .file (encode (Yaml.langDocument digits)))]⟩
    let path := Path.ofText (raw "y")
    ∃ t members items, tree.readText path = .ok t ∧ Yaml.load t = .ok (.map members) ∧
      valueOf? "write" members = some (.list items) ∧ items ≠ [] ∧
      (∀ item ∈ items, (sidesOf? item).isSome) ∧ valueOf? "debounce" members = none ∧
      valueOf? "watch" members = none ∧ load tree path = .error .integerTooLong := by
  have hdigits : ∀ c ∈ '1' :: List.replicate 4000 '0', Yaml.IsHexDigit c := by
    intro c hc
    rcases List.mem_cons.mp hc with rfl | hc
    · rfl
    · rw [List.eq_of_mem_replicate hc]
      rfl
  have hne : '1' :: List.replicate 4000 '0' ≠ [] := List.cons_ne_nil _ _
  have hlong := not_writable_hexadecimal (k := 800) (by decide)
  refine ⟨_, _, [Yaml.langItem], Yaml.readText_langDocument hdigits,
    Yaml.load_langDocument hdigits hne, rfl, by simp, ?_, rfl, rfl,
    load_langDocument hdigits hne hlong⟩
  intro item hitem
  rw [List.mem_singleton.mp hitem]
  rfl

end Config

end LivePage
