/-
Values that can be made texts.

An integer is written in decimal digits only if it has at most 4300 of them, and
every value but a text is made a text by writing it out.

* `Value.Writable` — no integer in a value has more digits than are written;
* `Value.asText?_isSome_iff` — these are the values that can be made texts.

Design notes: showing a value goes through its lists and mappings by three
functions, so the statements about them are proved together, each by the cases of
its function.
-/
import Mathlib.Algebra.Ring.Nat
import LivePage.Yaml.Value

namespace LivePage.Yaml

namespace Value

/-- An integer stands somewhere in a value. -/
inductive Holds : Value → Int → Prop
  | int (n : Int) : Holds (.int n) n
  | item {items : List Value} {item : Value} {n : Int} :
      item ∈ items → item.Holds n → Holds (.list items) n
  | key {entries : List (Value × Value)} {entry : Value × Value} {n : Int} :
      entry ∈ entries → entry.1.Holds n → Holds (.map entries) n
  | value {entries : List (Value × Value)} {entry : Value × Value} {n : Int} :
      entry ∈ entries → entry.2.Holds n → Holds (.map entries) n

/-- No integer in the value has more digits than are written. -/
def Writable (v : Value) : Prop :=
  ∀ n, v.Holds n → n.natAbs < 10 ^ maxDecimalDigits

theorem writable_int {n : Int} : Writable (.int n) ↔ n.natAbs < 10 ^ maxDecimalDigits := by
  constructor
  · intro h
    exact h n (.int n)
  · rintro h _ ⟨⟩
    exact h

theorem writable_list {items : List Value} :
    Writable (.list items) ↔ ∀ item ∈ items, item.Writable := by
  constructor
  · intro h item hitem n hn
    exact h n (.item hitem hn)
  · rintro h n (_ | ⟨hitem, hn⟩)
    exact h _ hitem n hn

theorem writable_map {entries : List (Value × Value)} :
    Writable (.map entries) ↔ ∀ entry ∈ entries, entry.1.Writable ∧ entry.2.Writable := by
  constructor
  · intro h entry hentry
    exact ⟨fun n hn => h n (.key hentry hn), fun n hn => h n (.value hentry hn)⟩
  · intro h n hn
    cases hn with
    | key hentry hn => exact (h _ hentry).1 n hn
    | value hentry hn => exact (h _ hentry).2 n hn

theorem writable_of_not_holds {v : Value} (h : ∀ n, ¬ v.Holds n) : v.Writable := by
  intro n hn
  exact absurd hn (h n)

theorem integerText?_isSome_iff (n : Int) :
    (integerText? n).isSome = true ↔ n.natAbs < 10 ^ maxDecimalDigits := by
  have hpower : powerOf 10 (maxDecimalDigits : Int) = 10 ^ maxDecimalDigits := by
    generalize maxDecimalDigits = digits
    rfl
  unfold integerText?
  rw [hpower]
  split <;> simp [*]

mutual

/-- A value can be shown if its integers can be written. -/
theorem shown?_isSome_iff : ∀ v : Value, v.shown?.isSome = true ↔ v.Writable
  | .null => by simp [shown?, writable_of_not_holds (v := .null) nofun]
  | .bool b => by simp [shown?, writable_of_not_holds (v := .bool b) nofun]
  | .float d => by simp [shown?, writable_of_not_holds (v := .float d) nofun]
  | .text t => by simp [shown?, writable_of_not_holds (v := .text t) nofun]
  | .other kind shown t => by
    simp [shown?, writable_of_not_holds (v := .other kind shown t) nofun]
  | .int n => by rw [shown?, integerText?_isSome_iff, writable_int]
  | .list items => by
    rw [writable_list, ← shownItems?_isSome_iff items, shown?]
    cases shownItems? items <;> simp
  | .map entries => by
    rw [writable_map, ← shownEntries?_isSome_iff entries, shown?]
    cases shownEntries? entries <;> simp

theorem shownItems?_isSome_iff : ∀ items : List Value,
    (shownItems? items).isSome = true ↔ ∀ item ∈ items, item.Writable
  | [] => by simp [shownItems?]
  | [item] => by
    rw [shownItems?, shown?_isSome_iff item]
    simp
  | item :: next :: rest => by
    rw [List.forall_mem_cons, ← shown?_isSome_iff item, ← shownItems?_isSome_iff (next :: rest),
      shownItems?]
    · cases item.shown? <;> cases shownItems? (next :: rest) <;> simp
    · exact nofun

theorem shownEntries?_isSome_iff : ∀ entries : List (Value × Value),
    (shownEntries? entries).isSome = true ↔
      ∀ entry ∈ entries, entry.1.Writable ∧ entry.2.Writable
  | [] => by simp [shownEntries?]
  | [(key, value)] => by
    rw [List.forall_mem_singleton, ← shown?_isSome_iff key, ← shown?_isSome_iff value,
      shownEntries?]
    cases key.shown? <;> cases value.shown? <;> simp
  | (key, value) :: next :: rest => by
    rw [List.forall_mem_cons, ← shown?_isSome_iff key, ← shown?_isSome_iff value,
      ← shownEntries?_isSome_iff (next :: rest), shownEntries?]
    · cases key.shown? <;> cases value.shown? <;> cases shownEntries? (next :: rest) <;> simp
    · exact nofun

end

/-- A value can be made a text if its integers can be written. -/
theorem asText?_isSome_iff (v : Value) : v.asText?.isSome = true ↔ v.Writable := by
  rw [← shown?_isSome_iff]
  cases v with
  | text t => simp [asText?, shown?]
  | other kind shown t => simp [asText?, shown?]
  | null | bool | int | float | list | map => simp only [asText?, Option.isSome_map]

end Value

end LivePage.Yaml
