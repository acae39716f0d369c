/-
Runs of logical lines.

A run is a chain of steps: its session is threaded from line to line and
its output is the outputs of the steps, one after the other.

* `Session.step_of_skip` — a blank line or a comment does nothing;
* `Session.run_append_fst`, `Session.run_append_markup`, `Session.run_append` — a
  run of two lists is two runs.
-/
import LivePage.Page.Compile

namespace LivePage

@[simp] theorem Output.markup_append (o p : Output) : (o ++ p).markup = o.markup ++ p.markup := rfl

@[simp] theorem Output.append_empty (o : Output) : o ++ {} = o := by
  show Output.mk (o.markup ++ []) (o.notices ++ []) = o
  rw [List.append_nil, List.append_nil]

theorem Output.append_assoc (o p q : Output) : o ++ p ++ q = o ++ (p ++ q) := by
  show Output.mk (o.markup ++ p.markup ++ q.markup) (o.notices ++ p.notices ++ q.notices) = _
  rw [List.append_assoc, List.append_assoc]
  rfl

namespace Session

theorem step_of_skip {line : Text} (h : (line.isEmpty || isComment line) = true) (s : Session) :
    s.step line = (s, {}) := by
  rw [step, Line.ofText, if_pos h]
  rfl

@[simp] theorem run_nil (s : Session) : s.run [] = (s, {}) := rfl

@[simp] theorem run_cons (s : Session) (line : Text) (rest : List Text) :
    s.run (line :: rest) =
      (((s.step line).1.run rest).1, (s.step line).2 ++ ((s.step line).1.run rest).2) := rfl

/-- The session after two lists is the session after the second, begun where the first ended. -/
theorem run_append_fst (s : Session) (before after : List Text) :
    (s.run (before ++ after)).1 = ((s.run before).1.run after).1 := by
  induction before generalizing s with
  | nil => rfl
  | cons line rest ih => exact ih (s.step line).1

theorem run_append_singleton (s : Session) (before : List Text) (line : Text) :
    (s.run (before ++ [line])).1 = ((s.run before).1.step line).1 := by
  rw [run_append_fst]
  rfl

/-- The markup of two lists, one after the other. -/
theorem run_append_markup (s : Session) (before after : List Text) :
    (s.run (before ++ after)).2.markup =
      (s.run before).2.markup ++ ((s.run before).1.run after).2.markup := by
  induction before generalizing s with
  | nil => rfl
  | cons line rest ih => simp [ih (s.step line).1]

theorem run_append (s : Session) (before after : List Text) :
    s.run (before ++ after) =
      (((s.run before).1.run after).1, (s.run before).2 ++ ((s.run before).1.run after).2) := by
  induction before generalizing s with
  | nil => rfl
  | cons line rest ih => rw [List.cons_append, run_cons, ih, run_cons, Output.append_assoc]

end Session

end LivePage
