/-
How a logical line is read.

The readings of a line are told apart by tests on its text, made in a
fixed order. The statements here give each reading its test, so that what
is said of readings can be said of the text.

* `Line.ofText_eq_style_iff` — style lines are the lines of the style pattern;
* `Line.ofText_eq_close_iff` — only a lone `}` closes a block;
* `Line.opens_ofText` — a block begins with a line that ends with `{` and is
  neither a comment nor a style line.
-/
import LivePage.Source.Line

namespace LivePage

/-- Whether a block begins with a logical line. -/
def startsBlock (line : Text) : Bool :=
  !(line.isEmpty || isComment line) && (styleLine? line).isNone && opensBlock line

/-- Whether a block begins with the line that was read. -/
def Line.opens : Line → Bool
  | .bare opens | .command _ _ opens => opens
  | .skip | .style _ _ | .close => false

/-- A style line is no comment: it begins with a word character. -/
theorem styleLine?_of_isComment {line : Text} (h : isComment line = true) :
    styleLine? line = none := by
  match line with
  | [] => rfl
  | c :: rest =>
    have hc : c = '#' := by simpa [isComment] using h
    subst hc
    have hword : isWord '#' = false := by decide
    simp [styleLine?, hword]

theorem styleLine?_of_skip {line : Text} (h : (line.isEmpty || isComment line) = true) :
    styleLine? line = none := by
  rcases Bool.or_eq_true_iff.mp h with hempty | hcomment
  · rw [List.isEmpty_iff.mp hempty]
    rfl
  · exact styleLine?_of_isComment hcomment

namespace Line

@[simp] theorem opens_ofTokens (opens : Bool) (tokens : List Token) :
    (Line.ofTokens opens tokens).opens = opens := by
  cases tokens <;> rfl

theorem ofTokens_ne_close (opens : Bool) (tokens : List Token) :
    Line.ofTokens opens tokens ≠ .close := by
  cases tokens <;> simp [Line.ofTokens]

theorem ofTokens_ne_style (opens : Bool) (tokens : List Token) (property value : Text) :
    Line.ofTokens opens tokens ≠ .style property value := by
  cases tokens <;> simp [Line.ofTokens]

/-- The lines that the style pattern matches are the style lines. -/
theorem ofText_eq_style_iff {line property value : Text} :
    Line.ofText line = .style property value ↔ styleLine? line = some (property, value) := by
  unfold Line.ofText
  by_cases hskip : (line.isEmpty || isComment line) = true
  · rw [if_pos hskip, styleLine?_of_skip hskip]
    simp
  · rw [if_neg hskip]
    cases hstyle : styleLine? line with
    | some entry => simp [Prod.ext_iff]
    | none =>
      by_cases hclose : line = ['}']
      · simp [hclose]
      · rw [if_neg hclose]
        simp [ofTokens_ne_style]

/-- Only a lone closing brace closes a block. -/
theorem ofText_eq_close_iff {line : Text} : Line.ofText line = .close ↔ line = ['}'] := by
  constructor
  · intro h
    unfold Line.ofText at h
    by_cases hskip : (line.isEmpty || isComment line) = true
    · rw [if_pos hskip] at h
      exact absurd h (by simp)
    · rw [if_neg hskip] at h
      cases hstyle : styleLine? line with
      | some entry =>
        rw [hstyle] at h
        exact absurd h (by simp)
      | none =>
        rw [hstyle] at h
        by_cases hclose : line = ['}']
        · exact hclose
        · simp only [if_neg hclose] at h
          exact absurd h (ofTokens_ne_close _ _)
  · rintro rfl
    decide

/-- A block begins with the lines whose text says so. -/
theorem opens_ofText (line : Text) : (Line.ofText line).opens = startsBlock line := by
  unfold Line.ofText startsBlock
  by_cases hskip : (line.isEmpty || isComment line) = true
  · rw [if_pos hskip, hskip]
    rfl
  · rw [if_neg hskip]
    cases hstyle : styleLine? line with
    | some entry => simp [Line.opens]
    | none =>
      by_cases hclose : line = ['}']
      · subst hclose
        decide
      · simp [hclose, hskip]

end Line

end LivePage
