/-
Which styles an element gets.

Style lines fill a table that the next element takes whole. So an element
has the styles of the lines since the element before it:

* `Session.run_styles` — what is pending behind some lines are the declarations
  of the style lines behind the last element among them: one for each
  property, where the property first occurs, with its last value;
* `openings_style_eq_declarations` — these stand in the opening tag of the next
  element of the body, and no other line takes or changes them. The name in a
  style line has no influence.

Design notes: between two elements only style lines change the table
(`Session.step_styles`), so what is pending is a fold over these lines. The
lines behind the last element are read from the end (`sinceElement`), and the
induction adds lines there.
-/
import Mathlib.Data.List.DropRight
import LivePage.Proofs.Page.Opening
import LivePage.Proofs.Table

namespace LivePage

/-- The declarations of the style lines among some lines: one for each property, in the order of
first occurrence, with the last value. -/
def declarations (lines : List Text) : Table Text Text :=
  Table.latest (lines.filterMap styleLine?)

/-- Whether a logical line places an element, and so takes the pending styles. -/
def takesStyles (line : Text) : Bool :=
  (Line.ofText line).places

/-- The lines behind the last one that places an element. -/
def sinceElement (lines : List Text) : List Text :=
  lines.rtakeWhile fun line => !takesStyles line

/-- What is pending behind some lines that place no element. -/
def pendingStyles (t : Table Text Text) (lines : List Text) : Table Text Text :=
  (lines.filterMap styleLine?).foldl (fun t entry => t.insert entry.1 entry.2) t

theorem pendingStyles_append (t : Table Text Text) (lines others : List Text) :
    pendingStyles t (lines ++ others) = pendingStyles (pendingStyles t lines) others := by
  unfold pendingStyles
  rw [List.filterMap_append, List.foldl_append]

theorem pendingStyles_nil (lines : List Text) : pendingStyles [] lines = declarations lines :=
  Table.ofList_eq_latest _

namespace Session

/-- A line that places no element adds its style, if it is a style line, and leaves the others. -/
theorem step_styles {line : Text} (h : takesStyles line = false) (s : Session) :
    (s.step line).1.styles = pendingStyles s.styles [line] := by
  unfold step
  rw [runLine_styles]
  cases hstyle : styleLine? line with
  | some entry =>
    rw [Line.ofText_eq_style_iff.mpr (show styleLine? line = some (entry.1, entry.2) from hstyle)]
    simp [pendingStyles, hstyle, stylesAfter]
  | none =>
    cases hline : Line.ofText line with
    | style property value =>
      rw [Line.ofText_eq_style_iff.mp hline] at hstyle
      exact absurd hstyle (by simp)
    | _ =>
      rw [takesStyles, hline] at h
      simp [pendingStyles, hstyle, stylesAfter, h]

/-- A line that places an element leaves no style behind. -/
theorem step_styles_of_takesStyles {line : Text} (h : takesStyles line = true) (s : Session) :
    (s.step line).1.styles = [] := by
  unfold step
  rw [runLine_styles]
  unfold takesStyles at h
  cases hline : Line.ofText line with
  | style property value =>
    rw [hline] at h
    exact absurd h (by simp [Line.places, Line.command?])
  | _ =>
    rw [hline] at h
    simp [stylesAfter, h]

/-- What is pending behind some lines are the declarations since the last element. -/
theorem run_styles (lines : List Text) :
    (Session.run {} lines).1.styles = declarations (sinceElement lines) := by
  induction lines using List.reverseRecOn with
  | nil => rfl
  | append_singleton lines line ih =>
    rw [run_append_singleton, sinceElement]
    by_cases htakes : takesStyles line = true
    · rw [step_styles_of_takesStyles htakes, List.rtakeWhile_concat_neg _ _ _ (by simp [htakes])]
      rfl
    · have hfalse : takesStyles line = false := by simpa using htakes
      rw [step_styles hfalse, ih, List.rtakeWhile_concat_pos _ _ _ (by simp [hfalse]),
        ← pendingStyles_nil, ← pendingStyles_nil, pendingStyles_append]
      rfl

/-- A line that is neither a style line nor places an element leaves the styles alone. -/
theorem step_styles_of_neither {line : Text} (htakes : takesStyles line = false)
    (hstyle : styleLine? line = none) (s : Session) : (s.step line).1.styles = s.styles := by
  rw [step_styles htakes]
  simp [pendingStyles, hstyle]

end Session

/-- Only what stands behind the name counts in a style line. -/
theorem styleLine?_name {name : Text} (hname : name ≠ []) (hword : ∀ c ∈ name, isWord c = true)
    (rest : Text) :
    styleLine? (name ++ '.' :: rest) =
      if (rest.takeWhile isPropertyChar).isEmpty then none
      else
        match (rest.dropWhile isPropertyChar).dropWhile isBlank with
        | '=' :: value =>
          some (rest.takeWhile isPropertyChar, stripQuotes (value.dropWhile isBlank))
        | _ => none := by
  have hpoint : isWord '.' = false := by decide
  have htake : (name ++ '.' :: rest).takeWhile isWord = name := by
    rw [List.takeWhile_append_of_pos hword, List.takeWhile_cons_of_neg (by simp [hpoint]),
      List.append_nil]
  have hdrop : (name ++ '.' :: rest).dropWhile isWord = '.' :: rest := by
    rw [List.dropWhile_append_of_pos hword, List.dropWhile_cons_of_neg (by simp [hpoint])]
  unfold styleLine?
  rw [htake, hdrop, if_neg (by simpa using hname)]
  rfl

/-- **An element has the styles of the lines since the element before it.** Behind the markup of
the lines before it, the body goes on with the opening tag of the element, and its style is made of
the style lines since the last element. A line of another kind neither takes nor changes a style,
and the name of a style line plays no part. -/
theorem openings_style_eq_declarations (source : Text) :
    (∀ (before : List Text) (line : Text) (after : List Text),
        logicalLines source = before ++ line :: after → takesStyles line = true →
        ∃ tag text, (Line.ofText line).tag? = some tag ∧
          (compile source).body = (Session.run {} before).2.markup ++ text ∧
          TagFront tag ((Session.run {} before).1.ownId (.ofText line))
            (declarationText (declarations (sinceElement before))) text) ∧
      (∀ (s : Session) (line : Text), takesStyles line = false → styleLine? line = none →
        (s.step line).1.styles = s.styles) ∧
      ∀ name other rest : Text, name ≠ [] → other ≠ [] →
        (∀ c ∈ name, isWord c = true) → (∀ c ∈ other, isWord c = true) →
          styleLine? (name ++ '.' :: rest) = styleLine? (other ++ '.' :: rest) := by
  refine ⟨?_, fun s line htakes hstyle => s.step_styles_of_neither htakes hstyle, ?_⟩
  · intro before line after hlines htakes
    obtain ⟨tag, htag⟩ := Line.exists_tag? htakes
    obtain ⟨text, hbody, hfront⟩ := tagFront_compile hlines htag
    rw [Session.run_styles] at hfront
    exact ⟨tag, text, htag, hbody, hfront⟩
  · intro name other rest hname hother hword hword'
    rw [styleLine?_name hname hword, styleLine?_name hother hword']

/-- Behind a first element, two style lines, the second of which overwrites the first, an empty
stretch that leaves them alone, and a row that takes them. -/
theorem openings_style_eq_declarations_row :
    (compile "Text a\nCard.gap = 1\nRow.gap = '2'\nSpace\nRow".toList).body =
        ("<p id=\"moe-ref-1\" style=\"\" class=\"moe-element moe-text\">a</p>\n" ++
          "<div style=\"height: 20px; width: 100%;\"></div>\n" ++
          "<div id=\"moe-ref-2\" class=\"moe-row\" style=\"gap:2;\"></div>\n").toList ∧
      (∃ tag text, (Line.ofText "Row".toList).tag? = some tag ∧
        (compile "Text a\nCard.gap = 1\nRow.gap = '2'\nSpace\nRow".toList).body =
          ("<p id=\"moe-ref-1\" style=\"\" class=\"moe-element moe-text\">a</p>\n" ++
            "<div style=\"height: 20px; width: 100%;\"></div>\n").toList ++ text ∧
        TagFront tag "moe-ref-2".toList "gap:2;".toList text) ∧
      (Session.step { styles := [("gap".toList, ['2'])] } "Space".toList).1.styles =
        [("gap".toList, ['2'])] ∧
      styleLine? "Card.gap = 1".toList = styleLine? "Row.gap = 1".toList := by
  obtain ⟨hstyle, hother, hname⟩ :=
    openings_style_eq_declarations "Text a\nCard.gap = 1\nRow.gap = '2'\nSpace\nRow".toList
  refine ⟨by decide +kernel, ?_, hother _ "Space".toList (by decide +kernel) (by decide +kernel),
    ?_⟩
  · have hmarkup : (Session.run {} ["Text a".toList, "Card.gap = 1".toList,
        "Row.gap = '2'".toList, "Space".toList]).2.markup =
          ("<p id=\"moe-ref-1\" style=\"\" class=\"moe-element moe-text\">a</p>\n" ++
            "<div style=\"height: 20px; width: 100%;\"></div>\n").toList := by
      decide +kernel
    have hid : (Session.run {} ["Text a".toList, "Card.gap = 1".toList, "Row.gap = '2'".toList,
        "Space".toList]).1.ownId (.ofText "Row".toList) = "moe-ref-2".toList := by
      decide +kernel
    have hdeclared : declarationText (declarations (sinceElement ["Text a".toList,
        "Card.gap = 1".toList, "Row.gap = '2'".toList, "Space".toList])) = "gap:2;".toList := by
      decide +kernel
    rw [← hmarkup, ← hid, ← hdeclared]
    exact hstyle _ "Row".toList [] (by decide +kernel) (by decide +kernel)
  · exact hname "Card".toList "Row".toList "gap = 1".toList (by decide) (by decide)
      (List.all_eq_true.mp (by decide)) (List.all_eq_true.mp (by decide))

end LivePage
