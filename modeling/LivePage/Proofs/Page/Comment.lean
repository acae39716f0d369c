/-
What an unknown command puts on the page.

An unknown command stands on the page as a comment that names it. The name is
the first token of the line as it is written, so it can hold the mark that ends
a comment:

* `IsOneComment` — a text that opens a comment and ends it at its last
  character, not before;
* `exists_first_isInfix` — a text that holds a mark has a first place of it;
* `unknown_isOneComment_iff` — the markup of an unknown command is one comment
  exactly if the name does not hold the end mark, and otherwise what the name
  has behind its first end mark is shown.

Design notes: the first end mark is given by what lies in front of it together
with the mark less its last character, as `--` may begin before the mark does.
-/
import LivePage.Proofs.Page.Frame
import LivePage.Proofs.Page.Scripts

namespace LivePage

/-- The mark that ends a comment. -/
def commentEnd : Text :=
  "-->".toList

/-- The text is a comment that ends with the text, and not before. -/
structure IsOneComment (t : Text) : Prop where
  opens : "<!--".toList <+: t
  closes : commentEnd <:+ t
  once : ¬ commentEnd <:+: t.dropLast

/-- Nothing but the empty text can follow a comment within it. -/
theorem IsOneComment.append_iff {comment : Text} (h : IsOneComment comment) (shown : Text) :
    IsOneComment (comment ++ shown) ↔ shown = [] := by
  constructor
  · intro hboth
    by_contra hshown
    refine hboth.once ?_
    rw [List.dropLast_append_of_ne_nil hshown]
    exact h.closes.isInfix.trans (List.prefix_append _ _).isInfix
  · rintro rfl
    rw [List.append_nil]
    exact h

/-- The first place of a mark in a text: no place of it ends earlier. -/
theorem exists_first_isInfix {α : Type} {mark t : List α} (hmark : mark ≠ []) (h : mark <:+: t) :
    ∃ front back, t = front ++ mark ++ back ∧ ¬ mark <:+: front ++ mark.dropLast := by
  induction t with
  | nil => exact absurd (List.infix_nil.mp h) hmark
  | cons c t ih =>
    by_cases hfirst : mark <+: c :: t
    · obtain ⟨back, hback⟩ := hfirst
      refine ⟨[], back, hback.symm, ?_⟩
      intro hinfix
      have hlength : mark.length ≤ mark.dropLast.length := hinfix.length_le
      have hpos : 0 < mark.length := List.length_pos_iff.mpr hmark
      rw [List.length_dropLast] at hlength
      omega
    · obtain ⟨front, back, rfl, hfront⟩ := ih ((List.infix_cons_iff.mp h).resolve_left hfirst)
      refine ⟨c :: front, back, rfl, ?_⟩
      intro hinfix
      rcases List.infix_cons_iff.mp hinfix with hbegins | hinfix
      · -- a mark here would be a mark at the front of the whole text
        have hshorter : mark.dropLast <+: mark ++ back :=
          (List.dropLast_prefix mark).trans (List.prefix_append mark back)
        refine hfirst (hbegins.trans ?_)
        rw [List.append_assoc]
        exact (List.prefix_append_right_inj (c :: front)).mpr hshorter
      · exact hfront hinfix

/-- The comment of an unknown command is one comment up to the first end mark. -/
theorem isOneComment_named {inside : Text} (h : ¬ commentEnd <:+: inside ++ commentEnd.dropLast) :
    IsOneComment ("<!-- Moe: ".toList ++ inside ++ commentEnd) := by
  refine ⟨?_, List.suffix_append _ _, ?_⟩
  · rw [List.append_assoc]
    exact List.IsPrefix.trans (by decide +kernel) (List.prefix_append _ _)
  · have hopening : "<!-- Moe: ".toList = "<!-- Moe:".toList ++ [' '] := by decide +kernel
    rw [List.dropLast_append_of_ne_nil (by decide), hopening, List.append_assoc, List.append_assoc]
    intro hinfix
    rcases isInfix_append_cons (by decide) hinfix with hfront | hinside
    · exact absurd hfront (by decide +kernel)
    · exact h hinside

/-- The markup of an unknown command. -/
theorem Session.step_markup_unknown (s : Session) {line : Text} {name : Token} {rest : List Token}
    (hline : IsCommandLine line) (htokens : tokenize (commandPart line) = name :: rest)
    (hunknown : Command.ofName? name.text = none) :
    (s.step line).2.markup =
      "<!-- Moe: ".toList ++ (name.text ++ [' ']) ++ commentEnd ++ ['\n'] := by
  have hspace : " -->".toList = [' '] ++ commentEnd := by decide +kernel
  rw [step, hline.ofText, htokens, Line.ofTokens, runLine, perform, hunknown]
  show markupLine ("<!-- Moe: ".toList ++ name.text ++ " -->".toList) = _
  rw [markupLine, if_neg (by simp), hspace]
  simp only [List.append_assoc]

/-- **An unknown command is contained exactly if its name does not end the comment.** On any
session the markup of a line whose first token names no command is one comment, with something
shown behind it exactly if the token holds the mark that ends a comment. Then the comment ends with
the first such mark, and the rest of the token is shown. -/
theorem unknown_isOneComment_iff (s : Session) (line : Text) {name : Token} {rest : List Token}
    (hline : IsCommandLine line) (htokens : tokenize (commandPart line) = name :: rest)
    (hunknown : Command.ofName? name.text = none) :
    ∃ comment shown, (s.step line).2.markup = comment ++ shown ++ ['\n'] ∧ IsOneComment comment ∧
      (IsOneComment (comment ++ shown) ↔ ¬ commentEnd <:+: name.text) ∧
      (commentEnd <:+: name.text → ∃ front back, name.text = front ++ commentEnd ++ back ∧
        comment = "<!-- Moe: ".toList ++ front ++ commentEnd ∧ shown = back ++ [' '] ++ commentEnd)
    := by
  rw [s.step_markup_unknown hline htokens hunknown]
  by_cases hends : commentEnd <:+: name.text
  · obtain ⟨front, back, hname, hfirst⟩ := exists_first_isInfix (by decide) hends
    have hcomment := isOneComment_named hfirst
    refine ⟨_, back ++ [' '] ++ commentEnd, ?_, hcomment, ?_, ?_⟩
    · rw [hname]
      simp only [List.append_assoc]
    · rw [hcomment.append_iff]
      exact iff_of_false (by simp) (not_not_intro hends)
    · intro _
      exact ⟨front, back, hname, rfl, rfl⟩
  · have hinside : ¬ commentEnd <:+: (name.text ++ [' ']) ++ commentEnd.dropLast := by
      intro hinfix
      rw [List.append_assoc] at hinfix
      rcases isInfix_append_cons (by decide) hinfix with hfront | hback
      · exact hends hfront
      · exact absurd hback (by decide)
    have hcomment := isOneComment_named hinside
    refine ⟨_, [], ?_, hcomment, ?_, fun h => absurd h hends⟩
    · rw [List.append_nil]
    · rw [hcomment.append_iff]
      exact iff_of_true rfl hends

/-- Dashes at the end of a name do not end the comment, with the blank behind them. -/
theorem unknown_isOneComment_iff_dashes :
    ∃ comment shown, (Session.step {} "Frob-- \x7b".toList).2.markup = comment ++ shown ++ ['\n'] ∧
      IsOneComment (comment ++ shown) := by
  obtain ⟨comment, shown, hmarkup, -, hone, -⟩ :=
    unknown_isOneComment_iff {} "Frob-- \x7b".toList
      ⟨by decide, by decide +kernel, by decide +kernel, by decide +kernel⟩
      (show _ = ⟨"Frob--".toList⟩ :: [] by decide +kernel) (by decide +kernel)
  exact ⟨comment, shown, hmarkup, hone.mpr (by decide +kernel)⟩

/-- A name that ends the comment at once: an element of the page stands behind it. -/
theorem unknown_element_shown :
    (compile "--><b>hi</b>".toList).body = "<!-- Moe: --><b>hi</b> -->\n".toList ∧
      Command.ofName? "--><b>hi</b>".toList = none ∧
      ¬ IsOneComment "<!-- Moe: --><b>hi</b> -->".toList := by
  refine ⟨by decide +kernel, by decide +kernel, ?_⟩
  intro hone
  exact hone.once (by decide +kernel)

end LivePage
