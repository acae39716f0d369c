/-
Quoted tokens and the literals that they become.

A token counts as quoted if a quote stands at each of its ends. Strings that
are written without a blank between them are one token, and the two quotes at
its ends may then belong to different strings:

* `isGlued_iff_mem` — between the quotes at the ends of a token there is another
  one exactly if the token has a string at each end;
* `Token.quoted_iff` — a quoted token is one string, or is glued in this way;
* `Session.setStatement_of_quoted` — a `Set` writes a quoted token into the script
  as it stands;
* `quoted_iff_isString_iff` — so the flag is right, and the literal in the script
  is one string, exactly if the token is not glued.

Design notes: the quotes of a token are paired within it, so two of them at
its ends leave an even number between them.
-/
import LivePage.Proofs.Page.Invocation
import LivePage.Proofs.Page.Scripts
import LivePage.Proofs.Source.Tokens

namespace LivePage

/-- The text is one string: nothing between its two quotes is a quote. -/
def IsString (t : Text) : Prop :=
  ∃ inner, '"' ∉ inner ∧ t = '"' :: inner ++ ['"']

/-- The text has a string at each end, with paired quotes or none between the two. -/
def IsGlued (t : Text) : Prop :=
  ∃ first middle last, '"' ∉ first ∧ '"' ∉ last ∧ middle.count '"' % 2 = 0 ∧
    t = ('"' :: first ++ ['"']) ++ middle ++ ('"' :: last ++ ['"'])

/-! ### Quotes at the ends of a token -/

theorem count_quotation (inner : Text) :
    ('"' :: inner ++ ['"']).count '"' = inner.count '"' + 2 := by
  rw [List.count_append, List.count_cons_self, List.count_singleton_self]

theorem isGlued_iff_mem {inner : Text} (heven : inner.count '"' % 2 = 0) :
    IsGlued ('"' :: inner ++ ['"']) ↔ '"' ∈ inner := by
  constructor
  · rintro ⟨first, middle, last, -, -, -, hglued⟩
    have hcount := congrArg (List.count '"') hglued
    rw [count_quotation inner, List.count_append, List.count_append, count_quotation,
      count_quotation] at hcount
    exact List.count_pos_iff.mp (by omega)
  · intro hmem
    -- the first quote ends the first string, and the last of an odd number begins the last one
    obtain ⟨first, rest, rfl, hfirst⟩ := List.eq_append_cons_of_mem hmem
    rw [List.count_append, List.count_cons_self, List.count_eq_zero.mpr hfirst] at heven
    obtain ⟨middle, last, rfl, hmiddle, hlast⟩ := exists_stray (t := rest) (by omega)
    exact ⟨first, middle, last, hfirst, hlast, hmiddle, by simp⟩

theorem isString_iff_not_mem {inner : Text} : IsString ('"' :: inner ++ ['"']) ↔ '"' ∉ inner := by
  constructor
  · rintro ⟨other, hnot, hsame⟩
    obtain rfl : inner = other := by simpa using hsame
    exact hnot
  · intro hnot
    exact ⟨inner, hnot, rfl⟩

theorem Token.quoted_iff_exists (token : Token) :
    token.quoted = true ↔ ∃ inner, token.text = '"' :: inner ++ ['"'] := by
  rw [Token.quoted]
  constructor
  · intro h
    split at h
    · exact absurd h (by simp)
    · exact absurd h (by simp)
    · rename_i c rest _ htext
      obtain ⟨hc, hlast⟩ : c = '"' ∧ rest.getLast? = some '"' := by simpa using h
      obtain ⟨inner, rfl⟩ := List.getLast?_eq_some_iff.mp hlast
      exact ⟨inner, by rw [htext, hc, List.cons_append]⟩
  · rintro ⟨inner, htext⟩
    cases inner with
    | nil => simp [htext]
    | cons c inner => simp [htext, List.getLast?_cons]

section OfLine

variable {line : Text} {token : Token} (htoken : token ∈ tokenize line)
include htoken

/-- The quotes between those at the ends of a token are paired. -/
theorem even_inner {inner : Text} (htext : token.text = '"' :: inner ++ ['"']) :
    inner.count '"' % 2 = 0 := by
  have heven := even_of_mem_tokenize htoken
  rw [htext, count_quotation] at heven
  omega

theorem Token.quoted_iff :
    token.quoted = true ↔ IsString token.text ∨ IsGlued token.text := by
  rw [token.quoted_iff_exists]
  constructor
  · rintro ⟨inner, htext⟩
    rw [htext, isString_iff_not_mem, isGlued_iff_mem (even_inner htoken htext)]
    exact (Decidable.em ('"' ∈ inner)).symm
  · rintro (⟨inner, -, htext⟩ | ⟨first, middle, last, -, -, -, htext⟩)
    · exact ⟨inner, htext⟩
    · exact ⟨first ++ ['"'] ++ middle ++ '"' :: last, by rw [htext]; simp⟩

theorem not_isGlued_of_isString (h : IsString token.text) : ¬ IsGlued token.text := by
  obtain ⟨inner, hnot, htext⟩ := h
  rw [htext, isGlued_iff_mem (even_inner htoken htext)]
  exact hnot

end OfLine

/-! ### Literals of the script -/

theorem stripQuotes_quotation (inner : Text) : stripQuotes ('"' :: inner ++ ['"']) = inner := by
  show dropEndQuote (inner ++ ['"']) = inner
  exact dropEndQuote_append inner

theorem Session.setStatement_of_quoted {token : Token} (hquoted : token.quoted = true)
    (hplain : Script.isCompound (stripQuotes token.text) = false) (target : Text) :
    setStatement target (some token) =
      Script.showText target ('"' :: stripQuotes token.text ++ ['"']) := by
  show (if Script.isCompound (stripQuotes token.text) then _
    else if token.quoted || (stripQuotes token.text).isEmpty then _ else _) = _
  rw [hplain, hquoted]
  rfl

/-- A command has the tokens behind its name as arguments. -/
theorem Line.exists_tokens {line : Text} {c : Command} {args : Arguments}
    (h : (Line.ofText line).command? = some (c, args)) :
    ∃ name rest, tokenize (commandPart line) = name :: rest ∧
      Command.ofName? name.text = some c ∧ args = .ofTokens rest := by
  rw [Line.ofText] at h
  split at h
  · cases h
  · split at h
    · cases h
    · split at h
      · cases h
      · cases htokens : tokenize (commandPart line) with
        | nil =>
          rw [htokens] at h
          cases h
        | cons name rest =>
          rw [htokens] at h
          obtain ⟨found, hname, hrun⟩ := Option.map_eq_some_iff.mp h
          rw [Prod.mk.injEq] at hrun
          exact ⟨name, rest, rfl, by rw [hname, hrun.1], hrun.2.symm⟩

theorem Line.mem_tokenize_of_raw {line : Text} {c : Command} {args : Arguments}
    (h : (Line.ofText line).command? = some (c, args)) {token : Token} (htoken : token ∈ args.raw) :
    token ∈ tokenize (commandPart line) := by
  obtain ⟨name, rest, htokens, -, rfl⟩ := Line.exists_tokens h
  rw [htokens]
  exact List.mem_cons_of_mem name (List.mem_of_mem_filter htoken)

theorem exists_mem_of_forall₂ {α β : Type} {R : α → β → Prop} {xs : List α} {ys : List β}
    (h : List.Forall₂ R xs ys) {x : α} (hx : x ∈ xs) : ∃ y ∈ ys, R x y := by
  induction h with
  | nil => exact absurd hx List.not_mem_nil
  | @cons first y _ _ hfirst _ ih =>
    rcases List.mem_cons.mp hx with rfl | hx
    · exact ⟨y, List.mem_cons_self, hfirst⟩
    · obtain ⟨other, hother, hrel⟩ := ih hx
      exact ⟨other, List.mem_cons_of_mem y hother, hrel⟩

/-- The line is a `Set` that shows a quoted token, and no expression. -/
structure ShowsQuoted (line : Line) (target : Text) (token : Token) : Prop where
  command : ∃ args : Arguments, line.command? = some (.setText, args) ∧ args.param 0 = target ∧
    args.raw[1]? = some token
  target_ne_nil : target ≠ []
  quoted : token.quoted = true
  literal : Script.isCompound (stripQuotes token.text) = false

theorem ShowsQuoted.exists_entry {source line target : Text} {token : Token}
    (h : ShowsQuoted (.ofText line) target token) (hline : line ∈ logicalLines source) :
    ∃ entry ∈ (compile source).scripts,
      Wrapped (Script.showText target ('"' :: stripQuotes token.text ++ ['"'])) entry := by
  obtain ⟨⟨args, hcommand, rfl, htoken⟩, htarget, hquoted, hliteral⟩ := h
  have hscripting : (Line.ofText line).scripting = true := by
    rw [Line.scripting, hcommand]
    simpa using htarget
  have hmem : Line.ofText line ∈ ((logicalLines source).map Line.ofText).filter Line.scripting :=
    List.mem_filter.mpr ⟨List.mem_map_of_mem hline, hscripting⟩
  obtain ⟨entry, hentry, hadds⟩ :=
    exists_mem_of_forall₂ (Session.run_scripts (logicalLines source)) hmem
  refine ⟨entry, hentry, ?_⟩
  rw [← Session.setStatement_of_quoted hquoted hliteral, ← htoken]
  -- of the forms of an entry only that of a `Set` is left
  cases hadds with
  | assignment other hother _ => rw [hcommand] at hother; cases hother
  | alert other hother => rw [hcommand] at hother; cases hother
  | boundAlert other _ hother _ => rw [hcommand] at hother; cases hother
  | setText other _ hother _ hwrapped =>
    rw [hcommand] at hother
    cases hother
    exact hwrapped

/-- **A quoted token is one string unless strings were glued to it.** The flag of a token says
whether it is one string exactly if it does not have a string at each end. A `Set` writes a quoted
token into the script as a literal, which holds a quote of its own exactly if it is so glued. -/
theorem quoted_iff_isString_iff (text source : Text) :
    (∀ token ∈ tokenize text,
      ((token.quoted = true ↔ IsString token.text) ↔ ¬ IsGlued token.text)) ∧
      ∀ line ∈ logicalLines source, ∀ (target : Text) (token : Token),
        ShowsQuoted (.ofText line) target token →
          (∃ entry ∈ (compile source).scripts,
            Wrapped (Script.showText target ('"' :: stripQuotes token.text ++ ['"'])) entry) ∧
          ('"' ∈ stripQuotes token.text ↔ IsGlued token.text) := by
  constructor
  · intro token htoken
    rw [Token.quoted_iff htoken, or_iff_left_iff_imp]
    constructor
    · intro hstring hglued
      exact not_isGlued_of_isString htoken (hstring hglued) hglued
    · intro hnot hglued
      exact absurd hglued hnot
  · intro line hline target token hshows
    refine ⟨hshows.exists_entry hline, ?_⟩
    obtain ⟨args, hcommand, -, hraw⟩ := hshows.command
    have htoken := Line.mem_tokenize_of_raw hcommand (List.mem_of_getElem? hraw)
    obtain ⟨inner, htext⟩ := token.quoted_iff_exists.mp hshows.quoted
    rw [htext, stripQuotes_quotation, isGlued_iff_mem (even_inner htoken htext)]

/-- A string with a blank in it, shown by a `Set`. -/
theorem quoted_iff_isString_iff_blank :
    (∃ entry ∈ (compile "Set x \"a b\"".toList).scripts,
      Wrapped (Script.showText ['x'] "\"a b\"".toList) entry) ∧
      IsString "\"a b\"".toList := by
  obtain ⟨hflag, hliteral⟩ :=
    quoted_iff_isString_iff "Set x \"a b\"".toList "Set x \"a b\"".toList
  obtain ⟨hentry, hglued⟩ := hliteral "Set x \"a b\"".toList (by decide +kernel) ['x']
    ⟨"\"a b\"".toList⟩
    ⟨⟨.ofTokens [⟨['x']⟩, ⟨"\"a b\"".toList⟩], by decide +kernel, by decide +kernel,
      by decide +kernel⟩, by decide, by decide +kernel, by decide +kernel⟩
  have hnot : ¬ IsGlued "\"a b\"".toList := mt hglued.mpr (by decide +kernel)
  exact ⟨hentry, ((hflag ⟨"\"a b\"".toList⟩ (by decide +kernel)).mpr hnot).mp (by decide +kernel)⟩

/-- Of two strings with a word between them the flag says that they are one, and the script gets a
literal that ends too early. -/
theorem glued_token_quoted :
    (∃ token ∈ tokenize "\"a\"b\"c\"".toList, token.quoted = true ∧ ¬ IsString token.text) ∧
      (compile "Set x \"a\"b\"c\"".toList).scripts =
        [("\x7b const el = document.getElementById(\"x\"); if(el) el.innerText = " ++
          "\"a\"b\"c\"; \x7d").toList] := by
  have hmem : (⟨"\"a\"b\"c\"".toList⟩ : Token) ∈ tokenize "\"a\"b\"c\"".toList := by decide
  refine ⟨⟨_, hmem, by decide, ?_⟩, by decide +kernel⟩
  rintro ⟨inner, hnot, htext⟩
  have hcount := congrArg (List.count '"') htext
  rw [count_quotation, List.count_eq_zero.mpr hnot] at hcount
  exact absurd hcount (by decide)

end LivePage
