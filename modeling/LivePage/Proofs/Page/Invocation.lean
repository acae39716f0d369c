/-
Commands written out and read back.

A command is written as its name and its arguments with blanks between them,
values and attributes in quotes, and a brace behind it if it opens a block:

* `Invocation.written` — the line of a command;
* `Invocation.tokenize_head` — its tokens are the name and the arguments as written;
* `Invocation.logicalLines_written` — it is one logical line;
* `read_written` — the command gets back what was written, whatever stands in
  the quotes: the values in order, and the last value of each key.

Design notes: what can be written is a type of its own for each part of the
line, so that no statement here carries conditions on characters.
-/
import LivePage.Proofs.Page.Effect
import LivePage.Proofs.Page.Run
import LivePage.Proofs.Source.Piece
import LivePage.Proofs.Table

namespace LivePage

/-- A text that can be written between quotes on one line. -/
structure Quotable where
  /-- The text itself. -/
  text : Text
  /-- The quotes end where the text ends. -/
  quoteless : '"' ∉ text
  /-- The text stays on its line. -/
  unbroken : '\n' ∉ text

/-- A name for an attribute. -/
structure Key where
  /-- The name itself. -/
  text : Text
  /-- There is a name. -/
  ne_nil : text ≠ []
  /-- The name is one token, up to the equals sign. -/
  plain : ∀ c ∈ text, isBlank c = false ∧ c ≠ '"' ∧ c ≠ '=' ∧ isBrace c = false

/-- The blanks in front of an argument. -/
structure Gap where
  /-- The first blank. -/
  first : Char
  /-- The other blanks. -/
  rest : Text
  /-- All are blank. -/
  blank : ∀ c ∈ first :: rest, isBlank c = true
  /-- The argument stays on its line. -/
  unbroken : '\n' ∉ first :: rest

/-- An argument to be written. -/
inductive WrittenArg where
  /-- A positional value. -/
  | positional (value : Quotable)
  /-- The value of an attribute. -/
  | named (key : Key) (value : Quotable)

/-- A known command to be written, with its arguments. -/
structure Invocation where
  /-- The name of the command. -/
  name : Text
  /-- The command that it names. -/
  command : Command
  /-- The name is known. -/
  known : Command.ofName? name = some command
  /-- The arguments, each behind some blanks. -/
  args : List (Gap × WrittenArg)
  /-- Whether the command opens a block. -/
  opens : Bool

/-! ### Writing -/

/-- A text between quotes. -/
def Quotable.written (q : Quotable) : Text :=
  '"' :: q.text ++ ['"']

/-- An argument as written. -/
def WrittenArg.written : WrittenArg → Text
  | positional v => v.written
  | named key v => key.text ++ '=' :: v.written

/-- Arguments as written, each behind its blanks. -/
def writtenArgs (args : List (Gap × WrittenArg)) : Text :=
  args.flatMap fun arg => arg.1.first :: arg.1.rest ++ arg.2.written

namespace Invocation

/-- The line without the brace. -/
def head (c : Invocation) : Text :=
  c.name ++ writtenArgs c.args

/-- The line of a command. -/
def written (c : Invocation) : Text :=
  c.head ++ if c.opens then [' ', '{'] else []

/-- The positional values of a command. -/
def values (c : Invocation) : List Quotable :=
  c.args.filterMap fun
    | (_, .positional v) => some v
    | (_, .named _ _) => none

/-- The attributes of a command, in order, with repetitions. -/
def attributes (c : Invocation) : List (Text × Text) :=
  c.args.filterMap fun
    | (_, .positional _) => none
    | (_, .named key v) => some (key.text, v.text)

/-- The arguments that a command is meant to get: the values in order, and for each key, where it
first occurs, its last value. -/
def arguments (c : Invocation) : Arguments where
  params := c.values.map Quotable.text
  raw := c.values.map fun v => ⟨v.written⟩
  attrs := Table.latest c.attributes

end Invocation

/-! ### Names -/

theorem Element.name_of_find? {name : Text} {e : Element} (h : Element.find? name = some e) :
    name ≠ [] ∧ ∀ c ∈ name, isAsciiLetter c = true := by
  have hall : ∀ e ∈ Element.all, e.name ≠ [] ∧ e.name.all isAsciiLetter = true := by
    decide +kernel
  have hname : e.name = name := by simpa using List.find?_some h
  rw [← hname, ← List.all_eq_true]
  exact hall e (List.mem_of_find?_eq_some h)

/-- Names of commands are made of letters. -/
theorem Command.name_of_ofName? {name : Text} {c : Command} (h : Command.ofName? name = some c) :
    name ≠ [] ∧ ∀ c ∈ name, isAsciiLetter c = true := by
  have hlogic : ∀ entry ∈ Command.logic,
      entry.1 ≠ [] ∧ entry.1.all isAsciiLetter = true := by
    decide +kernel
  rw [Command.ofName?] at h
  cases hfind : Element.find? name with
  | some e => exact Element.name_of_find? hfind
  | none =>
    rw [hfind] at h
    rw [← List.all_eq_true]
    exact hlogic (name, c) (Table.mem_of_get? h)

theorem isAsciiLetter_ne {c d : Char} (hc : isAsciiLetter c = true) (hd : isAsciiLetter d = false) :
    c ≠ d := by
  rintro rfl
  exact absurd hc (by simp [hd])

theorem isBlank_of_isAsciiLetter {c : Char} (h : isAsciiLetter c = true) : isBlank c = false := by
  simp only [isAsciiLetter, Bool.or_eq_true, Bool.and_eq_true, decide_eq_true_eq] at h
  simp only [isBlank, Bool.or_eq_false_iff, Bool.and_eq_false_iff, decide_eq_false_iff_not]
  omega

theorem isWord_of_isAsciiLetter {c : Char} (h : isAsciiLetter c = true) : isWord c = true := by
  simp [isWord, h]

/-! ### The parts of a line -/

namespace Quotable

theorem isPlain (q : Quotable) : IsPlain q.written :=
  .quotation q.quoteless

theorem not_separates (q : Quotable) {g : Glyph} (hg : g ∈ glyphs q.written) :
    g.separates = false := by
  rw [written, glyphs_quotation q.quoteless] at hg
  obtain ⟨c, -, rfl⟩ := List.mem_map.mp hg
  rfl

theorem getLast?_written (q : Quotable) : q.written.getLast? = some '"' :=
  List.getLast?_concat

theorem newline_not_mem (q : Quotable) : '\n' ∉ q.written := by
  simp [written, q.unbroken]

end Quotable

namespace Key

theorem not_mem {key : Key} {c : Char}
    (h : isBlank c = true ∨ c = '"' ∨ c = '=' ∨ isBrace c = true) : c ∉ key.text := by
  intro hc
  obtain ⟨hblank, hquote, hequals, hbrace⟩ := key.plain c hc
  rcases h with h | h | h | h
  · exact absurd h (by simp [hblank])
  · exact hquote h
  · exact hequals h
  · exact absurd h (by simp [hbrace])

theorem isPlain (key : Key) : IsPlain (key.text ++ ['=']) := by
  refine .of_not_mem ?_ ?_ ?_
  · simpa using Key.not_mem (.inr (.inl rfl))
  · simpa using Key.not_mem (.inr (.inr (.inr rfl)))
  · simpa using Key.not_mem (.inr (.inr (.inr rfl)))

theorem not_separates (key : Key) {g : Glyph} (hg : g ∈ glyphs (key.text ++ ['='])) :
    g.separates = false := by
  have hquote : '"' ∉ key.text ++ ['='] := by simpa using Key.not_mem (.inr (.inl rfl))
  rw [glyphs_of_not_mem hquote] at hg
  obtain ⟨c, hc, rfl⟩ := List.mem_map.mp hg
  rcases List.mem_append.mp hc with hkey | hequals
  · exact (key.plain c hkey).1
  · rw [List.mem_singleton.mp hequals]
    decide

end Key

namespace WrittenArg

theorem written_named (key : Key) (v : Quotable) :
    written (named key v) = (key.text ++ ['=']) ++ v.written := by
  simp [written]

theorem isPlain (a : WrittenArg) : IsPlain a.written := by
  cases a with
  | positional v => exact v.isPlain
  | named key v =>
    rw [written_named]
    exact key.isPlain.append v.isPlain

theorem getLast?_written (a : WrittenArg) : a.written.getLast? = some '"' := by
  cases a with
  | positional v => exact v.getLast?_written
  | named key v =>
    rw [written_named, List.getLast?_append, v.getLast?_written]
    rfl

theorem newline_not_mem (a : WrittenArg) : '\n' ∉ a.written := by
  cases a with
  | positional v => exact v.newline_not_mem
  | named key v =>
    have hkey : '\n' ∉ key.text := Key.not_mem (.inl (by decide))
    have hv := v.newline_not_mem
    rw [written_named]
    simp [hkey, hv]

/-- An argument is written as one token. -/
theorem tokenize_written (a : WrittenArg) : tokenize a.written = [⟨a.written⟩] := by
  refine tokenize_of_not_separates ?_ ?_
  · intro hnil
    have hlast := a.getLast?_written
    rw [hnil] at hlast
    exact absurd hlast (by simp)
  · intro g hg
    cases a with
    | positional v => exact v.not_separates hg
    | named key v =>
      rw [written_named, glyphs_append (.inl key.isPlain.even)] at hg
      rcases List.mem_append.mp hg with hkey | hv
      · exact key.not_separates hkey
      · exact v.not_separates hv

end WrittenArg

theorem Gap.isPlain (gap : Gap) : IsPlain (gap.first :: gap.rest) := by
  have hnot : ∀ {c : Char}, isBlank c = false → c ∉ gap.first :: gap.rest := by
    intro c hc hmem
    exact absurd (gap.blank c hmem) (by simp [hc])
  exact .of_not_mem (hnot (by decide)) (hnot (by decide)) (hnot (by decide))

/-! ### Tokens -/

/-- Blanks in front belong to no token. -/
theorem tokenize_blanks_append {blanks : Text} (h : ∀ c ∈ blanks, isBlank c = true) (t : Text) :
    tokenize (blanks ++ t) = tokenize t := by
  rw [← tokenize_dropWhile_blank, List.dropWhile_append_of_pos h, tokenize_dropWhile_blank]

theorem isPlain_writtenArgs (args : List (Gap × WrittenArg)) : IsPlain (writtenArgs args) := by
  induction args with
  | nil => exact .nil
  | cons arg args ih => exact (arg.1.isPlain.append arg.2.isPlain).append ih

/-- Behind a text that is plain, each argument is a token of its own. -/
theorem tokenize_append_writtenArgs {s : Text} (hs : IsPlain s) (args : List (Gap × WrittenArg)) :
    tokenize (s ++ writtenArgs args) = tokenize s ++ args.map fun arg => ⟨arg.2.written⟩ := by
  induction args generalizing s with
  | nil => simp [writtenArgs]
  | cons arg args ih =>
    obtain ⟨gap, a⟩ := arg
    have hfirst : isBlank gap.first = true := gap.blank gap.first List.mem_cons_self
    have hrest : ∀ c ∈ gap.rest, isBlank c = true := fun c hc =>
      gap.blank c (List.mem_cons_of_mem _ hc)
    have hsplit : s ++ writtenArgs ((gap, a) :: args) =
        s ++ gap.first :: (gap.rest ++ (a.written ++ writtenArgs args)) := by
      simp [writtenArgs]
    rw [hsplit, tokenize_append_blank hfirst (.inl hs.even), tokenize_blanks_append hrest,
      ih a.isPlain, a.tokenize_written]
    rfl

namespace Invocation

theorem name_not_mem {c : Invocation} {d : Char} (hd : isAsciiLetter d = false) :
    d ∉ c.name := by
  intro hmem
  exact isAsciiLetter_ne ((Command.name_of_ofName? c.known).2 d hmem) hd rfl

theorem isPlain_name (c : Invocation) : IsPlain c.name :=
  .of_not_mem (name_not_mem (by decide)) (name_not_mem (by decide)) (name_not_mem (by decide))

theorem isPlain_head (c : Invocation) : IsPlain c.head :=
  c.isPlain_name.append (isPlain_writtenArgs c.args)

theorem tokenize_name (c : Invocation) : tokenize c.name = [⟨c.name⟩] := by
  obtain ⟨hne, hletters⟩ := Command.name_of_ofName? c.known
  refine tokenize_of_not_separates hne fun g hg => ?_
  rw [glyphs_of_not_mem (name_not_mem (by decide))] at hg
  obtain ⟨d, hd, rfl⟩ := List.mem_map.mp hg
  exact isBlank_of_isAsciiLetter (hletters d hd)

/-- The tokens of a command are its name and its arguments as written. -/
theorem tokenize_head (c : Invocation) :
    tokenize c.head = ⟨c.name⟩ :: c.args.map fun arg => ⟨arg.2.written⟩ := by
  rw [head, tokenize_append_writtenArgs c.isPlain_name, tokenize_name]
  rfl

end Invocation

/-! ### Arguments -/

theorem dropEndQuote_append (t : Text) : dropEndQuote (t ++ ['"']) = t := by
  induction t with
  | nil => decide
  | cons c t ih =>
    cases t with
    | nil => simp [dropEndQuote, isQuote]
    | cons d t =>
      have hcons : dropEndQuote (c :: (d :: t ++ ['"'])) = c :: dropEndQuote (d :: t ++ ['"']) := by
        cases t <;> rfl
      rw [List.cons_append, hcons, ih]

theorem stripQuotes_written (q : Quotable) : stripQuotes q.written = q.text := by
  show dropEndQuote (q.text ++ ['"']) = q.text
  exact dropEndQuote_append q.text

/-- No equals sign between quotes splits a token. -/
theorem splitAssignmentFrom_quoted {t : Text} (h : '"' ∉ t) :
    splitAssignmentFrom true (t ++ ['"']) = none := by
  induction t with
  | nil => rfl
  | cons c t ih =>
    rw [List.mem_cons, not_or] at h
    rw [List.cons_append, splitAssignmentFrom, if_neg (by simp), if_neg (Ne.symm h.1), ih h.2]
    rfl

theorem splitAssignment_positional (v : Quotable) : splitAssignment v.written = none := by
  have hrest := splitAssignmentFrom_quoted v.quoteless
  rw [splitAssignment, Quotable.written, List.cons_append, splitAssignmentFrom, if_neg (by simp),
    if_pos rfl, Bool.not_false, hrest]
  rfl

theorem splitAssignment_append {key : Text} (hquote : '"' ∉ key) (hequals : '=' ∉ key)
    (rest : Text) : splitAssignment (key ++ '=' :: rest) = some (key, rest) := by
  unfold splitAssignment
  induction key with
  | nil => rfl
  | cons c key ih =>
    rw [List.mem_cons, not_or] at hquote hequals
    rw [List.cons_append, splitAssignmentFrom, if_neg fun h => hequals.1 h.1.symm,
      if_neg (Ne.symm hquote.1), ih hquote.2 hequals.2]
    rfl

theorem splitAssignment_named (key : Key) (v : Quotable) :
    splitAssignment (WrittenArg.named key v).written = some (key.text, v.written) :=
  splitAssignment_append (Key.not_mem (.inr (.inl rfl))) (Key.not_mem (.inr (.inr (.inl rfl)))) _

theorem attribute?_named (key : Key) (v : Quotable) :
    Arguments.attribute? ⟨(WrittenArg.named key v).written⟩ = some (key.text, v.text) := by
  unfold Arguments.attribute?
  rw [splitAssignment_named]
  cases hkey : key.text with
  | nil => exact absurd hkey key.ne_nil
  | cons c rest => simp [stripQuotes_written]

theorem attribute?_positional (v : Quotable) : Arguments.attribute? ⟨v.written⟩ = none := by
  unfold Arguments.attribute?
  rw [splitAssignment_positional]

/-- The arguments of a command are read as they were written. -/
theorem Invocation.ofTokens_args (c : Invocation) :
    Arguments.ofTokens (c.args.map fun arg => ⟨arg.2.written⟩) = c.arguments := by
  have hpositional : (c.args.map fun arg => (⟨arg.2.written⟩ : Token)).filter
      (fun token => (splitAssignment token.text).isNone) = c.values.map fun v => ⟨v.written⟩ := by
    unfold values
    induction c.args with
    | nil => rfl
    | cons arg args ih =>
      obtain ⟨gap, v | ⟨key, v⟩⟩ := arg
      · have hnone := splitAssignment_positional v
        rw [List.map_cons, List.filter_cons_of_pos (by simp [WrittenArg.written, hnone]), ih]
        rfl
      · rw [List.map_cons, List.filter_cons_of_neg (by simp [splitAssignment_named]), ih]
        rfl
  have hattributes : (c.args.map fun arg => (⟨arg.2.written⟩ : Token)).filterMap
      Arguments.attribute? = c.attributes := by
    unfold attributes
    rw [List.filterMap_map]
    refine List.filterMap_congr fun arg _ => ?_
    obtain ⟨gap, v | ⟨key, v⟩⟩ := arg
    · exact attribute?_positional v
    · exact attribute?_named key v
  have hparams : (c.values.map fun v => (⟨v.written⟩ : Token)).map (stripQuotes ·.text) =
      c.values.map Quotable.text := by
    rw [List.map_map]
    exact List.map_congr_left fun v _ => stripQuotes_written v
  unfold Arguments.ofTokens arguments
  dsimp only
  rw [hpositional, hattributes, hparams, Table.ofList_eq_latest]

/-! ### Lines -/

/-- A word with a blank behind it begins no style line. -/
theorem styleLine?_append_blank {name tail : Text} (hname : ∀ c ∈ name, isWord c = true)
    (htail : ∀ c, tail.head? = some c → isBlank c = true) : styleLine? (name ++ tail) = none := by
  have hdrop : (name ++ tail).dropWhile isWord = tail := by
    rw [List.dropWhile_append_of_pos hname]
    cases tail with
    | nil => rfl
    | cons c tail =>
      rw [List.dropWhile_cons_of_neg (by simp [isWord_of_isBlank (htail c rfl)])]
  unfold styleLine?
  rw [hdrop]
  split
  · rfl
  · split
    · exact absurd (htail '.' rfl) (by decide)
    · rfl

namespace Invocation

theorem written_of_opens {c : Invocation} (h : c.opens = true) :
    c.written = (c.head ++ [' ']) ++ ['{'] := by
  simp [written, h]

theorem written_of_not_opens {c : Invocation} (h : c.opens = false) : c.written = c.head := by
  simp [written, h]

/-- A command begins with a letter. -/
theorem exists_head?_head (c : Invocation) :
    ∃ letter, c.head.head? = some letter ∧ isAsciiLetter letter = true := by
  obtain ⟨hne, hletters⟩ := Command.name_of_ofName? c.known
  obtain ⟨letter, rest, hname⟩ := List.exists_cons_of_ne_nil hne
  refine ⟨letter, ?_, hletters letter (hname ▸ List.mem_cons_self)⟩
  rw [head, hname]
  rfl

theorem exists_head?_written (c : Invocation) :
    ∃ letter, c.written.head? = some letter ∧ isAsciiLetter letter = true := by
  obtain ⟨letter, hletter, hascii⟩ := c.exists_head?_head
  refine ⟨letter, ?_, hascii⟩
  rw [written, List.head?_append, hletter]
  rfl

/-- Without its brace a command ends with a letter or a quote. -/
theorem exists_getLast?_head (c : Invocation) :
    ∃ d, c.head.getLast? = some d ∧ isBlank d = false := by
  rcases List.eq_nil_or_concat' c.args with hargs | ⟨args, arg, hargs⟩
  · obtain ⟨hne, hletters⟩ := Command.name_of_ofName? c.known
    refine ⟨c.name.getLast hne, ?_, ?_⟩
    · rw [head, hargs, writtenArgs, List.flatMap_nil, List.append_nil]
      exact List.getLast?_eq_some_getLast hne
    · exact isBlank_of_isAsciiLetter (hletters _ (List.getLast_mem hne))
  · refine ⟨'"', ?_, by decide⟩
    rw [head, hargs, writtenArgs, List.flatMap_append, List.flatMap_singleton,
      List.getLast?_append, List.getLast?_append, List.getLast?_append, arg.2.getLast?_written]
    rfl

theorem trim_head (c : Invocation) : c.head.trim = c.head := by
  obtain ⟨letter, hhead, hletter⟩ := c.exists_head?_head
  obtain ⟨d, hlast, hd⟩ := c.exists_getLast?_head
  exact Text.trim_eq_self hhead (isBlank_of_isAsciiLetter hletter) hlast hd

theorem trim_written (c : Invocation) : c.written.trim = c.written := by
  cases hopens : c.opens with
  | true =>
    obtain ⟨letter, hhead, hletter⟩ := c.exists_head?_written
    refine Text.trim_eq_self hhead (isBlank_of_isAsciiLetter hletter) ?_ (d := '{') (by decide)
    rw [written_of_opens hopens]
    exact List.getLast?_concat
  | false =>
    rw [written_of_not_opens hopens]
    exact c.trim_head

theorem newline_not_mem_written (c : Invocation) : '\n' ∉ c.written := by
  have hname : '\n' ∉ c.name := name_not_mem (by decide)
  have hargs : '\n' ∉ writtenArgs c.args := by
    intro hmem
    obtain ⟨arg, -, harg⟩ := List.mem_flatMap.mp hmem
    rcases List.mem_append.mp harg with hgap | hwritten
    · exact arg.1.unbroken hgap
    · exact arg.2.newline_not_mem hwritten
  cases hopens : c.opens with
  | true => simp [written, head, hname, hargs, hopens]
  | false => simp [written, head, hname, hargs, hopens]

theorem isComment_written (c : Invocation) : isComment c.written = false := by
  obtain ⟨letter, hhead, hletter⟩ := c.exists_head?_written
  rw [isComment, hhead]
  simpa using isAsciiLetter_ne hletter (by decide)

theorem unfoldBraces_written (c : Invocation) : unfoldBraces c.written = [c.written] := by
  have hne : c.written ≠ [] := by
    intro hnil
    obtain ⟨letter, hhead, -⟩ := c.exists_head?_written
    rw [hnil] at hhead
    exact absurd hhead (by simp)
  cases hopens : c.opens with
  | true =>
    have hspace : IsPlain (c.head ++ [' ']) :=
      c.isPlain_head.append (.of_not_mem (by decide) (by decide) (by decide))
    rw [written_of_opens hopens, unfoldBraces_open hspace, ← written_of_opens hopens,
      c.trim_written]
    rfl
  | false =>
    rw [written_of_not_opens hopens] at hne ⊢
    rw [unfoldBraces_of_plain c.isPlain_head, plainPiece, c.trim_head]
    simp [hne]

/-- A command is one logical line. -/
theorem logicalLines_written (c : Invocation) : logicalLines c.written = [c.written] := by
  rw [logicalLines, Text.lines_eq_singleton c.newline_not_mem_written, List.flatMap_singleton,
    c.trim_written, unfoldLine, c.isComment_written, Bool.false_or, c.unfoldBraces_written]
  exact ite_self _

theorem styleLine?_written (c : Invocation) : styleLine? c.written = none := by
  have hletters := (Command.name_of_ofName? c.known).2
  rw [written, head, List.append_assoc]
  refine styleLine?_append_blank (fun d hd => isWord_of_isAsciiLetter (hletters d hd)) ?_
  intro d hd
  cases hargs : c.args with
  | nil =>
    rw [hargs] at hd
    cases hopens : c.opens with
    | true =>
      rw [hopens] at hd
      obtain rfl : ' ' = d := by simpa [writtenArgs] using hd
      decide
    | false =>
      rw [hopens] at hd
      exact absurd hd (by simp [writtenArgs])
  | cons arg args =>
    rw [hargs] at hd
    obtain rfl : arg.1.first = d := by simpa [writtenArgs] using hd
    exact arg.1.blank _ List.mem_cons_self

theorem opensBlock_written (c : Invocation) : opensBlock c.written = c.opens := by
  cases hopens : c.opens with
  | true =>
    rw [written_of_opens hopens, opensBlock, List.getLast?_concat]
    decide
  | false =>
    rw [written_of_not_opens hopens, ← c.trim_head]
    exact c.isPlain_head.opensBlock_trim

theorem tokenize_commandPart (c : Invocation) :
    tokenize (commandPart c.written) = tokenize c.head := by
  have hspace : isBlank ' ' = true := by decide
  rw [commandPart, c.opensBlock_written]
  cases hopens : c.opens with
  | true =>
    rw [if_pos rfl, written_of_opens hopens, List.dropLast_concat, Text.trim_append_blank hspace,
      tokenize_trim]
  | false => rw [if_neg (by simp), written_of_not_opens hopens]

/-- A command is read as a command, with the arguments that were written. -/
theorem ofText_written (c : Invocation) :
    Line.ofText c.written = .command c.name c.arguments c.opens := by
  have hskip : (c.written.isEmpty || isComment c.written) = false := by
    obtain ⟨letter, hhead, -⟩ := c.exists_head?_written
    rw [c.isComment_written, Bool.or_false]
    cases hwritten : c.written with
    | nil =>
      rw [hwritten] at hhead
      exact absurd hhead (by simp)
    | cons first rest => rfl
  have hclose : c.written ≠ ['}'] := by
    intro hclose
    obtain ⟨letter, hhead, hletter⟩ := c.exists_head?_written
    rw [hclose, List.head?_cons, Option.some_inj] at hhead
    exact isAsciiLetter_ne hletter (by decide) hhead.symm
  rw [Line.ofText, if_neg (by simp [hskip]), c.styleLine?_written]
  dsimp only
  rw [if_neg hclose, c.opensBlock_written, c.tokenize_commandPart, c.tokenize_head, Line.ofTokens,
    c.ofTokens_args]

end Invocation

/-- **A command that is written out is read back.** Its line is one logical line, read as the
command with the values and attributes that were written and with a block if there is a brace; and
running the line runs the command on just these arguments. -/
theorem read_written (c : Invocation) :
    logicalLines c.written = [c.written] ∧
      Line.ofText c.written = .command c.name c.arguments c.opens ∧
      (Line.ofText c.written).command? = some (c.command, c.arguments) ∧
      ∀ s : Session,
        s.run (logicalLines c.written) = s.runLine (.command c.name c.arguments c.opens) := by
  have hlines := c.logicalLines_written
  have hread := c.ofText_written
  refine ⟨hlines, hread, ?_, fun s => ?_⟩
  · rw [hread, Line.command?, c.known, Option.map_some]
  · rw [hlines, Session.run_cons, Session.run_nil, Session.step, hread]
    exact Prod.ext rfl (Output.append_empty _)

/-- Braces, an equals sign, a point and a number sign between quotes, a tab, and a key that is given
twice. -/
theorem read_written_text :
    logicalLines "Text \"\x7b a=b.c \x7d #\"\tx.y=\"1\"  \"\" x.y=\"'\x7d'\" \x7b".toList =
        ["Text \"\x7b a=b.c \x7d #\"\tx.y=\"1\"  \"\" x.y=\"'\x7d'\" \x7b".toList] ∧
      Line.ofText "Text \"\x7b a=b.c \x7d #\"\tx.y=\"1\"  \"\" x.y=\"'\x7d'\" \x7b".toList =
        .command "Text".toList
          { params := ["\x7b a=b.c \x7d #".toList, []]
            raw := [⟨"\"\x7b a=b.c \x7d #\"".toList⟩, ⟨"\"\"".toList⟩]
            attrs := [("x.y".toList, "'\x7d'".toList)] } true := by
  have hread := read_written
    { name := "Text".toList
      command := .element (.ofTag "Text" "p")
      known := by decide +kernel
      args :=
        [(⟨' ', [], List.all_eq_true.mp rfl, by decide⟩,
            .positional ⟨"\x7b a=b.c \x7d #".toList, by decide, by decide⟩),
          (⟨'\t', [], List.all_eq_true.mp rfl, by decide⟩,
            .named ⟨"x.y".toList, by decide, List.forall_iff_forall_mem.mp (by decide)⟩
              ⟨['1'], by decide, by decide⟩),
          (⟨' ', [' '], List.all_eq_true.mp rfl, by decide⟩,
            .positional ⟨[], by decide, by decide⟩),
          (⟨' ', [], List.all_eq_true.mp rfl, by decide⟩,
            .named ⟨"x.y".toList, by decide, List.forall_iff_forall_mem.mp (by decide)⟩
              ⟨"'\x7d'".toList, by decide, by decide⟩)]
      opens := true }
  obtain ⟨hlines, hline, -⟩ := hread
  refine ⟨hlines, hline.trans ?_⟩
  decide +kernel

end LivePage
