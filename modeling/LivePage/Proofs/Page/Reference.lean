/-
The references of the script, and what follows the namespace in them.

A statement refers to the global namespace in four places: the variable that a
`Var` sets, the bare name that a `Set` shows, the variable that a `Set` with an
expression shows, and each bare name of the expression. The first three are
taken from a positional value of the line as it stands:

* `Part`, `Line.parts` — the statement of a line with its references marked, and
  `Adds.written_parts`: without the marks it is what the script gets;
* `references` — the references of a statement, each with the text behind it;
* `begins_stripQuotes` — a value begins an identifier exactly if its token does,
  one quote at the front apart;
* `references_begin_iff` — so a bare name of an expression always begins an
  identifier, and any other reference exactly if its token does.

Design notes: what counts as a letter beyond ASCII is left open. Nothing here
depends on it, as no quote, point or line end is a letter.
-/
import LivePage.Proofs.Page.Alignment
import LivePage.Proofs.Page.Literal
import LivePage.Proofs.Script.Qualify

namespace LivePage

/-! ### Marked statements -/

/-- Where the text behind the namespace is taken from. -/
inductive Origin where
  /-- A bare name of an expression. -/
  | identifier
  /-- The positional value at an index. -/
  | value (index : Nat)
deriving DecidableEq, Repr

/-- A part of a statement. -/
inductive Part where
  /-- Text as it stands. -/
  | text (t : Text)
  /-- The namespace with its point, in front of a text of the source. -/
  | reference (origin : Origin)
deriving DecidableEq, Repr

def Part.written : Part → Text
  | text t => t
  | reference _ => Script.globalRef []

/-- The text of a marked statement. -/
def statementText (parts : List Part) : Text :=
  parts.flatMap Part.written

/-- The references of a statement, each with the text that follows it. -/
def references : List Part → List (Origin × Text)
  | [] => []
  | .text _ :: rest => references rest
  | .reference origin :: rest => (origin, statementText rest) :: references rest

def qualifyParts (e : Text) : List Part :=
  e.zipIdx.flatMap fun entry =>
    if Script.IsBareName e entry.2 then [.reference .identifier, .text [entry.1]]
    else [.text [entry.1]]

def showParts (target : Text) (value : List Part) : List Part :=
  .text ("const el = document.getElementById(\"".toList ++ target ++
    "\"); if(el) el.innerText = ".toList) :: value ++ [.text [';']]

/-- The statement of a `Set`, marked. -/
def setParts (target : Text) (token : Option Token) : List Part :=
  let value := (token.map fun t => stripQuotes t.text).getD []
  if Script.isCompound value then
    qualifyParts value ++ .text "; ".toList ::
      showParts target [.reference (.value 0), .text (target.takeWhile (· != '.'))]
  else if token.all Token.quoted || value.isEmpty then
    showParts target [.text ('"' :: value ++ ['"'])]
  else showParts target [.reference (.value 1), .text value]

/-- The statement of a command, marked. -/
def Command.parts (args : Arguments) : Command → List Part
  | .declare =>
    if (args.param 0).isEmpty then []
    else
      [.reference (.value 0),
        .text (args.param 0 ++ " = ".toList ++ args.paramD 1 ['0'] ++ [';'])]
  | setText => if (args.param 0).isEmpty then [] else setParts (args.param 0) args.raw[1]?
  | alert => [.text (alertText (args.param 0))]
  | element _ | page | background | row | column | card | onClick | space => []

namespace Line

/-- The statement of a line, marked. -/
def parts (line : Line) : List Part :=
  (line.command?.map fun run => run.1.parts run.2).getD []

/-- The positional tokens of the command on the line. -/
def positional (line : Line) : List Token :=
  (line.command?.map (·.2.raw)).getD []

end Line

theorem statementText_append (xs ys : List Part) :
    statementText (xs ++ ys) = statementText xs ++ statementText ys :=
  List.flatMap_append

theorem statementText_qualifyParts (e : Text) :
    statementText (qualifyParts e) = Script.qualify e := by
  have hqualify : Script.qualify e = e.zipIdx.flatMap (Script.written e) :=
    Script.qualifyFrom_eq_flatMap e List.drop_zero
  rw [hqualify, statementText, qualifyParts, List.flatMap_assoc]
  congr 1
  funext entry
  rw [Script.written]
  split <;> rfl

theorem statementText_showParts (target : Text) (value : List Part) :
    statementText (showParts target value) = Script.showText target (statementText value) := by
  show _ ++ statementText (value ++ [.text [';']]) = _
  rw [statementText_append, ← List.append_assoc]
  rfl

theorem statementText_setParts (target : Text) (token : Option Token) :
    statementText (setParts target token) = Session.setStatement target token := by
  rw [setParts, Session.setStatement]
  split
  · rw [statementText_append, statementText_qualifyParts, List.append_assoc]
    show _ ++ ("; ".toList ++ statementText (showParts target _)) = _
    rw [statementText_showParts]
    simp [statementText, Part.written, Script.globalRef]
  · split
    · rw [statementText_showParts]
      simp [statementText, Part.written]
    · rw [statementText_showParts]
      simp [statementText, Part.written, Script.globalRef]

/-- What a line adds to the script is its statement without the marks, plain or wrapped. -/
theorem Adds.written_parts {line : Line} {entry : Text} (h : Adds line entry) :
    entry = statementText line.parts ∨ Wrapped (statementText line.parts) entry := by
  have hparts : ∀ {c args}, line.command? = some (c, args) → line.parts = c.parts args := by
    intro c args hcommand
    rw [Line.parts, hcommand]
    rfl
  cases h with
  | assignment args hcommand hname =>
    left
    rw [hparts hcommand, Command.parts, if_neg (by simpa using hname)]
    have hreference : Part.written (.reference (.value 0)) = "window.".toList := rfl
    unfold assignmentText
    simp only [statementText, List.flatMap_cons, List.flatMap_nil, List.append_nil,
      List.append_assoc, hreference]
    rfl
  | alert args hcommand =>
    left
    rw [hparts hcommand]
    simp [Command.parts, statementText, Part.written]
  | boundAlert args id hcommand hid =>
    right
    rw [hparts hcommand]
    have htext : statementText (Command.parts args .alert) = alertText (args.param 0) := by
      simp [Command.parts, statementText, Part.written]
    rw [htext]
    exact .listens id hid
  | setText args entry hcommand htarget hwrapped =>
    right
    rw [hparts hcommand, Command.parts, if_neg (by simpa using htarget), statementText_setParts]
    exact hwrapped

/-! ### Beginnings of identifiers -/

/-- The characters that can begin an identifier of the script: `_`, `$` and the letters, of which
`letter` tells those beyond ASCII. -/
def beginsIdentifier (letter : Char → Bool) (c : Char) : Bool :=
  isAsciiLetter c || c == '_' || c == '$' || (128 ≤ c.toNat && letter c)

def Begins (letter : Char → Bool) (t : Text) : Prop :=
  t.head?.any (beginsIdentifier letter) = true

/-- What a text has behind one quote at its front, if there is one. -/
def withoutOpeningQuote : Text → Text
  | [] => []
  | c :: rest => if isQuote c then rest else c :: rest

section Begins

variable (letter : Char → Bool)

theorem begins_cons (c : Char) (t : Text) :
    Begins letter (c :: t) ↔ beginsIdentifier letter c = true :=
  Iff.rfl

/-- A character that begins no identifier, whatever counts as a letter. -/
theorem not_begins_cons {c : Char} (hc : beginsIdentifier (fun _ => true) c = false) (t : Text) :
    ¬ Begins letter (c :: t) := by
  rw [begins_cons, beginsIdentifier]
  rw [beginsIdentifier, Bool.and_true, Bool.or_eq_false_iff] at hc
  simp [hc.1, hc.2]

theorem not_begins_quote {c : Char} (hc : isQuote c = true) (t : Text) :
    ¬ Begins letter (c :: t) := by
  rcases Bool.or_eq_true_iff.mp hc with hdouble | hsingle
  · rw [beq_iff_eq.mp hdouble]
    exact not_begins_cons letter (by decide) t
  · rw [beq_iff_eq.mp hsingle]
    exact not_begins_cons letter (by decide) t

theorem begins_of_startsName {c : Char} (hc : Script.startsName c = true) (t : Text) :
    Begins letter (c :: t) := by
  rw [begins_cons, beginsIdentifier]
  rcases Bool.or_eq_true_iff.mp hc with hletter | hscore
  · simp [hletter]
  · simp [hscore]

theorem begins_append {s : Text} (hs : s ≠ []) (t : Text) :
    Begins letter (s ++ t) ↔ Begins letter s := by
  cases s with
  | nil => exact absurd rfl hs
  | cons c s => exact Iff.rfl

theorem begins_dropEndQuote (t : Text) : Begins letter (dropEndQuote t) ↔ Begins letter t := by
  match t with
  | [] => exact Iff.rfl
  | [c] =>
    rw [dropEndQuote]
    split
    · rename_i hc
      exact iff_of_false (by simp [Begins]) (not_begins_quote letter hc [])
    · exact Iff.rfl
  | [c, d] =>
    rw [dropEndQuote]
    split
    · exact Iff.rfl
    · split
      · -- the quote stands before a line end, which then comes first
        rename_i hends
        obtain ⟨hc, rfl⟩ : isQuote c = true ∧ d = '\n' := by simpa using hends
        refine iff_of_false ?_ (not_begins_quote letter hc _)
        exact not_begins_cons letter (by decide) []
      · exact Iff.rfl
  | c :: d :: e :: rest => exact Iff.rfl

theorem begins_stripQuotes (t : Text) :
    Begins letter (stripQuotes t) ↔ Begins letter (withoutOpeningQuote t) := by
  cases t with
  | nil => exact Iff.rfl
  | cons c rest => exact begins_dropEndQuote letter _

theorem begins_takeWhile {t : Text} (ht : t ≠ []) (rest : Text) :
    Begins letter (t.takeWhile (· != '.') ++ ';' :: rest) ↔ Begins letter t := by
  cases t with
  | nil => exact absurd rfl ht
  | cons c t =>
    by_cases hc : c = '.'
    · rw [hc, List.takeWhile_cons_of_neg (by simp)]
      exact iff_of_false (not_begins_cons letter (by decide) rest)
        (not_begins_cons letter (by decide) t)
    · rw [List.takeWhile_cons_of_pos (by simpa using hc)]
      exact Iff.rfl

end Begins

/-! ### References -/

theorem mem_references_append {xs ys : List Part} {origin : Origin} {behind : Text}
    (h : (origin, behind) ∈ references (xs ++ ys)) :
    (∃ front, (origin, front) ∈ references xs ∧ behind = front ++ statementText ys) ∨
      (origin, behind) ∈ references ys := by
  induction xs with
  | nil => exact .inr h
  | cons part xs ih =>
    cases part with
    | text t => exact ih h
    | reference first =>
      rcases List.mem_cons.mp h with heq | h
      · rw [Prod.mk.injEq] at heq
        obtain ⟨rfl, rfl⟩ := heq
        exact .inl ⟨_, List.mem_cons_self, statementText_append xs ys⟩
      · refine (ih h).imp_left ?_
        rintro ⟨front, hfront, heq⟩
        exact ⟨front, List.mem_cons_of_mem _ hfront, heq⟩

theorem references_qualifyParts {e : Text} {origin : Origin} {behind : Text}
    (h : (origin, behind) ∈ references (qualifyParts e)) :
    origin = .identifier ∧ ∃ c rest, behind = c :: rest ∧ Script.startsName c = true := by
  have hentries : ∀ entry ∈ e.zipIdx, e[entry.2]? = some entry.1 := by
    intro entry hentry
    exact List.mem_zipIdx_iff_getElem?.mp hentry
  rw [qualifyParts] at h
  -- the entries still to come are all characters of `e` at their positions
  generalize e.zipIdx = entries at h hentries
  induction entries with
  | nil => exact absurd h List.not_mem_nil
  | cons entry entries ih =>
    have hrest := fun other hother => hentries other (List.mem_cons_of_mem entry hother)
    rw [List.flatMap_cons] at h
    split at h
    · rename_i hbare
      rcases List.mem_cons.mp h with heq | h
      · rw [Prod.mk.injEq] at heq
        obtain ⟨c, hc, hstarts⟩ := hbare.starts
        obtain rfl : entry.1 = c :=
          Option.some_inj.mp ((hentries entry List.mem_cons_self).symm.trans hc)
        exact ⟨heq.1, entry.1, _, heq.2, hstarts⟩
      · exact ih h hrest
    · exact ih h hrest

theorem mem_references_showParts {target : Text} {value : List Part} {origin : Origin}
    {behind : Text} (h : (origin, behind) ∈ references (showParts target value)) :
    ∃ front, (origin, front) ∈ references value ∧ behind = front ++ [';'] := by
  rcases mem_references_append (show _ ∈ references (value ++ [.text [';']]) from h) with h | h
  · exact h
  · exact absurd h List.not_mem_nil

/-- The one reference of a statement that shows a name. -/
theorem references_showParts_reference (target : Text) {name : Text} {origin place : Origin}
    {behind : Text}
    (h : (origin, behind) ∈ references (showParts target [.reference place, .text name])) :
    origin = place ∧ behind = name ++ [';'] := by
  obtain ⟨front, hfront, rfl⟩ := mem_references_showParts h
  rcases List.mem_cons.mp hfront with heq | hnil
  · rw [Prod.mk.injEq] at heq
    refine ⟨heq.1, ?_⟩
    rw [heq.2]
    simp [statementText, Part.written]
  · exact absurd hnil List.not_mem_nil

theorem Arguments.exists_raw_of_param {tokens : List Token} {i : Nat}
    (h : (ofTokens tokens).param i ≠ []) :
    ∃ token, (ofTokens tokens).raw[i]? = some token ∧
      (ofTokens tokens).param i = stripQuotes token.text := by
  rw [param_eq] at h ⊢
  cases hraw : (ofTokens tokens).raw[i]? with
  | none =>
    rw [hraw] at h
    exact absurd rfl h
  | some token => exact ⟨token, rfl, rfl⟩

/-- The text behind a reference begins an identifier exactly if its origin does: a bare name of an
expression always, and a positional value if its token does behind one quote at the front. -/
def Origin.Decides (origin : Origin) (letter : Char → Bool) (tokens : List Token) (behind : Text) :
    Prop :=
  match origin with
  | identifier => Begins letter behind
  | value index => ∃ token, tokens[index]? = some token ∧
      (Begins letter behind ↔ Begins letter (withoutOpeningQuote token.text))

theorem decides_declare (letter : Char → Bool) {tokens : List Token} {origin : Origin}
    {behind : Text}
    (h : (origin, behind) ∈ references (Command.parts (.ofTokens tokens) .declare)) :
    origin.Decides letter (Arguments.ofTokens tokens).raw behind := by
  rw [Command.parts] at h
  split at h
  · exact absurd h List.not_mem_nil
  · rename_i hempty
    have hname : (Arguments.ofTokens tokens).param 0 ≠ [] := by simpa using hempty
    obtain ⟨token, hraw, hparam⟩ := Arguments.exists_raw_of_param hname
    rcases List.mem_cons.mp h with heq | hnil
    · rw [Prod.mk.injEq] at heq
      have hbehind : behind = (Arguments.ofTokens tokens).param 0 ++
          (" = ".toList ++ (Arguments.ofTokens tokens).paramD 1 ['0'] ++ [';']) := by
        rw [heq.2]
        simp [statementText, Part.written]
      rw [heq.1, hbehind]
      refine ⟨token, hraw, ?_⟩
      rw [← begins_stripQuotes, ← hparam]
      exact begins_append letter hname _
    · exact absurd hnil List.not_mem_nil

theorem decides_setText (letter : Char → Bool) {tokens : List Token} {origin : Origin}
    {behind : Text}
    (h : (origin, behind) ∈ references (Command.parts (.ofTokens tokens) .setText)) :
    origin.Decides letter (Arguments.ofTokens tokens).raw behind := by
  rw [Command.parts] at h
  split at h
  · exact absurd h List.not_mem_nil
  rename_i hempty
  have htarget : (Arguments.ofTokens tokens).param 0 ≠ [] := by simpa using hempty
  rw [setParts] at h
  split at h
  · -- an expression: its bare names, and the variable that is shown behind them
    rcases mem_references_append h with ⟨front, hfront, rfl⟩ | hshown
    · obtain ⟨rfl, c, rest, rfl, hstarts⟩ := references_qualifyParts hfront
      exact begins_of_startsName letter hstarts _
    · obtain ⟨rfl, rfl⟩ :=
        references_showParts_reference ((Arguments.ofTokens tokens).param 0) hshown
      obtain ⟨token, hraw, hparam⟩ := Arguments.exists_raw_of_param htarget
      refine ⟨token, hraw, ?_⟩
      rw [← begins_stripQuotes, ← hparam]
      exact begins_takeWhile letter htarget []
  · split at h
    · obtain ⟨front, hfront, -⟩ := mem_references_showParts h
      exact absurd hfront List.not_mem_nil
    · rename_i hbare
      obtain ⟨rfl, rfl⟩ := references_showParts_reference _ h
      cases hraw : (Arguments.ofTokens tokens).raw[1]? with
      | none =>
        rw [hraw] at hbare
        exact absurd rfl hbare
      | some token =>
        rw [hraw] at hbare
        have hvalue : stripQuotes token.text ≠ [] := by
          intro hnil
          simp [hnil] at hbare
        refine ⟨token, hraw, ?_⟩
        rw [← begins_stripQuotes]
        exact begins_append letter hvalue [';']

/-- **What follows the namespace begins an identifier exactly if the source does.** The script of a
source is made of the statements of its lines. In these a bare name of an expression always begins
an identifier; the variable of a `Var` and the one that a `Set` with an expression shows do so
exactly if the first positional token of the line does, and the name that any other `Set` shows
exactly if the second one does, one quote at the front of the token apart. -/
theorem references_begin_iff (letter : Char → Bool) (source : Text) :
    List.Forall₂
        (fun line entry => entry = statementText line.parts ∨ Wrapped (statementText line.parts) entry)
        (((logicalLines source).map Line.ofText).filter Line.scripting) (compile source).scripts ∧
      ∀ line ∈ logicalLines source, ∀ reference ∈ references (Line.ofText line).parts,
        reference.1.Decides letter (Line.ofText line).positional reference.2 := by
  refine ⟨(Session.run_scripts (logicalLines source)).imp fun _ _ h => h.written_parts, ?_⟩
  rintro line - ⟨origin, behind⟩ hreference
  cases hcommand : (Line.ofText line).command? with
  | none =>
    rw [Line.parts, hcommand] at hreference
    exact absurd hreference List.not_mem_nil
  | some run =>
    obtain ⟨c, args⟩ := run
    obtain ⟨name, rest, -, -, rfl⟩ := Line.exists_tokens hcommand
    rw [Line.positional, hcommand]
    rw [Line.parts, hcommand] at hreference
    cases c with
    | declare => exact decides_declare letter hreference
    | setText => exact decides_setText letter hreference
    | _ => exact absurd hreference List.not_mem_nil

/-- A name in quotes as the name of a variable. -/
theorem references_begin_iff_quoted :
    (Origin.value 0, "n = 1;".toList) ∈ references (Line.ofText "Var 'n' 1".toList).parts ∧
      ∃ token, (Line.ofText "Var 'n' 1".toList).positional[0]? = some token ∧
        (Begins (fun _ => false) "n = 1;".toList ↔
          Begins (fun _ => false) (withoutOpeningQuote token.text)) := by
  have hreference : (Origin.value 0, "n = 1;".toList) ∈
      references (Line.ofText "Var 'n' 1".toList).parts := by decide +kernel
  have hline : "Var 'n' 1".toList ∈ logicalLines "Var 'n' 1".toList := by decide +kernel
  exact ⟨hreference,
    (references_begin_iff (fun _ => false) "Var 'n' 1".toList).2 _ hline _ hreference⟩

/-- A number as the name of a variable, as the name that is shown, and no name in front of the point
of a target: each time what follows the namespace begins no identifier. -/
theorem number_referenced :
    (compile "Var 5 1\nSet x 5\nSet .x \"n++\"".toList).scripts =
        ["window.5 = 1;".toList,
          ("\x7b const el = document.getElementById(\"x\"); if(el) el.innerText = " ++
            "window.5; \x7d").toList,
          ("\x7b window.n++; const el = document.getElementById(\".x\"); " ++
            "if(el) el.innerText = window.; \x7d").toList] ∧
      (Origin.value 0, "5 = 1;".toList) ∈ references (Line.ofText "Var 5 1".toList).parts ∧
      (Origin.value 1, "5;".toList) ∈ references (Line.ofText "Set x 5".toList).parts ∧
      (Origin.value 0, ";".toList) ∈ references (Line.ofText "Set .x \"n++\"".toList).parts ∧
      ∀ letter : Char → Bool, ¬ Begins letter "5 = 1;".toList ∧ ¬ Begins letter "5;".toList ∧
        ¬ Begins letter ";".toList := by
  refine ⟨by decide +kernel, by decide +kernel, by decide +kernel, by decide +kernel, ?_⟩
  intro letter
  exact ⟨not_begins_cons letter (by decide) _, not_begins_cons letter (by decide) _,
    not_begins_cons letter (by decide) _⟩

end LivePage
