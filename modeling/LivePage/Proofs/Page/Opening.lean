/-
The elements that a source puts on the page.

A line that places an element writes its opening tag first. The tag carries
the id of the element and takes the styles that were pending. What is
written is spelled out here character by character, beside the functions
that write it:

* `Line.tag?` — the tag of the element that a line places, and
  `Line.tag?_isSome`: exactly the lines that place an element have one;
* `TagFront` — a text that begins with `<tag id="…" style="…"`, the class of a
  layout container standing between the two;
* `Session.tagFront_runLine`, `tagFront_compile` — the markup of a line that places
  an element begins so, with the id that the source gives or the next number,
  and with the pending styles, and this is where the body goes on;
* `Session.opening?`, `Session.openings` — the whole opening tags of a line and of
  a run, as records, and `Session.opening_isPrefix_markup`: the record of a line
  is what stands at the front of its markup.
-/
import LivePage.Proofs.Page.Effect
import LivePage.Proofs.Page.Run

namespace LivePage

theorem Arguments.attr?_ne_nil {args : Arguments} {key value : Text}
    (h : args.attr? key = some value) : value ≠ [] := by
  unfold Arguments.attr? at h
  split at h
  · rw [← Option.some_inj.mp h]
    exact List.cons_ne_nil _ _
  · exact absurd h (by simp)

/-! ### Tags, ids and styles in words -/

/-- The id with a number, spelled out. -/
def numberedId (n : Nat) : Text :=
  "moe-ref-".toList ++ Nat.toDigits 10 n

theorem elementId_eq (n : Nat) : elementId n = numberedId n := rfl

theorem numberedId_ne_nil (n : Nat) : numberedId n ≠ [] :=
  List.append_ne_nil_of_left_ne_nil (by decide) _

theorem numberedId_injective : Function.Injective numberedId := by
  intro m n h
  have hdigits : Nat.toDigits 10 m = Nat.toDigits 10 n := List.append_cancel_left h
  rw [← @Nat.ofDigitChars_ten_toDigits m, hdigits, Nat.ofDigitChars_ten_toDigits]

/-- Declarations as a style attribute has them, spelled out. -/
def declarationText (styles : Table Text Text) : Text :=
  styles.flatMap fun entry => entry.1 ++ ":".toList ++ entry.2 ++ ";".toList

theorem styleText_eq (styles : Table Text Text) : styleText styles = declarationText styles := by
  simp [styleText, declarationText]

namespace Command

/-- The tag of the element that a command places. -/
def tag? (args : Arguments) : Command → Option Text
  | element e => some (e.tagWith args)
  | row | column | card => some "div".toList
  | page | background | .declare | onClick | setText | alert | space => none

/-- The id that the source gives to the element of a command. Rows and columns take none. -/
def givenId? (args : Arguments) : Command → Option Text
  | element _ | card => args.attr? "id".toList
  | page | background | row | column | .declare | onClick | setText | alert | space => none

end Command

namespace Line

/-- The tag of the element that a line places. -/
def tag? (line : Line) : Option Text :=
  line.command?.bind fun run => run.1.tag? run.2

/-- The id that the source gives to the element of a line. -/
def givenId? (line : Line) : Option Text :=
  line.command?.bind fun run => run.1.givenId? run.2

/-- The lines that place an element are those that have a tag. -/
theorem tag?_isSome (line : Line) : line.tag?.isSome = line.places := by
  unfold tag? places
  cases line.command? with
  | none => rfl
  | some run =>
    obtain ⟨c, args⟩ := run
    cases c <;> rfl

theorem exists_tag? {line : Line} (h : line.places = true) : ∃ tag, line.tag? = some tag :=
  Option.isSome_iff_exists.mp (line.tag?_isSome.trans h)

theorem givenId?_ne_nil {line : Line} {id : Text} (h : line.givenId? = some id) : id ≠ [] := by
  obtain ⟨⟨c, args⟩, -, hid⟩ := Option.bind_eq_some_iff.mp h
  cases c with
  | element e => exact Arguments.attr?_ne_nil hid
  | card => exact Arguments.attr?_ne_nil hid
  | _ => cases hid

end Line

/-- The classes of the layout containers. -/
def containerClasses : List Text :=
  ["moe-row".toList, "moe-col".toList, "moe-card".toList]

/-- A text begins with the opening tag of an element, spelled out up to its style. A layout
container has its class in front of the style. -/
inductive TagFront (tag id style : Text) : Text → Prop
  | element (rest : Text) :
      TagFront tag id style
        ("<".toList ++ tag ++ " id=\"".toList ++ id ++ "\" style=\"".toList ++ style ++
          "\"".toList ++ rest)
  | container (cssClass rest : Text) : cssClass ∈ containerClasses →
      TagFront tag id style
        ("<".toList ++ tag ++ " id=\"".toList ++ id ++ "\" class=\"".toList ++ cssClass ++
          "\" style=\"".toList ++ style ++ "\"".toList ++ rest)

namespace TagFront

variable {tag id style t : Text}

theorem append (h : TagFront tag id style t) (rest : Text) : TagFront tag id style (t ++ rest) := by
  cases h with
  | element front =>
    rw [List.append_assoc]
    exact .element (front ++ rest)
  | container cssClass front hclass =>
    rw [List.append_assoc]
    exact .container cssClass (front ++ rest) hclass

/-- The id stands right behind the tag. -/
theorem exists_rest (h : TagFront tag id style t) :
    ∃ rest, t = "<".toList ++ tag ++ " id=\"".toList ++ id ++ "\"".toList ++ rest := by
  cases h with
  | element rest => exact ⟨" style=\"".toList ++ style ++ "\"".toList ++ rest, by simp⟩
  | container cssClass rest =>
    exact ⟨" class=\"".toList ++ cssClass ++ "\" style=\"".toList ++ style ++ "\"".toList ++ rest,
      by simp⟩

end TagFront

/-! ### Opening tags as records -/

/-- The opening tag of an element that has an id. -/
structure Opening where
  /-- The tag. -/
  tag : Text
  /-- The attributes, in order. -/
  attributes : List (Text × Text)
deriving DecidableEq, Repr

namespace Opening

/-- The opening tag as markup, spelled out. -/
def markup (o : Opening) : Text :=
  "<".toList ++ o.tag ++
    o.attributes.flatMap
      (fun entry => " ".toList ++ entry.1 ++ "=\"".toList ++ entry.2 ++ "\"".toList) ++
    ">".toList

/-- The value of an attribute; of two with the same name the first counts. -/
def attribute? (o : Opening) (name : Text) : Option Text :=
  Table.get? name o.attributes

/-- The opening tag of a layout container. -/
def container (cssClass id style : Text) : Opening :=
  ⟨"div".toList, [("id".toList, id), ("class".toList, cssClass), ("style".toList, style)]⟩

theorem markup_eq (o : Opening) : o.markup = openingTag o.tag o.attributes := rfl

theorem tagFront_markup (tag id style : Text) (others : List (Text × Text)) :
    TagFront tag id style
      (markup ⟨tag, [("id".toList, id), ("style".toList, style)] ++ others⟩) := by
  have hmarkup : markup ⟨tag, [("id".toList, id), ("style".toList, style)] ++ others⟩ =
      "<".toList ++ tag ++ " id=\"".toList ++ id ++ "\" style=\"".toList ++ style ++
        "\"".toList ++ (markup ⟨[], others⟩).tail := by
    simp [markup]
  rw [hmarkup]
  exact .element _

theorem tagFront_container {cssClass : Text} (hclass : cssClass ∈ containerClasses)
    (id style : Text) : TagFront "div".toList id style (container cssClass id style).markup := by
  have hmarkup : (container cssClass id style).markup =
      "<".toList ++ "div".toList ++ " id=\"".toList ++ id ++ "\" class=\"".toList ++ cssClass ++
        "\" style=\"".toList ++ style ++ "\"".toList ++ ">".toList := by
    simp [markup, container]
  rw [hmarkup]
  exact .container cssClass _ hclass

end Opening

namespace Session

/-- The opening tag that a command writes. -/
def commandOpening? (s : Session) (args : Arguments) : Command → Option Opening
  | .element e =>
    some ⟨e.tagWith args, e.attributes args (s.chooseId args).2 (styleText s.styles)⟩
  | .row => some (.container "moe-row".toList s.nextId.2 (styleText s.styles))
  | .column => some (.container "moe-col".toList s.nextId.2 (styleText s.styles))
  | .card => some (.container "moe-card".toList (s.chooseId args).2 (styleText s.styles))
  | .page | .background | .declare | .onClick | .setText | .alert | .space => none

/-- The opening tag that a line writes. -/
def opening? (s : Session) (line : Line) : Option Opening :=
  line.command?.bind fun run => s.commandOpening? run.2 run.1

/-- The opening tags that lines write, in order. -/
def openings (s : Session) : List Text → List Opening
  | [] => []
  | line :: rest => (s.opening? (.ofText line)).toList ++ (s.step line).1.openings rest

theorem commandOpening?_isSome (s : Session) (args : Arguments) (c : Command) :
    (s.commandOpening? args c).isSome = c.places := by
  cases c <;> rfl

/-- The lines that place an element are those that write an opening tag. -/
theorem opening?_isSome (s : Session) (line : Line) :
    (s.opening? line).isSome = line.places := by
  unfold opening? Line.places
  cases line.command? with
  | none => rfl
  | some run => exact s.commandOpening?_isSome run.2 run.1

/-- Markup in front of a line of markup stays in front. -/
theorem isPrefix_markupLine {start markup : Text} (h : start <+: markup) :
    start <+: markupLine markup := by
  unfold markupLine
  split
  · rename_i hempty
    rw [List.isEmpty_iff.mp hempty] at h
    exact h
  · exact h.trans (List.prefix_append markup ['\n'])

theorem chooseId_styles (s : Session) (args : Arguments) :
    (s.chooseId args).1.styles = s.styles := by
  rw [chooseId_fst]

theorem opening_isPrefix_emitElement (s : Session) (e : Element) (args : Arguments)
    (opens : Bool) :
    (Opening.mk (e.tagWith args)
        (e.attributes args (s.chooseId args).2 (styleText s.styles))).markup <+:
      (s.emitElement e args opens).2.markup := by
  rw [← s.chooseId_styles args, Opening.markup_eq]
  show _ <+: _ ++ e.content args ++ _
  rw [List.append_assoc]
  exact List.prefix_append _ _

theorem opening_isPrefix_emitContainer (s : Session) (cssClass id : Text) (opens : Bool) :
    (Opening.container cssClass id (styleText s.styles)).markup <+:
      (s.emitContainer cssClass id opens).2.markup := by
  rw [Opening.markup_eq]
  exact List.prefix_append _ _

theorem opening_isPrefix_perform {s : Session} {name : Text} {args : Arguments} {c : Command}
    {o : Opening} (hname : Command.ofName? name = some c) (h : s.commandOpening? args c = some o)
    (opens : Bool) : o.markup <+: (s.perform name args opens).2.markup := by
  unfold perform
  rw [hname]
  cases c with
  | element e =>
    cases h
    exact s.opening_isPrefix_emitElement e args opens
  | row =>
    cases h
    exact s.nextId.1.opening_isPrefix_emitContainer _ _ opens
  | column =>
    cases h
    exact s.nextId.1.opening_isPrefix_emitContainer _ _ opens
  | card =>
    cases h
    rw [← s.chooseId_styles args]
    exact ((s.chooseId args).1.setLast _).opening_isPrefix_emitContainer _ _ opens
  | _ => cases h

/-- The opening tag of a line stands at the front of its markup. -/
theorem opening_isPrefix_markup {s : Session} {line : Line} {o : Opening}
    (h : s.opening? line = some o) : o.markup <+: (s.runLine line).2.markup := by
  obtain ⟨⟨c, args⟩, hcommand, ho⟩ := Option.bind_eq_some_iff.mp h
  cases line with
  | command name args' opens =>
    obtain ⟨c', hname, hpair⟩ := Option.map_eq_some_iff.mp hcommand
    cases hpair
    exact isPrefix_markupLine (opening_isPrefix_perform hname ho opens)
  | _ => cases hcommand

/-! ### The front of the markup of a line -/

/-- The id of the element that a line places: the one that the source gives, or the next
number. -/
def ownId (s : Session) (line : Line) : Text :=
  line.givenId?.getD (numberedId (s.ids + 1))

theorem ownId_ne_nil (s : Session) (line : Line) : s.ownId line ≠ [] := by
  unfold ownId
  cases hgiven : line.givenId? with
  | none => exact numberedId_ne_nil _
  | some id => exact Line.givenId?_ne_nil hgiven

theorem chooseId_snd (s : Session) (args : Arguments) :
    (s.chooseId args).2 = (args.attr? "id".toList).getD (numberedId (s.ids + 1)) := by
  unfold chooseId
  cases args.attr? "id".toList with
  | none => exact elementId_eq (s.ids + 1)
  | some id => rfl

theorem tagFront_commandOpening? (s : Session) {c : Command} {args : Arguments} {tag : Text}
    (h : c.tag? args = some tag) :
    ∃ o, s.commandOpening? args c = some o ∧
      TagFront tag ((c.givenId? args).getD (numberedId (s.ids + 1))) (declarationText s.styles)
        o.markup := by
  rw [← styleText_eq]
  cases c with
  | element e =>
    cases h
    refine ⟨_, rfl, ?_⟩
    rw [chooseId_snd, Element.attributes, List.append_assoc, List.append_assoc]
    exact Opening.tagFront_markup _ _ _ _
  | row =>
    cases h
    exact ⟨_, rfl, Opening.tagFront_container (by decide) _ _⟩
  | column =>
    cases h
    exact ⟨_, rfl, Opening.tagFront_container (by decide) _ _⟩
  | card =>
    cases h
    refine ⟨_, rfl, ?_⟩
    rw [chooseId_snd]
    exact Opening.tagFront_container (by decide) _ _
  | _ => cases h

/-- The markup of a line that places an element begins with its tag, its id and the styles that
were pending. -/
theorem tagFront_runLine (s : Session) {line : Line} {tag : Text} (h : line.tag? = some tag) :
    TagFront tag (s.ownId line) (declarationText s.styles) (s.runLine line).2.markup := by
  obtain ⟨⟨c, args⟩, hcommand, htag⟩ := Option.bind_eq_some_iff.mp h
  obtain ⟨o, ho, hfront⟩ := s.tagFront_commandOpening? htag
  have hopening : s.opening? line = some o := by
    rw [opening?, hcommand]
    exact ho
  obtain ⟨rest, hrest⟩ := opening_isPrefix_markup hopening
  rw [ownId, Line.givenId?, hcommand, ← hrest]
  exact hfront.append rest

/-- Behind the markup of the lines before it, the markup of a run goes on with the tag of the
element that a line places. -/
theorem tagFront_run (s : Session) (before : List Text) {line tag : Text}
    (h : (Line.ofText line).tag? = some tag) (after : List Text) :
    ∃ text, (s.run (before ++ line :: after)).2.markup = (s.run before).2.markup ++ text ∧
      TagFront tag ((s.run before).1.ownId (.ofText line)) (declarationText (s.run before).1.styles)
        text := by
  refine ⟨_, s.run_append_markup before (line :: after), ?_⟩
  rw [run_cons, Output.markup_append]
  exact ((s.run before).1.tagFront_runLine h).append _

end Session

/-- The body of a page goes on with this tag, too. -/
theorem tagFront_compile {source : Text} {before : List Text} {line : Text} {after : List Text}
    (hlines : logicalLines source = before ++ line :: after) {tag : Text}
    (h : (Line.ofText line).tag? = some tag) :
    ∃ text, (compile source).body = (Session.run {} before).2.markup ++ text ∧
      TagFront tag ((Session.run {} before).1.ownId (.ofText line))
        (declarationText (Session.run {} before).1.styles) text := by
  obtain ⟨text, hmarkup, hfront⟩ := Session.tagFront_run {} before h after
  rw [← hlines] at hmarkup
  refine ⟨text ++ (closeAll (Session.run {} (logicalLines source)).1.blocks).markup, ?_,
    hfront.append _⟩
  show (Session.run {} (logicalLines source)).2.markup ++ _ = _
  rw [hmarkup, List.append_assoc]

end LivePage
