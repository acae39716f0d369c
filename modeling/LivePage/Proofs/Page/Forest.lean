/-
The block forest of a source, and its rendering.

The logical lines of a source form a forest: a line that begins a block is
a tree whose children run to the closing brace that matches it, and every
other line is a leaf. A closing brace without a partner is skipped, and a
block that is still open at the end of the source ends there.

A session keeps its open blocks on a stack and knows nothing of trees. The
two agree:

* `compile_eq_renderForest` — the body of a page is the recursive rendering
  of the forest, in which every block ends with the closing tag of the
  element that its own line placed (`blockEnd`); the session is threaded
  through the lines in the same way; and the blocks are opened and closed in
  a well-nested order.

Design notes: a forest is read from the right (`levels`), so that the
recursion is on the lines alone. A run on a stack of blocks `bs` renders the
first level, ends the first block of `bs`, renders the second level, and so
on (`renderLevels`); this is the invariant that the induction carries.
-/
import LivePage.Proofs.Page.Opening
import LivePage.Proofs.Table

namespace LivePage

/-! ### The forest of a source -/

/-- A line of a source, with what stands inside the block that begins with it. -/
inductive BlockTree where
  /-- A line with which no block begins. -/
  | leaf (line : Text)
  /-- A block: the line that begins it, and what stands inside. -/
  | block (line : Text) (children : List BlockTree)
deriving Repr

/-- The forest of some lines, cut at every closing brace that none of these lines has opened:
what stands before the first such brace, and what stands behind each of them. -/
def levels : List Text → List BlockTree × List (List BlockTree)
  | [] => ([], [])
  | line :: rest =>
    let (first, others) := levels rest
    if line = ['}'] then ([], first :: others)
    else if startsBlock line then
      match others with
      | [] => ([.block line first], [])
      | next :: others => (.block line first :: next, others)
    else (.leaf line :: first, others)

/-- The forest of the lines of a source. No line stands around them, so the cuts fall away. -/
def forest (lines : List Text) : List BlockTree :=
  (levels lines).1 ++ (levels lines).2.flatten

example :
    forest ["Row \x7b".toList, "Text".toList, ['}'], ['}'], "Ul \x7b".toList, "Li".toList] =
      [.block "Row \x7b".toList [.leaf "Text".toList],
        .block "Ul \x7b".toList [.leaf "Li".toList]] := by
  rfl

/-! ### Rendering -/

/-- The end of a block, spelled out: the closing tag of the element that its line placed, on a line
of its own. A block without a tag ends silently. -/
def blockEnd : Option Text → Text
  | none => []
  | some tag => "</".toList ++ tag ++ ">\n".toList

mutual

/-- Renders a tree: the markup of its line, its children in order, and the closing tag that
belongs to the line. -/
def BlockTree.render (s : Session) : BlockTree → Session × Text
  | .leaf line => ((s.enact (.ofText line)).1, (s.enact (.ofText line)).2.1)
  | .block line children =>
    let (s, own, _) := s.enact (.ofText line)
    let (s, inner) := renderForest s children
    (s, own ++ inner ++ blockEnd (Line.ofText line).tag?)

/-- Renders trees in order. -/
def renderForest (s : Session) : List BlockTree → Session × Text
  | [] => (s, [])
  | tree :: trees =>
    let (s, first) := tree.render s
    let (s, others) := renderForest s trees
    (s, first ++ others)

end

theorem renderForest_append (s : Session) (trees others : List BlockTree) :
    renderForest s (trees ++ others) =
      ((renderForest (renderForest s trees).1 others).1,
        (renderForest s trees).2 ++ (renderForest (renderForest s trees).1 others).2) := by
  induction trees generalizing s with
  | nil => simp [renderForest]
  | cons tree trees ih => simp [renderForest, ih]

/-- Renders levels inside open blocks: behind each level but the last the innermost block ends,
and behind the last one all that are left. -/
def renderLevels (s : Session) (first : List BlockTree) :
    List (List BlockTree) → List Block → Session × Text
  | [], blocks =>
    let (s, level) := renderForest s first
    (s, level ++ blocks.flatMap Block.closing)
  | next :: others, blocks =>
    let (s, level) := renderForest s first
    let (s, rest) := renderLevels s next others blocks.tail
    (s, level ++ (blocks.head?.map Block.closing).getD [] ++ rest)

/-- Without open blocks the levels are rendered as one forest. -/
theorem renderLevels_nil (s : Session) (first : List BlockTree) (others : List (List BlockTree)) :
    renderLevels s first others [] = renderForest s (first ++ others.flatten) := by
  induction others generalizing s first with
  | nil => simp [renderLevels]
  | cons next others ih =>
    rw [List.flatten_cons, renderForest_append, ← ih]
    simp [renderLevels]

/-- A tree in front of the first level is rendered first. -/
theorem renderLevels_cons (s : Session) (tree : BlockTree) (first : List BlockTree)
    (others : List (List BlockTree)) (blocks : List Block) :
    renderLevels s (tree :: first) others blocks =
      ((renderLevels (tree.render s).1 first others blocks).1,
        (tree.render s).2 ++ (renderLevels (tree.render s).1 first others blocks).2) := by
  cases others <;> simp [renderLevels, renderForest]

/-! ### The block that a line opens -/

theorem Element.tag_ne_nil_of_find? {name : Text} {e : Element} (h : Element.find? name = some e) :
    e.tag ≠ [] := by
  have hall : ∀ e ∈ Element.all, e.tag ≠ [] := by decide
  exact hall e (List.mem_of_find?_eq_some h)

theorem Command.tag?_ne_nil {name tag : Text} {c : Command} {args : Arguments}
    (hname : Command.ofName? name = some c) (h : c.tag? args = some tag) : tag ≠ [] := by
  cases c with
  | element e =>
    cases h
    unfold Command.ofName? at hname
    split at hname
    · rename_i found hfound
      cases hname
      unfold Element.tagWith
      split
      · exact List.cons_ne_nil _ _
      · exact Element.tag_ne_nil_of_find? hfound
    · have hlogic : ∀ entry ∈ Command.logic, entry.2 ≠ .element e := by
        simp [Command.logic]
      exact absurd rfl (hlogic _ (Table.mem_of_get? hname))
  | row => cases h; decide
  | column => cases h; decide
  | card => cases h; decide
  | _ => cases h

namespace Session

theorem perform_tag (s : Session) (name : Text) (args : Arguments) (opens : Bool) :
    (s.perform name args opens).2.tag =
      ((Command.ofName? name).bind (Command.tag? args)).getD [] := by
  unfold perform
  cases Command.ofName? name with
  | none => rfl
  | some c =>
    cases c with
    | declare =>
      dsimp only
      split <;> rfl
    | setText =>
      dsimp only
      split <;> rfl
    | _ => rfl

/-- The block that a line opens ends with the tag of the line. -/
theorem enact_closing (s : Session) (line : Line) :
    (s.enact line).2.2.closing = blockEnd line.tag? := by
  cases line with
  | command name args opens =>
    show (Block.ofTag (s.perform name args opens).2.tag).closing = _
    rw [perform_tag, Line.tag?, Line.command?]
    cases hname : Command.ofName? name with
    | none => rfl
    | some c =>
      show (Block.ofTag ((c.tag? args).getD [])).closing = blockEnd (c.tag? args)
      cases htag : c.tag? args with
      | none => rfl
      | some tag =>
        have hne : tag.isEmpty = false := by simpa using Command.tag?_ne_nil hname htag
        simp [Block.ofTag, hne, Block.closing, closingTag, blockEnd]
  | _ => rfl

/-- The markup of a line that places an element begins with the tag of the line. -/
theorem exists_enact_markup (s : Session) {line : Line} {tag : Text} (h : line.tag? = some tag) :
    ∃ rest, (s.enact line).2.1 = "<".toList ++ tag ++ " id=\"".toList ++ rest := by
  have hclose : line ≠ .close := by
    rintro rfl
    cases h
  obtain ⟨rest, hrest⟩ := (s.tagFront_runLine h).exists_rest
  rw [runLine_markup hclose] at hrest
  exact ⟨s.ownId line ++ "\"".toList ++ rest, by simp [hrest]⟩

end Session

/-! ### The open blocks play no part in what a line does -/

namespace Session

/-- The session with other open blocks. -/
def withBlocks (s : Session) (blocks : List Block) : Session :=
  { s with blocks := blocks }

theorem chooseId_withBlocks (s : Session) (blocks : List Block) (args : Arguments) :
    (s.withBlocks blocks).chooseId args =
      ((s.chooseId args).1.withBlocks blocks, (s.chooseId args).2) := by
  unfold chooseId
  split <;> rfl

theorem bindEvent_withBlocks (s : Session) (blocks : List Block) (kind : Text) :
    (s.withBlocks blocks).bindEvent kind =
      ((s.bindEvent kind).1.withBlocks blocks, (s.bindEvent kind).2) := by
  unfold bindEvent
  rw [show (s.withBlocks blocks).target? = s.target? from rfl]
  cases s.target? <;> rfl

theorem perform_withBlocks (s : Session) (blocks : List Block) (name : Text) (args : Arguments)
    (opens : Bool) :
    (s.withBlocks blocks).perform name args opens =
      ((s.perform name args opens).1.withBlocks blocks, (s.perform name args opens).2) := by
  unfold perform
  cases Command.ofName? name with
  | none => rfl
  | some c =>
    cases c with
    | element e =>
      simp only [emitElement, chooseId_withBlocks]
      rfl
    | page => rfl
    | background => rfl
    | row => rfl
    | column => rfl
    | card =>
      simp only [chooseId_withBlocks]
      rfl
    | declare =>
      dsimp only
      split <;> rfl
    | onClick =>
      simp only [bindEvent_withBlocks]
    | setText =>
      dsimp only
      split <;> rfl
    | alert => rfl
    | space => rfl

theorem enact_withBlocks (s : Session) (blocks : List Block) (line : Line) :
    (s.withBlocks blocks).enact line = ((s.enact line).1.withBlocks blocks, (s.enact line).2) := by
  cases line with
  | command name args opens =>
    simp only [enact, perform_withBlocks]
    cases (s.perform name args opens).2.script <;> rfl
  | _ => rfl

theorem step_withBlocks_of_close (s : Session) (blocks : List Block) :
    ((s.withBlocks blocks).step ['}']).1 = s.withBlocks blocks.tail ∧
      ((s.withBlocks blocks).step ['}']).2.markup =
        (blocks.head?.map Block.closing).getD [] := by
  have hline : Line.ofText ['}'] = .close := Line.ofText_eq_close_iff.mpr rfl
  unfold step
  rw [hline, runLine_fst, runLine_close_markup]
  exact ⟨rfl, rfl⟩

/-- A line that closes no block does its deed, and opens a block if one begins with it. -/
theorem step_withBlocks {line : Text} (h : line ≠ ['}']) (s : Session) (blocks : List Block) :
    ((s.withBlocks blocks).step line).1 =
        (s.enact (.ofText line)).1.withBlocks
          (if startsBlock line then (s.enact (.ofText line)).2.2 :: blocks else blocks) ∧
      ((s.withBlocks blocks).step line).2.markup = (s.enact (.ofText line)).2.1 := by
  have hclose : Line.ofText line ≠ .close := fun hc => h (Line.ofText_eq_close_iff.mp hc)
  unfold step
  rw [runLine_fst, runLine_markup hclose, blocksAfter_of_ne_close _ hclose, enact_withBlocks,
    ← Line.opens_ofText]
  exact ⟨rfl, rfl⟩

/-! ### Runs and renderings -/

/-- A run on a stack of blocks, with the blocks that are left closed at its end, renders the
levels of its lines inside these blocks. -/
theorem run_eq_renderLevels (s : Session) (blocks : List Block) (lines : List Text) :
    ((s.withBlocks blocks).run lines).1.withBlocks s.blocks =
        (renderLevels s (levels lines).1 (levels lines).2 blocks).1 ∧
      ((s.withBlocks blocks).run lines).2.markup ++
          ((s.withBlocks blocks).run lines).1.blocks.flatMap Block.closing =
        (renderLevels s (levels lines).1 (levels lines).2 blocks).2 := by
  induction lines generalizing s blocks with
  | nil => exact ⟨rfl, rfl⟩
  | cons line rest ih =>
    rw [run_cons]
    by_cases hclose : line = ['}']
    · -- the innermost block ends between the empty first level and the others
      subst hclose
      obtain ⟨hsession, hmarkup⟩ := s.step_withBlocks_of_close blocks
      obtain ⟨ih₁, ih₂⟩ := ih s blocks.tail
      simp only [hsession, Output.markup_append, hmarkup, List.append_assoc, ih₁, ih₂]
      simp [levels, renderLevels, renderForest]
    · obtain ⟨hsession, hmarkup⟩ := step_withBlocks hclose s blocks
      have hblocks := s.enact_blocks (.ofText line)
      simp only [hsession, Output.markup_append, hmarkup, List.append_assoc]
      by_cases hstarts : startsBlock line = true
      · -- the new block takes the first level of the rest as its children
        obtain ⟨ih₁, ih₂⟩ := ih (s.enact (.ofText line)).1
          ((s.enact (.ofText line)).2.2 :: blocks)
        rw [hblocks] at ih₁
        simp only [if_pos hstarts, ih₁, ih₂]
        rcases hlevels : levels rest with ⟨first, _ | ⟨next, others⟩⟩
        · simp [levels, hlevels, hclose, hstarts, renderLevels, renderForest, BlockTree.render,
            enact_closing]
        · simp only [levels, hlevels, if_neg hclose, if_pos hstarts, renderLevels_cons]
          simp [renderLevels, BlockTree.render, enact_closing]
      · obtain ⟨ih₁, ih₂⟩ := ih (s.enact (.ofText line)).1 blocks
        rw [hblocks] at ih₁
        simp only [if_neg hstarts, ih₁, ih₂]
        simp [levels, hclose, hstarts, renderLevels_cons, BlockTree.render]

end Session

/-! ### The order in which blocks are opened and closed -/

/-- What happens to a block. -/
inductive BlockEvent where
  /-- The block is opened. -/
  | opened (block : Block)
  /-- The block is closed. -/
  | closed (block : Block)
deriving DecidableEq, Repr

/-- Sequences in which every opened block is closed once, after all blocks opened inside it. -/
inductive WellNested : List BlockEvent → Prop
  | nil : WellNested []
  | block {block : Block} {inner rest : List BlockEvent} :
      WellNested inner → WellNested rest →
        WellNested (.opened block :: (inner ++ .closed block :: rest))

/-- What happened between two states of the stack: it grew, shrank or stayed. -/
def stackChange (before after : List Block) : List BlockEvent :=
  if before.length < after.length then (after.head?.map .opened).toList
  else if after.length < before.length then (before.head?.map .closed).toList
  else []

@[simp] theorem stackChange_push (block : Block) (blocks : List Block) :
    stackChange blocks (block :: blocks) = [.opened block] := by
  simp [stackChange]

@[simp] theorem stackChange_pop (block : Block) (blocks : List Block) :
    stackChange (block :: blocks) blocks = [.closed block] := by
  simp [stackChange]

@[simp] theorem stackChange_self (blocks : List Block) : stackChange blocks blocks = [] := by
  simp [stackChange]

/-- What happens to the blocks of a session while lines run, and when what is left open is
closed at the end. -/
def Session.blockEvents (s : Session) : List Text → List BlockEvent
  | [] => s.drainBlocks.2.map .closed
  | line :: rest => stackChange s.blocks (s.step line).1.blocks ++ (s.step line).1.blockEvents rest

/-- Sequences that close the given blocks, innermost first, and are well nested in between. -/
def Unwinds : List Block → List BlockEvent → Prop
  | [], events => WellNested events
  | block :: blocks, events =>
    ∃ inner rest, WellNested inner ∧ Unwinds blocks rest ∧ events = inner ++ .closed block :: rest

theorem unwinds_map_closed (blocks : List Block) : Unwinds blocks (blocks.map .closed) := by
  induction blocks with
  | nil => exact .nil
  | cons block blocks ih => exact ⟨[], blocks.map .closed, .nil, ih, rfl⟩

/-- A whole block may stand in front. -/
theorem Unwinds.block {blocks : List Block} {block : Block} {inner rest : List BlockEvent}
    (hinner : WellNested inner) (hrest : Unwinds blocks rest) :
    Unwinds blocks (.opened block :: (inner ++ .closed block :: rest)) := by
  cases blocks with
  | nil => exact WellNested.block hinner hrest
  | cons outer blocks =>
    obtain ⟨next, others, hnext, hothers, rfl⟩ := hrest
    refine ⟨.opened block :: (inner ++ .closed block :: next), others, ?_, hothers, by simp⟩
    exact WellNested.block hinner hnext

/-- The events of a run close the blocks that were open when it began. -/
theorem Session.unwinds_blockEvents (s : Session) (lines : List Text) :
    Unwinds s.blocks (s.blockEvents lines) := by
  induction lines generalizing s with
  | nil => exact unwinds_map_closed s.blocks
  | cons line rest ih =>
    have hrest := ih (s.step line).1
    rw [Session.blockEvents]
    rw [Session.step_blocks] at hrest ⊢
    by_cases hclose : line = ['}']
    · rw [if_pos hclose] at hrest ⊢
      -- without an open block the brace does nothing
      cases hs : s.blocks with
      | nil => simpa [hs] using hrest
      | cons block blocks =>
        rw [hs, List.tail_cons] at hrest
        exact ⟨[], _, .nil, hrest, by rw [List.tail_cons, stackChange_pop]; rfl⟩
    · rw [if_neg hclose] at hrest ⊢
      by_cases hstarts : startsBlock line = true
      · rw [if_pos hstarts] at hrest ⊢
        -- the rest closes the new block before any that was open
        obtain ⟨inner, others, hinner, hothers, hevents⟩ := hrest
        rw [hevents, stackChange_push]
        exact Unwinds.block hinner hothers
      · rw [if_neg hstarts] at hrest ⊢
        rw [stackChange_self]
        exact hrest

/-- **A page is the rendering of the block forest of its source.** The body is the recursive
rendering, in which each block ends with the closing tag of the element that its own line placed;
the session that the lines leave, once its blocks are closed, is the one threaded through the
forest; and whether by a closing brace or at the end of the source, every block that is opened is
closed once, innermost first. The tag of a line is the one that its own markup begins with. -/
theorem compile_eq_renderForest (source : Text) :
    (compile source).body = (renderForest {} (forest (logicalLines source))).2 ∧
      (Session.run {} (logicalLines source)).1.drainBlocks.1 =
        (renderForest {} (forest (logicalLines source))).1 ∧
      WellNested (Session.blockEvents {} (logicalLines source)) ∧
      ∀ (s : Session) (line tag : Text), (Line.ofText line).tag? = some tag →
        ∃ rest, (s.enact (.ofText line)).2.1 = "<".toList ++ tag ++ " id=\"".toList ++ rest := by
  obtain ⟨hsession, hbody⟩ := Session.run_eq_renderLevels {} [] (logicalLines source)
  rw [renderLevels_nil] at hsession hbody
  exact ⟨hbody, hsession, Session.unwinds_blockEvents {} (logicalLines source),
    fun s line tag htag => s.exists_enact_markup htag⟩

/-- Blocks inside each other, a brace too many, and two blocks that are still open at the end, one
of them silent. -/
theorem compile_eq_renderForest_nested :
    (renderForest {} (forest (logicalLines
        "Row \x7b\nTitle \"a\" size=2 \x7b\n\x7d\n\x7d\n\x7d\nUl \x7b\nVar \x7b".toList))).2 =
      ("<div id=\"moe-ref-1\" class=\"moe-row\" style=\"\">\n" ++
        "<h2 id=\"moe-ref-2\" style=\"\" class=\"moe-element moe-title\">a\n</h2>\n</div>\n" ++
        "<ul id=\"moe-ref-3\" style=\"\" class=\"moe-element moe-ul\">\n</ul>\n").toList ∧
      (Line.ofText "Row \x7b".toList).tag? = some "div".toList ∧
      ∃ rest, (Session.enact {} (.ofText "Row \x7b".toList)).2.1 =
        "<".toList ++ "div".toList ++ " id=\"".toList ++ rest := by
  obtain ⟨hbody, -, -, hfront⟩ :=
    compile_eq_renderForest "Row \x7b\nTitle \"a\" size=2 \x7b\n\x7d\n\x7d\n\x7d\nUl \x7b\nVar \x7b".toList
  have htag : (Line.ofText "Row \x7b".toList).tag? = some "div".toList := by decide +kernel
  refine ⟨?_, htag, hfront {} "Row \x7b".toList _ htag⟩
  rw [← hbody]
  decide +kernel

end LivePage
