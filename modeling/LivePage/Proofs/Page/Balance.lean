/-
Balanced braces and the open blocks.

Lines are broken at bare braces before they are read, and a piece that ends
with an opening brace may then turn out to be a comment or a style line,
which opens no block. A source with balanced braces leaves no block open in
any case, but ignores one closing brace for each opening brace that was kept
in this way.

* `Session.step_cases` — what a line does to the stack, by its brace;
* `Session.run_of_closes` — what lines do to the stack, by their braces;
* `Session.blockEvents_of_closes` — braces that are read are block events;
* `run_of_balanced` — the same for a whole source.

Design notes: `Closes depth` is the invariant of a run. The depth counts the
blocks that the braces have opened and not yet closed, and the stack never
holds more: each brace that was kept leaves it one block short, until a
closing brace finds nothing to close.
-/
import Mathlib.Data.List.Infix
import LivePage.Proofs.Page.Forest
import LivePage.Proofs.Source.Brace

namespace LivePage

/-- Braces of which no prefix closes more than it opens, and which close all that they open. -/
structure Balanced (braces : List Char) : Prop where
  /-- No prefix has more closing braces than opening ones. -/
  prefixes : ∀ p ∈ braces.inits, p.count '}' ≤ p.count '{'
  /-- There are as many of one as of the other. -/
  total : braces.count '{' = braces.count '}'

/-- Braces that close `depth` blocks besides their own. -/
structure Closes (depth : Nat) (braces : List Char) : Prop where
  /-- No prefix closes more than the `depth` blocks and its own. -/
  prefixes : ∀ p, p <+: braces → p.count '}' ≤ depth + p.count '{'
  /-- All of them are closed. -/
  total : braces.count '}' = depth + braces.count '{'

/-- The brace of a block event. -/
def BlockEvent.brace : BlockEvent → Char
  | .opened _ => '{'
  | .closed _ => '}'

theorem Balanced.closes {braces : List Char} (h : Balanced braces) : Closes 0 braces where
  prefixes p hp := by
    rw [Nat.zero_add]
    exact h.prefixes p ((List.mem_inits p braces).mpr hp)
  total := by rw [Nat.zero_add, h.total]

namespace Closes

theorem of_nil {depth : Nat} (h : Closes depth []) : depth = 0 := by
  simpa using h.total.symm

/-- An opening brace adds to the blocks that the others close. -/
theorem of_open {depth : Nat} {braces : List Char} (h : Closes depth ('{' :: braces)) :
    Closes (depth + 1) braces where
  prefixes p hp := by
    have hp := h.prefixes ('{' :: p) (List.cons_prefix_cons.mpr ⟨rfl, hp⟩)
    rw [List.count_cons_self, List.count_cons_of_ne (by decide)] at hp
    omega
  total := by
    have htotal := h.total
    rw [List.count_cons_self, List.count_cons_of_ne (by decide)] at htotal
    omega

/-- A closing brace is itself a prefix, so it closes one of the blocks. -/
theorem of_close {depth : Nat} {braces : List Char} (h : Closes depth ('}' :: braces)) :
    ∃ outer, depth = outer + 1 ∧ Closes outer braces := by
  have hfirst := h.prefixes ['}'] (List.cons_prefix_cons.mpr ⟨rfl, List.nil_prefix⟩)
  have hpos : 1 ≤ depth := hfirst
  refine ⟨depth - 1, by omega, ⟨fun p hp => ?_, ?_⟩⟩
  · have hp := h.prefixes ('}' :: p) (List.cons_prefix_cons.mpr ⟨rfl, hp⟩)
    rw [List.count_cons_self, List.count_cons_of_ne (by decide)] at hp
    omega
  · have htotal := h.total
    rw [List.count_cons_self, List.count_cons_of_ne (by decide)] at htotal
    omega

end Closes

/-- How many closing braces found nothing to close. -/
def Output.ignored (o : Output) : Nat :=
  o.notices.count .nothingToClose

@[simp] theorem Output.ignored_append (o p : Output) :
    (o ++ p).ignored = o.ignored + p.ignored :=
  List.count_append

/-! ### One line -/

namespace Session

/-- No command complains about a closing brace. -/
theorem nothingToClose_not_mem_perform (s : Session) (name : Text) (args : Arguments)
    (opens : Bool) : .nothingToClose ∉ (s.perform name args opens).2.notices := by
  unfold perform
  cases Command.ofName? name with
  | none => simp
  | some c =>
    cases c with
    | element e => simp [emitElement]
    | page => simp
    | background => simp
    | row => simp [emitContainer]
    | column => simp [emitContainer]
    | card => simp [emitContainer]
    | declare =>
      dsimp only
      split <;> simp
    | onClick =>
      dsimp only
      split <;> simp
    | setText =>
      dsimp only
      split <;> simp
    | alert => simp
    | space => simp

/-- A line finds nothing to close only if it is a closing brace and no block is open. -/
theorem ignored_runLine (s : Session) (line : Line) :
    (s.runLine line).2.ignored = if line = .close ∧ s.blocks = [] then 1 else 0 := by
  cases line with
  | close =>
    rcases s with ⟨scripts, blocks, ids, last, styles, event⟩
    cases blocks <;> rfl
  | command name args opens =>
    exact List.count_eq_zero.mpr (s.nothingToClose_not_mem_perform name args opens)
  | _ => rfl

/-- What a line does to the stack of open blocks, and when it finds nothing to close. -/
theorem step_cases (s : Session) (line : Text) :
    (lineBrace? line = some '{' ∧ (∃ block, (s.step line).1.blocks = block :: s.blocks) ∧
        (s.step line).2.ignored = 0) ∨
      (lineBrace? line = some '}' ∧ (s.step line).1.blocks = s.blocks.tail ∧
        (s.step line).2.ignored = if s.blocks = [] then 1 else 0) ∨
      (lineBrace? line = none ∧ (s.step line).1.blocks = s.blocks ∧
        (s.step line).2.ignored = 0) := by
  have hignored : (s.step line).2.ignored = _ := s.ignored_runLine (.ofText line)
  have hblocks := s.step_blocks line
  simp only [Line.ofText_eq_close_iff] at hignored
  unfold lineBrace? braceBy?
  by_cases hclose : line = ['}']
  · subst hclose
    exact .inr (.inl ⟨by decide, hblocks, by simpa using hignored⟩)
  · rw [if_neg fun h => hclose h.1] at hignored
    rw [if_neg hclose] at hblocks
    by_cases hstarts : startsBlock line = true
    · rw [if_pos hstarts] at hblocks
      exact .inl ⟨if_pos hstarts, ⟨_, hblocks⟩, hignored⟩
    · rw [if_neg hstarts] at hblocks
      exact .inr (.inr ⟨by rw [if_neg hstarts, if_neg hclose], hblocks, hignored⟩)

/-- A line that is read as no brace leaves the stack as it is. -/
theorem step_of_none {s : Session} {line : Text} (h : lineBrace? line = none) :
    (s.step line).1.blocks = s.blocks ∧ (s.step line).2.ignored = 0 := by
  rcases s.step_cases line with ⟨hbrace, -, -⟩ | ⟨hbrace, -, -⟩ | ⟨-, hstep⟩
  · exact absurd (h.symm.trans hbrace) (by simp)
  · exact absurd (h.symm.trans hbrace) (by simp)
  · exact hstep

/-! ### Comments -/

theorem step_of_isComment {line : Text} (h : isComment line = true) (s : Session) :
    s.step line = (s, {}) :=
  step_of_skip (by rw [h, Bool.or_true]) s

theorem run_filter_isComment (s : Session) (lines : List Text) :
    s.run (lines.filter (!isComment ·)) = s.run lines := by
  induction lines generalizing s with
  | nil => rfl
  | cons line rest ih =>
    cases hcomment : isComment line with
    | true =>
      rw [List.filter_cons_of_neg (by simp [hcomment]), run_cons, step_of_isComment hcomment, ih]
      rfl
    | false => rw [List.filter_cons_of_pos (by simp [hcomment]), run_cons, run_cons, ih]

theorem blockEvents_filter_isComment (s : Session) (lines : List Text) :
    s.blockEvents (lines.filter (!isComment ·)) = s.blockEvents lines := by
  induction lines generalizing s with
  | nil => rfl
  | cons line rest ih =>
    cases hcomment : isComment line with
    | true =>
      rw [List.filter_cons_of_neg (by simp [hcomment]), blockEvents, step_of_isComment hcomment,
        stackChange_self, ih]
      rfl
    | false => rw [List.filter_cons_of_pos (by simp [hcomment]), blockEvents, blockEvents, ih]

theorem run_brokenLines (s : Session) (source : Text) :
    s.run (brokenLines source) = s.run (logicalLines source) := by
  rw [← run_filter_isComment, filter_isComment_brokenLines, run_filter_isComment]

theorem blockEvents_brokenLines (s : Session) (source : Text) :
    s.blockEvents (brokenLines source) = s.blockEvents (logicalLines source) := by
  rw [← blockEvents_filter_isComment, filter_isComment_brokenLines, blockEvents_filter_isComment]

/-! ### A run of lines -/

/-- Braces that close `depth` blocks besides their own close all that are open, however many of
the `depth` blocks these are; each of the blocks that is missing, and each opening brace that is
kept, leaves one closing brace with nothing to close. -/
theorem run_of_closes {s : Session} {lines : List Text} {depth : Nat}
    (hblocks : s.blocks.length ≤ depth) (h : Closes depth (lines.filterMap pieceBrace?)) :
    (s.run lines).1.blocks = [] ∧
      (s.run lines).2.ignored + s.blocks.length = depth + (lines.filter keepsBrace).length := by
  induction lines generalizing s depth with
  | nil =>
    have hdepth : depth = 0 := h.of_nil
    rw [hdepth, Nat.le_zero, List.length_eq_zero_iff] at hblocks
    exact ⟨hblocks, by rw [hblocks, hdepth]; rfl⟩
  | cons line rest ih =>
    have hline := lineBrace?_eq line
    rw [run_cons, Output.ignored_append]
    by_cases hkeeps : keepsBrace line = true
    -- the depth grows with the brace that is kept, the stack does not
    · rw [if_pos hkeeps] at hline
      rw [List.filterMap_cons_some (pieceBrace?_of_keepsBrace hkeeps)] at h
      obtain ⟨hstep, hignored⟩ := step_of_none hline
      obtain ⟨hrest, hcount⟩ := ih (s := (s.step line).1) (by rw [hstep]; omega) h.of_open
      refine ⟨hrest, ?_⟩
      rw [hstep] at hcount
      rw [List.filter_cons_of_pos hkeeps, List.length_cons]
      omega
    · rw [if_neg hkeeps] at hline
      rw [List.filter_cons_of_neg hkeeps]
      rcases s.step_cases line with
        ⟨hbrace, ⟨block, hstep⟩, hignored⟩ | ⟨hbrace, hstep, hignored⟩ | ⟨hbrace, hstep, hignored⟩
      · rw [List.filterMap_cons_some (hline.symm.trans hbrace)] at h
        obtain ⟨hrest, hcount⟩ := ih (s := (s.step line).1) (by simp [hstep]; omega) h.of_open
        refine ⟨hrest, ?_⟩
        rw [hstep, List.length_cons] at hcount
        omega
      -- the depth shrinks; so does the stack, unless it is empty already
      · rw [List.filterMap_cons_some (hline.symm.trans hbrace)] at h
        obtain ⟨outer, rfl, hclose⟩ := h.of_close
        obtain ⟨hrest, hcount⟩ := ih (s := (s.step line).1) (by simp [hstep]; omega) hclose
        refine ⟨hrest, ?_⟩
        rw [hstep, List.length_tail] at hcount
        by_cases hempty : s.blocks = []
        · have hzero := List.length_eq_zero_iff.mpr hempty
          rw [hignored, if_pos hempty]
          omega
        · have hpos := List.length_pos_iff.mpr hempty
          rw [hignored, if_neg hempty]
          omega
      · rw [List.filterMap_cons_none (hline.symm.trans hbrace)] at h
        obtain ⟨hrest, hcount⟩ := ih (s := (s.step line).1) (by rwa [hstep]) h
        refine ⟨hrest, ?_⟩
        rw [hstep] at hcount
        omega

/-- If the braces that lines are read as close the open blocks, the block events are these
braces. -/
theorem blockEvents_of_closes {s : Session} {lines : List Text}
    (h : Closes s.blocks.length (lines.filterMap lineBrace?)) :
    (s.blockEvents lines).map BlockEvent.brace = lines.filterMap lineBrace? := by
  induction lines generalizing s with
  | nil =>
    have hempty : s.blocks = [] := List.length_eq_zero_iff.mp h.of_nil
    simp [blockEvents, drainBlocks, hempty]
  | cons line rest ih =>
    rw [blockEvents, List.map_append]
    rcases s.step_cases line with
      ⟨hbrace, ⟨block, hstep⟩, -⟩ | ⟨hbrace, hstep, -⟩ | ⟨hbrace, hstep, -⟩
    · rw [List.filterMap_cons_some hbrace] at h ⊢
      rw [ih (s := (s.step line).1) (by rw [hstep]; exact h.of_open), hstep, stackChange_push]
      rfl
    · rw [List.filterMap_cons_some hbrace] at h ⊢
      obtain ⟨outer, hlength, hclose⟩ := h.of_close
      obtain ⟨block, blocks, hs⟩ := List.exists_cons_of_length_eq_add_one hlength
      rw [hs, List.length_cons, Nat.add_right_cancel_iff] at hlength
      rw [hs, List.tail_cons] at hstep
      rw [ih (s := (s.step line).1) (by rwa [hstep, hlength]), hstep, hs, stackChange_pop]
      rfl
    · rw [List.filterMap_cons_none hbrace] at h ⊢
      rw [ih (s := (s.step line).1) (by rwa [hstep]), hstep, stackChange_self]
      rfl

end Session

/-! ### Balanced sources -/

/-- **Balanced braces leave no block open, and ignore one closing brace for each opening brace
that is kept.** If the bare braces of a source are balanced, no block is open behind its last
line, and the closing braces that find nothing to close are as many as the opening braces at the
end of a comment or a style line. If there are none of these, the blocks are opened and closed by
the braces in their order, well nested, so that each closing brace closes the block of its
opening brace. -/
theorem run_of_balanced {source : Text} (h : Balanced (sourceBraces source)) :
    (Session.run {} (logicalLines source)).1.blocks = [] ∧
      (Session.run {} (logicalLines source)).2.ignored = (unreadPieces source).length ∧
      (unreadPieces source = [] →
        (Session.blockEvents {} (logicalLines source)).map BlockEvent.brace = sourceBraces source ∧
          WellNested (Session.blockEvents {} (logicalLines source))) := by
  have hcloses := h.closes
  obtain ⟨hempty, hignored⟩ := Session.run_of_closes (s := {}) (Nat.le_refl 0)
    (sourceBraces_eq source ▸ hcloses)
  rw [Session.run_brokenLines] at hempty hignored
  refine ⟨hempty, by simpa [unreadPieces] using hignored, fun hread => ⟨?_, ?_⟩⟩
  · have hbraces := filterMap_lineBrace?_of_unreadPieces hread
    rw [← Session.blockEvents_brokenLines, ← hbraces]
    exact Session.blockEvents_of_closes (s := {}) (hbraces ▸ hcloses)
  · exact Session.unwinds_blockEvents {} (logicalLines source)

/-- A row with a quoted brace inside, which is text. -/
theorem run_of_balanced_row :
    Balanced (sourceBraces "Row \x7b Text \"\x7d\" \x7d".toList) ∧
      (Session.run {} (logicalLines "Row \x7b Text \"\x7d\" \x7d".toList)).1.blocks = [] ∧
      (Session.run {} (logicalLines "Row \x7b Text \"\x7d\" \x7d".toList)).2.ignored = 0 := by
  have hbalanced : Balanced (sourceBraces "Row \x7b Text \"\x7d\" \x7d".toList) :=
    ⟨by decide, by decide⟩
  obtain ⟨hempty, hignored, -⟩ := run_of_balanced hbalanced
  have hread : unreadPieces "Row \x7b Text \"\x7d\" \x7d".toList = [] := by decide
  rw [hread] at hignored
  exact ⟨hbalanced, hempty, hignored⟩

/-- Braces may be balanced and a closing one still be ignored: a style line keeps the brace of its
value, and a comment behind a brace keeps its own. -/
theorem balanced_ignored_pos :
    Balanced (sourceBraces "A.b = \x7b \x7d".toList) ∧
      (Session.run {} (logicalLines "A.b = \x7b \x7d".toList)).2.ignored = 1 ∧
      Balanced (sourceBraces "Row \x7b # a \x7b \x7d\n\x7d".toList) ∧
      (Session.run {} (logicalLines "Row \x7b # a \x7b \x7d\n\x7d".toList)).2.ignored = 1 := by
  exact ⟨⟨by decide, by decide⟩, by decide, ⟨by decide, by decide⟩, by decide⟩

end LivePage
