/-
How elements are numbered.

An element without an id of its own gets the next number. The count is kept
from line to line, and only such elements change it:

* `Session.runLine_ids` — the count goes up by one with each element that
  is not given an id, and with nothing else;
* `generated_ids_numbered` — the opening tags of the body carry the ids that
  their lines give, or the numbers from one on without gaps;
* `inOrder_placed` — the elements that a source places stand in the
  body in order;
* `freshIds_iff` — a generated id belongs to one element only, unless the
  source gives the same id to another element by hand.

Design notes: `Session.placed` pairs each opening tag with the id that the
source gave, so that generated and given ids can be told apart in the list.
-/
import Mathlib.Data.List.Nodup
import Mathlib.Data.List.Pairwise
import LivePage.Proofs.Page.Opening

namespace LivePage

/-! ### The count of ids -/

/-- Whether the line places an element whose id is generated. -/
def Line.generates (line : Line) : Bool :=
  line.places && line.givenId?.isNone

namespace Session

theorem chooseId_ids (s : Session) (args : Arguments) :
    (s.chooseId args).1.ids =
      if (args.attr? "id".toList).isNone then s.ids + 1 else s.ids := by
  unfold chooseId
  cases args.attr? "id".toList <;> rfl

/-- The count goes up with the elements that need an id. -/
theorem runLine_ids (s : Session) (line : Line) :
    (s.runLine line).1.ids = if line.generates then s.ids + 1 else s.ids := by
  rw [runLine_fst]
  cases line with
  | command name args opens =>
    rw [enact_command_fst, perform_fst]
    cases hname : Command.ofName? name with
    | none => simp [Line.generates, Line.places, Line.command?, hname]
    | some c =>
      simp only [Line.generates, Line.places, Line.givenId?, Line.command?, hname,
        Option.map_some, Option.any_some, Option.bind_some]
      cases c with
      | element e => exact s.chooseId_ids args
      | card => exact s.chooseId_ids args
      | _ => rfl
  | _ => rfl

/-- An element carries the id it is given, or the next one. -/
theorem attribute?_id_eq {s : Session} {line : Line} {o : Opening} (h : s.opening? line = some o) :
    o.attribute? "id".toList = some (line.givenId?.getD (numberedId (s.ids + 1))) := by
  obtain ⟨⟨c, args⟩, hcommand, ho⟩ := Option.bind_eq_some_iff.mp h
  unfold Line.givenId?
  rw [hcommand, Option.bind_some]
  cases c with
  | element e =>
    cases ho
    exact congrArg some (s.chooseId_snd args)
  | card =>
    cases ho
    exact congrArg some (s.chooseId_snd args)
  | row => cases ho; rfl
  | column => cases ho; rfl
  | _ => cases ho

end Session

/-! ### The elements of a run -/

/-- An element that a line places. -/
structure Placed where
  /-- Its opening tag. -/
  opening : Opening
  /-- The id that the source gives it. -/
  given? : Option Text
deriving DecidableEq, Repr

namespace Placed

/-- The id in the opening tag. -/
def id? (p : Placed) : Option Text :=
  p.opening.attribute? "id".toList

/-- Whether the id is generated. -/
def generated (p : Placed) : Bool :=
  p.given?.isNone

end Placed

namespace Session

/-- The element that a line places. -/
def placed? (s : Session) (line : Line) : Option Placed :=
  (s.opening? line).map fun o => ⟨o, line.givenId?⟩

/-- The elements that lines place, in order. -/
def placed (s : Session) : List Text → List Placed
  | [] => []
  | line :: rest => (s.placed? (.ofText line)).toList ++ (s.step line).1.placed rest

theorem placed?_of_not_places {line : Line} (h : line.places = false) (s : Session) :
    s.placed? line = none := by
  have hnone : s.opening? line = none := by
    rw [← Option.not_isSome_iff_eq_none, opening?_isSome, h]
    simp
  rw [placed?, hnone, Option.map_none]

theorem exists_placed? {line : Line} (h : line.places = true) (s : Session) :
    ∃ p, s.placed? line = some p ∧ p.given? = line.givenId? ∧
      p.id? = some (line.givenId?.getD (numberedId (s.ids + 1))) := by
  have hsome : (s.opening? line).isSome = true := by
    rw [opening?_isSome]
    exact h
  obtain ⟨o, ho⟩ := Option.isSome_iff_exists.mp hsome
  exact ⟨⟨o, line.givenId?⟩, by rw [placed?, ho, Option.map_some], rfl, attribute?_id_eq ho⟩

end Session

/-! ### Numbers of a run -/

/-- How many elements among some lines need an id. -/
def neededIds (lines : List Text) : Nat :=
  lines.countP fun line => (Line.ofText line).generates

theorem neededIds_cons (line : Text) (rest : List Text) :
    neededIds (line :: rest) =
      (if (Line.ofText line).generates then 1 else 0) + neededIds rest := by
  rw [neededIds, List.countP_cons, Nat.add_comm]
  rfl

namespace Session

theorem run_ids (s : Session) (lines : List Text) :
    (s.run lines).1.ids = s.ids + neededIds lines := by
  induction lines generalizing s with
  | nil => rfl
  | cons line rest ih =>
    rw [run_cons, ih, step, runLine_ids, neededIds_cons]
    split <;> omega

/-- The ids that a run generates are the next numbers in a row. -/
theorem generated_ids_from (s : Session) (lines : List Text) :
    ((s.placed lines).filter Placed.generated).map Placed.id? =
      (List.range' (s.ids + 1) (neededIds lines)).map fun k => some (numberedId k) := by
  induction lines generalizing s with
  | nil => rfl
  | cons line rest ih =>
    have hids : (s.step line).1.ids = if (Line.ofText line).generates then s.ids + 1 else s.ids :=
      s.runLine_ids (.ofText line)
    rw [placed, List.filter_append, List.map_append, ih, hids, neededIds_cons]
    cases hplaces : (Line.ofText line).places with
    | false =>
      have hgen : (Line.ofText line).generates = false := by simp [Line.generates, hplaces]
      simp [placed?_of_not_places hplaces, hgen]
    | true =>
      obtain ⟨p, hp, hgiven, hid⟩ := exists_placed? hplaces s
      rw [hp, Option.toList_some]
      cases hgivenId : (Line.ofText line).givenId? with
      | none =>
        -- the element takes the next number, and the others go on behind it
        have hgen : (Line.ofText line).generates = true := by
          simp [Line.generates, hplaces, hgivenId]
        have hgenerated : p.generated = true := by rw [Placed.generated, hgiven, hgivenId]; rfl
        rw [hgivenId, Option.getD_none] at hid
        rw [hgen, if_pos rfl, if_pos rfl, List.filter_cons_of_pos hgenerated, List.filter_nil,
          List.map_singleton, hid, Nat.add_comm 1, List.range'_succ]
        rfl
      | some id =>
        have hgen : (Line.ofText line).generates = false := by
          simp [Line.generates, hgivenId]
        have hgenerated : ¬ p.generated = true := by
          rw [Placed.generated, hgiven, hgivenId]
          simp
        rw [hgen, if_neg (by simp), if_neg (by simp), List.filter_cons_of_neg hgenerated,
          List.filter_nil, Nat.zero_add]
        rfl

/-- The elements are those of the lines that place one, with the ids that these give. -/
theorem placed_given (s : Session) (lines : List Text) :
    (s.placed lines).map Placed.given? =
      ((lines.map Line.ofText).filter Line.places).map Line.givenId? := by
  induction lines generalizing s with
  | nil => rfl
  | cons line rest ih =>
    rw [placed, List.map_append, ih, List.map_cons]
    cases hplaces : (Line.ofText line).places with
    | false =>
      rw [placed?_of_not_places hplaces, List.filter_cons_of_neg (by simp [hplaces])]
      rfl
    | true =>
      obtain ⟨p, hp, hgiven, -⟩ := exists_placed? hplaces s
      rw [hp, List.filter_cons_of_pos hplaces, List.map_cons, ← hgiven]
      rfl

/-- An id that is given is kept. -/
theorem id?_of_given {s : Session} {lines : List Text} {p : Placed} (hp : p ∈ s.placed lines)
    {id : Text} (hgiven : p.given? = some id) : id ≠ [] ∧ p.id? = some id := by
  induction lines generalizing s with
  | nil => exact absurd hp (by simp [placed])
  | cons line rest ih =>
    rw [placed, List.mem_append, Option.mem_toList] at hp
    rcases hp with hline | hrest
    · obtain ⟨o, ho, rfl⟩ := Option.map_eq_some_iff.mp hline
      have hid : (Line.ofText line).givenId? = some id := hgiven
      have hattribute := attribute?_id_eq ho
      rw [hid, Option.getD_some] at hattribute
      exact ⟨Line.givenId?_ne_nil hid, hattribute⟩
    · exact ih hrest

theorem map_opening_placed (s : Session) (lines : List Text) :
    (s.placed lines).map Placed.opening = s.openings lines := by
  induction lines generalizing s with
  | nil => rfl
  | cons line rest ih =>
    rw [placed, openings, List.map_append, ih, placed?]
    cases s.opening? (.ofText line) <;> rfl

end Session

/-! ### The order of the elements in the body -/

/-- Opening tags stand in a text one behind the other, whatever stands between them. -/
inductive InOrder : List Opening → Text → Prop
  /-- No tag is left. -/
  | nil (t : Text) : InOrder [] t
  /-- The first tag stands behind some text, and the others behind it. -/
  | cons (front : Text) (o : Opening) {os : List Opening} {t : Text} :
      InOrder os t → InOrder (o :: os) (front ++ o.markup ++ t)

namespace InOrder

theorem prepend {os : List Opening} {t : Text} (h : InOrder os t) (front : Text) :
    InOrder os (front ++ t) := by
  cases h with
  | nil t => exact .nil _
  | cons start o hrest =>
    rw [List.append_assoc, ← List.append_assoc front, ← List.append_assoc]
    exact .cons (front ++ start) o hrest

theorem append {os : List Opening} {t : Text} (h : InOrder os t) (back : Text) :
    InOrder os (t ++ back) := by
  induction h with
  | nil t => exact .nil _
  | cons front o hrest ih =>
    rw [List.append_assoc]
    exact .cons front o ih

end InOrder

/-- What lines place stands in their markup in order. -/
theorem Session.inOrder_openings (s : Session) (lines : List Text) :
    InOrder (s.openings lines) (s.run lines).2.markup := by
  induction lines generalizing s with
  | nil => exact .nil _
  | cons line rest ih =>
    have hrest := ih (s.step line).1
    rw [openings, run_cons, Output.markup_append]
    cases ho : s.opening? (.ofText line) with
    | none => exact hrest.prepend _
    | some o =>
      obtain ⟨back, hback⟩ := opening_isPrefix_markup ho
      have hmarkup : (s.step line).2.markup = [] ++ o.markup ++ back := hback.symm
      rw [hmarkup, List.append_assoc]
      exact .cons [] o (hrest.prepend back)

/-- The elements of a source stand in the body in order. -/
theorem inOrder_placed (source : Text) :
    InOrder ((Session.placed {} (logicalLines source)).map Placed.opening)
      (compile source).body := by
  rw [Session.map_opening_placed]
  exact (Session.inOrder_openings {} (logicalLines source)).append _

theorem run_ids_eq_neededIds (lines : List Text) :
    (Session.run {} lines).1.ids = neededIds lines := by
  rw [Session.run_ids]
  exact Nat.zero_add _

theorem generated_ids (source : Text) :
    ((Session.placed {} (logicalLines source)).filter Placed.generated).map Placed.id? =
      (List.range' 1 (Session.run {} (logicalLines source)).1.ids).map
        fun k => some (numberedId k) := by
  rw [run_ids_eq_neededIds]
  exact Session.generated_ids_from {} (logicalLines source)

theorem nodup_generated_ids (source : Text) :
    (((Session.placed {} (logicalLines source)).filter Placed.generated).map Placed.id?).Nodup := by
  rw [generated_ids]
  refine List.Nodup.map ?_ (List.nodup_range' 1)
  intro m n h
  exact numberedId_injective (Option.some_inj.mp h)

/-- **Generated ids are numbered from one without gaps.** Behind the markup of the lines before it,
the body goes on with the opening tag of the element that a line places. Its id is the one that the
source gives, which is not empty, or has the number of the elements without a given id up to this
one. Nothing else changes the count, which at the end is the number of all these elements, and
different numbers give different ids. -/
theorem generated_ids_numbered (source : Text) :
    (∀ (before : List Text) (line : Text) (after : List Text),
        logicalLines source = before ++ line :: after → (Line.ofText line).places = true →
        ∃ tag rest, (Line.ofText line).tag? = some tag ∧
          (compile source).body = (Session.run {} before).2.markup ++
            ("<".toList ++ tag ++ " id=\"".toList ++
              (Line.ofText line).givenId?.getD (numberedId (neededIds before + 1)) ++
              "\"".toList ++ rest)) ∧
      (∀ (line : Line) (id : Text), line.givenId? = some id → id ≠ []) ∧
      (Session.run {} (logicalLines source)).1.ids = neededIds (logicalLines source) ∧
      (∀ (s : Session) (line : Text), (s.step line).1.ids =
        if (Line.ofText line).generates then s.ids + 1 else s.ids) ∧
      ∀ m n : Nat, numberedId m = numberedId n → m = n := by
  refine ⟨?_, fun line id h => Line.givenId?_ne_nil h, run_ids_eq_neededIds _,
    fun s line => s.runLine_ids (.ofText line), fun m n h => numberedId_injective h⟩
  intro before line after hlines hplaces
  obtain ⟨tag, htag⟩ := Line.exists_tag? hplaces
  obtain ⟨text, hbody, hfront⟩ := tagFront_compile hlines htag
  rw [Session.ownId, run_ids_eq_neededIds] at hfront
  obtain ⟨rest, rfl⟩ := hfront.exists_rest
  exact ⟨tag, rest, htag, hbody⟩

/-- A title, an element with an id of its own, and a row, which takes the second number whatever id
its line gives. -/
theorem generated_ids_numbered_row :
    (compile "Title a\nText b id=x\nRow id=y".toList).body =
        ("<h1 id=\"moe-ref-1\" style=\"\" class=\"moe-element moe-title\">a</h1>\n" ++
          "<p id=\"x\" style=\"\" class=\"moe-element moe-text\">b</p>\n" ++
          "<div id=\"moe-ref-2\" class=\"moe-row\" style=\"\"></div>\n").toList ∧
      (∃ tag rest, (Line.ofText "Row id=y".toList).tag? = some tag ∧
        (compile "Title a\nText b id=x\nRow id=y".toList).body =
          (Session.run {} ["Title a".toList, "Text b id=x".toList]).2.markup ++
            ("<".toList ++ tag ++ " id=\"".toList ++ "moe-ref-2".toList ++ "\"".toList ++ rest)) ∧
      (Line.ofText "Text b id=x".toList).givenId? = some ['x'] ∧ ['x'] ≠ [] := by
  obtain ⟨hbody, hgiven, -, -, -⟩ :=
    generated_ids_numbered "Title a\nText b id=x\nRow id=y".toList
  have hx : (Line.ofText "Text b id=x".toList).givenId? = some ['x'] := by decide +kernel
  refine ⟨by decide +kernel, ?_, hx, hgiven _ _ hx⟩
  have hid : (Line.ofText "Row id=y".toList).givenId?.getD
      (numberedId (neededIds ["Title a".toList, "Text b id=x".toList] + 1)) =
        "moe-ref-2".toList := by
    decide +kernel
  rw [← hid]
  exact hbody _ "Row id=y".toList [] (by decide +kernel) (by decide +kernel)

/-! ### Ids given by hand -/

/-- No generated id is the id of another element. -/
def FreshIds (placed : List Placed) : Prop :=
  placed.Pairwise fun p q => p.generated = true ∨ q.generated = true → p.id? ≠ q.id?

/-- A generated id has a number up to the count. -/
theorem exists_number {source : Text} {p : Placed}
    (hp : p ∈ Session.placed {} (logicalLines source)) (hgen : p.generated = true) :
    ∃ k, 1 ≤ k ∧ k ≤ (Session.run {} (logicalLines source)).1.ids ∧ p.id? = some (numberedId k) := by
  have hmem : p.id? ∈
      ((Session.placed {} (logicalLines source)).filter Placed.generated).map Placed.id? :=
    List.mem_map_of_mem (List.mem_filter.mpr ⟨hp, hgen⟩)
  rw [generated_ids] at hmem
  obtain ⟨k, hk, hid⟩ := List.mem_map.mp hmem
  rw [List.mem_range'_1] at hk
  exact ⟨k, hk.1, by omega, hid.symm⟩

/-- Each number up to the count is that of a generated id. -/
theorem exists_generated {source : Text} {k : Nat} (hlow : 1 ≤ k)
    (hhigh : k ≤ (Session.run {} (logicalLines source)).1.ids) :
    ∃ p ∈ Session.placed {} (logicalLines source), p.generated = true ∧
      p.id? = some (numberedId k) := by
  have hmem : some (numberedId k) ∈
      ((Session.placed {} (logicalLines source)).filter Placed.generated).map Placed.id? := by
    rw [generated_ids]
    exact List.mem_map.mpr ⟨k, List.mem_range'_1.mpr ⟨hlow, by omega⟩, rfl⟩
  obtain ⟨p, hp, hid⟩ := List.mem_map.mp hmem
  obtain ⟨hmem, hgen⟩ := List.mem_filter.mp hp
  exact ⟨p, hmem, hgen, hid⟩

/-- A generated id is fresh exactly if the source does not give it to another element. -/
theorem freshIds_placed_iff (source : Text) :
    FreshIds (Session.placed {} (logicalLines source)) ↔
      ∀ p ∈ Session.placed {} (logicalLines source), ∀ k, 1 ≤ k →
        k ≤ (Session.run {} (logicalLines source)).1.ids → p.given? ≠ some (numberedId k) := by
  constructor
  · intro hfresh p hp k hlow hhigh hgiven
    obtain ⟨q, hq, hgen, hid⟩ := exists_generated hlow hhigh
    have hne : q ≠ p := by
      rintro rfl
      rw [Placed.generated, hgiven] at hgen
      exact absurd hgen (by simp)
    have hsymm : Std.Symm fun p q : Placed =>
        p.generated = true ∨ q.generated = true → p.id? ≠ q.id? :=
      ⟨fun p q hpq hor => (hpq hor.symm).symm⟩
    refine hfresh.forall hq hp hne (.inl hgen) ?_
    rw [hid, (Session.id?_of_given hp hgiven).2]
  · intro hgiven
    -- a generated id and one given by hand
    have hmixed : ∀ p ∈ Session.placed {} (logicalLines source), p.generated = true →
        ∀ q ∈ Session.placed {} (logicalLines source), ¬ q.generated = true → p.id? ≠ q.id? := by
      intro p hp hpgen q hq hqgen heq
      obtain ⟨k, hlow, hhigh, hid⟩ := exists_number hp hpgen
      obtain ⟨id, hqid⟩ : ∃ id, q.given? = some id := by
        rw [Placed.generated, Option.isNone_iff_eq_none] at hqgen
        exact Option.ne_none_iff_exists'.mp hqgen
      have hkept := (Session.id?_of_given hq hqid).2
      rw [← heq, hid] at hkept
      exact hgiven q hq k hlow hhigh (hqid.trans hkept.symm)
    -- two generated ids
    have hgenerated : (Session.placed {} (logicalLines source)).Pairwise fun p q =>
        p.generated = true → q.generated = true → p.id? ≠ q.id? :=
      List.pairwise_filter.mp (List.pairwise_map.mp (nodup_generated_ids source))
    refine hgenerated.imp_of_mem fun {p q} hp hq hboth hor => ?_
    by_cases hpgen : p.generated = true
    · by_cases hqgen : q.generated = true
      · exact hboth hpgen hqgen
      · exact hmixed p hp hpgen q hq hqgen
    · exact (hmixed q hq (hor.resolve_left hpgen) p hp hpgen).symm

/-- **A generated id is fresh unless the source gives it to another element.** The elements of a
source stand in its body in order, with the ids that their lines give. The ids that are generated
for it have the numbers up to its count, and these are the ids that it must not give by hand. -/
theorem freshIds_iff (source : Text) :
    InOrder ((Session.placed {} (logicalLines source)).map Placed.opening) (compile source).body ∧
      (Session.placed {} (logicalLines source)).map Placed.given? =
        (((logicalLines source).map Line.ofText).filter Line.places).map Line.givenId? ∧
      (FreshIds (Session.placed {} (logicalLines source)) ↔
        ∀ p ∈ Session.placed {} (logicalLines source), ∀ k, 1 ≤ k →
          k ≤ (Session.run {} (logicalLines source)).1.ids → p.given? ≠ some (numberedId k)) :=
  ⟨inOrder_placed source, Session.placed_given _ _, freshIds_placed_iff source⟩

/-- The first element is given the id that the second one gets, and both carry it in the body. -/
theorem not_freshIds :
    (compile "Text \"a\" id=moe-ref-1\nText \"b\"".toList).body =
        ("<p id=\"moe-ref-1\" style=\"\" class=\"moe-element moe-text\">a</p>\n" ++
          "<p id=\"moe-ref-1\" style=\"\" class=\"moe-element moe-text\">b</p>\n").toList ∧
      ¬ FreshIds (Session.placed {}
        (logicalLines "Text \"a\" id=moe-ref-1\nText \"b\"".toList)) := by
  refine ⟨by decide +kernel, ?_⟩
  unfold FreshIds
  decide +kernel

end LivePage
