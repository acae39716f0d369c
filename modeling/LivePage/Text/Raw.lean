/-
Raw text: code points that need not be characters.

An escape can name any code point, also a surrogate, which is half of a
character in a notation by sixteen bits. Two halves in a row stay two code
points. Raw text can be compared and shown, but no file holds a surrogate.

* `Point` — a character or a surrogate;
* `RawText` — a sequence of code points;
* `Text.raw`, `raw` — every text is raw text;
* `RawText.text?` — the text, if all code points are characters;
* `RawText.sorted` — raw texts in the order of their code points.
-/
import LivePage.Text.Basic

namespace LivePage

/-- A code point. -/
inductive Point where
  /-- A character. -/
  | char (c : Char)
  /-- The surrogate that stands so far behind the first one. -/
  | surrogate (n : Fin 0x800)
deriving DecidableEq, Repr

instance : Coe Char Point := ⟨.char⟩

namespace Point

/-- The number of the first surrogate. -/
def firstSurrogate : Nat := 0xD800

/-- The number of a code point. -/
def number : Point → Nat
  | char c => c.toNat
  | surrogate n => firstSurrogate + n

/-- The code point of a number below `0x110000`. -/
def ofNumber (n : Nat) : Point :=
  if h : firstSurrogate ≤ n ∧ n < firstSurrogate + 0x800 then
    surrogate ⟨n - firstSurrogate, by omega⟩
  else char (Char.ofNat n)

/-- The character that a code point is. -/
def char? : Point → Option Char
  | char c => some c
  | surrogate _ => none

/-- Whether a code point is no character. -/
def isSurrogate : Point → Bool
  | char _ => false
  | surrogate _ => true

end Point

/-- A sequence of code points. -/
abbrev RawText := List Point

/-- A text as code points. -/
def Text.raw (t : Text) : RawText :=
  t.map .char

/-- A string as code points. -/
def raw (s : String) : RawText :=
  Text.raw s.toList

namespace RawText

/-- The characters of a raw text. -/
def chars (t : RawText) : Text :=
  t.filterMap Point.char?

/-- The text that a raw text is, if it has no surrogate. -/
def text? (t : RawText) : Option Text :=
  if t.any Point.isSurrogate then none else some t.chars

/-- Whether the first raw text stands before the second, or is the same, in the order of code
points. A raw text stands before all that continue it. -/
def atMost : RawText → RawText → Bool
  | [], _ => true
  | _ :: _, [] => false
  | c :: s, d :: t => if c = d then atMost s t else c.number < d.number

/-- Raw texts in the order of their code points. -/
def sorted (ts : List RawText) : List RawText :=
  ts.mergeSort atMost

end RawText

/-! ### Text as raw text -/

/-- No character is lost when a text is taken as code points. -/
@[simp]
theorem RawText.chars_raw (t : Text) : RawText.chars t.raw = t := by
  induction t with
  | nil => rfl
  | cons c t ih =>
    show c :: RawText.chars (Text.raw t) = c :: t
    rw [ih]

/-- The code points of a text are characters. -/
@[simp]
theorem RawText.any_isSurrogate_raw (t : Text) : t.raw.any Point.isSurrogate = false := by
  induction t with
  | nil => rfl
  | cons c t ih => exact ih

/-- A text is the text of its code points. -/
@[simp]
theorem RawText.text?_raw (t : Text) : RawText.text? t.raw = some t := by
  simp [RawText.text?]

end LivePage
