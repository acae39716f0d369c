/-
Texts as bytes, in UTF-8.

Encoding writes each character with one to four bytes. Surrogates have no
bytes, but in the name of a file some of them stand for a single byte.
Decoding is strict: it stops at the first sequence that is no character,
and says where that sequence begins and how many of its bytes could have
begun a character.

* `encode` — the bytes of a text;
* `encodeFault?`, `EncodeFault.message` — the first surrogates of a raw text;
* `encodeName`, `nameFault?` — the bytes of a name, and what has none;
* `decode` — the text of bytes, or the first fault;
* `DecodeFault.message` — the wording of a fault.
-/
import LivePage.Text.Quoted

namespace LivePage

/-- A sequence of bytes. -/
abbrev Bytes := List UInt8

/-! ### Encoding -/

/-- A byte that carries six bits of a character after its first byte. -/
def trailByte (n : Nat) : UInt8 :=
  UInt8.ofNat (0x80 + n % 64)

/-- The bytes of a character. -/
def encodeChar (c : Char) : Bytes :=
  let n := c.toNat
  if n < 0x80 then [UInt8.ofNat n]
  else if n < 0x800 then [UInt8.ofNat (0xC0 + n / 64), trailByte n]
  else if n < 0x10000 then
    [UInt8.ofNat (0xE0 + n / 4096), trailByte (n / 64), trailByte n]
  else
    [UInt8.ofNat (0xF0 + n / 262144), trailByte (n / 4096), trailByte (n / 64), trailByte n]

/-- The bytes of a text. -/
def encode (t : Text) : Bytes :=
  t.flatMap encodeChar

/-- The first surrogates that have no bytes. -/
structure EncodeFault where
  /-- The first one. -/
  point : Point
  /-- Its position. -/
  position : Nat
  /-- How many surrogates stand there in a row, at least one. -/
  length : Nat
deriving DecidableEq, Repr

/-- The first surrogate that is not excepted, with those right behind it. -/
def surrogatesFrom (excepted : Point → Bool) (position : Nat) : RawText → Option EncodeFault
  | [] => none
  | point :: rest =>
    if point.isSurrogate && !excepted point then
      some ⟨point, position, (rest.takeWhile Point.isSurrogate).length + 1⟩
    else surrogatesFrom excepted (position + 1) rest

/-- The first surrogates of a raw text. Without any it has bytes. -/
def encodeFault? (t : RawText) : Option EncodeFault :=
  surrogatesFrom (fun _ => false) 0 t

/-- Every text has bytes. -/
@[simp]
theorem surrogatesFrom_raw (excepted : Point → Bool) (position : Nat) (t : Text) :
    surrogatesFrom excepted position t.raw = none := by
  induction t generalizing position with
  | nil => rfl
  | cons c t ih => exact ih (position + 1)

/-- Whether a code point stands for one byte in the name of a file: the surrogates that end with
`0x80` to `0xFF` in the block of `0xDC00` do. -/
def standsForByte (point : Point) : Bool :=
  0xDC80 ≤ point.number && point.number ≤ 0xDCFF

/-- The first surrogates of a name that keep it from having bytes. -/
def nameFault? (t : RawText) : Option EncodeFault :=
  surrogatesFrom standsForByte 0 t

/-- The bytes of a code point in a name. -/
def encodePoint : Point → Bytes
  | .char c => encodeChar c
  | .surrogate n => [UInt8.ofNat (Point.surrogate n).number]

/-- The bytes of a name. -/
def encodeName (t : RawText) : Bytes :=
  t.flatMap encodePoint

/-- The wording of a fault: one surrogate is shown with its number, several by their
positions. -/
def EncodeFault.message (fault : EncodeFault) : Text :=
  let place :=
    if fault.length = 1 then
      "character '".toList ++ escapeCode fault.point.number ++ "' in position ".toList ++
        Text.ofNat fault.position
    else
      "characters in position ".toList ++ Text.ofNat fault.position ++ '-' ::
        Text.ofNat (fault.position + fault.length - 1)
  "'utf-8' codec can't encode ".toList ++ place ++ ": surrogates not allowed".toList

/-! ### Decoding -/

/-- Why a sequence of bytes is no character. -/
inductive DecodeCause where
  /-- No character begins with this byte. -/
  | badStart
  /-- A byte does not go on with the character that was begun. -/
  | badContinuation
  /-- The bytes end inside a character. -/
  | truncated
deriving DecidableEq, Repr

/-- The first sequence that is no character. -/
structure DecodeFault where
  /-- Why it is none. -/
  cause : DecodeCause
  /-- The first byte of the sequence. -/
  byte : UInt8
  /-- Its position. -/
  position : Nat
  /-- The number of bytes of the sequence, at least one. -/
  length : Nat
deriving DecidableEq, Repr

/-- A character of which the first bytes were read. -/
structure PartialChar where
  /-- The first byte. -/
  lead : UInt8
  /-- The position of the first byte. -/
  position : Nat
  /-- How many bytes were read. -/
  length : Nat
  /-- How many bytes are still to come. -/
  missing : Nat
  /-- The bits read so far. -/
  bits : Nat
  /-- The least value of the next byte. -/
  low : Nat
  /-- The greatest value of the next byte. -/
  high : Nat
deriving DecidableEq, Repr

/-- The character that a byte of at least `0x80` begins. The second byte of a character is
restricted so that no character has two forms and no surrogate and nothing beyond the last plane
has one. -/
def PartialChar.start? (b : UInt8) (position : Nat) : Option PartialChar :=
  let n := b.toNat
  if n < 0xC2 then none
  else if n < 0xE0 then some ⟨b, position, 1, 1, n - 0xC0, 0x80, 0xBF⟩
  else if n < 0xF0 then
    some ⟨b, position, 1, 2, n - 0xE0, if n = 0xE0 then 0xA0 else 0x80,
      if n = 0xED then 0x9F else 0xBF⟩
  else if n < 0xF5 then
    some ⟨b, position, 1, 3, n - 0xF0, if n = 0xF0 then 0x90 else 0x80,
      if n = 0xF4 then 0x8F else 0xBF⟩
  else none

/-- A character that was begun, with one more byte. -/
def PartialChar.add (p : PartialChar) (b : UInt8) : PartialChar :=
  { p with
    length := p.length + 1
    missing := p.missing - 1
    bits := p.bits * 64 + (b.toNat - 0x80)
    low := 0x80
    high := 0xBF }

/-- The fault of a character that was begun and does not go on. -/
def PartialChar.fault (p : PartialChar) (cause : DecodeCause) : DecodeFault :=
  ⟨cause, p.lead, p.position, p.length⟩

/-- Decodes the rest of the bytes, after the first bytes of a character if `pending` is one. -/
def decodeFrom (position : Nat) (pending : Option PartialChar) :
    Bytes → Except DecodeFault Text
  | [] =>
    match pending with
    | none => .ok []
    | some p => .error (p.fault .truncated)
  | b :: rest =>
    match pending with
    | none =>
      if b.toNat < 0x80 then
        (decodeFrom (position + 1) none rest).map (Char.ofNat b.toNat :: ·)
      else
        match PartialChar.start? b position with
        | none => .error ⟨.badStart, b, position, 1⟩
        | some p => decodeFrom (position + 1) (some p) rest
    | some p =>
      if p.low ≤ b.toNat ∧ b.toNat ≤ p.high then
        if p.missing = 1 then
          (decodeFrom (position + 1) none rest).map (Char.ofNat (p.add b).bits :: ·)
        else decodeFrom (position + 1) (some (p.add b)) rest
      else .error (p.fault .badContinuation)

/-- The text of bytes. -/
def decode (bytes : Bytes) : Except DecodeFault Text :=
  decodeFrom 0 none bytes

/-- The wording of a cause. -/
def DecodeCause.message : DecodeCause → Text
  | .badStart => "invalid start byte".toList
  | .badContinuation => "invalid continuation byte".toList
  | .truncated => "unexpected end of data".toList

/-- The wording of a fault: one byte is shown with its value, several by their positions. -/
def DecodeFault.message (fault : DecodeFault) : Text :=
  let place :=
    if fault.length = 1 then
      "byte 0x".toList ++ hexPadded 2 fault.byte.toNat ++ " in position ".toList ++
        Text.ofNat fault.position
    else
      "bytes in position ".toList ++ Text.ofNat fault.position ++ '-' ::
        Text.ofNat (fault.position + fault.length - 1)
  "'utf-8' codec can't decode ".toList ++ place ++ ": ".toList ++ fault.cause.message

/-! ### Line ends of files -/

/-- Every line end of a file, `\r\n` or a lone `\r`, is read as `'\n'`. -/
def unifyLineEnds : Text → Text
  | [] => []
  | '\r' :: '\n' :: t => '\n' :: unifyLineEnds t
  | c :: t => (if c = '\r' then '\n' else c) :: unifyLineEnds t

end LivePage
