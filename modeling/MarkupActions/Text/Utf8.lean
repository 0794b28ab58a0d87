/-!
# MarkupActions.Text.Utf8

**Bytes to text and back.** `decode` reads any bytes: a maximal run of bytes that begins a valid
sequence but does not finish it, or a byte that can begin none, becomes one replacement character.
`decodeStrict?` reads valid UTF-8 only.
-/

namespace MarkupActions.Text.Utf8

/-- The character that stands for bytes that are no text. -/
def replacement : Char := '\uFFFD'

/-- What the first byte of a sequence of several bytes announces. -/
structure Lead where
  more : Nat
  low : UInt8
  high : UInt8
  /-- The bits of the code point in the first byte. -/
  bits : Nat

/-- What a byte from `0x80` on announces, nothing when it can begin no sequence. The bounds of the
second byte leave out overlong forms, surrogates and code points past U+10FFFF. -/
def Lead.of? (b : UInt8) : Option Lead :=
  if 0xC2 ≤ b && b ≤ 0xDF then some ⟨1, 0x80, 0xBF, b.toNat - 0xC0⟩
  else if b == 0xE0 then some ⟨2, 0xA0, 0xBF, 0⟩
  else if b == 0xED then some ⟨2, 0x80, 0x9F, 0xD⟩
  else if 0xE1 ≤ b && b ≤ 0xEF then some ⟨2, 0x80, 0xBF, b.toNat - 0xE0⟩
  else if b == 0xF0 then some ⟨3, 0x90, 0xBF, 0⟩
  else if 0xF1 ≤ b && b ≤ 0xF3 then some ⟨3, 0x80, 0xBF, b.toNat - 0xF0⟩
  else if b == 0xF4 then some ⟨3, 0x80, 0x8F, 4⟩
  else none

/-- Finish a sequence that owes `more` bytes, the next one between `low` and `high`. The result is
the character, or none when the sequence breaks off, and the bytes that were not used. -/
def finish : Nat → UInt8 → UInt8 → Nat → List UInt8 → Option Char × List UInt8
  | 0, _, _, point, rest => (some (Char.ofNat point), rest)
  | _ + 1, _, _, _, [] => (none, [])
  | more + 1, low, high, point, b :: rest =>
      if low ≤ b && b ≤ high then
        finish more 0x80 0xBF (point * 64 + (b.toNat - 0x80)) rest
      else (none, b :: rest)

/-- Read one character, or one maximal part that is none, from a first byte and those after it. -/
def next (b : UInt8) (rest : List UInt8) : Option Char × List UInt8 :=
  if b < 0x80 then (some (Char.ofNat b.toNat), rest)
  else
    match Lead.of? b with
    | none => (none, rest)
    | some lead => finish lead.more lead.low lead.high lead.bits rest

theorem length_finish_le (more : Nat) (low high : UInt8) (point : Nat) (rest : List UInt8) :
    (finish more low high point rest).2.length ≤ rest.length := by
  induction more generalizing low high point rest with
  | zero => simp [finish]
  | succ more ih =>
    cases rest with
    | nil => simp [finish]
    | cons b rest =>
      simp only [finish]
      split
      · exact Nat.le_succ_of_le (ih ..)
      · simp

theorem length_next_le (b : UInt8) (rest : List UInt8) :
    (next b rest).2.length ≤ rest.length := by
  simp only [next]
  split
  · simp
  · split
    · simp
    · exact length_finish_le ..

/-- The characters of the bytes, with none where a part is no text. -/
def parts : List UInt8 → List (Option Char)
  | [] => []
  | b :: rest => (next b rest).1 :: parts (next b rest).2
termination_by bytes => bytes.length
decreasing_by exact Nat.lt_succ_of_le (length_next_le b rest)

/-- The text of the bytes, each part that is no text replaced. -/
def decode (bytes : List UInt8) : String :=
  String.ofList ((parts bytes).map (·.getD replacement))

/-- The text of the bytes if they are valid UTF-8. -/
def decodeStrict? (bytes : List UInt8) : Option String :=
  ((parts bytes).mapM id).map String.ofList

/-- The bytes of a text. -/
def encode (s : String) : List UInt8 := s.toUTF8.toList

end MarkupActions.Text.Utf8
