import MarkupActions.Json.Number

/-!
# MarkupActions.Json.Token

**The tokens of JSON text.** A token is a bracket, a brace, a comma, a colon, a text, or a scalar:
a word or a number, which is kept as the value it stands for. `Token.scan?` cuts a text into
tokens and refuses it when a character begins none.

A text between quotes may name a character by an escape. A character outside the basic plane is
named by two escapes in a row, a high and a low surrogate; a surrogate that is not part of such a
pair is refused, and so is a control character that is not escaped.
-/

namespace MarkupActions.Json

/-- What a JSON text is made of. -/
inductive Token where
  | openArray
  | closeArray
  | openObject
  | closeObject
  | comma
  | colon
  | text (s : String)
  | scalar (v : Value)

/-- White space between tokens: space, tab, line feed and carriage return. -/
def isSpace (c : Char) : Bool := c = ' ' || c = '\t' || c = '\n' || c = '\r'

/-! ### Texts -/

/-- A part of a text between quotes. -/
inductive TextPart where
  /-- A character that stands for itself or is named by a short escape. -/
  | char (c : Char)
  /-- A code unit named by an escape of four hexadecimal digits. -/
  | unit (n : Nat)

/-- The value of a hexadecimal digit in either case. -/
def hexDigit? (c : Char) : Option Nat :=
  if '0' ≤ c ∧ c ≤ '9' then some (c.toNat - 48)
  else if 'a' ≤ c ∧ c ≤ 'f' then some (c.toNat - 87)
  else if 'A' ≤ c ∧ c ≤ 'F' then some (c.toNat - 55)
  else none

/-- The code unit of four hexadecimal digits. -/
def hexUnit? (a b c d : Char) : Option Nat := do
  return (← hexDigit? a) * 4096 + (← hexDigit? b) * 256 + (← hexDigit? c) * 16 + (← hexDigit? d)

/-- What a backslash and one more character stand for. -/
def shortEscape? (c : Char) : Option Char :=
  if c = '"' ∨ c = '\\' ∨ c = '/' then some c
  else if c = 'b' then some '\x08'
  else if c = 'f' then some '\x0c'
  else if c = 'n' then some '\n'
  else if c = 'r' then some '\r'
  else if c = 't' then some '\t'
  else none

/-- Put a part in front of a scanned text. -/
def consPart (part : TextPart) (r : List TextPart × List Char) : List TextPart × List Char :=
  (part :: r.1, r.2)

/-- The parts of a text up to its closing quote, and what follows the quote. -/
def scanText? : List Char → Option (List TextPart × List Char)
  | [] => none
  | '"' :: rest => some ([], rest)
  | '\\' :: 'u' :: a :: b :: c :: d :: rest =>
      match hexUnit? a b c d with
      | some n => (scanText? rest).map (consPart (.unit n))
      | none => none
  | '\\' :: e :: rest =>
      match shortEscape? e with
      | some c => (scanText? rest).map (consPart (.char c))
      | none => none
  | c :: rest => if c.toNat < 0x20 then none else (scanText? rest).map (consPart (.char c))

/-- The first half of a pair that stands for a character beyond 16 bits. -/
def isHighSurrogate (n : Nat) : Bool := 0xD800 ≤ n && n < 0xDC00

/-- The second half of such a pair. -/
def isLowSurrogate (n : Nat) : Bool := 0xDC00 ≤ n && n < 0xE000

/-- The characters of the parts, unless a surrogate stands alone. -/
def joinParts? : List TextPart → Option (List Char)
  | [] => some []
  | .char c :: rest => (joinParts? rest).map (c :: ·)
  | .unit high :: .unit low :: rest =>
      -- A first half has to be followed by a second half, and a second half cannot come first.
      if isHighSurrogate high then
        if isLowSurrogate low then
          (joinParts? rest).map
            (Char.ofNat (0x10000 + (high - 0xD800) * 0x400 + (low - 0xDC00)) :: ·)
        else none
      else if isLowSurrogate high then none
      else (joinParts? (.unit low :: rest)).map (Char.ofNat high :: ·)
  | .unit n :: rest =>
      if isHighSurrogate n || isLowSurrogate n then none
      else (joinParts? rest).map (Char.ofNat n :: ·)

theorem length_lt_of_scanText? {cs : List Char} {parts : List TextPart} {rest : List Char}
    (h : scanText? cs = some (parts, rest)) : rest.length < cs.length := by
  fun_induction scanText? cs generalizing parts rest <;>
    simp only [reduceCtorEq, Option.some.injEq, Prod.mk.injEq, Option.map_eq_some_iff,
      consPart] at h
  case case2 => simp [h.2]
  all_goals
    next ih =>
      obtain ⟨r, hr, -, rfl⟩ := h
      have := ih hr
      simp only [List.length_cons]
      omega

/-! ### Numbers leave less text than they found -/

theorem length_spanDigits_le (cs : List Char) : (spanDigits cs).2.length ≤ cs.length := by
  simp only [spanDigits]
  exact (List.dropWhile_sublist _).length_le

theorem length_takeSign_le (cs : List Char) : (Decimal.takeSign cs).2.length ≤ cs.length := by
  unfold Decimal.takeSign
  split <;> simp

theorem length_spanDigits_lt {cs : List Char} (h : (spanDigits cs).1.isEmpty = false) :
    (spanDigits cs).2.length < cs.length := by
  cases cs with
  | nil => simp [spanDigits] at h
  | cons c rest =>
    have hc : Text.isAsciiDigit c = true := by
      by_cases hc : Text.isAsciiDigit c = true
      · exact hc
      · simp [spanDigits, hc] at h
    have := (List.dropWhile_sublist (p := Text.isAsciiDigit) (l := rest)).length_le
    simp [spanDigits, hc]
    omega

theorem length_lt_of_scanWhole? {cs whole rest : List Char}
    (h : scanWhole? cs = some (whole, rest)) : rest.length < cs.length := by
  unfold scanWhole? at h
  split at h
  · simp_all
  · split at h
    · simp at h
    · next hne =>
      simp only [Option.some.injEq] at h
      rw [show rest = (spanDigits cs).2 by rw [h]]
      exact length_spanDigits_lt (by simpa using hne)

theorem length_le_of_scanFraction? {cs rest : List Char} {fraction : Option (List Char)}
    (h : scanFraction? cs = some (fraction, rest)) : rest.length ≤ cs.length := by
  unfold scanFraction? at h
  split at h
  · next after =>
    have := length_spanDigits_le after
    split at h <;> simp at h
    obtain ⟨-, rfl⟩ := h
    simp; omega
  · simp_all

theorem length_le_of_scanExponent? {cs rest : List Char} {exponent : Option (Bool × List Char)}
    (h : scanExponent? cs = some (exponent, rest)) : rest.length ≤ cs.length := by
  unfold scanExponent? at h
  split at h
  · next c after =>
    split at h
    · have h1 := length_takeSign_le after
      have h2 := length_spanDigits_le (Decimal.takeSign after).2
      simp only at h
      split at h <;> simp at h
      obtain ⟨-, rfl⟩ := h
      simp; omega
    · simp_all
  · simp_all

theorem length_lt_of_scanNumber? {cs rest : List Char} {p : Parts}
    (h : scanNumber? cs = some (p, rest)) : rest.length < cs.length := by
  unfold scanNumber? at h
  simp only [bind, Option.bind_eq_some_iff, pure, Option.some.injEq, Prod.mk.injEq] at h
  split at h
  all_goals
    obtain ⟨⟨whole, r1⟩, h1, ⟨fraction, r2⟩, h2, ⟨exponent, r3⟩, h3, -, rfl⟩ := h
    have := length_lt_of_scanWhole? h1
    have := length_le_of_scanFraction? h2
    have := length_le_of_scanExponent? h3
    simp_all
    try omega

/-! ### The tokens of a text -/

/-- The token that a single character is. -/
def Token.ofMark? (c : Char) : Option Token :=
  if c = '[' then some .openArray
  else if c = ']' then some .closeArray
  else if c = '\x7b' then some .openObject
  else if c = '\x7d' then some .closeObject
  else if c = ',' then some .comma
  else if c = ':' then some .colon
  else none

/-- A word in front of a text, and the rest. -/
def scanWord? : List Char → Option (Value × List Char)
  | 'n' :: 'u' :: 'l' :: 'l' :: rest => some (.null, rest)
  | 't' :: 'r' :: 'u' :: 'e' :: rest => some (.bool true, rest)
  | 'f' :: 'a' :: 'l' :: 's' :: 'e' :: rest => some (.bool false, rest)
  | _ => none

theorem length_lt_of_scanWord? {cs rest : List Char} {v : Value}
    (h : scanWord? cs = some (v, rest)) : rest.length < cs.length := by
  unfold scanWord? at h
  split at h <;> simp at h
  all_goals (obtain ⟨-, rfl⟩ := h; simp; try omega)

/-- The token at the front of a text that begins with neither white space nor nothing, and the
rest. -/
def Token.scanOne? (c : Char) (rest : List Char) : Option (Token × List Char) :=
  match Token.ofMark? c with
  | some t => some (t, rest)
  | none =>
      if c = '"' then do
        let (parts, after) ← scanText? rest
        let cs ← joinParts? parts
        return (.text (String.ofList cs), after)
      else
        match scanWord? (c :: rest) with
        | some (v, after) => some (.scalar v, after)
        | none => do
            let (p, after) ← scanNumber? (c :: rest)
            let v ← p.value?
            return (.scalar v, after)

theorem Token.length_le_of_scanOne? {c : Char} {rest after : List Char} {t : Token}
    (h : Token.scanOne? c rest = some (t, after)) : after.length ≤ rest.length := by
  unfold Token.scanOne? at h
  split at h
  · simp_all
  · split at h
    · simp only [bind, Option.bind_eq_some_iff, pure, Option.some.injEq, Prod.mk.injEq] at h
      obtain ⟨⟨parts, r⟩, h1, cs, -, -, rfl⟩ := h
      exact Nat.le_of_lt (length_lt_of_scanText? h1)
    · split at h
      · next v r hw =>
        simp only [Option.some.injEq, Prod.mk.injEq] at h
        obtain ⟨-, rfl⟩ := h
        exact Nat.le_of_lt_succ (length_lt_of_scanWord? hw)
      · simp only [bind, Option.bind_eq_some_iff, pure, Option.some.injEq, Prod.mk.injEq] at h
        obtain ⟨⟨p, r⟩, h1, v, -, -, rfl⟩ := h
        exact Nat.le_of_lt_succ (length_lt_of_scanNumber? h1)

/-- The tokens of a text, none when some character begins no token. -/
def Token.scan? : List Char → Option (List Token)
  | [] => some []
  | c :: rest =>
      if isSpace c then Token.scan? rest
      else
        match h : Token.scanOne? c rest with
        | none => none
        | some (t, after) =>
            have : after.length ≤ rest.length := Token.length_le_of_scanOne? h
            (Token.scan? after).map (t :: ·)
termination_by cs => cs.length
decreasing_by
  · exact Nat.lt_succ_self _
  · exact Nat.lt_succ_of_le this

end MarkupActions.Json
