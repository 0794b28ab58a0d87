import MarkupActions.Json.Printer
import MarkupActions.Json.Token

/-!
# MarkupActions.Proofs.Json.Escaping

**Texts between quotes read back.** A character is written as itself, by a short escape, or by the
number of its code unit, and scanning what was written gives one part of a text for it
(`scanText?_escapeChar`). Only control characters are written by number, and these are no halves of a
pair, so joining the parts gives the characters back.
-/

namespace MarkupActions.Json

/-- How a character that was escaped is scanned. -/
def partOf (c : Char) : TextPart :=
  if c.toNat < 0x20 ∧ c ∉ ['\x08', '\x0c', '\n', '\r', '\t'] then .unit c.toNat else .char c

/-- The number of a control character is written in two digits behind two zeros. -/
theorem hexUnit?_digitChar {n : Nat} (h : n < 0x20) :
    hexUnit? '0' '0' (Nat.digitChar (n / 16)) (Nat.digitChar (n % 16)) = some n := by
  have hall : ∀ n < 0x20,
      hexUnit? '0' '0' (Nat.digitChar (n / 16)) (Nat.digitChar (n % 16)) = some n := by decide
  exact hall n h

/-- A character that needs no escape is scanned as itself. -/
theorem scanText?_cons {c : Char} (hquote : c ≠ '"') (hbackslash : c ≠ '\\')
    (hcontrol : ¬ c.toNat < 0x20) (rest : List Char) :
    scanText? (c :: rest) = (scanText? rest).map (consPart (.char c)) := by
  rw [scanText?.eq_def]
  split <;> grind

/-- A character that is written is read back as itself. -/
theorem scanText?_escapeChar (c : Char) (rest : List Char) :
    scanText? (escapeChar c ++ rest) = (scanText? rest).map (consPart (partOf c)) := by
  by_cases hshort : c ∈ ['"', '\\', '\x08', '\x0c', '\n', '\r', '\t']
  · simp only [List.mem_cons, List.not_mem_nil, or_false] at hshort
    rcases hshort with rfl | rfl | rfl | rfl | rfl | rfl | rfl <;> rfl
  · simp only [List.mem_cons, List.not_mem_nil, or_false, not_or] at hshort
    obtain ⟨hquote, hbackslash, hb, hf, hn, hr, ht⟩ := hshort
    by_cases hcontrol : c.toNat < 0x20
    · have hpart : partOf c = .unit c.toNat := by simp [partOf, *]
      have hescape : escapeChar c =
          ['\\', 'u', '0', '0', Nat.digitChar (c.toNat / 16), Nat.digitChar (c.toNat % 16)] := by
        simp [escapeChar, *]
      rw [hpart, hescape]
      simp only [List.cons_append, List.nil_append, scanText?, hexUnit?_digitChar hcontrol]
    · have hpart : partOf c = .char c := by simp [partOf, hcontrol]
      have hescape : escapeChar c = [c] := by simp [escapeChar, *]
      rw [hpart, hescape]
      exact scanText?_cons hquote hbackslash hcontrol rest

/-- Escaped characters are scanned one part each, up to the closing quote. -/
theorem scanText?_escaped (cs rest : List Char) :
    scanText? (cs.flatMap escapeChar ++ '"' :: rest) = some (cs.map partOf, rest) := by
  induction cs with
  | nil => rfl
  | cons c cs ih =>
    rw [List.flatMap_cons, List.append_assoc, scanText?_escapeChar, ih]
    rfl

/-! ### Joining the parts -/

/-- A code unit that is no half of a pair stands for its character. -/
theorem joinParts?_unit {n : Nat} (h : n < 0xD800) (parts : List TextPart) :
    joinParts? (.unit n :: parts) = (joinParts? parts).map (Char.ofNat n :: ·) := by
  have hhigh : isHighSurrogate n = false := by simp [isHighSurrogate]; omega
  have hlow : isLowSurrogate n = false := by simp [isLowSurrogate]; omega
  cases parts with
  | nil => simp [joinParts?, hhigh, hlow]
  | cons part parts => cases part <;> simp [joinParts?, hhigh, hlow]

/-- The parts of characters that were escaped are those characters. -/
theorem joinParts?_partOf (cs : List Char) : joinParts? (cs.map partOf) = some cs := by
  induction cs with
  | nil => rfl
  | cons c cs ih =>
    rw [List.map_cons, partOf]
    split
    · next h =>
      rw [joinParts?_unit (by omega), ih, Option.map_some, Char.ofNat_toNat]
    · rw [joinParts?, ih, Option.map_some]

end MarkupActions.Json
