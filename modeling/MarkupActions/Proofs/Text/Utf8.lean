import Mathlib.Tactic.IntervalCases
import MarkupActions.Text.Utf8

/-!
# MarkupActions.Proofs.Text.Utf8

**Text survives its bytes.** Reading the bytes of characters gives the characters back, with nothing
replaced (`decode_flatMap`). The work is done one character at a time: the first byte of its encoding
announces exactly the bytes that follow, and these add up to its code point again.

Bytes below `0x80` stand for themselves and for nothing else (`eq_of_mem_utf8EncodeChar`), so
encoded text can be cut at such a byte without cutting a character.
-/

namespace MarkupActions.Text.Utf8

/-! ### The bytes of a text -/

theorem toList_loop (bytes : ByteArray) (i : Nat) (acc : List UInt8) :
    ByteArray.toList.loop bytes i acc = acc.reverse ++ bytes.data.toList.drop i := by
  fun_induction ByteArray.toList.loop bytes i acc with
  | case1 i acc h ih =>
    have hlt : i < bytes.data.toList.length := by simpa using h
    rw [ih, List.drop_eq_getElem_cons hlt]
    simp [ByteArray.get!, h]
  | case2 i acc h =>
    rw [List.drop_eq_nil_of_le (by simpa using Nat.le_of_not_lt h)]
    simp

/-- The bytes of a text are those of its characters in turn. -/
theorem encode_eq_flatMap (s : String) : encode s = s.toList.flatMap String.utf8EncodeChar := by
  have hbytes : s.toUTF8 = (s.toList.flatMap String.utf8EncodeChar).toByteArray := by
    calc s.toByteArray
        = (String.ofList s.toList).toByteArray := by rw [String.ofList_toList]
      _ = s.toList.utf8Encode := String.toByteArray_ofList
  rw [encode, hbytes, ByteArray.toList, toList_loop]
  simp

/-! ### The byte that begins a character -/

variable {rest : List UInt8}

theorem next_of_lt {b : UInt8} (h : b < 0x80) : next b rest = (some (Char.ofNat b.toNat), rest) :=
  if_pos h

theorem next_of_lead {b : UInt8} {lead : Lead} (hb : ¬ b < 0x80) (h : Lead.of? b = some lead) :
    next b rest = finish lead.more lead.low lead.high lead.bits rest := by
  rw [next, if_neg hb, h]

/-- Of the first bytes that announce one more, `0xC0` and `0xC1` are left out. -/
theorem lead_two {n : Nat} (h : 2 ≤ n) (h' : n < 32) :
    Lead.of? (UInt8.ofNat (n + 0xC0)) = some ⟨1, 0x80, 0xBF, n⟩ := by
  interval_cases n <;> rfl

/-- Of two more, the second byte shuts out overlong forms and surrogates. -/
theorem lead_three {n : Nat} (h : n < 16) : Lead.of? (UInt8.ofNat (n + 0xE0)) =
    some ⟨2, if n = 0 then 0xA0 else 0x80, if n = 13 then 0x9F else 0xBF, n⟩ := by
  interval_cases n <;> rfl

/-- Of three more, it shuts out overlong forms and what is past the last code point. -/
theorem lead_four {n : Nat} (h : n < 5) : Lead.of? (UInt8.ofNat (n + 0xF0)) =
    some ⟨3, if n = 0 then 0x90 else 0x80, if n = 4 then 0x8F else 0xBF, n⟩ := by
  interval_cases n <;> rfl

theorem not_ofNat_lt {n : Nat} (h : 128 ≤ n) (h' : n < 256) : ¬ UInt8.ofNat n < 0x80 := by
  rw [UInt8.lt_iff_toNat_lt, UInt8.toNat_ofNat', Nat.mod_eq_of_lt h']
  exact Nat.not_lt.2 h

/-! ### The bytes that follow -/

theorem finish_zero (low high : UInt8) (point : Nat) :
    finish 0 low high point rest = (some (Char.ofNat point), rest) := rfl

/-- A byte that continues a sequence adds six bits. -/
theorem finish_succ {low high : UInt8} {m : Nat} (more point : Nat)
    (hlow : low.toNat ≤ m % 64 + 128) (hhigh : m % 64 + 128 ≤ high.toNat) :
    finish (more + 1) low high point (UInt8.ofNat (m % 64 + 128) :: rest) =
      finish more 0x80 0xBF (point * 64 + m % 64) rest := by
  have hbyte : (UInt8.ofNat (m % 64 + 128)).toNat = m % 64 + 128 := by
    rw [UInt8.toNat_ofNat']
    omega
  have hbounds : (low ≤ UInt8.ofNat (m % 64 + 128) && UInt8.ofNat (m % 64 + 128) ≤ high) = true := by
    simp only [UInt8.le_iff_toNat_le, hbyte, hlow, hhigh, decide_true, Bool.and_self]
  rw [finish, if_pos hbounds, hbyte, Nat.add_sub_cancel]

/-! ### A code point and its bytes

One lemma for each length. The bounds are those of the code points that have an encoding of that
length; with them the bounds on the second byte say that the encoding is the shortest, and that the
code point is none of the surrogates. -/

variable {v : Nat}

theorem next_one (h : v < 0x80) : next (UInt8.ofNat v) rest = (some (Char.ofNat v), rest) := by
  have hbyte : (UInt8.ofNat v).toNat = v := by
    rw [UInt8.toNat_ofNat']
    omega
  rw [next_of_lt (UInt8.lt_iff_toNat_lt.2 (hbyte.symm ▸ h)), hbyte]

theorem next_two (hmin : 0x80 ≤ v) (hmax : v < 0x800) :
    next (UInt8.ofNat (v / 64 % 32 + 0xC0)) (UInt8.ofNat (v % 64 + 0x80) :: rest) =
      (some (Char.ofNat v), rest) := by
  rw [Nat.mod_eq_of_lt (show v / 64 < 32 by omega)]
  have hlead := lead_two (n := v / 64) (by omega) (by omega)
  have hpoint : v / 64 * 64 + v % 64 = v := by omega
  rw [next_of_lead (not_ofNat_lt (by omega) (by omega)) hlead,
    finish_succ _ _ (by simp) (by simp; omega), finish_zero, hpoint]

theorem next_three (hmin : 0x800 ≤ v) (hmax : v < 0xD800 ∨ 0xDFFF < v ∧ v < 0x10000) :
    next (UInt8.ofNat (v / 4096 % 16 + 0xE0))
      (UInt8.ofNat (v / 64 % 64 + 0x80) :: UInt8.ofNat (v % 64 + 0x80) :: rest) =
      (some (Char.ofNat v), rest) := by
  rw [Nat.mod_eq_of_lt (show v / 4096 < 16 by omega)]
  have hlead := lead_three (n := v / 4096) (by omega)
  have hpoint : (v / 4096 * 64 + v / 64 % 64) * 64 + v % 64 = v := by omega
  rw [next_of_lead (not_ofNat_lt (by omega) (by omega)) hlead, finish_succ,
    finish_succ _ _ (by simp) (by simp; omega), finish_zero, hpoint]
  -- What is left are the bounds of the second byte, which the first byte decides.
  · dsimp only
    split <;> simp
    omega
  · dsimp only
    split <;> simp <;> omega

theorem next_four (hmin : 0x10000 ≤ v) (hmax : v < 0x110000) :
    next (UInt8.ofNat (v / 262144 % 8 + 0xF0)) (UInt8.ofNat (v / 4096 % 64 + 0x80) ::
      UInt8.ofNat (v / 64 % 64 + 0x80) :: UInt8.ofNat (v % 64 + 0x80) :: rest) =
      (some (Char.ofNat v), rest) := by
  rw [Nat.mod_eq_of_lt (show v / 262144 < 8 by omega)]
  have hlead := lead_four (n := v / 262144) (by omega)
  have hpoint : ((v / 262144 * 64 + v / 4096 % 64) * 64 + v / 64 % 64) * 64 + v % 64 = v := by omega
  rw [next_of_lead (not_ofNat_lt (by omega) (by omega)) hlead, finish_succ,
    finish_succ _ _ (by simp) (by simp; omega), finish_succ _ _ (by simp) (by simp; omega),
    finish_zero, hpoint]
  -- As above, the bounds of the second byte.
  · dsimp only
    split <;> simp
    omega
  · dsimp only
    split <;> simp <;> omega

/-! ### Whole texts -/

/-- The bytes of a character are read as that character. -/
theorem parts_utf8EncodeChar_append (c : Char) (rest : List UInt8) :
    parts (String.utf8EncodeChar c ++ rest) = some c :: parts rest := by
  have hvalid : c.val.toNat < 0xD800 ∨ 0xDFFF < c.val.toNat ∧ c.val.toNat < 0x110000 := c.valid
  have hchar : Char.ofNat c.val.toNat = c := Char.ofNat_toNat c
  unfold String.utf8EncodeChar
  -- From here on only the code point matters.
  generalize c.val.toNat = v at hvalid hchar ⊢
  dsimp only
  split
  · rw [List.singleton_append, parts, next_one (by omega), hchar]
  · split
    · rw [List.cons_append, List.singleton_append, parts, next_two (by omega) (by omega), hchar]
    · split
      · simp only [List.cons_append, List.nil_append]
        rw [parts, next_three (by omega) (by omega), hchar]
      · simp only [List.cons_append, List.nil_append]
        rw [parts, next_four (by omega) (by omega), hchar]

theorem parts_flatMap (chars : List Char) :
    parts (chars.flatMap String.utf8EncodeChar) = chars.map some := by
  induction chars with
  | nil => rw [List.flatMap_nil, parts, List.map_nil]
  | cons c rest ih => rw [List.flatMap_cons, parts_utf8EncodeChar_append, ih, List.map_cons]

/-- Reading the bytes of characters gives the characters. -/
theorem decode_flatMap (chars : List Char) :
    decode (chars.flatMap String.utf8EncodeChar) = String.ofList chars := by
  rw [decode, parts_flatMap, List.map_map]
  exact congrArg String.ofList (List.map_id chars)

/-! ### Bytes that stand for themselves -/

/-- A byte below `0x80` stands in the bytes of one character only. -/
theorem eq_of_mem_utf8EncodeChar {c : Char} {b : UInt8} (hmem : b ∈ String.utf8EncodeChar c)
    (hlt : b.toNat < 0x80) : c = Char.ofNat b.toNat := by
  have hchar : Char.ofNat c.val.toNat = c := Char.ofNat_toNat c
  have habove : ∀ n, 128 ≤ n → n < 256 → ¬ b = UInt8.ofNat n := by
    rintro n hmin hmax rfl
    rw [UInt8.toNat_ofNat', Nat.mod_eq_of_lt hmax] at hlt
    exact Nat.not_lt.2 hmin hlt
  -- All bytes of a character of more than one are at least `0x80`.
  unfold String.utf8EncodeChar at hmem
  generalize c.val.toNat = v at hmem hchar
  dsimp only at hmem
  split at hmem
  · rw [List.mem_singleton.1 hmem, UInt8.toNat_ofNat', Nat.mod_eq_of_lt (by omega), hchar]
  · split at hmem
    · simp only [List.mem_cons, List.not_mem_nil, or_false] at hmem
      rcases hmem with h | h <;> exact absurd h (habove _ (by omega) (by omega))
    · split at hmem
      · simp only [List.mem_cons, List.not_mem_nil, or_false] at hmem
        rcases hmem with h | h | h <;> exact absurd h (habove _ (by omega) (by omega))
      · simp only [List.mem_cons, List.not_mem_nil, or_false] at hmem
        rcases hmem with h | h | h | h <;> exact absurd h (habove _ (by omega) (by omega))

end MarkupActions.Text.Utf8
