import MarkupActions.Proofs.Text.Lowercase
import MarkupActions.Proofs.Text.Utf8

/-!
# MarkupActions.Proofs.Text.ValidUtf8

**Bytes that are a text.** The strict reader takes the bytes of texts and no others
(`decodeStrict?_eq_some_iff`). Wherever it reads a character it has seen the bytes that this
character is encoded in: the bounds of the first byte, and those it sets for the second one, leave
room for the shortest form of a code point only, and for no surrogate.
-/

namespace MarkupActions.Text.Utf8

variable {b : UInt8} {rest after : List UInt8} {c : Char}

/-! ### Code points and their bytes -/

section

variable {v : Nat}

/-- The bytes of a character from its code point. -/
theorem utf8EncodeChar_ofNat (hvalid : v.isValidChar) : String.utf8EncodeChar (Char.ofNat v) =
    if v ≤ 0x7F then [UInt8.ofNat v]
    else if v ≤ 0x7FF then [UInt8.ofNat (v / 64 % 32 + 0xC0), UInt8.ofNat (v % 64 + 0x80)]
    else if v ≤ 0xFFFF then
      [UInt8.ofNat (v / 4096 % 16 + 0xE0), UInt8.ofNat (v / 64 % 64 + 0x80),
        UInt8.ofNat (v % 64 + 0x80)]
    else
      [UInt8.ofNat (v / 262144 % 8 + 0xF0), UInt8.ofNat (v / 4096 % 64 + 0x80),
        UInt8.ofNat (v / 64 % 64 + 0x80), UInt8.ofNat (v % 64 + 0x80)] := by
  have hpoint : (Char.ofNat v).val.toNat = v := toNat_ofNat_of_valid hvalid
  unfold String.utf8EncodeChar
  rw [hpoint]

/-- The two bytes of a code point with an encoding of that length. -/
theorem utf8EncodeChar_two {n m : Nat} (hn : 2 ≤ n) (hn' : n < 32) (hm : m < 64) :
    String.utf8EncodeChar (Char.ofNat (n * 64 + m)) =
      [UInt8.ofNat (n + 0xC0), UInt8.ofNat (m + 0x80)] := by
  have hquot : (n * 64 + m) / 64 % 32 = n := by omega
  have hrem : (n * 64 + m) % 64 = m := by omega
  rw [utf8EncodeChar_ofNat (.inl (by omega)), if_neg (by omega), if_pos (by omega), hquot, hrem]

theorem utf8EncodeChar_three {n m k : Nat} (hn : n < 16) (hm : m < 64) (hk : k < 64)
    (hlow : n = 0 → 32 ≤ m) (hhigh : n = 13 → m < 32) :
    String.utf8EncodeChar (Char.ofNat ((n * 64 + m) * 64 + k)) =
      [UInt8.ofNat (n + 0xE0), UInt8.ofNat (m + 0x80), UInt8.ofNat (k + 0x80)] := by
  have hfirst : ((n * 64 + m) * 64 + k) / 4096 % 16 = n := by omega
  have hsecond : ((n * 64 + m) * 64 + k) / 64 % 64 = m := by omega
  have hthird : ((n * 64 + m) * 64 + k) % 64 = k := by omega
  have hvalid : ((n * 64 + m) * 64 + k).isValidChar := by
    unfold Nat.isValidChar
    omega
  rw [utf8EncodeChar_ofNat hvalid, if_neg (by omega), if_neg (by omega), if_pos (by omega), hfirst,
    hsecond, hthird]

theorem utf8EncodeChar_four {n m k j : Nat} (hn : n < 5) (hm : m < 64) (hk : k < 64) (hj : j < 64)
    (hlow : n = 0 → 16 ≤ m) (hhigh : n = 4 → m < 16) :
    String.utf8EncodeChar (Char.ofNat (((n * 64 + m) * 64 + k) * 64 + j)) =
      [UInt8.ofNat (n + 0xF0), UInt8.ofNat (m + 0x80), UInt8.ofNat (k + 0x80),
        UInt8.ofNat (j + 0x80)] := by
  have hfirst : (((n * 64 + m) * 64 + k) * 64 + j) / 262144 % 8 = n := by omega
  have hsecond : (((n * 64 + m) * 64 + k) * 64 + j) / 4096 % 64 = m := by omega
  have hthird : (((n * 64 + m) * 64 + k) * 64 + j) / 64 % 64 = k := by omega
  have hfourth : (((n * 64 + m) * 64 + k) * 64 + j) % 64 = j := by omega
  have hvalid : (((n * 64 + m) * 64 + k) * 64 + j).isValidChar := by
    unfold Nat.isValidChar
    omega
  rw [utf8EncodeChar_ofNat hvalid, if_neg (by omega), if_neg (by omega), if_neg (by omega), hfirst,
    hsecond, hthird, hfourth]

end

/-! ### Reading one character -/

/-- A sequence that owes another byte and is finished goes on with one that adds six bits. -/
theorem finish_eq_some {more point : Nat} {low high : UInt8} (hlow : 0x80 ≤ low.toNat)
    (hhigh : high.toNat ≤ 0xBF) (h : finish (more + 1) low high point rest = (some c, after)) :
    ∃ n tail, n < 64 ∧ low.toNat ≤ n + 0x80 ∧ n + 0x80 ≤ high.toNat ∧
      rest = UInt8.ofNat (n + 0x80) :: tail ∧
      finish more 0x80 0xBF (point * 64 + n) tail = (some c, after) := by
  cases rest with
  | nil => cases h
  | cons b tail =>
    rw [finish] at h
    split at h
    · next hbounds =>
      simp only [Bool.and_eq_true, decide_eq_true_eq, UInt8.le_iff_toNat_le] at hbounds
      refine ⟨b.toNat - 0x80, tail, by omega, by omega, by omega, ?_, h⟩
      have hbyte : b.toNat - 0x80 + 0x80 = b.toNat := by omega
      rw [hbyte, UInt8.ofNat_toNat]
    · cases h

/-- What is read from two bytes is written as these two bytes. -/
theorem of_next_two {n : Nat} (hmin : 2 ≤ n) (hmax : n < 32)
    (h : next (UInt8.ofNat (n + 0xC0)) rest = (some c, after)) :
    UInt8.ofNat (n + 0xC0) :: rest = String.utf8EncodeChar c ++ after := by
  rw [next_of_lead (not_ofNat_lt (by omega) (by omega)) (lead_two hmin hmax)] at h
  dsimp only at h
  obtain ⟨m, tail, hm, -, -, rfl, hend⟩ := finish_eq_some (by decide) (by decide) h
  cases hend
  rw [utf8EncodeChar_two hmin hmax hm]
  rfl

theorem of_next_three {n : Nat} (hmax : n < 16)
    (h : next (UInt8.ofNat (n + 0xE0)) rest = (some c, after)) :
    UInt8.ofNat (n + 0xE0) :: rest = String.utf8EncodeChar c ++ after := by
  rw [next_of_lead (not_ofNat_lt (by omega) (by omega)) (lead_three hmax)] at h
  dsimp only at h
  obtain ⟨m, tail, hm, hlow, hhigh, rfl, hmore⟩ :=
    finish_eq_some (by split <;> decide) (by split <;> decide) h
  obtain ⟨k, tail, hk, -, -, rfl, hend⟩ := finish_eq_some (by decide) (by decide) hmore
  cases hend
  -- The bounds of the second byte are what the length and the surrogates ask for.
  have hlow' : n = 0 → 32 ≤ m := by
    rintro rfl
    simp at hlow
    omega
  have hhigh' : n = 13 → m < 32 := by
    rintro rfl
    simp at hhigh
    omega
  rw [utf8EncodeChar_three hmax hm hk hlow' hhigh']
  rfl

theorem of_next_four {n : Nat} (hmax : n < 5)
    (h : next (UInt8.ofNat (n + 0xF0)) rest = (some c, after)) :
    UInt8.ofNat (n + 0xF0) :: rest = String.utf8EncodeChar c ++ after := by
  rw [next_of_lead (not_ofNat_lt (by omega) (by omega)) (lead_four hmax)] at h
  dsimp only at h
  obtain ⟨m, tail, hm, hlow, hhigh, rfl, hmore⟩ :=
    finish_eq_some (by split <;> decide) (by split <;> decide) h
  obtain ⟨k, tail, hk, -, -, rfl, hmore'⟩ := finish_eq_some (by decide) (by decide) hmore
  obtain ⟨j, tail, hj, -, -, rfl, hend⟩ := finish_eq_some (by decide) (by decide) hmore'
  cases hend
  -- As above, with the last code point in place of the surrogates.
  have hlow' : n = 0 → 16 ≤ m := by
    rintro rfl
    simp at hlow
    omega
  have hhigh' : n = 4 → m < 16 := by
    rintro rfl
    simp at hhigh
    omega
  rw [utf8EncodeChar_four hmax hm hk hj hlow' hhigh']
  rfl

/-- The bytes that announce others. -/
theorem bounds_of_lead {lead : Lead} (h : Lead.of? b = some lead) :
    0xC2 ≤ b.toNat ∧ b.toNat < 0xF5 := by
  unfold Lead.of? at h
  simp only [Bool.and_eq_true, decide_eq_true_eq, beq_iff_eq, UInt8.le_iff_toNat_le,
    ← UInt8.toNat_inj, UInt8.reduceToNat] at h
  repeat' split at h
  all_goals first | omega | cases h

/-- A character is read off the bytes it is encoded in. -/
theorem of_next (h : next b rest = (some c, after)) :
    b :: rest = String.utf8EncodeChar c ++ after := by
  by_cases hone : b < 0x80
  · rw [next_of_lt hone] at h
    cases h
    have hlt : b.toNat < 0x80 := UInt8.lt_iff_toNat_lt.1 hone
    rw [utf8EncodeChar_ofNat (.inl (by omega)), if_pos (by omega), UInt8.ofNat_toNat]
    rfl
  · cases hlead : Lead.of? b with
    | none =>
      rw [next, if_neg hone, hlead] at h
      cases h
    | some lead =>
      -- How many bytes follow is told by the first one.
      obtain ⟨hmin, hmax⟩ := bounds_of_lead hlead
      have hbyte : b = UInt8.ofNat b.toNat := UInt8.ofNat_toNat.symm
      generalize b.toNat = n at hmin hmax hbyte
      subst hbyte
      rcases Nat.lt_or_ge n 0xE0 with htwo | hmin
      · obtain ⟨m, rfl⟩ := Nat.exists_eq_add_of_le' (show 0xC0 ≤ n by omega)
        exact of_next_two (by omega) (by omega) h
      · rcases Nat.lt_or_ge n 0xF0 with hthree | hmin
        · obtain ⟨m, rfl⟩ := Nat.exists_eq_add_of_le' (show 0xE0 ≤ n by omega)
          exact of_next_three (by omega) h
        · obtain ⟨m, rfl⟩ := Nat.exists_eq_add_of_le' (show 0xF0 ≤ n by omega)
          exact of_next_four (by omega) h

/-! ### Whole texts -/

/-- Bytes without a part that is no text are those of their characters. -/
theorem of_parts {bytes : List UInt8} {chars : List Char} (h : parts bytes = chars.map some) :
    bytes = chars.flatMap String.utf8EncodeChar := by
  induction chars generalizing bytes with
  | nil =>
    cases bytes with
    | nil => rfl
    | cons b rest => rw [parts] at h; cases h
  | cons c chars ih =>
    cases bytes with
    | nil => rw [parts] at h; cases h
    | cons b rest =>
      rw [parts, List.map_cons, List.cons.injEq] at h
      rw [List.flatMap_cons, ← ih h.2]
      exact of_next (Prod.ext h.1 rfl)

theorem mapM_id_eq_some_iff {parts : List (Option Char)} {chars : List Char} :
    parts.mapM id = some chars ↔ parts = chars.map some := by
  induction parts generalizing chars with
  | nil => cases chars <;> simp
  | cons part parts ih =>
    cases part with
    | none => cases chars <;> simp
    | some c => cases chars <;> simp [Option.bind_eq_some_iff, ih, and_comm]

/-- **Bytes that are a text.** The strict reader takes the bytes of a text for that text, and takes
nothing else. -/
theorem decodeStrict?_eq_some_iff {bytes : List UInt8} {s : String} :
    decodeStrict? bytes = some s ↔ bytes = encode s := by
  rw [encode_eq_flatMap, decodeStrict?, Option.map_eq_some_iff]
  constructor
  · rintro ⟨chars, hchars, rfl⟩
    rw [String.toList_ofList]
    exact of_parts (mapM_id_eq_some_iff.1 hchars)
  · rintro rfl
    exact ⟨s.toList, mapM_id_eq_some_iff.2 (parts_flatMap s.toList), String.ofList_toList⟩

end MarkupActions.Text.Utf8
