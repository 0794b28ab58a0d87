import MarkupActions.Proofs.Text.Utf8

/-!
# MarkupActions.Proofs.Text.ByteOrder

**Keys are in the order of their bytes.** Texts compare by code points. Their bytes compare in the
same way (`lt_iff_encode_lt`), because a longer encoding begins with a greater byte, and of two
encodings of one length the first byte that differs is the greater for the greater code point. So
whatever is listed in ascending order of its keys is listed in ascending order of their bytes.
-/

namespace MarkupActions.Text.Utf8

/-! ### One character -/

variable {x y : List UInt8} {m n v w : Nat}

theorem cons_lt_cons_of_lt (h : m < n) (hn : n < 256) :
    UInt8.ofNat m :: x < UInt8.ofNat n :: y := by
  refine List.cons_lt_cons_iff.2 (.inl (UInt8.lt_iff_toNat_lt.2 ?_))
  rwa [UInt8.toNat_ofNat', UInt8.toNat_ofNat', Nat.mod_eq_of_lt hn, Nat.mod_eq_of_lt (h.trans hn)]

/-- Where the first byte does not decide, the rest does. -/
theorem cons_lt_cons_of_le (h : m ≤ n) (hn : n < 256) (hrest : m = n → x < y) :
    UInt8.ofNat m :: x < UInt8.ofNat n :: y := by
  rcases Nat.lt_or_eq_of_le h with hlt | rfl
  · exact cons_lt_cons_of_lt hlt hn
  · exact List.cons_lt_cons_iff.2 (.inr ⟨rfl, hrest rfl⟩)

/-- Of two code points with encodings of two bytes, the smaller has the smaller bytes. -/
theorem two_lt_two (h : v < w) (hw : w < 0x800) :
    UInt8.ofNat (v / 64 % 32 + 192) :: UInt8.ofNat (v % 64 + 128) :: x <
      UInt8.ofNat (w / 64 % 32 + 192) :: UInt8.ofNat (w % 64 + 128) :: y := by
  refine cons_lt_cons_of_le (by omega) (by omega) fun hfirst => ?_
  exact cons_lt_cons_of_lt (by omega) (by omega)

theorem three_lt_three (h : v < w) (hw : w < 0x10000) :
    UInt8.ofNat (v / 4096 % 16 + 224) :: UInt8.ofNat (v / 64 % 64 + 128) ::
        UInt8.ofNat (v % 64 + 128) :: x <
      UInt8.ofNat (w / 4096 % 16 + 224) :: UInt8.ofNat (w / 64 % 64 + 128) ::
        UInt8.ofNat (w % 64 + 128) :: y := by
  refine cons_lt_cons_of_le (by omega) (by omega) fun hfirst => ?_
  refine cons_lt_cons_of_le (by omega) (by omega) fun hsecond => ?_
  exact cons_lt_cons_of_lt (by omega) (by omega)

theorem four_lt_four (h : v < w) (hw : w < 0x110000) :
    UInt8.ofNat (v / 262144 % 8 + 240) :: UInt8.ofNat (v / 4096 % 64 + 128) ::
        UInt8.ofNat (v / 64 % 64 + 128) :: UInt8.ofNat (v % 64 + 128) :: x <
      UInt8.ofNat (w / 262144 % 8 + 240) :: UInt8.ofNat (w / 4096 % 64 + 128) ::
        UInt8.ofNat (w / 64 % 64 + 128) :: UInt8.ofNat (w % 64 + 128) :: y := by
  refine cons_lt_cons_of_le (by omega) (by omega) fun hfirst => ?_
  refine cons_lt_cons_of_le (by omega) (by omega) fun hsecond => ?_
  refine cons_lt_cons_of_le (by omega) (by omega) fun hthird => ?_
  exact cons_lt_cons_of_lt (by omega) (by omega)

/-- The bytes of the lesser character come first, whatever follows either. -/
theorem utf8EncodeChar_append_lt {c d : Char} (h : c < d) (x y : List UInt8) :
    String.utf8EncodeChar c ++ x < String.utf8EncodeChar d ++ y := by
  have hlt : c.val.toNat < d.val.toNat := UInt32.lt_iff_toNat_lt.1 (Char.lt_def.1 h)
  have hmax : d.val.toNat < 0x110000 := by
    rcases d.valid with hvalid | hvalid
    · exact Nat.lt_trans hvalid (by decide)
    · exact hvalid.2
  unfold String.utf8EncodeChar
  -- From here on only the code points matter, and into how many bytes each goes.
  generalize c.val.toNat = v at hlt
  generalize d.val.toNat = w at hlt hmax
  dsimp only
  split
  · split
    · exact cons_lt_cons_of_lt hlt (by omega)
    · split
      · exact cons_lt_cons_of_lt (by omega) (by omega)
      · split <;> exact cons_lt_cons_of_lt (by omega) (by omega)
  · rw [if_neg (show ¬ w ≤ 127 by omega)]
    split
    · split
      · exact two_lt_two hlt (by omega)
      · split <;> exact cons_lt_cons_of_lt (by omega) (by omega)
    · rw [if_neg (show ¬ w ≤ 2047 by omega)]
      split
      · split
        · exact three_lt_three hlt (by omega)
        · exact cons_lt_cons_of_lt (by omega) (by omega)
      · rw [if_neg (show ¬ w ≤ 65535 by omega)]
        exact four_lt_four hlt hmax

/-! ### Whole texts -/

/-- Texts are ordered as their bytes are. -/
theorem flatMap_utf8EncodeChar_lt {s t : List Char} (h : s < t) :
    s.flatMap String.utf8EncodeChar < t.flatMap String.utf8EncodeChar := by
  induction s generalizing t with
  | nil =>
    obtain ⟨d, rest, rfl⟩ : ∃ d rest, t = d :: rest := List.exists_cons_of_ne_nil (by
      rintro rfl
      exact List.not_lt_nil [] h)
    have hbytes : (d :: rest).flatMap String.utf8EncodeChar ≠ [] := by
      simp [String.utf8EncodeChar_ne_nil]
    obtain ⟨b, bytes, hbytes⟩ := List.exists_cons_of_ne_nil hbytes
    rw [hbytes]
    exact List.nil_lt_cons b bytes
  | cons c s ih =>
    cases t with
    | nil => exact absurd h (List.not_lt_nil _)
    | cons d t =>
      rw [List.flatMap_cons, List.flatMap_cons]
      rcases List.cons_lt_cons_iff.1 h with hlt | ⟨rfl, hrest⟩
      · exact utf8EncodeChar_append_lt hlt _ _
      · exact List.append_left_lt (ih hrest)

/-- Texts are in the order of their bytes. -/
theorem lt_iff_encode_lt (s t : String) : s < t ↔ encode s < encode t := by
  have hforth : ∀ {s t : String}, s < t → encode s < encode t := by
    intro s t h
    rw [encode_eq_flatMap, encode_eq_flatMap]
    exact flatMap_utf8EncodeChar_lt (String.lt_iff.1 h)
  refine ⟨hforth, fun h => ?_⟩
  refine Decidable.byContradiction fun hnot => ?_
  by_cases heq : s = t
  · subst heq
    exact List.lt_irrefl _ h
  · have hback : t < s := Decidable.byContradiction fun hnot' =>
      heq (String.le_antisymm (String.not_lt.1 hnot') (String.not_lt.1 hnot))
    exact List.lt_asymm h (hforth hback)

/-- What ascends as texts ascends as bytes. -/
theorem pairwise_encode {keys : List String} (h : keys.Pairwise (· < ·)) :
    (keys.map encode).Pairwise (· < ·) :=
  List.pairwise_map.2 (h.imp (lt_iff_encode_lt _ _).1)

end MarkupActions.Text.Utf8
