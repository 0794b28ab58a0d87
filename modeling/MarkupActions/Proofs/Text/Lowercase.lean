import MarkupActions.Text.Lowercase

/-!
# MarkupActions.Proofs.Text.Lowercase

**Two ways to tell names apart in letters of any case.** Lower-casing maps capitals of all scripts,
the comparison of `eqIgnoringAsciiCase` those of ASCII only. For the names of actions this makes no
difference: outside ASCII one capital alone has a small letter of ASCII, the Kelvin sign with its
`k`, and the capital I with a dot above leaves a dot behind. So a name of small letters without a `k`
is met by the same texts either way (`lowercase_eq_iff`).
-/

namespace MarkupActions.Text

/-- A small letter of ASCII whose only capital is one of ASCII. -/
def IsPlain (c : Char) : Prop := 0x61 ≤ c.toNat ∧ c.toNat ≤ 0x7A ∧ c.toNat ≠ 0x6B

instance : DecidablePred IsPlain := fun c =>
  inferInstanceAs (Decidable (0x61 ≤ c.toNat ∧ c.toNat ≤ 0x7A ∧ c.toNat ≠ 0x6B))

/-! ### Single characters -/

theorem toNat_toLower (c : Char) : c.toLower.toNat =
    if 0x41 ≤ c.toNat ∧ c.toNat ≤ 0x5A then c.toNat + 0x20 else c.toNat := by
  have hupper : (c.val ≥ 'A'.val ∧ c.val ≤ 'Z'.val) ↔ 0x41 ≤ c.toNat ∧ c.toNat ≤ 0x5A := by
    rw [ge_iff_le, UInt32.le_iff_toNat_le, UInt32.le_iff_toNat_le]
    rfl
  unfold Char.toLower
  split
  · next h =>
    have hrange := hupper.1 h
    rw [if_pos hrange]
    change (c.val + 0x20).toNat = _
    rw [UInt32.toNat_add, Char.toNat_val]
    exact Nat.mod_eq_of_lt (by simp; omega)
  · next h => rw [if_neg fun hrange => h (hupper.2 hrange)]

theorem toNat_ofNat_of_valid {n : Nat} (h : n.isValidChar) : (Char.ofNat n).toNat = n := by
  rw [Char.ofNat, dif_pos h]
  rfl

/-- Outside ASCII the capital of a plain letter would have to become one, which the Kelvin sign alone
does for a letter of ASCII. -/
theorem not_isPlain_of_run {run : CaseRun} (hrun : run ∈ lowercaseRuns) {n : Nat}
    (hholds : run.holds n = true) : ¬ IsPlain (Char.ofNat (run.target + (n - run.first))) := by
  have houtside : (lowercaseRuns.all fun run =>
      0x80 ≤ run.target || run.target = 0x6B && run.first = run.last) = true := by decide
  have htarget := List.all_eq_true.1 houtside run hrun
  simp only [Bool.or_eq_true, Bool.and_eq_true, decide_eq_true_eq] at htarget
  simp only [CaseRun.holds, Bool.and_eq_true, decide_eq_true_eq, beq_iff_eq] at hholds
  rw [IsPlain]
  by_cases hvalid : (run.target + (n - run.first)).isValidChar
  · rw [toNat_ofNat_of_valid hvalid]
    omega
  · rw [Char.ofNat, dif_neg hvalid]
    decide

/-- A character has a plain one as its lower case just if it has in ASCII. -/
theorem lowerChar_eq_iff (c : Char) {x : Char} (hx : IsPlain x) :
    lowerChar c = x ↔ c.toLower = x := by
  have hlower := toNat_toLower c
  unfold lowerChar
  dsimp only
  split
  · next hascii =>
    suffices h : (if (0x41 ≤ c.toNat && c.toNat ≤ 0x5A) = true then Char.ofNat (c.toNat + 0x20)
        else c) = c.toLower by rw [h]
    rw [← Char.toNat_inj, hlower]
    simp only [Bool.and_eq_true, decide_eq_true_eq]
    split
    · exact toNat_ofNat_of_valid (.inl (by omega))
    · rfl
  · next hascii =>
    have hsame : c.toLower = c := by
      rw [← Char.toNat_inj, hlower, if_neg (by omega)]
    have hc : c ≠ x := by
      rintro rfl
      exact hascii (Nat.lt_of_le_of_lt hx.2.1 (by decide))
    rw [hsame]
    split
    · next run hrun =>
      have hholds : run.holds c.toNat = true :=
        List.find?_some (p := fun x : CaseRun => x.holds c.toNat) hrun
      have hplain := not_isPlain_of_run (List.mem_of_find?_eq_some hrun) hholds
      exact iff_of_false (fun h => hplain (h ▸ hx)) hc
    · rfl

/-! ### Names -/

theorem lowerSigma_not_isPlain (before after : List Char) : ¬ IsPlain (lowerSigma before after) := by
  unfold lowerSigma
  split <;> decide

/-- A text has a plain name as its lower case just if it has in ASCII. -/
theorem lowerFrom_eq_iff (before cs : List Char) {name : List Char}
    (hname : ∀ x ∈ name, IsPlain x) :
    lowerFrom before cs = name ↔ cs.map Char.toLower = name := by
  induction cs generalizing before name with
  | nil => rfl
  | cons c rest ih =>
    cases name with
    | nil =>
      rw [lowerFrom, List.map_cons]
      refine iff_of_false ?_ (List.cons_ne_nil _ _)
      split
      · exact List.cons_ne_nil _ _
      · split <;> exact List.cons_ne_nil _ _
    | cons x name =>
      have hx := hname x List.mem_cons_self
      have hrest := ih (c :: before) fun y hy => hname y (List.mem_cons_of_mem x hy)
      rw [lowerFrom, List.map_cons, List.cons.injEq]
      split
      · next hsigma =>
        -- A sigma of either form is no plain letter, and neither is the capital.
        subst hsigma
        refine iff_of_false ?_ ?_
        · rintro h
          exact lowerSigma_not_isPlain before rest ((List.cons.inj h).1 ▸ hx)
        · rintro ⟨rfl, -⟩
          exact absurd hx (by decide)
      · split
        · next hdotted =>
          subst hdotted
          refine iff_of_false ?_ ?_
          · intro h
            have hdot := (List.cons.inj h).2
            exact absurd (hname '\u0307' (List.mem_cons_of_mem x (hdot ▸ List.mem_cons_self)))
              (by decide)
          · rintro ⟨rfl, -⟩
            exact absurd hx (by decide)
        · rw [List.cons.injEq, lowerChar_eq_iff c hx, hrest]

theorem map_toLower_eq_self {name : List Char} (hname : ∀ x ∈ name, IsPlain x) :
    name.map Char.toLower = name := by
  rw [List.map_congr_left (g := id), List.map_id]
  intro x hx
  have hplain := hname x hx
  rw [id_eq, ← Char.toNat_inj, toNat_toLower, if_neg fun h => ?_]
  exact absurd (Nat.le_trans hplain.1 h.2) (by decide)

/-- Whether a name has plain letters only. -/
def isPlainName (name : String) : Bool := name.toList.all fun c => decide (IsPlain c)

/-- A plain name in letters of any case is the same texts by either comparison. -/
theorem lowercase_eq_iff (s : String) {name : String} (hname : isPlainName name = true) :
    lowercase s = name ↔ eqIgnoringAsciiCase s name = true := by
  have hplain : ∀ x ∈ name.toList, IsPlain x := fun x hx =>
    of_decide_eq_true (List.all_eq_true.1 hname x hx)
  rw [eqIgnoringAsciiCase, beq_iff_eq, map_toLower_eq_self hplain, ← lowerFrom_eq_iff [] _ hplain,
    ← toList_lowercase, String.toList_inj]

end MarkupActions.Text
