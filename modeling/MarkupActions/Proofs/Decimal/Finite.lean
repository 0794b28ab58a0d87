import Mathlib
import MarkupActions.Decimal.Shortest

/-!
# MarkupActions.Proofs.Decimal.Finite

**Arithmetic that stays finite.** A double is unpacked into a mantissa and an exponent, and packed
again after each operation. What is packed is finite if its exponent is not too great (`Fits`), and
rounding keeps it so, unless the result is beyond the greatest double. Negating and multiplying
finite doubles therefore gives a finite double or an infinity, and dividing one by a double that is
not below ten gives a finite one: the quotient has fewer bits in front of its point. The powers of ten
are finite, and from the first on not below ten.
-/

namespace MarkupActions.Decimal

open Float.Model Float.Model.UnpackedFloat Float.Model.Format

/-! ### Packing -/

/-- A number that is packed into a finite double. -/
def Fits : UnpackedFloat → Prop
  | .zero _ => True
  | .finite _ _ e _ => e ≤ 971
  | _ => False

/-- A double is finite if its exponent is not the greatest one. -/
theorem isFinite_unpack_iff (b : BitVec 64) :
    (unpack binary64 b).isFinite = true ↔ @unpackExponent binary64 b ≠ -1#11 := by
  unfold UnpackedFloat.unpack
  dsimp only
  split
  · next h =>
    refine iff_of_false ?_ (fun hne => hne h)
    split <;> simp [UnpackedFloat.isFinite]
  · next h =>
    refine iff_of_true ?_ h
    split
    · split <;> rfl
    · rfl

/-- A double is finite in its bits just if it is finite. -/
theorem isFinite_eq (x : Float) : isFinite x.toBits = x.isFinite := by
  have hbits : x.isFinite = true ↔
      @unpackExponent binary64 x.toBits.toBitVec ≠ -1#11 := isFinite_unpack_iff _
  have hfield : (@unpackExponent binary64 x.toBits.toBitVec).toNat =
      exponentField x.toBits := by
    simp [unpackExponent, BitVec.extractLsb, exponentField, fractionCount, exponentCount,
      Nat.shiftRight_eq_div_pow]
  have hlt : exponentField x.toBits < exponentCount := Nat.mod_lt _ (by decide)
  have hmax : (-1#11).toNat = 2047 := by decide
  rw [Bool.eq_iff_iff, hbits, isFinite, decide_eq_true_iff, ne_eq, ← BitVec.toNat_inj, hfield, hmax]
  simp only [exponentCount] at hlt ⊢
  omega

theorem exponent_ne_of_lt {n : Nat} (h : n < 2047) : BitVec.ofNat 11 n ≠ -1#11 := by
  intro heq
  have hnat := congrArg BitVec.toNat heq
  rw [BitVec.toNat_ofNat, Nat.mod_eq_of_lt (by omega)] at hnat
  have hmax : (-1#11).toNat = 2047 := by decide
  omega

theorem Fits.isFinite_pack {f : UnpackedFloat} (h : Fits f) :
    (Float.Model.pack f).isFinite = true := by
  refine (isFinite_unpack_iff _).2 ?_
  change @unpackExponent binary64 (UnpackedFloat.pack binary64 f) ≠ -1#11
  cases f with
  | zero s =>
    rw [UnpackedFloat.pack, packedZero, unpackExponent_packComponents]
    decide
  | finite s m e hm =>
    have he : e ≤ 971 := h
    simp only [UnpackedFloat.pack]
    split
    · next hover =>
      simp [exponentBias] at hover
      omega
    · next hover =>
      split
      · rw [unpackExponent_packComponents]
        exact exponent_ne_of_lt (by simp at hover; omega)
      · rw [unpackExponent_packComponents]
        decide
  | infinity s => exact h.elim
  | notANumber => exact h.elim

/-- What is packed is finite, or infinite where it does not fit. -/
theorem isFinite_pack_of_isInf {f : UnpackedFloat} (h : f.isFinite = true)
    (hinf : (Float.Model.pack f).isInf = false) : (Float.Model.pack f).isFinite = true := by
  cases f with
  | zero s => exact Fits.isFinite_pack (f := .zero s) trivial
  | finite s m e hm =>
    by_cases he : e ≤ 971
    · exact Fits.isFinite_pack (f := .finite s m e hm) he
    · have hpack : UnpackedFloat.pack binary64 (.finite s m e hm) = packedInfinity binary64 s := by
        simp only [UnpackedFloat.pack]
        rw [if_pos (by simp [exponentBias]; omega)]
      have hunpack : unpack binary64 (packedInfinity binary64 s) =
          .infinity (Sign.ofBitVec (unpackSign (packedInfinity binary64 s))) := by
        simp [UnpackedFloat.unpack, packedInfinity, unpackExponent_packComponents,
          unpackMantissa_packComponents]
      have htrue : (Float.Model.pack (.finite s m e hm)).isInf = true := by
        change (unpack binary64 (UnpackedFloat.pack binary64 (.finite s m e hm))).isInf = true
        rw [hpack, hunpack]
        rfl
      rw [htrue] at hinf
      cases hinf
  | infinity s => cases h
  | notANumber => cases h

/-- The mantissa and the exponent that a double stands for. -/
theorem bounds_of_unpack {b : BitVec 64} {s : Sign} {m : Nat} {e : Int} {hm : 0 < m}
    (h : unpack binary64 b = .finite s m e hm) : m < 2 ^ 53 ∧ e ≤ 971 := by
  unfold UnpackedFloat.unpack at h
  dsimp only at h
  split at h
  · split at h <;> cases h
  · next hexp =>
    have hfield : (@unpackExponent binary64 b).toNat < 2047 := by
      have hlt : (@unpackExponent binary64 b).toNat < 2048 :=
        (@unpackExponent binary64 b).isLt
      have hne : (@unpackExponent binary64 b).toNat ≠ 2047 := by
        intro heq
        exact hexp (BitVec.toNat_inj.1 heq)
      omega
    split at h
    · next hzero =>
      split at h
      · cases h
      · simp only [UnpackedFloat.finite.injEq] at h
        obtain ⟨-, rfl, rfl⟩ := h
        have hlt := (@unpackMantissa binary64 b).isLt
        rw [hzero]
        simp only [exponentBias, BitVec.toNat_ofNat, Nat.zero_mod] at hlt ⊢
        omega
    · simp only [UnpackedFloat.finite.injEq] at h
      obtain ⟨-, rfl, rfl⟩ := h
      have hlt := (1#1 ++ @unpackMantissa binary64 b).isLt
      simp only [exponentBias] at hlt ⊢
      omega

/-! ### Rounding -/

theorem mantissa_shiftRight (em : ExtendedMantissa) (n : Nat) :
    (em >>> n).mantissa = em.mantissa / 2 ^ n := by
  induction n with
  | zero => simp [HShiftRight.hShiftRight, Nat.repeat]
  | succ n ih =>
    change (em >>> n).mantissa / 2 = _
    rw [ih, Nat.div_div_eq_div_mul, Nat.pow_succ]

theorem roundedMantissa_bounds (em : ExtendedMantissa) :
    em.mantissa ≤ em.roundedMantissa ∧ em.roundedMantissa ≤ em.mantissa + 1 := by
  obtain ⟨m, r, s⟩ := em
  cases r <;> cases s <;>
    simp [ExtendedMantissa.roundedMantissa, ExtendedMantissa.accuracy,
      Accuracy.roundToNearestEven]
  omega

/-- The exponent that a mantissa is shifted to. -/
theorem shiftToTargetExponent_snd (m : Nat) (e : Int) (a : Accuracy) :
    (shiftToTargetExponent binary64 m e a).2 = max e (max (m.log2 + e - 52) (-1074)) := by
  simp only [shiftToTargetExponent, shiftToExponent, targetExponent, totalExponent, mantissaBits,
    minExponent]
  omega

/-- What is shifted out of a mantissa is the remainder of a division. -/
theorem shiftToTargetExponent_fst (m : Nat) (e : Int) (a : Accuracy) :
    (shiftToTargetExponent binary64 m e a).1.mantissa =
      m / 2 ^ ((shiftToTargetExponent binary64 m e a).2 - e).toNat := by
  have hmantissa : (ExtendedMantissa.ofMantissaAndAccuracy m a).mantissa = m := by
    cases a with
    | exact => rfl
    | inexact o => cases o <;> rfl
  simp only [shiftToTargetExponent, shiftToExponent, mantissa_shiftRight, hmantissa]
  congr 2
  omega

theorem log2_le_of_le_div {n m k : Nat} (h : n ≤ m / 2 ^ k + 1) : n.log2 ≤ m.log2 + 1 - k := by
  have hm : m < 2 ^ k * 2 ^ (m.log2 + 1 - k) := by
    rw [← Nat.pow_add]
    exact Nat.lt_of_lt_of_le Nat.lt_log2_self (Nat.pow_le_pow_right (by decide) (by omega))
  have hdiv : m / 2 ^ k < 2 ^ (m.log2 + 1 - k) := Nat.div_lt_of_lt_mul hm
  by_cases hn : n = 0
  · simp [hn]
  · have hlt : n < 2 ^ (m.log2 + 1 - k + 1) := by
      rw [Nat.pow_succ]
      omega
    have hlog := (Nat.log2_lt hn).2 hlt
    omega

/-- A number that is far enough below the greatest double fits when it has been rounded. -/
theorem fits_roundWithAccuracy (s : Sign) {m : Nat} {e : Int} (a : Accuracy)
    (hm : m.log2 + e ≤ 1021) (he : e ≤ 970) : Fits (roundWithAccuracy binary64 s m e a) := by
  have hexp := shiftToTargetExponent_snd m e a
  have hmantissa := shiftToTargetExponent_fst m e a
  unfold roundWithAccuracy
  generalize shiftToTargetExponent binary64 m e a = first at hexp hmantissa ⊢
  obtain ⟨em, e₁⟩ := first
  dsimp only at hexp hmantissa ⊢
  have hrounded := log2_le_of_le_div (hmantissa ▸ (roundedMantissa_bounds em).2)
  have hexp' := shiftToTargetExponent_snd em.roundedMantissa e₁ .exact
  generalize shiftToTargetExponent binary64 em.roundedMantissa e₁ .exact = second at hexp' ⊢
  obtain ⟨em', e₂⟩ := second
  dsimp only at hexp' ⊢
  split
  · trivial
  · show e₂ ≤ 971
    omega

theorem log2_div {n j : Nat} (h : n.log2 = 52 + j) : (n / 2 ^ j).log2 = 52 := by
  have hn : n ≠ 0 := by
    rintro rfl
    simp at h
    omega
  obtain ⟨hle, hlt⟩ := (Nat.log2_eq_iff hn).1 h
  have hpos : 2 ^ 52 ≤ n / 2 ^ j :=
    (Nat.le_div_iff_mul_le (Nat.two_pow_pos j)).2 (by rwa [← Nat.pow_add])
  refine (Nat.log2_eq_iff (by omega)).2 ⟨hpos, ?_⟩
  refine Nat.div_lt_of_lt_mul ?_
  rw [← Nat.pow_add]
  exact Nat.lt_of_lt_of_le hlt (Nat.pow_le_pow_right (by decide) (by omega))

/-- A mantissa of fifty-three bits or more is rounded to one of fifty-three. -/
theorem roundWithAccuracy_normal (s : Sign) {m : Nat} {e : Int} (a : Accuracy)
    (hm : 52 ≤ m.log2) (he : -1074 ≤ e) :
    ∃ m' e' h, roundWithAccuracy binary64 s m e a = .finite s m' e' h ∧ m'.log2 = 52 ∧
      m.log2 + e - 52 ≤ e' := by
  have hexp := shiftToTargetExponent_snd m e a
  have hmantissa := shiftToTargetExponent_fst m e a
  unfold roundWithAccuracy
  generalize shiftToTargetExponent binary64 m e a = first at hexp hmantissa ⊢
  obtain ⟨em, e₁⟩ := first
  dsimp only at hexp hmantissa ⊢
  have hshift : (e₁ - e).toNat = m.log2 - 52 := by omega
  have hfirst : em.mantissa.log2 = 52 := by
    rw [hmantissa, hshift]
    exact log2_div (by omega)
  -- Rounding up may carry into one more bit, which the second shift takes off again.
  have hne : em.mantissa ≠ 0 := by
    intro hzero
    rw [hzero] at hfirst
    simp at hfirst
  have hrounded : 2 ^ 52 ≤ em.roundedMantissa :=
    Nat.le_trans ((Nat.log2_eq_iff hne).1 hfirst).1 (roundedMantissa_bounds em).1
  obtain ⟨j, hj⟩ : ∃ j, em.roundedMantissa.log2 = 52 + j :=
    Nat.exists_eq_add_of_le ((Nat.le_log2 (by omega)).2 hrounded)
  have hexp' := shiftToTargetExponent_snd em.roundedMantissa e₁ .exact
  have hmantissa' := shiftToTargetExponent_fst em.roundedMantissa e₁ .exact
  generalize shiftToTargetExponent binary64 em.roundedMantissa e₁ .exact = second
    at hexp' hmantissa' ⊢
  obtain ⟨em', e₂⟩ := second
  dsimp only at hexp' hmantissa' ⊢
  have hshift' : (e₂ - e₁).toNat = j := by omega
  have hsecond : em'.mantissa.log2 = 52 := by
    rw [hmantissa', hshift']
    exact log2_div hj
  have hne' : em'.mantissa ≠ 0 := by
    intro hzero
    rw [hzero] at hsecond
    simp at hsecond
  rw [dif_neg hne']
  exact ⟨_, _, _, rfl, hsecond, by omega⟩

/-! ### Operations -/

/-- Rounding never makes a number infinite or none at all; that is left to packing. -/
theorem isFinite_roundWithAccuracy (s : Sign) (m : Nat) (e : Int) (a : Accuracy) :
    (roundWithAccuracy binary64 s m e a).isFinite = true := by
  unfold roundWithAccuracy
  dsimp only
  split <;> rfl

/-- The product of finite numbers is finite before it is packed. -/
theorem isFinite_unpacked_mul {f g : UnpackedFloat} (hf : f.isFinite = true)
    (hg : g.isFinite = true) : (UnpackedFloat.mul binary64 f g).isFinite = true := by
  cases f with
  | infinity | notANumber => cases hf
  | zero =>
    cases g with
    | infinity | notANumber => cases hg
    | zero | finite => rfl
  | finite =>
    cases g with
    | infinity | notANumber => cases hg
    | zero => rfl
    | finite => exact isFinite_roundWithAccuracy ..

/-- A product of finite doubles is finite unless it is infinite. -/
theorem isFinite_mul {x y : Float} (hx : x.isFinite = true) (hy : y.isFinite = true)
    (h : (x * y).isInf = false) : (x * y).isFinite = true :=
  isFinite_pack_of_isInf (isFinite_unpacked_mul (f := x.toModel.unpack) (g := y.toModel.unpack) hx hy) h

theorem isFinite_neg {x : Float} (h : x.isFinite = true) : (-x).isFinite = true := by
  have hneg : Fits x.toModel.unpack.neg := by
    have hunpacked : x.toModel.unpack.isFinite = true := h
    cases hunpack : x.toModel.unpack with
    | infinity | notANumber => simp [hunpack, UnpackedFloat.isFinite] at hunpacked
    | zero => trivial
    | finite s m e hm => exact (bounds_of_unpack hunpack).2
  exact hneg.isFinite_pack

/-- A number that is not below ten, with all the bits of its mantissa. -/
def AtLeastTen : UnpackedFloat → Prop
  | .finite _ m e _ => m.log2 = 52 ∧ -49 ≤ e
  | _ => False

theorem log2_shiftLeft {m : Nat} (hm : 0 < m) (k : Nat) : (m <<< k).log2 = m.log2 + k := by
  obtain ⟨hle, hlt⟩ := (Nat.log2_eq_iff (n := m) (by omega)).1 rfl
  have hpos : 0 < m <<< k := by
    rw [Nat.shiftLeft_eq]
    exact Nat.mul_pos hm (Nat.two_pow_pos k)
  refine (Nat.log2_eq_iff (by omega)).2 ⟨?_, ?_⟩
  · rw [Nat.shiftLeft_eq, Nat.pow_add]
    exact Nat.mul_le_mul_right _ hle
  · rw [Nat.shiftLeft_eq, Nat.add_right_comm, Nat.pow_add _ _ k]
    exact Nat.mul_lt_mul_of_pos_right hlt (Nat.two_pow_pos k)

instance (f : UnpackedFloat) : Decidable (AtLeastTen f) :=
  match f with
  | .finite _ m e _ => inferInstanceAs (Decidable (m.log2 = 52 ∧ -49 ≤ e))
  | .infinity _ | .notANumber | .zero _ => .isFalse id

/-- The quotient is far enough below the greatest double. -/
theorem divCore_bounds {m₁ m₂ : Nat} {e₁ e₂ : Int} (hpos : 0 < m₁) (hm : m₁ < 2 ^ 53)
    (he : e₁ ≤ 971) (hlog₂ : m₂.log2 = 52) (he₂ : -49 ≤ e₂) :
    (divCore binary64 m₁ e₁ m₂ e₂).1.log2 + (divCore binary64 m₁ e₁ m₂ e₂).2.1 ≤ 1021 ∧
      (divCore binary64 m₁ e₁ m₂ e₂).2.1 ≤ 970 := by
  have hlog₁ : m₁.log2 < 53 := (Nat.log2_lt (by omega)).2 hm
  have hm₂ : 2 ^ 52 ≤ m₂ := by
    refine ((Nat.log2_eq_iff ?_).1 hlog₂).1
    intro hzero
    simp [hzero] at hlog₂
  have hquotient : ∀ k, (m₁ <<< k / m₂).log2 ≤ m₁.log2 + k + 1 - 52 := by
    intro k
    rw [← log2_shiftLeft hpos]
    exact log2_le_of_le_div (Nat.le_succ_of_le (Nat.div_le_div_left hm₂ (Nat.two_pow_pos 52)))
  simp only [divCore, targetExponent, totalExponent, mantissaBits, minExponent]
  generalize htarget : min (e₁ - e₂) _ = target
  have hlog := hquotient (e₁ - e₂ - target).toNat
  constructor <;> omega

/-- Dividing by a number that is not below ten does not lead out of the finite doubles. -/
theorem isFinite_div {x y : Float} (hx : x.isFinite = true) (hy : AtLeastTen y.toModel.unpack) :
    (x / y).isFinite = true := by
  have hdiv : Fits (UnpackedFloat.div binary64 x.toModel.unpack y.toModel.unpack) := by
    have hunpacked : x.toModel.unpack.isFinite = true := hx
    cases hunpack : y.toModel.unpack with
    | infinity | notANumber | zero => rw [hunpack] at hy; exact hy.elim
    | finite s₂ m₂ e₂ hm₂ =>
      rw [hunpack] at hy
      cases hunpack₁ : x.toModel.unpack with
      | infinity | notANumber => simp [hunpack₁, UnpackedFloat.isFinite] at hunpacked
      | zero s₁ => trivial
      | finite s₁ m₁ e₁ hm₁ =>
        obtain ⟨hm, he⟩ := bounds_of_unpack hunpack₁
        obtain ⟨hlog, htarget⟩ := divCore_bounds hm₁ hm he hy.1 hy.2
        exact fits_roundWithAccuracy _ _ hlog htarget
  exact hdiv.isFinite_pack

theorem isFinite_toFloat (n : UInt64) : n.toFloat.isFinite = true := by
  have hfits : Fits (UnpackedFloat.ofUInt64 binary64 n) := by
    have hlt : n.toNat < 2 ^ 64 := n.toNat_lt
    simp only [UnpackedFloat.ofUInt64, UnpackedFloat.ofNat, UnpackedFloat.ofInt,
      UnpackedFloat.normalize]
    split
    · next h =>
      rw [Int.compare_eq_lt] at h
      omega
    · trivial
    · next h =>
      rw [Int.compare_eq_gt] at h
      have hlog : n.toNat.log2 < 64 := (Nat.log2_lt (by omega)).2 hlt
      simp only [UnpackedFloat.round, decreaseExponent, Int.toNat_natCast]
      refine fits_roundWithAccuracy _ _ ?_ ?_
      · rw [log2_shiftLeft (by omega)]
        omega
      · omega
  exact hfits.isFinite_pack

/-! ### Powers of ten -/

/-- A double that is packed from a mantissa of fifty-three bits stands for such a mantissa. -/
theorem atLeastTen_pack {f : UnpackedFloat} (h : AtLeastTen f) (hfits : Fits f) :
    AtLeastTen (Float.Model.pack f).unpack := by
  cases f with
  | infinity | notANumber | zero => exact h.elim
  | finite s m e hm =>
    obtain ⟨hlog, he⟩ := h
    have hmax : e ≤ 971 := hfits
    have hpack : UnpackedFloat.pack binary64 (.finite s m e hm) =
        packComponents binary64 s (BitVec.ofNat 11 (e + 1075).toNat) (BitVec.ofNat 52 m) := by
      have hbias : (e + binary64.exponentBias + (52 : Nat)).toNat = (e + 1075).toNat := by
        simp only [exponentBias]
        omega
      simp only [UnpackedFloat.pack]
      rw [if_neg (by simp [exponentBias]; omega), if_pos (by simp [mantissaBits, hlog]), hbias]
    have hfield : (BitVec.ofNat 11 (e + 1075).toNat).toNat = (e + 1075).toNat := by
      rw [BitVec.toNat_ofNat, Nat.mod_eq_of_lt (by omega)]
    have hne : BitVec.ofNat 11 (e + 1075).toNat ≠ 0#11 := by
      intro hzero
      rw [hzero] at hfield
      simp at hfield
      omega
    have hmantissa : (1#1 ++ BitVec.ofNat 52 m).toNat.log2 = 52 := by
      have hle : 2 ^ 52 ≤ (1#1 ++ BitVec.ofNat 52 m).toNat := by
        rw [BitVec.toNat_append]
        exact Nat.left_le_or
      exact (Nat.log2_eq_iff (by omega)).2 ⟨hle, (1#1 ++ BitVec.ofNat 52 m).isLt⟩
    change AtLeastTen (unpack binary64 (UnpackedFloat.pack binary64 (.finite s m e hm)))
    rw [hpack, UnpackedFloat.unpack]
    simp only [unpackExponent_packComponents, unpackMantissa_packComponents]
    rw [if_neg (exponent_ne_of_lt (by omega)), if_neg hne]
    refine ⟨hmantissa, ?_⟩
    rw [hfield]
    simp only [exponentBias]
    omega

/-- Three decimal digits take less than ten bits. -/
theorem log2_ten_pow_lt {e n : Nat} (h : e ≤ 3 * n) (hn : n ≠ 0) : (10 ^ e).log2 < 10 * n := by
  have hpow : 10 ^ e < 2 ^ (10 * n) :=
    calc 10 ^ e ≤ 10 ^ (3 * n) := Nat.pow_le_pow_right (by decide) h
      _ = (10 ^ 3) ^ n := Nat.pow_mul ..
      _ < (2 ^ 10) ^ n := Nat.pow_lt_pow_left (by decide) hn
      _ = 2 ^ (10 * n) := (Nat.pow_mul ..).symm
  exact (Nat.log2_lt (Nat.pow_pos (by decide)).ne').2 hpow

theorem log2_ten_pow {e : Nat} (hlow : 1 ≤ e) (hhigh : e ≤ 306) :
    3 ≤ (10 ^ e).log2 ∧ (10 ^ e).log2 < 1020 := by
  have hleast : 2 ^ 3 ≤ 10 ^ e :=
    calc 2 ^ 3 ≤ 10 ^ 1 := by decide
      _ ≤ 10 ^ e := Nat.pow_le_pow_right (by decide) hlow
  exact ⟨(Nat.le_log2 (Nat.pow_pos (by decide)).ne').2 hleast,
    log2_ten_pow_lt (n := 102) hhigh (by decide)⟩

/-- Powers of ten are computed as an exact product that is rounded once. -/
theorem atLeastTen_ofScientific {e : Nat} (hlow : 1 ≤ e) (hhigh : e ≤ 306) :
    AtLeastTen (Float.Model.ofScientific 1 e).unpack := by
  obtain ⟨hleast, hgreatest⟩ := log2_ten_pow hlow hhigh
  have hlog : (1 <<< 53 * 10 ^ e).log2 = (10 ^ e).log2 + 53 := by
    rw [← log2_shiftLeft (Nat.pow_pos (by decide)) 53, Nat.shiftLeft_eq (10 ^ e), Nat.mul_comm]
    rfl
  obtain ⟨m, e', hpos, hround, hm, he'⟩ :=
    roundWithAccuracy_normal (Sign.positive * Sign.positive) (m := 1 <<< 53 * 10 ^ e) (e := -53)
      .exact (by omega) (by omega)
  have hfits : Fits (roundWithAccuracy binary64 (Sign.positive * Sign.positive)
      (1 <<< 53 * 10 ^ e) (-53) .exact) := fits_roundWithAccuracy _ _ (by omega) (by omega)
  have hvalue : UnpackedFloat.ofScientific binary64 1 e =
      roundWithAccuracy binary64 (Sign.positive * Sign.positive) (1 <<< 53 * 10 ^ e) (-53) .exact := by
    unfold UnpackedFloat.ofScientific
    rw [dif_neg (by decide), if_neg (by simp; omega), if_neg (by simp; omega), if_pos (by omega)]
    rfl
  refine atLeastTen_pack ?_ ?_
  · rw [hvalue, hround]
    exact ⟨hm, by omega⟩
  · rw [hvalue]
    exact hfits

/-- The powers of ten that doubles are divided by are not below ten. -/
theorem atLeastTen_power {e : Nat} (hlow : 1 ≤ e) (hhigh : e ≤ 308) :
    AtLeastTen (Float.ofScientific 1 false e).toModel.unpack := by
  -- The first powers are looked up, and the last are too near the greatest double for the bounds.
  have hfirst : ∀ e < 23, 1 ≤ e → AtLeastTen (Float.ofScientific 1 false e).toModel.unpack := by
    decide +kernel
  have hlast : ∀ e < 309, 307 ≤ e → AtLeastTen (Float.ofScientific 1 false e).toModel.unpack := by
    decide +kernel
  by_cases hsmall : e < 23
  · exact hfirst e hsmall hlow
  · by_cases hgreat : 307 ≤ e
    · exact hlast e (by omega) hgreat
    · have hcomputed : Float.ofScientific 1 false e = ⟨Float.Model.ofScientific 1 e⟩ := by
        rw [Float.ofScientific, dif_neg (by omega)]
        rfl
      rw [hcomputed]
      exact atLeastTen_ofScientific hlow (by omega)

/-- The powers of ten up to the greatest that is used are finite. -/
theorem isFinite_power {e : Nat} (hhigh : e ≤ 308) :
    (Float.ofScientific 1 false e).isFinite = true := by
  by_cases hzero : e = 0
  · rw [hzero]
    decide +kernel
  · have hpower := atLeastTen_power (e := e) (by omega) hhigh
    change (Float.ofScientific 1 false e).toModel.unpack.isFinite = true
    cases hunpack : (Float.ofScientific 1 false e).toModel.unpack with
    | finite => rfl
    | infinity | notANumber | zero => rw [hunpack] at hpower; exact hpower.elim

end MarkupActions.Decimal
