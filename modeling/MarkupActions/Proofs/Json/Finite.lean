import MarkupActions.Json.Reader
import MarkupActions.Proofs.Decimal.Finite
import MarkupActions.Proofs.Json.Printing

/-!
# MarkupActions.Proofs.Json.Finite

**Numbers out of JSON text are finite.** A number is gathered in a significand and scaled by powers of
ten. Multiplying may go beyond the greatest double, which is noticed and refused; dividing cannot,
since no power that is divided by is below ten. So whatever a JSON text holds, however deep, there is
no infinity in it and nothing that is no number (`Value.EachFloat` of `ofChars?`).
-/

namespace MarkupActions

/-- Whether a double is a finite number. -/
abbrev Finite (x : Float) : Prop := Decimal.isFinite x.toBits = true

namespace Json

/-! ### Numbers -/

theorem isFinite_powerOfTen {e : Nat} (h : e ≤ 308) : (powerOfTen e).isFinite = true :=
  Decimal.isFinite_power h

theorem isFinite_div_powerOfTen {x : Float} {e : Nat} (hx : x.isFinite = true) (hlow : 1 ≤ e)
    (hhigh : e ≤ 308) : (x / powerOfTen e).isFinite = true :=
  Decimal.isFinite_div hx (Decimal.atLeastTen_power hlow hhigh)

/-- Scaling a finite double gives a finite double, if it gives one. -/
theorem isFinite_scale? {steps : Nat} {x y : Float} {e : Int} (hx : x.isFinite = true)
    (h : scale? steps x e = some y) : y.isFinite = true := by
  fun_induction scale? steps x e with
  | case1 =>
    cases h
    decide
  | case2 x e steps hsmall hpos y' hinf => cases h
  | case3 x e steps hsmall hpos y' hinf =>
    rw [← Option.some.inj h]
    exact Decimal.isFinite_mul hx (isFinite_powerOfTen hsmall) (Bool.eq_false_iff.2 hinf)
  | case4 x e steps hsmall hneg =>
    cases h
    exact isFinite_div_powerOfTen hx (by omega) hsmall
  | case5 => cases h; exact hx
  | case6 => cases h
  | case7 x e steps hgreat hzero hneg ih =>
    exact ih (isFinite_div_powerOfTen hx (by decide) (by decide)) h

/-- A number that is not too great is finite. -/
theorem Gathered.isFinite_toFloat? {g : Gathered} {x : Float} (h : g.toFloat? = some x) :
    x.isFinite = true :=
  isFinite_scale? (Decimal.isFinite_toFloat _) h

theorem Parts.isFinite_magnitude? {p : Parts} {x : Float} (h : p.magnitude? = some x) :
    x.isFinite = true := by
  unfold magnitude? at h
  dsimp only at h
  split at h
  · exact Gathered.isFinite_toFloat? h
  · split at h
    · exact Gathered.isFinite_toFloat? h
    · split at h
      · cases h
        decide
      · cases h

/-- A number is read as an integer or as a double. -/
theorem Parts.int_or_float_of_value? {p : Parts} {v : Value} (h : p.value? = some v) :
    (∃ i, v = .int i) ∨ ∃ x, v = .float x := by
  unfold value? at h
  split at h
  · cases h
    exact .inl ⟨_, rfl⟩
  · obtain ⟨y, -, rfl⟩ := Option.map_eq_some_iff.1 h
    exact .inr ⟨_, rfl⟩

/-- A number is read as a finite double, if it is read as a double. -/
theorem Parts.finite_of_value? {p : Parts} {x : Float} (h : p.value? = some (.float x)) :
    Finite x := by
  rw [Finite, Decimal.isFinite_eq]
  unfold value? at h
  split at h
  · cases h
  · obtain ⟨y, hy, hx⟩ := Option.map_eq_some_iff.1 h
    have hfinite := Parts.isFinite_magnitude? hy
    cases hx
    split
    · exact Decimal.isFinite_neg hfinite
    · exact hfinite

end Json

/-! ### The numbers in a value -/

namespace Value

variable {P : Float → Prop}

/-- Every floating-point number in the value has the property. -/
def EachFloat (P : Float → Prop) (v : Value) : Prop :=
  ∀ path x, v.at? path = some (.float x) → P x

/-- Every floating-point number below some members has the property. -/
def EachFloatBelow (P : Float → Prop) (members : Entries Value) : Prop :=
  ∀ name v, Entries.find? name members = some v → v.EachFloat P

/-- Below a value without items or members there is nothing. -/
theorem eachFloat_of_leaf {v : Value} (hleaf : ∀ key path, v.at? (key :: path) = none)
    (hv : ∀ x, v = .float x → P x) : v.EachFloat P := by
  intro path x h
  cases path with
  | nil =>
    have hself : v.at? [] = some v := by cases v <;> rfl
    exact hv x (Option.some.inj (hself.symm.trans h))
  | cons key path => cases (hleaf key path).symm.trans h

theorem eachFloat_null : EachFloat P .null :=
  eachFloat_of_leaf (fun key _ => by cases key <;> rfl) nofun

theorem eachFloat_bool (b : Bool) : EachFloat P (.bool b) :=
  eachFloat_of_leaf (fun key _ => by cases key <;> rfl) nofun

theorem eachFloat_int (i : Int64) : EachFloat P (.int i) :=
  eachFloat_of_leaf (fun key _ => by cases key <;> rfl) nofun

theorem eachFloat_string (s : String) : EachFloat P (.string s) :=
  eachFloat_of_leaf (fun key _ => by cases key <;> rfl) nofun

theorem eachFloat_float {x : Float} (hx : P x) : EachFloat P (.float x) := by
  refine eachFloat_of_leaf (fun key _ => by cases key <;> rfl) ?_
  intro y hy
  cases hy
  exact hx

theorem eachFloat_array {items : List Value} (h : ∀ v ∈ items, v.EachFloat P) :
    EachFloat P (.array items) := by
  intro path x hat
  cases path with
  | nil => cases hat
  | cons key path => cases key with
    | member name => cases hat
    | item index =>
      simp only [at?] at hat
      split at hat
      · next v hv => exact h v (List.mem_of_getElem? hv) path x hat
      · cases hat

/-- The numbers in an object are those in its members. -/
theorem eachFloat_object_iff {members : Entries Value} :
    EachFloat P (.object members) ↔ EachFloatBelow P members := by
  constructor
  · intro h name v hfind path x hat
    refine h (.member name :: path) x ?_
    simpa only [at?, hfind] using hat
  · intro h path x hat
    cases path with
    | nil => cases hat
    | cons key path => cases key with
      | item index => cases hat
      | member name =>
        simp only [at?] at hat
        split at hat
        · next v hv => exact h name v hv path x hat
        · cases hat

/-- Where all numbers are finite, nothing but `null` is printed like `null`. -/
theorem EachFloat.printsNull_iff {v : Value} (h : v.EachFloat Finite) (path : List Json.Key) :
    (∃ w, v.at? path = some w ∧ w.PrintsNull) ↔ v.at? path = some .null := by
  constructor
  · intro ⟨w, hw, hprints⟩
    cases w with
    | null => exact hw
    | float x => exact absurd (h path x hw) (by simpa [PrintsNull] using hprints)
    | bool | int | string | array | object => exact hprints.elim
  · intro hnull
    exact ⟨.null, hnull, trivial⟩

/-- A member that is added or replaced brings in its own numbers only. -/
theorem EachFloatBelow.insert {members : Entries Value} (h : EachFloatBelow P members)
    (name : String) {v : Value} (hv : v.EachFloat P) :
    EachFloatBelow P (Entries.insert name v members) := by
  intro other w hfind
  by_cases hne : other = name
  · subst hne
    rw [Entries.find?_insert_self] at hfind
    cases hfind
    exact hv
  · rw [Entries.find?_insert_of_ne hne] at hfind
    exact h other w hfind

end Value

namespace Json

variable {P : Float → Prop}

/-! ### Reading -/

/-- Every number in a token has the property. -/
def Token.EachFloat (P : Float → Prop) : Token → Prop
  | .scalar v => v.EachFloat P
  | _ => True

/-- Every number in what waits for a value has the property. -/
def Frame.EachFloat (P : Float → Prop) : Frame → Prop
  | .items done => ∀ v ∈ done, v.EachFloat P
  | .members done _ => Value.EachFloatBelow P done

/-- Every number in what has been read has the property. -/
def Expect.EachFloat (P : Float → Prop) : Expect → Prop
  | .key done | .colon done _ => Value.EachFloatBelow P done
  | .after v => v.EachFloat P
  | _ => True

/-- Every number that the machine has read has the property. -/
structure Machine.EachFloat (P : Float → Prop) (m : Machine) : Prop where
  expect : m.expect.EachFloat P
  stack : ∀ f ∈ m.stack, f.EachFloat P

namespace Machine

variable {m next : Machine} {stack : List Frame} {t : Token}

/-- Beginning a value keeps the numbers of the machine good. -/
theorem beginValue_eachFloat (hstack : ∀ f ∈ stack, f.EachFloat P) (ht : t.EachFloat P)
    (h : beginValue stack t = some next) : next.EachFloat P := by
  cases t with
  | scalar v => cases h; exact ⟨ht, hstack⟩
  | text s => cases h; exact ⟨Value.eachFloat_string s, hstack⟩
  | openArray =>
    simp only [beginValue] at h
    split at h
    · cases h
      exact ⟨trivial, List.forall_mem_cons.2 ⟨nofun, hstack⟩⟩
    · cases h
  | openObject =>
    simp only [beginValue] at h
    split at h
    · cases h
      exact ⟨trivial, hstack⟩
    · cases h
  | closeArray | closeObject | comma | colon => cases h

/-- Going on behind a value keeps the numbers of the machine good. -/
theorem continueAfter_eachFloat {v : Value} (hv : v.EachFloat P)
    (hstack : ∀ f ∈ stack, f.EachFloat P) (h : continueAfter v stack t = some next) :
    next.EachFloat P := by
  unfold continueAfter at h
  split at h
  · next done rest =>
    obtain ⟨hdone, hrest⟩ := List.forall_mem_cons.1 hstack
    cases h
    exact ⟨trivial, List.forall_mem_cons.2 ⟨List.forall_mem_cons.2 ⟨hv, hdone⟩, hrest⟩⟩
  · next done rest =>
    obtain ⟨hdone, hrest⟩ := List.forall_mem_cons.1 hstack
    cases h
    refine ⟨Value.eachFloat_array ?_, hrest⟩
    intro w hw
    exact List.forall_mem_cons.2 ⟨hv, hdone⟩ w (List.mem_reverse.1 hw)
  · next done key rest =>
    obtain ⟨hdone, hrest⟩ := List.forall_mem_cons.1 hstack
    cases h
    exact ⟨Value.EachFloatBelow.insert hdone key hv, hrest⟩
  · next done key rest =>
    obtain ⟨hdone, hrest⟩ := List.forall_mem_cons.1 hstack
    cases h
    exact ⟨Value.eachFloat_object_iff.2 (Value.EachFloatBelow.insert hdone key hv), hrest⟩
  · cases h

/-- A step reads no number but that of its token. -/
theorem step_eachFloat (hm : m.EachFloat P) (ht : t.EachFloat P) (h : m.step t = some next) :
    next.EachFloat P := by
  obtain ⟨expect, stack⟩ := m
  obtain ⟨hexpect, hstack⟩ := hm
  unfold step at h
  dsimp only at h hexpect hstack
  split at h
  · cases h
    exact ⟨Value.eachFloat_array nofun, (List.forall_mem_cons.1 hstack).2⟩
  · exact beginValue_eachFloat hstack ht h
  · exact beginValue_eachFloat hstack ht h
  · cases h
    exact ⟨Value.eachFloat_object_iff.2 nofun, hstack⟩
  · cases h
    exact ⟨nofun, hstack⟩
  · cases h
    exact ⟨hexpect, hstack⟩
  · cases h
    exact ⟨trivial, List.forall_mem_cons.2 ⟨hexpect, hstack⟩⟩
  · exact continueAfter_eachFloat hexpect hstack h
  · cases h

/-- Reading tokens to their end reads no number but theirs. -/
theorem run?_eachFloat {tokens : List Token} {v : Value} (hm : m.EachFloat P)
    (htokens : ∀ t ∈ tokens, t.EachFloat P) (h : m.run? tokens = some v) : v.EachFloat P := by
  induction tokens generalizing m with
  | nil =>
    unfold run? at h
    split at h
    · cases h
      exact hm.expect
    · cases h
  | cons t rest ih =>
    obtain ⟨ht, hrest⟩ := List.forall_mem_cons.1 htokens
    rw [run?] at h
    split at h
    · next next hstep => exact ih (step_eachFloat hm ht hstep) hrest h
    · cases h

end Machine

theorem Token.finite_of_scanOne? {c : Char} {rest after : List Char} {t : Token}
    (h : Token.scanOne? c rest = some (t, after)) : t.EachFloat Finite := by
  unfold scanOne? at h
  split at h
  · next mark hmark =>
    cases h
    unfold ofMark? at hmark
    repeat' split at hmark
    all_goals cases hmark
    all_goals trivial
  · split at h
    · simp only [bind, Option.bind_eq_some_iff, pure, Option.some.injEq, Prod.mk.injEq] at h
      obtain ⟨⟨parts, r⟩, -, cs, -, rfl, -⟩ := h
      trivial
    · split at h
      · next v r hword =>
        cases h
        unfold scanWord? at hword
        split at hword <;> cases hword
        · exact Value.eachFloat_null
        · exact Value.eachFloat_bool true
        · exact Value.eachFloat_bool false
      · simp only [bind, Option.bind_eq_some_iff, pure, Option.some.injEq, Prod.mk.injEq] at h
        obtain ⟨⟨p, r⟩, -, v, hv, rfl, -⟩ := h
        rcases Parts.int_or_float_of_value? hv with ⟨i, rfl⟩ | ⟨x, rfl⟩
        · exact Value.eachFloat_int i
        · exact Value.eachFloat_float (Parts.finite_of_value? hv)

/-- The numbers in the tokens of a text are finite. -/
theorem Token.finite_of_scan? {cs : List Char} {tokens : List Token}
    (h : Token.scan? cs = some tokens) : ∀ t ∈ tokens, t.EachFloat Finite := by
  fun_induction Token.scan? cs generalizing tokens with
  | case1 => cases h; nofun
  | case2 c rest hspace ih => exact ih h
  | case3 => cases h
  | case4 c rest hspace t after hone hle ih =>
    obtain ⟨others, hothers, rfl⟩ := Option.map_eq_some_iff.1 h
    exact List.forall_mem_cons.2 ⟨Token.finite_of_scanOne? hone, ih hothers⟩

/-- Every number in what a JSON text stands for is finite. -/
theorem finite_of_ofChars? {cs : List Char} {v : Value} (h : ofChars? cs = some v) :
    v.EachFloat Finite := by
  simp only [ofChars?, bind, Option.bind_eq_some_iff] at h
  obtain ⟨tokens, hscan, hread⟩ := h
  have hstart : (⟨.value, []⟩ : Machine).EachFloat Finite := ⟨trivial, nofun⟩
  exact Machine.run?_eachFloat hstart (Token.finite_of_scan? hscan) hread

end Json

end MarkupActions
