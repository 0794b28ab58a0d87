import MarkupActions.Proofs.Host.Invariant
import MarkupActions.Proofs.Host.Reading
import MarkupActions.Proofs.Json.Finite

/-!
# MarkupActions.Proofs.Host.Numbers

**Where the numbers among the variables come from.** An entry of a store is a text, and a line of input
is a text or nothing. An expression copies what it names, or reads a literal, and what a literal holds
inside brackets is finite. That leaves the expressions that are a number as a whole. Unlike numbers
inside brackets these may be infinite or not a number at all (`Element.AssignsFloat`), and such a
number is written as `null` when the variables are printed as JSON.

The property that numbers have is left open (`HostState.EachFloat P`) up to the main result. What is
preserved step by step is then that every number is finite or comes from one of some elements.
-/

namespace MarkupActions

variable {P : Float → Prop}

/-! ### Variables -/

namespace Value

/-- What a path of names leads to holds no other numbers. -/
theorem EachFloat.lookup? {v w : Value} {names : List String} (hv : v.EachFloat P)
    (h : v.lookup? names = some w) : w.EachFloat P := by
  induction names generalizing v with
  | nil =>
    cases v <;> cases h <;> exact hv
  | cons name rest ih =>
    cases v with
    | object members =>
      simp only [Value.lookup?] at h
      split at h
      · next inner hinner => exact ih (eachFloat_object_iff.1 hv name inner hinner) h
      · cases h
    | null | bool | int | float | string | array => cases h

theorem eachFloatBelow_nil : EachFloatBelow P [] := by
  intro name v h
  cases h

/-- A member may be replaced by a value that is as good. -/
theorem EachFloatBelow.replace {members : Entries Value} (h : EachFloatBelow P members)
    {name : String} {old v : Value} (hold : Entries.find? name members = some old)
    (hv : v.EachFloat P) : EachFloatBelow P (Entries.replace name v members) := by
  intro other w hfind
  by_cases hne : other = name
  · subst hne
    rw [Entries.find?_replace_self hold] at hfind
    cases hfind
    exact hv
  · rw [Entries.find?_replace_of_ne hne] at hfind
    exact h other w hfind

/-- Storing a value, however deep, brings in no other numbers than its own. -/
theorem EachFloatBelow.putAt {members : Entries Value} (h : EachFloatBelow P members) {v : Value}
    (hv : v.EachFloat P) (name : String) (path : List String) :
    EachFloatBelow P (v.putAt name path members).1 := by
  induction path generalizing name members with
  | nil => exact h.insert name hv
  | cons next rest ih =>
    rw [Value.putAt]
    split
    · have hinner : EachFloatBelow P (v.putAt next rest []).1 := ih eachFloatBelow_nil next
      exact h.insert name (eachFloat_object_iff.2 hinner)
    · next old hold =>
      have hbelow : EachFloatBelow P old := eachFloat_object_iff.1 (h name _ hold)
      exact h.replace hold (eachFloat_object_iff.2 (ih hbelow next))
    · exact h

end Value

namespace DataModel

variable {m : DataModel} {expression : String} {v : Value}

/-- Every floating-point number among the variables has the property. -/
def EachFloat (P : Float → Prop) (m : DataModel) : Prop := Value.EachFloatBelow P m.vars.entries

/-- A value that is read has only numbers that were there. -/
theorem EachFloat.get? (h : m.EachFloat P) {location : String}
    (hget : m.get? location = some v) : v.EachFloat P := by
  rw [DataModel.get?] at hget
  split at hget
  · cases hget
  · next first rest hsegments =>
    split at hget
    · next w hw => exact (h first w hw).lookup? hget
    · cases hget

/-- A value that is written brings in only its own. -/
theorem EachFloat.write (h : m.EachFloat P) (hv : v.EachFloat P) (location : String) :
    (m.write location v).1.EachFloat P := by
  rw [DataModel.write]
  split
  · split
    · exact h
    · exact Value.EachFloatBelow.putAt h hv _ _
  · exact h

end DataModel

/-! ### Expressions -/

/-- The expression is a floating-point number as a whole. -/
def Expression.IsFloat (expression : String) (x : Float) : Prop :=
  number? (Text.trim expression).toList = some (.float x)

theorem Expression.eachFloat_of_word? {cs : List Char} {v : Value} (h : word? cs = some v) :
    v.EachFloat P := by
  unfold word? at h
  repeat' split at h
  all_goals cases h
  · exact Value.eachFloat_null
  · exact Value.eachFloat_bool true
  · exact Value.eachFloat_bool false

theorem Expression.eachFloat_of_number? {cs : List Char} {v : Value}
    (hnumber : ∀ x, number? cs = some (.float x) → P x) (h : number? cs = some v) :
    v.EachFloat P := by
  have hkind : (∃ i, v = .int i) ∨ ∃ x, v = .float x := by
    unfold number? at h
    split at h
    · cases h
      exact .inl ⟨_, rfl⟩
    · split at h
      · split at h
        · obtain ⟨x, -, rfl⟩ := Option.map_eq_some_iff.1 h
          exact .inr ⟨x, rfl⟩
        · cases h
      · cases h
  rcases hkind with ⟨i, rfl⟩ | ⟨x, rfl⟩
  · exact Value.eachFloat_int i
  · exact Value.eachFloat_float (hnumber x h)

/-- The numbers in a literal are finite, unless it is a number itself. -/
theorem Expression.eachFloat_of_literal? {cs : List Char} {v : Value}
    (hfinite : ∀ x, Finite x → P x) (hnumber : ∀ x, number? cs = some (.float x) → P x)
    (h : literal? cs = some v) : v.EachFloat P := by
  unfold literal? at h
  split at h
  · cases h
    exact Value.eachFloat_string _
  · split at h
    · cases h
      exact Value.eachFloat_string _
    · split at h
      · next w hword =>
        cases h
        exact eachFloat_of_word? hword
      · split at h
        · next w hw =>
          cases h
          exact eachFloat_of_number? hnumber hw
        · -- What is read inside brackets is finite.
          unfold json? at h
          split at h
          · cases h
          · split at h
            · intro path x hx
              exact hfinite x (Json.finite_of_ofChars? h path x hx)
            · cases h

/-- Only an expression that is a number as a whole brings in a number that need not be finite. -/
theorem DataModel.EachFloat.evaluate {m : DataModel} {expression : String} {v : Value}
    (h : m.EachFloat P) (hfinite : ∀ x, Finite x → P x)
    (hnumber : ∀ x, Expression.IsFloat expression x → P x)
    (hvalue : m.evaluate expression = .ok v) : v.EachFloat P := by
  simp only [DataModel.evaluate] at hvalue
  split at hvalue
  · next w hliteral =>
    cases hvalue
    exact Expression.eachFloat_of_literal? hfinite hnumber hliteral
  · split at hvalue
    · split at hvalue
      · next w hget =>
        cases hvalue
        exact h.get? hget
      · cases hvalue
    · cases hvalue

/-- What an attribute evaluates to is what its expression does. -/
theorem Resolver.evaluate_ok {el : Element} {m : DataModel} {action attr text : String} {v : Value}
    (h : (el.resolver (some m) action).evaluate attr text = .ok v) : m.evaluate text = .ok v := by
  rw [evaluate] at h
  simp only [Element.resolver, Option.map_some, DataModel.evaluator, pure, bind] at h
  cases hvalue : m.evaluate text with
  | ok w =>
    rw [hvalue] at h
    cases h
    rfl
  | error e =>
    rw [hvalue] at h
    cases h

/-- A value that an `expr` attribute gives is that of the expression. -/
theorem Resolver.exprValue?_ok {el : Element} {m : DataModel} {action : String}
    {value? : Option Value} (h : (el.resolver (some m) action).exprValue? = .ok value?) :
    value? = none ∨ ∃ v, value? = some v ∧ m.evaluate (el.attributeD "expr") = .ok v := by
  rw [exprValue?, Element.literal?_untrimmed] at h
  cases hattr : (el.attribute? "expr").filter (· ≠ "") with
  | none =>
    rw [hattr] at h
    cases h
    exact .inl rfl
  | some text =>
    have htext : el.attributeD "expr" = text := by
      rw [Element.attributeD, (Option.filter_eq_some_iff.1 hattr).1]
      rfl
    rw [hattr] at h
    dsimp only at h
    cases hvalue : (el.resolver (some m) action).evaluate "expr" text with
    | error e =>
      rw [hvalue] at h
      cases h
    | ok v =>
      rw [hvalue] at h
      cases h
      exact .inr ⟨v, rfl, htext ▸ evaluate_ok hvalue⟩

/-- What an `assign` element stores is nothing, or the value of its expression. -/
theorem assignRequest_ok {el : Element} {m : DataModel} {location : String} {v : Value}
    (h : assignRequest el (some m) = .ok (location, v)) :
    v = .null ∨ m.evaluate (el.attributeD "expr") = .ok v := by
  simp only [assignRequest, bind, Except.bind] at h
  split at h
  · cases h
  · split at h
    · cases h
    · next hvalue =>
      cases h
      rcases Resolver.exprValue?_ok hvalue with rfl | ⟨v, rfl, hv⟩
      · exact .inl rfl
      · exact .inr hv

/-! ### States -/

variable {s t : HostState} {v : Value}

/-- Every floating-point number among the variables has the property. -/
def HostState.EachFloat (P : Float → Prop) (s : HostState) : Prop :=
  ∀ m, s.dataModel = some m → m.EachFloat P

namespace HostState.EachFloat

variable (h : s.EachFloat P)
include h

theorem of_dataModel (hmodel : t.dataModel = s.dataModel) : t.EachFloat P :=
  fun m hm => h m (hmodel.symm.trans hm)

/-- A write keeps the numbers good, if the value is. -/
theorem assign (hv : v.EachFloat P) (location : String) (failure : ActionError) :
    ((ActionM.assign location v failure).run.runFrom s).2.EachFloat P := by
  cases hmodel : s.dataModel with
  | none =>
    rw [ActionM.runFrom_assign_of_none s hmodel]
    exact h
  | some m =>
    rw [ActionM.runFrom_assign s hmodel]
    intro next hnext
    cases hnext
    exact (h m hmodel).write hv location

/-- An entry that is copied is a text. -/
theorem getEntry (store : Store) (el : Element) :
    ((Env.getEntry store el).run.runFrom s).2.EachFloat P := by
  rw [Env.runFrom_getEntry]
  cases Env.getRequest el s.dataModel with
  | error e => exact h
  | ok q =>
    have hlooked : (Env.lookedUp store q s).EachFloat P :=
      h.of_dataModel (Env.dataModel_lookedUp store q s)
    exact hlooked.assign (Value.eachFloat_string _) _ _

theorem setEntry (uri : String) (store : Store) (el : Element) :
    ((Env.setEntry uri store el).run.runFrom s).2.EachFloat P := by
  rw [Env.runFrom_setEntry]
  cases Env.setRequest el s.dataModel with
  | error e => exact h
  | ok q =>
    dsimp only
    cases store.set s.holdings q.name q.value with
    | ok holdings => exact h.of_dataModel rfl
    | error e => exact h

/-- A line that is read is a text, or nothing. -/
theorem read (uri : String) (input : InputStream) (sink : PromptSink) (el : Element) :
    ((Stdin.read uri input sink el).run.runFrom s).2.EachFloat P := by
  by_cases hreaches : ∃ q, Stdin.Reaches sink s.dataModel el q
  · obtain ⟨q, hq⟩ := hreaches
    rcases hreading : input.readLine with ⟨reading, rest⟩
    obtain ⟨shown, hshown, hread⟩ := Stdin.read_reaches uri hq hreading
    rw [hread]
    have htaken := h.of_dataModel (t := (shown.updateModule uri fun _ =>
      .stdin rest sink).note (.consumed uri (Stdin.consumedOf input rest))) hshown.untouched.1
    cases reading with
    | failed reason => exact htaken
    | line line =>
      refine htaken.assign ?_ _ _
      unfold Stdin.lineValue
      split
      · exact Value.eachFloat_string _
      · exact Value.eachFloat_null
  · obtain ⟨e, shown, -, hshown, hread⟩ := Stdin.read_early uri input fun q hq => hreaches ⟨q, hq⟩
    rw [hread]
    exact h.of_dataModel hshown.untouched.1

/-- `assign` stores nothing, or the value of its expression. -/
theorem assignElement (hfinite : ∀ x, Finite x → P x) {el : Element}
    (hnumber : ∀ x, Expression.IsFloat (el.attributeD "expr") x → P x) :
    ((MarkupActions.assignElement el).run.runFrom s).2.EachFloat P := by
  rw [runFrom_assignElement]
  cases hrequest : assignRequest el s.dataModel with
  | error e => exact h
  | ok q =>
    obtain ⟨location, v⟩ := q
    dsimp only
    cases hmodel : s.dataModel with
    | none =>
      rw [ActionM.runFrom_assign_of_none s hmodel]
      exact h
    | some m =>
      rw [hmodel] at hrequest
      refine h.assign ?_ _ _
      rcases assignRequest_ok hrequest with rfl | hvalue
      · exact Value.eachFloat_null
      · exact (h m hmodel).evaluate hfinite hnumber hvalue

/-- The snapshot has no other numbers than the variables. -/
theorem snapshot : (Value.ofDict s.snapshot).EachFloat P := by
  rw [Value.ofDict, Value.eachFloat_object_iff, HostState.snapshot]
  cases hmodel : s.dataModel with
  | none => exact Value.eachFloatBelow_nil
  | some m => exact h m hmodel

end HostState.EachFloat

/-- An `assign` element whose expression is a floating-point number as a whole. -/
def Element.AssignsFloat (el : Element) (x : Float) : Prop :=
  el.action = "assign" ∧ Expression.IsFloat (el.attributeD "expr") x

/-- Numbers with a property stay among themselves, as long as finite numbers have it and those that
are assigned as a whole. -/
theorem Host.eachFloat_invariant (host : Host) (store : Store) (sink : PromptSink)
    (hfinite : ∀ x, Finite x → P x) :
    host.Invariant store sink (fun el => ∀ e ∈ el.preorder, ∀ x, e.AssignsFloat x → P x)
      (HostState.EachFloat P) where
  ofParent hc hel e he :=
    hel e (Element.preorderAll_children_subset _ (Element.mem_preorderAll.2 ⟨_, hc, he⟩))
  loading hst hs := hs.of_dataModel hst.dataModel.symm
  note _ hs := hs.of_dataModel rfl
  closing hs := hs.of_dataModel rfl
  addLog _ _ hs := hs.of_dataModel rfl
  writes hx hs := hs.of_dataModel (hx.leaves _).1
  getEntry el hs := hs.getEntry store el
  setEntry el hs := hs.setEntry envUri store el
  read left el hs := hs.read stdinUri left sink el
  assign hel haction hs := hs.assignElement hfinite fun x hx =>
    hel _ (Element.self_mem_preorder _) x ⟨haction, hx⟩

/-- **What is `null` in the JSON of the variables.** Take a new host of the built-in vocabularies with
an empty data model, and ask of it what you like, with any elements, entries and input. Both the
compact and the indented JSON of its variables hold `null` at a path if and only if the variables hold
`null` there, or else a floating-point number that is not finite. A number that is not finite is only
ever the expression of an `assign`, as a whole, among the elements that were given: none comes out of
a JSON literal, an entry or a line. So without such an expression `null` in the JSON stands for `null`
alone, and a line that was missing at the end of the input can be told from everything else. -/
theorem Host.null_in_json (host : Host) (store : Store) (input : InputStream) (sink : PromptSink)
    (hreg : host.registry = .ofBuiltIn store input sink) (holdings : Holdings)
    (errands : List Errand) :
    let s := ((Errand.performAll host errands).runFrom (.fresh (some .empty) holdings)).2
    let vars := Value.ofDict s.snapshot
    let given := errands.flatMap fun e => (e.element host).preorder
    (∀ path, (Json.HoldsNull (Json.compact vars) path ↔
          ∃ v, vars.at? path = some v ∧ v.PrintsNull) ∧
        (Json.HoldsNull (Json.pretty vars) path ↔ ∃ v, vars.at? path = some v ∧ v.PrintsNull)) ∧
      (∀ path x, vars.at? path = some (.float x) → ¬ Finite x → ∃ el ∈ given, el.AssignsFloat x) ∧
      ((∀ el ∈ given, ∀ x, el.AssignsFloat x → Finite x) → ∀ path,
        (Json.HoldsNull (Json.compact vars) path ↔ vars.at? path = some .null) ∧
          (Json.HoldsNull (Json.pretty vars) path ↔ vars.at? path = some .null)) := by
  intro s vars given
  have hfresh : (HostState.fresh (some .empty) holdings).AllBuiltIn store sink := nofun
  -- The property of numbers that is carried through all errands.
  have horigin : vars.EachFloat fun x => Finite x ∨ ∃ el ∈ given, el.AssignsFloat x := by
    refine (Errand.performAll_preserves (host.eachFloat_invariant store sink fun x => .inl) hreg
      errands ?_ hfresh ?_).2.snapshot
    · intro e he el hel x hx
      exact .inr ⟨el, List.mem_flatMap.2 ⟨e, he, hel⟩, hx⟩
    · intro m hm
      cases hm
      exact Value.eachFloatBelow_nil
  refine ⟨fun path => ⟨Json.holdsNull_compact_iff vars path, Json.holdsNull_pretty_iff vars path⟩,
    ?_, ?_⟩
  · intro path x hx hinfinite
    exact (horigin path x hx).resolve_left hinfinite
  · intro hgiven path
    have hfinite : vars.EachFloat Finite := by
      intro path x hx
      rcases horigin path x hx with h | ⟨el, hel, h⟩
      · exact h
      · exact hgiven el hel x h
    rw [Json.holdsNull_compact_iff, Json.holdsNull_pretty_iff, hfinite.printsNull_iff]
    exact ⟨.rfl, .rfl⟩

/-- An element that stores a floating-point number. -/
def Element.counting : Element := ⟨"assign", none, [("location", "count"), ("expr", "1e3")], []⟩

/-- An element that stores a floating-point number that is not finite. -/
def Element.descending : Element := ⟨"assign", none, [("location", "x"), ("expr", "-inf")], []⟩

/-- A host without input. -/
def Host.unfed : Host :=
  .ofDocument (.ofBuiltIn .memory ⟨[], none⟩ .working) ⟨.descending, none⟩

/-- A line that is missing is `null`, a finite number is not. -/
theorem Host.null_in_json_unfed :
    let errands : List Errand :=
      [.operation (.call (.execute Stdin.readLineElement)),
        .operation (.call (.execute .counting))]
    let s := ((Errand.performAll unfed errands).runFrom (.fresh (some .empty) default)).2
    let vars := Value.ofDict s.snapshot
    unfed.registry = .ofBuiltIn .memory ⟨[], none⟩ .working ∧
      Json.HoldsNull (Json.pretty vars) [.member "line"] ∧
      ¬ Json.HoldsNull (Json.pretty vars) [.member "count"] := by
  intro errands s vars
  obtain ⟨-, -, h⟩ := unfed.null_in_json .memory ⟨[], none⟩ .working rfl default errands
  have hgiven : ∀ el ∈ [Stdin.readLineElement, .counting], ∀ x, el.AssignsFloat x → Finite x := by
    intro el hel x hx
    simp only [List.mem_cons, List.not_mem_nil, or_false] at hel
    rcases hel with rfl | rfl
    · exact absurd hx.1 (by decide)
    · have hvalue : some (Value.float (Float.ofScientific 1 false 3)) = some (.float x) := hx.2
      cases hvalue
      decide +kernel
  have hcount : ∃ x, vars.at? [.member "count"] = some (.float x) := ⟨_, rfl⟩
  refine ⟨rfl, ((h hgiven _).2).2 rfl, fun hnull => ?_⟩
  obtain ⟨x, hx⟩ := hcount
  cases hx.symm.trans (((h hgiven _).2).1 hnull)

/-- Negative infinity is stored as a number, and `null` in the JSON. -/
theorem Host.infinity_is_null_in_json :
    let s := ((Errand.performAll unfed [.operation (.call (.execute .descending))]).runFrom
      (.fresh (some .empty) default)).2
    let vars := Value.ofDict s.snapshot
    Json.HoldsNull (Json.compact vars) [.member "x"] ∧
      vars.at? [.member "x"] ≠ some .null := by
  intro s vars
  have hx : ∃ x, vars.at? [.member "x"] = some (.float x) ∧
      Decimal.isFinite x.toBits = false := ⟨_, rfl, by decide +kernel⟩
  obtain ⟨x, hx, hinfinite⟩ := hx
  refine ⟨(Json.holdsNull_compact_iff vars _).2 ⟨.float x, hx, hinfinite⟩, fun hnull => ?_⟩
  cases hx.symm.trans hnull

end MarkupActions
