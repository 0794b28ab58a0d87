import MarkupActions.Proofs.Paths

/-!
# MarkupActions.Proofs.Commuting

**Writes to places apart may come in either order.** Two locations are apart when neither path goes
on behind the other. They may still have their first segments in common, and then both writes walk
through the same objects, and whichever comes first makes those that are missing. The order shows
neither in the variables nor in the result of either write, whether they succeed or are refused.

What a write does to the members it begins at depends on what is bound under its first name and
touches nothing else (`Edit`). So at different names two writes are two independent edits. At one
name both go on below it, where the second finds the object that the first has left.
-/

namespace MarkupActions

/-! ### What a write does at its first name -/

/-- What is done under one name of an object. -/
inductive Edit where
  /-- Nothing, since the walk is refused. -/
  | keep
  | insert (v : Value)
  | replace (v : Value)

namespace Edit

/-- The members after an edit. -/
def apply (name : String) : Edit → Entries Value → Entries Value
  | .keep, members => members
  | .insert v, members => Entries.insert name v members
  | .replace v, members => Entries.replace name v members

/-- Changes under two names can be made in either order. -/
theorem apply_comm {name other : String} (h : name ≠ other) (e f : Edit)
    (members : Entries Value) :
    e.apply name (f.apply other members) = f.apply other (e.apply name members) := by
  cases e with
  | keep => rfl
  | insert v =>
    cases f with
    | keep => rfl
    | insert w => exact Entries.insert_comm h v w members
    | replace w => exact Entries.insert_replace_comm h v w members
  | replace v =>
    cases f with
    | keep => rfl
    | insert w => exact (Entries.insert_replace_comm h.symm w v members).symm
    | replace w => exact Entries.replace_comm h v w members

end Edit

namespace Value

/-- What a write does under its first name, by what is bound there. -/
def edit (v : Value) (name : String) : List String → Option Value →
    Edit × Except DataModelError Unit
  | [], _ => (.insert v, .ok ())
  | next :: rest, none => (.insert (.object (v.putAt next rest []).1), (v.putAt next rest []).2)
  | next :: rest, some (.object old) =>
      (.replace (.object (v.putAt next rest old).1), (v.putAt next rest old).2)
  | _ :: _, some other => (.keep, .error (.notAnObject name other.typeName))

/-- Putting a value at a place changes one member, by what is found there. -/
theorem putAt_eq_edit (v : Value) (name : String) (rest : List String) (members : Entries Value) :
    v.putAt name rest members =
      ((v.edit name rest (Entries.find? name members)).1.apply name members,
        (v.edit name rest (Entries.find? name members)).2) := by
  cases rest with
  | nil => rfl
  | cons next rest =>
    cases hf : Entries.find? name members with
    | none => exact putAt_cons_unbound hf
    | some u =>
      by_cases hu : u.IsObject
      · obtain ⟨old, rfl⟩ := hu
        exact putAt_cons_object hf
      · rw [putAt_cons_refused hf hu]
        cases u with
        | object old => exact absurd ⟨old, rfl⟩ hu
        | null | bool | int | float | string | array => rfl

/-! ### Two writes -/

variable {v w : Value} {name other : String} {rest path : List String}

/-- Writes that begin at different names know nothing of each other. -/
theorem putAt_comm_of_ne (h : name ≠ other) (members : Entries Value) :
    w.putAt other path (v.putAt name rest members).1 =
      ((v.putAt name rest (w.putAt other path members).1).1, (w.putAt other path members).2) := by
  have hother : Entries.find? other (v.putAt name rest members).1 = Entries.find? other members :=
    find?_putAt_of_ne h.symm
  have hname : Entries.find? name (w.putAt other path members).1 = Entries.find? name members :=
    find?_putAt_of_ne h
  rw [putAt_eq_edit w other path (v.putAt name rest members).1, hother,
    putAt_eq_edit v name rest (w.putAt other path members).1, hname,
    putAt_eq_edit v name rest members, putAt_eq_edit w other path members]
  exact Prod.ext (Edit.apply_comm h.symm ..) rfl

/-- Of two writes apart, the second goes as it would have gone first, and the order does not show in
the members. -/
theorem putAt_comm (h : ¬ name :: rest <+: other :: path) (h' : ¬ other :: path <+: name :: rest)
    (members : Entries Value) :
    w.putAt other path (v.putAt name rest members).1 =
      ((v.putAt name rest (w.putAt other path members).1).1, (w.putAt other path members).2) := by
  induction rest generalizing name other path members with
  | nil =>
    refine putAt_comm_of_ne ?_ members
    rintro rfl
    exact h (List.cons_prefix_cons.2 ⟨rfl, List.nil_prefix⟩)
  | cons next rest ih =>
    by_cases hne : name = other
    · subst hne
      cases path with
      | nil => exact absurd (List.cons_prefix_cons.2 ⟨rfl, List.nil_prefix⟩) h'
      | cons next' path =>
        have hbelow : ¬ next :: rest <+: next' :: path :=
          fun e => h (List.cons_prefix_cons.2 ⟨rfl, e⟩)
        have hbelow' : ¬ next' :: path <+: next :: rest :=
          fun e => h' (List.cons_prefix_cons.2 ⟨rfl, e⟩)
        cases hf : Entries.find? name members with
        | none =>
          -- Whichever comes first makes the object, and the other goes on inside it.
          rw [putAt_cons_unbound hf, putAt_cons_unbound hf,
            putAt_cons_object (Entries.find?_insert_self ..),
            putAt_cons_object (Entries.find?_insert_self ..), Entries.replace_insert,
            Entries.replace_insert, ih hbelow hbelow']
        | some u =>
          by_cases hu : u.IsObject
          · obtain ⟨old, rfl⟩ := hu
            rw [putAt_cons_object hf, putAt_cons_object hf,
              putAt_cons_object (Entries.find?_replace_self hf _),
              putAt_cons_object (Entries.find?_replace_self hf _), Entries.replace_replace,
              Entries.replace_replace, ih hbelow hbelow']
          · rw [putAt_cons_refused hf hu, putAt_cons_refused hf hu, putAt_cons_refused hf hu]
    · exact putAt_comm_of_ne hne members

end Value

namespace DataModel

variable {l k : String}

/-- A data model is the entries of its variables. -/
theorem eq_of_entries {m m' : DataModel} (h : m.vars.entries = m'.vars.entries) : m = m' := by
  obtain ⟨vars⟩ := m
  obtain ⟨vars'⟩ := m'
  exact congrArg DataModel.mk (Dict.ext h)

/-- Of two writes at locations apart, the second goes as it would have gone first, and the order does
not show in the variables. -/
theorem write_write (h : ¬ Location.segments l <+: Location.segments k)
    (h' : ¬ Location.segments k <+: Location.segments l) (m : DataModel) (v w : Value) :
    (m.write l v).1.write k w = (((m.write k w).1.write l v).1, (m.write k w).2) := by
  by_cases hl : isLocation l = true
  · by_cases hk : isLocation k = true
    · obtain ⟨first, rest, hs⟩ := Location.exists_segments_eq_cons l
      obtain ⟨first', path, hs'⟩ := Location.exists_segments_eq_cons k
      rw [hs, hs'] at h h'
      have hcomm := Value.putAt_comm (v := v) (w := w) h h' m.vars.entries
      refine Prod.ext (eq_of_entries ?_) ?_
      · rw [(write_eq hk hs').1, (write_eq hl hs).1, (write_eq hl hs).1, (write_eq hk hs').1, hcomm]
      · rw [(write_eq hk hs').2, (write_eq hl hs).1, (write_eq hk hs').2, hcomm]
    · have hk' : isLocation k = false := by simpa using hk
      rw [write_of_not_location hk', write_of_not_location hk']
  · have hl' : isLocation l = false := by simpa using hl
    rw [write_of_not_location hl', write_of_not_location hl']

/-- **Writes at locations apart commute.** Where neither of two paths goes on behind the other, and
they are not the same, the two writes leave the same variables in either order, and each of them
succeeds or is refused, for the same reason, as it would have been on its own. -/
theorem write_comm (h : ¬ Location.segments l <+: Location.segments k)
    (h' : ¬ Location.segments k <+: Location.segments l) (m : DataModel) (v w : Value) :
    ((m.write l v).1.write k w).1 = ((m.write k w).1.write l v).1 ∧
      ((m.write l v).1.write k w).2 = (m.write k w).2 ∧
      ((m.write k w).1.write l v).2 = (m.write l v).2 := by
  refine ⟨?_, ?_, ?_⟩
  · rw [write_write h h']
  · rw [write_write h h']
  · rw [write_write h' h]

/-- Both writes make the object above them, whichever comes first. -/
theorem write_comm_below_user :
    (¬ Location.segments "user.name" <+: Location.segments "user.age" ∧
      ¬ Location.segments "user.age" <+: Location.segments "user.name") ∧
    ((empty.write "user.name" (.string "ada")).1.write "user.age" (.int 36)).1 =
        ((empty.write "user.age" (.int 36)).1.write "user.name" (.string "ada")).1 ∧
      ((empty.write "user.name" (.string "ada")).1.write "user.age" (.int 36)).2 =
        (empty.write "user.age" (.int 36)).2 ∧
      ((empty.write "user.age" (.int 36)).1.write "user.name" (.string "ada")).2 =
        (empty.write "user.name" (.string "ada")).2 :=
  ⟨⟨by decide, by decide⟩, write_comm (by decide) (by decide) empty (.string "ada") (.int 36)⟩

end DataModel

end MarkupActions
