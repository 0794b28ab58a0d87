import MarkupActions.DataModel

/-!
# MarkupActions.Proofs.Paths

**What writing at one location does to every other.** Two locations are related in one of four
ways: they are the same, one lies below the other in either direction, or they part at some segment.
After a successful write the first reads the value back, what lies below reads inside the value, what
lies above is an object, and what parts from the location is untouched.

A write walks down and makes the objects that are missing, so it could stop halfway with some of
them made. It does not: below an object that was just made nothing is bound, and where nothing is
bound nothing refuses the walk (`putAt_nil_ok`). A refusal therefore comes before the first change.
-/

namespace MarkupActions

/-! ### Locations and their segments -/

namespace Location

theorem segments_ne_nil (s : String) : segments s ≠ [] := by
  simp [segments]

theorem exists_segments_eq_cons (s : String) : ∃ first rest, segments s = first :: rest :=
  List.exists_cons_of_ne_nil (segments_ne_nil s)

/-- The segments tell locations apart. -/
theorem segments_inj {s t : String} : segments s = segments t ↔ s = t := by
  constructor
  · intro h
    have hp : s.toList.splitOn '.' = t.toList.splitOn '.' :=
      (List.map_inj_right fun _ _ => String.ofList_inj.1).1 h
    have hjoin : ['.'].intercalate (s.toList.splitOn '.') = s.toList := List.intercalate_splitOn '.'
    rw [← String.toList_inj, ← hjoin, hp, List.intercalate_splitOn]
  · intro h
    rw [h]

/-- The segments of two locations with a dot between them are those of both. -/
theorem segments_append_dot (s t : String) : segments (s ++ "." ++ t) = segments s ++ segments t := by
  simp only [segments, String.toList_append, ← List.map_append]
  rw [← List.splitOn_append_cons_self, List.append_assoc]
  rfl

theorem toList_segments (s : String) : (segments s).map String.toList = s.toList.splitOn '.' := by
  simp [segments, Function.comp_def]

theorem dot_not_mem_of_mem_segments {l segment : String} (h : segment ∈ segments l) :
    '.' ∉ segment.toList := by
  obtain ⟨piece, hpiece, rfl⟩ := List.mem_map.mp h
  rw [String.toList_ofList]
  exact Text.not_mem_of_mem_splitOn hpiece

/-- Texts without dots are the segments of what they make up. -/
theorem exists_segments_eq_of_dotless {q : List String} (hne : q ≠ [])
    (hdot : ∀ segment ∈ q, '.' ∉ segment.toList) : ∃ k, segments k = q := by
  refine ⟨String.ofList (['.'].intercalate (q.map String.toList)), ?_⟩
  rw [segments, String.toList_ofList,
    List.splitOn_intercalate '.' (List.forall_mem_map.mpr hdot) (by simpa using hne)]
  simp [Function.comp_def]

/-- Location `l` goes on behind `k`: it is `k`, a dot, and more. -/
def Above (k l : String) : Prop := ∃ rest, l = k ++ "." ++ rest

/-- A location whose segments begin another is that one or stands above it. -/
theorem prefix_segments_iff {k l : String} : segments k <+: segments l ↔ k = l ∨ Above k l := by
  constructor
  · rintro ⟨more, hmore⟩
    by_cases hnil : more = []
    · exact Or.inl (segments_inj.1 (by simpa [hnil] using hmore))
    · have hdot : ∀ segment ∈ more, '.' ∉ segment.toList := by
        intro segment hsegment
        exact dot_not_mem_of_mem_segments (hmore ▸ List.mem_append_right _ hsegment)
      obtain ⟨rest, hrest⟩ := exists_segments_eq_of_dotless hnil hdot
      refine Or.inr ⟨rest, segments_inj.1 ?_⟩
      rw [segments_append_dot, hrest, hmore]
  · rintro (rfl | ⟨rest, rfl⟩)
    · exact List.prefix_refl _
    · exact ⟨segments rest, (segments_append_dot k rest).symm⟩

/-- The first segments of a location are those of some location. -/
theorem exists_segments_eq {l first : String} {rest q : List String}
    (h : segments l = first :: rest) (hq : q <+: rest) : ∃ k, segments k = first :: q := by
  refine exists_segments_eq_of_dotless (List.cons_ne_nil first q) fun segment hsegment => ?_
  refine dot_not_mem_of_mem_segments (l := l) ?_
  rw [h]
  exact (List.cons_prefix_cons.2 ⟨rfl, hq⟩).subset hsegment

theorem Above.ne {k l : String} (h : Above k l) : segments k ≠ segments l := by
  obtain ⟨rest, rfl⟩ := h
  rw [segments_append_dot]
  simp [segments_ne_nil]

/-- A location above another has some of its first segments, but not all. -/
theorem Above.exists_segments_eq {k l first : String} {rest : List String} (h : Above k l)
    (hs : segments l = first :: rest) : ∃ q, segments k = first :: q ∧ q <+: rest ∧ q ≠ rest := by
  obtain ⟨other, q, hq⟩ := exists_segments_eq_cons k
  have hpre : segments k <+: segments l := prefix_segments_iff.2 (Or.inr h)
  rw [hq, hs] at hpre
  obtain ⟨rfl, hrest⟩ := List.cons_prefix_cons.1 hpre
  refine ⟨q, hq, hrest, ?_⟩
  rintro rfl
  exact h.ne (hq.trans hs.symm)

end Location

/-! ### Writing below an object -/

namespace Value

/-- A value with members. -/
def IsObject (v : Value) : Prop := ∃ members, v = .object members

variable {v : Value} {name next : String} {rest : List String} {members : Entries Value}

theorem putAt_cons_unbound (h : Entries.find? name members = none) :
    v.putAt name (next :: rest) members =
      (Entries.insert name (.object (v.putAt next rest []).1) members,
        (v.putAt next rest []).2) := by
  simp [putAt, h]

theorem putAt_cons_object {old : Entries Value}
    (h : Entries.find? name members = some (.object old)) :
    v.putAt name (next :: rest) members =
      (Entries.replace name (.object (v.putAt next rest old).1) members,
        (v.putAt next rest old).2) := by
  simp [putAt, h]

/-- What is no object cannot be led into. -/
theorem putAt_cons_refused {w : Value} (h : Entries.find? name members = some w)
    (hw : ¬ w.IsObject) :
    v.putAt name (next :: rest) members = (members, .error (.notAnObject name w.typeName)) := by
  cases w with
  | object old => exact absurd ⟨old, rfl⟩ hw
  | _ => simp [putAt, h]

/-- Where nothing is bound, nothing is in the way. -/
theorem putAt_nil_ok (v : Value) (name : String) (rest : List String) :
    (v.putAt name rest []).2 = .ok () := by
  induction rest generalizing name with
  | nil => rfl
  | cons next rest ih => rw [putAt_cons_unbound rfl]; exact ih next

/-- A refused walk has changed nothing: whatever it went through was there before. -/
theorem putAt_refused {e : DataModelError} (h : (v.putAt name rest members).2 = .error e) :
    (v.putAt name rest members).1 = members := by
  induction rest generalizing name members with
  | nil => simp [putAt] at h
  | cons next rest ih =>
    cases hf : Entries.find? name members with
    | none =>
      -- A new object would be left behind here, but below it nothing refuses.
      rw [putAt_cons_unbound hf, putAt_nil_ok] at h
      cases h
    | some w =>
      by_cases hw : w.IsObject
      · obtain ⟨old, rfl⟩ := hw
        rw [putAt_cons_object hf] at h ⊢
        rw [ih h]
        exact Entries.replace_of_find? hf
      · rw [putAt_cons_refused hf hw]

/-- What a walk that is not refused does at its first name: it goes on below it, in the object that
was there or in a new one, and leaves the other names alone. -/
theorem putAt_cons_ok (h : (v.putAt name (next :: rest) members).2 = .ok ()) :
    ∃ old, (v.putAt next rest old).2 = .ok () ∧
      Entries.find? name (v.putAt name (next :: rest) members).1 =
        some (.object (v.putAt next rest old).1) := by
  cases hf : Entries.find? name members with
  | none =>
    rw [putAt_cons_unbound hf] at h ⊢
    exact ⟨[], h, Entries.find?_insert_self ..⟩
  | some w =>
    by_cases hw : w.IsObject
    · obtain ⟨old, rfl⟩ := hw
      rw [putAt_cons_object hf] at h ⊢
      exact ⟨old, h, Entries.find?_replace_self hf _⟩
    · rw [putAt_cons_refused hf hw] at h
      cases h

/-- The other members stay what they are. -/
theorem find?_putAt_of_ne {other : String} (hne : other ≠ name) :
    Entries.find? other (v.putAt name rest members).1 = Entries.find? other members := by
  cases rest with
  | nil => exact Entries.find?_insert_of_ne hne ..
  | cons next rest =>
    cases hf : Entries.find? name members with
    | none => rw [putAt_cons_unbound hf, Entries.find?_insert_of_ne hne]
    | some w =>
      by_cases hw : w.IsObject
      · obtain ⟨old, rfl⟩ := hw
        rw [putAt_cons_object hf, Entries.find?_replace_of_ne hne]
      · rw [putAt_cons_refused hf hw]

@[simp] theorem lookup?_nil (w : Value) : w.lookup? [] = some w := by
  cases w <;> rfl

theorem lookup?_cons (path : List String) :
    (Value.object members).lookup? (name :: path) =
      (Entries.find? name members).bind (·.lookup? path) := by
  simp only [lookup?]
  cases Entries.find? name members <;> rfl

/-- A walk is refused exactly when something above its end is bound to a value without members. -/
theorem putAt_ok_iff : (v.putAt name rest members).2 = .ok () ↔
    ∀ q w, q <+: rest → q ≠ rest → (Value.object members).lookup? (name :: q) = some w →
      w.IsObject := by
  induction rest generalizing name members with
  | nil => exact ⟨fun _ q _ hq hne => absurd (List.prefix_nil.1 hq) hne, fun _ => rfl⟩
  | cons next rest ih =>
    cases hf : Entries.find? name members with
    | none =>
      rw [putAt_cons_unbound hf]
      exact ⟨fun _ q w _ _ hw => by simp [lookup?_cons, hf] at hw, fun _ => putAt_nil_ok ..⟩
    | some u =>
      by_cases hu : u.IsObject
      · obtain ⟨old, rfl⟩ := hu
        rw [putAt_cons_object hf, ih]
        constructor
        · intro h q w hq hne hw
          rw [lookup?_cons, hf, Option.bind_some] at hw
          cases q with
          | nil => exact ⟨old, by simpa using hw.symm⟩
          | cons first q =>
            obtain ⟨rfl, hq'⟩ := List.cons_prefix_cons.1 hq
            exact h q w hq' (fun e => hne (by rw [e])) hw
        · intro h q w hq hne hw
          refine h (next :: q) w (List.cons_prefix_cons.2 ⟨rfl, hq⟩) (by simpa using hne) ?_
          rwa [lookup?_cons, hf, Option.bind_some]
      · rw [putAt_cons_refused hf hu]
        constructor
        · intro h
          cases h
        · intro h
          refine absurd (h [] u List.nil_prefix (by simp) ?_) hu
          simp [lookup?_cons, hf]

/-- Behind the end of the path, reading goes on inside the value that was put there. -/
theorem lookup?_putAt_append (h : (v.putAt name rest members).2 = .ok ()) (more : List String) :
    (Value.object (v.putAt name rest members).1).lookup? (name :: rest ++ more) =
      v.lookup? more := by
  induction rest generalizing name members with
  | nil => simp [lookup?_cons, putAt]
  | cons next rest ih =>
    obtain ⟨old, hok, hfind⟩ := putAt_cons_ok h
    rw [List.cons_append, lookup?_cons, hfind, Option.bind_some]
    exact ih hok

/-- Above the end of the path there are objects. -/
theorem lookup?_putAt_above (h : (v.putAt name rest members).2 = .ok ()) {q : List String}
    (hq : q <+: rest) (hne : q ≠ rest) :
    ∃ w, (Value.object (v.putAt name rest members).1).lookup? (name :: q) = some w ∧
      w.IsObject := by
  induction rest generalizing name members q with
  | nil => exact absurd (List.prefix_nil.1 hq) hne
  | cons next rest ih =>
    obtain ⟨old, hok, hfind⟩ := putAt_cons_ok h
    rw [lookup?_cons, hfind, Option.bind_some]
    cases q with
    | nil => exact ⟨_, lookup?_nil _, _, rfl⟩
    | cons first q =>
      obtain ⟨rfl, hq'⟩ := List.cons_prefix_cons.1 hq
      exact ih hok hq' (fun e => hne (by rw [e]))

/-- A path that parts from the one written reads what it read before. -/
theorem lookup?_putAt_of_not_prefix {q : List String} (h : ¬ name :: rest <+: q)
    (h' : ¬ q <+: name :: rest) :
    (Value.object (v.putAt name rest members).1).lookup? q = (Value.object members).lookup? q := by
  induction rest generalizing name members q with
  | nil =>
    cases q with
    | nil => exact absurd List.nil_prefix h'
    | cons other q =>
      have hne : other ≠ name := fun e => h (by simp [e])
      rw [lookup?_cons, lookup?_cons, find?_putAt_of_ne hne]
  | cons next rest ih =>
    cases q with
    | nil => exact absurd List.nil_prefix h'
    | cons other q =>
      by_cases hne : other = name
      · subst hne
        have hq : ¬ next :: rest <+: q := fun e => h (List.cons_prefix_cons.2 ⟨rfl, e⟩)
        have hq' : ¬ q <+: next :: rest := fun e => h' (List.cons_prefix_cons.2 ⟨rfl, e⟩)
        cases hf : Entries.find? other members with
        | none =>
          -- The new object is there to be read, but what it holds is below the path written.
          rw [putAt_cons_unbound hf, lookup?_cons, lookup?_cons, hf,
            Entries.find?_insert_self, Option.bind_some, ih hq hq']
          cases q with
          | nil => exact absurd List.nil_prefix hq'
          | cons first q => simp [lookup?_cons]
        | some w =>
          by_cases hw : w.IsObject
          · obtain ⟨old, rfl⟩ := hw
            rw [putAt_cons_object hf, lookup?_cons, lookup?_cons, hf,
              Entries.find?_replace_self hf, Option.bind_some, Option.bind_some, ih hq hq']
          · rw [putAt_cons_refused hf hw]
      · rw [lookup?_cons, lookup?_cons, find?_putAt_of_ne hne]

end Value

/-! ### Writing at a location -/

namespace DataModel

variable {m : DataModel} {l : String} {v : Value}

/-- Reading a location is a lookup below the object that the variables make up. -/
theorem get?_eq (m : DataModel) (l : String) :
    m.get? l = (Value.object m.vars.entries).lookup? (Location.segments l) := by
  obtain ⟨first, rest, hs⟩ := Location.exists_segments_eq_cons l
  simp only [get?, hs, Value.lookup?_cons, Dict.find?]
  cases Entries.find? first m.vars.entries <;> rfl

/-- What a write does, once the location is cut into segments. -/
theorem write_eq {first : String} {rest : List String} (hl : isLocation l = true)
    (hs : Location.segments l = first :: rest) :
    (m.write l v).1.vars.entries = (v.putAt first rest m.vars.entries).1 ∧
      (m.write l v).2 = (v.putAt first rest m.vars.entries).2 := by
  simp [write, hl, hs]

theorem write_of_not_location (hl : isLocation l = false) :
    m.write l v = (m, .error (.invalidLocation l)) := by
  simp [write, hl]

/-- A write that succeeds went to a location. -/
theorem isLocation_of_write_ok (h : (m.write l v).2 = .ok ()) : isLocation l = true := by
  by_cases hl : isLocation l = true
  · exact hl
  · rw [write_of_not_location (by simpa using hl)] at h
    cases h

/-- Exactly the locations are written above which nothing but objects is bound. -/
theorem write_ok_iff : (m.write l v).2 = .ok () ↔
    isLocation l = true ∧ ∀ k w, Location.Above k l → m.get? k = some w → w.IsObject := by
  by_cases hl : isLocation l = true
  · obtain ⟨first, rest, hs⟩ := Location.exists_segments_eq_cons l
    rw [(write_eq hl hs).2, Value.putAt_ok_iff]
    simp only [hl, true_and]
    -- The first names of the path and the locations above `l` are the same things.
    constructor
    · intro h k w hk hw
      obtain ⟨q, hks, hq, hne⟩ := hk.exists_segments_eq hs
      rw [get?_eq, hks] at hw
      exact h q w hq hne hw
    · intro h q w hq hne hw
      obtain ⟨k, hk⟩ := Location.exists_segments_eq hs hq
      have hpre : Location.segments k <+: Location.segments l := by
        rw [hk, hs]
        exact List.cons_prefix_cons.2 ⟨rfl, hq⟩
      rcases Location.prefix_segments_iff.1 hpre with rfl | habove
      · exact absurd (by simpa using hk.symm.trans hs) hne
      · exact h k w habove (by rw [get?_eq, hk]; exact hw)
  · rw [write_of_not_location (by simpa using hl)]
    constructor
    · intro h
      cases h
    · intro h
      exact absurd h.1 hl

/-- A write that is refused changes nothing. -/
theorem write_refused (h : (m.write l v).2 ≠ .ok ()) : (m.write l v).1 = m := by
  by_cases hl : isLocation l = true
  · obtain ⟨first, rest, hs⟩ := Location.exists_segments_eq_cons l
    obtain ⟨hentries, hresult⟩ := write_eq (m := m) (v := v) hl hs
    rw [hresult] at h
    cases he : (v.putAt first rest m.vars.entries).2 with
    | ok => exact absurd he h
    | error e =>
      have hvars : (m.write l v).1.vars = m.vars :=
        Dict.ext (hentries.trans (Value.putAt_refused he))
      cases hm : (m.write l v).1
      rw [hm] at hvars
      cases hvars
      rfl
  · rw [write_of_not_location (by simpa using hl)]

/-- Behind the location, reading goes on inside the value. -/
theorem get?_write_append (h : (m.write l v).2 = .ok ()) {k : String} {more : List String}
    (hk : Location.segments k = Location.segments l ++ more) :
    (m.write l v).1.get? k = v.lookup? more := by
  obtain ⟨first, rest, hs⟩ := Location.exists_segments_eq_cons l
  obtain ⟨hentries, hresult⟩ := write_eq (m := m) (v := v) (isLocation_of_write_ok h) hs
  rw [get?_eq, hentries, hk, hs]
  exact Value.lookup?_putAt_append (hresult ▸ h) more

/-- Above the location there are objects. -/
theorem get?_write_above (h : (m.write l v).2 = .ok ()) {k : String} (hk : Location.Above k l) :
    ∃ w, (m.write l v).1.get? k = some w ∧ w.IsObject := by
  obtain ⟨first, rest, hs⟩ := Location.exists_segments_eq_cons l
  obtain ⟨hentries, hresult⟩ := write_eq (m := m) (v := v) (isLocation_of_write_ok h) hs
  obtain ⟨q, hks, hq, hne⟩ := hk.exists_segments_eq hs
  rw [get?_eq, hentries, hks]
  exact Value.lookup?_putAt_above (hresult ▸ h) hq hne

/-- A location that parts from the one written reads what it read before. -/
theorem get?_write_of_not_prefix {k : String}
    (h : ¬ Location.segments l <+: Location.segments k)
    (h' : ¬ Location.segments k <+: Location.segments l) :
    (m.write l v).1.get? k = m.get? k := by
  by_cases hl : isLocation l = true
  · obtain ⟨first, rest, hs⟩ := Location.exists_segments_eq_cons l
    rw [hs] at h h'
    rw [get?_eq, get?_eq, (write_eq hl hs).1]
    exact Value.lookup?_putAt_of_not_prefix h h'
  · rw [write_of_not_location (by simpa using hl)]

/-- **The laws of locations.** A write succeeds exactly at a location above which nothing but
objects is bound. A refused write leaves the variables as they were. After a write that succeeded,
the location reads the value, a location below reads inside it, a location above reads an object,
and every other location reads what it read before. -/
theorem write_spec (m : DataModel) (l : String) (v : Value) :
    ((m.write l v).2 = .ok () ↔
      isLocation l = true ∧ ∀ k w, Location.Above k l → m.get? k = some w → w.IsObject) ∧
    ((m.write l v).2 ≠ .ok () → (m.write l v).1 = m) ∧
    ((m.write l v).2 = .ok () →
      (m.write l v).1.get? l = some v ∧
      (∀ rest, (m.write l v).1.get? (l ++ "." ++ rest) = v.lookup? (Location.segments rest)) ∧
      (∀ k, Location.Above k l → ∃ w, (m.write l v).1.get? k = some w ∧ w.IsObject) ∧
      (∀ k, k ≠ l → ¬ Location.Above k l → ¬ Location.Above l k →
        (m.write l v).1.get? k = m.get? k)) := by
  refine ⟨write_ok_iff, write_refused, fun h => ⟨?_, ?_, ?_, ?_⟩⟩
  · rw [get?_write_append h (List.append_nil _).symm, Value.lookup?_nil]
  · intro rest
    exact get?_write_append h (Location.segments_append_dot l rest)
  · intro k hk
    exact get?_write_above h hk
  · intro k hne hkl hlk
    refine get?_write_of_not_prefix ?_ ?_
    · intro hpre
      exact (Location.prefix_segments_iff.1 hpre).elim (fun e => hne e.symm) hlk
    · intro hpre
      exact (Location.prefix_segments_iff.1 hpre).elim hne hkl

end DataModel

end MarkupActions
