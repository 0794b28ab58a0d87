import MarkupActions.Proofs.Text.ByteOrder
import MarkupActions.Registry

/-!
# MarkupActions.Proofs.Registering

**The first registration of a namespace counts.** A registration fails if its URI is not valid, or has
a vocabulary already, and a batch of them ends with the first that fails and keeps what came before.
So whatever is registered in whatever portions, what a registry holds for a valid URI is the vocabulary
that was the first to be tried for it, and for any other text it holds nothing
(`Registry.first_attempt_counts`).

Which registrations are tried at all is told by the URIs alone (`Registration.attempts`): the one that
ends a batch is the first that is not valid or has been tried before, be it in this batch or in an
earlier one.
-/

namespace MarkupActions

variable {r next : Registry} {uri : String} {v : Vocabulary} {e : HostError}
  {earlier : Entries Vocabulary}

theorem isNamespaceUri_iff : isNamespaceUri uri = true ↔
    uri ≠ "" ∧ ∀ c ∈ uri.toList, Text.isBlank c = false := by
  simp [isNamespaceUri]

/-! ### One registration -/

namespace Registry

theorem contains_iff : r.contains uri = true ↔ ∃ v, r.get? uri = some v :=
  Option.isSome_iff_exists

theorem mem_uris_iff : uri ∈ r.uris ↔ ∃ v, r.get? uri = some v :=
  r.vocabularies.mem_keys_iff uri

/-- A registration succeeds just if the URI is well formed and new. -/
theorem register_ok_iff : r.register uri v = .ok next ↔
    isNamespaceUri uri = true ∧ r.get? uri = none ∧ next = ⟨r.vocabularies.insert uri v⟩ := by
  have hcontains : r.contains uri = false ↔ r.get? uri = none := Option.isSome_eq_false_iff.trans
    Option.isNone_iff_eq_none
  rw [← hcontains, register, checkUri]
  cases isNamespaceUri uri <;> cases r.contains uri <;> simp [eq_comm]

/-- A registration fails for a bad URI, and else for one that is taken. -/
theorem register_error_iff : r.register uri v = .error e ↔
    isNamespaceUri uri = false ∧ e = .invalidUri uri ∨
      isNamespaceUri uri = true ∧ (∃ held, r.get? uri = some held) ∧ e = .duplicate uri := by
  rw [← contains_iff, register, checkUri]
  cases isNamespaceUri uri <;> cases r.contains uri <;> simp [eq_comm]

/-- What is registered is found, and nothing else changes. -/
theorem get?_of_register (h : r.register uri v = .ok next) (key : String) :
    next.get? key = if key = uri then some v else r.get? key := by
  obtain ⟨-, -, rfl⟩ := register_ok_iff.1 h
  exact r.vocabularies.find?_insert uri key v

/-! ### A batch -/

/-- A batch that goes through has registered each of its pairs, and nothing else. -/
theorem get?_of_registerAll {pairs : List (String × Vocabulary)}
    (h : r.registerAll pairs = (next, .ok ())) :
    (∀ pair ∈ pairs, r.get? pair.1 = none ∧ next.get? pair.1 = some pair.2) ∧
      ∀ key, key ∉ Entries.keys pairs → next.get? key = r.get? key := by
  induction pairs generalizing r with
  | nil =>
    cases h
    exact ⟨nofun, fun _ _ => rfl⟩
  | cons pair rest ih =>
    obtain ⟨uri, v⟩ := pair
    rw [registerAll] at h
    cases hfirst : r.register uri v with
    | error e =>
      rw [hfirst] at h
      cases h
    | ok first =>
      rw [hfirst] at h
      obtain ⟨hrest, hothers⟩ := ih h
      have hget := get?_of_register hfirst
      -- The URI is taken from here on, so the rest of the batch does not have it again.
      have hapart : uri ∉ Entries.keys rest := by
        intro hmem
        obtain ⟨pair, hpair, rfl⟩ := List.mem_map.1 hmem
        have hnone := (hrest pair hpair).1
        rw [hget, if_pos rfl] at hnone
        cases hnone
      refine ⟨List.forall_mem_cons.2 ⟨⟨(register_ok_iff.1 hfirst).2.1, ?_⟩, ?_⟩, ?_⟩
      · rw [hothers uri hapart, hget, if_pos rfl]
      · intro pair hpair
        have hne : pair.1 ≠ uri := fun heq => hapart (heq ▸ List.mem_map_of_mem hpair)
        obtain ⟨hnone, hfound⟩ := hrest pair hpair
        rw [hget, if_neg hne] at hnone
        exact ⟨hnone, hfound⟩
      · intro key hkey
        obtain ⟨hne, hkey⟩ := not_or.1 (mt List.mem_cons.2 hkey)
        rw [hothers key hkey, hget, if_neg hne]

end Registry

/-! ### Attempts -/

/-- What can be asked of a registry that is being set up. -/
inductive Registration where
  | one (uri : String) (v : Vocabulary)
  | all (pairs : List (String × Vocabulary))

namespace Registration

/-- The registry afterwards, and how it went. A registration that fails gives no new registry. -/
def perform (r : Registry) : Registration → Registry × Except HostError Unit
  | .one uri v =>
      match r.register uri v with
      | .ok next => (next, .ok ())
      | .error e => (r, .error e)
  | .all pairs => r.registerAll pairs

/-- The registry that registrations lead to, however they go. -/
def performAll (r : Registry) : List Registration → Registry
  | [] => r
  | c :: rest => performAll (c.perform r).1 rest

/-- What is to be registered, one after the other. -/
def pairs : Registration → List (String × Vocabulary)
  | .one uri v => [(uri, v)]
  | .all pairs => pairs

/-- The part of a batch that is tried when others have been tried before: it ends with the first URI
that is not valid or not new. -/
def tried (earlier : Entries Vocabulary) : List (String × Vocabulary) → List (String × Vocabulary)
  | [] => []
  | (uri, v) :: rest =>
      if isNamespaceUri uri ∧ uri ∉ Entries.keys earlier then
        (uri, v) :: tried (earlier ++ [(uri, v)]) rest
      else [(uri, v)]

/-- All that has been tried, in order, when some had been tried before. -/
def attempts (earlier : Entries Vocabulary) : List Registration → Entries Vocabulary
  | [] => earlier
  | c :: rest => attempts (earlier ++ tried earlier c.pairs) rest

theorem perform_eq (r : Registry) (c : Registration) : c.perform r = r.registerAll c.pairs := by
  cases c with
  | all => rfl
  | one uri v =>
    rw [perform, pairs, Registry.registerAll]
    cases r.register uri v <;> rfl

end Registration

/-- A registry holds for each valid URI what was tried first for it. -/
def Registry.KeepsFirst (earlier : Entries Vocabulary) (r : Registry) : Prop :=
  ∀ uri, r.get? uri = if isNamespaceUri uri then Entries.find? uri earlier else none

namespace Registry.KeepsFirst

theorem empty : KeepsFirst [] .empty := by
  intro uri
  simp [get?, Registry.empty]

/-- One more attempt changes nothing for other URIs, and nothing for one that is not valid or has been
tried before. -/
theorem find?_tried (earlier : Entries Vocabulary) (uri key : String) (v : Vocabulary) :
    Entries.find? key (earlier ++ [(uri, v)]) =
      if key = uri then some ((Entries.find? uri earlier).getD v) else Entries.find? key earlier := by
  rw [Entries.find?_append, Entries.find?_cons]
  by_cases hkey : key = uri
  · subst hkey
    cases Entries.find? key earlier <;> simp
  · simp [hkey, Ne.symm hkey]

/-- A registration goes through exactly if its URI is valid and new. -/
theorem register_ok_iff (hr : KeepsFirst earlier r) :
    (∃ next, r.register uri v = .ok next) ↔
      isNamespaceUri uri = true ∧ uri ∉ Entries.keys earlier := by
  simp only [Registry.register_ok_iff, exists_and_left, exists_eq, and_true]
  refine and_congr_right fun hvalid => ?_
  rw [hr uri, if_pos hvalid, Entries.find?_eq_none_iff]

/-- A registration that succeeds is the first of its URI. -/
theorem register_ok (hr : KeepsFirst earlier r) (h : r.register uri v = .ok next) :
    KeepsFirst (earlier ++ [(uri, v)]) next := by
  obtain ⟨hvalid, hnew⟩ := hr.register_ok_iff.1 ⟨next, h⟩
  intro key
  rw [get?_of_register h, find?_tried, hr key]
  by_cases hkey : key = uri
  · subst hkey
    simp [hvalid, (Entries.find?_eq_none_iff key earlier).2 hnew]
  · simp [hkey]

/-- One that fails changes nothing. -/
theorem register_error (hr : KeepsFirst earlier r) (h : r.register uri v = .error e) :
    KeepsFirst (earlier ++ [(uri, v)]) r := by
  intro key
  rw [find?_tried, hr key]
  by_cases hkey : key = uri
  · subst hkey
    rcases register_error_iff.1 h with ⟨hinvalid, -⟩ | ⟨hvalid, ⟨held, hheld⟩, -⟩
    · simp [hinvalid]
    · rw [hr key, if_pos hvalid] at hheld
      simp [hheld]
  · simp [hkey]

/-- A batch tries what it is said to try, and goes through or ends with the last of it. -/
theorem registerAll (hr : KeepsFirst earlier r) (pairs : List (String × Vocabulary)) :
    KeepsFirst (earlier ++ Registration.tried earlier pairs) (r.registerAll pairs).1 ∧
      (Registration.tried earlier pairs = pairs ∧ (r.registerAll pairs).2 = .ok () ∨
        ∃ before uri v after e, pairs = before ++ (uri, v) :: after ∧
          Registration.tried earlier pairs = before ++ [(uri, v)] ∧
          r.registerAll before = ((r.registerAll pairs).1, .ok ()) ∧
          (r.registerAll pairs).1.register uri v = .error e ∧
          (r.registerAll pairs).2 = .error e) := by
  induction pairs generalizing r earlier with
  | nil => exact ⟨by simpa [Registration.tried, Registry.registerAll] using hr, .inl ⟨rfl, rfl⟩⟩
  | cons pair rest ih =>
    obtain ⟨uri, v⟩ := pair
    cases hfirst : r.register uri v with
    | error e =>
      have htried : Registration.tried earlier ((uri, v) :: rest) = [(uri, v)] := by
        rw [Registration.tried, if_neg]
        rw [← hr.register_ok_iff (v := v), hfirst]
        simp
      have hbatch : r.registerAll ((uri, v) :: rest) = (r, .error e) := by
        rw [Registry.registerAll, hfirst]
      rw [htried, hbatch]
      exact ⟨hr.register_error hfirst, .inr ⟨[], uri, v, rest, e, rfl, rfl, rfl, hfirst, rfl⟩⟩
    | ok next =>
      obtain ⟨hkeeps, hend⟩ := ih (hr.register_ok hfirst)
      have htried : Registration.tried earlier ((uri, v) :: rest) =
          (uri, v) :: Registration.tried (earlier ++ [(uri, v)]) rest := by
        rw [Registration.tried, if_pos (hr.register_ok_iff.1 ⟨next, hfirst⟩)]
      have hbatch : ∀ more, r.registerAll ((uri, v) :: more) = next.registerAll more := by
        intro more
        rw [Registry.registerAll, hfirst]
      rw [htried, hbatch]
      refine ⟨by simpa using hkeeps, ?_⟩
      rcases hend with ⟨hall, hok⟩ | ⟨before, uri', v', after, e, rfl, hlast, hbefore, herror, hfail⟩
      · exact .inl ⟨congrArg _ hall, hok⟩
      · refine .inr ⟨(uri, v) :: before, uri', v', after, e, rfl, congrArg _ hlast, ?_, herror, hfail⟩
        rw [hbatch, hbefore]

/-- The first attempt for each URI counts after any history, by induction along it. -/
theorem performAll (hr : KeepsFirst earlier r) (history : List Registration) :
    KeepsFirst (Registration.attempts earlier history) (Registration.performAll r history) := by
  induction history generalizing r earlier with
  | nil => exact hr
  | cons c rest ih =>
    rw [Registration.attempts, Registration.performAll, Registration.perform_eq]
    exact ih (hr.registerAll c.pairs).1

end Registry.KeepsFirst

/-- **The first registration of a namespace counts.** Whatever has been registered in a new registry,
one by one or in batches, with or without success: for a valid URI it holds the vocabulary that was the
first to be tried for it, and it holds no other URI, so none that is empty or has a blank in it. A
registration that fails leaves it as it is. A batch tries its pairs in order, and if it fails it has
registered those in front of the one that failed, and nothing else. The URIs are listed in the order of
their bytes, each once. -/
theorem Registry.first_attempt_counts (history : List Registration) :
    let attempts := Registration.attempts [] history
    let r := Registration.performAll .empty history
    (∀ uri, r.get? uri = if isNamespaceUri uri then Entries.find? uri attempts else none) ∧
    (∀ uri ∈ r.uris, uri ≠ "" ∧ ∀ c ∈ uri.toList, Text.isBlank c = false) ∧
    (∀ uri v e, ((Registration.one uri v).perform r).2 = .error e →
      (Registration.one uri v).perform r = (r, .error e) ∧
        (isNamespaceUri uri = false ∧ e = .invalidUri uri ∨ uri ∈ r.uris ∧ e = .duplicate uri)) ∧
    (∀ pairs, let batch := (Registration.all pairs).perform r
      Registration.tried attempts pairs = pairs ∧ batch.2 = .ok () ∨
      ∃ before uri v after e, pairs = before ++ (uri, v) :: after ∧
        Registration.tried attempts pairs = before ++ [(uri, v)] ∧
        batch.1.register uri v = .error e ∧ batch.2 = .error e ∧
        (∀ pair ∈ before, r.get? pair.1 = none ∧ batch.1.get? pair.1 = some pair.2) ∧
        ∀ key, key ∉ Entries.keys before → batch.1.get? key = r.get? key) ∧
    (r.uris.map Text.Utf8.encode).Pairwise (· < ·) ∧ r.uris.length = r.size ∧
    ∀ uri, (uri ∈ r.uris ↔ r.contains uri = true) ∧ (uri ∈ r.uris ↔ ∃ v, r.get? uri = some v) := by
  intro attempts r
  have hr : KeepsFirst attempts r := KeepsFirst.empty.performAll history
  refine ⟨hr, fun uri huri => ?valid, fun uri v e h => ?one, fun pairs => ?batch,
    Text.Utf8.pairwise_encode r.vocabularies.keys_ascending, ?size, fun uri => ?listed⟩
  case valid =>
    obtain ⟨v, hv⟩ := mem_uris_iff.1 huri
    rw [hr uri] at hv
    split at hv
    · next hvalid => exact isNamespaceUri_iff.1 hvalid
    · cases hv
  case one =>
    rw [Registration.perform] at h ⊢
    cases hregister : r.register uri v with
    | ok next =>
      rw [hregister] at h
      cases h
    | error e' =>
      rw [hregister] at h
      cases h
      refine ⟨rfl, (register_error_iff.1 hregister).imp id ?_⟩
      rintro ⟨-, hheld, rfl⟩
      exact ⟨mem_uris_iff.2 hheld, rfl⟩
  case batch =>
    obtain ⟨-, hall | ⟨before, uri, v, after, e, hpairs, htried, hbefore, herror, hfail⟩⟩ :=
      hr.registerAll pairs
    · exact .inl hall
    · obtain ⟨hregistered, hothers⟩ := get?_of_registerAll hbefore
      exact .inr ⟨before, uri, v, after, e, hpairs, htried, herror, hfail, hregistered, hothers⟩
  case size => exact List.length_map ..
  case listed => exact ⟨mem_uris_iff.trans contains_iff.symm, mem_uris_iff⟩

/-- The second pair of the batch has no valid URI, so the third is not tried, and neither counts the
agent that comes too late. -/
example : (Registration.performAll .empty
    [.all [("urn:a", .env .memory), ("a b", .agent), ("urn:b", .agent)], .one "urn:a" .agent]).uris =
      ["urn:a"] := by decide

end MarkupActions
