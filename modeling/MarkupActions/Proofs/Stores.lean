import MarkupActions.Store

/-!
# MarkupActions.Proofs.Stores

**The store in memory stands in for the environment.** The environment of a process refuses what it
cannot hold, and keeps everything else as the store in memory does. Whatever is asked of it, the store
in memory gives the same answers when it is asked the same but for what was refused
(`Store.environment_as_memory`).

The two are kept in step by `Store.Mirrors`: the environment holds what the memory holds, and only
names and values that an environment can hold. The second half is what makes the check before a write
the right one: it lets in nothing that could not be there, so a lookup needs no check of its own, and a
name that cannot be held is not found.
-/

namespace MarkupActions.Store

variable {h m : Holdings} {key value : String}

/-! ### What an environment can hold -/

/-- The names that an environment can hold. -/
theorem isEnvironmentName_iff : isEnvironmentName key = true ↔
    key ≠ "" ∧ '=' ∉ key.toList ∧ '\x00' ∉ key.toList := by
  simp only [isEnvironmentName, Bool.and_eq_true, Bool.not_eq_true', List.isEmpty_eq_false_iff,
    ne_eq, String.toList_eq_nil_iff, List.all_eq_true, decide_eq_true_eq]
  refine and_congr_right fun _ => ?_
  constructor
  · intro hall
    exact ⟨fun hmem => (hall _ hmem).1 rfl, fun hmem => (hall _ hmem).2 rfl⟩
  · intro hnot c hc
    exact ⟨fun heq => hnot.1 (heq ▸ hc), fun heq => hnot.2 (heq ▸ hc)⟩

theorem isEnvironmentValue_iff : isEnvironmentValue value = true ↔ '\x00' ∉ value.toList := by
  simp only [isEnvironmentValue, ne_eq, List.all_eq_true, decide_eq_true_eq]
  constructor
  · intro hall hmem
    exact hall _ hmem rfl
  · intro hnot c hc heq
    exact hnot (heq ▸ hc)

/-- A write to the environment succeeds just if both name and value can be held. -/
theorem set_environment_ok_iff {next : Holdings} : environment.set h key value = .ok next ↔
    isEnvironmentName key = true ∧ isEnvironmentValue value = true ∧
      next = { h with environment := h.environment.insert key value } := by
  simp only [environment]
  split
  · next hname =>
    split
    · next hvalue => simp [hname, hvalue, eq_comm]
    · next hvalue => simp [hvalue]
  · next hname => simp [hname]

/-- A write is refused for its name, and else for its value. -/
theorem set_environment_error_iff {e : StoreError} : environment.set h key value = .error e ↔
    isEnvironmentName key = false ∧ e = .invalidName key ∨
      isEnvironmentName key = true ∧ isEnvironmentValue value = false ∧ e = .nullInValue key := by
  simp only [environment]
  split
  · next hname =>
    split
    · next hvalue => simp [hname, hvalue]
    · next hvalue =>
      simp only [Bool.not_eq_true] at hvalue
      simp [hname, hvalue, eq_comm (a := e)]
  · next hname =>
    simp only [Bool.not_eq_true] at hname
    simp [hname, eq_comm (a := e)]

/-! ### Requests -/

/-- What can be asked of a store. -/
inductive Request where
  | get (key : String)
  | set (key value : String)

/-- What a store answers. -/
inductive Answer where
  /-- What was found. -/
  | value (found : Option String)
  /-- How the writing went. -/
  | written (result : Except StoreError Unit)

/-- Whether a write was refused. Finding nothing is no refusal. -/
def Answer.isRefusal : Answer → Bool
  | .written (.error _) => true
  | _ => false

/-- What a store answers, and what is held afterwards. A refused write leaves what was held. -/
def answer (store : Store) (h : Holdings) : Request → Answer × Holdings
  | .get key => (.value (store.get? h key), h)
  | .set key value =>
      match store.set h key value with
      | .ok next => (.written (.ok ()), next)
      | .error e => (.written (.error e), h)

/-- What a store answers to one request after the other, and what is held in the end. -/
def answerAll (store : Store) (h : Holdings) : List Request → List Answer × Holdings
  | [] => ([], h)
  | q :: rest =>
      let (first, next) := store.answer h q
      let (others, final) := store.answerAll next rest
      (first :: others, final)

/-- The requests that a store does not refuse when it is asked one after the other. -/
def granted (store : Store) (h : Holdings) : List Request → List Request
  | [] => []
  | q :: rest =>
      let (first, next) := store.answer h q
      if first.isRefusal then store.granted next rest else q :: store.granted next rest

variable {q : Request}

/-- A write is refused for what is to be written, whatever is held. -/
theorem isRefusal_set_environment_iff :
    (environment.answer h (.set key value)).1.isRefusal = true ↔
      isEnvironmentName key = false ∨ isEnvironmentValue value = false := by
  rw [answer]
  cases hset : environment.set h key value with
  | ok next =>
    obtain ⟨hname, hvalue, -⟩ := set_environment_ok_iff.1 hset
    simp [Answer.isRefusal, hname, hvalue]
  | error e =>
    rcases set_environment_error_iff.1 hset with ⟨hname, -⟩ | ⟨-, hvalue, -⟩
    · simp [Answer.isRefusal, hname]
    · simp [Answer.isRefusal, hvalue]

/-- A refusal says that the input is invalid, and leaves what was held. -/
theorem answer_of_refusal (hrefusal : (environment.answer h q).1.isRefusal = true) :
    ∃ e, e.isInvalidInput = true ∧ environment.answer h q = (.written (.error e), h) := by
  cases q with
  | get key => cases hrefusal
  | set key value =>
    rw [answer] at hrefusal ⊢
    cases hset : environment.set h key value with
    | ok next =>
      rw [hset] at hrefusal
      cases hrefusal
    | error e =>
      refine ⟨e, ?_, rfl⟩
      rcases set_environment_error_iff.1 hset with ⟨-, rfl⟩ | ⟨-, -, rfl⟩ <;> rfl

/-! ### In step -/

/-- The environment holds what the memory of other holdings holds, and nothing that an environment
cannot hold. -/
structure Mirrors (h m : Holdings) : Prop where
  same : h.environment = m.memory
  fits : ∀ {key value}, h.environment.find? key = some value →
    isEnvironmentName key = true ∧ isEnvironmentValue value = true

namespace Mirrors

theorem empty (kept others : Dict String) : Mirrors ⟨kept, .empty⟩ ⟨.empty, others⟩ :=
  ⟨rfl, nofun⟩

/-- What cannot be held is not there. -/
theorem find?_eq_none (hm : Mirrors h m) (hname : isEnvironmentName key = false) :
    h.environment.find? key = none := by
  refine Option.eq_none_iff_forall_ne_some.2 fun value hfind => ?_
  exact absurd (hm.fits hfind).1 (by simp [hname])

/-- In step, both stores find the same. -/
theorem get?_eq (hm : Mirrors h m) (key : String) :
    environment.get? h key = memory.get? m key := by
  simp only [environment, memory]
  rw [hm.same]

/-- A write that is granted keeps them in step. -/
theorem insert (hm : Mirrors h m) (hname : isEnvironmentName key = true)
    (hvalue : isEnvironmentValue value = true) :
    Mirrors { h with environment := h.environment.insert key value }
      { m with memory := m.memory.insert key value } where
  same := congrArg (·.insert key value) hm.same
  fits {other found} hfind := by
    rw [Dict.find?_insert] at hfind
    split at hfind
    · next heq =>
      cases hfind
      exact ⟨heq ▸ hname, hvalue⟩
    · exact hm.fits hfind

/-- A request that is not refused gets the same answer from either, and leaves them in step. -/
theorem answer (hm : Mirrors h m) (hgranted : (environment.answer h q).1.isRefusal = false) :
    (environment.answer h q).1 = (memory.answer m q).1 ∧
      Mirrors (environment.answer h q).2 (memory.answer m q).2 := by
  cases q with
  | get key => exact ⟨congrArg Answer.value (hm.get?_eq key), hm⟩
  | set key value =>
    cases hset : environment.set h key value with
    | error e => simp [Store.answer, hset, Answer.isRefusal] at hgranted
    | ok next =>
      obtain ⟨hname, hvalue, rfl⟩ := set_environment_ok_iff.1 hset
      simp only [Store.answer, hset]
      exact ⟨rfl, hm.insert hname hvalue⟩

/-- After any number of requests the two have given the same answers, but for those refused, and are
still in step. -/
theorem answerAll (hm : Mirrors h m) (requests : List Request) :
    (environment.answerAll h requests).1.filter (!·.isRefusal) =
        (memory.answerAll m (environment.granted h requests)).1 ∧
      Mirrors (environment.answerAll h requests).2
        (memory.answerAll m (environment.granted h requests)).2 := by
  induction requests generalizing h m with
  | nil => exact ⟨rfl, hm⟩
  | cons q rest ih =>
    simp only [Store.answerAll, granted]
    cases hrefusal : (environment.answer h q).1.isRefusal with
    | true =>
      obtain ⟨e, -, hanswer⟩ := answer_of_refusal hrefusal
      obtain ⟨hrest, hleft⟩ := ih hm
      simp only [hanswer, Answer.isRefusal, Bool.not_true, Bool.false_eq_true, not_false_eq_true,
        List.filter_cons_of_neg, if_true]
      exact ⟨hrest, hleft⟩
    | false =>
      obtain ⟨hfirst, hnext⟩ := hm.answer hrefusal
      obtain ⟨hrest, hleft⟩ := ih hnext
      simp only [Bool.false_eq_true, if_false, Store.answerAll]
      rw [List.filter_cons_of_pos (by simp [hrefusal]), hrest, hfirst]
      exact ⟨rfl, hleft⟩

end Mirrors

/-- **The store in memory stands in for the environment.** A write to the environment is refused, for
invalid input and without any change, exactly if the key is empty or has `=` or the null character in
it, or the value has the null character in it. An environment and a memory that are empty to begin
with give the same answers to whatever is asked, once the memory is spared what was refused. So at any
point both find the same under every key, and under a key that an environment cannot hold they find
nothing; and nothing has come into the environment that it cannot hold. -/
theorem environment_as_memory (kept others : Dict String) (requests : List Request) :
    (∀ h key value, (environment.answer h (.set key value)).1.isRefusal = true ↔
      key = "" ∨ '=' ∈ key.toList ∨ '\x00' ∈ key.toList ∨ '\x00' ∈ value.toList) ∧
    (∀ h q, (environment.answer h q).1.isRefusal = true →
      ∃ e, e.isInvalidInput = true ∧ environment.answer h q = (.written (.error e), h)) ∧
    let real := environment.answerAll ⟨kept, .empty⟩ requests
    let double := memory.answerAll ⟨.empty, others⟩ (environment.granted ⟨kept, .empty⟩ requests)
    real.1.filter (!·.isRefusal) = double.1 ∧
      (∀ key, environment.get? real.2 key = memory.get? double.2 key) ∧
      (∀ key, key = "" ∨ '=' ∈ key.toList ∨ '\x00' ∈ key.toList →
        environment.get? real.2 key = none ∧ memory.get? double.2 key = none) ∧
      ∀ key value, real.2.environment.find? key = some value →
        isEnvironmentName key = true ∧ isEnvironmentValue value = true := by
  have hname : ∀ key, isEnvironmentName key = false ↔
      key = "" ∨ '=' ∈ key.toList ∨ '\x00' ∈ key.toList := by
    intro key
    rw [← Bool.not_eq_true, isEnvironmentName_iff]
    simp only [ne_eq, Decidable.not_and_iff_not_or_not, Decidable.not_not]
  have hvalue : ∀ value, isEnvironmentValue value = false ↔ '\x00' ∈ value.toList := by
    intro value
    rw [← Bool.not_eq_true, isEnvironmentValue_iff, Decidable.not_not]
  refine ⟨fun h key value => ?refused, fun h q => answer_of_refusal, ?_⟩
  case refused => rw [isRefusal_set_environment_iff, hname, hvalue, or_assoc, or_assoc]
  obtain ⟨hanswers, hstep⟩ := (Mirrors.empty kept others).answerAll requests
  refine ⟨hanswers, hstep.get?_eq, fun key hkey => ?_, fun _ _ => hstep.fits⟩
  have hnone := hstep.find?_eq_none ((hname key).2 hkey)
  rw [hstep.same] at hnone
  exact ⟨(hstep.get?_eq key).trans hnone, hnone⟩

/-- A name with `=` in it is refused by the environment only. -/
example : environment.granted default [.set "A" "1", .set "A=B" "2", .get "A"] =
    [.set "A" "1", .get "A"] := by rfl

end MarkupActions.Store
