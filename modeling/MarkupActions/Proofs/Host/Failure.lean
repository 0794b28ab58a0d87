import MarkupActions.Proofs.Host.BuiltIn
import MarkupActions.Proofs.Host.Outcomes
import MarkupActions.Proofs.Host.Reading

/-!
# MarkupActions.Proofs.Host.Failure

**A failed action has done next to nothing.** Wherever an action stops, the variables and the
entries are as they were. The two things that are not taken back come before the last step, and so
are left only by a failure of that step: the log line of a default that was used, and the line that
was taken off the input. An input that fails itself may have lost more (`Host.Spares`).

Each action is gone through from its equation in `MarkupActions.Proofs.Host.Outcomes`. Before it,
executing the element may have loaded a module, which keeps what it would have kept anyway.
-/

namespace MarkupActions

variable {host : Host} {store : Store} {input : InputStream} {sink : PromptSink} {uri : String}
  {s t u : HostState} {el : Element} {e : ActionError}

/-! ### One line of an input -/

/-- One stream is another behind one line, which is empty only where there is nothing left. -/
structure InputStream.Behind (line : List UInt8) (before after : InputStream) : Prop where
  bytes : before.bytes = line ++ after.bytes
  failure : after.failure = before.failure
  /-- It is not more than a line, -/
  inner : newline ∉ line.dropLast
  /-- and not less. -/
  whole : after.bytes = [] ∨ line.getLast? = some newline
  empty : line = [] ↔ before.bytes = []

/-- What is left behind a line is shorter by that line. -/
theorem InputStream.readLine_behind {before after : InputStream} {line : List UInt8}
    (h : before.readLine = (.line line, after)) : Behind line before after := by
  have hcut : line = (cutLine before.bytes).1 ∧
      after = { before with bytes := (cutLine before.bytes).2.2 } := by
    unfold readLine at h
    dsimp only at h
    split at h
    · cases h
    · cases h
      exact ⟨rfl, rfl⟩
  obtain ⟨rfl, rfl⟩ := hcut
  refine ⟨(cutLine_append before.bytes).symm, rfl, newline_not_mem_dropLast before.bytes,
    getLast?_cutLine before.bytes, fun hline => ?_, fun hbytes => ?_⟩
  · exact Classical.byContradiction fun hne => cutLine_ne_nil hne hline
  · rw [hbytes]
    rfl

/-! ### Single actions -/

theorem Module.BuiltIn.isScripted_eq {mod : Module} (h : mod.BuiltIn store sink uri) :
    mod.isScripted = false := by
  cases mod with
  | agent | env | stdin => rfl
  | scripted => exact h.elim

/-- There is a module for each of the three namespaces. -/
theorem HostState.AllBuiltIn.moduleFor (hreg : host.registry = .ofBuiltIn store input sink)
    (hs : s.AllBuiltIn store sink) (huri : uri = agentUri ∨ uri = envUri ∨ uri = stdinUri) :
    ∃ mod, host.moduleFor s uri = some mod ∧ mod.BuiltIn store sink uri := by
  rw [Host.moduleFor]
  cases hl : s.modules.find? uri with
  | some l => exact ⟨l.mod, rfl, hs uri l hl⟩
  | none =>
    obtain ⟨v, hv⟩ := Option.isSome_iff_exists.1 (Registry.contains_ofBuiltIn uri |>.2 huri)
    obtain ⟨mod, hmod⟩ := Registry.module?_ofBuiltIn hv
    refine ⟨mod, ?_, .of_makes hv (Vocabulary.makes_of_module? hmod)⟩
    dsimp only
    rw [hreg, show (Registry.ofBuiltIn store input sink).get? uri = some v from hv, Option.bind_some,
      hmod]

/-- An element that is a single action of the library, by the module that it goes to or by default
processing. -/
inductive Host.Does (host : Host) (s : HostState) (el : Element) : Prop where
  | entry {uri : String} {store : Store} (hns : el.namespaceUri = some uri)
      (hmod : host.moduleFor s uri = some (.env store))
      (h : el.action = "get" ∨ el.action = "set")
  | line {uri : String} {input : InputStream} {sink : PromptSink} (hns : el.namespaceUri = some uri)
      (hmod : host.moduleFor s uri = some (.stdin input sink)) (h : el.action = "read")
  | default (h : el.action = "assign" ∨ el.action = "log") (hplain : host.AsksNoScript s el)

/-- In a session of built-in modules elements of these names always are. -/
theorem Host.does_of_builtIn (hreg : host.registry = .ofBuiltIn store input sink)
    (hs : s.AllBuiltIn store sink)
    (h : el.namespaceUri = some envUri ∧ (el.action = "get" ∨ el.action = "set") ∨
      el.namespaceUri = some stdinUri ∧ el.action = "read" ∨
      el.action = "assign" ∨ el.action = "log") : host.Does s el := by
  rcases h with ⟨hns, h⟩ | ⟨hns, h⟩ | h
  · obtain ⟨mod, hmod, hbuiltIn⟩ := hs.moduleFor hreg (.inr (.inl rfl))
    obtain rfl := hbuiltIn.eq_env
    exact .entry hns hmod h
  · obtain ⟨mod, hmod, hbuiltIn⟩ := hs.moduleFor hreg (.inr (.inr rfl))
    obtain ⟨input, rfl⟩ := hbuiltIn.eq_stdin
    exact .line hns hmod h
  · refine .default h ?_
    cases hns : el.namespaceUri with
    | none => exact .offered hns fun uri l hl => (hs uri l hl).isScripted_eq
    | some uri =>
      by_cases huri : uri = agentUri ∨ uri = envUri ∨ uri = stdinUri
      · obtain ⟨mod, hmod, hbuiltIn⟩ := hs.moduleFor hreg huri
        exact .routed hns hmod hbuiltIn.isScripted_eq
      · have hcontains : host.registry.contains uri ≠ true := by
          rwa [hreg, ne_eq, Registry.contains_ofBuiltIn]
        have hget : host.registry.get? uri = none := Option.not_isSome_iff_eq_none.1 hcontains
        exact .unregistered hns (hs.find?_of_get?_none hreg hget) hget

/-! ### What a failure may leave -/

/-- What an element that has failed leaves as it was. -/
structure Host.Spares (host : Host) (el : Element) (e : ActionError) (s t : HostState) : Prop where
  dataModel : t.dataModel = s.dataModel
  holdings : t.holdings = s.holdings
  /-- Nothing is written to the log, except that -/
  log : el.action ≠ "get" ∨ e.kind ≠ .assignment → t.log = s.log
  /-- a value that was gotten and could not be stored may have been a default. -/
  default : el.action = "get" → e.kind = .assignment → ∃ uri store q,
    el.namespaceUri = some uri ∧ host.moduleFor s uri = some (.env store) ∧
    Env.getRequest el s.dataModel = .ok q ∧
    t.log = (q.fallback? store s.holdings).elim s.log fun value =>
      s.log.push ⟨"env", Env.defaultMessage q.name value⟩
  /-- All modules keep what they had, except for an input that has been read from: reading is what
  failed, or else -/
  moduleFor : ∀ uri, host.moduleFor t uri = host.moduleFor s uri ∨ ∃ full rest sink,
    el.namespaceUri = some uri ∧ el.action = "read" ∧
    host.moduleFor s uri = some (.stdin full sink) ∧
    host.moduleFor t uri = some (.stdin rest sink) ∧
    (e.kind = .externalEffect ∧ e.message = "Failed to read from stdin" ∨ e.kind = .assignment)
  /-- a line was read that could not be stored. -/
  line : el.action = "read" → e.kind = .assignment → ∃ uri full rest sink line,
    el.namespaceUri = some uri ∧ host.moduleFor s uri = some (.stdin full sink) ∧
    host.moduleFor t uri = some (.stdin rest sink) ∧ InputStream.Behind line full rest

namespace Host.Spares

/-- An element that has done nothing at all. -/
theorem refl (host : Host) (s : HostState)
    (h : e.kind = .assignment → el.action ≠ "get" ∧ el.action ≠ "read") :
    host.Spares el e s s where
  dataModel := rfl
  holdings := rfl
  log _ := rfl
  default haction hkind := absurd haction (h hkind).1
  moduleFor _ := .inl rfl
  line haction hkind := absurd haction (h hkind).2

/-- Loading and asking modules may come before. -/
theorem of_prepares (h : s.Prepares host u) (hu : host.Spares el e u t) :
    host.Spares el e s t := by
  obtain ⟨dataModel, holdings, log, default, moduleFor, line⟩ := hu
  simp only [h.log, h.dataModel, h.holdings, h.moduleFor] at dataModel holdings log default
  simp only [h.moduleFor] at moduleFor line
  exact ⟨dataModel, holdings, log, default, moduleFor, line⟩

end Host.Spares

/-- Which module an element would go to is a matter of the modules alone. -/
theorem Host.moduleFor_of_modules (h : t.modules = s.modules) (uri : String) :
    host.moduleFor t uri = host.moduleFor s uri := by
  rw [moduleFor, moduleFor, h]

/-- Only the module that is changed is another. -/
theorem Host.moduleFor_updateModule {l : Loaded} (hl : s.modules.find? uri = some l)
    (f : Module → Module) (other : String) : host.moduleFor (s.updateModule uri f) other =
      if other = uri then some (f l.mod) else host.moduleFor s other := by
  by_cases hsame : other = uri
  · subst hsame
    rw [if_pos rfl, moduleFor, HostState.find?_updateModule_self, hl, Option.map_some]
  · rw [if_neg hsame, moduleFor, moduleFor, HostState.find?_updateModule_of_ne _ _ _ hsame]

/-! ### The actions one by one -/

/-- A `get` that fails may have logged that it uses its default, and that is all. -/
theorem Env.getEntry_spares (hns : el.namespaceUri = some uri) (haction : el.action = "get")
    (hmod : host.moduleFor s uri = some (.env store))
    (h : (getEntry store el).run.runFrom s = (.error e, t)) : host.Spares el e s t := by
  rw [runFrom_getEntry] at h
  cases hq : getRequest el s.dataModel with
  | error refusal =>
    rw [hq] at h
    cases h
    exact .refl host s fun hkind => absurd hkind ((getRequest_refuses el s.dataModel).kind_ne hq)
  | ok q =>
    rw [hq] at h
    obtain ⟨rfl, reason, rfl⟩ := ActionM.assign_error h
    refine ⟨dataModel_lookedUp store q s, holdings_lookedUp store q s, ?_,
      fun _ _ => ⟨uri, store, q, hns, hmod, hq, log_lookedUp store q s⟩,
      fun other => .inl (Host.moduleFor_of_modules (modules_lookedUp store q s) other),
      fun hread _ => absurd (haction.symm.trans hread) (by decide)⟩
    rintro (hother | hother)
    · exact absurd haction hother
    · exact absurd rfl hother

/-- A `set` that fails has done nothing. -/
theorem Env.setEntry_unchanged (h : (setEntry uri store el).run.runFrom s = (.error e, t)) :
    t = s := by
  rw [runFrom_setEntry] at h
  cases hq : setRequest el s.dataModel with
  | error refusal =>
    rw [hq] at h
    cases h
    rfl
  | ok q =>
    rw [hq] at h
    dsimp only at h
    cases hset : store.set s.holdings q.name q.value with
    | ok holdings =>
      rw [hset] at h
      cases h
    | error refusal =>
      rw [hset] at h
      cases h
      rfl

/-- An `assign` that fails has done nothing. -/
theorem assignElement_unchanged (h : (assignElement el).run.runFrom s = (.error e, t)) : t = s := by
  rw [runFrom_assignElement] at h
  cases hq : assignRequest el s.dataModel with
  | error refusal =>
    rw [hq] at h
    cases h
    rfl
  | ok q =>
    rw [hq] at h
    exact (ActionM.assign_error h).1

theorem logElement_unchanged (h : (logElement el).run.runFrom s = (.error e, t)) : t = s := by
  rw [runFrom_logElement] at h
  cases hq : logRequest el s.dataModel with
  | error refusal =>
    rw [hq] at h
    cases h
    rfl
  | ok q =>
    rw [hq] at h
    cases h

/-- What was read cannot be stored, or reading itself has failed. -/
theorem Stdin.storeReading_error {q : Request} {full rest : InputStream}
    {reading : InputStream.Reading} (hreading : full.readLine = (reading, rest))
    (h : (storeReading q reading).run.runFrom s = (.error e, t)) :
    t = s ∧ (e.kind = .externalEffect ∧ e.message = "Failed to read from stdin" ∨
      e.kind = .assignment ∧ ∃ line, InputStream.Behind line full rest) := by
  cases reading with
  | failed reason =>
    cases h
    exact ⟨rfl, .inl ⟨rfl, rfl⟩⟩
  | line line =>
    obtain ⟨rfl, reason, rfl⟩ := ActionM.assign_error h
    exact ⟨rfl, .inr ⟨rfl, line, InputStream.readLine_behind hreading⟩⟩

/-- A `read` that fails may have shown its prompt and consumed its line. -/
theorem Stdin.read_spares (hns : el.namespaceUri = some uri) (haction : el.action = "read")
    {serial : Nat} (hl : s.modules.find? uri = some ⟨serial, .stdin input sink⟩)
    (h : (read uri input sink el).run.runFrom s = (.error e, t)) : host.Spares el e s t := by
  have hget : el.action ≠ "get" := by
    rw [haction]
    decide
  by_cases hreaches : ∃ q, Reaches sink s.dataModel el q
  · obtain ⟨q, hq⟩ := hreaches
    rcases hreading : input.readLine with ⟨reading, rest⟩
    obtain ⟨shown, hshown, hread⟩ := read_reaches uri hq hreading
    rw [hread] at h
    obtain ⟨rfl, hcause⟩ := storeReading_error hreading h
    obtain ⟨hmodel, hholdings, hlog⟩ := hshown.untouched
    have hmodule (other : String) :
        host.moduleFor ((shown.updateModule uri fun _ => .stdin rest sink).note
          (.consumed uri (consumedOf input rest))) other =
            if other = uri then some (.stdin rest sink) else host.moduleFor shown other :=
      Host.moduleFor_updateModule (hshown.modules_eq ▸ hl) (fun _ => .stdin rest sink) other
    have hbefore : host.moduleFor s uri = some (.stdin input sink) := by
      rw [Host.moduleFor, hl]
    have hafter := (hmodule uri).trans (if_pos rfl)
    refine ⟨hmodel, hholdings, fun _ => hlog, fun h => absurd h hget, fun other => ?_,
      fun _ hkind => ?_⟩
    · by_cases hsame : other = uri
      · subst hsame
        exact .inr ⟨input, rest, sink, hns, haction, hbefore, hafter, hcause.imp_right And.left⟩
      · rw [hmodule, if_neg hsame]
        exact .inl (Host.moduleFor_of_modules hshown.modules_eq other)
    · rcases hcause with ⟨hfailed, -⟩ | ⟨-, line, hbehind⟩
      · cases hkind.symm.trans hfailed
      · exact ⟨uri, input, rest, sink, line, hns, hbefore, hafter, hbehind⟩
  · obtain ⟨e', shown, hkind, hshown, hread⟩ := read_early uri input (not_exists.1 hreaches)
    rw [hread] at h
    cases h
    obtain ⟨hmodel, hholdings, hlog⟩ := hshown.untouched
    exact ⟨hmodel, hholdings, fun _ => hlog, fun h => absurd h hget,
      fun other => .inl (Host.moduleFor_of_modules hshown.modules_eq other),
      fun _ h => absurd h hkind⟩

/-- **A failed action leaves the state intact.** In any state of any host, also after the session has
been closed: if executing an element that is a single action fails, then the variables and the
entries are as they were, and so are the log and what the modules keep, but for what a failure of
the last step leaves of them, or of reading itself. -/
theorem Host.failed_action_spares (host : Host) (s : HostState) (el : Element)
    (hel : host.Does s el) (e : ActionError) (t : HostState)
    (hfails : (host.execute el).run.runFrom s = (.error e, t)) : host.Spares el e s t := by
  cases hclosed : s.closed with
  | true =>
    obtain ⟨e', hload, hexecute⟩ := executeWith_of_closed host host.onBehalf hclosed el
    rw [execute, hexecute] at hfails
    cases hfails
    exact .refl host s fun hkind => by cases hkind.symm.trans hload
  | false =>
    cases hel with
    | @entry uri store hns hmod haction =>
      rcases haction with hget | hset
      · obtain ⟨u, serial, hprepares, hl, hexecute⟩ :=
          executeWith_of_moduleFor host.onBehalf hclosed hns hmod (Module.react_get _ _ hget store)
        rw [execute, hexecute] at hfails
        exact .of_prepares hprepares
          (Env.getEntry_spares hns hget ((hprepares.moduleFor uri).trans hmod) hfails)
      · obtain ⟨u, serial, hprepares, hl, hexecute⟩ :=
          executeWith_of_moduleFor host.onBehalf hclosed hns hmod (Module.react_set _ _ hset store)
        rw [execute, hexecute] at hfails
        obtain rfl := Env.setEntry_unchanged hfails
        refine .of_prepares hprepares (.refl host t fun _ => ?_)
        rw [hset]
        decide
    | @line uri input sink hns hmod hread =>
      obtain ⟨u, serial, hprepares, hl, hexecute⟩ :=
        executeWith_of_moduleFor host.onBehalf hclosed hns hmod
          (Module.react_read _ _ hread input sink)
      rw [execute, hexecute] at hfails
      exact .of_prepares hprepares (Stdin.read_spares hns hread hl hfails)
    | default haction hplain =>
      obtain ⟨u, hprepares, hexecute⟩ :=
        executeWith_default host.onBehalf hclosed haction hplain
      rw [execute, hexecute, byDefault] at hfails
      obtain rfl : t = u := by
        rcases haction with hassign | hlog
        · rw [if_pos hassign] at hfails
          exact assignElement_unchanged hfails
        · rw [if_neg (by rw [hlog]; decide), if_pos hlog] at hfails
          exact logElement_unchanged hfails
      refine .of_prepares hprepares (.refl host t fun _ => ?_)
      rcases haction with hassign | hlog
      · rw [hassign]
        decide
      · rw [hlog]
        decide

/-- An element that gets an entry, with a default, to where it cannot go. -/
def Element.misplacing : Element :=
  ⟨"env:get", some envUri, [("name", "HOME"), ("location", "1"), ("default", "/")], []⟩

/-- A host for it. -/
def Host.misplaced : Host := .ofDocument (.standard ⟨[], none⟩ .working) ⟨.misplacing, none⟩

/-- The default is in the log, and nowhere else. -/
theorem Host.failed_action_spares_misplaced :
    misplaced.Does (.fresh (some .empty) default) .misplacing ∧
      ∃ e t, (misplaced.execute .misplacing).run.runFrom (.fresh (some .empty) default) =
          (.error e, t) ∧
        t.log = #[⟨"env", "HOME is not set, using default '/'"⟩] ∧
        misplaced.Spares .misplacing e (.fresh (some .empty) default) t := by
  have hreg : misplaced.registry = .ofBuiltIn .environment ⟨[], none⟩ .working := rfl
  have hbuiltIn : (HostState.fresh (some .empty) default).AllBuiltIn .environment .working := by
    intro uri l hl
    cases hl
  have hdoes : misplaced.Does (.fresh (some .empty) default) .misplacing :=
    does_of_builtIn hreg hbuiltIn (.inl ⟨rfl, .inl rfl⟩)
  exact ⟨hdoes, _, _, rfl, rfl, failed_action_spares misplaced _ .misplacing hdoes _ _ rfl⟩

end MarkupActions
