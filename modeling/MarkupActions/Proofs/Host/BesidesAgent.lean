import MarkupActions.Proofs.Host.Overlooking

/-!
# MarkupActions.Proofs.Host.BesidesAgent

**What `agent` writes, nobody reads.** All that a module of `agent` does is to write lines to the log
and to keep schemas. No other action looks at either, and whether `agent` has the children of an element
executed or leaves them to default processing is the same but for how a failure reads. So two executions
of which `agent` sees different things succeed or fail together, and leave states that differ in what
`agent` has written and in nothing else (`HostState.BesidesAgent`).

This is put to use for twins: those without a namespace are offered to `agent`, those with the empty one
are not.
-/

namespace MarkupActions

variable {host : Host} {store : Store} {input : InputStream} {sink : PromptSink} {reenter : Reenter}
  {Kind : Element → Prop} {s t u : HostState} {uri : String} {el el' : Element}

/-! ### States that differ in what `agent` has written -/

/-- The log without the lines that carry the label of `agent`. -/
def HostState.otherLines (s : HostState) : List LogRecord :=
  s.log.toList.filter fun line => line.label ≠ "agent"

/-- Two states that differ at most in what `agent` has logged and kept, and in which modules have been
loaded and asked. -/
structure HostState.BesidesAgent (host : Host) (s t : HostState) : Prop where
  dataModel : s.dataModel = t.dataModel
  holdings : s.holdings = t.holdings
  otherLines : s.otherLines = t.otherLines
  moduleFor : ∀ uri, uri ≠ agentUri → host.moduleFor s uri = host.moduleFor t uri
  outward : s.events.filter Event.isOutward = t.events.filter Event.isOutward

/-- A line of `agent` is not among the others. -/
theorem HostState.otherLines_addLog (s : HostState) (label message : String) :
    (s.addLog label message).otherLines =
      s.otherLines ++ if label = "agent" then [] else [⟨label, message⟩] := by
  rw [otherLines, addLog, Array.toList_push, List.filter_append, otherLines]
  by_cases h : label = "agent" <;> simp [h]

namespace HostState.BesidesAgent

theorem refl (host : Host) (s : HostState) : s.BesidesAgent host s :=
  ⟨rfl, rfl, rfl, fun _ _ => rfl, rfl⟩

theorem symm (h : s.BesidesAgent host t) : t.BesidesAgent host s :=
  ⟨h.dataModel.symm, h.holdings.symm, h.otherLines.symm, fun uri hne => (h.moduleFor uri hne).symm,
    h.outward.symm⟩

theorem trans (h : s.BesidesAgent host t) (h' : t.BesidesAgent host u) : s.BesidesAgent host u :=
  ⟨h.dataModel.trans h'.dataModel, h.holdings.trans h'.holdings, h.otherLines.trans h'.otherLines,
    fun uri hne => (h.moduleFor uri hne).trans (h'.moduleFor uri hne), h.outward.trans h'.outward⟩

/-- What loading changes is allowed for. -/
theorem of_upToLoading (h : s.UpToLoading host t) : s.BesidesAgent host t :=
  ⟨h.dataModel, h.holdings, by rw [HostState.otherLines, h.log, HostState.otherLines],
    fun uri _ => h.moduleFor uri, h.outward⟩

theorem of_prepares (h : s.Prepares host t) : s.BesidesAgent host t :=
  (of_upToLoading (.of_prepares h)).symm

theorem prompts (h : s.BesidesAgent host t) : s.prompts = t.prompts := by
  rw [prompts_eq_outward, prompts_eq_outward, h.outward]

/-- States that differ in what `agent` has written agree in all that other actions read. -/
theorem carries (host : Host) : Carries none (BesidesAgent host) where
  dataModel h := h.dataModel
  holdings h := h.holdings
  addLog h label message := ⟨h.dataModel, h.holdings,
    by rw [otherLines_addLog, otherLines_addLog, h.otherLines], h.moduleFor, h.outward⟩
  note h e := by
    refine ⟨h.dataModel, h.holdings, h.otherLines, h.moduleFor, ?_⟩
    rw [events_note, events_note, List.filter_append, List.filter_append, h.outward]
  updateModule := nofun
  setDataModel h _ := ⟨rfl, h.holdings, h.otherLines, h.moduleFor, h.outward⟩
  setHoldings h _ := ⟨h.dataModel, rfl, h.otherLines, h.moduleFor, h.outward⟩

/-- A module that both have, other than that of `agent`, is the same, and stays so. -/
theorem updateModule (h : s.BesidesAgent host t) (hne : uri ≠ agentUri) {l m : Loaded}
    (hl : s.modules.find? uri = some l) (hm : t.modules.find? uri = some m) (f : Module → Module) :
    (s.updateModule uri f).BesidesAgent host (t.updateModule uri f) := by
  have hsame : l.mod = m.mod := by
    have hmod := h.moduleFor uri hne
    rw [Host.moduleFor, Host.moduleFor, hl, hm] at hmod
    exact Option.some.inj hmod
  refine ⟨h.dataModel, h.holdings, h.otherLines, fun other hother => ?_, h.outward⟩
  rw [Host.moduleFor_updateModule hl, Host.moduleFor_updateModule hm, hsame, h.moduleFor other hother]

/-- Where a module other than that of `agent` is at work, states that differ in what `agent` has
written go on differing in that alone. -/
theorem carries_loaded (host : Host) (hne : uri ≠ agentUri) :
    Carries (some uri) fun s t => s.BesidesAgent host t ∧ (∃ l, s.modules.find? uri = some l) ∧
      ∃ l, t.modules.find? uri = some l where
  dataModel h := h.1.dataModel
  holdings h := h.1.holdings
  addLog h label message := ⟨(carries host).addLog h.1 label message, h.2⟩
  note h e := ⟨(carries host).note h.1 e, h.2⟩
  updateModule := by
    rintro s t ⟨h, ⟨l, hl⟩, m, hm⟩ _ ⟨⟩ f
    refine ⟨h.updateModule hne hl hm f, ⟨{ l with mod := f l.mod }, ?_⟩, { m with mod := f m.mod }, ?_⟩
    · rw [find?_updateModule_self, hl, Option.map_some]
    · rw [find?_updateModule_self, hm, Option.map_some]
  setDataModel h m := ⟨(carries host).setDataModel h.1 m, h.2⟩
  setHoldings h holdings := ⟨(carries host).setHoldings h.1 holdings, h.2⟩

end HostState.BesidesAgent

/-! ### What `agent` writes -/

/-- A computation that does nothing but what `agent` does. -/
abbrev HostM.Aside {α : Type} (host : Host) (x : HostM α) : Prop := x.Leads (HostState.BesidesAgent host)

namespace HostM.Aside

variable {α β : Type}

theorem pure (a : α) : (Pure.pure a : HostM α).Aside host := HostState.BesidesAgent.refl host

theorem bind {x : HostM α} {f : α → HostM β} (hx : x.Aside host) (hf : ∀ a, (f a).Aside host) :
    (x >>= f).Aside host := fun s => (hx s).trans (hf _ _)

/-- What `agent` writes to the log does not count. -/
theorem log (message : String) : (HostM.log "agent" message).Aside host := by
  intro s
  refine ⟨rfl, rfl, ?_, fun _ _ => rfl, rfl⟩
  rw [runFrom_log, HostState.otherLines_addLog, if_pos rfl, List.append_nil]

/-- What the module of `agent` keeps does not count. -/
theorem keep (f : Module → Module) : (modify (·.updateModule agentUri f) : HostM PUnit).Aside host := by
  intro s
  refine ⟨rfl, rfl, rfl, fun uri hne => ?_, rfl⟩
  rw [runFrom_modify, Host.moduleFor, Host.moduleFor, HostState.find?_updateModule_of_ne _ _ _ hne]

end HostM.Aside

namespace Agent

theorem scanOne_aside (el : Element) : (scanOne agentUri el).Aside host := by
  unfold scanOne
  dsimp only
  split
  · split
    · exact (HostM.Aside.log _).bind fun _ => .keep _
    · exact .pure ()
  · exact .pure ()

mutual

/-- Looking through a document for schemas leaves everything else alone, by induction over the
tree. -/
theorem scan_aside : ∀ el : Element, (scan agentUri el).Aside host
  | ⟨_, _, _, children⟩ => by
      rw [scan]
      exact (scanOne_aside _).bind fun _ => scanAll_aside children

theorem scanAll_aside : ∀ els : List Element, (scanAll agentUri els).Aside host
  | [] => by
      rw [scanAll]
      exact .pure ()
  | c :: rest => by
      rw [scanAll]
      exact (scan_aside c).bind fun _ => scanAll_aside rest

end

theorem logAliases_aside (aliases : List (String × String)) : (logAliases aliases).Aside host := by
  induction aliases with
  | nil => exact .pure ()
  | cons entry rest ih => exact (HostM.Aside.log _).bind fun _ => ih

/-- Announcing a document root leaves everything else alone. -/
theorem announce_aside (el : Element) : (announce agentUri el).Aside host := by
  have htail : (do logAliases el.aliases.entries; scan agentUri el).Aside host :=
    (logAliases_aside _).bind fun _ => scan_aside el
  unfold announce
  dsimp only
  split
  · exact (HostM.Aside.log _).bind fun _ => htail
  · exact htail

theorem noteTransition_aside (el : Element) : (noteTransition agentUri el).Aside host := by
  unfold noteTransition
  dsimp only
  split
  · refine (HostM.Aside.log _).bind fun _ => ?_
    split
    · exact .keep _
    · exact .pure ()
  · exact .pure ()

/-- Whatever `agent` is asked about, it does nothing but its own, and asks for the children of elements
of its name. -/
theorem react_aside (el : Element) (s : HostState) :
    s.BesidesAgent host ((react agentUri (some el)).runFrom s).2 ∧
      (((react agentUri (some el)).runFrom s).1 = .declined ∨
        el.action = "agent" ∧ ∃ wrap, ((react agentUri (some el)).runFrom s).1 = .children wrap) := by
  rw [runFrom_react]
  split
  · next hagent => exact ⟨announce_aside el s, .inr ⟨hagent, _, rfl⟩⟩
  · split
    · exact ⟨noteTransition_aside el s, .inl rfl⟩
    · exact ⟨.refl host s, .inl rfl⟩

end Agent

/-! ### Executing twins -/

namespace Host

section

variable (hreg : host.registry = .ofBuiltIn store input sink) (reenter : Reenter)
include hreg

/-- An element that neither `env` nor `stdin` is asked about is declined, or announced by `agent`. -/
theorem runFrom_reaction_aside (hs : s.Plain store sink) (henv : el.namespaceUri ≠ some envUri)
    (hstdin : el.namespaceUri ≠ some stdinUri) :
    ∃ r t, (host.reaction reenter el).run.runFrom s = (.ok r, t) ∧ s.BesidesAgent host t ∧
      (r = .declined ∨ el.action = "agent" ∧ ∃ wrap, r = .children wrap) := by
  have hagent : ∀ t, s.Prepares host t → (host.reaction reenter el).run.runFrom s =
      (.ok ((Agent.react agentUri (some el)).runFrom t).1,
        ((Agent.react agentUri (some el)).runFrom t).2) →
      ∃ r t, (host.reaction reenter el).run.runFrom s = (.ok r, t) ∧ s.BesidesAgent host t ∧
        (r = .declined ∨ el.action = "agent" ∧ ∃ wrap, r = .children wrap) := by
    intro t hprepares hreaction
    obtain ⟨haside, hanswer⟩ := @Agent.react_aside host el t
    exact ⟨_, _, hreaction, (HostState.BesidesAgent.of_prepares hprepares).trans haside, hanswer⟩
  cases hns : el.namespaceUri with
  | none =>
    cases hl : s.modules.find? agentUri with
    | none =>
      refine ⟨.declined, s, ?_, .refl host s, .inl rfl⟩
      exact runFrom_reaction_unqualified hs.isOpen hs.builtIn hl hns
    | some l =>
      refine hagent _ (.asked host s agentUri l.serial) ?_
      exact runFrom_reaction_agent hs.isOpen hs.builtIn hl (.inr hns)
  | some uri =>
    rw [hns] at henv hstdin
    by_cases huri : uri = agentUri
    · subst huri
      obtain ⟨mod, hmod, hbuiltIn⟩ := hs.builtIn.moduleFor hreg (.inl rfl)
      obtain ⟨schemas, rfl⟩ := hbuiltIn.eq_agent
      obtain ⟨t, serial, hprepares, -, -, hroute⟩ :=
        runFrom_route_of_moduleFor reenter hs.isOpen hmod el
      refine hagent t hprepares ?_
      rw [Module.react_agent] at hroute
      rw [reaction, hns]
      dsimp only
      rw [hroute]
      have hanswer := Agent.react_children_or_declined agentUri el t
      generalize (Agent.react agentUri (some el)).runFrom t = x at hanswer ⊢
      obtain ⟨r, u⟩ := x
      rcases hanswer with ⟨wrap, rfl⟩ | rfl <;> rfl
    · exact ⟨.declined, s, runFrom_reaction_unregistered hreg hs.isOpen hs.builtIn hns huri
        (fun h => henv (congrArg some h)) (fun h => hstdin (congrArg some h)), .refl host s, .inl rfl⟩

/-- An element that `env` or `stdin` is asked about is dealt with in the same way, whatever `agent` has
written. -/
theorem runFrom_reaction_besides (hs : s.Plain store sink) (ht : t.Plain store sink)
    (hst : s.BesidesAgent host t) (htwins : el.Twins Kind el') (hns : el.namespaceUri = some uri)
    (huri : uri = envUri ∨ uri = stdinUri) :
    ∃ r s' t', (host.reaction reenter el).run.runFrom s = (.ok r, s') ∧
      (host.reaction reenter el').run.runFrom t = (.ok r, t') ∧ (∀ e, r ≠ .failed e) ∧
      s'.BesidesAgent host t' := by
  have hne : uri ≠ agentUri := by
    rcases huri with rfl | rfl <;> decide
  have hnamed : uri ≠ "" := by
    rcases huri with rfl | rfl <;> decide
  obtain ⟨mod, hmod, hbuiltIn⟩ := hs.builtIn.moduleFor hreg (.inr huri)
  have hplain := hbuiltIn.isScripted_eq
  have hsame : mod.react reenter uri (some el) = mod.react reenter uri (some el') := by
    rcases huri with rfl | rfl
    · rw [hbuiltIn.eq_env]
      exact Env.react_twins htwins envUri store
    · obtain ⟨left, rfl⟩ := hbuiltIn.eq_stdin
      exact Stdin.react_twins htwins stdinUri left sink
  obtain ⟨s', serial, hprepares, -, hl, hroute⟩ :=
    runFrom_route_of_moduleFor reenter hs.isOpen hmod el
  obtain ⟨t', serial', hprepares', -, hl', hroute'⟩ :=
    runFrom_route_of_moduleFor reenter ht.isOpen (hst.moduleFor uri hne ▸ hmod) el'
  have hwork : s'.BesidesAgent host t' := (HostState.BesidesAgent.of_prepares hprepares).symm.trans
    (hst.trans (.of_prepares hprepares'))
  obtain ⟨hanswer, hleft⟩ := Module.react_steady hplain reenter uri (some el) _
    (HostState.BesidesAgent.carries_loaded host hne) s' t' ⟨hwork, ⟨_, hl⟩, _, hl'⟩
  have hnot := Module.react_ne_failed hplain reenter uri el s'
  rw [reaction, reaction, hns, (htwins.namespaceUri_iff hnamed).1 hns]
  dsimp only
  rw [hroute, hroute', ← hsame]
  generalize (mod.react reenter uri (some el)).runFrom s' = x at hanswer hleft hnot ⊢
  generalize (mod.react reenter uri (some el)).runFrom t' = y at hanswer hleft ⊢
  obtain ⟨r, u⟩ := x
  obtain ⟨_, u'⟩ := y
  cases hanswer
  cases r with
  | failed e => exact absurd rfl (hnot e)
  | declined | handled | children => exact ⟨_, u, u', rfl, rfl, hnot, hleft.1⟩

/-- Twins are dealt with alike but for what `agent` writes. -/
theorem reaction_besides (htwins : el.Twins Kind el') (hs : s.Plain store sink)
    (ht : t.Plain store sink) (hst : s.BesidesAgent host t) :
    Results (fun _ _ => True) (Reaction.Meets Kind (fun _ _ => True) el)
        ((host.reaction reenter el).run.runFrom s).1 ((host.reaction reenter el').run.runFrom t).1 ∧
      ((host.reaction reenter el).run.runFrom s).2.BesidesAgent host
        ((host.reaction reenter el').run.runFrom t).2 := by
  by_cases hasked : ∃ uri, el.namespaceUri = some uri ∧ (uri = envUri ∨ uri = stdinUri)
  · obtain ⟨uri, hns, huri⟩ := hasked
    obtain ⟨r, s', t', hs', ht', hnot, hleft⟩ :=
      runFrom_reaction_besides hreg reenter hs ht hst htwins hns huri
    rw [hs', ht']
    exact ⟨.ok (.related (.of_ne_failed (fun _ => trivial) (fun _ _ _ _ _ _ _ => trivial) hnot)), hleft⟩
  · have henv : el.namespaceUri ≠ some envUri := fun h => hasked ⟨_, h, .inl rfl⟩
    have hstdin : el.namespaceUri ≠ some stdinUri := fun h => hasked ⟨_, h, .inr rfl⟩
    obtain ⟨r, s', hs', haside, hanswer⟩ := runFrom_reaction_aside hreg reenter hs henv hstdin
    obtain ⟨r', t', ht', haside', hanswer'⟩ := runFrom_reaction_aside hreg reenter ht
      (mt (htwins.namespaceUri_iff (by decide)).2 henv)
      (mt (htwins.namespaceUri_iff (by decide)).2 hstdin)
    rw [hs', ht']
    refine ⟨.ok ?_, haside.symm.trans (hst.trans haside')⟩
    rcases hanswer with rfl | ⟨hagent, wrap, rfl⟩
    · rcases hanswer' with rfl | ⟨hagent', wrap', rfl⟩
      · exact .related .declined
      · exact .announcedSecond (htwins.action_eq.trans hagent') fun _ _ _ _ => trivial
    · rcases hanswer' with rfl | ⟨-, wrap', rfl⟩
      · exact .announcedFirst hagent fun _ _ _ _ => trivial
      · exact .related (.children fun _ _ _ _ _ _ => trivial)

omit reenter in
/-- Of twins, what is executed differs at most in what `agent` writes. -/
theorem equates_besides : Equates host host.onBehalf Kind
    (HostState.PlainPair store sink (HostState.BesidesAgent host)) (fun _ _ => True)
    (fun _ _ => True) where
  reaction {el el'} htwins :=
    .of_runs hreg hreg (reaction_runs onBehalf_runs el) (reaction_runs onBehalf_runs el')
      fun s t hst => reaction_besides hreg host.onBehalf htwins hst.left hst.right hst.related
  raised _ _ _ _ := trivial
  assign el := by
    refine .of_runs hreg hreg (assignElement_runs el) (assignElement_runs el) ?_
    intro s t hst
    exact (assignElement_steady none el).follows (HostState.BesidesAgent.carries host) (fun _ => trivial)
      s t hst.related
  log el := by
    refine .of_runs hreg hreg (logElement_runs el) (logElement_runs el) ?_
    intro s t hst
    exact (logElement_steady none el).follows (HostState.BesidesAgent.carries host) (fun _ => trivial)
      s t hst.related

end

/-- Twins succeed or fail together, and differ at most in what `agent` has written. -/
theorem execute_besides (hreg : host.registry = .ofBuiltIn store input sink) (hs : s.Plain store sink)
    (htwins : el.Twins Kind el') :
    ((host.execute el).run.runFrom s).1.isOk = ((host.execute el').run.runFrom s).1.isOk ∧
      ((host.execute el).run.runFrom s).2.BesidesAgent host ((host.execute el').run.runFrom s).2 := by
  obtain ⟨hresult, hleft⟩ := (equates_besides hreg).executeWith_twins el el' htwins s s
    ⟨hs, hs, .refl host s⟩
  refine ⟨?_, hleft.related⟩
  rw [execute, execute]
  generalize ((host.executeWith host.onBehalf el).run.runFrom s).1 = x at hresult ⊢
  generalize ((host.executeWith host.onBehalf el').run.runFrom s).1 = y at hresult ⊢
  cases hresult <;> rfl

end Host

end MarkupActions
