import MarkupActions.Proofs.Host.Alike
import MarkupActions.Proofs.Host.Lifecycle
import MarkupActions.Proofs.Host.Preloading
import MarkupActions.Proofs.Host.Twins

/-!
# MarkupActions.Proofs.Host.Overlooking

**Where the two ways of being outside any namespace come to the same.** An element without a namespace
is offered to the modules that accept such elements, one with the empty namespace is not. So twins are
executed alike where the modules that might be asked overlook what the twins differ in
(`HostState.Overlooks`): they accept no elements outside any namespace, or decline those in question
without doing anything. This goes for all modules a host may have, scripted ones included, for loaders
that execute elements themselves, and for sessions that have been torn down.
-/

namespace MarkupActions

variable {host : Host} {reenter : Reenter} {Kind : Element → Prop} {s t u : HostState}
  {uri : String} {α β : Type}

/-! ### More on states that are alike -/

namespace HostState.Like

theorem symm (h : s.Like t) : t.Like s :=
  ⟨h.dataModel.symm, h.log.symm, h.modules.symm, h.closed.symm, h.holdings.symm, h.effects.symm⟩

theorem trans (h : s.Like t) (h' : t.Like u) : s.Like u :=
  ⟨h.dataModel.trans h'.dataModel, h.log.trans h'.log, h.modules.trans h'.modules,
    h.closed.trans h'.closed, h.holdings.trans h'.holdings, h.effects.trans h'.effects⟩

/-- States that are alike have the same schemas. -/
theorem schemas (h : s.Like t) : s.schemas = t.schemas := by
  rw [HostState.schemas, HostState.schemas, h.modules]

/-- Loaders have been called equally often. -/
theorem calls (h : s.Like t) (uri : String) : s.calls uri = t.calls uri := by
  have hcount : ∀ s : HostState, s.calls uri =
      (s.events.filter Event.isEffect).countP (Event.isCallOf uri) := by
    intro s
    rw [HostState.calls_eq, List.countP_filter]
    congr 1
    funext e
    cases e <;> simp [Event.isCallOf, Event.isEffect]
  rw [hcount, hcount, h.effects]

theorem receive (h : s.Like t) (uri : String) (l : Loaded) :
    (s.receive uri l).Like (t.receive uri l) := by
  have hnote := h.note (.loaded uri l.serial)
  unfold HostState.receive
  dsimp only
  rw [← h.modules]
  split
  · exact hnote
  · exact ⟨hnote.dataModel, hnote.log, rfl, hnote.closed, hnote.holdings, hnote.effects⟩

end HostState.Like

/-! ### Modules that overlook elements -/

/-- A module does nothing for elements of a kind when they are offered to it. If it is scripted, its
script sees no difference between twins either. -/
def Module.Overlooks (Kind : Element → Prop) : Module → Prop
  | .agent _ => ∀ el, Kind el → el.action ≠ "agent" ∧
      (el.action = "transition" → el.attributeD Agent.schemaAttribute = "")
  | .scripted s _ =>
      (∀ memory el el', el.Twins Kind el' → s.handle memory (some el) = s.handle memory (some el')) ∧
      (s.acceptsUnqualified = true → ∀ memory el, Kind el →
        s.handle memory (some el) = .done (.ok .declined, memory))
  | _ => True

/-- All modules that are loaded, or may be loaded yet, overlook elements of a kind, and none of them
is for the empty namespace. -/
structure HostState.Overlooks (host : Host) (Kind : Element → Prop) (s : HostState) : Prop where
  registered : ∀ uri v mod, host.registry.get? uri = some v → v.Makes mod →
    uri ≠ "" ∧ mod.Overlooks Kind
  loaded : ∀ uri l, s.modules.find? uri = some l → uri ≠ "" ∧ l.mod.Overlooks Kind

/-- A module goes on overlooking what it overlooked. -/
theorem Module.Overlooks.of_alike {a b : Module} (h : a.Overlooks Kind) (halike : a.Alike b) :
    b.Overlooks Kind := by
  cases halike <;> exact h

/-- Every vocabulary makes some module. -/
theorem Vocabulary.exists_makes (v : Vocabulary) : ∃ mod, v.Makes mod := by
  cases v with
  | agent => exact ⟨_, .agent⟩
  | env store => exact ⟨_, .env store⟩
  | stdin input sink => exact ⟨_, .stdin input sink⟩
  | scripted s => exact ⟨_, .scripted s .null⟩

namespace HostState.Overlooks

theorem of_modules (h : s.Overlooks host Kind) (hsame : t.modules = s.modules) :
    t.Overlooks host Kind :=
  ⟨h.registered, fun uri l hl => h.loaded uri l (hsame ▸ hl)⟩

/-- What modules overlook does not depend on what they keep. -/
theorem of_run (h : s.Overlooks host Kind) (hrun : Run host s t) : t.Overlooks host Kind := by
  refine ⟨h.registered, ?_⟩
  exact hrun.all_modules (P := fun uri mod => uri ≠ "" ∧ mod.Overlooks Kind)
    (fun _ _ _ ha halike => ⟨ha.1, ha.2.of_alike halike⟩) h.registered h.loaded

/-- Nothing is there for the empty namespace, and nothing will be. -/
theorem empty_unknown (h : s.Overlooks host Kind) :
    s.modules.find? "" = none ∧ host.registry.get? "" = none := by
  constructor
  · refine Option.eq_none_iff_forall_ne_some.2 fun l hl => ?_
    exact (h.loaded "" l hl).1 rfl
  · refine Option.eq_none_iff_forall_ne_some.2 fun v hv => ?_
    obtain ⟨mod, hmakes⟩ := v.exists_makes
    exact (h.registered "" v mod hv hmakes).1 rfl

end HostState.Overlooks

/-! ### Two sessions on one level -/

/-- Two states that are alike, in a session that overlooks elements of a kind. -/
structure HostState.Level (host : Host) (Kind : Element → Prop) (s t : HostState) : Prop where
  like : s.Like t
  overlooks : s.Overlooks host Kind

/-- Runs leave modules that overlook the same, so that only alikeness is to be shown. -/
theorem HostM.Follows.of_like {A : α → β → Prop} {x : HostM α} {y : HostM β}
    (hx : x.Runs host fun _ => True)
    (h : ∀ s t, s.Level host Kind t →
      A (x.runFrom s).1 (y.runFrom t).1 ∧ (x.runFrom s).2.Like (y.runFrom t).2) :
    x.Follows (HostState.Level host Kind) A y := by
  intro s t hst
  obtain ⟨hanswer, hleft⟩ := h s t hst
  exact ⟨hanswer, hleft, hst.overlooks.of_run (hx s trivial)⟩

/-- A computation that is repeated on the same level answers the same. -/
abbrev HostM.Repeats (host : Host) (Kind : Element → Prop) (x : HostM α) : Prop :=
  x.Follows (HostState.Level host Kind) (· = ·) x

theorem HostM.Repeats.pure (a : α) : (Pure.pure a : HostM α).Repeats host Kind :=
  HostM.Follows.pure rfl

theorem HostM.Repeats.bind {x : HostM α} {f : α → HostM β} (hx : x.Repeats host Kind)
    (hf : ∀ a, (f a).Repeats host Kind) : (x >>= f).Repeats host Kind := by
  refine HostM.Follows.bind hx ?_
  intro a b h
  rw [h]
  exact hf b

section

variable (hr : ∀ el, (reenter el).run.Repeats host Kind)
include hr

/-- A script has nothing to tell the two by. -/
theorem Script.repeats (x : Script α) : (x.run reenter).Repeats host Kind := by
  induction x with
  | done a => exact .pure a
  | log label message next ih =>
    have hlog : (HostM.log label message).Repeats host Kind :=
      .of_like (HostM.Runs.log label message) fun s t hst => ⟨rfl, hst.like.addLog label message⟩
    exact hlog.bind fun _ => ih
  | evaluate expression next ih =>
    refine HostM.Repeats.bind (.of_like (.evaluate expression) fun s t hst => ⟨?_, hst.like⟩) ih
    simp only [HostM.evaluate, HostM.runFrom_bind, HostM.runFrom_get, HostM.runFrom_pure,
      hst.like.dataModel]
  | assign location v next ih =>
    refine HostM.Repeats.bind (.of_like (.assign location v) fun s t hst => ?_) ih
    simp only [HostM.assign, HostM.runFrom_bind, HostM.runFrom_get, hst.like.dataModel]
    cases t.dataModel with
    | none => exact ⟨rfl, hst.like⟩
    | some m => exact ⟨rfl, hst.like.setDataModel _⟩
  | execute el next ih => exact HostM.Repeats.bind (hr el) ih

/-- Loaders do the same from states that are level. -/
theorem Vocabulary.load_repeats (serial : Nat) (root : Element) (v : Vocabulary) :
    (v.load reenter serial root).run.Repeats host Kind := by
  cases v with
  | agent | env | stdin => exact .pure _
  | scripted script => exact HostM.Repeats.bind (Script.repeats hr _) fun _ => .pure _

variable (hruns : ∀ el, (reenter el).run.Runs host fun _ => True)
include hruns

/-- The session gives the same module. -/
theorem Host.module?_repeats (uri : String) :
    (host.module? reenter uri).run.Repeats host Kind := by
  refine .of_like ((Run.admits host).module? (fun el => (hruns el).leads) uri default).runs ?_
  intro s t hst
  cases hclosed : s.closed with
  | true =>
    rw [module?_of_closed hclosed, module?_of_closed (hst.like.closed ▸ hclosed)]
    exact ⟨rfl, hst.like⟩
  | false =>
    have hclosed' : t.closed = false := hst.like.closed ▸ hclosed
    cases hfind : s.modules.find? uri with
    | some l =>
      rw [module?_of_find? hclosed hfind, module?_of_find? hclosed' (hst.like.modules ▸ hfind)]
      exact ⟨rfl, hst.like⟩
    | none =>
      have hfind' : t.modules.find? uri = none := hst.like.modules ▸ hfind
      cases hget : host.registry.get? uri with
      | none =>
        rw [module?_of_get?_none hclosed hfind hget, module?_of_get?_none hclosed' hfind' hget]
        exact ⟨rfl, hst.like⟩
      | some v =>
        obtain ⟨hanswer, hleft⟩ := Vocabulary.load_repeats hr (s.calls uri + 1) host.document.root v
          (s.note (.called uri (s.calls uri + 1))) (t.note (.called uri (s.calls uri + 1)))
          ⟨hst.like.note _, hst.overlooks.of_modules rfl⟩
        rw [module?_of_get? hclosed hfind hget, module?_of_get? hclosed' hfind' hget,
          ← hst.like.calls uri]
        generalize (v.load reenter (s.calls uri + 1) host.document.root).run.runFrom
          (s.note (.called uri (s.calls uri + 1))) = x at hanswer hleft ⊢
        generalize (v.load reenter (s.calls uri + 1) host.document.root).run.runFrom
          (t.note (.called uri (s.calls uri + 1))) = y at hanswer hleft ⊢
        obtain ⟨a, s'⟩ := x
        obtain ⟨b, t'⟩ := y
        cases hanswer
        cases a with
        | error e => exact ⟨rfl, hleft.like⟩
        | ok mod =>
          have hsame : s'.modules.find? uri = t'.modules.find? uri := by rw [hleft.like.modules]
          dsimp only
          rw [hsame]
          exact ⟨rfl, hleft.like.receive uri _⟩

end

/-! ### Asking about twins -/

/-- What the session makes of an answer: the failure to give one is its own. -/
def Reaction.answer : Reaction → Except HostError Reaction
  | .failed e => .error (.action e)
  | r => .ok r

/-- Answers that are the same to the session, the children of twins being twins again. -/
abbrev Reaction.Agree (Kind : Element → Prop) : Except HostError Reaction →
    Except HostError Reaction → Prop :=
  Results (· = ·) (Related (Element.Twins Kind) (· = ·))

namespace Host

/-- An element that is routed gets the answer of its module. -/
theorem runFrom_route_eq {l : Loaded} (h : (host.module? reenter uri).run.runFrom s = (.ok (some l), t))
    (el : Element) : (host.route reenter uri el).run.runFrom s =
      (((ask reenter uri l (some el)).runFrom t).1.answer,
        ((ask reenter uri l (some el)).runFrom t).2) := by
  rw [runFrom_route_of_module? h]
  rcases (ask reenter uri l (some el)).runFrom t with ⟨_ | _ | _ | _, u⟩ <;> rfl

/-- The first module that does not decline decides. -/
theorem runFrom_offerTo_cons {l : Loaded} (h : s.modules.find? uri = some l) (el : Element)
    (rest : List String) : (offerTo reenter el (uri :: rest)).run.runFrom s =
      match ((ask reenter uri l (some el)).runFrom s).1.answer with
      | .ok .declined => (offerTo reenter el rest).run.runFrom ((ask reenter uri l (some el)).runFrom s).2
      | answer => (answer, ((ask reenter uri l (some el)).runFrom s).2) := by
  rw [offerTo, HostM.runFrom_getThe_bind, h]
  dsimp only
  rw [HostM.runFrom_run_bind, HostM.runFrom_run_liftM]
  rcases (ask reenter uri l (some el)).runFrom s with ⟨_ | _ | _ | _, u⟩ <;> rfl

end Host

section

variable {el el' : Element} (htwins : el.Twins Kind el')
include htwins

/-- Twins are the same to a module of `agent`. -/
theorem Agent.react_twins (uri : String) (h : s.Like t) :
    Reaction.Agree Kind ((react uri (some el)).runFrom s).1.answer
        ((react uri (some el')).runFrom t).1.answer ∧
      ((react uri (some el)).runFrom s).2.Like ((react uri (some el')).runFrom t).2 := by
  have hcarries := HostState.Like.carries (some uri)
  rw [runFrom_react, runFrom_react, ← htwins.action_eq, ← announce_twins htwins,
    ← noteTransition_twins htwins]
  split
  · refine ⟨.ok (.children ?_), ((announce_writes uri el).steady _ hcarries s t h).2⟩
    rintro c c' e _ hc rfl
    exact childFailure_twins htwins hc e
  · split
    · exact ⟨.ok .declined, ((noteTransition_writes uri el).steady _ hcarries s t h).2⟩
    · exact ⟨.ok .declined, h⟩

variable (hr : ∀ el, (reenter el).run.Repeats host Kind)
include hr

/-- A module that is asked about twins answers alike. -/
theorem Module.react_twins {mod : Module} (hmod : mod.Overlooks Kind) (uri : String)
    (hst : s.Level host Kind t) :
    Reaction.Agree Kind ((mod.react reenter uri (some el)).runFrom s).1.answer
        ((mod.react reenter uri (some el')).runFrom t).1.answer ∧
      ((mod.react reenter uri (some el)).runFrom s).2.Like
        ((mod.react reenter uri (some el')).runFrom t).2 := by
  have haction : ∀ {x : ActionM Unit}, x.run.Steady (some uri) →
      Reaction.Agree Kind ((Reaction.ofAction x).runFrom s).1.answer
          ((Reaction.ofAction x).runFrom t).1.answer ∧
        ((Reaction.ofAction x).runFrom s).2.Like ((Reaction.ofAction x).runFrom t).2 := by
    intro x hx
    obtain ⟨hanswer, hleft⟩ := hx _ (HostState.Like.carries (some uri)) s t hst.like
    rw [Host.runFrom_ofAction, Host.runFrom_ofAction, hanswer]
    exact ⟨.ok (.handled (.refl (fun _ => rfl) _)), hleft⟩
  cases mod with
  | agent => exact Agent.react_twins htwins uri hst.like
  | env store =>
    rw [react_env, react_env, ← Env.react_twins htwins, Env.react]
    split
    · exact haction (Env.getEntry_steady _ store el)
    · split
      · exact haction (Env.setEntry_steady _ uri store el)
      · exact ⟨.ok .declined, hst.like⟩
  | stdin input sink =>
    rw [react_stdin, react_stdin, ← Stdin.react_twins htwins, Stdin.react]
    split
    · exact haction (Stdin.read_steady uri input sink el)
    · exact ⟨.ok .declined, hst.like⟩
  | scripted script memory =>
    obtain ⟨hanswer, hleft⟩ := Script.repeats hr (script.handle memory el) s t hst
    simp only [react, HostM.runFrom_bind, HostM.runFrom_modify, ← hmod.1 memory el el' htwins]
    generalize ((script.handle memory (some el)).run reenter).runFrom s = x at hanswer hleft ⊢
    generalize ((script.handle memory (some el)).run reenter).runFrom t = y at hanswer hleft ⊢
    obtain ⟨⟨answer, next⟩, s'⟩ := x
    obtain ⟨_, t'⟩ := y
    cases hanswer
    have hremember := hleft.like.updateModule uri fun _ => .scripted script next
    cases answer with
    | error e => exact ⟨.error rfl, hremember⟩
    | ok d => cases d with
      | declined => exact ⟨.ok .declined, hremember⟩
      | handled result => exact ⟨.ok (.handled (.refl (fun _ => rfl) result)), hremember⟩

namespace Host

/-- Asked for twins, a module gives answers that agree. -/
theorem ask_twins {l : Loaded} (hl : s.modules.find? uri = some l) (hst : s.Level host Kind t) :
    Reaction.Agree Kind ((ask reenter uri l (some el)).runFrom s).1.answer
        ((ask reenter uri l (some el')).runFrom t).1.answer ∧
      ((ask reenter uri l (some el)).runFrom s).2.Like
        ((ask reenter uri l (some el')).runFrom t).2 := by
  rw [runFrom_ask, runFrom_ask]
  exact Module.react_twins htwins hr (hst.overlooks.loaded uri l hl).2 uri
    ⟨hst.like.note _, hst.overlooks.of_modules rfl⟩

variable (hruns : ∀ el, (reenter el).run.Runs host fun _ => True)
include hruns

/-- Twins that are routed to one namespace get answers that agree. -/
theorem route_twins (uri : String) : (host.route reenter uri el).run.Follows
    (HostState.Level host Kind) (Reaction.Agree Kind) (host.route reenter uri el').run := by
  have hleads := fun el => (hruns el).leads
  refine .of_like ((Run.admits host).route hleads el).runs ?_
  intro s t hst
  obtain ⟨hanswer, hleft⟩ := module?_repeats hr hruns uri s t hst
  rcases hs : (host.module? reenter uri).run.runFrom s with ⟨a, s'⟩
  rcases ht : (host.module? reenter uri).run.runFrom t with ⟨b, t'⟩
  rw [hs, ht] at hanswer hleft
  cases hanswer
  rcases a with e | _ | l
  · rw [route, route, HostM.runFrom_run_bind, HostM.runFrom_run_bind, hs, ht]
    exact ⟨.error rfl, hleft.like⟩
  · rw [route, route, HostM.runFrom_run_bind, HostM.runFrom_run_bind, hs, ht]
    exact ⟨.ok .declined, hleft.like⟩
  · obtain ⟨-, hl⟩ := (Run.admits host).find?_of_module? hleads hs
    rw [runFrom_route_eq hs, runFrom_route_eq ht]
    exact ask_twins htwins hr hl hleft

/-- Twins that are offered to modules in turn get answers that agree, by induction along the
list. -/
theorem offerTo_twins (uris : List String) (hopen : s.closed = false) (hst : s.Level host Kind t) :
    Reaction.Agree Kind ((offerTo reenter el uris).run.runFrom s).1
        ((offerTo reenter el' uris).run.runFrom t).1 ∧
      ((offerTo reenter el uris).run.runFrom s).2.Like
        ((offerTo reenter el' uris).run.runFrom t).2 := by
  induction uris generalizing s t with
  | nil => exact ⟨.ok .declined, hst.like⟩
  | cons uri rest ih =>
    cases hl : s.modules.find? uri with
    | none =>
      rw [offerTo, offerTo, HostM.runFrom_getThe_bind, HostM.runFrom_getThe_bind, hl,
        ← hst.like.modules, hl]
      exact ih hopen hst
    | some l =>
      have hrun := (Run.admits host).ask (fun el => (hruns el).leads) hopen hl (some el) default
      obtain ⟨hagree, hlike⟩ := ask_twins htwins hr hl hst
      rw [runFrom_offerTo_cons hl, runFrom_offerTo_cons (hst.like.modules ▸ hl)]
      generalize (ask reenter uri l (some el)).runFrom s = x at hrun hagree hlike ⊢
      generalize (ask reenter uri l (some el')).runFrom t = y at hagree hlike ⊢
      generalize x.1.answer = a at hagree ⊢
      generalize y.1.answer = b at hagree ⊢
      cases hagree with
      | error he => exact ⟨.error he, hlike⟩
      | ok hrelated =>
        cases hrelated with
        | declined => exact ih (hrun.closed_eq.trans hopen) ⟨hlike, hst.overlooks.of_run hrun⟩
        | handled hresult => exact ⟨.ok (.handled hresult), hlike⟩
        | children hwrap => exact ⟨.ok (.children hwrap), hlike⟩

theorem offerAround_twins : (offerAround reenter el).run.Follows (HostState.Level host Kind)
    (Reaction.Agree Kind) (offerAround reenter el').run := by
  refine .of_like ((Run.admits host).offerAround (fun el => (hruns el).leads) el).runs ?_
  intro s t hst
  cases hclosed : s.closed with
  | true =>
    rw [runFrom_offerAround_of_closed hclosed,
      runFrom_offerAround_of_closed (hst.like.closed ▸ hclosed)]
    exact ⟨.error rfl, hst.like⟩
  | false =>
    have hsame : accepting s = accepting t := by rw [accepting, accepting, hst.like.modules]
    rw [runFrom_offerAround hclosed, runFrom_offerAround (hst.like.closed ▸ hclosed), hsame]
    exact offerTo_twins htwins hr hruns (accepting t) hclosed hst

end Host

end

/-! ### Elements that are overlooked -/

section

variable {el : Element} (hel : Kind el) (hs : s.Overlooks host Kind)
include hel

/-- A module that an element is offered to, and that overlooks it, declines it and does nothing. -/
theorem Module.react_overlooked {mod : Module} {serial : Nat} (hmod : mod.Overlooks Kind)
    (haccepts : mod.acceptsUnqualified = true)
    (hl : s.modules.find? uri = some ⟨serial, mod⟩) (reenter : Reenter) :
    (mod.react reenter uri (some el)).runFrom s = (.declined, s) := by
  cases mod with
  | agent schemas =>
    obtain ⟨hagent, htransition⟩ := hmod el hel
    rw [react_agent, Agent.runFrom_react, if_neg hagent]
    split
    · next h => simp [Agent.noteTransition, htransition h]
    · rfl
  | env | stdin => cases haccepts
  | scripted script memory =>
    have hsame : s.updateModule uri (fun _ => .scripted script memory) = s := by
      have hmodules : s.modules.modify uri (fun l => { l with mod := .scripted script memory }) =
          s.modules := by
        refine Dict.eq_of_find? fun key => ?_
        by_cases hkey : key = uri
        · rw [hkey, Dict.find?_modify_self, hl, Option.map_some]
        · exact Dict.find?_modify_of_ne _ hkey _
      rw [HostState.updateModule, hmodules]
    simp only [react, HostM.runFrom_bind, HostM.runFrom_modify, hmod.2 haccepts memory el hel,
      Script.run, HostM.runFrom_pure, hsame]

namespace Host

/-- What all modules overlook is declined, and nothing comes of it. -/
theorem runFrom_offerTo_overlooked (reenter : Reenter) (uris : List String)
    (haccepts : ∀ uri ∈ uris, ∀ l, s.modules.find? uri = some l → l.mod.acceptsUnqualified = true)
    (hs : s.Overlooks host Kind) :
    ∃ t, (offerTo reenter el uris).run.runFrom s = (.ok .declined, t) ∧ t.Like s := by
  induction uris generalizing s with
  | nil => exact ⟨s, rfl, .refl s⟩
  | cons uri rest ih =>
    obtain ⟨hfirst, hrest⟩ := List.forall_mem_cons.1 haccepts
    cases hl : s.modules.find? uri with
    | none =>
      rw [offerTo, HostM.runFrom_getThe_bind, hl]
      exact ih hrest hs
    | some l =>
      obtain ⟨t, hoffer, hlike⟩ := ih (s := s.note (.handled uri l.serial)) hrest (hs.of_modules rfl)
      refine ⟨t, ?_, hlike.trans ((HostState.Like.refl s).asked uri l.serial)⟩
      rw [runFrom_offerTo_cons hl, runFrom_ask, Module.react_overlooked hel (hs.loaded uri l hl).2
        (hfirst l hl) (s := s.note (.handled uri l.serial)) hl]
      exact hoffer

include hs

/-- Outside any namespace, an element that is overlooked is declined, however it says to be there. -/
theorem runFrom_reaction_overlooked (reenter : Reenter)
    (hns : el.namespaceUri = none ∨ el.namespaceUri = some "") :
    ∃ t, (host.reaction reenter el).run.runFrom s =
      (if s.closed then .error .closed else .ok .declined, t) ∧ t.Like s := by
  cases hclosed : s.closed with
  | true => exact ⟨s, runFrom_reaction_of_closed hclosed el, .refl s⟩
  | false =>
    rcases hns with hns | hns
    · have haccepts : ∀ uri ∈ accepting s, ∀ l, s.modules.find? uri = some l →
          l.mod.acceptsUnqualified = true := by
        intro uri huri l hl
        obtain ⟨entry, hentry, rfl⟩ := List.mem_map.1 huri
        obtain ⟨hmem, haccepts⟩ := List.mem_filter.1 hentry
        cases hl.symm.trans (Entries.find?_of_mem s.modules.ascending hmem)
        exact haccepts
      obtain ⟨t, hoffer, hlike⟩ := runFrom_offerTo_overlooked hel reenter (accepting s) haccepts hs
      refine ⟨t, ?_, hlike⟩
      rw [reaction, hns]
      exact (runFrom_offerAround hclosed el).trans hoffer
    · obtain ⟨hnone, hget⟩ := hs.empty_unknown
      refine ⟨s, ?_, .refl s⟩
      rw [reaction, hns]
      exact runFrom_route_of_get?_none hclosed hnone hget el

end Host

end

/-! ### Executing twins -/

/-- Where twins differ, both are outside any namespace. -/
theorem Element.Twins.outside {el el' : Element} (h : el.Twins Kind el')
    (hne : el.namespaceUri ≠ el'.namespaceUri) :
    (el.namespaceUri = none ∨ el.namespaceUri = some "") ∧
      (el'.namespaceUri = none ∨ el'.namespaceUri = some "") := by
  have hplace := h.place_eq
  cases hns : el.namespaceUri with
  | none =>
    cases hns' : el'.namespaceUri with
    | none => exact absurd (hns.trans hns'.symm) hne
    | some uri =>
      rw [hns, hns'] at hplace
      exact ⟨.inl rfl, .inr (congrArg some hplace.symm)⟩
  | some uri =>
    cases hns' : el'.namespaceUri with
    | none =>
      rw [hns, hns'] at hplace
      exact ⟨.inr (congrArg some hplace), .inl rfl⟩
    | some uri' =>
      rw [hns, hns'] at hplace
      exact absurd (hns.trans ((congrArg some hplace).trans hns'.symm)) hne

namespace Host

variable (hr : ∀ el, (reenter el).run.Repeats host Kind)
  (hruns : ∀ el, (reenter el).run.Runs host fun _ => True)
include hr hruns

/-- What a session makes of twins agrees, whichever way each of them goes. -/
theorem reaction_twins {el el' : Element} (htwins : el.Twins Kind el') :
    (host.reaction reenter el).run.Follows (HostState.Level host Kind) (Reaction.Agree Kind)
      (host.reaction reenter el').run := by
  by_cases hsame : el.namespaceUri = el'.namespaceUri
  · unfold reaction
    rw [← hsame]
    split
    · exact route_twins htwins hr hruns _
    · exact offerAround_twins htwins hr hruns
  · -- What they differ in is overlooked, in the one place as in the other.
    obtain ⟨hel, hel'⟩ := htwins.kind hsame
    obtain ⟨hns, hns'⟩ := htwins.outside hsame
    refine .of_like (reaction_runs hruns el) ?_
    intro s t hst
    have ht : t.Overlooks host Kind := hst.overlooks.of_modules hst.like.modules.symm
    obtain ⟨u, hs, hlike⟩ := runFrom_reaction_overlooked hel hst.overlooks reenter hns
    obtain ⟨u', ht, hlike'⟩ := runFrom_reaction_overlooked hel' ht reenter hns'
    rw [hs, ht, hst.like.closed]
    refine ⟨?_, hlike.trans (hst.like.trans hlike'.symm)⟩
    cases t.closed with
    | true => exact .error rfl
    | false => exact .ok .declined

/-- Twins are executed alike where everything overlooks what they differ in. -/
theorem equates_overlooked :
    Equates host reenter Kind (HostState.Level host Kind) (· = ·) (· = ·) where
  reaction htwins s t hst := by
    obtain ⟨hagree, hleft⟩ := reaction_twins hr hruns htwins s t hst
    exact ⟨hagree.imp fun _ _ => .related, hleft⟩
  raised he _ _ _ := by rw [he]
  assign el := by
    refine .of_like (assignElement_runs el) ?_
    intro s t hst
    exact (assignElement_steady none el).follows (HostState.Like.carries none) (fun _ => rfl) s t hst.like
  log el := by
    refine .of_like (logElement_runs el) ?_
    intro s t hst
    exact (logElement_steady none el).follows (HostState.Like.carries none) (fun _ => rfl) s t hst.like

omit hr hruns

/-- What is executed for modules is repeated as well, to whatever depth they ask for it. -/
theorem executeAt_repeats (depth : Nat) (el : Element) :
    (host.executeAt depth el).run.Repeats host Kind := by
  induction depth generalizing el with
  | zero => exact HostM.Repeats.pure _
  | succ depth ih =>
    intro s t hst
    have hequates := equates_overlooked ih fun el => ((Run.admits host).executeAt depth el).runs
    obtain ⟨hresult, hleft⟩ := hequates.executeWith_twins el el (.refl el) s t hst
    exact ⟨hresult.eq_of_eq, hleft⟩

/-- Twins that differ in what is overlooked are executed alike. -/
theorem execute_overlooked {el el' : Element} (htwins : el.Twins Kind el')
    (hs : s.Overlooks host Kind) :
    ((host.execute el).run.runFrom s).1 = ((host.execute el').run.runFrom s).1 ∧
      ((host.execute el).run.runFrom s).2.Like ((host.execute el').run.runFrom s).2 := by
  have hrepeats : ∀ el, (host.onBehalf el).run.Repeats host Kind := executeAt_repeats host.nesting
  have hequates := equates_overlooked hrepeats onBehalf_runs
  obtain ⟨hresult, hleft⟩ := hequates.executeWith_twins el el' htwins s s ⟨.refl s, hs⟩
  exact ⟨hresult.eq_of_eq, hleft.like⟩

end Host

end MarkupActions
