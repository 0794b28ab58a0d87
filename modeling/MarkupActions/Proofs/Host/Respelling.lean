import MarkupActions.Proofs.Host.Failure
import MarkupActions.Proofs.Host.Following
import MarkupActions.Proofs.Host.Wrapping
import MarkupActions.Proofs.Text.Lowercase

/-!
# MarkupActions.Proofs.Host.Respelling

**How names are written plays no part.** Prefixes are for the reader: an element goes where its
namespace says, and is told by its name without prefix, in letters of any case. So two documents that
differ in nothing but prefixes and case (`Element.Respells`) do the same to a session of built-in
modules, down to the journal, and fail alike (`Host.run_respelled`).

The name as written does get into a failure, for diagnosis, and there it stays: no action reads what
a failure says, and agents pass it on (`ActionError.Alike`).
-/

namespace MarkupActions

/-! ### Documents in another spelling -/

/-- Two trees of one shape, whose elements have the same namespaces, the same attributes, and the same
names without prefix up to the case of letters. -/
inductive Element.Respells : Element → Element → Prop where
  | of {tag tag' : String} (namespaceUri : Option String) (attributes : List (String × String))
      {children children' : List Element}
      (name : Text.eqIgnoringAsciiCase (localPart tag) (localPart tag') = true)
      (below : List.Forall₂ Respells children children') :
      Respells ⟨tag, namespaceUri, attributes, children⟩ ⟨tag', namespaceUri, attributes, children'⟩

namespace Element.Respells

variable {el el' : Element} (h : el.Respells el')
include h

theorem namespaceUri_eq : el.namespaceUri = el'.namespaceUri := by
  cases h
  rfl

theorem attributes_eq : el.attributes = el'.attributes := by
  cases h
  rfl

theorem children : List.Forall₂ Respells el.children el'.children := by
  cases h with
  | of _ _ _ below => exact below

theorem attribute?_eq (name : String) : el.attribute? name = el'.attribute? name := by
  rw [attribute?, attribute?, h.attributes_eq]

theorem attributeD_eq (name : String) : el.attributeD name = el'.attributeD name := by
  rw [attributeD, attributeD, h.attribute?_eq]

/-- Any name is the same as both or as neither. -/
theorem eqIgnoringAsciiCase_eq (name : String) :
    Text.eqIgnoringAsciiCase el.localName name = Text.eqIgnoringAsciiCase el'.localName name := by
  cases h with
  | of _ _ hname _ => rw [Text.eqIgnoringAsciiCase, localName, beq_iff_eq.1 hname]; rfl

/-- Respelled elements are met under the same names, as long as these are in lower case. -/
theorem action_iff {name : String} (hname : Text.isPlainName name = true) :
    el.action = name ↔ el'.action = name := by
  rw [action, action, Text.lowercase_eq_iff _ hname, Text.lowercase_eq_iff _ hname,
    h.eqIgnoringAsciiCase_eq]

end Element.Respells

mutual

/-- The namespaces of two spellings are the same, in document order. -/
theorem Element.Respells.namespaces_eq : ∀ {el el' : Element}, el.Respells el' →
    el.preorder.filterMap (·.namespaceUri) = el'.preorder.filterMap (·.namespaceUri)
  | ⟨tag, ns, attributes, children⟩, el', h => by
      cases h with
      | of _ _ _ below =>
        rw [preorder, preorder, List.filterMap_cons, List.filterMap_cons, namespacesAll_eq below]

theorem Element.Respells.namespacesAll_eq : ∀ {els els' : List Element},
    List.Forall₂ Respells els els' →
    (preorderAll els).filterMap (·.namespaceUri) = (preorderAll els').filterMap (·.namespaceUri)
  | [], els', h => by
      cases h
      rfl
  | c :: rest, els', h => by
      obtain ⟨c', rest', hc, hrest, rfl⟩ := List.forall₂_cons_left_iff.1 h
      rw [preorderAll, preorderAll, List.filterMap_append, List.filterMap_append,
        namespaces_eq hc, namespacesAll_eq hrest]

end

/-- What is used depends on namespaces alone. -/
theorem Host.usedUris_eq {host host' : Host} (hreg : host.registry = host'.registry)
    (h : host.document.root.Respells host'.document.root) : host.usedUris = host'.usedUris := by
  rw [usedUris, usedUris, Element.descendants_eq, Element.descendants_eq, h.namespaces_eq, hreg]

/-! ### Failures in another spelling -/

namespace ActionError

/-- Two failures that differ at most in which elements they name for diagnosis. -/
structure Alike (e e' : ActionError) : Prop where
  kind : e.kind = e'.kind
  event : e.event = e'.event
  message : e.message = e'.message
  causes : e.causes.map Cause.message = e'.causes.map Cause.message
  data : ∀ key, key ≠ "element" → key ≠ "child" → e.data.find? key = e'.data.find? key

namespace Alike

variable {e e' cause cause' : ActionError}

theorem refl (e : ActionError) : e.Alike e := ⟨rfl, rfl, rfl, rfl, fun _ _ _ => rfl⟩

/-- Failures of two elements that read the same. -/
theorem of (kind : ErrorKind) (element element' message : String) :
    (ActionError.of kind element message).Alike (.of kind element' message) := by
  refine ⟨rfl, rfl, rfl, rfl, fun key helement _ => ?_⟩
  rw [ActionError.of, ActionError.of, Dict.find?_insert_of_ne _ helement,
    Dict.find?_insert_of_ne _ helement]

theorem withData (h : e.Alike e') (key : String) (value : Value) :
    (e.withData key value).Alike (e'.withData key value) := by
  refine ⟨h.kind, h.event, h.message, h.causes, fun other helement hchild => ?_⟩
  simp only [ActionError.withData, Dict.find?_insert, h.data other helement hchild]

/-- Failures may name different children. -/
theorem withChild (h : e.Alike e') (value value' : Value) :
    (e.withData "child" value).Alike (e'.withData "child" value') := by
  refine ⟨h.kind, h.event, h.message, h.causes, fun key helement hchild => ?_⟩
  rw [ActionError.withData, ActionError.withData, Dict.find?_insert_of_ne _ hchild,
    Dict.find?_insert_of_ne _ hchild, h.data key helement hchild]

theorem becauseText (h : e.Alike e') (text : String) :
    (e.becauseText text).Alike (e'.becauseText text) :=
  ⟨h.kind, h.event, h.message, rfl, h.data⟩

theorem because (h : e.Alike e') (hcause : cause.Alike cause') :
    (e.because cause).Alike (e'.because cause') := by
  refine ⟨h.kind, h.event, h.message, ?_, h.data⟩
  simp only [ActionError.because, List.map_cons, Cause.message, hcause.message, hcause.causes]

end Alike

end ActionError

variable {α : Type}

/-- Results that are the same, or failures that are alike. -/
abbrev AlikeResults : Except ActionError α → Except ActionError α → Prop :=
  Results ActionError.Alike (· = ·)

/-! ### Requests in another spelling -/

namespace Resolver

variable (el el' : Element) (model : Option DataModel) (action : String)

/-- Respelled elements find a data model, or both fail for the lack of it. -/
theorem evaluatorOrFail_alike : AlikeResults (el.resolver model action).evaluatorOrFail
    (el'.resolver model action).evaluatorOrFail := by
  cases model with
  | none => exact .error ((ActionError.Alike.of ..).becauseText _)
  | some m => exact .ok rfl

theorem evaluate_alike (attr expression : String) :
    AlikeResults ((el.resolver model action).evaluate attr expression : Except ActionError Value)
      ((el'.resolver model action).evaluate attr expression : Except ActionError Value) := by
  cases model with
  | none => exact .error ((ActionError.Alike.of ..).becauseText _)
  | some m =>
    simp only [evaluate, Element.resolver, Option.map_some, pure, bind]
    cases m.evaluator expression with
    | ok v => exact .ok rfl
    | error reason => exact .error (((ActionError.Alike.of ..).withData ..).becauseText _)

theorem absent_alike (p : Parameter) :
    AlikeResults ((el.resolver model action).absent p) ((el'.resolver model action).absent p) := by
  unfold absent
  split
  · exact .error ((ActionError.Alike.of ..).becauseText _)
  · exact .ok rfl

variable {el el' : Element} (h : el.Respells el') (p : Parameter)
include h

/-- Respelled elements have the same literals. -/
theorem literal?_respelled (name : String) (trims : Bool) :
    (el.resolver model action).literal? name trims =
      (el'.resolver model action).literal? name trims := by
  simp only [literal?, Element.resolver, h.attribute?_eq]

/-- The parameters of respelled elements come to the same, or fail alike. -/
theorem text?_alike : AlikeResults ((el.resolver model action).text? p)
    ((el'.resolver model action).text? p) := by
  have hliteral : (el.resolver model action).literalOf? p =
      (el'.resolver model action).literalOf? p := by
    simp only [literalOf?, literal?_respelled model action h]
  have hexpression : (el.resolver model action).expressionOf? p =
      (el'.resolver model action).expressionOf? p := by
    simp only [expressionOf?, literal?_respelled model action h]
  rw [text?, text?, resolve, resolve, hliteral, hexpression]
  cases (el'.resolver model action).literalOf? p with
  | some literal =>
    cases (el'.resolver model action).expressionOf? p with
    | none => exact .ok rfl
    | some expression =>
      dsimp only
      split
      · exact .error ((((ActionError.Alike.of ..).withData ..).withData ..).becauseText _)
      · exact .ok rfl
  | none =>
    cases (el'.resolver model action).expressionOf? p with
    | none => exact absent_alike el el' model action p
    | some expression =>
      obtain ⟨name, text⟩ := expression
      have hvalue := evaluate_alike el el' model action name text
      simp only [pure, bind]
      generalize (el.resolver model action).evaluate name text = x at hvalue ⊢
      generalize (el'.resolver model action).evaluate name text = y at hvalue ⊢
      cases hvalue with
      | error he => exact .error he
      | @ok v _ hv =>
        subst hv
        dsimp only
        split
        · exact .ok rfl
        · exact absent_alike el el' model action p

theorem textD_alike : AlikeResults ((el.resolver model action).textD p)
    ((el'.resolver model action).textD p) :=
  (text?_alike model action h p).map fun _ _ hsame => congrArg (·.getD "") hsame

theorem exprValue?_alike : AlikeResults (el.resolver model action).exprValue?
    (el'.resolver model action).exprValue? := by
  rw [exprValue?, exprValue?, literal?_respelled model action h]
  split
  · exact .ok rfl
  · exact (evaluate_alike el el' model action _ _).map fun _ _ hsame => congrArg some hsame

end Resolver

section

variable {el el' : Element} (h : el.Respells el') (model : Option DataModel)
include h

/-- Respelled elements ask for the same. -/
theorem Env.getRequest_alike : AlikeResults (getRequest el model) (getRequest el' model) := by
  refine (Resolver.evaluatorOrFail_alike el el' model "env:get").bind ?_
  intro _ _ _
  refine (Resolver.textD_alike model "env:get" h nameParameter).bind ?_
  rintro name _ rfl
  refine Results.bind ((Resolver.textD_alike model "env:get" h locationParameter).mapError
    fun _ _ he => he.withData ..) ?_
  rintro location _ rfl
  exact (Resolver.text?_alike model "env:get" h defaultParameter).bind
    fun _ _ hsame => .ok (congrArg _ hsame)

theorem Env.setRequest_alike : AlikeResults (setRequest el model) (setRequest el' model) := by
  refine (Resolver.evaluatorOrFail_alike el el' model "env:set").bind ?_
  intro _ _ _
  refine (Resolver.textD_alike model "env:set" h nameParameter).bind ?_
  rintro name _ rfl
  exact Results.bind ((Resolver.textD_alike model "env:set" h valueParameter).mapError
    fun _ _ he => he.withData ..) fun _ _ hsame => .ok (congrArg _ hsame)

theorem Stdin.request_alike : AlikeResults (request el model) (request el' model) := by
  refine (Resolver.evaluatorOrFail_alike el el' model "stdin:read").bind ?_
  intro _ _ _
  refine (Resolver.textD_alike model "stdin:read" h locationParameter).bind ?_
  rintro location _ rfl
  exact (Resolver.text?_alike model "stdin:read" h promptParameter).bind
    fun _ _ hsame => .ok (congrArg _ hsame)

theorem assignRequest_alike : AlikeResults (assignRequest el model) (assignRequest el' model) := by
  refine (Resolver.textD_alike model "assign" h assignLocation).bind ?_
  rintro location _ rfl
  refine (Resolver.exprValue?_alike model "assign" h).bind ?_
  rintro value _ rfl
  exact (Resolver.evaluatorOrFail_alike el el' model "assign").bind fun _ _ _ => .ok rfl

theorem logRequest_alike : AlikeResults (logRequest el model) (logRequest el' model) := by
  refine (Resolver.textD_alike model "log" h logLabel).bind ?_
  rintro label _ rfl
  refine (Resolver.exprValue?_alike model "log" h).bind ?_
  rintro value _ rfl
  exact .ok rfl

end

/-! ### Actions in another spelling -/

/-- From every state the computations leave the same state, and their results are alike. -/
abbrev ActionM.SameAs (x y : ActionM α) : Prop := x.run.Follows (· = ·) AlikeResults y.run

theorem ActionM.SameAs.refl (x : ActionM α) : x.SameAs x := by
  rintro s _ rfl
  exact ⟨.refl .refl _, rfl⟩

/-- What a request reads is the same for both, and so is what is done with what it resolves to. -/
theorem ActionM.SameAs.request {β : Type} {f g : HostState → Except ActionError β}
    (h : ∀ s, AlikeResults (f s) (g s)) (next : HostState → β → ActionM α) :
    ActionM.SameAs (do let s ← getThe HostState; let q ← .ofExcept (f s); next s q)
      (do let s ← getThe HostState; let q ← .ofExcept (g s); next s q) := by
  rintro s _ rfl
  rw [HostM.runFrom_getThe_bind, HostM.runFrom_getThe_bind, HostM.runFrom_run_bind,
    HostM.runFrom_run_bind, ActionM.runFrom_ofExcept, ActionM.runFrom_ofExcept]
  have hrequest := h s
  generalize f s = x at hrequest ⊢
  generalize g s = y at hrequest ⊢
  cases hrequest with
  | error he => exact ⟨.error he, rfl⟩
  | ok hq =>
    subst hq
    exact SameAs.refl _ s s rfl

mutual

/-- The same schemas are noted. -/
theorem Agent.scan_respelled (uri : String) : ∀ {el el' : Element}, el.Respells el' →
    scan uri el = scan uri el'
  | ⟨tag, ns, attributes, children⟩, el', h => by
      have htransition : isTransition ⟨tag, ns, attributes, children⟩ = isTransition el' :=
        h.eqIgnoringAsciiCase_eq "transition"
      have hown : scanOne uri ⟨tag, ns, attributes, children⟩ = scanOne uri el' := by
        simp only [scanOne, htransition, h.attributeD_eq]
      cases h with
      | of _ _ _ below => rw [scan, scan, hown, scanAll_respelled uri below]

theorem Agent.scanAll_respelled (uri : String) : ∀ {els els' : List Element},
    List.Forall₂ Element.Respells els els' → scanAll uri els = scanAll uri els'
  | [], els', h => by
      cases h
      rfl
  | c :: rest, els', h => by
      obtain ⟨c', rest', hc, hrest, rfl⟩ := List.forall₂_cons_left_iff.1 h
      rw [scanAll, scanAll, scan_respelled uri hc, scanAll_respelled uri hrest]

end

section

variable {el el' : Element} (h : el.Respells el')
include h

/-- A respelled document root is announced in the same words. -/
theorem Agent.announce_respelled (uri : String) : announce uri el = announce uri el' := by
  simp only [announce, Element.aliases, h.attributeD_eq, h.attributes_eq, scan_respelled uri h]

theorem Agent.noteTransition_respelled (uri : String) :
    noteTransition uri el = noteTransition uri el' := by
  simp only [noteTransition, h.attributeD_eq]

/-- A failure that is passed on reads the same but for the tags in it. -/
theorem Agent.childFailure_alike (c c' : Element) {e e' : ActionError} (he : e.Alike e') :
    (childFailure el c e).Alike (childFailure el' c' e') := by
  rw [childFailure, childFailure, he.message, h.attributeD_eq]
  exact (((ActionError.Alike.of ..).withChild _ _).withData _ _).because he

/-- A module of `agent` has respelled children executed, or declines both elements. -/
theorem Agent.react_respelled (uri : String) :
    (react uri (some el)).Follows (· = ·) (Reaction.Related Element.Respells ActionError.Alike)
      (react uri (some el')) := by
  rintro s _ rfl
  rw [runFrom_react, runFrom_react]
  simp only [h.action_iff (show Text.isPlainName "agent" = true from rfl),
    h.action_iff (show Text.isPlainName "transition" = true from rfl)]
  split
  · rw [announce_respelled h]
    exact ⟨.children fun c c' _ _ _ he => childFailure_alike h c c' he, rfl⟩
  · split
    · rw [noteTransition_respelled h]
      exact ⟨.declined, rfl⟩
    · exact ⟨.declined, rfl⟩

/-- Respelled actions do the same. -/
theorem Env.getEntry_respelled (store : Store) : (getEntry store el).SameAs (getEntry store el') :=
  .request (fun s => getRequest_alike h s.dataModel) _

theorem Env.setEntry_respelled (uri : String) (store : Store) :
    (setEntry uri store el).SameAs (setEntry uri store el') :=
  .request (fun s => setRequest_alike h s.dataModel) _

theorem Stdin.read_respelled (uri : String) (input : InputStream) (sink : PromptSink) :
    (read uri input sink el).SameAs (read uri input sink el') :=
  .request (fun s => request_alike h s.dataModel) _

/-- A built-in module does the same with both. -/
theorem Module.react_respelled {mod : Module} (hplain : mod.isScripted = false)
    (reenter reenter' : Reenter) (uri : String) :
    (mod.react reenter uri (some el)).Follows (· = ·)
      (Reaction.Related Element.Respells ActionError.Alike) (mod.react reenter' uri (some el')) := by
  have haction : ∀ {x y : ActionM Unit}, x.SameAs y → (Reaction.ofAction x).Follows (· = ·)
      (Reaction.Related Element.Respells ActionError.Alike) (Reaction.ofAction y) := by
    intro x y hxy s t hst
    obtain ⟨hanswer, hleft⟩ := hxy s t hst
    exact ⟨.handled hanswer, hleft⟩
  cases mod with
  | agent schemas => exact Agent.react_respelled h uri
  | env store =>
    rw [react_env, react_env, Env.react, Env.react]
    simp only [h.action_iff (show Text.isPlainName "get" = true from rfl),
      h.action_iff (show Text.isPlainName "set" = true from rfl)]
    split
    · exact haction (Env.getEntry_respelled h store)
    · split
      · exact haction (Env.setEntry_respelled h uri store)
      · exact .pure .declined
  | stdin input sink =>
    rw [react_stdin, react_stdin, Stdin.react, Stdin.react]
    simp only [h.action_iff (show Text.isPlainName "read" = true from rfl)]
    split
    · exact haction (Stdin.read_respelled h uri input sink)
    · exact .pure .declined
  | scripted => cases hplain

theorem assignElement_respelled : (assignElement el).SameAs (assignElement el') :=
  .request (fun s => assignRequest_alike h s.dataModel) _

theorem logElement_respelled : (logElement el).SameAs (logElement el') :=
  .request (fun s => logRequest_alike h s.dataModel) _

end

/-! ### Hosts for two spellings -/

namespace Host

variable {host host' : Host} {store : Store} {input : InputStream} {sink : PromptSink}
  {reenter reenter' : Reenter} {s : HostState} {uri : String}
  (hreg : host.registry = .ofBuiltIn store input sink)
  (hreg' : host'.registry = .ofBuiltIn store input sink)
include hreg hreg'

/-- Loading a built-in vocabulary does not depend on the document. -/
theorem module?_respelled (reenter reenter' : Reenter) (uri : String) (s : HostState) :
    (host.module? reenter uri).run.runFrom s = (host'.module? reenter' uri).run.runFrom s := by
  cases hclosed : s.closed with
  | true => rw [module?_of_closed hclosed, module?_of_closed hclosed]
  | false =>
    cases hfind : s.modules.find? uri with
    | some l => rw [module?_of_find? hclosed hfind, module?_of_find? hclosed hfind]
    | none =>
      cases hget : host.registry.get? uri with
      | none =>
        rw [module?_of_get?_none hclosed hfind hget,
          module?_of_get?_none hclosed hfind (hreg'.trans hreg.symm ▸ hget)]
      | some v =>
        obtain ⟨mod, hmod⟩ := Registry.module?_ofBuiltIn (hreg ▸ hget)
        rw [module?_of_get? hclosed hfind hget,
          module?_of_get? hclosed hfind (hreg'.trans hreg.symm ▸ hget),
          Vocabulary.runFrom_load hmod, Vocabulary.runFrom_load hmod]

/-- Respelled documents load the same modules. -/
theorem loadAll_respelled (reenter reenter' : Reenter) (uris : List String) (s : HostState) :
    (host.loadAll reenter uris).run.runFrom s = (host'.loadAll reenter' uris).run.runFrom s := by
  induction uris generalizing s with
  | nil => rfl
  | cons uri rest ih =>
    rw [loadAll, loadAll, HostM.runFrom_run_bind, HostM.runFrom_run_bind,
      module?_respelled hreg hreg' reenter reenter']
    rcases (host'.module? reenter' uri).run.runFrom s with ⟨e | l, t⟩
    · rfl
    · exact ih t

variable {el el' : Element} (h : el.Respells el')
include h

/-- The session reacts to both alike. -/
theorem runFrom_reaction_respelled (hs : s.Plain store sink) :
    Results (fun _ _ => False) (Reaction.Related Element.Respells ActionError.Alike)
        ((host.reaction reenter el).run.runFrom s).1
        ((host'.reaction reenter' el').run.runFrom s).1 ∧
      ((host.reaction reenter el).run.runFrom s).2 =
        ((host'.reaction reenter' el').run.runFrom s).2 := by
  have hns' := h.namespaceUri_eq
  cases hns : el.namespaceUri with
  | none =>
    rw [hns] at hns'
    cases hl : s.modules.find? agentUri with
    | none =>
      rw [runFrom_reaction_unqualified hs.isOpen hs.builtIn hl hns,
        runFrom_reaction_unqualified hs.isOpen hs.builtIn hl hns'.symm]
      exact ⟨.ok .declined, rfl⟩
    | some l =>
      rw [runFrom_reaction_agent hs.isOpen hs.builtIn hl (.inr hns),
        runFrom_reaction_agent hs.isOpen hs.builtIn hl (.inr hns'.symm)]
      obtain ⟨hanswer, hleft⟩ :=
        Agent.react_respelled h agentUri (s.note (.handled agentUri l.serial)) _ rfl
      dsimp only
      exact ⟨.ok hanswer, hleft⟩
  | some uri =>
    rw [hns] at hns'
    rw [reaction, reaction, hns, ← hns']
    dsimp only
    cases hget : host.registry.get? uri with
    | none =>
      have hnone := hs.builtIn.find?_of_get?_none hreg hget
      rw [runFrom_route_of_get?_none hs.isOpen hnone hget,
        runFrom_route_of_get?_none hs.isOpen hnone (hreg'.trans hreg.symm ▸ hget)]
      exact ⟨.ok .declined, rfl⟩
    | some v =>
      obtain ⟨mod, hmod⟩ := Registry.module?_ofBuiltIn (hreg ▸ hget)
      obtain ⟨l, t, hmodule, hloads, hl⟩ := exists_module? reenter hs.isOpen hget hmod
      have hplain := (hs.builtIn.of_loads hreg hloads uri l hl).isScripted_eq
      rw [runFrom_route_of_module? hmodule,
        runFrom_route_of_module? (module?_respelled hreg hreg' reenter reenter' uri s ▸ hmodule),
        runFrom_ask, runFrom_ask]
      obtain ⟨hanswer, hleft⟩ := Module.react_respelled h hplain reenter reenter' uri
        (t.note (.handled uri l.serial)) _ rfl
      generalize (l.mod.react reenter uri (some el)).runFrom (t.note (.handled uri l.serial)) = x
        at hanswer hleft ⊢
      generalize (l.mod.react reenter' uri (some el')).runFrom (t.note (.handled uri l.serial)) = y
        at hanswer hleft ⊢
      obtain ⟨a, u⟩ := x
      obtain ⟨b, u'⟩ := y
      cases hanswer with
      | declined => exact ⟨.ok .declined, hleft⟩
      | handled hresult => exact ⟨.ok (.handled hresult), hleft⟩
      | children hwrap => exact ⟨.ok (.children hwrap), hleft⟩

omit h

/-- Hosts of respelled documents go the same way. -/
theorem tracks_respelled : Tracks host host' host.onBehalf host'.onBehalf
    (HostState.PlainPair store sink (· = ·)) Element.Respells ActionError.Alike where
  children h := h.children
  assigns h := h.action_iff rfl
  logs h := h.action_iff rfl
  transitions h := h.action_iff rfl
  reaction h := by
    refine .of_runs hreg hreg' (reaction_runs onBehalf_runs _) (reaction_runs onBehalf_runs _) ?_
    rintro s _ ⟨hs, -, rfl⟩
    exact runFrom_reaction_respelled hreg hreg' h hs
  assign h := .of_runs hreg hreg' (assignElement_runs _) (assignElement_runs _)
    fun s t hst => assignElement_respelled h s t hst.related
  log h := .of_runs hreg hreg' (logElement_runs _) (logElement_runs _)
    fun s t hst => logElement_respelled h s t hst.related

/-- Respelled elements are executed to results alike, and leave one and the same state. -/
theorem execute_respelled (hs : s.Plain store sink) {el el' : Element} (h : el.Respells el') :
    AlikeResults ((host.execute el).run.runFrom s).1 ((host'.execute el').run.runFrom s).1 ∧
      ((host.execute el).run.runFrom s).2 = ((host'.execute el').run.runFrom s).2 := by
  obtain ⟨hanswer, hleft⟩ :=
    (tracks_respelled hreg hreg').executeWith_follows el el' h s s ⟨hs, hs, rfl⟩
  exact ⟨hanswer, hleft.related⟩

end Host

/-- **How names are written plays no part.** Take two documents of one shape whose elements have the
same namespaces, the same attributes, and the same names without prefix up to the case of letters.
In an open session of built-in modules, running the one and the other leaves the very same state, and
they both succeed or both fail, with failures that differ at most in which elements they name for
diagnosis. The same holds of executing any two such elements. -/
theorem Host.run_respelled (host host' : Host) (store : Store) (input : InputStream)
    (sink : PromptSink) (hreg : host.registry = .ofBuiltIn store input sink)
    (hreg' : host'.registry = .ofBuiltIn store input sink)
    (hroot : host.document.root.Respells host'.document.root) (s : HostState)
    (hopen : s.closed = false) (hbuiltIn : s.AllBuiltIn store sink) :
    ((host.run.run.runFrom s).2 = (host'.run.run.runFrom s).2 ∧
      Results (fun e e' => ∃ a a', e = .action a ∧ e' = .action a' ∧ a.Alike a') (· = ·)
        (host.run.run.runFrom s).1 (host'.run.run.runFrom s).1) ∧
    ∀ el el', el.Respells el' →
      ((host.execute el).run.runFrom s).2 = ((host'.execute el').run.runFrom s).2 ∧
        Results ActionError.Alike (· = ·)
          ((host.execute el).run.runFrom s).1 ((host'.execute el').run.runFrom s).1 := by
  constructor
  · obtain ⟨t, hpreload, hready⟩ := host.preload_ready hreg hopen hbuiltIn
    have hpreload' : (host'.preload host'.onBehalf).run.runFrom s = (.ok (), t) := by
      rw [← hpreload, preload, preload, usedUris_eq (hreg.trans hreg'.symm) hroot]
      exact (loadAll_respelled hreg hreg' _ _ _ s).symm
    obtain ⟨hanswer, hleft⟩ :=
      execute_respelled hreg hreg' ⟨hready.isOpen, hready.builtIn⟩ hroot
    rw [run, run, HostM.runFrom_run_bind, HostM.runFrom_run_bind, hpreload, hpreload']
    dsimp only
    rw [HostM.runFrom_run_adapt, HostM.runFrom_run_adapt]
    exact ⟨hleft, hanswer.mapError fun e e' h => ⟨e, e', rfl, rfl, h⟩⟩
  · intro el el' h
    exact (execute_respelled hreg hreg' ⟨hopen, hbuiltIn⟩ h).symm

/-- The document of `Host.declaring` in another spelling. -/
def Element.shoutingAgent : Element :=
  ⟨"AGENT", some agentUri, [("datamodel", "ecmascript")],
    [⟨"x:STATE", none, [], [⟨"y:Agent", none, [], [⟨"ASSIGN", none, [("expr", "1")], []⟩]⟩]⟩]⟩

/-- A host for it. -/
def Host.shouting : Host :=
  .ofDocument (.ofBuiltIn .memory ⟨[], none⟩ .working) ⟨.shoutingAgent, none⟩

theorem Element.declaringAgent_respells : declaringAgent.Respells shoutingAgent := by
  have hassign : placeless.Respells ⟨"ASSIGN", none, [("expr", "1")], []⟩ := .of _ _ rfl .nil
  have hagent : plainAgent.Respells ⟨"y:Agent", none, [], [⟨"ASSIGN", none, [("expr", "1")], []⟩]⟩ :=
    .of _ _ rfl (.cons hassign .nil)
  exact .of _ _ rfl (.cons (.of _ _ rfl (.cons hagent .nil)) .nil)

/-- Both documents fail at the assignment, and alike. -/
theorem Host.run_respelled_declaring :
    declaring.registry = .ofBuiltIn .memory ⟨[], none⟩ .working ∧
      shouting.registry = .ofBuiltIn .memory ⟨[], none⟩ .working ∧
      declaring.document.root.Respells shouting.document.root ∧
      (HostState.fresh (some .empty) default).closed = false ∧
      (HostState.fresh (some .empty) default).AllBuiltIn .memory .working ∧
      (declaring.run.run.runFrom (.fresh (some .empty) default)).2 =
        (shouting.run.run.runFrom (.fresh (some .empty) default)).2 ∧
      Results (fun e e' => ∃ a a', e = .action a ∧ e' = .action a' ∧ a.Alike a') (· = ·)
        (declaring.run.run.runFrom (.fresh (some .empty) default)).1
        (shouting.run.run.runFrom (.fresh (some .empty) default)).1 := by
  have hbuiltIn : (HostState.fresh (some .empty) default).AllBuiltIn .memory .working := nofun
  obtain ⟨⟨hstate, hresult⟩, -⟩ := run_respelled declaring shouting .memory ⟨[], none⟩ .working rfl rfl
    Element.declaringAgent_respells (.fresh (some .empty) default) rfl hbuiltIn
  exact ⟨rfl, rfl, Element.declaringAgent_respells, rfl, hbuiltIn, hstate, hresult⟩

end MarkupActions
