import Mathlib.Data.List.Perm.Basic
import MarkupActions.Proofs.Host.Computation
import MarkupActions.Proofs.Xml.Attributes

/-!
# MarkupActions.Proofs.Aliases

**The aliases of an element are a view of its attributes.** Setting an attribute replaces its value in
place, so no name is listed twice, and a name has the last value that was set under it
(`Element.attribute?_setAll`). The aliases are gathered from the list of attributes, where a later
entry would win; since there is none, an alias is what the attribute of its name is
(`Element.find?_aliases`).

So only the order of settings of one name counts, and all that a module of `agent` does with the
element is the same for any other order, the lines that it logs among it.
-/

namespace MarkupActions

namespace Element

variable {el : Element} {name other value : String}

/-! ### Attributes that are set -/

/-- An attribute has the value that it was set to. -/
theorem attribute?_setAttribute_self (el : Element) (name value : String) :
    (el.setAttribute name value).attribute? name = some value := by
  rw [attribute?, setAttribute]
  induction el.attributes with
  | nil => simp [setIn]
  | cons entry rest ih =>
    rw [setIn]
    split
    · next hname => simp [hname]
    · next hname =>
      rw [List.find?_cons_of_neg (by simp [hname])]
      exact ih

theorem attribute?_setAttribute_of_ne (h : other ≠ name) (el : Element) (value : String) :
    (el.setAttribute name value).attribute? other = el.attribute? other := by
  rw [attribute?, attribute?, setAttribute]
  induction el.attributes with
  | nil => simp [setIn, h.symm]
  | cons entry rest ih =>
    rw [setIn]
    split
    · next hname =>
      have hother : entry.1 ≠ other := fun heq => h (heq.symm.trans hname)
      rw [List.find?_cons_of_neg (by simpa using hother),
        List.find?_cons_of_neg (by simpa using hother)]
    · next hname =>
      by_cases hother : entry.1 = other
      · rw [List.find?_cons_of_pos (by simp [hother]), List.find?_cons_of_pos (by simp [hother])]
      · rw [List.find?_cons_of_neg (by simpa using hother),
          List.find?_cons_of_neg (by simpa using hother)]
        exact ih

theorem mem_of_attribute? (h : el.attribute? name = some value) : (name, value) ∈ el.attributes := by
  obtain ⟨entry, hfind, rfl⟩ := Option.map_eq_some_iff.mp h
  have hname : entry.1 = name := by simpa using List.find?_some hfind
  rw [← hname]
  exact List.mem_of_find?_eq_some hfind

/-- The names that an element has attributes under are those with a value. -/
theorem mem_names_iff (el : Element) (name : String) :
    name ∈ el.attributes.map Prod.fst ↔ (el.attribute? name).isSome = true := by
  rw [attribute?, Option.isSome_map, List.find?_isSome, List.mem_map]
  simp

/-! ### Several settings -/

/-- Set attributes, one after the other. -/
def setAll (el : Element) (settings : List (String × String)) : Element :=
  settings.foldl (fun el setting => el.setAttribute setting.1 setting.2) el

/-- The settings of one name, in their order. -/
def settingsOf (name : String) (settings : List (String × String)) : List (String × String) :=
  settings.filter fun setting => setting.1 = name

/-- The last value that is set under a name. -/
def lastSet? (name : String) (settings : List (String × String)) : Option String :=
  (settingsOf name settings).getLast?.map Prod.snd

/-- The same settings, in an order that may differ between settings of different names. -/
def Reordered (settings others : List (String × String)) : Prop :=
  ∀ name, settingsOf name others = settingsOf name settings

variable {settings others : List (String × String)}

theorem setAll_cons (el : Element) (setting : String × String) (settings : List (String × String)) :
    el.setAll (setting :: settings) = (el.setAttribute setting.1 setting.2).setAll settings := rfl

/-- Setting attributes changes the attributes alone. -/
theorem setAll_spec (el : Element) (settings : List (String × String)) :
    (el.setAll settings).attributes = setAllIn el.attributes settings ∧
      (el.setAll settings).tag = el.tag ∧ (el.setAll settings).children = el.children := by
  induction settings generalizing el with
  | nil => exact ⟨rfl, rfl, rfl⟩
  | cons setting rest ih =>
    rw [setAll_cons]
    exact ih _

theorem lastSet?_cons (name : String) (setting : String × String)
    (settings : List (String × String)) : lastSet? name (setting :: settings) =
      (lastSet? name settings).or (if setting.1 = name then some setting.2 else none) := by
  rw [lastSet?, lastSet?, settingsOf, settingsOf, List.filter_cons]
  split
  · next hname =>
    rw [if_pos (by simpa using hname), List.getLast?_cons]
    cases (settings.filter fun setting => setting.1 = name).getLast? <;> rfl
  · next hname => rw [if_neg (by simpa using hname), Option.or_none]

/-- A name has the last value that is set under it, or else the value that it had. -/
theorem attribute?_setAll (el : Element) (settings : List (String × String)) (name : String) :
    (el.setAll settings).attribute? name = (lastSet? name settings).or (el.attribute? name) := by
  induction settings generalizing el with
  | nil => rfl
  | cons setting rest ih =>
    rw [setAll_cons, ih, lastSet?_cons, Option.or_assoc]
    congr 1
    split
    · next hname =>
      rw [← hname, attribute?_setAttribute_self, Option.some_or]
    · next hname =>
      rw [attribute?_setAttribute_of_ne (Ne.symm hname), Option.none_or]

/-- Settings in another order that keeps those of each name apart end in the same values. -/
theorem Reordered.lastSet?_eq (h : Reordered settings others) (name : String) :
    lastSet? name others = lastSet? name settings := by
  rw [lastSet?, lastSet?, h name]

/-- Settings of different names may be put into any order. -/
theorem Reordered.of_perm (h : others.Perm settings) (hnames : (settings.map Prod.fst).Nodup) :
    Reordered settings others := by
  intro name
  have hperm : (settingsOf name others).Perm (settingsOf name settings) := h.filter _
  have hone : (settingsOf name settings).length ≤ 1 := by
    have hcount := List.nodup_iff_count_le_one.mp hnames name
    rwa [List.count, List.countP_map, List.countP_eq_length_filter] at hcount
  match hsettings : settingsOf name settings, hone with
  | [], _ =>
    rw [hsettings] at hperm
    exact hperm.eq_nil
  | [setting], _ =>
    rw [hsettings] at hperm
    exact List.perm_singleton.mp hperm

/-! ### Aliases -/

/-- An attribute declares an alias if it is a good prefix behind `use:`. -/
theorem aliasOf?_eq_some_iff {written p : String} :
    aliasOf? written = some p ↔ written = "use:" ++ p ∧ isAliasPrefix p = true := by
  have hmark : ∀ q : String, ("use:" ++ q).toList = aliasMark ++ q.toList := fun q =>
    String.toList_append
  rw [aliasOf?]
  constructor
  · intro h
    split at h
    · next hprefix =>
      obtain ⟨rest, hrest⟩ := List.isPrefixOf_iff_prefix.mp hprefix
      rw [← hrest, List.drop_left] at h
      dsimp only at h
      split at h
      · next hvalid =>
        cases h
        refine ⟨?_, hvalid⟩
        rw [← String.toList_inj, hmark, String.toList_ofList, hrest]
      · cases h
    · cases h
  · rintro ⟨rfl, hvalid⟩
    rw [hmark, if_pos (List.isPrefixOf_iff_prefix.mpr (List.prefix_append _ _)), List.drop_left,
      String.ofList_toList]
    exact if_pos hvalid

theorem mem_aliasPairs {p uri : String} :
    (p, uri) ∈ el.attributes.filterMap (fun a => (aliasOf? a.1).map fun name => (name, a.2)) ↔
      ("use:" ++ p, uri) ∈ el.attributes ∧ isAliasPrefix p = true := by
  simp only [List.mem_filterMap, Option.map_eq_some_iff, Prod.mk.injEq, aliasOf?_eq_some_iff]
  constructor
  · rintro ⟨⟨written, value⟩, hmem, name, ⟨rfl, hvalid⟩, rfl, rfl⟩
    exact ⟨hmem, hvalid⟩
  · rintro ⟨hmem, hvalid⟩
    exact ⟨_, hmem, p, ⟨rfl, hvalid⟩, rfl, rfl⟩

/-- Where no name is listed twice, a prefix stands for the value of its attribute. -/
theorem find?_aliases (h : (el.attributes.map Prod.fst).Nodup) (p : String) :
    el.aliases.find? p = if isAliasPrefix p = true then el.attribute? ("use:" ++ p) else none := by
  rw [aliases, Dict.ofList]
  rcases Dict.find?_insertAll .empty _ p with ⟨uri, hmem, hfind⟩ | ⟨hnone, hfind⟩
  · obtain ⟨hattribute, hvalid⟩ := mem_aliasPairs.mp hmem
    rw [hfind, if_pos hvalid, attribute?_of_mem h hattribute]
  · rw [hfind, Dict.find?_empty]
    split
    · next hvalid =>
      rw [eq_comm, Option.eq_none_iff_forall_ne_some]
      intro uri hattribute
      exact hnone uri (mem_aliasPairs.mpr ⟨mem_of_attribute? hattribute, hvalid⟩)
    · rfl

end Element

/-! ### What a module does with the element -/

namespace Agent

variable {el other : Element}

/-- The line that an alias is logged with. -/
def aliasLine (entry : String × String) : LogRecord :=
  ⟨"agent", "Namespace " ++ entry.1 ++ ": " ++ entry.2⟩

/-- Each alias is one line of the log. -/
theorem runFrom_logAliases (entries : List (String × String)) (s : HostState) :
    (logAliases entries).runFrom s = ((), { s with log := s.log ++ entries.map aliasLine }) := by
  induction entries generalizing s with
  | nil => simp [logAliases]
  | cons entry rest ih =>
    rw [logAliases, HostM.runFrom_bind, HostM.runFrom_log, ih]
    simp [HostState.addLog, aliasLine]

theorem scan_eq (uri : String) (el : Element) : scan uri el = (do
    scanOne uri el
    scanAll uri el.children) := by
  cases el
  rw [scan]

/-- What is done with an element depends on its attributes by their values alone. -/
theorem react_congr (htag : other.tag = el.tag) (hchildren : other.children = el.children)
    (hattribute : ∀ name, other.attribute? name = el.attribute? name)
    (haliases : other.aliases = el.aliases) (uri : String) :
    react uri (some other) = react uri (some el) := by
  have hvalue : ∀ name, other.attributeD name = el.attributeD name := by
    intro name
    rw [Element.attributeD, Element.attributeD, hattribute]
  have hlocal : other.localName = el.localName := by rw [Element.localName, Element.localName, htag]
  have htransition : isTransition other = isTransition el := by
    rw [isTransition, isTransition, hlocal]
  have hscan : scan uri other = scan uri el := by
    rw [scan_eq, scan_eq, hchildren]
    simp only [scanOne, htransition, hvalue]
  have hfailure : childFailure other = childFailure el := by
    funext child e
    rw [childFailure, childFailure, hvalue]
  simp only [react, Element.action, hlocal, announce, hvalue, haliases, hscan, hfailure,
    noteTransition]

end Agent

/-- **Aliases are a view of the attributes.** Whatever is set on an element, one attribute after the
other: a prefix has an alias just if it may be one and there is the attribute of its name, and it
stands for the value of that, which is the last that was set. The aliases are listed and logged in the
order of their prefixes. They are the same, and so is all that a module does with the element, in
every order that keeps the settings of each name in theirs; if no name is set twice, that is every
order. -/
theorem Element.aliases_view (tag : String) (ns : Option String) (children : List Element)
    (settings : List (String × String)) :
    let el := (⟨tag, ns, [], children⟩ : Element).setAll settings
    (∀ p, el.aliases.contains p = true ↔
      isAliasPrefix p = true ∧ "use:" ++ p ∈ el.attributes.map Prod.fst) ∧
    (∀ p, isAliasPrefix p = true → el.aliases.find? p = el.attribute? ("use:" ++ p)) ∧
    (∀ name, el.attribute? name = lastSet? name settings) ∧
    (el.aliases.keys.Pairwise (· < ·) ∧ ∀ s, (Agent.logAliases el.aliases.entries).runFrom s =
      ((), { s with log := s.log ++ el.aliases.entries.map Agent.aliasLine })) ∧
    ∀ others, Reordered settings others ∨ others.Perm settings ∧ (settings.map Prod.fst).Nodup →
      let reordered := (⟨tag, ns, [], children⟩ : Element).setAll others
      reordered.aliases = el.aliases ∧
        ∀ uri, Agent.react uri (some reordered) = Agent.react uri (some el) := by
  intro el
  have hnames : ∀ settings,
      (((⟨tag, ns, [], children⟩ : Element).setAll settings).attributes.map Prod.fst).Nodup := by
    intro settings
    rw [(setAll_spec _ settings).1]
    exact nodup_setAllIn List.nodup_nil
  have hvalue : ∀ settings name,
      ((⟨tag, ns, [], children⟩ : Element).setAll settings).attribute? name =
        lastSet? name settings := by
    intro settings name
    rw [attribute?_setAll]
    exact Option.or_none
  refine ⟨fun p => ?contains, fun p hp => ?found, hvalue settings,
    ⟨el.aliases.keys_ascending, Agent.runFrom_logAliases _⟩, fun others h => ?reordered⟩
  case contains =>
    rw [Dict.contains, find?_aliases (hnames settings), mem_names_iff]
    split
    · next hp => exact (and_iff_right hp).symm
    · next hp => exact iff_of_false (by simp) fun h => hp h.1
  case found =>
    rw [find?_aliases (hnames settings), if_pos hp]
  case reordered =>
    have hsame : Reordered settings others := h.elim id fun h => .of_perm h.1 h.2
    have hattribute : ∀ name,
        ((⟨tag, ns, [], children⟩ : Element).setAll others).attribute? name = el.attribute? name := by
      intro name
      rw [hvalue, hvalue, hsame.lastSet?_eq]
    have haliases : ((⟨tag, ns, [], children⟩ : Element).setAll others).aliases = el.aliases := by
      refine Dict.eq_of_find? fun p => ?_
      rw [find?_aliases (hnames others), find?_aliases (hnames settings), hattribute]
    obtain ⟨-, htag, hchildren⟩ := setAll_spec ⟨tag, ns, [], children⟩ settings
    obtain ⟨-, htag', hchildren'⟩ := setAll_spec ⟨tag, ns, [], children⟩ others
    exact ⟨haliases, Agent.react_congr (htag'.trans htag.symm) (hchildren'.trans hchildren.symm)
      hattribute haliases⟩

end MarkupActions
