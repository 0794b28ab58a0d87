import MarkupActions.Vocabulary.Agent

/-!
# MarkupActions.Proofs.Host.Announcing

**What a module of `agent` does to a host.** Announcing an agent writes lines to the log and keeps
the schemas of all transitions inside it; a transition that is met has its own kept again. Nothing
else is done to the state, and which schemas are kept is told by the elements alone
(`Agent.Writes`).
-/

namespace MarkupActions

/-! ### What transitions declare -/

namespace Element

/-- The event of an element with its schema, where it has both. -/
def schemaPair (el : Element) : List (String × String) :=
  if el.attributeD Agent.schemaAttribute ≠ "" ∧ el.attributeD "event" ≠ "" then
    [(el.attributeD "event", el.attributeD Agent.schemaAttribute)]
  else []

/-- What an element declares itself. -/
def ownSchemas (el : Element) : List (String × String) :=
  if Agent.isTransition el then el.schemaPair else []

/-- What the transitions of a tree declare, in document order. -/
def declaredSchemas (el : Element) : List (String × String) := el.preorder.flatMap ownSchemas

end Element

/-! ### What is written -/

namespace Agent

/-- A computation that writes lines to the log and keeps these schemas, each with its event, in
turn. -/
inductive Writes (uri : String) : List (String × String) → HostM Unit → Prop where
  | nothing : Writes uri [] (pure ())
  | line (label message : String) : Writes uri [] (HostM.log label message)
  | schema (event schema : String) :
      Writes uri [(event, schema)] (modify (·.updateModule uri (record event schema)))
  | andThen {pairs more : List (String × String)} {x y : HostM Unit} (hx : Writes uri pairs x)
      (hy : Writes uri more y) : Writes uri (pairs ++ more) (x >>= fun _ => y)

variable (uri : String)

/-- The schemas of one element are noted in written order. -/
theorem scanOne_writes (el : Element) : Writes uri el.ownSchemas (scanOne uri el) := by
  unfold scanOne Element.ownSchemas Element.schemaPair
  dsimp only
  split
  · split
    · exact (Writes.line _ _).andThen (.schema _ _)
    · exact .nothing
  · exact .nothing

mutual

/-- The schemas of a tree are noted in document order, by induction over the tree. -/
theorem scan_writes : ∀ el : Element, Writes uri el.declaredSchemas (scan uri el)
  | ⟨_, _, _, children⟩ => by
      rw [scan, Element.declaredSchemas, Element.preorder, List.flatMap_cons]
      exact (scanOne_writes uri _).andThen (scanAll_writes children)

theorem scanAll_writes : ∀ els : List Element,
    Writes uri ((Element.preorderAll els).flatMap Element.ownSchemas) (scanAll uri els)
  | [] => by
      rw [scanAll]
      exact .nothing
  | c :: rest => by
      rw [scanAll, Element.preorderAll, List.flatMap_append]
      exact (scan_writes c).andThen (scanAll_writes rest)

end

theorem logAliases_writes (aliases : List (String × String)) :
    Writes uri [] (logAliases aliases) := by
  induction aliases with
  | nil => exact .nothing
  | cons entry rest ih => exact (Writes.line _ _).andThen ih

/-- A document root is announced: its aliases go to the log, the schemas to the log and the
table. -/
theorem announce_writes (el : Element) : Writes uri el.declaredSchemas (announce uri el) := by
  have htail : Writes uri el.declaredSchemas (do logAliases el.aliases.entries; scan uri el) :=
    (logAliases_writes uri _).andThen (scan_writes uri el)
  unfold announce
  dsimp only
  split
  · exact (Writes.line _ _).andThen htail
  · exact htail

/-- A transition with an event and a schema is noted as one pair, any other not at all. -/
theorem noteTransition_writes (el : Element) :
    Writes uri el.schemaPair (noteTransition uri el) := by
  unfold noteTransition Element.schemaPair
  dsimp only
  by_cases hschema : el.attributeD schemaAttribute ≠ ""
  · rw [if_pos hschema]
    by_cases hevent : el.attributeD "event" ≠ ""
    · rw [if_pos hevent, if_pos ⟨hschema, hevent⟩]
      exact (Writes.line _ _).andThen (.schema _ _)
    · rw [if_neg hevent, if_neg fun h => hevent h.2]
      exact (Writes.line _ _).andThen .nothing
  · rw [if_neg hschema, if_neg fun h => hschema h.1]
    exact .nothing

end Agent

end MarkupActions
