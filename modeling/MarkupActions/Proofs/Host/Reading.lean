import MarkupActions.Proofs.Host.Execution
import MarkupActions.Proofs.Lines
import MarkupActions.Proofs.Requests

/-!
# MarkupActions.Proofs.Host.Reading

**No input is lost, and none is read twice.** The input of a module is a cursor into its bytes: what
has been consumed so far are the first lines, and what is left is the rest of them (`Cursor`).
Whatever else is executed, the cursor stays or moves on by whole lines; a `read` that fails before
it takes its line leaves the cursor where it is, and any other takes exactly the next line and
offers its value to the data model.
-/

namespace MarkupActions.Stdin

open InputStream (lineAt after readLine_after)

/-- The lines that were consumed from the input of a namespace, in order. -/
def taken (uri : String) (events : List Event) : List (List UInt8) :=
  events.filterMap fun
    | .consumed u line => if u = uri then some line else none
    | _ => none

@[simp] theorem taken_append (uri : String) (a b : List Event) :
    taken uri (a ++ b) = taken uri a ++ taken uri b := List.filterMap_append

/-- An open session in which the module of a namespace has read some lines of its input. What had
been consumed for the namespace before the module was there is left aside. -/
structure Cursor (uri : String) (serial : Nat) (sink : PromptSink) (bytes : List UInt8)
    (before : List (List UInt8)) (k : Nat) (s : HostState) : Prop where
  isOpen : s.closed = false
  /-- The input is at what is left behind these lines. -/
  input : s.modules.find? uri = some ⟨serial, .stdin ⟨after bytes k, none⟩ sink⟩
  /-- These lines were consumed, each once and in order. -/
  taken : taken uri s.events = before ++ (List.range k).map (lineAt bytes)

variable {host : Host} {uri : String} {serial : Nat} {sink : PromptSink} {bytes : List UInt8}
  {before : List (List UInt8)} {k : Nat} {s t : HostState}

namespace Cursor

/-- A module that has just been loaded has read nothing. -/
theorem start (hopen : s.closed = false)
    (h : s.modules.find? uri = some ⟨serial, .stdin ⟨bytes, none⟩ sink⟩) :
    Cursor uri serial sink bytes (Stdin.taken uri s.events) 0 s :=
  ⟨hopen, by rw [InputStream.after_zero, h], by simp⟩

/-- The cursor stands where it stood, as long as neither module nor record changes. -/
theorem of_same (hs : Cursor uri serial sink bytes before k s) (hclosed : t.closed = s.closed)
    (hmodule : t.modules.find? uri = s.modules.find? uri)
    (htaken : Stdin.taken uri t.events = Stdin.taken uri s.events) :
    Cursor uri serial sink bytes before k t :=
  ⟨hclosed.trans hs.isOpen, hmodule.trans hs.input, htaken.trans hs.taken⟩

theorem note (hs : Cursor uri serial sink bytes before k s) {e : Event}
    (he : Stdin.taken uri [e] = []) : Cursor uri serial sink bytes before k (s.note e) :=
  hs.of_same rfl rfl (by simp [he])

/-- What another module keeps does not matter. -/
theorem updateModule (hs : Cursor uri serial sink bytes before k s) {other : String}
    (hne : uri ≠ other) (f : Module → Module) :
    Cursor uri serial sink bytes before k (s.updateModule other f) :=
  hs.of_same rfl (HostState.find?_updateModule_of_ne _ _ _ hne) rfl

/-- Loading another module does not move it. -/
theorem receive (hs : Cursor uri serial sink bytes before k s) (other : String) (l : Loaded) :
    Cursor uri serial sink bytes before k (s.receive other l) where
  isOpen := HostState.closed_receive.trans hs.isOpen
  input := HostState.find?_receive_of_some hs.input
  taken := by
    rw [HostState.events_receive, taken_append, hs.taken]
    exact List.append_nil _

/-- What is consumed in reading a line is the line. -/
theorem consumedOf_after (bytes : List UInt8) (k : Nat) :
    consumedOf ⟨after bytes k, none⟩ ⟨after bytes (k + 1), none⟩ = lineAt bytes k := by
  rw [consumedOf, ← InputStream.lineAt_append_after bytes k]
  simp

/-- Taking a line moves the cursor on by that line. -/
theorem take (hs : Cursor uri serial sink bytes before k s) :
    Cursor uri serial sink bytes before (k + 1)
      ((s.updateModule uri fun _ => .stdin ⟨after bytes (k + 1), none⟩ sink).note
        (.consumed uri (lineAt bytes k))) where
  isOpen := hs.isOpen
  input := by
    rw [HostState.modules_note, HostState.find?_updateModule_self, hs.input]
    rfl
  taken := by
    rw [HostState.events_note, HostState.events_updateModule, taken_append, hs.taken,
      List.range_succ, List.map_append, List.append_assoc]
    simp [Stdin.taken]

end Cursor

/-- A step leaves the cursor where it is, or moves it on by one line. -/
theorem Cursor.step (hs : Cursor uri serial sink bytes before k s) (h : Step host s t) :
    Cursor uri serial sink bytes before k t ∨ Cursor uri serial sink bytes before (k + 1) t := by
  cases h with
  | log | write => exact .inl (hs.of_same rfl rfl rfl)
  | @store _ _ _ _ _ holdings =>
    exact .inl (Cursor.note (s := { s with holdings := holdings }) (hs.of_same rfl rfl rfl) rfl)
  | ask | prompt | call => exact .inl (hs.note rfl)
  -- The module of this namespace reads input, so neither of these two is a step of it.
  | @record other _ _ hat =>
    refine .inl (hs.updateModule ?_ _)
    rintro rfl
    cases hs.input.symm.trans hat
  | @remember other _ _ _ hat =>
    refine .inl (hs.updateModule ?_ _)
    rintro rfl
    cases hs.input.symm.trans hat
  | @take other _ _ _ hat =>
    by_cases hne : uri = other
    · subst hne
      cases hs.input.symm.trans hat
      rw [readLine_after, Cursor.consumedOf_after]
      exact .inr hs.take
    · refine .inl ((hs.updateModule hne _).note ?_)
      exact List.filterMap_eq_nil_iff.2 (by simp [Ne.symm hne])

/-- A run moves the cursor on by some lines, or by none. -/
theorem Cursor.run (hs : Cursor uri serial sink bytes before k s) (h : Run host s t) :
    ∃ j, k ≤ j ∧ Cursor uri serial sink bytes before j t := by
  induction h generalizing k with
  | refl => exact ⟨k, Nat.le_refl k, hs⟩
  | step _ step ih =>
    obtain ⟨j, hle, hj⟩ := ih hs
    rcases hj.step step with hj | hj
    · exact ⟨j, hle, hj⟩
    · exact ⟨j + 1, Nat.le_succ_of_le hle, hj⟩
  | load _ _ _ _ _ _ ih ih' =>
    obtain ⟨j, hle, hj⟩ := ih hs
    obtain ⟨i, hle', hi⟩ := ih' (hj.note rfl)
    exact ⟨i, Nat.le_trans hle hle', hi.receive _ _⟩

/-! ### What a `read` does -/

/-- What a `read` is asked for when it comes to taking a line: everything is resolved, which needs a
data model, and the prompt can be shown. -/
def Reaches (sink : PromptSink) (model : Option DataModel) (el : Element) (q : Request) : Prop :=
  request el model = .ok q ∧ ∀ text, q.prompt = some text → refusal? sink text = none

/-- A line is asked for only with a data model to put it into. -/
theorem exists_model {el : Element} {model : Option DataModel} {q : Request}
    (h : request el model = .ok q) : ∃ m, model = some m := by
  cases model with
  | some m => exact ⟨m, rfl⟩
  | none => cases h

/-- A `read` that does not come to taking a line fails, though not to store one, and leaves the state
but for a prompt. -/
theorem read_early (uri : String) (input : InputStream) {el : Element}
    (hnot : ∀ q, ¬ Reaches sink s.dataModel el q) :
    ∃ e shown, e.kind ≠ .assignment ∧ Prompted uri s shown ∧
      (read uri input sink el).run.runFrom s = (.error e, shown) := by
  simp only [read, HostM.runFrom_run_bind, HostM.runFrom_run_getThe, ActionM.runFrom_ofExcept]
  cases hq : request el s.dataModel with
  | error e => exact ⟨e, s, (request_refuses el s.dataModel).kind_ne hq, .inl rfl, rfl⟩
  | ok q =>
    obtain ⟨shown, hshown, hprompt⟩ := runFrom_prompt uri sink q s
    dsimp only
    rw [hprompt]
    cases hrefused : q.prompt.bind fun text => (refusal? sink text).map (promptFailure q text) with
    | some e =>
      obtain ⟨text, -, htext⟩ := Option.bind_eq_some_iff.1 hrefused
      obtain ⟨reason, -, rfl⟩ := Option.map_eq_some_iff.1 htext
      have hkind : (promptFailure q text reason).kind ≠ .assignment := by
        intro h
        cases h
      exact ⟨promptFailure q text reason, shown, hkind, hshown, rfl⟩
    | none =>
      -- Nothing would be left in the way of taking a line.
      refine absurd ⟨hq, fun text htext => ?_⟩ (hnot q)
      simpa [htext] using hrefused

/-- What a `read` does with what came of asking for a line. -/
def storeReading (q : Request) : InputStream.Reading → ActionM Unit
  | .failed reason => throw ((failure q .externalEffect "Failed to read from stdin").becauseText reason)
  | .line line =>
      .assign q.location (lineValue line) (failure q .assignment "Failed to store input line")

/-- A `read` that comes to it takes a line, and then stores the line's value. -/
theorem read_reaches (uri : String) {el : Element} {q : Request} {input rest : InputStream}
    {reading : InputStream.Reading}
    (h : Reaches sink s.dataModel el q) (hreading : input.readLine = (reading, rest)) :
    ∃ shown, Prompted uri s shown ∧
      (read uri input sink el).run.runFrom s =
        (storeReading q reading).run.runFrom
          ((shown.updateModule uri fun _ => .stdin rest sink).note
            (.consumed uri (consumedOf input rest))) := by
  obtain ⟨shown, hshown, hprompt⟩ := runFrom_prompt uri sink q s
  have hnone : (q.prompt.bind fun text => (refusal? sink text).map (promptFailure q text)) = none := by
    cases htext : q.prompt with
    | none => rfl
    | some text => simp [h.2 text htext]
  refine ⟨shown, hshown, ?_⟩
  simp only [read, HostM.runFrom_run_bind, HostM.runFrom_run_getThe, ActionM.runFrom_ofExcept, h.1,
    hprompt, hnone, HostM.runFrom_run_liftM, takeLine, hreading]
  cases reading <;> rfl

/-- Showing the prompt does not move the cursor. -/
theorem Cursor.prompted {shown : HostState} (hs : Cursor uri serial sink bytes before k s)
    (h : Prompted uri s shown) :
    Cursor uri serial sink bytes before k shown ∧ shown.dataModel = s.dataModel := by
  rcases h with rfl | ⟨text, rfl⟩
  · exact ⟨hs, rfl⟩
  · exact ⟨hs.note rfl, rfl⟩

variable {el : Element} {reenter : Reenter}

/-- How a `read` goes from a cursor: its result, and the state behind it. -/
structure Reads (uri : String) (serial : Nat) (sink : PromptSink) (bytes : List UInt8)
    (before : List (List UInt8)) (k : Nat) (s : HostState) (el : Element)
    (result : Except ActionError Unit) (t : HostState) : Prop where
  /-- Before it comes to taking a line it fails, and nothing has been taken or stored. -/
  early : (∀ q, ¬ Reaches sink s.dataModel el q) → (∃ e, result = .error e) ∧
    Cursor uri serial sink bytes before k t ∧ t.dataModel = s.dataModel
  /-- Otherwise it takes the next line, and goes as the data model takes its value. -/
  takes : ∀ q, Reaches sink s.dataModel el q → ∃ m, s.dataModel = some m ∧
    Cursor uri serial sink bytes before (k + 1) t ∧
    t.dataModel = some (m.write q.location (lineValue (lineAt bytes k))).1 ∧
    result = (m.write q.location (lineValue (lineAt bytes k))).2.mapError fun e =>
      (failure q .assignment "Failed to store input line").becauseText e.message

/-- Reading from the input that is left goes so. -/
theorem Cursor.reads (hs : Cursor uri serial sink bytes before k s) (el : Element) :
    Reads uri serial sink bytes before k s el
      ((read uri ⟨after bytes k, none⟩ sink el).run.runFrom s).1
      ((read uri ⟨after bytes k, none⟩ sink el).run.runFrom s).2 where
  early hnot := by
    obtain ⟨e, shown, -, hshown, hread⟩ := read_early uri ⟨after bytes k, none⟩ hnot
    rw [hread]
    exact ⟨⟨e, rfl⟩, hs.prompted hshown⟩
  takes q h := by
    obtain ⟨m, hm⟩ := exists_model h.1
    obtain ⟨shown, hshown, hread⟩ := read_reaches uri h (readLine_after bytes k)
    obtain ⟨hcursor, hmodel⟩ := hs.prompted hshown
    have htaken : ((shown.updateModule uri fun _ => .stdin ⟨after bytes (k + 1), none⟩ sink).note
        (.consumed uri (lineAt bytes k))).dataModel = some m := hmodel.trans hm
    have hnext := hcursor.take
    rw [Cursor.consumedOf_after] at hread
    -- The state behind the line that was taken; storing the value does not touch the input.
    generalize (shown.updateModule uri fun _ => .stdin ⟨after bytes (k + 1), none⟩ sink).note
      (.consumed uri (lineAt bytes k)) = u at hread htaken hnext
    rw [hread, storeReading, ActionM.runFrom_assign u htaken]
    exact ⟨m, hm, hnext.of_same rfl rfl rfl, rfl, rfl⟩

variable {el : Element}

/-- Asking the module about a `read`, and executing one, both go so. -/
theorem Cursor.asked (hs : Cursor uri serial sink bytes before k s) (host : Host)
    (reenter : Reenter) (hns : el.namespaceUri = some uri) (haction : el.action = "read") :
    ∃ result t, Reads uri serial sink bytes before k s el result t ∧
      (Host.ask reenter uri ⟨serial, .stdin ⟨after bytes k, none⟩ sink⟩ (some el)).runFrom s =
        (.handled result, t) ∧
      (host.executeWith reenter el).run.runFrom s = (result, t) := by
  have hreact := Module.react_read reenter uri haction ⟨after bytes k, none⟩ sink
  have hasked : Cursor uri serial sink bytes before k (s.note (.handled uri serial)) := hs.note rfl
  obtain ⟨early, takes⟩ := hasked.reads el
  refine ⟨_, _, ⟨early, takes⟩, ?_, ?_⟩
  · rw [Host.runFrom_ask, hreact, Host.runFrom_ofAction]
  · rw [Host.runFrom_executeWith_of_action hs.isOpen hns hs.input hreact]

/-! ### The value of a line -/

/-- The value of a line is its text without its end, or nothing where the input is at its end. -/
theorem lineValue_eq (bytes : List UInt8) (k : Nat) :
    lineValue (lineAt bytes k) = if after bytes k = [] then .null
      else .string (Text.Utf8.decode (InputStream.stripEnd (lineAt bytes k))) := by
  by_cases h : after bytes k = []
  · rw [if_pos h, (InputStream.lineAt_eq_nil bytes k).2 h]
    rfl
  · have hne : lineAt bytes k ≠ [] := mt (InputStream.lineAt_eq_nil bytes k).1 h
    rw [if_neg h, lineValue, InputStream.lineText?, if_neg (by simpa using hne)]

/-- The lines of a text are read as they are. -/
theorem lineValue_encode (text : String) (k : Nat) :
    lineValue (lineAt (Text.Utf8.encode text) k) =
      ((Text.lines text)[k]?).elim .null fun line => .string (String.ofList (Text.stripEnd line)) := by
  cases h : (Text.lines text)[k]? with
  | none => rw [InputStream.lineAt_encode, h]; rfl
  | some line => rw [lineValue, InputStream.lineText?_encode h]; rfl

/-! ### All reads of a session -/

/-- Every sequence of calls takes a session along a run, and behind a loaded module with some input
every state on a run is at a cursor into that input. At a cursor the lines consumed so far and what
is left are the input; the value of the next line is `null` where the input is used up, and else its
text without its end, which for the bytes of a text is the line of that text; and a `read`, whether
the module is asked about it or the host executes it, by itself or on behalf of a module, either
fails without taking anything or takes the next line and stores its value. -/
theorem reads_take_the_lines_in_order (host : Host) (s : HostState) (hopen : s.closed = false)
    (uri : String) (serial : Nat) (bytes : List UInt8) (sink : PromptSink)
    (hloaded : s.modules.find? uri = some ⟨serial, .stdin ⟨bytes, none⟩ sink⟩) :
    (∀ calls : List Call, Run host s ((Call.performAll host calls).runFrom s).2) ∧
    (∀ t, Run host s t → ∃ k, Cursor uri serial sink bytes (taken uri s.events) k t) ∧
    ∀ k t, Cursor uri serial sink bytes (taken uri s.events) k t →
      ((List.range k).map (lineAt bytes)).flatten ++ after bytes k = bytes ∧
      (lineValue (lineAt bytes k) = if after bytes k = [] then .null
        else .string (Text.Utf8.decode (InputStream.stripEnd (lineAt bytes k)))) ∧
      (∀ text, bytes = Text.Utf8.encode text → lineValue (lineAt bytes k) =
        ((Text.lines text)[k]?).elim .null fun line => .string (String.ofList (Text.stripEnd line))) ∧
      ∀ (reenter : Reenter) (el : Element), el.namespaceUri = some uri → el.action = "read" →
        ∃ result u, Reads uri serial sink bytes (taken uri s.events) k t el result u ∧
          (Host.ask reenter uri ⟨serial, .stdin ⟨after bytes k, none⟩ sink⟩ (some el)).runFrom t =
            (.handled result, u) ∧
          (host.executeWith reenter el).run.runFrom t = (result, u) := by
  refine ⟨fun calls => Call.performAll_runs calls s trivial, ?_, ?_⟩
  · intro t hrun
    obtain ⟨k, -, hk⟩ := (Cursor.start hopen hloaded).run hrun
    exact ⟨k, hk⟩
  · intro k t ht
    refine ⟨InputStream.flatten_lineAt_append_after bytes k, lineValue_eq bytes k, ?_, ?_⟩
    · rintro text rfl
      exact lineValue_encode text k
    · intro reenter el hns haction
      exact ht.asked host reenter hns haction

/-- A session in which a module with two lines of input has been loaded. -/
def twoLines : HostState :=
  { HostState.fresh (some .empty) default with
    modules := Dict.empty.insert stdinUri ⟨1, .stdin ⟨[97, 13, 10, 98], none⟩ .working⟩ }

/-- An element that reads a line. -/
def readLineElement : Element := ⟨"stdin:read", some stdinUri, [("location", "line")], []⟩

/-- In this session it takes the first line, which is stored under `line`. -/
theorem reads_take_the_lines_in_order_twoLines :
    twoLines.closed = false ∧
      twoLines.modules.find? stdinUri = some ⟨1, .stdin ⟨[97, 13, 10, 98], none⟩ .working⟩ ∧
      Reaches .working twoLines.dataModel readLineElement ⟨"line", none⟩ ∧
      ∃ u, Cursor stdinUri 1 .working [97, 13, 10, 98] [] 1 u ∧
        u.dataModel = some (DataModel.empty.write "line" (lineValue (lineAt [97, 13, 10, 98] 0))).1 ∧
        ((Host.ofDocument .empty default).executeWith (fun _ => pure ())
          readLineElement).run.runFrom twoLines = (.ok (), u) := by
  have hopen : twoLines.closed = false := rfl
  have hloaded : twoLines.modules.find? stdinUri =
      some ⟨1, .stdin ⟨[97, 13, 10, 98], none⟩ .working⟩ := rfl
  have hreaches : Reaches .working twoLines.dataModel readLineElement ⟨"line", none⟩ :=
    ⟨rfl, nofun⟩
  refine ⟨hopen, hloaded, hreaches, ?_⟩
  obtain ⟨-, -, hall⟩ := reads_take_the_lines_in_order (Host.ofDocument .empty default) twoLines hopen
    stdinUri 1 [97, 13, 10, 98] .working hloaded
  obtain ⟨-, -, -, hread⟩ := hall 0 twoLines (Cursor.start hopen hloaded)
  obtain ⟨result, u, hreads, -, hexecute⟩ := hread (fun _ => pure ()) readLineElement rfl rfl
  obtain ⟨m, hm, hcursor, hmodel, hresult⟩ := hreads.takes ⟨"line", none⟩ hreaches
  cases hm
  have hwritten : (DataModel.empty.write "line" (lineValue (lineAt [97, 13, 10, 98] 0))).2 = .ok () :=
    rfl
  exact ⟨u, hcursor, hmodel, by rw [hexecute, hresult, hwritten]; rfl⟩

end MarkupActions.Stdin
