import MarkupActions.Cli
import MarkupActions.Proofs.Host.BuiltIn
import MarkupActions.Proofs.Host.Teardown
import MarkupActions.Proofs.Text.ValidUtf8

/-!
# MarkupActions.Proofs.CommandLine

**What becomes of a run from the command line.** The file holds a document, or it does not. If it
does, the document is run and torn down once, whatever the run came to, and the standard error carries
the prompts and then the log. The exit code says whether all went well; then the variables are printed,
and else one error, that of the run if it failed, or else that of the teardown (`Cli.run_outcome`).
-/

namespace MarkupActions

/-! ### A run and its teardown -/

namespace Host

variable {host : Host} {s : HostState}

/-- Run the document from a state, and tear the session down whatever came of it. -/
def finish (host : Host) (s : HostState) : Cli.Finished :=
  let ran := host.run.run.runFrom s
  let tornDown := host.teardown.run.runFrom ran.2
  ⟨ran.1, tornDown.1, tornDown.2⟩

/-- Running the document leaves the session open. -/
theorem closed_run (hopen : s.closed = false) : (host.run.run.runFrom s).2.closed = false := by
  have hrun : Run host s (host.run.run.runFrom s).2 := run_runs s trivial
  exact hrun.closed_eq.trans hopen

/-- Running the document and tearing the session down unloads what the run has loaded, each module
once, and nothing before that. -/
theorem finish_unloads (hs : s.Settled) (hopen : s.closed = false) :
    let ran := (host.run.run.runFrom s).2
    let finished := (host.finish s).state
    unloadings ran.events = [] ∧ finished.closed = true ∧ finished.modules = .empty ∧
      unloadings finished.events = ran.modules.entries.map fun (uri, l) => (uri, l.serial) := by
  intro ran finished
  have hrun : Run host s ran := run_runs s trivial
  have hsettled : ran.Settled := hs.run hrun
  have hstill : ran.closed = false := closed_run hopen
  obtain ⟨htornDown, hclosed, hunloadings⟩ := unload_settled host hsettled hstill
  exact ⟨hsettled.kept hstill, hclosed, htornDown.emptied hclosed, hunloadings⟩

end Host

namespace Cli

variable {around : Surroundings} {file : String} {d : Document}

/-! ### Documents in files -/

/-- Whether the file holds the document: its bytes are those of a text that is read as one. -/
def Surroundings.Holds (around : Surroundings) (file : String) (d : Document) : Prop :=
  ∃ text read, around.readFile file = .ok (Text.Utf8.encode text) ∧
    Document.read? text = some read ∧ d = read.withSource file

theorem readText_eq_ok_iff {text : String} :
    readText around file = .ok text ↔ around.readFile file = .ok (Text.Utf8.encode text) := by
  unfold readText
  cases around.readFile file with
  | error e => exact iff_of_false nofun nofun
  | ok bytes =>
    dsimp only
    rw [Except.ok.injEq, ← Text.Utf8.decodeStrict?_eq_some_iff]
    cases Text.Utf8.decodeStrict? bytes with
    | none => exact iff_of_false nofun nofun
    | some other => simp

/-- A document is read just if the file holds it. -/
theorem readDocument_eq_ok_iff : readDocument around file = .ok d ↔ around.Holds file d := by
  unfold readDocument Surroundings.Holds
  simp only [← readText_eq_ok_iff]
  cases readText around file with
  | error e => exact iff_of_false nofun (by rintro ⟨text, read, h, -⟩; cases h)
  | ok text =>
    dsimp only
    cases hread : Document.read? text with
    | none =>
      refine iff_of_false nofun ?_
      rintro ⟨other, read, h, hother, -⟩
      cases h
      cases hread.symm.trans hother
    | some read =>
      constructor
      · intro h
        exact ⟨text, read, rfl, hread, (Except.ok.inj h).symm⟩
      · rintro ⟨other, read', h, hother, rfl⟩
        cases h
        cases hread.symm.trans hother
        rfl

/-! ### What is printed about a run -/

namespace Finished

variable {f : Finished} {e : HostError}

/-- Nothing has gone wrong if neither the run nor the teardown has. -/
theorem error?_eq_none_iff : f.error? = none ↔ f.outcome = .ok () ∧ f.teardown = .ok () := by
  unfold error?
  split <;> simp [*]

/-- The failure of the run counts before that of the teardown. -/
theorem error?_eq_some_iff : f.error? = some e ↔
    f.outcome = .error e ∨ f.outcome = .ok () ∧ f.teardown = .error e := by
  unfold error?
  split <;> simp [*]

theorem output_of_none (h : f.error? = none) :
    f.output = ⟨0, Json.pretty (.ofDict f.state.snapshot) ++ "\n", f.said⟩ := by
  rw [output, h]

theorem output_of_some (h : f.error? = some e) : f.output = ⟨1, "", f.said ++ errorLine e⟩ := by
  rw [output, h]

/-- The exit code is zero just if nothing has gone wrong. -/
theorem exitCode_output : f.output.exitCode = 0 ↔ f.error? = none := by
  cases h : f.error? with
  | none => simp [output_of_none h]
  | some e => simp [output_of_some h]

end Finished

/-! ### The command -/

/-- The host that runs a document from the command line. -/
def Surroundings.host (around : Surroundings) (d : Document) : Host :=
  .ofDocument (.standard around.input .working) d

/-- The state that it starts from. -/
def Surroundings.start (around : Surroundings) (bindsDataModel : Bool) : HostState :=
  .fresh (if bindsDataModel then some .empty else none) ⟨.empty, around.environment⟩

/-- The document of a file, run and torn down. -/
def Surroundings.finished (around : Surroundings) (bindsDataModel : Bool) (d : Document) : Finished :=
  (around.host d).finish (around.start bindsDataModel)

/-- A file with a document has it run, torn down and reported on. -/
theorem answer_of_holds {args : List String} {bindsDataModel : Bool}
    (hargs : parse args = some (.run file bindsDataModel)) (hd : around.Holds file d) :
    answer around args = (around.finished bindsDataModel d).output := by
  rw [answer, hargs]
  dsimp only
  rw [perform, readDocument_eq_ok_iff.2 hd]
  rfl

/-- A file without one is a failure before anything is run. -/
theorem answer_of_not_holds {args : List String} {bindsDataModel : Bool}
    (hargs : parse args = some (.run file bindsDataModel)) (hnone : ∀ d, ¬ around.Holds file d) :
    ∃ e, answer around args = .failure e := by
  rw [answer, hargs]
  dsimp only
  rw [perform]
  cases hread : readDocument around file with
  | error e => exact ⟨e, rfl⟩
  | ok d => exact absurd (readDocument_eq_ok_iff.1 hread) (hnone d)

/-- What is a value is no wish. -/
theorem isWish_of_value {arg : String} (h : isOption arg = false) (name : String) (letter : Char) :
    isWish name letter arg = false := by
  have hlong : arg ≠ "--" ++ name := by
    rintro rfl
    simp [isOption] at h
  have hshort : ['-', letter].isPrefixOf arg.toList = false := by
    unfold isOption at h
    split at h
    · cases h
    · next hother =>
      refine Bool.eq_false_iff.2 fun hprefix => ?_
      obtain ⟨rest, hrest⟩ := List.isPrefixOf_iff_prefix.1 hprefix
      exact hother letter rest hrest.symm
  simp [isWish, hlong, hshort]

/-- The file is all that `run` needs; the wish for no data model may stand on either side of it. -/
theorem parse_run (hvalue : isOption file = false) (hne : file ≠ "") :
    parse ["run", file] = some (.run file true) ∧
      parse ["run", "--no-datamodel", file] = some (.run file false) ∧
      parse ["run", file, "--no-datamodel"] = some (.run file false) := by
  have hdashes : file ≠ "--" ∧ file ≠ "--no-datamodel" := by
    constructor <;> rintro rfl <;> exact absurd hvalue (by decide)
  have hhelp : asksHelp file = false ∧ asksHelp "--no-datamodel" = false :=
    ⟨isWish_of_value hvalue "help" 'h', by decide⟩
  simp [parse, parseRun, hdashes, hhelp, hvalue, hne]

/-- **What becomes of a run from the command line.** The exit code is zero if and only if the file
holds a document, and its run and its teardown both go well; otherwise it is one, nothing is printed,
and the standard error ends with one failure. Where there is a document, the standard error carries
all prompts in order and then the log. Behind them comes the failure of the run, whatever came of the
teardown, or else that of the teardown; without a failure the variables are printed. The session is
open and has unloaded nothing before it is torn down, and is closed and empty afterwards, with each
module unloaded once. -/
theorem run_outcome (around : Surroundings) {args : List String} {file : String}
    {bindsDataModel : Bool} (hargs : parse args = some (.run file bindsDataModel)) :
    let output := answer around args
    (output.exitCode = 0 ↔ ∃ d, around.Holds file d ∧
      (around.finished bindsDataModel d).outcome = .ok () ∧
      (around.finished bindsDataModel d).teardown = .ok ()) ∧
    (output.exitCode ≠ 0 → output.exitCode = 1 ∧ output.stdout = "" ∧
      ∃ (said : String) (e : HostError),
        output.stderr = said ++ ("Error: " ++ e.message ++ "\n")) ∧
    ∀ d, around.Holds file d →
      let ran := (around.host d).run.run.runFrom (around.start bindsDataModel)
      let tornDown := (around.host d).teardown.run.runFrom ran.2
      let said := String.join tornDown.2.prompts ++
        String.join (tornDown.2.log.toList.map fun r => "[" ++ r.label ++ "] " ++ r.message ++ "\n")
      (ran.1 = .ok () → tornDown.1 = .ok () →
        output = ⟨0, Json.pretty (.ofDict tornDown.2.snapshot) ++ "\n", said⟩) ∧
      (∀ e, ran.1 = .error e ∨ ran.1 = .ok () ∧ tornDown.1 = .error e →
        output = ⟨1, "", said ++ ("Error: " ++ e.message ++ "\n")⟩) ∧
      ran.2.closed = false ∧ unloadings ran.2.events = [] ∧
      tornDown.2.closed = true ∧ tornDown.2.modules = .empty ∧
      unloadings tornDown.2.events = ran.2.modules.entries.map fun (uri, l) => (uri, l.serial) := by
  intro output
  by_cases hdoc : ∃ d, around.Holds file d
  · obtain ⟨d, hd⟩ := hdoc
    have hunique : ∀ other, around.Holds file other → other = d := by
      intro other hother
      rw [← readDocument_eq_ok_iff] at hd hother
      exact Except.ok.inj (hother.symm.trans hd)
    have houtput : output = (around.finished bindsDataModel d).output := answer_of_holds hargs hd
    refine ⟨?code, ?failure, ?document⟩
    case code =>
      rw [houtput, Finished.exitCode_output, Finished.error?_eq_none_iff]
      constructor
      · intro hok
        exact ⟨d, hd, hok⟩
      · rintro ⟨other, hother, hok⟩
        exact hunique other hother ▸ hok
    case failure =>
      intro hcode
      rw [houtput] at hcode ⊢
      obtain ⟨e, he⟩ := Option.ne_none_iff_exists'.1 (mt Finished.exitCode_output.2 hcode)
      rw [Finished.output_of_some he]
      exact ⟨rfl, rfl, _, e, rfl⟩
    case document =>
      rintro other hother
      obtain rfl := hunique other hother
      intro ran tornDown said
      obtain ⟨hkept, hclosed, hempty, hunloadings⟩ :=
        (around.host other).finish_unloads (s := around.start bindsDataModel) (.fresh _ _) rfl
      refine ⟨fun hran htornDown => ?_, fun e he => ?_, Host.closed_run rfl, hkept, hclosed, hempty,
        hunloadings⟩
      · rw [houtput, Finished.output_of_none (Finished.error?_eq_none_iff.2 ⟨hran, htornDown⟩)]
        rfl
      · rw [houtput, Finished.output_of_some (Finished.error?_eq_some_iff.2 he)]
        rfl
  · have hnone : ∀ d, ¬ around.Holds file d := not_exists.1 hdoc
    obtain ⟨e, he⟩ := answer_of_not_holds hargs hnone
    have houtput : output = .failure e := he
    refine ⟨?_, fun _ => ?_, fun d hd => absurd hd (hnone d)⟩
    · rw [houtput]
      exact iff_of_false Nat.one_ne_zero fun ⟨d, hd, _⟩ => hnone d hd
    · rw [houtput]
      exact ⟨rfl, rfl, "", e, (String.empty_append).symm⟩

/-- A document that binds a variable and logs it. -/
def greetingText : String :=
  "<r><assign location='whom' expr='[1, \"all\"]'/><log label='hi' expr='whom'/></r>"

/-- A place where every file holds it. -/
def greeting : Surroundings := ⟨fun _ => .ok (Text.Utf8.encode greetingText), .empty, default⟩

/-- The document is there, its run and its teardown go well, and the variable is printed. -/
theorem run_outcome_greeting :
    parse ["run", "hi.xml"] = some (.run "hi.xml" true) ∧
      answer greeting ["run", "hi.xml"] =
        ⟨0, "\x7b\n  \"whom\": [\n    1,\n    \"all\"\n  ]\n\x7d\n", "[hi] [1,\"all\"]\n"⟩ ∧
      ∃ d, greeting.Holds "hi.xml" d ∧ (greeting.finished true d).outcome = .ok () ∧
        (greeting.finished true d).teardown = .ok () := by
  have hargs : parse ["run", "hi.xml"] = some (.run "hi.xml" true) :=
    (parse_run (by decide) (by decide)).1
  have hanswer : answer greeting ["run", "hi.xml"] =
      ⟨0, "\x7b\n  \"whom\": [\n    1,\n    \"all\"\n  ]\n\x7d\n", "[hi] [1,\"all\"]\n"⟩ := by
    decide +kernel
  obtain ⟨hsuccess, -, -⟩ := run_outcome greeting hargs
  exact ⟨hargs, hanswer, hsuccess.1 (congrArg Output.exitCode hanswer)⟩

end Cli

end MarkupActions
