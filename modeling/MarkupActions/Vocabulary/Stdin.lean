import MarkupActions.Vocabulary.Handling

/-!
# MarkupActions.Vocabulary.Stdin

**Lines of input.** `read` shows a prompt if there is one and stores the next line at a location:
the line's text without its end, or `null` when the input has ended. A line that was read is
consumed even when it cannot be stored; nothing is consumed when the action fails earlier.
-/

namespace MarkupActions.Stdin

/-- Where the line goes. -/
def locationParameter : Parameter :=
  ((Parameter.required "location").orLiteral "dataid").trimmed

/-- What is shown first. -/
def promptParameter : Parameter := (Parameter.optional "prompt").xorExpression "promptexpr"

/-- Why a sink fails to show a text, if it does. An empty text is not written, only passed on. -/
def refusal? (sink : PromptSink) (text : String) : Option String :=
  (if text = "" then none else sink.writeFailure).or sink.flushFailure

/-- Show a prompt and pass it on at once; why that failed, if it did. -/
def showPrompt (uri : String) (sink : PromptSink) (text : String) : HostM (Option String) := do
  if text ≠ "" ∧ sink.writeFailure = none then HostM.note (.prompted uri text)
  pure (refusal? sink text)

/-- The value of a line. -/
def lineValue (line : List UInt8) : Value :=
  match InputStream.lineText? line with
  | some text => .string text
  | none => .null

/-- What is left of the bytes behind what has been consumed of them. -/
def consumedOf (before after : InputStream) : List UInt8 :=
  before.bytes.take (before.bytes.length - after.bytes.length)

/-- What `read` asks for. -/
structure Request where
  /-- Where the line goes. -/
  location : String
  /-- What is shown first, if anything. -/
  prompt : Option String

/-- Read what `read` asks for. -/
def request (el : Element) (model : Option DataModel) : Except ActionError Request := do
  let r := el.resolver model "stdin:read"
  let _ ← r.evaluatorOrFail
  let location ← r.textD locationParameter
  let prompt ← r.text? promptParameter
  return ⟨location, prompt⟩

/-- The failure of a reading. -/
def failure (q : Request) (kind : ErrorKind) (message : String) : ActionError :=
  (ActionError.of kind "read" message).withData "location" (.string q.location)

/-- What is reported when the prompt cannot be shown. -/
def promptFailure (q : Request) (text reason : String) : ActionError :=
  ((failure q .externalEffect "Failed to write prompt").withData
    "prompt" (.string text)).becauseText reason

/-- Show the prompt, if there is one. -/
def prompt (uri : String) (sink : PromptSink) (q : Request) : ActionM Unit := do
  match q.prompt with
  | none => pure ()
  | some text =>
      match ← showPrompt uri sink text with
      | none => pure ()
      | some reason => throw (promptFailure q text reason)

/-- Take the next line off the input of the module registered under a URI. -/
def takeLine (uri : String) (input : InputStream) (sink : PromptSink) :
    HostM InputStream.Reading := do
  let (reading, after) := input.readLine
  modify fun s =>
    (s.updateModule uri fun _ => .stdin after sink).note (.consumed uri (consumedOf input after))
  pure reading

/-- Store the next line. -/
def read (uri : String) (input : InputStream) (sink : PromptSink) (el : Element) :
    ActionM Unit := do
  let q ← .ofExcept (request el (← getThe HostState).dataModel)
  prompt uri sink q
  match ← takeLine uri input sink with
  | .failed reason =>
      throw ((failure q .externalEffect "Failed to read from stdin").becauseText reason)
  | .line line =>
      .assign q.location (lineValue line) (failure q .assignment "Failed to store input line")

/-- What a module of this vocabulary does with an element. -/
def react (uri : String) (input : InputStream) (sink : PromptSink) :
    Option Element → HostM Reaction
  | none => pure (.missingElement "stdin")
  | some el =>
      if el.action = "read" then Reaction.ofAction (read uri input sink el) else pure .declined

/-- Pass on what prompts are still held back. -/
def release (sink : PromptSink) : Except ActionError Unit :=
  match sink.flushFailure with
  | none => .ok ()
  | some reason =>
      .error ((ActionError.of .externalEffect "read" "Failed to flush prompt").becauseText reason)

end MarkupActions.Stdin
