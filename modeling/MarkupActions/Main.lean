import MarkupActions.Cli

/-!
# MarkupActions.Main

**The program.** It gathers what `MarkupActions.Cli` needs to know, prints what comes back and ends
with its exit code. While a document runs, the standard input is read no further than the document
asks for, and a prompt is shown before the input it asks for is read: the run is computed over the
lines that have come so far, and once more with one more line whenever it asks for more than there
is.
-/

namespace MarkupActions.Main

/-- Why a file cannot be read. The number of a failure comes negated from some operations. -/
def fileError : IO.Error → Cli.FileError
  | .noFileOrDirectory _ _ _ => .missing
  | .permissionDenied _ _ _ => .denied
  | .inappropriateType _ code _ => if code = 21 || code = -21 then .directory else .throughFile
  | e@(.invalidArgument _ code _) =>
      if code = 36 || code = -36 then .nameTooLong else .other e.toString
  | e => .other e.toString

/-- The bytes of a file, or why it cannot be read. -/
def readBytes (file : String) : IO (Except Cli.FileError (List UInt8)) := do
  try return .ok (← IO.FS.readBinFile file).toList
  catch e => return .error (fileError e)

/-- The environment of the process, empty when it cannot be read. An entry that is no text is left
out. -/
def readEnvironment : IO (Dict String) := do
  match ← readBytes "/proc/self/environ" with
  | .error _ => return .empty
  | .ok bytes => return .ofList ((bytes.splitBy fun a b => a ≠ 0 && b ≠ 0).filterMap entry?)
where
  /-- The name and the value of an entry. -/
  entry? (bytes : List UInt8) : Option (String × String) :=
    (Text.Utf8.decodeStrict? bytes).bind fun text =>
      match text.toList.splitOn '=' with
      | name :: value@(_ :: _) =>
          some (String.ofList name, String.ofList (['='].intercalate value))
      | _ => none

/-- Read a line with its end; fewer bytes at the end of the input. -/
partial def readLine (input : IO.FS.Stream) (read : List UInt8) : IO (List UInt8) := do
  let more := (← input.read 1).toList
  if more.isEmpty || more.getLast? = some InputStream.newline then
    return read ++ more
  else readLine input (read ++ more)

/-- Print the part of a text that has not been printed yet. -/
def printRest (stream : IO.FS.Stream) (printed text : String) : IO Unit := do
  stream.putStr (String.ofList (text.toList.drop printed.length))
  stream.flush

/-- Run a document over the lines that have come so far; `printed` is what the standard error has
been given. -/
partial def runLive (around : Cli.Surroundings) (document : Document) (bindsDataModel : Bool)
    (printed : String) : IO Cli.Output := do
  let finished := Cli.finish around document bindsDataModel
  match Cli.promptsWhenStarved? [] finished.state.journal.toList with
  | none => return { finished.output with
      stderr := String.ofList (finished.output.stderr.toList.drop printed.length) }
  | some shown => do
      let said := String.join shown
      printRest (← IO.getStderr) printed said
      let line ← readLine (← IO.getStdin) []
      if line.getLast? = some InputStream.newline then
        runLive { around with input := ⟨around.input.bytes ++ line, none⟩ } document bindsDataModel
          said
      else
        let last := Cli.finish { around with input := ⟨around.input.bytes ++ line, none⟩ } document
          bindsDataModel
        return { last.output with
          stderr := String.ofList (last.output.stderr.toList.drop said.length) }

/-- What the program prints, with the prompts already printed left out. -/
def respond (args : List String) : IO Cli.Output := do
  match Cli.parse args with
  | some (.run file bindsDataModel) => do
      let content ← readBytes file
      let around : Cli.Surroundings := ⟨fun _ => content, ← readEnvironment, ⟨[], none⟩⟩
      match Cli.readDocument around file with
      | .error e => return .failure e
      | .ok document => runLive around document bindsDataModel ""
  | _ => return Cli.answer ⟨fun _ => .error .missing, .empty, default⟩ args

end MarkupActions.Main

/-- Print the answer to the arguments and end with its exit code. -/
def main (args : List String) : IO UInt32 := do
  let output ← MarkupActions.Main.respond args
  (← IO.getStdout).putStr output.stdout
  (← IO.getStderr).putStr output.stderr
  return output.exitCode.toUInt32
