import MarkupActions.Host
import MarkupActions.Xml.Reader

/-!
# MarkupActions.Cli

**The command line.** `run` runs a document over the environment of the process and the standard
input and prints the variables it leaves as indented JSON; `namespaces` lists the built-in
vocabularies. Prompts, the log and errors go to the standard error.

Everything here is a function of the arguments and of what the program finds around it. Reading and
printing happen in `MarkupActions.Main`.
-/

namespace MarkupActions.Cli

/-! ### Arguments -/

/-- What the program can explain. -/
inductive Topic where
  | program
  | run
  | namespaces
  | help
  deriving DecidableEq

/-- The topic that a command is explained under; none when there is no such command. -/
def Topic.ofCommand? : String → Option Topic
  | "run" => some .run
  | "namespaces" => some .namespaces
  | "help" => some .help
  | _ => none

/-- What the program is asked to do. -/
inductive Command where
  | run (file : String) (bindsDataModel : Bool)
  | namespaces
  | help (topic : Topic)
  | version
  deriving DecidableEq

/-- Whether an argument is an option and not a value. A dash alone is a value. -/
def isOption (arg : String) : Bool :=
  match arg.toList with
  | '-' :: _ :: _ => true
  | _ => false

/-- Whether an argument is a wish that ends the program: by its name, or by its letter at the head of
a cluster of letters. Such a wish is granted before the letters behind it are looked at. -/
def isWish (name : String) (letter : Char) (arg : String) : Bool :=
  arg = "--" ++ name || ['-', letter].isPrefixOf arg.toList

/-- Whether the argument asks for an explanation instead of a run. -/
def asksHelp (arg : String) : Bool := isWish "help" 'h' arg

/-- Whether the argument asks for the version. -/
def asksVersion (arg : String) : Bool := isWish "version" 'V' arg

/-- The arguments of `run`: one file, and at most once the wish for no data model. Behind `--` every
argument is a value. None for arguments that mean nothing. -/
def parseRun (file : Option String) (noDataModel literal : Bool) : List String → Option Command
  | [] => file.map fun f => .run f (!noDataModel)
  | arg :: rest =>
      -- Behind `--` none of these tests applies but the last.
      if !literal && arg = "--" then parseRun file noDataModel true rest
      else if !literal && asksHelp arg then some (.help .run)
      else if !literal && arg = "--no-datamodel" then
        if noDataModel then none else parseRun file true literal rest
      else if !literal && isOption arg then none
      else if file.isSome || arg = "" then none
      else parseRun (some arg) noDataModel literal rest

/-- What the arguments ask for; none when they mean nothing. -/
def parse : List String → Option Command
  | [] => none
  | "run" :: rest => parseRun none false false rest
  | ["namespaces"] => some .namespaces
  | ["namespaces", "--"] => some .namespaces
  -- The command takes no values, so the first argument decides.
  | "namespaces" :: arg :: _ => if asksHelp arg then some (.help .namespaces) else none
  | ["help"] => some (.help .program)
  | ["help", name] => (Topic.ofCommand? name).map .help
  | arg :: _ =>
      if asksHelp arg then some (.help .program)
      else if asksVersion arg then some .version
      else none

/-! ### Running -/

/-- Why a file cannot be read. -/
inductive FileError where
  | missing
  | denied
  /-- The path leads through a file that is no directory. -/
  | throughFile
  | directory
  | nameTooLong
  | other (reason : String)
  deriving DecidableEq

/-- The words for a failure to read, with the number that the system has for it. -/
def FileError.message : FileError → String
  | .missing => "No such file or directory (os error 2)"
  | .denied => "Permission denied (os error 13)"
  | .throughFile => "Not a directory (os error 20)"
  | .directory => "Is a directory (os error 21)"
  | .nameTooLong => "File name too long (os error 36)"
  | .other reason => reason

/-- What the program finds around it. -/
structure Surroundings where
  /-- The bytes of a file, or why it cannot be read. -/
  readFile : String → Except FileError (List UInt8)
  environment : Dict String
  input : InputStream

/-- What the program prints, and how it ends. -/
structure Output where
  exitCode : Nat
  stdout : String
  stderr : String
  deriving DecidableEq

/-- What to say about a failure. -/
def errorLine (e : HostError) : String := "Error: " ++ e.message ++ "\n"

/-- A program that fails before it has done anything. -/
def Output.failure (e : HostError) : Output := ⟨1, "", errorLine e⟩

/-- A line of the log as the standard error shows it. -/
def logLine (r : LogRecord) : String := "[" ++ r.label ++ "] " ++ r.message ++ "\n"

/-- The text in a file. Bytes that are no UTF-8 are refused here, not replaced. -/
def readText (s : Surroundings) (file : String) : Except HostError String :=
  match s.readFile file with
  | .error e => .error (.io e.message)
  | .ok bytes =>
      match Text.Utf8.decodeStrict? bytes with
      | some text => .ok text
      | none => .error (.io "stream did not contain valid UTF-8")

/-- The document in a file, which keeps the name of the file as its source. -/
def readDocument (s : Surroundings) (file : String) : Except HostError Document :=
  match readText s file with
  | .error e => .error e
  | .ok text =>
      match Document.read? text with
      | some d => .ok (d.withSource file)
      | none => .error .malformed

/-- A document after its run: how the run and the teardown went, and what they left. -/
structure Finished where
  outcome : Except HostError Unit
  teardown : Except HostError Unit
  state : HostState

/-- Run a document and tear it down, whatever the run came to. -/
def finish (s : Surroundings) (document : Document) (bindsDataModel : Bool) : Finished :=
  let host := Host.ofDocument (Registry.standard s.input .working) document
  let start := HostState.fresh (if bindsDataModel then some .empty else none)
    ⟨.empty, s.environment⟩
  let (outcome, afterRun) := host.run start
  let (teardown, state) := host.teardown afterRun
  ⟨outcome, teardown, state⟩

/-- What went wrong first, if anything did: the run comes before the teardown. -/
def Finished.error? (f : Finished) : Option HostError :=
  match f.outcome, f.teardown with
  | .error e, _ => some e
  | .ok _, .error e => some e
  | .ok _, .ok _ => none

/-- What is said on the way: the prompts, then the log. -/
def Finished.said (f : Finished) : String :=
  String.join f.state.prompts ++ String.join (f.state.log.toList.map logLine)

/-- What the program prints about a finished run. -/
def Finished.output (f : Finished) : Output :=
  match f.error? with
  | some e => ⟨1, "", f.said ++ errorLine e⟩
  | none => ⟨0, Json.pretty (.ofDict f.state.snapshot) ++ "\n", f.said⟩

/-- What `namespaces` prints: the URIs of the standard registry in their order. -/
def listing : String :=
  "Registered namespaces:\n"
    ++ String.join ((Registry.standard default .working).uris.map fun uri => "  " ++ uri ++ "\n")

/-- What is printed about a topic. -/
def Topic.explanation : Topic → String
  | .program =>
      "Pluggable action namespaces for markup-driven state-machine interpreters\n\n"
        ++ "Usage: scxml-ext <COMMAND>\n\nCommands:\n"
        ++ "  run         Run a document and print the resulting data model as JSON\n"
        ++ "  namespaces  List the registered namespace URIs\n"
        ++ "  help        Print this message or the help of the given subcommand(s)\n\nOptions:\n"
        ++ "  -h, --help     Print help\n  -V, --version  Print version\n"
  | .run =>
      "Run a document and print the resulting data model as JSON\n\n"
        ++ "Usage: scxml-ext run [OPTIONS] <FILE>\n\nArguments:\n"
        ++ "  <FILE>  Path to the XML document\n\nOptions:\n"
        ++ "      --no-datamodel  Run without a data model bound\n"
        ++ "  -h, --help          Print help\n"
  | .namespaces =>
      "List the registered namespace URIs\n\nUsage: scxml-ext namespaces\n\nOptions:\n"
        ++ "  -h, --help  Print help\n"
  | .help =>
      "Print this message or the help of the given subcommand(s)\n\n"
        ++ "Usage: scxml-ext help [COMMAND]...\n\nArguments:\n"
        ++ "  [COMMAND]...  Print help for the subcommand(s)\n"

/-- What the program prints when it is asked to do something. -/
def perform (s : Surroundings) : Command → Output
  | .run file bindsDataModel =>
      match readDocument s file with
      | .error e => .failure e
      | .ok document => (finish s document bindsDataModel).output
  | .namespaces => ⟨0, listing, ""⟩
  | .help topic => ⟨0, topic.explanation, ""⟩
  | .version => ⟨0, "scxml-ext 0.1.0\n", ""⟩

/-- What the program prints for its arguments. -/
def answer (s : Surroundings) (args : List String) : Output :=
  match parse args with
  | some command => perform s command
  | none => ⟨2, "", Topic.program.explanation⟩

/-! ### Input that arrives while the program runs -/

/-- The prompts shown by the time a run first asks for more input than there is; none when it never
does. -/
def promptsWhenStarved? : List String → List Event → Option (List String)
  | _, [] => none
  | shown, .prompted _ text :: rest => promptsWhenStarved? (shown ++ [text]) rest
  | shown, .consumed _ bytes :: rest =>
      if bytes.getLast? = some InputStream.newline then promptsWhenStarved? shown rest
      else some shown
  | shown, _ :: rest => promptsWhenStarved? shown rest

end MarkupActions.Cli
