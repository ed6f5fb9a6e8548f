import Scripting.CommandLine.Flag
import Scripting.CommandLine.Repl
import Scripting.CommandLine.TokenTable
import Scripting.Settings.Document
import Scripting.Tree.Json
import Scripting.Tree.Outline

namespace Scripting

/-!
# Commands

What the program does for a command line, given the files that it can read.
-/

/-- Why a file cannot be read. -/
inductive FileFault where
  | missing
  | unreadable (reason : String)
  deriving Repr, DecidableEq

namespace FileFault

/-- The wording of a fault of the file with a path. -/
def message (path : String) : FileFault → String
  | .missing => "open " ++ path ++ ": no such file or directory"
  | .unreadable reason => "read " ++ path ++ ": " ++ reason

end FileFault

/-- The files that a command can read, by their paths. -/
abbrev Files := String → Except FileFault String

/-- Why a request leads to no options. -/
inductive LoadError where
  | file (path : String) (fault : FileFault)
  | document (path : String) (error : DocumentError)
  | settings (fault : SettingsFault)

namespace LoadError

/-- The wording of an error. -/
def message : LoadError → String
  | .file path fault => fault.message path
  | .document path error => path ++ ": " ++ error.message
  | .settings fault => fault.message

end LoadError

/-- What a request is for. -/
inductive Command where
  | version
  | evaluate (text : String)
  | interact
  | showTokens (path : String)
  | showTree (path : String)
  | run (path : String)
  deriving Repr, DecidableEq

namespace Request

/-- What a request is for: of several things the first one counts. -/
def command (request : Request) : Command :=
  if request.version then
    .version
  else if request.script ≠ "" then
    .evaluate request.script
  else
    match request.operands with
    | [] => .interact
    | path :: _ =>
        if request.interactive then .interact
        else if request.emitTokens then .showTokens path
        else if request.emitTree then .showTree path
        else .run path

/-- The paths of the files that a request may read. -/
def paths (request : Request) : List String :=
  (if request.config = "" then [] else [request.config])
    ++ match request.command with
      | .showTokens path | .showTree path | .run path => [path]
      | _ => []

/-- The settings before the flags. -/
def baseSettings (request : Request) (files : Files) : Except LoadError Settings :=
  if request.config = "" then
    .ok .usual
  else
    match files request.config with
    | .error fault => .error (.file request.config fault)
    | .ok text =>
        match Settings.parse text with
        | .ok settings => .ok settings
        | .error error => .error (.document request.config error)

/-- Settings with the flags of a request, which come before those of a file. -/
def override (request : Request) (settings : Settings) : Settings :=
  { settings with
    numericTruth := request.numericTruth.getD settings.numericTruth
    strictAssign := request.strict.getD settings.strictAssign
    precedence := request.precedence.getD settings.precedence
    debug := settings.debug ++ request.debug.toList.map DebugFlag.text }

/-- The debug flags and options of a request. -/
def load (request : Request) (files : Files) : Except LoadError (FlagSet × Options) := do
  let settings := request.override (← request.baseSettings files)
  match settings.validate, settings.options with
  | .error fault, _ | .ok (), .error fault => .error (.settings fault)
  | .ok (), .ok result => .ok result

end Request

/-- The help text. -/
def helpText : String :=
  "Nerve " ++ programVersion ++ "\n\n"
    ++ "Usage: nerve [options] [file.nrv]\n"
    ++ "       nerve [options] -e 'print(\"hi\")'\n\n"
    ++ "Without a file, nerve starts an interactive session.\n\n"
    ++ "Options:\n" ++ String.join (CommandFlag.all.map CommandFlag.help)

namespace FlagError

/-- The end of a command whose flags are not accepted. -/
def transcript (error : FlagError) : Transcript :=
  match error.message? with
  | none => .finished 0 [.complaint helpText]
  | some message => .finished 2 [.complaint (message ++ "\n"), .complaint helpText]

end FlagError

/-- A command with all that it needs. -/
structure Invocation where
  request : Request
  flags : FlagSet
  options : Options
  files : Files
  /-- What bounds the entries of an interactive session, by their numbers; what else is run has the
  bounds of the first. -/
  limits : Nat → Limits

namespace Invocation

/-- The logger of a command: none if no flag is set. -/
def logger (invocation : Invocation) : Option Logger :=
  if invocation.flags.isEmpty then none else some (.ofFlags invocation.flags)

/-- A new session for a command. -/
def session (invocation : Invocation) : Except StandardNameTaken Session :=
  Session.create invocation.options invocation.logger

/-- The end of a command with an error. -/
def failed (message : String) : Transcript :=
  .finished 1 [.ofError message]

/-- Run a script with a name. -/
def runText (invocation : Invocation) (name text : String) : Transcript :=
  match invocation.session with
  | .error error => failed error.message
  | .ok session => .ofExecution (session.exec (invocation.limits 0) name text)

/-- Show the tokens of a script with a name. -/
def showTokens (name text : String) : Transcript :=
  match TokenTable.ofScript name text with
  | .ok table => .finished 0 [.output table]
  | .error table => .finished 1 [.output table]

/-- Show the tree of a script with a name. -/
def showTree (invocation : Invocation) (name text : String) : Transcript :=
  match invocation.session with
  | .error error => failed error.message
  | .ok session =>
      match session.parse name text with
      | (records, .error error) =>
          .finished 1 (records.map Emission.record ++ [.ofError error.message])
      | (records, .ok (script, _)) =>
          let shown :=
            if invocation.request.treeFormat = "json" then script.file.json.document
            else script.file.outline.text
          .finished 0 (records.map Emission.record ++ [.output shown])

/-- Continue with the text of a file. -/
def withFile (invocation : Invocation) (path : String) (next : String → Transcript) :
    Transcript :=
  match invocation.files path with
  | .ok text => next text
  | .error fault => failed (fault.message path)

/-- An interactive session before its first line. -/
def openRepl (invocation : Invocation) (history : List String) : Except StandardNameTaken Repl :=
  invocation.session.map fun session => .start session history

/-- An interactive session on lines that are all known. -/
def interact (invocation : Invocation) (lines : List String) : Transcript :=
  match invocation.openRepl [] with
  | .error error => ⟨1, [Repl.banner, .ofError error.message], some [], 0⟩
  | .ok repl =>
      let (last, emissions) := repl.feedAll invocation.limits lines
      ⟨0, Repl.banner :: emissions, some last.history, 0⟩

/-- What a command leads to, given the lines of its input. -/
def perform (invocation : Invocation) (lines : List String) : Transcript :=
  match invocation.request.command with
  | .version => .finished 0 [.outputLine ("nerve version " ++ programVersion)]
  | .evaluate text => invocation.runText "-e" text
  | .interact => invocation.interact lines
  | .showTokens path => invocation.withFile path (showTokens path)
  | .showTree path => invocation.withFile path (invocation.showTree path)
  | .run path => invocation.withFile path (invocation.runText path)

/-- The invocation of a command line, or the end of a command that cannot start. -/
def ofArguments (arguments : List String) (files : Files) (limits : Nat → Limits) :
    Except Transcript Invocation :=
  match Request.parse arguments with
  | .error error => .error error.transcript
  | .ok request =>
      if request.version then
        .ok ⟨request, .empty, .usual, files, limits⟩
      else
        match request.load files with
        | .error error => .error (.finished 2 [.ofError error.message])
        | .ok (flags, options) => .ok ⟨request, flags, options, files, limits⟩

end Invocation

/-- What a command line leads to, given the text of its input. -/
def commandTranscript (arguments : List String) (files : Files) (limits : Limits)
    (input : String) : Transcript :=
  match Invocation.ofArguments arguments files (fun _ => limits) with
  | .error transcript => transcript
  | .ok invocation => invocation.perform (inputLines input)

end Scripting
