import Std.Async.Signal
import Std.Time.DateTime.Timestamp
import Scripting.CommandLine.Command

namespace Scripting

/-!
# The program

Reads the files that a command line names, performs the command and writes what it emits.
-/

/-- A file as it can be read now. -/
def readFile (path : String) : IO (Except FileFault String) := do
  try
    let bytes ← IO.FS.readBinFile path
    return .ok (String.ofList (Text.decode bytes.toList))
  catch error =>
    match error with
    | .noFileOrDirectory .. => return .error .missing
    | .inappropriateType _ _ reason => return .error (.unreadable reason)
    | other => return .error (.unreadable (toString other))

/-- The files with some paths as they can be read now. -/
def readFiles (paths : List String) : IO Files := do
  let contents ← paths.mapM fun path => return (path, ← readFile path)
  return fun path => (contents.lookup path).getD (.error .missing)

/-- Write an emission. -/
def writeEmission (emission : Emission) : IO Unit := do
  (← IO.getStdout).putStr emission.outputText
  (← IO.getStdout).flush
  (← IO.getStderr).putStr (emission.errorText "0s")

/-- The clocks at the start of the program; each look adds a nanosecond to the first of them. -/
def readClock : IO Clock := do
  let nanoseconds ← IO.monoNanosNow
  let now ← Std.Time.Timestamp.now
  let milliseconds := Int64.ofInt now.toMillisecondsSinceUnixEpoch.val
  return ⟨fun look => Int64.ofNat (nanoseconds + look), fun _ => milliseconds⟩

/-- Attempt what can be cancelled in ever longer stretches, until it ends by itself or the user has
interrupted it.  It has ended by itself if it did not look at its context after the stretch. -/
partial def attemptIn (stretch : Nat) (interrupt : Task (Except IO.Error Int))
    (looks : Result → Nat) (attempt : Cancellation → Result) : IO Result := do
  let result := attempt (.afterLooks stretch)
  if looks result ≤ stretch then
    return result
  else if ← IO.hasFinished interrupt then
    return result
  else
    attemptIn (2 * stretch) interrupt looks attempt

/-- Attempt what can be cancelled, until it ends by itself or the user interrupts it. -/
def untilInterrupted (looks : Result → Nat) (attempt : Cancellation → Result) : IO Result := do
  let waiter ← Std.Async.Signal.Waiter.mk .sigint false
  let result ← attemptIn 4096 (← waiter.wait) looks attempt
  waiter.stop
  return result

/-- Ask for lines until the session is left or the input ends. -/
partial def converse (limits : Limits) (repl : Repl) : IO Repl := do
  writeEmission repl.prompt
  let line ← (← IO.getStdin).getLine
  match inputLines line with
  | [] => do
      writeEmission (.output "\n")
      return repl
  | entered :: _ => do
      let reply ← untilInterrupted Reply.looks fun cancellation =>
        repl.feed { limits with cancellation } entered
      reply.emissions.forM writeEmission
      if reply.more then converse limits reply.repl else return reply.repl

/-- Where the history of interactive sessions is kept. -/
def historyPath? : IO (Option String) := do
  return (← IO.getEnv "HOME").map (· ++ "/.nerve_history")

/-- The history of earlier sessions. -/
def readHistory : Option String → IO (List String)
  | none => return []
  | some path => do
      match ← readFile path with
      | .ok text => return inputLines text
      | .error _ => return []

/-- Keep the history for later sessions. -/
def writeHistory (history : List String) : Option String → IO Unit
  | none => return ()
  | some path => do
      try
        IO.FS.writeFile path (String.join (history.map (· ++ "\n")))
      catch _ =>
        return ()

/-- Hold an interactive session. -/
def interact (invocation : Invocation) : IO UInt32 := do
  writeEmission Repl.banner
  let path ← historyPath?
  match invocation.openRepl (← readHistory path) with
  | .error error =>
      writeEmission (.ofError error.message)
      return 1
  | .ok repl =>
      let last ← converse (invocation.limits 0) repl
      writeHistory last.history path
      return 0

/-- Write what a command emits, and end with its code. -/
def writeTranscript (transcript : Transcript) : IO UInt32 := do
  transcript.emissions.forM writeEmission
  return UInt32.ofNat transcript.code

/-- Perform a command line. -/
def perform (arguments : List String) : IO UInt32 := do
  let paths := ((Request.parse arguments).map Request.paths).toOption.getD []
  let files ← readFiles paths
  let limits : Limits := ⟨Nat.pow 2 62, .never, ← readClock⟩
  match Invocation.ofArguments arguments files (fun _ => limits) with
  | .error transcript => writeTranscript transcript
  | .ok invocation =>
      match invocation.request.command with
      | .interact => interact invocation
      | _ =>
          writeTranscript (← untilInterrupted Transcript.looks fun cancellation =>
            { invocation with limits := fun _ => { limits with cancellation } }.perform [])

end Scripting

/-- The command line. -/
def main (arguments : List String) : IO UInt32 :=
  Scripting.perform arguments
