import Scripting.CommandLine.Emission

namespace Scripting

/-!
# Interactive sessions

Each line that is entered is run in one session.  A line that ends too early waits for the lines
after it.  Lines that start with a colon ask about the session, unless something waits.
-/

/-- The version of the program. -/
def programVersion : String := "0.1.0-dev"

/-- An interactive session. -/
structure Repl where
  session : Session
  /-- The lines that wait for their continuation. -/
  pending : String
  /-- How many lines have been entered. -/
  entered : Nat
  history : List String

/-- What a line leads to. -/
structure Reply where
  repl : Repl
  emissions : List Emission
  /-- How often the run has looked whether it is cancelled. -/
  looks : Nat
  /-- Whether the session goes on. -/
  more : Bool

namespace Repl

/-- What is written before the first line. -/
def banner : Emission :=
  .outputLine ("Nerve " ++ programVersion ++ ". Type :quit to exit.")

/-- How many entries the history holds. -/
def historyLimit : Nat := 1000

/-- A session before its first line. -/
def start (session : Session) (history : List String) : Repl :=
  ⟨session, "", 0, history⟩

/-- What is written before a line is entered. -/
def prompt (repl : Repl) : Emission :=
  .output (if repl.pending = "" then "nerve> " else "  ...> ")

/-- Remember an entry on one line, unless it repeats the one before; the oldest entries are
forgotten. -/
def remember (history : List String) (entry : String) : List String :=
  let line := entry.map fun character => if character = '\n' then ' ' else character
  if history.getLast? = some line then
    history
  else
    let longer := history ++ [line]
    longer.drop (longer.length - historyLimit)

/-- The reply that goes on with an interactive session. -/
def goOn (repl : Repl) (emissions : List Emission) (looks : Nat) : Reply :=
  ⟨repl, emissions, looks, true⟩

/-- Run what waits together with a line. -/
def enter (limits : Limits) (repl : Repl) (line : String) : Reply :=
  let text := if repl.pending = "" then line else repl.pending ++ "\n" ++ line
  let done := repl.session.exec limits ("repl" ++ toString repl.entered) text
  let repl := { repl with session := done.session }
  if done.ending.endsEarly then
    { repl with pending := text }.goOn done.emissions done.looks
  else
    { repl with pending := "", history := remember repl.history text }.goOn
      (done.emissions ++ done.ending.message?.toList.map Emission.ofError) done.looks

/-- Answer a line. -/
def feed (limits : Limits) (repl : Repl) (line : String) : Reply :=
  let repl := { repl with entered := repl.entered + 1 }
  if repl.pending ≠ "" then
    repl.enter limits line
  else
    match Text.trim line with
    | "" => repl.goOn [] 0
    | ":quit" | ":q" => ⟨repl, [], 0, false⟩
    | ":funcs" => repl.goOn [.outputLine (" ".intercalate repl.session.functionNames)] 0
    | ":vars" =>
        repl.goOn [.output ((ScopeChain.ofFrame repl.session.global).text Variable.shown)] 0
    | _ => repl.enter limits line

/-- Answer lines until the session is left or there are no more.  Each line has limits of its own,
so that one can be interrupted and the session goes on. -/
def feedAll (limits : Nat → Limits) (repl : Repl) : List String → Repl × List Emission
  | [] => (repl, [repl.prompt, .output "\n"])
  | line :: rest =>
      let reply := repl.feed (limits repl.entered) line
      if reply.more then
        let (last, emissions) := reply.repl.feedAll limits rest
        (last, repl.prompt :: reply.emissions ++ emissions)
      else
        (reply.repl, repl.prompt :: reply.emissions)

end Repl

/-- The line before a line break, without the carriage return at its end. -/
def withoutReturn (line : String) : String :=
  match line.toList.reverse with
  | '\r' :: rest => String.ofList rest.reverse
  | _ => line

/-- The lines of an input; a last line without a line break counts if it is not empty. -/
def inputLines (input : String) : List String :=
  let pieces := input.splitOn "\n"
  let last := pieces.getLast?.getD ""
  pieces.dropLast.map withoutReturn ++ (if last = "" then [] else [last])

end Scripting
