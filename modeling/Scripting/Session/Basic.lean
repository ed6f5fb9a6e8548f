import Scripting.Debug.Log
import Scripting.Evaluation.Function
import Scripting.Parser.File

namespace Scripting

/-!
# Sessions

A session keeps what scripts leave behind: to the parser the declared names, and to the evaluator
the variables and functions.  Parsing a script changes the session only if it succeeds.
-/

/-- How scripts are read and run. -/
structure Options where
  tiered : Bool
  strict : Bool
  /-- Numbers that are not zero hold as conditions. -/
  numericTruth : Bool
  /-- How deeply calls may be nested; a limit that is not positive stands for the usual one. -/
  maxDepth : Int
  /-- Immutable variables that every script sees. -/
  globals : Table Value
  hostFunctions : List HostFunction

namespace Options

/-- The usual limit on nested calls. -/
def usualDepth : Nat := 2000

/-- The options that are used when nothing is asked for. -/
def usual : Options := ⟨false, false, false, 0, ∅, []⟩

/-- How deeply calls may be nested. -/
def depthLimit (options : Options) : Nat :=
  if options.maxDepth ≤ 0 then usualDepth else options.maxDepth.toNat

/-- The grammar of scripts. -/
def grammar (options : Options) : Grammar :=
  ⟨options.tiered, options.strict⟩

end Options

/-- A parsed file with the number that its functions carry. -/
structure Script where
  origin : Nat
  file : File

/-- What scripts have left behind. -/
structure Session where
  options : Options
  logger : Option Logger
  /-- The top-level variables and the functions that the parser knows. -/
  declared : Declarations
  /-- The global variables. -/
  global : Frame Variable
  functions : FunctionTable
  /-- The number of the next script. -/
  nextOrigin : Nat
  /-- How many calls of functions of the host there were. -/
  hostCalls : Nat

namespace Session

/-- The global variables at the start. -/
def initialFrame (options : Options) : Frame Variable :=
  options.globals.toList.foldl
    (fun frame (name, value) => frame.define name ⟨value, false⟩) (.empty "global")

/-- The names that the parser knows at the start: built-in functions, whose arguments are checked
at each call, and the global variables, which were declared nowhere. -/
def initialDeclarations (options : Options) (functions : FunctionTable) : Declarations where
  scope :=
    options.globals.keys.foldl
      (fun scope name => scope.define name ⟨false, .none⟩) (.empty "global")
  functions :=
    functions.keys.foldl (fun table name => table.insert name ⟨none, true⟩) ∅

/-- A new session.  It cannot be had if the host redefines a standard function. -/
def create (options : Options) (logger : Option Logger) : Except StandardNameTaken Session := do
  let functions ← FunctionTable.registerAll standardFunctions options.hostFunctions
  .ok
    { options
      logger
      declared := initialDeclarations options functions
      global := initialFrame options
      functions
      nextOrigin := 0
      hostCalls := 0 }

/-- Give a number to a file that was parsed elsewhere. -/
def adopt (session : Session) (file : File) : Script × Session :=
  (⟨session.nextOrigin, file⟩, { session with nextOrigin := session.nextOrigin + 1 })

/-- Parse tokens against the declarations of the session, which become those of the script if it
is accepted. -/
def parseTokens (session : Session) (tokens : List Token) :
    Except SyntaxError (Script × Session) :=
  let parsed := Scripting.parseTokens session.options.grammar session.declared tokens
  match parsed.outcome with
  | .error error => .error error
  | .ok file =>
      .ok ({ session with declared := ⟨parsed.scope, parsed.functions⟩ }.adopt file)

/-- The record of the tokens of a script. -/
def tokenRecord (name : String) (tokens : List Token) : LogMessage :=
  .text (name ++ ": " ++ toString tokens.length ++ " tokens: ["
    ++ " ".intercalate (Token.shownAll tokens) ++ "]")

/-- Parse a script with a name, and what is logged about it. -/
def parse (session : Session) (name text : String) :
    List LogRecord × Except SyntaxError (Script × Session) :=
  match scan name text with
  | .error error =>
      let error := SyntaxError.lexical error
      (logged session.logger .errors (.text error.message), .error error)
  | .ok tokens =>
      let tokensLogged := logged session.logger .tokens (tokenRecord name tokens)
      match session.parseTokens tokens with
      | .error error =>
          (tokensLogged ++ logged session.logger .errors (.text error.message), .error error)
      | .ok result => (tokensLogged, .ok result)

end Session

end Scripting
