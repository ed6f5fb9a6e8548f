import Scripting.Debug.Flag

namespace Scripting

/-!
# Flags of the command line

A flag starts with one or two dashes.  A switch is on when it is named; every other flag takes its
value after an equals sign or from the next argument.  Flags end at the first other argument or
after two dashes alone.
-/

/-- A flag of the command line. -/
inductive CommandFlag where
  | treeFormat
  | config
  | debug
  | evaluate
  | emitTree
  | emitTokens
  | numericTruth
  | precedence
  | interactive
  | strict
  | version
  deriving Repr, DecidableEq

namespace CommandFlag

/-- Every flag, in the order of their names. -/
def all : List CommandFlag :=
  [.treeFormat, .config, .debug, .evaluate, .emitTree, .emitTokens, .numericTruth, .precedence,
    .interactive, .strict, .version]

/-- The name of a flag. -/
def name : CommandFlag → String
  | .treeFormat => "ast-format"
  | .config => "config"
  | .debug => "debug"
  | .evaluate => "e"
  | .emitTree => "emit-ast"
  | .emitTokens => "emit-tokens"
  | .numericTruth => "numeric-truth"
  | .precedence => "precedence"
  | .interactive => "repl"
  | .strict => "strict"
  | .version => "version"

/-- What a flag takes, in the words of the help text; a switch takes nothing. -/
def valueName? : CommandFlag → Option String
  | .treeFormat | .config | .evaluate | .precedence => some "string"
  | .debug => some "value"
  | _ => none

/-- What a flag is for, in the words of the help text. -/
def purpose : CommandFlag → String
  | .treeFormat => "AST output format (text or json) (default \"text\")"
  | .config => "Read settings from a YAML file"
  | .debug => "Debug output: comma-separated timing, state_change, errors, tokens, or all"
  | .evaluate => "Run the given script text"
  | .emitTree => "Output AST"
  | .emitTokens => "Output token stream"
  | .numericTruth => "Accept non-zero numbers as true conditions"
  | .precedence => "Operator precedence (flat or tiered)"
  | .interactive => "Start an interactive session"
  | .strict => "Reject assignment to undeclared variables"
  | .version => "Print version"

/-- The flag with a name. -/
def ofName? (name : String) : Option CommandFlag :=
  all.find? fun flag => flag.name = name

/-- The lines of the help text for a flag. -/
def help (flag : CommandFlag) : String :=
  "  -" ++ flag.name ++ (match flag.valueName? with | some word => " " ++ word | none => "")
    ++ "\n    \t" ++ flag.purpose ++ "\n"

end CommandFlag

/-- What is asked for on the command line. -/
structure Request where
  /-- The text of a script, if it is not empty. -/
  script : String
  emitTokens : Bool
  emitTree : Bool
  treeFormat : String
  /-- The path of a settings file, if it is not empty. -/
  config : String
  numericTruth : Option Bool
  strict : Option Bool
  precedence : Option String
  debug : FlagSet
  interactive : Bool
  version : Bool
  /-- The arguments after the flags. -/
  operands : List String
  deriving Repr, DecidableEq

/-- Why flags are not accepted. -/
inductive FlagError where
  | helpWanted
  | malformed (argument : String)
  | undefined (name : String)
  | needsValue (flag : CommandFlag)
  | noSwitchValue (flag : CommandFlag) (value : String)
  | noFlagList (flag : CommandFlag) (value : String) (error : UnknownFlag)
  deriving Repr, DecidableEq

namespace FlagError

/-- The wording of an error; asking for help is none. -/
def message? : FlagError → Option String
  | .helpWanted => none
  | .malformed argument => some ("bad flag syntax: " ++ argument)
  | .undefined name => some ("flag provided but not defined: -" ++ name)
  | .needsValue flag => some ("flag needs an argument: -" ++ flag.name)
  | .noSwitchValue flag value =>
      some ("invalid boolean value " ++ Text.quoted value ++ " for -" ++ flag.name
        ++ ": parse error")
  | .noFlagList flag value error =>
      some ("invalid value " ++ Text.quoted value ++ " for flag -" ++ flag.name ++ ": "
        ++ error.message)

end FlagError

/-- An argument as it stands among the flags. -/
inductive Argument where
  | operand
  | endOfFlags
  | malformed
  | flag (name : String) (value : Option String)
  deriving Repr, DecidableEq

namespace Argument

/-- A flag after its dashes. -/
def afterDashes (characters : List Char) : Argument :=
  if characters.head?.all fun first => first = '-' || first = '=' then
    .malformed
  else
    let name := String.ofList (characters.takeWhile (· ≠ '='))
    match characters.dropWhile (· ≠ '=') with
    | _ :: value => .flag name (some (String.ofList value))
    | [] => .flag name none

/-- How an argument stands among the flags; a dash alone is none. -/
def ofText (argument : String) : Argument :=
  match argument.toList with
  | ['-', '-'] => .endOfFlags
  | '-' :: '-' :: rest => afterDashes rest
  | '-' :: first :: rest => afterDashes (first :: rest)
  | _ => .operand

end Argument

/-- The value of a switch. -/
def switchValue? : String → Option Bool
  | "1" | "t" | "T" | "TRUE" | "true" | "True" => some true
  | "0" | "f" | "F" | "FALSE" | "false" | "False" => some false
  | _ => none

namespace Request

/-- The request of a command line without arguments. -/
def empty : Request where
  script := ""
  emitTokens := false
  emitTree := false
  treeFormat := "text"
  config := ""
  numericTruth := none
  strict := none
  precedence := none
  debug := .empty
  interactive := false
  version := false
  operands := []

/-- Turn a switch on or off. -/
def setSwitch (request : Request) (flag : CommandFlag) (state : Bool) : Request :=
  match flag with
  | .emitTree => { request with emitTree := state }
  | .emitTokens => { request with emitTokens := state }
  | .numericTruth => { request with numericTruth := some state }
  | .interactive => { request with interactive := state }
  | .strict => { request with strict := some state }
  | .version => { request with version := state }
  | _ => request

/-- Give a value to a flag: lists of debug flags add up, and of all other values the last one
counts. -/
def set (request : Request) (flag : CommandFlag) (value : String) : Except FlagError Request :=
  match flag with
  | .treeFormat => .ok { request with treeFormat := value }
  | .config => .ok { request with config := value }
  | .evaluate => .ok { request with script := value }
  | .precedence => .ok { request with precedence := some value }
  | .debug =>
      match request.debug.insertList value with
      | .ok debug => .ok { request with debug }
      | .error error => .error (.noFlagList flag value error)
  | _ =>
      match switchValue? value with
      | some state => .ok (request.setSwitch flag state)
      | none => .error (.noSwitchValue flag value)

/-- The flag with a name on the command line. -/
def flagNamed (name : String) : Except FlagError CommandFlag :=
  match CommandFlag.ofName? name with
  | some flag => .ok flag
  | none =>
      if name = "help" || name = "h" then .error .helpWanted else .error (.undefined name)

/-- Read arguments into a request. -/
def add (request : Request) : List String → Except FlagError Request
  | [] => .ok request
  | argument :: rest =>
      match Argument.ofText argument with
      | .operand => .ok { request with operands := argument :: rest }
      | .endOfFlags => .ok { request with operands := rest }
      | .malformed => .error (.malformed argument)
      | .flag name given => do
          let flag ← flagNamed name
          match given with
          | some value => (← request.set flag value).add rest
          | none =>
              if flag.valueName?.isNone then
                (request.setSwitch flag true).add rest
              else
                match rest with
                | [] => .error (.needsValue flag)
                | value :: rest => (← request.set flag value).add rest

/-- The request of a command line. -/
def parse (arguments : List String) : Except FlagError Request :=
  empty.add arguments

end Request

end Scripting
