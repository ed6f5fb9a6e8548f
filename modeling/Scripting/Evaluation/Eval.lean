import Scripting.Evaluation.Builtin
import Scripting.Tree.Text

namespace Scripting

/-!
# Evaluation

Expressions, statements, calls and whole files are run by mutually recursive functions.  Each call
of one of them spends a unit of fuel, so that they are total; a run that needs more fuel than it
was given says so and nothing else.
-/

namespace Evaluation

/-- The failure of a cancelled run at a position. -/
def interruption (environment : Environment) (position : Position) : Failure :=
  .failedAt position (.ofContext environment.cancellation.reason)

/-- A variable that an expression reads. -/
def readVariable (identifier : Identifier) (state : State) : Outcome Value :=
  match state.scopes.find? identifier.text with
  | some entry => .ok entry.value state
  | none => .fail (.failedAt identifier.position (.undefinedVariable identifier.text)) state

/-- Assign to a variable. -/
def writeVariable (identifier : Identifier) (value : Value) (state : State) : Outcome Signal :=
  match assignVariable state.scopes identifier.text value with
  | .ok scopes => .ok .normal { state with scopes }
  | .error fault => .fail (.failedAt identifier.position (.assignment fault)) state

/-- Apply an operator at a position. -/
def applyOperator (operator : Operator) (position : Position) (left right : Value)
    (state : State) : Outcome Value :=
  match operator.apply left right with
  | .ok result => .ok result state
  | .error error => .fail (.failedAt position (.operation error)) state

/-- What a loop at a position visits. -/
def loopElements (position : Position) (bound : Value) (state : State) : Outcome Elements :=
  if bound.isNull then
    .fail (.failedAt position .nullBound) state
  else
    match bound.elements with
    | .ok elements => .ok elements state
    | .error fault => .fail (.failedAt position (.bound fault)) state

/-- What a call comes to when the body of its function has ended.  An error is wrapped, unless it
says that calls are nested too deeply. -/
def callResult (position : Position) (name : String) : Outcome Signal → Outcome Value
  | .ok (.returned value) state => .ok value state
  | .ok _ state => .ok .null state
  | .fail (.error error) state =>
      if error.exceedsDepth then
        .fail (.error error) state
      else
        .fail (.error (.inFunction position name error)) state
  | .fail failure state => .fail failure state

/-- Define a function of a script.  Its name must be new, unless the script has run before and this
very function has been defined. -/
def defineFunction (function : UserFunction) (state : State) : Outcome Unit :=
  let defined := { state with functions := state.functions.insert function.name (.user function) }
  match state.functions[function.name]? with
  | none => .ok () defined
  | some (.builtin _) => .fail (.failedAt function.position (.builtinRedefined function.name)) state
  | some (.user previous) =>
      if previous.SharesBody function then
        .ok () defined
      else
        .fail (.failedAt function.position
          (.functionRedefined function.name previous.position)) state

/-- Let the definitions of a script take effect. -/
def hoist (origin : Nat) : List Item → State → Outcome Unit
  | [], state => .ok () state
  | .function declaration :: rest, state =>
      (defineFunction ⟨origin, declaration⟩ state).andThen fun _ state => hoist origin rest state
  | .type declaration :: rest, state =>
      let name := declaration.name.text
      hoist origin rest (state.define name (.type name) false)
  | .statement _ :: rest, state => hoist origin rest state

/-- A statement in a few words. -/
def summary : Stmt → String
  | .expr value => value.text
  | .declare mutable name value _ =>
      (if mutable then "var* " else "var ") ++ name.text ++ " = " ++ value.text
  | .assign _ name value => name.text ++ " = " ++ value.text
  | .choice .. => "if"
  | .forEach key bound _ _ => "for " ++ key.text ++ " in " ++ bound.text
  | .whileLoop condition _ _ => "while " ++ condition.text
  | .return .. => "return"
  | .control kind _ => kind.keyword.text

/-- What is logged before a top-level statement runs. -/
def statementRecord (logger : Option Logger) (inner : Stmt) : List LogRecord :=
  logged logger .stateChange (.text (inner.position.text ++ ": " ++ summary inner))

/-- What becomes of a file when its statements have ended: a crash is an error of the whole file,
and the end is logged. -/
def fileResult (logger : Option Logger) (position : Position) : Outcome Unit → Outcome Unit
  | .ok () state => .ok () (state.note (logged logger .timing .runTook))
  | .fail .outOfFuel state => .fail .outOfFuel state
  | .fail (.error error) state =>
      .fail (.error error)
        (state.note (logged logger .timing .runTook
          ++ logged logger .errors (.text error.message)))
  | .fail (.crash message) state =>
      let error := EvalError.failed position (.crash message)
      .fail (.error error)
        (state.note (logged logger .timing .runTook
          ++ logged logger .errors (.text error.message)))

/-- What a script that a script runs gives back: nothing, or the wording of its error. -/
def scriptResult (caller : State) : Outcome Unit → Outcome Value
  | .ok () state => .ok .null (caller.leaveScript state)
  | .fail (.error error) state => .ok (.string error.message) (caller.leaveScript state)
  | .fail failure state => .fail failure (caller.leaveScript state)

mutual

/-- Evaluate an expression. -/
def evalExpr (fuel : Nat) (environment : Environment) (expression : Expr) (state : State) :
    Outcome Value :=
  match fuel with
  | 0 => .fail .outOfFuel state
  | fuel + 1 =>
      match expression with
      | .literal _ value _ => .ok (.ofLiteral value) state
      | .null _ => .ok .null state
      | .name identifier => readVariable identifier state
      | .paren inner _ => evalExpr fuel environment inner state
      | .template parts _ =>
          (evalAll fuel environment parts state).andThen fun values state =>
            .ok (.string (String.join (values.map Value.text))) state
      | .list elements _ =>
          (evalAll fuel environment elements state).andThen fun values state =>
            .ok (.list values) state
      | .binary operator left right =>
          (evalExpr fuel environment left state).andThen fun first state =>
            (evalExpr fuel environment right state).andThen fun second state =>
              applyOperator operator left.position first second state
      | .call function arguments =>
          if environment.cancelled state then
            .fail (interruption environment function.position) state.glance
          else
            match state.functions[function.text]? with
            | none =>
                .fail (.failedAt function.position (.undefinedFunction function.text))
                  state.glance
            | some callee =>
                (evalAll fuel environment arguments state.glance).andThen fun values state =>
                  callFunction fuel environment function.position callee values state

/-- Evaluate expressions in order. -/
def evalAll (fuel : Nat) (environment : Environment) (expressions : List Expr) (state : State) :
    Outcome (List Value) :=
  match fuel with
  | 0 => .fail .outOfFuel state
  | fuel + 1 =>
      match expressions with
      | [] => .ok [] state
      | first :: rest =>
          (evalExpr fuel environment first state).andThen fun value state =>
            (evalAll fuel environment rest state).andThen fun values state =>
              .ok (value :: values) state

/-- Evaluate a condition. -/
def evalCondition (fuel : Nat) (environment : Environment) (expression : Expr) (state : State) :
    Outcome Bool :=
  match fuel with
  | 0 => .fail .outOfFuel state
  | fuel + 1 =>
      (evalExpr fuel environment expression state).andThen fun value state =>
        match value.truth environment.options.numericTruth with
        | .ok holds => .ok holds state
        | .error fault => .fail (.failedAt expression.position (.condition fault)) state

/-- Call a function with arguments. -/
def callFunction (fuel : Nat) (environment : Environment) (position : Position)
    (function : Function) (arguments : List Value) (state : State) : Outcome Value :=
  match fuel with
  | 0 => .fail .outOfFuel state
  | fuel + 1 =>
      match function with
      | .user callee =>
          if arguments.length ≠ callee.parameters.length then
            .fail (.failedAt position
              (.wrongArity callee.name callee.parameters.length arguments.length)) state
          else if environment.options.depthLimit ≤ state.depth then
            .fail (.failedAt position
              (.depthExceeded callee.name environment.options.depthLimit)) state
          else
            (callResult position callee.name
              (execAll fuel environment callee.declaration.body.statements
                (state.enterCall callee arguments))).afterwards state.leaveCall
      | .builtin callee =>
          match callee.argumentFault? arguments with
          | some fault => .fail (.failedAt position fault) state
          | none =>
              let took := logged environment.logger .timing (.callTook callee.name)
              match callee with
              | .host inner => inner.call took position arguments state
              | .standard inner =>
                  (callStandard fuel environment position inner arguments state).afterwards
                    fun state => state.note took

/-- Call a standard function with arguments. -/
def callStandard (fuel : Nat) (environment : Environment) (position : Position)
    (function : Standard) (arguments : List Value) (state : State) : Outcome Value :=
  match fuel with
  | 0 => .fail .outOfFuel state
  | fuel + 1 =>
      match function with
      | .print => .ok .null (state.print (onlyArgument arguments).text)
      | .nanoTime => state.look environment.clock.nanoTime
      | .currentMillis => state.look environment.clock.currentMillis
      | .typeOf => .ok (.string (onlyArgument arguments).typeName) state
      | .length => lengthCall position (onlyArgument arguments) state
      | .runScript =>
          runScript fuel environment position (onlyArgument arguments).text state

/-- Run the text of a script in a session of its own, which has the options and the functions of
the host, but neither variables nor functions of the caller. -/
def runScript (fuel : Nat) (environment : Environment) (position : Position) (text : String)
    (state : State) : Outcome Value :=
  match fuel with
  | 0 => .fail .outOfFuel state
  | fuel + 1 =>
      let name := Standard.runScript.name
      let options := { environment.options with globals := ∅ }
      let logger := environment.logger.map fun logger => logger.within name
      match Session.create options logger with
      | .error error => .fail (.failedAt position (.builtin name (.setup error))) state
      | .ok session =>
          match session.parse name text with
          | (records, .error error) => .ok (.string error.message) (state.note records)
          | (records, .ok (script, session)) =>
              scriptResult state
                (runFile fuel { environment with options, logger } script
                  (state.enterScript session records))

/-- Execute statements in order, up to the first that does not end normally. -/
def execAll (fuel : Nat) (environment : Environment) (statements : List Stmt) (state : State) :
    Outcome Signal :=
  match fuel with
  | 0 => .fail .outOfFuel state
  | fuel + 1 =>
      match statements with
      | [] => .ok .normal state
      | first :: rest =>
          (exec fuel environment first state).andThen fun signal state =>
            match signal with
            | .normal => execAll fuel environment rest state
            | signal => .ok signal state

/-- Execute a statement. -/
def exec (fuel : Nat) (environment : Environment) (statement : Stmt) (state : State) :
    Outcome Signal :=
  match fuel with
  | 0 => .fail .outOfFuel state
  | fuel + 1 =>
      match statement with
      | .expr value =>
          (evalExpr fuel environment value state).andThen fun _ state => .ok .normal state
      | .declare mutable name value _ =>
          (evalExpr fuel environment value state).andThen fun value state =>
            .ok .normal (state.define name.text value mutable)
      | .assign defines name value =>
          (evalExpr fuel environment value state).andThen fun value state =>
            if defines then
              .ok .normal (state.define name.text value true)
            else
              writeVariable name value state
      | .choice branches _ => execChoice fuel environment branches state
      | .forEach key bound body place =>
          (evalExpr fuel environment bound state).andThen fun value state =>
            (loopElements bound.position value state).andThen fun elements state =>
              execFor fuel environment place key.text body.statements elements state
      | .whileLoop condition body place =>
          execWhile fuel environment place condition body.statements state
      | .return none _ => .ok (.returned .null) state
      | .return (some value) _ =>
          (evalExpr fuel environment value state).andThen fun value state =>
            .ok (.returned value) state
      | .control .leave _ => .ok .broke state
      | .control .next _ => .ok .continued state

/-- Execute the first branch whose condition holds. -/
def execChoice (fuel : Nat) (environment : Environment) (branches : List Branch)
    (state : State) : Outcome Signal :=
  match fuel with
  | 0 => .fail .outOfFuel state
  | fuel + 1 =>
      match branches with
      | [] => .ok .normal state
      | first :: rest =>
          (evalCondition fuel environment first.condition state).andThen fun holds state =>
            if holds then
              (execAll fuel environment first.body.statements (state.enter "if")).afterwards
                State.leave
            else
              execChoice fuel environment rest state

/-- Execute statements for each element, bound to a name. -/
def execFor (fuel : Nat) (environment : Environment) (position : Position) (key : String)
    (statements : List Stmt) (elements : Elements) (state : State) : Outcome Signal :=
  match fuel with
  | 0 => .fail .outOfFuel state
  | fuel + 1 =>
      match elements.next? with
      | none => .ok .normal state
      | some (element, rest) =>
          if environment.cancelled state then
            .fail (interruption environment position) state.glance
          else
            let inside := (state.glance.enter "for loop").define key element false
            ((execAll fuel environment statements inside).afterwards State.leave).andThen
              fun signal state =>
                match signal with
                | .returned value => .ok (.returned value) state
                | .broke => .ok .normal state
                | .normal | .continued =>
                    execFor fuel environment position key statements rest state

/-- Execute statements as long as a condition holds. -/
def execWhile (fuel : Nat) (environment : Environment) (position : Position)
    (condition : Expr) (statements : List Stmt) (state : State) : Outcome Signal :=
  match fuel with
  | 0 => .fail .outOfFuel state
  | fuel + 1 =>
      if environment.cancelled state then
        .fail (interruption environment position) state.glance
      else
        (evalCondition fuel environment condition state.glance).andThen fun holds state =>
          if holds then
            let inside := state.enter "while loop"
            ((execAll fuel environment statements inside).afterwards State.leave).andThen
              fun signal state =>
                match signal with
                | .returned value => .ok (.returned value) state
                | .broke => .ok .normal state
                | .normal | .continued =>
                    execWhile fuel environment position condition statements state
          else
            .ok .normal state

/-- Execute the statements of a file in order, and log each before. -/
def execItems (fuel : Nat) (environment : Environment) (items : List Item) (state : State) :
    Outcome Unit :=
  match fuel with
  | 0 => .fail .outOfFuel state
  | fuel + 1 =>
      match items with
      | [] => .ok () state
      | .statement inner :: rest =>
          (exec fuel environment inner
              (state.note (statementRecord environment.logger inner))).andThen
            fun _ state => execItems fuel environment rest state
      | .function _ :: rest => execItems fuel environment rest state
      | .type _ :: rest => execItems fuel environment rest state

/-- Run a file: its definitions take effect, then its statements are executed up to the first
error. -/
def runFile (fuel : Nat) (environment : Environment) (script : Script) (state : State) :
    Outcome Unit :=
  match fuel with
  | 0 => .fail .outOfFuel state
  | fuel + 1 =>
      fileResult environment.logger script.file.position
        ((hoist script.origin script.file.items state).andThen fun _ state =>
          execItems fuel environment script.file.items state)

end

end Evaluation

end Scripting
