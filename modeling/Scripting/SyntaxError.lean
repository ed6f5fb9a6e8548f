import Scripting.Token.Scanner

namespace Scripting

/-!
# Errors of reading a script

A script is refused because of its characters, because of a token that does not fit, or because it
breaks a rule of the language.  An error inside a function or a template names both places.
-/

/-- What was wanted in place of a token. -/
inductive Expectation where
  | kind (wanted : TokenKind)
  | numbered (number : Nat)
  | anyToken
  | endOfInterpolation
  deriving Repr, DecidableEq

namespace Expectation

/-- How an expectation is named. -/
def text : Expectation → String
  | .kind wanted => wanted.text
  | .numbered number => TokenKind.numberText number
  | .anyToken => "a token"
  | .endOfInterpolation => "end of interpolation"

/-- Whether a token of a kind is what was wanted. -/
def accepts : Expectation → TokenKind → Bool
  | .kind wanted, found => wanted = found
  | .numbered number, found => TokenKind.ofNumber? number = some found
  | .anyToken, _ => true
  | .endOfInterpolation, _ => false

end Expectation

/-- A rule that a script breaks. -/
inductive RuleFault where
  | badStart (token : Token)
  | nestedFunction
  | nestedType
  | builtinRedefined (name : String)
  | functionRedefined (name : String)
  | variableRedefined (name : String) (previous : Position)
  | returnOutside
  | controlOutside (keyword : Keyword)
  | missingIn (word : String)
  | boundNotIterable (text : String) (kind : LiteralKind)
  | boundNull
  | undeclaredAssignment (name : String)
  | immutable (name : String) (declared : Position)
  | badContinuation (name : String)
  | notValue (token : Token)
  | undefinedVariable (name : String)
  | undefinedFunction (name : String)
  | wrongArity (name : String) (expected actual : Nat)
  | emptyInterpolation

namespace RuleFault

/-- The wording of a broken rule. -/
def message : RuleFault → String
  | .badStart token => "unexpected " ++ token.shown ++ " at start of statement"
  | .nestedFunction => "functions may only be defined at top level"
  | .nestedType => "types may only be defined at top level"
  | .builtinRedefined name => "cannot redefine built-in function " ++ name
  | .functionRedefined name => "function " ++ name ++ " is already defined"
  | .variableRedefined name previous =>
      "variable " ++ name ++ " is already defined at " ++ previous.text
  | .returnOutside => "return outside function"
  | .controlOutside keyword => keyword.text ++ " outside loop"
  | .missingIn word => "expected 'in' after for loop variable, got " ++ word
  | .boundNotIterable text kind =>
      "for loop bound " ++ text ++ " (" ++ kind.text ++ ") is not iterable"
  | .boundNull => "for loop bound null is not iterable"
  | .undeclaredAssignment name => "assignment to undefined variable " ++ name
  | .immutable name declared =>
      "variable " ++ name ++ " is immutable (defined at " ++ declared.text ++ ")"
  | .badContinuation name => "expected an operator or parenthesis after identifier " ++ name
  | .notValue token => "expected a value, got " ++ token.shown
  | .undefinedVariable name => "variable " ++ name ++ " is not defined"
  | .undefinedFunction name => "function " ++ name ++ " is not defined"
  | .wrongArity name expected actual =>
      "function " ++ name ++ " expects " ++ toString expected ++ " arguments, got "
        ++ toString actual
  | .emptyInterpolation => "empty interpolation in string template"

end RuleFault

/-- A construct whose inside an error can be in. -/
inductive Enclosure where
  | function (name : String)
  | template
  deriving Repr, DecidableEq

namespace Enclosure

/-- How an error in a construct is introduced. -/
def message : Enclosure → String
  | .function name => "in definition of function " ++ name
  | .template => "in string template"

end Enclosure

/-- Why a script is refused. -/
inductive SyntaxError where
  | lexical (error : LexicalError)
  | unexpected (position : Position) (expected : Expectation) (got : Option Token)
      (context : String)
  | rule (position : Position) (fault : RuleFault)
  | inside (position : Position) (enclosure : Enclosure) (cause : SyntaxError)

namespace SyntaxError

/-- The wording of an error. -/
def message : SyntaxError → String
  | .lexical error => error.position.text ++ ": " ++ error.fault.message
  | .unexpected position expected got context =>
      position.text ++ ": expected " ++ expected.text ++ ", got "
        ++ (match got with
          | some token => token.shown
          | none => "end of input")
        ++ (if context = "" then "" else " (" ++ context ++ ")")
  | .rule position fault => position.text ++ ": " ++ fault.message
  | .inside position enclosure cause =>
      position.text ++ ": " ++ enclosure.message ++ ": " ++ cause.message

/-- Whether the script was refused because it ended too early. -/
def endsEarly : SyntaxError → Bool
  | .lexical error => error.fault.endsEarly
  | .unexpected _ _ got _ => got.isNone
  | .rule _ _ => false
  | .inside _ _ cause => cause.endsEarly

end SyntaxError

end Scripting
