import Scripting.Proofs.Token.Lexemes
import Scripting.Proofs.Token.Runs

namespace Scripting

/-!
# Where tokens come from

Whatever a script is, each of its tokens is a quoted text or what one step of the scanner takes, and
so are the tokens of its interpolations.
-/

/-- A token of some script, or of an interpolation in one. -/
def Token.Scanned (token : Token) : Prop :=
  ∃ file text tokens, scan file text = .ok tokens ∧ token ∈ Token.flattenedAll tokens

namespace Scanner

/-- How a token comes about: a word, a number or a mark is taken by a step of the scanner, and a
constant or a template is a quoted text. -/
inductive Made : Token → Prop where
  | step
      {braces nextBraces : Option Nat}
      {before : List Token}
      {source after : Source}
      {character : Char}
      {rest : List Char}
      {token : Token}
      (shape : source.ahead = character :: rest)
      (stepped :
        step braces before source character rest = .next nextBraces (some token) after) :
      Made token
  | constant
      {content : String}
      {position : Position} :
      Made (.literal content (.string content) position)
  | template
      {parts : List Part}
      {position : Position} :
      Made (.template parts position)

/-- Every one of some tokens and of those in their interpolations is made by the scanner. -/
def MadeAll (tokens : List Token) : Prop :=
  ∀ token ∈ Token.flattenedAll tokens, Made token

theorem madeAll_nil : MadeAll [] :=
  List.forall_mem_nil _

/-- The order of tokens does not matter. -/
theorem MadeAll.reverse
    {tokens : List Token}
    (made : MadeAll tokens) :
    MadeAll tokens.reverse := by
  intro inner member
  obtain ⟨token, isOne, inside⟩ := Token.mem_flattenedAll.mp member
  exact made inner (Token.mem_flattenedAll.mpr ⟨token, List.mem_reverse.mp isOne, inside⟩)

/-- A token is added with those inside of it. -/
theorem MadeAll.cons
    {token : Token}
    {tokens : List Token}
    (first : ∀ inner ∈ token.flattened, Made inner)
    (rest : MadeAll tokens) :
    MadeAll (token :: tokens) :=
  fun inner member => (List.mem_append.mp member).elim (first inner) (rest inner)

/-- A fragment adds no interpolation. -/
theorem mem_flush
    {text : List Char}
    {parts : List Part}
    {tokens : List Token}
    (member : .interpolation tokens ∈ flush text parts) :
    .interpolation tokens ∈ parts := by
  unfold flush at member
  split at member
  · exact member
  · simpa using member

/-- What a reading leads to, if nothing is refused. -/
def LeadsTo {Result : Type} (Good : Result → Prop) :
    Except LexicalError (Result × Source) → Prop
  | .ok (result, _) => Good result
  | .error _ => True

/-- What is left at the end of a text are the tokens so far. -/
theorem leadsTo_endOfText
    {tokens : List Token}
    (made : MadeAll tokens)
    (braces : Option Nat)
    (source : Source) :
    LeadsTo MadeAll (endOfText braces tokens source) := by
  cases braces with
  | none =>
      exact made.reverse
  | some depth =>
      trivial

/-- What a step takes is made by it. -/
theorem MadeAll.step
    {braces nextBraces : Option Nat}
    {tokens : List Token}
    {taken : Option Token}
    {source after : Source}
    {character : Char}
    {rest : List Char}
    (made : MadeAll tokens)
    (shape : source.ahead = character :: rest)
    (stepped : Scanner.step braces tokens source character rest = .next nextBraces taken after) :
    MadeAll (taken.toList ++ tokens) := by
  cases taken with
  | none =>
      exact made
  | some token =>
      obtain ⟨text, -, spelled, -⟩ := lexeme_of_step shape stepped
      refine .cons ?_ made
      rw [spelled.flattened]
      exact List.forall_mem_singleton.mpr (.step shape stepped)

/-- Every token inside a part of a template is made by the scanner. -/
def PartsMade (parts : List Part) : Prop :=
  ∀ tokens, .interpolation tokens ∈ parts → MadeAll tokens

/-- A fragment has no tokens of its own. -/
theorem PartsMade.flush
    {parts : List Part}
    (made : PartsMade parts)
    (text : List Char) :
    PartsMade (flush text parts) :=
  fun tokens member => made tokens (mem_flush member)

/-- A template is made with the tokens inside it. -/
theorem PartsMade.template
    {parts : List Part}
    (made : PartsMade parts)
    (position : Position) :
    ∀ inner ∈ (Token.template parts.reverse position).flattened, Made inner := by
  refine List.forall_mem_cons.mpr ⟨.template, fun inner member => ?_⟩
  obtain ⟨tokens, isPart, inside⟩ := Part.mem_flattenedAll.mp member
  exact made tokens (List.mem_reverse.mp isPart) inner inside

/-- An interpolation is added with its tokens. -/
theorem PartsMade.interpolation
    {parts : List Part}
    {tokens : List Token}
    (made : PartsMade parts)
    (inside : MadeAll tokens) :
    PartsMade (.interpolation tokens :: parts) := by
  intro others member
  rcases List.mem_cons.mp member with isFirst | later
  · cases isFirst
    exact inside
  · exact made others later

mutual

/-- Tokens are made after those that are there already. -/
theorem ScansTokens.made
    {braces : Option Nat}
    {tokens : List Token}
    {source : Source}
    {outcome : Except LexicalError (List Token × Source)} :
    ScansTokens braces tokens source outcome → MadeAll tokens → LeadsTo MadeAll outcome
  | .ended _, made => leadsTo_endOfText made _ _
  | .next shape stepped others, made => others.made (made.step shape stepped)
  | .text _ _ quoted others, made => others.made (.cons (quoted.made (by simp [PartsMade])) made)
  | .faultyText _ _ _, _ => trivial
  | .close _ _, made => made.reverse
  | .refuse _ _, _ => trivial

/-- A quoted text is made after its interpolations so far. -/
theorem ScansText.made
    {quote : Char}
    {opened : Position}
    {parts : Option (List Part)}
    {text : List Char}
    {source : Source}
    {outcome : Except LexicalError (Token × Source)} :
    ScansText quote opened parts text source outcome → PartsMade (parts.getD []) →
      LeadsTo (fun token => ∀ inner ∈ token.flattened, Made inner) outcome
  | .ended _, _ => trivial
  | .constant _, _ => List.forall_mem_singleton.mpr .constant
  | .template _, made => (made.flush _).template _
  | .escape _ _ _ _ others, made => others.made made
  | .openEscape _ _ _, _ => trivial
  | .unknownEscape _ _ _ _, _ => trivial
  | .interpolation _ _ inner others, made =>
      others.made ((made.flush _).interpolation (inner.made madeAll_nil))
  | .faultyInterpolation _ _ _, _ => trivial
  | .plain _ _ others, made => others.made made

end

end Scanner

/-- A token of a script was made by one of the steps. -/
theorem Token.Scanned.made
    {token : Token}
    (scanned : token.Scanned) :
    Scanner.Made token := by
  obtain ⟨file, text, tokens, scannedAll, member⟩ := scanned
  obtain ⟨final, run⟩ := Scanner.scansTokens_of_scanChars scannedAll
  exact run.made Scanner.madeAll_nil token member

end Scripting
