import Scripting.Proofs.Source
import Scripting.Proofs.Token.Runs

namespace Scripting

/-!
# Where characters are refused

The scanner moves by steps over characters, inside quoted texts and interpolations as well, and so
it never leaves its text.  What it refuses is a character of the text, or the end of it.
-/

namespace Source

/-- A place in a text is reached after some of its characters. -/
def Inside (file : String) (text : List Char) (source : Source) : Prop :=
  ∃ offset ≤ text.length, source = atOffset file text offset

variable {file : String} {text : List Char} {source : Source}

/-- A text starts inside of itself. -/
theorem inside_ofText (file : String) (text : List Char) :
    (ofText file text).Inside file text :=
  ⟨0, Nat.zero_le _, (atOffset_zero file text).symm⟩

/-- A step stays inside of the text. -/
theorem Inside.skip (inside : source.Inside file text) : source.skip.Inside file text := by
  obtain ⟨offset, notBeyond, rfl⟩ := inside
  exact ⟨_, Nat.min_le_right _ _, skip_atOffset notBeyond⟩

/-- Several steps stay inside of the text. -/
theorem Inside.advance
    (inside : source.Inside file text)
    (count : Nat) :
    (advance count source).Inside file text := by
  induction count generalizing source with
  | zero =>
      exact inside
  | succ count inductionHypothesis =>
      exact inductionHypothesis inside.skip

end Source

namespace Scanner

/-- Where a reading of a text leads: to a place in the text, or to a fault at one. -/
def Lands {Result : Type} (file : String) (text : List Char) :
    Except LexicalError (Result × Source) → Prop
  | .ok (_, after) => after.Inside file text
  | .error error => ∃ place : Source, place.Inside file text ∧ error.position = place.position

variable {file : String} {text : List Char} {source : Source}

/-- A number is taken or refused inside of the text. -/
theorem lands_scanNumber (inside : source.Inside file text) :
    Lands file text (scanNumber source) := by
  simp only [scanNumber]
  generalize (if source.next? = some '-' then ['-'] else []) = sign
  generalize numberBody false (source.ahead.drop sign.length) = body
  split
  · exact ⟨_, inside.advance _, rfl⟩
  · split
    · exact (inside.advance _).advance _
    · exact ⟨source, inside, rfl⟩

/-- A word ends inside of the text. -/
theorem inside_scanWord (inside : source.Inside file text) :
    (scanWord source).2.Inside file text := by
  simp only [scanWord]
  split
  · exact (inside.advance _).skip
  · exact inside.advance _

/-- Where a step leads, if it takes something or refuses it. -/
def Step.Lands (file : String) (text : List Char) : Step → Prop
  | .next _ _ after => after.Inside file text
  | .text _ => True
  | .close => True
  | .refuse error => ∃ place : Source, place.Inside file text ∧ error.position = place.position

/-- Every step ends inside of the text, taken or refused. -/
theorem step_lands
    (inside : source.Inside file text)
    (braces : Option Nat)
    (tokens : List Token)
    (character : Char)
    (rest : List Char) :
    (step braces tokens source character rest).Lands file text := by
  have isCase := step_case braces tokens source character rest
  generalize step braces tokens source character rest = stepped at isCase ⊢
  cases isCase with
  | blank isBlank =>
      exact inside.skip
  | word notBlank starts =>
      exact inside_scanWord inside
  | number notBlank notName starts scanned =>
      have lands := lands_scanNumber inside
      rwa [scanned] at lands
  | noNumber notBlank notName starts refused =>
      have lands := lands_scanNumber inside
      rwa [refused] at lands
  | text notBlank notName notNumber isQuote =>
      trivial
  | close notBlank notName notNumber notQuote closes =>
      trivial
  | comment notBlank notName notNumber notQuote notClosing starts =>
      exact inside.advance _
  | mark notBlank notName notNumber notQuote notClosing notComment leads =>
      exact inside.advance _
  | noMark notBlank notName notNumber notQuote notClosing notComment refused =>
      exact ⟨source, inside, rfl⟩

/-- The end of a text is reached or refused inside of it. -/
theorem lands_endOfText
    (inside : source.Inside file text)
    (braces : Option Nat)
    (tokens : List Token) :
    Lands file text (endOfText braces tokens source) := by
  cases braces with
  | none =>
      exact inside
  | some depth =>
      exact ⟨source, inside, rfl⟩

/-- A step of the kind that is taken leads where steps lead. -/
theorem lands_of_step
    {braces : Option Nat}
    {tokens : List Token}
    {character : Char}
    {rest : List Char}
    {taken : Step}
    (inside : source.Inside file text)
    (stepped : step braces tokens source character rest = taken) :
    taken.Lands file text :=
  stepped ▸ step_lands inside braces tokens character rest

mutual

/-- Tokens are scanned inside the text. -/
theorem ScansTokens.lands
    {braces : Option Nat}
    {tokens : List Token}
    {source : Source}
    {outcome : Except LexicalError (List Token × Source)} :
    ScansTokens braces tokens source outcome → source.Inside file text → Lands file text outcome
  | .ended _, inside => lands_endOfText inside _ _
  | .next _ stepped others, inside => others.lands (lands_of_step inside stepped)
  | .text _ _ quoted others, inside => others.lands (quoted.lands ⟨_, inside, rfl⟩ inside.skip)
  | .faultyText _ _ quoted, inside => quoted.lands ⟨_, inside, rfl⟩ inside.skip
  | .close _ _, inside => inside.skip
  | .refuse _ stepped, inside => lands_of_step inside stepped

/-- A quoted text is scanned inside the text.  If it is not closed, it is refused where it was
opened, which is a place in the text too. -/
theorem ScansText.lands
    {quote : Char}
    {opened : Position}
    {parts : Option (List Part)}
    {characters : List Char}
    {source : Source}
    {outcome : Except LexicalError (Token × Source)} :
    ScansText quote opened parts characters source outcome →
      (∃ place : Source, place.Inside file text ∧ opened = place.position) →
        source.Inside file text → Lands file text outcome
  | .ended _, isPlace, _ => isPlace
  | .constant _, _, inside => inside.skip
  | .template _, _, inside => inside.skip
  | .escape _ _ _ _ others, isPlace, inside => others.lands isPlace inside.skip.skip
  | .openEscape _ _ _, _, inside => ⟨_, inside.skip, rfl⟩
  | .unknownEscape _ _ _ _, _, inside => ⟨_, inside.skip, rfl⟩
  | .interpolation _ _ inner others, isPlace, inside =>
      others.lands isPlace (inner.lands inside.skip)
  | .faultyInterpolation _ _ inner, _, inside => inner.lands inside.skip
  | .plain _ _ others, isPlace, inside => others.lands isPlace inside.skip

end

/-- Line ends alone are scanned without a fault. -/
theorem scanTokens_lineEnds
    (budget : Nat)
    (lineEnds : ∀ character ∈ source.ahead, character = '\n')
    (tokens : List Token) :
    ∃ after, scanTokens budget none tokens source = .ok (tokens.reverse, after) := by
  induction budget generalizing source with
  | zero =>
      exact ⟨source, rfl⟩
  | succ budget inductionHypothesis =>
      cases shape : source.ahead with
      | nil =>
          exact ⟨source, scanTokens_of_ended shape _ none tokens⟩
      | cons character rest =>
          rw [shape] at lineEnds
          obtain ⟨rfl, others⟩ := List.forall_mem_cons.mp lineEnds
          have stepped : step none tokens source '\n' rest = .next none none source.skip := rfl
          rw [scanTokens_succ shape, stepped]
          refine inductionHypothesis ?_
          rwa [Source.ahead_skip, shape]

end Scanner

variable {file : String} {text : List Char} {error : LexicalError}

/-- A fault is at a character of the text or at the end of it. -/
theorem exists_offset_of_fault (refused : scanChars file text = .error error) :
    ∃ offset ≤ text.length, error.position = (Source.atOffset file text offset).position := by
  have run := Scanner.scansTokens_of_fault refused
  obtain ⟨place, ⟨offset, notBeyond, rfl⟩, isThere⟩ := run.lands (Source.inside_ofText file text)
  exact ⟨offset, notBeyond, isThere⟩

/-- A text with a fault is not made of line ends alone. -/
theorem count_lineEnds_lt_of_fault (refused : scanChars file text = .error error) :
    text.count '\n' < text.length := by
  refine Nat.lt_of_le_of_ne List.count_le_length fun all => ?_
  have lineEnds : ∀ character ∈ text, character = '\n' := by
    intro character member
    exact (List.count_eq_length.mp all character member).symm
  obtain ⟨after, scanned⟩ :=
    @Scanner.scanTokens_lineEnds (Source.ofText file text) text.length lineEnds []
  rw [scanChars, scanned] at refused
  cases refused

/-- The position of a fault is valid, as long as words can count the lines of the text. -/
theorem isValid_position_of_fault
    (short : text.length < UInt32.size)
    (refused : scanChars file text = .error error) :
    error.position.isValid = true := by
  obtain ⟨offset, -, isThere⟩ := exists_offset_of_fault refused
  have fewLines : (text.take offset).count '\n' ≤ text.count '\n' :=
    (List.take_sublist offset text).count_le '\n'
  have someOther := count_lineEnds_lt_of_fault refused
  rw [isThere, Position.isValid, decide_eq_true_eq, UInt32.lt_iff_toNat_lt]
  have counted : (UInt32.ofNat (1 + (text.take offset).count '\n')).toNat =
      1 + (text.take offset).count '\n' :=
    UInt32.toNat_ofNat_of_lt' (by omega)
  simp only [Source.atOffset, Source.position, counted]
  exact Nat.lt_add_right _ Nat.one_pos

end Scripting
