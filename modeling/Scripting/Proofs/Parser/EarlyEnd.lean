import Scripting.Proofs.Parser.Stop
import Scripting.Proofs.Token.Completion

namespace Scripting

/-!
# Refusals because of an early end

A script that is refused because it ends too early asks for more text.  Quotes and braces that are
open can be closed, and the word `do` on the next line is then refused for its own sake.  So there is
more text to give, unless an interpolation ends too early: its braces are closed, and what comes after
the template is not part of it.
-/

namespace Parsed

/-- Whether the script was refused because it ended too early. -/
def endsEarly (parsed : Parsed) : Bool :=
  match parsed.outcome with
  | .ok _ => false
  | .error error => error.endsEarly

/-- Whether the script was refused because of an interpolation. -/
def failsInTemplate (parsed : Parsed) : Bool :=
  match parsed.outcome with
  | .ok _ => false
  | .error error => error.inTemplate

end Parsed

variable {grammar : Grammar} {known : Declarations} {name text : String} {tokens : List Token}

theorem parse_of_scan (scanned : scan name text = .ok tokens) :
    parse grammar known name text = parseTokens grammar known tokens := by
  simp only [parse, scanned]

/-- A script that ends too early can be completed to one that is scanned. -/
theorem exists_scan_of_endsEarly
    (early : (parse grammar known name text).endsEarly = true) :
    ∃ more tokens, scan name (text ++ more) = .ok tokens := by
  cases scanned : scan name text with
  | ok tokens =>
      exact ⟨"", tokens, by rw [String.append_empty, scanned]⟩
  | error error =>
      simp only [Parsed.endsEarly, parse, scanned] at early
      exact scan_completes scanned early

/-- The word that stops the parser can follow every script on a line of its own. -/
theorem scan_append_do (scanned : scan name text = .ok tokens) :
    ∃ stop : Token, stop.kind = .keyword .doWord ∧
      scan name (text ++ "\ndo") = .ok (tokens ++ [stop]) := by
  have scannedDo : scan "" "do" = .ok [.mark (.keyword .doWord) "do" ⟨"", 1, 1⟩] := by
    rfl
  obtain ⟨place, joined⟩ := scan_append_line scanned scannedDo (by simp [Token.kind])
  rw [String.append_assoc, List.map_singleton] at joined
  exact ⟨_, rfl, joined⟩

/-- A script that is scanned is not refused for its end when the word `do` follows, unless it is
refused in a template. -/
theorem parse_append_do
    (scanned : scan name text = .ok tokens)
    (outside : (parse grammar known name text).failsInTemplate = false) :
    ∃ longer, scan name (text ++ "\ndo") = .ok longer ∧
      (parse grammar known name (text ++ "\ndo")).endsEarly = false := by
  obtain ⟨stop, isDo, scannedDo⟩ := scan_append_do scanned
  refine ⟨_, scannedDo, ?_⟩
  rw [parse_of_scan scanned] at outside
  rw [parse_of_scan scannedDo]
  obtain ⟨error, refused, goesOn⟩ | ⟨error, refused, isInside⟩ :=
    parseTokens_do isDo grammar known tokens
  · simp only [Parsed.endsEarly, refused, goesOn]
  · simp only [Parsed.failsInTemplate, refused, isInside] at outside
    cases outside

/-- A script that is refused because it ends too early can be continued so that it is scanned and is
not refused for its end, or else it can be continued so that it is scanned, but is then always refused
in a template that ends too early. -/
theorem early_end_is_mended_outside_templates
    (early : (parse grammar known name text).endsEarly = true) :
    (∃ more tokens, scan name (text ++ more) = .ok tokens ∧
        (parse grammar known name (text ++ more)).endsEarly = false) ∨
      (∃ more tokens, scan name (text ++ more) = .ok tokens) ∧
        ∀ more tokens, scan name (text ++ more) = .ok tokens →
          (parse grammar known name (text ++ more)).endsEarly = true ∧
            (parse grammar known name (text ++ more)).failsInTemplate = true := by
  by_cases mended : ∃ more tokens, scan name (text ++ more) = .ok tokens ∧
      (parse grammar known name (text ++ more)).endsEarly = false
  · exact .inl mended
  · refine .inr ⟨exists_scan_of_endsEarly early, ?_⟩
    intro more tokens scanned
    constructor
    · rw [← Bool.not_eq_false]
      exact fun goesOn => mended ⟨more, tokens, scanned, goesOn⟩
    · rw [← Bool.not_eq_false]
      intro outside
      obtain ⟨longer, scannedLonger, goesOn⟩ := parse_append_do scanned outside
      rw [String.append_assoc] at scannedLonger goesOn
      exact mended ⟨_, longer, scannedLonger, goesOn⟩

/-- An open parenthesis asks for more text. -/
theorem openParen_is_mended :
    ∃ more tokens, scan "main" ("x = (" ++ more) = .ok tokens ∧
      (parse ⟨false, false⟩ .empty "main" ("x = (" ++ more)).endsEarly = false := by
  have early : (parse ⟨false, false⟩ .empty "main" "x = (").endsEarly = true := by
    decide +kernel
  refine (early_end_is_mended_outside_templates early).resolve_right ?_
  rintro ⟨-, trapped⟩
  obtain ⟨tokens, scanned⟩ : ∃ tokens, scan "main" ("x = (" ++ "") = .ok tokens := ⟨_, rfl⟩
  have outside : (parse ⟨false, false⟩ .empty "main" ("x = (" ++ "")).failsInTemplate = false := by
    decide +kernel
  rw [(trapped "" tokens scanned).2] at outside
  cases outside

/-- A script with an interpolation that misses an operand. -/
def openInterpolation : String :=
  "x = \"\x7b1 +\x7d\""

/-- The tokens of the script. -/
def openInterpolationTokens : List Token :=
  [.name "x" ⟨"main", 1, 1⟩, .mark .assign "=" ⟨"main", 1, 3⟩,
    .template
      [.interpolation
        [.literal "1" (.integer 1) ⟨"main", 1, 7⟩,
          .mark (.operator (.arithmetic .add)) "+" ⟨"main", 1, 9⟩]]
      ⟨"main", 1, 5⟩]

/-- The tokens are refused in the template, whatever follows them. -/
theorem parseTokens_openInterpolation
    (grammar : Grammar)
    (known : Declarations)
    (others : List Token) :
    (parseTokens grammar known (openInterpolationTokens ++ others)).endsEarly = true := by
  obtain ⟨budget, enough⟩ :
      ∃ budget, Parser.budgetFor (openInterpolationTokens ++ others) = budget + 16 := by
    refine ⟨Parser.budgetFor (openInterpolationTokens ++ others) - 16, ?_⟩
    simp only [Parser.budgetFor, Token.sizeAll_append, openInterpolationTokens, Token.sizeAll,
      Token.size]
    omega
  have refused :
      (Parser.items (Parser.budgetFor (openInterpolationTokens ++ others)) grammar known
        (.ofTokens (openInterpolationTokens ++ others))).2 =
        .error (.inside ⟨"main", 1, 5⟩ .template
          (.unexpected ⟨"main", 1, 9⟩ .anyToken none "value")) := by
    rw [enough]
    obtain ⟨tiered, strict⟩ := grammar
    cases tiered <;> rfl
  simp only [Parsed.endsEarly, outcome_of_items refused]
  rfl

/-- A line with the script is refused because it ends too early, and no text after the line mends
that. -/
theorem openInterpolation_is_never_mended :
    (parse ⟨false, false⟩ .empty "main" (openInterpolation ++ "\n")).endsEarly = true ∧
      ¬∃ more tokens, scan "main" (openInterpolation ++ "\n" ++ more) = .ok tokens ∧
        (parse ⟨false, false⟩ .empty "main" (openInterpolation ++ "\n" ++ more)).endsEarly =
          false := by
  have scannedFirst : scan "main" openInterpolation = .ok openInterpolationTokens := by
    rfl
  constructor
  · decide +kernel
  · rintro ⟨more, tokens, scanned, goesOn⟩
    obtain ⟨others, rfl⟩ := exists_append_of_scan scannedFirst scanned
    rw [parse_of_scan scanned, parseTokens_openInterpolation] at goesOn
    cases goesOn

end Scripting
