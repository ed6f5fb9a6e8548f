import Scripting.Proofs.Evaluation.CallTree
import Scripting.Proofs.Session.Pieces
import Scripting.Proofs.Token.RoundTrip

namespace Scripting

/-!
# Scripts of one statement

Two scripts for a name: one that declares it as a variable, and one that prints the variable.  Both
are accepted and come to their end, whatever the name is, as long as the session lets them.
-/

namespace Text

/-- The classes of letters and of blanks have no character in common. -/
theorem ranges_disjoint :
    ∀ blank ∈ blankRanges.toList, ∀ letter ∈ letterRanges.toList,
      blank.high < letter.low ∨ letter.high < blank.low := by
  decide +kernel

/-- A blank is no letter. -/
theorem isLetter_of_isBlank
    {character : Char}
    (blank : isBlank character = true) :
    isLetter character = false := by
  unfold isBlank at blank
  unfold isLetter
  split at blank
  · next isAscii =>
      rw [if_pos isAscii, Bool.eq_false_iff]
      intro letter
      have letterCode : 65 ≤ character.toNat := by
        delta Char.isAlpha Char.isUpper Char.isLower at letter
        simp only [Bool.or_eq_true, Bool.and_eq_true, decide_eq_true_eq, ge_iff_le,
          UInt32.le_iff_toNat_le, Char.toNat_val, Char.reduceToNat] at letter
        omega
      simp only [Bool.or_eq_true, Bool.and_eq_true, decide_eq_true_eq] at blank
      rcases blank with rfl | isControl
      · revert letterCode
        decide
      · omega
  · next notAscii =>
      rw [if_neg notAscii]
      rw [Bool.eq_false_iff]
      intro letter
      simp only [inRanges, ← Array.any_toList, List.any_eq_true] at blank letter
      obtain ⟨blankRange, blankMember, inBlank⟩ := blank
      obtain ⟨letterRange, letterMember, inLetter⟩ := letter
      simp only [CodeRange.contains, Bool.and_eq_true, decide_eq_true_eq] at inBlank inLetter
      have apart := ranges_disjoint blankRange blankMember letterRange letterMember
      omega

end Text

namespace Scanner

/-- What starts a name is no blank. -/
theorem not_isBlank_of_startsName
    {character : Char}
    (starts : startsName character = true) :
    Text.isBlank character = false := by
  rw [Bool.eq_false_iff]
  intro blank
  simp only [startsName, Bool.or_eq_true, decide_eq_true_eq] at starts
  rcases starts with rfl | isLetter
  · revert blank
    decide
  · rw [Text.isLetter_of_isBlank blank] at isLetter
    cases isLetter

/-- A name is scanned as such. -/
theorem scanWord_of_isName
    {text : String}
    (isName : IsName text)
    {source : Source}
    (shape : source.ahead = text.toList) :
    (scanWord source).1 = .name text source.position := by
  obtain ⟨first, rest, spelled, starts, continues⟩ := isName.shape
  have inside : ∀ character ∈ text.toList, continuesName character = true := by
    intro character member
    rw [spelled] at member
    rcases List.mem_cons.mp member with rfl | later
    · simp [continuesName, starts]
    · exact continues character later
  have word : source.ahead.takeWhile continuesName = text.toList := by
    rw [shape, ← List.append_nil text.toList, List.takeWhile_append_of_pos inside,
      List.takeWhile_nil]
  have nothingLeft : (Source.advance text.toList.length source).next? = none := by
    simp [Source.next?, shape]
  simp only [scanWord, word, nothingLeft, String.ofList_toList, reduceCtorEq, decide_false,
    Bool.and_false, Bool.false_eq_true, ↓reduceIte]
  simp [wordToken, isName.notConstant, isName.notKeyword]

/-- The place of a lexeme that stands alone. -/
def start : Position := (Source.ofText "" []).position

/-- A name is found again where it is written, and then what is found after it. -/
theorem FoundAll.name
    {text : String}
    {before tokens : List Token}
    (isName : IsName text)
    (rest : FoundAll none (.name text start :: before) tokens) :
    FoundAll none before (.name text start :: tokens) := by
  obtain ⟨first, others, spelled, starts, -⟩ := isName.shape
  have stepped : step none before (Source.ofText "" text.toList) first others =
      .next none (some (.name text start)) (scanWord (Source.ofText "" text.toList)).2 := by
    have notBlank : ¬Text.isBlank first := by simp [not_isBlank_of_startsName starts]
    rw [(StepCase.word notBlank starts).step_eq, scanWord_of_isName isName rfl]
    rfl
  have found : Found none none before (.name text start) := found_of_step spelled stepped
  exact Found.foundAll found ⟨id, rfl⟩ rest

/-- A lexeme that is scanned where it stands alone is found again, and then what is found after
it. -/
theorem FoundAll.lexeme
    {before tokens : List Token}
    {token : Token}
    {after : Source}
    {character : Char}
    {others : List Char}
    (stepped :
      step none before (Source.ofText "" (character :: others)) character others =
        .next none (some token) after)
    (rest : FoundAll none (token :: before) tokens) :
    FoundAll none before (token :: tokens) := by
  have found : Found none none before token := found_of_step rfl stepped
  exact Found.foundAll found ⟨id, rfl⟩ rest

/-- A script that consists of tokens which are found again is scanned as such tokens. -/
theorem scan_of_foundAll
    {tokens : List Token}
    (found : FoundAll none [] tokens)
    (file : String) :
    ∃ again,
      scan file (Token.script tokens) = .ok again ∧
        Token.bareAll again = Token.bareAll tokens := by
  have shape : (Source.ofText file (Token.writtenAll tokens)).ahead =
      Token.writtenAll tokens ++ (closer none ++ []) := by
    simp [Source.ofText, closer]
  obtain ⟨again, final, run, same, -⟩ := found [] rfl (fun _ => rfl) shape
  refine ⟨again, ?_, same⟩
  rw [scan, Token.script, String.toList_ofList, run.scanChars_eq]
  rfl

end Scanner

/-- A script that declares a variable. -/
def declaringScript (name : String) : String :=
  "var " ++ name ++ " = 0"

/-- A script that prints a variable. -/
def printingScript (name : String) : String :=
  "print ( " ++ name ++ " )"

namespace Scanner

/-- The tokens that declare a name are found in its script. -/
theorem foundAll_declaring
    {name : String}
    (isName : IsName name) :
    FoundAll none []
      [.mark (.keyword .varWord) "var" start, .name name start, .mark .assign "=" start,
        .literal "0" (.integer 0) start] := by
  have var : step none [] (Source.ofText "" ['v', 'a', 'r']) 'v' ['a', 'r'] =
      .next none (some (.mark (.keyword .varWord) "var" start)) _ := rfl
  have sign : step none [.name name start, .mark (.keyword .varWord) "var" start]
      (Source.ofText "" ['=']) '=' [] = .next none (some (.mark .assign "=" start)) _ := rfl
  have zero : step none [.mark .assign "=" start, .name name start,
      .mark (.keyword .varWord) "var" start] (Source.ofText "" ['0']) '0' [] =
        .next none (some (.literal "0" (.integer 0) start)) _ := rfl
  exact .lexeme var (.name isName (.lexeme sign (.lexeme zero foundAll_nil_of_none)))

/-- The tokens that print a name are found in its script. -/
theorem foundAll_printing
    {name : String}
    (isName : IsName name) :
    FoundAll none []
      [.name "print" start, .mark (.separator .leftParen) "(" start, .name name start,
        .mark (.separator .rightParen) ")" start] := by
  have print : step none [] (Source.ofText "" ['p', 'r', 'i', 'n', 't']) 'p' ['r', 'i', 'n', 't'] =
      .next none (some (.name "print" start)) _ := rfl
  have opening : step none [.name "print" start] (Source.ofText "" ['(']) '(' [] =
      .next none (some (.mark (.separator .leftParen) "(" start)) _ := rfl
  have closing : step none [.name name start, .mark (.separator .leftParen) "(" start,
      .name "print" start] (Source.ofText "" [')']) ')' [] =
        .next none (some (.mark (.separator .rightParen) ")" start)) _ := rfl
  exact .lexeme print (.lexeme opening (.name isName (.lexeme closing foundAll_nil_of_none)))

end Scanner

namespace Token

variable {tokens others : List Token} {text spelling : String}

/-- Tokens that are those of a name up to positions are a name. -/
theorem bareAll_eq_name
    (same : Token.bareAll tokens = Token.bareAll (.name text place :: others)) :
    ∃ position rest, tokens = .name text position :: rest ∧
      Token.bareAll rest = Token.bareAll others := by
  rcases tokens with _ | ⟨⟨_, _⟩ | _ | _ | _, rest⟩ <;>
    simp only [Token.bareAll, Token.bare, List.cons.injEq, reduceCtorEq, Token.name.injEq,
      false_and, and_true] at same
  exact ⟨_, rest, by rw [same.1], same.2⟩

/-- Tokens that are those of a literal up to positions are a literal. -/
theorem bareAll_eq_literal
    {value : Literal}
    (same : Token.bareAll tokens = Token.bareAll (.literal text value place :: others)) :
    ∃ position rest, tokens = .literal text value position :: rest ∧
      Token.bareAll rest = Token.bareAll others := by
  rcases tokens with _ | ⟨_ | ⟨_, _, _⟩ | _ | _, rest⟩ <;>
    simp only [Token.bareAll, Token.bare, List.cons.injEq, reduceCtorEq, Token.literal.injEq,
      false_and, and_true] at same
  exact ⟨_, rest, by rw [same.1.1, same.1.2], same.2⟩

/-- Tokens that are those of a mark up to positions are a mark. -/
theorem bareAll_eq_mark
    {fixed : Mark}
    (same : Token.bareAll tokens = Token.bareAll (.mark fixed spelling place :: others)) :
    ∃ position rest, tokens = .mark fixed spelling position :: rest ∧
      Token.bareAll rest = Token.bareAll others := by
  rcases tokens with _ | ⟨_ | _ | _ | ⟨_, _, _⟩, rest⟩ <;>
    simp only [Token.bareAll, Token.bare, List.cons.injEq, reduceCtorEq, Token.mark.injEq,
      false_and, and_true] at same
  exact ⟨_, rest, by rw [same.1.1, same.1.2], same.2⟩

theorem bareAll_eq_nil (same : Token.bareAll tokens = Token.bareAll []) : tokens = [] := by
  cases tokens with
  | nil =>
      rfl
  | cons first rest =>
      cases same

end Token

section Scanning

variable {name : String} (isName : IsName name) (file : String)

include isName

/-- The script that declares a name is scanned to four tokens. -/
theorem scan_declaringScript :
    ∃ first second third fourth,
      scan file (declaringScript name) =
        .ok [.mark (.keyword .varWord) "var" first, .name name second, .mark .assign "=" third,
          .literal "0" (.integer 0) fourth] := by
  obtain ⟨again, scanned, same⟩ :=
    Scanner.scan_of_foundAll (Scanner.foundAll_declaring isName) file
  obtain ⟨first, afterVar, rfl, sameAfterVar⟩ := Token.bareAll_eq_mark same
  obtain ⟨second, afterName, rfl, sameAfterName⟩ := Token.bareAll_eq_name sameAfterVar
  obtain ⟨third, afterSign, rfl, sameAfterSign⟩ := Token.bareAll_eq_mark sameAfterName
  obtain ⟨fourth, afterZero, rfl, sameAfterZero⟩ := Token.bareAll_eq_literal sameAfterSign
  obtain rfl := Token.bareAll_eq_nil sameAfterZero
  refine ⟨first, second, third, fourth, scanned ▸ congrArg (scan file) ?_⟩
  apply String.toList_inj.mp
  simp [declaringScript, Token.script, Token.writtenAll, Token.writtenEach, Token.written]

/-- The script that prints a name is scanned to four tokens. -/
theorem scan_printingScript :
    ∃ first second third fourth,
      scan file (printingScript name) =
        .ok [.name "print" first, .mark (.separator .leftParen) "(" second, .name name third,
          .mark (.separator .rightParen) ")" fourth] := by
  obtain ⟨again, scanned, same⟩ :=
    Scanner.scan_of_foundAll (Scanner.foundAll_printing isName) file
  obtain ⟨first, afterPrint, rfl, sameAfterPrint⟩ := Token.bareAll_eq_name same
  obtain ⟨second, afterOpening, rfl, sameAfterOpening⟩ := Token.bareAll_eq_mark sameAfterPrint
  obtain ⟨third, afterName, rfl, sameAfterName⟩ := Token.bareAll_eq_name sameAfterOpening
  obtain ⟨fourth, afterClosing, rfl, sameAfterClosing⟩ := Token.bareAll_eq_mark sameAfterName
  obtain rfl := Token.bareAll_eq_nil sameAfterClosing
  refine ⟨first, second, third, fourth, scanned ▸ congrArg (scan file) ?_⟩
  apply String.toList_inj.mp
  simp [printingScript, Token.script, Token.writtenAll, Token.writtenEach, Token.written]

end Scanning

/-- A statement that prints a variable prints its value. -/
theorem Evaluation.execItems_print
    {environment : Environment}
    {state : State}
    {name : String}
    {entry : Variable}
    (goesOn : environment.cancelled state = false)
    (printing : state.functions["print"]? = some (.builtin (.standard .print)))
    (bound : state.scopes.find? name = some entry)
    (fuel : Nat)
    (place other : Position) :
    ∃ after,
      execItems (fuel + 5) environment
          [.statement (.expr (.call ⟨"print", place⟩ [.name ⟨name, other⟩]))] state =
        .ok () after ∧
        after.output = state.output.push entry.value.text := by
  let begun := state.note
    (statementRecord environment.logger (.expr (.call ⟨"print", place⟩ [.name ⟨name, other⟩])))
  have stillGoesOn : environment.cancelled begun = false := goesOn
  have stillPrinting : begun.functions["print"]? = some (.builtin (.standard .print)) := printing
  have evaluated : evalAll (fuel + 2) environment [.name ⟨name, other⟩] begun.glance =
      .ok [entry.value] begun.glance := by
    have stillBoundThere : begun.glance.scopes.find? name = some entry := bound
    simp only [evalAll, evalExpr, readVariable, stillBoundThere, Outcome.andThen]
  have printed : evalExpr (fuel + 3) environment (.call ⟨"print", place⟩ [.name ⟨name, other⟩])
      begun = .ok .null ((begun.glance.print entry.value.text).note
        (logged environment.logger .timing (.callTook "print"))) := by
    simp only [evalExpr, stillGoesOn, stillPrinting, evaluated, Outcome.andThen,
      Bool.false_eq_true, ↓reduceIte]
    rfl
  refine ⟨(begun.glance.print entry.value.text).note
    (logged environment.logger .timing (.callTook "print")), ?_, rfl⟩
  simp only [execItems, exec]
  rw [printed]
  rfl

/-- The functions that are built in stay what they are. -/
theorem Evaluation.builtin_hoist
    {state : State}
    {name : String}
    {builtin : Builtin}
    (origin : Nat)
    (items : List Item)
    (found : state.functions[name]? = some (.builtin builtin)) :
    (hoist origin items state).state.functions[name]? = some (.builtin builtin) := by
  induction items generalizing state with
  | nil =>
      exact found
  | cons first rest inductionHypothesis =>
      cases first with
      | function declaration =>
          have inserted
              (notBuiltin :
                state.functions[UserFunction.name ⟨origin, declaration⟩]? ≠
                  some (.builtin builtin)) :
              (state.functions.insert (UserFunction.name ⟨origin, declaration⟩)
                (.user ⟨origin, declaration⟩))[name]? = some (.builtin builtin) := by
            have different : UserFunction.name ⟨origin, declaration⟩ ≠ name := by
              rintro rfl
              exact notBuiltin found
            rw [Std.ExtTreeMap.getElem?_insert, if_neg (by simpa using different)]
            exact found
          simp only [hoist, defineFunction]
          split
          · next free =>
              exact inductionHypothesis (inserted (by simp [free]))
          · exact found
          · next previous taken =>
              split
              · exact inductionHypothesis (inserted (by simp [taken]))
              · exact found
      | type declaration =>
          exact inductionHypothesis found
      | statement inner =>
          exact inductionHypothesis found

/-- The host cannot replace the function that prints. -/
theorem FunctionTable.print_registerAll
    {table functions : FunctionTable}
    {hostFunctions : List HostFunction}
    (found : table["print"]? = some (.builtin (.standard .print)))
    (registered : table.registerAll hostFunctions = .ok functions) :
    functions["print"]? = some (.builtin (.standard .print)) := by
  induction hostFunctions generalizing table with
  | nil =>
      cases registered
      exact found
  | cons first rest inductionHypothesis =>
      simp only [FunctionTable.registerAll, Parser.bind_eq_ok] at registered
      obtain ⟨between, firstRegistered, restRegistered⟩ := registered
      refine inductionHypothesis ?_ restRegistered
      unfold FunctionTable.register at firstRegistered
      split at firstRegistered
      · cases firstRegistered
      · next notStandard =>
          cases firstRegistered
          have different : first.name ≠ "print" := by
            intro same
            rw [same] at notStandard
            cases notStandard
          rw [Std.ExtTreeMap.getElem?_insert, if_neg (by simpa using different)]
          exact found

namespace Session

variable {session : Session} {limits : Limits} {name : String}

/-- Scripts cannot replace a function that is built in. -/
theorem builtin_exec
    {builtin : Builtin}
    (found : session.functions[name]? = some (.builtin builtin))
    (limits : Limits)
    (file text : String) :
    (session.exec limits file text).session.functions[name]? = some (.builtin builtin) := by
  rcases parsed : session.parse file text with ⟨records, error | ⟨script, after⟩⟩
  · have refused : (session.parse file text).2 = .error error := by rw [parsed]
    rw [(exec_of_refused refused limits).1]
    exact found
  · have accepted : (session.parse file text).2 = .ok (script, after) := by rw [parsed]
    obtain ⟨_, _, -, -, -, -, rfl⟩ := parse_eq_ok accepted
    rw [exec_of_accepted parsed, runAfter_eq]
    cases fuelEq : limits.fuel with
    | zero =>
        exact found
    | succ fuel =>
        have settled := (Evaluation.Step.mk (fuel + 1) (session.environment limits) (.file script)
          (.ofSession session records)).settled_alongside
        exact (congrArg (fun table : FunctionTable => table[name]?) settled.functions).trans
          (Evaluation.builtin_hoist script.origin script.file.items found)

/-- The function that prints is there in every session. -/
theorem Reached.print
    {endings : List Ending}
    (reached : Reached endings session) :
    session.functions["print"]? = some (.builtin (.standard .print)) := by
  induction reached with
  | created created =>
      simp only [create, Parser.bind_eq_ok] at created
      obtain ⟨functions, registered, ⟨⟩⟩ := created
      exact FunctionTable.print_registerAll rfl registered
  | executed _ _ inductionHypothesis =>
      exact builtin_exec inductionHypothesis _ _ _

/-- A name that the parser does not know can be declared. -/
theorem exec_declaringScript
    (agrees : session.Agrees)
    (isName : IsName name)
    (undeclared : session.declared.scope.find? name = none)
    (enough : 4 ≤ limits.fuel)
    (file : String) :
    (session.exec limits file (declaringScript name)).ending = .finished ∧
      (session.exec limits file (declaringScript name)).session.global.find? name =
        some ⟨.integer 0, false⟩ := by
  obtain ⟨first, second, third, fourth, scanned⟩ := scan_declaringScript isName file
  obtain ⟨fuel, fuelEq⟩ : ∃ fuel, limits.fuel = fuel + 4 := ⟨limits.fuel - 4, by omega⟩
  have new : session.declared.scope.current.find? name = none :=
    ScopeChain.current_find?_eq_none undeclared
  have reads : Parser.ReadsItems session.options.grammar session.declared
      [.mark (.keyword .varWord) "var" first, .name name second, .mark .assign "=" third,
        .literal "0" (.integer 0) fourth]
      [.statement (.declare false ⟨name, second⟩ (.literal "0" (.integer 0) fourth) first)]
      { session.declared with
        scope := session.declared.scope.define name ⟨false, second⟩ } :=
    .cons (.statement (.declare rfl rfl new (.chain .literal (.stop nofun)))) .nil
  let course : Course session limits file (declaringScript name) :=
    { tokens := _
      items := _
      declared := _
      fuel := fuel + 3
      last := _
      scanned
      reads
      resolved := nofun
      fuelEq
      executed := rfl }
  rw [course.exec_eq agrees]
  refine ⟨rfl, ?_⟩
  show ((ScopeChain.ofFrame session.global).define name ⟨.integer 0, false⟩).outer.find? name = _
  rw [ScopeChain.define_of_inner_nil rfl, Frame.find?_define, if_pos rfl]

/-- A variable that is bound can be printed. -/
theorem exec_printingScript
    (agrees : session.Agrees)
    (printing : session.functions["print"]? = some (.builtin (.standard .print)))
    (isName : IsName name)
    {entry : Variable}
    (bound : session.global.find? name = some entry)
    (enough : 6 ≤ limits.fuel)
    (goesOn : limits.cancellation.happened 0 0 = false)
    (file : String) :
    (session.exec limits file (printingScript name)).ending = .finished ∧
      (session.exec limits file (printingScript name)).output = [entry.value.text] := by
  obtain ⟨first, second, third, fourth, scanned⟩ := scan_printingScript isName file
  obtain ⟨fuel, fuelEq⟩ : ∃ fuel, limits.fuel = fuel + 6 := ⟨limits.fuel - 6, by omega⟩
  have visible : (session.declared.scope.find? name).isSome := by
    have declared := agrees.bound name entry.mutable (by simp [bound])
    rw [Frame.find?_layout] at declared
    rw [ScopeChain.find?_of_inner_nil agrees.outermost]
    simpa using Option.isSome_of_eq_some declared
  have known : session.declared.functions["print"]? = some ⟨none, true⟩ := by
    rw [agrees.functions.signatures, printing]
    rfl
  have value : Parser.ReadsExpr session.options.grammar session.declared.scope
      [.name name third, .mark (.separator .rightParen) ")" fourth] (.name ⟨name, third⟩)
      [.mark (.separator .rightParen) ")" fourth] :=
    .chain (.name (by simp [Parser.nextKind, Token.kind]) visible)
      (.stop fun _ follows => by cases follows)
  have called : Parser.ReadsCall session.options.grammar session.declared.scope ⟨"print", first⟩
      [.mark (.separator .leftParen) "(" second, .name name third,
        .mark (.separator .rightParen) ")" fourth]
      (.call ⟨"print", first⟩ [.name ⟨name, third⟩]) [] :=
    .arguments rfl (by simp [Parser.nextKind, Token.kind])
      (.last (by simp [Token.kind]) rfl value)
  have reads : Parser.ReadsItems session.options.grammar session.declared
      [.name "print" first, .mark (.separator .leftParen) "(" second, .name name third,
        .mark (.separator .rightParen) ")" fourth]
      [.statement (.expr (.call ⟨"print", first⟩ [.name ⟨name, third⟩]))]
      session.declared :=
    .cons (.statement (.call rfl called (.stop fun _ follows => by cases follows))) .nil
  have resolved : session.declared.functions.Resolve
      (Item.calls (.statement (.expr (.call ⟨"print", first⟩ [.name ⟨name, third⟩])))) := by
    intro call member
    obtain rfl := List.mem_singleton.mp member
    exact ⟨_, known, fun _ limited => by cases limited⟩
  have notCancelled : (session.environment limits).cancelled
      (session.start file (printingScript name)) = false :=
    goesOn
  have boundHere : (session.start file (printingScript name)).scopes.find? name = some entry := by
    rw [ScopeChain.find?_of_inner_nil rfl]
    exact bound
  obtain ⟨last, executed, printed⟩ :=
    Evaluation.execItems_print notCancelled printing boundHere fuel first third
  let course : Course session limits file (printingScript name) :=
    { tokens := _
      items := _
      declared := _
      fuel := fuel + 5
      last := _
      scanned
      reads
      resolved
      fuelEq
      executed }
  rw [course.exec_eq agrees]
  refine ⟨rfl, ?_⟩
  show last.output.toList = [entry.value.text]
  rw [printed]
  rfl

end Session

end Scripting
