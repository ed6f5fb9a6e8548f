import Scripting.Proofs.Evaluation.Joining
import Scripting.Proofs.Parser.Likeness
import Scripting.Proofs.Session.Agreement
import Scripting.Proofs.Token.Concatenation

namespace Scripting.Session

/-!
# Running a script in pieces

Two scripts that are executed one after the other do what one script does that is made of them.
The joined script takes all definitions into effect before any statement runs: the statements of
the first piece do not notice the definitions of the second, and those of the second piece find
everything as the first has left it.
-/

/-- The state in which the script of an execution starts to run. -/
def start (session : Session) (name text : String) : State :=
  .ofSession session (session.parse name text).1

/-- The course of an execution that comes to its end. -/
structure Course (session : Session) (limits : Limits) (name text : String) where
  tokens : List Token
  items : List Item
  declared : Declarations
  fuel : Nat
  last : State
  scanned : scan name text = .ok tokens
  reads : Parser.ReadsItems session.options.grammar session.declared tokens items declared
  resolved : declared.functions.Resolve (items.flatMap Item.calls)
  fuelEq : limits.fuel = fuel + 1
  executed :
    Evaluation.execItems fuel (session.environment limits) items
        ((session.start name text).hoisted session.nextOrigin items) =
      .ok () last

/-- How often an execution reads a clock. -/
def looks (session : Session) (limits : Limits) (name text : String) : Nat :=
  match session.parse name text with
  | (_, .error _) => 0
  | (records, .ok (script, after)) =>
      (Evaluation.runFile limits.fuel (after.environment limits) script
        (.ofSession after records)).state.clockLooks

/-- Agreement leaves functions free that the parser does not know. -/
theorem Agrees.free
    {session : Session}
    (agrees : session.Agrees)
    (name : String)
    (undeclared : session.declared.functions[name]? = none) :
    session.functions[name]? = none := by
  simpa [agrees.functions.signatures] using undeclared

namespace Course

variable {session : Session} {limits : Limits} {name text : String}

/-- The session that knows what the script declares. -/
def accepted (course : Course session limits name text) : Session :=
  { session with declared := course.declared, nextOrigin := session.nextOrigin + 1 }

/-- The session that an execution leaves. -/
def after (course : Course session limits name text) : Session :=
  course.accepted.after course.last

/-- The script that is executed. -/
def script (course : Course session limits name text) : Script :=
  ⟨session.nextOrigin, ⟨course.items, (TokenCursor.ofTokens course.tokens).position⟩⟩

theorem parse_eq (course : Course session limits name text) :
    session.parse name text =
      ((session.parse name text).1, .ok (course.script, course.accepted)) := by
  have parsed := parseTokens_of_reads course.reads course.resolved
  simp only [parse, course.scanned, Session.parseTokens, parsed]
  rfl

theorem runFile_eq
    (course : Course session limits name text)
    (agrees : session.Agrees) :
    Evaluation.runFile limits.fuel (course.accepted.environment limits) course.script
        (.ofSession course.accepted (session.parse name text).1) =
      .ok () (course.last.note (logged session.logger .timing .runTook)) := by
  have hoists :
      Evaluation.hoist session.nextOrigin course.items (session.start name text) =
        .ok () ((session.start name text).hoisted session.nextOrigin course.items) :=
    course.reads.hoist_eq session.nextOrigin rfl agrees.free
  rw [course.fuelEq]
  exact Evaluation.runFile_of_execItems hoists course.executed

theorem exec_eq
    (course : Course session limits name text)
    (agrees : session.Agrees) :
    session.exec limits name text =
      course.accepted.execution (course.last.note (logged session.logger .timing .runTook))
        .finished := by
  rw [exec_of_accepted course.parse_eq, runAfter_eq, course.runFile_eq agrees]
  rfl

/-- What the items of a script have left when they have been executed. -/
theorem last_kept (course : Course session limits name text) :
    course.last.functions =
        course.items.foldl (Item.defineIn session.nextOrigin) session.functions ∧
      course.last.depth = 0 ∧ course.last.scopes.inner = [] :=
  Evaluation.execItems_keeps course.executed rfl

theorem looks_eq
    (course : Course session limits name text)
    (agrees : session.Agrees) :
    session.looks limits name text = course.last.clockLooks := by
  unfold looks
  rw [course.parse_eq]
  simp only [course.runFile_eq agrees]
  rfl

end Course

/-- Every execution that comes to its end takes a course. -/
theorem exists_course
    {session : Session}
    {limits : Limits}
    {name text : String}
    (agrees : session.Agrees)
    (finished : (session.exec limits name text).ending = .finished) :
    Nonempty (Course session limits name text) := by
  rcases parsed : session.parse name text with ⟨records, error | ⟨script, after⟩⟩
  · have refused : (session.parse name text).2 = .error error := by rw [parsed]
    obtain ⟨-, -, isReading⟩ := exec_of_refused refused limits
    rw [isReading] at finished
    cases finished
  · have accepted : (session.parse name text).2 = .ok (script, after) := by rw [parsed]
    obtain ⟨tokens, declared, scanned, reads, resolved, sameOrigin, afterEq⟩ :=
      parse_eq_ok accepted
    have sameStart : State.ofSession after records = session.start name text := by
      rw [afterEq, start, parsed]
      rfl
    have sameEnvironment : after.environment limits = session.environment limits := by
      rw [afterEq]
      rfl
    have hoists :
        Evaluation.hoist script.origin script.file.items (session.start name text) =
          .ok () ((session.start name text).hoisted script.origin script.file.items) :=
      reads.hoist_eq script.origin rfl agrees.free
    rw [exec_of_accepted parsed, runAfter_eq, sameStart, sameEnvironment] at finished
    cases ran : Evaluation.runFile limits.fuel (session.environment limits) script
        (session.start name text) with
    | ok result state =>
        obtain ⟨fuel, last, fuelEq, executed, -⟩ := Evaluation.runFile_eq_ok hoists ran
        rw [sameOrigin] at executed
        exact ⟨tokens, script.file.items, declared, fuel, last, scanned, reads, resolved, fuelEq,
          executed⟩
    | fail failure state =>
        rw [ran] at finished
        cases failure <;> cases finished

namespace Course

variable {session : Session} {firstLimits secondLimits limits : Limits}
variable {firstName secondName name firstText secondText text : String}
variable {firstOthers secondOthers : List Item}
variable (first : Course session firstLimits firstName firstText)
variable (second : Course first.after secondLimits secondName secondText)

/-- The tokens of a joined script are those of the pieces in other places. -/
theorem scan_joined (name : String) :
    ∃ firstPlace secondPlace : Placement,
      scan name (firstText ++ "\n" ++ secondText) =
        .ok (first.tokens.map (Token.placed firstPlace) ++
          second.tokens.map (Token.placed secondPlace)) := by
  -- The sign of a number would be a minus after the first piece, but no script starts with one.
  have noNumber : ∀ token ∈ second.tokens.head?, token.kind ≠ .literal := by
    intro token isFirst isNumber
    obtain ⟨rest, tokensEq⟩ := List.head?_eq_some_iff.mp isFirst
    have breaks := second.reads.breaksOff
    rw [tokensEq, Parser.nextKind_cons, isNumber] at breaks
    cases breaks
  exact scan_append first.scanned second.scanned noNumber name

/-- The joined script defines what the pieces define one after the other. -/
theorem functions_joined
    (firstAlike : List.Forall₂ Item.Alike first.items firstOthers)
    (secondAlike : List.Forall₂ Item.Alike second.items secondOthers)
    (secondOrigin : Nat) :
    FunctionTable.Alike
      (second.items.foldl (Item.defineIn secondOrigin)
        (first.items.foldl (Item.defineIn session.nextOrigin) session.functions))
      ((firstOthers ++ secondOthers).foldl (Item.defineIn session.nextOrigin)
        session.functions) := by
  have firstDefined :=
    (FunctionTable.Alike.refl session.functions).foldl_defineIn firstAlike session.nextOrigin
      session.nextOrigin
  rw [List.foldl_append]
  exact firstDefined.foldl_defineIn secondAlike secondOrigin session.nextOrigin

/-- When all definitions have taken effect, the first piece finds its own, and the types of the
second besides. -/
theorem mirrors_hoisted
    (agrees : session.Agrees)
    (firstAlike : List.Forall₂ Item.Alike first.items firstOthers)
    (secondAlike : List.Forall₂ Item.Alike second.items secondOthers)
    (name text : String) :
    ((session.start firstName firstText).hoisted session.nextOrigin first.items).Mirrors
      ⟨Item.types second.items, #[]⟩
      ((session.start name text).hoisted session.nextOrigin (firstOthers ++ secondOthers)) where
  inner := rfl
  comment := by simp [State.hoisted, start, State.ofSession]
  outer := by
    intro other
    have secondObeys := second.reads.scoped (first.reads.outermost agrees.outermost)
    have firstBound := first.reads.within_hoisted agrees.outermost agrees.bound
    simp only [State.hoisted, List.foldl_append]
    rw [Item.foldl_bindIn_of_alike secondAlike, Item.foldl_bindIn_of_alike firstAlike]
    exact secondObeys.find?_foldl_bindIn firstBound other
  functions := by
    intro other function found
    have firstSignatures := first.reads.signatures_eq session.nextOrigin agrees.functions.signatures
    have firstFree :
        ∀ undefined : String, first.declared.functions[undefined]? = none →
          (first.items.foldl (Item.defineIn session.nextOrigin)
            session.functions)[undefined]? = none := by
      intro undefined undeclared
      simpa [firstSignatures] using undeclared
    have stays := second.reads.getElem?_defineIn session.nextOrigin firstFree found
    have functionsAlike :=
      first.functions_joined second firstAlike secondAlike session.nextOrigin
    exact functionsAlike.exists_of_eq_some stays
  depth := rfl
  output := rfl
  hostCalls := rfl

/-- The second piece finds what the first has left, and its own definitions. -/
theorem mirrors_resumed
    (agreesAfter : first.after.Agrees)
    {mirror : State}
    (lastMirrors : first.last.Mirrors ⟨Item.types second.items, #[]⟩ mirror)
    (functionsAlike :
      FunctionTable.Alike
        (second.items.foldl (Item.defineIn first.after.nextOrigin) first.last.functions)
        mirror.functions) :
    ((first.after.start secondName secondText).hoisted first.after.nextOrigin
        second.items).Mirrors
      ⟨.empty "", first.last.output⟩ mirror := by
  obtain ⟨-, lastDepth, lastOutermost⟩ := first.last_kept
  have secondObeys := second.reads.scoped agreesAfter.outermost
  exact
    { inner := lastMirrors.inner.trans lastOutermost
      comment := by
        rw [lastMirrors.comment]
        exact (Item.comment_foldl_bindIn second.items first.last.scopes.outer).symm
      outer := by
        intro other
        have hoisted := secondObeys.find?_foldl_bindIn agreesAfter.bound other
        rw [lastMirrors.outer, Frame.find?_empty, Option.or_none]
        exact hoisted.symm
      functions := fun other function found => functionsAlike.exists_of_eq_some found
      depth := lastMirrors.depth.trans lastDepth
      output := by simp [lastMirrors.output, State.hoisted, start, State.ofSession]
      hostCalls := lastMirrors.hostCalls }

/-- The items of the joined script do what those of the pieces do, one piece after the other. -/
theorem execItems_joined
    (agrees : session.Agrees)
    (agreesAfter : first.after.Agrees)
    (firstAlike : List.Forall₂ Item.Alike first.items firstOthers)
    (secondAlike : List.Forall₂ Item.Alike second.items secondOthers)
    (firstNever : firstLimits.cancellation = .never)
    (secondNever : secondLimits.cancellation = .never)
    (never : limits.cancellation = .never)
    (firstUnlooked : first.last.clockLooks = 0)
    (secondUnlooked : second.last.clockLooks = 0)
    {fuel : Nat}
    (enough : first.fuel + second.fuel ≤ fuel)
    (name text : String) :
    ∃ last,
      Evaluation.execItems fuel (session.environment limits) (firstOthers ++ secondOthers)
          ((session.start name text).hoisted session.nextOrigin (firstOthers ++ secondOthers)) =
        .ok () last ∧
      second.last.Mirrors ⟨.empty "", first.last.output⟩ last ∧
      second.last.functions.Alike last.functions := by
  have firstEnvironments :
      (session.environment firstLimits).Mirrors (session.environment limits) :=
    ⟨rfl, rfl, firstNever, never⟩
  have secondEnvironments :
      (first.after.environment secondLimits).Mirrors (session.environment limits) :=
    ⟨rfl, rfl, secondNever, never⟩
  have hoistedMirrors := first.mirrors_hoisted second agrees firstAlike secondAlike name text
  obtain ⟨isShort, -⟩ := Evaluation.mirrors_execItems firstEnvironments firstAlike
    (Nat.le_refl first.fuel) first.executed firstUnlooked hoistedMirrors
  have firstEnough : first.fuel ≤ fuel := by omega
  obtain ⟨-, mirror, mirrors, firstGoesOn⟩ := Evaluation.mirrors_execItems firstEnvironments
    firstAlike firstEnough first.executed firstUnlooked hoistedMirrors
  -- Nothing after the hoisting changes the functions.
  have firstEnds := firstGoesOn []
  rw [List.append_nil, Evaluation.execItems_nil (by omega)] at firstEnds
  obtain ⟨mirrorFunctions, -, mirrorOutermost⟩ := Evaluation.execItems_keeps firstEnds rfl
  have functionsAlike :
      FunctionTable.Alike
        (second.items.foldl (Item.defineIn first.after.nextOrigin) first.last.functions)
        mirror.functions := by
    rw [first.last_kept.1, mirrorFunctions]
    exact first.functions_joined second firstAlike secondAlike first.after.nextOrigin
  have resumedMirrors := first.mirrors_resumed second agreesAfter mirrors functionsAlike
  have secondEnough : second.fuel ≤ fuel - firstOthers.length := by omega
  obtain ⟨isShortToo, last, lastMirrors, secondGoesOn⟩ :=
    Evaluation.mirrors_execItems secondEnvironments secondAlike secondEnough second.executed
      secondUnlooked resumedMirrors
  have secondEnds := secondGoesOn []
  rw [List.append_nil, Evaluation.execItems_nil (by omega)] at secondEnds
  obtain ⟨lastFunctions, -, -⟩ := Evaluation.execItems_keeps secondEnds mirrorOutermost
  refine ⟨last, (firstGoesOn secondOthers).trans secondEnds, lastMirrors, ?_⟩
  rw [second.last_kept.1, lastFunctions]
  exact functionsAlike

/-- Two courses one after the other make up one of the joined script. -/
theorem join
    (agrees : session.Agrees)
    (agreesAfter : first.after.Agrees)
    (firstNever : firstLimits.cancellation = .never)
    (secondNever : secondLimits.cancellation = .never)
    (never : limits.cancellation = .never)
    (firstUnlooked : first.last.clockLooks = 0)
    (secondUnlooked : second.last.clockLooks = 0)
    (enough : firstLimits.fuel + secondLimits.fuel ≤ limits.fuel)
    (name : String) :
    ∃ whole : Course session limits name (firstText ++ "\n" ++ secondText),
      Parser.SameKnown second.declared whole.declared ∧
        second.last.Mirrors ⟨.empty "", first.last.output⟩ whole.last ∧
        second.last.functions.Alike whole.last.functions := by
  obtain ⟨firstPlace, secondPlace, scanned⟩ := first.scan_joined second name
  obtain ⟨firstOthers, secondOthers, declared, firstAlike, secondAlike, sameKnown, reads⟩ :=
    first.reads.join second.reads firstPlace secondPlace
  have stays : ∀ (other : String) signature,
      second.declared.functions[other]? = some signature →
        declared.functions[other]? = some signature :=
    fun other signature found => sameKnown.functions ▸ found
  have resolved :
      declared.functions.Resolve ((firstOthers ++ secondOthers).flatMap Item.calls) := by
    rw [List.flatMap_append, Evaluation.Sound.resolve_append]
    exact ⟨Parser.resolve_of_alike firstAlike
        (fun other signature found => stays other signature (second.reads.functions_mono found))
        first.resolved,
      Parser.resolve_of_alike secondAlike stays second.resolved⟩
  -- Each piece takes a step of its fuel to hoist what it defines.
  have firstFuel := first.fuelEq
  have secondFuel := second.fuelEq
  obtain ⟨fuel, fuelEq⟩ : ∃ fewer, limits.fuel = fewer + 1 := ⟨limits.fuel - 1, by omega⟩
  have enoughInside : first.fuel + second.fuel ≤ fuel := by omega
  obtain ⟨last, executed, lastMirrors, functionsAlike⟩ :=
    first.execItems_joined second agrees agreesAfter firstAlike secondAlike firstNever secondNever
      never firstUnlooked secondUnlooked enoughInside name (firstText ++ "\n" ++ secondText)
  exact ⟨⟨_, _, declared, fuel, last, scanned, reads, resolved, fuelEq, executed⟩, sameKnown,
    lastMirrors, functionsAlike⟩

end Course

/-- An execution that comes to its end, is never cancelled and reads no clock. -/
structure Succeeds (session : Session) (limits : Limits) (name text : String) : Prop where
  finished : (session.exec limits name text).ending = .finished
  neverCancelled : limits.cancellation = .never
  clockless : session.looks limits name text = 0

/-- Sessions that are equal up to the positions of what was declared.  The parser knows the same
names, the functions are alike, the global variables have the same values, and the host has been
called equally often. -/
structure Alike (session other : Session) : Prop where
  declared : other.declared.scope.layout = session.declared.scope.layout
  signatures : other.declared.functions = session.declared.functions
  functions : session.functions.Alike other.functions
  global : other.global = session.global
  hostCalls : other.hostCalls = session.hostCalls

/-- Where two scripts succeed one after the other, the script that is made of them succeeds with as
much fuel, prints what they print, and leaves what they leave. -/
theorem joined_script_runs_like_its_pieces
    {endings : List Ending}
    {session : Session}
    (reached : Reached endings session)
    {firstLimits secondLimits limits : Limits}
    {firstName secondName firstText secondText : String}
    (firstSucceeds : session.Succeeds firstLimits firstName firstText)
    (secondSucceeds :
      (session.exec firstLimits firstName firstText).session.Succeeds secondLimits secondName
        secondText)
    (neverCancelled : limits.cancellation = .never)
    (enough : firstLimits.fuel + secondLimits.fuel ≤ limits.fuel)
    (name : String) :
    let first := session.exec firstLimits firstName firstText
    let second := first.session.exec secondLimits secondName secondText
    let whole := session.exec limits name (firstText ++ "\n" ++ secondText)
    whole.ending = .finished ∧
      whole.output = first.output ++ second.output ∧
      second.session.Alike whole.session := by
  have agrees := reached.agrees.1
  obtain ⟨first⟩ := exists_course agrees firstSucceeds.finished
  have firstEq := first.exec_eq agrees
  have firstUnlooked := (first.looks_eq agrees).symm.trans firstSucceeds.clockless
  have afterEq : (session.exec firstLimits firstName firstText).session = first.after := by
    rw [firstEq]
    rfl
  have agreesAfter : first.after.Agrees := by
    have ended : (session.exec firstLimits firstName firstText).ending ≠ .outOfFuel := by
      rw [firstSucceeds.finished]
      rintro ⟨⟩
    rw [← afterEq]
    exact (agrees.exec ended).1
  rw [afterEq] at secondSucceeds
  obtain ⟨second⟩ := exists_course agreesAfter secondSucceeds.finished
  have secondEq := second.exec_eq agreesAfter
  have secondUnlooked := (second.looks_eq agreesAfter).symm.trans secondSucceeds.clockless
  obtain ⟨whole, sameKnown, lastMirrors, functionsAlike⟩ :=
    first.join second agrees agreesAfter firstSucceeds.neverCancelled
      secondSucceeds.neverCancelled neverCancelled firstUnlooked secondUnlooked enough name
  have wholeEq := whole.exec_eq agrees
  have sameGlobal : whole.last.scopes.outer = second.last.scopes.outer := by
    refine Frame.ext_find? lastMirrors.comment fun other => ?_
    simpa using lastMirrors.outer other
  simp only [afterEq]
  rw [firstEq, secondEq, wholeEq]
  refine ⟨rfl, ?_, sameKnown.layout, sameKnown.functions, functionsAlike, sameGlobal,
    lastMirrors.hostCalls⟩
  simp [execution, State.note, lastMirrors.output]

/-- A counter, with a function that the second piece uses and a type that it adds. -/
theorem counter_runs_in_pieces :
    (usual.exec (.still 80) "whole"
        ("count = 1\nfun next(n) \x7b return n + count \x7d\nprint(next(2))" ++ "\n" ++
          "type Counter\ncount = next(count)\nprint(count)")).ending = .finished ∧
      (usual.exec (.still 80) "whole"
        ("count = 1\nfun next(n) \x7b return n + count \x7d\nprint(next(2))" ++ "\n" ++
          "type Counter\ncount = next(count)\nprint(count)")).output = ["3", "2"] := by
  have firstSucceeds : usual.Succeeds (.still 40) "first"
      "count = 1\nfun next(n) \x7b return n + count \x7d\nprint(next(2))" :=
    ⟨Ending.eq_finished (by decide +kernel), rfl, by decide +kernel⟩
  have secondSucceeds :
      (usual.exec (.still 40) "first"
        "count = 1\nfun next(n) \x7b return n + count \x7d\nprint(next(2))").session.Succeeds
        (.still 40) "second" "type Counter\ncount = next(count)\nprint(count)" :=
    ⟨Ending.eq_finished (by decide +kernel), rfl, by decide +kernel⟩
  have neverCancelled : (Limits.still 80).cancellation = .never := rfl
  obtain ⟨finished, printed, -⟩ :=
    joined_script_runs_like_its_pieces (.created create_usual) firstSucceeds secondSucceeds
      neverCancelled (Nat.le_refl 80) "whole"
  exact ⟨finished, printed.trans (by decide +kernel)⟩

end Scripting.Session
