import Scripting.Proofs.Token.Lexemes

namespace Scripting

/-!
# Places and offsets

A place in a text keeps its line and its column while it steps forwards and backwards.  Neither
depends on how the place was reached: both follow from the number of characters before it, and so
does all that the place answers.
-/

namespace Source

/-- What can be asked of a place in a text. -/
inductive Call where
  | consume
  | skip
  | peek (distance : Int)
  | pushBack (count : Int)
  deriving Repr, DecidableEq

/-- What is answered: a character or the lack of one, nothing in particular, or that the step leaves
the text. -/
inductive Reply where
  | character (found : Option Char)
  | done
  | outOfBounds
  deriving Repr, DecidableEq

/-- The answer to a call, and the place after it. -/
def perform (source : Source) : Call → Reply × Source
  | .consume =>
      match source.consume? with
      | some (found, after) => (.character (some found), after)
      | none => (.outOfBounds, source)
  | .skip => (.done, source.skip)
  | .peek distance => (.character (source.peek distance), source)
  | .pushBack count =>
      match source.pushBack? count with
      | some before => (.done, before)
      | none => (.outOfBounds, source)

/-- The place after some calls. -/
def performAll (source : Source) (calls : List Call) : Source :=
  calls.foldl (fun place call => (place.perform call).2) source

/-- The place after a number of characters that are taken one by one, unless there are fewer. -/
def consumeMany? : Nat → Source → Option Source
  | 0, source => some source
  | count + 1, source => source.consume?.bind fun taken => consumeMany? count taken.2

/-- The place in a text after a number of its characters.  Its line is one more than the line ends
before it, and its column one more than the characters since the last of them. -/
def atOffset (file : String) (text : List Char) (offset : Nat) : Source where
  file := file
  behind := (text.take offset).reverse
  ahead := text.drop offset
  line := .ofNat (1 + (text.take offset).count '\n')
  column := .ofNat (1 + ((text.take offset).reverse.takeWhile (· ≠ '\n')).length)

/-- The character at an index of a text, which may be outside of it. -/
def characterAt? (text : List Char) (index : Int) : Option Char :=
  if 0 ≤ index then text[index.toNat]? else none

variable {file : String} {text : List Char} {offset : Nat}

/-- The place at an offset tracks the text before it. -/
theorem tracks_atOffset (file : String) (text : List Char) (offset : Nat) :
    (atOffset file text offset).Tracks file (text.take offset) :=
  ⟨rfl, rfl, rfl⟩

/-- A text starts at offset zero. -/
theorem atOffset_zero (file : String) (text : List Char) :
    atOffset file text 0 = ofText file text :=
  rfl

/-- As many characters lie behind as the offset says. -/
theorem length_behind_atOffset (inside : offset ≤ text.length) :
    (atOffset file text offset).behind.length = offset := by
  simp [atOffset, inside]

/-- The character at the offset comes next. -/
theorem ahead_atOffset
    {character : Char}
    (found : text[offset]? = some character) :
    (atOffset file text offset).ahead = character :: text.drop (offset + 1) := by
  obtain ⟨inside, rfl⟩ := List.getElem?_eq_some_iff.mp found
  exact List.drop_eq_getElem_cons inside

/-- A step over a character leads to the next offset. -/
theorem past_atOffset
    {character : Char}
    (found : text[offset]? = some character) :
    (atOffset file text offset).past character (text.drop (offset + 1)) =
      atOffset file text (offset + 1) := by
  have taken : text.take (offset + 1) = text.take offset ++ [character] := by
    rw [List.take_add_one, found, Option.toList_some]
  obtain ⟨-, onLine, inColumn⟩ :=
    (tracks_atOffset file text offset).past character (text.drop (offset + 1))
  rw [← taken] at onLine inColumn
  have behind : character :: (text.take offset).reverse = (text.take (offset + 1)).reverse := by
    rw [taken, List.reverse_append, List.reverse_singleton, List.singleton_append]
  simp only [past, atOffset] at onLine inColumn ⊢
  rw [onLine, inColumn, behind]

/-- A step back undoes a step, also over a line end: the column is counted anew there. -/
theorem stepBack_past
    {source : Source}
    {character : Char}
    {rest : List Char}
    (tracks : source.Tracks file source.behind.reverse)
    (shape : source.ahead = character :: rest) :
    (source.past character rest).stepBack = source := by
  have counted : ((source.behind.takeWhile (· ≠ '\n')).length + 1).toUInt32 = source.column := by
    rw [tracks.inColumn, List.reverse_reverse, Nat.add_comm]
  rcases source with ⟨name, behind, ahead, line, column⟩
  dsimp only at shape counted
  subst shape
  by_cases isLineEnd : character = '\n'
  · simp [stepBack, past, isLineEnd, ← counted]
  · simp [stepBack, past, isLineEnd]

/-- A step back leads to the offset before. -/
theorem stepBack_atOffset (inside : offset < text.length) :
    (atOffset file text (offset + 1)).stepBack = atOffset file text offset := by
  have found : text[offset]? = some text[offset] := List.getElem?_eq_getElem inside
  have tracks : (atOffset file text offset).Tracks file
      (atOffset file text offset).behind.reverse := by
    simpa [atOffset] using tracks_atOffset file text offset
  rw [← past_atOffset found]
  exact stepBack_past tracks (ahead_atOffset found)

/-- Steps back lead to the offset so many before. -/
theorem retreat_atOffset
    (count : Nat)
    (inside : offset + count ≤ text.length) :
    retreat count (atOffset file text (offset + count)) = atOffset file text offset := by
  induction count with
  | zero =>
      rfl
  | succ count inductionHypothesis =>
      rw [retreat, ← Nat.add_assoc, stepBack_atOffset (by omega)]
      exact inductionHypothesis (by omega)

/-- The character at the offset is taken, and the next offset reached. -/
theorem consume?_atOffset
    {character : Char}
    (found : text[offset]? = some character) :
    (atOffset file text offset).consume? =
      some (character, atOffset file text (offset + 1)) := by
  rw [consume?, ahead_atOffset found]
  exact congrArg (fun after => some (character, after)) (past_atOffset found)

/-- At the last offset no character is left. -/
theorem consume?_atOffset_length (file : String) (text : List Char) :
    (atOffset file text text.length).consume? = none := by
  simp [consume?, atOffset]

/-- A step leads to the next offset, if there is one. -/
theorem skip_atOffset (inside : offset ≤ text.length) :
    (atOffset file text offset).skip = atOffset file text (min (offset + 1) text.length) := by
  rcases Nat.lt_or_eq_of_le inside with isBefore | rfl
  · have found : text[offset]? = some text[offset] := List.getElem?_eq_getElem isBefore
    rw [skip, ahead_atOffset found, Nat.min_eq_left isBefore]
    exact past_atOffset found
  · rw [Nat.min_eq_right (Nat.le_succ _)]
    simp [skip, atOffset]

/-- A look ahead or behind finds the character at that distance from the offset. -/
theorem peek_atOffset
    (inside : offset ≤ text.length)
    (distance : Int) :
    (atOffset file text offset).peek distance = characterAt? text (offset + distance) := by
  cases distance with
  | ofNat ahead =>
      have isInside : (0 : Int) ≤ offset + (ahead : Int) := by omega
      have index : ((offset : Int) + (ahead : Int)).toNat = offset + ahead := by omega
      simp only [peek, atOffset, characterAt?, Int.ofNat_eq_natCast, if_pos isInside, index,
        List.getElem?_drop]
  | negSucc behind =>
      simp only [peek, atOffset, characterAt?]
      by_cases reaches : behind < offset
      · have isInside : (0 : Int) ≤ offset + Int.negSucc behind := by omega
        have index : ((offset : Int) + Int.negSucc behind).toNat = offset - 1 - behind := by omega
        have length : (text.take offset).length = offset := List.length_take_of_le inside
        rw [if_pos isInside, index, List.getElem?_reverse (by omega), length,
          List.getElem?_take_of_lt (by omega)]
      · have isOutside : ¬(0 : Int) ≤ offset + Int.negSucc behind := by omega
        rw [if_neg isOutside, List.getElem?_eq_none]
        simp only [List.length_reverse, List.length_take]
        omega

/-- Characters are pushed back unless they are more than were taken. -/
theorem pushBack?_atOffset
    (inside : offset ≤ text.length)
    (count : Int) :
    (atOffset file text offset).pushBack? count =
      if (offset : Int) < count then none
      else some (atOffset file text (offset - count.toNat)) := by
  rw [pushBack?, length_behind_atOffset inside]
  split
  · rfl
  · have split : offset - count.toNat + count.toNat = offset := by omega
    have back :
        retreat count.toNat (atOffset file text (offset - count.toNat + count.toNat)) =
          atOffset file text (offset - count.toNat) :=
      retreat_atOffset count.toNat (by omega)
    rw [split] at back
    rw [back]

/-- So many characters are taken at once, if there are so many. -/
theorem consumeMany?_atOffset
    (count : Nat)
    (inside : offset + count ≤ text.length) :
    consumeMany? count (atOffset file text offset) =
      some (atOffset file text (offset + count)) := by
  induction count generalizing offset with
  | zero =>
      rfl
  | succ count inductionHypothesis =>
      have found : text[offset]? = some text[offset] := List.getElem?_eq_getElem (by omega)
      rw [consumeMany?, consume?_atOffset found, Option.bind_some,
        inductionHypothesis (by omega), Nat.add_right_comm]
      rfl

/-- How a place follows from its offset: where it stands, with its line and its column, and the
answer to every call. -/
structure FollowsOffset (file : String) (text : List Char) (source : Source) (offset : Nat) :
    Prop where
  /-- The offset is inside the text or at its end. -/
  inside : offset ≤ text.length
  /-- File, characters, line and column are those of the offset. -/
  stands : source = atOffset file text offset
  /-- A character is taken if one is left; at the end nothing changes. -/
  consume :
    source.perform .consume =
      match text[offset]? with
      | some character => (.character (some character), atOffset file text (offset + 1))
      | none => (.outOfBounds, source)
  /-- A step over a character stops at the end. -/
  skip : source.perform .skip = (.done, atOffset file text (min (offset + 1) text.length))
  /-- A look at a character changes nothing. -/
  peek :
    ∀ distance,
      source.perform (.peek distance) = (.character (characterAt? text (offset + distance)), source)
  /-- Characters are pushed back unless they are more than the offset; then nothing changes. -/
  pushBack :
    ∀ count : Int,
      source.perform (.pushBack count) =
        if (offset : Int) < count then (.outOfBounds, source)
        else (.done, atOffset file text (offset - count.toNat))
  /-- As many characters are taken as are left, and pushing them back restores the place. -/
  restores :
    ∀ count,
      offset + count ≤ text.length →
        ∃ after,
          consumeMany? count source = some after ∧
            after.perform (.pushBack count) = (.done, source)

/-- Every call at an offset does what offsets say. -/
theorem followsOffset
    (file : String)
    (inside : offset ≤ text.length) :
    FollowsOffset file text (atOffset file text offset) offset where
  inside := inside
  stands := rfl
  consume := by
    cases found : text[offset]? with
    | some character =>
        simp only [perform, consume?_atOffset found]
    | none =>
        obtain rfl : offset = text.length :=
          Nat.le_antisymm inside (List.getElem?_eq_none_iff.mp found)
        simp only [perform, consume?_atOffset_length]
  skip := by
    simp only [perform, skip_atOffset inside]
  peek distance := by
    simp only [perform, peek_atOffset inside]
  pushBack count := by
    by_cases isMore : (offset : Int) < count
    · simp only [perform, pushBack?_atOffset inside, if_pos isMore]
    · simp only [perform, pushBack?_atOffset inside, if_neg isMore]
  restores count fits := by
    refine ⟨_, consumeMany?_atOffset count fits, ?_⟩
    have notMore : ¬((offset + count : Nat) : Int) < (count : Int) := by omega
    simp only [perform, pushBack?_atOffset fits, if_neg notMore]
    simp

/-- Every call leads from an offset to an offset. -/
theorem exists_offset_perform
    (file : String)
    (inside : offset ≤ text.length)
    (call : Call) :
    ∃ next ≤ text.length,
      ((atOffset file text offset).perform call).2 = atOffset file text next := by
  have follows := followsOffset file inside
  cases call with
  | consume =>
      rw [follows.consume]
      cases found : text[offset]? with
      | some character =>
          obtain ⟨isBefore, -⟩ := List.getElem?_eq_some_iff.mp found
          exact ⟨offset + 1, isBefore, rfl⟩
      | none =>
          exact ⟨offset, inside, rfl⟩
  | skip =>
      rw [follows.skip]
      exact ⟨_, Nat.min_le_right _ _, rfl⟩
  | peek distance =>
      rw [follows.peek]
      exact ⟨offset, inside, rfl⟩
  | pushBack count =>
      rw [follows.pushBack]
      split
      · exact ⟨offset, inside, rfl⟩
      · exact ⟨_, Nat.le_trans (Nat.sub_le _ _) inside, rfl⟩

/-- After any calls a place follows from its offset. -/
theorem exists_offset_performAll
    (file : String)
    (calls : List Call)
    (inside : offset ≤ text.length) :
    ∃ next ≤ text.length,
      (atOffset file text offset).performAll calls = atOffset file text next := by
  induction calls generalizing offset with
  | nil =>
      exact ⟨offset, inside, rfl⟩
  | cons call rest inductionHypothesis =>
      obtain ⟨next, nextInside, leads⟩ := exists_offset_perform file inside call
      obtain ⟨final, finalInside, ends⟩ := inductionHypothesis nextInside
      refine ⟨final, finalInside, ?_⟩
      rw [performAll, List.foldl_cons, leads]
      exact ends

/-- Whatever is asked of the places in a text, from its start on: the place that is reached, with
its line and its column, is a function of its offset, and so is the answer to every call. -/
theorem places_follow_their_offsets
    (file : String)
    (text : List Char)
    (calls : List Call) :
    ∃ offset, FollowsOffset file text ((ofText file text).performAll calls) offset := by
  obtain ⟨offset, inside, leads⟩ :=
    exists_offset_performAll file calls (Nat.zero_le text.length)
  rw [atOffset_zero] at leads
  rw [leads]
  exact ⟨offset, followsOffset file inside⟩

/-- Two line ends are pushed back one after the other. -/
example :
    ((ofText "main" ['a', '\n', '\n', 'b']).performAll
        [.consume, .consume, .skip, .pushBack 5, .peek (-1), .pushBack 2]).position =
      ⟨"main", 1, 2⟩ := by
  decide

end Source

end Scripting
