import Scripting.Yaml.Flow

namespace Scripting.Yaml

/-!
# Documents

The lines of a document are nested by their indentation.  A line starts an item with a dash or an
entry with a key; its value stands on the same line or, indented further, on the lines below.
-/

/-- A line with something on it, which starts after the indentation. -/
structure Line where
  number : Nat
  indent : Nat
  content : List Char
  deriving Repr, DecidableEq

/-- A line that has no place in a document. -/
structure Malformed where
  line : Nat
  deriving Repr, DecidableEq

namespace Malformed

/-- The wording of the error. -/
def message (error : Malformed) : String :=
  "yaml: line " ++ toString error.line ++ ": could not find expected ':'"

end Malformed

namespace Line

/-- The line with a number, unless there is nothing on it. -/
def ofText? (number : Nat) (text : List Char) : Option Line :=
  if isIdle text then
    none
  else
    some ⟨number, (text.takeWhile (· = ' ')).length,
      dropGapAtEnd (text.dropWhile (· = ' '))⟩

/-- What follows the dash of an item. -/
def item? (line : Line) : Option (List Char) :=
  match line.content with
  | '-' :: rest => if endsKey rest then some rest else none
  | _ => none

/-- The key of an entry and what follows its colon. -/
def key? (line : Line) : Option (Scalar × List Char) :=
  if line.content.head?.any isFlowMark then
    none
  else
    match scalar? false line.number line.content with
    | none => none
    | some (key, left) =>
        match skipGap left with
        | ':' :: rest => if endsKey rest then some (key, rest) else none
        | _ => none

/-- The line that remains of an item after its dash: it is indented to its content. -/
def afterDash (line : Line) (rest : List Char) : Line :=
  let content := skipGap rest
  ⟨line.number, line.indent + (line.content.length - content.length), content⟩

end Line

/-- Whether the lines below a key or a dash hold its value: the next one is indented further. -/
def isBelow (indent : Nat) : List Line → Bool
  | [] => false
  | next :: _ => indent < next.indent

mutual

/-- The node that starts on the first line, and the lines after it. -/
def blockNode (fuel : Nat) (lines : List Line) : Except Malformed (Node × List Line) :=
  match fuel, lines with
  | 0, _ | _, [] => .error ⟨0⟩
  | fuel + 1, line :: rest =>
      if line.item?.isSome then
        (blockItems fuel line.indent (line :: rest)).map fun (items, left) =>
          (.sequence line.number items, left)
      else if line.key?.isSome then
        (blockEntries fuel line.indent (line :: rest)).map fun (entries, left) =>
          (.mapping line.number entries, left)
      else
        match inlineNode? line.number line.content with
        | some node => .ok (node, rest)
        | none => .error ⟨line.number⟩

/-- The items with an indentation. -/
def blockItems (fuel indent : Nat) (lines : List Line) :
    Except Malformed (List Node × List Line) :=
  match fuel, lines with
  | 0, _ => .error ⟨0⟩
  | _, [] => .ok ([], [])
  | fuel + 1, line :: rest =>
      if line.indent < indent then
        .ok ([], line :: rest)
      else if indent < line.indent then
        .error ⟨line.number⟩
      else
        match line.item? with
        | none => .ok ([], line :: rest)
        | some after => do
            let (item, left) ←
              if !isIdle after then blockNode fuel (line.afterDash after :: rest)
              else blockValue fuel line.number indent rest
            let (items, left) ← blockItems fuel indent left
            .ok (item :: items, left)

/-- The entries with an indentation. -/
def blockEntries (fuel indent : Nat) (lines : List Line) :
    Except Malformed (List Entry × List Line) :=
  match fuel, lines with
  | 0, _ => .error ⟨0⟩
  | _, [] => .ok ([], [])
  | fuel + 1, line :: rest =>
      if line.indent < indent then
        .ok ([], line :: rest)
      else if indent < line.indent || line.item?.isSome then
        .error ⟨line.number⟩
      else
        match line.key? with
        | none => .error ⟨line.number⟩
        | some (key, after) => do
            let (value, left) ←
              if !isIdle after then
                match inlineNode? line.number (skipGap after) with
                | some node => .ok (node, rest)
                | none => .error ⟨line.number⟩
              else
                match rest with
                | next :: _ =>
                    if next.indent = indent && next.item?.isSome then
                      (blockItems fuel indent rest).map fun (items, left) =>
                        (.sequence next.number items, left)
                    else
                      blockValue fuel line.number indent rest
                | [] => .ok (.nothing line.number, [])
            let (entries, left) ← blockEntries fuel indent left
            .ok (.mk key value :: entries, left)

/-- The value on the lines below a key or a dash, which may be missing. -/
def blockValue (fuel line indent : Nat) (lines : List Line) :
    Except Malformed (Node × List Line) :=
  match fuel with
  | 0 => .error ⟨0⟩
  | fuel + 1 => if isBelow indent lines then blockNode fuel lines else .ok (.nothing line, lines)

end

/-- What follows a mark at the start of a line, if the line starts with it. -/
def afterMark? (mark : List Char) (text : List Char) : Option (List Char) :=
  if mark.isPrefixOf text && endsKey (text.drop mark.length) then
    some (text.drop mark.length)
  else
    none

/-- The lines of the first document: it may start with three dashes and ends before three dashes
or dots. -/
def documentLines (started : Bool) : List (Nat × List Char) → List Line
  | [] => []
  | (number, text) :: rest =>
      match afterMark? ['-', '-', '-'] text with
      | some after =>
          if started then
            []
          else
            (Line.ofText? number (' ' :: ' ' :: ' ' :: after)).toList ++ documentLines true rest
      | none =>
          if (afterMark? ['.', '.', '.'] text).isSome then
            []
          else
            match Line.ofText? number text with
            | some line => line :: documentLines true rest
            | none => documentLines started rest

/-- The text with every line break written as one character. -/
def unifyBreaks : List Char → List Char
  | [] => []
  | '\r' :: '\n' :: rest => '\n' :: unifyBreaks rest
  | '\r' :: rest => '\n' :: unifyBreaks rest
  | character :: rest => character :: unifyBreaks rest

/-- The lines of a text with their numbers, counted from one. -/
def numberedLines (text : String) : List (Nat × List Char) :=
  ((String.ofList (unifyBreaks text.toList)).splitOn "\n").mapIdx fun index line =>
    (index + 1, line.toList)

/-- The root of the first document of a text; a text without one has no root. -/
def parse (text : String) : Except Malformed (Option Node) :=
  match documentLines false (numberedLines text) with
  | [] => .ok none
  | line :: rest =>
      match blockNode (4 * text.length + 4) (line :: rest) with
      | .error error => .error error
      | .ok (root, []) => .ok (some root)
      | .ok (_, next :: _) => .error ⟨next.number⟩

end Scripting.Yaml
