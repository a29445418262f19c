import StyledMarkup.Text.Digit
import StyledMarkup.Yaml.Cursor

/-!
# The texts of scalars

A scalar is plain, quoted, or a block of lines. Within a plain or quoted scalar the blanks around a
line end are folded: one line end is a space, and of several all but the first stay.
-/

namespace StyledMarkup
namespace Yaml

/-- The blanks and line ends between two parts of a scalar. Blanks count only before the first
line end. -/
structure Gap where
  spaces : Text := []
  /-- The line ends in order. -/
  breaks : Text := []
  /-- Whether an escaped line end, which stands for nothing, came first. -/
  escaped : Bool := false

namespace Gap

/-- Whether there is neither a blank nor a line end. -/
def isEmpty (gap : Gap) : Bool :=
  gap.spaces.isEmpty && gap.breaks.isEmpty && !gap.escaped

/-- Whether a line has ended. -/
def hasBreak (gap : Gap) : Bool :=
  !gap.breaks.isEmpty || gap.escaped

/-- The gap with a blank or a line end more. -/
def push (gap : Gap) (c : Char) : Gap :=
  if isBreak c then { gap with spaces := [], breaks := gap.breaks ++ [c] }
  else if gap.hasBreak then gap
  else { gap with spaces := gap.spaces ++ [c] }

/-- What the gap stands for within a scalar. -/
def folded (gap : Gap) : Text :=
  if gap.escaped then gap.breaks
  else match gap.breaks with
    | [] => gap.spaces
    | ['\n'] => [' ']
    | '\n' :: more => more
    | breaks => breaks

end Gap

/-- Whether a plain scalar ends before the text: at a colon before a gap, or at a sign of the flow
around it. -/
def endsPlain (inFlow : Bool) : Text → Bool
  | [] => true
  | c :: rest => (c == ':' && atGap rest) || (inFlow && ",[]\x7b\x7d".toList.contains c)

/-- Whether a colon stands in the flow before a sign that it may not stand before. -/
def strayColon (inFlow : Bool) : Text → Bool
  | ':' :: c :: _ => inFlow && ",?[]\x7b\x7d".toList.contains c
  | _ => false

/-- Reads on in a plain scalar of which `done` has been read, last character first. Gives the text,
where it ends with the gap behind it, and whether a line has ended in that gap. -/
def plainFrom (inFlow : Bool) (indent : Nat) (done : Text) (gap : Gap) (cursor : Cursor) :
    Option (Text × Cursor × Bool) :=
  let ended := some (done.reverse, cursor, gap.hasBreak)
  match _h : cursor.rest with
  | [] => ended
  | c :: _ =>
    if isSpace c || isBreak c then
      if c = '\t' ∧ gap.hasBreak ∧ cursor.column < indent then none
      else plainFrom inFlow indent done (gap.push c) cursor.next
    else if !gap.isEmpty && ((gap.hasBreak && !inFlow && cursor.column < indent) ||
        cursor.atDocumentMarker || c == '#') then ended
    else if strayColon inFlow cursor.rest then none
    else if endsPlain inFlow cursor.rest then ended
    else plainFrom inFlow indent (c :: (gap.folded.reverse ++ done)) {} cursor.next
termination_by cursor.rest.length
decreasing_by all_goals exact Cursor.length_rest_next _h

/-- A plain scalar in a block of the given indentation. -/
def plain (inFlow : Bool) (indent : Nat) (cursor : Cursor) : Option (Text × Cursor × Bool) :=
  plainFrom inFlow indent [] {} cursor

/-- The character of an escape of one letter in double quotes. -/
def escapeOf? : Char → Option Char
  | '0' => some (Char.ofNat 0x00)
  | 'a' => some (Char.ofNat 0x07)
  | 'b' => some (Char.ofNat 0x08)
  | 't' => some '\t'
  | '\t' => some '\t'
  | 'n' => some '\n'
  | 'v' => some (Char.ofNat 0x0b)
  | 'f' => some (Char.ofNat 0x0c)
  | 'r' => some '\r'
  | 'e' => some (Char.ofNat 0x1b)
  | ' ' => some ' '
  | '"' => some '"'
  | '/' => some '/'
  | '\\' => some '\\'
  | 'N' => some (Char.ofNat 0x85)
  | '_' => some (Char.ofNat 0xa0)
  | 'L' => some (Char.ofNat 0x2028)
  | 'P' => some (Char.ofNat 0x2029)
  | _ => none

/-- The number of digits of an escape by code point. -/
def escapeDigits? : Char → Option Nat
  | 'x' => some 2
  | 'u' => some 4
  | 'U' => some 8
  | _ => none

/-- The character that the text after a backslash stands for, and the number of its characters. -/
def escape? (rest : Text) : Option (Char × Nat) :=
  match rest with
  | [] => none
  | c :: digits =>
    match escapeDigits? c with
    | some count => do
      if digits.length < count then none
      else
        let n ← Text.readRadix? 16 (digits.take count)
        if n.isValidChar then some (Char.ofNat n, count + 1) else none
    | none => (escapeOf? c).map fun meant => (meant, 1)

/-- Reads on in a scalar between quotes of which `done` has been read, last character first. Gives
the text and where it ends. -/
def quotedFrom (quote : Char) (done : Text) (gap : Gap) (cursor : Cursor) :
    Option (Text × Cursor) :=
  let settled := gap.folded.reverse ++ done
  let goOn (done : Text) (gap : Gap) (cursor' : Cursor) : Option (Text × Cursor) :=
    if cursor'.rest.length < cursor.rest.length then quotedFrom quote done gap cursor' else none
  match cursor.rest with
  | [] => none
  | c :: rest =>
    if cursor.atDocumentMarker then none
    else if isSpace c || isBreak c then goOn done (gap.push c) cursor.next
    else if c = quote then
      if quote = '\'' ∧ rest.head? = some '\'' then goOn ('\'' :: settled) {} (cursor.advance 2)
      else some (settled.reverse, cursor.next)
    else if quote = '"' ∧ c = '\\' then
      match rest with
      | [] => none
      | after :: _ =>
        if isBreak after then goOn settled { escaped := true } (cursor.advance 2)
        else match escape? rest with
          | some (meant, length) => goOn (meant :: settled) {} (cursor.advance (length + 1))
          | none => none
    else goOn (c :: settled) {} cursor.next
termination_by cursor.rest.length

/-- A quoted scalar, from its first quote on. -/
def quotedScalar (cursor : Cursor) : Option (Text × Cursor) :=
  match cursor.peek? 0 with
  | some quote => quotedFrom quote [] {} cursor.next
  | none => none

/-- What is kept of the line ends behind a block of lines. -/
inductive Chomping where
  | strip | clip | keep
deriving DecidableEq

/-- The chomping that a sign asks for. -/
def Chomping.ofSign? : Char → Option Chomping
  | '-' => some .strip
  | '+' => some .keep
  | _ => none

/-- What stands after the sign that starts a block of lines: chomping and indentation, in either
order. -/
def blockHeader? (t : Text) : Option (Chomping × Nat × Nat) :=
  let digit? (c : Char) : Option Nat := if '1' ≤ c ∧ c ≤ '9' then Text.decimalValue? c else none
  let signed := t.head?.bind Chomping.ofSign?
  match signed with
  | some chomping =>
    match t[1]? with
    | some '0' => none
    | other => match other.bind digit? with
      | some n => some (chomping, n, 2)
      | none => some (chomping, 0, 1)
  | none =>
    match t.head? with
    | some '0' => none
    | other => match other.bind digit? with
      | some n => match t[1]?.bind Chomping.ofSign? with
        | some chomping => some (chomping, n, 2)
        | none => some (.clip, n, 1)
      | none => some (.clip, 0, 0)

/-- Passes over empty lines and the indentation of the next line. `indent` is zero as long as the
indentation is not known, and `deepest` is the greatest column so far. Gives the line ends, the
deepest column and the cursor. -/
def emptyLines (indent deepest : Nat) (cursor : Cursor) : Option (Text × Nat × Cursor) :=
  let isOpen (column : Nat) : Bool := indent == 0 || column < indent
  match _h : cursor.rest with
  | [] => some ([], max deepest cursor.column, cursor)
  | c :: _ =>
    if c = ' ' ∧ isOpen cursor.column then emptyLines indent deepest cursor.next
    else if c = '\t' ∧ isOpen cursor.column then none
    else if isBreak c then do
      let (breaks, deepest, after) ← emptyLines indent (max deepest cursor.column) cursor.next
      some (c :: breaks, deepest, after)
    else some ([], max deepest cursor.column, cursor)
termination_by cursor.rest.length
decreasing_by all_goals exact Cursor.length_rest_next _h

/-- The lines of a block, after the line ends `pending` of which the first one ended a line of
text, if `hasLine`. Lines that start with a blank are never folded. -/
def blockLines (isLiteral : Bool) (chomping : Chomping) (indent : Nat) (first : Text)
    (breaks : Text) (afterBlank : Bool) (cursor : Cursor) : Option (Text × Cursor) :=
  let tail : Text := match chomping with
    | .strip => []
    | .clip => first
    | .keep => first ++ breaks
  match cursor.rest with
  | [] => some (tail, cursor)
  | c :: _ =>
    if cursor.column ≠ indent then some (tail, cursor)
    else
      let isBlank := isSpace c
      let lead : Text :=
        if !isLiteral && first == ['\n'] && !afterBlank && !isBlank then
          if breaks.isEmpty then [' '] else breaks
        else first ++ breaks
      let line := cursor.rest.takeWhile fun r => !isBreak r
      let lineEnd := cursor.advance line.length
      let first' := (lineEnd.peek? 0).toList
      match emptyLines indent 0 lineEnd.next with
      | none => none
      | some (breaks', _, cursor') =>
        if cursor'.rest.length < cursor.rest.length then
          (blockLines isLiteral chomping indent first' breaks' isBlank cursor').map
            fun (more, after) => (lead ++ line ++ more, after)
        else none
termination_by cursor.rest.length

/-- A block of lines, from its sign on, inside a block of the given indentation. -/
def blockScalar (outer : Nat) (cursor : Cursor) : Option (Text × Cursor) := do
  let isLiteral := cursor.peek? 0 == some '|'
  let (chomping, increment, length) ← blockHeader? (cursor.rest.drop 1)
  let cursor := (cursor.advance (length + 1)).skipWhile isSpace
  let cursor := if cursor.peek? 0 == some '#' then cursor.skipWhile fun c => !isBreak c else cursor
  if !atLineEnd cursor.rest then none
  else
    let fixedIndent := if increment = 0 then 0 else (outer - 1) + increment
    let (breaks, deepest, cursor) ← emptyLines fixedIndent 0 cursor.next
    let indent := if fixedIndent = 0 then max deepest (max outer 1) else fixedIndent
    blockLines isLiteral chomping indent [] breaks false cursor

end Yaml
end StyledMarkup
