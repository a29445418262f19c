import StyledMarkup.Yaml.ScalarText
import StyledMarkup.Yaml.TagName
import StyledMarkup.Yaml.Token

/-!
# From text to tokens

Blocks start where a deeper column does and end where a lesser one comes. Whether a scalar, a name
or a flow collection was the key of a mapping is known only when a colon follows it on the same
line; the tokens that make it a key are then put in before it. Outside a flow a required key, one
that stands at the column of its block, must get its colon.
-/

namespace StyledMarkup
namespace Yaml

/-- A place that may turn out to start a key. -/
structure Candidate where
  /-- How many tokens come before it. -/
  position : Nat
  index : Nat
  line : Nat
  column : Nat
  isRequired : Bool

/-- The state of reading tokens. -/
structure Layout where
  cursor : Cursor
  /-- The tokens so far, in order. -/
  tokens : List Token := []
  /-- The columns of the open blocks, innermost first. -/
  indents : List Nat := []
  /-- The candidates of the block and of the open flow collections, innermost first. -/
  candidates : List (Option Candidate) := [none]
  /-- Whether a key may start here. -/
  keyAllowed : Bool := true
  /-- What the handles of tags stand for that directives have declared. -/
  handles : List (Text × Text) := []
  /-- Whether a directive has told the version. -/
  hasVersion : Bool := false

namespace Layout

/-- Whether a flow collection is open. -/
def inFlow (s : Layout) : Bool :=
  s.candidates.length > 1

/-- The least column of what belongs to the innermost block. -/
def inner (s : Layout) : Nat :=
  match s.indents with
  | [] => 0
  | indent :: _ => indent + 1

/-- Adds a token at the end. -/
def emit (s : Layout) (token : Token) : Layout :=
  { s with tokens := s.tokens ++ [token] }

/-- Adds a token after the first `position` ones. -/
def emitAt (s : Layout) (position : Nat) (token : Token) : Layout :=
  { s with tokens := s.tokens.take position ++ token :: s.tokens.drop position }

/-- Opens a block at a column that is deeper than the innermost one, with its start token after the
first `position` ones. -/
def openBlock (s : Layout) (column position : Nat) (start : Token) : Layout :=
  if s.inFlow || column < s.inner then s
  else { s.emitAt position start with indents := column :: s.indents }

/-- The blocks that stay open when the innermost ones that do not satisfy `stays` end, and how many
end. -/
def closing (stays : Nat → Bool) : List Nat → Nat × List Nat
  | [] => (0, [])
  | indent :: outer =>
    if stays indent then (0, indent :: outer)
    else
      let (count, left) := closing stays outer
      (count + 1, left)

/-- Ends the innermost blocks that do not satisfy `stays`; within a flow no block ends. -/
def closeBlocks (s : Layout) (stays : Nat → Bool) : Layout :=
  if s.inFlow then s
  else
    let (count, indents) := closing stays s.indents
    { s with indents, tokens := s.tokens ++ List.replicate count .blockEnd }

/-- Drops the innermost candidate; a required one must not be dropped. -/
def dropCandidate (s : Layout) : Option Layout :=
  match s.candidates with
  | some candidate :: outer =>
    if candidate.isRequired then none else some { s with candidates := none :: outer }
  | _ => some s

/-- Takes this place as the innermost candidate, if a key may start here. -/
def saveCandidate (s : Layout) : Option Layout :=
  if s.keyAllowed then do
    let s ← s.dropCandidate
    let candidate : Candidate :=
      { position := s.tokens.length, index := s.cursor.index, line := s.cursor.line,
        column := s.cursor.column,
        isRequired := !s.inFlow && s.indents.head? == some s.cursor.column }
    some { s with candidates := some candidate :: s.candidates.drop 1 }
  else some s

/-- The greatest length of a key. -/
def keyLimit : Nat := 1024

/-- Drops the candidates that no colon can follow any more. -/
def dropStale (s : Layout) : Option Layout := do
  let candidates ← s.candidates.mapM fun saved => match saved with
    | none => some none
    | some candidate =>
      if candidate.line < s.cursor.line || candidate.index + keyLimit < s.cursor.index then
        if candidate.isRequired then none else some none
      else some (some candidate)
  some { s with candidates }

/-- Passes over blanks, comments and line ends up to the next token. -/
def skipGaps (s : Layout) : Layout :=
  go s.cursor s.keyAllowed
where
  /-- Passes on from a cursor; a line end outside a flow lets a key start. -/
  go (cursor : Cursor) (keyAllowed : Bool) : Layout :=
    match _h : cursor.rest with
    | [] => { s with cursor, keyAllowed }
    | c :: _ =>
      if c = ' ' ∨ (c = '\t' ∧ (s.inFlow ∨ !keyAllowed)) then go cursor.next keyAllowed
      else if isBreak c then go cursor.next (keyAllowed || !s.inFlow)
      else if c = '#' then
        let after := cursor.skipWhile fun r => !isBreak r
        if after.rest.length < cursor.rest.length then go after keyAllowed
        else { s with cursor, keyAllowed }
      else { s with cursor, keyAllowed }
  termination_by cursor.rest.length
  decreasing_by
    · exact Cursor.length_rest_next _h
    · exact Cursor.length_rest_next _h
    · assumption

/-- Passes over `length` characters. -/
def skip (s : Layout) (length : Nat) : Layout :=
  { s with cursor := s.cursor.advance length }

/-- Reads the sign that starts or ends a document. -/
def readMarker (s : Layout) (token : Token) : Option Layout := do
  let s ← (s.closeBlocks fun _ => false).dropCandidate
  some (({ s with keyAllowed := false }.emit token).skip 3)

/-- Reads the sign that opens a flow collection. -/
def readFlowStart (s : Layout) (token : Token) : Option Layout := do
  let s ← s.saveCandidate
  some (({ s with candidates := none :: s.candidates, keyAllowed := true }.emit token).skip 1)

/-- Reads the sign that closes a flow collection. -/
def readFlowEnd (s : Layout) (token : Token) : Option Layout := do
  let s ← s.dropCandidate
  let candidates := if s.inFlow then s.candidates.drop 1 else s.candidates
  some (({ s with candidates, keyAllowed := false }.emit token).skip 1)

/-- Reads the comma of a flow collection. -/
def readFlowEntry (s : Layout) : Option Layout := do
  let s ← s.dropCandidate
  some (({ s with keyAllowed := true }.emit .flowEntry).skip 1)

/-- Reads the dash of a list. -/
def readBlockEntry (s : Layout) : Option Layout := do
  if !s.inFlow && !s.keyAllowed then none
  else
    let s ← (s.openBlock s.cursor.column s.tokens.length .blockList).dropCandidate
    some (({ s with keyAllowed := true }.emit .blockEntry).skip 1)

/-- Reads the question mark of a key. -/
def readKey (s : Layout) : Option Layout := do
  if !s.inFlow && !s.keyAllowed then none
  else
    let s ← (s.openBlock s.cursor.column s.tokens.length .blockMapping).dropCandidate
    some (({ s with keyAllowed := !s.inFlow }.emit .key).skip 1)

/-- Reads the colon of a value, which makes the innermost candidate a key. -/
def readValue (s : Layout) : Option Layout :=
  match s.candidates with
  | some candidate :: outer =>
    let s := { s.emitAt candidate.position .key with candidates := none :: outer }
    let s := s.openBlock candidate.column candidate.position .blockMapping
    some (({ s with keyAllowed := false }.emit .value).skip 1)
  | _ =>
    if !s.inFlow && !s.keyAllowed then none
    else
      let s := s.openBlock s.cursor.column s.tokens.length .blockMapping
      some (({ s with keyAllowed := !s.inFlow }.emit .value).skip 1)

/-- Reads the name of an anchor or an alias after its sign. -/
def readName (s : Layout) (token : Text → Token) : Option Layout := do
  let s ← s.saveCandidate
  let name := (s.cursor.rest.drop 1).takeWhile isNameChar
  let after := s.cursor.rest.drop (name.length + 1)
  let ends := atGap after || (after.head?.any fun c => "?:,]\x7d%@`".toList.contains c)
  if name.isEmpty || !ends then none
  else some (({ s with keyAllowed := false }.emit (token name)).skip (name.length + 1))

/-- Reads a tag. -/
def readTag (s : Layout) : Option Layout := do
  let s ← s.saveCandidate
  let (name, length) ← tagName? s.handles s.cursor.rest
  let after := s.cursor.rest.drop length
  if atGap after || (s.inFlow && after.head? == some ',') then
    some (({ s with keyAllowed := false }.emit (.tag (Tag.ofName name))).skip length)
  else none

/-- Reads a directive, which takes a line. -/
def readDirective (s : Layout) : Option Layout := do
  let s ← (s.closeBlocks fun _ => false).dropCandidate
  let line := s.cursor.rest.takeWhile fun c => !isBreak c
  let s ← match ← directive? line with
    | .version => if s.hasVersion then none else some { s with hasVersion := true }
    | .handle handle start =>
      if (s.handles.lookup handle).isSome then none
      else some { s with handles := s.handles ++ [(handle, start)] }
  some (({ s with keyAllowed := false }.emit .directive).skip (line.length + 1))

/-- Reads a block of lines. -/
def readBlockScalar (s : Layout) : Option Layout := do
  let s ← s.dropCandidate
  let (content, cursor) ← blockScalar s.inner s.cursor
  some ({ s with cursor, keyAllowed := true }.emit (.scalar content false))

/-- Reads a quoted scalar. -/
def readQuoted (s : Layout) : Option Layout := do
  let s ← s.saveCandidate
  let (content, cursor) ← quotedScalar s.cursor
  some ({ s with cursor, keyAllowed := false }.emit (.scalar content false))

/-- Reads a plain scalar. -/
def readPlain (s : Layout) : Option Layout := do
  let s ← s.saveCandidate
  let (content, cursor, hasBreak) ← plain s.inFlow s.inner s.cursor
  some ({ s with cursor, keyAllowed := hasBreak }.emit (.scalar content true))

/-- Whether a plain scalar may start with the character. A tab that has not been passed over stands
where the indentation of a key should be. -/
def startsPlain (s : Layout) (c : Char) : Bool :=
  let rest := s.cursor.rest.drop 1
  !isSpace c && !("-?:,[]\x7b\x7d#&*!|>'\"%@`".toList.contains c) ||
    (c == '-' && !(rest.head?.any isSpace)) ||
    (!s.inFlow && (c == '?' || c == ':') && !atGap rest)

/-- Reads the next token, which starts with `c`. -/
def readToken (s : Layout) (c : Char) : Option Layout :=
  let rest := s.cursor.rest.drop 1
  if c = '%' ∧ s.cursor.column = 0 then s.readDirective
  else if s.cursor.atMarker "---" then s.readMarker .documentStart
  else if s.cursor.atMarker "..." then s.readMarker .documentEnd
  else if c = '[' then s.readFlowStart .flowList
  else if c = '{' then s.readFlowStart .flowMapping
  else if c = ']' then s.readFlowEnd .flowListEnd
  else if c = '}' then s.readFlowEnd .flowMappingEnd
  else if c = ',' then s.readFlowEntry
  else if c = '-' ∧ atGap rest then s.readBlockEntry
  else if c = '?' ∧ (s.inFlow ∨ atGap rest) then s.readKey
  else if c = ':' ∧ (s.inFlow ∨ atGap rest) then s.readValue
  else if c = '*' then s.readName .alias
  else if c = '&' then s.readName .anchor
  else if c = '!' then s.readTag
  else if (c = '|' ∨ c = '>') ∧ !s.inFlow then s.readBlockScalar
  else if c = '\'' ∨ c = '"' then s.readQuoted
  else if s.startsPlain c then s.readPlain
  else none

/-- Ends all blocks at the end of the text. -/
def finish (s : Layout) : Option (List Token) := do
  let s ← (s.closeBlocks fun _ => false).dropCandidate
  some s.tokens

/-- Reads the tokens to the end of the text. -/
def run (s : Layout) : Option (List Token) :=
  match s.skipGaps.dropStale with
  | none => none
  | some ready =>
    let ready := ready.closeBlocks fun indent => indent ≤ ready.cursor.column
    match ready.cursor.rest with
    | [] => ready.finish
    | c :: _ =>
      match ready.readToken c with
      | none => none
      | some s' => if s'.cursor.rest.length < s.cursor.rest.length then run s' else none
termination_by s.cursor.rest.length

end Layout

/-- The tokens of a text. -/
def tokens? (t : Text) : Option (List Token) :=
  if t.all isAllowed then Layout.run { cursor := Cursor.start t } else none

end Yaml
end StyledMarkup
