import StyledMarkup.Template.Node

/-!
# What renders share

Lookups may keep a memory of their own between calls, and may render further templates while they
are called. All renders share one buffer, which the outermost flat render of a template that is
not fixed has for as long as it lasts, and one log of events.
-/

namespace StyledMarkup

/-- What is recorded while templates are compiled and rendered. -/
inductive Event where
  /-- A flat template has been compiled: whether it is fixed, and of how many nodes. -/
  | compiledFlat (isFixed : Bool) (nodes : Nat)
  /-- A styled template has been compiled: whether it is fixed. -/
  | compiledStyled (isFixed : Bool)
  /-- Another node takes the place of a token's. -/
  | fellBack (fallback : Fallback)
  /-- A flat render found the buffer lent out. -/
  | bufferInUse
deriving DecidableEq, Inhabited

namespace Event

/-- How much the event matters. -/
inductive Level where
  | trace | debug
deriving DecidableEq

/-- How much the event matters. -/
def level : Event → Level
  | fellBack _ => .debug
  | _ => .trace

/-- The message of the event. -/
def message : Event → Text
  | compiledFlat _ _ => "compiled flat template".toList
  | compiledStyled _ => "compiled styled template".toList
  | fellBack (.unknownCode _) => "unknown legacy code kept as text".toList
  | fellBack (.malformedHex _) => "malformed hex color kept as text".toList
  | fellBack (.malformedCall _ _) => "variable body is not a function call".toList
  | bufferInUse => "scratch buffer in use, rendering into a fresh one".toList

/-- The name of the kind of a compiled template. -/
def kindName (isFixed : Bool) : Text :=
  if isFixed then "static".toList else "dynamic".toList

end Event

/-- The buffer that flat renders write into. -/
inductive Buffer where
  /-- Nobody has the buffer, and it still holds what was written last. -/
  | free (leftover : Text)
  /-- A render has the buffer. -/
  | lent
deriving DecidableEq, Inhabited

namespace Buffer

/-- The greatest number of bytes that a free buffer keeps room for. -/
def roomLimit : Nat := 64 * 1024

/-- An emptied buffer has nothing of what it held. -/
def emptied (_leftover : Text) : Text := []

/-- What stays in the buffer after a render; a long text is let go. -/
def kept (written : Text) : Text :=
  if written.foldl (fun bytes c => bytes + c.utf8Size) 0 > roomLimit then [] else written

end Buffer

/-- What renders share: the buffer, the log in order, and the memory of the lookups. -/
structure Context (σ : Type) where
  buffer : Buffer
  log : List Event
  memory : σ

/-- The context before anything has been rendered. -/
def Context.fresh {σ : Type} (memory : σ) : Context σ :=
  { buffer := .free [], log := [], memory }

/-- A computation that may render templates, with a memory of type `σ`. -/
abbrev Render (σ α : Type) := StateM (Context σ) α

namespace Render

variable {σ : Type}

/-- Records events. -/
def note (events : List Event) : Render σ Unit :=
  modify fun context => { context with log := context.log ++ events }

/-- Gives out the buffer or takes it back. -/
def setBuffer (buffer : Buffer) : Render σ Unit :=
  modify fun context => { context with buffer }

/-- Reads the memory and changes it. -/
def remember {α : Type} (f : σ → α × σ) : Render σ α :=
  modifyGet fun context =>
    let (result, memory) := f context.memory
    (result, { context with memory })

end Render
end StyledMarkup
