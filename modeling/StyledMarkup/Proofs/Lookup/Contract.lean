import StyledMarkup.Lookup.Variables
import StyledMarkup.Proofs.Lookup.Tables
import StyledMarkup.Proofs.Template.Renders

/-!
# What flat lookups keep to

A flat lookup is given the text written so far and is trusted with it: it puts its text at the
end, which does not depend on what stands there, and leaves everything as it was if it binds
nothing (`Bindings.Appends`). The tables of variables and of texts and the documents all do.

What is asked of lookups is recorded in two ways: `Bindings.recording` notes every query, and
`Variables.recording` has the suppliers and the functions of a table note that they are called.
-/

namespace StyledMarkup

variable {σ α β : Type}

/-- What a render asks its lookups for: a name, or a call. -/
inductive Query where
  | name (name : Text)
  | call (call : Call)
deriving DecidableEq

namespace Query

/-- The node that asks so. -/
def node : Query → Node
  | name n => .reference n
  | call c => .call c

/-- What stands where nothing is bound. -/
def placeholder : Query → Text
  | name n => Node.namePlaceholder n
  | call c => Node.callPlaceholder c

end Query

/-- The answer that puts a text at the end of the output, or leaves the output as it was if there
is none. -/
def Answer.adding (out : Text) : Option Text → Answer Text
  | some content => .found (out ++ content)
  | none => .unbound out

namespace Bindings

variable (bindings : Bindings σ)

/-- The lookup for a query. -/
def lookup (query : Query) (out : Text) : Render σ (Answer Text) :=
  match query with
  | .name name => bindings.variableText name out
  | .call call => bindings.functionText call.name call.args out

/-- The text that is bound to a query, if any: what its lookup makes of an empty output. -/
def textOf (query : Query) : Render σ (Option Text) := do
  let answer ← bindings.lookup query []
  return if answer.bound then some answer.result else none

/-- Whether every lookup puts its text at the end of the output, a text that does not depend on
the output, or leaves the output as it was. -/
def Appends : Prop :=
  ∀ query out, bindings.lookup query out = do return .adding out (← bindings.textOf query)

/-- Whether no lookup looks at the buffer or the log, which belong to the renders. -/
def Blind : Prop :=
  ∀ query out, (bindings.lookup query out).Blind

/-- The lookups with a record of all queries that are made. -/
def recording : Bindings (σ × List Query) where
  variableText name out := Render.recorded [.name name] (bindings.variableText name out)
  functionText name args out :=
    Render.recorded [.call ⟨name, args⟩] (bindings.functionText name args out)

variable {bindings}

theorem lookup_recording (query : Query) (out : Text) :
    bindings.recording.lookup query out = Render.recorded [query] (bindings.lookup query out) := by
  cases query <;> rfl

theorem textOf_recording (query : Query) :
    bindings.recording.textOf query = Render.recorded [query] (bindings.textOf query) := by
  unfold textOf
  rw [lookup_recording]
  exact Render.recorded_map _ _ _

theorem Appends.recording (h : bindings.Appends) : bindings.recording.Appends := by
  intro query out
  rw [lookup_recording, textOf_recording, Render.recorded_map, ← h query out]

theorem Blind.textOf (h : bindings.Blind) (query : Query) : (bindings.textOf query).Blind :=
  (h query []).bind fun _ => Render.blind_pure _

theorem appends_ofTable (table : Table Text) : (ofTable (σ := σ) table).Appends := by
  rintro (name | call) out
  · simp only [textOf, lookup, ofTable]
    cases table.get? name <;> simp [Answer.adding, Answer.found, Answer.unbound]
  · simp [textOf, lookup, ofTable, noFunction, Answer.adding, Answer.unbound]

theorem blind_ofTable (table : Table Text) : (ofTable (σ := σ) table).Blind := by
  rintro (name | call) out
  · simp only [lookup, ofTable]
    cases table.get? name <;> exact Render.blind_pure _
  · exact Render.blind_pure _

theorem appends_ofDocument (document : Json) : (ofDocument (σ := σ) document).Appends := by
  rintro (name | call) out
  · simp only [textOf, lookup, ofDocument]
    cases document.atPath? name <;> simp [Answer.adding, Answer.found, Answer.unbound]
  · simp [textOf, lookup, ofDocument, noFunction, Answer.adding, Answer.unbound]

end Bindings

/-! ## Renders look at neither the buffer nor the log -/

namespace FlatBody

theorem writeNode_query (bindings : Bindings σ) (out : Text) (query : Query) :
    writeNode bindings out query.node = do
      let answer ← bindings.lookup query out
      return if answer.bound then answer.result else answer.result ++ query.placeholder := by
  cases query <;> rfl

theorem writeNode_blind {bindings : Bindings σ} (h : bindings.Blind) (out : Text) (node : Node) :
    (writeNode bindings out node).Blind := by
  cases node with
  | text content => exact Render.blind_pure _
  | link address => exact Render.blind_pure _
  | code code => exact Render.blind_pure _
  | color color => exact Render.blind_pure _
  | reference name => exact (h (.name name) out).bind fun _ => Render.blind_pure _
  | call call => exact (h (.call call) out).bind fun _ => Render.blind_pure _

/-- With lookups that look at neither, a render looks at neither; so a lookup may render further
templates. -/
theorem render_blind {bindings : Bindings σ} (h : bindings.Blind) (body : FlatBody) :
    (body.render bindings).Blind := by
  cases body with
  | fixed content => exact Render.blind_pure _
  | dynamic nodes =>
    have hwrite : (writeNodes bindings [] nodes).Blind := .foldlM (writeNode_blind h) [] nodes
    exact hwrite.borrowing.trans hwrite.borrowing.symm

end FlatBody

/-! ## Tables whose suppliers and functions note their calls -/

/-- The table with every value changed. -/
def Table.map (f : Text → α → β) (table : Table α) : Table β where
  entries := table.entries.map fun entry => (entry.1, f entry.1 entry.2)
  ascending := by
    unfold Entries.Ascending
    exact List.pairwise_map.2 table.ascending

theorem Table.get?_map (f : Text → α → β) (table : Table α) (name : Text) :
    (table.map f).get? name = (table.get? name).map (f name) :=
  Entries.find?_map f name table.entries

/-- The value, whose supplier notes under the name that it is called. -/
def Value.recording (name : Text) : Value σ → Value (σ × List Query)
  | text content => text content
  | supplied supplier => supplied (Render.recorded [.name name] supplier)

namespace Variables

variable (vars : Variables σ)

/-- The table with a record of the suppliers and the functions that are called. -/
def recording : Variables (σ × List Query) where
  values := vars.values.map Value.recording
  functions := vars.functions.map fun name function args =>
    Render.recorded [.call ⟨name, args⟩] (function args)

/-- Whether a supplier or a function is called for the query. -/
def calls : Query → Bool
  | .name name =>
    match vars.values.get? name with
    | some (.supplied _) => true
    | _ => false
  | .call call => vars.hasFunction call.name

theorem appends_bindings : vars.bindings.Appends := by
  rintro (name | call) out
  · simp only [Bindings.textOf, Bindings.lookup, bindings]
    cases vars.values.get? name <;> simp [Answer.adding, Answer.found, Answer.unbound]
  · simp only [Bindings.textOf, Bindings.lookup, bindings]
    cases vars.functions.get? call.name <;> simp [Answer.adding, Answer.found, Answer.unbound]

/-- A table looks at neither the buffer nor the log if its suppliers and functions do not. -/
theorem blind_bindings {vars : Variables σ}
    (hv : ∀ name value, vars.values.get? name = some value → value.resolve.Blind)
    (hf : ∀ name function, vars.functions.get? name = some function →
      ∀ args, (function args).Blind) : vars.bindings.Blind := by
  rintro (name | call) out
  · simp only [Bindings.lookup, bindings]
    cases h : vars.values.get? name with
    | none => exact Render.blind_pure _
    | some value => exact (hv name value h).bind fun _ => Render.blind_pure _
  · simp only [Bindings.lookup, bindings]
    cases h : vars.functions.get? call.name with
    | none => exact Render.blind_pure _
    | some function => exact (hf call.name function h call.args).bind fun _ => Render.blind_pure _

theorem textOf_name (name : Text) : vars.bindings.textOf (.name name) =
    match vars.values.get? name with
    | some value => do return some (← value.resolve)
    | none => pure none := by
  simp only [Bindings.textOf, Bindings.lookup, bindings]
  cases vars.values.get? name <;> simp [Answer.found, Answer.unbound]

theorem textOf_call (call : Call) : vars.bindings.textOf (.call call) =
    match vars.functions.get? call.name with
    | some function => do return some (← function call.args)
    | none => pure none := by
  simp only [Bindings.textOf, Bindings.lookup, bindings]
  cases vars.functions.get? call.name <;> simp [Answer.found, Answer.unbound]

/-- Each query that is answered by a supplier or a function calls it once. -/
theorem textOf_recording (query : Query) : vars.recording.bindings.textOf query =
    Render.recorded ([query].filter vars.calls) (vars.bindings.textOf query) := by
  cases query with
  | name name =>
    rw [textOf_name, textOf_name, recording, Table.get?_map]
    cases h : vars.values.get? name with
    | none => simp [calls, h, Render.recorded_pure]
    | some value =>
      cases value with
      | text content => simp [calls, h, Value.recording, Value.resolve, Render.recorded_pure]
      | supplied supplier =>
        simp only [calls, h, Option.map_some, Value.recording, Value.resolve, List.filter_cons,
          List.filter_nil, if_true]
        exact Render.recorded_map _ _ _
  | call call =>
    rw [textOf_call, textOf_call, recording, Table.get?_map]
    cases h : vars.functions.get? call.name with
    | none => simp [calls, hasFunction, Table.contains, h, Render.recorded_pure]
    | some function =>
      simp only [calls, hasFunction, Table.contains, h, Option.map_some, Option.isSome_some,
        List.filter_cons, List.filter_nil, if_true]
      exact Render.recorded_map _ _ _

end Variables
end StyledMarkup
