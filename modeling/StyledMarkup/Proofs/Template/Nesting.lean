import StyledMarkup.Proofs.Lookup.Contract

/-!
# Nested renders

What a lookup can do is a tree of steps (`Activity`): it reads and writes, uses its memory, and
renders further templates, whose lookups are such trees again, to any depth. The lookups of a table
are such trees if its suppliers and functions are (`Variables.Acts.exists_bindings_eq`), which every
binding keeps (`Variables.Acts.setSupplied`, `Variables.Acts.setFunction`).

A tree is done in two ways: as the program does it, where renders share the buffer (`run`), and
with a new text for each render and no buffer at all (`runAnew`). The invariant is that all that a
lookup renders finds the buffer lent out, since lookups are made only while the outermost render
goes on (`run_shadows`). So the two agree, and the log tells of each render that had to do without
the buffer.
-/

namespace StyledMarkup

variable {σ α β : Type}

/-- What a lookup of a flat render does, one thing after another, until it answers. The renders
that it starts have lookups of their own, which do the like; what it computes in between stands in
the functions that give the next step. -/
inductive Activity (σ : Type) where
  /-- Answers whether the name is bound. -/
  | answer (bound : Bool)
  /-- Reads the memory. -/
  | load (next : σ → Activity σ)
  /-- Replaces the memory. -/
  | store (memory : σ) (next : Activity σ)
  /-- Reads the text written so far. -/
  | look (next : Text → Activity σ)
  /-- Replaces the text written so far. -/
  | put (out : Text) (next : Activity σ)
  /-- Renders a template. -/
  | render (body : FlatBody) (lookup : Query → Activity σ) (next : Text → Activity σ)

/-- The lookups of names and of calls, from one lookup of queries. -/
def Bindings.ofLookup (lookup : Query → Text → Render σ (Answer Text)) : Bindings σ where
  variableText name out := lookup (.name name) out
  functionText name args out := lookup (.call ⟨name, args⟩) out

theorem Bindings.lookup_ofLookup (lookup : Query → Text → Render σ (Answer Text)) (query : Query) :
    (ofLookup lookup).lookup query = lookup query := by
  cases query <;> rfl

namespace Activity

/-- Does the activity; the renders share the buffer. -/
def run : Activity σ → Text → Render σ (Answer Text)
  | answer bound, out => pure ⟨bound, out⟩
  | load next, out => do
    let memory ← Render.remember fun memory => (memory, memory)
    run (next memory) out
  | store memory next, out => do
    Render.remember fun _ => ((), memory)
    run next out
  | look next, out => run (next out) out
  | put text next, _ => run next text
  | render body lookup next, out => do
    let text ← body.render (.ofLookup fun query => run (lookup query))
    run (next text) out

/-- The lookups of a flat render that do the activities. -/
def bindings (lookup : Query → Activity σ) : Bindings σ :=
  .ofLookup fun query => (lookup query).run

end Activity

/-! ## Tables whose suppliers and functions render -/

namespace Activity

/-- The text that the activity leaves where nothing has been written before. -/
def text (activity : Activity σ) : Render σ Text := do
  return (← activity.run []).result

/-- The activity on a text of its own, which starts as `own`, and then what follows from the text
that it leaves. -/
def aside (behind : Text → Activity σ) : Activity σ → Text → Activity σ
  | answer _, own => behind own
  | load next, own => load fun memory => aside behind (next memory) own
  | store memory next, own => store memory (aside behind next own)
  | look next, own => aside behind (next own) own
  | put text next, _ => aside behind next text
  | render body lookup next, own => render body lookup fun text => aside behind (next text) own

theorem run_aside (behind : Text → Activity σ) (activity : Activity σ) (own out : Text) :
    (activity.aside behind own).run out =
      activity.run own >>= fun answer => (behind answer.result).run out := by
  induction activity generalizing own with
  | answer bound => rfl
  | load next ih =>
    exact congrArg (Render.remember (fun memory => (memory, memory)) >>= ·)
      (funext fun memory => ih memory own)
  | store memory next ih =>
    exact congrArg (Render.remember (fun _ => ((), memory)) >>= ·) (funext fun _ => ih own)
  | look next ih => exact ih own own
  | put text next ih => exact ih text
  | render body lookup next _ ih =>
    exact congrArg (body.render (bindings lookup) >>= ·) (funext fun text => ih text own)

/-- Puts a text at the end of what is written and answers that the name is bound. -/
def found (content : Text) : Activity σ :=
  look fun out => put (out ++ content) (answer true)

theorem exists_text_eq (body : FlatBody) (lookup : Query → Activity σ) :
    ∃ activity : Activity σ, activity.text = body.render (bindings lookup) := by
  refine ⟨.render body lookup fun text => .put text (.answer true), ?_⟩
  exact bind_pure (body.render (bindings lookup))

end Activity

/-- Whether the suppliers and the functions of the table do nothing but activities. -/
structure Variables.Acts (vars : Variables σ) : Prop where
  supplier : ∀ name supplier, vars.values.get? name = some (.supplied supplier) →
    ∃ activity : Activity σ, activity.text = supplier
  function : ∀ name function, vars.functions.get? name = some function →
    ∀ args, ∃ activity : Activity σ, activity.text = function args

theorem Variables.acts_empty : (empty : Variables σ).Acts :=
  ⟨nofun, nofun⟩

section Acts

variable {vars : Variables σ} (h : vars.Acts) (name : Text)
include h

theorem Variables.Acts.insert {value : Value σ} (hvalue : ∀ supplier, value = .supplied supplier →
    ∃ activity : Activity σ, activity.text = supplier) :
    Variables.Acts { vars with values := vars.values.insert name value } where
  supplier sought supplier hs := by
    rw [Table.get?_insert] at hs
    split at hs
    · exact hvalue supplier (Option.some.inj hs)
    · exact h.supplier sought supplier hs
  function := h.function

theorem Variables.Acts.set (content : Text) : (vars.set name content).Acts :=
  h.insert name nofun

theorem Variables.Acts.setSupplied {supplier : Render σ Text}
    (hsupplier : ∃ activity : Activity σ, activity.text = supplier) :
    (vars.setSupplied name supplier).Acts :=
  h.insert name fun _ heq => Value.supplied.inj heq ▸ hsupplier

theorem Variables.Acts.setFunction {function : List Text → Render σ Text}
    (hfunction : ∀ args, ∃ activity : Activity σ, activity.text = function args) :
    (vars.setFunction name function).Acts where
  supplier := h.supplier
  function sought other hs := by
    rw [Variables.setFunction, Table.get?_insert] at hs
    split at hs
    · cases hs
      exact hfunction
    · exact h.function sought other hs

end Acts

/-- The lookups of such a table do nothing but activities. -/
theorem Variables.Acts.exists_bindings_eq {vars : Variables σ} (h : vars.Acts) :
    ∃ lookup, Activity.bindings lookup = vars.bindings := by
  have haside : ∀ (activity : Activity σ) (out : Text),
      (do return Answer.found (out ++ (← activity.text))) =
        (activity.aside Activity.found []).run out := by
    intro activity out
    rw [Activity.run_aside]
    rfl
  have hlookup : ∀ query, ∃ activity : Activity σ,
      ∀ out, vars.bindings.lookup query out = activity.run out := by
    rintro (name | call)
    · simp only [Bindings.lookup, bindings]
      cases hn : vars.values.get? name with
      | none => exact ⟨.answer false, fun _ => rfl⟩
      | some value =>
        cases value with
        | text content => exact ⟨.found content, fun _ => rfl⟩
        | supplied supplier =>
          obtain ⟨activity, rfl⟩ := h.supplier name supplier hn
          exact ⟨activity.aside .found [], haside activity⟩
    · simp only [Bindings.lookup, bindings]
      cases hn : vars.functions.get? call.name with
      | none => exact ⟨.answer false, fun _ => rfl⟩
      | some function =>
        obtain ⟨activity, hactivity⟩ := h.function call.name function hn call.args
        exact ⟨activity.aside .found [], fun out => by rw [← haside, hactivity]⟩
  choose lookup hlookup using hlookup
  refine ⟨lookup, ?_⟩
  show _ = Bindings.ofLookup vars.bindings.lookup
  rw [funext fun query => funext (hlookup query)]
  rfl

/-- So is a render with this table, and a supplier or a function of another table may be one. -/
theorem Variables.Acts.exists_text_eq {vars : Variables σ} (h : vars.Acts) (body : FlatBody) :
    ∃ activity : Activity σ, activity.text = body.render vars.bindings := by
  obtain ⟨lookup, hlookup⟩ := h.exists_bindings_eq
  rw [← hlookup]
  exact Activity.exists_text_eq body lookup

/-! ## Renders without a buffer -/

/-- A render that has been started: whether its template is fixed, and whether it has been started
while another one of a template that is not fixed goes on. -/
structure Started where
  isFixed : Bool
  inside : Bool
deriving DecidableEq

/-- The events of renders that could not have the buffer. -/
def Started.events (starts : List Started) : List Event :=
  starts.flatMap fun start => if start.inside && !start.isFixed then [.bufferInUse] else []

/-- Renders into a new text, as if there were no buffer, and keeps a record of what is started. -/
def FlatBody.renderAnew (inside : Bool) (body : FlatBody)
    (bindings : Bindings (σ × List Started)) : Render (σ × List Started) Text := do
  Render.remember fun (memory, starts) => ((), memory, starts ++ [⟨body.isFixed, inside⟩])
  match body with
  | fixed content => pure content
  | dynamic nodes => writeNodes bindings [] nodes

namespace Activity

/-- Does the activity; each render has a new text. Lookups are only made while a template that is
not fixed is rendered, so all these renders are inside. -/
def runAnew : Activity σ → Text → Render (σ × List Started) (Answer Text)
  | answer bound, out => pure ⟨bound, out⟩
  | load next, out => do
    let memory ← Render.remember fun (memory, starts) => (memory, memory, starts)
    runAnew (next memory) out
  | store memory next, out => do
    Render.remember fun (_, starts) => ((), memory, starts)
    runAnew next out
  | look next, out => runAnew (next out) out
  | put text next, _ => runAnew next text
  | render body lookup next, out => do
    let text ← body.renderAnew true (.ofLookup fun query => runAnew (lookup query))
    runAnew (next text) out

/-- The lookups of a flat render that do the activities, without a buffer. -/
def bindingsAnew (lookup : Query → Activity σ) : Bindings (σ × List Started) :=
  .ofLookup fun query => (lookup query).runAnew

end Activity

/-! ## Both ways agree -/

theorem Started.events_cons (start : Started) (starts : List Started) :
    events (start :: starts) =
      (if start.inside && !start.isFixed then [.bufferInUse] else []) ++ events starts :=
  List.flatMap_cons

theorem Started.events_append (starts more : List Started) :
    events (starts ++ more) = events starts ++ events more :=
  List.flatMap_append

/-- Whether a computation that finds the buffer lent out does what another one does without a
buffer: it has the same result and leaves the same in the memory, the buffer stays lent out, and the
log tells of each render that is started and would have needed the buffer. -/
def Shadows (run : Render σ α) (anew : Render (σ × List Started) α) : Prop :=
  ∀ (log : List Event) (context : Context (σ × List Started)), ∃ starts,
    (anew context).2.memory.2 = context.memory.2 ++ starts ∧
    run ⟨.lent, log, context.memory.1⟩ =
      ((anew context).1, ⟨.lent, log ++ Started.events starts, (anew context).2.memory.1⟩)

theorem shadows_pure (a : α) : Shadows (pure a : Render σ α) (pure a) := by
  intro log context
  refine ⟨[], (List.append_nil _).symm, ?_⟩
  rw [Started.events, List.flatMap_nil, List.append_nil]
  rfl

/-- The record of what is started is no part of the memory. -/
theorem shadows_remember {f : σ → α × σ} {g : σ × List Started → α × σ × List Started}
    (h : ∀ memory starts, g (memory, starts) = ((f memory).1, (f memory).2, starts)) :
    Shadows (Render.remember f) (Render.remember g) := by
  rintro log ⟨buffer, rest, memory, starts⟩
  refine ⟨[], ?_, ?_⟩
  · show (g (memory, starts)).2.2 = starts ++ []
    rw [h, List.append_nil]
  · show (Render.remember f ⟨.lent, log, memory⟩) =
      ((g (memory, starts)).1, ⟨.lent, log ++ [], (g (memory, starts)).2.1⟩)
    rw [h, List.append_nil]
    rfl

theorem Shadows.bind {run : Render σ α} {anew : Render (σ × List Started) α}
    {next : α → Render σ β} {nextAnew : α → Render (σ × List Started) β} (h : Shadows run anew)
    (hnext : ∀ a, Shadows (next a) (nextAnew a)) : Shadows (run >>= next) (anew >>= nextAnew) := by
  intro log context
  obtain ⟨starts, hstarts, hrun⟩ := h log context
  obtain ⟨more, hmore, hthen⟩ :=
    hnext (anew context).1 (log ++ Started.events starts) (anew context).2
  refine ⟨starts ++ more, ?_, ?_⟩
  · show (nextAnew (anew context).1 (anew context).2).2.memory.2 = _
    rw [hmore, hstarts, List.append_assoc]
  · show next (run ⟨.lent, log, context.memory.1⟩).1 (run ⟨.lent, log, context.memory.1⟩).2 = _
    rw [hrun, hthen, Started.events_append, ← List.append_assoc]
    rfl

theorem Shadows.foldlM {step : α → β → Render σ α} {stepAnew : α → β → Render (σ × List Started) α}
    (h : ∀ a b, Shadows (step a b) (stepAnew a b)) :
    ∀ (a : α) (l : List β), Shadows (l.foldlM step a) (l.foldlM stepAnew a)
  | a, [] => shadows_pure a
  | a, b :: l => by
    rw [List.foldlM_cons, List.foldlM_cons]
    exact (h a b).bind fun next => Shadows.foldlM h next l

namespace FlatBody

section Lookups

variable {bindings : Bindings σ} {anew : Bindings (σ × List Started)}
  (h : ∀ query out, Shadows (bindings.lookup query out) (anew.lookup query out))
include h

theorem writeNode_shadows (out : Text) (node : Node) :
    Shadows (writeNode bindings out node) (writeNode anew out node) := by
  have hquery : ∀ query : Query,
      Shadows (writeNode bindings out query.node) (writeNode anew out query.node) := by
    intro query
    rw [writeNode_query, writeNode_query]
    exact (h query out).bind fun _ => shadows_pure _
  cases node with
  | text content => exact shadows_pure _
  | link address => exact shadows_pure _
  | code code => exact shadows_pure _
  | color color => exact shadows_pure _
  | reference name => exact hquery (.name name)
  | call call => exact hquery (.call call)

theorem writeNodes_shadows (out : Text) (nodes : List Node) :
    Shadows (writeNodes bindings out nodes) (writeNodes anew out nodes) :=
  .foldlM (writeNode_shadows h) out nodes

/-- A render that finds the buffer lent out writes into a new text. -/
theorem render_shadows (body : FlatBody) :
    Shadows (body.render bindings) (body.renderAnew true anew) := by
  rintro log ⟨buffer, rest, memory, starts⟩
  cases body with
  | fixed content =>
    refine ⟨[⟨true, true⟩], rfl, ?_⟩
    show (content, _) = (content, Context.mk Buffer.lent (log ++ []) memory)
    rw [List.append_nil]
  | dynamic nodes =>
    obtain ⟨more, hmore, hrun⟩ := writeNodes_shadows h [] nodes (log ++ [.bufferInUse])
      ⟨buffer, rest, memory, starts ++ [⟨false, true⟩]⟩
    refine ⟨⟨false, true⟩ :: more, hmore.trans (List.append_assoc _ _ _), hrun.trans ?_⟩
    rw [Started.events_cons, List.append_assoc]
    rfl

/-- A render that has the buffer empties it first and lets go of it at the end. -/
theorem render_outermost (body : FlatBody) (leftover : Text) (log : List Event)
    (context : Context (σ × List Started)) : ∃ kept starts,
      (body.renderAnew false anew context).2.memory.2 = context.memory.2 ++ starts ∧
      body.render bindings ⟨.free leftover, log, context.memory.1⟩ =
        ((body.renderAnew false anew context).1, ⟨.free kept, log ++ Started.events starts,
          (body.renderAnew false anew context).2.memory.1⟩) := by
  obtain ⟨buffer, rest, memory, starts⟩ := context
  cases body with
  | fixed content =>
    refine ⟨leftover, [⟨true, false⟩], rfl, ?_⟩
    show (content, _) = (content, Context.mk (.free leftover) (log ++ []) memory)
    rw [List.append_nil]
  | dynamic nodes =>
    obtain ⟨more, hmore, hrun⟩ := writeNodes_shadows h [] nodes log
      ⟨buffer, rest, memory, starts ++ [⟨false, false⟩]⟩
    refine ⟨Buffer.kept (writeNodes anew [] nodes
      ⟨buffer, rest, memory, starts ++ [⟨false, false⟩]⟩).1, ⟨false, false⟩ :: more,
      hmore.trans (List.append_assoc _ _ _), ?_⟩
    exact congrArg (fun ran : Text × Context σ =>
      (ran.1, { ran.2 with buffer := .free (Buffer.kept ran.1) })) hrun

end Lookups
end FlatBody

namespace Activity

theorem shadows_bindings {lookup : Query → Activity σ}
    (h : ∀ query out, Shadows ((lookup query).run out) ((lookup query).runAnew out))
    (query : Query) (out : Text) :
    Shadows ((bindings lookup).lookup query out) ((bindingsAnew lookup).lookup query out) := by
  rw [bindings, bindingsAnew, Bindings.lookup_ofLookup, Bindings.lookup_ofLookup]
  exact h query out

/-- Whatever an activity renders finds the buffer lent out. -/
theorem run_shadows (activity : Activity σ) (out : Text) :
    Shadows (activity.run out) (activity.runAnew out) := by
  induction activity generalizing out with
  | answer bound => exact shadows_pure _
  | load next ih => exact (shadows_remember fun _ _ => rfl).bind fun memory => ih memory out
  | store memory next ih => exact (shadows_remember fun _ _ => rfl).bind fun _ => ih out
  | look next ih => exact ih out out
  | put text next ih => exact ih text
  | render body lookup next ihlookup ihnext =>
    exact (FlatBody.render_shadows (shadows_bindings ihlookup) body).bind fun text =>
      ihnext text out

end Activity
end StyledMarkup
