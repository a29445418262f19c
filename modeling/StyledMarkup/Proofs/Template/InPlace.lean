import StyledMarkup.Proofs.Template.Nesting

/-!
# Renders in place

Renders are modelled with values: each has its text to itself. In memory it is not so. The shared
buffer is one text that any render could reach, and what stands in it is the text of the outermost
render so far. Here the texts are in their places (`Store`), every write changes one of them, and
the buffer is emptied, copied and let go of in this order (`InPlace.render`).

Both ways agree (`Activity.inPlace_mirrors`), and a lookup changes no text but the one that it is
given. With the renders that have no buffer this says that the buffer cannot be told from the
outside (`buffer_invisible`).
-/

namespace StyledMarkup

variable {σ α β γ : Type}

/-- The texts that renders write into, in their places, and what else renders share. -/
structure Store (σ : Type) where
  /-- What the shared buffer holds. -/
  shared : Text
  /-- The new texts of the renders that go on without the buffer, the innermost first, or nothing if
  nobody has the buffer. -/
  fresh : Option (List Text)
  log : List Event
  memory : σ

namespace Store

/-- The text that the innermost render writes into. -/
def current (store : Store σ) : Text :=
  match store.fresh with
  | some (text :: _) => text
  | _ => store.shared

/-- Changes the text that the innermost render writes into. -/
def write (text : Text) (store : Store σ) : Store σ :=
  match store.fresh with
  | some (_ :: rest) => { store with fresh := some (text :: rest) }
  | _ => { store with shared := text }

end Store

/-- A computation that changes texts where they are. -/
abbrev InPlace (σ α : Type) := StateM (Store σ) α

namespace InPlace

/-- Writes at the end. -/
def append (content : Text) : InPlace σ Unit :=
  modify fun store => store.write (store.current ++ content)

/-- Writes a node at the end. -/
def writeNode (lookup : Query → InPlace σ Bool) : Node → InPlace σ Unit
  | .text content => append content
  | .link address => append address
  | .code code => append code.toSection
  | .color color => append (Color.rgb color).toSection
  | .reference name => do
    if !(← lookup (.name name)) then append (Node.namePlaceholder name)
  | .call call => do
    if !(← lookup (.call call)) then append (Node.callPlaceholder call)

/-- Renders a template: into the shared buffer, which is emptied first, copied at the end and given
back, or into a new text if somebody has the buffer. -/
def render (lookup : Query → InPlace σ Bool) : FlatBody → InPlace σ Text
  | .fixed content => pure content
  | .dynamic nodes => do
    match (← get).fresh with
    | none =>
      modify fun store => { store with shared := Buffer.emptied store.shared, fresh := some [] }
      nodes.forM (writeNode lookup)
      modifyGet fun store =>
        (store.shared, { store with shared := Buffer.kept store.shared, fresh := none })
    | some others =>
      modify fun store =>
        { store with fresh := some ([] :: others), log := store.log ++ [.bufferInUse] }
      nodes.forM (writeNode lookup)
      modifyGet fun store => (store.current, { store with fresh := store.fresh.map List.tail })

end InPlace

/-- Does the activity; it writes where the innermost render does. -/
def Activity.inPlace : Activity σ → InPlace σ Bool
  | answer bound => pure bound
  | load next => do
    let store ← get
    inPlace (next store.memory)
  | store memory next => do
    modify fun store => { store with memory }
    inPlace next
  | look next => do
    let store ← get
    inPlace (next store.current)
  | put text next => do
    modify (Store.write text)
    inPlace next
  | render body lookup next => do
    let text ← InPlace.render (fun query => inPlace (lookup query)) body
    inPlace (next text)

namespace Store

variable (store : Store σ) (text : Text) (log : List Event) (memory : σ)

/-- The store with other contents in the innermost text, the log and the memory. -/
def after : Store σ :=
  { store.write text with log, memory }

theorem current_after : (store.after text log memory).current = text := by
  obtain ⟨shared, _ | _ | ⟨first, rest⟩, past, last⟩ := store <;> rfl

theorem after_after (next : Text) (more : List Event) (later : σ) :
    (store.after text log memory).after next more later = store.after next more later := by
  obtain ⟨shared, _ | _ | ⟨first, rest⟩, past, last⟩ := store <;> rfl

theorem isSome_after : (store.after text log memory).fresh.isSome = store.fresh.isSome := by
  obtain ⟨shared, _ | _ | ⟨first, rest⟩, past, last⟩ := store <;> rfl

theorem after_current : store.after store.current log memory = { store with log, memory } := by
  obtain ⟨shared, _ | _ | ⟨first, rest⟩, past, last⟩ := store <;> rfl

theorem after_log_memory : store.after text store.log store.memory = store.write text := by
  obtain ⟨shared, _ | _ | ⟨first, rest⟩, past, last⟩ := store <;> rfl

end Store

/-- Whether a computation in place does what one with values does, as long as a render goes on: it
has the same result, leaves the same innermost text, log and memory, and changes no other text. -/
def Mirrors (value : α → β) (text : α → Text) (act : InPlace σ β) (run : Text → Render σ α) :
    Prop :=
  ∀ store : Store σ, store.fresh.isSome = true → ∃ a log memory,
    run store.current ⟨.lent, store.log, store.memory⟩ = (a, ⟨.lent, log, memory⟩) ∧
    act store = (value a, store.after (text a) log memory)

theorem Mirrors.bind {α' β' : Type} {value : α → β} {text : α → Text} {act : InPlace σ β}
    {run : Text → Render σ α} {value' : α' → β'} {text' : α' → Text} {next : β → InPlace σ β'}
    (h : Mirrors value text act run) (nextRun : α → Text → Render σ α')
    (hnext : ∀ a, Mirrors value' text' (next (value a)) (nextRun a)) :
    Mirrors value' text' (act >>= next) fun out => run out >>= fun a => nextRun a (text a) := by
  intro store hs
  obtain ⟨a, log, memory, hrun, hact⟩ := h store hs
  obtain ⟨b, more, later, hrun', hact'⟩ := hnext a (store.after (text a) log memory)
    ((store.isSome_after _ _ _).trans hs)
  rw [Store.current_after] at hrun'
  rw [Store.after_after] at hact'
  refine ⟨b, more, later, Eq.trans ?_ hrun', Eq.trans ?_ hact'⟩
  · exact congrArg (fun ran : α × Context σ => nextRun ran.1 (text ran.1) ran.2) hrun
  · exact congrArg (fun ran : β × Store σ => next ran.1 ran.2) hact

theorem mirrors_pure {value : α → β} {text : α → Text} {b : β} {result : Text → α}
    (hvalue : ∀ out, value (result out) = b) (htext : ∀ out, text (result out) = out) :
    Mirrors (σ := σ) value text (pure b) fun out => pure (result out) := by
  intro store _
  refine ⟨_, _, _, rfl, ?_⟩
  rw [hvalue, htext, Store.after_current]
  rfl

theorem mirrors_append (content : Text) : Mirrors (fun _ => ()) id (InPlace.append (σ := σ) content)
    fun out => pure (out ++ content) := by
  intro store _
  exact ⟨_, _, _, rfl, congrArg (Prod.mk ()) (store.after_log_memory _).symm⟩

theorem mirrors_put (text : Text) : Mirrors (σ := σ) (fun _ => ()) id (modify (Store.write text))
    fun _ => pure text := by
  intro store _
  exact ⟨_, _, _, rfl, congrArg (Prod.mk ()) (store.after_log_memory _).symm⟩

theorem mirrors_store (memory : σ) : Mirrors (fun _ => ()) id
    (modify fun store : Store σ => { store with memory })
    fun out => do
      Render.remember fun _ => ((), memory)
      return out := by
  intro store _
  exact ⟨_, _, _, rfl, congrArg (Prod.mk ()) (store.after_current _ _).symm⟩

namespace InPlace

variable {lookup : Query → InPlace σ Bool} {bindings : Bindings σ}
  (h : ∀ query, Mirrors Answer.bound Answer.result (lookup query) (bindings.lookup query))
include h

theorem writeNode_mirrors (node : Node) : Mirrors (fun _ => ()) id (writeNode lookup node)
    fun out => FlatBody.writeNode bindings out node := by
  have hquery : ∀ query : Query, Mirrors (fun _ => ()) id
      (lookup query >>= fun bound => if !bound then append query.placeholder else pure ())
      fun out => FlatBody.writeNode bindings out query.node := by
    intro query
    simp only [FlatBody.writeNode_query]
    refine (h query).bind
      (fun answer out => pure (if answer.bound then out else out ++ query.placeholder)) ?_
    rintro ⟨_ | _, result⟩
    · exact mirrors_append query.placeholder
    · exact mirrors_pure (fun _ => rfl) fun _ => rfl
  cases node with
  | text content => exact mirrors_append content
  | link address => exact mirrors_append address
  | code code => exact mirrors_append code.toSection
  | color color => exact mirrors_append (Color.rgb color).toSection
  | reference name => exact hquery (.name name)
  | call call => exact hquery (.call call)

theorem forM_mirrors (nodes : List Node) : Mirrors (fun _ => ()) id (nodes.forM (writeNode lookup))
    fun out => FlatBody.writeNodes bindings out nodes := by
  induction nodes with
  | nil => exact mirrors_pure (fun _ => rfl) fun _ => rfl
  | cons node nodes ih =>
    simp only [FlatBody.writeNodes_cons]
    exact (writeNode_mirrors h node).bind (fun _ out => FlatBody.writeNodes bindings out nodes)
      fun _ => ih

/-- A render that starts while another one goes on has the result that it has with values, and
changes none of the texts that are there. -/
theorem render_inside (body : FlatBody) (shared : Text) (others : List Text) (log : List Event)
    (memory : σ) : ∃ text more later,
      body.render bindings ⟨.lent, log, memory⟩ = (text, ⟨.lent, more, later⟩) ∧
      render lookup body ⟨shared, some others, log, memory⟩ =
        (text, ⟨shared, some others, more, later⟩) := by
  cases body with
  | fixed content => exact ⟨content, log, memory, rfl, rfl⟩
  | dynamic nodes =>
    obtain ⟨text, more, later, hrun, hact⟩ :=
      forM_mirrors h nodes ⟨shared, some ([] :: others), log ++ [.bufferInUse], memory⟩ rfl
    refine ⟨text, more, later, hrun, ?_⟩
    exact congrArg (fun ran : Unit × Store σ =>
      (ran.2.current, { ran.2 with fresh := ran.2.fresh.map List.tail })) hact

/-- The outermost render writes into the shared buffer whatever that holds, and gives it back. -/
theorem render_outermost (body : FlatBody) (leftover : Text) (log : List Event) (memory : σ) :
    ∃ text kept more later,
      body.render bindings ⟨.free leftover, log, memory⟩ = (text, ⟨.free kept, more, later⟩) ∧
      render lookup body ⟨leftover, none, log, memory⟩ = (text, ⟨kept, none, more, later⟩) := by
  cases body with
  | fixed content => exact ⟨content, leftover, log, memory, rfl, rfl⟩
  | dynamic nodes =>
    obtain ⟨text, more, later, hrun, hact⟩ :=
      forM_mirrors h nodes ⟨[], some [], log, memory⟩ rfl
    refine ⟨text, Buffer.kept text, more, later, ?_, ?_⟩
    · exact congrArg (fun ran : Text × Context σ =>
        (ran.1, { ran.2 with buffer := .free (Buffer.kept ran.1) })) hrun
    · exact congrArg (fun ran : Unit × Store σ =>
        (ran.2.shared, { ran.2 with shared := Buffer.kept ran.2.shared, fresh := none })) hact

theorem render_mirrors (body : FlatBody) : Mirrors Prod.fst Prod.snd (render lookup body)
    fun out => do return (← body.render bindings, out) := by
  rintro ⟨shared, _ | others, log, memory⟩ hs
  · cases hs
  · obtain ⟨text, more, later, hrun, hact⟩ := render_inside h body shared others log memory
    refine ⟨(text, Store.current ⟨shared, some others, log, memory⟩), more, later, ?_, ?_⟩
    · exact congrArg (fun ran : Text × Context σ => ((ran.1, _), ran.2)) hrun
    · rw [hact, Store.after_current]

end InPlace

namespace Activity

theorem mirrors_bindings {lookup : Query → Activity σ}
    (h : ∀ query, Mirrors Answer.bound Answer.result (lookup query).inPlace (lookup query).run)
    (query : Query) :
    Mirrors Answer.bound Answer.result (lookup query).inPlace ((bindings lookup).lookup query) := by
  rw [bindings, Bindings.lookup_ofLookup]
  exact h query

theorem inPlace_mirrors (activity : Activity σ) :
    Mirrors Answer.bound Answer.result activity.inPlace activity.run := by
  induction activity with
  | answer bound => exact mirrors_pure (fun _ => rfl) fun _ => rfl
  | load next ih => exact fun store hs => ih store.memory store hs
  | store memory next ih =>
    exact (mirrors_store memory).bind (fun _ out => next.run out) fun _ => ih
  | look next ih => exact fun store hs => ih store.current store hs
  | put text next ih => exact (mirrors_put text).bind (fun _ out => next.run out) fun _ => ih
  | render body lookup next ihlookup ihnext =>
    exact (InPlace.render_mirrors (mirrors_bindings ihlookup) body).bind
      (fun ran out => (next ran.1).run out) fun ran => ihnext ran.1

/-- The buffer cannot be told from the outside. Whatever lookups do, a render gives what it gives
when each render writes into a new text, and the memory is the same. The outermost render takes a
free buffer with any leftover and leaves it free, and one that starts while another goes on leaves
it lent out. The log tells of each render of a template that is not fixed and has started inside
another.

In place, where all renders could reach the shared buffer, it is the same, and a render inside
another changes none of the texts that the others have written so far. The lookups of a table are
among these if its suppliers and functions are, and a render with the table is such a supplier or
function again. -/
theorem buffer_invisible (body : FlatBody) (lookup : Query → Activity σ) (log : List Event)
    (memory : σ) :
    (∀ leftover, ∃ kept,
      let anew := body.renderAnew false (bindingsAnew lookup) (Context.fresh (memory, []))
      let events := log ++ Started.events anew.2.memory.2
      body.render (bindings lookup) ⟨.free leftover, log, memory⟩ =
        (anew.1, ⟨.free kept, events, anew.2.memory.1⟩) ∧
      InPlace.render (fun query => (lookup query).inPlace) body ⟨leftover, none, log, memory⟩ =
        (anew.1, ⟨kept, none, events, anew.2.memory.1⟩)) ∧
    (∀ shared others,
      let anew := body.renderAnew true (bindingsAnew lookup) (Context.fresh (memory, []))
      let events := log ++ Started.events anew.2.memory.2
      body.render (bindings lookup) ⟨.lent, log, memory⟩ =
        (anew.1, ⟨.lent, events, anew.2.memory.1⟩) ∧
      InPlace.render (fun query => (lookup query).inPlace) body ⟨shared, some others, log, memory⟩ =
        (anew.1, ⟨shared, some others, events, anew.2.memory.1⟩)) ∧
    ∀ vars : Variables σ, vars.Acts → (∃ acts, bindings acts = vars.bindings) ∧
      ∀ template : FlatBody, ∃ activity : Activity σ,
        activity.text = template.render vars.bindings := by
  have hshadows := shadows_bindings fun query => (lookup query).run_shadows
  have hmirrors := mirrors_bindings fun query => (lookup query).inPlace_mirrors
  refine ⟨fun leftover => ?_, fun shared others => ?_,
    fun vars h => ⟨h.exists_bindings_eq, h.exists_text_eq⟩⟩
  · obtain ⟨kept, starts, hstarts, hanew⟩ :=
      FlatBody.render_outermost hshadows body leftover log (Context.fresh (memory, []))
    obtain ⟨text, kept', more, later, hrun, hact⟩ :=
      InPlace.render_outermost hmirrors body leftover log memory
    replace hstarts := hstarts.trans (List.nil_append starts)
    rw [← hstarts] at hanew
    cases hrun.symm.trans hanew
    exact ⟨_, hrun, hact⟩
  · obtain ⟨starts, hstarts, hanew⟩ :=
      FlatBody.render_shadows hshadows body log (Context.fresh (memory, []))
    obtain ⟨text, more, later, hrun, hact⟩ :=
      InPlace.render_inside hmirrors body shared others log memory
    replace hstarts := hstarts.trans (List.nil_append starts)
    rw [← hstarts] at hanew
    cases hrun.symm.trans hanew
    exact ⟨hrun, hact⟩

/-- A function that renders with a table of its own, and a supplier that both tables share. -/
theorem buffer_invisible_nested :
    let count : Render Nat Text := Render.remember fun n => (Text.ofNat n, n + 1)
    let inner (args : List Text) : Variables Nat :=
      (Variables.empty.set "x".toList (Text.join [] args)).setSupplied "n".toList count
    let nested (args : List Text) : Render Nat Text :=
      (Template.compile "[{x}{n}]".toList).render (inner args).bindings
    let vars := (Variables.empty.setSupplied "n".toList count).setFunction "nested".toList nested
    let body := (Template.compile "a{nested(b)}{n}c".toList).body
    let ran := body.render vars.bindings ⟨.free "before".toList, [], 0⟩
    vars.Acts ∧ ∃ acts, bindings acts = vars.bindings ∧
      ran.1 = "a[b0]1c".toList ∧ ran.2.log = [.bufferInUse] ∧
      ran.1 = (body.renderAnew false (bindingsAnew acts) (Context.fresh (0, []))).1 ∧
      ran.1 = (InPlace.render (fun query => (acts query).inPlace) body
        ⟨"before".toList, none, [], 0⟩).1 := by
  intro count inner nested vars body ran
  have hcount : ∃ activity : Activity Nat, activity.text = count :=
    ⟨.load fun n => .store (n + 1) (.put (Text.ofNat n) (.answer true)), rfl⟩
  have htables := (buffer_invisible body (fun _ => .answer false) [] 0).2.2
  have hinner (args : List Text) : (inner args).Acts :=
    (Variables.acts_empty.set _ _).setSupplied _ hcount
  have hvars : vars.Acts := (Variables.acts_empty.setSupplied _ hcount).setFunction _ fun args =>
    (htables (inner args) (hinner args)).2 _
  obtain ⟨⟨acts, hacts⟩, -⟩ := htables vars hvars
  obtain ⟨kept, hrun, hact⟩ := (buffer_invisible body acts [] 0).1 "before".toList
  refine ⟨hvars, acts, hacts, by decide +kernel, by decide +kernel, ?_, ?_⟩
  · rw [← congrArg Prod.fst hrun, hacts]
  · rw [hact, ← congrArg Prod.fst hrun, hacts]

end Activity
end StyledMarkup
