import StyledMarkup.Proofs.Template.Nodes

/-!
# Computations of renders

Texts that are written one after another are those of the computations in a row
(`foldlM_append`), and a flat template with references writes its texts while it has the buffer
(`renderNodes_eq_borrowing`). Two views of a computation are built on top of it: `recorded` notes
what it has asked for, and `Blind` says that it looks at neither the buffer nor the log, as no
lookup can and no render does (`render_blind`).
-/

namespace StyledMarkup

variable {σ α β γ : Type}

namespace Render

/-! ## Texts in a row -/

/-- The texts that are read one after another, put together. -/
def concat (read : α → Render σ Text) : List α → Render σ Text
  | [] => pure []
  | a :: rest => do
    let first ← read a
    let others ← concat read rest
    return first ++ others

theorem foldlM_append {step : Text → α → Render σ Text} {read : α → Render σ Text}
    (h : ∀ out a, step out a = do return out ++ (← read a)) :
    ∀ (out : Text) (l : List α), l.foldlM step out = do return out ++ (← concat read l)
  | out, [] => by simp [concat]
  | out, a :: l => by
    rw [List.foldlM_cons, h]
    simp only [bind_assoc, pure_bind, concat, foldlM_append h _ l, List.append_assoc]

theorem concat_congr {read other : α → Render σ Text} {l : List α}
    (h : ∀ a ∈ l, read a = other a) : concat read l = concat other l := by
  induction l with
  | nil => rfl
  | cons a l ih =>
    rw [concat, concat, h a List.mem_cons_self, ih fun b hb => h b (List.mem_cons_of_mem _ hb)]

theorem concat_map (read : β → Render σ Text) (f : α → β) (l : List α) :
    concat read (l.map f) = concat (fun a => read (f a)) l := by
  induction l with
  | nil => rfl
  | cons a l ih => rw [List.map_cons, concat, concat, ih]

/-- What reads as the empty text may be left out. -/
theorem concat_filter {read : α → Render σ Text} {keep : α → Bool} {l : List α}
    (h : ∀ a ∈ l, keep a = false → read a = pure []) :
    concat read (l.filter keep) = concat read l := by
  induction l with
  | nil => rfl
  | cons a l ih =>
    have hl := ih fun b hb => h b (List.mem_cons_of_mem _ hb)
    cases ha : keep a with
    | true => rw [List.filter_cons_of_pos ha, concat, concat, hl]
    | false =>
      rw [List.filter_cons_of_neg (by simp [ha]), concat, h a List.mem_cons_self ha, hl]
      simp

/-! ## The buffer -/

/-- Writes while it has the buffer, or into a new text if the buffer is lent out. -/
def borrowing (write : Render σ Text) : Render σ Text := do
  match (← get).buffer with
  | .free _ =>
    setBuffer .lent
    let written ← write
    setBuffer (.free (Buffer.kept written))
    return written
  | .lent =>
    note [.bufferInUse]
    write

/-! ## What a computation asks for -/

/-- The computation with a record behind its memory, to which the queries are added. -/
def recorded (queries : List β) (run : Render σ α) : Render (σ × List β) α := fun context =>
  let ran := run ⟨context.buffer, context.log, context.memory.1⟩
  (ran.1, ⟨ran.2.buffer, ran.2.log, ran.2.memory, context.memory.2 ++ queries⟩)

theorem recorded_pure (a : α) : recorded ([] : List β) (pure a : Render σ α) = pure a := by
  funext context
  simp only [recorded, List.append_nil]
  rfl

theorem recorded_bind (queries more : List β) (run : Render σ α) (next : α → Render σ γ) :
    (do recorded more (next (← recorded queries run))) =
      recorded (queries ++ more) (do next (← run)) := by
  funext context
  simp only [recorded, ← List.append_assoc]
  rfl

/-- What is done with the result of a computation asks for nothing more. -/
theorem recorded_map (queries : List β) (run : Render σ α) (f : α → γ) :
    (do return f (← recorded queries run)) = recorded queries (do return f (← run)) := by
  have h := recorded_bind queries [] run fun a => pure (f a)
  simp only [recorded_pure, List.append_nil] at h
  exact h

theorem recorded_borrowing (queries : List β) (write : Render σ Text) :
    borrowing (recorded queries write) = recorded queries (borrowing write) := by
  funext context
  obtain ⟨_ | _, log, memory⟩ := context <;> rfl

theorem concat_recorded {read : α → Render σ Text} {queries : α → List β} (l : List α) :
    concat (fun a => recorded (queries a) (read a)) l =
      recorded (l.flatMap queries) (concat read l) := by
  induction l with
  | nil => exact (recorded_pure []).symm
  | cons a l ih =>
    rw [concat, ih, List.flatMap_cons, concat, ← recorded_bind]
    simp only [recorded_map]

/-! ## Computations that are alike -/

/-- Whether two computations give the same and leave the same in the memory, whatever stands in the
buffer and in the log of either. -/
def Alike (run other : Render σ α) : Prop :=
  ∀ context context' : Context σ, context.memory = context'.memory →
    (run context).1 = (other context').1 ∧ (run context).2.memory = (other context').2.memory

theorem Alike.symm {run other : Render σ α} (h : Alike run other) : Alike other run :=
  fun context context' hm => (h context' context hm.symm).imp Eq.symm Eq.symm

theorem Alike.trans {run between other : Render σ α} (h : Alike run between)
    (hnext : Alike between other) : Alike run other := by
  intro context context' hm
  obtain ⟨hresult, hmemory⟩ := h context context' hm
  obtain ⟨hresult', hmemory'⟩ := hnext context' context' rfl
  exact ⟨hresult.trans hresult', hmemory.trans hmemory'⟩

theorem Alike.bind {run other : Render σ α} {next next' : α → Render σ β} (h : Alike run other)
    (hnext : ∀ a, Alike (next a) (next' a)) : Alike (run >>= next) (other >>= next') := by
  intro context context' hm
  obtain ⟨hresult, hmemory⟩ := h context context' hm
  show (next (run context).1 (run context).2).1 = (next' (other context').1 (other context').2).1 ∧
    (next (run context).1 (run context).2).2.memory =
      (next' (other context').1 (other context').2).2.memory
  rw [hresult]
  exact hnext _ _ _ hmemory

/-! ## Blind computations -/

/-- Whether what a computation gives, and what it leaves in the memory, depends on the memory
alone, and neither on the buffer nor on the log. -/
def Blind (run : Render σ α) : Prop :=
  ∀ context other : Context σ, context.memory = other.memory →
    (run context).1 = (run other).1 ∧ (run context).2.memory = (run other).2.memory

theorem blind_pure (a : α) : Blind (pure a : Render σ α) :=
  fun _ _ h => ⟨rfl, h⟩

theorem Blind.bind {run : Render σ α} {next : α → Render σ β} (h : Blind run)
    (hnext : ∀ a, Blind (next a)) : Blind (run >>= next) :=
  Alike.bind h hnext

theorem blind_remember (f : σ → α × σ) : Blind (remember f) := by
  intro context other h
  show (f context.memory).1 = (f other.memory).1 ∧ (f context.memory).2 = (f other.memory).2
  rw [h]
  exact ⟨rfl, rfl⟩

theorem Blind.foldlM {step : α → β → Render σ α} (h : ∀ a b, Blind (step a b)) :
    ∀ (a : α) (l : List β), Blind (l.foldlM step a)
  | a, [] => blind_pure a
  | a, b :: l => by
    rw [List.foldlM_cons]
    exact (h a b).bind fun next => Blind.foldlM h next l

theorem Blind.concat {read : α → Render σ Text} (h : ∀ a, Blind (read a)) :
    ∀ l : List α, Blind (concat read l)
  | [] => blind_pure []
  | a :: l => (h a).bind fun _ => (Blind.concat h l).bind fun _ => blind_pure _

/-- A blind computation gives and remembers the same with the buffer as without. -/
theorem Blind.borrowing {write : Render σ Text} (h : Blind write) :
    Alike (borrowing write) write := by
  rintro ⟨_ | _, log, memory⟩ other hm
  · exact h ⟨.lent, log, memory⟩ other hm
  · exact h ⟨.lent, log ++ [.bufferInUse], memory⟩ other hm

end Render

namespace FlatBody

theorem renderNodes_eq_borrowing (bindings : Bindings σ) (nodes : List Node) :
    renderNodes bindings nodes = Render.borrowing (writeNodes bindings [] nodes) :=
  rfl

end FlatBody
end StyledMarkup
