import StyledMarkup.Proofs.Template.Nodes

/-!
# Places of segments

A styled render goes through its nodes with the style that runs. The style is changed by codes and
colors only and no lookup can reach it, so the places of the segments and their styles are known
before any lookup is made: the loop gives what filling the places in order gives
(`renderNodes_eq_mapM_fill`).

A styled template without references has its segments made when it is compiled. It makes no
difference (`render_eq_renderNodes`): with nothing to look up, filling the places of the nodes gives
these segments whatever the lookups are.
-/

namespace StyledMarkup

variable {σ : Type}

/-- A place for one segment. -/
inductive Slot where
  /-- A segment that needs no lookup. -/
  | fixed (segment : Segment)
  /-- A name that is looked up. -/
  | reference (name : Text) (style : Style)
  /-- A call that is looked up. -/
  | call (call : Call) (style : Style)
deriving DecidableEq, Inhabited

namespace Slot

/-- The places of the nodes, from a running style on. -/
def ofNodes (style : Style) : List Node → List Slot
  | [] => []
  | .text content :: rest => fixed { text := content, style } :: ofNodes style rest
  | .link address :: rest =>
    fixed { text := address, style, click := some ⟨.openUrl, address⟩ } :: ofNodes style rest
  | .code code :: rest => ofNodes (style.apply code) rest
  | .color color :: rest => ofNodes { style with color := some (.rgb color) } rest
  | .reference name :: rest => reference name style :: ofNodes style rest
  | .call c :: rest => call c style :: ofNodes style rest

/-- The segment of the place if nothing is bound. -/
def unbound : Slot → Segment
  | fixed segment => segment
  | reference name style => { text := Node.namePlaceholder name, style }
  | call c style => { text := Node.callPlaceholder c, style }

/-- The segment of the place. -/
def fill (vars : VariableLookup σ) (functions : FunctionLookup σ) (slot : Slot) :
    Render σ Segment :=
  match slot with
  | fixed segment => pure segment
  | reference name style => do
    let answer ← vars name { text := [], style }
    return if answer.bound then answer.result else slot.unbound
  | call c style => do
    let answer ← functions c.name c.args { text := [], style }
    return if answer.bound then answer.result else slot.unbound

end Slot

/-- The style that runs behind the nodes. -/
def Style.behind (style : Style) : List Node → Style
  | [] => style
  | .code code :: rest => (style.apply code).behind rest
  | .color color :: rest => { style with color := some (.rgb color) }.behind rest
  | _ :: rest => style.behind rest

theorem Slot.ofNodes_append (style : Style) (front rest : List Node) :
    ofNodes style (front ++ rest) = ofNodes style front ++ ofNodes (style.behind front) rest := by
  induction front generalizing style with
  | nil => rfl
  | cons node front ih =>
    cases node with
    | code code => exact ih (style.apply code)
    | color color => exact ih { style with color := some (.rgb color) }
    | text content => exact congrArg (_ :: ·) (ih style)
    | link address => exact congrArg (_ :: ·) (ih style)
    | reference name => exact congrArg (_ :: ·) (ih style)
    | call call => exact congrArg (_ :: ·) (ih style)

variable (vars : VariableLookup σ) (functions : FunctionLookup σ)

/-! ## The loop fills the places -/

namespace StyledBody

/-- What a node gives, it gives in the style that runs before it, and the style behind it is the
same whatever the lookups do. -/
theorem renderNode_eq (progress : Progress) (node : Node) :
    renderNode vars functions progress node = do
      let segments ← (Slot.ofNodes progress.style [node]).mapM (Slot.fill vars functions)
      return ⟨progress.style.behind [node], progress.segments ++ segments⟩ := by
  cases node with
  | text content => rfl
  | link address => rfl
  | code code => simp [renderNode, Slot.ofNodes, Style.behind]
  | color color => simp [renderNode, Slot.ofNodes, Style.behind]
  | reference name => simp [renderNode, Slot.ofNodes, Slot.fill, Slot.unbound, Style.behind,
      Progress.push]
  | call call => simp [renderNode, Slot.ofNodes, Slot.fill, Slot.unbound, Style.behind,
      Progress.push]

theorem foldlM_renderNode (nodes : List Node) (progress : Progress) :
    nodes.foldlM (renderNode vars functions) progress = do
      let segments ← (Slot.ofNodes progress.style nodes).mapM (Slot.fill vars functions)
      return ⟨progress.style.behind nodes, progress.segments ++ segments⟩ := by
  induction nodes generalizing progress with
  | nil => simp [Slot.ofNodes, Style.behind]
  | cons node nodes ih =>
    have hplaces : Slot.ofNodes progress.style (node :: nodes) =
        Slot.ofNodes progress.style [node] ++
          Slot.ofNodes (progress.style.behind [node]) nodes :=
      Slot.ofNodes_append progress.style [node] nodes
    have hstyle : (progress.style.behind [node]).behind nodes =
        progress.style.behind (node :: nodes) := by
      cases node <;> rfl
    rw [List.foldlM_cons, renderNode_eq, hplaces, List.mapM_append]
    simp only [ih, hstyle, bind_assoc, pure_bind, List.append_assoc]

theorem renderNodes_eq_mapM_fill (nodes : List Node) :
    renderNodes vars functions nodes =
      (Slot.ofNodes .plain nodes).mapM (Slot.fill vars functions) := by
  rw [renderNodes, foldlM_renderNode]
  simp

end StyledBody

/-! ## Templates without references -/

namespace Slot

/-- A place is fixed or stands for a reference among the nodes. -/
theorem mem_ofNodes {slot : Slot} : ∀ {style : Style} {nodes : List Node},
    slot ∈ Slot.ofNodes style nodes →
      (∃ segment, slot = .fixed segment) ∨
      (∃ name running, slot = .reference name running ∧ .reference name ∈ nodes) ∨
      ∃ call running, slot = .call call running ∧ .call call ∈ nodes
  | style, node :: rest, h => by
    have hrest : ∀ {style : Style}, slot ∈ Slot.ofNodes style rest →
        (∃ segment, slot = .fixed segment) ∨
        (∃ name running, slot = .reference name running ∧ .reference name ∈ node :: rest) ∨
        ∃ call running, slot = .call call running ∧ .call call ∈ node :: rest := by
      intro style h
      rcases mem_ofNodes h with hfixed | ⟨name, running, heq, hm⟩ | ⟨call, running, heq, hm⟩
      · exact .inl hfixed
      · exact .inr (.inl ⟨name, running, heq, List.mem_cons_of_mem _ hm⟩)
      · exact .inr (.inr ⟨call, running, heq, List.mem_cons_of_mem _ hm⟩)
    cases node with
    | code code => exact hrest h
    | color color => exact hrest h
    | text content =>
      rcases List.mem_cons.1 h with heq | h
      · exact .inl ⟨_, heq⟩
      · exact hrest h
    | link address =>
      rcases List.mem_cons.1 h with heq | h
      · exact .inl ⟨_, heq⟩
      · exact hrest h
    | reference name =>
      rcases List.mem_cons.1 h with heq | h
      · exact .inr (.inl ⟨name, style, heq, List.mem_cons_self⟩)
      · exact hrest h
    | call call =>
      rcases List.mem_cons.1 h with heq | h
      · exact .inr (.inr ⟨call, style, heq, List.mem_cons_self⟩)
      · exact hrest h

theorem mapM_fill_fixed {slots : List Slot} (h : ∀ slot ∈ slots, ∃ segment, slot = .fixed segment) :
    slots.mapM (fill vars functions) = pure (slots.map unbound) := by
  induction slots with
  | nil => rfl
  | cons slot slots ih =>
    obtain ⟨segment, rfl⟩ := h slot List.mem_cons_self
    rw [List.mapM_cons, ih fun s hs => h s (List.mem_cons_of_mem _ hs)]
    rfl

end Slot

namespace StyledBody

/-- Rendering a template is rendering its nodes, also where the segments are fixed. -/
theorem render_eq_renderNodes (tokens : List Token) :
    (ofTokens tokens).render vars functions = renderNodes vars functions (nodesOf tokens) := by
  unfold ofTokens
  cases hb : (nodesOf tokens).any Node.isBinding with
  | true => simp only [hb, if_true, render]
  | false =>
    have hnone : ∀ node ∈ nodesOf tokens, node.isBinding = false := fun node hn => by
      simpa using List.any_eq_false.1 hb node hn
    have hfixed : ∀ slot ∈ Slot.ofNodes .plain (nodesOf tokens),
        ∃ segment, slot = .fixed segment := by
      intro slot hs
      obtain hfixed | ⟨name, running, -, hm⟩ | ⟨call, running, -, hm⟩ := Slot.mem_ofNodes hs
      · exact hfixed
      · cases hnone _ hm
      · cases hnone _ hm
    simp only [hb, Bool.false_eq_true, if_false, render, renderNodes_eq_mapM_fill,
      Slot.mapM_fill_fixed _ _ hfixed]
    rfl

end StyledBody
end StyledMarkup
