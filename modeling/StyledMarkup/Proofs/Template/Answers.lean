import StyledMarkup.Proofs.Output.SectionReader
import StyledMarkup.Proofs.Template.Slots

/-!
# Rendering with fixed answers

Lookups that answer every name with a fixed text, or not at all, make a render a function of its
nodes. The flat render writes the text of each node in order (`writeNodes_answers`), and the
segments of the styled render show these texts in the running style (`styledChars_segments`).
-/

namespace StyledMarkup

variable {σ : Type}

/-- A fixed text for every name that is bound. -/
structure Answers where
  ofName : Text → Option Text
  ofCall : Text → List Text → Option Text

namespace Answers

open Output

variable (answers : Answers)

/-- The flat lookups that answer so. -/
def bindings : Bindings σ where
  variableText name out :=
    match answers.ofName name with
    | some content => pure (.found (out ++ content))
    | none => pure (.unbound out)
  functionText name args out :=
    match answers.ofCall name args with
    | some content => pure (.found (out ++ content))
    | none => pure (.unbound out)

/-- The styled lookup of names that answers so. -/
def variableLookup : VariableLookup σ := fun name segment =>
  match answers.ofName name with
  | some content => pure (.found (segment.append content))
  | none => pure (.unbound segment)

/-- The styled lookup of calls that answers so. -/
def functionLookup : FunctionLookup σ := fun name args segment =>
  match answers.ofCall name args with
  | some content => pure (.found (segment.append content))
  | none => pure (.unbound segment)

/-- The text that a flat render writes for a node. -/
def textOf : Node → Text
  | .text content => content
  | .link address => address
  | .code code => code.toSection
  | .color color => (Color.rgb color).toSection
  | .reference name => (answers.ofName name).getD (Node.namePlaceholder name)
  | .call call => (answers.ofCall call.name call.args).getD (Node.callPlaceholder call)

/-- The segment that a styled render makes at a place. -/
def segmentOf : Slot → Segment
  | .fixed segment => segment
  | .reference name style => { text := answers.textOf (.reference name), style }
  | .call call style => { text := answers.textOf (.call call), style }

/-! ## The flat render -/

theorem writeNode_answers (out : Text) (node : Node) :
    FlatBody.writeNode (σ := σ) answers.bindings out node = pure (out ++ answers.textOf node) := by
  cases node with
  | text content => rfl
  | link address => rfl
  | code code => rfl
  | color color => rfl
  | reference name =>
    unfold FlatBody.writeNode bindings textOf
    cases h : answers.ofName name with
    | none => simp [h, Answer.unbound]
    | some content => simp [h, Answer.found]
  | call call =>
    unfold FlatBody.writeNode bindings textOf
    cases h : answers.ofCall call.name call.args with
    | none => simp [h, Answer.unbound]
    | some content => simp [h, Answer.found]

theorem writeNodes_answers (out : Text) (nodes : List Node) :
    FlatBody.writeNodes (σ := σ) answers.bindings out nodes =
      pure (out ++ nodes.flatMap answers.textOf) := by
  induction nodes generalizing out with
  | nil => simp [FlatBody.writeNodes]
  | cons node nodes ih =>
    rw [FlatBody.writeNodes_cons, writeNode_answers, pure_bind, ih, List.flatMap_cons,
      List.append_assoc]

theorem fst_renderNodes {bindings : Bindings σ} {nodes : List Node} {written : Text}
    (h : FlatBody.writeNodes bindings [] nodes = pure written) (context : Context σ) :
    (FlatBody.renderNodes bindings nodes context).1 = written := by
  obtain ⟨buffer, log, memory⟩ := context
  unfold FlatBody.renderNodes
  cases buffer with
  | free leftover =>
    show (FlatBody.writeNodes bindings [] nodes ⟨.lent, log, memory⟩).1 = written
    rw [h]
    rfl
  | lent =>
    show (FlatBody.writeNodes bindings [] nodes ⟨.lent, log ++ [.bufferInUse], memory⟩).1 = written
    rw [h]
    rfl

theorem flatMap_nodesOf (tokens : List Token) :
    (FlatBody.nodesOf tokens).flatMap answers.textOf =
      (tokens.map Token.node).flatMap answers.textOf := by
  have h := FlatBody.writeNodes_nodesOf (σ := Unit) answers.bindings [] tokens
  rw [writeNodes_answers, writeNodes_answers] at h
  exact congrArg Prod.fst (congrFun h (Context.fresh ()))

/-- A flat render with fixed answers gives the texts of the tokens in order. -/
theorem fst_render_ofTokens (tokens : List Token) (context : Context σ) :
    ((FlatBody.ofTokens tokens).render answers.bindings context).1 =
      (tokens.map Token.node).flatMap answers.textOf := by
  rw [← flatMap_nodesOf]
  obtain ⟨hbody, -⟩ | ⟨hbody, hnodes⟩ | ⟨content, hbody, hnodes⟩ := FlatBody.ofTokens_cases tokens
  · rw [hbody]
    exact fst_renderNodes (answers.writeNodes_answers [] _) context
  · rw [hbody, hnodes]
    rfl
  · rw [hbody, hnodes, List.flatMap_singleton]
    rfl

/-! ## The styled render -/

/-- The characters that nodes show, each in the style that runs where it stands. -/
def shown (style : Style) : List Node → List (Char × Style)
  | [] => []
  | .code code :: rest => shown (style.apply code) rest
  | .color color :: rest => shown { style with color := some (.rgb color) } rest
  | node :: rest => (answers.textOf node).map (fun c => (c, style)) ++ shown style rest

theorem shown_push (style : Style) (node : Node) (nodes : List Node) :
    answers.shown style (Node.push node nodes) = answers.shown style (node :: nodes) := by
  refine Node.view_push (fun rest => ?_) (fun content next rest => ?_) node nodes
  · simp [shown, textOf]
  · simp [shown, textOf]

theorem shown_nodesOf (style : Style) (tokens : List Token) :
    answers.shown style (StyledBody.nodesOf tokens) =
      answers.shown style (tokens.map Token.node) := by
  unfold StyledBody.nodesOf
  induction tokens.map Token.node generalizing style with
  | nil => rfl
  | cons node nodes ih =>
    rw [List.foldr_cons, shown_push]
    cases node <;> simp only [shown, ih]

theorem styledChars_segments : ∀ (style : Style) (nodes : List Node),
    styledChars ((Slot.ofNodes style nodes).map answers.segmentOf) = answers.shown style nodes
  | _, [] => rfl
  | style, .code code :: rest => styledChars_segments (style.apply code) rest
  | style, .color color :: rest =>
    styledChars_segments { style with color := some (.rgb color) } rest
  | style, .text content :: rest => by
    rw [Slot.ofNodes, List.map_cons, styledChars_cons, styledChars_segments style rest]
    rfl
  | style, .link address :: rest => by
    rw [Slot.ofNodes, List.map_cons, styledChars_cons, styledChars_segments style rest]
    rfl
  | style, .reference name :: rest => by
    rw [Slot.ofNodes, List.map_cons, styledChars_cons, styledChars_segments style rest]
    rfl
  | style, .call call :: rest => by
    rw [Slot.ofNodes, List.map_cons, styledChars_cons, styledChars_segments style rest]
    rfl

theorem fill_answers {functions : FunctionLookup σ} {slot : Slot}
    (hf : ∀ call style, slot = .call call style → ∀ segment,
      functions call.name call.args segment = answers.functionLookup call.name call.args segment) :
    slot.fill answers.variableLookup functions = pure (answers.segmentOf slot) := by
  cases slot with
  | fixed segment => rfl
  | reference name style =>
    unfold Slot.fill variableLookup segmentOf textOf
    cases h : answers.ofName name with
    | none => simp [h, Answer.unbound, Slot.unbound]
    | some content => simp [h, Answer.found, Segment.append]
  | call call style =>
    simp only [Slot.fill, hf call style rfl, functionLookup]
    unfold segmentOf textOf
    cases h : answers.ofCall call.name call.args with
    | none => simp [h, Answer.unbound, Slot.unbound]
    | some content => simp [h, Answer.found, Segment.append]

theorem mapM_fill {functions : FunctionLookup σ} {slots : List Slot}
    (hf : ∀ call style, .call call style ∈ slots → ∀ segment,
      functions call.name call.args segment = answers.functionLookup call.name call.args segment) :
    slots.mapM (Slot.fill answers.variableLookup functions) =
      pure (slots.map answers.segmentOf) := by
  induction slots with
  | nil => rfl
  | cons slot slots ih =>
    have hslot : ∀ call style, slot = .call call style → ∀ segment,
        functions call.name call.args segment =
          answers.functionLookup call.name call.args segment :=
      fun call style h => hf call style (h ▸ List.mem_cons_self)
    rw [List.mapM_cons, answers.fill_answers hslot,
      ih fun call style h => hf call style (List.mem_cons_of_mem _ h)]
    rfl

/-- A styled render with fixed answers shows the texts of the tokens in the running style. -/
theorem styledChars_render {functions : FunctionLookup σ} {tokens : List Token}
    (hf : ∀ call, .call call ∈ tokens.map Token.node → ∀ segment,
      functions call.name call.args segment = answers.functionLookup call.name call.args segment)
    (context : Context σ) :
    styledChars ((StyledBody.ofTokens tokens).render answers.variableLookup functions context).1 =
      answers.shown .plain (tokens.map Token.node) := by
  have hcalls : ∀ call running,
      Slot.call call running ∈ Slot.ofNodes .plain (StyledBody.nodesOf tokens) → ∀ segment,
        functions call.name call.args segment =
          answers.functionLookup call.name call.args segment := by
    intro call running hs
    obtain ⟨segment, heq⟩ | ⟨name, style, heq, -⟩ | ⟨called, style, heq, hm⟩ :=
      Slot.mem_ofNodes hs
    · cases heq
    · cases heq
    · cases heq
      exact hf call (Node.mem_of_mem_foldr_push rfl hm)
  rw [← shown_nodesOf, ← styledChars_segments, StyledBody.render_eq_renderNodes,
    StyledBody.renderNodes_eq_mapM_fill, answers.mapM_fill hcalls]
  rfl

/-! ## Reading the flat render -/

/-- What a flat render writes for nodes reads, code by code, as what the nodes show. -/
theorem read_flatMap : ∀ (style : Style) {nodes : List Node},
    (∀ entry ∈ answers.shown style nodes, entry.1 ≠ sectionSign) →
      Client.read .keepsFormats ⟨style, .text⟩ (nodes.flatMap answers.textOf) =
        answers.shown style nodes
  | _, [], _ => rfl
  | style, node :: rest, h => by
    have hpiece : answers.shown style (node :: rest) =
        (answers.textOf node).map (fun c => (c, style)) ++ answers.shown style rest →
          Client.read .keepsFormats ⟨style, .text⟩ ((node :: rest).flatMap answers.textOf) =
            answers.shown style (node :: rest) := by
      intro heq
      rw [heq] at h ⊢
      have ht : sectionSign ∉ answers.textOf node := fun hm =>
        h (sectionSign, style) (List.mem_append_left _ (List.mem_map_of_mem hm)) rfl
      rw [List.flatMap_cons, read_text style ht,
        read_flatMap style fun entry he => h entry (List.mem_append_right _ he)]
    cases node with
    | code code =>
      have hlead : Client.Leads .keepsFormats code.toSection style (style.apply code) := by
        have := @Client.leads_code .keepsFormats code style
        cases code <;> exact this
      rw [List.flatMap_cons, Client.read_append, textOf, hlead.1, hlead.2]
      exact read_flatMap (style.apply code) h
    | color color =>
      have hlead := @Client.leads_color .keepsFormats (.rgb color) style
      rw [List.flatMap_cons, Client.read_append, textOf, hlead.1, hlead.2]
      exact read_flatMap { style with color := some (.rgb color) } h
    | text content => exact hpiece rfl
    | link address => exact hpiece rfl
    | reference name => exact hpiece rfl
    | call call => exact hpiece rfl

end Answers
end StyledMarkup
