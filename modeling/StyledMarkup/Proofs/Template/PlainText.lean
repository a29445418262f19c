import StyledMarkup.Output.Section
import StyledMarkup.Proofs.Template.Reading
import StyledMarkup.Proofs.Template.Slots

/-!
# The plain text of styled renders

Flat lookups serve styled renders too. The segments of such a render have, put together, the text
of a flat render from which the codes and colors have been left out (`plain_text_agrees`).

The two templates are not compared node by node: where a color goes, two texts become one, and links
are text in one template only. Both are compared with what the tokens read as.
-/

namespace StyledMarkup

variable {σ α : Type}

namespace Token

/-- Whether the token changes the style and has no text of its own. -/
def isStyling : Token → Bool
  | code symbol => (ShortCode.ofChar? symbol).isSome
  | hex digits => (Rgb.ofHex? digits).isSome
  | _ => false

/-- The tokens without those that change the style. -/
def unstyled (tokens : List Token) : List Token :=
  tokens.filter fun token => !token.isStyling

theorem query?_unstyled (tokens : List Token) :
    (unstyled tokens).filterMap query? = tokens.filterMap query? := by
  have hquery : ∀ token : Token, token.isStyling = true → token.query? = none := by
    intro token ht
    cases token with
    | reference body => cases ht
    | _ => rfl
  rw [unstyled, List.filterMap_filter]
  refine List.filterMap_congr fun token _ => ?_
  cases ht : token.isStyling with
  | true => simp [hquery token ht]
  | false => simp

end Token

/-- The plain text of the segments that a styled template is rendered to with flat lookups. -/
def StyledBody.plainText (body : StyledBody) (bindings : Bindings σ) : Render σ Text := do
  return Output.plain (← body.render bindings.plainVariables bindings.plainFunctions)

/-! ## From segments to tokens -/

theorem Render.plain_mapM (fill : α → Render σ Segment) (l : List α) :
    (do return Output.plain (← l.mapM fill)) =
      Render.concat (fun a => do return (← fill a).text) l := by
  induction l with
  | nil => rfl
  | cons a l ih =>
    rw [Render.concat, ← ih, List.mapM_cons]
    simp only [bind_assoc, pure_bind, Output.plain, List.flatMap_cons]

/-- The text of the segment of a place. -/
def Slot.shownText (bindings : Bindings σ) (slot : Slot) : Render σ Text := do
  return (← slot.fill bindings.plainVariables bindings.plainFunctions).text

/-- A lookup gets the empty text, so what it writes is the bound text itself. -/
theorem Bindings.text_of_answer (bindings : Bindings σ) (query : Query) :
    (do return (← bindings.textOf query).getD query.placeholder) = (do
      let answer ← bindings.lookup query []
      return if answer.bound then answer.result else query.placeholder) := by
  have hanswer : ∀ answer : Answer Text,
      (if answer.bound then some answer.result else none).getD query.placeholder =
        if answer.bound then answer.result else query.placeholder := by
    rintro ⟨_ | _, result⟩ <;> rfl
  simp only [textOf, bind_assoc, pure_bind, hanswer]

namespace Node

/-- The text of the segment that the node gives; codes and colors give none. -/
def shownText (bindings : Bindings σ) : Node → Render σ Text
  | text content => pure content
  | link address => pure address
  | code _ => pure []
  | color _ => pure []
  | reference name => do return (← bindings.textOf (.name name)).getD (namePlaceholder name)
  | call c => do return (← bindings.textOf (.call c)).getD (callPlaceholder c)

/-- Which style runs makes no difference to the text. -/
theorem concat_ofNodes (bindings : Bindings σ) (style : Style) (nodes : List Node) :
    Render.concat (Slot.shownText bindings) (Slot.ofNodes style nodes) =
      Render.concat (shownText bindings) nodes := by
  induction nodes generalizing style with
  | nil => rfl
  | cons node nodes ih =>
    cases node with
    | text content => rw [Slot.ofNodes, Render.concat, Render.concat, ih]; rfl
    | link address => rw [Slot.ofNodes, Render.concat, Render.concat, ih]; rfl
    | code code => simp [Slot.ofNodes, Render.concat, shownText, ih]
    | color color => simp [Slot.ofNodes, Render.concat, shownText, ih]
    | reference name =>
      have htext : Slot.shownText bindings (.reference name style) =
          shownText bindings (.reference name) := by
        refine Eq.trans ?_ (bindings.text_of_answer (.name name)).symm
        simp [Slot.shownText, Slot.fill, Slot.unbound, Bindings.plainVariables, Bindings.lookup,
          apply_ite, Query.placeholder]
      rw [Slot.ofNodes, Render.concat, Render.concat, ih, htext]
    | call c =>
      have htext : Slot.shownText bindings (.call c style) = shownText bindings (.call c) := by
        refine Eq.trans ?_ (bindings.text_of_answer (.call c)).symm
        simp [Slot.shownText, Slot.fill, Slot.unbound, Bindings.plainFunctions, Bindings.lookup,
          apply_ite, Query.placeholder]
      rw [Slot.ofNodes, Render.concat, Render.concat, ih, htext]

theorem concat_push (bindings : Bindings σ) (node : Node) (nodes : List Node) :
    Render.concat (shownText bindings) (push node nodes) =
      Render.concat (shownText bindings) (node :: nodes) := by
  refine view_push (fun rest => ?_) (fun content next rest => ?_) node nodes
  · simp [Render.concat, shownText]
  · simp only [Render.concat, shownText, pure_bind, bind_assoc, List.append_assoc]

theorem shownText_node (bindings : Bindings σ) (token : Token) :
    shownText bindings token.node =
      if token.isStyling then pure [] else token.reading bindings := by
  cases token with
  | text content => rfl
  | link address => rfl
  | code symbol =>
    cases h : ShortCode.ofChar? symbol with
    | none => simp [Token.node, Token.resolve, Token.isStyling, Token.reading, h]; rfl
    | some meaning => simp [Token.node, Token.resolve, Token.isStyling, h]; rfl
  | hex digits =>
    cases h : Rgb.ofHex? digits with
    | none => simp [Token.node, Token.resolve, Token.isStyling, Token.reading, h]; rfl
    | some color => simp [Token.node, Token.resolve, Token.isStyling, h]; rfl
  | reference body =>
    simp only [Token.node_reference, Token.isStyling, Token.reading]
    cases Call.parse body with
    | ok call => simp [shownText, callPlaceholder, Call.toText]
    | error failure => rfl

end Node

/-! ## Both templates -/

namespace StyledBody

/-- Merging texts makes no difference to the texts of the nodes, and the tokens that change the
style may as well be left out. -/
theorem concat_nodesOf (bindings : Bindings σ) (tokens : List Token) :
    Render.concat (Node.shownText bindings) (nodesOf tokens) =
      Render.concat (Token.reading bindings) (Token.unstyled tokens) := by
  have hpush : ∀ nodes : List Node,
      Render.concat (Node.shownText bindings) (nodes.foldr Node.push []) =
        Render.concat (Node.shownText bindings) nodes := by
    intro nodes
    induction nodes with
    | nil => rfl
    | cons node nodes ih =>
      rw [List.foldr_cons, Node.concat_push, Render.concat, ih, Render.concat]
  -- Tokens that change the style have a text in a flat template, so they go before the readings
  -- are compared.
  have hdrop : Render.concat (fun token : Token => token.node.shownText bindings)
      (Token.unstyled tokens) =
        Render.concat (fun token : Token => token.node.shownText bindings) tokens := by
    refine Render.concat_filter fun token _ ht => ?_
    rw [Node.shownText_node, if_pos (by simpa using ht)]
  have hkept : Render.concat (fun token : Token => token.node.shownText bindings)
      (Token.unstyled tokens) = Render.concat (Token.reading bindings) (Token.unstyled tokens) := by
    refine Render.concat_congr fun token ht => ?_
    have hstyling : token.isStyling = false := by simpa using (List.mem_filter.1 ht).2
    rw [Node.shownText_node, hstyling, if_neg Bool.false_ne_true]
  rw [nodesOf, hpush, Render.concat_map, ← hdrop, hkept]

/-- The plain text is what the tokens read as that do not change the style. -/
theorem plainText_eq_concat (bindings : Bindings σ) (tokens : List Token) :
    (ofTokens tokens).plainText bindings =
      Render.concat (Token.reading bindings) (Token.unstyled tokens) := by
  rw [plainText, render_eq_renderNodes, renderNodes_eq_mapM_fill, ← concat_nodesOf,
    ← Node.concat_ofNodes bindings .plain]
  exact Render.plain_mapM _ _

theorem plainText_blind {bindings : Bindings σ} (h : bindings.Blind) (tokens : List Token) :
    ((ofTokens tokens).plainText bindings).Blind := by
  rw [plainText_eq_concat]
  exact .concat (Token.reading_blind h) _

theorem plainText_recording (bindings : Bindings σ) (tokens : List Token) :
    (ofTokens tokens).plainText bindings.recording =
      Render.recorded (tokens.filterMap Token.query?) ((ofTokens tokens).plainText bindings) := by
  rw [plainText_eq_concat, plainText_eq_concat, ← Token.query?_unstyled,
    Token.concat_reading_recorded Bindings.textOf_recording, List.flatMap_singleton']

end StyledBody

namespace FlatBody

/-- The plain text of a styled render is the text of a flat render of the tokens that do not change
the style, which but for the buffer does the same: it makes the same lookups, in the order of the
references, and leaves the same in the memory of lookups that look at nothing else. -/
theorem plain_text_agrees {bindings : Bindings σ} (h : bindings.Appends) (tokens : List Token) :
    ((ofTokens (Token.unstyled tokens)).render bindings =
      if (ofTokens (Token.unstyled tokens)).isFixed
      then (StyledBody.ofTokens tokens).plainText bindings
      else Render.borrowing ((StyledBody.ofTokens tokens).plainText bindings)) ∧
    ((ofTokens (Token.unstyled tokens)).render bindings.recording =
        Render.recorded (tokens.filterMap Token.query?)
          ((ofTokens (Token.unstyled tokens)).render bindings) ∧
      (StyledBody.ofTokens tokens).plainText bindings.recording =
        Render.recorded (tokens.filterMap Token.query?)
          ((StyledBody.ofTokens tokens).plainText bindings)) ∧
    (bindings.Blind → ∀ context other : Context σ, context.memory = other.memory →
      ((ofTokens (Token.unstyled tokens)).render bindings context).1 =
          ((StyledBody.ofTokens tokens).plainText bindings other).1 ∧
        ((ofTokens (Token.unstyled tokens)).render bindings context).2.memory =
          ((StyledBody.ofTokens tokens).plainText bindings other).2.memory) := by
  have hrender : (ofTokens (Token.unstyled tokens)).render bindings =
      if (ofTokens (Token.unstyled tokens)).isFixed
      then (StyledBody.ofTokens tokens).plainText bindings
      else Render.borrowing ((StyledBody.ofTokens tokens).plainText bindings) := by
    rw [StyledBody.plainText_eq_concat, render_eq_concat h]
  refine ⟨hrender, ⟨?_, StyledBody.plainText_recording bindings tokens⟩, ?_⟩
  · rw [render_recording h, Token.query?_unstyled]
  · intro hb context other hm
    have hblind := StyledBody.plainText_blind hb tokens
    rw [hrender]
    split
    · exact hblind context other hm
    · exact hblind.borrowing context other hm

theorem plain_text_agrees_nested :
    let counter : Render Nat Text := Render.remember fun n => (Text.ofNat (n + 1), n + 1)
    let shout : List Text → Render Nat Text := fun args =>
      (ofTokens [.reference "x".toList, .text ['!']]).render
        (.ofTable (Table.empty.insert "x".toList (Text.join [' '] args)))
    let vars := (Variables.empty.setSupplied "n".toList counter).setFunction "f".toList shout
    let tokens : List Token := [.text "a".toList, .code 'c', .text "b".toList, .hex "#F80".toList,
      .code 'z', .hex "12".toList, .reference "n".toList, .code 'l', .text [],
      .reference "f(1, 2)".toList, .reference "gone".toList, .link "https://e.org".toList]
    let flat := (ofTokens (Token.unstyled tokens)).render vars.bindings (Context.fresh 4)
    let styled := (StyledBody.ofTokens tokens).plainText vars.bindings ⟨.lent, [], 4⟩
    vars.bindings.Appends ∧ vars.bindings.Blind ∧
      flat.1 = "ab&z#1251 2!\x7bgone\x7dhttps://e.org".toList ∧ styled.1 = flat.1 ∧
      styled.2.memory = 5 ∧ flat.2.memory = 5 := by
  intro counter shout vars tokens flat styled
  have hblind : vars.bindings.Blind := by
    refine Variables.blind_bindings (fun name value h => ?_) fun name function h args => ?_
    · have hget : vars.values.get? name =
          if name = "n".toList then some (.supplied counter) else none := Table.get?_insert ..
      rw [hget] at h
      split at h
      · cases h
        exact Render.blind_remember _
      · cases h
    · have hget : vars.functions.get? name = if name = "f".toList then some shout else none :=
        Table.get?_insert ..
      rw [hget] at h
      split at h
      · cases h
        exact render_blind (Bindings.blind_ofTable _) _
      · cases h
  have hagree := (plain_text_agrees vars.appends_bindings tokens).2.2 hblind
    (Context.fresh 4) ⟨.lent, [], 4⟩ rfl
  have hflat : flat.1 = "ab&z#1251 2!\x7bgone\x7dhttps://e.org".toList := by decide +kernel
  have hmemory : flat.2.memory = 5 := by decide +kernel
  exact ⟨vars.appends_bindings, hblind, hflat, hagree.1.symm, hagree.2.symm.trans hmemory, hmemory⟩

end FlatBody
end StyledMarkup
