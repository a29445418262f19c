import Mathlib.Tactic.TFAE
import StyledMarkup.Proofs.Markup.Shape
import StyledMarkup.Proofs.Template.Answers
import StyledMarkup.Proofs.Template.PlainText

/-!
# Which templates are fixed

Both templates of a source are fixed if and only if the source has no reference, and if and only if
they always render to the same (`isFixed_exact`). Two sets of lookups are enough to tell a template
with references from a fixed one: the one answers every query with nothing, and the other with one
character, so the lengths of what they give differ by the number of the references, whatever stands
around them (`Answers.length_flatMap_always`, `Answers.length_shown_always`).

References come from opening braces alone (`mem_of_reference_mem`). In a source without any of the
three signs that start a unit everything is verbatim (`verbatim_onePass`).
-/

namespace StyledMarkup

open Mark

variable {σ : Type}

/-! ## References among tokens -/

namespace Token

theorem query?_eq_none_iff {token : Token} :
    token.query? = none ↔ ∀ body, token ≠ .reference body := by
  constructor
  · rintro h body rfl
    simp only [query?] at h
    cases hp : Call.parse body <;> simp [hp] at h
  · intro h
    cases token with
    | reference body => exact absurd rfl (h body)
    | _ => rfl

theorem isBinding_node (token : Token) : token.node.isBinding = token.query?.isSome := by
  obtain ⟨content, hq, hn, -⟩ | ⟨query, hq, hn, -⟩ := token.reading_cases
  · rw [hq]
    cases hnode : token.node with
    | reference name =>
      rw [hnode] at hn
      cases hn
    | call call =>
      rw [hnode] at hn
      cases hn
    | _ => rfl
  · rw [hq, hn]
    cases query <;> rfl

end Token

theorem Node.isText_of_isBinding {node : Node} (h : node.isBinding = true) :
    node.isText = false := by
  cases node with
  | text content => cases h
  | _ => rfl

/-- The styled template is fixed if and only if its tokens ask for nothing. -/
theorem StyledBody.isFixed_iff (tokens : List Token) :
    (ofTokens tokens).isFixed = true ↔ ∀ token ∈ tokens, token.query? = none := by
  have hnodes : (ofTokens tokens).isFixed = !(nodesOf tokens).any Node.isBinding := by
    unfold ofTokens
    cases h : (nodesOf tokens).any Node.isBinding <;> simp [h, isFixed]
  rw [hnodes, Bool.not_eq_true', List.any_eq_false]
  constructor
  · intro h token ht
    by_contra hq
    have hbinding : token.node.isBinding = true := by
      rw [Token.isBinding_node, Option.isSome_iff_ne_none]
      exact hq
    exact h _ (Node.mem_foldr_push (Node.isText_of_isBinding hbinding) (List.mem_map_of_mem ht))
      hbinding
  · intro h node hn hbinding
    obtain ⟨token, ht, rfl⟩ := List.mem_map.1
      (Node.mem_of_mem_foldr_push (Node.isText_of_isBinding hbinding) hn)
    rw [Token.isBinding_node, h token ht] at hbinding
    cases hbinding

/-! ## Two sets of lookups -/

namespace Answers

/-- The lookups that answer every query with the same text. -/
def always (content : Text) : Answers where
  ofName _ := some content
  ofCall _ _ := some content

theorem length_textOf_always (c : Char) (node : Node) : ((always [c]).textOf node).length =
    ((always []).textOf node).length + if node.isBinding then 1 else 0 := by
  cases node <;> simp [textOf, always, Node.isBinding]

theorem length_flatMap_always (c : Char) (nodes : List Node) :
    (nodes.flatMap (always [c]).textOf).length =
      (nodes.flatMap (always []).textOf).length + nodes.countP Node.isBinding := by
  induction nodes with
  | nil => rfl
  | cons node nodes ih =>
    have htext := length_textOf_always c node
    rw [List.flatMap_cons, List.flatMap_cons, List.length_append, List.length_append,
      List.countP_cons]
    omega

theorem length_shown_always (c : Char) (style : Style) (nodes : List Node) :
    ((always [c]).shown style nodes).length =
      ((always []).shown style nodes).length + nodes.countP Node.isBinding := by
  induction nodes generalizing style with
  | nil => rfl
  | cons node nodes ih =>
    have htext := length_textOf_always c node
    cases node with
    | code code => exact ih (style.apply code)
    | color color => exact ih { style with color := some (.rgb color) }
    | _ =>
      have hrest := ih style
      simp only [shown, List.length_append, List.length_map, List.countP_cons]
      omega

end Answers

theorem countP_node_eq_zero_iff (tokens : List Token) :
    (tokens.map Token.node).countP Node.isBinding = 0 ↔ ∀ token ∈ tokens, token.query? = none := by
  rw [List.countP_eq_zero, List.forall_mem_map]
  refine forall₂_congr fun token _ => ?_
  rw [Token.isBinding_node, Bool.not_eq_true, Option.isSome_eq_false_iff, Option.isNone_iff_eq_none]

/-- A flat template that always renders to the same has no reference. -/
theorem FlatBody.query?_of_render_eq {tokens : List Token} {content : Text}
    (h : ∀ (bindings : Bindings Unit) (context : Context Unit),
      ((ofTokens tokens).render bindings context).1 = content) :
    ∀ token ∈ tokens, token.query? = none := by
  have hlength := Answers.length_flatMap_always 'x' (tokens.map Token.node)
  rw [← Answers.fst_render_ofTokens _ _ (Context.fresh ()),
    ← Answers.fst_render_ofTokens _ _ (Context.fresh ()), h, h] at hlength
  refine (countP_node_eq_zero_iff tokens).1 ?_
  omega

/-- A styled template that always renders to the same has no reference. -/
theorem StyledBody.query?_of_render_eq {tokens : List Token} {segments : List Segment}
    (h : ∀ (vars : VariableLookup Unit) (functions : FunctionLookup Unit) (context : Context Unit),
      ((ofTokens tokens).render vars functions context).1 = segments) :
    ∀ token ∈ tokens, token.query? = none := by
  have hshown : ∀ answers : Answers,
      answers.shown .plain (tokens.map Token.node) = Output.styledChars segments := by
    intro answers
    have hrender : Output.styledChars ((ofTokens tokens).render answers.variableLookup
        answers.functionLookup (Context.fresh ())).1 =
          answers.shown .plain (tokens.map Token.node) :=
      answers.styledChars_render (fun _ _ _ => rfl) _
    rw [← hrender, h]
  have hlength := Answers.length_shown_always 'x' .plain (tokens.map Token.node)
  rw [hshown, hshown] at hlength
  refine (countP_node_eq_zero_iff tokens).1 ?_
  omega

/-! ## Sources without signs -/

theorem mem_chars_of_mem_drop {c : Char} {m : Mark} {rest : List Mark} {n : Nat}
    (h : c ∈ chars (rest.drop n)) : c ∈ chars (m :: rest) :=
  List.mem_cons_of_mem _ (List.map_subset _ (List.drop_subset _ _) h)

theorem mem_of_reference_mem {marks : List Mark} {body : Text}
    (h : .token (.reference body) ∈ onePass marks) : '{' ∈ chars marks := by
  induction marks using onePass.induct with
  | case1 =>
    rw [onePass] at h
    cases h
  | case2 m rest hl tail ih =>
    rw [onePass, if_pos hl] at h
    exact mem_chars_of_mem_drop (ih (List.mem_of_ne_of_mem (by simp) h))
  | case3 m rest hl ih =>
    rw [onePass, if_neg hl] at h
    rcases List.mem_cons.1 h with h | h
    · obtain hu | ⟨sign, -, -, hu⟩ | ⟨_, hc, -, -⟩ | ⟨symbol, -, -, hu⟩ | ⟨digits, -, -, hu⟩ :=
        Scan.unit_cases m rest
      · rw [hu] at h
        cases h
      · rw [hu] at h
        cases h
      · rw [chars_cons, hc]
        exact List.mem_cons_self
      · rw [hu] at h
        cases h
      · cases h.trans hu
    · exact mem_chars_of_mem_drop (ih h)

/-- Whether the token stands for itself. -/
def Token.isVerbatim : Token → Bool
  | text _ => true
  | link _ => true
  | _ => false

/-- What the token stands for as it is. -/
def Token.verbatim : Token → Text
  | text content => content
  | link address => address
  | _ => []

/-- What the lexeme stands for as it is. -/
def Lexeme.verbatim : Lexeme → Text
  | char c => [c]
  | token t => t.verbatim

theorem Token.flatMap_verbatim_lexemes (token : Token) :
    token.lexemes.flatMap Lexeme.verbatim = token.verbatim := by
  cases token with
  | text content =>
    rw [lexemes, List.flatMap_map]
    exact List.flatMap_singleton' content
  | _ => exact List.flatMap_singleton ..

/-- Where no sign stands, a source is read as itself, in characters and links. -/
theorem verbatim_onePass {marks : List Mark} (hopen : '{' ∉ chars marks)
    (hescape : '&' ∉ chars marks) (hcolor : '#' ∉ chars marks) :
    (onePass marks).flatMap Lexeme.verbatim = chars marks ∧
      ∀ token, .token token ∈ onePass marks → token.isVerbatim = true := by
  induction marks using onePass.induct with
  | case1 =>
    rw [onePass]
    exact ⟨rfl, fun _ h => by cases h⟩
  | case2 m rest hl tail ih =>
    obtain ⟨hverbatim, hkinds⟩ := ih (mt mem_chars_of_mem_drop hopen)
      (mt mem_chars_of_mem_drop hescape) (mt mem_chars_of_mem_drop hcolor)
    rw [onePass, if_pos hl]
    refine ⟨?_, fun token ht => ?_⟩
    · rw [List.flatMap_cons, hverbatim, Lexeme.verbatim, Token.verbatim, ← chars_append,
        List.cons_append, List.take_append_drop]
    · rcases List.mem_cons.1 ht with ht | ht
      · cases ht
        rfl
      · exact hkinds token ht
  | case3 m rest hl ih =>
    have hunit : Scan.unit m rest = Scan.single m.char := by
      rw [Scan.unit, if_neg, if_neg, if_neg]
      · exact fun h => hcolor (List.mem_cons.2 (.inl h.symm))
      · exact fun h => hescape (List.mem_cons.2 (.inl h.symm))
      · exact fun h => hopen (List.mem_cons.2 (.inl h.symm))
    obtain ⟨hverbatim, hkinds⟩ := ih (mt mem_chars_of_mem_drop hopen)
      (mt mem_chars_of_mem_drop hescape) (mt mem_chars_of_mem_drop hcolor)
    rw [onePass, if_neg hl, hunit]
    rw [hunit] at hverbatim hkinds
    refine ⟨?_, fun token ht => ?_⟩
    · rw [List.flatMap_cons, hverbatim]
      rfl
    · exact hkinds token (List.mem_of_ne_of_mem (by simp [Scan.single]) ht)

section Tokens

variable {source : Text}

theorem query?_tokenize (h : '{' ∉ source) : ∀ token ∈ tokenize source, token.query? = none := by
  intro token ht
  rw [Token.query?_eq_none_iff]
  rintro body rfl
  have hread : .token (.reference body) ∈ onePass (ofText source) := by
    rw [← flatMap_lexemes_tokenize]
    exact List.mem_flatMap.2 ⟨_, ht, List.mem_singleton.2 rfl⟩
  have hopen := mem_of_reference_mem hread
  rw [chars_ofText] at hopen
  exact h hopen

theorem verbatim_tokenize (hopen : '{' ∉ source) (hescape : '&' ∉ source) (hcolor : '#' ∉ source) :
    (tokenize source).flatMap Token.verbatim = source ∧
      ∀ token ∈ tokenize source, token.isVerbatim = true := by
  rw [← chars_ofText source] at hopen hescape hcolor
  obtain ⟨hverbatim, hkinds⟩ := verbatim_onePass hopen hescape hcolor
  rw [← flatMap_lexemes_tokenize] at hverbatim hkinds
  refine ⟨?_, fun token ht => ?_⟩
  · rw [List.flatMap_assoc, chars_ofText] at hverbatim
    refine Eq.trans ?_ hverbatim
    exact List.flatMap_congr fun token _ => token.flatMap_verbatim_lexemes.symm
  · cases token with
    | text content => rfl
    | _ => exact hkinds _ (List.mem_flatMap.2 ⟨_, ht, List.mem_singleton.2 rfl⟩)

end Tokens

theorem Token.concat_reading_verbatim (bindings : Bindings σ) {tokens : List Token}
    (h : ∀ token ∈ tokens, token.isVerbatim = true) :
    Render.concat (reading bindings) tokens = pure (tokens.flatMap verbatim) := by
  induction tokens with
  | nil => rfl
  | cons token tokens ih =>
    have hread : token.reading bindings = pure token.verbatim := by
      have ht := h token List.mem_cons_self
      cases token with
      | text content => rfl
      | link address => rfl
      | _ => cases ht
    rw [Render.concat, hread, ih fun t ht => h t (List.mem_cons_of_mem _ ht), pure_bind, pure_bind]
    rfl

theorem Token.unstyled_verbatim {tokens : List Token}
    (h : ∀ token ∈ tokens, token.isVerbatim = true) :
    unstyled tokens = tokens := by
  refine List.filter_eq_self.2 fun token hm => ?_
  have ht := h token hm
  cases token with
  | text content => rfl
  | link address => rfl
  | _ => cases ht

theorem FlatBody.exists_render_eq {body : FlatBody} (h : body.isFixed = true) :
    ∃ content, ∀ {σ : Type} (bindings : Bindings σ), body.render bindings = pure content := by
  cases body with
  | fixed content => exact ⟨content, fun _ => rfl⟩
  | dynamic nodes => cases h

theorem StyledBody.exists_render_eq {body : StyledBody} (h : body.isFixed = true) :
    ∃ segments, ∀ {σ : Type} (vars : VariableLookup σ) (functions : FunctionLookup σ),
      body.render vars functions = pure segments := by
  cases body with
  | fixed segments => exact ⟨segments, fun _ _ => rfl⟩
  | dynamic nodes => cases h

/-- A source without signs renders to itself in the flat form. -/
theorem FlatBody.render_verbatim {source : Text} (hopen : '{' ∉ source) (hescape : '&' ∉ source)
    (hcolor : '#' ∉ source) (bindings : Bindings σ) :
    (ofTokens (tokenize source)).render bindings = pure source := by
  obtain ⟨hverbatim, hkinds⟩ := verbatim_tokenize hopen hescape hcolor
  have hfixed := (isFixed_iff _).2 (query?_tokenize hopen)
  obtain ⟨content, hcontent⟩ := exists_render_eq hfixed
  have hempty := render_eq_concat (Bindings.appends_ofTable (σ := Unit) .empty) (tokenize source)
  rw [if_pos hfixed, Token.concat_reading_verbatim _ hkinds, hverbatim, hcontent] at hempty
  have hsource : content = source := congrArg Prod.fst (congrFun hempty (Context.fresh ()))
  rw [hcontent, hsource]

/-- A source without signs renders to itself in the plain text of the styled form. -/
theorem StyledBody.plain_verbatim {source : Text} (hopen : '{' ∉ source) (hescape : '&' ∉ source)
    (hcolor : '#' ∉ source) (vars : VariableLookup σ) (functions : FunctionLookup σ) :
    (do return Output.plain (← (ofTokens (tokenize source)).render vars functions)) =
      (pure source : Render σ Text) := by
  obtain ⟨hverbatim, hkinds⟩ := verbatim_tokenize hopen hescape hcolor
  obtain ⟨segments, hsegments⟩ :=
    exists_render_eq ((isFixed_iff _).2 (query?_tokenize hopen))
  have hempty := plainText_eq_concat (Bindings.ofTable (σ := Unit) .empty) (tokenize source)
  rw [Token.unstyled_verbatim hkinds, Token.concat_reading_verbatim _ hkinds, hverbatim, plainText,
    hsegments] at hempty
  have hsource : Output.plain segments = source :=
    congrArg Prod.fst (congrFun hempty (Context.fresh ()))
  rw [hsegments, pure_bind, hsource]

/-- The two templates of a source are fixed together: just if the source has no reference, and just
if the flat template always renders to the same text, and the styled one to the same segments. They
are so if the source has no opening brace, and a source that has no sign to start a unit either
renders to itself. -/
theorem isFixed_exact (source : Text) :
    [(Template.compile source).body.isFixed = true,
      (StyledTemplate.compile source).body.isFixed = true,
      ∀ body, .reference body ∉ tokenize source,
      ∃ content, ∀ (σ : Type) (bindings : Bindings σ) (context : Context σ),
        ((Template.compile source).render bindings context).1 = content,
      ∃ segments, ∀ (σ : Type) (vars : VariableLookup σ) (functions : FunctionLookup σ)
        (context : Context σ),
        ((StyledTemplate.compile source).render vars functions context).1 = segments].TFAE ∧
    ('{' ∉ source → (Template.compile source).body.isFixed = true ∧
      (StyledTemplate.compile source).body.isFixed = true) ∧
    ('{' ∉ source → '&' ∉ source → '#' ∉ source →
      (∀ (σ : Type) (bindings : Bindings σ),
        (Template.compile source).render bindings = pure source) ∧
      ∀ (σ : Type) (vars : VariableLookup σ) (functions : FunctionLookup σ) (context : Context σ),
        Output.plain ((StyledTemplate.compile source).render vars functions context).1 =
          source) := by
  have hflat := FlatBody.isFixed_iff (tokenize source)
  have hstyled := StyledBody.isFixed_iff (tokenize source)
  refine ⟨?_, fun hopen => ?_, fun hopen hescape hcolor => ⟨fun σ bindings => ?_, ?_⟩⟩
  · tfae_have 1 ↔ 2 := hflat.trans hstyled.symm
    tfae_have 2 ↔ 3 := by
      refine hstyled.trans ⟨fun h body hm => ?_, fun h token ht => ?_⟩
      · exact Token.query?_eq_none_iff.1 (h _ hm) body rfl
      · exact Token.query?_eq_none_iff.2 fun body heq => h body (heq ▸ ht)
    tfae_have 1 → 4 := by
      intro h
      obtain ⟨content, hcontent⟩ := FlatBody.exists_render_eq h
      exact ⟨content, fun σ bindings context =>
        congrArg Prod.fst (congrFun (hcontent bindings) context)⟩
    tfae_have 4 → 1 := by
      rintro ⟨content, hcontent⟩
      exact hflat.2 (FlatBody.query?_of_render_eq (hcontent Unit))
    tfae_have 2 → 5 := by
      intro h
      obtain ⟨segments, hsegments⟩ := StyledBody.exists_render_eq h
      exact ⟨segments, fun σ vars functions context =>
        congrArg Prod.fst (congrFun (hsegments vars functions) context)⟩
    tfae_have 5 → 2 := by
      rintro ⟨segments, hsegments⟩
      exact hstyled.2 (StyledBody.query?_of_render_eq (hsegments Unit))
    tfae_finish
  · exact ⟨hflat.2 (query?_tokenize hopen), hstyled.2 (query?_tokenize hopen)⟩
  · exact FlatBody.render_verbatim hopen hescape hcolor bindings
  · intro σ vars functions context
    exact congrArg Prod.fst
      (congrFun (StyledBody.plain_verbatim hopen hescape hcolor vars functions) context)

end StyledMarkup
