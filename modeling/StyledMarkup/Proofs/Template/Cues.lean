import Mathlib.Data.List.SplitBy
import StyledMarkup.Proofs.Template.RunningStyle
import StyledMarkup.Proofs.Template.Slots

/-!
# Cues for segments

Tokens tell by themselves which segments a styled render gives and in which style
(`Cue.ofTokens`): one for each longest run of tokens that stand for text, unless its text is empty,
one for each link and one for each reference.

A render fills the cues in order (`render_follows_cues`). A lookup takes part in the segment of its
own reference alone, so that texts and links are the same whatever lookups there are.
-/

namespace StyledMarkup

variable {σ : Type}

namespace Token

/-- The text that the token stands for, if it stands for text. -/
def literal? : Token → Option Text
  | text content => some content
  | code symbol => if (ShortCode.ofChar? symbol).isSome then none else some ['&', symbol]
  | hex digits => if (Rgb.ofHex? digits).isSome then none else some ('#' :: digits)
  | _ => none

/-- A token that stands for text is a text among the nodes and keeps the style; any other token is
no text. -/
theorem literal?_cases (token : Token) :
    (∃ content, token.literal? = some content ∧ token.node = .text content ∧
      ∀ style, token.restyle style = style) ∨
    (token.literal? = none ∧ token.node.isText = false) := by
  cases token with
  | text content => exact .inl ⟨content, rfl, rfl, fun _ => rfl⟩
  | link address => exact .inr ⟨rfl, rfl⟩
  | code symbol =>
    cases hc : ShortCode.ofChar? symbol with
    | none => exact .inl ⟨['&', symbol], by simp [literal?, hc], by simp [node, resolve, hc]; rfl,
        fun style => by simp [restyle, hc]⟩
    | some meaning => exact .inr ⟨by simp [literal?, hc], by simp [node, resolve, hc, Node.isText]⟩
  | hex digits =>
    cases hc : Rgb.ofHex? digits with
    | none => exact .inl ⟨'#' :: digits, by simp [literal?, hc], by simp [node, resolve, hc]; rfl,
        fun style => by simp [restyle, hc]⟩
    | some color => exact .inr ⟨by simp [literal?, hc], by simp [node, resolve, hc, Node.isText]⟩
  | reference body =>
    refine .inr ⟨rfl, ?_⟩
    rw [node_reference]
    cases Call.parse body <;> rfl

theorem isText_node {token : Token} (h : token.literal? = none) : token.node.isText = false := by
  obtain ⟨content, hl, -, -⟩ | ⟨-, ht⟩ := token.literal?_cases
  · cases h.symm.trans hl
  · exact ht

theorem push_node {token : Token} (h : token.literal? = none) (nodes : List Node) :
    Node.push token.node nodes = token.node :: nodes := by
  have ht := isText_node h
  cases hnode : token.node with
  | text content =>
    rw [hnode] at ht
    cases ht
  | _ => rfl

/-- The tokens in longest runs of those that stand for text; any other token is alone. -/
def runs (tokens : List Token) : List (List Token) :=
  tokens.splitBy fun token next => token.literal?.isSome && next.literal?.isSome

/-- The text that tokens stand for. -/
def literals (tokens : List Token) : Text :=
  (tokens.filterMap literal?).flatten

/-- Whether all the tokens stand for text. -/
def AllLiteral (tokens : List Token) : Prop :=
  ∀ token ∈ tokens, token.literal?.isSome = true

/-- Whether a run is a single token that stands for no text. -/
def Alone (run : List Token) : Prop :=
  ∃ token : Token, token.literal? = none ∧ run = [token]

/-- Whether each of the runs is one of text or a single token, and no two runs of text stand beside
each other. -/
structure Separated (runs : List (List Token)) : Prop where
  each : ∀ run ∈ runs, AllLiteral run ∨ Alone run
  apart : runs.IsChain fun run next => AllLiteral run → ¬AllLiteral next

theorem allLiteral_of_isChain {token : Token} {run : List Token}
    (ht : token.literal?.isSome = true) (h : (token :: run).IsChain fun token next =>
      token.literal?.isSome && next.literal?.isSome) : AllLiteral (token :: run) := by
  induction run generalizing token with
  | nil => exact List.forall_mem_singleton.2 ht
  | cons next run ih =>
    obtain ⟨hpair, hrest⟩ := List.isChain_cons_cons.1 h
    exact List.forall_mem_cons.2 ⟨ht, ih (Bool.and_eq_true_iff.1 hpair).2 hrest⟩

theorem separated_runs (tokens : List Token) : Separated (runs tokens) := by
  constructor
  · intro run hm
    have hchain := List.isChain_of_mem_splitBy hm
    rcases run with _ | ⟨token, rest⟩
    · exact absurd rfl (List.ne_nil_of_mem_splitBy hm)
    · cases ht : token.literal? with
      | some content => exact .inl (allLiteral_of_isChain (by rw [ht]; rfl) hchain)
      | none =>
        rcases rest with _ | ⟨next, rest⟩
        · exact .inr ⟨token, ht, rfl⟩
        · have hpair := (List.isChain_cons_cons.1 hchain).1
          rw [ht] at hpair
          cases hpair
  · refine (List.isChain_getLast_head_splitBy _ tokens).imp fun run next => ?_
    rintro ⟨hrun, hnext, hpair⟩ hl hn
    rw [hl _ (List.getLast_mem hrun), hn _ (List.head_mem hnext)] at hpair
    cases hpair

theorem AllLiteral.cons_cases {token : Token} {run : List Token} (h : AllLiteral (token :: run)) :
    AllLiteral run ∧ ∃ content, token.literal? = some content ∧ token.node = .text content ∧
      ∀ style, token.restyle style = style := by
  obtain ⟨htoken, hrun⟩ := List.forall_mem_cons.1 h
  refine ⟨hrun, token.literal?_cases.resolve_right fun hnone => ?_⟩
  rw [hnone.1] at htoken
  cases htoken

/-- A run of text is one text among the nodes, if it is not empty. -/
theorem foldr_push_literals {run : List Token} (h : AllLiteral run) {nodes : List Node}
    (hn : ∀ node, nodes.head? = some node → node.isText = false) :
    (run.map node).foldr Node.push nodes =
      if literals run = [] then nodes else .text (literals run) :: nodes := by
  induction run with
  | nil => rfl
  | cons token run ih =>
    obtain ⟨hrest, content, hl, hnode, -⟩ := h.cons_cases
    have hcons : literals (token :: run) = content ++ literals run := by
      simp [literals, hl]
    rw [List.map_cons, List.foldr_cons, ih hrest, hnode, hcons]
    -- If the rest of the run is empty, only the nodes behind the run keep the text from merging.
    by_cases hrun : literals run = []
    · rw [if_pos hrun, hrun, List.append_nil]
      obtain ⟨hc, hp⟩ | ⟨_, next, rest, -, -, heq, -⟩ | ⟨hc, -, hp⟩ :=
        Node.push_cases (.text content) nodes
      · rw [hp, if_pos (Node.text.inj hc)]
      · cases hn _ (by rw [heq]; rfl)
      · rw [hp, if_neg fun hnil => hc (by rw [hnil])]
    · rw [if_neg hrun, if_neg fun hnil => hrun (List.append_eq_nil_iff.1 hnil).2]
      cases content with
      | nil => rfl
      | cons c content => rfl

/-- Behind a run of text the nodes do not start with a text. -/
theorem Separated.isText_head {run : List Token} {rest : List (List Token)}
    (h : Separated (run :: rest)) (hl : AllLiteral run) : ∀ first : Node,
      ((rest.flatten.map node).foldr Node.push []).head? = some first → first.isText = false := by
  intro first hfirst
  rcases rest with _ | ⟨next, rest⟩
  · cases hfirst
  · have hapart := (List.isChain_cons_cons.1 h.apart).1 hl
    obtain ⟨token, ht, rfl⟩ :=
      (h.each next (List.mem_cons_of_mem _ List.mem_cons_self)).resolve_left hapart
    rw [List.flatten_cons, List.singleton_append, List.map_cons, List.foldr_cons,
      push_node ht] at hfirst
    cases hfirst
    exact isText_node ht

theorem restyle_literals {run : List Token} (h : AllLiteral run) (style : Style) :
    run.foldl restyle style = style := by
  induction run with
  | nil => rfl
  | cons token run ih =>
    obtain ⟨hrest, content, -, -, hs⟩ := h.cons_cases
    rw [List.foldl_cons, hs, ih hrest]

end Token

/-- What a segment is made from: a text, a link or a reference, and the style that runs there. -/
inductive Cue where
  | text (content : Text) (style : Style)
  | link (address : Text) (style : Style)
  | reference (body : Text) (style : Style)
deriving DecidableEq

namespace Cue

/-- The cues of a run of tokens behind others. -/
def ofRun (before run : List Token) : List Cue :=
  match run with
  | [.link address] => [link address (styleAfter before)]
  | [.reference body] => [reference body (styleAfter before)]
  | _ => if Token.literals run = [] then [] else [text (Token.literals run) (styleAfter before)]

/-- The cues of runs behind other tokens. -/
def ofRuns (before : List Token) : List (List Token) → List Cue
  | [] => []
  | run :: rest => ofRun before run ++ ofRuns (before ++ run) rest

/-- The cues of tokens. -/
def ofTokens (tokens : List Token) : List Cue :=
  ofRuns [] (Token.runs tokens)

/-- The segment for the cue. A lookup is given an empty text in the style that runs and nothing
else, and counts only if it binds; otherwise the placeholder is left in this style. -/
def fill (vars : VariableLookup σ) (functions : FunctionLookup σ) : Cue → Render σ Segment
  | text content style => pure { text := content, style }
  | link address style => pure { text := address, style, click := some ⟨.openUrl, address⟩ }
  | reference body style => do
    let given : Segment := { text := [], style, click := none, hover := none, insertion := none }
    match Call.parse body with
    | .ok call =>
      let answer ← functions call.name call.args given
      let placeholder := '{' :: call.name ++ '(' :: Text.join [','] call.args ++ [')', '}']
      return if answer.bound then answer.result else { given with text := placeholder }
    | .error _ =>
      let answer ← vars body given
      return if answer.bound then answer.result else { given with text := '{' :: body ++ ['}'] }

/-- The place of the segment. -/
def slot : Cue → Slot
  | text content style => .fixed { text := content, style }
  | link address style => .fixed { text := address, style, click := some ⟨.openUrl, address⟩ }
  | reference body style =>
    match Call.parse body with
    | .ok call => .call call style
    | .error _ => .reference body style

theorem fill_slot (vars : VariableLookup σ) (functions : FunctionLookup σ) (cue : Cue) :
    cue.slot.fill vars functions = cue.fill vars functions := by
  cases cue with
  | text content style => rfl
  | link address style => rfl
  | reference body style =>
    simp only [slot, fill]
    cases Call.parse body with
    | ok call => simp [Slot.fill, Slot.unbound, Node.callPlaceholder, Call.toText]
    | error failure => rfl

theorem ofRun_literals {run : List Token} (h : Token.AllLiteral run) (before : List Token) :
    ofRun before run = if Token.literals run = [] then []
      else [text (Token.literals run) (styleAfter before)] := by
  unfold ofRun
  split
  · cases h _ (List.mem_singleton.2 rfl)
  · cases h _ (List.mem_singleton.2 rfl)
  · rfl

/-- A token that stands for no text gives its cue and changes the style. -/
theorem ofNodes_node {token : Token} (h : token.literal? = none) (before : List Token)
    (nodes : List Node) : Slot.ofNodes (styleAfter before) (token.node :: nodes) =
      (ofRun before [token]).map slot ++
        Slot.ofNodes (token.restyle (styleAfter before)) nodes := by
  cases token with
  | text content => cases h
  | link address => rfl
  | code symbol =>
    have hnone : ofRun before [.code symbol] = [] := by simp [ofRun, Token.literals, h]
    rw [hnone]
    cases hc : ShortCode.ofChar? symbol with
    | none => simp [Token.literal?, hc] at h
    | some meaning => simp [Token.node, Token.resolve, Token.restyle, hc, Slot.ofNodes]
  | hex digits =>
    have hnone : ofRun before [.hex digits] = [] := by simp [ofRun, Token.literals, h]
    rw [hnone]
    cases hc : Rgb.ofHex? digits with
    | none => simp [Token.literal?, hc] at h
    | some color => simp [Token.node, Token.resolve, Token.restyle, hc, Slot.ofNodes]
  | reference body =>
    simp only [Token.node_reference, ofRun, List.map_cons, List.map_nil, slot]
    cases Call.parse body <;> rfl

/-- The places of the nodes are those of the cues, run by run. -/
theorem map_slot_ofRuns {runs : List (List Token)} (h : Token.Separated runs)
    (before : List Token) : (ofRuns before runs).map slot =
      Slot.ofNodes (styleAfter before) ((runs.flatten.map Token.node).foldr Node.push []) := by
  -- The tokens before the runs carry the style, so they change from run to run.
  induction runs generalizing before with
  | nil => rfl
  | cons run rest ih =>
    have hseparated : Token.Separated rest :=
      ⟨fun r hr => h.each r (List.mem_cons_of_mem _ hr), h.apart.tail⟩
    have hrest := ih hseparated (before ++ run)
    rw [styleAfter_append] at hrest
    rw [ofRuns, List.map_append, hrest, List.flatten_cons, List.map_append, List.foldr_append]
    rcases h.each run List.mem_cons_self with hl | ⟨token, ht, rfl⟩
    · rw [Token.restyle_literals hl, Token.foldr_push_literals hl (h.isText_head hl),
        ofRun_literals hl]
      split
      · rfl
      · rfl
    · rw [List.map_singleton, List.foldr_cons, List.foldr_nil, Token.push_node ht,
        ofNodes_node ht]
      rfl

/-- Whether the segment is what the cue tells if no lookup is needed for it. -/
def Shows : Cue → Segment → Prop
  | text content style, segment => segment = { text := content, style }
  | link address style, segment =>
    segment = { text := address, style, click := some ⟨.openUrl, address⟩ }
  | reference _ _, _ => True

theorem forall₂_fill (vars : VariableLookup σ) (functions : FunctionLookup σ) (cues : List Cue)
    (context : Context σ) :
    List.Forall₂ Shows cues ((cues.mapM (fill vars functions)) context).1 := by
  induction cues generalizing context with
  | nil => exact .nil
  | cons cue cues ih =>
    rw [List.mapM_cons]
    refine .cons ?_ (ih _)
    cases cue <;> trivial

end Cue

namespace StyledBody

theorem ofNodes_nodesOf (tokens : List Token) :
    Slot.ofNodes .plain (nodesOf tokens) = (Cue.ofTokens tokens).map Cue.slot := by
  have hruns := Cue.map_slot_ofRuns (Token.separated_runs tokens) []
  rw [Token.runs, List.flatten_splitBy] at hruns
  exact hruns.symm

theorem render_eq_fill (vars : VariableLookup σ) (functions : FunctionLookup σ)
    (tokens : List Token) : (ofTokens tokens).render vars functions =
      (Cue.ofTokens tokens).mapM (Cue.fill vars functions) := by
  rw [render_eq_renderNodes, renderNodes_eq_mapM_fill, ofNodes_nodesOf, List.mapM_map]
  congr 1
  funext cue
  exact cue.fill_slot vars functions

/-- A styled render fills the cues of its tokens in order, so it gives one segment for each of
them, and the segments of texts and links, with their styles, are the same whatever the lookups
do. A template that is fixed has the segments that rendering its nodes with any lookups gives. -/
theorem render_follows_cues (tokens : List Token) :
    (∀ (σ : Type) (vars : VariableLookup σ) (functions : FunctionLookup σ),
      (ofTokens tokens).render vars functions =
        (Cue.ofTokens tokens).mapM (Cue.fill vars functions) ∧
      ∀ context : Context σ, List.Forall₂ Cue.Shows (Cue.ofTokens tokens)
        ((ofTokens tokens).render vars functions context).1) ∧
    match ofTokens tokens with
    | fixed segments => ∀ (σ : Type) (vars : VariableLookup σ) (functions : FunctionLookup σ),
        renderNodes vars functions (nodesOf tokens) = pure segments
    | dynamic nodes => nodes = nodesOf tokens := by
  refine ⟨fun σ vars functions => ?_, ?_⟩
  · rw [render_eq_fill]
    exact ⟨rfl, Cue.forall₂_fill vars functions _⟩
  · cases hbody : ofTokens tokens with
    | fixed segments =>
      intro σ vars functions
      rw [← render_eq_renderNodes, hbody]
      rfl
    | dynamic nodes =>
      simp only [ofTokens] at hbody
      split at hbody
      · cases hbody
        rfl
      · cases hbody

example : Cue.ofTokens [.text "a".toList, .code 'z', .code 'l', .hex "#F00".toList, .text [],
    .reference "n".toList, .code 'r', .hex "12".toList, .text "b".toList, .code 'c',
    .link "http://e.org".toList] =
      [.text "a&z".toList .plain,
        .reference "n".toList { color := some (.rgb ⟨255, 0, 0⟩), bold := true },
        .text "#12b".toList .plain,
        .link "http://e.org".toList { color := some (.named .red) }] := by
  decide +kernel

end StyledBody
end StyledMarkup
