import Mathlib.Data.List.Chain
import StyledMarkup.Proofs.Text.Basic
import StyledMarkup.Template.Flat
import StyledMarkup.Template.Styled

/-!
# Sequences of nodes

A body is a call just if it has an opening parenthesis (`Call.parse_cases`), so no reference falls
back (`Token.resolve_reference`).

Nodes are put into a sequence one by one from the right, and `push_cases` says once what that does.
The sequence has no empty text and no two texts beside each other (`separate_foldr_push`), so
without references a flat template is one text at most (`ofTokens_cases`). Writing the nodes of a
flat template is writing the nodes of its tokens, whatever the lookups do
(`writeNodes_nodesOf`).
-/

namespace StyledMarkup

variable {σ : Type}

/-- A body is a call if and only if it has an opening parenthesis. -/
theorem Call.parse_cases (body : Text) :
    ('(' ∈ body ∧ ∃ call, parse body = .ok call) ∨ ('(' ∉ body ∧ parse body = .error ⟨body⟩) := by
  by_cases h : '(' ∈ body
  · obtain ⟨before, after, rfl, hb⟩ := List.eq_append_cons_of_mem h
    exact .inl ⟨h, _, by rw [parse, Text.cutAt?_append hb]⟩
  · exact .inr ⟨h, by rw [parse, Text.cutAt?_of_not_mem h]⟩

/-- A body that is looked at as a call is one. -/
theorem Token.resolve_reference (body : Text) : (reference body).resolve =
    .ok (match Call.parse body with | .ok call => .call call | .error _ => .reference body) := by
  show resolveReference body = _
  unfold resolveReference
  obtain ⟨hopen, call, hp⟩ | ⟨hnone, hp⟩ := Call.parse_cases body
  · rw [if_pos (List.contains_iff_mem.2 hopen), hp]
  · rw [if_neg fun h => hnone (List.contains_iff_mem.1 h), hp]

theorem Token.node_reference (body : Text) : (reference body).node =
    match Call.parse body with | .ok call => .call call | .error _ => .reference body := by
  rw [node, resolve_reference]

/-- Only a reference whose body is a call stands for the call. -/
theorem Token.eq_reference_of_node {token : Token} {call : Call} (h : token.node = .call call) :
    ∃ body, token = .reference body ∧ Call.parse body = .ok call := by
  cases token with
  | text content => cases h
  | link address => cases h
  | code symbol =>
    simp only [node, resolve] at h
    cases hc : ShortCode.ofChar? symbol <;> simp [hc, Fallback.node] at h
  | hex digits =>
    simp only [node, resolve] at h
    cases hc : Rgb.ofHex? digits <;> simp [hc, Fallback.node] at h
  | reference body =>
    rw [node_reference] at h
    cases hc : Call.parse body with
    | ok parsed =>
      simp only [hc, Node.call.injEq] at h
      exact ⟨body, rfl, by rw [hc, h]⟩
    | error failure => simp [hc] at h

namespace Node

/-- What comes of putting a node before others: an empty text is left out, a text joins a text,
and any other node stands before them. -/
theorem push_cases (node : Node) (nodes : List Node) :
    (node = text [] ∧ push node nodes = nodes) ∨
    (∃ content next rest, content ≠ [] ∧ node = text content ∧ nodes = text next :: rest ∧
      push node nodes = text (content ++ next) :: rest) ∨
    (node ≠ text [] ∧ (node.isText = true → ∀ next, nodes.head? = some next → next.isText = false) ∧
      push node nodes = node :: nodes) := by
  cases node with
  | text content =>
    rcases content with _ | ⟨c, content⟩
    · exact .inl ⟨rfl, rfl⟩
    rcases nodes with _ | ⟨first, rest⟩
    · exact .inr (.inr ⟨by simp, by simp, rfl⟩)
    · cases first with
      | text next => exact .inr (.inl ⟨c :: content, next, rest, by simp, rfl, rfl, rfl⟩)
      | reference name => exact .inr (.inr ⟨by simp, by simp [isText], rfl⟩)
      | call call => exact .inr (.inr ⟨by simp, by simp [isText], rfl⟩)
      | code code => exact .inr (.inr ⟨by simp, by simp [isText], rfl⟩)
      | color color => exact .inr (.inr ⟨by simp, by simp [isText], rfl⟩)
      | link address => exact .inr (.inr ⟨by simp, by simp [isText], rfl⟩)
  | reference name => exact .inr (.inr ⟨by simp, by simp [isText], rfl⟩)
  | call call => exact .inr (.inr ⟨by simp, by simp [isText], rfl⟩)
  | code code => exact .inr (.inr ⟨by simp, by simp [isText], rfl⟩)
  | color color => exact .inr (.inr ⟨by simp, by simp [isText], rfl⟩)
  | link address => exact .inr (.inr ⟨by simp, by simp [isText], rfl⟩)

/-- Whatever passes over an empty text and takes two texts as one does not see that texts are
joined. -/
theorem view_push {γ : Type} {view : List Node → γ}
    (hempty : ∀ nodes, view (text [] :: nodes) = view nodes)
    (hjoin : ∀ content next rest,
      view (text (content ++ next) :: rest) = view (text content :: text next :: rest))
    (node : Node) (nodes : List Node) : view (push node nodes) = view (node :: nodes) := by
  obtain ⟨rfl, hp⟩ | ⟨content, next, rest, -, rfl, rfl, hp⟩ | ⟨-, -, hp⟩ := push_cases node nodes
  · rw [hp, hempty]
  · rw [hp, hjoin]
  · rw [hp]

/-- A node that is no text comes from the nodes that are put into the sequence. -/
theorem mem_of_mem_foldr_push {node : Node} (h : node.isText = false) :
    ∀ {nodes : List Node}, node ∈ nodes.foldr push [] → node ∈ nodes
  | first :: rest, hm => by
    rw [List.foldr_cons] at hm
    have ih := @mem_of_mem_foldr_push node h rest
    obtain ⟨-, hp⟩ | ⟨content, next, tail, -, -, heq, hp⟩ | ⟨-, -, hp⟩ :=
      push_cases first (rest.foldr push [])
    · rw [hp] at hm
      exact List.mem_cons_of_mem _ (ih hm)
    · rw [hp] at hm
      rw [heq] at ih
      rcases List.mem_cons.1 hm with rfl | hm
      · cases h
      · exact List.mem_cons_of_mem _ (ih (List.mem_cons_of_mem _ hm))
    · rw [hp] at hm
      rcases List.mem_cons.1 hm with rfl | hm
      · exact List.mem_cons_self
      · exact List.mem_cons_of_mem _ (ih hm)

/-- A node that is no text stays when nodes are put into the sequence. -/
theorem mem_foldr_push {node : Node} (h : node.isText = false) :
    ∀ {nodes : List Node}, node ∈ nodes → node ∈ nodes.foldr push []
  | first :: rest, hm => by
    have ih : node ∈ rest → node ∈ rest.foldr push [] := mem_foldr_push h
    rw [List.foldr_cons]
    obtain ⟨rfl, hp⟩ | ⟨content, next, tail, -, rfl, heq, hp⟩ | ⟨-, -, hp⟩ :=
      push_cases first (rest.foldr push [])
    · rw [hp]
      rcases List.mem_cons.1 hm with rfl | hm
      · cases h
      · exact ih hm
    · rw [hp]
      rw [heq] at ih
      rcases List.mem_cons.1 hm with rfl | hm
      · cases h
      · rcases List.mem_cons.1 (ih hm) with rfl | hm
        · cases h
        · exact List.mem_cons_of_mem _ hm
    · rw [hp]
      exact List.mem_cons.2 ((List.mem_cons.1 hm).imp id ih)

/-- Whether no text of the sequence is empty and no two texts stand beside each other. -/
structure Separate (nodes : List Node) : Prop where
  text_ne_nil : text [] ∉ nodes
  apart : nodes.IsChain fun node next => node.isText = true → next.isText = false

theorem Separate.push (node : Node) {nodes : List Node} (h : Separate nodes) :
    Separate (Node.push node nodes) := by
  obtain ⟨-, hp⟩ | ⟨content, next, rest, hc, -, rfl, hp⟩ | ⟨hne, hn, hp⟩ := push_cases node nodes
  · rw [hp]
    exact h
  · rw [hp]
    refine ⟨?_, ?_⟩
    · intro hm
      rcases List.mem_cons.1 hm with hm | hm
      · exact hc (List.append_eq_nil_iff.1 (Node.text.inj hm).symm).1
      · exact h.text_ne_nil (List.mem_cons_of_mem _ hm)
    · have hchain := List.isChain_cons.1 h.apart
      exact List.isChain_cons.2 ⟨fun y hy _ => hchain.1 y hy rfl, hchain.2⟩
  · rw [hp]
    refine ⟨?_, List.isChain_cons.2 ⟨fun y hy ht => hn ht y hy, h.apart⟩⟩
    intro hm
    rcases List.mem_cons.1 hm with hm | hm
    · exact hne hm.symm
    · exact h.text_ne_nil hm

theorem separate_foldr_push (nodes : List Node) : Separate (nodes.foldr push []) := by
  induction nodes with
  | nil => exact ⟨List.not_mem_nil, List.isChain_nil⟩
  | cons node nodes ih => exact ih.push node

theorem Separate.texts {nodes : List Node} (h : Separate nodes)
    (ht : ∀ node ∈ nodes, node.isText = true) : nodes = [] ∨ ∃ content, nodes = [text content] := by
  rcases nodes with _ | ⟨first, _ | ⟨second, rest⟩⟩
  · exact .inl rfl
  · have hfirst := ht first List.mem_cons_self
    cases first with
    | text content => exact .inr ⟨content, rfl⟩
    | _ => cases hfirst
  · have hfirst := (List.isChain_cons_cons.1 h.apart).1 (ht first List.mem_cons_self)
    rw [ht second (List.mem_cons_of_mem _ List.mem_cons_self)] at hfirst
    cases hfirst

end Node

namespace FlatBody

/-- Compiling gives the nodes if one of them is no text, and otherwise the one text that they
are. -/
theorem ofTokens_cases (tokens : List Token) :
    (ofTokens tokens = dynamic (nodesOf tokens) ∧ ∃ node ∈ nodesOf tokens, node.isText = false) ∨
    (ofTokens tokens = fixed [] ∧ nodesOf tokens = []) ∨
    ∃ content, ofTokens tokens = fixed content ∧ nodesOf tokens = [.text content] := by
  unfold ofTokens
  cases ha : (nodesOf tokens).any fun node => !node.isText with
  | true =>
    obtain ⟨node, hn, ht⟩ := List.any_eq_true.1 ha
    exact .inl ⟨by simp [ha], node, hn, by simpa using ht⟩
  | false =>
    have htexts : ∀ node ∈ nodesOf tokens, node.isText = true := by
      intro node hn
      have := List.any_eq_false.1 ha node hn
      simpa using this
    rcases (Node.separate_foldr_push _).texts htexts with hnil | ⟨content, hc⟩
    · have hnodes : nodesOf tokens = [] := hnil
      exact .inr (.inl ⟨by simp [hnodes], hnodes⟩)
    · have hnodes : nodesOf tokens = [.text content] := hc
      exact .inr (.inr ⟨content, by simp [hnodes, Node.isText], hnodes⟩)

theorem writeNodes_cons (bindings : Bindings σ) (out : Text) (node : Node) (nodes : List Node) :
    writeNodes bindings out (node :: nodes) =
      (do let written ← writeNode bindings out node; writeNodes bindings written nodes) :=
  List.foldlM_cons

theorem writeNodes_push (bindings : Bindings σ) (out : Text) (node : Node) (nodes : List Node) :
    writeNodes bindings out (Node.push node nodes) = writeNodes bindings out (node :: nodes) := by
  refine Node.view_push (fun rest => ?_) (fun content next rest => ?_) node nodes
  · rw [writeNodes_cons, writeNode, pure_bind, List.append_nil]
  · simp only [writeNodes_cons, writeNode, pure_bind, List.append_assoc]

theorem writeNode_flat (bindings : Bindings σ) (out : Text) (node : Node) :
    writeNode bindings out node.flat = writeNode bindings out node := by
  cases node <;> rfl

/-- Writing the nodes of a flat template is writing the nodes of its tokens one by one. -/
theorem writeNodes_nodesOf (bindings : Bindings σ) (out : Text) (tokens : List Token) :
    writeNodes bindings out (nodesOf tokens) =
      writeNodes bindings out (tokens.map Token.node) := by
  unfold nodesOf
  induction tokens generalizing out with
  | nil => rfl
  | cons token tokens ih =>
    rw [List.map_cons, List.foldr_cons, writeNodes_push, writeNodes_cons, writeNode_flat,
      List.map_cons, writeNodes_cons]
    exact bind_congr fun written => ih written

end FlatBody
end StyledMarkup
