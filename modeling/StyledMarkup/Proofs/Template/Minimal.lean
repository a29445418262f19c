import StyledMarkup.Proofs.Template.Classification

/-!
# Compiled sequences are minimal

Whatever list of tokens is compiled, read from a source or not, no node of a template could be left
out or put together with the next one, and none is missing (`compiled_minimal`). A flat template
keeps no color, code or link, and a template that is not fixed has something to look up. A flat
template without references is the text of its last node; it has no other nodes, so nothing gets
lost.
-/

namespace StyledMarkup

theorem Token.forall_query?_eq_none_iff {tokens : List Token} :
    (∀ token ∈ tokens, token.query? = none) ↔ ∀ body, .reference body ∉ tokens := by
  simp only [query?_eq_none_iff]
  constructor
  · intro h body hm
    exact h _ hm body rfl
  · rintro h token hm body rfl
    exact h body hm

theorem Node.isText_or_isBinding_flat (node : Node) :
    node.flat.isText = true ∨ node.flat.isBinding = true := by
  cases node <;> simp [flat, isText, isBinding]

namespace FlatBody

variable {tokens : List Token}

theorem isText_or_isBinding {node : Node} (h : node ∈ nodesOf tokens) :
    node.isText = true ∨ node.isBinding = true := by
  cases ht : node.isText with
  | true => exact .inl rfl
  | false =>
    obtain ⟨token, -, rfl⟩ := List.mem_map.1 (Node.mem_of_mem_foldr_push ht h)
    rw [← ht]
    exact token.node.isText_or_isBinding_flat

theorem eq_nodesOf_of_dynamic {nodes : List Node} (h : ofTokens tokens = dynamic nodes) :
    nodes = nodesOf tokens ∧ ∃ node ∈ nodes, node.isBinding = true := by
  obtain ⟨hbody, node, hm, ht⟩ | ⟨hbody, -⟩ | ⟨content, hbody, -⟩ := ofTokens_cases tokens
  · cases hbody.symm.trans h
    exact ⟨rfl, node, hm, (isText_or_isBinding hm).resolve_left (by simp [ht])⟩
  · cases hbody.symm.trans h
  · cases hbody.symm.trans h

/-- Without references there is one node at most, which has the text of all the tokens. -/
theorem ofTokens_eq_fixed (h : ∀ body, .reference body ∉ tokens) (answers : Answers) :
    (nodesOf tokens).length ≤ 1 ∧
      ofTokens tokens = fixed ((tokens.map Token.node).flatMap answers.textOf) := by
  have hfixed : (ofTokens tokens).isFixed = true :=
    (isFixed_iff tokens).2 (Token.forall_query?_eq_none_iff.2 h)
  have htexts := answers.flatMap_nodesOf tokens
  obtain ⟨hbody, -⟩ | ⟨hbody, hnodes⟩ | ⟨content, hbody, hnodes⟩ := ofTokens_cases tokens
  · rw [hbody] at hfixed
    cases hfixed
  · rw [← htexts, hbody, hnodes]
    exact ⟨Nat.zero_le 1, rfl⟩
  · rw [← htexts, hbody, hnodes, List.flatMap_singleton]
    exact ⟨Nat.le_refl 1, rfl⟩

end FlatBody

theorem StyledBody.eq_nodesOf_of_dynamic {tokens : List Token} {nodes : List Node}
    (h : ofTokens tokens = dynamic nodes) :
    nodes = nodesOf tokens ∧ ∃ node ∈ nodes, node.isBinding = true := by
  simp only [ofTokens] at h
  split at h
  · rename_i hany
    cases h
    exact ⟨rfl, List.any_eq_true.1 hany⟩
  · cases h

/-- Compiled sequences have no empty text and no two texts beside each other, something to look up
unless the template is fixed, and all that the tokens stand for; those of flat templates are of
texts and references alone. Without references a flat template is the text of all its tokens, and
with one neither template is fixed. -/
theorem compiled_minimal (tokens : List Token) :
    (∀ nodes, FlatBody.ofTokens tokens = .dynamic nodes → Node.Separate nodes ∧
      (∀ node ∈ nodes, node.isText = true ∨ node.isBinding = true) ∧
      (∃ node ∈ nodes, node.isBinding = true) ∧
      ∀ answers : Answers,
        nodes.flatMap answers.textOf = (tokens.map Token.node).flatMap answers.textOf) ∧
    (∀ nodes, StyledBody.ofTokens tokens = .dynamic nodes → Node.Separate nodes ∧
      (∃ node ∈ nodes, node.isBinding = true) ∧
      ∀ answers : Answers,
        answers.shown .plain nodes = answers.shown .plain (tokens.map Token.node)) ∧
    ((∀ body, .reference body ∉ tokens) → (FlatBody.nodesOf tokens).length ≤ 1 ∧
      ∀ answers : Answers, FlatBody.ofTokens tokens =
        .fixed ((tokens.map Token.node).flatMap answers.textOf)) ∧
    ∀ body, .reference body ∈ tokens →
      (FlatBody.ofTokens tokens).isFixed = false ∧ (StyledBody.ofTokens tokens).isFixed = false := by
  refine ⟨fun nodes h => ?_, fun nodes h => ?_, fun h => ?_, fun body hm => ?_⟩
  · obtain ⟨rfl, hbinding⟩ := FlatBody.eq_nodesOf_of_dynamic h
    exact ⟨Node.separate_foldr_push _, fun _ => FlatBody.isText_or_isBinding, hbinding,
      fun answers => answers.flatMap_nodesOf tokens⟩
  · obtain ⟨rfl, hbinding⟩ := StyledBody.eq_nodesOf_of_dynamic h
    exact ⟨Node.separate_foldr_push _, hbinding, fun answers => answers.shown_nodesOf .plain tokens⟩
  · have hlength := (FlatBody.ofTokens_eq_fixed h (Answers.always [])).1
    exact ⟨hlength, fun answers => (FlatBody.ofTokens_eq_fixed h answers).2⟩
  · have hsome : ¬ ∀ token ∈ tokens, token.query? = none := fun h =>
      Token.forall_query?_eq_none_iff.1 h body hm
    exact ⟨Bool.eq_false_iff.2 fun hf => hsome ((FlatBody.isFixed_iff tokens).1 hf),
      Bool.eq_false_iff.2 fun hf => hsome ((StyledBody.isFixed_iff tokens).1 hf)⟩

theorem compiled_minimal_odd :
    let plain : List Token := [.text [], .text "a".toList, .code 'z', .link [], .hex "12".toList,
      .text [], .code 'C', .link "u".toList]
    let nodes : List Node := [.text "a&z#12§cu".toList, .reference "n".toList, .text "b".toList]
    FlatBody.ofTokens plain = .fixed "a&z#12§cu".toList ∧
      FlatBody.ofTokens (plain ++ [.reference "n".toList, .text "b".toList, .text []]) =
        .dynamic nodes ∧
      Node.Separate nodes ∧ ∃ node ∈ nodes, node.isBinding = true := by
  intro plain nodes
  have hnone : ∀ body, Token.reference body ∉ plain := by
    intro body
    simp [plain]
  have hdynamic : FlatBody.ofTokens (plain ++ [.reference "n".toList, .text "b".toList,
      .text []]) = .dynamic nodes := by decide
  obtain ⟨-, hfixed⟩ := (compiled_minimal plain).2.2.1 hnone
  obtain ⟨hseparate, -, hbinding, -⟩ := (compiled_minimal _).1 nodes hdynamic
  exact ⟨hfixed (Answers.always []), hdynamic, hseparate, hbinding⟩

end StyledMarkup
