import StyledMarkup.Proofs.Json.Following
import StyledMarkup.Proofs.Lookup.Tables

/-!
# Documents as lookups

A document binds names in two ways: as a lookup that follows a name from part to part, and as a
table with a text for every part that was recorded. With plain names the two agree, except that the
table passes over what is null (`Variables.ofDocument_agrees`).
-/

namespace StyledMarkup

variable {σ : Type}

namespace Variables

open Json

theorem get?_ofDocument (document : Json) (name : Text) :
    (ofDocument (σ := σ) document).get? name = (document.flatten.get? name).map .text := by
  have h := get?_setAll (empty : Variables σ) document.flatten name
  rw [empty, Table.get?_empty, Option.or_none] at h
  exact h

/-- A document as a lookup and the table of its parts agree. Where the name leads to a part that is
not null both bind it to the same text, where it leads to null the document writes nothing and the
table does not bind it, and where it leads nowhere neither binds it. -/
theorem ofDocument_agrees {document : Json} (hord : Ordered document)
    (hroot : document.isContainer = true) (hcount : Countable document)
    (hnamed : PlainlyNamed document) {name : Text}
    (hname : ∀ part ∈ Text.splitAt '.' name, ¬ part.StartsOddly) (out : Text) :
    let table : Variables σ := .ofDocument document
    let lookup : Bindings σ := .ofDocument document
    (∀ part, document.atPath? name = some part → part ≠ .null →
      table.get? name = some (.text part.content) ∧
      lookup.variableText name out = pure (.found (out ++ part.content)) ∧
      table.bindings.variableText name out = pure (.found (out ++ part.content))) ∧
    (document.atPath? name = some .null → table.get? name = none ∧
      lookup.variableText name out = pure (.found out) ∧
      table.bindings.variableText name out = pure (.unbound out)) ∧
    (document.atPath? name = none → table.get? name = none ∧
      lookup.variableText name out = pure (.unbound out) ∧
      table.bindings.variableText name out = pure (.unbound out)) := by
  intro table lookup
  have hget : ∀ content, document.flatten.get? name = some content ↔
      ∃ part, document.atPath? name = some part ∧ part ≠ .null ∧ part.content = content :=
    fun content => get?_flatten_iff_atPath? hord hcount hnamed hname hroot
  have hunbound : (∀ part, document.atPath? name = some part → part = .null) →
      table.get? name = none ∧ table.bindings.variableText name out = pure (.unbound out) := by
    intro hnull
    have hnone : document.flatten.get? name = none := by
      refine Option.eq_none_iff_forall_ne_some.2 fun content hc => ?_
      obtain ⟨part, hpart, hne, -⟩ := (hget content).1 hc
      exact hne (hnull part hpart)
    have htable : table.values.get? name = none := by
      rw [← get?, get?_ofDocument, hnone, Option.map_none]
    exact ⟨htable, by simp [bindings, htable]⟩
  refine ⟨fun part hpart hne => ?_, fun hnull => ?_, fun hnone => ?_⟩
  · have htable : table.values.get? name = some (.text part.content) := by
      rw [← get?, get?_ofDocument, (hget _).2 ⟨part, hpart, hne, rfl⟩, Option.map_some]
    refine ⟨htable, ?_, ?_⟩
    · simp [lookup, Bindings.ofDocument, hpart]
    · simp [bindings, htable, Value.resolve]
  · obtain ⟨htable, hbindings⟩ := hunbound fun part hpart => by simp_all
    refine ⟨htable, ?_, hbindings⟩
    simp [lookup, Bindings.ofDocument, hnull, content]
  · obtain ⟨htable, hbindings⟩ := hunbound fun part hpart => by simp_all
    refine ⟨htable, ?_, hbindings⟩
    simp [lookup, Bindings.ofDocument, hnone]

theorem ofDocument_agrees_mixed :
    let document : Json := .object [("a".toList, .list [.object [("b".toList, .null)],
      .text "x".toList]), ("c".toList, .int 7)]
    let table : Variables Unit := .ofDocument document
    let lookup : Bindings Unit := .ofDocument document
    Ordered document ∧ Countable document ∧ PlainlyNamed document ∧
      (table.get? "a.1".toList = some (.text "x".toList) ∧
        lookup.variableText "a.1".toList [] = table.bindings.variableText "a.1".toList []) ∧
      (table.get? "a.0.b".toList = none ∧
        lookup.variableText "a.0.b".toList ['!'] = pure (.found ['!'])) ∧
      table.get? "a.18446744073709551616".toList = none := by
  intro document table lookup
  have hwalk : ∀ {path part}, Leads document path part → (path, part) ∈ walk document :=
    (mem_walk document).2
  have hord : Ordered document := by
    refine .object (by unfold Entries.Ascending; simp only [List.pairwise_cons]; decide) ?_
    simp only [List.forall_mem_cons]
    refine ⟨.list ?_, .scalar rfl, by simp⟩
    simp only [List.forall_mem_cons]
    refine ⟨.object (List.pairwise_singleton _ _) ?_, .scalar rfl, by simp⟩
    simp only [List.forall_mem_cons]
    exact ⟨.scalar rfl, by simp⟩
  have hcount : Countable document := by
    intro path items hl
    have hm : path = [.field ['a']] ∧ items = [.object [(['b'], .null)], .text ['x']] := by
      simpa [document, walk, walkFields, walkItems, under] using hwalk hl
    simp [hm, Text.countLimit]
  have hnamed : PlainlyNamed document := by
    intro path fields hl
    have hm : path = [] ∧ fields = [(['a'], .list [.object [(['b'], .null)], .text ['x']]),
          (['c'], .int 7)] ∨
        path = [.field ['a'], .item 0] ∧ fields = [(['b'], .null)] := by
      simpa [document, walk, walkFields, walkItems, under] using hwalk hl
    rcases hm with ⟨-, rfl⟩ | ⟨-, rfl⟩
    · simp
    · simp
  have hfound : document.atPath? "a.1".toList = some (.text "x".toList) := rfl
  have hnull : document.atPath? "a.0.b".toList = some .null := rfl
  have hnone : document.atPath? "a.18446744073709551616".toList = none := rfl
  have hone := (ofDocument_agrees (σ := Unit) hord rfl hcount hnamed (by decide) []).1 _ hfound
    Json.noConfusion
  refine ⟨hord, hcount, hnamed, ⟨hone.1, hone.2.1.trans hone.2.2.symm⟩, ?_, ?_⟩
  · obtain ⟨hget, hwrite, -⟩ :=
      (ofDocument_agrees (σ := Unit) hord rfl hcount hnamed (by decide) ['!']).2.1 hnull
    exact ⟨hget, hwrite⟩
  · exact ((ofDocument_agrees (σ := Unit) hord rfl hcount hnamed (by decide) []).2.2 hnone).1

end Variables
end StyledMarkup
