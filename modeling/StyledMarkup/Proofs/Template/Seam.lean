import StyledMarkup.Proofs.Markup.Seam
import StyledMarkup.Proofs.Template.Nesting
import StyledMarkup.Proofs.Template.Reading

/-!
# Rendering sources in a row

Where one source ends with a blank and has closed its braces, what is written for it and another one
is written for the two in turn (`writeNodes_append`). With lookups that put their texts at the end a
template of both renders to what the templates of each render to (`compile_append`). It is one
render and not two, but nothing that a lookup can do tells the difference
(`Activity.blind_bindings`).
-/

namespace StyledMarkup

variable {σ : Type}

namespace Activity

/-- No lookup can tell what stands in the buffer or in the log. -/
theorem blind_run (activity : Activity σ) (out : Text) : (activity.run out).Blind := by
  induction activity generalizing out with
  | answer bound => exact Render.blind_pure _
  | load next ih => exact (Render.blind_remember _).bind fun memory => ih memory out
  | store memory next ih => exact (Render.blind_remember _).bind fun _ => ih out
  | look next ih => exact ih out out
  | put text next ih => exact ih text
  | render body lookup next ihlookup ihnext =>
    refine (FlatBody.render_blind (fun query written => ?_) body).bind fun text => ihnext text out
    rw [Bindings.lookup_ofLookup]
    exact ihlookup query written

theorem blind_bindings (lookup : Query → Activity σ) : (bindings lookup).Blind := by
  intro query out
  rw [bindings, Bindings.lookup_ofLookup]
  exact blind_run _ out

end Activity

theorem Bindings.blind_ofDocument (document : Json) : (ofDocument (σ := σ) document).Blind := by
  rintro (name | call) out
  · simp only [lookup, ofDocument]
    cases document.atPath? name <;> exact Render.blind_pure _
  · exact Render.blind_pure _

namespace FlatBody

/-- Two texts that meet are written one after the other. -/
theorem writeNodes_joined (bindings : Bindings σ) (out : Text) (front behind : List Token) :
    writeNodes bindings out ((Token.joined front behind).map Token.node) = (do
      let written ← writeNodes bindings out (front.map Token.node)
      writeNodes bindings written (behind.map Token.node)) := by
  unfold Token.joined writeNodes
  split
  · rename_i before after rest hlast
    obtain ⟨tokens, rfl⟩ := List.getLast?_eq_some_iff.1 hlast
    have hnode : ∀ content, (Token.text content).node = .text content := fun _ => rfl
    simp only [List.dropLast_concat, List.map_append, List.map_cons, List.map_nil, hnode,
      List.foldlM_append, List.foldlM_cons, List.foldlM_nil, writeNode, bind_assoc, pure_bind,
      List.append_assoc]
  · rw [List.map_append, List.foldlM_append]

section Append

variable {source : Text} (hb : source.EndsBlank) (hc : ClosesBraces source)
include hb hc

theorem writeNodes_append (bindings : Bindings σ) (out more : Text) :
    writeNodes bindings out (nodesOf (tokenize (source ++ more))) = (do
      let written ← writeNodes bindings out (nodesOf (tokenize source))
      writeNodes bindings written (nodesOf (tokenize more))) := by
  simp only [writeNodes_nodesOf, tokenize_append hb hc, writeNodes_joined]

theorem concat_reading_append {bindings : Bindings σ} (h : bindings.Appends) (more : Text) :
    Render.concat (Token.reading bindings) (tokenize (source ++ more)) = (do
      let first ← Render.concat (Token.reading bindings) (tokenize source)
      let second ← Render.concat (Token.reading bindings) (tokenize more)
      return first ++ second) := by
  rw [← writeNodes_eq_concat h, writeNodes_append hb hc, writeNodes_eq_concat h]
  simp only [writeNodes_behind h]

end Append
end FlatBody

namespace Template

/-- A source that ends with a blank and has closed its braces may be compiled apart from what
follows it. The tokens are its own and those of what follows, with two texts that meet put together;
whatever the lookups do, the nodes of both write one after the other; and with lookups that put
their texts at the end, as all tables and documents do, a render gives the two renders in a row. -/
theorem compile_append {source : Text} (hb : source.EndsBlank) (hc : ClosesBraces source)
    (more : Text) : tokenize (source ++ more) = Token.joined (tokenize source) (tokenize more) ∧
    (∀ (bindings : Bindings σ) (out : Text),
      FlatBody.writeNodes bindings out (FlatBody.nodesOf (tokenize (source ++ more))) = do
        let written ← FlatBody.writeNodes bindings out (FlatBody.nodesOf (tokenize source))
        FlatBody.writeNodes bindings written (FlatBody.nodesOf (tokenize more))) ∧
    (∀ bindings : Bindings σ, bindings.Appends → bindings.Blind →
      Render.Alike ((compile (source ++ more)).render bindings) do
        let first ← (compile source).render bindings
        let second ← (compile more).render bindings
        return first ++ second) ∧
    (∀ table : Table Text, (Bindings.ofTable (σ := σ) table).Appends ∧
      (Bindings.ofTable (σ := σ) table).Blind) ∧
    (∀ document : Json, (Bindings.ofDocument (σ := σ) document).Appends ∧
      (Bindings.ofDocument (σ := σ) document).Blind) ∧
    (∀ vars : Variables σ, vars.bindings.Appends ∧ (vars.Acts → vars.bindings.Blind)) ∧
    (∀ lookup : Query → Activity σ, (Activity.bindings lookup).Blind) := by
  refine ⟨tokenize_append hb hc more, fun bindings out => FlatBody.writeNodes_append hb hc ..,
    fun bindings h hblind => ?_,
    fun table => ⟨Bindings.appends_ofTable table, Bindings.blind_ofTable table⟩,
    fun document => ⟨Bindings.appends_ofDocument document, Bindings.blind_ofDocument document⟩,
    fun vars => ⟨vars.appends_bindings, fun hacts => ?_⟩, Activity.blind_bindings⟩
  · have hrender := fun tokens => FlatBody.render_alike h hblind tokens
    refine (hrender (tokenize (source ++ more))).trans ?_
    rw [FlatBody.concat_reading_append hb hc h]
    refine (hrender _).symm.bind fun first => (hrender _).symm.bind fun second => ?_
    exact Render.blind_pure _
  · obtain ⟨lookup, hlookup⟩ := hacts.exists_bindings_eq
    rw [← hlookup]
    exact Activity.blind_bindings lookup

theorem compile_append_counted :
    let counter : Render Nat Text := Render.remember fun n => (Text.ofNat (n + 1), n + 1)
    let vars : Variables Nat := Variables.empty.setSupplied "n".toList counter
    let source := "&c&\x7b \x7bn\x7d, https://e.org/\x7bn\x7d # ".toList
    let more := "f80\x7d \x7bn\x7d&&\x7bn".toList
    let both := (compile (source ++ more)).render vars.bindings (Context.fresh 4)
    Text.EndsBlank source ∧ ClosesBraces source ∧ vars.bindings.Appends ∧ vars.bindings.Blind ∧
      tokenize (source ++ more) = [.code 'c', .text "\x7b ".toList, .reference "n".toList,
        .text ", ".toList, .link "https://e.org/\x7bn\x7d".toList, .text " # f80\x7d ".toList,
        .reference "n".toList, .text "&\x7bn".toList] ∧
      both.1 = "§c\x7b 5, https://e.org/\x7bn\x7d # f80\x7d 6&\x7bn".toList ∧ both.2.memory = 6 := by
  intro counter vars source more both
  have hb : Text.EndsBlank source := by decide +kernel
  have hc : ClosesBraces source := by decide +kernel
  obtain ⟨htokens, -, hrender, -, -, hvars, -⟩ := compile_append (σ := Nat) hb hc more
  have hcounter : (Activity.load fun n => .store (n + 1)
      (.put (Text.ofNat (n + 1)) (.answer true))).text = counter := rfl
  have hacts : vars.Acts := by
    refine ⟨fun name supplier h => ⟨_, hcounter.trans ?_⟩, fun name function h => ?_⟩
    · have hget : vars.values.get? name =
          if name = "n".toList then some (.supplied counter) else none := Table.get?_insert ..
      rw [hget] at h
      split at h
      · cases h
        rfl
      · cases h
    · cases h
  obtain ⟨happends, hblind⟩ := hvars vars
  obtain ⟨hresult, hmemory⟩ :=
    hrender vars.bindings happends (hblind hacts) (Context.fresh 4) (Context.fresh 4) rfl
  refine ⟨hb, hc, happends, hblind hacts, htokens.trans ?_, hresult.trans ?_, hmemory.trans ?_⟩
  · decide +kernel
  · decide +kernel
  · decide +kernel

end Template
end StyledMarkup
