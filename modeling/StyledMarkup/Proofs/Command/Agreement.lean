import StyledMarkup.Command.Run
import StyledMarkup.Proofs.Lookup.Tables
import StyledMarkup.Proofs.Template.Answers

/-!
# Text and segments agree

The flat text of a source and its segments with section signs are made in different ways: the one
has its codes written in when the template is compiled, the other has the differences between the
styles of its segments. A client that keeps the formats at a color code reads the same characters
in the same styles from both, namely those of the segments (`render_agrees`).

A command binds values and the standard functions, so its lookups answer with fixed texts
(`answersOf`) for all but the functions that make segments.
-/

namespace StyledMarkup
namespace Command

open Output

/-- What values and the standard functions that give text answer. -/
def answersOf (values : Table Text) : Answers where
  ofName := values.get?
  ofCall name args := (Entries.find? name Standard.textFunctions).map fun f => f args

/-- Whether the source calls none of the functions that make segments. -/
def CallsTextOnly (source : Text) : Prop :=
  ∀ body call, .reference body ∈ tokenize source → Call.parse body = .ok call →
    call.name ∉ Standard.segmentFunctions.map Prod.fst

variable {σ : Type} (values : Table Text)

theorem bindings_setAll :
    (Variables.standard.setAll values.entries).bindings = (answersOf values).bindings (σ := σ) := by
  unfold Variables.bindings Answers.bindings
  congr 1
  · funext name out
    rw [Variables.get?_setAll]
    cases h : values.get? name with
    | none => simp [answersOf, h, Variables.standard]
    | some content =>
      simp [answersOf, h]
      rfl
  · funext name args out
    rw [Variables.functions_setAll, Variables.standard_get?]
    cases h : Entries.find? name Standard.textFunctions with
    | none => simp [answersOf, h]
    | some f => simp [answersOf, h]

theorem lookup_setAll : (StyledVariables.empty.setAll values.entries).lookup =
    (answersOf values).variableLookup (σ := σ) := by
  funext name segment
  unfold StyledVariables.lookup Answers.variableLookup
  rw [StyledVariables.get?_setAll]
  cases h : values.get? name with
  | none => simp [answersOf, h, StyledVariables.empty]
  | some content =>
    simp [answersOf, h]
    rfl

theorem standard_lookup {name : Text} (h : name ∉ Standard.segmentFunctions.map Prod.fst)
    (args : List Text) (segment : Segment) :
    (StyledFunctions.standard (σ := σ)).lookup name args segment =
      (answersOf values).functionLookup name args segment := by
  unfold StyledFunctions.lookup Answers.functionLookup
  rw [StyledFunctions.standard_get? h]
  cases hf : Entries.find? name Standard.textFunctions with
  | none => simp [answersOf, hf]
  | some f =>
    simp [answersOf, hf]
    rfl

theorem renderText_eq (source : Text) : renderText source values =
    ((tokenize source).map Token.node).flatMap (answersOf values).textOf := by
  simp only [renderText, bindings_setAll]
  exact (answersOf values).fst_render_ofTokens (tokenize source) (Context.fresh ())

theorem not_mem_segmentFunctions {source : Text} (hcalls : CallsTextOnly source) {call : Call}
    (h : .call call ∈ (tokenize source).map Token.node) :
    call.name ∉ Standard.segmentFunctions.map Prod.fst := by
  obtain ⟨token, ht, hn⟩ := List.mem_map.1 h
  obtain ⟨body, rfl, hb⟩ := Token.eq_reference_of_node hn
  exact hcalls body call ht hb

theorem styledChars_renderSegments {source : Text} (hcalls : CallsTextOnly source) :
    styledChars (renderSegments source values) =
      (answersOf values).shown .plain ((tokenize source).map Token.node) := by
  simp only [renderSegments, lookup_setAll]
  exact (answersOf values).styledChars_render
    (fun call hc => standard_lookup values (not_mem_segmentFunctions hcalls hc) call.args)
    (Context.fresh ())

/-- Without calls that make segments, and without section signs in the pieces of text that are
rendered, a client that keeps the formats at a color code reads the same characters in the same
styles from the flat text and from the segments with section signs: those of the segments. -/
theorem render_agrees {source : Text} (hcalls : CallsTextOnly source)
    (hsigns : ∀ segment ∈ renderSegments source values, sectionSign ∉ segment.text)
    (withColors : Bool) :
    Client.read .keepsFormats {} (render source values .text withColors) =
        styledChars (renderSegments source values) ∧
      Client.read .keepsFormats {} (render source values .sections withColors) =
        styledChars (renderSegments source values) := by
  have hchars := ne_sectionSign_of_mem_styledChars hsigns
  refine ⟨?_, ?_⟩
  · rw [styledChars_renderSegments values hcalls] at hchars ⊢
    show Client.read .keepsFormats {} (renderText source values) = _
    rw [renderText_eq]
    exact (answersOf values).read_flatMap .plain hchars
  · show Client.read .keepsFormats {} (sections (renderSegments source values)) = _
    rw [sections_eq_encode]
    exact read_encode .plain hchars

theorem render_agrees_red_green :
    let source := "&c&lHi \x7bn\x7d#0f0\x7bupper(x)\x7d".toList
    let values : Table Text := .ofList [("n".toList, "Bo".toList)]
    let red : Style := { color := some (.named .red), bold := true }
    let green : Style := { color := some (.rgb ⟨0x00, 0xff, 0x00⟩), bold := true }
    Client.read .keepsFormats {} (render source values .text false) =
        [('H', red), ('i', red), (' ', red), ('B', red), ('o', red), ('X', green)] ∧
      Client.read .keepsFormats {} (render source values .sections false) =
        [('H', red), ('i', red), (' ', red), ('B', red), ('o', red), ('X', green)] := by
  intro source values red green
  have htokens : tokenize source = [.code 'c', .code 'l', .text "Hi ".toList,
      .reference "n".toList, .hex "00ff00".toList, .reference "upper(x)".toList] := by
    decide +kernel
  have hchars : styledChars (renderSegments source values) =
      [('H', red), ('i', red), (' ', red), ('B', red), ('o', red), ('X', green)] := by
    decide +kernel
  rw [← hchars]
  refine render_agrees values (fun body call hb hc => ?_) (by decide +kernel) false
  have hname : call.name = "upper".toList := by
    rw [htokens] at hb
    simp only [List.mem_cons, reduceCtorEq, Token.reference.injEq, List.not_mem_nil, false_or,
      or_false] at hb
    rcases hb with rfl | rfl
    · cases hc
    · cases hc
      rfl
  rw [hname]
  decide

end Command
end StyledMarkup
