import StyledMarkup.Proofs.Lookup.Contract

/-!
# Reading tokens one by one

A flat template is compiled before it is rendered: its tokens become nodes, neighbouring texts are
merged, and without references one text is left. None of this shows in a render
(`render_eq_concat`), which writes what each token reads as (`Token.reading`) in the order of the
tokens, and makes its lookups in this order (`render_recording`), so also the calls of suppliers and
functions (`render_recording_variables`).
-/

namespace StyledMarkup

variable {σ : Type}

namespace Token

/-- What is written for a token: a text and a link are themselves, a code and a color are written
with section signs if they are any, a reference as what it is bound to, as it is, and whatever
stands for nothing as it stands in a source. -/
def reading (bindings : Bindings σ) : Token → Render σ Text
  | text content => pure content
  | link address => pure address
  | code symbol =>
    match ShortCode.ofChar? symbol with
    | some meaning => pure [sectionSign, meaning.symbol]
    | none => pure ['&', symbol]
  | hex digits =>
    match Rgb.ofHex? digits with
    | some color => pure (sectionSign :: 'x' :: color.hexDigits.flatMap fun c => [sectionSign, c])
    | none => pure ('#' :: digits)
  | reference body =>
    match Call.parse body with
    | .ok call => do
      return (← bindings.textOf (.call call)).getD
        ('{' :: call.name ++ '(' :: Text.join [','] call.args ++ [')', '}'])
    | .error _ => do return (← bindings.textOf (.name body)).getD ('{' :: body ++ ['}'])

/-- What is asked for a token. -/
def query? : Token → Option Query
  | reference body =>
    match Call.parse body with
    | .ok call => some (.call call)
    | .error _ => some (.name body)
  | _ => none

/-- A token is read as a fixed text, the one that its node in a flat template is, or by a query,
the one that its node asks. -/
theorem reading_cases (token : Token) :
    (∃ content, token.query? = none ∧ token.node.flat = .text content ∧
      ∀ {σ : Type} (bindings : Bindings σ), token.reading bindings = pure content) ∨
    ∃ query, token.query? = some query ∧ token.node = query.node ∧
      ∀ {σ : Type} (bindings : Bindings σ), token.reading bindings =
        do return (← bindings.textOf query).getD query.placeholder := by
  cases token with
  | text content => exact .inl ⟨content, rfl, rfl, fun _ => rfl⟩
  | link address => exact .inl ⟨address, rfl, rfl, fun _ => rfl⟩
  | code symbol =>
    left
    simp only [node, resolve, reading]
    cases ShortCode.ofChar? symbol with
    | none => exact ⟨_, rfl, rfl, fun _ => rfl⟩
    | some meaning => exact ⟨_, rfl, rfl, fun _ => rfl⟩
  | hex digits =>
    left
    simp only [node, resolve, reading]
    cases Rgb.ofHex? digits with
    | none => exact ⟨_, rfl, rfl, fun _ => rfl⟩
    | some color => exact ⟨_, rfl, rfl, fun _ => rfl⟩
  | reference body =>
    right
    simp only [query?, node_reference, reading]
    cases Call.parse body with
    | ok call =>
      refine ⟨.call call, rfl, rfl, fun bindings => ?_⟩
      simp [Query.placeholder, Node.callPlaceholder, Call.toText]
    | error failure => exact ⟨.name body, rfl, rfl, fun _ => rfl⟩

theorem writeNode_node {bindings : Bindings σ} (h : bindings.Appends) (out : Text)
    (token : Token) : FlatBody.writeNode bindings out token.node =
      do return out ++ (← token.reading bindings) := by
  obtain ⟨content, -, hn, hr⟩ | ⟨query, -, hn, hr⟩ := token.reading_cases
  · rw [← FlatBody.writeNode_flat, hn, hr]
    rfl
  · have hadd : ∀ content, (if (Answer.adding out content).bound
          then (Answer.adding out content).result
          else (Answer.adding out content).result ++ query.placeholder) =
        out ++ content.getD query.placeholder := by
      rintro (_ | content) <;> rfl
    rw [hn, hr, FlatBody.writeNode_query, h]
    simp only [bind_assoc, pure_bind, hadd]

/-- If lookups note what each query asks for, a reading notes what the query of its token asks
for. -/
theorem reading_recorded {bindings : Bindings σ} {recorder : Bindings (σ × List Query)}
    {asked : Query → List Query} (h : ∀ query,
      recorder.textOf query = Render.recorded (asked query) (bindings.textOf query))
    (token : Token) : token.reading recorder =
      Render.recorded (token.query?.toList.flatMap asked) (token.reading bindings) := by
  obtain ⟨content, hq, -, hr⟩ | ⟨query, hq, -, hr⟩ := token.reading_cases
  · rw [hr, hr, hq]
    exact (Render.recorded_pure content).symm
  · rw [hr, hr, hq, h, Render.recorded_map, Option.toList_some, List.flatMap_singleton]

theorem concat_reading_recorded {bindings : Bindings σ} {recorder : Bindings (σ × List Query)}
    {asked : Query → List Query} (h : ∀ query,
      recorder.textOf query = Render.recorded (asked query) (bindings.textOf query))
    (tokens : List Token) : Render.concat (reading recorder) tokens =
      Render.recorded ((tokens.filterMap query?).flatMap asked)
        (Render.concat (reading bindings) tokens) := by
  rw [List.filterMap_eq_flatMap_toList, List.flatMap_assoc, ← Render.concat_recorded]
  exact Render.concat_congr fun token _ => token.reading_recorded h

theorem reading_blind {bindings : Bindings σ} (h : bindings.Blind) (token : Token) :
    (token.reading bindings).Blind := by
  obtain ⟨content, -, -, hr⟩ | ⟨query, -, -, hr⟩ := token.reading_cases
  · rw [hr]
    exact Render.blind_pure content
  · rw [hr]
    exact (h.textOf query).bind fun _ => Render.blind_pure _

end Token

/-- The suppliers and functions that are called for tokens, in order. -/
def Variables.callsFor (vars : Variables σ) (tokens : List Token) : List Query :=
  (tokens.filterMap Token.query?).filter vars.calls

namespace FlatBody

theorem writeNodes_behind {bindings : Bindings σ} (h : bindings.Appends) (out : Text)
    (tokens : List Token) : writeNodes bindings out (nodesOf tokens) =
      do return out ++ (← Render.concat (Token.reading bindings) tokens) := by
  rw [writeNodes_nodesOf, writeNodes, List.foldlM_map,
    Render.foldlM_append fun out token => Token.writeNode_node h out token]

theorem writeNodes_eq_concat {bindings : Bindings σ} (h : bindings.Appends)
    (tokens : List Token) : writeNodes bindings [] (nodesOf tokens) =
      Render.concat (Token.reading bindings) tokens := by
  rw [writeNodes_behind h]
  simp only [List.nil_append, bind_pure]

/-- A flat render writes the readings of the tokens, and needs the buffer only if it looks
something up. -/
theorem render_eq_concat {bindings : Bindings σ} (h : bindings.Appends) (tokens : List Token) :
    (ofTokens tokens).render bindings =
      if (ofTokens tokens).isFixed then Render.concat (Token.reading bindings) tokens
      else Render.borrowing (Render.concat (Token.reading bindings) tokens) := by
  have hwrite := writeNodes_eq_concat h tokens
  obtain ⟨hbody, -⟩ | ⟨hbody, hnodes⟩ | ⟨content, hbody, hnodes⟩ := ofTokens_cases tokens
  · rw [hbody, ← hwrite]
    rfl
  · rw [hbody, ← hwrite, hnodes]
    rfl
  · rw [hbody, ← hwrite, hnodes]
    rfl

/-- A template is fixed if and only if its tokens ask for nothing. -/
theorem isFixed_iff (tokens : List Token) :
    (ofTokens tokens).isFixed = true ↔ ∀ token ∈ tokens, token.query? = none := by
  constructor
  · intro hfixed token hm
    obtain ⟨content, hq, -, -⟩ | ⟨query, -, hn, -⟩ := token.reading_cases
    · exact hq
    · exfalso
      have htext : token.node.flat.isText = false := by
        rw [hn]
        cases query <;> rfl
      have hmem : token.node.flat ∈ nodesOf tokens :=
        Node.mem_foldr_push htext (List.mem_map_of_mem hm)
      obtain ⟨hbody, -⟩ | ⟨-, hnodes⟩ | ⟨content, -, hnodes⟩ := ofTokens_cases tokens
      · rw [hbody] at hfixed
        cases hfixed
      · rw [hnodes] at hmem
        cases hmem
      · rw [hnodes, List.mem_singleton] at hmem
        rw [hmem] at htext
        cases htext
  · intro hnone
    obtain ⟨-, node, hm, ht⟩ | ⟨hbody, -⟩ | ⟨content, hbody, -⟩ := ofTokens_cases tokens
    · obtain ⟨token, hmem, rfl⟩ := List.mem_map.1 (Node.mem_of_mem_foldr_push ht hm)
      obtain ⟨content, -, hn, -⟩ | ⟨query, hq, -, -⟩ := token.reading_cases
      · rw [hn] at ht
        cases ht
      · rw [hnone token hmem] at hq
        cases hq
    · rw [hbody]
      rfl
    · rw [hbody]
      rfl

/-- But for the buffer a flat render is the readings of the tokens in order. -/
theorem render_alike {bindings : Bindings σ} (h : bindings.Appends) (hb : bindings.Blind)
    (tokens : List Token) : Render.Alike ((ofTokens tokens).render bindings)
      (Render.concat (Token.reading bindings) tokens) := by
  have hread : (Render.concat (Token.reading bindings) tokens).Blind :=
    .concat (Token.reading_blind hb) tokens
  rw [render_eq_concat h]
  split
  · exact hread
  · exact hread.borrowing

theorem render_recorded {bindings : Bindings σ} {recorder : Bindings (σ × List Query)}
    {asked : Query → List Query} (h : bindings.Appends) (hrecorder : recorder.Appends)
    (hasked : ∀ query,
      recorder.textOf query = Render.recorded (asked query) (bindings.textOf query))
    (tokens : List Token) : (ofTokens tokens).render recorder =
      Render.recorded ((tokens.filterMap Token.query?).flatMap asked)
        ((ofTokens tokens).render bindings) := by
  rw [render_eq_concat hrecorder, render_eq_concat h, Token.concat_reading_recorded hasked]
  split
  · rfl
  · exact Render.recorded_borrowing _ _

/-- A render makes one lookup for each reference, in order. -/
theorem render_recording {bindings : Bindings σ} (h : bindings.Appends) (tokens : List Token) :
    (ofTokens tokens).render bindings.recording =
      Render.recorded (tokens.filterMap Token.query?) ((ofTokens tokens).render bindings) := by
  rw [render_recorded h h.recording Bindings.textOf_recording, List.flatMap_singleton']

/-- Each supplier and each function behind a reference is called once, in the order of the
references. -/
theorem render_recording_variables (vars : Variables σ) (tokens : List Token) :
    (ofTokens tokens).render vars.recording.bindings =
      Render.recorded (vars.callsFor tokens) ((ofTokens tokens).render vars.bindings) := by
  rw [render_recorded vars.appends_bindings vars.recording.appends_bindings vars.textOf_recording,
    ← List.filter_flatMap, List.flatMap_singleton', Variables.callsFor]

/-- Compiling keeps the meaning of tokens. With lookups that put their texts at the end, as all
tables and documents do, a render gives what the tokens read as, one after another. Each supplier
and each function of a table that stands behind a reference is called once on every render, in the
order of the references, and a fixed template makes no lookup at all. -/
theorem render_keeps_meaning (tokens : List Token) :
    (∀ bindings : Bindings σ, bindings.Appends → (ofTokens tokens).render bindings =
      if (ofTokens tokens).isFixed then Render.concat (Token.reading bindings) tokens
      else Render.borrowing (Render.concat (Token.reading bindings) tokens)) ∧
    (∀ vars : Variables σ, vars.bindings.Appends) ∧
    (∀ table : Table Text, (Bindings.ofTable (σ := σ) table).Appends) ∧
    (∀ document : Json, (Bindings.ofDocument (σ := σ) document).Appends) ∧
    (∀ vars : Variables σ, (ofTokens tokens).render vars.recording.bindings =
      Render.recorded (vars.callsFor tokens) ((ofTokens tokens).render vars.bindings)) ∧
    ((ofTokens tokens).isFixed = true → (∀ token ∈ tokens, token.query? = none) ∧
      ∃ content, ∀ bindings : Bindings σ, (ofTokens tokens).render bindings = pure content) := by
  refine ⟨fun bindings h => render_eq_concat h tokens, Variables.appends_bindings,
    Bindings.appends_ofTable, Bindings.appends_ofDocument,
    fun vars => render_recording_variables vars tokens, fun hfixed => ?_⟩
  refine ⟨(isFixed_iff tokens).1 hfixed, ?_⟩
  cases hbody : ofTokens tokens with
  | fixed content => exact ⟨content, fun _ => rfl⟩
  | dynamic nodes =>
    rw [hbody] at hfixed
    cases hfixed

theorem render_keeps_meaning_counted :
    let counter : Render Nat Text := Render.remember fun n => (Text.ofNat (n + 1), n + 1)
    let vars : Variables Nat := (Variables.empty.setSupplied "n".toList counter).setFunction
      "f".toList fun args => pure (Text.join ['|'] args)
    let tokens : List Token := [.text "a".toList, .reference "n".toList, .code 'C', .text [],
      .code 'z', .hex "#F80".toList, .hex "12".toList, .reference "f(1, \x7bn\x7d)".toList,
      .reference "n".toList, .reference "g(1)".toList, .link "https://e.org".toList]
    let rendered := (ofTokens tokens).render vars.bindings (Context.fresh 4)
    vars.bindings.Appends ∧
      rendered.1 = "a5§c&z§x§f§f§8§8§0§0#121|\x7bn\x7d6\x7bg(1)\x7dhttps://e.org".toList ∧
      rendered.2.memory = 6 := by
  intro counter vars tokens rendered
  have hrendered : rendered = Render.borrowing
      (Render.concat (Token.reading vars.bindings) tokens) (Context.fresh 4) :=
    congrFun ((render_keeps_meaning tokens).1 vars.bindings vars.appends_bindings) _
  refine ⟨vars.appends_bindings, ?_, ?_⟩
  · rw [hrendered]
    decide +kernel
  · rw [hrendered]
    decide +kernel

end FlatBody
end StyledMarkup
