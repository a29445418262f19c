import StyledMarkup.Proofs.Lookup.Contract

/-!
# What lookups change

A renderer hands the text written so far, or a segment, to a lookup and cannot repair what the
lookup does to it. At each query the lookups of this library are of two kinds
(`FlatLookup.lookup_cases`, `StyledLookup.lookup_cases`): one that binds nothing does nothing at
all, and one that binds puts a text at the end of the output, or makes its change to the segment.
So an answer of not bound comes with everything as it was and with no call of a supplier or a
function (`lookups_keep_contract`).

Texts, suppliers, functions that give text and the standard functions go easy on a segment: they put
a text at its end, and at most set its click or its hover (`Segment.Extends`).
-/

namespace StyledMarkup

variable {σ : Type}

/-! ## Segments with more at their end -/

/-- Whether a segment is another one with more text at its end and with at most its click or its
hover set. -/
structure Segment.Extends (segment given : Segment) : Prop where
  text : ∃ more, segment.text = given.text ++ more
  style : segment.style = given.style
  insertion : segment.insertion = given.insertion
  interactions : segment.click = given.click ∧ segment.hover = given.hover ∨
    (∃ action, segment.click = some action) ∧ segment.hover = given.hover ∨
    segment.click = given.click ∧ ∃ tip, segment.hover = some tip

theorem Segment.extends_append (segment : Segment) (more : Text) :
    (segment.append more).Extends segment :=
  ⟨⟨more, rfl⟩, rfl, rfl, .inl ⟨rfl, rfl⟩⟩

namespace Standard

theorem extends_clickable (kind : ClickKind) (args : List Text) (segment : Segment) :
    (clickable kind args segment).Extends segment :=
  ⟨⟨shownText args, rfl⟩, rfl, rfl, .inr (.inl ⟨⟨_, rfl⟩, rfl⟩)⟩

theorem extends_hovering (args : List Text) (segment : Segment) :
    (hovering args segment).Extends segment :=
  ⟨⟨shownText args, rfl⟩, rfl, rfl, .inr (.inr ⟨rfl, _, rfl⟩)⟩

theorem extends_segmentFunctions {entry : Text × (List Text → Segment → Segment)}
    (h : entry ∈ segmentFunctions) (args : List Text) (segment : Segment) :
    (entry.2 args segment).Extends segment := by
  simp only [segmentFunctions, List.mem_cons, List.not_mem_nil, or_false] at h
  rcases h with rfl | rfl | rfl | rfl | rfl
  · exact extends_clickable .openUrl args segment
  · exact extends_clickable .runCommand args segment
  · exact extends_clickable .suggestCommand args segment
  · exact extends_clickable .copyToClipboard args segment
  · exact extends_hovering args segment

/-- The names of the standard functions. -/
def names : List Text :=
  textFunctions.map Prod.fst ++ segmentFunctions.map Prod.fst

end Standard

/-! ## Flat lookups -/

/-- The flat lookups of this library. -/
inductive FlatLookup (σ : Type) where
  | table (vars : Variables σ)
  | texts (entries : Table Text)
  | document (document : Json)

namespace FlatLookup

/-- The lookup itself. -/
def bindings : FlatLookup σ → Bindings σ
  | table vars => vars.bindings
  | texts entries => .ofTable entries
  | document d => .ofDocument d

/-- The lookup with a record of the suppliers and the functions that are called. -/
def recording : FlatLookup σ → FlatLookup (σ × List Query)
  | table vars => table vars.recording
  | texts entries => texts entries
  | document d => document d

/-- Whether a supplier or a function is called for the query. -/
def calls : FlatLookup σ → Query → Bool
  | table vars, query => vars.calls query
  | _, _ => false

theorem appends (flat : FlatLookup σ) : flat.bindings.Appends := by
  cases flat with
  | table vars => exact vars.appends_bindings
  | texts entries => exact Bindings.appends_ofTable entries
  | document d => exact Bindings.appends_ofDocument d

/-- A query finds nothing and nothing is done, or there is something that gives its text. -/
theorem textOf_cases (flat : FlatLookup σ) (query : Query) :
    (flat.calls query = false ∧ flat.bindings.textOf query = pure none) ∨
      ∃ produce : Render σ Text, flat.bindings.textOf query = do return some (← produce) := by
  cases flat with
  | table vars =>
    cases query with
    | name name =>
      have htext := vars.textOf_name name
      cases h : vars.values.get? name with
      | none =>
        rw [h] at htext
        exact .inl ⟨by simp [calls, Variables.calls, h], htext⟩
      | some value =>
        rw [h] at htext
        exact .inr ⟨value.resolve, htext⟩
    | call call =>
      have htext := vars.textOf_call call
      cases h : vars.functions.get? call.name with
      | none =>
        rw [h] at htext
        exact .inl ⟨by simp [calls, Variables.calls, Variables.hasFunction, Table.contains, h],
          htext⟩
      | some function =>
        rw [h] at htext
        exact .inr ⟨function call.args, htext⟩
  | texts entries =>
    cases query with
    | name name =>
      simp only [bindings, Bindings.textOf, Bindings.lookup, Bindings.ofTable]
      cases entries.get? name with
      | none => exact .inl ⟨rfl, rfl⟩
      | some content => exact .inr ⟨pure content, rfl⟩
    | call call => exact .inl ⟨rfl, rfl⟩
  | document d =>
    cases query with
    | name name =>
      simp only [bindings, Bindings.textOf, Bindings.lookup, Bindings.ofDocument]
      cases d.atPath? name with
      | none => exact .inl ⟨rfl, rfl⟩
      | some part => exact .inr ⟨pure part.content, rfl⟩
    | call call => exact .inl ⟨rfl, rfl⟩

/-- A lookup binds nothing and does nothing, or puts a text at the end of the output. -/
theorem lookup_cases (flat : FlatLookup σ) (query : Query) :
    (flat.calls query = false ∧ ∀ out, flat.bindings.lookup query out = pure (.unbound out)) ∨
      ∃ produce : Render σ Text, ∀ out,
        flat.bindings.lookup query out = do return .found (out ++ (← produce)) := by
  obtain ⟨hcalls, htext⟩ | ⟨produce, htext⟩ := flat.textOf_cases query
  · refine .inl ⟨hcalls, fun out => ?_⟩
    rw [flat.appends query out, htext]
    rfl
  · refine .inr ⟨produce, fun out => ?_⟩
    rw [flat.appends query out, htext]
    rfl

theorem eq_unbound {flat : FlatLookup σ} {query : Query} {out : Text} {context : Context σ}
    (h : (flat.bindings.lookup query out context).1.bound = false) :
    flat.bindings.lookup query out context = (.unbound out, context) ∧
      flat.calls query = false := by
  obtain ⟨hcalls, hlookup⟩ | ⟨produce, hlookup⟩ := flat.lookup_cases query
  · exact ⟨congrFun (hlookup out) context, hcalls⟩
  · rw [hlookup] at h
    cases h

theorem eq_found {flat : FlatLookup σ} {query : Query} {out : Text} {context : Context σ}
    (h : (flat.bindings.lookup query out context).1.bound = true) :
    ∃ more, ∀ other, flat.bindings.lookup query other context =
      (.found (other ++ more), (flat.bindings.lookup query out context).2) := by
  obtain ⟨-, hlookup⟩ | ⟨produce, hlookup⟩ := flat.lookup_cases query
  · rw [hlookup] at h
    cases h
  · refine ⟨(produce context).1, fun other => ?_⟩
    rw [hlookup, hlookup]
    rfl

theorem textOf_recording (flat : FlatLookup σ) (query : Query) :
    flat.recording.bindings.textOf query =
      Render.recorded ([query].filter flat.calls) (flat.bindings.textOf query) := by
  cases flat with
  | table vars => exact vars.textOf_recording query
  | texts entries =>
    cases query with
    | name name =>
      simp only [recording, bindings, Bindings.textOf, Bindings.lookup, Bindings.ofTable]
      cases entries.get? name <;> exact (Render.recorded_pure _).symm
    | call call => exact (Render.recorded_pure _).symm
  | document d =>
    cases query with
    | name name =>
      simp only [recording, bindings, Bindings.textOf, Bindings.lookup, Bindings.ofDocument]
      cases d.atPath? name <;> exact (Render.recorded_pure _).symm
    | call call => exact (Render.recorded_pure _).symm

theorem lookup_recording (flat : FlatLookup σ) (query : Query) (out : Text) :
    flat.recording.bindings.lookup query out =
      Render.recorded ([query].filter flat.calls) (flat.bindings.lookup query out) := by
  rw [flat.recording.appends query out, textOf_recording, Render.recorded_map,
    ← flat.appends query out]

end FlatLookup

/-! ## Styled lookups -/

/-- The value, whose supplier or change notes under the name that it is called. -/
def SegmentValue.recording (name : Text) : SegmentValue σ → SegmentValue (σ × List Query)
  | text content => text content
  | supplied supplier => supplied (Render.recorded [.name name] supplier)
  | change f => change fun segment => Render.recorded [.name name] (f segment)

/-- The table with a record of the suppliers and the changes that are called. -/
def StyledVariables.recording (vars : StyledVariables σ) : StyledVariables (σ × List Query) where
  values := vars.values.map SegmentValue.recording

/-- The table with a record of the functions that are called. -/
def StyledFunctions.recording (table : StyledFunctions σ) : StyledFunctions (σ × List Query) where
  functions := table.functions.map fun name function args segment =>
    Render.recorded [.call ⟨name, args⟩] (function args segment)

/-- The styled lookups of this library, for names and for calls. -/
inductive StyledLookup (σ : Type) where
  /-- Nothing is bound. -/
  | nothing
  | tables (vars : StyledVariables σ) (functions : StyledFunctions σ)
  /-- A flat lookup that writes into the text of the segment. -/
  | plain (flat : FlatLookup σ)

namespace StyledLookup

/-- The lookup for a query. -/
def lookup (styled : StyledLookup σ) (query : Query) (segment : Segment) :
    Render σ (Answer Segment) :=
  match styled, query with
  | nothing, .name name => VariableLookup.none name segment
  | nothing, .call call => FunctionLookup.none call.name call.args segment
  | tables vars _, .name name => vars.lookup name segment
  | tables _ functions, .call call => functions.lookup call.name call.args segment
  | plain flat, .name name => flat.bindings.plainVariables name segment
  | plain flat, .call call => flat.bindings.plainFunctions call.name call.args segment

/-- The lookup with a record of the suppliers, the changes and the functions that are called. -/
def recording : StyledLookup σ → StyledLookup (σ × List Query)
  | nothing => nothing
  | tables vars functions => tables vars.recording functions.recording
  | plain flat => plain flat.recording

/-- Whether a supplier, a change or a function is called for the query. -/
def calls : StyledLookup σ → Query → Bool
  | nothing, _ => false
  | tables vars _, .name name =>
    match vars.get? name with
    | some (.supplied _) => true
    | some (.change _) => true
    | _ => false
  | tables _ functions, .call call => functions.contains call.name
  | plain flat, query => flat.calls query

theorem lookup_plain (flat : FlatLookup σ) (query : Query) (segment : Segment) :
    (plain flat).lookup query segment = do
      let answer ← flat.bindings.lookup query segment.text
      return ⟨answer.bound, { segment with text := answer.result }⟩ := by
  cases query <;> rfl

/-- A lookup binds nothing and does nothing, or makes a change to the segment. -/
theorem lookup_cases (styled : StyledLookup σ) (query : Query) :
    (styled.calls query = false ∧
        ∀ segment, styled.lookup query segment = pure (.unbound segment)) ∨
      ∃ change : Segment → Render σ Segment, ∀ segment,
        styled.lookup query segment = do return .found (← change segment) := by
  cases styled with
  | nothing => cases query <;> exact .inl ⟨rfl, fun _ => rfl⟩
  | tables vars functions =>
    cases query with
    | name name =>
      simp only [lookup, calls, StyledVariables.lookup, StyledVariables.get?]
      cases vars.values.get? name with
      | none => exact .inl ⟨rfl, fun _ => rfl⟩
      | some value => exact .inr ⟨fun segment => value.apply segment, fun _ => rfl⟩
    | call call =>
      simp only [lookup, calls, StyledFunctions.lookup, StyledFunctions.contains, Table.contains]
      cases functions.functions.get? call.name with
      | none => exact .inl ⟨rfl, fun _ => rfl⟩
      | some function => exact .inr ⟨function call.args, fun _ => rfl⟩
  | plain flat =>
    obtain ⟨hcalls, hlookup⟩ | ⟨produce, hlookup⟩ := flat.lookup_cases query
    · refine .inl ⟨hcalls, fun segment => ?_⟩
      rw [lookup_plain, hlookup]
      rfl
    · refine .inr ⟨fun segment => do return segment.append (← produce), fun segment => ?_⟩
      rw [lookup_plain, hlookup]
      rfl

theorem eq_unbound {styled : StyledLookup σ} {query : Query} {segment : Segment}
    {context : Context σ}
    (h : (styled.lookup query segment context).1.bound = false) :
    styled.lookup query segment context = (.unbound segment, context) ∧
      styled.calls query = false := by
  obtain ⟨hcalls, hlookup⟩ | ⟨change, hlookup⟩ := styled.lookup_cases query
  · exact ⟨congrFun (hlookup segment) context, hcalls⟩
  · rw [hlookup] at h
    cases h

theorem lookup_recording (styled : StyledLookup σ) (query : Query) (segment : Segment) :
    styled.recording.lookup query segment =
      Render.recorded ([query].filter styled.calls) (styled.lookup query segment) := by
  cases styled with
  | nothing => cases query <;> exact (Render.recorded_pure _).symm
  | tables vars functions =>
    cases query with
    | name name =>
      simp only [recording, lookup, StyledVariables.lookup, StyledVariables.recording,
        Table.get?_map]
      cases h : vars.values.get? name with
      | none => simp [calls, StyledVariables.get?, h, Render.recorded_pure]
      | some value =>
        cases value with
        | text content =>
          simp [calls, StyledVariables.get?, h, SegmentValue.recording, SegmentValue.apply,
            Render.recorded_pure]
        | supplied supplier =>
          have hcalls : (tables vars functions).calls (.name name) = true := by
            simp [calls, StyledVariables.get?, h]
          rw [List.filter_cons_of_pos hcalls]
          rfl
        | change f =>
          have hcalls : (tables vars functions).calls (.name name) = true := by
            simp [calls, StyledVariables.get?, h]
          rw [List.filter_cons_of_pos hcalls]
          rfl
    | call call =>
      simp only [recording, lookup, StyledFunctions.lookup, StyledFunctions.recording,
        Table.get?_map]
      cases h : functions.functions.get? call.name with
      | none =>
        simp [calls, StyledFunctions.contains, Table.contains, h, Render.recorded_pure]
      | some function =>
        have hcalls : (tables vars functions).calls (.call call) = true := by
          simp [calls, StyledFunctions.contains, Table.contains, h]
        rw [List.filter_cons_of_pos hcalls]
        rfl
  | plain flat =>
    show (plain flat.recording).lookup query segment = _
    rw [lookup_plain, lookup_plain, flat.lookup_recording, Render.recorded_map]
    rfl

end StyledLookup

/-! ## What is put into segments -/

theorem StyledVariables.lookup_appends {vars : StyledVariables σ} {name : Text}
    (h : ∀ f, vars.get? name ≠ some (.change f)) (segment : Segment) (context : Context σ)
    (hbound : (vars.lookup name segment context).1.bound = true) :
    ∃ more, (vars.lookup name segment context).1.result = segment.append more := by
  unfold get? at h
  unfold lookup at hbound ⊢
  cases hget : vars.values.get? name with
  | none =>
    rw [hget] at hbound
    cases hbound
  | some value =>
    cases value with
    | text content => exact ⟨content, rfl⟩
    | supplied supplier => exact ⟨(supplier context).1, rfl⟩
    | change f => exact absurd hget (h f)

namespace StyledFunctions

/-- A function that gives text, as a change to a segment. -/
def appending (function : List Text → Render σ Text) : List Text → Segment → Render σ Segment :=
  fun args segment => do return segment.append (← function args)

theorem get?_setTextFunction (table : StyledFunctions σ) (name : Text)
    (function : List Text → Render σ Text) :
    (table.setTextFunction name function).functions.get? name = some (appending function) := by
  rw [setTextFunction, setFunction, Table.get?_insert, if_pos rfl]
  rfl

theorem lookup_appending {table : StyledFunctions σ} {name : Text}
    {function : List Text → Render σ Text}
    (h : table.functions.get? name = some (appending function)) (args : List Text)
    (segment : Segment) (context : Context σ) :
    ∃ more, (table.lookup name args segment context).1 = .found (segment.append more) := by
  refine ⟨(function args context).1, ?_⟩
  unfold lookup
  rw [h]
  rfl

/-- The standard functions are bound to their names and to no others, and what they make of a
segment depends on the arguments and the segment alone. -/
theorem standard_lookup_cases (name : Text) (args : List Text) (segment : Segment) :
    (name ∉ Standard.names ∧
        (standard (σ := σ)).lookup name args segment = pure (.unbound segment)) ∨
      (name ∈ Standard.names ∧ ∃ other : Segment, other.Extends segment ∧
        (standard (σ := σ)).lookup name args segment = pure (.found other)) := by
  have hget := get?_standard (σ := σ) name
  have hnames : name ∈ Standard.names ↔
      (Entries.find? name Standard.textFunctions).isSome = true ∨
        (Entries.find? name Standard.segmentFunctions).isSome = true := by
    rw [Entries.isSome_find?, Entries.isSome_find?, Standard.names, List.mem_append]
  unfold lookup
  rw [hnames, hget]
  cases hsegment : Entries.find? name Standard.segmentFunctions with
  | some f =>
    refine .inr ⟨.inr rfl, f args segment, ?_, rfl⟩
    exact Standard.extends_segmentFunctions (Entries.mem_of_find? hsegment) args segment
  | none =>
    cases htext : Entries.find? name Standard.textFunctions with
    | some f => exact .inr ⟨.inl rfl, segment.append (f args), segment.extends_append _, rfl⟩
    | none => exact .inl ⟨by simp, rfl⟩

end StyledFunctions

/-- What renderers rely on. A lookup that answers not bound leaves everything as it was and calls
no supplier, no change and no function; that no others are called is what a record of the calls
shows. A flat lookup that binds puts a text at the end of the output that does not depend on it.
Texts, suppliers and functions that give text only put a text at the end of a segment, and the
standard functions set its click or its hover at most besides. -/
theorem lookups_keep_contract :
    (∀ (flat : FlatLookup σ) (query : Query) (out : Text) (context : Context σ),
      let answered := flat.bindings.lookup query out context
      (answered.1.bound = false →
        answered = (.unbound out, context) ∧ flat.calls query = false) ∧
      (answered.1.bound = true → ∃ more, ∀ other,
        flat.bindings.lookup query other context = (.found (other ++ more), answered.2))) ∧
    (∀ (styled : StyledLookup σ) (query : Query) (segment : Segment) (context : Context σ),
      let answered := styled.lookup query segment context
      answered.1.bound = false →
        answered = (.unbound segment, context) ∧ styled.calls query = false) ∧
    (∀ (flat : FlatLookup σ) (query : Query) (out : Text),
      flat.recording.bindings.lookup query out =
        Render.recorded ([query].filter flat.calls) (flat.bindings.lookup query out)) ∧
    (∀ (styled : StyledLookup σ) (query : Query) (segment : Segment),
      styled.recording.lookup query segment =
        Render.recorded ([query].filter styled.calls) (styled.lookup query segment)) ∧
    (∀ (vars : StyledVariables σ) (name : Text), (∀ f, vars.get? name ≠ some (.change f)) →
      ∀ (segment : Segment) (context : Context σ),
        let answered := vars.lookup name segment context
        answered.1.bound = true → ∃ more, answered.1.result = segment.append more) ∧
    (∀ (table : StyledFunctions σ) (name : Text) (function : List Text → Render σ Text),
      (table.setTextFunction name function).functions.get? name =
          some (StyledFunctions.appending function) ∧
        (table.functions.get? name = some (StyledFunctions.appending function) →
          ∀ (args : List Text) (segment : Segment) (context : Context σ), ∃ more,
            (table.lookup name args segment context).1 = .found (segment.append more))) ∧
    ∀ (name : Text) (args : List Text) (segment : Segment) (context : Context σ),
      let answered := StyledFunctions.standard.lookup name args segment context
      (answered.1.bound = true ↔ name ∈ Standard.names) ∧
        (answered.1.bound = true → answered.1.result.Extends segment ∧ answered.2 = context) := by
  refine ⟨fun flat query out context => ⟨FlatLookup.eq_unbound, FlatLookup.eq_found⟩,
    fun styled query segment context => StyledLookup.eq_unbound, FlatLookup.lookup_recording,
    StyledLookup.lookup_recording, fun vars name h => StyledVariables.lookup_appends h,
    fun table name function => ⟨table.get?_setTextFunction name function,
      StyledFunctions.lookup_appending⟩, ?_⟩
  intro name args segment context answered
  obtain ⟨hname, hlookup⟩ | ⟨hname, other, hextends, hlookup⟩ :=
    StyledFunctions.standard_lookup_cases (σ := σ) name args segment
  · have hanswered : answered = (.unbound segment, context) := congrFun hlookup context
    rw [hanswered]
    exact ⟨⟨fun hbound => absurd hbound Bool.false_ne_true, fun hm => absurd hm hname⟩,
      fun hbound => absurd hbound Bool.false_ne_true⟩
  · have hanswered : answered = (.found other, context) := congrFun hlookup context
    rw [hanswered]
    exact ⟨⟨fun _ => hname, fun _ => rfl⟩, fun _ => ⟨hextends, rfl⟩⟩

theorem lookups_keep_contract_counter :
    let counter : Render Nat Text := Render.remember fun n => (Text.ofNat (n + 1), n + 1)
    let vars : Variables Nat := Variables.empty.setSupplied "n".toList counter
    let styled : StyledVariables Nat := StyledVariables.empty.setSupplied "n".toList counter
    let shout : List Text → Render Nat Text := fun args => do return args.flatten ++ ['!']
    let table : StyledFunctions Nat := StyledFunctions.standard.setTextFunction "f".toList shout
    let bold : Segment := { text := "a".toList, style := { bold := true } }
    (vars.bindings.variableText "m".toList "a".toList (Context.fresh 4) =
        (.unbound "a".toList, Context.fresh 4)) ∧
      (∃ more, ∀ other, vars.bindings.variableText "n".toList other (Context.fresh 4) =
        (.found (other ++ more), Context.fresh 5)) ∧
      (table.lookup "g".toList [] bold (Context.fresh 4) = (.unbound bold, Context.fresh 4)) ∧
      (∃ more, (styled.lookup "n".toList bold (Context.fresh 4)).1.result = bold.append more) ∧
      (∃ more, (table.lookup "f".toList [] bold (Context.fresh 4)).1 =
        .found (bold.append more)) ∧
      (StyledFunctions.standard.lookup "hover".toList ["b".toList] bold
        (Context.fresh 4)).1.result.Extends bold := by
  intro counter vars styled shout table bold
  obtain ⟨hflat, hstyled, -, -, hvalues, htexts, hstandard⟩ := lookups_keep_contract (σ := Nat)
  have hkind : ∀ f, styled.get? "n".toList ≠ some (.change f) := by
    intro f hf
    cases hf
  refine ⟨?_, ?_, ?_, ?_, ?_, ?_⟩
  · exact ((hflat (.table vars) (.name "m".toList) "a".toList (Context.fresh 4)).1 rfl).1
  · exact (hflat (.table vars) (.name "n".toList) [] (Context.fresh 4)).2 rfl
  · exact (hstyled (.tables styled table) (.call ⟨"g".toList, []⟩) bold (Context.fresh 4)
      (by decide +kernel)).1
  · exact hvalues styled "n".toList hkind bold (Context.fresh 4) rfl
  · exact (htexts table "f".toList shout).2 (htexts .standard "f".toList shout).1 [] bold
      (Context.fresh 4)
  · exact ((hstandard "hover".toList ["b".toList] bold (Context.fresh 4)).2 (by decide +kernel)).1

end StyledMarkup
