import StyledMarkup.Command.Run
import StyledMarkup.Json.Reader
import StyledMarkup.Proofs.Command.Reading
import StyledMarkup.Proofs.Lookup.LastBinding
import StyledMarkup.Yaml.Value

/-!
# A run is all or nothing

A run loads the source of the template and then the values, and each of the two is there or not for
reasons that can be told without the program (`loadTemplate_eq_ok_iff`, `loadValues_eq_ok_iff`). If
one is not there, the run fails and nothing is written; else the rendered source is written as a
whole, with one line end (`run_all_or_nothing`). This is so for any readers of documents.
-/

namespace StyledMarkup
namespace Command

/-! ## The template -/

/-- Whether the source is the text without the line end at its end. -/
def DropsLineEnd (content source : Text) : Prop :=
  content = source ++ ['\r', '\n'] ∨
    (content = source ++ ['\n'] ∧ source.getLast? ≠ some '\r') ∨
    (content = source ∧ source.getLast? ≠ some '\n')

theorem dropsLineEnd_dropLineEnd (content : Text) : DropsLineEnd content (dropLineEnd content) := by
  unfold dropLineEnd
  split
  · rename_i rest h
    refine .inl ?_
    rw [← content.reverse_reverse, h]
    simp
  · rename_i rest hcr h
    refine .inr (.inl ⟨?_, fun hlast => ?_⟩)
    · rw [← content.reverse_reverse, h, List.reverse_cons]
    · rw [List.getLast?_reverse] at hlast
      obtain ⟨more, rfl⟩ := List.head?_eq_some_iff.1 hlast
      exact hcr more rfl
  · rename_i hcrlf hlf
    refine .inr (.inr ⟨rfl, fun hlast => ?_⟩)
    rw [List.getLast?_eq_head?_reverse] at hlast
    obtain ⟨more, hmore⟩ := List.head?_eq_some_iff.1 hlast
    exact hlf more hmore

theorem DropsLineEnd.eq {content source : Text} (h : DropsLineEnd content source) :
    dropLineEnd content = source := by
  -- The text is looked at from its end.
  obtain ⟨t, rfl⟩ : ∃ t : Text, source = t.reverse := ⟨source.reverse, source.reverse_reverse.symm⟩
  unfold DropsLineEnd at h
  rw [List.getLast?_reverse] at h
  unfold dropLineEnd
  rcases h with rfl | ⟨rfl, hlast⟩ | ⟨rfl, hlast⟩
  · simp
  · rw [List.reverse_append, List.reverse_reverse, List.reverse_singleton, List.singleton_append]
    split
    · rename_i h
      cases h
      exact absurd rfl hlast
    · rename_i h
      cases h
      rfl
    · rename_i hlf
      exact absurd rfl (hlf t)
  · rw [List.reverse_reverse]
    split
    · exact absurd rfl hlast
    · exact absurd rfl hlast
    · rfl

theorem dropLineEnd_eq_iff {content source : Text} :
    dropLineEnd content = source ↔ DropsLineEnd content source :=
  ⟨fun h => h ▸ dropsLineEnd_dropLineEnd content, DropsLineEnd.eq⟩

/-- Whether the text is the source: the template among the arguments, else what the file holds,
else what the standard input holds, without its line end. -/
def IsSource (surroundings : Surroundings) (arguments : RenderArguments) (source : Text) : Prop :=
  match arguments.template, arguments.file with
  | some template, _ => source = template
  | none, some path => Holds (surroundings.file path) source
  | none, none => ∃ content, Holds surroundings.input content ∧ DropsLineEnd content source

/-- Whether the template is to be read from where no text is to be had. -/
def TemplateFails (surroundings : Surroundings) (arguments : RenderArguments) : Prop :=
  arguments.template = none ∧
    match arguments.file with
    | some path => ∀ content, ¬Holds (surroundings.file path) content
    | none => ∀ content, ¬Holds surroundings.input content

variable {surroundings : Surroundings} {arguments : RenderArguments}

theorem loadTemplate_eq_ok_iff {source : Text} :
    loadTemplate surroundings arguments = .ok source ↔ IsSource surroundings arguments source := by
  unfold loadTemplate IsSource
  cases arguments.template with
  | some template => exact ⟨fun h => (Except.ok.inj h).symm, fun h => congrArg _ h.symm⟩
  | none =>
    cases arguments.file with
    | some path => exact mapError_eq_ok_iff.trans decode_eq_ok_iff
    | none =>
      show ((decode surroundings.input).mapError _).map dropLineEnd = _ ↔ _
      rw [map_eq_ok_iff]
      refine exists_congr fun content => ?_
      rw [mapError_eq_ok_iff, decode_eq_ok_iff, dropLineEnd_eq_iff]

theorem exists_isSource_iff : (∃ source, IsSource surroundings arguments source) ↔
    ¬TemplateFails surroundings arguments := by
  unfold TemplateFails IsSource
  cases arguments.template with
  | some template => simp
  | none =>
    cases arguments.file with
    | some path => simp
    | none =>
      simp only [true_and, not_forall, not_not]
      constructor
      · rintro ⟨source, content, hcontent, -⟩
        exact ⟨content, hcontent⟩
      · rintro ⟨content, hcontent⟩
        exact ⟨dropLineEnd content, content, hcontent, dropLineEnd_eq_iff.1 rfl⟩

/-! ## The values -/

/-- Whether the table has the values: what the last pair of each name has, else what is recorded of
the file. -/
def IsValues (readers : Readers) (surroundings : Surroundings) (arguments : RenderArguments)
    (values : Table Text) : Prop :=
  ∃ recorded : Table Text,
    (match arguments.variablesFile with
      | some path => ∃ fields, HoldsDocument readers surroundings path (.object fields) ∧
          recorded = (Json.object fields).flatten
      | none => recorded = .empty) ∧
    ∀ name, (∀ value, Table.IsLast arguments.pairs name value → values.get? name = some value) ∧
      ((∀ value, (name, value) ∉ arguments.pairs) → values.get? name = recorded.get? name)

/-- Whether there is a file of variables where no text is to be had, or where the text stands for no
document, or for one that is no mapping. -/
def VariablesFail (readers : Readers) (surroundings : Surroundings) (arguments : RenderArguments) :
    Prop :=
  ∃ path, arguments.variablesFile = some path ∧
    ((∀ content, ¬Holds (surroundings.file path) content) ∨
      (∃ content, Holds (surroundings.file path) content ∧ readers.parse? path content = none) ∨
      ∃ document, HoldsDocument readers surroundings path document ∧
        ∀ fields, document ≠ .object fields)

variable {readers : Readers}

theorem loadValues_eq_ok_iff {values : Table Text} :
    loadValues readers surroundings arguments = .ok values ↔
      IsValues readers surroundings arguments values := by
  unfold loadValues IsValues
  simp only [← Table.eq_insertAll_iff]
  cases arguments.variablesFile with
  | none =>
    constructor
    · intro h
      exact ⟨.empty, rfl, (Except.ok.inj h).symm⟩
    · rintro ⟨recorded, rfl, rfl⟩
      rfl
  | some path =>
    constructor
    · intro h
      obtain ⟨recorded, hrecorded, h⟩ := exists_of_bind_eq_ok h
      exact ⟨recorded, readVariables_eq_ok_iff.1 hrecorded, (Except.ok.inj h).symm⟩
    · rintro ⟨recorded, hrecorded, rfl⟩
      show (readVariables readers surroundings path >>= _) = _
      rw [readVariables_eq_ok_iff.2 hrecorded]
      rfl

theorem exists_isValues_iff : (∃ values, IsValues readers surroundings arguments values) ↔
    ¬VariablesFail readers surroundings arguments := by
  unfold IsValues VariablesFail
  simp only [← Table.eq_insertAll_iff]
  cases arguments.variablesFile with
  | none => simp
  | some path =>
    constructor
    · rintro ⟨values, recorded, ⟨fields, ⟨content, hholds, hparse⟩, -⟩, -⟩ ⟨other, heq, hfails⟩
      cases heq
      rcases hfails with hnone | ⟨other, hother, hnone⟩ | ⟨document, ⟨other, hother, hsome⟩, hne⟩
      · exact hnone content hholds
      · rw [hholds.unique hother, hnone] at hparse
        cases hparse
      · rw [hholds.unique hother, hsome] at hparse
        exact hne fields (Option.some.inj hparse)
    · intro h
      obtain ⟨content, hholds⟩ : ∃ content, Holds (surroundings.file path) content := by
        by_contra hnone
        exact h ⟨path, rfl, .inl (not_exists.1 hnone)⟩
      obtain ⟨document, hparse⟩ : ∃ document, readers.parse? path content = some document := by
        by_contra hnone
        refine h ⟨path, rfl, .inr (.inl ⟨content, hholds, ?_⟩)⟩
        exact Option.eq_none_iff_forall_ne_some.2 (not_exists.1 hnone)
      obtain ⟨fields, rfl⟩ : ∃ fields, document = .object fields := by
        by_contra hnone
        exact h ⟨path, rfl, .inr (.inr ⟨document, ⟨content, hholds, hparse⟩, not_exists.1 hnone⟩)⟩
      exact ⟨_, _, ⟨fields, ⟨content, hholds, hparse⟩, rfl⟩, rfl⟩

/-! ## The run -/

theorem prepare_eq_ok {source : Text} {values : Table Text}
    (hsource : IsSource surroundings arguments source)
    (hvalues : IsValues readers surroundings arguments values) :
    prepare readers surroundings arguments = .ok (render source values arguments.output
      (arguments.color.isEnabled surroundings.hasColors)) := by
  rw [prepare, loadTemplate_eq_ok_iff.2 hsource, loadValues_eq_ok_iff.2 hvalues]
  rfl

theorem prepare_eq_error
    (h : TemplateFails surroundings arguments ∨ VariablesFail readers surroundings arguments) :
    ∃ failure, prepare readers surroundings arguments = .error failure := by
  refine exists_error_of_forall_ne fun rendered hrendered => ?_
  obtain ⟨source, hsource, hrest⟩ := exists_of_bind_eq_ok hrendered
  obtain ⟨values, hvalues, -⟩ := exists_of_bind_eq_ok hrest
  rcases h with h | h
  · exact exists_isSource_iff.1 ⟨source, loadTemplate_eq_ok_iff.1 hsource⟩ h
  · exact exists_isValues_iff.1 ⟨values, loadValues_eq_ok_iff.1 hvalues⟩ h

/-- If the output can be written, a run whose template or values cannot be had fails and writes
nothing, and any other writes the rendered source, with the values, and one line end. The standard
input plays no part if the template is among the arguments or in a file. The readers may be any,
and a file of variables is no document where the reader for it says so. -/
theorem run_all_or_nothing (readers : Readers) (surroundings : Surroundings)
    (arguments : RenderArguments) (houtput : surroundings.outputFailure = none) :
    (TemplateFails surroundings arguments ∨ VariablesFail readers surroundings arguments →
      ∃ failure, run readers surroundings arguments = ⟨[], some failure⟩) ∧
    (¬TemplateFails surroundings arguments → ¬VariablesFail readers surroundings arguments →
      ∃ source values, IsSource surroundings arguments source ∧
        IsValues readers surroundings arguments values) ∧
    (∀ source values, IsSource surroundings arguments source →
      IsValues readers surroundings arguments values →
        run readers surroundings arguments = ⟨render source values arguments.output
          (arguments.color.isEnabled surroundings.hasColors) ++ ['\n'], none⟩) ∧
    (arguments.template ≠ none ∨ arguments.file ≠ none →
      ∀ input, run readers { surroundings with input } arguments =
        run readers surroundings arguments) := by
  refine ⟨fun h => ?_, fun htemplate hvariables => ?_, fun source values hsource hvalues => ?_,
    fun h input => ?_⟩
  · obtain ⟨failure, hprepare⟩ := prepare_eq_error h
    exact ⟨failure, by rw [run, hprepare]⟩
  · obtain ⟨source, hsource⟩ := exists_isSource_iff.2 htemplate
    obtain ⟨values, hvalues⟩ := exists_isValues_iff.2 hvariables
    exact ⟨source, values, hsource, hvalues⟩
  · rw [run, prepare_eq_ok hsource hvalues, houtput]
  · have hload : loadTemplate { surroundings with input } arguments =
        loadTemplate surroundings arguments := by
      unfold loadTemplate
      cases htemplate : arguments.template with
      | some template => rfl
      | none =>
        cases hfile : arguments.file with
        | some path => rfl
        | none => exact absurd h (by simp [htemplate, hfile])
    unfold run prepare
    rw [hload]
    rfl

theorem run_all_or_nothing_override :
    let readers : Readers := { json := Json.parse?, yaml := Yaml.parse? }
    let source := "Hi \x7ba\x7d \x7bb\x7d".toList
    let content := "\x7b\"a\": \"A\", \"b\": \"B\"\x7d".toList
    let surroundings : Surroundings :=
      { input := .ok (source ++ "\r\n".toList).utf8Encode
        file := fun path => if path = "v.json".toList then .ok content.utf8Encode
          else .error .notFound
        hasColors := false
        outputFailure := none }
    let arguments : RenderArguments :=
      { variablesFile := some "v.json".toList
        pairs := [("a".toList, "1".toList), ("a".toList, "2".toList)] }
    surroundings.outputFailure = none ∧
      run readers surroundings arguments = ⟨"Hi 2 B\n".toList, none⟩ ∧
      (∃ failure, run readers { surroundings with input := .error .isDirectory } arguments =
        ⟨[], some failure⟩) ∧
      ∃ failure, run readers surroundings
        { arguments with variablesFile := some "w.json".toList } = ⟨[], some failure⟩ := by
  intro readers source content surroundings arguments
  refine ⟨rfl, ?_, ?_, ?_⟩
  · obtain ⟨-, -, hwritten, -⟩ := run_all_or_nothing readers surroundings arguments rfl
    have hsource : IsSource surroundings arguments source := ⟨_, rfl, .inl rfl⟩
    have hparse : readers.parse? "v.json".toList content = some (.object
        [("a".toList, .text "A".toList), ("b".toList, .text "B".toList)]) := by
      with_unfolding_all rfl
    have hvalues : IsValues readers surroundings arguments _ :=
      ⟨_, ⟨_, ⟨content, rfl, hparse⟩, rfl⟩, Table.eq_insertAll_iff.1 rfl⟩
    rw [hwritten source _ hsource hvalues]
    decide +kernel
  · obtain ⟨hfails, -⟩ :=
      run_all_or_nothing readers { surroundings with input := .error .isDirectory } arguments rfl
    exact hfails (.inl ⟨rfl, nofun⟩)
  · obtain ⟨hfails, -⟩ := run_all_or_nothing readers surroundings
      { arguments with variablesFile := some "w.json".toList } rfl
    exact hfails (.inr ⟨"w.json".toList, rfl, .inl nofun⟩)

end Command
end StyledMarkup
