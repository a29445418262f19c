import Mathlib.Tactic.SplitIfs
import StyledMarkup.Command.Source

/-!
# What is read

Reading gives a text if bytes have been read and these are the encoding of a text
(`decode_eq_ok_iff`). A file of variables gives what is recorded of a mapping that its text stands
for, as JSON or as YAML by the name of the file (`readVariables_eq_ok_iff`). Which texts stand for
which documents is told by the readers, about which nothing is assumed.
-/

namespace StyledMarkup
namespace Command

/-! ## Results that may be errors -/

variable {ε δ α β : Type}

theorem mapError_eq_ok_iff {f : ε → δ} {result : Except ε α} {a : α} :
    result.mapError f = .ok a ↔ result = .ok a := by
  cases result <;> simp [Except.mapError]

theorem exists_error_of_forall_ne {result : Except ε α} (h : ∀ a, result ≠ .ok a) :
    ∃ e, result = .error e := by
  cases result with
  | error e => exact ⟨e, rfl⟩
  | ok a => exact absurd rfl (h a)

theorem exists_of_bind_eq_ok {first : Except ε α} {next : α → Except ε β} {b : β}
    (h : first >>= next = .ok b) : ∃ a, first = .ok a ∧ next a = .ok b := by
  cases first with
  | error e => cases h
  | ok a => exact ⟨a, rfl, h⟩

theorem map_eq_ok_iff {f : α → β} {result : Except ε α} {b : β} :
    result.map f = .ok b ↔ ∃ a, result = .ok a ∧ f a = b := by
  cases result <;> simp [Except.map]

/-! ## Bytes and their text -/

/-- Whether bytes have been read, and are those of the text. -/
def Holds (bytes : Except ReadFailure ByteArray) (content : Text) : Prop :=
  bytes = .ok content.utf8Encode

theorem decode_eq_ok_iff {bytes : Except ReadFailure ByteArray} {content : Text} :
    decode bytes = .ok content ↔ Holds bytes content := by
  cases bytes with
  | error cause => exact iff_of_false nofun nofun
  | ok raw =>
    unfold decode Holds
    by_cases hvalid : raw.IsValidUTF8
    · have hread : String.fromUTF8? raw = some (String.fromUTF8 raw hvalid) := dif_pos hvalid
      simp only [bind, Except.bind, hread]
      constructor
      · intro h
        rw [← Except.ok.inj h, ← String.toByteArray_ofList, String.ofList_toList]
        rfl
      · intro h
        have hs : String.fromUTF8 raw hvalid = String.ofList content :=
          String.toByteArray_inj.1 ((Except.ok.inj h).trans String.toByteArray_ofList.symm)
        rw [hs, String.toList_ofList]
        rfl
    · have hread : String.fromUTF8? raw = none := dif_neg hvalid
      simp only [bind, Except.bind, hread]
      refine iff_of_false nofun fun heq => hvalid ?_
      rw [Except.ok.inj heq, ← String.toByteArray_ofList]
      exact (String.ofList content).isValidUTF8

theorem Holds.unique {bytes : Except ReadFailure ByteArray} {content other : Text}
    (h : Holds bytes content) (hother : Holds bytes other) : content = other :=
  Except.ok.inj ((decode_eq_ok_iff.2 h).symm.trans (decode_eq_ok_iff.2 hother))

/-! ## Files of variables -/

variable (readers : Readers) (surroundings : Surroundings)

/-- The document that the content of a file of variables stands for. -/
def Readers.parse? (path content : Text) : Option Json :=
  if isJsonPath path then readers.json content else readers.yaml content

/-- Whether the file stands for the document. -/
def HoldsDocument (path : Text) (document : Json) : Prop :=
  ∃ content, Holds (surroundings.file path) content ∧ readers.parse? path content = some document

/-- What a file of variables gives for its content. -/
def recordedOf (path content : Text) : Except Failure (Table Text) :=
  match readers.parse? path content with
  | some (.object fields) => .ok (Json.object fields).flatten
  | some _ => .error (.notAMapping path)
  | none => .error (if isJsonPath path then .invalidJson path else .invalidYaml path)

theorem readVariables_eq (path : Text) : readVariables readers surroundings path =
    (decode (surroundings.file path)).mapError (.variablesFile path) >>=
      recordedOf readers path := by
  unfold readVariables
  refine bind_congr fun content => ?_
  unfold recordedOf Readers.parse?
  split_ifs
  · cases readers.json content with
    | none => rfl
    | some document => cases document <;> rfl
  · cases readers.yaml content with
    | none => rfl
    | some document => cases document <;> rfl

variable {readers surroundings}

theorem readVariables_eq_ok_iff {path : Text} {recorded : Table Text} :
    readVariables readers surroundings path = .ok recorded ↔
      ∃ fields, HoldsDocument readers surroundings path (.object fields) ∧
        recorded = (Json.object fields).flatten := by
  rw [readVariables_eq]
  constructor
  · intro h
    obtain ⟨content, hcontent, h⟩ := exists_of_bind_eq_ok h
    have hholds := decode_eq_ok_iff.1 (mapError_eq_ok_iff.1 hcontent)
    unfold recordedOf at h
    split at h
    · rename_i fields hparse
      exact ⟨fields, ⟨content, hholds, hparse⟩, (Except.ok.inj h).symm⟩
    · cases h
    · cases h
  · rintro ⟨fields, ⟨content, hholds, hparse⟩, rfl⟩
    rw [mapError_eq_ok_iff.2 (decode_eq_ok_iff.2 hholds)]
    show recordedOf readers path content = _
    rw [recordedOf, hparse]

end Command
end StyledMarkup
