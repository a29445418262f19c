import StyledMarkup.Proofs.Json.Recorded
import StyledMarkup.Proofs.Text.Basic
import StyledMarkup.Proofs.Text.Count

/-!
# Following names through a document

In a document with plain names the steps of a path can be read off its name. So a name is followed
along the one path that it spells (`foldlM_child?_eq_some_iff`, `Leads.path_unique`), and what is
recorded under it is what the path leads to (`get?_flatten_iff_atPath?`).

A list is entered by a count, and counts have more spellings than the one that is recorded. Names
with such a spelling among their parts are left out.
-/

namespace StyledMarkup
namespace Json

/-- Whether the name of every field in the document is one part of a path: it is not empty and has
no dot. -/
def PlainlyNamed (document : Json) : Prop :=
  ∀ path fields, Leads document path (.object fields) →
    ∀ field ∈ fields, field.1 ≠ [] ∧ '.' ∉ field.1

/-- Whether a count reaches every item of the lists in the document, as it does in any memory. -/
def Countable (document : Json) : Prop :=
  ∀ path items, Leads document path (.list items) → items.length ≤ Text.countLimit

/-! ## One step -/

section Step

variable {document value : Json} {step : Step}

theorem leads_single : Leads document [step] value ↔
    (∃ fields name, document = .object fields ∧ step = .field name ∧ (name, value) ∈ fields) ∨
      ∃ items index, document = .list items ∧ step = .item index ∧ items[index]? = some value := by
  constructor
  · rintro (_ | ⟨hm, ⟨⟩⟩ | ⟨hm, ⟨⟩⟩)
    · exact .inl ⟨_, _, rfl, rfl, hm⟩
    · exact .inr ⟨_, _, rfl, rfl, hm⟩
  · rintro (⟨fields, name, rfl, rfl, hm⟩ | ⟨items, index, rfl, rfl, hm⟩)
    · exact .field hm (.here _)
    · exact .item hm (.here _)

theorem leads_cons {path : List Step} {part : Json} : Leads document (step :: path) part ↔
    ∃ value, Leads document [step] value ∧ Leads value path part := by
  constructor
  · rintro (_ | ⟨hm, hl⟩ | ⟨hm, hl⟩)
    · exact ⟨_, .field hm (.here _), hl⟩
    · exact ⟨_, .item hm (.here _), hl⟩
  · rintro ⟨value, hstep, hl⟩
    obtain ⟨fields, name, rfl, rfl, hm⟩ | ⟨items, index, rfl, rfl, hm⟩ := leads_single.1 hstep
    · exact .field hm hl
    · exact .item hm hl

theorem Ordered.part (h : Ordered document) (hl : Leads document [step] value) :
    Ordered value := by
  obtain ⟨fields, name, rfl, rfl, hm⟩ | ⟨items, index, rfl, rfl, hm⟩ := leads_single.1 hl
  · exact h.fields.2 _ hm
  · exact h.items _ (List.mem_of_getElem? hm)

theorem Countable.part (h : Countable document) (hl : Leads document [step] value) :
    Countable value :=
  fun path items hi => h (step :: path) items (leads_cons.2 ⟨value, hl, hi⟩)

theorem PlainlyNamed.part (h : PlainlyNamed document) (hl : Leads document [step] value) :
    PlainlyNamed value :=
  fun path fields hf => h (step :: path) fields (leads_cons.2 ⟨value, hl, hf⟩)

theorem PlainlyNamed.dot_notMem (h : PlainlyNamed document) (hl : Leads document [step] value) :
    '.' ∉ step.text := by
  obtain ⟨fields, name, rfl, rfl, hm⟩ | ⟨items, index, rfl, rfl, hm⟩ := leads_single.1 hl
  · exact (h [] fields (.here _) _ hm).2
  · intro hdot
    exact absurd (Nat.isDigit_of_mem_toDigits (by decide) (by decide) hdot) (by decide)

theorem PlainlyNamed.not_leads_empty (h : PlainlyNamed document) :
    ¬ Leads document [.field []] value := by
  intro hl
  obtain ⟨fields, _, rfl, hstep, hm⟩ | ⟨_, _, -, hstep, -⟩ := leads_single.1 hl
  · cases hstep
    exact (h [] fields (.here _) _ hm).1 rfl
  · cases hstep

theorem lookup_eq_some_iff {fields : List (Text × Json)} (h : Entries.Ascending fields)
    {name : Text} : fields.lookup name = some value ↔ (name, value) ∈ fields := by
  induction fields with
  | nil => simp
  | cons first fields ih =>
    obtain ⟨key, content⟩ := first
    obtain ⟨hfirst, hrest⟩ := List.pairwise_cons.1 h
    by_cases hname : name = key
    · subst hname
      have hnone : (name, value) ∉ fields := fun hm => by
        have hlt := hfirst _ hm
        rw [Text.comesBefore_irrefl] at hlt
        exact Bool.false_ne_true hlt
      simp [hnone, eq_comm]
    · have hne : (name == key) = false := beq_eq_false_iff_ne.2 hname
      simp [List.lookup_cons, hne, hname, ih hrest]

theorem child?_eq_some_iff (hord : Ordered document) (hcount : Countable document) {part : Text}
    (hpart : ¬ part.StartsOddly) :
    child? document part = some value ↔ ∃ step : Step, step.text = part ∧
      Leads document [step] value := by
  cases document with
  | object fields =>
    simp only [child?, lookup_eq_some_iff hord.fields.1, leads_single]
    constructor
    · intro hm
      exact ⟨.field part, rfl, .inl ⟨_, _, rfl, rfl, hm⟩⟩
    · rintro ⟨step, rfl, ⟨fields, name, heq, rfl, hm⟩ | ⟨items, index, heq, -, -⟩⟩
      · cases heq
        exact hm
      · cases heq
  | list items =>
    simp only [child?, Option.bind_eq_bind, Option.bind_eq_some_iff, leads_single,
      Text.readCount?_eq_some_iff hpart]
    constructor
    · rintro ⟨index, ⟨rfl, -⟩, hget⟩
      exact ⟨.item index, rfl, .inr ⟨_, _, rfl, rfl, hget⟩⟩
    · rintro ⟨step, rfl, ⟨fields, name, heq, -, -⟩ | ⟨others, index, heq, rfl, hget⟩⟩
      · cases heq
      · cases heq
        have hlt : index < items.length := (List.getElem?_eq_some_iff.1 hget).1
        exact ⟨index, ⟨rfl, hlt.trans_le (hcount [] items (.here _))⟩, hget⟩
  | _ => simp [child?, leads_single]

theorem Leads.value_unique (hord : Ordered document) {other : Json}
    (h : Leads document [step] value) (ho : Leads document [step] other) : value = other := by
  obtain ⟨fields, name, rfl, rfl, hm⟩ | ⟨items, index, rfl, rfl, hm⟩ := leads_single.1 h
  · obtain ⟨_, _, heq, hstep, hother⟩ | ⟨_, _, heq, -⟩ := leads_single.1 ho
    · cases heq
      cases hstep
      rw [← lookup_eq_some_iff hord.fields.1] at hm hother
      exact Option.some.inj (hm.symm.trans hother)
    · cases heq
  · obtain ⟨_, _, heq, -⟩ | ⟨_, _, heq, hstep, hother⟩ := leads_single.1 ho
    · cases heq
    · cases heq
      cases hstep
      exact Option.some.inj (hm.symm.trans hother)

theorem Leads.step_unique {other : Json} {next : Step} (h : Leads document [step] value)
    (ho : Leads document [next] other) (htext : step.text = next.text) : step = next := by
  obtain ⟨fields, name, rfl, rfl, -⟩ | ⟨items, index, rfl, rfl, -⟩ := leads_single.1 h
  · obtain ⟨_, _, -, rfl, -⟩ | ⟨_, _, heq, -⟩ := leads_single.1 ho
    · exact congrArg Step.field htext
    · cases heq
  · obtain ⟨_, _, heq, -⟩ | ⟨_, _, -, rfl, -⟩ := leads_single.1 ho
    · cases heq
    · exact congrArg Step.item (Text.ofNat_injective htext)

end Step

/-! ## Whole paths -/

section Path

variable {document : Json}

theorem foldlM_child?_eq_some_iff (hord : Ordered document) (hcount : Countable document)
    {parts : List Text} (hparts : ∀ part ∈ parts, ¬ part.StartsOddly) {found : Json} :
    parts.foldlM child? document = some found ↔
      ∃ path, path.map Step.text = parts ∧ Leads document path found := by
  induction parts generalizing document with
  | nil =>
    simp only [List.foldlM_nil, List.map_eq_nil_iff, exists_eq_left]
    constructor
    · rintro ⟨⟩
      exact .here _
    · rintro ⟨⟩
      rfl
  | cons part parts ih =>
    have hmore : ∀ p ∈ parts, ¬ p.StartsOddly := fun p hp => hparts p (List.mem_cons_of_mem _ hp)
    simp only [List.foldlM_cons, Option.bind_eq_bind, Option.bind_eq_some_iff,
      child?_eq_some_iff hord hcount (hparts part List.mem_cons_self)]
    constructor
    · rintro ⟨value, ⟨step, rfl, hstep⟩, hfound⟩
      obtain ⟨path, rfl, hl⟩ := (ih (hord.part hstep) (hcount.part hstep) hmore).1 hfound
      exact ⟨step :: path, rfl, leads_cons.2 ⟨value, hstep, hl⟩⟩
    · rintro ⟨path, htext, hl⟩
      obtain ⟨step, path, rfl, rfl, rfl⟩ := List.map_eq_cons_iff.1 htext
      obtain ⟨value, hstep, hl⟩ := leads_cons.1 hl
      exact ⟨value, ⟨step, rfl, hstep⟩,
        (ih (hord.part hstep) (hcount.part hstep) hmore).2 ⟨path, rfl, hl⟩⟩

/-- The texts of its steps tell a path from all others of the document. -/
theorem Leads.path_unique (hord : Ordered document) {path other : List Step} {part more : Json}
    (h : Leads document path part) (ho : Leads document other more)
    (htext : path.map Step.text = other.map Step.text) : path = other := by
  induction path generalizing document other with
  | nil => exact (List.map_eq_nil_iff.1 htext.symm).symm
  | cons step path ih =>
    obtain ⟨next, other, rfl, hnext, hrest⟩ := List.map_eq_cons_iff.1 htext.symm
    obtain ⟨value, hstep, h⟩ := leads_cons.1 h
    obtain ⟨_, hother, ho⟩ := leads_cons.1 ho
    obtain rfl := hstep.step_unique hother hnext.symm
    obtain rfl := hstep.value_unique hord hother
    rw [ih (hord.part hstep) h ho hrest.symm]

theorem PlainlyNamed.pathName_eq_iff (hnamed : PlainlyNamed document) {path : List Step}
    {part : Json} (h : Leads document path part) (hne : path ≠ []) {name : Text} :
    pathName path = name ↔ path.map Step.text = Text.splitAt '.' name := by
  have hdots : ∀ text ∈ path.map Step.text, '.' ∉ text := by
    clear hne
    induction path generalizing document with
    | nil => simp
    | cons step path ih =>
      obtain ⟨value, hstep, h⟩ := leads_cons.1 h
      rw [List.map_cons, List.forall_mem_cons]
      exact ⟨hnamed.dot_notMem hstep, ih (hnamed.part hstep) h⟩
  constructor
  · rintro rfl
    exact (Text.splitAt_join (by simpa using hne) hdots).symm
  · intro htext
    rw [pathName, htext, Text.join_splitAt]

end Path

/-! ## Both ways to bind a document -/

section Document

variable {document : Json} (hord : Ordered document) (hcount : Countable document)
  (hnamed : PlainlyNamed document) {name : Text}
  (hname : ∀ part ∈ Text.splitAt '.' name, ¬ part.StartsOddly)

include hord hcount hnamed hname

theorem atPath?_eq_some_iff {part : Json} : document.atPath? name = some part ↔
    ∃ path, path ≠ [] ∧ Leads document path part ∧ pathName path = name := by
  rw [atPath?, foldlM_child?_eq_some_iff hord hcount hname]
  constructor
  · rintro ⟨path, htext, hl⟩
    have hne : path ≠ [] := by
      rintro rfl
      exact Text.splitAt_ne_nil '.' name htext.symm
    exact ⟨path, hne, hl, (hnamed.pathName_eq_iff hl hne).2 htext⟩
  · rintro ⟨path, hne, hl, hpath⟩
    exact ⟨path, (hnamed.pathName_eq_iff hl hne).1 hpath, hl⟩

theorem get?_flatten_iff_atPath? (hroot : document.isContainer = true) {content : Text} :
    (flatten document).get? name = some content ↔
      ∃ part, document.atPath? name = some part ∧ part ≠ .null ∧ part.content = content := by
  rw [get?_flatten_iff_isLast (fun _ h => absurd h hnamed.not_leads_empty) hord hroot]
  simp only [atPath?_eq_some_iff hord hcount hnamed hname]
  constructor
  · rintro ⟨path, part, ⟨hn, -⟩, hcontent⟩
    exact ⟨part, ⟨path, hn.path_ne_nil, hn.leads, hn.pathName_eq⟩, hn.part_ne_null, hcontent⟩
  · rintro ⟨part, ⟨path, hne, hl, hpath⟩, hnull, hcontent⟩
    refine ⟨path, part, ⟨⟨hl, hne, hnull, hpath⟩, fun other more hn hbefore => ?_⟩, hcontent⟩
    -- No other part has the name, so none that comes later does.
    have htext : path.map Step.text = other.map Step.text := by
      rw [(hnamed.pathName_eq_iff hl hne).1 hpath,
        (hnamed.pathName_eq_iff hn.leads hn.path_ne_nil).1 hn.pathName_eq]
    obtain rfl := hl.path_unique hord hn.leads htext
    exact hbefore.asymm hbefore

end Document

end Json
end StyledMarkup
