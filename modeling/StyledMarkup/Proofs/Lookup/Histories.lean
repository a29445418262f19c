import Mathlib.Data.List.Range
import Mathlib.Logic.Function.Basic
import StyledMarkup.Lookup.Variables
import StyledMarkup.Proofs.Lookup.LastBinding
import StyledMarkup.Template.Flat
import StyledMarkup.Template.Styled

/-!
# Histories of tables of variables

Numbered tables of variables are filled, copied and merged in any order. A ledger lists what has
ever been bound in a table, to names apart from functions, where a copy takes over the ledger of its
source, and a merge puts the ledger of the other table behind. Each operation keeps the tables to
what their ledgers bind last (`Operation.apply_ofLedgers`), so any history does (`run_eq`).

A supplier is called through whatever table has it, so the calls through a table and through its
copies are counted together (`fst_mapM_variableText`). To render with a merged table is to ask the
second table for each reference, and the first one if the second does not bind it
(`bindings_merge`).
-/

namespace StyledMarkup

variable {σ : Type}

/-! ## Lookups one behind the other -/

/-- The lookup that asks another one for what the first one does not bind. -/
def Bindings.orElse (first second : Bindings σ) : Bindings σ where
  variableText name out := do
    let answer ← first.variableText name out
    if answer.bound then return answer else second.variableText name answer.result
  functionText name args out := do
    let answer ← first.functionText name args out
    if answer.bound then return answer else second.functionText name args answer.result

/-- Whether a supplier counts its calls in the memory and shows the count. -/
def Render.Counts (supplier : Render σ Text) (count : σ → Nat) (shown : Nat → Text) : Prop :=
  ∀ context, (supplier context).1 = shown (count context.memory + 1) ∧
    count (supplier context).2.memory = count context.memory + 1

namespace Variables

theorem merge_assoc (first second third : Variables σ) :
    (first.merge second).merge third = first.merge (second.merge third) := by
  simp only [merge, Table.merge_assoc]

theorem merge_empty (vars : Variables σ) : vars.merge empty = vars := by
  simp only [merge, empty, Table.merge_empty]

theorem empty_merge (vars : Variables σ) : empty.merge vars = vars := by
  simp only [merge, empty, Table.empty_merge]

theorem bindings_merge (first second : Variables σ) :
    (first.merge second).bindings = second.bindings.orElse first.bindings := by
  unfold bindings Bindings.orElse
  congr 1
  · funext name out
    rw [merge, Table.get?_merge]
    cases h : second.values.get? name <;> simp [h, Answer.found, Answer.unbound]
  · funext name args out
    rw [merge, Table.get?_merge]
    cases h : second.functions.get? name <;> simp [h, Answer.found, Answer.unbound]

/-! ## Operations -/

/-- What is done to numbered tables. -/
inductive Operation (σ : Type) where
  /-- Binds a name to a text, whether the table is passed on or changed in place. -/
  | set (table : Nat) (name content : Text)
  | setSupplied (table : Nat) (name : Text) (supplier : Render σ Text)
  | setFunction (table : Nat) (name : Text) (function : List Text → Render σ Text)
  /-- Makes a table a copy of another one. -/
  | copy (table source : Nat)
  /-- Binds all that another table binds in a table. -/
  | merge (table other : Nat)

/-- What has been bound in a table, in order. -/
structure Ledger (σ : Type) where
  values : List (Text × Value σ)
  functions : List (Text × (List Text → Render σ Text))

/-- The table of the last bindings. -/
def ofLedger (ledger : Ledger σ) : Variables σ :=
  ⟨.ofList ledger.values, .ofList ledger.functions⟩

namespace Operation

/-- The table that is changed. -/
def target : Operation σ → Nat
  | set table _ _ => table
  | setSupplied table _ _ => table
  | setFunction table _ _ => table
  | copy table _ => table
  | merge table _ => table

/-- What becomes of the table that is changed. -/
def made (tables : Nat → Variables σ) : Operation σ → Variables σ
  | set table name content => (tables table).set name content
  | setSupplied table name supplier => (tables table).setSupplied name supplier
  | setFunction table name function => (tables table).setFunction name function
  | copy _ source => tables source
  | merge table other => (tables table).merge (tables other)

/-- What becomes of the ledger of the table that is changed. -/
def noted (ledgers : Nat → Ledger σ) : Operation σ → Ledger σ
  | set table name content =>
    { ledgers table with values := (ledgers table).values ++ [(name, .text content)] }
  | setSupplied table name supplier =>
    { ledgers table with values := (ledgers table).values ++ [(name, .supplied supplier)] }
  | setFunction table name function =>
    { ledgers table with functions := (ledgers table).functions ++ [(name, function)] }
  | copy _ source => ledgers source
  | merge table other =>
    { values := (ledgers table).values ++ (ledgers other).values
      functions := (ledgers table).functions ++ (ledgers other).functions }

/-- The tables after the operation. -/
def apply (tables : Nat → Variables σ) (operation : Operation σ) : Nat → Variables σ :=
  Function.update tables operation.target (operation.made tables)

/-- The ledgers after the operation. -/
def note (ledgers : Nat → Ledger σ) (operation : Operation σ) : Nat → Ledger σ :=
  Function.update ledgers operation.target (operation.noted ledgers)

theorem made_ofLedgers (ledgers : Nat → Ledger σ) (operation : Operation σ) :
    operation.made (fun table => ofLedger (ledgers table)) =
      ofLedger (operation.noted ledgers) := by
  cases operation with
  | set table name content =>
    simp only [made, noted, Variables.set, ofLedger, Table.ofList_concat]
  | setSupplied table name supplier =>
    simp only [made, noted, Variables.setSupplied, ofLedger, Table.ofList_concat]
  | setFunction table name function =>
    simp only [made, noted, Variables.setFunction, ofLedger, Table.ofList_concat]
  | copy table source => rfl
  | merge table other => simp only [made, noted, Variables.merge, ofLedger, Table.merge_ofList]

/-- An operation keeps every table to what its ledger binds last. -/
theorem apply_ofLedgers (ledgers : Nat → Ledger σ) (operation : Operation σ) :
    operation.apply (fun table => ofLedger (ledgers table)) =
      fun table => ofLedger (operation.note ledgers table) := by
  rw [apply, made_ofLedgers]
  exact (Function.comp_update ofLedger ledgers _ _).symm

theorem apply_of_ne (tables : Nat → Variables σ) {operation : Operation σ} {table : Nat}
    (h : operation.target ≠ table) : operation.apply tables table = tables table :=
  Function.update_of_ne h.symm _ _

end Operation

/-! ## Histories -/

/-- The tables after operations on empty ones. -/
def run (operations : List (Operation σ)) : Nat → Variables σ :=
  operations.foldl Operation.apply fun _ => empty

/-- The ledgers after operations on empty ones. -/
def ledgers (operations : List (Operation σ)) : Nat → Ledger σ :=
  operations.foldl Operation.note fun _ => ⟨[], []⟩

theorem foldl_apply_ofLedgers (ledgers : Nat → Ledger σ) (operations : List (Operation σ)) :
    operations.foldl Operation.apply (fun table => ofLedger (ledgers table)) =
      fun table => ofLedger (operations.foldl Operation.note ledgers table) := by
  induction operations generalizing ledgers with
  | nil => rfl
  | cons operation operations ih =>
    rw [List.foldl_cons, operation.apply_ofLedgers, ih, List.foldl_cons]

/-- After any history every table binds what its ledger binds last. -/
theorem run_eq (operations : List (Operation σ)) (table : Nat) :
    run operations table = ofLedger (ledgers operations table) :=
  congrFun (foldl_apply_ofLedgers (fun _ => ⟨[], []⟩) operations) table

theorem foldl_apply_of_forall_ne {operations : List (Operation σ)} {table : Nat}
    (h : ∀ operation ∈ operations, operation.target ≠ table) (tables : Nat → Variables σ) :
    operations.foldl Operation.apply tables table = tables table := by
  induction operations generalizing tables with
  | nil => rfl
  | cons operation operations ih =>
    obtain ⟨hfirst, hrest⟩ := List.forall_mem_cons.1 h
    rw [List.foldl_cons, ih hrest, operation.apply_of_ne tables hfirst]

theorem run_copy (before : List (Operation σ)) {later : List (Operation σ)} {target : Nat}
    (source : Nat) (h : ∀ operation ∈ later, operation.target ≠ target) :
    run (before ++ .copy target source :: later) target = run before source := by
  rw [run, List.foldl_append, List.foldl_cons, foldl_apply_of_forall_ne h]
  exact Function.update_self _ _ _

/-- The calls of a supplier are counted together, whichever table it is called through. -/
theorem fst_mapM_variableText {supplier : Render σ Text} {count : σ → Nat} {shown : Nat → Text}
    (hcounts : supplier.Counts count shown) {tables : Nat → Variables σ} {name : Text}
    {readers : List Nat}
    (h : ∀ reader ∈ readers, (tables reader).get? name = some (.supplied supplier))
    (context : Context σ) :
    (readers.mapM (fun reader => (tables reader).bindings.variableText name []) context).1 =
      (List.range' (count context.memory + 1) readers.length).map fun n => .found (shown n) := by
  induction readers generalizing context with
  | nil => rfl
  | cons reader readers ih =>
    obtain ⟨hreader, hreaders⟩ := List.forall_mem_cons.1 h
    have hread : (tables reader).bindings.variableText name [] =
        do return .found (← supplier) := by
      unfold get? at hreader
      simp only [bindings, hreader, List.nil_append]
      rfl
    obtain ⟨hshown, hcount⟩ := hcounts context
    have hrest := ih hreaders (supplier context).2
    rw [hcount] at hrest
    rw [List.mapM_cons, hread, List.length_cons, List.range'_succ, List.map_cons, ← hrest, ← hshown]
    rfl

/-- After any history of operations a table finds under a name what was bound last to it, among
values and apart from these among functions, and its size is the number of the names of values. A
copy is left as it is by what is done to other tables, and shares the counts of the suppliers.
Renders with a merged table are renders that try the second table and then the first one for each
reference, and to merge is associative with the empty table on either side. -/
theorem tables_keep_last_bindings :
    (∀ (operations : List (Operation σ)) (table : Nat) (name : Text),
      (∀ value, (run operations table).get? name = some value ↔
        Table.IsLast (ledgers operations table).values name value) ∧
      (∀ function, (run operations table).functions.get? name = some function ↔
        Table.IsLast (ledgers operations table).functions name function) ∧
      (run operations table).size =
        ((ledgers operations table).values.map Prod.fst).dedup.length) ∧
    (∀ (before later : List (Operation σ)) (target source : Nat),
      (∀ operation ∈ later, operation.target ≠ target) →
      let tables := run (before ++ .copy target source :: later)
      tables target = run before source ∧
        ∀ (name : Text) (supplier : Render σ Text) (count : σ → Nat) (shown : Nat → Text),
          supplier.Counts count shown →
          (run before source).get? name = some (.supplied supplier) →
          ∀ readers : List Nat,
            (∀ reader ∈ readers, reader = target ∨
              (tables reader).get? name = some (.supplied supplier)) →
            ∀ context : Context σ,
              (readers.mapM (fun reader => (tables reader).bindings.variableText name [])
                  context).1 =
                (List.range' (count context.memory + 1) readers.length).map
                  fun n => .found (shown n)) ∧
    (∀ first second : Variables σ,
      (∀ template : Template, template.render (first.merge second).bindings =
        template.render (second.bindings.orElse first.bindings)) ∧
      ∀ template : StyledTemplate,
        template.render (first.merge second).bindings.plainVariables
            (first.merge second).bindings.plainFunctions =
          template.render (second.bindings.orElse first.bindings).plainVariables
            (second.bindings.orElse first.bindings).plainFunctions) ∧
    (∀ first second third : Variables σ,
      (first.merge second).merge third = first.merge (second.merge third)) ∧
    ∀ vars : Variables σ, vars.merge empty = vars ∧ empty.merge vars = vars := by
  refine ⟨fun operations table name => ?_, fun before later target source hlater => ?_,
    fun first second => ?_, merge_assoc, fun vars => ⟨vars.merge_empty, vars.empty_merge⟩⟩
  · rw [run_eq]
    exact ⟨fun value => Table.get?_ofList_eq_some_iff,
      fun function => Table.get?_ofList_eq_some_iff, Table.size_ofList _⟩
  · have hcopy := run_copy before source hlater
    refine ⟨hcopy, fun name supplier count shown hcounts hbound readers hreaders => ?_⟩
    refine fst_mapM_variableText hcounts fun reader hm => ?_
    rcases hreaders reader hm with rfl | hreader
    · rw [hcopy]
      exact hbound
    · exact hreader
  · rw [bindings_merge]
    exact ⟨fun _ => rfl, fun _ => rfl⟩

theorem tables_keep_last_bindings_counter :
    let counter : Render Nat Text := Render.remember fun n => (Text.ofNat (n + 1), n + 1)
    let before : List (Operation Nat) := [.setSupplied 0 "n".toList counter]
    let later : List (Operation Nat) :=
      [.set 0 "m".toList "y".toList, .copy 2 1, .set 2 "m".toList "z".toList, .merge 0 2]
    let tables := run (before ++ .copy 1 0 :: later)
    (tables 0).size = 2 ∧ (tables 0).get? "m".toList = some (.text "z".toList) ∧
      tables 1 = run before 0 ∧
      ([1, 0, 1, 2].mapM (fun reader => (tables reader).bindings.variableText "n".toList [])
          (Context.fresh 4)).1 =
        [.found "5".toList, .found "6".toList, .found "7".toList, .found "8".toList] := by
  intro counter before later tables
  obtain ⟨hlast, hcopies, -⟩ := tables_keep_last_bindings (σ := Nat)
  have hlater : ∀ operation ∈ later, operation.target ≠ 1 := by
    intro operation hm
    simp only [later, List.mem_cons, List.not_mem_nil, or_false] at hm
    rcases hm with rfl | rfl | rfl | rfl <;> decide
  have hcounts : counter.Counts id Text.ofNat := fun _ => ⟨rfl, rfl⟩
  have hbound : (run before 0).get? "n".toList = some (.supplied counter) :=
    ((hlast before 0 "n".toList).1 _).2 ⟨[], [], rfl, nofun⟩
  -- Both ledgers bind `m` once more after they have bound `n` last.
  have hother : ∀ content : Text, ∀ entry ∈ [("m".toList, (Value.text content : Value Nat))],
      entry.1 ≠ "n".toList := by
    intro content entry he
    rw [List.mem_singleton.1 he]
    show "m".toList ≠ "n".toList
    decide
  have hzero : (tables 0).get? "n".toList = some (.supplied counter) :=
    ((hlast _ 0 "n".toList).1 _).2 ⟨[("n".toList, .supplied counter),
      ("m".toList, .text "y".toList)], [("m".toList, .text "z".toList)], rfl, hother _⟩
  have htwo : (tables 2).get? "n".toList = some (.supplied counter) :=
    ((hlast _ 2 "n".toList).1 _).2 ⟨[], [("m".toList, .text "z".toList)], rfl, hother _⟩
  obtain ⟨hcopy, hreads⟩ := hcopies before later 1 0 hlater
  refine ⟨(hlast _ 0 []).2.2.trans (by decide), ?_, hcopy, ?_⟩
  · exact ((hlast _ 0 "m".toList).1 _).2 ⟨[("n".toList, .supplied counter),
      ("m".toList, .text "y".toList), ("n".toList, .supplied counter)], [], rfl, nofun⟩
  · refine hreads "n".toList counter id Text.ofNat hcounts hbound [1, 0, 1, 2] ?_ (Context.fresh 4)
    intro reader hm
    simp only [List.mem_cons, List.not_mem_nil, or_false] at hm
    rcases hm with rfl | rfl | rfl | rfl
    · exact .inl rfl
    · exact .inr hzero
    · exact .inl rfl
    · exact .inr htwo

end Variables
end StyledMarkup
