import StyledMarkup.Proofs.Markup.CallSpelling
import StyledMarkup.Proofs.Markup.Written
import StyledMarkup.Proofs.Template.Reading

/-!
# Calls as markup

Every call can be written as markup, whatever its arguments are made of: each starts with empty
quotes, so that it counts even if it is empty, and each of its characters stands behind a
backslash.

Two layers are taken off again one after the other. The body of the braces comes back because its
braces stand right behind backslashes, and so not behind an escape character (`written_quoted`,
`keepsBraces_quoted`), and the call comes back from the body, which spells it (`parse_quoted`). So
the source is one reference, its template one call, and a function gets the arguments as they were
(`call_reaches_function`).
-/

namespace StyledMarkup

open Mark

variable {σ : Type}

/-! ## Escaped texts -/

theorem escapeEach_of_forall {isSpecial : Char → Bool} {t : Text}
    (h : ∀ c ∈ t, isSpecial c = false) : escapeEach isSpecial t = t := by
  induction t with
  | nil => rfl
  | cons c t ih =>
    rw [escapeEach_plain (h c List.mem_cons_self), ih fun d hd => h d (List.mem_cons_of_mem _ hd)]

theorem escapeEach_join (isSpecial : Char → Bool) {separator : Text}
    (h : escapeEach isSpecial separator = separator) : ∀ texts : List Text,
      escapeEach isSpecial (Text.join separator texts) =
        Text.join separator (texts.map (escapeEach isSpecial))
  | [] => rfl
  | [_] => rfl
  | t :: next :: rest => by
    rw [Text.join, escapeEach_append, escapeEach_append, h,
      escapeEach_join isSpecial h (next :: rest)]
    rfl

namespace Call

/-! ## The written form -/

/-- Whether the name of the call can stand in markup as it is. -/
def HasPlainName (call : Call) : Prop :=
  ∀ c ∈ call.name, c ≠ '(' ∧ Text.isBlank c = false ∧ c ≠ '&' ∧ isBrace c = false

instance (call : Call) : Decidable call.HasPlainName :=
  List.decidableBAll _ call.name

/-- An argument as markup: empty quotes, and each character behind a backslash, a brace behind an
escape character too. -/
def writtenArg (arg : Text) : Text :=
  '"' :: '"' :: arg.flatMap fun c => if isBrace c then ['\\', '&', c] else ['\\', c]

/-- The call as markup. -/
def toSource (call : Call) : Text :=
  '{' :: call.name ++ '(' :: Text.join [','] (call.args.map writtenArg) ++ [')', '}']

/-- An argument as it stands in the body of a reference. -/
def quotedArg (arg : Text) : Text :=
  '"' :: '"' :: arg.flatMap fun c => ['\\', c]

/-- The body of a reference to the call. -/
def quoted (call : Call) : Text :=
  call.name ++ '(' :: (Text.join [','] (call.args.map quotedArg) ++ [')'])

/-! ## From the source to the body -/

theorem escapeEach_quotedArg (arg : Text) :
    escapeEach isBrace (quotedArg arg) = writtenArg arg := by
  have hq : isBrace '"' = false := rfl
  have hb : isBrace '\\' = false := rfl
  rw [quotedArg, escapeEach_plain hq, escapeEach_plain hq, writtenArg]
  congr 2
  induction arg with
  | nil => rfl
  | cons c arg ih =>
    rw [List.flatMap_cons, List.flatMap_cons, escapeEach_append, ih, escapeEach_plain hb]
    congr 1
    cases hc : isBrace c with
    | true => rw [escapeEach_special hc, if_pos rfl, escapeEach_nil]
    | false => rw [escapeEach_plain hc, if_neg Bool.false_ne_true, escapeEach_nil]

theorem getLast?_quoted (call : Call) : call.quoted.getLast? = some ')' := by
  rw [quoted, ← List.cons_append, ← List.append_assoc, List.getLast?_concat]

theorem written_quoted {call : Call} (h : call.HasPlainName) :
    (Token.reference call.quoted).written = call.toSource := by
  have hname : escapeEach isBrace call.name = call.name :=
    escapeEach_of_forall fun c hc => (h c hc).2.2.2
  have hargs : (call.args.map quotedArg).map (escapeEach isBrace) = call.args.map writtenArg := by
    rw [List.map_map]
    exact List.map_congr_left fun arg _ => escapeEach_quotedArg arg
  have hbody : escapeEach isBrace call.quoted =
      call.name ++ '(' :: (Text.join [','] (call.args.map writtenArg) ++ [')']) := by
    rw [quoted, escapeEach_append, hname, escapeEach_plain (by rfl), escapeEach_append,
      escapeEach_join isBrace rfl, hargs]
    rfl
  rw [Token.written, writtenBody, getLast?_quoted, if_neg (by decide), hbody, toSource]
  simp

/-- Whether every brace of the text stands right behind a backslash, whatever stands before the
text. -/
def HidesBraces (t : Text) : Prop :=
  ∀ a, (a :: t).IsChain fun c d => isBrace d = true → c = '\\'

theorem hidesBraces_cons {c : Char} (hc : isBrace c = false) {t : Text} (h : HidesBraces t) :
    HidesBraces (c :: t) :=
  fun _ => List.isChain_cons_cons.2 ⟨fun hb => absurd (hc.symm.trans hb) Bool.false_ne_true, h c⟩

theorem hidesBraces_append {s t : Text} (hs : ∀ c ∈ s, isBrace c = false) (h : HidesBraces t) :
    HidesBraces (s ++ t) := by
  induction s with
  | nil => exact h
  | cons c s ih =>
    have hrest := ih fun d hd => hs d (List.mem_cons_of_mem _ hd)
    exact hidesBraces_cons (hs c List.mem_cons_self) hrest

theorem hidesBraces_backslash (c : Char) {t : Text} (h : HidesBraces t) :
    HidesBraces ('\\' :: c :: t) :=
  fun _ => List.isChain_cons_cons.2
    ⟨fun hb => absurd hb (by decide), List.isChain_cons_cons.2 ⟨fun _ => rfl, h c⟩⟩

theorem hidesBraces_quotedArg (arg : Text) {t : Text} (h : HidesBraces t) :
    HidesBraces (quotedArg arg ++ t) := by
  refine hidesBraces_cons rfl (hidesBraces_cons rfl ?_)
  induction arg with
  | nil => exact h
  | cons c arg ih => exact hidesBraces_backslash c ih

theorem hidesBraces_join {t : Text} (h : HidesBraces t) : ∀ args : List Text,
    HidesBraces (Text.join [','] (args.map quotedArg) ++ t)
  | [] => h
  | [arg] => hidesBraces_quotedArg arg h
  | arg :: next :: rest => by
    rw [List.map_cons, List.map_cons, Text.join, List.append_assoc, List.append_assoc]
    exact hidesBraces_quotedArg arg (hidesBraces_cons rfl (hidesBraces_join h (next :: rest)))

theorem hidesBraces_quoted {call : Call} (h : call.HasPlainName) : HidesBraces call.quoted := by
  have hclose : HidesBraces [')'] := hidesBraces_cons rfl fun a => List.isChain_singleton a
  exact hidesBraces_append (fun c hc => (h c hc).2.2.2)
    (hidesBraces_cons rfl (hidesBraces_join hclose call.args))

theorem keepsBraces_quoted {call : Call} (h : call.HasPlainName) : KeepsBraces call.quoted := by
  intro pair hp hi
  have hchain := List.IsChain.infix (hidesBraces_quoted h 'a').tail hi
  simp only [List.mem_cons, List.not_mem_nil, or_false] at hp
  rcases hp with rfl | rfl
  · exact absurd ((List.isChain_cons_cons.1 hchain).1 rfl) (by decide)
  · exact absurd ((List.isChain_cons_cons.1 hchain).1 rfl) (by decide)

theorem trim_quoted {call : Call} (h : call.HasPlainName) : call.quoted.trim = call.quoted := by
  refine Text.trim_eq_self (fun c hc => ?_) fun c hc => ?_
  · rw [quoted] at hc
    rcases hn : call.name with _ | ⟨d, name⟩
    · rw [hn] at hc
      cases hc
      rfl
    · rw [hn] at hc
      have hd : d = c := Option.some.inj hc
      exact (h c (by rw [hn, hd]; exact List.mem_cons_self)).2.1
  · rw [getLast?_quoted] at hc
    cases hc
    rfl

theorem tokenize_toSource {call : Call} (h : call.HasPlainName) :
    tokenize call.toSource = [.reference call.quoted] := by
  have honce := onePass_reference (keepsBraces_quoted h) (trim_quoted h) Nat.zero_ne_one []
  rw [written_quoted h, List.append_nil] at honce
  rw [tokenize_eq_onePass, ofText, honce, matched, onePass]
  rfl

/-! ## From the body to the call -/

/-- The parts of an argument in the body: empty quotes, and each character behind a backslash. -/
def quotedParts (arg : Text) : List Part :=
  .quoted [] :: arg.map fun c => .letter (.escaped c)

/-- The body as a spelling of the call. -/
def quotedSpelling (call : Call) : Spelling where
  name := call.name
  args := call.args.map quotedParts
  tail := []

theorem written_quotedParts (arg : Text) :
    (quotedParts arg).flatMap Part.written = quotedArg arg := by
  rw [quotedParts, List.flatMap_cons, List.flatMap_map]
  rfl

theorem content_quotedParts (arg : Text) : (quotedParts arg).flatMap Part.content = arg := by
  rw [quotedParts, List.flatMap_cons, List.flatMap_map]
  exact List.flatMap_singleton' arg

theorem isValid_of_mem_quotedParts {arg : Text} {part : Part} (h : part ∈ quotedParts arg) :
    part.isValid = true := by
  rcases List.mem_cons.1 h with rfl | h
  · rfl
  · obtain ⟨c, -, rfl⟩ := List.mem_map.1 h
    rfl

theorem toText_quotedSpelling (call : Call) : call.quotedSpelling.toText = call.quoted := by
  have hargs : (call.args.map quotedParts).map (·.flatMap Part.written) =
      call.args.map quotedArg := by
    rw [List.map_map]
    exact List.map_congr_left fun arg _ => written_quotedParts arg
  rw [Spelling.toText, quotedSpelling, hargs, quoted]

theorem spells_quotedSpelling (call : Call) : call.quotedSpelling.Spells call where
  name := .refl call.name
  args := by
    rw [quotedSpelling, List.map_map]
    exact (List.map_congr_left fun arg _ => content_quotedParts arg).trans (List.map_id _)
  valid parts hparts part hpart := by
    obtain ⟨arg, -, rfl⟩ := List.mem_map.1 hparts
    exact isValid_of_mem_quotedParts hpart
  quoted hone := by
    refine ⟨quotedParts [], ?_, .quoted [], List.mem_cons_self, rfl⟩
    rw [quotedSpelling, hone]
    exact List.mem_cons_self

theorem parse_quoted {call : Call} (h : call.HasPlainName) : parse call.quoted = .ok call := by
  have hname : call.HasName := fun c hc => ⟨(h c hc).1, (h c hc).2.1⟩
  rw [← toText_quotedSpelling]
  exact parse_toText hname (spells_quotedSpelling call)

/-! ## From the call to the function -/

theorem body_compile_toSource {call : Call} (h : call.HasPlainName) :
    (Template.compile call.toSource).body = .dynamic [.call call] := by
  have hnode : (Token.reference call.quoted).node = .call call := by
    rw [Token.node_reference, parse_quoted h]
  simp [Template.compile, tokenize_toSource h, FlatBody.ofTokens, FlatBody.nodesOf, hnode,
    Node.flat, Node.push, Node.isText]

/-- A call that is written as markup is read as one reference and compiled to one node, and a
function of its name is called once, with just its arguments. -/
theorem call_reaches_function {call : Call} (h : call.HasPlainName) :
    (∃ body, tokenize call.toSource = [.reference body]) ∧
    (Template.compile call.toSource).body = .dynamic [.call call] ∧
    ∀ (vars : Variables σ) (function : List Text → Render σ Text),
      vars.functions.get? call.name = some function →
        (Template.compile call.toSource).render vars.bindings =
          Render.borrowing (function call.args) := by
  refine ⟨⟨_, tokenize_toSource h⟩, body_compile_toSource h, fun vars function hf => ?_⟩
  rw [Template.render, body_compile_toSource h, FlatBody.render,
    FlatBody.renderNodes_eq_borrowing]
  congr 1
  simp [FlatBody.writeNodes, FlatBody.writeNode, Variables.bindings, hf, Answer.found]

theorem call_reaches_function_braces :
    let call : Call :=
      ⟨"f\"".toList, ["\x7b&\x7d,\"\\".toList, [], "http://e.org/?a=&b )".toList]⟩
    let vars : Variables Nat := Variables.empty.setFunction call.name fun args =>
      Render.remember fun n => (Text.join ['|'] args, n + 1)
    call.HasPlainName ∧
      call.toSource = "\x7bf\"(\"\"\\&\x7b\\&\\&\x7d\\,\\\"\\\\,\"\",\"\"".toList ++
        "\\h\\t\\t\\p\\:\\/\\/\\e\\.\\o\\r\\g\\/\\?\\a\\=\\&\\b\\ \\))\x7d".toList ∧
      ((Template.compile call.toSource).render vars.bindings (Context.fresh 3)).1 =
        "\x7b&\x7d,\"\\||http://e.org/?a=&b )".toList := by
  intro call vars
  have hname : call.HasPlainName := by decide
  refine ⟨hname, by decide +kernel, ?_⟩
  have hrender := (call_reaches_function hname).2.2 vars _ (by rfl)
  rw [hrender]
  decide +kernel

end Call
end StyledMarkup
