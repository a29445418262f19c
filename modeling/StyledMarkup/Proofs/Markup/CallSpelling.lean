import StyledMarkup.Proofs.Markup.CallPlaces

/-!
# The spellings of a call

A call can be written in many ways: blanks stand for nothing outside quotes, any character may
stand behind a backslash, and any stretch of an argument may stand in quotes. Every spelling is
read as the call that it spells (`parse_spelling`).

A part of an argument gives its symbols whatever follows it (`symbols_part`), and an argument
without a comma of its own gives one stretch of characters (`stretches_append`), so the arguments
come back one by one.
-/

namespace StyledMarkup
namespace Call

/-! ## Spellings -/

/-- A character of an argument as it is written. -/
inductive Letter where
  /-- The character as it is. -/
  | plain (c : Char)
  /-- The character behind a backslash. -/
  | escaped (c : Char)
deriving DecidableEq

namespace Letter

def char : Letter → Char
  | plain c => c
  | escaped c => c

def written : Letter → Text
  | plain c => [c]
  | escaped c => ['\\', c]

/-- Whether the letter stands for its character outside quotes. -/
def isBare : Letter → Bool
  | plain c => !Text.isBlank c && !(['\\', '"', ',', ')'].contains c)
  | escaped _ => true

/-- Whether the letter stands for its character between quotes. -/
def isQuotable : Letter → Bool
  | plain c => c != '\\' && c != '"'
  | escaped _ => true

end Letter

/-- A part of an argument as it is written. -/
inductive Part where
  | letter (l : Letter)
  /-- A blank that stands for nothing. -/
  | blank (c : Char)
  | quoted (letters : List Letter)
deriving DecidableEq

namespace Part

/-- Whether the part can stand in an argument. -/
def isValid : Part → Bool
  | letter l => l.isBare
  | blank c => Text.isBlank c
  | quoted letters => letters.all Letter.isQuotable

def isQuoted : Part → Bool
  | quoted _ => true
  | _ => false

def written : Part → Text
  | letter l => l.written
  | blank c => [c]
  | quoted letters => '"' :: letters.flatMap Letter.written ++ ['"']

/-- What the part stands for. -/
def content : Part → Text
  | letter l => [l.char]
  | blank _ => []
  | quoted letters => letters.map Letter.char

end Part

/-- Whether the first text is the second one with blanks put into it anywhere. -/
inductive IsSpaced : Text → Text → Prop where
  | nil : IsSpaced [] []
  | blank {c : Char} {s t : Text} : Text.isBlank c = true → IsSpaced s t → IsSpaced (c :: s) t
  | char (c : Char) {s t : Text} : IsSpaced s t → IsSpaced (c :: s) (c :: t)

/-- A way to write a call. -/
structure Spelling where
  name : Text
  args : List (List Part)
  /-- What follows the closing parenthesis. -/
  tail : Text

namespace Spelling

def toText (spelling : Spelling) : Text :=
  spelling.name ++ '(' ::
    (Text.join [','] (spelling.args.map (·.flatMap Part.written)) ++ ')' :: spelling.tail)

/-- Whether the spelling is one of the call: blanks may stand in the name, the parts of each
argument give the argument, and a single empty argument needs quotes. -/
structure Spells (spelling : Spelling) (call : Call) : Prop where
  name : IsSpaced spelling.name call.name
  args : spelling.args.map (·.flatMap Part.content) = call.args
  valid : ∀ parts ∈ spelling.args, ∀ part ∈ parts, part.isValid = true
  quoted : call.args = [[]] → ∃ parts ∈ spelling.args, ∃ part ∈ parts, part.isQuoted = true

end Spelling

/-! ## The name -/

theorem IsSpaced.refl : ∀ t : Text, IsSpaced t t
  | [] => .nil
  | c :: t => .char c (refl t)

theorem IsSpaced.filter {s t : Text} (h : IsSpaced s t) (ht : ∀ c ∈ t, Text.isBlank c = false) :
    (s.filter fun c => !Text.isBlank c) = t := by
  induction h with
  | nil => rfl
  | blank hc _ ih => rw [List.filter_cons_of_neg (by simp [hc]), ih ht]
  | char c _ ih =>
    obtain ⟨hc, hrest⟩ := List.forall_mem_cons.1 ht
    rw [List.filter_cons_of_pos (by simp [hc]), ih hrest]

theorem IsSpaced.mem {s t : Text} (h : IsSpaced s t) {c : Char} (hc : c ∈ s) :
    c ∈ t ∨ Text.isBlank c = true := by
  induction h with
  | nil => cases hc
  | blank hb _ ih =>
    rcases List.mem_cons.1 hc with rfl | hc
    · exact .inr hb
    · exact ih hc
  | char d _ ih =>
    rcases List.mem_cons.1 hc with rfl | hc
    · exact .inl List.mem_cons_self
    · exact (ih hc).imp (List.mem_cons_of_mem d) id

/-! ## The arguments -/

/-- The symbols of a part. -/
def Part.symbols : Part → List Symbol
  | letter l => [.char l.char]
  | blank _ => []
  | quoted letters => .quote :: letters.map (.char ·.char) ++ [.quote]

theorem Part.comma_notMem_symbols (part : Part) : .comma ∉ part.symbols := by
  cases part <;> simp [symbols]

theorem Part.filterMap_symbols (part : Part) :
    part.symbols.filterMap Symbol.char? = part.content := by
  cases part with
  | letter l => rfl
  | blank c => rfl
  | quoted letters =>
    have hletters : (letters.map (Symbol.char ·.char)).filterMap Symbol.char? =
        letters.map Letter.char := by
      rw [List.filterMap_map, ← List.filterMap_eq_map]
      rfl
    rw [symbols, List.cons_append, List.filterMap_cons_none (by rfl), List.filterMap_append,
      hletters, content]
    exact List.append_nil _

theorem symbols_letter {l : Letter} (h : l.isBare = true) (rest : Text) :
    symbols false (l.written ++ rest) = .char l.char :: symbols false rest := by
  cases l with
  | escaped c => rfl
  | plain c =>
    obtain ⟨hblank, hb, hq, hm, he⟩ :
        Text.isBlank c = false ∧ c ≠ '\\' ∧ c ≠ '"' ∧ c ≠ ',' ∧ c ≠ ')' := by
      simpa [Letter.isBare] using h
    rw [Letter.written, List.singleton_append, symbols_cons hb, if_neg hq,
      if_neg Bool.false_ne_true, if_neg hm, if_neg he, hblank, if_neg Bool.false_ne_true, Letter.char]

theorem symbols_quotable {letters : List Letter} (h : letters.all Letter.isQuotable = true)
    (rest : Text) : symbols true (letters.flatMap Letter.written ++ rest) =
      letters.map (.char ·.char) ++ symbols true rest := by
  induction letters with
  | nil => rfl
  | cons l letters ih =>
    obtain ⟨hl, hrest⟩ := List.forall_mem_cons.1 (List.all_eq_true.1 h)
    rw [List.flatMap_cons, List.append_assoc, List.map_cons, List.cons_append,
      ← ih (List.all_eq_true.2 hrest)]
    cases l with
    | escaped c => rfl
    | plain c =>
      obtain ⟨hb, hq⟩ : c ≠ '\\' ∧ c ≠ '"' := by simpa [Letter.isQuotable] using hl
      rw [Letter.written, List.singleton_append, symbols_cons hb, if_neg hq, if_pos rfl,
        Letter.char]

theorem symbols_part {part : Part} (h : part.isValid = true) (rest : Text) :
    symbols false (part.written ++ rest) = part.symbols ++ symbols false rest := by
  cases part with
  | letter l => exact symbols_letter h rest
  | blank c =>
    have hne : ∀ {d}, Text.isBlank d = false → c ≠ d := Text.ne_of_isBlank h
    rw [Part.written, List.singleton_append, symbols_cons (hne rfl), if_neg (hne rfl),
      if_neg Bool.false_ne_true, if_neg (hne rfl), if_neg (hne rfl)]
    exact if_pos h
  | quoted letters =>
    have hletters := symbols_quotable h ('"' :: rest)
    rw [Part.written, Part.symbols, List.append_assoc, List.append_assoc]
    exact congrArg (Symbol.quote :: ·) hletters

theorem symbols_parts {parts : List Part} (h : ∀ part ∈ parts, part.isValid = true)
    (rest : Text) : symbols false (parts.flatMap Part.written ++ rest) =
      parts.flatMap Part.symbols ++ symbols false rest := by
  induction parts with
  | nil => rfl
  | cons part parts ih =>
    obtain ⟨hpart, hparts⟩ := List.forall_mem_cons.1 h
    rw [List.flatMap_cons, List.append_assoc, symbols_part hpart, ih hparts, List.flatMap_cons,
      List.append_assoc]

/-- An argument makes a part of the stretch that is read where it stands. -/
theorem stretches_parts {parts : List Part} (h : ∀ part ∈ parts, part.isValid = true)
    {rest first : Text} {others : List Text}
    (hr : stretches (symbols false rest) = first :: others) :
    stretches (symbols false (parts.flatMap Part.written ++ rest)) =
      (parts.flatMap Part.content ++ first) :: others := by
  have hcomma : .comma ∉ parts.flatMap Part.symbols := by
    simp only [List.mem_flatMap, not_exists, not_and]
    exact fun part _ => part.comma_notMem_symbols
  have hcontent : (parts.flatMap Part.symbols).filterMap Symbol.char? =
      parts.flatMap Part.content := by
    rw [List.filterMap_flatMap]
    exact congrArg (List.flatMap · parts) (funext Part.filterMap_symbols)
  rw [symbols_parts h, stretches_append hcomma hr, hcontent]

theorem stretches_spelled (parts : List Part) (rest : List (List Part))
    (h : ∀ arg ∈ parts :: rest, ∀ part ∈ arg, part.isValid = true) (tail : Text) :
    stretches (symbols false
        (Text.join [','] ((parts :: rest).map (·.flatMap Part.written)) ++ ')' :: tail)) =
      (parts :: rest).map (·.flatMap Part.content) := by
  induction rest generalizing parts with
  | nil =>
    have hend : stretches (symbols false (')' :: tail)) = [[]] := rfl
    rw [List.map_singleton, Text.join, stretches_parts (h parts List.mem_cons_self) hend,
      List.append_nil, List.map_singleton]
  | cons next rest ih =>
    obtain ⟨hparts, hrest⟩ := List.forall_mem_cons.1 h
    have hcomma : stretches (symbols false (',' ::
        (Text.join [','] ((next :: rest).map (·.flatMap Part.written)) ++ ')' :: tail))) =
          [] :: (next :: rest).map (·.flatMap Part.content) :=
      congrArg ([] :: ·) (ih next hrest)
    rw [List.map_cons, List.map_cons, Text.join, List.append_assoc, List.append_assoc,
      ← List.map_cons, List.singleton_append, stretches_parts hparts hcomma, List.append_nil,
      ← List.map_cons]

/-- The arguments come back from their spelling, if a single empty one is in quotes. -/
theorem arguments_spelled {args : List (List Part)}
    (h : ∀ parts ∈ args, ∀ part ∈ parts, part.isValid = true)
    (hq : args.map (·.flatMap Part.content) = [[]] →
      ∃ parts ∈ args, ∃ part ∈ parts, part.isQuoted = true) (tail : Text) :
    arguments (symbols false
        (Text.join [','] (args.map (·.flatMap Part.written)) ++ ')' :: tail)) =
      args.map (·.flatMap Part.content) := by
  rcases args with _ | ⟨parts, rest⟩
  · rfl
  have hstretches := stretches_spelled parts rest h tail
  rw [arguments_eq_stretches, hstretches]
  intro hnil
  -- Without symbols there is one empty argument, and the quotes in it are symbols.
  rw [hnil] at hstretches
  obtain rfl : rest = [] := by
    have hlen := congrArg List.length hstretches
    simpa [stretches] using hlen.symm
  obtain ⟨arg, harg, part, hpart, hquoted⟩ := hq hstretches.symm
  obtain rfl := List.mem_singleton.1 harg
  rw [List.map_singleton, Text.join, symbols_parts (h arg harg), List.append_eq_nil_iff,
    List.flatMap_eq_nil_iff] at hnil
  cases part with
  | letter l => exact Bool.false_ne_true hquoted
  | blank c => exact Bool.false_ne_true hquoted
  | quoted letters => exact List.cons_ne_nil _ _ (hnil.1 _ hpart)

/-! ## The call -/

/-- Whether the call can be spelled: its name has no blank and no opening parenthesis. -/
def HasName (call : Call) : Prop :=
  ∀ c ∈ call.name, c ≠ '(' ∧ Text.isBlank c = false

instance (call : Call) : Decidable call.HasName :=
  List.decidableBAll _ call.name

theorem parse_toText {call : Call} (hname : call.HasName) {spelling : Spelling}
    (h : spelling.Spells call) : parse spelling.toText = .ok call := by
  have hopen : '(' ∉ spelling.name := by
    intro hm
    rcases h.name.mem hm with hm | hb
    · exact (hname _ hm).1 rfl
    · exact absurd hb (by decide)
  have hquoted := fun hone => h.quoted (h.args ▸ hone)
  rw [parse, Spelling.toText, Text.cutAt?_append hopen]
  simp only [h.name.filter fun c hc => (hname c hc).2, arguments_spelled h.valid hquoted, h.args]

/-- Every spelling of a call is read as the call, whatever follows it, and a text without an
opening parenthesis is refused as it is. -/
theorem parse_spelling :
    (∀ call : Call, call.HasName → ∀ spelling : Spelling, spelling.Spells call →
      parse spelling.toText = .ok call) ∧
    ∀ body : Text, '(' ∉ body → parse body = .error ⟨body⟩ := by
  refine ⟨fun call hname spelling h => parse_toText hname h, fun body h => ?_⟩
  rw [parse, Text.cutAt?_of_not_mem h]

theorem parse_spelling_mixed :
    let call : Call := ⟨['f'], ["a,\"".toList, [], "b) c".toList]⟩
    let spelling : Spelling :=
      { name := " f\t".toList
        args := [
          [.letter (.plain 'a'), .blank ' ', .letter (.escaped ','), .quoted [.escaped '"']],
          [.blank '\n'],
          [.letter (.plain 'b'), .quoted [.plain ')', .plain ' '], .letter (.escaped 'c')]]
        tail := ",d)".toList }
    call.HasName ∧ spelling.Spells call ∧
      spelling.toText = " f\t(a \\,\"\\\"\",\n,b\") \"\\c),d)".toList ∧
      parse spelling.toText = .ok call ∧ parse "f)".toList = .error ⟨"f)".toList⟩ := by
  intro call spelling
  have hname : call.HasName := by decide
  have hspells : spelling.Spells call :=
    ⟨.blank rfl (.char 'f' (.blank rfl .nil)), by decide, by decide, by decide⟩
  exact ⟨hname, hspells, by decide, parse_spelling.1 call hname spelling hspells,
    parse_spelling.2 _ (by decide)⟩

end Call
end StyledMarkup
