import Mathlib.Data.List.Basic
import StyledMarkup.Markup.Call
import StyledMarkup.Proofs.Text.Basic

/-!
# What becomes of the characters of a call

Every text with an opening parenthesis is read as a call, however it goes on, and each character
up to the end of the call is accounted for (`parse_accounts`): it is in an argument, or a comma
between two of them, or a quote, a backslash or a blank that stands for nothing. What follows the
closing parenthesis has no influence.

Whether a character is escaped, and whether it is in quotes, is found by going over the text one
character at a time (`places`); the reader of calls takes a backslash and the next character at
once. The symbols that it finds are those of the places (`symbols_eq`).
-/

namespace StyledMarkup
namespace Call

/-! ## Places -/

/-- A character of a text where it stands. -/
structure Place where
  char : Char
  /-- Whether a backslash before it takes it as it is. -/
  escaped : Bool
  /-- Whether it stands behind an odd number of quotes that are not escaped. -/
  quoted : Bool
  /-- Whether nothing follows it. -/
  last : Bool
deriving DecidableEq

/-- The characters of a text where they stand, if the first of them is escaped or quoted as
given. -/
def places (escaped quoted : Bool) : Text → List Place
  | [] => []
  | c :: rest => ⟨c, escaped, quoted, rest.isEmpty⟩ ::
      places (c == '\\' && !escaped) (quoted ^^ (c == '"' && !escaped)) rest

namespace Place

/-- Whether the character is neither escaped nor quoted. -/
def isBare (place : Place) : Bool :=
  !place.escaped && !place.quoted

/-- Whether the place ends the call. -/
def isEnd (place : Place) : Bool :=
  place.char == ')' && place.isBare

/-- Whether the place parts two arguments. -/
def isComma (place : Place) : Bool :=
  place.char == ',' && place.isBare

/-- Whether the place is a blank that stands for nothing. -/
def isBlank (place : Place) : Bool :=
  Text.isBlank place.char && place.isBare

/-- Whether the place is a backslash that takes the next character as it is. -/
def isEscaping (place : Place) : Bool :=
  place.char == '\\' && !place.escaped && !place.last

/-- Whether the character belongs to an argument. -/
def isKept (place : Place) : Bool :=
  place.escaped ||
    place.quoted && place.char != '"' && !place.isEscaping ||
    !place.quoted && !Text.isBlank place.char && place.char != ',' && place.char != '"' &&
      !place.isEscaping

/-- The symbol of a place before the end of the call, unless it stands for nothing. -/
def symbol? (place : Place) : Option Symbol :=
  if place.escaped then some (.char place.char)
  else if place.char = '\\' then if place.last then some (.char place.char) else none
  else if place.char = '"' then some .quote
  else if place.quoted then some (.char place.char)
  else if place.char = ',' then some .comma
  else if Text.isBlank place.char then none
  else some (.char place.char)

end Place

/-- The places before the end of the call, in the text behind the opening parenthesis. -/
def stretch (quoted : Bool) (t : Text) : List Place :=
  (places false quoted t).takeWhile fun place => !place.isEnd

/-- The character of a symbol that is one. -/
def Symbol.char? : Symbol → Option Char
  | char c => some c
  | comma => none
  | quote => none

namespace Place

/-- A character that has a meaning of its own, and one that has none, beside each other. -/
theorem char_cases (c : Char) : c ∈ ['\\', '"', ','] ∨ c ≠ '\\' ∧ c ≠ '"' ∧ c ≠ ',' := by
  by_cases h : c ∈ ['\\', '"', ',']
  · exact .inl h
  · simp only [List.mem_cons, List.not_mem_nil, or_false, not_or] at h
    exact .inr h

theorem symbol?_eq_none_iff {place : Place} (he : place.escaped = false)
    (hc : place.char ≠ '\\') : place.symbol? = none ↔ place.isBlank = true := by
  obtain ⟨c, escaped, quoted, last⟩ := place
  obtain rfl : escaped = false := he
  rcases char_cases c with h | ⟨-, hq, hm⟩
  · simp only [List.mem_cons, List.not_mem_nil, or_false] at h
    rcases h with rfl | rfl | rfl
    · exact absurd rfl hc
    · cases quoted <;> cases last <;> decide
    · cases quoted <;> cases last <;> decide
  · cases quoted <;> simp_all [symbol?, isBlank, isBare]

/-- A place is kept if and only if its symbol is its character. -/
theorem symbol?_bind_char? (place : Place) :
    place.symbol?.bind Symbol.char? = if place.isKept then some place.char else none := by
  obtain ⟨c, escaped, quoted, last⟩ := place
  cases escaped with
  | true => rfl
  | false =>
    rcases char_cases c with h | ⟨hb, hq, hm⟩
    · simp only [List.mem_cons, List.not_mem_nil, or_false] at h
      rcases h with rfl | rfl | rfl <;> cases quoted <;> cases last <;> rfl
    · cases quoted <;> cases hblank : Text.isBlank c <;>
        simp [symbol?, isKept, isEscaping, hb, hq, hm, hblank, Symbol.char?]

theorem symbol?_eq_comma_iff (place : Place) :
    place.symbol? = some .comma ↔ place.isComma = true := by
  obtain ⟨c, escaped, quoted, last⟩ := place
  cases escaped with
  | true => simp [symbol?, isComma, isBare]
  | false =>
    rcases char_cases c with h | ⟨hb, hq, hm⟩
    · simp only [List.mem_cons, List.not_mem_nil, or_false] at h
      rcases h with rfl | rfl | rfl <;> cases quoted <;> cases last <;> decide
    · cases quoted <;> cases hblank : Text.isBlank c <;>
        simp [symbol?, isComma, isBare, hb, hq, hm, hblank]

end Place

/-! ## The symbols of a text -/

/-- Induction along a text as it is read: a backslash goes with the character behind it. -/
theorem reading_induction {motive : Bool → Text → Prop} (nil : ∀ quoted, motive quoted [])
    (lone : ∀ quoted, motive quoted ['\\'])
    (escape : ∀ quoted c rest, motive quoted rest → motive quoted ('\\' :: c :: rest))
    (plain : ∀ quoted c rest, c ≠ '\\' → motive (quoted ^^ (c == '"')) rest →
      motive quoted (c :: rest)) : ∀ quoted t, motive quoted t
  | quoted, [] => nil quoted
  | quoted, [c] => by
    by_cases h : c = '\\'
    · exact h ▸ lone quoted
    · exact plain quoted c [] h (nil _)
  | quoted, c :: d :: rest => by
    by_cases h : c = '\\'
    · exact h ▸ escape quoted d rest (reading_induction nil lone escape plain quoted rest)
    · exact plain quoted c (d :: rest) h (reading_induction nil lone escape plain _ (d :: rest))

theorem stretch_escape (quoted : Bool) (c : Char) (rest : Text) :
    stretch quoted ('\\' :: c :: rest) =
      ⟨'\\', false, quoted, false⟩ :: ⟨c, true, quoted, rest.isEmpty⟩ :: stretch quoted rest := by
  simp [stretch, places, Place.isEnd, Place.isBare]

theorem stretch_end (rest : Text) : stretch false (')' :: rest) = [] := by
  simp [stretch, places, Place.isEnd, Place.isBare]

theorem stretch_plain {quoted : Bool} {c : Char} (h : c ≠ '\\') (hend : c = ')' → quoted = true)
    (rest : Text) : stretch quoted (c :: rest) =
      ⟨c, false, quoted, rest.isEmpty⟩ :: stretch (quoted ^^ (c == '"')) rest := by
  have hc : (c == '\\') = false := by simpa using h
  have hgo : (!Place.isEnd ⟨c, false, quoted, rest.isEmpty⟩) = true := by
    simpa [Place.isEnd, Place.isBare, imp_iff_not_or] using hend
  simp only [stretch, places, hc, Bool.and_true, Bool.not_false]
  exact List.takeWhile_cons_of_pos hgo

theorem symbols_escape (quoted : Bool) (c : Char) (rest : Text) :
    symbols quoted ('\\' :: c :: rest) = .char c :: symbols quoted rest := rfl

theorem symbols_end (rest : Text) : symbols false (')' :: rest) = [] := rfl

theorem symbols_cons {c : Char} (h : c ≠ '\\') (quoted : Bool) (rest : Text) :
    symbols quoted (c :: rest) =
      if c = '"' then .quote :: symbols (!quoted) rest
      else if quoted then .char c :: symbols quoted rest
      else if c = ',' then .comma :: symbols quoted rest
      else if c = ')' then []
      else if Text.isBlank c then symbols quoted rest
      else .char c :: symbols quoted rest := by
  rw [symbols] <;> simp [h]

/-- What is read at a character that is no backslash and does not end the call. -/
theorem symbols_plain {quoted : Bool} {c : Char} (h : c ≠ '\\') (hend : c = ')' → quoted = true)
    (last : Bool) (rest : Text) : symbols quoted (c :: rest) =
      (Place.symbol? ⟨c, false, quoted, last⟩).toList ++ symbols (quoted ^^ (c == '"')) rest := by
  rw [symbols_cons h]
  by_cases hq : c = '"'
  · subst hq
    simp [Place.symbol?]
  have hstay : (quoted ^^ (c == '"')) = quoted := by
    rw [beq_eq_false_iff_ne.2 hq, Bool.xor_false]
  rw [hstay, if_neg hq]
  simp only [Place.symbol?, h, hq, Bool.false_eq_true, if_false]
  cases quoted with
  | true => rfl
  | false =>
    have hne : c ≠ ')' := fun hc => Bool.false_ne_true (hend hc)
    by_cases hc : c = ','
    · simp [hc]
    by_cases hb : Text.isBlank c = true
    · simp [hc, hne, hb]
    · simp [hc, hne, hb]

theorem symbols_eq (quoted : Bool) (t : Text) :
    symbols quoted t = (stretch quoted t).filterMap Place.symbol? := by
  induction quoted, t using reading_induction with
  | nil quoted => rfl
  | lone quoted => cases quoted <;> rfl
  | escape quoted c rest ih =>
    rw [symbols_escape, stretch_escape, List.filterMap_cons_none (by rfl),
      List.filterMap_cons_some (by rfl), ih]
  | plain quoted c rest h ih =>
    by_cases hend : c = ')' ∧ quoted = false
    · obtain ⟨rfl, rfl⟩ := hend
      rw [symbols_end, stretch_end]
      rfl
    · have hgo : c = ')' → quoted = true := by simpa using hend
      rw [symbols_plain h hgo rest.isEmpty, stretch_plain h hgo, ih, List.filterMap_cons]
      cases Place.symbol? ⟨c, false, quoted, rest.isEmpty⟩ <;> rfl

/-- A text has no symbols if and only if it is made of blanks that stand for nothing. -/
theorem symbols_eq_nil_iff (quoted : Bool) (t : Text) :
    symbols quoted t = [] ↔ ∀ place ∈ stretch quoted t, place.isBlank = true := by
  induction quoted, t using reading_induction with
  | nil quoted => exact iff_of_true rfl fun _ hp => nomatch hp
  | lone quoted =>
    refine iff_of_false (List.cons_ne_nil _ _) fun hall => ?_
    have h := hall ⟨'\\', false, quoted, true⟩ (by cases quoted <;> decide)
    cases quoted <;> exact absurd h (by decide)
  | escape quoted c rest ih =>
    rw [stretch_escape]
    refine iff_of_false (List.cons_ne_nil _ _) fun hall => ?_
    have h := hall _ List.mem_cons_self
    cases quoted <;> exact absurd h (by decide)
  | plain quoted c rest hc ih =>
    by_cases hend : c = ')' ∧ quoted = false
    · obtain ⟨rfl, rfl⟩ := hend
      rw [symbols_end, stretch_end]
      exact iff_of_true rfl fun _ hp => nomatch hp
    · have hgo : c = ')' → quoted = true := by simpa using hend
      rw [symbols_plain hc hgo rest.isEmpty, stretch_plain hc hgo, List.append_eq_nil_iff, ih,
        List.forall_mem_cons]
      refine and_congr_left' ?_
      rw [Option.toList_eq_nil_iff]
      exact Place.symbol?_eq_none_iff rfl hc

/-- What follows the end of the call is not read. -/
theorem symbols_cut (quoted : Bool) (t : Text) (h : (stretch quoted t).length < t.length)
    (more : Text) :
    symbols quoted (t.take ((stretch quoted t).length + 1) ++ more) = symbols quoted t := by
  induction quoted, t using reading_induction with
  | nil quoted => exact absurd h (Nat.lt_irrefl _)
  | lone quoted => cases quoted <;> exact absurd h (Nat.lt_irrefl _)
  | escape quoted c rest ih =>
    simp only [stretch_escape, List.length_cons] at h ⊢
    exact congrArg (Symbol.char c :: ·) (ih (by omega))
  | plain quoted c rest hc ih =>
    by_cases hend : c = ')' ∧ quoted = false
    · obtain ⟨rfl, rfl⟩ := hend
      rw [stretch_end]
      rfl
    · have hgo : c = ')' → quoted = true := by simpa using hend
      rw [stretch_plain hc hgo] at h ⊢
      simp only [List.length_cons] at h ⊢
      rw [List.take_succ_cons, List.cons_append, symbols_plain hc hgo true,
        symbols_plain hc hgo true, ih (by omega)]

/-! ## The arguments of symbols -/

theorem length_stretches (symbols : List Symbol) :
    (stretches symbols).length = symbols.count .comma + 1 := by
  fun_induction stretches symbols with
  | case1 => rfl
  | case2 rest ih => rw [List.length_cons, ih, List.count_cons_self]
  | case3 rest ih => rw [ih, List.count_cons_of_ne (by decide)]
  | case4 c rest h ih =>
    rw [h] at ih
    exact absurd ih (Nat.succ_ne_zero _).symm
  | case5 c rest first others h ih =>
    rw [h] at ih
    rw [List.count_cons_of_ne (by simp)]
    exact ih

theorem flatten_stretches (symbols : List Symbol) :
    (stretches symbols).flatten = symbols.filterMap Symbol.char? := by
  fun_induction stretches symbols with
  | case1 => rfl
  | case2 rest ih => exact ih
  | case3 rest ih => exact ih
  | case4 c rest h ih =>
    rw [h] at ih
    exact congrArg (c :: ·) ih
  | case5 c rest first others h ih =>
    rw [h] at ih
    exact congrArg (c :: ·) ih

/-- Symbols without a comma are a part of the stretch that they stand before. -/
theorem stretches_append {front behind : List Symbol} (h : .comma ∉ front) {first : Text}
    {others : List Text} (hb : stretches behind = first :: others) :
    stretches (front ++ behind) = (front.filterMap Symbol.char? ++ first) :: others := by
  induction front with
  | nil => exact hb
  | cons symbol front ih =>
    have hfront := ih fun hm => h (List.mem_cons_of_mem _ hm)
    cases symbol with
    | comma => exact absurd List.mem_cons_self h
    | quote => exact hfront
    | char c =>
      rw [List.cons_append, stretches, hfront]
      rfl

theorem arguments_eq_stretches {symbols : List Symbol} (h : symbols ≠ []) :
    arguments symbols = stretches symbols := by
  rcases symbols with _ | ⟨symbol, rest⟩
  · exact absurd rfl h
  · rfl

theorem flatten_arguments (symbols : List Symbol) :
    (arguments symbols).flatten = symbols.filterMap Symbol.char? := by
  rcases symbols with _ | ⟨symbol, rest⟩
  · rfl
  · exact flatten_stretches _

theorem arguments_eq_nil_iff (symbols : List Symbol) : arguments symbols = [] ↔ symbols = [] := by
  rcases symbols with _ | ⟨symbol, rest⟩
  · exact iff_of_true rfl rfl
  · refine iff_of_false (fun h => ?_) (List.cons_ne_nil _ _)
    have hlen := length_stretches (symbol :: rest)
    rw [show stretches (symbol :: rest) = [] from h] at hlen
    exact Nat.succ_ne_zero _ hlen.symm

/-! ## Reading any text with an opening parenthesis -/

/-- Whether the arguments account for the text behind the opening parenthesis. -/
structure AccountsFor (args : List Text) (rest : Text) : Prop where
  /-- The arguments are the kept characters of the call, in order. -/
  joined : args.flatten = ((stretch false rest).filter Place.isKept).map Place.char
  /-- There is no argument just if the call is made of blanks that stand for nothing. -/
  eq_nil_iff : args = [] ↔ ∀ place ∈ stretch false rest, place.isBlank = true
  /-- Otherwise there is one more argument than there are commas between them. -/
  length_eq : args ≠ [] → args.length = (stretch false rest).countP Place.isComma + 1

theorem accountsFor_arguments (rest : Text) :
    AccountsFor (arguments (symbols false rest)) rest where
  joined := by
    rw [flatten_arguments, symbols_eq, List.filterMap_filterMap, ← List.filterMap_eq_map,
      List.filterMap_filter]
    exact congrArg (List.filterMap · _) (funext Place.symbol?_bind_char?)
  eq_nil_iff := by rw [arguments_eq_nil_iff, symbols_eq_nil_iff]
  length_eq h := by
    rw [arguments_eq_stretches (mt (arguments_eq_nil_iff _).2 h), length_stretches, symbols_eq,
      List.count_filterMap]
    refine congrArg (· + 1) (List.countP_congr fun place _ => ?_)
    rw [beq_iff_eq, Place.symbol?_eq_comma_iff]

/-- A text with an opening parenthesis is read as a call whose name has no blanks and whose
arguments account for what stands behind the parenthesis, and nothing behind the end of the call
makes a difference. -/
theorem parse_accounts {body : Text} (h : '(' ∈ body) : ∃ before rest args,
    body = before ++ '(' :: rest ∧ '(' ∉ before ∧
    parse body = .ok ⟨before.filter fun c => !Text.isBlank c, args⟩ ∧
    AccountsFor args rest ∧
    ((stretch false rest).length < rest.length → ∀ more,
      parse (before ++ '(' :: (rest.take ((stretch false rest).length + 1) ++ more)) =
        parse body) := by
  obtain ⟨before, rest, rfl, hbefore⟩ := List.eq_append_cons_of_mem h
  refine ⟨before, rest, arguments (symbols false rest), rfl, hbefore, ?_,
    accountsFor_arguments rest, fun hend more => ?_⟩
  · rw [parse, Text.cutAt?_append hbefore]
  · rw [parse, parse, Text.cutAt?_append hbefore, Text.cutAt?_append hbefore]
    simp only [symbols_cut false rest hend more]

theorem parse_accounts_open_quote :
    let body := "f( \\\",,\"b )\")\"x".toList
    '(' ∈ body ∧ ∃ args, parse body = .ok ⟨['f'], args⟩ ∧
      args.flatten = "\"b )".toList ∧ args.length = 3 ∧
      parse "f( \\\",,\"b )\"),\\".toList = parse body := by
  intro body
  have hopen : '(' ∈ body := by decide
  obtain ⟨before, rest, args, hbody, hbefore, hparse, haccount, hmore⟩ := parse_accounts hopen
  have hcut : Text.cutAt? '(' body = some (before, rest) := by
    rw [hbody, Text.cutAt?_append hbefore]
  obtain ⟨rfl, rfl⟩ : ['f'] = before ∧ " \\\",,\"b )\")\"x".toList = rest :=
    Prod.mk.inj (Option.some.inj hcut)
  have hsome : args ≠ [] := fun hnil => absurd (haccount.eq_nil_iff.1 hnil) (by decide)
  exact ⟨hopen, args, hparse, haccount.joined.trans (by decide),
    (haccount.length_eq hsome).trans (by decide), hmore (by decide) ",\\".toList⟩

end Call
end StyledMarkup
