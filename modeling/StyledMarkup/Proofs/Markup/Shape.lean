import StyledMarkup.Proofs.Markup.Written
import StyledMarkup.Proofs.Style.Hex
import StyledMarkup.Proofs.Text.Basic

/-!
# The shape of token streams

The tokens of every source are well formed (`wellFormed_tokenize`), each on its own and beside the
one before it. Reading in one pass gives lexemes, and what one unit can be is said once
(`Scan.unit_cases`): a character that is no sign stands for itself alone. So a scheme in a text
would stand in the source just as it is, where a link starts and no text (`not_scheme_infix`).

Putting characters together to texts keeps the lexemes (`flatMap_lexemes`) and their order
(`isChain_foldr_push`).
-/

namespace StyledMarkup

open Mark

/-! ## Units -/

theorem Text.isLowerHexDigit_toLower {c : Char} (h : isHexDigit c = true) :
    isLowerHexDigit c.toLower = true := by
  have hall : ∀ n < 128, isHexDigit (Char.ofNat n) = true →
      isLowerHexDigit (Char.ofNat n).toLower = true := by decide
  have hlt := toNat_lt_of_isHexDigit h
  rw [← Char.ofNat_toNat c] at h ⊢
  exact hall _ hlt h

namespace Scan

theorem doubled_spec {digits : Text} (hl : digits.length = 3)
    (hd : digits.all isLowerHexDigit = true) :
    (doubled digits).length = 6 ∧ (doubled digits).all isLowerHexDigit = true := by
  obtain ⟨r, g, b, rfl⟩ := List.length_eq_three.1 hl
  simp only [List.all_cons, List.all_nil, Bool.and_true, Bool.and_eq_true] at hd
  simp [doubled, hd]

/-- The unit at a color sign is the sign, or a color of six lowercase digits. -/
theorem color_cases (rest : List Mark) : color rest = single '#' ∨
    ∃ digits, (Token.hex digits).WellFormed ∧ (color rest).lexeme = .token (.hex digits) := by
  set digits := ((chars (rest.take 6)).takeWhile Text.isHexDigit).map Char.toLower with hdigits
  have hlower : ∀ c ∈ digits, isLowerHexDigit c = true := by
    intro c hc
    obtain ⟨d, hd, rfl⟩ := List.mem_map.1 hc
    exact Text.isLowerHexDigit_toLower (List.mem_takeWhile_imp hd)
  simp only [color, ← hdigits]
  split
  · exact .inl rfl
  · right
    split
    · rename_i hsix
      exact ⟨digits, ⟨hsix, List.all_eq_true.2 hlower⟩, rfl⟩
    · refine ⟨_, doubled_spec ?_ (List.all_eq_true.2 fun c hc => ?_), rfl⟩
      · rw [List.length_take]
        omega
      · exact hlower c (List.mem_of_mem_take hc)

/-- The unit behind an escape character is a sign, a short code, or the escape character alone. -/
theorem escaped_cases (rest : List Mark) : escaped rest = single escape ∨
    (∃ sign, isSign sign = true ∧ escaped rest = ⟨1, .char sign⟩) ∨
    ∃ symbol, isShortCode symbol = true ∧ escaped rest = ⟨1, .token (.code symbol)⟩ := by
  rcases rest with _ | ⟨next, rest⟩
  · exact .inl rfl
  · simp only [escaped]
    split
    · rename_i hs
      refine .inr (.inl ⟨_, ?_, rfl⟩)
      rw [isSign, Bool.or_right_comm]
      exact hs
    · split
      · rename_i hs
        exact .inr (.inr ⟨_, hs, rfl⟩)
      · exact .inl rfl

/-- What a unit is: its first character alone, an escaped sign, or a well-formed reference, code or
color, each behind its own sign. -/
theorem unit_cases (m : Mark) (rest : List Mark) :
    unit m rest = single m.char ∨
    (∃ sign, m.char = '&' ∧ isSign sign = true ∧ unit m rest = ⟨1, .char sign⟩) ∨
    (∃ body, m.char = '{' ∧ body.trim = body ∧ (unit m rest).lexeme = .token (.reference body)) ∨
    (∃ symbol, m.char = '&' ∧ isShortCode symbol = true ∧
      unit m rest = ⟨1, .token (.code symbol)⟩) ∨
    ∃ digits, m.char = '#' ∧ (Token.hex digits).WellFormed ∧
      (unit m rest).lexeme = .token (.hex digits) := by
  unfold unit
  split
  · rename_i hc
    rcases hs : m.span with _ | n
    · exact .inl (by rw [hc]; rfl)
    · exact .inr (.inr (.inl ⟨_, hc, Text.trim_trim _, rfl⟩))
  split
  · rename_i hc
    obtain hone | ⟨sign, hs, hone⟩ | ⟨symbol, hs, hone⟩ := escaped_cases rest
    · exact .inl (by rw [hc, hone])
    · exact .inr (.inl ⟨sign, hc, hs, hone⟩)
    · exact .inr (.inr (.inr (.inl ⟨symbol, hc, hs, hone⟩)))
  split
  · rename_i hc
    obtain hone | ⟨digits, hd, hone⟩ := color_cases rest
    · exact .inl (by rw [hc, hone])
    · exact .inr (.inr (.inr (.inr ⟨digits, hc, hd, hone⟩)))
  · exact .inl rfl

theorem wellFormed_of_unit {m : Mark} {rest : List Mark} {token : Token}
    (h : (unit m rest).lexeme = .token token) :
    token.WellFormed ∧ ∀ address, token ≠ .link address := by
  obtain hu | ⟨sign, -, -, hu⟩ | ⟨body, -, hb, hu⟩ | ⟨symbol, -, hs, hu⟩ | ⟨digits, -, hd, hu⟩ :=
    unit_cases m rest
  · rw [hu] at h
    cases h
  · rw [hu] at h
    cases h
  · cases hu.symm.trans h
    exact ⟨hb, fun _ => Token.noConfusion⟩
  · rw [hu] at h
    cases h
    exact ⟨hs, fun _ => Token.noConfusion⟩
  · cases hu.symm.trans h
    exact ⟨hd, fun _ => Token.noConfusion⟩

theorem unit_of_isBlank {m : Mark} (h : Text.isBlank m.char = true) (rest : List Mark) :
    unit m rest = single m.char := by
  rw [unit, if_neg (Text.ne_of_isBlank h (by decide)), if_neg (Text.ne_of_isBlank h (by decide)),
    if_neg (Text.ne_of_isBlank h (by decide))]

end Scan

/-! ## Links -/

namespace Piece

theorem not_isBlank_of_mem_scheme {scheme : Text} (hs : scheme ∈ schemes) {c : Char}
    (hc : c ∈ scheme) : Text.isBlank c = false := by
  have hall : (schemes.all fun s => s.all fun c => !Text.isBlank c) = true := by decide
  simpa using List.all_eq_true.1 (List.all_eq_true.1 hall scheme hs) c hc

theorem startsLink_of_isBlank {m : Mark} (h : Text.isBlank m.char = true) (rest : List Mark) :
    startsLink (m :: rest) = false :=
  Bool.eq_false_iff.2 fun hl => Text.ne_of_isBlank h (by decide) (char_of_startsLink hl)

end Piece

theorem wellFormed_link {m : Mark} {rest : List Mark} (h : Piece.startsLink (m :: rest) = true) :
    (Token.link (chars (m :: rest.take
      (rest.takeWhile fun r => !Text.isBlank r.char).length))).WellFormed := by
  have hm := Piece.char_of_startsLink h
  obtain ⟨scheme, hs, hpre⟩ := (Piece.startsLink_iff _).1 h
  have htake : chars (rest.take (rest.takeWhile fun r => !Text.isBlank r.char).length) =
      (chars rest).takeWhile fun c => !Text.isBlank c := by
    rw [← List.prefix_iff_eq_take.1 (List.takeWhile_prefix _), chars, chars, List.takeWhile_map]
    rfl
  rw [chars_cons, htake, hm]
  rw [chars_cons, hm] at hpre
  refine ⟨⟨scheme, hs, ?_⟩, ?_⟩
  · -- No scheme has a blank in it, so all of it stands before the first blank.
    obtain ⟨tail, rfl, -⟩ := Piece.schemes_eq_cons hs
    have hblank : ∀ c ∈ tail, (!Text.isBlank c) = true := by
      intro c hc
      rw [Piece.not_isBlank_of_mem_scheme hs (List.mem_cons_of_mem _ hc), Bool.not_false]
    obtain ⟨following, hf⟩ := (List.cons_prefix_cons.1 hpre).2
    rw [← hf, List.takeWhile_append_of_pos hblank]
    exact List.cons_prefix_cons.2 ⟨rfl, List.prefix_append _ _⟩
  · refine List.any_eq_false.2 fun c hc => ?_
    rcases List.mem_cons.1 hc with rfl | hc
    · decide
    · simpa using List.mem_takeWhile_imp hc

/-- What is read behind a link starts with a blank, if there is anything. -/
theorem head_onePass_behind_link {rest : List Mark} {next : Lexeme}
    (h : (onePass (rest.drop (rest.takeWhile fun r => !Text.isBlank r.char).length)).head? =
      some next) : ∃ c, next = .char c ∧ Text.isBlank c = true := by
  have hdrop : rest.drop (rest.takeWhile fun r => !Text.isBlank r.char).length =
      rest.dropWhile fun r => !Text.isBlank r.char :=
    (congrArg (List.drop _) List.takeWhile_append_dropWhile.symm).trans List.drop_left
  have hnot := List.head?_dropWhile_not (fun r : Mark => !Text.isBlank r.char) rest
  rw [hdrop] at h
  generalize (rest.dropWhile fun r => !Text.isBlank r.char) = behind at h hnot
  rcases behind with _ | ⟨b, behind⟩
  · rw [onePass] at h
    cases h
  · have hb : Text.isBlank b.char = true := by simpa using hnot
    rw [onePass, if_neg (by rw [Piece.startsLink_of_isBlank hb]; exact Bool.false_ne_true),
      Scan.unit_of_isBlank hb] at h
    cases h
    exact ⟨_, rfl, hb⟩

/-! ## Lexemes in order -/

/-- Whether the second lexeme may stand right behind the first: behind a link stands a blank. -/
def Lexeme.Precedes : Lexeme → Lexeme → Prop
  | .token (.link _), next => ∃ c, next = .char c ∧ Text.isBlank c = true
  | _, _ => True

theorem isChain_onePass (marks : List Mark) : (onePass marks).IsChain Lexeme.Precedes := by
  induction marks using onePass.induct with
  | case1 =>
    rw [onePass]
    exact List.isChain_nil
  | case2 m rest h tail ih =>
    rw [onePass, if_pos h]
    exact List.isChain_cons.2 ⟨fun next hn => head_onePass_behind_link hn, ih⟩
  | case3 m rest h ih =>
    rw [onePass, if_neg h]
    refine List.isChain_cons.2 ⟨fun next _ => ?_, ih⟩
    rcases hu : (Scan.unit m rest).lexeme with c | token
    · trivial
    · cases token with
      | link address => exact absurd rfl ((Scan.wellFormed_of_unit hu).2 address)
      | _ => trivial

theorem wellFormed_of_mem_onePass {marks : List Mark} {token : Token}
    (h : .token token ∈ onePass marks) : token.WellFormed ∧ token.isText = false := by
  induction marks using onePass.induct with
  | case1 =>
    rw [onePass] at h
    cases h
  | case2 m rest hl tail ih =>
    rw [onePass, if_pos hl] at h
    rcases List.mem_cons.1 h with h | h
    · cases h
      exact ⟨wellFormed_link hl, rfl⟩
    · exact ih h
  | case3 m rest hl ih =>
    rw [onePass, if_neg hl] at h
    rcases List.mem_cons.1 h with h | h
    · exact ⟨(Scan.wellFormed_of_unit h.symm).1, Scan.isText_of_unit h.symm⟩
    · exact ih h

/-! ## Texts -/

/-- Any lexemes at the end of what is read are read from some marks on. -/
theorem exists_onePass_eq {marks : List Mark} {front tail : List Lexeme}
    (h : onePass marks = front ++ tail) : ∃ rest, onePass rest = tail := by
  induction marks using onePass.induct generalizing front with
  | case1 =>
    rw [onePass] at h
    exact ⟨[], by rw [onePass, (List.append_eq_nil_iff.1 h.symm).2]⟩
  | case2 m rest hl n =>
    rename_i ih
    rcases front with _ | ⟨first, front⟩
    · exact ⟨_, h⟩
    · rw [onePass, if_pos hl] at h
      exact ih (List.cons.inj h).2
  | case3 m rest hl ih =>
    rcases front with _ | ⟨first, front⟩
    · exact ⟨_, h⟩
    · rw [onePass, if_neg hl] at h
      exact ih (List.cons.inj h).2

/-- Characters that are no signs are read from themselves. -/
theorem prefix_of_onePass : ∀ {t : Text}, (∀ c ∈ t, isSign c = false) → ∀ {marks : List Mark}
    {tail : List Lexeme}, onePass marks = t.map .char ++ tail → t <+: chars marks
  | [], _, _, _, _ => List.nil_prefix
  | c :: t, hs, [], tail, h => by
    rw [onePass] at h
    cases h
  | c :: t, hs, m :: rest, tail, h => by
    rw [onePass] at h
    split at h
    · cases h
    · obtain ⟨hc, hrest⟩ := List.cons.inj h
      obtain hu | ⟨sign, -, hsign, hu⟩ | ⟨body, -, -, hu⟩ | ⟨symbol, -, -, hu⟩ |
        ⟨digits, -, -, hu⟩ := Scan.unit_cases m rest
      · rw [hu] at hc hrest
        cases hc
        exact List.cons_prefix_cons.2
          ⟨rfl, prefix_of_onePass (fun d hd => hs d (List.mem_cons_of_mem _ hd)) hrest⟩
      · rw [hu] at hc
        cases hc
        rw [hs c List.mem_cons_self] at hsign
        cases hsign
      · cases hu.symm.trans hc
      · rw [hu] at hc
        cases hc
      · cases hu.symm.trans hc

/-- No scheme is read as text: where it stands, a link starts. -/
theorem not_scheme_infix {marks : List Mark} {scheme : Text} (hs : scheme ∈ Piece.schemes) :
    ¬ scheme.map .char <:+: onePass marks := by
  rintro ⟨front, tail, h⟩
  obtain ⟨rest, hrest⟩ := exists_onePass_eq (h.symm.trans (List.append_assoc _ _ _))
  have hall : (Piece.schemes.all fun s => s.all fun c => !isSign c) = true := by decide
  have hplain : ∀ c ∈ scheme, isSign c = false := by
    simpa using List.all_eq_true.1 hall scheme hs
  have hpre := prefix_of_onePass hplain hrest
  obtain ⟨letters, rfl, -⟩ := Piece.schemes_eq_cons hs
  rcases rest with _ | ⟨m, rest⟩
  · cases List.prefix_nil.1 hpre
  · rw [onePass, if_pos ((Piece.startsLink_iff _).2 ⟨_, hs, hpre⟩)] at hrest
    cases hrest

/-! ## From lexemes to tokens -/

namespace Lexeme

/-- What comes of putting a lexeme before tokens: a token stands before them, and a character starts
the text that they start with, or a new one. -/
theorem push_cases (lexeme : Lexeme) (tokens : List Token) :
    (∃ token, lexeme = .token token ∧ push lexeme tokens = token :: tokens) ∨
    (∃ c content rest, lexeme = .char c ∧ tokens = .text content :: rest ∧
      push lexeme tokens = .text (c :: content) :: rest) ∨
    ∃ c, lexeme = .char c ∧ (∀ token, tokens.head? = some token → token.isText = false) ∧
      push lexeme tokens = .text [c] :: tokens := by
  cases lexeme with
  | token token => exact .inl ⟨token, rfl, rfl⟩
  | char c =>
    right
    rcases tokens with _ | ⟨first, rest⟩
    · exact .inr ⟨c, rfl, by simp, rfl⟩
    · cases first with
      | text content => exact .inl ⟨c, content, rest, rfl, rfl, rfl⟩
      | _ => exact .inr ⟨c, rfl, by simp [Token.isText], rfl⟩

theorem head_foldr_push (c : Char) (lexemes : List Lexeme) :
    ∃ content rest, (char c :: lexemes).foldr push [] = .text (c :: content) :: rest := by
  rw [List.foldr_cons]
  obtain ⟨token, hl, -⟩ | ⟨d, content, rest, hl, -, hp⟩ | ⟨d, hl, -, hp⟩ :=
    push_cases (char c) (lexemes.foldr push [])
  · cases hl
  · cases hl
    exact ⟨content, rest, hp⟩
  · cases hl
    exact ⟨[], _, hp⟩

/-- The lexemes of the tokens are those that the tokens are put together from, and no text is
empty. -/
theorem flatMap_lexemes {lexemes : List Lexeme}
    (h : ∀ token, .token token ∈ lexemes → token.isText = false) :
    (lexemes.foldr push []).flatMap Token.lexemes = lexemes ∧
      .text [] ∉ lexemes.foldr push [] := by
  induction lexemes with
  | nil => exact ⟨rfl, List.not_mem_nil⟩
  | cons lexeme lexemes ih =>
    obtain ⟨ihflat, ihtext⟩ := ih fun token ht => h token (List.mem_cons_of_mem _ ht)
    rw [List.foldr_cons]
    obtain ⟨token, rfl, hp⟩ | ⟨c, content, rest, rfl, htokens, hp⟩ | ⟨c, rfl, -, hp⟩ :=
      push_cases lexeme (lexemes.foldr push [])
    · have ht := h token List.mem_cons_self
      rw [hp, List.flatMap_cons, ihflat, List.mem_cons, not_or]
      cases token with
      | text content => cases ht
      | _ => exact ⟨rfl, Token.noConfusion, ihtext⟩
    · rw [htokens, List.flatMap_cons] at ihflat
      rw [htokens, List.mem_cons, not_or] at ihtext
      rw [hp, List.flatMap_cons, ← ihflat, List.mem_cons, not_or]
      exact ⟨rfl, by simp, ihtext.2⟩
    · rw [hp, List.flatMap_cons, ihflat, List.mem_cons, not_or]
      exact ⟨rfl, by simp, ihtext⟩

theorem isChain_foldr_push {lexemes : List Lexeme} (hc : lexemes.IsChain Precedes)
    (h : ∀ token, .token token ∈ lexemes → token.isText = false) :
    (lexemes.foldr push []).IsChain Token.Precedes := by
  induction lexemes with
  | nil => exact List.isChain_nil
  | cons lexeme lexemes ih =>
    obtain ⟨hhead, htail⟩ := List.isChain_cons.1 hc
    have ihchain := ih htail fun token ht => h token (List.mem_cons_of_mem _ ht)
    rw [List.foldr_cons]
    obtain ⟨token, rfl, hp⟩ | ⟨c, content, rest, rfl, htokens, hp⟩ | ⟨c, rfl, htext, hp⟩ :=
      push_cases lexeme (lexemes.foldr push [])
    · rw [hp]
      refine List.isChain_cons.2 ⟨fun next hn => ?_, ihchain⟩
      have ht := h token List.mem_cons_self
      cases token with
      | text content => cases ht
      | link address =>
        rcases lexemes with _ | ⟨second, lexemes⟩
        · cases hn
        · obtain ⟨c, rfl, hb⟩ := hhead second rfl
          obtain ⟨content, rest, heq⟩ := head_foldr_push c lexemes
          rw [heq] at hn
          cases hn
          exact hb
      | _ => trivial
    · rw [htokens] at ihchain
      rw [hp]
      obtain ⟨hnext, hrest⟩ := List.isChain_cons.1 ihchain
      exact List.isChain_cons.2 ⟨hnext, hrest⟩
    · rw [hp]
      exact List.isChain_cons.2 ⟨htext, ihchain⟩

end Lexeme

/-! ## The tokens of a source -/

theorem flatMap_lexemes_tokenize (source : Text) :
    (tokenize source).flatMap Token.lexemes = onePass (ofText source) := by
  rw [tokenize_eq_onePass]
  exact (Lexeme.flatMap_lexemes fun _ ht => (wellFormed_of_mem_onePass ht).2).1

theorem wellFormed_tokenize (source : Text) : WellFormed (tokenize source) := by
  have hread : ∀ token, .token token ∈ onePass (ofText source) → token.isText = false :=
    fun _ ht => (wellFormed_of_mem_onePass ht).2
  refine ⟨fun token ht => ?_, ?_⟩
  · have hlexemes : token.lexemes <:+: onePass (ofText source) := by
      rw [← flatMap_lexemes_tokenize]
      exact List.infix_of_mem_flatten (List.mem_map_of_mem ht)
    cases token with
    | text content =>
      refine ⟨?_, fun scheme hs hi => not_scheme_infix hs ((hi.map Lexeme.char).trans hlexemes)⟩
      rintro rfl
      rw [tokenize_eq_onePass] at ht
      exact (Lexeme.flatMap_lexemes hread).2 ht
    | _ => exact (wellFormed_of_mem_onePass (hlexemes.subset (List.mem_singleton.2 rfl))).1
  · rw [tokenize_eq_onePass]
    exact Lexeme.isChain_foldr_push (isChain_onePass _) hread

/-- The tokens of every source are well formed. However often a reader is called, it hands them out
in order, and once it has handed out nothing it does so ever after. -/
theorem stream_well_formed (source : Text) : WellFormed (tokenize source) ∧
    (∀ n, ((Tokenizer.ofText source).after n).next.1 = (tokenize source)[n]?) ∧
    ∀ n, ((Tokenizer.ofText source).after n).next.1 = none →
      ∀ later, n ≤ later → ((Tokenizer.ofText source).after later).next.1 = none := by
  obtain ⟨rows, hrows⟩ := areRows_cut (Mark.ofText source) 0
  rw [List.drop_zero] at hrows
  have hout : ∀ n, ((Tokenizer.ofText source).after n).next.1 = (tokenize source)[n]? := by
    intro n
    rw [Tokenizer.fst_next_after (Tokenizer.inStep_ofText hrows) n, Tokenizer.outstanding_ofText]
  refine ⟨wellFormed_tokenize source, hout, fun n hn later hle => ?_⟩
  rw [hout, List.getElem?_eq_none_iff] at hn ⊢
  exact hn.trans hle

end StyledMarkup
