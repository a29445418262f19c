import StyledMarkup.Proofs.Markup.Handout
import StyledMarkup.Proofs.Markup.WellFormed

/-!
# Writing tokens

Tokens are written as markup by an escape character before whatever would be read as more than
itself, and reading what is written gives the tokens back (`tokenize_written`).

Reading in one pass, the written form of each token gives the lexemes of that token and goes on at
the text behind it, whatever escape characters stand before it. Only a reference must not stand
after a single escape character, and no written token that may stand before one ends so.
-/

namespace StyledMarkup

open Mark

/-! ## The written form -/

/-- Whether the character is read as more than itself outside braces. -/
def isSign (c : Char) : Bool :=
  isBrace c || c == escape || c == '#'

/-- A text with an escape character before every character that is special. -/
def escapeEach (isSpecial : Char → Bool) (t : Text) : Text :=
  t.flatMap fun c => if isSpecial c then [escape, c] else [c]

/-- The body of a pair of braces that spells the text: an escape character at its end is doubled,
so that it does not hide the closing brace. -/
def writtenBody (body : Text) : Text :=
  escapeEach isBrace body ++ if body.getLast? = some escape then [escape] else []

/-- Whether no escape character of the body stands right before a brace. -/
def KeepsBraces (body : Text) : Prop :=
  ∀ pair ∈ [['&', '{'], ['&', '}']], ¬ pair <:+: body

namespace Token

/-- A token as markup. -/
def written : Token → Text
  | text content => escapeEach isSign content
  | reference body => '{' :: writtenBody body ++ ['}']
  | code symbol => [escape, symbol]
  | hex digits => '#' :: digits
  | link address => address

/-- Whether the token can be written: a reference must keep its braces. -/
def IsWritable : Token → Prop
  | reference body => KeepsBraces body
  | _ => True

instance : ∀ token : Token, Decidable token.IsWritable
  | reference _ => inferInstanceAs (Decidable (∀ _ ∈ _, _))
  | text _ => isTrue trivial
  | code _ => isTrue trivial
  | hex _ => isTrue trivial
  | link _ => isTrue trivial

/-- What is read for a token: a text is read character by character. -/
def lexemes : Token → List Lexeme
  | text content => content.map .char
  | token => [.token token]

end Token

/-- The tokens as markup, one after another. -/
def written (tokens : List Token) : Text :=
  tokens.flatMap Token.written

/-! ## Escaped characters -/

@[simp] theorem escapeEach_nil (isSpecial : Char → Bool) : escapeEach isSpecial [] = [] := rfl

theorem escapeEach_special {isSpecial : Char → Bool} {c : Char} (h : isSpecial c = true)
    (t : Text) : escapeEach isSpecial (c :: t) = '&' :: c :: escapeEach isSpecial t := by
  simp [escapeEach, h, escape]

theorem escapeEach_plain {isSpecial : Char → Bool} {c : Char} (h : isSpecial c = false)
    (t : Text) : escapeEach isSpecial (c :: t) = c :: escapeEach isSpecial t := by
  simp [escapeEach, h]

theorem escapeEach_append (isSpecial : Char → Bool) (s t : Text) :
    escapeEach isSpecial (s ++ t) = escapeEach isSpecial s ++ escapeEach isSpecial t :=
  List.flatMap_append

theorem isBrace_iff (c : Char) : isBrace c = true ↔ c = '{' ∨ c = '}' := by
  simp [isBrace]

theorem ne_of_not_isBrace {c : Char} (h : isBrace c = false) : c ≠ '{' ∧ c ≠ '}' := by
  refine ⟨?_, ?_⟩ <;> rintro rfl <;> exact absurd h (by decide)

theorem ne_escape_of_isBrace {c : Char} (h : isBrace c = true) : c ≠ '&' := by
  rintro rfl
  exact absurd h (by decide)

theorem isSign_iff (c : Char) : isSign c = true ↔ (c = '{' ∨ c = '}') ∨ c = '&' ∨ c = '#' := by
  simp [isSign, isBrace, escape, or_assoc]

theorem runOver_pair_ne_one (escapes : Nat) : runOver escapes ['&', '&'] ≠ 1 :=
  Nat.succ_succ_ne_one escapes

theorem runOver_escapeEach_concat {c : Char} (hc : c ≠ '&') (isSpecial : Char → Bool)
    (escapes : Nat) (t : Text) : runOver escapes (escapeEach isSpecial (t ++ [c])) = 0 := by
  rw [escapeEach_append, runOver_append]
  rcases hs : isSpecial c with _ | _
  · rw [escapeEach_plain hs]
    exact runAfter_of_ne _ hc
  · rw [escapeEach_special hs]
    exact runAfter_of_ne _ hc

/-- A text with its signs escaped does not end in a single escape character. -/
theorem runOver_escapeEach_ne_one {t : Text} (ht : t ≠ []) (escapes : Nat) :
    runOver escapes (escapeEach isSign t) ≠ 1 := by
  obtain ⟨init, c, rfl⟩ := (List.eq_nil_or_concat' t).resolve_left ht
  by_cases hc : c = '&'
  · subst hc
    rw [escapeEach_append, runOver_append]
    exact runOver_pair_ne_one _
  · rw [runOver_escapeEach_concat hc]
    exact Nat.zero_ne_one

/-! ## Reading in one pass -/

theorem onePass_unit {c : Char} (h : c ≠ 'h') {span : Option Nat} {rest : List Mark} {scan : Scan}
    (hu : Scan.unit ⟨c, span⟩ rest = scan) :
    onePass (⟨c, span⟩ :: rest) = scan.lexeme :: onePass (rest.drop scan.extra) := by
  rw [onePass, if_neg fun hl => h (Piece.char_of_startsLink hl), hu]

theorem onePass_plain {c : Char} (hc : isSign c = false) {span : Option Nat} {rest : List Mark}
    (h : Piece.startsLink (⟨c, span⟩ :: rest) = false) :
    onePass (⟨c, span⟩ :: rest) = .char c :: onePass rest := by
  have hne : c ≠ '{' ∧ c ≠ '&' ∧ c ≠ '#' := by
    refine ⟨?_, ?_, ?_⟩ <;> rintro rfl <;> exact absurd hc (by decide)
  have hu : Scan.unit ⟨c, span⟩ rest = Scan.single c := by
    simp only [Scan.unit, escape, if_neg hne.1, if_neg hne.2.1, if_neg hne.2.2]
  rw [onePass, if_neg (Bool.eq_false_iff.1 h), hu]
  rfl

theorem onePass_pair {pair : List Mark} {c : Char} {lexeme : Lexeme} (hp : chars pair = ['&', c])
    (hl : ∀ span rest, Scan.escaped (⟨c, span⟩ :: rest) = ⟨1, lexeme⟩) (rest : List Mark) :
    onePass (pair ++ rest) = lexeme :: onePass rest := by
  rcases pair with _ | ⟨⟨a, first⟩, _ | ⟨⟨b, second⟩, _ | _⟩⟩ <;>
    simp only [chars_cons, chars_nil, List.cons.injEq, reduceCtorEq, and_true, and_false] at hp
  obtain ⟨rfl, rfl⟩ := hp
  have hu : Scan.unit ⟨'&', first⟩ (⟨b, second⟩ :: rest) = ⟨1, lexeme⟩ := hl second rest
  exact onePass_unit (by decide) hu

theorem escaped_sign {c : Char} (hc : isSign c = true) (span : Option Nat) (rest : List Mark) :
    Scan.escaped (⟨c, span⟩ :: rest) = ⟨1, .char c⟩ := by
  rcases (isSign_iff c).1 hc with (rfl | rfl) | rfl | rfl <;> rfl

theorem escaped_code {c : Char} (hc : isShortCode c = true) (span : Option Nat)
    (rest : List Mark) : Scan.escaped (⟨c, span⟩ :: rest) = ⟨1, .token (.code c)⟩ := by
  have hmem : c ∈ shortCodes := List.contains_iff_mem.1 hc
  have hall : (shortCodes.all fun d =>
      Scan.escaped [⟨d, none⟩] == ⟨1, .token (.code d)⟩) = true := by decide
  exact beq_iff_eq.1 (List.all_eq_true.1 hall c hmem)

/-! ### Texts -/

/-- The characters that tokens other than texts start with. -/
def tokenStarts : List Char :=
  ['&', '{', '#', 'h']

/-- A scheme does not reach past the end of a text, and no escape character stands in it. -/
theorem prefix_of_written : ∀ {t : Text} {start following : Text},
    (∀ c ∈ start, c ∉ tokenStarts) → (∀ c, following.head? = some c → c ∈ tokenStarts) →
      start <+: escapeEach isSign t ++ following → start <+: t
  | _, [], _, _, _, _ => List.nil_prefix
  | [], d :: start, following, hs, hf, hp => by
    rcases following with _ | ⟨c, following⟩
    · cases List.prefix_nil.1 hp
    · obtain ⟨rfl, -⟩ := List.cons_prefix_cons.1 hp
      exact absurd (hf d rfl) (hs d List.mem_cons_self)
  | c :: t, d :: start, following, hs, hf, hp => by
    rcases hc : isSign c with _ | _
    · rw [escapeEach_plain hc] at hp
      obtain ⟨rfl, htail⟩ := List.cons_prefix_cons.1 hp
      have hs' : ∀ c ∈ start, c ∉ tokenStarts := fun c h => hs c (List.mem_cons_of_mem _ h)
      exact List.cons_prefix_cons.2 ⟨rfl, prefix_of_written hs' hf htail⟩
    · rw [escapeEach_special hc] at hp
      obtain ⟨rfl, -⟩ := List.cons_prefix_cons.1 hp
      exact absurd (by decide) (hs '&' List.mem_cons_self)

/-- A scheme at the head of a text that is written stands in the text. -/
theorem scheme_of_written {scheme : Text} (hs : scheme ∈ Piece.schemes) {c : Char}
    {t following : Text} (hf : ∀ c, following.head? = some c → c ∈ tokenStarts)
    (hp : scheme <+: c :: (escapeEach isSign t ++ following)) : scheme <+: c :: t := by
  have hall : (Piece.schemes.all fun s => s.tail.all fun d => !tokenStarts.contains d) = true := by
    decide
  have hstart : ∀ d ∈ scheme.tail, d ∉ tokenStarts := by
    simpa using List.all_eq_true.1 hall scheme hs
  obtain ⟨tail, rfl, -⟩ := Piece.schemes_eq_cons hs
  obtain ⟨rfl, htail⟩ := List.cons_prefix_cons.1 hp
  exact List.cons_prefix_cons.2 ⟨rfl, prefix_of_written hstart hf htail⟩

theorem onePass_text : ∀ {content : Text}, (∀ scheme ∈ Piece.schemes, ¬ scheme <:+: content) →
    ∀ {following : Text}, (∀ c, following.head? = some c → c ∈ tokenStarts) → ∀ escapes,
      onePass (matched escapes (escapeEach isSign content ++ following)).1 =
        content.map .char ++
          onePass (matched (runOver escapes (escapeEach isSign content)) following).1
  | [], _, _, _, _ => rfl
  | c :: content, h, following, hf, escapes => by
    have hcontent : ∀ scheme ∈ Piece.schemes, ¬ scheme <:+: content :=
      fun scheme hs hi => h scheme hs (hi.trans (List.suffix_cons c content).isInfix)
    rcases hc : isSign c with _ | _
    · have hb : isStructural escapes c = false := by
        rw [isSign, Bool.or_eq_false_iff, Bool.or_eq_false_iff] at hc
        rw [isStructural, hc.1.1, Bool.false_and]
      rw [escapeEach_plain hc, List.cons_append, matched_cons_of_not_structural hb, runOver_cons,
        onePass_plain hc, onePass_text hcontent hf]
      · rfl
      · refine Bool.eq_false_iff.2 fun hl => ?_
        obtain ⟨scheme, hs, hp⟩ := (Piece.startsLink_iff _).1 hl
        rw [chars_cons, chars_matched] at hp
        exact h scheme hs (scheme_of_written hs hf hp).isInfix
    · rw [escapeEach_special hc]
      obtain ⟨pair, hpair, hchars⟩ :=
        matched_append escapes ['&', c] (escapeEach isSign content ++ following)
      rw [show '&' :: c :: escapeEach isSign content ++ following =
          ['&', c] ++ (escapeEach isSign content ++ following) from rfl,
        hpair, onePass_pair hchars (escaped_sign hc), onePass_text hcontent hf]
      rfl

/-! ### References -/

theorem KeepsBraces.tail {c : Char} {body : Text} (h : KeepsBraces (c :: body)) :
    KeepsBraces body :=
  fun pair hp hi => h pair hp (hi.trans (List.suffix_cons c body).isInfix)

theorem KeepsBraces.not_isBrace {c : Char} {body : Text} (h : KeepsBraces ('&' :: c :: body)) :
    isBrace c = false := by
  refine Bool.eq_false_iff.2 fun hc => ?_
  have hpre : ['&', c] <:+: '&' :: c :: body := (List.prefix_append ['&', c] body).isInfix
  rcases (isBrace_iff c).1 hc with rfl | rfl
  · exact h _ List.mem_cons_self hpre
  · exact h _ (List.mem_cons_of_mem _ List.mem_cons_self) hpre

theorem writtenBody_brace {c : Char} (hc : isBrace c = true) (body : Text) :
    writtenBody (c :: body) = '&' :: c :: writtenBody body := by
  have hlast : (c :: body).getLast? = some '&' ↔ body.getLast? = some '&' := by
    rcases body with _ | ⟨d, body⟩
    · simp only [List.getLast?_singleton, Option.some.injEq, List.getLast?_nil, reduceCtorEq,
        iff_false]
      exact ne_escape_of_isBrace hc
    · rw [List.getLast?_cons_cons]
  rw [writtenBody, escapeEach_special hc, escape, if_congr hlast rfl rfl]
  rfl

theorem writtenBody_plain {c d : Char} (hc : isBrace c = false) (body : Text) :
    writtenBody (c :: d :: body) = c :: writtenBody (d :: body) := by
  simp only [writtenBody, escapeEach_plain hc, List.getLast?_cons_cons, List.cons_append]

theorem unescape_plain {c : Char} (hc : c ≠ '&') (t : Text) :
    Scan.unescape (c :: t) = c :: Scan.unescape t := by
  rw [Scan.unescape] <;> simp [hc]

/-- An escape character before a character that is none and no brace spells itself. -/
theorem unescape_escape {c : Char} (hc : isBrace c = false) (he : c ≠ '&') (t : Text) :
    Scan.unescape ('&' :: c :: t) = '&' :: Scan.unescape (c :: t) := by
  have hne := ne_of_not_isBrace hc
  rw [Scan.unescape] <;> simp [hne, he]

/-- The first of two escape characters spells itself if neither a brace nor the end of the body
stands behind them. -/
theorem unescape_escapes {c : Char} (hc : isBrace c = false) (t : Text) :
    Scan.unescape ('&' :: '&' :: c :: t) = '&' :: Scan.unescape ('&' :: c :: t) := by
  have hne := ne_of_not_isBrace hc
  rw [Scan.unescape] <;> simp [hne]

theorem writtenBody_head {c : Char} (hc : isBrace c = false) (body : Text) :
    ∃ t, writtenBody (c :: body) = c :: t :=
  ⟨_, by rw [writtenBody, escapeEach_plain hc, List.cons_append]⟩

theorem unescape_writtenBody : ∀ {body : Text}, KeepsBraces body →
    Scan.unescape (writtenBody body) = body
  | [], _ => rfl
  | [c], _ => by
    rcases hc : isBrace c with _ | _
    · by_cases he : c = '&'
      · subst he
        rfl
      · simp [writtenBody, escapeEach_plain hc, escape, he, Scan.unescape]
    · rcases (isBrace_iff c).1 hc with rfl | rfl <;> rfl
  | c :: d :: body, h => by
    have ih := unescape_writtenBody h.tail
    rcases hc : isBrace c with _ | _
    · rw [writtenBody_plain hc]
      by_cases he : c = '&'
      · subst he
        have hd := h.not_isBrace
        by_cases he : d = '&'
        · subst he
          rcases body with _ | ⟨e, body⟩
          · rfl
          · obtain ⟨t, ht⟩ := writtenBody_head h.tail.not_isBrace body
            rw [writtenBody_plain hd, ht] at ih ⊢
            rw [unescape_escapes h.tail.not_isBrace, ih]
        · obtain ⟨t, ht⟩ := writtenBody_head hd body
          rw [ht] at ih ⊢
          rw [unescape_escape hd he, ih]
      · rw [unescape_plain he, ih]
    · rw [writtenBody_brace hc]
      rcases (isBrace_iff c).1 hc with rfl | rfl <;> rw [Scan.unescape, ih]

/-- The braces of a written body are hidden, unless the body starts with one and escape characters
stand before it. -/
theorem hidesBraces_writtenBody : ∀ {body : Text}, KeepsBraces body → ∀ {escapes : Nat},
    (∀ c, body.head? = some c → isBrace c = true → escapes = 0) →
      HidesBraces escapes (writtenBody body)
  | [], _, _, _ => trivial
  | c :: body, h, escapes, hf => by
    rcases hc : isBrace c with _ | _
    · have hs : isStructural escapes c = false := by rw [isStructural, hc, Bool.false_and]
      rcases body with _ | ⟨d, body⟩
      · by_cases he : c = '&'
        · subst he
          exact ⟨hs, rfl, trivial⟩
        · simp only [writtenBody, escapeEach_plain hc, escapeEach_nil, List.getLast?_singleton,
            Option.some.injEq, escape, if_neg he, List.append_nil]
          exact ⟨hs, trivial⟩
      · rw [writtenBody_plain hc]
        refine ⟨hs, hidesBraces_writtenBody h.tail fun e he hb => ?_⟩
        obtain rfl : d = e := Option.some.inj he
        by_cases hamp : c = '&'
        · subst hamp
          rw [h.not_isBrace] at hb
          exact absurd hb Bool.false_ne_true
        · exact runAfter_of_ne _ hamp
    · obtain rfl := hf c rfl hc
      rw [writtenBody_brace hc]
      refine ⟨rfl, by simp [isStructural, runAfter_escape], ?_⟩
      exact hidesBraces_writtenBody h.tail fun _ _ _ => runAfter_of_ne _ (ne_escape_of_isBrace hc)

theorem runOver_writtenBody_ne_one (body : Text) : runOver 0 (writtenBody body) ≠ 1 := by
  rcases List.eq_nil_or_concat' body with rfl | ⟨init, c, rfl⟩
  · exact Nat.zero_ne_one
  rw [writtenBody, List.getLast?_concat, escape]
  by_cases hc : c = '&'
  · subst hc
    rw [if_pos rfl, escapeEach_append, List.append_assoc, runOver_append]
    exact runOver_pair_ne_one _
  · rw [if_neg fun h => hc (Option.some.inj h), List.append_nil, runOver_escapeEach_concat hc]
    exact Nat.zero_ne_one

/-- A written reference is read as the reference, unless a single escape character stands right
before it. -/
theorem onePass_reference {body : Text} (hb : KeepsBraces body) (ht : body.trim = body)
    {escapes : Nat} (he : escapes ≠ 1) (following : Text) :
    onePass (matched escapes ((Token.reference body).written ++ following)).1 =
      .token (.reference body) :: onePass (matched 0 following).1 := by
  obtain ⟨inner, hm, hc⟩ := matched_body he (hidesBraces_writtenBody hb fun _ _ _ => rfl)
    (runOver_writtenBody_ne_one body) following
  have hlen : inner.length = (writtenBody body).length + 1 := by
    rw [← length_chars, hc, List.length_append, List.length_singleton]
  have htake : chars ((inner ++ (matched 0 following).1).take (writtenBody body).length) =
      writtenBody body := by
    rw [chars_take, chars_append, hc, List.append_assoc, List.take_left]
  have hu : Scan.unit ⟨'{', some (writtenBody body).length⟩ (inner ++ (matched 0 following).1) =
      ⟨(writtenBody body).length + 1, .token (.reference body)⟩ := by
    rw [Scan.unit, if_pos rfl, Scan.reference, htake, unescape_writtenBody hb, ht]
  rw [Token.written, List.append_assoc, List.singleton_append, hm, List.cons_append,
    onePass_unit (by decide) hu, ← hlen, List.drop_left]

/-! ### Codes, colors and links -/

theorem onePass_code {symbol : Char} (h : isShortCode symbol = true) (escapes : Nat)
    (following : Text) :
    onePass (matched escapes (['&', symbol] ++ following)).1 =
      .token (.code symbol) ::
        onePass (matched (runOver escapes ['&', symbol]) following).1 := by
  obtain ⟨pair, hpair, hchars⟩ := matched_append escapes ['&', symbol] following
  rw [hpair, onePass_pair hchars (escaped_code h)]

theorem lowerHexDigit {c : Char} (h : isLowerHexDigit c = true) :
    Text.isHexDigit c = true ∧ c.toLower = c := by
  have hall : ("0123456789abcdef".toList.all fun d =>
      Text.isHexDigit d && d.toLower == d) = true := by decide
  simpa using List.all_eq_true.1 hall c (List.contains_iff_mem.1 h)

theorem color_digits {digits : Text} (hl : digits.length = 6)
    (hd : digits.all isLowerHexDigit = true) {rest : List Mark}
    (hr : chars (rest.take 6) = digits) :
    Scan.color rest = ⟨6, .token (.hex digits)⟩ := by
  have hdigit : ∀ c ∈ digits, Text.isHexDigit c = true ∧ c.toLower = c :=
    fun c hc => lowerHexDigit (List.all_eq_true.1 hd c hc)
  have htake : digits.takeWhile Text.isHexDigit = digits :=
    List.takeWhile_eq_self_iff.2 fun c hc => (hdigit c hc).1
  have hmap : digits.map Char.toLower = digits :=
    (List.map_congr_left fun c hc => (hdigit c hc).2).trans (List.map_id digits)
  simp only [Scan.color, hr, htake, hmap, hl]
  rfl

theorem onePass_hex {digits : Text} (hl : digits.length = 6)
    (hd : digits.all isLowerHexDigit = true) (escapes : Nat) (following : Text) :
    onePass (matched escapes ('#' :: digits ++ following)).1 =
      .token (.hex digits) :: onePass (matched (runOver escapes ('#' :: digits)) following).1 := by
  obtain ⟨front, hfront, hchars⟩ := matched_append escapes ('#' :: digits) following
  rcases front with _ | ⟨⟨sign, span⟩, front⟩
  · cases hchars
  obtain ⟨rfl, hfrontChars⟩ := List.cons.inj hchars
  have hlen : front.length = 6 := by rw [← hl, ← hfrontChars, List.length_map]
  have hu : Scan.unit ⟨'#', span⟩ (front ++ (matched (runOver escapes ('#' :: digits)) following).1)
      = ⟨6, .token (.hex digits)⟩ := by
    refine color_digits hl hd ?_
    rw [← hlen, List.take_left]
    exact hfrontChars
  have honce := onePass_unit (by decide) hu
  rw [← hlen, List.drop_left] at honce
  rw [hfront, List.cons_append]
  exact honce

theorem onePass_link {address : Text} (hs : ∃ scheme ∈ Piece.schemes, scheme <+: address)
    (hb : address.any Text.isBlank = false) {following : Text}
    (hf : ∀ c, following.head? = some c → Text.isBlank c = true) (escapes : Nat) :
    onePass (matched escapes (address ++ following)).1 =
      .token (.link address) :: onePass (matched (runOver escapes address) following).1 := by
  obtain ⟨front, hfront, hchars⟩ := matched_append escapes address following
  obtain ⟨scheme, hscheme, hpre⟩ := hs
  obtain ⟨tail, htail, -⟩ := Piece.schemes_eq_cons hscheme
  rcases front with _ | ⟨m, front⟩
  · rw [← hchars, htail] at hpre
    cases List.prefix_nil.1 hpre
  set behind := (matched (runOver escapes address) following).1 with hbehind
  have hlink : Piece.startsLink (m :: (front ++ behind)) = true := by
    refine (Piece.startsLink_iff _).2 ⟨scheme, hscheme, hpre.trans ?_⟩
    rw [← List.cons_append, chars_append, hchars]
    exact List.prefix_append _ _
  have hrun : (front ++ behind).takeWhile (fun r => !Text.isBlank r.char) = front := by
    have hall : ∀ r ∈ front, (!Text.isBlank r.char) = true := by
      intro r hr
      have hmem : r.char ∈ address := by
        rw [← hchars]
        exact List.mem_cons_of_mem _ (List.mem_map_of_mem hr)
      simpa using List.any_eq_false.1 hb r.char hmem
    rw [List.takeWhile_append_of_pos hall]
    rcases hcase : behind with _ | ⟨r, behind'⟩
    · simp
    · have hr : following.head? = some r.char := by
        rw [← chars_matched (runOver escapes address) following, ← hbehind, hcase]
        rfl
      simp [hf r.char hr]
  rw [hfront, List.cons_append, onePass, if_pos hlink]
  simp only [hrun, List.take_left, List.drop_left, hchars]

/-! ## Reading what is written -/

/-- What is written for tokens that start with no text starts as no text does. -/
theorem head_written {tokens : List Token} (h : WellFormed tokens)
    (ht : ∀ token, tokens.head? = some token → token.isText = false) :
    ∀ c, (written tokens).head? = some c → c ∈ tokenStarts := by
  rcases tokens with _ | ⟨token, tokens⟩
  · exact fun c hc => nomatch hc
  intro c hc
  cases token with
  | text content => exact absurd (ht _ rfl) (by simp [Token.isText])
  | reference body =>
    cases hc
    decide
  | code symbol =>
    cases hc
    decide
  | hex digits =>
    cases hc
    decide
  | link address =>
    obtain ⟨⟨scheme, hs, hpre⟩, -⟩ := h.each _ List.mem_cons_self
    obtain ⟨tail, rfl, -⟩ := Piece.schemes_eq_cons hs
    obtain ⟨rest, rfl⟩ := hpre
    cases hc
    decide

theorem head_written_link {address : Text} {tokens : List Token}
    (h : WellFormed (.link address :: tokens)) :
    ∀ c, (written tokens).head? = some c → Text.isBlank c = true := by
  rcases tokens with _ | ⟨token, tokens⟩
  · exact fun c hc => nomatch hc
  intro c hc
  have hp := h.precedes rfl
  cases token with
  | text content =>
    rcases content with _ | ⟨d, content⟩
    · cases hp
    have hd : Text.isBlank d = true := hp
    have hplain : isSign d = false := by
      refine Bool.eq_false_iff.2 fun hs => ?_
      rcases (isSign_iff d).1 hs with (rfl | rfl) | rfl | rfl <;> exact absurd hd (by decide)
    rw [written, List.flatMap_cons, Token.written, escapeEach_plain hplain] at hc
    cases hc
    exact hd
  | reference body => exact hp.elim
  | code symbol => exact hp.elim
  | hex digits => exact hp.elim
  | link address => exact hp.elim

theorem onePass_written : ∀ {tokens : List Token}, WellFormed tokens →
    (∀ token ∈ tokens, token.IsWritable) → ∀ {escapes : Nat},
      (∀ body, tokens.head? = some (.reference body) → escapes ≠ 1) →
        onePass (matched escapes (written tokens)).1 = tokens.flatMap Token.lexemes
  | [], _, _, _, _ => by
    rw [written, List.flatMap_nil, matched, onePass]
    rfl
  | token :: tokens, h, hw, escapes, he => by
    -- No token but a link ends in a single escape character, and behind a link stands no reference.
    have ih := @onePass_written tokens h.tail fun t ht => hw t (List.mem_cons_of_mem _ ht)
    have heach := h.each _ List.mem_cons_self
    rw [written, List.flatMap_cons, List.flatMap_cons, ← written]
    cases token with
    | text content =>
      rw [Token.written, onePass_text heach.2 (head_written h.tail h.isText_eq_false),
        ih fun _ _ => runOver_escapeEach_ne_one heach.1 _]
      rfl
    | reference body =>
      rw [onePass_reference (hw _ List.mem_cons_self) heach (he body rfl),
        ih fun _ _ => Nat.zero_ne_one]
      rfl
    | code symbol =>
      have hzero : runOver escapes ['&', symbol] = 0 := by
        refine runAfter_of_ne _ ?_
        rintro rfl
        exact absurd heach (by decide)
      rw [Token.written, escape, onePass_code heach, hzero, ih fun _ _ => Nat.zero_ne_one]
      rfl
    | hex digits =>
      have hzero : runOver escapes ('#' :: digits) = 0 := by
        obtain ⟨init, c, rfl⟩ := (List.eq_nil_or_concat' digits).resolve_left fun hn => by
          rw [hn] at heach
          exact absurd heach.1 (by decide)
        rw [← List.cons_append, runOver_append]
        refine runAfter_of_ne _ ?_
        rintro rfl
        exact absurd (List.all_eq_true.1 heach.2 '&' (by simp)) (by decide)
      rw [Token.written, onePass_hex heach.1 heach.2, hzero, ih fun _ _ => Nat.zero_ne_one]
      rfl
    | link address =>
      have hlast : ∀ body, tokens.head? = some (.reference body) →
          runOver escapes address ≠ 1 := fun _ hn => (h.precedes hn).elim
      rw [Token.written, onePass_link heach.1 heach.2 (head_written_link h), ih hlast]
      rfl

theorem foldr_push_lexemes : ∀ {tokens : List Token}, WellFormed tokens →
    (tokens.flatMap Token.lexemes).foldr Lexeme.push [] = tokens
  | [], _ => rfl
  | token :: tokens, h => by
    rw [List.flatMap_cons, List.foldr_append, foldr_push_lexemes h.tail]
    cases token with
    | text content => exact foldr_push_chars (h.each _ List.mem_cons_self).1 h.isText_eq_false
    | reference body => rfl
    | code symbol => rfl
    | hex digits => rfl
    | link address => rfl

/-- Tokens that a source can have are read back from what is written for them, if no escape
character in a reference stands right before a brace. -/
theorem tokenize_written {tokens : List Token} (h : WellFormed tokens)
    (hw : ∀ token ∈ tokens, token.IsWritable) : tokenize (written tokens) = tokens := by
  rw [tokenize_eq_onePass, ofText, onePass_written h hw fun _ _ => Nat.zero_ne_one,
    foldr_push_lexemes h]

theorem tokenize_written_mixed :
    tokenize (written [.text "a&\x7b &".toList, .reference "x\x7dy&&".toList, .code 'r',
      .hex "00ff7a".toList, .reference "&".toList, .text "b#".toList,
      .link "https://e.org/\x7b?a=&b".toList, .text " \x7d".toList]) =
      [.text "a&\x7b &".toList, .reference "x\x7dy&&".toList, .code 'r', .hex "00ff7a".toList,
        .reference "&".toList, .text "b#".toList, .link "https://e.org/\x7b?a=&b".toList,
        .text " \x7d".toList] :=
  tokenize_written ⟨by decide, by decide⟩ (by decide)

end StyledMarkup
