import Mathlib.Data.List.DropRight
import StyledMarkup.Markup.Token
import StyledMarkup.Proofs.Style.Formats

/-!
# The style that runs

A style is changed token by token (`Token.restyle`). What has come of it is told by the tokens since
the last reset: their last color, and all of their formats (`styleAfter_append`).
-/

namespace StyledMarkup

namespace Token

/-- Whether the token is the code that resets the style. -/
def isReset : Token → Bool
  | code symbol => ShortCode.ofChar? symbol == some .reset
  | _ => false

/-- The color that the token sets. -/
def color? : Token → Option Color
  | code symbol =>
    match ShortCode.ofChar? symbol with
    | some (.color color) => some (.named color)
    | _ => none
  | hex digits => (Rgb.ofHex? digits).map .rgb
  | _ => none

/-- The format that the token switches on. -/
def format? : Token → Option Format
  | code symbol =>
    match ShortCode.ofChar? symbol with
    | some (.format format) => some format
    | _ => none
  | _ => none

/-- The style that runs after the token. -/
def restyle (style : Style) : Token → Style
  | code symbol =>
    match ShortCode.ofChar? symbol with
    | some meaning => style.apply meaning
    | none => style
  | hex digits =>
    match Rgb.ofHex? digits with
    | some color => { style with color := some (.rgb color) }
    | none => style
  | _ => style

end Token

/-- The tokens since the last reset. -/
def sinceReset (before : List Token) : List Token :=
  before.rtakeWhile fun token => !token.isReset

/-- The style that tokens tell: the last color since the last reset, and all formats since then. -/
def styleAfter (before : List Token) : Style :=
  let formats := (sinceReset before).filterMap Token.format?
  { color := ((sinceReset before).filterMap Token.color?).getLast?
    bold := formats.contains .bold
    italic := formats.contains .italic
    underlined := formats.contains .underlined
    strikethrough := formats.contains .strikethrough
    obfuscated := formats.contains .obfuscated }

theorem has_styleAfter (before : List Token) (format : Format) :
    (styleAfter before).has format =
      ((sinceReset before).filterMap Token.format?).contains format := by
  cases format <;> rfl

theorem styleAfter_reset {token : Token} (h : token.isReset = true) (before : List Token) :
    styleAfter (before ++ [token]) = .plain := by
  have hsince : sinceReset (before ++ [token]) = [] :=
    List.rtakeWhile_concat_neg _ _ _ (by simp [h])
  simp only [styleAfter, hsince]
  rfl

theorem color_styleAfter_concat {token : Token} (h : token.isReset = false)
    (before : List Token) :
    (styleAfter (before ++ [token])).color = token.color?.or (styleAfter before).color := by
  have hsince : sinceReset (before ++ [token]) = sinceReset before ++ [token] :=
    List.rtakeWhile_concat_pos _ _ _ (by simp [h])
  simp only [styleAfter, hsince, List.filterMap_append, List.getLast?_append]
  cases hc : token.color? <;> simp [hc]

theorem has_styleAfter_concat {token : Token} (h : token.isReset = false) (before : List Token)
    (format : Format) : (styleAfter (before ++ [token])).has format =
      ((styleAfter before).has format || token.format? == some format) := by
  have hsince : sinceReset (before ++ [token]) = sinceReset before ++ [token] :=
    List.rtakeWhile_concat_pos _ _ _ (by simp [h])
  rw [has_styleAfter, has_styleAfter, hsince, List.filterMap_append, List.contains_append]
  congr 1
  cases hf : token.format? <;> simp [hf, Bool.beq_eq_decide_eq, eq_comm]

theorem Token.restyle_reset {token : Token} (h : token.isReset = true) (style : Style) :
    token.restyle style = .plain := by
  cases token with
  | code symbol =>
    have hsymbol : ShortCode.ofChar? symbol = some .reset := by simpa [isReset] using h
    simp only [restyle, hsymbol]
    rfl
  | _ => cases h

theorem Token.color_restyle {token : Token} (h : token.isReset = false) (style : Style) :
    (token.restyle style).color = token.color?.or style.color := by
  cases token with
  | code symbol =>
    cases hc : ShortCode.ofChar? symbol with
    | none => simp [restyle, color?, hc]
    | some meaning =>
      cases meaning with
      | color color => simp [restyle, color?, hc, Style.apply]
      | format format => simp [restyle, color?, hc, Style.apply]
      | reset => simp [isReset, hc] at h
  | hex digits =>
    cases hc : Rgb.ofHex? digits with
    | none => simp [restyle, color?, hc]
    | some color => simp [restyle, color?, hc]
  | _ => rfl

theorem Token.has_restyle {token : Token} (h : token.isReset = false) (style : Style)
    (format : Format) :
    (token.restyle style).has format = (style.has format || token.format? == some format) := by
  cases token with
  | code symbol =>
    cases hc : ShortCode.ofChar? symbol with
    | none => simp [restyle, format?, hc]
    | some meaning =>
      cases meaning with
      | color color => cases format <;> simp [restyle, format?, hc, Style.apply, Style.has]
      | format switched =>
        by_cases hf : format = switched
        · simp [restyle, format?, hc, Style.apply, Style.has_set, hf]
        · simp [restyle, format?, hc, Style.apply, Style.has_set, hf, Ne.symm hf]
      | reset => simp [isReset, hc] at h
  | hex digits =>
    cases hc : Rgb.ofHex? digits with
    | none => simp [restyle, format?, hc]
    | some color => cases format <;> simp [restyle, format?, hc, Style.has]
  | _ => simp [restyle, format?]

/-- What the tokens tell runs from token to token. -/
theorem styleAfter_concat (before : List Token) (token : Token) :
    styleAfter (before ++ [token]) = token.restyle (styleAfter before) := by
  cases h : token.isReset with
  | true => rw [styleAfter_reset h, token.restyle_reset h]
  | false =>
    refine Style.ext_has ?_ fun format => ?_
    · rw [color_styleAfter_concat h, token.color_restyle h]
    · rw [has_styleAfter_concat h, token.has_restyle h]

theorem styleAfter_append (before tokens : List Token) :
    styleAfter (before ++ tokens) = tokens.foldl Token.restyle (styleAfter before) := by
  induction tokens generalizing before with
  | nil => rw [List.append_nil, List.foldl_nil]
  | cons token tokens ih => rw [List.append_cons, ih, styleAfter_concat, List.foldl_cons]

end StyledMarkup
