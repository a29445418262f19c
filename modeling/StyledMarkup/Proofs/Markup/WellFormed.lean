import Mathlib.Data.List.Chain
import StyledMarkup.Markup.Piece
import StyledMarkup.Markup.Token

/-!
# Well-formed tokens

The rules that the tokens of a source keep, each token on its own (`Token.WellFormed`) and beside
the one before it (`Token.Precedes`).
-/

namespace StyledMarkup

/-- Whether the character is a hexadecimal digit that is no capital. -/
def isLowerHexDigit (c : Char) : Bool :=
  "0123456789abcdef".toList.contains c

namespace Token

/-- Whether the token on its own is one that a source can have: a text is not empty and has no
scheme in it, a reference is trimmed, a code is a short code, a color has six lowercase digits, and
a link starts with a scheme and has no blank. -/
def WellFormed : Token → Prop
  | text content => content ≠ [] ∧ ∀ scheme ∈ Piece.schemes, ¬ scheme <:+: content
  | reference body => body.trim = body
  | code symbol => isShortCode symbol = true
  | hex digits => digits.length = 6 ∧ digits.all isLowerHexDigit = true
  | link address =>
    (∃ scheme ∈ Piece.schemes, scheme <+: address) ∧ address.any Text.isBlank = false

/-- Whether the second token may stand right after the first one: no text stands after a text, and
after a link stands a text that starts with a blank. -/
def Precedes : Token → Token → Prop
  | text _, next => next.isText = false
  | link _, text content => content.head?.any Text.isBlank = true
  | link _, _ => False
  | _, _ => True

instance : ∀ token : Token, Decidable token.WellFormed
  | text _ => inferInstanceAs (Decidable (_ ∧ _))
  | reference _ => inferInstanceAs (Decidable (_ = _))
  | code _ => inferInstanceAs (Decidable (_ = _))
  | hex _ => inferInstanceAs (Decidable (_ ∧ _))
  | link _ => inferInstanceAs (Decidable (_ ∧ _))

instance : DecidableRel Precedes
  | text _, _ => inferInstanceAs (Decidable (_ = _))
  | link _, text _ => inferInstanceAs (Decidable (_ = _))
  | link _, reference _ => isFalse id
  | link _, code _ => isFalse id
  | link _, hex _ => isFalse id
  | link _, link _ => isFalse id
  | reference _, _ => isTrue trivial
  | code _, _ => isTrue trivial
  | hex _, _ => isTrue trivial

end Token

/-- Whether the tokens are ones that a source can have, in an order that it can have. -/
structure WellFormed (tokens : List Token) : Prop where
  each : ∀ token ∈ tokens, token.WellFormed
  order : tokens.IsChain Token.Precedes

theorem WellFormed.tail {token : Token} {tokens : List Token} (h : WellFormed (token :: tokens)) :
    WellFormed tokens :=
  ⟨fun t ht => h.each t (List.mem_cons_of_mem _ ht), h.order.tail⟩

theorem WellFormed.precedes {token next : Token} {tokens : List Token}
    (h : WellFormed (token :: tokens)) (hn : tokens.head? = some next) : token.Precedes next := by
  rcases tokens with _ | ⟨first, tokens⟩
  · cases hn
  · obtain rfl : first = next := Option.some.inj hn
    exact (List.isChain_cons_cons.1 h.order).1

theorem WellFormed.isText_eq_false {content : Text} {tokens : List Token}
    (h : WellFormed (.text content :: tokens)) :
    ∀ token, tokens.head? = some token → token.isText = false :=
  fun _ hn => h.precedes hn

end StyledMarkup
