import StyledMarkup.Proofs.Markup.Shape
import StyledMarkup.Proofs.Template.Nodes

/-!
# Tokens of a source resolve

What a token of a source has for a code or for digits is found again where templates are compiled,
although the two sides have tables of their own: a short code has a meaning of just this symbol
(`ofChar?_of_isShortCode`), and six digits are a color of just these digits
(`ofHex?_of_wellFormed`). So each token of a source stands for what its kind tells
(`Token.Resolves`): none stays text for want of a meaning, templates are compiled from just these
nodes, and compiling has nothing to report but that it is done (`source_resolves`).
-/

namespace StyledMarkup

variable {σ : Type}

/-! ## One token -/

theorem ShortCode.ofChar?_of_isShortCode {symbol : Char} (h : isShortCode symbol = true) :
    ∃ meaning, ofChar? symbol = some meaning ∧ meaning.symbol = symbol := by
  have hall : (shortCodes.all fun c => (ofChar? c).map ShortCode.symbol == some c) = true := by
    decide
  have hsymbol := List.all_eq_true.1 hall symbol (List.contains_iff_mem.1 h)
  exact Option.map_eq_some_iff.1 (beq_iff_eq.1 hsymbol)

theorem Rgb.ofHex?_of_wellFormed {digits : Text} (h : (Token.hex digits).WellFormed) :
    ∃ color, ofHex? digits = some color ∧ color.hexDigits = digits := by
  obtain ⟨hl, hd⟩ := h
  have hlower : ∀ c ∈ digits, Text.isHexDigit c = true ∧ c.toLower = c :=
    fun c hc => lowerHexDigit (List.all_eq_true.1 hd c hc)
  obtain ⟨color, hcolor, hdigits⟩ := ofHex?_six hl fun c hc => (hlower c hc).1
  refine ⟨color, hcolor, hdigits.trans ?_⟩
  exact (List.map_congr_left fun c hc => (hlower c hc).2).trans (List.map_id digits)

namespace Token

theorem node_code {symbol : Char} {meaning : ShortCode}
    (h : ShortCode.ofChar? symbol = some meaning) : (code symbol).node = .code meaning := by
  simp only [node, resolve, h]

theorem node_hex {digits : Text} {color : Rgb} (h : Rgb.ofHex? digits = some color) :
    (hex digits).node = .color color := by
  simp only [node, resolve, h]

theorem fallback?_eq_none {token : Token} (h : token.WellFormed) : token.fallback? = none := by
  cases token with
  | text content => rfl
  | reference body => rw [fallback?, resolve_reference]
  | link address => rfl
  | code symbol =>
    obtain ⟨meaning, hm, -⟩ := ShortCode.ofChar?_of_isShortCode h
    simp only [fallback?, resolve, hm]
  | hex digits =>
    obtain ⟨color, hc, -⟩ := Rgb.ofHex?_of_wellFormed h
    simp only [fallback?, resolve, hc]

/-- Whether the node is what the kind of the token tells: a code has a meaning of its symbol, digits
are those of a color, and the body of a reference is a call just if it has an opening
parenthesis. -/
inductive Resolves : Token → Node → Prop where
  | text (content : Text) : Resolves (text content) (.text content)
  | link (address : Text) : Resolves (link address) (.link address)
  | code {symbol : Char} {meaning : ShortCode} : ShortCode.ofChar? symbol = some meaning →
      meaning.symbol = symbol → Resolves (code symbol) (.code meaning)
  | hex {digits : Text} {color : Rgb} : Rgb.ofHex? digits = some color →
      color.hexDigits = digits → Resolves (hex digits) (.color color)
  | name {body : Text} : '(' ∉ body → Resolves (reference body) (.reference body)
  | call {body : Text} {call : Call} : '(' ∈ body → Call.parse body = .ok call →
      Resolves (reference body) (.call call)

theorem resolves_node {token : Token} (h : token.WellFormed) : Resolves token token.node := by
  cases token with
  | text content => exact .text content
  | link address => exact .link address
  | code symbol =>
    obtain ⟨meaning, hm, hsymbol⟩ := ShortCode.ofChar?_of_isShortCode h
    rw [node_code hm]
    exact .code hm hsymbol
  | hex digits =>
    obtain ⟨color, hc, hdigits⟩ := Rgb.ofHex?_of_wellFormed h
    rw [node_hex hc]
    exact .hex hc hdigits
  | reference body =>
    rw [node_reference]
    obtain ⟨hopen, call, hp⟩ | ⟨hnone, hp⟩ := Call.parse_cases body
    · rw [hp]
      exact .call hopen hp
    · rw [hp]
      exact .name hnone

end Token

/-! ## The tokens of a source -/

theorem filterMap_fallback?_tokenize (source : Text) :
    (tokenize source).filterMap Token.fallback? = [] :=
  List.filterMap_eq_nil_iff.2 fun _ ht =>
    Token.fallback?_eq_none ((wellFormed_tokenize source).each _ ht)

theorem forall₂_resolves_tokenize (source : Text) :
    List.Forall₂ Token.Resolves (tokenize source) ((tokenize source).map Token.node) := by
  rw [List.forall₂_map_right_iff, List.forall₂_same]
  exact fun token ht => Token.resolves_node ((wellFormed_tokenize source).each token ht)

/-- No other node takes the place of the node of a token of a source. Each code has a meaning and is
written as itself behind a section sign, the digits of each color are read as a color and written as
themselves, and each body with an opening parenthesis is a call. Compiling a source of either kind
adds one event to the log, which says that it is compiled, and what is compiled are these nodes and
no others, put into a sequence. -/
theorem source_resolves (source : Text) :
    (∀ token ∈ tokenize source, token.fallback? = none) ∧
    (∀ symbol, .code symbol ∈ tokenize source → ∃ meaning,
      ShortCode.ofChar? symbol = some meaning ∧ meaning.symbol = symbol ∧
      (Token.code symbol).node = .code meaning ∧
      (Token.code symbol).node.flat = .text [sectionSign, symbol]) ∧
    (∀ digits, .hex digits ∈ tokenize source → ∃ color,
      Rgb.ofHex? digits = some color ∧ color.hexDigits = digits ∧
      (Token.hex digits).node = .color color ∧
      (Token.hex digits).node.flat =
        .text (sectionSign :: 'x' :: digits.flatMap fun digit => [sectionSign, digit])) ∧
    (∀ body, .reference body ∈ tokenize source → '(' ∈ body → ∃ call,
      Call.parse body = .ok call ∧ (Token.reference body).node = .call call) ∧
    (∀ context : Context σ,
      (Template.compileNoted source context).2.log = context.log ++
        [.compiledFlat (Template.compile source).body.isFixed
          (Template.compile source).body.nodeCount] ∧
      (StyledTemplate.compileNoted source context).2.log = context.log ++
        [.compiledStyled (StyledTemplate.compile source).body.isFixed]) ∧
    ∃ nodes, List.Forall₂ Token.Resolves (tokenize source) nodes ∧
      StyledBody.nodesOf (tokenize source) = nodes.foldr Node.push [] ∧
      FlatBody.nodesOf (tokenize source) = (nodes.map Node.flat).foldr Node.push [] := by
  have heach := (wellFormed_tokenize source).each
  have hfallbacks := filterMap_fallback?_tokenize source
  refine ⟨fun token ht => Token.fallback?_eq_none (heach token ht), fun symbol hs => ?_,
    fun digits hd => ?_, fun body _ hopen => ?_, fun context => ⟨?_, ?_⟩,
    _, forall₂_resolves_tokenize source, rfl, ?_⟩
  · obtain ⟨meaning, hm, hsymbol⟩ := ShortCode.ofChar?_of_isShortCode (heach _ hs)
    refine ⟨meaning, hm, hsymbol, Token.node_code hm, ?_⟩
    rw [Token.node_code hm, Node.flat, ShortCode.toSection, hsymbol]
  · obtain ⟨color, hc, hdigits⟩ := Rgb.ofHex?_of_wellFormed (heach _ hd)
    refine ⟨color, hc, hdigits, Token.node_hex hc, ?_⟩
    rw [Token.node_hex hc, Node.flat, Color.toSection, hdigits]
  · obtain ⟨-, call, hp⟩ | ⟨hnone, -⟩ := Call.parse_cases body
    · exact ⟨call, hp, by rw [Token.node_reference, hp]⟩
    · exact absurd hopen hnone
  · show context.log ++ FlatBody.events (tokenize source) = _
    rw [FlatBody.events, hfallbacks]
    rfl
  · show context.log ++ StyledBody.events (tokenize source) = _
    rw [StyledBody.events, hfallbacks]
    rfl
  · rw [List.map_map]
    rfl

end StyledMarkup
