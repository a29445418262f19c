import StyledMarkup.Output.Section
import StyledMarkup.Proofs.Style.Formats
import StyledMarkup.Proofs.Style.Hex

/-!
# Reading text with section signs

A client reads text with section signs character by character: a code after a section sign changes
the style, and every other character shows in the style that the codes before it have left. Some
clients keep the formats at a color code and some clear them.

What is written for segments shows the characters of the segments in their styles, for both kinds
of clients, and it depends on nothing else (`sections_faithful`). The codes between two styles
lead a client from the one to the other (`after_styleChange`), so the same holds when they are
written character by character (`encode`), and where the segments are cut does not matter.
-/

namespace StyledMarkup
namespace Output

/-- What a client does with the formats at a color code. -/
inductive Convention where
  | keepsFormats | clearsFormats
deriving DecidableEq, Inhabited

/-- The style after a color code. -/
def Convention.paint (convention : Convention) (style : Style) (color : Color) : Style :=
  match convention with
  | keepsFormats => { style with color := some color }
  | clearsFormats => { color := some color }

/-- The style after a short code. -/
def Convention.apply (convention : Convention) (style : Style) : ShortCode → Style
  | .color color => convention.paint style (.named color)
  | .format format => style.set format true
  | .reset => .plain

/-- How far into a code a client has read. -/
inductive Progress where
  /-- Not at all. -/
  | text
  /-- The section sign has been read. -/
  | sign
  /-- A color by its components has been started, and these digits of it have been read. -/
  | digits (digits : Text)
  /-- The section sign of the next digit has been read too. -/
  | digitSign (digits : Text)
deriving DecidableEq, Inhabited

/-- A client that reads text with section signs. -/
structure Client where
  style : Style := .plain
  progress : Progress := .text
deriving DecidableEq, Inhabited

namespace Client

/-- Whether the character shows: the section signs and what stands right after them do not. -/
def shows (client : Client) (c : Char) : Bool :=
  match client.progress with
  | .text | .digits _ => c != sectionSign
  | .sign | .digitSign _ => false

/-- The client after a character. A code that does not exist is passed over, and so is a color
that has other characters between its digits. -/
def next (convention : Convention) (client : Client) (c : Char) : Client :=
  match client.progress with
  | .text => if c = sectionSign then { client with progress := .sign } else client
  | .sign =>
    if c = 'x' then { client with progress := .digits [] }
    else match ShortCode.ofChar? c with
      | some code => ⟨convention.apply client.style code, .text⟩
      | none => { client with progress := .text }
  | .digits digits =>
    if c = sectionSign then { client with progress := .digitSign digits }
    else { client with progress := .text }
  | .digitSign digits =>
    if digits.length < 5 then { client with progress := .digits (digits ++ [c]) }
    else match Rgb.ofHex? (digits ++ [c]) with
      | some color => ⟨convention.paint client.style (.rgb color), .text⟩
      | none => { client with progress := .text }

def after (convention : Convention) (client : Client) (t : Text) : Client :=
  t.foldl (next convention) client

/-- The characters of a text that show, with their styles. -/
def read (convention : Convention) (client : Client) : Text → List (Char × Style)
  | [] => []
  | c :: rest =>
    (if client.shows c then [(c, client.style)] else []) ++
      read convention (client.next convention c) rest

end Client

/-- The characters of segments with their styles. -/
def styledChars (segments : List Segment) : List (Char × Style) :=
  segments.flatMap fun segment => segment.text.map fun c => (c, segment.style)

/-- Characters with section signs, after text in the style `current`. -/
def encode (current : Style) : List (Char × Style) → Text
  | [] => []
  | (c, style) :: rest =>
    (if style = current then [] else styleChange current style) ++ c :: encode style rest

variable {convention : Convention}

theorem Convention.color_paint (style : Style) (color : Color) :
    (convention.paint style color).color = some color := by
  cases convention <;> rfl

theorem Convention.has_paint {style : Style} {color : Color} {format : Format}
    (h : (convention.paint style color).has format = true) : style.has format = true := by
  cases convention with
  | keepsFormats =>
    rw [← h]
    cases format <;> rfl
  | clearsFormats => cases format <;> cases h

namespace Client

theorem after_append (client : Client) (s t : Text) :
    client.after convention (s ++ t) = (client.after convention s).after convention t :=
  List.foldl_append

theorem read_append (client : Client) (s t : Text) :
    client.read convention (s ++ t) =
      client.read convention s ++ (client.after convention s).read convention t := by
  induction s generalizing client with
  | nil => rfl
  | cons c s ih =>
    rw [List.cons_append, read, ih, read, List.append_assoc]
    rfl

/-- Whether the text shows nothing to a client in the style `style` and leaves it in the style
`other`. -/
def Leads (convention : Convention) (t : Text) (style other : Style) : Prop :=
  read convention ⟨style, .text⟩ t = [] ∧ after convention ⟨style, .text⟩ t = ⟨other, .text⟩

theorem Leads.nil (style : Style) : Leads convention [] style style :=
  ⟨rfl, rfl⟩

theorem Leads.append {s t : Text} {first second third : Style}
    (hs : Leads convention s first second) (ht : Leads convention t second third) :
    Leads convention (s ++ t) first third := by
  refine ⟨?_, ?_⟩
  · rw [read_append, hs.1, hs.2, ht.1]
    rfl
  · rw [after_append, hs.2, ht.2]

theorem ofChar?_symbol (code : ShortCode) : ShortCode.ofChar? code.symbol = some code := by
  rcases code with color | format | _
  · cases color <;> decide
  · cases format <;> decide
  · decide

theorem symbol_ne_x (code : ShortCode) : code.symbol ≠ 'x' := by
  intro h
  have hx := ofChar?_symbol code
  have hnone : ShortCode.ofChar? 'x' = none := by decide
  rw [h, hnone] at hx
  cases hx

theorem leads_code (code : ShortCode) (style : Style) :
    Leads convention code.toSection style (convention.apply style code) := by
  refine ⟨rfl, ?_⟩
  show next convention ⟨style, .sign⟩ code.symbol = _
  simp only [next, if_neg (symbol_ne_x code), ofChar?_symbol]

theorem leads_color (color : Color) (style : Style) :
    Leads convention color.toSection style (convention.paint style color) := by
  cases color with
  | named color => exact leads_code (.color color) style
  | rgb color =>
    have hcolor := Rgb.ofHex?_hexDigits color
    simp only [Color.toSection]
    -- Only the last digit makes the client look at what the digits are.
    obtain ⟨a, b, c, d, e, f, hdigits⟩ :
        ∃ a b c d e f, color.hexDigits = [a, b, c, d, e, f] := ⟨_, _, _, _, _, _, rfl⟩
    rw [hdigits] at hcolor ⊢
    refine ⟨rfl, ?_⟩
    show next convention ⟨style, .digitSign [a, b, c, d, e]⟩ f = _
    simp [next, hcolor]

theorem leads_formats (formats : List Format) (style : Style) :
    Leads convention (formats.flatMap fun format => (ShortCode.format format).toSection) style
      (style.switchOn formats) := by
  induction formats generalizing style with
  | nil => exact Leads.nil style
  | cons format formats ih => exact (leads_code (.format format) style).append (ih _)

end Client

/-! ## Changes of style -/

/-- What the reset before a change of style leaves. -/
def kept (current next : Style) : Style :=
  if needsReset current next && !current.isPlain then .plain else current

theorem kept_of_needsReset {current next : Style} (h : needsReset current next = true) :
    kept current next = .plain := by
  unfold kept
  rw [h, Bool.true_and]
  cases hp : current.isPlain
  · rfl
  · exact beq_iff_eq.1 hp

theorem color_kept {current next : Style} (h : next.color = none) :
    (kept current next).color = none := by
  have hr : needsReset current next = true := by simp [needsReset, h]
  rw [kept_of_needsReset hr]
  rfl

theorem has_kept {current next : Style} {format : Format}
    (h : (kept current next).has format = true) : next.has format = true := by
  cases hr : needsReset current next with
  | true =>
    rw [kept_of_needsReset hr, Style.has_plain] at h
    cases h
  | false =>
    unfold kept at h
    rw [hr, Bool.false_and] at h
    unfold needsReset at hr
    rw [Bool.or_eq_false_iff, List.any_eq_false] at hr
    have hnext := hr.2 format (Style.mem_formats.2 h)
    simpa using hnext

theorem leads_kept (current next : Style) :
    Client.Leads convention
      (if needsReset current next && !current.isPlain then ShortCode.reset.toSection else [])
      current (kept current next) := by
  unfold kept
  split
  · exact Client.leads_code .reset current
  · exact Client.Leads.nil current

/-- The codes between two styles lead from the one to the other. -/
theorem leads_styleChange (current next : Style) :
    Client.Leads convention (styleChange current next) current next := by
  have hkept := @leads_kept convention current next
  unfold styleChange
  cases hc : next.color with
  | none =>
    have hformats := @Client.leads_formats convention next.formats (kept current next)
    rw [Style.switchOn_formats (by rw [hc, color_kept hc]) fun _ h => has_kept h] at hformats
    exact (hkept.append (Client.Leads.nil _)).append hformats
  | some color =>
    have hformats :=
      @Client.leads_formats convention next.formats (convention.paint (kept current next) color)
    rw [Style.switchOn_formats (by rw [hc, Convention.color_paint])
      fun _ h => has_kept (Convention.has_paint h)] at hformats
    exact (hkept.append (Client.leads_color color _)).append hformats

/-! ## Characters with section signs -/

theorem read_char (style : Style) {c : Char} (hc : c ≠ sectionSign) (rest : Text) :
    Client.read convention ⟨style, .text⟩ (c :: rest) =
      (c, style) :: Client.read convention ⟨style, .text⟩ rest := by
  simp [Client.read, Client.shows, Client.next, hc]

theorem read_text (style : Style) {t : Text} (ht : sectionSign ∉ t) (rest : Text) :
    Client.read convention ⟨style, .text⟩ (t ++ rest) =
      t.map (fun c => (c, style)) ++ Client.read convention ⟨style, .text⟩ rest := by
  induction t with
  | nil => rfl
  | cons c t ih =>
    rw [List.mem_cons, not_or] at ht
    rw [List.cons_append, read_char style (Ne.symm ht.1), ih ht.2]
    rfl

theorem read_encode : ∀ (current : Style) {chars : List (Char × Style)},
    (∀ entry ∈ chars, entry.1 ≠ sectionSign) →
      Client.read convention ⟨current, .text⟩ (encode current chars) = chars
  | _, [], _ => rfl
  | current, (c, style) :: rest, h => by
    have hchange : Client.Leads convention
        (if style = current then [] else styleChange current style) current style := by
      split
      · rename_i heq
        rw [heq]
        exact Client.Leads.nil current
      · exact leads_styleChange current style
    have hrest : ∀ entry ∈ rest, entry.1 ≠ sectionSign :=
      fun entry he => h entry (List.mem_cons_of_mem _ he)
    rw [encode, Client.read_append, hchange.1, hchange.2, List.nil_append,
      read_char style (h (c, style) List.mem_cons_self), read_encode style hrest]

theorem encode_same (style : Style) (t : Text) (chars : List (Char × Style)) :
    encode style (t.map (fun c => (c, style)) ++ chars) = t ++ encode style chars := by
  induction t with
  | nil => rfl
  | cons c t ih =>
    rw [List.map_cons, List.cons_append, encode, if_pos rfl, ih]
    rfl

theorem styledChars_cons (segment : Segment) (segments : List Segment) :
    styledChars (segment :: segments) =
      segment.text.map (fun c => (c, segment.style)) ++ styledChars segments := rfl

theorem sectionsFrom_eq_encode (current : Style) (segments : List Segment) :
    sectionsFrom current segments = encode current (styledChars segments) := by
  induction segments generalizing current with
  | nil => rfl
  | cons segment segments ih =>
    unfold sectionsFrom
    rw [styledChars_cons]
    cases ht : segment.text with
    | nil =>
      show sectionsFrom current segments = encode current (styledChars segments)
      exact ih current
    | cons c t =>
      rw [if_neg (by simp), List.map_cons, List.cons_append, encode, encode_same, ih]
      simp

theorem sections_eq_encode (segments : List Segment) :
    sections segments = encode .plain (styledChars segments) :=
  sectionsFrom_eq_encode .plain segments

theorem ne_sectionSign_of_mem_styledChars {segments : List Segment}
    (h : ∀ segment ∈ segments, sectionSign ∉ segment.text) :
    ∀ entry ∈ styledChars segments, entry.1 ≠ sectionSign := by
  intro entry he
  obtain ⟨segment, hs, hm⟩ := List.mem_flatMap.1 he
  obtain ⟨c, hc, rfl⟩ := List.mem_map.1 hm
  rintro rfl
  exact h segment hs hc

/-- Segments without section signs in their texts are written so that every client reads their
characters in their styles, and segments with the same characters in the same styles are written
alike. -/
theorem sections_faithful :
    (∀ segments : List Segment, (∀ segment ∈ segments, sectionSign ∉ segment.text) →
      ∀ convention, Client.read convention {} (sections segments) = styledChars segments) ∧
    ∀ segments others : List Segment, styledChars segments = styledChars others →
      sections segments = sections others := by
  refine ⟨fun segments h convention => ?_, fun segments others h => ?_⟩
  · rw [sections_eq_encode]
    exact read_encode .plain (ne_sectionSign_of_mem_styledChars h)
  · rw [sections_eq_encode, sections_eq_encode, h]

theorem sections_faithful_bold_gold :
    let bold : Style := { color := some (.named .gold), bold := true }
    let gold : Style := { color := some (.rgb ⟨0xff, 0xaa, 0x00⟩) }
    Client.read .clearsFormats {}
        (sections [⟨"a".toList, bold, none, none, none⟩, ⟨[], .plain, none, none, none⟩,
          ⟨"bc".toList, gold, none, none, none⟩]) = [('a', bold), ('b', gold), ('c', gold)] ∧
      sections [⟨"b".toList, gold, none, none, none⟩, ⟨"c".toList, gold, none, none, none⟩] =
        sections [⟨"bc".toList, gold, none, none, none⟩] :=
  ⟨sections_faithful.1 _ (by decide) _, sections_faithful.2 _ _ (by decide)⟩

end Output
end StyledMarkup
