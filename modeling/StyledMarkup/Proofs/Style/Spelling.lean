import Mathlib.Data.List.Basic
import Mathlib.Data.List.TakeWhile
import StyledMarkup.Markup.Scan
import StyledMarkup.Proofs.Markup.Matching
import StyledMarkup.Proofs.Style.Hex
import StyledMarkup.Proofs.Text.Count

/-!
# Spellings of colors

A color is spelled by three or six hexadecimal digits of either case, behind one color sign or
none, and by nothing else (`ofHex?_eq_some_iff`). What is read has the spelled digits, a single
digit written twice, so the case and the sign make no difference, and three digits are read as the
scanner doubles them.

The same is read from the bytes of a text: all slices are taken behind the check for hexadecimal
digits, which are one byte each, so none of them starts or ends inside a character
(`ofHexSlices_eq`).
-/

namespace StyledMarkup

/-! ## Digits of either case -/

namespace Text

/-- The hexadecimal digits of either case. -/
def hexAlphabet : List Char :=
  "0123456789abcdefABCDEF".toList

@[elab_as_elim]
theorem char_cases {motive : Char → Prop} (ascii : ∀ n < 128, motive (Char.ofNat n))
    (above : ∀ c : Char, 128 ≤ c.toNat → motive c) (c : Char) : motive c := by
  by_cases h : c.toNat < 128
  · rw [← Char.ofNat_toNat c]
    exact ascii _ h
  · exact above c (Nat.le_of_not_lt h)

theorem toLower_of_le {c : Char} (h : 128 ≤ c.toNat) : c.toLower = c := by
  refine dif_neg fun hc => ?_
  have hle : c.toNat ≤ 90 := UInt32.le_iff_toNat_le.1 hc.2
  omega

theorem toUpper_of_le {c : Char} (h : 128 ≤ c.toNat) : c.toUpper = c := by
  refine dif_neg fun hc => ?_
  have hle : c.toNat ≤ 122 := UInt32.le_iff_toNat_le.1 hc.2
  omega

theorem isHexDigit_iff (c : Char) : isHexDigit c = true ↔ c ∈ hexAlphabet := by
  have hascii : (hexAlphabet.all fun d => d.toNat < 128) = true := by decide
  refine char_cases ?_ (fun c h => ⟨fun hd => ?_, fun hm => ?_⟩) c
  · decide +kernel
  · have := toNat_lt_of_isHexDigit hd
    omega
  · have := of_decide_eq_true (List.all_eq_true.1 hascii c hm)
    omega

end Text

namespace Rgb

/-! ## Signs and digits -/

/-- The text without the color sign that it may start with. -/
def unsigned (t : Text) : Text :=
  (Text.after? ['#'] t).getD t

/-- Reads digits without a sign. -/
def ofDigits? (digits : Text) : Option Rgb :=
  (digits.mapM Text.hexValue?).bind ofDigitValues?

theorem ofHex?_eq (t : Text) : ofHex? t = ofDigits? (unsigned t) :=
  rfl

theorem unsigned_signed (digits : Text) : unsigned ('#' :: digits) = digits := by
  simp [unsigned, Text.after?]

theorem unsigned_of_head {t : Text} (h : t.head? ≠ some '#') : unsigned t = t := by
  rcases t with _ | ⟨c, t⟩
  · rfl
  · have hc : '#' ≠ c := fun hc => h (by rw [hc]; rfl)
    simp [unsigned, Text.after?, hc]

theorem unsigned_cases (t : Text) : t = '#' :: unsigned t ∨ t.head? ≠ some '#' := by
  rcases t with _ | ⟨c, t⟩
  · exact .inr (by simp)
  · by_cases hc : c = '#'
    · rw [hc, unsigned_signed]
      exact .inl rfl
    · exact .inr (by simpa using hc)

theorem head_ne_sign {digits : Text} (h : ∀ c ∈ digits, Text.isHexDigit c = true) :
    digits.head? ≠ some '#' :=
  fun hs => absurd (h '#' (List.mem_of_mem_head? hs)) (by decide)

/-! ## What is read -/

theorem hexDigits_injective : Function.Injective hexDigits := by
  intro color other h
  have hread := congrArg ofHex? h
  rw [ofHex?_hexDigits, ofHex?_hexDigits] at hread
  exact Option.some.inj hread

/-- A digit times seventeen is that digit twice. -/
theorem ofDigitValues?_twice (r g b : Nat) :
    ofDigitValues? [r, r, g, g, b, b] = ofDigitValues? [r, g, b] := by
  have htwice : ∀ n, 16 * n + n = 17 * n := fun n => by omega
  simp only [ofDigitValues?, htwice]

theorem exists_three_values {digits : Text} (hl : digits.length = 3)
    (hd : ∀ c ∈ digits, Text.isHexDigit c = true) : ∃ r g b nr ng nb, digits = [r, g, b] ∧
      Text.hexValue? r = some nr ∧ Text.hexValue? g = some ng ∧ Text.hexValue? b = some nb := by
  obtain ⟨r, g, b, rfl⟩ := List.length_eq_three.1 hl
  obtain ⟨nr, hr⟩ := Option.isSome_iff_exists.1 (hd r (by simp))
  obtain ⟨ng, hg⟩ := Option.isSome_iff_exists.1 (hd g (by simp))
  obtain ⟨nb, hb⟩ := Option.isSome_iff_exists.1 (hd b (by simp))
  exact ⟨r, g, b, nr, ng, nb, rfl, hr, hg, hb⟩

theorem ofDigits?_three {digits : Text} (hl : digits.length = 3)
    (hd : ∀ c ∈ digits, Text.isHexDigit c = true) : ∃ color, ofDigits? digits = some color ∧
      color.hexDigits = (Scan.doubled digits).map Char.toLower := by
  obtain ⟨r, g, b, nr, ng, nb, rfl, hr, hg, hb⟩ := exists_three_values hl hd
  refine ⟨ofNats (16 * nr + nr) (16 * ng + ng) (16 * nb + nb), ?_, ?_⟩
  · simp only [ofDigits?, List.mapM_cons, List.mapM_nil, hr, hg, hb, Option.pure_def,
      Option.bind_eq_bind, Option.bind_some, ← ofDigitValues?_twice]
    rfl
  · rw [hexDigits, ofNats, componentDigits_ofNat hr hr, componentDigits_ofNat hg hg,
      componentDigits_ofNat hb hb]
    rfl

theorem ofDigits?_six {digits : Text} (hl : digits.length = 6)
    (hd : ∀ c ∈ digits, Text.isHexDigit c = true) : ∃ color, ofDigits? digits = some color ∧
      color.hexDigits = digits.map Char.toLower := by
  have h := ofHex?_six hl hd
  rwa [ofHex?_eq, unsigned_of_head (head_ne_sign hd)] at h

theorem length_of_mapM {digits : Text} {values : List Nat}
    (h : digits.mapM Text.hexValue? = some values) :
    values.length = digits.length ∧ ∀ c ∈ digits, Text.isHexDigit c = true := by
  induction digits generalizing values with
  | nil =>
    cases h
    simp
  | cons c digits ih =>
    rw [List.mapM_cons] at h
    obtain ⟨value, hvalue, h⟩ := Option.bind_eq_some_iff.1 h
    obtain ⟨others, hothers, h⟩ := Option.bind_eq_some_iff.1 h
    cases h
    obtain ⟨hl, hd⟩ := ih hothers
    refine ⟨by simp [hl], fun d hm => ?_⟩
    rcases List.mem_cons.1 hm with rfl | hm
    · rw [Text.isHexDigit, hvalue]
      rfl
    · exact hd d hm

theorem length_of_ofDigitValues? {values : List Nat} {color : Rgb}
    (h : ofDigitValues? values = some color) : values.length = 3 ∨ values.length = 6 := by
  unfold ofDigitValues? at h
  split at h
  · exact .inl rfl
  · exact .inr rfl
  · cases h

theorem digits_of_ofDigits? {digits : Text} {color : Rgb} (h : ofDigits? digits = some color) :
    (digits.length = 3 ∨ digits.length = 6) ∧ ∀ c ∈ digits, Text.isHexDigit c = true := by
  obtain ⟨values, hvalues, hcolor⟩ := Option.bind_eq_some_iff.1 h
  obtain ⟨hlength, hd⟩ := length_of_mapM hvalues
  exact ⟨hlength ▸ length_of_ofDigitValues? hcolor, hd⟩

/-- Whether the text spells six digits: by three or six digits of either case, the three of them
written once, behind one color sign or none. -/
def Spells (t six : Text) : Prop :=
  ∃ digits, (t = digits ∨ t = '#' :: digits) ∧ (∀ c ∈ digits, c ∈ Text.hexAlphabet) ∧
    (digits.length = 3 ∧ six = (Scan.doubled digits).map Char.toLower ∨
      digits.length = 6 ∧ six = digits.map Char.toLower)

theorem exists_of_spells {t six : Text} (h : Spells t six) :
    ∃ color, ofHex? t = some color ∧ color.hexDigits = six := by
  obtain ⟨digits, ht, hd, hsix⟩ := h
  have hhex : ∀ c ∈ digits, Text.isHexDigit c = true :=
    fun c hc => (Text.isHexDigit_iff c).2 (hd c hc)
  have hunsigned : unsigned t = digits := by
    rcases ht with rfl | rfl
    · exact unsigned_of_head (head_ne_sign hhex)
    · exact unsigned_signed digits
  rw [ofHex?_eq, hunsigned]
  rcases hsix with ⟨hl, rfl⟩ | ⟨hl, rfl⟩
  · exact ofDigits?_three hl hhex
  · exact ofDigits?_six hl hhex

theorem ofHex?_eq_some_iff {t : Text} {color : Rgb} :
    ofHex? t = some color ↔ Spells t color.hexDigits := by
  constructor
  · intro h
    rw [ofHex?_eq] at h
    obtain ⟨hlength, hd⟩ := digits_of_ofDigits? h
    have hspelled : t = unsigned t ∨ t = '#' :: unsigned t := by
      rcases unsigned_cases t with hs | hs
      · exact .inr hs
      · exact .inl (unsigned_of_head hs).symm
    refine ⟨unsigned t, hspelled, fun c hc => (Text.isHexDigit_iff c).1 (hd c hc), ?_⟩
    rcases hlength with hl | hl
    · obtain ⟨other, ho, hdigits⟩ := ofDigits?_three hl hd
      cases ho.symm.trans h
      exact .inl ⟨hl, hdigits⟩
    · obtain ⟨other, ho, hdigits⟩ := ofDigits?_six hl hd
      cases ho.symm.trans h
      exact .inr ⟨hl, hdigits⟩
  · intro h
    obtain ⟨other, ho, hdigits⟩ := exists_of_spells h
    rw [ho, hexDigits_injective hdigits]

/-! ## Case, sign and doubled digits -/

theorem ofHex?_map {f : Char → Char} (habove : ∀ c : Char, 128 ≤ c.toNat → f c = c)
    (hascii : ∀ n < 128, Text.hexValue? (f (.ofNat n)) = Text.hexValue? (.ofNat n) ∧
      (f (.ofNat n) = '#' ↔ Char.ofNat n = '#')) (t : Text) : ofHex? (t.map f) = ofHex? t := by
  have hsame : ∀ c, Text.hexValue? (f c) = Text.hexValue? c ∧ (f c = '#' ↔ c = '#') := by
    refine fun c => Text.char_cases hascii (fun c h => ?_) c
    rw [habove c h]
    exact ⟨rfl, Iff.rfl⟩
  have hvalues : Text.hexValue? ∘ f = Text.hexValue? := funext fun c => (hsame c).1
  have hsign := fun c => (hsame c).2
  have hunsigned : unsigned (t.map f) = (unsigned t).map f := by
    rcases unsigned_cases t with hs | hs
    · rw [hs, List.map_cons, (hsign '#').2 rfl, unsigned_signed, unsigned_signed]
    · rw [unsigned_of_head hs]
      refine unsigned_of_head fun hm => ?_
      rcases t with _ | ⟨c, t⟩
      · cases hm
      · have hc : f c = '#' := Option.some.inj hm
        exact hs (by rw [(hsign c).1 hc]; rfl)
  rw [ofHex?_eq, ofHex?_eq, hunsigned, ofDigits?, List.mapM_map, hvalues]
  rfl

theorem ofDigits?_doubled (r g b : Char) :
    ofDigits? (Scan.doubled [r, g, b]) = ofDigits? [r, g, b] := by
  cases hr : Text.hexValue? r with
  | none => simp [ofDigits?, Scan.doubled, hr]
  | some nr =>
    cases hg : Text.hexValue? g with
    | none => simp [ofDigits?, Scan.doubled, hr, hg]
    | some ng =>
      cases hb : Text.hexValue? b with
      | none => simp [ofDigits?, Scan.doubled, hr, hg, hb]
      | some nb => simp [ofDigits?, Scan.doubled, hr, hg, hb, ofDigitValues?_twice]

theorem ofHex?_doubled {t : Text} (h : t.length = 3) : ofHex? (Scan.doubled t) = ofHex? t := by
  obtain ⟨r, g, b, rfl⟩ := List.length_eq_three.1 h
  by_cases hr : r = '#'
  · -- Neither is a spelling: two digits are left of the one, and a second sign of the other.
    have hsign : Text.hexValue? '#' = none := rfl
    rw [hr, ofHex?_eq, ofHex?_eq, Scan.doubled, List.flatMap_cons, List.cons_append,
      unsigned_signed, unsigned_signed]
    cases hg : Text.hexValue? g <;> cases hb : Text.hexValue? b <;>
      simp [ofDigits?, hsign, hg, hb, ofDigitValues?]
  · have hone : unsigned [r, g, b] = [r, g, b] := unsigned_of_head (by simpa using hr)
    have htwo : unsigned (Scan.doubled [r, g, b]) = Scan.doubled [r, g, b] :=
      unsigned_of_head (by simpa [Scan.doubled] using hr)
    rw [ofHex?_eq, ofHex?_eq, hone, htwo, ofDigits?_doubled]

/-- The digits that the scanner takes behind a color sign spell the six that it gives. -/
theorem spells_of_color {rest : List Mark} {n : Nat} {six : Text}
    (h : Scan.color rest = ⟨n, .token (.hex six)⟩) : Spells (Mark.chars (rest.take n)) six := by
  set front := (Mark.chars (rest.take 6)).takeWhile Text.isHexDigit with hfront
  have hhex : ∀ c ∈ front, c ∈ Text.hexAlphabet :=
    fun c hc => (Text.isHexDigit_iff c).1 (List.mem_takeWhile_imp hc)
  have htake : ∀ k ≤ front.length, k ≤ 6 → Mark.chars (rest.take k) = front.take k := by
    intro k hk h6
    have hpre : front <+: Mark.chars (rest.take 6) := List.takeWhile_prefix Text.isHexDigit
    rw [List.prefix_iff_eq_take.1 hpre, List.take_take, Nat.min_eq_left hk, Mark.chars_take,
      Mark.chars_take, List.take_take, Nat.min_eq_left h6]
  simp only [Scan.color, ← hfront, List.length_map] at h
  split_ifs at h with h3 h6
  · cases h
  · cases h
    rw [htake 6 (by omega) (by omega), List.take_of_length_le (by omega)]
    exact ⟨front, .inl rfl, hhex, .inr ⟨h6, rfl⟩⟩
  · cases h
    rw [htake 3 (by omega) (by omega)]
    refine ⟨front.take 3, .inl rfl, fun c hc => hhex c (List.mem_of_mem_take hc), .inl ⟨?_, ?_⟩⟩
    · rw [List.length_take]
      omega
    · simp [Scan.doubled, List.map_flatMap, List.flatMap_map, ← List.map_take]

end Rgb

/-! ## Slices of bytes -/

namespace Text

/-- The number of bytes of the text in UTF-8. -/
def byteLength : Text → Nat
  | [] => 0
  | c :: rest => c.utf8Size + byteLength rest

/-- The text cut in front of its byte `n`, if no character of the text goes across that place and
the text is not shorter. -/
def cutBytes? : Nat → Text → Option (Text × Text)
  | 0, t => some ([], t)
  | _ + 1, [] => none
  | n + 1, c :: rest =>
    if c.utf8Size ≤ n + 1 then
      (cutBytes? (n + 1 - c.utf8Size) rest).map fun (front, back) => (c :: front, back)
    else none

/-- The bytes from `first` up to `last`, if both are places between characters. -/
def slice? (t : Text) (first last : Nat) : Option Text := do
  let (_, back) ← cutBytes? first t
  let (slice, _) ← cutBytes? (last - first) back
  return slice

/-- Reads a number of eight bits: hexadecimal digits, after a plus sign if there is one. -/
def readByte? (t : Text) : Option UInt8 := do
  let n ← readRadix? 16 ((after? ['+'] t).getD t)
  if n < 256 then some (.ofNat n) else none

theorem utf8Size_of_isHexDigit {c : Char} (h : isHexDigit c = true) : c.utf8Size = 1 := by
  have hlt := toNat_lt_of_isHexDigit h
  exact Char.utf8Size_eq_one_iff.2 (UInt32.le_iff_toNat_le.2 (Nat.le_of_lt_succ hlt))

theorem cutBytes?_cons {c : Char} (h : c.utf8Size = 1) (n : Nat) (t : Text) :
    cutBytes? (n + 1) (c :: t) =
      (cutBytes? n t).map fun (front, back) => (c :: front, back) := by
  rw [cutBytes?, h, if_pos (by omega), Nat.add_sub_cancel]

/-- Where each character is one byte, bytes are cut as characters are. -/
theorem cutBytes?_of_le {t : Text} (h : ∀ c ∈ t, c.utf8Size = 1) {n : Nat} (hn : n ≤ t.length) :
    cutBytes? n t = some (t.take n, t.drop n) := by
  induction t generalizing n with
  | nil =>
    cases Nat.le_zero.1 hn
    rfl
  | cons c t ih =>
    rcases n with _ | n
    · rfl
    · rw [cutBytes?_cons (h c List.mem_cons_self),
        ih (fun d hd => h d (List.mem_cons_of_mem _ hd)) (Nat.le_of_succ_le_succ hn)]
      rfl

theorem slice?_of_le {t : Text} (h : ∀ c ∈ t, c.utf8Size = 1) {first last : Nat}
    (hfirst : first ≤ last) (hlast : last ≤ t.length) :
    slice? t first last = some ((t.drop first).take (last - first)) := by
  have hback : cutBytes? (last - first) (t.drop first) =
      some ((t.drop first).take (last - first), (t.drop first).drop (last - first)) :=
    cutBytes?_of_le (fun c hc => h c (List.mem_of_mem_drop hc))
      (by rw [List.length_drop]; omega)
  simp [slice?, cutBytes?_of_le h (hfirst.trans hlast), hback]

theorem byteLength_eq_length {t : Text} (h : ∀ c ∈ t, c.utf8Size = 1) :
    byteLength t = t.length := by
  induction t with
  | nil => rfl
  | cons c t ih =>
    rw [byteLength, h c List.mem_cons_self, ih fun d hd => h d (List.mem_cons_of_mem _ hd),
      List.length_cons, Nat.add_comm]

theorem readByte?_of_hexValue? {c : Char} {t : Text} {m n : Nat} (hc : hexValue? c = some m)
    (hread : readRadix? 16 (c :: t) = some n) (hn : n < 256) :
    readByte? (c :: t) = some (.ofNat n) := by
  have hplus : '+' ≠ c := by
    rintro rfl
    cases hc
  have hsign : after? ['+'] (c :: t) = none := by simp [after?, hplus]
  simp [readByte?, hsign, hread, hn]

theorem readByte?_one {c : Char} {n : Nat} (h : hexValue? c = some n) :
    readByte? [c] = some (.ofNat n) := by
  have hn := (hexDigit_of_hexValue? h).1
  refine readByte?_of_hexValue? h ?_ (by omega)
  rw [readRadix?_singleton, h, Option.bind_some, if_pos hn]

theorem readByte?_two {c d : Char} {m n : Nat} (hc : hexValue? c = some m)
    (hd : hexValue? d = some n) : readByte? [c, d] = some (.ofNat (16 * m + n)) := by
  have hm := (hexDigit_of_hexValue? hc).1
  have hn := (hexDigit_of_hexValue? hd).1
  refine readByte?_of_hexValue? hc ?_ (by omega)
  rw [show [c, d] = [c] ++ [d] from rfl, readRadix?_concat (List.cons_ne_nil _ _),
    readRadix?_singleton, hc, hd, Option.bind_some, if_pos hm, Option.bind_some, Option.bind_some,
    if_pos hn, Nat.mul_comm]

end Text

namespace Rgb

/-- Goes on with the component that a slice of the bytes is read as. The outer `none` is a slice
that cannot be taken, and the inner one a text that is no color. -/
def withSlice (t : Text) (first last : Nat) (next : UInt8 → Option (Option Rgb)) :
    Option (Option Rgb) :=
  (t.slice? first last).bind fun slice =>
    match slice.readByte? with
    | none => some none
    | some component => next component

/-- Reads three components from slices of one byte each. -/
def threeSlices (digits : Text) : Option (Option Rgb) :=
  withSlice digits 0 1 fun red => withSlice digits 1 2 fun green =>
    withSlice digits 2 3 fun blue => some (some ⟨red * 17, green * 17, blue * 17⟩)

/-- Reads three components from slices of two bytes each. -/
def sixSlices (digits : Text) : Option (Option Rgb) :=
  withSlice digits 0 2 fun red => withSlice digits 2 4 fun green =>
    withSlice digits 4 6 fun blue => some (some ⟨red, green, blue⟩)

/-- Reads a color from slices of the bytes of its digits, as many as the digits have bytes. -/
def ofHexSlices (t : Text) : Option (Option Rgb) :=
  let digits := unsigned t
  if !digits.all Text.isHexDigit then some none
  else if digits.byteLength = 3 then threeSlices digits
  else if digits.byteLength = 6 then sixSlices digits
  else some none

theorem withSlice_eq {t : Text} (h : ∀ c ∈ t, c.utf8Size = 1) (first last : Nat)
    (hfirst : first ≤ last) (hlast : last ≤ t.length) {component : UInt8}
    (hread : Text.readByte? ((t.drop first).take (last - first)) = some component)
    (next : UInt8 → Option (Option Rgb)) : withSlice t first last next = next component := by
  simp only [withSlice, Text.slice?_of_le h hfirst hlast, Option.bind_some, hread]

section Slices

variable {digits : Text} (hd : ∀ c ∈ digits, Text.isHexDigit c = true)
include hd

theorem threeSlices_eq (hl : digits.length = 3) :
    threeSlices digits = some (ofDigits? digits) := by
  have hsize : ∀ c ∈ digits, c.utf8Size = 1 := fun c hc => Text.utf8Size_of_isHexDigit (hd c hc)
  obtain ⟨r, g, b, nr, ng, nb, rfl, hr, hg, hb⟩ := exists_three_values hl hd
  rw [threeSlices, withSlice_eq hsize 0 1 (by omega) (by simp) (Text.readByte?_one hr),
    withSlice_eq hsize 1 2 (by omega) (by simp) (Text.readByte?_one hg),
    withSlice_eq hsize 2 3 (by omega) (by simp) (Text.readByte?_one hb)]
  simp [ofDigits?, hr, hg, hb, ofDigitValues?, ofNats, UInt8.ofNat_mul, UInt8.mul_comm]

theorem sixSlices_eq (hl : digits.length = 6) : sixSlices digits = some (ofDigits? digits) := by
  have hsize : ∀ c ∈ digits, c.utf8Size = 1 := fun c hc => Text.utf8Size_of_isHexDigit (hd c hc)
  match digits, hl with
  | [r₁, r₂, g₁, g₂, b₁, b₂], _ =>
    obtain ⟨nr₁, hr₁⟩ := Option.isSome_iff_exists.1 (hd r₁ (by simp))
    obtain ⟨nr₂, hr₂⟩ := Option.isSome_iff_exists.1 (hd r₂ (by simp))
    obtain ⟨ng₁, hg₁⟩ := Option.isSome_iff_exists.1 (hd g₁ (by simp))
    obtain ⟨ng₂, hg₂⟩ := Option.isSome_iff_exists.1 (hd g₂ (by simp))
    obtain ⟨nb₁, hb₁⟩ := Option.isSome_iff_exists.1 (hd b₁ (by simp))
    obtain ⟨nb₂, hb₂⟩ := Option.isSome_iff_exists.1 (hd b₂ (by simp))
    rw [sixSlices, withSlice_eq hsize 0 2 (by omega) (by simp) (Text.readByte?_two hr₁ hr₂),
      withSlice_eq hsize 2 4 (by omega) (by simp) (Text.readByte?_two hg₁ hg₂),
      withSlice_eq hsize 4 6 (by omega) (by simp) (Text.readByte?_two hb₁ hb₂)]
    simp [ofDigits?, hr₁, hr₂, hg₁, hg₂, hb₁, hb₂, ofDigitValues?, ofNats]

end Slices

/-- No slice fails, and the color is the one that is read digit by digit. -/
theorem ofHexSlices_eq (t : Text) : ofHexSlices t = some (ofHex? t) := by
  rw [ofHex?_eq]
  simp only [ofHexSlices]
  generalize unsigned t = digits
  by_cases hall : digits.all Text.isHexDigit = true
  · have hd := List.all_eq_true.1 hall
    have hlength := Text.byteLength_eq_length fun c hc => Text.utf8Size_of_isHexDigit (hd c hc)
    simp only [hall, Bool.not_true, Bool.false_eq_true, if_false, hlength]
    split_ifs with h3 h6
    · exact threeSlices_eq hd h3
    · exact sixSlices_eq hd h6
    · have hnone : ofDigits? digits = none :=
        Option.eq_none_iff_forall_ne_some.2 fun _ h =>
          (digits_of_ofDigits? h).1.elim h3 h6
      rw [hnone]
  · have hnone : ofDigits? digits = none :=
      Option.eq_none_iff_forall_ne_some.2 fun _ h =>
        hall (List.all_eq_true.2 (digits_of_ofDigits? h).2)
    simp only [hall, Bool.not_false, if_true, hnone]

/-- A text is read as a color if and only if it spells one, and then as the color of the digits that
it spells. No slice of its bytes fails, also where characters are longer than one byte. Neither the
case nor a sign in front makes a difference, three digits are read as they are with each one
doubled, and whatever digits the scanner takes behind a sign are read as the six that it gives. -/
theorem ofHex?_exact (t : Text) :
    ((ofHex? t).isSome = true ↔ ∃ six, Spells t six) ∧
    (∀ color, ofHex? t = some color ↔ Spells t color.hexDigits) ∧
    ofHexSlices t = some (ofHex? t) ∧
    (ofHex? (t.map Char.toLower) = ofHex? t ∧ ofHex? (t.map Char.toUpper) = ofHex? t) ∧
    (t.head? ≠ some '#' → ofHex? ('#' :: t) = ofHex? t) ∧
    (t.length = 3 → ofHex? (Scan.doubled t) = ofHex? t) ∧
    ∀ rest n six, Scan.color rest = ⟨n, .token (.hex six)⟩ → Mark.chars (rest.take n) = t →
      ofHex? t = ofHex? six ∧ (ofHex? t).map hexDigits = some six := by
  refine ⟨⟨fun h => ?_, fun ⟨six, h⟩ => ?_⟩, fun color => ofHex?_eq_some_iff, ofHexSlices_eq t,
    ⟨?_, ?_⟩, fun h => ?_, ofHex?_doubled, fun rest n six hscan ht => ?_⟩
  · obtain ⟨color, hcolor⟩ := Option.isSome_iff_exists.1 h
    exact ⟨color.hexDigits, ofHex?_eq_some_iff.1 hcolor⟩
  · obtain ⟨color, hcolor, -⟩ := exists_of_spells h
    rw [hcolor]
    rfl
  · exact ofHex?_map (fun _ => Text.toLower_of_le) (by decide +kernel) t
  · exact ofHex?_map (fun _ => Text.toUpper_of_le) (by decide +kernel) t
  · rw [ofHex?_eq, ofHex?_eq, unsigned_signed, unsigned_of_head h]
  · obtain ⟨color, hcolor, hdigits⟩ := exists_of_spells (ht ▸ spells_of_color hscan)
    rw [hcolor, ← hdigits, ofHex?_hexDigits]
    exact ⟨rfl, rfl⟩

theorem ofHex?_exact_three_digits :
    let t := "fB5".toList
    t.head? ≠ some '#' ∧ t.length = 3 ∧
      Scan.color (Mark.ofText "fB5é".toList) = ⟨3, .token (.hex "ffbb55".toList)⟩ ∧
      ofHex? ('#' :: t) = some ⟨0xff, 0xbb, 0x55⟩ ∧
      ofHex? (Scan.doubled t) = some ⟨0xff, 0xbb, 0x55⟩ ∧
      ofHex? "ffbb55".toList = some ⟨0xff, 0xbb, 0x55⟩ := by
  intro t
  have hread : ofHex? t = some ⟨0xff, 0xbb, 0x55⟩ := by decide
  have hscan : Scan.color (Mark.ofText "fB5é".toList) = ⟨3, .token (.hex "ffbb55".toList)⟩ := by
    decide
  obtain ⟨-, -, -, -, hsign, hdoubled, htoken⟩ := ofHex?_exact t
  refine ⟨by decide, by decide, hscan, ?_, ?_, ?_⟩
  · rw [hsign (by decide), hread]
  · rw [hdoubled (by decide), hread]
  · rw [← (htoken _ _ _ hscan (by decide)).1, hread]

end Rgb
end StyledMarkup
