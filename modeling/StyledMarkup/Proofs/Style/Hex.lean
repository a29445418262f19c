import StyledMarkup.Style.Rgb

/-!
# Colors by their digits

The six digits of a color read back as the color (`ofHex?_hexDigits`), and they are hexadecimal
digits, so none of them is a sign. Any six hexadecimal digits are a color, which has just these
digits in lowercase (`ofHex?_six`).
-/

namespace StyledMarkup

theorem Text.hexValue?_hexDigit {n : Nat} (h : n < 16) : hexValue? (hexDigit n) = some n := by
  have hall : ∀ n < 16, hexValue? (hexDigit n) = some n := by decide
  exact hall n h

theorem Text.isHexDigit_hexDigit {n : Nat} (h : n < 16) : isHexDigit (hexDigit n) = true := by
  rw [isHexDigit, hexValue?_hexDigit h]
  rfl

theorem Text.toNat_lt_of_isHexDigit {c : Char} (h : isHexDigit c = true) : c.toNat < 128 := by
  have hle : ∀ d : Char, c ≤ d → d.toNat < 128 → c.toNat < 128 :=
    fun d hcd hd => Nat.lt_of_le_of_lt (UInt32.le_iff_toNat_le.1 hcd) hd
  unfold isHexDigit hexValue? at h
  split at h
  · exact hle '9' (And.right ‹_›) (by decide)
  split at h
  · exact hle 'f' (And.right ‹_›) (by decide)
  split at h
  · exact hle 'F' (And.right ‹_›) (by decide)
  · cases h

theorem Text.isHexDigit_of_isBlank {c : Char} (h : isBlank c = true) : isHexDigit c = false := by
  have hall : ∀ n < 128, isHexDigit (Char.ofNat n) = true → isBlank (Char.ofNat n) = false := by
    decide
  refine Bool.eq_false_iff.2 fun hd => ?_
  have hlt := toNat_lt_of_isHexDigit hd
  rw [← Char.ofNat_toNat c] at h hd
  rw [hall _ hlt hd] at h
  cases h

theorem Text.hexDigit_of_hexValue? {c : Char} {n : Nat} (h : hexValue? c = some n) :
    n < 16 ∧ hexDigit n = c.toLower := by
  have hall : ∀ k < 128, ∀ v ∈ hexValue? (Char.ofNat k),
      v < 16 ∧ hexDigit v = (Char.ofNat k).toLower := by decide
  have hlt : c.toNat < 128 := toNat_lt_of_isHexDigit (by rw [isHexDigit, h]; rfl)
  rw [← Char.ofNat_toNat c] at h ⊢
  exact hall _ hlt n h

namespace Rgb

theorem div_sixteen_lt (c : UInt8) : c.toNat / 16 < 16 := by
  have := c.toNat_lt
  omega

theorem mod_sixteen_lt (c : UInt8) : c.toNat % 16 < 16 :=
  Nat.mod_lt _ (by decide)

theorem isHexDigit_of_mem_hexDigits {color : Rgb} {c : Char} (h : c ∈ color.hexDigits) :
    Text.isHexDigit c = true := by
  have hcomponent : ∀ component, c ∈ componentDigits component → Text.isHexDigit c = true := by
    intro component hc
    simp only [componentDigits, List.mem_cons, List.not_mem_nil, or_false] at hc
    rcases hc with rfl | rfl
    · exact Text.isHexDigit_hexDigit (div_sixteen_lt component)
    · exact Text.isHexDigit_hexDigit (mod_sixteen_lt component)
  simp only [hexDigits, List.mem_append] at h
  rcases h with (h | h) | h
  · exact hcomponent _ h
  · exact hcomponent _ h
  · exact hcomponent _ h

theorem ofNat_digits (c : UInt8) : UInt8.ofNat (16 * (c.toNat / 16) + c.toNat % 16) = c := by
  rw [Nat.div_add_mod, UInt8.ofNat_toNat]

theorem after?_hexDigits {digits : Text} (h : ∀ c ∈ digits, Text.isHexDigit c = true) :
    Text.after? ['#'] digits = none := by
  refine if_neg fun hp => ?_
  obtain ⟨tail, ht⟩ := List.isPrefixOf_iff_prefix.1 hp
  have hmem : '#' ∈ digits := by
    rw [← ht]
    exact List.mem_cons_self
  exact absurd (h _ hmem) (by decide)

theorem ofHex?_hexDigits (color : Rgb) : ofHex? color.hexDigits = some color := by
  have hsign : Text.after? ['#'] color.hexDigits = none :=
    after?_hexDigits fun _ => isHexDigit_of_mem_hexDigits
  have hdiv := fun c => Text.hexValue?_hexDigit (div_sixteen_lt c)
  have hmod := fun c => Text.hexValue?_hexDigit (mod_sixteen_lt c)
  have hvalues : color.hexDigits.mapM Text.hexValue? =
      some [color.red.toNat / 16, color.red.toNat % 16, color.green.toNat / 16,
        color.green.toNat % 16, color.blue.toNat / 16, color.blue.toNat % 16] := by
    simp [hexDigits, componentDigits, hdiv, hmod]
  unfold ofHex?
  simp only [hsign, Option.getD_none, hvalues]
  show some (ofNats _ _ _) = some color
  rw [ofNats, ofNat_digits, ofNat_digits, ofNat_digits]

theorem componentDigits_ofNat {c d : Char} {a b : Nat} (hc : Text.hexValue? c = some a)
    (hd : Text.hexValue? d = some b) :
    componentDigits (.ofNat (16 * a + b)) = [c.toLower, d.toLower] := by
  obtain ⟨ha, hca⟩ := Text.hexDigit_of_hexValue? hc
  obtain ⟨hb, hdb⟩ := Text.hexDigit_of_hexValue? hd
  have hnat : (UInt8.ofNat (16 * a + b)).toNat = 16 * a + b :=
    UInt8.toNat_ofNat_of_lt' (by simp only [UInt8.size]; omega)
  have hdiv : (16 * a + b) / 16 = a := by omega
  have hmod : (16 * a + b) % 16 = b := by omega
  rw [componentDigits, hnat, hdiv, hmod, hca, hdb]

theorem ofHex?_six {digits : Text} (hl : digits.length = 6)
    (hd : ∀ c ∈ digits, Text.isHexDigit c = true) :
    ∃ color, ofHex? digits = some color ∧ color.hexDigits = digits.map Char.toLower := by
  have hsign := after?_hexDigits hd
  have hvalue : ∀ c ∈ digits, ∃ n, Text.hexValue? c = some n :=
    fun c hc => Option.isSome_iff_exists.1 (hd c hc)
  match digits, hl with
  | [r₁, r₂, g₁, g₂, b₁, b₂], _ =>
    obtain ⟨nr₁, hr₁⟩ := hvalue r₁ (by simp)
    obtain ⟨nr₂, hr₂⟩ := hvalue r₂ (by simp)
    obtain ⟨ng₁, hg₁⟩ := hvalue g₁ (by simp)
    obtain ⟨ng₂, hg₂⟩ := hvalue g₂ (by simp)
    obtain ⟨nb₁, hb₁⟩ := hvalue b₁ (by simp)
    obtain ⟨nb₂, hb₂⟩ := hvalue b₂ (by simp)
    refine ⟨ofNats (16 * nr₁ + nr₂) (16 * ng₁ + ng₂) (16 * nb₁ + nb₂), ?_, ?_⟩
    · unfold ofHex?
      simp [hsign, hr₁, hr₂, hg₁, hg₂, hb₁, hb₂, ofDigitValues?]
    · rw [hexDigits, ofNats, componentDigits_ofNat hr₁ hr₂, componentDigits_ofNat hg₁ hg₂,
        componentDigits_ofNat hb₁ hb₂]
      rfl

end Rgb
end StyledMarkup
