import Mathlib.Data.List.Induction
import StyledMarkup.Text.Digit

/-!
# Counts and their spellings

A number written in decimal reads back as itself (`readRadix?_ofNat`), and it is the only spelling
of its value that has no leading zero (`eq_ofNat_of_readRadix?`). So among the texts that start
with neither a plus sign nor a needless zero, the counts are just the numbers below the limit as
they are written (`readCount?_eq_some_iff`). Zeros in front of a number make no difference to what
is read (`readRadix?_zeros`).
-/

namespace StyledMarkup
namespace Text

theorem hexValue?_digitChar {n : Nat} (h : n < 10) : hexValue? n.digitChar = some n := by
  have hall : ∀ n < 10, hexValue? n.digitChar = some n := by decide
  exact hall n h

theorem digitChar_of_hexValue? {c : Char} {n : Nat} (h : hexValue? c = some n) (hn : n < 10) :
    n.digitChar = c := by
  unfold hexValue? at h
  split at h
  · rename_i hc
    obtain ⟨hlow, hhigh⟩ := hc
    have hle : '0'.toNat ≤ c.toNat := UInt32.le_iff_toNat_le.1 hlow
    cases h
    rw [← Char.toNat_inj, Nat.toNat_digitChar_of_lt_ten hn]
    simp only [Char.reduceToNat] at hle ⊢
    omega
  · split at h
    · cases h
      omega
    · split at h
      · cases h
        omega
      · cases h

theorem readRadix?_singleton (radix : Nat) (c : Char) : readRadix? radix [c] =
    (hexValue? c).bind fun value => if value < radix then some value else none := by
  simp [readRadix?]

theorem readRadix?_concat {t : Text} (h : t ≠ []) (radix : Nat) (c : Char) :
    readRadix? radix (t ++ [c]) = (readRadix? radix t).bind fun total =>
      (hexValue? c).bind fun value =>
        if value < radix then some (total * radix + value) else none := by
  have hempty : t.isEmpty = false := by simpa using h
  have hmore : (t ++ [c]).isEmpty = false := by simp
  simp only [readRadix?, hempty, hmore, Bool.false_eq_true, if_false, List.foldl_append,
    List.foldl_cons, List.foldl_nil, Option.bind_eq_bind]

theorem ofNat_ne_nil (n : Nat) : ofNat n ≠ [] :=
  Nat.toDigits_ne_nil

theorem readRadix?_ofNat (n : Nat) : readRadix? 10 (ofNat n) = some n := by
  induction n using Nat.strongRecOn with
  | ind n ih =>
    by_cases hn : n < 10
    · rw [ofNat, Nat.toDigits_of_lt_base hn, readRadix?_singleton, hexValue?_digitChar hn]
      exact if_pos hn
    · have hmod : n % 10 < 10 := Nat.mod_lt _ (by decide)
      have hfront := ih (n / 10) (by omega)
      rw [ofNat, Nat.toDigits_of_base_le (by decide) (Nat.le_of_not_lt hn), ← ofNat,
        readRadix?_concat (ofNat_ne_nil _), hfront, hexValue?_digitChar hmod]
      simp only [Option.bind_some, if_pos hmod, Option.some.injEq]
      omega

theorem ofNat_injective : Function.Injective ofNat := by
  intro n m h
  have hread := congrArg (readRadix? 10) h
  rw [readRadix?_ofNat, readRadix?_ofNat] at hread
  exact Option.some.inj hread

/-- Digits without a leading zero are the number that they read as, as it is written. -/
theorem eq_ofNat_of_readRadix? {t : Text} {n : Nat} (h : readRadix? 10 t = some n)
    (hlead : t.head? = some '0' → t = ['0']) : t = ofNat n := by
  induction t using List.reverseRecOn generalizing n with
  | nil => cases h
  | append_singleton t c ih =>
    by_cases ht : t = []
    · rw [ht, List.nil_append, readRadix?_singleton] at h
      obtain ⟨value, hvalue, h⟩ := Option.bind_eq_some_iff.1 h
      obtain ⟨hlt, hn⟩ := Option.ite_none_right_eq_some.1 h
      cases hn
      rw [ht, ofNat, Nat.toDigits_of_lt_base hlt, digitChar_of_hexValue? hvalue hlt]
      rfl
    · rw [readRadix?_concat ht] at h
      obtain ⟨total, htotal, h⟩ := Option.bind_eq_some_iff.1 h
      obtain ⟨value, hvalue, h⟩ := Option.bind_eq_some_iff.1 h
      obtain ⟨hlt, hn⟩ := Option.ite_none_right_eq_some.1 h
      cases hn
      have hzero : t.head? ≠ some '0' := by
        intro hhead
        have hone := hlead (by rw [List.head?_append, hhead]; rfl)
        have hlength := congrArg List.length hone
        rw [List.length_append, List.length_singleton, List.length_singleton] at hlength
        exact ht (List.length_eq_zero_iff.1 (by omega))
      have hfront : t = ofNat total := ih htotal fun hhead => absurd hhead hzero
      -- Were the digits in front worth nothing, they would be a leading zero.
      have hpos : 0 < total := by
        refine Nat.pos_of_ne_zero fun htotal => hzero ?_
        rw [hfront, htotal]
        rfl
      calc t ++ [c] = Nat.toDigits 10 total ++ Nat.toDigits 10 value := by
            rw [hfront, ofNat, Nat.toDigits_of_lt_base hlt, digitChar_of_hexValue? hvalue hlt]
        _ = ofNat (total * 10 + value) := by
            rw [Nat.toDigits_append_toDigits (by decide) hpos hlt, Nat.mul_comm]
            rfl

/-- Whether the text starts as no number is written: with a plus sign, or with a zero before
more. -/
def StartsOddly (t : Text) : Prop :=
  t.head? = some '+' ∨ t.head? = some '0' ∧ t ≠ ['0']

instance (t : Text) : Decidable t.StartsOddly :=
  inferInstanceAs (Decidable (_ ∨ _))

theorem readCount?_eq_some_iff {t : Text} (h : ¬ t.StartsOddly) {n : Nat} :
    readCount? t = some n ↔ t = ofNat n ∧ n < countLimit := by
  obtain ⟨hplus, hzero⟩ := not_or.1 h
  have hsign : after? ['+'] t = none := by
    refine if_neg fun hpre => hplus ?_
    obtain ⟨rest, rfl⟩ := List.isPrefixOf_iff_prefix.1 hpre
    rfl
  have hread : ∀ {m}, readRadix? 10 t = some m ↔ t = ofNat m := by
    intro m
    refine ⟨fun hm => eq_ofNat_of_readRadix? hm fun hhead => ?_, fun hm => hm ▸ readRadix?_ofNat m⟩
    exact not_not.1 fun hne => hzero ⟨hhead, hne⟩
  simp only [readCount?, hsign, Option.getD_none, Option.bind_eq_bind, Option.bind_eq_some_iff,
    hread, Option.ite_none_right_eq_some, Option.some.injEq]
  constructor
  · rintro ⟨m, hm, hlt, rfl⟩
    exact ⟨hm, hlt⟩
  · rintro ⟨hm, hlt⟩
    exact ⟨n, hm, hlt, rfl⟩

/-! ## Zeros in front -/

theorem readRadix?_zeros {t : Text} (h : t ≠ []) (zeros : Nat) :
    readRadix? 10 (List.replicate zeros '0' ++ t) = readRadix? 10 t := by
  have hstep : ∀ s : Text, s ≠ [] → readRadix? 10 ('0' :: s) = readRadix? 10 s := by
    intro s hs
    have hempty : s.isEmpty = false := by simpa using hs
    have hzero : hexValue? '0' = some 0 := rfl
    simp [readRadix?, hempty, hzero]
  induction zeros with
  | zero => rfl
  | succ zeros ih =>
    rw [List.replicate_succ, List.cons_append, hstep _ (by simp [h]), ih]

theorem isHexDigit_of_readRadix? {radix : Nat} {t : Text} {n : Nat}
    (h : readRadix? radix t = some n) : ∀ c ∈ t, isHexDigit c = true := by
  induction t using List.reverseRecOn generalizing n with
  | nil => cases h
  | append_singleton t c ih =>
    have hlast : ∀ value, hexValue? c = some value → isHexDigit c = true := by
      intro value hvalue
      rw [isHexDigit, hvalue]
      rfl
    by_cases ht : t = []
    · rw [ht, List.nil_append, readRadix?_singleton] at h
      obtain ⟨value, hvalue, -⟩ := Option.bind_eq_some_iff.1 h
      simpa [ht] using hlast value hvalue
    · rw [readRadix?_concat ht] at h
      obtain ⟨total, htotal, h⟩ := Option.bind_eq_some_iff.1 h
      obtain ⟨value, hvalue, -⟩ := Option.bind_eq_some_iff.1 h
      intro d hd
      rcases List.mem_append.1 hd with hd | hd
      · exact ih htotal d hd
      · rw [List.mem_singleton.1 hd]
        exact hlast value hvalue

end Text
end StyledMarkup
