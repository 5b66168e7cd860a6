import Mathlib
import Rulebook.Proofs.Codec.Fields
import Rulebook.Proofs.Number.Numeral

/-!
# Rulebook.Proofs.Number.Printing

Printed numbers read back.

The shortest decimal of a magnitude is searched for, and every point of a grid that the search may
stop at is tried by reading it.  Where none reads back the magnitude is written out in full, which
needs no rounding.  So the decimal in print reads as the magnitude, whichever way ties are broken
(`Decimal.toNumber_shortest`), positional notation does not change its value, and the printed
characters are a number in its written form: the number itself (`numeral_toChars`,
`parse?_toText`).
-/

namespace Rulebook

/-! ## Reading without rounding -/

namespace Magnitude

theorem roundDiv_mul (num : Nat) {den : Nat} (hden : 0 < den) : roundDiv (num * den) den = num := by
  simp [roundDiv, hden]

/-- A quotient that is a whole number of steps is not rounded. -/
theorem roundUnits_of_eq {num den units : Nat} (hden : 0 < den) (heq : num * one = units * den)
    (hstep : step units ∣ units) : roundUnits num den = units := by
  obtain ⟨k, hk⟩ := hstep
  have hpos : 0 < den * step units := Nat.mul_pos hden (Nat.two_pow_pos _)
  have hsteps : units * den = k * (den * step units) := by
    conv => lhs; rw [hk]
    ring
  unfold roundUnits
  dsimp only
  rw [heq, Nat.mul_div_cancel _ hden, hsteps, roundDiv_mul k hpos, Nat.mul_comm, ← hk]

theorem ofRatio?_of_eq {m : Magnitude} {num den : Nat} (hden : 0 < den)
    (heq : num * one = m.units * den) : ofRatio? num den = some m := by
  have hunits := roundUnits_of_eq hden heq m.representable.2
  rw [ofRatio?, dif_pos (hunits.symm ▸ m.representable.1)]
  cases m
  simp [hunits]

end Magnitude

/-! ## The shortest decimal -/

namespace Decimal

/-- Reading a decimal rounds its size; the sign is only passed on. -/
theorem toNumber_of_toNumber_false {d : Decimal} {m : Magnitude}
    (h : d.toNumber false = .finite false m) (negative : Bool) :
    d.toNumber negative = .finite negative m := by
  have hratio {num den : Nat} (hread : Number.ofRatio false num den = .finite false m) :
      Number.ofRatio negative num den = .finite negative m := by
    unfold Number.ofRatio at hread ⊢
    cases hround : Magnitude.ofRatio? num den <;> simp_all
  obtain ⟨digits, exponent⟩ := d
  cases exponent with
  | ofNat e =>
      simp only [toNumber] at h ⊢
      grind
  | negSucc k =>
      simp only [toNumber] at h ⊢
      grind

/-- Written out in full, a magnitude is far from the exponents that are not multiplied out. -/
theorem le_log2_exact {units : Nat} (h : units ≠ 0) (e : Nat) :
    2 * e ≤ (units * Nat.pow 5 e).log2 := by
  have hpow : 2 ^ (2 * e) ≤ 5 ^ e := by
    rw [Nat.pow_mul]
    exact Nat.pow_le_pow_left (by decide) e
  have hne : units * 5 ^ e ≠ 0 := Nat.mul_ne_zero h (Nat.pow_pos (by decide)).ne'
  exact (Nat.le_log2 hne).2 (hpow.trans (Nat.le_mul_of_pos_left _ (Nat.pos_of_ne_zero h)))

theorem toNumber_exact {m : Magnitude} (h : m.units ≠ 0) :
    (exact m).toNumber false = .finite false m := by
  -- the exponent stays a name, so that no step writes out its power
  obtain ⟨k, hk⟩ : ∃ k, Magnitude.unitExponent = k + 1 := ⟨1073, rfl⟩
  have hbound : k ≤ 1073 := by
    unfold Magnitude.unitExponent at hk
    omega
  have hlog := le_log2_exact h (k + 1)
  have hunits : m.units * 5 ^ (k + 1) * Magnitude.one = m.units * 10 ^ (k + 1) := by
    unfold Magnitude.one
    rw [hk, Nat.pow_eq, Nat.mul_assoc, ← Nat.mul_pow]
  have hread := Magnitude.ofRatio?_of_eq (Nat.pow_pos (by decide)) hunits
  rw [exact, hk, Int.natCast_add, Int.natCast_one, ← Int.negSucc_eq]
  unfold toNumber
  dsimp only
  rw [if_neg (by omega), Number.ofRatio]
  simp only [Nat.pow_eq, hread, Option.elim_some]

theorem toNumber_of_onGrid? {tie : Tie} {m : Magnitude} {e : Int} {d : Decimal}
    (h : onGrid? tie m e = some d) : d.toNumber false = .finite false m := by
  have hreads : readsBack m d = true := by
    unfold onGrid? at h
    grind
  exact of_decide_eq_true hreads

/-- The shortest decimal of a magnitude reads as the magnitude. -/
theorem toNumber_shortest (tie : Tie) {m : Magnitude} (h : m.units ≠ 0) (negative : Bool) :
    (shortest tie m).toNumber negative = .finite negative m := by
  apply toNumber_of_toNumber_false
  unfold shortest
  dsimp only
  cases hsearch : (List.range _).findSome? _ with
  | none => exact toNumber_exact h
  | some d =>
      obtain ⟨i, -, hgrid⟩ := List.exists_of_findSome?_eq_some hsearch
      exact toNumber_of_onGrid? hgrid

/-! ## Positional notation -/

open Number (AreDigits IsMantissa ofDigits)

theorem areDigits_digitChars (d : Decimal) : AreDigits d.digitChars :=
  fun _ => Nat.isDigit_of_mem_toDigits (by decide) (by decide)

theorem ofDigits_digitChars (d : Decimal) : ofDigits d.digitChars = d.digits :=
  Nat.ofDigitChars_ten_toDigits

theorem areDigits_replicate_zero (n : Nat) : AreDigits (List.replicate n '0') := by
  intro c hc
  rw [List.eq_of_mem_replicate hc]
  rfl

theorem ofDigits_replicate_zero_append (n : Nat) (ds : List Char) :
    ofDigits (List.replicate n '0' ++ ds) = ofDigits ds := by
  rw [ofDigits, Nat.ofDigitChars_append, Nat.ofDigitChars_replicate_zero, Nat.mul_zero, ofDigits]

theorem ofDigits_append_replicate_zero (ds : List Char) (n : Nat) :
    ofDigits (ds ++ List.replicate n '0') = 10 ^ n * ofDigits ds := by
  rw [ofDigits, Nat.ofDigitChars_append, Nat.ofDigitChars_replicate_zero, ofDigits]

/-- Digits with a point at a place from their end, behind zeros if they do not reach so far. -/
theorem exists_isMantissa_pointed {ds : List Char} (hds : AreDigits ds) (places : Nat) :
    ∃ whole fraction,
      IsMantissa
        (if places < ds.length then
          ds.take (ds.length - places) ++ '.' :: ds.drop (ds.length - places)
        else '0' :: '.' :: (List.replicate (places - ds.length) '0' ++ ds)) whole fraction ∧
      fraction.length = places ∧ ofDigits (whole ++ fraction) = ofDigits ds := by
  by_cases hplaces : places < ds.length
  · rw [if_pos hplaces]
    have hwhole : ds.take (ds.length - places) ≠ [] := by
      rw [← List.length_pos_iff, List.length_take]
      omega
    refine ⟨_, _, .pointed (fun c hc => hds c (List.mem_of_mem_take hc)) hwhole
      fun c hc => hds c (List.mem_of_mem_drop hc), ?_, by rw [List.take_append_drop]⟩
    rw [List.length_drop]
    omega
  · rw [if_neg hplaces]
    have hzeros := areDigits_replicate_zero (places - ds.length)
    refine ⟨['0'], _, .pointed (areDigits_replicate_zero 1) (by simp) (hzeros.append hds), ?_, ?_⟩
    · rw [List.length_append, List.length_replicate]
      omega
    · rw [← List.append_assoc, ← List.replicate_one, List.replicate_append_replicate,
        ofDigits_replicate_zero_append]

/-- A finite number is read from zeros as well as from a power of ten. -/
theorem toNumber_zeros {digits e : Nat} {negative : Bool} {m : Magnitude}
    (h : toNumber negative ⟨digits, .ofNat e⟩ = .finite negative m) :
    toNumber negative ⟨10 ^ e * digits, 0⟩ = .finite negative m := by
  have hzero : (0 : Int) = .ofNat 0 := rfl
  rw [hzero]
  simp only [toNumber] at h ⊢
  by_cases hdigits : digits = 0
  · simpa [hdigits] using h
  · by_cases he : 400 ≤ e
    · simp [hdigits, he] at h
    · rw [if_neg hdigits, if_neg he] at h
      simpa [hdigits, Nat.mul_comm] using h

/-- Positional notation is a mantissa, and needs no exponent to have the value of the decimal. -/
theorem exists_isMantissa_plainChars {d : Decimal} {negative : Bool} {m : Magnitude}
    (h : d.toNumber negative = .finite negative m) :
    ∃ whole fraction, IsMantissa d.plainChars whole fraction ∧
      toNumber negative ⟨ofDigits (whole ++ fraction), 0 - (fraction.length : Int)⟩ =
        .finite negative m := by
  have hds := areDigits_digitChars d
  have hvalue := ofDigits_digitChars d
  have hne : d.digitChars ≠ [] := Nat.toDigits_ne_nil
  obtain ⟨digits, exponent⟩ := d
  cases exponent with
  | ofNat e =>
      have hall := hds.append (areDigits_replicate_zero e)
      refine ⟨_, [], .whole hall (List.append_ne_nil_of_left_ne_nil hne _), ?_⟩
      rw [plainChars, List.append_nil, ofDigits_append_replicate_zero, hvalue]
      exact toNumber_zeros h
  | negSucc k =>
      obtain ⟨whole, fraction, hmantissa, hplaces, hdigits⟩ := exists_isMantissa_pointed hds (k + 1)
      refine ⟨whole, fraction, hmantissa, ?_⟩
      rw [hdigits, hvalue, hplaces]
      simpa [Int.negSucc_eq] using h

end Decimal

namespace Number

/-- A printed number is the number in its written form. -/
theorem numeral_toChars (n : Number) : Numeral n.toChars n := by
  have hsign (negative : Bool) : IsSign (if negative then ['-'] else []) negative := by
    cases negative
    · exact .absent
    · exact .minus
  cases n with
  | nan => exact .nan rfl
  | infinite negative => exact .infinite (hsign negative) (.inl rfl)
  | finite negative m =>
      by_cases hm : m.units = 0
      · have hzero : m = .zero := by
          cases m
          cases hm
          rfl
        have hnumeral := Numeral.decimal (hsign negative)
          (.whole (Decimal.areDigits_replicate_zero 1) (by simp)) .absent
        rwa [toChars, if_pos hm, hzero]
      · have hread := Decimal.toNumber_shortest .up hm negative
        obtain ⟨ds, fs, hmantissa, hvalue⟩ := Decimal.exists_isMantissa_plainChars hread
        have hnumeral := Numeral.decimal (hsign negative) hmantissa .absent
        rw [hvalue, List.append_nil] at hnumeral
        rwa [toChars, if_neg hm]

/-- A printed number is read as the same number. -/
theorem parse?_toText (n : Number) : parse? n.toText = some n := by
  have htrim := trimChars_of_isPrintable n.numeral_toChars.isPrintable
  rw [parse?, toText, String.toList_ofList, htrim]
  exact parseChars?_of_numeral n.numeral_toChars

end Number

end Rulebook
