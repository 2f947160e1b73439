import Phrasebook.Decimal.Digits

/-!
# Digits of naturals

Every natural has digits, they denote it, and their count bounds it.
-/

namespace Phrasebook

theorem digits_ne_nil (n : Nat) : digits n ≠ [] := Nat.toDigits_ne_nil

theorem all_isDigit_digits (n : Nat) : (digits n).all Char.isDigit = true := by
  rw [List.all_eq_true]
  intro c hc
  exact Nat.isDigit_of_mem_toDigits (by decide) (by decide) hc

theorem valueOf_digits (n : Nat) : valueOf (digits n) = n := Nat.ofDigitChars_ten_toDigits

theorem length_digits_le_iff {n k : Nat} (hk : 0 < k) : (digits n).length ≤ k ↔ n < 10 ^ k :=
  Nat.length_toDigits_le_iff (by decide) hk

theorem digits_eq_zero_iff {n : Nat} : digits n = ['0'] ↔ n = 0 := by
  constructor
  · intro h
    rw [← valueOf_digits n, h]
    rfl
  · rintro rfl
    rfl

theorem leftpad_one_of_ne_nil {s : Text} (hs : s ≠ []) (c : Char) : s.leftpad 1 c = s := by
  have hpos := List.length_pos_iff.2 hs
  simp [List.leftpad, show 1 - s.length = 0 by omega]

theorem paddedDigits_max_one (width n : Nat) :
    paddedDigits (max width 1) n = paddedDigits width n := by
  have hpos := List.length_pos_iff.2 (digits_ne_nil n)
  simp only [paddedDigits, List.leftpad]
  congr 2
  omega

theorem length_paddedDigits_eq {width n : Nat} (hwidth : 0 < width) (hn : n < 10 ^ width) :
    (paddedDigits width n).length = width := by
  have hle := (length_digits_le_iff hwidth).2 hn
  simp only [paddedDigits, List.length_leftpad]
  omega

/-! ## Rows of digits -/

theorem isDigit_of_mem_digits {n : Nat} {c : Char} (hc : c ∈ digits n) : c.isDigit = true :=
  List.all_eq_true.1 (all_isDigit_digits n) c hc

theorem isDigit_of_mem_paddedDigits {width n : Nat} {c : Char} (hc : c ∈ paddedDigits width n) :
    c.isDigit = true := by
  rw [paddedDigits, List.leftpad, List.mem_append, List.mem_replicate] at hc
  rcases hc with ⟨-, rfl⟩ | hc
  · rfl
  · exact isDigit_of_mem_digits hc

theorem valueOf_append (s t : Text) :
    valueOf (s ++ t) = 10 ^ t.length * valueOf s + valueOf t := by
  have happend : valueOf (s ++ t) = Nat.ofDigitChars 10 t (valueOf s) :=
    Nat.ofDigitChars_append 0
  rw [happend]
  exact Nat.ofDigitChars_eq_ofDigitChars_zero

theorem valueOf_replicate_zero (count : Nat) : valueOf (List.replicate count '0') = 0 :=
  Nat.ofDigitChars_replicate_zero

theorem valueOf_paddedDigits (width n : Nat) : valueOf (paddedDigits width n) = n := by
  rw [paddedDigits, List.leftpad, valueOf_append, valueOf_replicate_zero, valueOf_digits,
    Nat.mul_zero, Nat.zero_add]

theorem any_ne_zero_paddedDigits (width n : Nat) :
    (paddedDigits width n).any (· != '0') = (n != 0) := by
  rw [Bool.eq_iff_iff, bne_iff_ne, List.any_eq_true]
  constructor
  · rintro ⟨c, hc, hne⟩ rfl
    rw [paddedDigits, List.leftpad, List.mem_append, List.mem_replicate] at hc
    rcases hc with ⟨-, rfl⟩ | hc
    · exact absurd hne (by decide)
    · obtain rfl := List.mem_singleton.1 hc
      exact absurd hne (by decide)
  · intro hn
    refine Classical.byContradiction fun hall => hn ?_
    have hzeros : paddedDigits width n =
        List.replicate (paddedDigits width n).length '0' := by
      rw [List.eq_replicate_iff]
      refine ⟨rfl, fun c hc => Classical.byContradiction fun hne => ?_⟩
      exact hall ⟨c, hc, by simpa using hne⟩
    rw [← valueOf_paddedDigits width n, hzeros, valueOf_replicate_zero]

theorem digitValue_lt {c : Char} (hc : c.isDigit = true) : digitValue c < 10 := by
  have hnine := (Char.isDigit_iff_toNat.1 hc).2
  have hzero : '0'.toNat = 48 := rfl
  have hnine' : '9'.toNat = 57 := rfl
  unfold digitValue
  omega

theorem digitValue_inj {c d : Char} (hc : c.isDigit = true) (hd : d.isDigit = true)
    (h : digitValue c = digitValue d) : c = d := by
  have hzero := (Char.isDigit_iff_toNat.1 hc).1
  have hzero' := (Char.isDigit_iff_toNat.1 hd).1
  unfold digitValue at h
  exact Char.toNat_inj.1 (by omega)

theorem valueOf_cons (c : Char) (s : Text) :
    valueOf (c :: s) = 10 ^ s.length * digitValue c + valueOf s := by
  have happend := valueOf_append [c] s
  have hsingle : valueOf [c] = digitValue c := Nat.zero_add _
  rwa [hsingle, List.singleton_append] at happend

theorem valueOf_lt {s : Text} (hs : ∀ c ∈ s, c.isDigit = true) : valueOf s < 10 ^ s.length := by
  induction s with
  | nil => decide
  | cons c s ih =>
      have hc := digitValue_lt (hs c List.mem_cons_self)
      have hrest := ih fun d hd => hs d (List.mem_cons_of_mem c hd)
      rw [valueOf_cons, List.length_cons, Nat.pow_succ]
      calc
        _ < 10 ^ s.length * digitValue c + 10 ^ s.length := Nat.add_lt_add_left hrest _
        _ = 10 ^ s.length * (digitValue c + 1) := (Nat.mul_succ _ _).symm
        _ ≤ 10 ^ s.length * 10 := Nat.mul_le_mul_left _ hc

/-- A row of digits is determined by its length and the number that it denotes. -/
theorem eq_of_valueOf_eq {s t : Text} (hs : ∀ c ∈ s, c.isDigit = true)
    (ht : ∀ c ∈ t, c.isDigit = true) (hlength : s.length = t.length)
    (h : valueOf s = valueOf t) : s = t := by
  induction s generalizing t with
  | nil => exact (List.length_eq_zero_iff.1 hlength.symm).symm
  | cons c s ih =>
      cases t with
      | nil => cases hlength
      | cons d t =>
          have hlength' : s.length = t.length := Nat.succ.inj hlength
          have hs' : ∀ c ∈ s, c.isDigit = true := fun a ha => hs a (List.mem_cons_of_mem c ha)
          have ht' : ∀ c ∈ t, c.isDigit = true := fun a ha => ht a (List.mem_cons_of_mem d ha)
          have hsmall := valueOf_lt hs'
          have hsmall' := valueOf_lt ht'
          rw [valueOf_cons, valueOf_cons, hlength'] at h
          rw [hlength'] at hsmall
          have hpos := Nat.pow_pos (by decide : 0 < 10) (n := t.length)
          have hdiv := congrArg (· / 10 ^ t.length) h
          have hmod := congrArg (· % 10 ^ t.length) h
          simp only [Nat.mul_add_div hpos, Nat.div_eq_of_lt hsmall, Nat.div_eq_of_lt hsmall',
            Nat.add_zero, Nat.mul_add_mod, Nat.mod_eq_of_lt hsmall, Nat.mod_eq_of_lt hsmall']
            at hdiv hmod
          rw [digitValue_inj (hs c List.mem_cons_self) (ht d List.mem_cons_self) hdiv,
            ih hs' ht' hlength' hmod]

/-- The digits of a number are those of its quotient and of its remainder by a power of ten. -/
theorem paddedDigits_add {j k n : Nat} (hj : 0 < j) (hk : 0 < k) (hn : n < 10 ^ (j + k)) :
    paddedDigits (j + k) n = paddedDigits j (n / 10 ^ k) ++ paddedDigits k (n % 10 ^ k) := by
  have hpos : 0 < 10 ^ k := Nat.pow_pos (by decide)
  have hquotient : (paddedDigits j (n / 10 ^ k)).length = j := by
    apply length_paddedDigits_eq hj
    rwa [Nat.div_lt_iff_lt_mul hpos, ← Nat.pow_add]
  have hremainder : (paddedDigits k (n % 10 ^ k)).length = k :=
    length_paddedDigits_eq hk (Nat.mod_lt n hpos)
  apply eq_of_valueOf_eq
  · exact fun c => isDigit_of_mem_paddedDigits
  · intro c hc
    rcases List.mem_append.1 hc with hc | hc
    · exact isDigit_of_mem_paddedDigits hc
    · exact isDigit_of_mem_paddedDigits hc
  · rw [List.length_append, hquotient, hremainder, length_paddedDigits_eq (by omega) hn]
  · rw [valueOf_append, hremainder, valueOf_paddedDigits, valueOf_paddedDigits,
      valueOf_paddedDigits, Nat.div_add_mod]

theorem paddedDigits_one (n : Nat) : paddedDigits 1 n = digits n :=
  leftpad_one_of_ne_nil (digits_ne_nil n) '0'

end Phrasebook
