import Mathlib.Algebra.Order.Field.Rat
import Mathlib.Data.List.DropRight
import Mathlib.Tactic.FieldSimp
import Mathlib.Tactic.Ring
import TypedPath.Proofs.Node.Comparison
import TypedPath.Proofs.Query.Grammar

/-! Plain notation of decimal numbers. The text of a number denotes exactly that number, has no
digit that could be left out, and is the same for all ways to give the number. -/
namespace TypedPath

namespace Decimal

variable {n places r : Nat}

theorem digits_ne_nil : digits n ≠ [] := Nat.toDigits_ne_nil

theorem digitsValue_digits (n : Nat) : digitsValue (digits n) = n :=
  Nat.ofDigitChars_ten_toDigits

theorem digitsValue_append (cs ds : List Char) :
    digitsValue (cs ++ ds) = 10 ^ ds.length * digitsValue cs + digitsValue ds :=
  (Nat.ofDigitChars_append 0).trans Nat.ofDigitChars_eq_ofDigitChars_zero

theorem digitsValue_replicate_zero (k : Nat) : digitsValue (List.replicate k '0') = 0 :=
  Nat.ofDigitChars_replicate_zero.trans (Nat.mul_zero _)

theorem digits_mul_ten (h : 0 < n) : digits (10 * n) = digits n ++ ['0'] :=
  (Nat.toDigits_append_toDigits (d := 0) (by decide) h (by decide)).symm

/-- Only zero is written with a zero in front. -/
theorem head?_digits (h : 0 < n) : (digits n).head? ≠ some '0' := by
  induction n using Nat.strong_induction_on with
  | h n ih =>
    rw [digits, Nat.toDigits_eq_if (by decide)]
    split
    case isTrue hn =>
      rw [List.head?_singleton, Ne, Option.some.injEq, Nat.digitChar_eq_zero]
      omega
    case isFalse hn =>
      rw [List.head?_append_of_ne_nil _ Nat.toDigits_ne_nil]
      exact ih (n / 10) (by omega) (by omega)

/-- Behind a one, zeros in front are written too. -/
theorem digits_pow10_add (h : r < 10 ^ places) :
    ∃ cs, digits (10 ^ places + r) = '1' :: cs ∧ cs.length = places := by
  induction places generalizing r with
  | zero =>
    obtain rfl : r = 0 := by simpa using h
    exact ⟨[], rfl, rfl⟩
  | succ places ih =>
    have hpos : 0 < 10 ^ places := Nat.pow_pos (by decide)
    rw [Nat.pow_succ] at h ⊢
    obtain ⟨cs, hcs, hlen⟩ := ih (r := r / 10) (by omega)
    have hdiv : (10 ^ places * 10 + r) / 10 = 10 ^ places + r / 10 := by omega
    refine ⟨cs ++ [((10 ^ places * 10 + r) % 10).digitChar], ?_, by simp [hlen]⟩
    rw [digits, Nat.toDigits_of_base_le (by decide) (by omega), hdiv, ← digits, hcs]
    rfl

/-- The last `places` digits of a number, with all their zeros. -/
theorem digits_padded (n places : Nat) :
    (digits (pow10 places + n % pow10 places)).tail.length = places ∧
      digitsValue (digits (pow10 places + n % pow10 places)).tail = n % pow10 places := by
  have hlt : n % pow10 places < 10 ^ places := Nat.mod_lt _ (Nat.pow_pos (by decide))
  obtain ⟨cs, hcs, hlen⟩ := digits_pow10_add hlt
  have hvalue := digitsValue_digits (10 ^ places + n % pow10 places)
  rw [hcs, ← List.singleton_append, digitsValue_append, hlen,
    show digitsValue ['1'] = 1 from rfl, Nat.mul_one] at hvalue
  rw [show pow10 places = 10 ^ places from rfl] at hcs hvalue ⊢
  rw [hcs]
  exact ⟨hlen, Nat.add_left_cancel hvalue⟩

theorem trimZeros_concat (cs : List Char) : trimZeros (cs ++ ['0']) = trimZeros cs :=
  List.rdropWhile_concat_pos _ _ _ rfl

theorem exists_trimZeros (cs : List Char) : ∃ k, cs = trimZeros cs ++ List.replicate k '0' := by
  induction cs using List.reverseRecOn with
  | nil => exact ⟨0, rfl⟩
  | append_singleton cs c ih =>
    by_cases hc : c = '0'
    · obtain ⟨k, hk⟩ := ih
      refine ⟨k + 1, ?_⟩
      rw [hc, trimZeros_concat, List.replicate_succ', ← List.append_assoc, ← hk]
    · refine ⟨0, ?_⟩
      rw [List.replicate_zero, List.append_nil]
      exact (List.rdropWhile_concat_neg _ _ _ (by simpa using hc)).symm

theorem getLast?_trimZeros (cs : List Char) : (trimZeros cs).getLast? ≠ some '0' := by
  intro h
  rw [trimZeros, List.getLast?_reverse] at h
  have hhead := List.head?_dropWhile_not (· = '0') cs.reverse
  simp [h] at hhead

/-- A zero at the end of a fraction changes nothing. -/
theorem fractionText_mul_ten (n places : Nat) :
    fractionText (10 * n) (places + 1) = fractionText n places := by
  have hpow : pow10 (places + 1) = 10 * pow10 places := Nat.pow_succ'
  have hpos : 0 < pow10 places + n % pow10 places :=
    Nat.add_pos_left (Nat.pow_pos (by decide)) _
  simp only [fractionText, hpow, Nat.mul_div_mul_left _ _ (by decide : 0 < 10),
    Nat.mul_mod_mul_left, ← Nat.mul_add, digits_mul_ten hpos]
  rw [List.tail_append_of_ne_nil digits_ne_nil, trimZeros_concat]

theorem fractionText_zero (n : Nat) : fractionText n 0 = digits n := by
  have htail : (digits (1 + n % 1)).tail = [] := by
    rw [Nat.mod_one]
    rfl
  simp only [fractionText, show pow10 0 = 1 from rfl, htail, Nat.div_one]
  exact List.append_nil _

/-- The text of a number is a sign and the text of a fraction, whatever its exponent is. -/
theorem chars_eq (d : Decimal) : d.chars = (if d.coefficient < 0 then ['-'] else []) ++
    fractionText (d.coefficient.natAbs * pow10 d.exponent.toNat) (-d.exponent).toNat := by
  have hm : (if 0 ≤ d.exponent then digits (d.coefficient.natAbs * pow10 d.exponent.toNat)
      else fractionText d.coefficient.natAbs (-d.exponent).toNat)
      = fractionText (d.coefficient.natAbs * pow10 d.exponent.toNat) (-d.exponent).toNat := by
    split
    case isTrue h => rw [show (-d.exponent).toNat = 0 by omega, fractionText_zero]
    case isFalse h =>
      rw [show d.exponent.toNat = 0 by omega, show pow10 0 = 1 from rfl, Nat.mul_one]
  simp only [chars, hm]
  split <;> rfl

/-- A tenfold coefficient makes up for a smaller exponent. -/
theorem chars_mul_ten (c e : Int) : chars ⟨10 * c, e⟩ = chars ⟨c, e + 1⟩ := by
  simp only [chars_eq, Int.natAbs_mul, show (10 * c < 0) ↔ c < 0 by omega]
  congr 1
  by_cases he : 0 ≤ e
  · rw [show (e + 1).toNat = e.toNat + 1 by omega, show (-e).toNat = 0 by omega,
      show (-(e + 1)).toNat = 0 by omega]
    congr 1
    have hpow : pow10 (e.toNat + 1) = 10 * pow10 e.toNat := Nat.pow_succ'
    rw [hpow, show (10 : Int).natAbs = 10 from rfl]
    ring
  · rw [show (e + 1).toNat = 0 by omega, show e.toNat = 0 by omega,
      show (-e).toNat = (-(e + 1)).toNat + 1 by omega, Nat.mul_assoc]
    exact fractionText_mul_ten _ _

theorem chars_mul_pow (c e : Int) (k : Nat) : chars ⟨c * 10 ^ k, e⟩ = chars ⟨c, e + k⟩ := by
  induction k generalizing e with
  | zero => simp
  | succ k ih =>
    rw [pow_succ', mul_left_comm, chars_mul_ten, ih]
    congr 2
    push_cast
    ring

/-- The number that is written. -/
def value (d : Decimal) : ℚ := d.coefficient * 10 ^ d.exponent

/-- Numbers are written alike if they are equal, whatever their exponents are. -/
theorem chars_eq_of_value_eq {d d' : Decimal} (h : d.value = d'.value) : d.chars = d'.chars := by
  -- The greater exponent can be lowered to the other one, and then the coefficients are the same.
  wlog hle : d.exponent ≤ d'.exponent generalizing d d'
  case inr => exact (this h.symm (by omega)).symm
  obtain ⟨k, hk⟩ := Int.le.dest hle
  have hc : d.coefficient = d'.coefficient * 10 ^ k := by
    rw [value, value, ← hk, zpow_add₀ (by norm_num), mul_comm (10 ^ d.exponent), ← mul_assoc,
      mul_left_inj' (zpow_ne_zero _ (by norm_num))] at h
    exact_mod_cast h
  have hd := chars_mul_pow d'.coefficient d.exponent k
  rw [← hc, hk] at hd
  exact hd

theorem digitsValue_eq_zero {cs : List Char} (h : ∀ c ∈ cs, c = '0') : digitsValue cs = 0 := by
  rw [List.eq_replicate_of_mem h]
  exact digitsValue_replicate_zero _

/-- The digits of `n / 10 ^ places` behind the point. -/
def fractionDigits (n places : Nat) : List Char :=
  trimZeros (digits (pow10 places + n % pow10 places)).tail

/-- The digits behind the point stand for what a division leaves over. -/
theorem fraction_value (n places : Nat) :
    (digitsValue (digits (n / pow10 places))
      + digitsValue (fractionDigits n places) / 10 ^ (fractionDigits n places).length : ℚ)
      = n / 10 ^ places := by
  obtain ⟨hlen, hvalue⟩ := digits_padded n places
  obtain ⟨k, hk⟩ := exists_trimZeros (digits (pow10 places + n % pow10 places)).tail
  rw [← fractionDigits] at hk
  rw [hk, digitsValue_append, digitsValue_replicate_zero, List.length_replicate, Nat.add_zero]
    at hvalue
  rw [hk, List.length_append, List.length_replicate] at hlen
  have hdiv : (n : ℚ) = 10 ^ places * (n / pow10 places : Nat) + (n % pow10 places : Nat) := by
    exact_mod_cast (Nat.div_add_mod n (pow10 places)).symm
  have hpow : (10 : ℚ) ^ places = 10 ^ (fractionDigits n places).length * 10 ^ k := by
    rw [← pow_add, hlen]
  rw [digitsValue_digits, hdiv, ← hvalue, hpow]
  push_cast
  field_simp

end Decimal

/-- A number in plain notation: digits without an exponent, and none that could be left out. -/
structure Numeral where
  negative : Bool
  whole : List Char
  fraction : List Char
  isDigit : ∀ c ∈ whole ++ fraction, c.isDigit = true
  whole_ne_nil : whole ≠ []
  no_leading_zero : whole.head? = some '0' → whole = ['0']
  no_trailing_zero : fraction.getLast? ≠ some '0'
  no_negative_zero : negative = true → ∃ c ∈ whole ++ fraction, c ≠ '0'

namespace Numeral

open Decimal

variable {n m : Numeral}

/-- An optional sign, digits, and a point only with digits behind it. -/
def chars (n : Numeral) : List Char :=
  (if n.negative then ['-'] else []) ++
    (n.whole ++ if n.fraction = [] then [] else '.' :: n.fraction)

/-- The number that is denoted, by the place of each digit. -/
def value (n : Numeral) : ℚ :=
  (if n.negative then -1 else 1) *
    (digitsValue n.whole + digitsValue n.fraction / 10 ^ n.fraction.length)

theorem head?_chars (n : Numeral) : n.chars.head? = some '-' ↔ n.negative = true := by
  rw [chars]
  split
  case isTrue h => simp [h]
  case isFalse h =>
    rw [List.nil_append, List.head?_append_of_ne_nil _ n.whole_ne_nil]
    refine iff_of_false (fun hh => ?_) h
    have hd := n.isDigit '-' (List.mem_append_left _ (List.mem_of_mem_head? hh))
    simp at hd

/-- A text is the plain notation of one number at most. -/
theorem value_eq_of_chars_eq (h : n.chars = m.chars) : n.value = m.value := by
  have hsign : n.negative = m.negative := by
    rw [Bool.eq_iff_iff, ← head?_chars, ← head?_chars, h]
  rw [chars, chars, hsign, List.append_cancel_left_eq] at h
  have hdot (k : Numeral) (c : Char)
      (hc : (if k.fraction = [] then [] else '.' :: k.fraction).head? = some c) :
      c.isDigit = false := by
    split at hc <;> cases hc
    rfl
  have hwhole (k : Numeral) : ∀ c ∈ k.whole, c.isDigit = true :=
    fun c hc => k.isDigit c (List.mem_append_left _ hc)
  obtain ⟨hw, hf⟩ := run_append_inj Char.isDigit (hwhole n) (hwhole m) (hdot n) (hdot m) h
  have hf : n.fraction = m.fraction := by
    split_ifs at hf <;> simp_all
  rw [value, value, hsign, hw, hf]

/-- The plain notation of a fraction. -/
def ofFraction (negative : Bool) (n places : Nat) (h : negative = true → 0 < n) : Numeral where
  negative := negative
  whole := digits (n / pow10 places)
  fraction := fractionDigits n places
  isDigit c hc := by
    rcases List.mem_append.mp hc with hc | hc
    · exact isDigit_of_mem_digits hc
    · exact isDigit_of_mem_digits (List.mem_of_mem_tail (mem_of_mem_trimZeros hc))
  whole_ne_nil := digits_ne_nil
  no_leading_zero hz := by
    rcases Nat.eq_zero_or_pos (n / pow10 places) with h0 | hpos
    · rw [h0]
      rfl
    · exact absurd hz (head?_digits hpos)
  no_trailing_zero := getLast?_trimZeros _
  no_negative_zero hneg := by
    by_contra hall
    push Not at hall
    have hw := digitsValue_eq_zero fun c hc => hall c (List.mem_append_left _ hc)
    have hf := digitsValue_eq_zero fun c hc => hall c (List.mem_append_right _ hc)
    have hvalue := fraction_value n places
    rw [hw, hf, Nat.cast_zero, zero_div, zero_add, eq_comm, div_eq_zero_iff] at hvalue
    have hn : (n : ℚ) ≠ 0 := by exact_mod_cast (h hneg).ne'
    exact hvalue.elim hn (pow_ne_zero _ (by norm_num))

theorem value_ofFraction {negative : Bool} {n places : Nat} (h : negative = true → 0 < n) :
    (ofFraction negative n places h).value
      = (if negative then -1 else 1) * (n / 10 ^ places : ℚ) := by
  rw [← fraction_value n places]
  rfl

end Numeral

namespace Decimal

/-- Every number is written in plain notation, and what is written denotes that number. -/
theorem exists_numeral (d : Decimal) : ∃ n : Numeral, d.chars = n.chars ∧ n.value = d.value := by
  have hsign : decide (d.coefficient < 0) = true →
      0 < d.coefficient.natAbs * pow10 d.exponent.toNat := by
    intro hneg
    have hc : d.coefficient < 0 := of_decide_eq_true hneg
    exact Nat.mul_pos (by omega) (Nat.pow_pos (by decide))
  refine ⟨.ofFraction _ _ (-d.exponent).toNat hsign, ?_, ?_⟩
  · rw [chars_eq, Numeral.chars]
    simp only [Numeral.ofFraction, decide_eq_true_eq]
    rfl
  · have hpow : (10 : ℚ) ^ d.exponent.toNat / 10 ^ (-d.exponent).toNat = 10 ^ d.exponent := by
      rw [← zpow_natCast, ← zpow_natCast, ← zpow_sub₀ (by norm_num)]
      congr 1
      omega
    have habs : (if d.coefficient < 0 then -1 else 1) * (d.coefficient.natAbs : ℚ)
        = d.coefficient := by
      rw [Nat.cast_natAbs]
      split
      case isTrue h => rw [abs_of_neg h, Int.cast_neg, neg_one_mul, neg_neg]
      case isFalse h => rw [abs_of_nonneg (not_lt.mp h), one_mul]
    have hcast : (pow10 d.exponent.toNat : ℚ) = 10 ^ d.exponent.toNat := Nat.cast_pow _ _
    rw [Numeral.value_ofFraction, value, ← hpow, ← habs, Nat.cast_mul, hcast]
    simp only [decide_eq_true_eq]
    ring

/-- Two numbers have the same text exactly if they are equal. -/
theorem text_eq_iff {d d' : Decimal} : d.text = d'.text ↔ d.value = d'.value := by
  rw [text, text, String.ofList_inj]
  refine ⟨fun h => ?_, chars_eq_of_value_eq⟩
  obtain ⟨n, hn, hvalue⟩ := exists_numeral d
  obtain ⟨n', hn', hvalue'⟩ := exists_numeral d'
  rw [hn, hn'] at h
  rw [← hvalue, ← hvalue']
  exact Numeral.value_eq_of_chars_eq h

end Decimal

namespace Value

variable {v w : Value} {x y : ℚ}

/-- The number that an integer of any type or a decimal is. -/
def number? : Value → Option ℚ
  | integer _ i => some i
  | decimal d => some d.value
  | _ => none

theorem literal_of_number (h : v.number? = some x) :
    ∃ (s : Shape) (d : Decimal), v.literal = .ok (s, d.text) ∧ s.family = .numeric ∧
      d.value = x := by
  cases v with
  | integer t i =>
    cases h
    exact ⟨_, ⟨i, 0⟩, rfl, rfl, by simp [Decimal.value]⟩
  | decimal d =>
    cases h
    exact ⟨_, d, rfl, rfl, rfl⟩
  | _ => cases h

/-- Integers and decimals have literals in plain notation that denote them exactly. Two of them have
the same literal exactly if they are the same number, and with that also every comparison that is
made against them the same path and the same identifier. -/
theorem literal_canonical (hv : v.number? = some x) (hw : w.number? = some y) :
    ∃ s t a b, v.literal = .ok (s, a) ∧ w.literal = .ok (t, b) ∧
      (∃ n : Numeral, a.toList = n.chars ∧ n.value = x) ∧ (a = b ↔ x = y) ∧
      ∀ (n : Node) (op : Operator) (path : String), n.Returned →
        n.type? = some (.accessor .number) → n.compile = .ok path →
        ∃ m m' p q, n.compare op (.value v) = .ok m ∧ n.compare op (.value w) = .ok m' ∧
          m.compile = .ok p ∧ m'.compile = .ok q ∧
          (p = q ∧ Node.queryId p = Node.queryId q ↔ x = y) := by
  obtain ⟨s, d, hd, hs, rfl⟩ := literal_of_number hv
  obtain ⟨t, d', hd', ht, rfl⟩ := literal_of_number hw
  refine ⟨s, t, _, _, hd, hd', ?_, Decimal.text_eq_iff, fun n op path hn hnum hp => ?_⟩
  · obtain ⟨n, hn, hvalue⟩ := d.exists_numeral
    exact ⟨n, by rw [Decimal.text, String.toList_ofList, hn], hvalue⟩
  · obtain ⟨m, hm, hpm⟩ := Node.compare_literal hn hnum rfl hp hd hs
    obtain ⟨m', hm', hpm'⟩ := Node.compare_literal hn hnum rfl hp hd' ht
    refine ⟨m, m', _, _, hm, hm', hpm, hpm', ?_⟩
    rw [← Decimal.text_eq_iff, String.append_right_inj]
    exact ⟨And.left, fun h => ⟨h, by rw [h]⟩⟩

/-- The greatest integer of all types. -/
def summit : Value := .integer .uint64 18446744073709551615

/-- The same number, with two zeros behind the point. -/
def paddedSummit : Value := .decimal ⟨1844674407370955161500, -2⟩

theorem summit_canonical : ∃ root m m' p, Node.ofShape .number = .ok root ∧
    summit.literal = .ok (.integer, "18446744073709551615") ∧
    paddedSummit.literal = .ok (.number, "18446744073709551615") ∧
    root.compare .less (.value summit) = .ok m ∧ m.compile = .ok p ∧
    root.compare .less (.value paddedSummit) = .ok m' ∧ m'.compile = .ok p := by
  have hsame : (18446744073709551615 : ℚ) = Decimal.value ⟨1844674407370955161500, -2⟩ := by
    norm_num [Decimal.value]
  have hroot : Node.Returned (Shape.number.accessor (.identifier .number Node.root)) :=
    .root (s := .number) rfl
  obtain ⟨_, _, _, _, -, -, -, -, hcompare⟩ :=
    @literal_canonical summit paddedSummit _ _ rfl rfl
  obtain ⟨m, m', p, q, hm, hm', hpm, hpm', hpq⟩ := hcompare _ .less _ hroot rfl rfl
  obtain ⟨rfl, -⟩ := hpq.mpr hsame
  exact ⟨_, m, m', p, rfl, rfl, rfl, hm, hpm, hm', hpm'⟩

end Value

end TypedPath
