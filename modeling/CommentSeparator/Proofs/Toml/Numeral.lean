import CommentSeparator.Style.Written
import Mathlib.Data.List.Basic
import Mathlib.Data.List.TakeDrop
import Mathlib.Data.List.TakeWhile
import Mathlib.Tactic.Common

/-!
# Written widths are read back

A width is written in decimal, and a word of decimal digits could be several things: a truth value,
a date, a time, a number with a fraction, a whole number.  `Value.ofWord?` tries them in this order.
The lemmas here rule out one after the other by the one mark each of them needs and digits do not
have (`ne_of_isDigit`), until `integer?` is left, which computes what `Nat.toDigits` has taken
apart: **`ofWord?_toDigits`**.
-/

namespace CommentSeparator.Toml

/-- A character that is no digit does not occur among digits. -/
lemma ne_of_isDigit {c d : Char} (hc : c.isDigit = true) (hd : d.isDigit = false) : c ≠ d := by
  rintro rfl
  exact absurd hc (by simp [hd])

/-! ## The value of digits -/

lemma digit?_of_isDigit {c : Char} (hc : c.isDigit = true) :
    digit? 10 c = some (c.toNat - '0'.toNat) := by
  simp only [Char.isDigit, Bool.and_eq_true, decide_eq_true_eq] at hc
  obtain ⟨hlow, hhigh⟩ := hc
  have hrange : '0' ≤ c ∧ c ≤ '9' := ⟨hlow, hhigh⟩
  have hlt : c.toNat - '0'.toNat < 10 := by
    have hle : c.toNat ≤ '9'.toNat := hhigh
    simp only [Char.reduceToNat] at hle ⊢
    omega
  rw [digit?, Text.hexValue?, if_pos hrange, Option.filter_some, if_pos (by simpa using hlt)]

/-- Digits without underscores are read one by one. -/
lemma digits?_of_isDigit {word : List Char} (hne : word ≠ [])
    (hdigits : ∀ c ∈ word, c.isDigit = true) :
    digits? 10 word = some (word.map fun c => c.toNat - '0'.toNat) := by
  induction word with
  | nil => exact absurd rfl hne
  | cons c word ih =>
      obtain ⟨hc, hword⟩ := List.forall_mem_cons.mp hdigits
      cases word with
      | nil => simp [digits?, digit?_of_isDigit hc]
      | cons d word =>
          have hd : d ≠ '_' := ne_of_isDigit (hword _ List.mem_cons_self) rfl
          rw [digits?, digit?_of_isDigit hc, ih (by simp) hword]
          · rfl
          · simp
          · rintro rest h
            exact hd (List.cons.inj h).1

/-- Reading digits is the inverse of taking a number apart. -/
lemma spelled_toDigits (n : ℕ) :
    spelled 10 ((Nat.toDigits 10 n).map fun c => c.toNat - '0'.toNat) = n := by
  have hfold : ∀ word : List Char, spelled 10 (word.map fun c => c.toNat - '0'.toNat)
      = Nat.ofDigitChars 10 word 0 := by
    intro word
    rw [spelled, Nat.ofDigitChars_eq_foldl, List.foldl_map]
    simp only [Nat.mul_comm]
  rw [hfold, Nat.ofDigitChars_ten_toDigits]

/-- Only the numeral of zero begins with a zero. -/
lemma head_toDigits_ne_zero (n : ℕ) (hn : 0 < n) : (Nat.toDigits 10 n).head? ≠ some '0' := by
  induction n using Nat.strongRecOn with
  | _ n ih =>
      rw [Nat.toDigits_eq_if (by decide)]
      split_ifs with hlt
      · have hdigit : ∀ n < 10, 0 < n → Nat.digitChar n ≠ '0' := by decide
        simpa using hdigit n hlt hn
      · have hfront := ih (n / 10) (by omega) (by omega)
        rwa [List.head?_append_of_ne_nil _ Nat.toDigits_ne_nil]

lemma isDigit_of_mem_toDigits_ten {n : ℕ} {c : Char} (hc : c ∈ Nat.toDigits 10 n) :
    c.isDigit = true :=
  Nat.isDigit_of_mem_toDigits (by decide) (by decide) hc

/-- A numeral has no leading zero that would have to be refused. -/
lemma decimal?_toDigits (n : ℕ) :
    decimal? (Nat.toDigits 10 n)
      = some ((Nat.toDigits 10 n).map fun c => c.toNat - '0'.toNat) := by
  have hzero : ¬ ((Nat.toDigits 10 n).head? = some '0' ∧ Nat.toDigits 10 n ≠ ['0']) := by
    rintro ⟨hhead, hne⟩
    rcases Nat.eq_zero_or_pos n with rfl | hpos
    · exact hne (Nat.toDigits_zero 10)
    · exact head_toDigits_ne_zero n hpos hhead
  rw [decimal?, if_neg hzero]
  exact digits?_of_isDigit Nat.toDigits_ne_nil fun c hc => isDigit_of_mem_toDigits_ten hc

/-! ## What digits are not -/

/-- Digits are no date-time: a date needs a dash, a time of day a colon. -/
lemma isDateTime_eq_false {word : List Char} (hdigits : ∀ c ∈ word, c.isDigit = true) :
    isDateTime word = false := by
  have hdate : afterDate? word = none := by
    unfold afterDate?
    split
    · exact absurd rfl (ne_of_isDigit (hdigits '-' (by simp)) (d := '-') rfl)
    · rfl
  have htime : afterTime? word = none := by
    unfold afterTime?
    split
    · exact absurd rfl (ne_of_isDigit (hdigits ':' (by simp)) (d := ':') rfl)
    · rfl
  simp [isDateTime, hdate, htime]

/-- Digits carry no sign. -/
lemma splitSign_of_isDigit {word : List Char} (hdigits : ∀ c ∈ word, c.isDigit = true) :
    splitSign word = (false, word) := by
  unfold splitSign
  split
  · exact absurd rfl (ne_of_isDigit (hdigits '-' (by simp)) (d := '-') rfl)
  · exact absurd rfl (ne_of_isDigit (hdigits '+' (by simp)) (d := '+') rfl)
  · rfl

lemma span_of_forall {p : Char → Bool} {word : List Char} (h : ∀ c ∈ word, p c = true) :
    word.span p = (word, []) := by
  rw [List.span_eq_takeWhile_dropWhile, List.takeWhile_eq_self_iff.mpr h,
    List.dropWhile_eq_nil_iff.mpr h]

/-- Digits are no number with a fraction: that needs a point or an exponent. -/
lemma float?_eq_none {word : List Char} (hdigits : ∀ c ∈ word, c.isDigit = true) :
    float? word = none := by
  have hinf : word ≠ ['i', 'n', 'f'] := by
    rintro rfl
    exact absurd (hdigits 'i' (by simp)) (by decide)
  have hnan : word ≠ ['n', 'a', 'n'] := by
    rintro rfl
    exact absurd (hdigits 'n' (by simp)) (by decide)
  have hpower : word.span (fun c => c ≠ 'e' ∧ c ≠ 'E') = (word, []) := by
    refine span_of_forall ?_
    intro c hc
    have hlower := ne_of_isDigit (hdigits c hc) (d := 'e') rfl
    have hupper := ne_of_isDigit (hdigits c hc) (d := 'E') rfl
    simp [hlower, hupper]
  have hpoint : word.span (· ≠ '.') = (word, []) := by
    refine span_of_forall ?_
    intro c hc
    simpa using ne_of_isDigit (hdigits c hc) (d := '.') rfl
  have hdecimal : decimalFloat? false word = none := by
    simp only [decimalFloat?, hpower, hpoint]
    rfl
  simp [float?, splitSign_of_isDigit hdigits, hinf, hnan, hdecimal]

/-! ## Widths -/

/-- Behind a base prefix stands a letter, so digits are a decimal number. -/
lemma integer?_toDigits (n : ℕ) : integer? (Nat.toDigits 10 n) = int64? n := by
  have hdigits : ∀ c ∈ Nat.toDigits 10 n, c.isDigit = true :=
    fun c hc => isDigit_of_mem_toDigits_ten hc
  unfold integer?
  simp only
  split
  · rename_i rest hword
    exact absurd (hdigits 'x' (by simp [hword])) (by decide)
  · rename_i rest hword
    exact absurd (hdigits 'o' (by simp [hword])) (by decide)
  · rename_i rest hword
    exact absurd (hdigits 'b' (by simp [hword])) (by decide)
  · rw [splitSign_of_isDigit hdigits]
    simp only [decimal?_toDigits, Option.map_some, spelled_toDigits]
    rfl

/-- The integer of a document that a width is. -/
lemma int64?_width {width : UInt64} (hwidth : width.toNat < integerBound) :
    int64? width.toNat = some width.toInt64 := by
  have hrange : Int64.minValue.toInt ≤ (width.toNat : Int)
      ∧ (width.toNat : Int) ≤ Int64.maxValue.toInt := by
    simp only [integerBound, Int64.toInt_minValue, Int64.toInt_maxValue] at hwidth ⊢
    omega
  rw [int64?, if_pos hrange]
  congr 1
  apply Int64.toBitVec_inj.1
  simp

/-- **A written width is read back** as the integer with the same bits. -/
theorem ofWord?_toDigits {width : UInt64} (hwidth : width.toNat < integerBound) :
    Value.ofWord? (Nat.toDigits 10 width.toNat) = some (.integer width.toInt64) := by
  have hdigits : ∀ c ∈ Nat.toDigits 10 width.toNat, c.isDigit = true :=
    fun c hc => isDigit_of_mem_toDigits_ten hc
  have htrue : Nat.toDigits 10 width.toNat ≠ ['t', 'r', 'u', 'e'] := by
    intro h
    exact absurd (hdigits 't' (by simp [h])) (by decide)
  have hfalse : Nat.toDigits 10 width.toNat ≠ ['f', 'a', 'l', 's', 'e'] := by
    intro h
    exact absurd (hdigits 'f' (by simp [h])) (by decide)
  rw [Value.ofWord?, if_neg htrue, if_neg hfalse, isDateTime_eq_false hdigits,
    float?_eq_none hdigits, integer?_toDigits, int64?_width hwidth]
  rfl

end CommentSeparator.Toml
