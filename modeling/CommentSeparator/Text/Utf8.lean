/-!
# Octets and text

Input and output are octets; labels and lines are text.

* `encode` — the octets of a text, in UTF-8.
* `decode?` — the text that given octets encode, or nothing when they are not UTF-8.
  **`decode?_eq_some_iff`**: reading accepts exactly what writing produces.
* `decodeLossy` — a readable text for any octets.  Each longest run of octets that begins a
  character without completing it, and each octet that begins none, is shown as one U+FFFD.
-/

namespace CommentSeparator.Text

/-- The octets of a text. -/
def encode (text : String) : List UInt8 :=
  text.toUTF8.data.toList

/-- The text that the octets encode, if they are UTF-8. -/
def decode? (octets : List UInt8) : Option String :=
  String.fromUTF8? ⟨octets.toArray⟩

/-- What a message says where octets that are not UTF-8 were read as text. -/
def notTextMessage : String := "stream did not contain valid UTF-8"

/-- **Reading accepts exactly what writing produces**, so a text has one encoding. -/
theorem decode?_eq_some_iff {octets : List UInt8} {text : String} :
    decode? octets = some text ↔ octets = encode text := by
  unfold decode? encode String.fromUTF8?
  constructor
  · intro h
    split at h
    · injection h with h
      subst h
      simp [String.fromUTF8]
    · simp at h
  · intro h
    subst h
    have hvalid : ByteArray.IsValidUTF8 ⟨text.toUTF8.data.toList.toArray⟩ := text.isValidUTF8
    rw [dif_pos hvalid]
    exact congrArg some (String.toByteArray_inj.1 rfl)

@[simp]
theorem decode?_encode (text : String) : decode? (encode text) = some text :=
  decode?_eq_some_iff.2 rfl

@[simp]
theorem encode_append (s t : String) : encode (s ++ t) = encode s ++ encode t := by
  simp [encode]

@[simp]
theorem encode_empty : encode "" = [] := rfl

/-- A text is determined by its octets. -/
theorem encode_inj {s t : String} (h : encode s = encode t) : s = t := by
  have := decode?_encode t
  rwa [← h, decode?_encode, Option.some.injEq] at this

/-! ## Showing octets that need not be UTF-8 -/

/-- The character shown for octets that encode none. -/
def replacement : Char := '\uFFFD'

/-- Completes a character of which `value` is known and `owed` octets are missing.  The next of
them lies between `low` and `high`, the later ones between 0x80 and 0xBF.  At the first octet
that does not fit, or at the end, the part read so far is given up. -/
def completeChar : (owed low high value : Nat) → List UInt8 → Char × List UInt8
  | 0, _, _, value, octets => (Char.ofNat value, octets)
  | _ + 1, _, _, _, [] => (replacement, [])
  | owed + 1, low, high, value, octet :: octets =>
    if low ≤ octet.toNat ∧ octet.toNat ≤ high then
      completeChar owed 0x80 0xBF (value * 64 + octet.toNat % 64) octets
    else
      (replacement, octet :: octets)

/-- The character that begins with `first`, and what is left.  The bounds of the second octet
leave out overlong forms, surrogates and values above 0x10FFFF. -/
def nextChar (first : UInt8) (octets : List UInt8) : Char × List UInt8 :=
  let n := first.toNat
  if n < 0x80 then (Char.ofNat n, octets)
  else if n < 0xC2 then (replacement, octets)
  else if n < 0xE0 then completeChar 1 0x80 0xBF (n % 32) octets
  else if n < 0xF0 then
    completeChar 2 (if n = 0xE0 then 0xA0 else 0x80) (if n = 0xED then 0x9F else 0xBF) (n % 16)
      octets
  else if n < 0xF5 then
    completeChar 3 (if n = 0xF0 then 0x90 else 0x80) (if n = 0xF4 then 0x8F else 0xBF) (n % 8)
      octets
  else (replacement, octets)

theorem length_completeChar_le (owed low high value : Nat) (octets : List UInt8) :
    (completeChar owed low high value octets).2.length ≤ octets.length := by
  induction owed, low, high, value, octets using completeChar.induct with
  | case1 => simp [completeChar]
  | case2 => simp [completeChar]
  | case3 owed low high value octet octets h ih =>
    rw [completeChar, if_pos h]
    exact Nat.le_succ_of_le ih
  | case4 owed low high value octet octets h =>
    simp only [completeChar, if_neg h, Nat.le_refl]

theorem length_nextChar_le (first : UInt8) (octets : List UInt8) :
    (nextChar first octets).2.length ≤ octets.length := by
  unfold nextChar
  simp only
  repeat' split
  all_goals first | exact Nat.le_refl _ | exact length_completeChar_le ..

/-- A readable text for any octets. -/
def decodeLossy : List UInt8 → List Char
  | [] => []
  | first :: octets =>
    (nextChar first octets).1 :: decodeLossy (nextChar first octets).2
termination_by octets => octets.length
decreasing_by exact Nat.lt_succ_of_le (length_nextChar_le first octets)

end CommentSeparator.Text
