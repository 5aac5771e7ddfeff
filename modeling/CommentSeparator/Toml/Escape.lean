import CommentSeparator.Text.Hexadecimal
import CommentSeparator.Toml.Layout

/-!
# Escapes

Between quotation marks a backslash begins an escape: a letter for one of five control characters,
the quotation mark and the backslash by themselves, or `u` and `U` with the code point in four or
eight hexadecimal digits.

* `escape` — reads what follows the backslash.
* `escaped` — what is written for a character that needs an escape.
* `read_escape_escaped` — reading gives back the character that was written.
-/

namespace CommentSeparator.Toml

/-- The number that digits spell in a base, the first one leading. -/
def spelled (base : Nat) (digits : List Nat) : Nat :=
  digits.foldl (fun number digit => number * base + digit) 0

/-- The character whose code point the given count of hexadecimal digits spells. -/
def codePoint? (count : Nat) (text : List Char) : Option (Char × List Char) :=
  if text.length < count then none
  else
    match (text.take count).mapM Text.hexValue? with
    | none => none
    | some digits =>
      if (spelled 16 digits).isValidChar then
        some (Char.ofNat (spelled 16 digits), text.drop count)
      else none

/-- The characters that have an escape of one letter, with that letter. -/
def escapeLetters : List (Char × Char) :=
  [('b', '\x08'), ('t', '\t'), ('n', '\n'), ('f', '\x0c'), ('r', '\r'), ('"', '"'), ('\\', '\\')]

/-- Reads an escape, from behind its backslash. -/
def escape : Reader Char where
  read
    | [] => none
    | letter :: rest =>
      if letter = 'u' then codePoint? 4 rest
      else if letter = 'U' then codePoint? 8 rest
      else (escapeLetters.lookup letter).map fun c => (c, rest)
  shorter := by
    have hcode : ∀ {count : Nat} {text : List Char} {c : Char} {rest : List Char},
        codePoint? count text = some (c, rest) → rest.length ≤ text.length := by
      intro count text c rest h
      unfold codePoint? at h
      repeat' split at h
      all_goals simp only [Option.some.injEq, Prod.mk.injEq, reduceCtorEq] at h
      rw [← h.2, List.length_drop]
      omega
    intro text c rest h
    split at h
    · simp at h
    · split at h
      · exact Nat.lt_succ_of_le (hcode h)
      · split at h
        · exact Nat.lt_succ_of_le (hcode h)
        · obtain ⟨_, _, hpair⟩ := Option.map_eq_some_iff.1 h
          simp only [Prod.mk.injEq] at hpair
          simp [hpair.2]

/-- The hexadecimal digit of a number below sixteen, in upper case. -/
def hexDigit (n : Nat) : Char :=
  Char.ofNat (if n < 10 then '0'.toNat + n else 'A'.toNat + (n - 10))

/-- What is written between quotation marks for a character: a letter escape where there is one, the
code point for other control characters, and the character itself otherwise. -/
def escaped (c : Char) : List Char :=
  match escapeLetters.find? fun pair => pair.2 = c with
  | some (letter, _) => ['\\', letter]
  | none =>
    if isPlain c then [c]
    else ['\\', 'u', '0', '0', hexDigit (c.toNat / 16), hexDigit (c.toNat % 16)]

/-- Control characters have code points below 128. -/
theorem toNat_lt_of_not_isPlain {c : Char} (h : isPlain c = false) : c.toNat < 128 := by
  simp only [isPlain, Bool.or_eq_false_iff, Bool.and_eq_false_iff, decide_eq_false_iff_not] at h
  omega

theorem spelled_hexDigits :
    ∀ n < 128, ['0', '0', hexDigit (n / 16), hexDigit (n % 16)].mapM Text.hexValue? =
      some [0, 0, n / 16, n % 16] := by
  decide

/-- **An escape is read back**: behind the backslash, reading finds the character written. -/
theorem read_escape_escaped {c : Char} {written : List Char} (h : escaped c = '\\' :: written)
    (rest : List Char) : escape.read (written ++ rest) = some (c, rest) := by
  unfold escaped at h
  split at h
  · rename_i letter c' hfind
    have hmem := List.mem_of_find?_eq_some hfind
    have hc : c' = c := by simpa using List.find?_some hfind
    injection h with _ h
    subst h hc
    simp only [escapeLetters, List.mem_cons, Prod.mk.injEq, List.not_mem_nil, or_false] at hmem
    rcases hmem with h | h | h | h | h | h | h <;> (obtain ⟨rfl, rfl⟩ := h; rfl)
  · rename_i hfind
    split at h
    · injection h with h
      subst h
      exact absurd hfind (by decide)
    · rename_i hplain
      injection h with _ h
      subst h
      have hlt := toNat_lt_of_not_isPlain (Bool.eq_false_iff.2 hplain)
      have hdigits := spelled_hexDigits c.toNat hlt
      have hvalue : spelled 16 [0, 0, c.toNat / 16, c.toNat % 16] = c.toNat := by
        simp only [spelled, List.foldl_cons, List.foldl_nil]
        omega
      have hvalid : (c.toNat).isValidChar := c.valid
      simp only [escape, List.cons_append, if_true, List.nil_append, codePoint?, List.length_cons,
        List.take_succ_cons, List.take_zero, List.drop_succ_cons, List.drop_zero, hdigits, hvalue,
        hvalid, Char.ofNat_toNat]
      rw [if_neg (by omega)]

end CommentSeparator.Toml
