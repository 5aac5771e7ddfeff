import CommentSeparator.Toml.DateTime
import CommentSeparator.Toml.Number
import CommentSeparator.Toml.Table

/-!
# Reading values

A value is a quoted text, a word (a truth value, a date-time or a number), an array in brackets or a
table in braces.  An array may be spread over lines and may have a comma behind its last item; a
table in braces stands on one line and may not.

* `scalar` — reads a value without brackets.
* `value` — reads any value, with brackets up to the given depth.
* `assignment` — reads a path, an equals sign and a value.
-/

namespace CommentSeparator.Toml

/-- A character of a word that is a value. -/
def isWordChar (c : Char) : Bool :=
  c.isAlphanum || c = '+' || c = '-' || c = '.' || c = ':' || c = '_'

/-- The value that a word is. -/
def Value.ofWord? (word : List Char) : Option Value :=
  if word = ['t', 'r', 'u', 'e'] then some (.boolean true)
  else if word = ['f', 'a', 'l', 's', 'e'] then some (.boolean false)
  else if isDateTime word then some (.dateTime (String.ofList word))
  else
    match float? word with
    | some value => some (.float value)
    | none => (integer? word).map .integer

/-- Reads a word.  After a date, a space and a digit the word goes on, for the time of day. -/
def word : Reader (List Char) where
  read text :=
    match (Reader.run isWordChar).read text with
    | some (date, ' ' :: c :: rest) =>
      if isDate date ∧ c.isDigit then
        some (date ++ ' ' :: (c :: rest).takeWhile isWordChar, (c :: rest).dropWhile isWordChar)
      else some (date, ' ' :: c :: rest)
    | found => found
  shorter := by
    intro text value rest h
    split at h
    · rename_i date c left hread
      have hrun := (Reader.run isWordChar).shorter hread
      split at h
      · simp only [Option.some.injEq, Prod.mk.injEq] at h
        have := length_dropWhile_le isWordChar (c :: left)
        rw [h.2] at this
        simp only [List.length_cons] at this hrun
        omega
      · simp only [Option.some.injEq, Prod.mk.injEq] at h
        exact h.2 ▸ hrun
    · exact (Reader.run isWordChar).shorter h

/-- Reads a value without brackets. -/
def scalar : Reader Value :=
  (quotedText.map .string).orElse (word.mapSome Value.ofWord?)

/-- Reads a path, an equals sign and a value. -/
def assignment (value : Reader Value) : Reader (KeyPath × Value) where
  read text :=
    match keyPath.read text with
    | some (path, '=' :: rest) =>
      (value.read (skipSpace rest)).map fun found => ((path, found.1), found.2)
    | _ => none
  shorter := by
    intro text found rest h
    split at h
    · rename_i path left hpath
      obtain ⟨inner, hvalue, hpair⟩ := Option.map_eq_some_iff.1 h
      simp only [Prod.mk.injEq] at hpair
      have hkeys := keyPath.shorter hpath
      have hspace := skipSpace.le left
      have hread := value.shorter hvalue
      rw [hpair.2] at hread
      simp only [List.length_cons] at hkeys
      omega
    · simp at h

/-- Reads an array. -/
def array (value : Reader Value) : Reader Value :=
  (Reader.listing value skipLayout '[' ']' true).map .array

/-- Reads a table in braces. -/
def inlineTable (value : Reader Value) : Reader Value :=
  (Reader.listing (assignment value) skipSpace '\x7b' '\x7d' false).mapSome fun assignments =>
    (Table.ofAssignments? assignments).map (.table .inline)

/-- Reads a value with brackets up to a depth. -/
def value : (depth : Nat) → Reader Value
  | 0 => scalar
  | depth + 1 => (scalar.orElse (array (value depth))).orElse (inlineTable (value depth))

end CommentSeparator.Toml
