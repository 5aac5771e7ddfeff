/-!
# Readers

A reader takes a value from the front of a text and hands on the rest.  It always takes at least one
character (`Reader.shorter`), so a reader can be repeated until the text ends.

* `Reader.orElse` — one reader, or where it refuses, another.
* `Reader.run` — a run of characters of a class.
* `Reader.mapSome` — a reader whose value is turned into another one, which may fail.
* `Reader.separated` — parts with a separator between each two.
* `Reader.listing` — items between brackets, with commas between them.
-/

namespace CommentSeparator.Toml

/-- Takes a value and at least one character from the front of a text. -/
structure Reader (α : Type) where
  read : List Char → Option (α × List Char)
  shorter : ∀ {text : List Char} {value : α} {rest : List Char},
    read text = some (value, rest) → rest.length < text.length

/-- Passes over characters in front of a text, if there are any to pass over. -/
structure Skip where
  skip : List Char → List Char
  le : ∀ text, (skip text).length ≤ text.length

instance : CoeFun Skip fun _ => List Char → List Char :=
  ⟨Skip.skip⟩

/-- Dropping characters never makes a text longer. -/
theorem length_dropWhile_le (p : Char → Bool) (text : List Char) :
    (text.dropWhile p).length ≤ text.length :=
  (List.dropWhile_sublist p).length_le

/-- Passes over the characters of a class. -/
def Skip.ofClass (p : Char → Bool) : Skip :=
  ⟨List.dropWhile p, length_dropWhile_le p⟩

namespace Reader

variable {α β : Type}

/-- The first reader, or the second one where the first refuses. -/
def orElse (first second : Reader α) : Reader α where
  read text := (first.read text).orElse fun _ => second.read text
  shorter := by
    intro text value rest h
    cases hfirst : first.read text with
    | none => exact second.shorter (by simpa [hfirst] using h)
    | some found => exact first.shorter (by simpa [hfirst] using h)

/-- Turns what is read into something else, or refuses it. -/
def mapSome (reader : Reader α) (f : α → Option β) : Reader β where
  read text :=
    match reader.read text with
    | none => none
    | some (value, rest) => (f value).map fun result => (result, rest)
  shorter := by
    intro text value rest h
    split at h
    · simp at h
    · rename_i inner left hread
      obtain ⟨result, _, hpair⟩ := Option.map_eq_some_iff.1 h
      injection hpair with _ hrest
      exact hrest ▸ reader.shorter hread

/-- Turns what is read into something else. -/
def map (reader : Reader α) (f : α → β) : Reader β :=
  reader.mapSome fun value => some (f value)

/-- A run of characters of a class, as long as it goes and at least one. -/
def run (p : Char → Bool) : Reader (List Char) where
  read
    | [] => none
    | c :: rest => if p c then some (c :: rest.takeWhile p, rest.dropWhile p) else none
  shorter := by
    intro text value rest h
    split at h
    · simp at h
    · split at h
      · simp only [Option.some.injEq, Prod.mk.injEq] at h
        exact h.2 ▸ Nat.lt_succ_of_le (length_dropWhile_le p _)
      · simp at h

/-- One part of a sequence, and whether the separator follows it. -/
def partAndMore (part : Reader α) (skip : Skip) (separator : Char) (text : List Char) :
    Option ((α × Bool) × List Char) :=
  match part.read (skip text) with
  | none => none
  | some (value, rest) =>
    if (skip rest).head? = some separator then some ((value, true), (skip rest).tail)
    else some ((value, false), skip rest)

theorem length_partAndMore_lt {part : Reader α} {skip : Skip} {separator : Char}
    {text : List Char} {found : α × Bool} {rest : List Char}
    (h : partAndMore part skip separator text = some (found, rest)) :
    rest.length < text.length := by
  unfold partAndMore at h
  split at h
  · simp at h
  · rename_i value left hread
    have hpart := part.shorter hread
    have hbefore := skip.le text
    have hafter := skip.le left
    split at h
    · simp only [Option.some.injEq, Prod.mk.injEq] at h
      rw [← h.2, List.length_tail]
      omega
    · simp only [Option.some.injEq, Prod.mk.injEq] at h
      rw [← h.2]
      omega

/-- Parts with a separator between each two. -/
def parts (part : Reader α) (skip : Skip) (separator : Char) (text : List Char) :
    Option (List α × List Char) :=
  match _h : partAndMore part skip separator text with
  | none => none
  | some ((value, false), rest) => some ([value], rest)
  | some ((value, true), rest) =>
    (parts part skip separator rest).map fun more => (value :: more.1, more.2)
termination_by text.length
decreasing_by exact length_partAndMore_lt _h

theorem length_parts_lt {part : Reader α} {skip : Skip} {separator : Char} {text : List Char}
    {values : List α} {rest : List Char}
    (h : parts part skip separator text = some (values, rest)) : rest.length < text.length := by
  induction text using parts.induct part skip separator generalizing values with
  | case1 text hpart =>
    rw [parts] at h
    split at h <;> simp_all
  | case2 text value left hpart =>
    rw [parts] at h
    split at h
    · simp at h
    · rename_i hfound
      simp only [Option.some.injEq, Prod.mk.injEq] at h
      exact h.2 ▸ length_partAndMore_lt hfound
    · simp_all
  | case3 text value left hpart ih =>
    rw [parts] at h
    split at h
    · simp at h
    · simp_all
    · rename_i hfound
      obtain ⟨more, hmore, hpair⟩ := Option.map_eq_some_iff.1 h
      rw [hpart] at hfound
      simp only [Option.some.injEq, Prod.mk.injEq] at hfound hpair
      have := @ih more.1 (by rw [hfound.2, ← hpair.2]; exact hmore)
      have := length_partAndMore_lt hpart
      omega

/-- Parts with a separator between each two; `skip` passes over what may stand around them. -/
def separated (part : Reader α) (skip : Skip) (separator : Char) : Reader (List α) :=
  ⟨parts part skip separator, length_parts_lt⟩

/-- An item, and what ends it: a comma (`true`) or the closing bracket. -/
def itemAndEnd (item : Reader α) (skip : Skip) (closing : Char) (text : List Char) :
    Option ((α × Bool) × List Char) :=
  match item.read (skip text) with
  | none => none
  | some (value, rest) =>
    match skip rest with
    | [] => none
    | c :: after =>
      if c = ',' then some ((value, true), after)
      else if c = closing then some ((value, false), after)
      else none

theorem length_itemAndEnd_lt {item : Reader α} {skip : Skip} {closing : Char}
    {text : List Char} {found : α × Bool} {rest : List Char}
    (h : itemAndEnd item skip closing text = some (found, rest)) :
    rest.length < text.length := by
  unfold itemAndEnd at h
  split at h
  · simp at h
  · rename_i value left hread
    have hitem := item.shorter hread
    have hbefore := skip.le text
    have hafter := skip.le left
    split at h
    · simp at h
    · rename_i c after hskip
      rw [hskip, List.length_cons] at hafter
      split at h
      · simp only [Option.some.injEq, Prod.mk.injEq] at h
        rw [← h.2]
        omega
      · split at h
        · simp only [Option.some.injEq, Prod.mk.injEq] at h
          rw [← h.2]
          omega
        · simp at h

/-- Items up to the closing bracket.  A comma follows every item but the last, where it may follow
if `trailing` allows it; `skip` passes over what may stand between.  The bracket may close where no
item has been read yet. -/
def items (item : Reader α) (skip : Skip) (closing : Char) (trailing first : Bool)
    (text : List Char) : Option (List α × List Char) :=
  if (skip text).head? = some closing ∧ (first ∨ trailing) then some ([], (skip text).tail)
  else
    match _h : itemAndEnd item skip closing text with
    | none => none
    | some ((value, false), rest) => some ([value], rest)
    | some ((value, true), rest) =>
      (items item skip closing trailing false rest).map fun more => (value :: more.1, more.2)
termination_by text.length
decreasing_by exact length_itemAndEnd_lt _h

theorem length_items_le {item : Reader α} {skip : Skip} {closing : Char} {trailing first : Bool}
    {text : List Char} {values : List α} {rest : List Char}
    (h : items item skip closing trailing first text = some (values, rest)) :
    rest.length ≤ text.length := by
  induction first, text using items.induct item skip closing trailing generalizing values with
  | case1 first text hclosing =>
    rw [items, if_pos hclosing] at h
    simp only [Option.some.injEq, Prod.mk.injEq] at h
    have := skip.le text
    rw [← h.2, List.length_tail]
    omega
  | case2 first text hclosing hitem =>
    rw [items, if_neg hclosing] at h
    split at h <;> simp_all
  | case3 first text hclosing value left hitem =>
    rw [items, if_neg hclosing] at h
    split at h
    · simp at h
    · rename_i hfound
      simp only [Option.some.injEq, Prod.mk.injEq] at h
      exact h.2 ▸ Nat.le_of_lt (length_itemAndEnd_lt hfound)
    · simp_all
  | case4 first text hclosing value left hitem ih =>
    rw [items, if_neg hclosing] at h
    split at h
    · simp at h
    · simp_all
    · rename_i hfound
      obtain ⟨more, hmore, hpair⟩ := Option.map_eq_some_iff.1 h
      rw [hitem] at hfound
      simp only [Option.some.injEq, Prod.mk.injEq] at hfound hpair
      have := @ih more.1 (by rw [hfound.2, ← hpair.2]; exact hmore)
      have := length_itemAndEnd_lt hitem
      omega

/-- Items between brackets. -/
def listing (item : Reader α) (skip : Skip) (opening closing : Char) (trailing : Bool) :
    Reader (List α) where
  read
    | [] => none
    | c :: text => if c = opening then items item skip closing trailing true text else none
  shorter := by
    intro text values rest h
    split at h
    · simp at h
    · split at h
      · exact Nat.lt_succ_of_le (length_items_le h)
      · simp at h

end Reader

end CommentSeparator.Toml
