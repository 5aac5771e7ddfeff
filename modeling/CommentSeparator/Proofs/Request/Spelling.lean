import CommentSeparator.Proofs.Separator.Parts
import CommentSeparator.Text.Utf8
import Mathlib.Data.List.Forall2
import Mathlib.Data.List.TakeWhile
import Mathlib.Tactic.Common

/-!
# Which lines ask for a region

A line is cut after six octets, whatever it holds.  What it asks for can be said in characters all
the same: it asks for a region iff its first six characters spell the word, and then for the one
with the label that is left of the rest without the blanks around it (`ofInput_eq_region_iff`).

**The cut.**  A text can be cut after so many octets iff that is a boundary between two of its
characters, and then in one way (`cutAtOctet?_eq_some_iff`).  The letters of the word take one octet
each, so where the word stands the cut falls behind it; where the cut falls inside a character, or
between others, there is no word.

**The blanks.**  `IsTrimmed` says what is left of a text without the blanks around it, and not how
it is found: blanks are taken away at both ends, and what is left neither begins nor ends with one.
There is one such text, and `trim` finds it (`isTrimmed_iff`).
-/

namespace CommentSeparator

/-! ## Trimming -/

namespace Text

/-- What is left of a text when the blanks at its two ends are taken away. -/
structure IsTrimmed (text core : List Char) : Prop where
  cut : ∃ before after, text = before ++ core ++ after
    ∧ (∀ c ∈ before, isBlank c) ∧ ∀ c ∈ after, isBlank c
  head : ∀ c ∈ core.head?, ¬ isBlank c
  last : ∀ c ∈ core.getLast?, ¬ isBlank c

/-- Nothing is dropped in front of what is not blank. -/
lemma dropWhile_of_head? {text : List Char} (h : ∀ c ∈ text.head?, ¬ isBlank c) :
    text.dropWhile isBlank = text := by
  cases text with
  | nil => rfl
  | cons c text => rw [List.dropWhile_cons_of_neg (h c rfl)]

/-- Blanks behind a text make no difference to its trimmed end. -/
lemma trimEnd_append {after : List Char} (hafter : ∀ c ∈ after, isBlank c) (text : List Char) :
    trimEnd (text ++ after) = trimEnd text := by
  rw [trimEnd, List.reverse_append,
    List.dropWhile_append_of_pos fun c hc => hafter c (List.mem_reverse.mp hc), ← trimEnd]

/-- Blanks around a text make no difference to what is left of it. -/
lemma trim_append {before after : List Char} (hbefore : ∀ c ∈ before, isBlank c)
    (hafter : ∀ c ∈ after, isBlank c) (text : List Char) :
    trim (before ++ text ++ after) = trim text := by
  have hblank : after.dropWhile isBlank = [] := List.dropWhile_eq_nil_iff.mpr hafter
  rw [trim, List.append_assoc, List.dropWhile_append_of_pos hbefore, List.dropWhile_append, hblank]
  split_ifs with hempty
  · rw [trim, List.isEmpty_iff.mp hempty]
  · rw [trimEnd_append hafter, trim]

lemma trim_of_ends {core : List Char} (hhead : ∀ c ∈ core.head?, ¬ isBlank c)
    (hlast : ∀ c ∈ core.getLast?, ¬ isBlank c) : trim core = core := by
  rw [← List.head?_reverse] at hlast
  rw [trim, dropWhile_of_head? hhead, trimEnd, dropWhile_of_head? hlast, List.reverse_reverse]

/-- A trimmed end does not end with a blank. -/
lemma not_isBlank_getLast?_trimEnd (text : List Char) :
    ∀ c ∈ (trimEnd text).getLast?, ¬ isBlank c := by
  intro c hc
  rw [trimEnd, List.getLast?_reverse] at hc
  have hhead := List.head?_dropWhile_not isBlank text.reverse
  rw [Option.mem_def.mp hc] at hhead
  simpa using hhead

/-- **Trimming is taking away the blanks at the ends.** -/
theorem isTrimmed_iff {text core : List Char} : IsTrimmed text core ↔ trim text = core := by
  constructor
  · rintro ⟨⟨before, after, rfl, hbefore, hafter⟩, hhead, hlast⟩
    rw [trim_append hbefore hafter, trim_of_ends hhead hlast]
  · rintro rfl
    obtain ⟨before, after, htext, hbefore, hafter⟩ := trim_eq text
    refine ⟨⟨before, after, htext, hbefore, hafter⟩, ?_, not_isBlank_getLast?_trimEnd _⟩
    intro c hc
    -- what is left begins with what the text without its first blanks begins with
    obtain ⟨cut, hcut, -⟩ := trimEnd_eq (text.dropWhile isBlank)
    have hhead := List.head?_dropWhile_not isBlank text
    have hfirst : (text.dropWhile isBlank).head? = some c := by
      rw [hcut, List.head?_append, ← trim, Option.mem_def.mp hc, Option.some_or]
    rw [hfirst] at hhead
    simpa using hhead

end Text

/-! ## Cutting -/

lemma utf8ByteSize_ofList_cons (c : Char) (text : List Char) :
    (String.ofList (c :: text)).utf8ByteSize
      = c.utf8Size + (String.ofList text).utf8ByteSize := by
  rw [← List.singleton_append, String.ofList_append, String.utf8ByteSize_append,
    ← String.singleton_eq_ofList, String.utf8ByteSize_singleton]

/-- What stands before a cut takes as many octets as were asked for. -/
lemma utf8ByteSize_of_cutAtOctet? {octets : ℕ} {text : List Char} {cut : List Char × List Char}
    (h : cutAtOctet? octets text = some cut) : (String.ofList cut.1).utf8ByteSize = octets := by
  induction octets, text using cutAtOctet?.induct generalizing cut with
  | case1 text =>
      rw [cutAtOctet?] at h
      rw [← Option.some.inj h]
      rfl
  | case2 octets => simp [cutAtOctet?] at h
  | case3 octets c text hsize ih =>
      rw [cutAtOctet?, if_pos hsize] at h
      obtain ⟨later, hlater, rfl⟩ := Option.map_eq_some_iff.mp h
      rw [utf8ByteSize_ofList_cons, ih hlater]
      omega
  | case4 octets c text hsize =>
      rw [cutAtOctet?, if_neg hsize] at h
      simp at h

/-- A text is cut behind a part that takes as many octets as are asked for. -/
lemma cutAtOctet?_append (word rest : List Char) :
    cutAtOctet? (String.ofList word).utf8ByteSize (word ++ rest) = some (word, rest) := by
  induction word with
  | nil => simp [cutAtOctet?]
  | cons c word ih =>
      have hpos := c.utf8Size_pos
      obtain ⟨octets, hoctets⟩ : ∃ octets,
          c.utf8Size + (String.ofList word).utf8ByteSize = octets + 1 :=
        ⟨c.utf8Size + (String.ofList word).utf8ByteSize - 1, by omega⟩
      have hrest : octets + 1 - c.utf8Size = (String.ofList word).utf8ByteSize := by omega
      rw [utf8ByteSize_ofList_cons, hoctets, List.cons_append, cutAtOctet?, if_pos (by omega),
        hrest, ih]
      rfl

/-- **A cut after so many octets** splits the text in two, the first of which takes them. -/
theorem cutAtOctet?_eq_some_iff {octets : ℕ} {text word rest : List Char} :
    cutAtOctet? octets text = some (word, rest)
      ↔ text = word ++ rest ∧ (String.ofList word).utf8ByteSize = octets := by
  constructor
  · intro h
    exact ⟨append_of_cutAtOctet? h, utf8ByteSize_of_cutAtOctet? h⟩
  · rintro ⟨rfl, rfl⟩
    exact cutAtOctet?_append word rest

/-- A text can be cut after so many octets iff that is a boundary between its characters. -/
lemma isSome_cutAtOctet?_iff (octets : ℕ) (text : String) :
    (cutAtOctet? octets text.toList).isSome ↔ (⟨octets⟩ : String.Pos.Raw).IsValid text := by
  rw [String.Pos.Raw.isValid_iff_exists_append, Option.isSome_iff_exists]
  constructor
  · rintro ⟨⟨word, rest⟩, hcut⟩
    obtain ⟨htext, hsize⟩ := cutAtOctet?_eq_some_iff.mp hcut
    refine ⟨String.ofList word, String.ofList rest, ?_, ?_⟩
    · rw [← String.ofList_append, ← htext, String.ofList_toList]
    · rw [String.Pos.Raw.ext_iff, String.byteIdx_rawEndPos, hsize]
  · rintro ⟨word, rest, rfl, hend⟩
    refine ⟨(word.toList, rest.toList), cutAtOctet?_eq_some_iff.mpr ⟨String.toList_append, ?_⟩⟩
    rw [String.ofList_toList]
    exact (congrArg String.Pos.Raw.byteIdx hend).symm

/-! ## Spelling the word -/

/-- A character that is the given small letter, or the capital letter to it. -/
def IsInEitherCase (c letter : Char) : Prop :=
  c = letter ∨ c = letter.toUpper

instance (c letter : Char) : Decidable (IsInEitherCase c letter) :=
  inferInstanceAs (Decidable (_ ∨ _))

/-- Characters that spell the word for a region, letter by letter, in any mixture of cases. -/
def SpellsRegion (word : List Char) : Prop :=
  List.Forall₂ IsInEitherCase word regionWord

instance (word : List Char) : Decidable (SpellsRegion word) :=
  inferInstanceAs (Decidable (List.Forall₂ _ _ _))

lemma isLower_iff {c : Char} : c.isLower ↔ 97 ≤ c.toNat ∧ c.toNat ≤ 122 := by
  have hlower : c.isLower = (decide (97 ≤ c.toNat) && decide (c.toNat ≤ 122)) := rfl
  rw [hlower, Bool.and_eq_true, decide_eq_true_eq, decide_eq_true_eq]

lemma toNat_toLower (c : Char) :
    c.toLower.toNat = if 65 ≤ c.toNat ∧ c.toNat ≤ 90 then c.toNat + 32 else c.toNat := by
  by_cases h : 65 ≤ c.toNat ∧ c.toNat ≤ 90
  · have hlower : c.toLower = ⟨c.val + ('a'.val - 'A'.val), _⟩ := dif_pos h
    have hshift : ('a'.val - 'A'.val).toNat = 32 := rfl
    rw [if_pos h, hlower, ← Char.toNat_val, UInt32.toNat_add, Char.toNat_val, hshift]
    omega
  · have hsame : c.toLower = c := dif_neg h
    rw [if_neg h, hsame]

lemma toNat_toUpper (c : Char) :
    c.toUpper.toNat = if 97 ≤ c.toNat ∧ c.toNat ≤ 122 then c.toNat - 32 else c.toNat := by
  by_cases h : 97 ≤ c.toNat ∧ c.toNat ≤ 122
  · have hupper : c.toUpper = ⟨c.val + ('A'.val - 'a'.val), _⟩ := dif_pos h
    have hshift : ('A'.val - 'a'.val).toNat = 0x100000000 - 32 := rfl
    rw [if_pos h, hupper, ← Char.toNat_val, UInt32.toNat_add, Char.toNat_val, hshift]
    omega
  · have hsame : c.toUpper = c := dif_neg h
    rw [if_neg h, hsame]

/-- Only a letter in either case becomes a given small letter. -/
lemma toLower_eq_iff {c letter : Char} (hletter : letter.isLower) :
    c.toLower = letter ↔ IsInEitherCase c letter := by
  rw [isLower_iff] at hletter
  simp only [IsInEitherCase, ← Char.toNat_inj, toNat_toLower, toNat_toUpper, if_pos hletter]
  split <;> omega

/-- Letters in either case take one octet. -/
lemma IsInEitherCase.utf8Size_eq {c letter : Char} (h : IsInEitherCase c letter)
    (hletter : letter.isLower) : c.utf8Size = 1 := by
  rw [isLower_iff] at hletter
  have hc : c.toNat ≤ 127 := by
    rcases h with rfl | rfl
    · omega
    · rw [toNat_toUpper, if_pos hletter]
      omega
  rw [Char.utf8Size_eq_one_iff, UInt32.le_iff_toNat_le]
  exact hc

/-- Small letters are spelled by the characters that give them when capital letters are made
small. -/
lemma map_toLower_eq_iff {word letters : List Char}
    (hletters : ∀ letter ∈ letters, letter.isLower) :
    word.map Char.toLower = letters ↔ List.Forall₂ IsInEitherCase word letters := by
  induction letters generalizing word with
  | nil => rw [List.map_eq_nil_iff, List.forall₂_nil_right_iff]
  | cons letter letters ih =>
      obtain ⟨hletter, hletters⟩ := List.forall_mem_cons.mp hletters
      cases word with
      | nil => simp
      | cons c word =>
          rw [List.map_cons, List.cons.injEq, List.forall₂_cons, toLower_eq_iff hletter,
            ih hletters]

/-- Letters take as many octets as there are of them, however they are spelled. -/
lemma utf8ByteSize_of_spelled {word letters : List Char}
    (hletters : ∀ letter ∈ letters, letter.isLower)
    (h : List.Forall₂ IsInEitherCase word letters) :
    (String.ofList word).utf8ByteSize = letters.length := by
  induction h with
  | nil => rfl
  | cons hc _ ih =>
      obtain ⟨hletter, hletters⟩ := List.forall_mem_cons.mp hletters
      rw [utf8ByteSize_ofList_cons, hc.utf8Size_eq hletter, ih hletters, List.length_cons,
        Nat.add_comm]

lemma isLower_of_mem_regionWord : ∀ letter ∈ regionWord, letter.isLower := by
  simp [regionWord]

/-! ## Requests -/

/-- **Which lines ask for a region**: those that begin with the word, and what is left of the rest
without the blanks around it is the label. -/
theorem Request.ofInput_eq_region_iff {input label : String} :
    Request.ofInput input = .region label
      ↔ ∃ word rest, input.toList = word ++ rest ∧ SpellsRegion word
        ∧ Text.IsTrimmed rest label.toList := by
  have hspells : ∀ word, word.map Char.toLower = regionWord ↔ SpellsRegion word := fun _ =>
    map_toLower_eq_iff isLower_of_mem_regionWord
  unfold ofInput
  constructor
  · intro h
    split at h
    · rename_i word rest hcut
      split_ifs at h with hword
      rw [← Request.region.inj h, String.toList_ofList]
      exact ⟨word, rest, append_of_cutAtOctet? hcut, (hspells word).mp hword,
        Text.isTrimmed_iff.mpr rfl⟩
    · exact absurd h (by simp)
  · rintro ⟨word, rest, hinput, hword, hlabel⟩
    have hcut : cutAtOctet? regionWord.length input.toList = some (word, rest) :=
      cutAtOctet?_eq_some_iff.mpr
        ⟨hinput, utf8ByteSize_of_spelled isLower_of_mem_regionWord hword⟩
    rw [hcut]
    simp only [(hspells word).mpr hword, if_true, Text.isTrimmed_iff.mp hlabel,
      String.ofList_toList]

/-- Where the word stands, it is the first six characters. -/
lemma SpellsRegion.exists_append_iff {text : List Char} {P : List Char → Prop} :
    (∃ word rest, text = word ++ rest ∧ SpellsRegion word ∧ P rest)
      ↔ SpellsRegion (text.take 6) ∧ P (text.drop 6) := by
  constructor
  · rintro ⟨word, rest, rfl, hword, hrest⟩
    have hlength : word.length = 6 := hword.length_eq
    rw [← hlength, List.take_left, List.drop_left]
    exact ⟨hword, hrest⟩
  · rintro ⟨hword, hrest⟩
    exact ⟨_, _, (List.take_append_drop 6 text).symm, hword, hrest⟩

/-- Where the word stands, the cut is right behind it. -/
lemma SpellsRegion.cutAtOctet?_eq {text : List Char} (h : SpellsRegion (text.take 6)) :
    cutAtOctet? 6 text = some (text.take 6, text.drop 6) :=
  cutAtOctet?_eq_some_iff.mpr ⟨(List.take_append_drop 6 text).symm,
    utf8ByteSize_of_spelled isLower_of_mem_regionWord h⟩

/-- A line that does not ask for a region is the label of a header, as it stands. -/
lemma Request.ofInput_eq_header_iff {input : String} :
    Request.ofInput input = .header input ↔ ∀ label, Request.ofInput input ≠ .region label := by
  constructor
  · intro h label hlabel
    exact Request.noConfusion (h.symm.trans hlabel)
  · intro h
    unfold ofInput at h ⊢
    split
    · rename_i word rest hcut
      split_ifs with hword
      · rw [hcut] at h
        exact absurd (if_pos hword) (h _)
      · rfl
    · rfl

/-- Blanks around a label behind the word make no difference to the region that is asked for. -/
lemma Request.ofInput_spelled {spelled before after : String}
    (hspelled : SpellsRegion spelled.toList)
    (hbefore : ∀ c ∈ before.toList, Text.isBlank c) (hafter : ∀ c ∈ after.toList, Text.isBlank c)
    (label : String) :
    Request.ofInput (spelled ++ before ++ label ++ after)
      = .region (String.ofList (Text.trim label.toList)) := by
  refine ofInput_eq_region_iff.mpr
    ⟨spelled.toList, before.toList ++ label.toList ++ after.toList, ?_, hspelled, ?_⟩
  · simp only [String.toList_append, List.append_assoc]
  · rw [String.toList_ofList, Text.isTrimmed_iff, Text.trim_append hbefore hafter]

/-- **A request is read off the characters of a line**, although the line is cut by octets.  It
asks for a region iff its first six characters spell the word, and then the cut falls on a boundary,
right behind them.  So the word in any spelling, with blanks around the label behind it, gives the
region of that label. -/
theorem request_of_characters (styles : Styles) :
    (∀ input : String,
      let word := input.toList.take 6
      let rest := input.toList.drop 6
      (∀ label, Request.ofInput input = .region label
          ↔ SpellsRegion word ∧ Text.IsTrimmed rest label.toList)
        ∧ (∃! core, Text.IsTrimmed rest core)
        ∧ (Request.ofInput input = .header input ↔ ¬ SpellsRegion word)
        ∧ (SpellsRegion word → (⟨6⟩ : String.Pos.Raw).IsValid input
          ∧ cutAtOctet? 6 input.toList = some (word, rest)))
      ∧ ∀ spelled before label after : String, SpellsRegion spelled.toList →
        (∀ c ∈ before.toList, Text.isBlank c) → (∀ c ∈ after.toList, Text.isBlank c) →
        (styles.render (spelled ++ before ++ label ++ after)).value
          = (styles.region.lines (String.ofList (Text.trim label.toList))).value.toList := by
  constructor
  · intro input word rest
    have hregion : ∀ label, Request.ofInput input = .region label
        ↔ SpellsRegion word ∧ Text.IsTrimmed rest label.toList := fun label =>
      Request.ofInput_eq_region_iff.trans SpellsRegion.exists_append_iff
    refine ⟨hregion, ?_, ?_, fun hword => ⟨?_, hword.cutAtOctet?_eq⟩⟩
    · exact ⟨Text.trim rest, Text.isTrimmed_iff.mpr rfl, fun core hcore =>
        (Text.isTrimmed_iff.mp hcore).symm⟩
    · rw [Request.ofInput_eq_header_iff]
      constructor
      · intro hnone hword
        have htrimmed : Text.IsTrimmed rest (String.ofList (Text.trim rest)).toList := by
          rw [String.toList_ofList, Text.isTrimmed_iff]
        exact hnone _ ((hregion _).mpr ⟨hword, htrimmed⟩)
      · intro hword label hlabel
        exact hword ((hregion label).mp hlabel).1
    · rw [← isSome_cutAtOctet?_iff, hword.cutAtOctet?_eq, Option.isSome_some]
  · intro spelled before label after hspelled hbefore hafter
    rw [Styles.render_eq, Request.ofInput_spelled hspelled hbefore hafter]
    rfl

/-- An ideographic space is a blank like any other, capital letters spell the word as well, and
where the cut falls inside a character the line is the label of a header. -/
theorem request_of_characters_of_wide_blanks :
    SpellsRegion ("ReGIon\u3000a b\u2003".toList.take 6)
      ∧ (⟨6⟩ : String.Pos.Raw).IsValid "ReGIon\u3000a b\u2003"
      ∧ SpellsRegion "ReGIon".toList
      ∧ (∀ c ∈ "\u3000".toList, Text.isBlank c) ∧ (∀ c ∈ "\u2003".toList, Text.isBlank c)
      ∧ (({} : Styles).render ("ReGIon" ++ "\u3000" ++ " a b\t" ++ "\u2003")).value
        = (({} : RegionStyle).lines "a b").value.toList
      ∧ ¬ SpellsRegion ("regioñ x".toList.take 6)
      ∧ Request.ofInput "regioñ x" = .header "regioñ x" := by
  obtain ⟨hinput, hrender⟩ := request_of_characters {}
  have hword : SpellsRegion ("ReGIon\u3000a b\u2003".toList.take 6) := by decide
  have hspelled : SpellsRegion "ReGIon".toList := by decide
  have hbefore : ∀ c ∈ "\u3000".toList, Text.isBlank c := by
    simp [Text.isBlank, Text.inRanges, Text.blankRanges]
  have hafter : ∀ c ∈ "\u2003".toList, Text.isBlank c := by
    simp [Text.isBlank, Text.inRanges, Text.blankRanges]
  have hother : ¬ SpellsRegion ("regioñ x".toList.take 6) := by decide
  exact ⟨hword, ((hinput _).2.2.2 hword).1, hspelled, hbefore, hafter,
    hrender "ReGIon" "\u3000" " a b\t" "\u2003" hspelled hbefore hafter, hother,
    (hinput _).2.2.1.mpr hother⟩

end CommentSeparator
