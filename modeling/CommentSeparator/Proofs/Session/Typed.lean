import CommentSeparator.Proofs.Session.Record

/-!
# Sessions over typed lines

A typed line is a label and the end that was typed behind it.  A label on one line that does not end
with a carriage return comes back from it whichever end it has (`IsTyped.label?_eq`), and the lines
of an input that was typed are the lines that were typed (`inputLines_typed`).

**What a session over them writes** depends on the labels alone.  If it runs to the end of its
input, each label is rendered, in order (`octets_of_endOfInput`); a session with the cap 1 renders
the one label and stops (`run_single`).  Without a cap or a quit word a session always runs to the
end of its input, unless the input is no text (`run_to_end_iff`).
-/

namespace CommentSeparator.Session

open Text (encode decode?)

/-! ## Typed lines -/

/-- A label with an end behind it, neither of which can be taken for a part of the other. -/
structure IsTyped (label ending : String) : Prop where
  oneLine : IsOneLine label
  noReturn : label.toList.getLast? ≠ some '\r'
  ended : ending = "\n" ∨ ending = "\r\n"

/-- The input with typed lines, each a label and its end. -/
def typedInput (typed : List (String × String)) : List UInt8 :=
  typed.flatMap fun line => encode (line.1 ++ line.2)

namespace IsTyped

variable {label ending : String}

lemma label?_eq (h : IsTyped label ending) : label? (encode (label ++ ending)) = some label := by
  rw [label?_eq_some_iff]
  rcases h.ended with rfl | rfl
  · exact Or.inr (Or.inl ⟨rfl, h.noReturn⟩)
  · exact Or.inl rfl

/-- The line feed of a typed line is its last octet. -/
lemma exists_body (h : IsTyped label ending) :
    ∃ body, 10 ∉ body ∧ encode (label ++ ending) = body ++ [10] := by
  have hlabel : 10 ∉ encode label := lineFeed_notMem_encode_iff.mpr h.oneLine
  rcases h.ended with rfl | rfl
  · exact ⟨encode label, hlabel, Text.encode_append _ _⟩
  · refine ⟨encode label ++ [13], ?_, ?_⟩
    · rw [List.mem_append, not_or]
      exact ⟨hlabel, by decide⟩
    · rw [Text.encode_append, List.append_assoc]
      rfl

end IsTyped

/-- The lines of an input are the lines that were typed. -/
lemma inputLines_typed {typed : List (String × String)}
    (h : ∀ line ∈ typed, IsTyped line.1 line.2) :
    inputLines (typedInput typed) = typed.map fun line => encode (line.1 ++ line.2) := by
  induction typed with
  | nil => rfl
  | cons line typed ih =>
      obtain ⟨hline, htyped⟩ := List.forall_mem_cons.mp h
      obtain ⟨body, hbody, hencode⟩ := hline.exists_body
      rw [typedInput, List.flatMap_cons, ← typedInput, hencode, List.append_assoc,
        List.singleton_append, inputLines_append_lineFeed hbody, ih htyped, List.map_cons, hencode]

/-- What is rendered for typed lines is what is rendered for their labels. -/
lemma renderings_typed (styles : Styles) {typed : List (String × String)}
    (h : ∀ line ∈ typed, IsTyped line.1 line.2) :
    renderings styles (typedInput typed) typed.length
      = typed.map fun line => (styles.render line.1).value := by
  have hlength : typed.length = (typed.map fun line => encode (line.1 ++ line.2)).length := by
    rw [List.length_map]
  rw [renderings, inputLines_typed h, hlength, List.take_length, List.map_map]
  refine List.map_congr_left fun line hline => ?_
  simp only [Function.comp_apply, (h line hline).label?_eq, Option.getD_some]

/-! ## To the end of the input -/

/-- A session that runs to the end of its input has rendered every line of it. -/
lemma rendered_of_endOfInput (styles : Styles) {policy : SessionPolicy} {input : List UInt8}
    {rendered : ℕ}
    (h : (run styles policy {} input).value.result = .ok ⟨rendered, .endOfInput⟩) :
    rendered = (inputLines input).length := by
  obtain ⟨k, ending, hstops⟩ := exists_stopsAt policy 0 (inputLines input)
  rw [run_unlimited styles hstops] at h
  cases ending with
  | endOfInput =>
      obtain rfl : k = rendered := congrArg Summary.rendered (Except.ok.inj h)
      rcases ending?_eq_some hstops.ending with ⟨-, hne⟩ | ⟨-, hnone, -⟩ | ⟨-, -, -, -, hne⟩ |
        ⟨-, -, -, -, -, -, hne⟩
      · exact Ending.noConfusion hne
      · exact Nat.le_antisymm hstops.le_length (List.getElem?_eq_none_iff.mp hnone)
      · exact Ending.noConfusion hne
      · exact Ending.noConfusion hne
  | countReached => simp [Ending.result] at h
  | notText => simp [Ending.result] at h
  | quitWord => simp [Ending.result] at h

/-- **A session over typed lines that runs to the end** prompts for each of them and renders its
label, and prompts once more. -/
theorem octets_of_endOfInput (styles : Styles) {policy : SessionPolicy}
    {typed : List (String × String)} (htyped : ∀ line ∈ typed, IsTyped line.1 line.2) {rendered : ℕ}
    (h : (run styles policy {} (typedInput typed)).value.result = .ok ⟨rendered, .endOfInput⟩) :
    (run styles policy {} (typedInput typed)).value.progress.sink.octets
      = typed.flatMap (fun line =>
          encode prompt ++ Sink.blockOctets (styles.render line.1).value)
        ++ (encode prompt ++ encode "\n") := by
  have hrendered : rendered = typed.length := by
    rw [rendered_of_endOfInput styles h, inputLines_typed htyped, List.length_map]
  obtain ⟨hoctets, -⟩ := octets_of_ok styles h
  rw [hoctets, hrendered, renderings_typed styles htyped, outputOf, List.flatMap_map, endOctets]

/-- A session that may render one label renders the first, and stops. -/
lemma run_single (styles : Styles) {label ending : String} (h : IsTyped label ending) :
    (run styles ⟨none, some 1⟩ {} (encode (label ++ ending))).value.result = .ok ⟨1, .countReached⟩
      ∧ (run styles ⟨none, some 1⟩ {} (encode (label ++ ending))).value.progress.sink.octets
        = encode prompt ++ Sink.blockOctets (styles.render label).value := by
  have htyped : ∀ line ∈ [(label, ending)], IsTyped line.1 line.2 := by simpa using h
  have hinput : encode (label ++ ending) = typedInput [(label, ending)] := by
    simp [typedInput]
  have hlines := inputLines_typed htyped
  have hstops : StopsAt ⟨none, some 1⟩ 0 (inputLines (typedInput [(label, ending)])) 1
      .countReached := by
    rw [hlines]
    refine StopsAt.cons_succ_iff.mpr ⟨?_, StopsAt.zero_iff.mpr rfl⟩
    exact ending?_eq_none_iff.mpr ⟨rfl, _, label, rfl, h.label?_eq, by simp⟩
  have hresult : (run styles ⟨none, some 1⟩ {} (typedInput [(label, ending)])).value.result
      = .ok ⟨1, .countReached⟩ := by
    rw [run_unlimited styles hstops]
    rfl
  obtain ⟨hoctets, -⟩ := octets_of_ok styles hresult
  rw [hinput]
  refine ⟨hresult, ?_⟩
  have hrenderings := renderings_typed styles htyped
  rw [List.length_singleton] at hrenderings
  rw [hoctets, hrenderings]
  simp [outputOf, endOctets]

/-! ## Without a cap or a quit word -/

/-- Every line that is typed is rendered. -/
lemma stopsAt_typed {typed : List (String × String)}
    (h : ∀ line ∈ typed, IsTyped line.1 line.2) :
    StopsAt {} 0 (inputLines (typedInput typed)) typed.length .endOfInput := by
  rw [inputLines_typed h]
  constructor
  · rw [List.getElem?_eq_none (Nat.le_of_eq (List.length_map _))]
    rfl
  · intro i hi
    have hline : (typed.map fun line => encode (line.1 ++ line.2))[i]?
        = some (encode (typed[i].1 ++ typed[i].2)) := by
      rw [List.getElem?_map, List.getElem?_eq_getElem hi]
      rfl
    have hlabel := (h typed[i] (List.getElem_mem hi)).label?_eq
    exact ending?_eq_none_iff.mpr ⟨rfl, _, _, hline, hlabel, by simp⟩

/-- An input is text if every line of it is. -/
lemma isSome_decode?_iff {input : List UInt8} :
    (decode? input).isSome ↔ ∀ line ∈ inputLines input, ∃ label, label? line = some label := by
  constructor
  · intro h
    obtain ⟨text, htext⟩ := Option.isSome_iff_exists.mp h
    exact exists_label_of_decode? htext
  · intro h
    rw [← (isLines_inputLines input).flatten]
    generalize inputLines input = lines at h
    induction lines with
    | nil => rfl
    | cons line lines ih =>
        obtain ⟨⟨label, hlabel⟩, hlines⟩ := List.forall_mem_cons.mp h
        obtain ⟨text, htext, -⟩ := Option.map_eq_some_iff.mp hlabel
        obtain ⟨more, hmore⟩ := Option.isSome_iff_exists.mp (ih hlines)
        rw [List.flatten_cons, Text.decode?_eq_some_iff.mp htext, Text.decode?_eq_some_iff.mp hmore,
          ← Text.encode_append, Text.decode?_encode]
        rfl

/-- **A session without a cap or a quit word** runs to the end of its input iff that is text;
otherwise it is broken off by the first line that is not. -/
theorem run_to_end_iff (styles : Styles) (input : List UInt8) :
    (run styles {} {} input).value.result
      = if (decode? input).isSome then .ok ⟨(inputLines input).length, .endOfInput⟩
        else .error .lineNotText := by
  obtain ⟨k, ending, hstops⟩ := exists_stopsAt {} 0 (inputLines input)
  have hearlier : ∀ i < k, ∃ line label, (inputLines input)[i]? = some line
      ∧ label? line = some label := by
    intro i hi
    obtain ⟨-, line, label, hline, hlabel, -⟩ := ending?_eq_none_iff.mp (hstops.earlier i hi)
    exact ⟨line, label, hline, hlabel⟩
  rw [run_unlimited styles hstops]
  rcases ending?_eq_some hstops.ending with ⟨hreached, -⟩ | ⟨-, hnone, rfl⟩ |
    ⟨-, line, hline, hlabel, rfl⟩ | ⟨-, line, label, -, -, hquit, -⟩
  · exact absurd hreached (by simp [SessionPolicy.reached])
  · have hk : k = (inputLines input).length :=
      Nat.le_antisymm hstops.le_length (List.getElem?_eq_none_iff.mp hnone)
    have htext : (decode? input).isSome := by
      rw [isSome_decode?_iff]
      intro line hline
      obtain ⟨i, hi, rfl⟩ := List.getElem_of_mem hline
      obtain ⟨found, label, hget, hlabel⟩ := hearlier i (hk ▸ hi)
      rw [List.getElem?_eq_getElem hi] at hget
      exact ⟨label, Option.some.inj hget ▸ hlabel⟩
    rw [if_pos htext, ← hk]
    rfl
  · have hnot : ¬ (decode? input).isSome := by
      rw [isSome_decode?_iff]
      intro h
      obtain ⟨label, hsome⟩ := h line (List.mem_of_getElem? hline)
      rw [hlabel] at hsome
      exact absurd hsome (by simp)
    rw [if_neg hnot]
    rfl
  · exact absurd hquit (by simp)

end CommentSeparator.Session
