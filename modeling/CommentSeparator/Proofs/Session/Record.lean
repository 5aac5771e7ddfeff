import CommentSeparator.Proofs.Separator.Parts
import CommentSeparator.Proofs.Session.Reference

/-!
# What an output tells

The whole output of a session is one text, with prompts, blocks and a last line feed run together.
It can be taken apart again, and nobody has to know the labels for that, nor the styles.

**Cut at its line feeds**, an output is made of threes: what stands before a block, the line in the
block, and the empty line behind it.  Before the first block of a round stands the prompt, before
any other nothing.  What is left behind the last block tells how the session ended.
`Record.ofOctets?` reads an output in this way, and `ofOctets?_outputOf` says that it finds what was
written.

All this holds as long as no separator line has a line feed in it, which only the delimiters could
bring in: a label is cut off at its line feed (`isOneLine_of_label?`).  A label that reads like a
prompt does no harm, because it stands in another place.
-/

namespace CommentSeparator.Session

open Text (encode)

/-! ## Reading an output -/

/-- What an output tells: the lines in the blocks before the first prompt, those behind each prompt
that was answered with blocks, and how the session ended. -/
structure Record where
  loose : List (List UInt8) := []
  groups : List (List (List UInt8)) := []
  stop : Stop
  deriving DecidableEq, Repr

namespace Record

/-- A block in front, behind a prompt or behind another block. -/
def addBlock (lead line : List UInt8) (record : Record) : Record :=
  if lead = encode prompt then
    { record with loose := [], groups := (line :: record.loose) :: record.groups }
  else { record with loose := line :: record.loose }

/-- Reads what stands between the line feeds of an output. -/
def ofPieces? : List (List UInt8) → Option Record
  | [] => none
  | [last] =>
    if last = [] then some { stop := .countReached }
    else if last = encode prompt then some { stop := .quitWord }
    else none
  | [last, _] => if last = encode prompt then some { stop := .endOfInput } else none
  | lead :: line :: _ :: rest => (ofPieces? rest).map (addBlock lead line)

/-- Reads an output. -/
def ofOctets? (octets : List UInt8) : Option Record :=
  ofPieces? (octets.splitOn 10)

end Record

/-! ## Texts on one line -/

lemma mem_lineFeed_encode_iff {text : String} : 10 ∈ encode text ↔ '\n' ∈ text.toList := by
  obtain ⟨chars, rfl⟩ : ∃ chars, text = String.ofList chars := ⟨text.toList, by simp⟩
  rw [String.toList_ofList]
  induction chars with
  | nil => simp
  | cons c chars ih =>
      rw [encode_ofList_cons, List.mem_append, ih, List.mem_cons]
      refine or_congr ⟨fun h => (eq_lineFeed_of_mem h).symm, ?_⟩ Iff.rfl
      rintro rfl
      decide

lemma lineFeed_notMem_encode_iff {text : String} : 10 ∉ encode text ↔ IsOneLine text :=
  not_congr mem_lineFeed_encode_iff

/-- A line feed before the last character is a line feed before the last octet. -/
lemma mem_dropLast_encode {text : String} (h : '\n' ∈ text.toList.dropLast) :
    10 ∈ (encode text).dropLast := by
  have hne : text.toList ≠ [] := by
    intro hnil
    simp [hnil] at h
  have htext : text
      = String.ofList text.toList.dropLast ++ String.ofList [text.toList.getLast hne] := by
    rw [← String.ofList_append, List.dropLast_concat_getLast, String.ofList_toList]
  rw [htext, Text.encode_append, encode_singleton,
    List.dropLast_append_of_ne_nil String.utf8EncodeChar_ne_nil]
  refine List.mem_append_left _ (mem_lineFeed_encode_iff.mpr ?_)
  rwa [String.toList_ofList]

/-- **A label has no line feed.**  It was read from a line, and the line feed of a line stands at
its end. -/
lemma isOneLine_of_label? {line : List UInt8} (hline : 10 ∉ line.dropLast) {label : String}
    (h : label? line = some label) : IsOneLine label := by
  obtain ⟨text, htext, rfl⟩ := Option.map_eq_some_iff.mp h
  obtain rfl := Text.decode?_eq_some_iff.mp htext
  have hinner : '\n' ∉ text.toList.dropLast := fun hmem => hline (mem_dropLast_encode hmem)
  rw [IsOneLine, String.toList_ofList]
  rcases stripEnd_cases text.toList with hcase | ⟨hcase, -⟩ | ⟨hcase, hlast⟩
  · rw [hcase, show ['\r', '\n'] = ['\r'] ++ ['\n'] from rfl, ← List.append_assoc,
      List.dropLast_concat] at hinner
    exact fun hmem => hinner (List.mem_append_left _ hmem)
  · rwa [hcase, List.dropLast_concat] at hinner
  · rw [← hcase]
    intro hmem
    have hne := List.ne_nil_of_mem hmem
    rw [← List.dropLast_concat_getLast hne, List.mem_append, List.mem_singleton] at hmem
    rcases hmem with hmem | hmem
    · exact hinner hmem
    · exact hlast (by rw [List.getLast?_eq_some_getLast hne, ← hmem])

/-! ## Reading what was written -/

/-- A block is a third of its own, with what stands in front of it. -/
lemma splitOn_block {lead : List UInt8} (hlead : 10 ∉ lead) {line : String} (hline : IsOneLine line)
    (rest : List UInt8) :
    (lead ++ (encode (Sink.block line) ++ rest)).splitOn 10
      = lead :: encode line :: [] :: rest.splitOn 10 := by
  have hfeed : 10 ∉ encode line := lineFeed_notMem_encode_iff.mpr hline
  have hblock : encode (Sink.block line) ++ rest
      = 10 :: (encode line ++ 10 :: ([] ++ 10 :: rest)) := by
    simp only [Sink.block, Text.encode_append, show encode "\n" = [10] from rfl,
      show encode "\n\n" = [10, 10] from rfl, List.append_assoc]
    rfl
  rw [hblock, List.splitOn_append_cons_self_of_not_mem hlead,
    List.splitOn_append_cons_self_of_not_mem hfeed,
    List.splitOn_append_cons_self_of_not_mem List.not_mem_nil]

lemma lineFeed_notMem_prompt : 10 ∉ encode prompt := by
  rw [mem_lineFeed_encode_iff]
  decide

namespace Record

lemma ofOctets?_block {lead : List UInt8} (hlead : 10 ∉ lead) {line : String}
    (hline : IsOneLine line) (rest : List UInt8) :
    ofOctets? (lead ++ (encode (Sink.block line) ++ rest))
      = (ofOctets? rest).map (addBlock lead (encode line)) := by
  rw [ofOctets?, splitOn_block hlead hline]
  -- there is always a piece behind a line feed, so the three are a block
  cases hrest : rest.splitOn 10 with
  | nil => exact absurd hrest (List.splitOn_ne_nil 10 rest)
  | cons piece pieces => rw [ofPieces?, ofOctets?, hrest]

/-- Blocks without a prompt belong to the prompt before them. -/
lemma ofOctets?_blocks {lines : List String} (hlines : ∀ line ∈ lines, IsOneLine line)
    (rest : List UInt8) :
    ofOctets? (Sink.blockOctets lines ++ rest)
      = (ofOctets? rest).map fun record =>
        { record with loose := lines.map encode ++ record.loose } := by
  induction lines with
  | nil =>
      rw [Sink.blockOctets, List.flatMap_nil, List.nil_append]
      cases ofOctets? rest <;> rfl
  | cons line lines ih =>
      obtain ⟨hline, hlines⟩ := List.forall_mem_cons.mp hlines
      have hblock := ofOctets?_block List.not_mem_nil hline (Sink.blockOctets lines ++ rest)
      rw [Sink.blockOctets, List.flatMap_cons, ← Sink.blockOctets, List.append_assoc]
      rw [List.nil_append] at hblock
      rw [hblock, ih hlines, Option.map_map]
      rfl

/-- A prompt that was answered begins a group. -/
lemma ofOctets?_round {lines : List String} (hne : lines ≠ [])
    (hlines : ∀ line ∈ lines, IsOneLine line) (rest : List UInt8) :
    ofOctets? (encode prompt ++ (Sink.blockOctets lines ++ rest))
      = (ofOctets? rest).map fun record =>
        { record with
          loose := []
          groups := (lines.map encode ++ record.loose) :: record.groups } := by
  obtain ⟨line, lines, rfl⟩ := List.exists_cons_of_ne_nil hne
  obtain ⟨hline, hlines⟩ := List.forall_mem_cons.mp hlines
  have hblock := ofOctets?_block lineFeed_notMem_prompt hline (Sink.blockOctets lines ++ rest)
  rw [Sink.blockOctets, List.flatMap_cons, ← Sink.blockOctets, List.append_assoc, hblock,
    ofOctets?_blocks hlines, Option.map_map]
  rfl

end Record

/-- What a session writes at its end. -/
def endOctets : Stop → List UInt8
  | .endOfInput => encode prompt ++ encode "\n"
  | .quitWord => encode prompt
  | .countReached => []

lemma Record.ofOctets?_endOctets (stop : Stop) : ofOctets? (endOctets stop) = some { stop } := by
  cases stop with
  | countReached => rfl
  | quitWord =>
      rw [endOctets, ofOctets?, List.splitOn_eq_singleton lineFeed_notMem_prompt]
      rfl
  | endOfInput =>
      have hsplit : (encode prompt ++ encode "\n").splitOn 10 = [encode prompt, []] :=
        List.splitOn_append_cons_self_of_not_mem lineFeed_notMem_prompt []
      rw [endOctets, ofOctets?, hsplit]
      rfl

/-- The whole output of a session that has rendered groups of lines. -/
def outputOf (groups : List (List String)) (stop : Stop) : List UInt8 :=
  groups.flatMap (fun lines => encode prompt ++ Sink.blockOctets lines) ++ endOctets stop

/-- **An output is read as what was written.** -/
theorem Record.ofOctets?_outputOf {groups : List (List String)}
    (hgroups : ∀ lines ∈ groups, lines ≠ [] ∧ ∀ line ∈ lines, IsOneLine line) (stop : Stop) :
    ofOctets? (outputOf groups stop)
      = some { groups := groups.map (·.map encode), stop } := by
  induction groups with
  | nil => exact ofOctets?_endOctets stop
  | cons lines groups ih =>
      obtain ⟨⟨hne, hlines⟩, hgroups⟩ := List.forall_mem_cons.mp hgroups
      have hround := ofOctets?_round hne hlines (outputOf groups stop)
      rw [outputOf, List.flatMap_cons, List.append_assoc, List.append_assoc, ← outputOf, hround,
        ih hgroups]
      simp

/-! ## Sessions -/

/-- The lines that a session renders for the first so many lines of its input, label by label. -/
def renderings (styles : Styles) (input : List UInt8) (count : ℕ) : List (List String) :=
  ((inputLines input).take count).map fun line => (styles.render ((label? line).getD "")).value

lemma render_ne_nil (styles : Styles) (input : String) : (styles.render input).value ≠ [] := by
  rw [Styles.render_eq]
  cases Request.ofInput input with
  | header label => simp [Styles.renderRequest_header]
  | region label => simp [Styles.renderRequest_region, RegionPair.toList]

/-- What a session renders is on lines of its own. -/
lemma isOneLine_of_mem_renderings {styles : Styles} (h : styles.KeepLines) {input : List UInt8}
    {count : ℕ} {lines : List String} (hmem : lines ∈ renderings styles input count) :
    lines ≠ [] ∧ ∀ line ∈ lines, IsOneLine line := by
  obtain ⟨line, hline, rfl⟩ := List.mem_map.mp hmem
  refine ⟨render_ne_nil styles _, h.isOneLine_of_render ?_⟩
  have hinner := (isLines_inputLines input).inner line (List.mem_of_mem_take hline)
  cases hlabel : label? line with
  | none => exact List.not_mem_nil
  | some label => exact isOneLine_of_label? hinner hlabel

lemma written_rounds (styles : Styles) (input : List UInt8) (count : ℕ) :
    written (((inputLines input).take count).flatMap (round styles))
      = (renderings styles input count).flatMap
        (fun lines => encode prompt ++ Sink.blockOctets lines) := by
  rw [renderings, List.flatMap_map, written, List.flatMap_assoc]
  refine congrArg (List.flatMap · _) (funext fun line => ?_)
  simp [round, Deed.octets, Piece.octets]

/-- **The output of a session that succeeds** is its rounds and its end. -/
theorem octets_of_ok (styles : Styles) {policy : SessionPolicy} {input : List UInt8}
    {summary : Summary} (h : (run styles policy {} input).value.result = .ok summary) :
    (run styles policy {} input).value.progress.sink.octets
        = outputOf (renderings styles input summary.rendered) summary.stop
      ∧ summary.rendered ≤ (inputLines input).length := by
  obtain ⟨k, ending, hstops⟩ := exists_stopsAt policy 0 (inputLines input)
  have hrun := run_unlimited styles hstops
  rw [hrun] at h ⊢
  have hlast : ∃ stop, summary = ⟨k, stop⟩
      ∧ written (ending.deeds (inputLines input)[k]?) = endOctets stop := by
    cases ending with
    | notText => simp [Ending.result] at h
    | countReached => exact ⟨.countReached, (Except.ok.inj h).symm, rfl⟩
    | endOfInput => exact ⟨.endOfInput, (Except.ok.inj h).symm, rfl⟩
    | quitWord =>
        refine ⟨.quitWord, (Except.ok.inj h).symm, ?_⟩
        cases (inputLines input)[k]? <;> simp [Ending.deeds, Ending.lastRead, written, Deed.octets,
          Piece.octets, endOctets]
  obtain ⟨stop, rfl, hlast⟩ := hlast
  refine ⟨?_, hstops.le_length⟩
  rw [Progress.octets_after, course, written_append, written_rounds, hlast, outputOf]
  rfl

/-- The output of a session that succeeds is read as what the session has rendered. -/
lemma record_of_ok {styles : Styles} (h : styles.KeepLines) {policy : SessionPolicy}
    {input : List UInt8} {summary : Summary}
    (hok : (run styles policy {} input).value.result = .ok summary) :
    Record.ofOctets? (run styles policy {} input).value.progress.sink.octets
        = some
          { groups := (renderings styles input summary.rendered).map (·.map encode)
            stop := summary.stop }
      ∧ (renderings styles input summary.rendered).length = summary.rendered := by
  obtain ⟨hoctets, hle⟩ := octets_of_ok styles hok
  constructor
  · rw [hoctets, Record.ofOctets?_outputOf fun lines => isOneLine_of_mem_renderings h]
  · rw [renderings, List.length_map, List.length_take, Nat.min_eq_left hle]

/-- **The output of a session is unambiguous.**  If no delimiter has a line feed in it, the output
of every session that succeeds can be read back: the lines of every label that was rendered, label
by label, and how the session ended.  So two sessions with the same output have the same summary and
have rendered the same lines, whatever they were given to read, and however they were to end. -/
theorem output_determines_session {styles : Styles} (h : styles.KeepLines) :
    (∀ policy input summary, (run styles policy {} input).value.result = .ok summary →
        Record.ofOctets? (run styles policy {} input).value.progress.sink.octets
            = some
              { groups := (renderings styles input summary.rendered).map (·.map encode)
                stop := summary.stop }
          ∧ (renderings styles input summary.rendered).length = summary.rendered)
      ∧ ∀ policy₁ input₁ summary₁ policy₂ input₂ summary₂,
          (run styles policy₁ {} input₁).value.result = .ok summary₁ →
          (run styles policy₂ {} input₂).value.result = .ok summary₂ →
          (run styles policy₁ {} input₁).value.progress.sink.octets
            = (run styles policy₂ {} input₂).value.progress.sink.octets →
          summary₁ = summary₂
            ∧ renderings styles input₁ summary₁.rendered
              = renderings styles input₂ summary₂.rendered := by
  refine ⟨fun policy input summary hok => record_of_ok h hok, ?_⟩
  intro policy₁ input₁ summary₁ policy₂ input₂ summary₂ hok₁ hok₂ hsame
  obtain ⟨hrecord₁, hlength₁⟩ := record_of_ok h hok₁
  obtain ⟨hrecord₂, hlength₂⟩ := record_of_ok h hok₂
  have hrecord := Option.some.inj (hrecord₁.symm.trans (hsame ▸ hrecord₂))
  simp only [Record.mk.injEq, true_and] at hrecord
  obtain ⟨hgroups, hstop⟩ := hrecord
  have hencode : ∀ lines lines' : List String, lines.map encode = lines'.map encode →
      lines = lines' := fun _ _ => (List.map_inj_right fun _ _ => Text.encode_inj).mp
  have hrenderings := (List.map_inj_right hencode).mp hgroups
  have hcount : summary₁.rendered = summary₂.rendered := by
    rw [← hlength₁, ← hlength₂, hrenderings]
  refine ⟨?_, hrenderings⟩
  show (⟨summary₁.rendered, summary₁.stop⟩ : Summary) = ⟨summary₂.rendered, summary₂.stop⟩
  rw [hcount, hstop]

/-- The prompt as a label, and two sessions that differ in their line ends and their quit words. -/
theorem output_determines_session_of_prompt :
    Styles.KeepLines {}
      ∧ (run {} { quitWord := some "q" } {} (encode "Insert label name: \nq")).value.result
        = .ok ⟨1, .quitWord⟩
      ∧ (run {} { quitWord := some "x" } {} (encode "Insert label name: \r\nx\n")).value.result
        = .ok ⟨1, .quitWord⟩
      ∧ renderings {} (encode "Insert label name: \nq") 1
        = renderings {} (encode "Insert label name: \r\nx\n") 1 := by
  have hkeep : Styles.KeepLines {} := by
    constructor <;> unfold IsOneLine <;> decide
  have hfirst : (run {} { quitWord := some "q" } {}
      (encode "Insert label name: \nq")).value.result = .ok ⟨1, .quitWord⟩ := rfl
  have hsecond : (run {} { quitWord := some "x" } {}
      (encode "Insert label name: \r\nx\n")).value.result = .ok ⟨1, .quitWord⟩ := rfl
  obtain ⟨-, hunique⟩ := output_determines_session hkeep
  exact ⟨hkeep, hfirst, hsecond, (hunique _ _ _ _ _ _ hfirst hsecond rfl).2⟩

end CommentSeparator.Session
