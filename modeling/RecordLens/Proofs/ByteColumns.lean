import RecordLens.Proofs.ByteInsertions
import RecordLens.Proofs.Insertions
/-!
Putting a text into a line through its bytes. The line is cut at a byte column, whatever stands there,
and what comes of it is read as a text again. The first byte of a text can only begin a character. So
wherever the bytes make up a text, those in front of the piece do as well, and the column lies between
two characters of the line or behind it.

* `Text.insertBetweenBytes`, `Insertion.act`: a piece between the bytes of a line, and the line in its
  place among others.
* `Text.isValid_of_decoded`: what can be read again was cut between characters.
* `Text.insertAtByte_eq_insertBetweenBytes`: it is the same as cutting the line between its characters.
* `act_splits_or_refuses`: what one step does to all lines.
-/
namespace RecordLens

namespace Text

/-- Put a text between the bytes of a line, and read all of them as a text again. -/
def insertBetweenBytes (line : String) (column : Nat) (piece : String) : Option String :=
  let raw := line.toUTF8
  String.fromUTF8? (raw.extract 0 column ++ piece.toUTF8 ++ raw.extract column raw.size)

/-- The two parts of a line at a byte column. A column behind the line means its end. -/
structure SplitsAt (line : String) (column : Nat) (front back : String) : Prop where
  line_eq : line = front ++ back
  column_eq : (bytes front).length = column ∨ back = "" ∧ (bytes front).length ≤ column

variable {line piece text front back : String} {column : Nat}

theorem length_bytes_eq_size (text : String) : (bytes text).length = text.toByteArray.size := by
  rw [bytes, String.toUTF8, Array.length_toList]
  rfl

theorem fromUTF8?_eq_some_iff {raw : ByteArray} :
    String.fromUTF8? raw = some text ↔ text.toByteArray = raw := by
  unfold String.fromUTF8?
  constructor
  · intro h
    split at h
    · rw [← Option.some.inj h]
      rfl
    · exact absurd h nofun
  · rintro rfl
    rw [dif_pos text.isValidUTF8]
    rfl

theorem SplitsAt.extract (h : SplitsAt line column front back) :
    line.toByteArray.extract 0 column = front.toByteArray ∧
      line.toByteArray.extract column line.toByteArray.size = back.toByteArray := by
  obtain ⟨rfl, hcolumn⟩ := h
  rw [length_bytes_eq_size] at hcolumn
  rcases hcolumn with hat | ⟨rfl, hbehind⟩
  · rw [String.toByteArray_append]
    exact ⟨ByteArray.extract_append_eq_left hat.symm,
      ByteArray.extract_append_eq_right hat.symm ByteArray.size_append⟩
  · rw [String.size_toByteArray] at hbehind
    rw [String.append_empty]
    constructor
    · ext1
      simp [hbehind]
    · ext1
      simp [hbehind]

theorem insertBetweenBytes_of_splits (h : SplitsAt line column front back) (piece : String) :
    insertBetweenBytes line column piece = some (front ++ piece ++ back) := by
  obtain ⟨hfront, hback⟩ := h.extract
  rw [insertBetweenBytes, fromUTF8?_eq_some_iff]
  dsimp only [String.toUTF8]
  rw [hfront, hback, String.toByteArray_append, String.toByteArray_append]

/-- **A line whose bytes can be read again was cut between its characters.** In the text that is read,
    the piece begins with the first byte of a character, so the bytes in front of it are whole characters,
    and they are those of the line. -/
theorem isValid_of_decoded (hpiece : piece ≠ "") {rest : ByteArray}
    (hle : column ≤ line.toByteArray.size)
    (htext : text.toByteArray = line.toByteArray.extract 0 column ++ piece.toByteArray ++ rest) :
    (⟨column⟩ : String.Pos.Raw).IsValid line := by
  have hsize : (line.toByteArray.extract 0 column).size = column := by
    rw [ByteArray.size_extract]
    omega
  have hpos : 0 < piece.toByteArray.size := by
    rw [String.size_toByteArray, Nat.pos_iff_ne_zero]
    exact fun h => hpiece (String.utf8ByteSize_eq_zero_iff.1 h)
  have hlt : column < text.toByteArray.size := by
    rw [htext, ByteArray.size_append, ByteArray.size_append]
    omega
  -- behind the prefix the piece begins, and its first byte begins a character wherever it stands
  have hbyte : text.toByteArray[column] = piece.toByteArray[0] := by
    have hend : column < (line.toByteArray.extract 0 column ++ piece.toByteArray).size := by
      rw [ByteArray.size_append]
      omega
    simp only [htext]
    rw [ByteArray.getElem_append_left hend, ByteArray.getElem_append_right (Nat.le_of_eq hsize)]
    simp only [hsize, Nat.sub_self]
  have hbegins : text.toByteArray[column].IsUTF8FirstByte := by
    rw [hbyte]
    exact String.isUTF8FirstByte_getUTF8Byte_zero (h := hpos)
  have hvalid : (⟨column⟩ : String.Pos.Raw).IsValid text :=
    String.Pos.Raw.isValid_iff_isUTF8FirstByte.2 (.inr ⟨hlt, hbegins⟩)
  refine String.Pos.Raw.isValid_iff_isValidUTF8_extract_zero.2 ⟨hle, ?_⟩
  have hfront : text.toByteArray.extract 0 column = line.toByteArray.extract 0 column := by
    rw [htext, ByteArray.append_assoc]
    exact ByteArray.extract_append_eq_left hsize.symm
  rw [← hfront]
  exact (String.Pos.Raw.isValid_iff_isValidUTF8_extract_zero.1 hvalid).2

theorem exists_splits_of_decoded (hpiece : piece ≠ "")
    (h : insertBetweenBytes line column piece = some text) :
    ∃ front back, SplitsAt line column front back := by
  rcases Nat.lt_or_ge line.toByteArray.size column with hbehind | hle
  · refine ⟨line, "", String.append_empty.symm, .inr ⟨rfl, ?_⟩⟩
    rw [length_bytes_eq_size]
    omega
  · have hvalid := isValid_of_decoded hpiece hle (fromUTF8?_eq_some_iff.1 h)
    obtain ⟨front, back, hline, hcolumn⟩ := String.Pos.Raw.isValid_iff_exists_append.1 hvalid
    refine ⟨front, back, hline, .inl ?_⟩
    rw [length_bytes_eq_size]
    exact (congrArg String.Pos.Raw.byteIdx hcolumn).symm

/-! ## The same between characters -/

theorem cutAtByte_behind {cs : List Char} : ∀ {n : Nat}, byteLength cs ≤ n →
    cutAtByte n cs = some (cs, []) := by
  induction cs with
  | nil =>
    intro n _
    cases n <;> rfl
  | cons c cs ih =>
    intro n hn
    rw [byteLength] at hn
    have hpos := c.utf8Size_pos
    obtain ⟨m, rfl⟩ : ∃ m, n = m + 1 := ⟨n - 1, by omega⟩
    rw [cutAtByte, if_pos (by omega), ih (by omega)]
    rfl

/-- What stands in front of a cut takes as many bytes as the column says, unless the line ends before. -/
theorem byteLength_of_cutAtByte {n : Nat} {cs : List Char} {cut : List Char × List Char}
    (h : cutAtByte n cs = some cut) :
    byteLength cut.1 = n ∨ cut.2 = [] ∧ byteLength cut.1 ≤ n := by
  fun_induction cutAtByte n cs generalizing cut with
  | case1 cs =>
    obtain rfl := Option.some.inj h
    exact .inl rfl
  | case2 n =>
    obtain rfl := Option.some.inj h
    exact .inr ⟨rfl, Nat.zero_le _⟩
  | case3 n c cs hsize ih =>
    obtain ⟨rest, hrest, rfl⟩ := Option.map_eq_some_iff.1 h
    rcases ih hrest with hat | ⟨hnil, hbehind⟩
    · left
      rw [byteLength]
      omega
    · right
      refine ⟨hnil, ?_⟩
      rw [byteLength]
      omega
  | case4 => exact absurd h.symm (Option.some_ne_none cut)

theorem insertAtByte_of_splits (h : SplitsAt line column front back) (piece : String) :
    insertAtByte line column piece = some (front ++ piece ++ back) := by
  obtain ⟨rfl, rfl | ⟨rfl, hbehind⟩⟩ := h
  · exact insertAtByte_append front back piece
  · rw [length_bytes] at hbehind
    rw [String.append_empty, String.append_empty, insertAtByte, cutAtByte_behind hbehind,
      Option.map_some, List.append_nil, ← String.toList_append, String.ofList_toList]

theorem exists_splits_of_insertAtByte (h : insertAtByte line column piece = some text) :
    ∃ front back, SplitsAt line column front back := by
  obtain ⟨cut, hcut, -⟩ := Option.map_eq_some_iff.1 h
  refine ⟨String.ofList cut.1, String.ofList cut.2, ?_, ?_⟩
  · apply String.toList_inj.1
    rw [String.toList_append, String.toList_ofList, String.toList_ofList, cutAtByte_append hcut]
  · rw [length_bytes, String.toList_ofList]
    exact (byteLength_of_cutAtByte hcut).imp_right fun h => ⟨congrArg String.ofList h.1, h.2⟩

/-- **Between bytes as between characters.** Only a piece without characters could be put into the middle
    of one. -/
theorem insertAtByte_eq_insertBetweenBytes (hpiece : piece ≠ "") :
    insertAtByte line column piece = insertBetweenBytes line column piece := by
  by_cases hsplits : ∃ front back, SplitsAt line column front back
  · obtain ⟨front, back, h⟩ := hsplits
    rw [insertAtByte_of_splits h, insertBetweenBytes_of_splits h]
  · have hchars : insertAtByte line column piece = none := by
      rw [Option.eq_none_iff_forall_ne_some]
      exact fun text h => hsplits (exists_splits_of_insertAtByte h)
    have hbytes : insertBetweenBytes line column piece = none := by
      rw [Option.eq_none_iff_forall_ne_some]
      exact fun text h => hsplits (exists_splits_of_decoded hpiece h)
    rw [hchars, hbytes]

/-- A line is split at a column that is the length of one of its fronts, or lies at its end or behind it. -/
theorem exists_splits_iff : (∃ front back, SplitsAt line column front back) ↔
    (∃ front back, line = front ++ back ∧ (bytes front).length = column) ∨
      (bytes line).length ≤ column := by
  constructor
  · rintro ⟨front, back, hline, hat | ⟨rfl, hbehind⟩⟩
    · exact .inl ⟨front, back, hline, hat⟩
    · rw [String.append_empty] at hline
      exact .inr (hline ▸ hbehind)
  · rintro (⟨front, back, hline, hat⟩ | hbehind)
    · exact ⟨front, back, hline, .inl hat⟩
    · exact ⟨line, "", String.append_empty.symm, .inr ⟨rfl, hbehind⟩⟩

end Text

/-! ## A line among others -/

/-- Put a text between the bytes of one of the lines, in place. The line is replaced last of all, when
    its bytes have been read as a text again. -/
def Insertion.act (i : Insertion) : ExceptT SourceError (StateM (List String)) Unit := do
  let lines ← get
  let some line := lines[i.line - 1]? | return
  let some new := Text.insertBetweenBytes line i.column i.text | throw .cutCharacter
  set (lines.set (i.line - 1) new)

variable {lines : List String} {i : Insertion} {line : String}

theorem run_act_of_line (hline : lines[i.line - 1]? = some line) : i.act.run.run lines =
    match Text.insertBetweenBytes line i.column i.text with
    | none => (.error .cutCharacter, lines)
    | some new => (.ok (), lines.set (i.line - 1) new) := by
  unfold Insertion.act
  change (match lines[i.line - 1]? with | some line => _ | _ => _ :
    ExceptT SourceError (StateM (List String)) Unit).run.run lines = _
  rw [hline]
  dsimp only
  cases Text.insertBetweenBytes line i.column i.text with
  | none => rfl
  | some new => rfl

theorem insertInto_of_line (hline : lines[i.line - 1]? = some line) : insertInto lines i =
    match Text.insertAtByte line i.column i.text with
    | none => .error .cutCharacter
    | some new => .ok (lines.set (i.line - 1) new) := by
  rw [insertInto, hline]
  dsimp only
  cases Text.insertAtByte line i.column i.text with
  | none => rfl
  | some new => rfl

/-- **A text goes in between two characters or behind the line, or nothing is changed.** For a line that
    exists and a text that has characters, the step in place and the insertion into the lines come to the
    same. They succeed exactly where the column is the length of a front of the line or lies at its end or
    behind it. Then the line is that front, the text and the rest, and the other lines are as they were.
    Otherwise a character would be cut, and all lines are as they were. -/
theorem act_splits_or_refuses (hnumber : 1 ≤ i.line) (hline : lines[i.line - 1]? = some line)
    (htext : i.text ≠ "") :
    ∃ outcome after, i.act.run.run lines = (outcome, after) ∧
      insertInto lines i = outcome.map (fun _ => after) ∧
      (outcome = .ok () ↔
        (∃ front back, line = front ++ back ∧ (Text.bytes front).length = i.column) ∨
          (Text.bytes line).length ≤ i.column) ∧
      (∀ front back, line = front ++ back → (Text.bytes front).length = i.column →
        after = lines.set (i.line - 1) (front ++ i.text ++ back)) ∧
      ((Text.bytes line).length ≤ i.column → after = lines.set (i.line - 1) (line ++ i.text)) ∧
      (∀ k, k + 1 ≠ i.line → after[k]? = lines[k]?) ∧ after.length = lines.length ∧
      (outcome ≠ .ok () → outcome = .error .cutCharacter ∧ after = lines) := by
  have hact := run_act_of_line hline
  have hinto := insertInto_of_line hline
  rw [Text.insertAtByte_eq_insertBetweenBytes htext] at hinto
  rw [← Text.exists_splits_iff]
  cases hnew : Text.insertBetweenBytes line i.column i.text with
  | none =>
    rw [hnew] at hact hinto
    have hnot : ¬ ∃ front back, Text.SplitsAt line i.column front back := by
      rintro ⟨front, back, h⟩
      rw [Text.insertBetweenBytes_of_splits h] at hnew
      exact absurd hnew nofun
    refine ⟨_, _, hact, hinto, iff_of_false nofun hnot, ?_, ?_, fun _ _ => rfl, rfl,
      fun _ => ⟨rfl, rfl⟩⟩
    · intro front back heq hat
      exact absurd ⟨front, back, heq, .inl hat⟩ hnot
    · intro hbehind
      exact absurd (Text.exists_splits_iff.2 (.inr hbehind)) hnot
  | some new =>
    rw [hnew] at hact hinto
    have hnew_eq {front back : String} (h : Text.SplitsAt line i.column front back) :
        new = front ++ i.text ++ back := by
      rw [Text.insertBetweenBytes_of_splits h] at hnew
      exact (Option.some.inj hnew).symm
    refine ⟨_, _, hact, hinto, iff_of_true rfl (Text.exists_splits_of_decoded htext hnew), ?_, ?_,
      ?_, List.length_set, fun h => absurd rfl h⟩
    · intro front back heq hat
      rw [hnew_eq ⟨heq, .inl hat⟩]
    · intro hbehind
      rw [hnew_eq ⟨String.append_empty.symm, .inr ⟨rfl, hbehind⟩⟩, String.append_empty]
    · intro k hk
      exact List.getElem?_set_ne (by omega)

/-- A text behind a letter of two bytes, behind the end of the line, and within the letter. -/
theorem act_splits_or_refuses_accent :
    (Insertion.act ⟨2, 2, ": int"⟩).run.run ["x", "é = 1"] = (.ok (), ["x", "é: int = 1"]) ∧
    (Insertion.act ⟨2, 99, ")"⟩).run.run ["x", "é = 1"] = (.ok (), ["x", "é = 1)"]) ∧
    (Insertion.act ⟨2, 1, ": int"⟩).run.run ["x", "é = 1"] =
      (.error .cutCharacter, ["x", "é = 1"]) := by
  have hline (column : Nat) (text : String) :
      ["x", "é = 1"][(⟨2, column, text⟩ : Insertion).line - 1]? = some "é = 1" := rfl
  refine ⟨?_, ?_, ?_⟩
  · obtain ⟨outcome, after, hrun, -, hok, hat, -⟩ :=
      act_splits_or_refuses (by decide) (hline 2 ": int") (by decide)
    have hsplit : "é = 1" = "é" ++ " = 1" ∧ (Text.bytes "é").length = 2 := by decide +kernel
    rw [hrun, hok.2 (.inl ⟨"é", " = 1", hsplit⟩), hat "é" " = 1" hsplit.1 hsplit.2]
    rfl
  · obtain ⟨outcome, after, hrun, -, hok, -, hbehind, -⟩ :=
      act_splits_or_refuses (by decide) (hline 99 ")") (by decide)
    have hend : (Text.bytes "é = 1").length ≤ 99 := by decide +kernel
    rw [hrun, hok.2 (.inr hend), hbehind hend]
    rfl
  · obtain ⟨outcome, after, hrun, hinto, -, -, -, -, -, hrefused⟩ :=
      act_splits_or_refuses (by decide) (hline 1 ": int") (by decide)
    have hcut : insertInto ["x", "é = 1"] ⟨2, 1, ": int"⟩ = .error .cutCharacter := by decide +kernel
    have hfault : outcome ≠ .ok () := by
      rintro rfl
      rw [hcut] at hinto
      exact absurd hinto nofun
    obtain ⟨rfl, rfl⟩ := hrefused hfault
    exact hrun

end RecordLens
