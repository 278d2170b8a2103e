import HouseStyle.Proofs.Server.Units
import HouseStyle.Server.QuickFix

/-!
# Applying edits

What an editor does with an edit (`TextEdit.apply`): the bytes between its two places give way to its text. Lines end at
newlines, with a carriage return or without, as they do for the rules.

**An insertion at the end of a line** changes this line only, and stands in front of its carriage return
(`pieces_apply_at_end`); so the lines of the file are as before but for the text appended to this one
(`appends_at_end`).
-/

namespace HouseStyle.Server

/-! ## Columns -/

/-- The number of bytes in front of a column of a line: those of the characters that begin before it. -/
def bytesBefore : (column : Nat) → List Glyph → Nat
  | 0, _ => 0
  | _, [] => 0
  | column + 1, g :: gs => g.bytes.length + bytesBefore (column + 1 - codeUnits g.code) gs

theorem bytesBefore_unitsOf (gs : List Glyph) : bytesBefore (unitsOf gs) gs = (Text.ofGlyphs gs).length := by
  induction gs with
  | nil => rfl
  | cons g gs ih =>
    have hpos := codeUnits_pos g.code
    obtain ⟨n, hn⟩ : ∃ n, unitsOf (g :: gs) = n + 1 := Nat.exists_eq_add_one.mpr (by rw [unitsOf]; omega)
    have hrest : n + 1 - codeUnits g.code = unitsOf gs := by
      rw [← hn, unitsOf]
      omega
    rw [hn, bytesBefore, hrest, ih, Text.ofGlyphs, Text.ofGlyphs, List.flatMap_cons, List.length_append]

/-- All bytes of a line stand in front of its end. -/
theorem bytesBefore_units16 (t : Text) : bytesBefore (units16 t) t.glyphs = t.length := by
  rw [units16_eq, bytesBefore_unitsOf, Text.ofGlyphs_glyphs]

/-! ## Edits -/

/-- The number of bytes of a content in front of a place. A column past the end of its line stands for that end. -/
def Point.offset (content : Text) (p : Point) : Nat :=
  let lines := content.pieces '\n'
  (Text.unlines (lines.take p.line)).length +
    bytesBefore p.character (((lines[p.line]?).getD []).trimSuffix "\r").glyphs

/-- The content after an edit. -/
def TextEdit.apply (e : TextEdit) (content : Text) : Text :=
  content.take (e.range.start.offset content) ++ e.newText ++ content.drop (e.range.stop.offset content)

variable {content text cr newText : Text} {i : Nat}

/-- A content around one of its lines. -/
theorem eq_append_of_getElem? (h : (content.pieces '\n')[i]? = some text) :
    content = Text.unlines ((content.pieces '\n').take i) ++
      (text ++ ((content.pieces '\n').drop (i + 1)).flatMap ([Text.byte '\n'] ++ ·)) := by
  conv_lhs => rw [← Text.join_pieces '\n' content, Text.eq_take_append_cons_drop h, Text.join_around]
  rfl

theorem offset_end (h : (content.pieces '\n')[i]? = some (text ++ cr))
    (htext : Text.trimSuffix (text ++ cr) "\r" = text) :
    Point.offset content ⟨i, units16 text⟩ = (Text.unlines ((content.pieces '\n').take i) ++ text).length := by
  rw [Point.offset, h, Option.getD_some, htext, bytesBefore_units16, List.length_append]

/-- **An insertion at the end of a line changes this line only.** The end of the line lies in front of its carriage
return. -/
theorem pieces_apply_at_end (h : (content.pieces '\n')[i]? = some (text ++ cr))
    (htext : Text.trimSuffix (text ++ cr) "\r" = text) (hnew : Text.byte '\n' ∉ newText) :
    let place : Point := ⟨i, units16 text⟩
    (TextEdit.apply ⟨⟨place, place⟩, newText⟩ content).pieces '\n' =
      (content.pieces '\n').set i (text ++ newText ++ cr) := by
  intro place
  have hi : i < (content.pieces '\n').length := (List.getElem?_eq_some_iff.mp h).1
  obtain ⟨front, back, hfront, hback, hcontent⟩ : ∃ front back,
      front = Text.unlines ((content.pieces '\n').take i) ++ text ∧
      back = cr ++ ((content.pieces '\n').drop (i + 1)).flatMap ([Text.byte '\n'] ++ ·) ∧ content = front ++ back := by
    refine ⟨_, _, rfl, rfl, ?_⟩
    conv_lhs => rw [eq_append_of_getElem? h]
    simp only [List.append_assoc]
  have happly : TextEdit.apply ⟨⟨place, place⟩, newText⟩ content =
      Text.join [Text.byte '\n'] ((content.pieces '\n').set i (text ++ newText ++ cr)) := by
    have htake : content.take front.length = front := by rw [hcontent, List.take_left]
    have hdrop : content.drop front.length = back := by rw [hcontent, List.drop_left]
    rw [List.set_eq_take_append_cons_drop, if_pos hi, Text.join_around, TextEdit.apply, offset_end h htext, ← hfront,
      htake, hdrop, hfront, hback, Text.unlines]
    simp only [List.append_assoc]
  rw [happly, Text.pieces_join]
  · simpa using Text.pieces_ne_nil '\n' content
  · intro q hq
    rcases List.mem_or_eq_of_mem_set hq with hq | rfl
    · exact Text.not_mem_of_mem_pieces hq
    · have hline := Text.not_mem_of_mem_pieces (List.mem_of_getElem? h)
      simp only [List.mem_append, not_or] at hline ⊢
      exact ⟨⟨hline.1, hnew⟩, hline.2⟩

/-- The edit appends its text to the line with index `i`, in front of a carriage return if there is one, and changes no
other line. -/
structure TextEdit.Appends (edit : TextEdit) (content : Text) (i : Nat) (line : Text) : Prop where
  bytes : ∃ cr, (cr = [] ∨ cr = Text.ofString "\r") ∧ (content.pieces '\n')[i]? = some (line ++ cr) ∧
    (edit.apply content).pieces '\n' = (content.pieces '\n').set i (line ++ edit.newText ++ cr)
  lines : splitLines (edit.apply content) = (splitLines content).set i (line ++ edit.newText)

/-- The text stays a whole line when something is appended that does not end in a carriage return. -/
theorem trimSuffix_append_cr (line : Text) (hne : newText ≠ []) (hcr : Text.byte '\r' ∉ newText) :
    Text.trimSuffix (line ++ newText) "\r" = line ++ newText := by
  refine Text.trimSuffix_of_not_endsWith ?_
  rw [Bool.eq_false_iff]
  intro hend
  obtain ⟨front, hfront⟩ := List.isSuffixOf_iff_suffix.mp hend
  have hlast : newText.getLast? = some (Text.byte '\r') := by
    rw [← List.getLast?_append_of_ne_nil line hne, ← hfront]
    exact List.getLast?_concat
  exact hcr (List.mem_of_getLast? hlast)

/-- **An insertion at the end of a line of the file appends to that line.** -/
theorem appends_at_end {line : Text} (h : (splitLines content)[i]? = some line) (hne : newText ≠ [])
    (hnl : Text.byte '\n' ∉ newText) (hcr : Text.byte '\r' ∉ newText) :
    let place : Point := ⟨i, units16 line⟩
    TextEdit.Appends ⟨⟨place, place⟩, newText⟩ content i line := by
  intro place
  obtain ⟨p, hp, hpiece, hline⟩ := splitLines_getElem? h
  have hi : i < (linePieces content).length := (List.getElem?_eq_some_iff.mp hp).1
  rcases Text.trimSuffix_cases p "\r" with hcases | ⟨_, hcases⟩
  · rw [hline] at hcases
    rw [hcases] at hpiece hline
    have hset := pieces_apply_at_end hpiece hline hnl
    refine ⟨⟨"\r", Or.inr rfl, hpiece, hset⟩, ?_⟩
    rw [splitLines_set hi hset (by simp [hne]), Text.trimSuffix_append]
  · rw [hline] at hcases
    rw [hcases, ← List.append_nil line] at hpiece
    have hset := pieces_apply_at_end hpiece (by rw [List.append_nil, ← hcases, hline, ← hcases]) hnl
    refine ⟨⟨[], Or.inl rfl, hpiece, hset⟩, ?_⟩
    rw [splitLines_set hi hset (by simp [hne]), List.append_nil, trimSuffix_append_cr line hne hcr]

end HouseStyle.Server
