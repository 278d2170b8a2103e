import HouseStyle.Proofs.Source.Lines
import HouseStyle.Snippet

/-!
# The lines that snippets quote

A snippet quotes a line of a file that a session has read, and the session cuts files in its own way: it takes out the
carriage return before each newline, then one newline at the end, and cuts what is left.

* **A session knows nothing but what its reader says** (`faithful_renderAll`), whatever it has shown before.
* **The quoted line is the line that was checked** (`quoted_line`), but for a carriage return that ends the file: the
  checked line is without it, the quoted one still has it (`last_return_quoted`).
-/

namespace HouseStyle.Snippet

/-! ## Cutting a file -/

section Cutting

variable {p last content : Text} {front : List Text}

/-- What stands before a byte is left alone, unless the two are a carriage return and a newline. -/
theorem dropReturns_append {c : UInt8} (t : Text) : ∀ {p : Text}, Text.byte '\n' ∉ p →
    (c = Text.byte '\n' → p.getLast? ≠ some (Text.byte '\r')) → dropReturns (p ++ c :: t) = p ++ dropReturns (c :: t)
  | [], _, _ => rfl
  | [b], _, hc => by
    have hpair : (b = Text.byte '\r' && c = Text.byte '\n') = false := by
      simp only [List.getLast?_singleton, ne_eq, Option.some.injEq] at hc
      simp only [Bool.and_eq_false_iff, decide_eq_false_iff_not]
      by_cases h : c = Text.byte '\n'
      · exact .inl (hc h)
      · exact .inr h
    rw [List.singleton_append, dropReturns, hpair]
    rfl
  | b :: d :: p, hp, hc => by
    simp only [List.mem_cons, not_or] at hp
    have hd : (b = Text.byte '\r' && d = Text.byte '\n') = false := by
      simp only [Bool.and_eq_false_iff, decide_eq_false_iff_not]
      exact .inr (Ne.symm hp.2.1)
    have ih : dropReturns (d :: p ++ c :: t) = d :: p ++ dropReturns (c :: t) :=
      dropReturns_append t (by simp [hp.2]) (by simpa [List.getLast?_cons_cons] using hc)
    simp only [List.cons_append] at ih ⊢
    rw [dropReturns, hd, ih]
    rfl

/-- A line gives up the carriage return before its newline, and no other. -/
theorem dropReturns_line (hp : Text.byte '\n' ∉ p) (t : Text) :
    dropReturns (p ++ Text.byte '\n' :: t) = p.trimSuffix "\r" ++ Text.byte '\n' :: dropReturns t := by
  have hnewline : dropReturns (Text.byte '\n' :: t) = Text.byte '\n' :: dropReturns t := by
    cases t <;> rfl
  rcases Text.trimSuffix_cases p "\r" with h | ⟨hend, h⟩
  · have hq : Text.byte '\n' ∉ p.trimSuffix "\r" := fun hmem => hp (h ▸ List.mem_append_left _ hmem)
    have happend := dropReturns_append (c := Text.byte '\r') (Text.byte '\n' :: t) hq
      fun hc => absurd hc (by decide)
    rw [h, Text.trimSuffix_append, List.append_assoc]
    exact happend
  · have hlast : p.getLast? ≠ some (Text.byte '\r') := by
      intro hlast
      have hcr : p.endsWith "\r" := Text.endsWith_singleton.mpr hlast
      rw [hend] at hcr
      cases hcr
    rw [dropReturns_append t hp fun _ => hlast, hnewline, ← h]

/-- A text without newlines keeps its carriage returns. -/
theorem dropReturns_eq_self (hp : Text.byte '\n' ∉ p) : dropReturns p = p := by
  rcases List.eq_nil_or_concat' p with rfl | ⟨q, c, rfl⟩
  · rfl
  · simp only [List.mem_append, List.mem_singleton, not_or] at hp
    exact dropReturns_append [] hp.1 fun hc => absurd hc.symm hp.2

/-- Taking out carriage returns changes every line but the last, which has no newline. -/
theorem dropReturns_unlines (hlast : Text.byte '\n' ∉ last) : ∀ {front : List Text},
    (∀ p ∈ front, Text.byte '\n' ∉ p) →
      dropReturns (Text.unlines front ++ last) = Text.unlines (front.map (·.trimSuffix "\r")) ++ last
  | [], _ => dropReturns_eq_self hlast
  | p :: front, h => by
    rw [List.forall_mem_cons] at h
    have ih := dropReturns_unlines hlast h.2
    have hcons : ∀ (q : Text) (qs : List Text),
        Text.unlines (q :: qs) ++ last = q ++ Text.byte '\n' :: (Text.unlines qs ++ last) := by
      intro q qs
      simp [Text.unlines]
    rw [hcons, dropReturns_line h.1, ih, List.map_cons, hcons]

theorem trimSuffix_newline (hlast : Text.byte '\n' ∉ last) (hne : last ≠ []) (front : List Text) :
    (Text.unlines front ++ last).trimSuffix "\n" = Text.unlines front ++ last := by
  apply Text.trimSuffix_of_not_endsWith
  rw [← Bool.not_eq_true]
  intro hend
  have hnewline := Text.endsWith_singleton.mp hend
  rw [List.getLast?_append_of_ne_nil _ hne] at hnewline
  exact hlast (List.mem_of_getLast? hnewline)

/-- The quoted lines, by the pieces of the file. -/
theorem quotedLines_of_pieces (h : content.pieces '\n' = front ++ [last]) (hne : front ≠ [] ∨ last ≠ []) :
    quotedLines content = front.map (·.trimSuffix "\r") ++ if last = [] then [] else [last] := by
  have hmem : ∀ p ∈ front ++ [last], Text.byte '\n' ∉ p := fun p hp => Text.not_mem_of_mem_pieces (h ▸ hp)
  have hlast : Text.byte '\n' ∉ last := hmem last (by simp)
  have hfront : ∀ p ∈ front, Text.byte '\n' ∉ p := fun p hp => hmem p (by simp [hp])
  have hmap : ∀ p ∈ front.map (·.trimSuffix "\r"), Text.byte '\n' ∉ p := by
    intro q hq
    obtain ⟨p, hp, rfl⟩ := List.mem_map.mp hq
    rcases Text.trimSuffix_cases p "\r" with h | ⟨-, h⟩
    · exact fun hq => hfront p hp (h ▸ List.mem_append_left _ hq)
    · exact h ▸ hfront p hp
  rw [quotedLines, Text.eq_unlines h, dropReturns_unlines hlast hfront]
  by_cases hnil : last = []
  · subst hnil
    obtain ⟨qs, q, hqs⟩ := (List.eq_nil_or_concat' (front.map (·.trimSuffix "\r"))).resolve_left (by simpa using hne)
    rw [hqs] at hmap ⊢
    have hlines : Text.unlines (qs ++ [q]) ++ [] = Text.unlines qs ++ q ++ Text.ofString "\n" := by
      simp [Text.unlines]
      rfl
    rw [hlines, Text.trimSuffix_append, Text.pieces_unlines (fun p hp => hmap p (by simp [hp])) (hmap q (by simp))]
    simp
  · rw [trimSuffix_newline hlast hnil, Text.pieces_unlines hmap hlast, if_neg hnil]

/-- The text ends in a carriage return exactly if its last piece does. -/
theorem endsWith_return (h : content.pieces '\n' = front ++ [last]) :
    content.endsWith "\r" = last.endsWith "\r" := by
  have hr : Text.ofString "\r" = [Text.byte '\r'] := rfl
  rw [Bool.eq_iff_iff, Text.eq_unlines h, hr, Text.endsWith_singleton, Text.endsWith_singleton]
  by_cases hnil : last = []
  · subst hnil
    rcases List.eq_nil_or_concat' front with rfl | ⟨qs, q, rfl⟩
    · rfl
    · simp [Text.unlines, Text.byte]
  · rw [List.getLast?_append_of_ne_nil _ hnil]

/-- **The quoted line is the checked line**, with the carriage return that ends the file if it is the last. -/
theorem quotedLines_getElem? {line : Text} {i : Nat} (h : (splitLines content)[i]? = some line) :
    (quotedLines content)[i]? =
      some (if i + 1 = (splitLines content).length ∧ content.endsWith "\r" then line ++ "\r" else line) := by
  obtain ⟨front, last, hpieces⟩ :=
    (List.eq_nil_or_concat' (content.pieces '\n')).resolve_left (Text.pieces_ne_nil _ _)
  rw [endsWith_return hpieces]
  rw [splitLines_of_pieces hpieces] at h ⊢
  have hne : front ≠ [] ∨ last ≠ [] := by
    by_contra hnil
    simp_all
  rw [quotedLines_of_pieces hpieces hne]
  by_cases hnil : last = []
  · have hend : Text.endsWith [] "\r" = false := rfl
    simp only [hnil, hend, ↓reduceIte, Bool.false_eq_true, and_false] at h ⊢
    exact h
  · simp only [hnil, ↓reduceIte, List.length_append, List.length_map, List.length_singleton] at h ⊢
    by_cases hi : i < front.length
    · rw [List.getElem?_append_left (by simpa using hi)] at h ⊢
      rw [if_neg (by omega)]
      exact h
    · -- The last line has no newline, so its carriage return stays.
      have hlast : i = front.length := by
        have hlt := (List.getElem?_eq_some_iff.mp h).1
        simp only [List.length_append, List.length_map, List.length_singleton] at hlt
        omega
      subst hlast
      rw [List.getElem?_append_right (by simp)] at h ⊢
      simp only [List.length_map, Nat.sub_self, List.getElem?_cons_zero, Option.some.injEq, true_and] at h ⊢
      rcases Text.trimSuffix_cases last "\r" with hcr | ⟨hend, hsame⟩
      · have hend : last.endsWith "\r" := List.isSuffixOf_iff_suffix.mpr ⟨_, hcr.symm⟩
        rw [if_pos hend, ← h, ← hcr]
      · rw [hend, if_neg Bool.false_ne_true, ← h, ← hsame]

end Cutting

/-! ## Sessions -/

/-- The session knows a file by the lines that its reader gives for it. -/
def Session.Faithful (reader : Reader) (s : Session) : Prop :=
  ∀ known ∈ s.known, known.2 = (reader known.1).elim [] quotedLines

section Sessions

variable {reader : Reader} {s : Session} {file : Text}

theorem faithful_new (reader : Reader) : Session.Faithful reader {} := fun _ h => by cases h

theorem Session.Faithful.lines (h : s.Faithful reader) (file : Text) :
    (s.lines reader file).1 = (reader file).elim [] quotedLines ∧ (s.lines reader file).2.Faithful reader := by
  unfold Session.lines
  cases hfind : s.known.find? (·.1 == file) with
  | some known =>
    have hname : known.1 = file := by simpa using List.find?_some hfind
    exact ⟨hname ▸ h known (List.mem_of_find?_eq_some hfind), h⟩
  | none =>
    refine ⟨rfl, fun known hknown => ?_⟩
    rcases List.mem_append.mp hknown with hknown | hknown
    · exact h known hknown
    · rw [List.mem_singleton.mp hknown]

theorem Session.Faithful.line? (h : s.Faithful reader) (file : Text) (line : Int) :
    (s.line? reader file line).2.Faithful reader := by
  unfold Session.line?
  split
  · exact h
  · exact (h.lines file).2

theorem faithful_renderSpans (colored : Bool) (spans : List Span) (h : s.Faithful reader) :
    (renderSpans colored reader s spans).2.Faithful reader := by
  induction spans generalizing s with
  | nil => exact h
  | cons span spans ih => exact ih (h.line? span.file span.line)

/-- **A session knows nothing but what its reader says**, whatever it has shown. -/
theorem faithful_renderAll (colored : Bool) (shown : List Snippet) (h : s.Faithful reader) :
    (renderAll colored reader s shown).2.Faithful reader := by
  induction shown generalizing s with
  | nil => exact h
  | cons snippet rest ih =>
    have hsnippet := faithful_renderSpans colored snippet.spans h
    cases rest with
    | nil => exact hsnippet
    | cons next rest => exact ih hsnippet

/-- **The quoted line is the line that was checked.** A session that has shown any snippets quotes, for every line of a
file that can be read, this line, but if the file ends in a carriage return, its last line is quoted with it. -/
theorem quoted_line (colored : Bool) (reader : Reader) (shown : List Snippet) (file content : Text) (hfile : file ≠ [])
    (hread : reader file = some content) (n : Nat) (hn : 1 ≤ n ∧ n ≤ (splitLines content).length) :
    ∃ line, (splitLines content)[n - 1]? = some line ∧
      ((renderAll colored reader {} shown).2.line? reader file n).1 =
        some (if n = (splitLines content).length ∧ content.endsWith "\r" then line ++ "\r" else line) := by
  obtain ⟨line, hline⟩ : ∃ line, (splitLines content)[n - 1]? = some line :=
    ⟨_, List.getElem?_eq_getElem (by omega)⟩
  refine ⟨line, hline, ?_⟩
  have hquoted := quotedLines_getElem? hline
  rw [Nat.sub_add_cancel hn.1] at hquoted
  have hlines := ((faithful_renderAll colored shown (faithful_new reader)).lines file).1
  rw [hread, Option.elim_some] at hlines
  rw [← hquoted, Session.line?, if_neg (by simp [hfile]; omega)]
  simp only [hlines]
  congr 1
  omega

end Sessions

/-- The last line of a file, which is checked without the carriage return that ends the file, is quoted with it; the
line before is quoted as it is checked. -/
theorem quoted_line_mixed_ends :
    let content : Text := "a\rb\r\nc\r"
    let reader : Reader := fun name => if name = Text.ofString "cr.c" then some content else none
    splitLines content = ["a\rb", "c"] ∧
      (Session.line? {} reader "cr.c" 1).1 = some (Text.ofString "a\rb") ∧
      (Session.line? {} reader "cr.c" 2).1 = some (Text.ofString "c\r") := by
  intro content reader
  have hlines : splitLines content = ["a\rb", "c"] := by decide +kernel
  obtain ⟨first, hfirst, hquoted⟩ :=
    quoted_line false reader [] "cr.c" content (by decide) rfl 1 (by rw [hlines]; decide)
  obtain ⟨second, hsecond, hquoted'⟩ :=
    quoted_line false reader [] "cr.c" content (by decide) rfl 2 (by rw [hlines]; decide)
  rw [hlines] at hfirst hsecond
  cases hfirst
  cases hsecond
  refine ⟨hlines, ?_, ?_⟩
  · rw [hlines] at hquoted
    exact hquoted
  · rw [hlines] at hquoted'
    exact hquoted'

/-- A file that ends in a carriage return has a line that is quoted otherwise than it is checked. -/
theorem last_return_quoted :
    let content : Text := "x\r"
    (splitLines content)[0]? = some (Text.ofString "x") ∧
      (Session.line? {} (fun _ => some content) "a.c" 1).1 ≠ (splitLines content)[0]? := by
  decide +kernel

end HouseStyle.Snippet
