import HouseStyle.Proofs.Snippet.Lines

/-!
# Snippets in one session

A session remembers the files it has read, so that snippets shown one after the other need not read a file again. That
changes nothing but the reads.

* **What is shown does not depend on the session** (`render_eq_fresh`): a session that knows nothing but what its reader
  says shows what a new session shows.
* **A session has asked for each name once** (`Asked`), in the order in which the names came up first: a look-up keeps
  this (`Asked.lines`), and so does all that is shown (`asked_renderAll`).

Hence **snippets in one session are the snippets of new sessions, with one read for each file** (`renderAll_eq_join`).
-/

namespace HouseStyle.Snippet

variable {reader : Reader} {s : Session} {names : List Text} {file : Text}

/-! ## What is shown -/

theorem Session.Faithful.line?_eq (h : s.Faithful reader) (file : Text) (line : Int) :
    (s.line? reader file line).1 = (Session.line? {} reader file line).1 := by
  have hfresh := (faithful_new reader).lines file
  have hlines := h.lines file
  unfold Session.line?
  split
  · rfl
  · show (s.lines reader file).1[_]? = (Session.lines {} reader file).1[_]?
    rw [hlines.1, hfresh.1]

theorem renderSpan_eq_fresh (colored : Bool) (span : Span) (h : s.Faithful reader) :
    (renderSpan colored reader s span).1 = (renderSpan colored reader {} span).1 := by
  have hline := h.line?_eq span.file span.line
  simp only [renderSpan, hline]

theorem renderSpans_eq_fresh (colored : Bool) (spans : List Span) (h : s.Faithful reader) :
    (renderSpans colored reader s spans).1 = (renderSpans colored reader {} spans).1 := by
  induction spans generalizing s with
  | nil => rfl
  | cons span spans ih =>
    have hnext := ih (h.line? span.file span.line)
    have hfresh := ih ((faithful_new reader).line? span.file span.line)
    show (renderSpan colored reader s span).1 ++
        (renderSpans colored reader (s.line? reader span.file span.line).2 spans).1 =
      (renderSpan colored reader {} span).1 ++
        (renderSpans colored reader (Session.line? {} reader span.file span.line).2 spans).1
    rw [renderSpan_eq_fresh colored span h, hnext, hfresh]

/-- **What is shown does not depend on the session.** -/
theorem render_eq_fresh (colored : Bool) (snippet : Snippet) (h : s.Faithful reader) :
    (render colored reader s snippet).1 = (render colored reader {} snippet).1 := by
  simp only [render, renderSpans_eq_fresh colored snippet.spans h]

theorem renderAll_eq_fresh (colored : Bool) (shown : List Snippet) (h : s.Faithful reader) :
    (renderAll colored reader s shown).1 =
      Text.join "\n" (shown.map fun snippet => (render colored reader {} snippet).1) := by
  induction shown generalizing s with
  | nil => rfl
  | cons snippet rest ih =>
    have hsnippet := render_eq_fresh colored snippet h
    cases rest with
    | nil => exact hsnippet
    | cons next rest =>
      have hrest := ih (faithful_renderSpans colored snippet.spans h)
      show (render colored reader s snippet).1 ++ "\n" ++ (renderAll colored reader _ (next :: rest)).1 = _
      rw [hsnippet]
      exact congrArg _ hrest

/-! ## What is read -/

/-- The file that a span needs: none, if it has no line or no file. -/
def Span.needs (s : Span) : Option Text := if 0 < s.line ∧ s.file ≠ [] then some s.file else none

/-- The files that snippets need, in the order of their spans. -/
def needed (shown : List Snippet) : List Text := shown.flatMap fun snippet => snippet.spans.filterMap Span.needs

/-- When the files `names` have been needed, the session has asked its reader for each of them once, in the order in
which they came up first, and remembers them all. -/
structure Session.Asked (s : Session) (names : List Text) : Prop where
  reads : s.reads = names.eraseDups
  known : s.known.map (·.1) = names.eraseDups

theorem asked_new : Session.Asked {} [] := ⟨rfl, rfl⟩

theorem eraseDups_concat (names : List Text) (file : Text) :
    (names ++ [file]).eraseDups = if file ∈ names then names.eraseDups else names.eraseDups ++ [file] := by
  rw [List.eraseDups_append]
  split
  · next h => simp [List.removeAll, h]
  · next h => simp [List.removeAll, h, List.eraseDups_cons]

namespace Session.Asked

theorem lines (h : s.Asked names) (reader : Reader) (file : Text) :
    (s.lines reader file).2.Asked (names ++ [file]) := by
  have hknown : file ∈ names ↔ ∃ known ∈ s.known, known.1 = file := by
    rw [← List.mem_eraseDups, ← h.known, List.mem_map]
  unfold Session.lines
  cases hfind : s.known.find? (·.1 == file) with
  | some known =>
    have hmem : file ∈ names :=
      hknown.mpr ⟨known, List.mem_of_find?_eq_some hfind, by simpa using List.find?_some hfind⟩
    refine ⟨?_, ?_⟩
    · rw [eraseDups_concat, if_pos hmem]
      exact h.reads
    · rw [eraseDups_concat, if_pos hmem]
      exact h.known
  | none =>
    have hmem : file ∉ names := by
      rw [hknown]
      rintro ⟨known, hk, hname⟩
      exact absurd (beq_iff_eq.mpr hname) (List.find?_eq_none.mp hfind known hk)
    refine ⟨?_, ?_⟩
    · rw [eraseDups_concat, if_neg hmem, h.reads]
    · rw [eraseDups_concat, if_neg hmem, List.map_append, h.known]
      rfl

theorem line? (h : s.Asked names) (reader : Reader) (span : Span) :
    (s.line? reader span.file span.line).2.Asked (names ++ span.needs.toList) := by
  unfold Session.line? Span.needs
  by_cases hspan : 0 < span.line ∧ span.file ≠ []
  · rw [if_pos hspan, if_neg (by simp [hspan])]
    exact h.lines reader span.file
  · have hnone : (span.line ≤ 0 || span.file.isEmpty) = true := by
      rw [Bool.or_eq_true, decide_eq_true_eq, List.isEmpty_iff]
      by_contra hnot
      exact hspan (by simpa using hnot)
    rw [if_neg hspan, if_pos hnone, Option.toList_none, List.append_nil]
    exact h

end Session.Asked

theorem asked_renderSpans (colored : Bool) (reader : Reader) (spans : List Span) (h : s.Asked names) :
    (renderSpans colored reader s spans).2.Asked (names ++ spans.filterMap Span.needs) := by
  induction spans generalizing s names with
  | nil =>
    rw [List.filterMap_nil, List.append_nil]
    exact h
  | cons span spans ih =>
    have hrest := ih (h.line? reader span)
    have hnames : span.needs.toList ++ spans.filterMap Span.needs = (span :: spans).filterMap Span.needs := by
      cases hneeds : span.needs <;> simp [hneeds]
    rw [List.append_assoc, hnames] at hrest
    exact hrest

/-- **A session has asked for each file once**, whatever it has shown. -/
theorem asked_renderAll (colored : Bool) (reader : Reader) (shown : List Snippet) (h : s.Asked names) :
    (renderAll colored reader s shown).2.Asked (names ++ needed shown) := by
  induction shown generalizing s names with
  | nil =>
    rw [needed, List.flatMap_nil, List.append_nil]
    exact h
  | cons snippet rest ih =>
    have hsnippet := asked_renderSpans colored reader snippet.spans h
    cases rest with
    | nil =>
      rw [needed, List.flatMap_singleton]
      exact hsnippet
    | cons next rest =>
      have hrest := ih hsnippet
      rw [List.append_assoc] at hrest
      exact hrest

/-- **Snippets in one session are the snippets of new sessions**, with a newline between neighbours, coloured or not,
and whatever the reader can read. The session asks its reader for every file that a span with a line needs, for each
once, in the order in which the files come up first, also if a file cannot be read. -/
theorem renderAll_eq_join (colored : Bool) (reader : Reader) (shown : List Snippet) :
    (renderAll colored reader {} shown).1 =
      Text.join "\n" (shown.map fun snippet => (render colored reader {} snippet).1) ∧
    (renderAll colored reader {} shown).2.reads = (needed shown).eraseDups :=
  ⟨renderAll_eq_fresh colored shown (faithful_new reader), (asked_renderAll colored reader shown asked_new).reads⟩

/-- Two snippets quote one file, which is read once; a file that cannot be read is asked for too. -/
theorem renderAll_of_one_file :
    let reader : Reader := fun name => if name = Text.ofString "a.c" then some "int x;\n\tgoto y;\n" else none
    let first : Snippet := { level := .error, message := "global", spans := [⟨"a.c", 1, 5, 5, "here"⟩] }
    let second : Snippet :=
      { level := .warning, code := "goto", message := "jump", spans := [⟨"a.c", 2, 0, 0, []⟩, ⟨"b.c", 3, 0, 0, []⟩] }
    let shown := renderAll false reader {} [first, second]
    shown.1 = Text.unlines ["error: global", "  --> a.c:1:5", "  |", "1 |  int x;", "  |      ^ here", "  |", "",
      "warning[goto]: jump", "  --> a.c:2", "  |", "2 |      goto y;", "  |      ^^^^^^^", "  |", "  --> b.c:3",
      "   |"] ∧
    shown.2.reads = ["a.c", "b.c"] := by
  intro reader first second shown
  obtain ⟨htext, hreads⟩ := renderAll_eq_join false reader [first, second]
  exact ⟨htext.trans (by decide +kernel), hreads.trans (by decide +kernel)⟩

/-- A file that cannot be read is asked for once, and one that nothing quotes never. -/
example :
    let reader : Reader := fun name => if name = Text.ofString "a.c" then some "int x;" else none
    let quotes (spans : List Span) : Snippet := { level := .error, message := "", spans := spans }
    let shown := [quotes [⟨"b.c", 1, 0, 0, []⟩, ⟨"a.c", 9, 0, 0, []⟩], quotes [⟨"c.c", 0, 0, 0, []⟩],
      quotes [⟨"a.c", 1, 0, 0, []⟩, ⟨"b.c", 2, 0, 0, []⟩]]
    (renderAll false reader {} shown).2.reads = ["b.c", "a.c"] := by
  decide +kernel

end HouseStyle.Snippet
