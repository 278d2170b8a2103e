import HouseStyle.Proofs.Server.Edit
import HouseStyle.Proofs.Suppression.Directive
import HouseStyle.Server.Message

/-!
# Quick fixes and the directives of a line

A problem that is sent back as it was published, with its code, is answered by one fix (`Shows.offers`), whose edit
appends a comment to the line of the problem (`Shows.appends`).

* **On a line without a directive the fix works** (`quick_fix_silences`): the line gets the directive that names the
  rule, and the rule reports nothing there any more.
* **On a line with a directive it does not** (`quick_fix_after_directive`): the rule is reported as before, and the last
  of the names that the directive lists may be lost.
-/

namespace HouseStyle.Server

open Text (byte)
open Suppression (directive? silences suppressed IsName)

/-! ## Problems sent back -/

namespace Message

theorem uint32?_nat {n : Nat} (h : n ≤ maxNumber) : uint32? (.nat n) = some n := by
  have hn : (n : Int) ≤ (maxNumber : Int) := Int.ofNat_le.mpr h
  simp [uint32?, integer?, Json.nat, hn]

theorem point?_ofPoint {p : Point} (hl : p.line ≤ maxNumber) (hc : p.character ≤ maxNumber) :
    point? (ofPoint p) = some p := by
  have hline : (ofPoint p).get "line" = .nat p.line := rfl
  have hcharacter : (ofPoint p).get "character" = .nat p.character := rfl
  have hobject : object? (ofPoint p) = some (ofPoint p) := rfl
  simp [point?, hobject, hline, hcharacter, uint32?_nat hl, uint32?_nat hc]

theorem range?_ofRange {r : Range} (hstart : point? (ofPoint r.start) = some r.start)
    (hstop : point? (ofPoint r.stop) = some r.stop) : range? (ofRange r) = some r := by
  have hget : (ofRange r).get "start" = ofPoint r.start ∧ (ofRange r).get "end" = ofPoint r.stop := ⟨rfl, rfl⟩
  have hobject : object? (ofRange r) = some (ofRange r) := rfl
  simp [range?, hobject, hget, hstart, hstop]

/-- A published problem is read back as it was written. -/
theorem problem?_ofProblem {p : Problem} (hrange : range? (ofRange p.range) = some p.range)
    (hseverity : p.severity ≤ 3) : ∃ whole,
    problem? true (ofProblem p) = some ⟨p.range, some problemSource, some (.text p.code), whole⟩ := by
  have hobject : object? (ofProblem p) = some (ofProblem p) := rfl
  have hget : (ofProblem p).get "range" = ofRange p.range ∧ (ofProblem p).get "severity" = .nat p.severity ∧
      (ofProblem p).get "code" = .string p.code ∧ (ofProblem p).get "source" = .string problemSource ∧
      (ofProblem p).get "message" = .string p.message := ⟨rfl, rfl, rfl, rfl, rfl⟩
  have hnull : (ofProblem p).get "codeDescription" = .null ∧ (ofProblem p).get "tags" = .null ∧
      (ofProblem p).get "relatedInformation" = .null := ⟨rfl, rfl, rfl⟩
  have hint : int32? (.nat p.severity) = some (p.severity : Int) := by
    have hbound : (p.severity : Int) ≤ 2147483647 := by omega
    simp [int32?, integer?, Json.nat, hbound]
  obtain ⟨hgetRange, hgetSeverity, hgetCode, hgetSource, hgetMessage⟩ := hget
  obtain ⟨hnoLink, hnoTags, hnoRelated⟩ := hnull
  have hcode : optional? code? (.string p.code) = some (some (.text p.code)) := rfl
  have hsource : optional? text? (.string problemSource) = some (some problemSource) := rfl
  have hsev : optional? int32? (.nat p.severity) = some (some (p.severity : Int)) := by
    rw [optional?, hint]
    rfl
  refine ⟨?whole, ?same⟩
  case same =>
    simp only [problem?, hobject, hgetRange, hgetSeverity, hgetCode, hgetSource, hgetMessage, hnoLink, hnoTags,
      hnoRelated, hrange, hcode, hsource, hsev, Option.bind_eq_bind, Option.bind_some]
    rfl

end Message

/-! ## The fix that is offered -/

theorem clamp_natCast {n : Nat} (h : n ≤ maxNumber) : clamp n = n := Nat.min_eq_left h

/-- The edit that appends to a line the comment that suppresses a rule there. -/
def appending (i : Nat) (line rule : Text) : TextEdit :=
  ⟨⟨⟨i, units16 line⟩, ⟨i, units16 line⟩⟩, " " ++ QuickFix.comment line rule⟩

theorem edit_suppress {lines : List Text} {problem : ShownProblem} {i : Nat} {p line rule : Text}
    (hstart : problem.range.start.line = i) (hp : lines[i]? = some p) (hline : p.trimSuffix "\r" = line)
    (hfits : units16 line ≤ maxNumber) : (QuickFix.suppress lines problem rule).edit = appending i line rule := by
  simp only [QuickFix.suppress, hstart, hp, Option.getD_some, hline, clamp_natCast hfits, appending]

/-- A problem of ours that names a rule and is about a line has a fix. -/
theorem QuickFix.ofProblem?_of_ours {lines : List Text} {problem : ShownProblem} {rule : Text}
    (hsource : problem.source = some problemSource) (hcode : problem.code = some (.text rule))
    (hrange : problem.range.start ≠ problem.range.stop) (hrule : rule ≠ []) :
    QuickFix.ofProblem? lines problem = some (QuickFix.suppress lines problem rule) := by
  simp [QuickFix.ofProblem?, hcode, hsource, hrange, ProblemCode.name, hrule]

theorem QuickFix.all_singleton {content : Text} {only : List Text} {problem : ShownProblem} {fix : QuickFix}
    (honly : only = [] ∨ QuickFix.kind ∈ only) (hfix : QuickFix.ofProblem? (content.pieces '\n') problem = some fix) :
    QuickFix.all content only [problem] = [fix] := by
  have hasked : (!only.isEmpty && !only.contains QuickFix.kind) = false := by
    rcases honly with rfl | honly
    · rfl
    · simp [honly]
  rw [QuickFix.all, hasked]
  simp [hfix]

/-- A session shows a diagnostic at the line with index `i` of an open document. The line is not empty, and its end is a
place that a message can tell, as every line's is in a document that has arrived in a message. -/
structure Shows (s : Session) (doc : Document) (d : Diagnostic) (i : Nat) (line : Text) : Prop where
  isOpen : s.docs.get? doc.uri = some doc
  reported : d ∈ lintFile s.rules (pathOfUri doc.uri) doc.content
  position : d.pos.line = i + 1
  atLine : (splitLines doc.content)[i]? = some line
  notEmpty : line ≠ []
  fits : i ≤ maxNumber ∧ units16 line ≤ maxNumber

/-- The session answers the problem of a diagnostic, sent back with its code, by one fix, which has this edit. -/
def Offers (s : Session) (doc : Document) (d : Diagnostic) (only : List Text) (edit : TextEdit) : Prop :=
  ∃ shown fix, Message.problem? true (Message.ofProblem (Session.problemOf (splitLines doc.content) d)) = some shown ∧
    (s.handle (.quickFixes doc.uri only [shown])).answer = .fixes doc.uri [fix] ∧ fix.edit = edit

variable {s : Session} {doc : Document} {d : Diagnostic} {i : Nat} {line : Text} {only : List Text}

namespace Shows

theorem lineRange (h : Shows s doc d i line) :
    lineRange (splitLines doc.content) d.pos.line = ⟨⟨i, 0⟩, ⟨i, units16 line⟩⟩ := by
  have hindex : (d.pos.line - 1).toNat = i := by rw [h.position]; omega
  have hclamp : clamp (d.pos.line - 1) = i := by
    rw [h.position, Int.add_sub_cancel, clamp_natCast h.fits.1]
  rw [Server.lineRange, if_neg (by rw [h.position]; omega), hindex, h.atLine]
  simp only [hclamp, clamp_natCast h.fits.2]

/-- The problem of the diagnostic has a range that is not empty and can be read back. -/
theorem range?_lineRange (h : Shows s doc d i line) :
    Message.range? (Message.ofRange (Server.lineRange (splitLines doc.content) d.pos.line)) =
      some (Server.lineRange (splitLines doc.content) d.pos.line) := by
  rw [h.lineRange]
  exact Message.range?_ofRange (Message.point?_ofPoint h.fits.1 (Nat.zero_le _))
    (Message.point?_ofPoint h.fits.1 h.fits.2)

/-- **The problem is answered by one fix,** which appends a comment to the line. -/
theorem offers (h : Shows s doc d i line) (hrule : d.rule ≠ []) (honly : only = [] ∨ QuickFix.kind ∈ only) :
    Offers s doc d only (appending i line d.rule) := by
  have hseverity : Session.severityNumber d.severity ≤ 3 := by cases d.severity <;> decide
  obtain ⟨whole, hshown⟩ := Message.problem?_ofProblem (p := Session.problemOf (splitLines doc.content) d)
    h.range?_lineRange hseverity
  have hrange : (Session.problemOf (splitLines doc.content) d).range = ⟨⟨i, 0⟩, ⟨i, units16 line⟩⟩ := h.lineRange
  rw [hrange] at hshown
  obtain ⟨p, _, hpiece, hline⟩ := splitLines_getElem? h.atLine
  have hne : (⟨i, 0⟩ : Point) ≠ ⟨i, units16 line⟩ := by
    have hpos := units16_pos h.notEmpty
    simp only [ne_eq, Point.mk.injEq, true_and]
    omega
  let shown : ShownProblem := ⟨⟨⟨i, 0⟩, ⟨i, units16 line⟩⟩, some problemSource, some (.text d.rule), whole⟩
  have hfix : QuickFix.ofProblem? (doc.content.pieces '\n') shown = some (QuickFix.suppress _ shown d.rule) :=
    QuickFix.ofProblem?_of_ours rfl rfl hne hrule
  have hedit : (QuickFix.suppress (doc.content.pieces '\n') shown d.rule).edit = appending i line d.rule :=
    edit_suppress rfl hpiece hline h.fits.2
  refine ⟨shown, _, hshown, ?_, hedit⟩
  rw [Session.handle, h.isOpen, Option.elim_some, QuickFix.all_singleton honly hfix]

end Shows

/-! ## What the fix appends -/

/-- The rules of the convention have names of small letters and hyphens. -/
theorem isName_of_mem_convention {limits : Limits} {rule : Rule} (h : rule ∈ convention limits) : IsName rule.name := by
  have hall : ∀ name ∈ (convention {}).map (·.name), IsName name := by decide +kernel
  -- The limits do not enter the names.
  have hnames : (convention limits).map (·.name) = (convention {}).map (·.name) := rfl
  exact hall rule.name (hnames ▸ List.mem_map_of_mem h)

/-- The comment begins with a slash, names the rule, and stays on its line. -/
theorem exists_comment {rule : Text} (line : Text) (h : IsName rule) : ∃ u, QuickFix.comment line rule = byte '/' :: u ∧
    directive? (byte '/' :: u) = some rule ∧ byte ',' ∉ u ∧ byte '\n' ∉ u ∧ byte '\r' ∉ u := by
  have hnot : byte ',' ∉ rule ∧ byte '\n' ∉ rule ∧ byte '\r' ∉ rule :=
    ⟨h.not_mem (by decide), h.not_mem (by decide), h.not_mem (by decide)⟩
  unfold QuickFix.comment
  split
  · refine ⟨Text.ofString "* nolint:" ++ rule ++ Text.ofString " */", rfl, Suppression.directive?_blockComment h, ?_⟩
    simp only [List.mem_append, not_or, hnot, not_false_eq_true, and_true]
    decide
  · refine ⟨Text.ofString "/ nolint:" ++ rule, rfl, Suppression.directive?_lineComment h, ?_⟩
    simp only [List.mem_append, not_or, hnot, not_false_eq_true, and_true]
    decide

namespace Shows

/-- **The edit appends the comment to the line** and changes no other line. -/
theorem appends (h : Shows s doc d i line) (hrule : IsName d.rule) :
    (appending i line d.rule).Appends doc.content i line := by
  obtain ⟨u, hcomment, _, _, hnl, hcr⟩ := exists_comment line hrule
  have htext : Text.ofString " " ++ QuickFix.comment line d.rule = byte ' ' :: byte '/' :: u := by
    rw [hcomment]
    rfl
  refine appends_at_end h.atLine ?_ ?_ ?_
  · simp [htext]
  · rw [htext]
    simpa [hnl] using (by decide : byte '\n' ≠ byte ' ' ∧ byte '\n' ≠ byte '/')
  · rw [htext]
    simpa [hcr] using (by decide : byte '\r' ≠ byte ' ' ∧ byte '\r' ≠ byte '/')

/-- The line after the edit is at its place. -/
theorem getElem?_apply (h : Shows s doc d i line) (hrule : IsName d.rule) :
    (splitLines ((appending i line d.rule).apply doc.content))[i]? =
      some (line ++ (appending i line d.rule).newText) := by
  have hi : i < (splitLines doc.content).length := (List.getElem?_eq_some_iff.mp h.atLine).1
  rw [(h.appends hrule).lines, List.getElem?_set_self hi]

end Shows

/-! ## Lines without and with a directive -/

variable {limits : Limits} {rule : Rule}

/-- **A quick fix works on a line without a directive.** Let a session show a diagnostic of a rule of the convention at
such a line. The problem, sent back with its code, is answered by one fix. Its edit appends to this line only; the line
then carries the directive that names the rule, and the rule reports nothing there. -/
theorem quick_fix_silences (h : Shows s doc d i line) (hrule : rule ∈ convention limits) (hd : d.rule = rule.name)
    (hline : directive? line = none) (honly : only = [] ∨ QuickFix.kind ∈ only) :
    ∃ edit, Offers s doc d only edit ∧ edit.Appends doc.content i line ∧
      directive? (line ++ edit.newText) = some rule.name ∧
      ∀ d' ∈ lintFile s.rules (pathOfUri doc.uri) (edit.apply doc.content),
        d'.rule = rule.name → d'.pos.line ≠ i + 1 := by
  have hname : IsName d.rule := hd ▸ isName_of_mem_convention hrule
  obtain ⟨u, hcomment, hu, _⟩ := exists_comment line hname
  have hdirective : directive? (line ++ (appending i line d.rule).newText) = some d.rule := by
    rw [appending, hcomment]
    exact (Suppression.directive?_append_of_none hline u).trans hu
  refine ⟨appending i line d.rule, h.offers hname.1 honly, h.appends hname, hd ▸ hdirective, ?_⟩
  intro d' hd' hrule' hpos
  have hsuppressed := Suppression.suppressed_of_line hpos (h.getElem?_apply hname)
  rw [(Suppression.mem_lintFile.mp hd').2, hdirective, Option.any_some, hrule', ← hd,
    Suppression.silences_name hname] at hsuppressed
  cases hsuppressed

/-- The line holds a comment that is not closed, in which further ones begin, and ends in a carriage return. -/
theorem quick_fix_silences_open_comment :
    let line : Text := "goto end; /*/ é // *"
    let doc : Document := ⟨"file:///a.c", 1, "x\r\n" ++ line ++ "\r\n"⟩
    let s : Session := { rules := convention {}, limits := {}, docs := [doc] }
    let d : Diagnostic := ⟨⟨"/a.c", 2, 0⟩, "Goto statement unauthorized", "goto", .error, []⟩
    Shows s doc d 1 line ∧ directive? line = none ∧ ∃ edit, Offers s doc d [] edit ∧ edit.Appends doc.content 1 line ∧
      directive? (line ++ edit.newText) = some "goto" ∧
      ∀ d' ∈ lintFile s.rules (pathOfUri doc.uri) (edit.apply doc.content), d'.rule = "goto" → d'.pos.line ≠ 2 := by
  intro line doc s d
  have hrule : Rule.goto ∈ convention {} := by simp [convention]
  have hreported : d ∈ lintFile s.rules (pathOfUri doc.uri) doc.content :=
    Suppression.mem_lintFile.mpr ⟨⟨Rule.goto, hrule, by decide +kernel⟩, by decide +kernel⟩
  have hshows : Shows s doc d 1 line :=
    ⟨by decide +kernel, hreported, rfl, by decide +kernel, by decide +kernel, by decide +kernel⟩
  have hline : directive? line = none := by decide +kernel
  exact ⟨hshows, hline, quick_fix_silences hshows hrule rfl hline (Or.inl rfl)⟩

/-- **A quick fix does not work on a line with a directive.** Let a session show a diagnostic of a rule of the
convention at a line whose directive lists names. The edit of the fix appends to this line as always, but the directive
stays the first: the rule is not silenced, and the directive silences either the same rules as before or, if the text of
the fix runs into its last name, those that it names before the last. -/
theorem quick_fix_after_directive {names : Text} (h : Shows s doc d i line) (hrule : rule ∈ convention limits)
    (hd : d.rule = rule.name) (hline : directive? line = some names) (hnames : names ≠ [])
    (honly : only = [] ∨ QuickFix.kind ∈ only) :
    ∃ edit names', Offers s doc d only edit ∧ edit.Appends doc.content i line ∧
      directive? (line ++ edit.newText) = some names' ∧
      (names' = names ∨ ∀ name, IsName name → silences names' name = (names.pieces ',').dropLast.any (·.trim == name)) ∧
      ∀ d' : Diagnostic, d'.rule = rule.name → d'.pos.line = i + 1 →
        suppressed (splitLines (edit.apply doc.content)) d' = false := by
  have hname : IsName d.rule := hd ▸ isName_of_mem_convention hrule
  obtain ⟨u, hcomment, _, hcomma, _⟩ := exists_comment line hname
  obtain ⟨names', hnames', hspoils⟩ := Suppression.directive?_append_of_some hline hnames u
  have hdirective : directive? (line ++ (appending i line d.rule).newText) = some names' := by
    rw [appending, hcomment]
    exact hnames'
  have hcases : names' = names ∨
      ∀ name, IsName name → silences names' name = (names.pieces ',').dropLast.any (·.trim == name) := by
    by_cases hsame : names' = names
    · exact Or.inl hsame
    · exact Or.inr fun name hn => Suppression.silences_of_spoils hspoils hcomma hsame hn
  -- The diagnostic is shown, so the directive does not list its rule, and the appended text does not add it.
  have hbefore : silences names d.rule = false := by
    have hsuppressed := Suppression.suppressed_of_line h.position h.atLine
    rw [(Suppression.mem_lintFile.mp h.reported).2, hline, Option.any_some] at hsuppressed
    exact hsuppressed.symm
  have hafter : silences names' d.rule = false := by
    rcases hcases with rfl | hcases
    · exact hbefore
    · rw [silences, Bool.or_eq_false_iff, List.any_eq_false] at hbefore
      rw [hcases d.rule hname, List.any_eq_false]
      exact fun name hmem => hbefore.2 name ((List.dropLast_prefix _).subset hmem)
  refine ⟨appending i line d.rule, names', h.offers hname.1 honly, h.appends hname, hdirective, hcases, ?_⟩
  intro d' hrule' hpos
  rw [Suppression.suppressed_of_line hpos (h.getElem?_apply hname), hdirective, Option.any_some, hrule', ← hd, hafter]

/-- The directive stands in a block comment that is closed. -/
theorem quick_fix_after_block_comment :
    let line : Text := "goto a,b; /* nolint:comma */"
    let doc : Document := ⟨"file:///a.c", 1, line ++ "\n"⟩
    let s : Session := { rules := convention {}, limits := {}, docs := [doc] }
    let d : Diagnostic := ⟨⟨"/a.c", 1, 0⟩, "Goto statement unauthorized", "goto", .error, []⟩
    Shows s doc d 0 line ∧ ∃ edit names', Offers s doc d [] edit ∧ edit.Appends doc.content 0 line ∧
      directive? (line ++ edit.newText) = some names' ∧
      (names' = "comma" ∨ ∀ name, IsName name → silences names' name = false) ∧
      ∀ d' : Diagnostic, d'.rule = "goto" → d'.pos.line = 1 →
        suppressed (splitLines (edit.apply doc.content)) d' = false := by
  intro line doc s d
  have hrule : Rule.goto ∈ convention {} := by simp [convention]
  have hreported : d ∈ lintFile s.rules (pathOfUri doc.uri) doc.content :=
    Suppression.mem_lintFile.mpr ⟨⟨Rule.goto, hrule, by decide +kernel⟩, by decide +kernel⟩
  have hshows : Shows s doc d 0 line :=
    ⟨by decide +kernel, hreported, rfl, by decide +kernel, by decide +kernel, by decide +kernel⟩
  have hline : directive? line = some "comma" := by decide +kernel
  exact ⟨hshows, quick_fix_after_directive hshows hrule rfl hline (by decide) (Or.inl rfl)⟩

/-- The directive stands in a line comment: the fix does not silence its rule, and the rule that was listed is reported
again. -/
theorem stacked_directive_lost :
    let line : Text := "goto a,b; // nolint:comma"
    let doc : Document := ⟨"file:///a.c", 1, line ++ "\n"⟩
    let s : Session := { rules := convention {}, limits := {}, docs := [doc] }
    let d : Diagnostic := ⟨⟨"/a.c", 1, 0⟩, "Goto statement unauthorized", "goto", .error, []⟩
    let listed : Diagnostic :=
      ⟨⟨"/a.c", 1, 0⟩, "Comma must be followed by exactly one whitespace", "comma", .warning, []⟩
    ∃ edit, Shows s doc d 0 line ∧ Offers s doc d [] edit ∧
      suppressed (splitLines doc.content) listed ∧ d ∈ lintFile s.rules (pathOfUri doc.uri) (edit.apply doc.content) ∧
      listed ∈ lintFile s.rules (pathOfUri doc.uri) (edit.apply doc.content) := by
  intro line doc s d listed
  have hgoto : Rule.goto ∈ convention {} := by simp [convention]
  have hcomma : Rule.comma ∈ convention {} := by simp [convention]
  have hreported : d ∈ lintFile s.rules (pathOfUri doc.uri) doc.content :=
    Suppression.mem_lintFile.mpr ⟨⟨Rule.goto, hgoto, by decide +kernel⟩, by decide +kernel⟩
  have hshows : Shows s doc d 0 line :=
    ⟨by decide +kernel, hreported, rfl, by decide +kernel, by decide +kernel, by decide +kernel⟩
  refine ⟨appending 0 line d.rule, hshows, hshows.offers (by decide) (Or.inl rfl), by decide +kernel, ?_, ?_⟩
  · exact Suppression.mem_lintFile.mpr ⟨⟨Rule.goto, hgoto, by decide +kernel⟩, by decide +kernel⟩
  · exact Suppression.mem_lintFile.mpr ⟨⟨Rule.comma, hcomma, by decide +kernel⟩, by decide +kernel⟩

end HouseStyle.Server
