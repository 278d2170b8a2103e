import HouseStyle.Proofs.Rule.Scan
import HouseStyle.Proofs.Text.Pieces
import HouseStyle.Rule.Block

/-!
# Braces on lines of their own

The rule about braces and the block scan look at the same lines with different tests: the rule asks for a single
character, or for a semicolon at the end if the brace closes, and the scan asks for a brace at the front.

* A single character that is a brace is a brace line (`isOpeningBrace_of_lone`, `isClosingBrace_of_lone`).
* A line that begins with a closing brace and ends in a semicolon is one too (`isClosingBrace_of_trailer`).

The rule does not ask that the brace come first: **it accepts a brace that the scan does not see exactly if this brace
closes, something else begins the line and a semicolon ends it** (`unseen_brace_iff`). A list that is closed on the line
of its last item is such a case (`closing_after_item_unseen`).
-/

namespace HouseStyle

namespace Line

variable {line : Text}

/-- A line of a single character that holds ink holds nothing else. -/
theorem trim_of_lone {b : UInt8} (hb : Text.isInk b) (hlen : line.trim.length = 1) (hmem : b ∈ line) :
    line.trim = [b] := by
  obtain ⟨c, hc⟩ := List.length_eq_one_iff.mp hlen
  have htrim := Text.mem_trim hb hmem
  rw [hc, List.mem_singleton] at htrim
  rw [hc, htrim]

theorem isOpeningBrace_of_lone (hlen : line.trim.length = 1) (h : line.has '{') : isOpeningBrace line := by
  rw [isOpeningBrace, trim_of_lone (by decide) hlen (List.contains_iff_mem.mp h)]
  rfl

theorem isClosingBrace_of_lone (hlen : line.trim.length = 1) (h : line.has '}') : isClosingBrace line := by
  rw [isClosingBrace, trim_of_lone (by decide) hlen (List.contains_iff_mem.mp h)]
  rfl

theorem isClosingBrace_of_trailer (hlead : lead line = some (Text.byte '}')) (hend : line.endsWith ";") :
    isClosingBrace line := by
  have hlast : line.getLast? = some (Text.byte ';') := Text.endsWith_singleton.mp hend
  have hstart : line.trimLeft.startsWith "\x7d" := Text.startsWith_singleton.mpr hlead
  have hend : line.trimLeft.endsWith ";" := Text.endsWith_singleton.mpr (Text.getLast?_trimLeft (by decide) hlast)
  rw [isClosingBrace, Text.trim_of_getLast? (by decide) hlast]
  simp [hstart, hend]

end Line

namespace Rule

/-- What the rule asks of a line that does not continue a macro. -/
theorem braceMessages_eq_nil_iff {line : Text} (hend : line.trimRight.endsWith "\\" = false) :
    braceMessages line = [] ↔ (line.has '{' → line.trim.length = 1) ∧
      (line.has '}' → line.trim.length = 1 ∨ line.endsWith ";") := by
  have hlone : isLone line = (line.trim.length == 1) := by simp [isLone, hend]
  rw [braceMessages, hlone]
  by_cases hlen : line.trim.length = 1
  · simp [hlen, messagesWhere]
  · cases line.has '{' <;> cases line.has '}' <;> cases line.endsWith ";" <;> simp [hlen, messagesWhere]

/-- **The rule accepts a brace that the block scan does not see exactly if** the line holds no opening brace, ends in a
semicolon and begins with something else than a closing brace. Lines that continue a macro are left out. -/
theorem unseen_brace_iff (name : Text) (before : List Text) (line : Text) (after : List Text)
    (hbrace : line.has '{' ∨ line.has '}') (hend : line.trimRight.endsWith "\\" = false) :
    (ownLineBrace.IsSilentOn ⟨name, before ++ line :: after⟩ (before.length + 1) ∧
        ¬(Line.isOpeningBrace line ∨ Line.isClosingBrace line)) ↔
      line.has '{' = false ∧ line.endsWith ";" ∧ Line.lead line ≠ some (Text.byte '}') := by
  rw [isSilentOn_perLine rfl, braceMessages_eq_nil_iff hend, not_or]
  constructor
  · rintro ⟨⟨hopening, hclosing⟩, hunopened, hunclosed⟩
    have hopen : ¬line.has '{' := fun h => hunopened (Line.isOpeningBrace_of_lone (hopening h) h)
    have hclose : line.has '}' := hbrace.resolve_left hopen
    have hsemi : line.endsWith ";" :=
      (hclosing hclose).resolve_left fun hlen => hunclosed (Line.isClosingBrace_of_lone hlen hclose)
    exact ⟨Bool.eq_false_iff.mpr hopen, hsemi, fun hlead => hunclosed (Line.isClosingBrace_of_trailer hlead hsemi)⟩
  · rintro ⟨hopen, hsemi, hlead⟩
    refine ⟨⟨fun h => absurd h (by simp [hopen]), fun _ => .inr hsemi⟩, ?_, fun h => hlead (Line.lead_of_isClosingBrace h)⟩
    intro h
    rw [(Line.has_opening h).1] at hopen
    cases hopen

/-- The end of a loop is seen, as the rule is silent on it. -/
theorem unseen_brace_iff_trailer :
    let before : List Text := ["do", "\x7b"]
    let line : Text := "  \x7d while (x);"
    (line.has '{' ∨ line.has '}') ∧ line.trimRight.endsWith "\\" = false ∧
      ownLineBrace.IsSilentOn ⟨"a.c", before ++ line :: []⟩ 3 ∧
      (Line.isOpeningBrace line ∨ Line.isClosingBrace line) := by
  intro before line
  have hbrace : line.has '{' ∨ line.has '}' := by decide +kernel
  have hend : line.trimRight.endsWith "\\" = false := by decide +kernel
  have hsilent : ownLineBrace.IsSilentOn ⟨"a.c", before ++ line :: []⟩ 3 :=
    (isSilentOn_perLine rfl "a.c" before line []).mpr (by decide +kernel)
  refine ⟨hbrace, hend, hsilent, ?_⟩
  by_contra hunseen
  have hlead := ((unseen_brace_iff "a.c" before line [] hbrace hend).mp ⟨hsilent, hunseen⟩).2.2
  exact absurd hlead (by decide +kernel)

/-- A list that is closed on the line of its last item: the rule is silent, and the block that the scan opened before
it stays open. -/
theorem closing_after_item_unseen :
    let line : Text := "    1, 2 \x7d;"
    let lines : List Text := ["int t[] =", "\x7b", line]
    line.has '}' ∧ line.trimRight.endsWith "\\" = false ∧ ownLineBrace.verify ⟨"a.c", lines⟩ = [] ∧
      Line.isOpeningBrace line = false ∧ Line.isClosingBrace line = false ∧
      ((indentationLevel 4).verify ⟨"a.c", lines⟩).map (·.message) = ["Expected 1 more closing brace"] := by
  decide +kernel

end Rule

end HouseStyle
