import HouseStyle.Proofs.Source.Directive
import HouseStyle.Proofs.Source.Lines
import HouseStyle.Proofs.Text.Codes
import HouseStyle.Proofs.Text.Digits
import HouseStyle.Rule.HeaderGuard

/-!
# Headers that can be guarded

The rule about header guards asks for a guard that the name of the file fixes. A header is written for it by putting its
guard around a body (`guarded`).

* The guard is made of letters, digits and underscores (`isIdent_of_mem_guardName`), and it begins with a digit exactly
  if the base name of the file does (`head?_guardName`).
* **A guard that begins with no digit is read back**, so a guarded header passes, whatever its body
  (`verify_guarded`).
* **A guard that begins with a digit is the argument of no directive**, so no content at all passes
  (`verify_ne_nil`).

Hence the rule can be satisfied for a header exactly if its base name begins with no digit (`headerGuard_satisfiable`).
-/

namespace HouseStyle

/-! ## Digits in upper case -/

/-- The upper-case form of a code above `@` is above it, and codes up to it have no other form. -/
theorem Glyph.upperCode_eq_iff {c d : Nat} (hd : d ≤ 0x40) : upperCode c = d ↔ c = d := by
  have hruns : ∀ run ∈ upperRuns, 0x40 < run.1 ∧ 0x40 < run.2.2.2 := by decide +kernel
  rw [upperCode, shiftBy]
  split
  · next lo hi step image hfind =>
    have hrun := hruns _ (List.mem_of_find?_eq_some hfind)
    have hlo := List.find?_some hfind
    simp only [Bool.and_eq_true, decide_eq_true_eq] at hlo
    dsimp only at hrun
    omega
  · rfl

namespace Text

/-- A byte up to `@` is the first of a text in upper case exactly if it is the first of the text. -/
theorem head?_upper {b : UInt8} (hb : b.toNat ≤ 0x40) (t : Text) : t.upper.head? = some b ↔ t.head? = some b := by
  have hascii : b < 0x80 := by
    rw [UInt8.lt_iff_toNat_lt]
    exact Nat.lt_of_le_of_lt hb (by decide)
  have hencode : ∀ c : Nat, (Glyph.encode c).head? = some b ↔ c = b.toNat := by
    intro c
    constructor
    · intro h
      exact Glyph.code_of_mem_encode hascii (List.mem_of_head? h)
    · rintro rfl
      rw [Glyph.encode_ascii hascii]
      rfl
  rw [← head?_codes (t := t) hascii, upper]
  cases h : t.codes with
  | nil => simp [ofCodes]
  | cons c cs =>
    have hne : (Glyph.encode (Glyph.upperCode c)).head? ≠ none := by
      rw [Ne, List.head?_eq_none_iff, ← List.length_eq_zero_iff]
      have hlen := (Glyph.length_encode (Glyph.upperCode c)).1
      omega
    rw [List.map_cons, ofCodes, List.flatMap_cons, List.head?_append_of_ne_nil _ (by simpa using hne), hencode,
      Glyph.upperCode_eq_iff hb, List.head?_cons, Option.some.injEq]

end Text

/-! ## The guard of a file -/

namespace Rule

variable {name : Text}

theorem exists_guardName_eq (name : Text) : ∃ front, guardName name = front ++ [Text.byte '_'] := ⟨_, rfl⟩

/-- **The guard is made of letters, digits and underscores.** -/
theorem isIdent_of_mem_guardName {b : UInt8} (h : b ∈ guardName name) : Text.isIdent b := by
  rcases List.mem_append.mp h with h | h
  · obtain ⟨c, _, rfl⟩ := List.mem_map.mp h
    by_cases hc : isGuardByte c
    · rw [if_pos hc]
      simp only [isGuardByte, Bool.or_eq_true] at hc
      simp only [Text.isIdent, Text.isLetter, Bool.or_eq_true]
      tauto
    · rw [if_neg hc]
      decide
  · rw [List.mem_singleton.mp h]
    decide

theorem not_mem_guardName {b : UInt8} (hb : Text.isIdent b = false) : b ∉ guardName name := by
  intro h
  rw [isIdent_of_mem_guardName h] at hb
  cases hb

/-- **The guard begins with a digit exactly if the base name does.** -/
theorem head?_guardName (name : Text) :
    (guardName name).head?.any Text.isDigit = (Path.base name).head?.any Text.isDigit := by
  have hdigit : ∀ b : UInt8, Text.isDigit (if isGuardByte b then b else Text.byte '_') = Text.isDigit b := by
    intro b
    by_cases hb : isGuardByte b
    · rw [if_pos hb]
    · have hnot : Text.isDigit b = false := by
        rw [isGuardByte, Bool.or_eq_true, not_or] at hb
        simpa using hb.2
      rw [if_neg hb, hnot]
      decide
  have hupper : (guardName name).head?.any Text.isDigit = (Path.base name).upper.head?.any Text.isDigit := by
    rw [guardName]
    cases (Path.base name).upper with
    | nil => decide
    | cons b t => exact hdigit b
  have hbound : ∀ b : UInt8, Text.isDigit b → b.toNat ≤ 0x40 := by
    intro b hb
    exact Nat.le_trans (Text.isDigit_iff.mp hb).2 (by decide)
  rw [hupper, Bool.eq_iff_iff, Option.any_eq_true, Option.any_eq_true]
  constructor
  · rintro ⟨b, hhead, hb⟩
    exact ⟨b, (Text.head?_upper (hbound b hb) _).mp hhead, hb⟩
  · rintro ⟨b, hhead, hb⟩
    exact ⟨b, (Text.head?_upper (hbound b hb) _).mpr hhead, hb⟩

/-- A guard that begins with no digit begins as an identifier. -/
theorem head?_guardName_isNameByte (h : (guardName name).head?.any Text.isDigit = false) :
    (guardName name).head?.any Directive.isNameByte := by
  obtain ⟨front, hfront⟩ := exists_guardName_eq name
  obtain ⟨b, t, hguard⟩ : ∃ b t, guardName name = b :: t :=
    List.exists_cons_of_ne_nil (by rw [hfront]; simp)
  have hmem : b ∈ guardName name := hguard ▸ List.mem_cons_self
  have hident : Text.isIdent b := isIdent_of_mem_guardName hmem
  rw [hguard] at h ⊢
  simp only [List.head?_cons, Option.any_some] at h ⊢
  simpa [Text.isIdent, Directive.isNameByte, h, or_comm] using hident

/-! ## Guarded headers -/

/-- A header with this body and the guard that the name of the file asks for. -/
def guarded (name : Text) (body : List Text) : Text :=
  Text.unlines (["#ifndef " ++ guardName name, "#define " ++ guardName name] ++ body ++
    ["#endif /* !" ++ guardName name ++ " */"])

/-- A guard that begins with no digit is read back after the name of a directive. -/
theorem parse?_guard (h : (guardName name).head?.any Text.isDigit = false) (word : Text) (hne : word ≠ [])
    (hword : ∀ b ∈ word, Directive.isNameByte b) :
    Directive.parse? (Text.byte '#' :: (word ++ Text.byte ' ' :: guardName name)) =
      some ⟨word, guardName name, []⟩ := by
  obtain ⟨front, hfront⟩ := exists_guardName_eq name
  have htrim : Text.trim (Text.byte '#' :: (word ++ Text.byte ' ' :: guardName name)) =
      Text.byte '#' :: (word ++ Text.byte ' ' :: guardName name) := by
    have hself := Text.trim_eq_self (word ++ Text.byte ' ' :: front) (b := Text.byte '#') (c := Text.byte '_')
      (by decide) (by decide)
    rw [List.append_assoc, List.cons_append, ← hfront] at hself
    exact hself
  have hfirst := head?_guardName_isNameByte h
  have hgap : (Text.byte ' ' :: guardName name).dropWhile Directive.isGap = guardName name := by
    rw [List.dropWhile_cons_of_pos (by decide)]
    cases hguard : guardName name with
    | nil => rfl
    | cons b t =>
      rw [hguard] at hfirst
      rw [List.dropWhile_cons_of_neg]
      rw [Directive.isGap_of_isNameByte (by simpa using hfirst)]
      exact Bool.false_ne_true
  rw [Directive.parse?_of_trim htrim hne hword rfl, hgap,
    Directive.takeArg_eq_self hfirst fun b hb => isIdent_of_mem_guardName hb]
  rfl

/-- The last line is read as the end of the guard. -/
theorem parse?_endif (name : Text) :
    ∃ d, Directive.parse? ("#endif /* !" ++ guardName name ++ " */") = some d ∧ d.name = Text.ofString "endif" := by
  have htrim : Text.trim ("#endif /* !" ++ guardName name ++ " */") =
      Text.byte '#' :: (Text.ofString "endif" ++ (Text.ofString " /* !" ++ guardName name ++ " */")) := by
    have hself := Text.trim_eq_self (Text.ofString "endif /* !" ++ guardName name ++ Text.ofString " *")
      (b := Text.byte '#') (c := Text.byte '/') (by decide) (by decide)
    have hlast : Text.ofString " */" = Text.ofString " *" ++ [Text.byte '/'] := by decide
    have hfirst : Text.ofString "#endif /* !" = Text.byte '#' :: Text.ofString "endif /* !" := by decide
    have hword : Text.ofString "endif /* !" = Text.ofString "endif" ++ Text.ofString " /* !" := by decide
    rw [hlast, hfirst]
    simp only [List.cons_append, List.append_assoc] at hself ⊢
    rw [hself, hword]
    simp only [List.append_assoc]
  exact ⟨_, Directive.parse?_of_trim htrim (by decide) (by decide +kernel) rfl, rfl⟩

theorem directivesFrom_append (n : Nat) (lines lines' : List Text) :
    directivesFrom n (lines ++ lines') = directivesFrom n lines ++ directivesFrom (n + lines.length) lines' := by
  induction lines generalizing n with
  | nil => rfl
  | cons line lines ih =>
    have hlen : n + 1 + lines.length = n + (line :: lines).length := by
      rw [List.length_cons]
      omega
    rw [List.cons_append, directivesFrom, directivesFrom, ih, hlen]
    split <;> rfl

/-- A line with the guard in it is a line of the file. -/
theorem splitLines_guardLine {t u : Text} (h : ∀ b ∈ [Text.byte '\n', Text.byte '\r'], b ∉ t ∧ b ∉ u) (rest : Text) :
    splitLines (t ++ guardName name ++ u ++ Text.byte '\n' :: rest) =
      (t ++ guardName name ++ u) :: splitLines rest := by
  have hnot : ∀ b ∈ [Text.byte '\n', Text.byte '\r'], b ∉ t ++ guardName name ++ u := by
    intro b hb
    have hident : Text.isIdent b = false := by
      rcases List.mem_pair.mp hb with rfl | rfl <;> decide
    simp only [List.mem_append, not_or]
    exact ⟨⟨(h b hb).1, not_mem_guardName hident⟩, (h b hb).2⟩
  rw [splitLines_line (hnot _ (by simp)), trimSuffix_of_not_mem (hnot _ (by simp))]

/-- The lines of a guarded header: two that begin the guard, those of the body, and one that ends the guard. -/
theorem splitLines_guarded (name : Text) (body : List Text) :
    splitLines (guarded name body) =
      ("#ifndef " ++ guardName name) :: ("#define " ++ guardName name) ::
        (splitLines (Text.unlines body) ++ ["#endif /* !" ++ guardName name ++ " */"]) := by
  have hcontent : guarded name body =
      Text.ofString "#ifndef " ++ guardName name ++ [] ++ Text.byte '\n' ::
        (Text.ofString "#define " ++ guardName name ++ [] ++ Text.byte '\n' ::
          (Text.unlines body ++
            (Text.ofString "#endif /* !" ++ guardName name ++ Text.ofString " */" ++ Text.byte '\n' :: []))) := by
    simp [guarded, Text.unlines]
  rw [hcontent, splitLines_guardLine (by decide +kernel), splitLines_guardLine (by decide +kernel),
    splitLines_unlines_append, splitLines_guardLine (by decide +kernel), List.append_nil, List.append_nil]
  rfl

/-- **A guarded header passes**, whatever its body, if its guard begins with no digit. -/
theorem verify_guarded (h : (guardName name).head?.any Text.isDigit = false) (body : List Text) :
    headerGuard.verify (Source.ofContent name (guarded name body)) = [] := by
  have hifndef : Directive.parse? ("#ifndef " ++ guardName name) = some ⟨"ifndef", guardName name, []⟩ :=
    parse?_guard h "ifndef" (by decide) (by decide +kernel)
  have hdefine : Directive.parse? ("#define " ++ guardName name) = some ⟨"define", guardName name, []⟩ :=
    parse?_guard h "define" (by decide) (by decide +kernel)
  obtain ⟨last, hlast, hendif⟩ := parse?_endif name
  rw [verify, List.map_eq_nil_iff, headerGuard]
  dsimp only
  split
  · rw [Source.ofContent, splitLines_guarded]
    simp only [directivesFrom, hifndef, hdefine, directivesFrom_append, hlast]
    rw [guardFindings]
    simp [hendif]
  · rfl

/-! ## Headers that cannot be guarded -/

theorem mem_directivesFrom {e : Nat × Directive} : ∀ {n : Nat} {lines : List Text}, e ∈ directivesFrom n lines →
    ∃ line ∈ lines, Directive.parse? line = some e.2
  | _, [], h => by cases h
  | n, line :: lines, h => by
    rw [directivesFrom] at h
    split at h
    · next d hd =>
      rcases List.mem_cons.mp h with rfl | h
      · exact ⟨line, List.mem_cons_self, hd⟩
      · obtain ⟨line', hline', hd'⟩ := mem_directivesFrom h
        exact ⟨line', List.mem_cons_of_mem line hline', hd'⟩
    · obtain ⟨line', hline', hd'⟩ := mem_directivesFrom h
      exact ⟨line', List.mem_cons_of_mem line hline', hd'⟩

/-- A guard that begins with a digit is the argument of no directive. -/
theorem arg_ne_guardName (h : (guardName name).head?.any Text.isDigit) {line : Text} {d : Directive}
    (hd : Directive.parse? line = some d) : d.arg ≠ guardName name := by
  intro harg
  rw [← harg] at h
  rcases Directive.head?_arg hd with hnil | hname
  · rw [hnil] at h
    cases h
  · cases hhead : d.arg.head? with
    | none =>
      rw [hhead] at h
      cases h
    | some b =>
      rw [hhead, Option.any_some] at h hname
      rw [Directive.isDigit_of_isNameByte hname] at h
      cases h

/-- **No content passes** if the guard begins with a digit. -/
theorem verify_ne_nil (hname : name.endsWith ".h") (h : (guardName name).head?.any Text.isDigit) (content : Text) :
    headerGuard.verify (Source.ofContent name content) ≠ [] := by
  rw [verify, Ne, List.map_eq_nil_iff, headerGuard]
  dsimp only
  have hsrc : (Source.ofContent name content).name = name := rfl
  rw [hsrc, if_pos hname]
  cases hds : directivesFrom 1 (Source.ofContent name content).lines with
  | nil => simp [guardFindings]
  | cons e rest =>
    obtain ⟨n, first⟩ := e
    obtain ⟨line, _, hline⟩ := mem_directivesFrom (hds ▸ List.mem_cons_self)
    have harg : (first.arg == guardName name) = false := by
      simpa using arg_ne_guardName h hline
    simp [guardFindings, harg]

/-- **The rule can be satisfied for a header exactly if its base name begins with no digit.** Then a header with the
guard that its name asks for passes, whatever its body; otherwise no content passes. -/
theorem headerGuard_satisfiable (name : Text) (hname : name.endsWith ".h") :
    ((Path.base name).head?.any Text.isDigit = false →
      ∀ body : List Text, headerGuard.verify (Source.ofContent name (guarded name body)) = []) ∧
    ((Path.base name).head?.any Text.isDigit = true →
      ∀ content : Text, headerGuard.verify (Source.ofContent name content) ≠ []) := by
  rw [← head?_guardName]
  exact ⟨fun h body => verify_guarded h body, fun h content => verify_ne_nil hname h content⟩

/-- A header whose base name begins outside ASCII passes with its guard, although its body holds lines that look like
directives without being any; a header whose base name begins with a digit passes with no content. -/
theorem headerGuard_satisfiable_accent :
    let name : Text := "3rdparty/été-9.h"
    let name' : Text := "include/3d.h"
    name.endsWith ".h" ∧ (Path.base name).head?.any Text.isDigit = false ∧
      guarded name ["#", " # 1"] =
        Text.ofString "#ifndef __T___9_H_\n#define __T___9_H_\n#\n # 1\n#endif /* !__T___9_H_ */\n" ∧
      headerGuard.verify (Source.ofContent name (guarded name ["#", " # 1"])) = [] ∧
      name'.endsWith ".h" ∧ (Path.base name').head?.any Text.isDigit = true ∧
      ∀ content : Text, headerGuard.verify (Source.ofContent name' content) ≠ [] := by
  intro name name'
  have hname : name.endsWith ".h" := by decide +kernel
  have hbase : (Path.base name).head?.any Text.isDigit = false := by decide +kernel
  have hname' : name'.endsWith ".h" := by decide +kernel
  have hbase' : (Path.base name').head?.any Text.isDigit = true := by decide +kernel
  exact ⟨hname, hbase, by decide +kernel, (headerGuard_satisfiable name hname).1 hbase _, hname', hbase',
    (headerGuard_satisfiable name' hname').2 hbase'⟩

/-- A header whose base name begins with a digit is reported, although its body holds no directive and its first line is
the one that the report asks for. -/
theorem leading_digit_never_guarded :
    let name : Text := "3d.h"
    let body : List Text := ["int x;"]
    name.endsWith ".h" ∧ (∀ line ∈ body, Directive.parse? line = none) ∧
      guarded name body = Text.ofString "#ifndef 3D_H_\n#define 3D_H_\nint x;\n#endif /* !3D_H_ */\n" ∧
      headerGuard.verify (Source.ofContent name (guarded name body)) =
        [⟨⟨"3d.h", 1, 0⟩, "Header guard must be '#ifndef 3D_H_'", "header-guard", .error, []⟩] := by
  decide +kernel

end Rule

end HouseStyle
