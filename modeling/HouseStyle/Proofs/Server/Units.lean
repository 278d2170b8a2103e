import HouseStyle.Proofs.Source.Lines
import HouseStyle.Proofs.Text.Boundary
import HouseStyle.Server.Position

/-!
# UTF-16 units

The UTF-16 units of a text are those of its characters (`units16_eq`). There are no more of them than bytes
(`units16_le_length`), and writing stray bytes as replacement characters makes no further ones
(`units16_wellFormed_le`).

**A text whose units a message can count has no line whose number or length it cannot** (`fits_of_units16_le`).
-/

namespace HouseStyle.Server

open Text (byte)

/-! ## Characters -/

/-- The UTF-16 units of a code. -/
def codeUnits (code : Nat) : Nat := if code < 0x10000 then 1 else 2

theorem codeUnits_pos (code : Nat) : 0 < codeUnits code := by
  unfold codeUnits
  split <;> decide

/-- The UTF-16 units of a list of characters. -/
def unitsOf : List Glyph → Nat
  | [] => 0
  | g :: gs => codeUnits g.code + unitsOf gs

theorem unitsOf_append (gs hs : List Glyph) : unitsOf (gs ++ hs) = unitsOf gs + unitsOf hs := by
  induction gs with
  | nil => rw [List.nil_append, unitsOf, Nat.zero_add]
  | cons g gs ih => rw [List.cons_append, unitsOf, unitsOf, ih, Nat.add_assoc]

theorem units16_eq (t : Text) : units16 t = unitsOf t.glyphs := by
  have hfold : ∀ (gs : List Glyph) (n : Nat),
      (gs.map (·.code)).foldl (fun n c => n + if c < 0x10000 then 1 else 2) n = n + unitsOf gs := by
    intro gs
    induction gs with
    | nil => intro n; rfl
    | cons g gs ih =>
      intro n
      rw [List.map_cons, List.foldl_cons, ih, unitsOf, codeUnits]
      omega
  rw [units16, Text.codes, hfold, Nat.zero_add]

/-- Only a character of four bytes has two units. -/
theorem codeUnits_first (b : UInt8) (rest : Text) :
    codeUnits (Glyph.first b rest).code = 1 ∨
      codeUnits (Glyph.first b rest).code = 2 ∧ 4 ≤ (Glyph.first b rest).bytes.length := by
  unfold codeUnits
  split
  · exact Or.inl rfl
  · next h => exact Or.inr ⟨rfl, by_contra fun hlen => h (Glyph.code_first_lt (by omega))⟩

/-! ## Texts -/

theorem units16_cons (b : UInt8) (rest : Text) : units16 (b :: rest) =
    codeUnits (Glyph.first b rest).code + units16 (rest.drop ((Glyph.first b rest).bytes.length - 1)) := by
  rw [units16_eq, Text.glyphs_cons, unitsOf, ← units16_eq]

theorem units16_pos {t : Text} (h : t ≠ []) : 0 < units16 t := by
  obtain ⟨b, rest, rfl⟩ := List.exists_cons_of_ne_nil h
  rw [units16_cons]
  exact Nat.add_pos_left (codeUnits_pos _) _

/-- There are no more units than bytes. -/
theorem units16_le_length : ∀ t : Text, units16 t ≤ t.length
  | [] => Nat.le_refl 0
  | b :: rest => by
    have ih := units16_le_length (rest.drop ((Glyph.first b rest).bytes.length - 1))
    have hlen := Glyph.length_first_le b rest
    rw [units16_cons, List.length_cons]
    rw [List.length_drop] at ih
    rcases codeUnits_first b rest with h | ⟨h, hbytes⟩ <;> omega
termination_by t => t.length
decreasing_by simp only [List.length_cons, List.length_drop]; omega

/-- An encoded character has the units of its code, or fewer if it stands for a number that is no code. -/
theorem units16_encode_append_le (code : Nat) (t : Text) :
    units16 (Glyph.encode code ++ t) ≤ codeUnits code + units16 t := by
  obtain ⟨hpos, _, hshort⟩ := Glyph.length_encode code
  cases hencode : Glyph.encode code with
  | nil =>
    rw [hencode] at hpos
    exact absurd hpos (by decide)
  | cons b tail =>
    have hbytes := Glyph.bytes_first_encode hencode t
    have hrest : (tail ++ t).drop ((b :: tail).length - 1) = t := List.drop_left
    rw [List.cons_append, units16_cons, hbytes, hrest]
    rcases codeUnits_first b (tail ++ t) with h | ⟨h, hlen⟩
    · have hcode := codeUnits_pos code
      omega
    · rw [hbytes] at hlen
      rw [hencode] at hshort
      have hcode : codeUnits code = 2 := by
        rw [codeUnits, if_neg (fun hlt => absurd (hshort hlt) (by omega))]
      omega

theorem units16_ofCodes_le (gs : List Glyph) : units16 (Text.ofCodes (gs.map (·.code))) ≤ unitsOf gs := by
  induction gs with
  | nil => exact Nat.le_refl 0
  | cons g gs ih =>
    rw [List.map_cons, Text.ofCodes, List.flatMap_cons, ← Text.ofCodes, unitsOf]
    exact (units16_encode_append_le g.code _).trans (Nat.add_le_add_left ih _)

/-- Replacing stray bytes makes no further units. -/
theorem units16_wellFormed_le (t : Text) : units16 t.wellFormed ≤ units16 t := by
  rw [units16_eq t]
  exact units16_ofCodes_le t.glyphs

/-! ## Lines -/

theorem units16_append {c : UInt8} (hc : c < 0x80) (s t : Text) :
    units16 (s ++ c :: t) = units16 s + 1 + units16 t := by
  have hcode : codeUnits c.toNat = 1 := by
    rw [UInt8.lt_iff_toNat_lt] at hc
    exact if_pos (hc.trans (by decide))
  rw [units16_eq, Text.glyphs_append (Glyph.isTail_of_ascii hc), Text.glyphs_ascii hc, unitsOf_append, unitsOf, hcode,
    ← units16_eq, ← units16_eq, Nat.add_assoc]

/-- The pieces that are joined have their units and one for each separator. -/
theorem units16_join {p : Text} : ∀ {ps : List Text}, p ∈ ps →
    units16 p + ps.length ≤ units16 (Text.join [byte '\n'] ps) + 1
  | [q], h => by
    obtain rfl := List.mem_singleton.mp h
    exact Nat.le_refl _
  | q :: r :: ps, h => by
    have hjoin : units16 (Text.join [byte '\n'] (q :: r :: ps)) =
        units16 q + 1 + units16 (Text.join [byte '\n'] (r :: ps)) := by
      rw [Text.join, List.append_assoc]
      exact units16_append (by decide) _ _
    have hfirst : units16 r + (r :: ps).length ≤ units16 (Text.join [byte '\n'] (r :: ps)) + 1 :=
      units16_join List.mem_cons_self
    rw [hjoin, List.length_cons]
    rcases List.mem_cons.mp h with rfl | h
    · omega
    · have ih := units16_join h
      omega

/-- **The lines of a text whose units a message can count have numbers and lengths that it can tell.** -/
theorem fits_of_units16_le {content line : Text} {i : Nat} (h : units16 content ≤ maxNumber)
    (hline : (splitLines content)[i]? = some line) : i ≤ maxNumber ∧ units16 line ≤ maxNumber := by
  obtain ⟨p, _, hp, hpline⟩ := splitLines_getElem? hline
  have hi : i < (content.pieces '\n').length := (List.getElem?_eq_some_iff.mp hp).1
  have hunits := units16_join (List.mem_of_getElem? hp)
  rw [Text.join_pieces] at hunits
  have htrim : units16 line ≤ units16 p := by
    rcases Text.trimSuffix_cases p "\r" with hcases | ⟨_, hcases⟩
    · have happend : units16 (line ++ Text.ofString "\r") = units16 line + 1 + units16 [] :=
        units16_append (by decide) line []
      rw [hpline] at hcases
      rw [hcases, happend]
      omega
    · rw [hcases, hpline]
  omega

end HouseStyle.Server
