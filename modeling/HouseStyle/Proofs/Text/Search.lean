import HouseStyle.Proofs.Text.Ink
import HouseStyle.Proofs.Text.Pieces

/-!
# Searching for a text

Cutting a text at the first occurrence of another finds the other wherever it stands (`exists_cut?`), and no occurrence
stands earlier (`length_le_of_cut?`).

The trimmed form of a text could also occur in the white space in front of it, byte for byte. It does not if the text is
well-formed: it begins with the first byte of a character, which is no white space, so that no cut before it goes through
a character of the white space or falls in front of one. Hence **a well-formed text has its trimmed form right after the
white space at its front** (`indexOf?_trim`).
-/

namespace HouseStyle

namespace Glyph

variable {b : UInt8} {rest : Text}

/-- A well-formed character stays what it is, whatever follows the text. -/
theorem first_append_of_not_stray (h : (first b rest).isStray = false) (tail : Text) :
    first b (rest ++ tail) = first b rest := by
  have hbytes := Text.first_bytes b rest
  cases hfirst : (first b rest).bytes with
  | nil =>
    have hlen := congrArg List.length hbytes
    simp [hfirst] at hlen
  | cons b' front =>
    rw [hfirst, List.cons_append, List.cons.injEq] at hbytes
    obtain ⟨rfl, hrest⟩ := hbytes
    rw [List.length_cons, Nat.add_one_sub_one] at hrest
    have hlong := bytes_first_encode ((encode_code_first h).trans hfirst) (rest.drop front.length ++ tail)
    rw [← List.append_assoc, ← hrest] at hlong
    have hle : (first b (rest ++ tail)).bytes.length ≤ rest.length + 1 := by
      have := congrArg List.length hrest
      rw [List.length_append] at this
      rw [hlong, List.length_cons]
      omega
    exact (first_of_isPrefix (List.prefix_append rest tail) hle).symm

/-- A well-formed character does not begin with a byte that continues one. -/
theorem isTail_of_not_stray (h : (first b rest).isStray = false) : isTail b = false := by
  have hfirst := isFirst_first b rest
  generalize first b rest = g at h hfirst
  cases hfirst with
  | ascii _ hb => exact isTail_of_ascii hb
  | stray => cases h
  | two tail hb hc =>
    rw [Bool.eq_false_iff, Ne, isTail_iff]
    omega
  | three tail hb hc hd =>
    rw [Bool.eq_false_iff, Ne, isTail_iff]
    omega
  | four tail hb hc hd he =>
    rw [Bool.eq_false_iff, Ne, isTail_iff]
    omega

end Glyph

namespace Text

variable {t sep before after rest : Text}

/-! ## First occurrences -/

/-- What occurs is found. -/
theorem exists_cut? : ∀ {t : Text}, sep <:+: t → ∃ before after, cut? sep t = some (before, after)
  | [], h => by
    obtain rfl := List.eq_nil_of_infix_nil h
    exact ⟨[], [], rfl⟩
  | b :: t, h => by
    rw [cut?]
    cases hprefix : afterPrefix? (b :: t) sep with
    | some after => exact ⟨[], after, rfl⟩
    | none =>
      have hrest : sep <:+: t := by
        refine (List.infix_cons_iff.mp h).resolve_left ?_
        rintro ⟨after, heq⟩
        rw [afterPrefix?_eq_some.mpr heq.symm] at hprefix
        cases hprefix
      obtain ⟨before, after, hcut⟩ := exists_cut? hrest
      exact ⟨b :: before, after, by rw [hcut]; rfl⟩

/-- No occurrence stands before the one that is found. -/
theorem length_le_of_cut? : ∀ {t before a : Text}, cut? sep t = some (before, after) → t = a ++ (sep ++ rest) →
    before.length ≤ a.length
  | [], before, a, h, _ => by
    have hbefore := eq_append_of_cut? h
    rw [eq_comm, List.append_eq_nil_iff] at hbefore
    rw [hbefore.1]
    exact Nat.zero_le _
  | b :: t, before, a, h, ht => by
    rw [cut?] at h
    split at h
    · next after' hprefix =>
      cases h
      exact Nat.zero_le _
    · next hprefix =>
      obtain ⟨⟨before', after'⟩, hcut, hparts⟩ := Option.map_eq_some_iff.mp h
      cases hparts
      cases a with
      | nil =>
        have hfound : afterPrefix? (b :: t) sep = some rest := afterPrefix?_eq_some.mpr ht
        rw [hfound] at hprefix
        cases hprefix
      | cons c a =>
        have hle := length_le_of_cut? hcut (List.cons.inj ht).2
        simpa using hle

/-! ## The trimmed form of a text -/

/-- The white space at the front of a text. -/
def margin (t : Text) : Text := ofGlyphs (t.glyphs.takeWhile (·.isBlank))

theorem margin_append_trimLeft (t : Text) : t.margin ++ t.trimLeft = t := by
  rw [margin, trimLeft, ← ofGlyphs_append, List.takeWhile_append_dropWhile, ofGlyphs_glyphs]

theorem isBlank_of_mem_margin {g : Glyph} (hg : g ∈ t.margin.glyphs) : g.isBlank := by
  rw [margin, glyphs_ofGlyphs_prefix _ List.takeWhile_append_dropWhile.symm] at hg
  exact List.mem_takeWhile_imp hg

/-- A text is the white space at its front, its trimmed form and more white space. -/
theorem exists_eq_margin_append (t : Text) : ∃ back, t = t.margin ++ (t.trim ++ back) := by
  obtain ⟨back, hback, -⟩ := exists_trimRight_append t.trimLeft
  refine ⟨back, ?_⟩
  conv_lhs => rw [← margin_append_trimLeft t, hback]
  rfl

theorem trim_isInfix (t : Text) : t.trim <:+: t := by
  obtain ⟨back, hback⟩ := exists_eq_margin_append t
  exact ⟨t.margin, back, by rw [List.append_assoc, ← hback]⟩

theorem mem_of_mem_trim_glyphs {g : Glyph} (hg : g ∈ t.trim.glyphs) : g ∈ t.glyphs := by
  rw [trim, glyphs_trimRight, glyphs_trimLeft] at hg
  exact (List.dropWhile_suffix _).subset ((List.rdropWhile_prefix _ _).subset hg)

/-- The trimmed form of a well-formed text does not begin within the white space in front of it. -/
theorem eq_nil_of_margin_eq_append {mid back : Text} (hwell : t.isWellFormed) (hink : t.isBlank = false)
    (hmargin : t.margin = before ++ mid) (hmid : mid ++ (t.trim ++ back) = t.trim ++ after) : mid = [] := by
  cases mid with
  | nil => rfl
  | cons b mid =>
    cases htrim : t.trim with
    | nil =>
      rw [isBlank, htrim] at hink
      cases hink
    | cons c body =>
      rw [htrim, List.cons_append, List.cons_append, List.cons_append, List.cons.injEq] at hmid
      obtain ⟨rfl, hmid⟩ := hmid
      obtain ⟨others, hglyphs⟩ : ∃ others, t.trim.glyphs = Glyph.first b body :: others :=
        ⟨_, by rw [htrim, glyphs_cons]⟩
      have hstray : (Glyph.first b body).isStray = false := by
        have hmem := mem_of_mem_trim_glyphs (hglyphs ▸ List.mem_cons_self (l := others))
        simpa using List.all_eq_true.mp hwell _ hmem
      have hinked : (Glyph.first b body).isBlank = false := isBlank_of_trimLeft ((trimLeft_trim t).symm ▸ hglyphs)
      have htail := Glyph.isTail_of_not_stray hstray
      have hwhite : (Glyph.first b mid).isBlank := by
        refine isBlank_of_mem_margin (t := t) ?_
        rw [hmargin, glyphs_append htail, glyphs_cons]
        exact List.mem_append_right _ List.mem_cons_self
      -- The first character of the trimmed form is the one that begins here in the white space.
      have hsame : Glyph.first b mid = Glyph.first b body :=
        calc Glyph.first b mid = Glyph.first b (mid ++ b :: (body ++ back)) :=
              (Glyph.first_append b mid htail _).symm
          _ = Glyph.first b (body ++ after) := by rw [hmid]
          _ = Glyph.first b body := Glyph.first_append_of_not_stray hstray after
      rw [hsame, hinked] at hwhite
      cases hwhite

/-- **A well-formed text has its trimmed form right after the white space at its front**, and not before. -/
theorem indexOf?_trim (hwell : t.isWellFormed) (hink : t.isBlank = false) :
    t.indexOf? t.trim = some t.margin.length := by
  obtain ⟨back, hback⟩ := exists_eq_margin_append t
  obtain ⟨before, after, hcut⟩ := exists_cut? (trim_isInfix t)
  have hfirst := length_le_of_cut? hcut hback
  have hparts := hback.symm.trans (eq_append_of_cut? hcut)
  obtain ⟨mid, hmargin⟩ : before <+: t.margin :=
    List.prefix_of_prefix_length_le ⟨_, hparts.symm⟩ (List.prefix_append _ _) hfirst
  have hmid : mid ++ (t.trim ++ back) = t.trim ++ after := by
    rw [← hmargin, List.append_assoc] at hparts
    exact List.append_cancel_left hparts
  have hnil := eq_nil_of_margin_eq_append hwell hink hmargin.symm hmid
  rw [indexOf?, hcut, ← hmargin, hnil, List.append_nil]
  rfl

end Text

end HouseStyle
