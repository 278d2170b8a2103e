import HouseStyle.Linter
import HouseStyle.Proofs.Text.Boundary
import HouseStyle.Proofs.Text.Pieces

/-!
# Directives and appended comments

The first directive of a line is the first among its comments that reads as one (`directive?_eq_findSome?`).

What becomes of the comments when a space and a further comment are appended to the line: those that are closed stay as
they are, and the text of the others goes on into what is appended (`comments_append`). None of them becomes a directive
that was none before (`ofComment?_of_none`), and a directive that lists names still lists them, but what is appended
runs into the last name (`ofComment?_of_some`). Hence

* **after a line without a directive the appended comment is found** (`directive?_append_of_none`);
* **after a line with a directive it is not** (`directive?_append_of_some`).
-/

namespace HouseStyle.Suppression

open Text (byte)

variable {x x' u v q names names' line : Text}

/-! ## Comments -/

/-- The text of a block comment, given what follows its opening: all up to its end, if it has one. -/
def blockText (rest : Text) : Text := ((Text.cut? "*/" rest).map (·.1)).getD rest

/-- The comments of a line, as far as they can hold directives: a comment may begin inside another. -/
def comments : (line : Text) → List Text
  | [] => []
  | [_] => []
  | a :: b :: rest =>
    if a ≠ byte '/' then comments (b :: rest)
    else if b = byte '/' then rest :: comments rest
    else if b = byte '*' then blockText rest :: comments rest
    else comments (b :: rest)

theorem directive?_eq_findSome? (line : Text) : directive? line = (comments line).findSome? ofComment? := by
  fun_induction comments line with
  | case1 => rfl
  | case2 => rfl
  | case3 a b rest ha ih => rw [directive?, if_pos ha, ih]
  | case4 a rest ha ih =>
    rw [directive?, if_neg ha, if_pos rfl, ih, List.findSome?_cons]
    cases ofComment? rest <;> rfl
  | case5 a rest ha hb ih =>
    rw [directive?, if_neg ha, if_neg hb, if_pos rfl, ih, List.findSome?_cons, ← blockText]
    cases ofComment? (blockText rest) <;> rfl
  | case6 a b rest ha hb hb' ih => rw [directive?, if_neg ha, if_neg hb, if_neg hb', ih]

/-- What a comment can be after a space, a slash and `u` have been appended to its line: itself, or itself with a
beginning of what is appended. -/
def Grows (u x x' : Text) : Prop := x' = x ∨ ∃ v, v <+: u ∧ x' = x ++ byte ' ' :: byte '/' :: v

theorem grows_blockText (u rest : Text) : Grows u (blockText rest) (blockText (rest ++ byte ' ' :: byte '/' :: u)) := by
  have hspace : byte ' ' ∉ Text.ofString "*/" := by decide
  have hslash : Text.cut? "*/" (byte '/' :: u) =
      (Text.cut? "*/" u).map fun parts => (byte '/' :: parts.1, parts.2) := by
    rw [Text.cut?]
    rfl
  unfold blockText
  rw [Text.cut?_append hspace (by decide)]
  cases Text.cut? "*/" rest with
  | some parts => exact Or.inl rfl
  | none =>
    right
    rw [hslash]
    cases hu : Text.cut? "*/" u with
    | none => exact ⟨u, List.prefix_refl u, rfl⟩
    | some parts => exact ⟨parts.1, ⟨_, (Text.eq_append_of_cut? hu).symm⟩, rfl⟩

theorem comments_space (u : Text) : comments (byte ' ' :: byte '/' :: u) = comments (byte '/' :: u) := by
  rw [comments, if_pos (by decide)]

/-- **The comments of a line with a comment appended:** those of the line, some of them grown, and then those that are
appended. -/
theorem comments_append (u line : Text) : ∃ grown, List.Forall₂ (Grows u) (comments line) grown ∧
    comments (line ++ byte ' ' :: byte '/' :: u) = grown ++ comments (byte '/' :: u) := by
  fun_induction comments line with
  | case1 => exact ⟨[], .nil, comments_space u⟩
  | case2 a =>
    refine ⟨[], .nil, ?_⟩
    have hspace : ¬byte ' ' = byte '/' ∧ ¬byte ' ' = byte '*' := by decide
    rw [List.singleton_append, comments, comments_space, if_neg hspace.1, if_neg hspace.2, ite_self]
    rfl
  | case3 a b rest ha ih =>
    obtain ⟨grown, hgrown, happend⟩ := ih
    refine ⟨grown, hgrown, ?_⟩
    rw [List.cons_append, List.cons_append, comments, if_pos ha]
    exact happend
  | case4 a rest ha ih =>
    obtain ⟨grown, hgrown, happend⟩ := ih
    refine ⟨(rest ++ byte ' ' :: byte '/' :: u) :: grown, .cons (Or.inr ⟨u, List.prefix_refl u, rfl⟩) hgrown, ?_⟩
    rw [List.cons_append, List.cons_append, comments, if_neg ha, if_pos rfl, happend]
    rfl
  | case5 a rest ha hb ih =>
    obtain ⟨grown, hgrown, happend⟩ := ih
    refine ⟨blockText (rest ++ byte ' ' :: byte '/' :: u) :: grown, .cons (grows_blockText u rest) hgrown, ?_⟩
    rw [List.cons_append, List.cons_append, comments, if_neg ha, if_neg hb, if_pos rfl, happend]
    rfl
  | case6 a b rest ha hb hb' ih =>
    obtain ⟨grown, hgrown, happend⟩ := ih
    refine ⟨grown, hgrown, ?_⟩
    rw [List.cons_append, List.cons_append, comments, if_neg ha, if_neg hb, if_neg hb']
    exact happend

/-! ## Comments as directives -/

/-- A comment that begins with the word and a colon lists names. -/
theorem ofComment?_of_list (h : x.trimLeft.afterPrefix? "nolint:" = some q) : ofComment? x = some q.trim := by
  have hleft : x.trimLeft = Text.ofString "nolint" ++ byte ':' :: q := by
    rw [Text.afterPrefix?_eq_some.mp h]
    rfl
  have htrim : x.trim = Text.ofString "nolint" ++ byte ':' :: q.trimRight := by
    rw [Text.trim, hleft, Text.trimRight_append (by decide)]
  have hword : x.trim.afterPrefix? "nolint" = some (byte ':' :: q.trimRight) := Text.afterPrefix?_eq_some.mpr htrim
  have hcolon : Text.afterPrefix? (byte ':' :: q.trimRight) ":" = some q.trimRight := Text.afterPrefix?_eq_some.mpr rfl
  rw [ofComment?, hword]
  dsimp only
  rw [hcolon, Option.map_some, Text.trim_trimRight]

/-- A directive is the word alone, or lists names. -/
theorem ofComment?_cases (h : ofComment? x = some names) :
    (x.trim = "nolint" ∧ names = []) ∨ ∃ q, x.trimLeft.afterPrefix? "nolint:" = some q ∧ names = q.trim := by
  have hread := h
  unfold ofComment? at h
  split at h
  · cases h
  · next hword =>
    cases h
    exact Or.inl ⟨by simpa using Text.afterPrefix?_eq_some.mp hword, rfl⟩
  · next rest _ hword =>
    obtain ⟨list, hlist, _⟩ := Option.map_eq_some_iff.mp h
    obtain ⟨blanks, hblanks, _⟩ := Text.exists_trimRight_append x.trimLeft
    have hleft : x.trimLeft.afterPrefix? "nolint:" = some (list ++ blanks) := by
      rw [Text.afterPrefix?_eq_some, hblanks, ← Text.trim, Text.afterPrefix?_eq_some.mp hword,
        Text.afterPrefix?_eq_some.mp hlist]
      simp only [List.append_assoc]
      rfl
    refine Or.inr ⟨list ++ blanks, hleft, ?_⟩
    exact Option.some.inj (hread.symm.trans (ofComment?_of_list hleft))

/-! ## Growing directives -/

/-- Trimming keeps a slash, and what stands before it but for white space at the front. -/
theorem trim_append_slash (hx : x.isBlank = false) (v : Text) :
    Text.trim (x ++ byte ' ' :: byte '/' :: v) = x.trimLeft ++ byte ' ' :: byte '/' :: v.trimRight := by
  have hsplit : x.trimLeft ++ byte ' ' :: byte '/' :: v = (x.trimLeft ++ [byte ' ']) ++ byte '/' :: v := by simp
  rw [Text.trim, Text.trimLeft_append (by decide) hx, hsplit, Text.trimRight_append (by decide)]
  simp

theorem trim_append_slash_blank (hx : x.isBlank) (v : Text) :
    Text.trim (x ++ byte ' ' :: byte '/' :: v) = byte '/' :: v.trimRight := by
  have hspace : Text.trimLeft (byte ' ' :: byte '/' :: v) = byte '/' :: v := by
    have h := Text.trimLeft_spaces 1 (byte '/' :: v)
    rwa [Text.trimLeft_cons (by decide)] at h
  rw [Text.trim, Text.trimLeft_append_blank (by decide) hx, hspace, ← List.nil_append (byte '/' :: v),
    Text.trimRight_append (by decide)]
  rfl

/-- The word and its colon hold no space, so they are not made up from both sides of one. -/
theorem afterPrefix?_trimLeft_append (hx : x.isBlank = false) (rest : Text) :
    (Text.trimLeft (x ++ byte ' ' :: rest)).afterPrefix? "nolint:" =
      (x.trimLeft.afterPrefix? "nolint:").map (· ++ byte ' ' :: rest) := by
  rw [Text.trimLeft_append (by decide) hx, Text.afterPrefix?_append (by decide)]

/-- A comment that is no directive does not become one. -/
theorem ofComment?_of_none (h : ofComment? x = none) (hgrows : Grows u x x') : ofComment? x' = none := by
  obtain rfl | ⟨v, _, rfl⟩ := hgrows
  · exact h
  cases hx : x.isBlank with
  | true =>
    rw [ofComment?, trim_append_slash_blank hx]
    rfl
  | false =>
    by_contra hsome
    obtain ⟨names, hnames⟩ := Option.ne_none_iff_exists'.mp hsome
    rcases ofComment?_cases hnames with ⟨hword, _⟩ | ⟨q, hq, _⟩
    · have hmem : byte ' ' ∈ Text.ofString "nolint" := by
        rw [← hword, trim_append_slash hx]
        simp
      exact absurd hmem (by decide)
    · rw [afterPrefix?_trimLeft_append hx, Option.map_eq_some_iff] at hq
      obtain ⟨q, hq, _⟩ := hq
      rw [ofComment?_of_list hq] at h
      cases h

/-- What the names of a directive can be after a space, a slash and `u` have been appended to its line: as before, or
with a beginning of what is appended after the last of them. -/
def Spoils (u names names' : Text) : Prop :=
  names' = names ∨ ∃ blanks v, Text.isBlank blanks ∧ v <+: u ∧ names' = names ++ (blanks ++ byte ' ' :: byte '/' :: v)

/-- A directive that lists names still lists them, but what is appended runs into the last. -/
theorem ofComment?_of_some (h : ofComment? x = some names) (hne : names ≠ []) (hgrows : Grows u x x') :
    ∃ names', ofComment? x' = some names' ∧ Spoils u names names' := by
  obtain rfl | ⟨v, hv, rfl⟩ := hgrows
  · exact ⟨names, h, Or.inl rfl⟩
  rcases ofComment?_cases h with ⟨_, rfl⟩ | ⟨q, hq, rfl⟩
  · exact absurd rfl hne
  have hx : x.isBlank = false := by
    rw [Bool.eq_false_iff, Ne, Text.isBlank_iff]
    intro hnil
    rw [hnil] at hq
    cases hq
  have hblank : q.isBlank = false := List.isEmpty_eq_false_iff.mpr hne
  obtain ⟨blanks, hblanks, hb⟩ := Text.exists_trimRight_append q.trimLeft
  have hlist : (Text.trimLeft (x ++ byte ' ' :: byte '/' :: v)).afterPrefix? "nolint:" =
      some (q ++ byte ' ' :: byte '/' :: v) := by
    rw [afterPrefix?_trimLeft_append hx, hq, Option.map_some]
  refine ⟨_, ofComment?_of_list hlist, Or.inr ⟨blanks, Text.trimRight v, hb, ?_, ?_⟩⟩
  · exact (Text.trimRight_isPrefix v).trans hv
  · rw [trim_append_slash hblank, hblanks, ← Text.trim, List.append_assoc]

/-! ## Lines -/

variable {found grown : List Text}

theorem findSome?_of_none (hgrown : List.Forall₂ (Grows u) found grown) (h : found.findSome? ofComment? = none) :
    grown.findSome? ofComment? = none := by
  induction hgrown with
  | nil => rfl
  | cons hgrows _ ih =>
    rw [List.findSome?_cons] at h ⊢
    split at h
    · cases h
    · next hx =>
      rw [ofComment?_of_none hx hgrows]
      exact ih h

theorem findSome?_of_some (hgrown : List.Forall₂ (Grows u) found grown) (h : found.findSome? ofComment? = some names)
    (hne : names ≠ []) : ∃ names', grown.findSome? ofComment? = some names' ∧ Spoils u names names' := by
  induction hgrown with
  | nil => cases h
  | cons hgrows _ ih =>
    rw [List.findSome?_cons] at h
    split at h
    · next hx =>
      cases h
      obtain ⟨names', hnames', hspoils⟩ := ofComment?_of_some hx hne hgrows
      exact ⟨names', by rw [List.findSome?_cons, hnames'], hspoils⟩
    · next hx =>
      rw [List.findSome?_cons, ofComment?_of_none hx hgrows]
      exact ih h

/-- **After a line without a directive the appended comment is found.** -/
theorem directive?_append_of_none (h : directive? line = none) (u : Text) :
    directive? (line ++ byte ' ' :: byte '/' :: u) = directive? (byte '/' :: u) := by
  obtain ⟨grown, hgrown, happend⟩ := comments_append u line
  rw [directive?_eq_findSome?] at h
  rw [directive?_eq_findSome?, happend, List.findSome?_append, findSome?_of_none hgrown h, Option.none_or,
    ← directive?_eq_findSome?]

/-- **After a line with a directive the appended comment is not found:** the directive is still the first, and what is
appended runs into its last name unless its comment is closed. -/
theorem directive?_append_of_some (h : directive? line = some names) (hne : names ≠ []) (u : Text) :
    ∃ names', directive? (line ++ byte ' ' :: byte '/' :: u) = some names' ∧ Spoils u names names' := by
  obtain ⟨grown, hgrown, happend⟩ := comments_append u line
  rw [directive?_eq_findSome?] at h
  obtain ⟨names', hnames', hspoils⟩ := findSome?_of_some hgrown h hne
  refine ⟨names', ?_, hspoils⟩
  rw [directive?_eq_findSome?, happend, List.findSome?_append, hnames', Option.some_or]

/-! ## Names of rules -/

/-- The text is made of small letters and hyphens, as the names of rules are. -/
def IsName (t : Text) : Prop := t ≠ [] ∧ ∀ b ∈ t, b = byte '-' ∨ (byte 'a' ≤ b ∧ b ≤ byte 'z')

instance (t : Text) : Decidable (IsName t) := inferInstanceAs (Decidable (_ ∧ _))

variable {name : Text}

theorem IsName.not_mem (h : IsName name) {b : UInt8} (hb : ¬(b = byte '-' ∨ (byte 'a' ≤ b ∧ b ≤ byte 'z'))) :
    b ∉ name := fun hmem => hb (h.2 b hmem)

theorem IsName.isInk (h : IsName name) {b : UInt8} (hb : b ∈ name) : Text.isInk b := by
  rcases h.2 b hb with rfl | ⟨ha, hz⟩
  · decide
  · have ha' : 0x61 ≤ b.toNat := UInt8.le_iff_toNat_le.mp ha
    have hz' : b.toNat ≤ 0x7A := UInt8.le_iff_toNat_le.mp hz
    refine Text.isInk_iff.mpr ⟨UInt8.lt_iff_toNat_lt.mpr (Nat.lt_of_le_of_lt hz' (by decide)), ?_⟩
    simp only [Glyph.isBlankCode, Glyph.blankCodes, List.any_cons, List.any_nil, Bool.or_eq_false_iff,
      Bool.and_eq_false_iff, decide_eq_false_iff_not, and_true]
    omega

/-- Trimming stops at a name from both sides. -/
theorem IsName.trim_append (h : IsName name) (t : Text) : Text.trim (name ++ t) = name ++ t.trimRight := by
  have hleft : Text.trimLeft (name ++ t) = name ++ t := by
    obtain ⟨b, rest, rfl⟩ := List.exists_cons_of_ne_nil h.1
    exact Text.trimLeft_cons (h.isInk List.mem_cons_self) _
  obtain ⟨front, b, rfl⟩ := List.eq_nil_or_concat' name |>.resolve_left h.1
  rw [Text.trim, hleft, List.append_assoc, List.singleton_append, Text.trimRight_append (h.isInk (by simp)),
    List.append_assoc, List.singleton_append]

theorem ofComment?_name (h : IsName name) {t : Text} (ht : t.trimRight = []) :
    ofComment? (Text.ofString " nolint:" ++ (name ++ t)) = some name := by
  have hlist : (Text.trimLeft (Text.ofString " nolint:" ++ (name ++ t))).afterPrefix? "nolint:" = some (name ++ t) := by
    rw [Text.afterPrefix?_eq_some]
    exact (Text.trimLeft_spaces 1 _).trans (Text.trimLeft_cons (by decide) _)
  rw [ofComment?_of_list hlist, h.trim_append, ht, List.append_nil]

/-- A line comment that names a rule. -/
theorem directive?_lineComment (h : IsName name) : directive? (Text.ofString "// nolint:" ++ name) = some name := by
  have hcomments : comments (Text.ofString "// nolint:" ++ name) =
      (Text.ofString " nolint:" ++ name) :: comments (Text.ofString " nolint:" ++ name) := rfl
  have hread : ofComment? (Text.ofString " nolint:" ++ name) = some name := by
    have hread := ofComment?_name h (t := []) rfl
    rwa [List.append_nil] at hread
  rw [directive?_eq_findSome?, hcomments, List.findSome?_cons, hread]

/-- A block comment that names a rule. -/
theorem directive?_blockComment (h : IsName name) :
    directive? (Text.ofString "/* nolint:" ++ name ++ Text.ofString " */") = some name := by
  have hcomments : comments (Text.ofString "/* nolint:" ++ name ++ Text.ofString " */") =
      blockText (Text.ofString " nolint:" ++ name ++ Text.ofString " */") ::
        comments (Text.ofString " nolint:" ++ name ++ Text.ofString " */") := rfl
  have hstar : byte '*' ∉ Text.ofString " nolint:" ++ (name ++ Text.ofString " ") := by
    simp only [List.mem_append, not_or]
    exact ⟨by decide, h.not_mem (by decide), by decide⟩
  have hclosed : Text.ofString " nolint:" ++ name ++ Text.ofString " */" =
      (Text.ofString " nolint:" ++ (name ++ Text.ofString " ")) ++ (Text.ofString "*/" ++ []) := by
    simp only [List.append_assoc]
    rfl
  have hblock : blockText (Text.ofString " nolint:" ++ name ++ Text.ofString " */") =
      Text.ofString " nolint:" ++ (name ++ Text.ofString " ") := by
    have hcut : Text.cut? "*/"
          ((Text.ofString " nolint:" ++ (name ++ Text.ofString " ")) ++ (Text.ofString "*/" ++ [])) =
        some (Text.ofString " nolint:" ++ (name ++ Text.ofString " "), []) :=
      Text.cut?_append_sep (byte '*') [] _ hstar
    rw [blockText, hclosed, hcut]
    rfl
  rw [directive?_eq_findSome?, hcomments, hblock, List.findSome?_cons, ofComment?_name h (by decide)]

/-! ## Silenced rules -/

theorem silences_name (h : IsName name) : silences name name := by
  have hpieces : Text.pieces ',' (Text.join [byte ','] [name]) = [name] :=
    Text.pieces_join (by simp) (by simpa using h.not_mem (by decide))
  have htrim : name.trim = name := by
    conv_lhs => rw [← List.append_nil name, h.trim_append]
    exact List.append_nil name
  rw [Text.join] at hpieces
  rw [silences, hpieces]
  simp [htrim]

/-- A directive into whose last name a comment runs silences the rules named before. -/
theorem silences_of_spoils (hspoils : Spoils u names names') (hu : byte ',' ∉ u) (hne : names' ≠ names)
    (h : IsName name) : silences names' name = (names.pieces ',').dropLast.any (·.trim == name) := by
  obtain rfl | ⟨blanks, v, hblanks, hv, rfl⟩ := hspoils
  · exact absurd rfl hne
  obtain ⟨front, last, hlast⟩ := List.eq_nil_or_concat' (names.pieces ',') |>.resolve_left (Text.pieces_ne_nil _ _)
  have hcomma : byte ',' ∉ blanks ++ byte ' ' :: byte '/' :: v := by
    simp only [List.mem_append, List.mem_cons, not_or]
    exact ⟨Text.not_mem_of_isBlank hblanks (by decide), by decide, by decide, fun h => hu (hv.subset h)⟩
  have hspoiled : (Text.trim (last ++ (blanks ++ byte ' ' :: byte '/' :: v)) == name) = false := by
    rw [beq_eq_false_iff_ne]
    intro htrim
    have hslash : byte '/' ∈ name := by
      rw [← htrim]
      exact Text.mem_trim (by decide) (by simp)
    exact h.not_mem (by decide) hslash
  rw [silences, Text.pieces_append hcomma hlast, List.any_append, hlast, List.dropLast_concat]
  simp [hspoiled]

/-- Whether a diagnostic about a line is suppressed depends on the first directive of the line. -/
theorem suppressed_of_line {lines : List Text} {d : Diagnostic} {i : Nat} (hpos : d.pos.line = i + 1)
    (hline : lines[i]? = some line) : suppressed lines d = (directive? line).any (silences · d.rule) := by
  have hindex : (d.pos.line - 1).toNat = i := by omega
  have hge : d.pos.line ≥ 1 := by omega
  rw [suppressed, hindex, hline, Option.bind_some, decide_eq_true hge, Bool.true_and]
  cases directive? line <;> rfl

/-- A file is reported what its rules report and no directive suppresses. -/
theorem mem_lintFile {rules : List Rule} {file content : Text} {d : Diagnostic} :
    d ∈ lintFile rules file content ↔
      (∃ rule ∈ rules, d ∈ rule.verify (Source.ofContent file content)) ∧
        suppressed (splitLines content) d = false := by
  have hlines : (Source.ofContent file content).lines = splitLines content := rfl
  rw [lintFile, Diagnostic.sort, List.mem_mergeSort, filter, List.mem_filter, List.mem_flatMap, hlines,
    Bool.not_eq_true']

end HouseStyle.Suppression
