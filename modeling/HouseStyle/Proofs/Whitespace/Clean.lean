import HouseStyle.Command.Format
import HouseStyle.Proofs.Source.Lines
import HouseStyle.Proofs.Text.Boundary
import HouseStyle.Rule.Spacing

/-!
# The fixer and the rules about white space agree

Fixing cuts a file at newlines, the rules look at its lines. Both ask the same of each line: no tab, and no white space
at its end (`Tidy`).

* **A fixed line is tidy** (`tidy_fixLine`), also after its carriage return has been taken off.
* **A tidy line is left alone** (`fixLine_eq_self`).

Hence a fixed file passes the two rules, and **fixing changes a file exactly if one of the rules reports something in
it** (`fix_agrees_with_rules`). A run that lists the files that fixing would change lists the files with such reports
(`stdout_format`).
-/

namespace HouseStyle

/-! ## Rules that look at each line alone -/

/-- A check that looks at each line alone finds nothing in a file exactly if it finds nothing in any line. -/
theorem LineScan.run_perLine_eq_nil {check : Text → List Text} {src : Source} :
    (LineScan.perLine check).run src = [] ↔ ∀ line ∈ src.lines, check line = [] := by
  have hfrom : ∀ (lines : List Text) (n : Nat),
      (LineScan.perLine check).runFrom () n lines = [] ↔ ∀ line ∈ lines, check line = [] := by
    intro lines
    induction lines with
    | nil => intro n; simp [runFrom, perLine]
    | cons line lines ih =>
      intro n
      have hstep : (LineScan.perLine check).step () line = ((), check line) := rfl
      rw [runFrom, hstep, List.append_eq_nil_iff, List.map_eq_nil_iff, ih, List.forall_mem_cons]
  exact hfrom src.lines 1

theorem Rule.verify_eq_nil {rule : Rule} {src : Source} : rule.verify src = [] ↔ rule.run src = [] :=
  List.map_eq_nil_iff

theorem messagesWhere_singleton_eq_nil {b : Bool} {message : Text} : messagesWhere [(b, message)] = [] ↔ b = false := by
  cases b <;> simp [messagesWhere]

namespace Whitespace

/-- The line holds no tab and does not end in white space. -/
structure Tidy (line : Text) : Prop where
  noTab : line.has '\t' = false
  inked : Rule.endsBlank line = false

/-- The rules about tabs and about white space at the end of lines report nothing in a file with this content. -/
def Clean (name content : Text) : Prop :=
  Rule.spaceIndentation.verify (Source.ofContent name content) = [] ∧
    Rule.trailingWhitespace.verify (Source.ofContent name content) = []

instance (name content : Text) : Decidable (Clean name content) := inferInstanceAs (Decidable (_ ∧ _))

variable {name content line p : Text} {w : Nat}

theorem clean_iff : Clean name content ↔ ∀ line ∈ splitLines content, Tidy line := by
  have htab : Rule.spaceIndentation.verify (Source.ofContent name content) = [] ↔
      ∀ line ∈ splitLines content, line.has '\t' = false := by
    rw [Rule.verify_eq_nil]
    exact LineScan.run_perLine_eq_nil.trans (forall₂_congr fun _ _ => messagesWhere_singleton_eq_nil)
  have hend : Rule.trailingWhitespace.verify (Source.ofContent name content) = [] ↔
      ∀ line ∈ splitLines content, Rule.endsBlank line = false := by
    rw [Rule.verify_eq_nil]
    exact LineScan.run_perLine_eq_nil.trans (forall₂_congr fun _ _ => messagesWhere_singleton_eq_nil)
  rw [Clean, htab, hend]
  constructor
  · rintro ⟨ht, he⟩ line hline
    exact ⟨ht line hline, he line hline⟩
  · intro h
    exact ⟨fun line hline => (h line hline).noTab, fun line hline => (h line hline).inked⟩

/-! ## Expanding tabs -/

/-- An ASCII byte of the expanded line that is no space is the code of a character, and of no tab. -/
theorem code_of_mem_expandFrom {c : UInt8} (hc : c < 0x80) (hs : c ≠ Text.byte ' ') :
    ∀ {col : Nat} {gs : List Glyph}, c ∈ expandFrom w col gs → c.toNat ≠ 0x09 ∧ ∃ g ∈ gs, g.code = c.toNat
  | col, g :: gs, h => by
    rw [expandFrom] at h
    split at h
    · rcases List.mem_append.mp h with h | h
      · exact absurd (List.eq_of_mem_replicate h) hs
      · obtain ⟨ht, g', hg', hcode⟩ := code_of_mem_expandFrom hc hs h
        exact ⟨ht, g', List.mem_cons_of_mem g hg', hcode⟩
    · next hg =>
      rcases List.mem_append.mp h with h | h
      · have hcode := Glyph.code_of_mem_encode hc h
        exact ⟨hcode ▸ hg, g, List.mem_cons_self, hcode⟩
      · obtain ⟨ht, g', hg', hcode⟩ := code_of_mem_expandFrom hc hs h
        exact ⟨ht, g', List.mem_cons_of_mem g hg', hcode⟩

/-- No tab is left. -/
theorem tab_not_mem_expandTabs : Text.byte '\t' ∉ expandTabs w line := by
  unfold expandTabs
  split
  · intro h
    exact (code_of_mem_expandFrom (by decide) (by decide) h).1 rfl
  · next h => simpa [Text.has] using h

/-- No newline is made. -/
theorem newline_not_mem_expandTabs (h : Text.byte '\n' ∉ line) : Text.byte '\n' ∉ expandTabs w line := by
  unfold expandTabs
  split
  · intro hmem
    obtain ⟨_, g, hg, hcode⟩ := code_of_mem_expandFrom (by decide) (by decide) hmem
    have hlt : g.code < 0x80 := by
      rw [hcode]
      decide
    have hbyte := Text.mem_of_code_lt hlt hg
    rw [hcode, UInt8.ofNat_toNat] at hbyte
    exact h hbyte
  · exact h

theorem expandTabs_eq_self (h : line.has '\t' = false) : expandTabs w line = line := by
  rw [expandTabs, h]
  rfl

/-! ## Fixing a line -/

theorem tidy_trimRight_expandTabs : Tidy (Text.trimRight (expandTabs w line)) where
  noTab := by
    have h : Text.byte '\t' ∉ Text.trimRight (expandTabs w line) :=
      fun hmem => tab_not_mem_expandTabs ((Text.trimRight_isPrefix _).subset hmem)
    simpa [Text.has] using h
  inked := Text.getLast?_trimRight _

/-- A tidy line does not end in a carriage return. -/
theorem Tidy.endsWith_cr (h : Tidy line) : line.endsWith "\r" = false := by
  by_contra hcr
  have hcr' : line.endsWith "\r" = true := by simpa using hcr
  obtain ⟨front, rfl⟩ := List.isSuffixOf_iff_suffix.mp hcr'
  have hlast : Text.glyphs (front ++ Text.ofString "\r") = Text.glyphs front ++ Text.glyphs (Text.ofString "\r") :=
    Text.glyphs_append (by decide) [] front
  have hinked := h.inked
  rw [Rule.endsBlank, hlast, List.getLast?_append_of_ne_nil _ (by decide)] at hinked
  exact absurd hinked (by decide)

theorem fixLine_cr (t : Text) : fixLine w (t ++ "\r") = Text.trimRight (expandTabs w t) ++ "\r" := by
  rw [fixLine, Text.beforeSuffix?_append]

theorem fixLine_of_not_endsWith (h : p.endsWith "\r" = false) : fixLine w p = Text.trimRight (expandTabs w p) := by
  rw [fixLine, Text.beforeSuffix?_eq_none h]

/-- **A fixed line is tidy.** -/
theorem tidy_fixLine (w : Nat) (p : Text) : Tidy ((fixLine w p).trimSuffix "\r") := by
  rcases Text.trimSuffix_cases p "\r" with hp | ⟨hp, _⟩
  · rw [hp, fixLine_cr, Text.trimSuffix_append]
    exact tidy_trimRight_expandTabs
  · have htidy : Tidy (Text.trimRight (expandTabs w p)) := tidy_trimRight_expandTabs
    rw [fixLine_of_not_endsWith hp, Text.trimSuffix_of_not_endsWith htidy.endsWith_cr]
    exact htidy

/-- **A tidy line is left alone.** -/
theorem fixLine_eq_self (h : Tidy (p.trimSuffix "\r")) : fixLine w p = p := by
  have hsame : ∀ {t : Text}, Tidy t → Text.trimRight (expandTabs w t) = t := by
    intro t ht
    rw [expandTabs_eq_self ht.noTab, Text.trimRight_eq_self ht.inked]
  rcases Text.trimSuffix_cases p "\r" with hp | ⟨hend, hp⟩
  · conv_lhs => rw [hp, fixLine_cr, hsame h]
    exact hp.symm
  · rw [fixLine_of_not_endsWith hend, hsame (hp ▸ h)]

/-- Fixing makes no newline. -/
theorem newline_not_mem_fixLine (h : Text.byte '\n' ∉ p) : Text.byte '\n' ∉ fixLine w p := by
  have htrim : ∀ {t : Text}, Text.byte '\n' ∉ t → Text.byte '\n' ∉ Text.trimRight (expandTabs w t) :=
    fun ht hmem => newline_not_mem_expandTabs ht ((Text.trimRight_isPrefix _).subset hmem)
  rcases Text.trimSuffix_cases p "\r" with hp | ⟨hend, _⟩
  · rw [hp, List.mem_append, not_or] at h
    rw [hp, fixLine_cr, List.mem_append, not_or]
    exact ⟨htrim h.1, by decide⟩
  · rw [fixLine_of_not_endsWith hend]
    exact htrim h

/-! ## Fixing a file -/

/-- The width of tabs that a setting stands for. -/
def widthOf (tabWidth : Int) : Nat := if tabWidth ≤ 0 then 1 else tabWidth.toNat

theorem fix_eq (content : Text) (tabWidth : Int) :
    fix content tabWidth = Text.join [Text.byte '\n'] ((content.pieces '\n').map (fixLine (widthOf tabWidth))) :=
  rfl

/-- Fixing a file fixes its pieces, and neither adds nor removes any. -/
theorem pieces_fix (content : Text) (tabWidth : Int) :
    (fix content tabWidth).pieces '\n' = (content.pieces '\n').map (fixLine (widthOf tabWidth)) := by
  rw [fix_eq, Text.pieces_join]
  · simpa using Text.pieces_ne_nil '\n' content
  · intro q hq
    obtain ⟨p, hp, rfl⟩ := List.mem_map.mp hq
    exact newline_not_mem_fixLine (Text.not_mem_of_mem_pieces hp)

theorem clean_fix (name content : Text) (tabWidth : Int) : Clean name (fix content tabWidth) := by
  rw [clean_iff]
  intro line hline
  obtain ⟨q, hq, rfl⟩ := mem_splitLines hline
  rw [pieces_fix] at hq
  obtain ⟨p, _, rfl⟩ := List.mem_map.mp hq
  exact tidy_fixLine _ p

theorem fix_eq_self (h : Clean name content) (tabWidth : Int) : fix content tabWidth = content := by
  rw [clean_iff] at h
  have hsame : (content.pieces '\n').map (fixLine (widthOf tabWidth)) = content.pieces '\n' := by
    conv_rhs => rw [← List.map_id (content.pieces '\n')]
    refine List.map_congr_left fun p hp => ?_
    by_cases hnil : p = []
    · subst hnil
      rfl
    · exact fixLine_eq_self (h _ (trimSuffix_mem_splitLines hp hnil))
  rw [fix_eq, hsame, Text.join_pieces]

theorem fix_eq_self_iff {tabWidth : Int} : fix content tabWidth = content ↔ Clean name content := by
  constructor
  · intro h
    rw [← h]
    exact clean_fix name content tabWidth
  · intro h
    exact fix_eq_self h tabWidth

/-! ## Listing files -/

open Command

/-- The file can be read, and one of the two rules reports something in it. -/
def isFlagged (tree : Tree) (path : Text) : Bool :=
  match tree.read path with
  | .ok content => ¬Clean path content
  | .error _ => false

/-- A run that lists files leaves the tree alone, and lists a file exactly if it is flagged. -/
theorem formatFile_list {o : FormatOptions} (ho : o.list) (done : Outcome) (path : Text) :
    (formatFile o {} done path).tree = done.tree ∧
      (formatFile o {} done path).stdout = done.stdout ++ if isFlagged done.tree path then path ++ "\n" else [] := by
  unfold formatFile isFlagged
  cases hread : done.tree.read path with
  | error fault => simp [Outcome.fail]
  | ok content =>
    simp only [ho, ↓reduceIte]
    by_cases hclean : Clean path content
    · simp [hclean, fix_eq_self hclean o.tabWidth]
    · have hne : content ≠ fix content o.tabWidth := fun h => hclean (fix_eq_self_iff.mp h.symm)
      simp [hclean, hne, Outcome.print]

theorem foldl_formatFile_list {o : FormatOptions} (ho : o.list) : ∀ (paths : List Text) (done : Outcome),
    (paths.foldl (formatFile o {}) done).stdout =
      done.stdout ++ Text.unlines (paths.filter (isFlagged done.tree))
  | [], done => (List.append_nil done.stdout).symm
  | path :: paths, done => by
    obtain ⟨htree, hout⟩ := formatFile_list ho done path
    have hnewline : Text.ofString "\n" = [Text.byte '\n'] := rfl
    rw [List.foldl_cons, foldl_formatFile_list ho paths, htree, hout, List.filter_cons, hnewline]
    cases isFlagged done.tree path <;> simp [Text.unlines]

/-- What a run that lists files writes: the flagged files among those that the arguments name. -/
theorem stdout_format {o : FormatOptions} (ho : o.list) {args paths : List Text} {input : Input} {tree : Tree}
    (hargs : args ≠ []) (hexpand : Path.expand tree args o.excludes o.exts = .ok paths) :
    (format o args input tree).stdout = Text.unlines (paths.filter (isFlagged tree)) := by
  rw [format, if_neg (by simpa using hargs), hexpand]
  exact foldl_formatFile_list ho paths { tree }

/-! ## Agreement -/

/-- **The fixer and the two rules about white space agree** on every file, whatever the width of tabs: the rules report
nothing in a fixed file, fixing changes a file exactly if they report something in it, fixing twice is fixing once, and
a run that lists the files that would change lists those in which one of the rules reports something. -/
theorem fix_agrees_with_rules (name content : Text) (tabWidth : Int) :
    Clean name (fix content tabWidth) ∧
    (fix content tabWidth = content ↔ Clean name content) ∧
    (∀ tabWidth', fix (fix content tabWidth) tabWidth' = fix content tabWidth) ∧
    ∀ (o : FormatOptions) (args paths : List Text) (input : Input) (tree : Tree), o.list → args ≠ [] →
      Path.expand tree args o.excludes o.exts = .ok paths →
      (format o args input tree).stdout = Text.unlines (paths.filter (isFlagged tree)) := by
  have hclean := clean_fix name content tabWidth
  refine ⟨hclean, fix_eq_self_iff, fix_eq_self hclean, ?_⟩
  intro o args paths input tree ho hargs hexpand
  exact stdout_format ho hargs hexpand

/-- A file with a stray byte, a tab and carriage returns, and a listing of two files of which one is flagged. -/
theorem fix_agrees_on_mixed_ends :
    let content : Text := Text.ofString "a\tb \r\n" ++ [0xFF] ++ Text.ofString "\r\r\nc"
    let tree := Tree.ofFiles [("a.c", content), ("b.c", "c\r\n")]
    ¬Clean "a.c" content ∧ fix content 4 ≠ content ∧ Clean "a.c" (fix content 4) ∧
      (format { list := true } ["a.c", "b.c"] {} tree).stdout = Text.ofString "a.c\n" := by
  intro content tree
  obtain ⟨hclean, hiff, _, hlist⟩ := fix_agrees_with_rules "a.c" content 4
  have hflagged : ¬Clean "a.c" content := by decide +kernel
  refine ⟨hflagged, fun h => hflagged (hiff.mp h), hclean, ?_⟩
  have hexpand : Path.expand tree ["a.c", "b.c"] [] Path.defaultExtensions = .ok ["a.c", "b.c"] := by rfl
  rw [hlist { list := true } ["a.c", "b.c"] ["a.c", "b.c"] {} tree rfl (by simp) hexpand]
  decide +kernel

end Whitespace

end HouseStyle
