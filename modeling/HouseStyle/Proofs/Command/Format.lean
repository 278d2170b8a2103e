import HouseStyle.Proofs.Command.Check
import HouseStyle.Proofs.Command.Rewritten
import HouseStyle.Proofs.Path.Expand

/-!
# Formatting, then listing and checking

A formatting run that writes files back and does not fail has read every file that the arguments name and has rewritten
it, unless it was clean. The arguments name no other files in the tree that it leaves behind (`Path.expand_samePlaces`),
so **what they name then is clean** (`format_write`).

Hence **listing the files that would change lists none, and checking the rules about white space finds nothing**
(`check_after_format`).
-/

namespace HouseStyle

/-! ## Clean files -/

/-- The path leads to a file in which the rules about white space find nothing. -/
def Tree.CleanAt (t : Tree) (path : Text) : Prop := ∃ c, t.read path = .ok c ∧ Whitespace.Clean path c

namespace Command

variable {o : FormatOptions} {output : Output} {done : Outcome} {path written : Text} {paths args : List Text}
  {input : Input} {tree : Tree}

/-! ## Writing files back -/

/-- Where a run that writes files back does not fail, there is a file that can be read, and that may be written or is as
it would be fixed. -/
theorem exists_read_of_not_fails (ho : o.WritesOnly) (h : ¬o.Fails output tree written path) :
    ∃ c, tree.read path = .ok c ∧ (tree.MayWrite path ∨ Whitespace.fix c o.tabWidth = c) := by
  rw [fails_of_writesOnly ho, not_or] at h
  obtain ⟨hread, hwritten⟩ := h
  cases hpath : tree.read path with
  | error fault => exact absurd ⟨fault, hpath⟩ hread
  | ok c =>
    refine ⟨c, rfl, ?_⟩
    by_contra hnot
    rw [not_or] at hnot
    exact hwritten ⟨hnot.1, c, hpath, Ne.symm hnot.2⟩

/-- The files that the arguments name are the same after the run, or fewer, and they are clean. -/
theorem format_write (ho : o.WritesOnly) (hargs : args ≠ []) (hcode : (format o args input tree output).code = 0) :
    ∃ paths, Path.expand (format o args input tree output).tree args o.excludes o.exts = .ok paths ∧
      ∀ path ∈ paths, (format o args input tree output).tree.CleanAt path := by
  cases hexpand : Path.expand tree args o.excludes o.exts with
  | error e =>
    obtain ⟨-, hfailed⟩ := format_of_error input output hexpand
    rw [hcode] at hfailed
    cases hfailed
  | ok paths =>
    obtain ⟨hrewritten, -, hfails⟩ := format_of_expand hargs input output hexpand
    rw [targets_of_writesOnly ho] at hrewritten
    obtain ⟨paths', hexpand', hsub⟩ := Path.expand_samePlaces hrewritten.places hexpand
    refine ⟨paths', hexpand', fun path hpath => ?_⟩
    obtain ⟨before, after, hsplit⟩ := List.append_of_mem (hsub hpath)
    have hpasses : ¬o.Fails output tree (o.printed tree before) path := by
      intro hfail
      have hfailed := hfails.mpr ⟨before, path, after, hsplit, hfail⟩
      rw [hcode] at hfailed
      cases hfailed
    obtain ⟨c, hread, hwrite⟩ := exists_read_of_not_fails ho hpasses
    exact ⟨_, hrewritten.read (hsub hpath) hread hwrite, Whitespace.clean_fix path c o.tabWidth⟩

/-! ## Listing and checking clean files -/

/-- Listing the files that would change leaves everything as it is if all are clean. -/
theorem foldl_formatFile_clean (ho : o.list) (h : ∀ path ∈ paths, done.tree.CleanAt path) :
    paths.foldl (formatFile o output) done = done := by
  induction paths with
  | nil => rfl
  | cons path paths ih =>
    rw [List.forall_mem_cons] at h
    obtain ⟨c, hread, hclean⟩ := h.1
    have hstep : formatFile o output done path = done := by
      simp [formatFile, hread, ho, Whitespace.fix_eq_self hclean]
    rw [List.foldl_cons, hstep, ih h.2]

/-- The names of the rules about white space. -/
def whitespaceChecks : List Text := ["space-indentation", "trailing-whitespace"]

theorem asked_whitespaceChecks {name : Text} : Rule.Asked whitespaceChecks [] name ↔ name ∈ whitespaceChecks := by
  have htrim : whitespaceChecks.map (·.trim) = whitespaceChecks := by decide +kernel
  have hgiven : Rule.givenNames whitespaceChecks = whitespaceChecks := by
    rw [Rule.givenNames, htrim]
    rfl
  have hnone : Rule.givenNames [] = [] := rfl
  rw [Rule.asked_iff, hgiven, hnone]
  simp [whitespaceChecks]

theorem known_whitespaceChecks {rules : List Rule} (limits : Limits) :
    ¬Rule.NamesUnknown (convention limits ++ rules) whitespaceChecks [] := by
  rintro ⟨n, hn, -, hunknown⟩
  have hrule : ∀ name ∈ whitespaceChecks, ∃ rule ∈ convention limits, rule.name = name.trim := by
    intro name hname
    simp only [whitespaceChecks, List.mem_cons, List.not_mem_nil, or_false] at hname
    rcases hname with rfl | rfl
    · exact ⟨Rule.spaceIndentation, by simp [convention], by decide +kernel⟩
    · exact ⟨Rule.trailingWhitespace, by simp [convention], by decide +kernel⟩
  obtain ⟨rule, hmem, hname⟩ := hrule n (by simpa using hn)
  exact hunknown rule (List.mem_append_left _ hmem) hname

/-- The rules of the convention with these names are the two about white space. -/
theorem filter_whitespaceChecks (limits : Limits) :
    (convention limits).filter (fun rule => decide (rule.name ∈ whitespaceChecks)) =
      [Rule.spaceIndentation, Rule.trailingWhitespace] :=
  rfl

section Checking

variable {setup : CheckSetup} {c : CheckOptions}

theorem selected_whitespaceChecks (hchecks : c.checks = whitespaceChecks) (hdisable : c.disable = [])
    (hextra : ∀ rule ∈ setup.extra, rule.name ∉ whitespaceChecks) :
    setup.selected c = [Rule.spaceIndentation, Rule.trailingWhitespace] := by
  have hnone : setup.extra.filter (fun rule => decide (rule.name ∈ whitespaceChecks)) = [] := by simpa using hextra
  rw [CheckSetup.selected, hchecks, hdisable, CheckSetup.rules,
    Rule.selected_eq (Rule.unknown_eq_nil.mpr (known_whitespaceChecks c.limits))]
  simp only [asked_whitespaceChecks]
  rw [List.filter_append, filter_whitespaceChecks, hnone, List.append_nil]

/-- The two rules find nothing in a clean file. -/
theorem lintFile_clean {content : Text} (h : Whitespace.Clean path content) :
    lintFile [Rule.spaceIndentation, Rule.trailingWhitespace] path content = [] := by
  simp [lintFile, h.1, h.2, Suppression.filter, Diagnostic.sort]

/-- Checking clean files finds nothing. -/
theorem check_clean (hchecks : c.checks = whitespaceChecks) (hdisable : c.disable = [])
    (hextra : ∀ rule ∈ setup.extra, rule.name ∉ whitespaceChecks) (hargs : args ≠ [])
    (hexpand : Path.expand tree args c.excludes c.exts = .ok paths) (hclean : ∀ path ∈ paths, tree.CleanAt path) :
    (check setup c args input tree).code = 0 ∧
      (c.format = .text → (check setup c args input tree).stdout = []) := by
  have hlint : lintFiles (setup.selected c) tree.read paths = .ok [] := by
    rcases fails_or_read tree.read paths with ⟨path, hpath, fault, hfault⟩ | ⟨contents, hread⟩
    · obtain ⟨content, hcontent, -⟩ := hclean path hpath
      rw [hcontent] at hfault
      cases hfault
    · have hnothing : ∀ path ∈ paths, lintFile (setup.selected c) path (contents path) = [] := by
        intro path hpath
        obtain ⟨content, hcontent, hpathclean⟩ := hclean path hpath
        rw [hread path hpath] at hcontent
        cases hcontent
        rw [selected_whitespaceChecks hchecks hdisable hextra, lintFile_clean hpathclean]
      rw [lintFiles_of_read hread, List.flatMap_eq_nil_iff.mpr hnothing]
      simp [Diagnostic.sort]
  have hknown : ¬Rule.NamesUnknown (setup.rules c) c.checks c.disable := by
    rw [hchecks, hdisable]
    exact known_whitespaceChecks c.limits
  have hfound : (examination (setup.selected c) c args input tree).result = .ok [] := by
    simp [examination, hargs, examineFiles, hexpand, hlint]
  exact check_of_ok hknown hfound

end Checking

/-- **Formatting, listing and checking agree.** After a run that writes files back and does not fail, a run that lists
the files that would change, with any width of tabs, prints nothing, succeeds and changes nothing, and checking the
rules about white space succeeds and prints nothing. -/
theorem check_after_format (o : FormatOptions) (ho : o.WritesOnly) (args : List Text) (hargs : args ≠ [])
    (input : Input) (tree : Tree) (output : Output) (hcode : (format o args input tree output).code = 0) :
    let after := (format o args input tree output).tree
    (∀ (o' : FormatOptions) (input' : Input) (output' : Output), o'.list → o'.excludes = o.excludes →
      o'.exts = o.exts →
      format o' args input' after output' = { code := 0, stdout := [], stderr := [], tree := after }) ∧
    ∀ (setup : CheckSetup) (c : CheckOptions) (input' : Input),
      c.checks = ["space-indentation", "trailing-whitespace"] → c.disable = [] → c.format = .text →
      c.excludes = o.excludes → c.exts = o.exts → (∀ rule ∈ setup.extra, rule.name ∉ c.checks) →
      (check setup c args input' after).code = 0 ∧ (check setup c args input' after).stdout = [] := by
  obtain ⟨paths, hexpand, hclean⟩ := format_write ho hargs hcode
  constructor
  · intro o' input' output' hlist hexcludes hexts
    rw [← hexcludes, ← hexts] at hexpand
    rw [format, if_neg (by simpa using hargs), hexpand]
    exact foldl_formatFile_clean hlist hclean
  · intro setup c input' hchecks hdisable hformat hexcludes hexts hextra
    rw [← hexcludes, ← hexts] at hexpand
    obtain ⟨hcode', hout⟩ := check_clean hchecks hdisable (hchecks ▸ hextra) hargs hexpand hclean
    exact ⟨hcode', hout hformat⟩

/-- A file is reached through the parent directory and, like one with a stray byte, by walking a directory from the
root. A clean file that may not be written does no harm. -/
theorem check_after_format_twice :
    let sealed := Node.file { write := false } "int g_x;\n"
    let tree := (Tree.ofFiles [("src/a.c", "\tx; \r\n"), ("src/b.h", [0xFF, 0x20])]).put ["work", "src", "c.h"] sealed
    let args : List Text := ["../work/src/a.c", "/work/src"]
    let run := format { write := true } args {} tree
    let checks := [Text.ofString "space-indentation", "trailing-whitespace"]
    run.code = 0 ∧ run.tree.read "src/a.c" = .ok "    x;\r\n" ∧ run.tree.read "/work/src/b.h" = .ok [0xFF] ∧
      (format { list := true } args {} run.tree).stdout = [] ∧ (check {} { checks } args {} run.tree).code = 0 := by
  intro sealed tree args run checks
  have hrun : run.code = 0 ∧ run.tree.read "src/a.c" = .ok "    x;\r\n" ∧ run.tree.read "/work/src/b.h" = .ok [0xFF] := by
    decide +kernel
  obtain ⟨hcode, ha, hb⟩ := hrun
  obtain ⟨hlist, hcheck⟩ :=
    check_after_format { write := true } ⟨rfl, rfl, rfl⟩ args (by simp [args]) {} tree {} hcode
  refine ⟨hcode, ha, hb, ?_, ?_⟩
  · rw [hlist { list := true } {} {} rfl rfl rfl]
  · exact (hcheck {} { checks } {} rfl rfl rfl rfl rfl (by simp)).1

end Command

end HouseStyle
