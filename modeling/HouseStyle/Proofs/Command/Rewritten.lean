import HouseStyle.Proofs.Command.Step
import HouseStyle.Proofs.Whitespace.Clean

/-!
# The files that formatting rewrites

A formatting run that writes files back rewrites the files that its arguments name, as far as the user may read and write
them, and nothing else. One step rewrites the file at its path (`rewritten_formatFile`). Steps in a row rewrite the files
of all their paths (`Tree.Rewritten.trans`), a file that is reached twice as if it were reached once, and a path that
cannot be processed stops nothing.

What the steps so far have done to the tree and to standard output (`Reached`) does not change which of the later ones
fail, so both are said of the tree that the run starts from: **what a run changes, and when it fails**
(`format_touches`).
-/

namespace HouseStyle

/-! ## Trees in which files have been rewritten -/

/-- One of the paths leads to the place, and the user may read and write what stands there. -/
structure Tree.IsTarget (t : Tree) (paths : List Text) (place : List Text) (a : Access) : Prop where
  read : a.read = true
  write : a.write = true
  named : ∃ path ∈ paths, t.locate path = .ok place

/-- The second tree is the first with the files at these paths fixed, as far as the user may read and write them. -/
structure Tree.Rewritten (tabWidth : Int) (paths : List Text) (t t' : Tree) : Prop where
  places : t.SamePlaces t'
  fixed : ∀ place a c, t.root.at? place = some (.file a c) → t.IsTarget paths place a →
    t'.root.at? place = some (.file a (Whitespace.fix c tabWidth))
  kept : ∀ place a c, t.root.at? place = some (.file a c) → ¬t.IsTarget paths place a →
    t'.root.at? place = some (.file a c)

namespace Tree

variable {w : Int} {t t' t'' : Tree} {path c : Text} {ps qs : List Text} {place : List Text} {a : Access}

theorem not_isTarget_nil : ¬t.IsTarget [] place a := by
  rintro ⟨-, -, path, hpath, -⟩
  cases hpath

theorem isTarget_append : t.IsTarget (ps ++ qs) place a ↔ t.IsTarget ps place a ∨ t.IsTarget qs place a := by
  constructor
  · rintro ⟨hread, hwrite, path, hpath, hlocate⟩
    rcases List.mem_append.mp hpath with hpath | hpath
    · exact .inl ⟨hread, hwrite, path, hpath, hlocate⟩
    · exact .inr ⟨hread, hwrite, path, hpath, hlocate⟩
  · rintro (⟨hread, hwrite, path, hpath, hlocate⟩ | ⟨hread, hwrite, path, hpath, hlocate⟩)
    · exact ⟨hread, hwrite, path, List.mem_append_left _ hpath, hlocate⟩
    · exact ⟨hread, hwrite, path, List.mem_append_right _ hpath, hlocate⟩

theorem isTarget_singleton : t.IsTarget [path] place a ↔
    a.read = true ∧ a.write = true ∧ t.locate path = .ok place := by
  constructor
  · rintro ⟨hread, hwrite, path', hpath, hlocate⟩
    obtain rfl := List.mem_singleton.mp hpath
    exact ⟨hread, hwrite, hlocate⟩
  · rintro ⟨hread, hwrite, hlocate⟩
    exact ⟨hread, hwrite, path, List.mem_singleton_self path, hlocate⟩

theorem SamePlaces.isTarget (h : t.SamePlaces t') : t'.IsTarget ps place a ↔ t.IsTarget ps place a := by
  constructor
  · rintro ⟨hread, hwrite, path, hpath, hlocate⟩
    exact ⟨hread, hwrite, path, hpath, (h.locate path).symm.trans hlocate⟩
  · rintro ⟨hread, hwrite, path, hpath, hlocate⟩
    exact ⟨hread, hwrite, path, hpath, (h.locate path).trans hlocate⟩

namespace Rewritten

theorem refl (w : Int) (t : Tree) : Rewritten w [] t t :=
  ⟨.refl t, fun _ _ _ _ htarget => absurd htarget not_isTarget_nil, fun _ _ _ hat _ => hat⟩

theorem fix_fix (c : Text) (w : Int) : Whitespace.fix (Whitespace.fix c w) w = Whitespace.fix c w :=
  Whitespace.fix_eq_self (Whitespace.clean_fix [] c w) w

/-- A file of the first tree is fixed in the second one, or its content is kept. -/
theorem fixed_or_kept (h : Rewritten w ps t t') (hat : t.root.at? place = some (.file a c)) :
    t'.root.at? place = some (.file a (Whitespace.fix c w)) ∨ t'.root.at? place = some (.file a c) := by
  by_cases htarget : t.IsTarget ps place a
  · exact .inl (h.fixed place a c hat htarget)
  · exact .inr (h.kept place a c hat htarget)

theorem trans (h : Rewritten w ps t t') (h' : Rewritten w qs t' t'') : Rewritten w (ps ++ qs) t t'' where
  places := h.places.trans h'.places
  fixed place a c hat htarget := by
    rcases isTarget_append.mp htarget with htarget | htarget
    · have hfixed := h'.fixed_or_kept (h.fixed place a c hat htarget)
      rwa [fix_fix, or_self] at hfixed
    · have htarget' := h.places.isTarget.mpr htarget
      rcases h.fixed_or_kept hat with hat' | hat'
      · have hfixed := h'.fixed place a _ hat' htarget'
        rwa [fix_fix] at hfixed
      · exact h'.fixed place a c hat' htarget'
  kept place a c hat hnot := by
    rw [isTarget_append, not_or] at hnot
    exact h'.kept place a c (h.kept place a c hat hnot.1) (mt h.places.isTarget.mp hnot.2)

/-- Putting the fixed content of a file in its place rewrites it. -/
theorem put (hlocate : t.locate path = .ok place) (hat : t.root.at? place = some (.file a c)) (hread : a.read = true)
    (hwrite : a.write = true) : Rewritten w [path] t (t.put place (.file a (Whitespace.fix c w))) := by
  refine ⟨samePlaces_put hat _, fun q b d hq htarget => ?_, fun q b d hq hnot => ?_⟩
  · obtain ⟨-, -, hlocate'⟩ := isTarget_singleton.mp htarget
    obtain rfl : place = q := Except.ok.inj (hlocate.symm.trans hlocate')
    obtain ⟨rfl, rfl⟩ : a = b ∧ c = d := by simpa [hat] using hq
    exact (Node.at?_put_file hat hat).trans (by rw [if_pos rfl])
  · refine (Node.at?_put_file hat hq).trans ?_
    rw [if_neg]
    rintro rfl
    obtain ⟨rfl, rfl⟩ : a = b ∧ c = d := by simpa [hat] using hq
    exact hnot (isTarget_singleton.mpr ⟨hread, hwrite, hlocate⟩)

/-- A path is left alone where there is no file that the user may read and write, or one that is as it would be
fixed. -/
theorem leave (h : ∀ place a c, t.locate path = .ok place → t.root.at? place = some (.file a c) → a.read = true →
    a.write = true → Whitespace.fix c w = c) : Rewritten w [path] t t := by
  refine ⟨.refl t, fun place a c hat htarget => ?_, fun _ _ _ hat _ => hat⟩
  obtain ⟨hread, hwrite, hlocate⟩ := isTarget_singleton.mp htarget
  rw [h place a c hlocate hat hread hwrite, hat]

/-- A rewritten file holds its fixed content, if it could be written or was fixed before. -/
theorem read (h : Rewritten w ps t t') (hpath : path ∈ ps) (hread : t.read path = .ok c)
    (hwrite : t.MayWrite path ∨ Whitespace.fix c w = c) : t'.read path = .ok (Whitespace.fix c w) := by
  obtain ⟨place, a, hlocate, hat, hopen⟩ := read_eq_ok.mp hread
  have hlocate' : t'.locate path = .ok place := (h.places.locate path).trans hlocate
  refine read_eq_ok.mpr ⟨place, a, hlocate', ?_, hopen⟩
  rcases hwrite with hwrite | hfixed
  · exact h.fixed place a c hat ⟨hopen, (mayWrite_iff hlocate hat).mp hwrite, path, hpath, hlocate⟩
  · have hat' := h.fixed_or_kept hat
    rwa [hfixed, or_self, ← hfixed] at hat'

/-- A path can be read in the one tree exactly if it can be read in the other. -/
theorem read_isOk (h : Rewritten w ps t t') (path : Text) :
    (∃ c, t'.read path = .ok c) ↔ ∃ c, t.read path = .ok c := by
  have hread : ∀ u : Tree, (∃ c, u.read path = .ok c) ↔ ∃ place a, u.locate path = .ok place ∧
      (∃ c, u.root.at? place = some (.file a c)) ∧ a.read = true := by
    intro u
    simp only [read_eq_ok]
    constructor
    · rintro ⟨c, place, a, hlocate, hat, hopen⟩
      exact ⟨place, a, hlocate, ⟨c, hat⟩, hopen⟩
    · rintro ⟨place, a, hlocate, ⟨c, hat⟩, hopen⟩
      exact ⟨c, place, a, hlocate, hat, hopen⟩
  rw [hread, hread, h.places.locate]
  simp only [h.places.root.at?_file]

/-- What cannot be read in the one tree cannot be read in the other. -/
theorem read_error (h : Rewritten w ps t t') (path : Text) :
    (∃ fault, t'.read path = .error fault) ↔ ∃ fault, t.read path = .error fault := by
  have herror : ∀ u : Tree, (∃ fault, u.read path = .error fault) ↔ ¬∃ c, u.read path = .ok c := by
    intro u
    cases u.read path <;> simp
  rw [herror, herror, h.read_isOk]

/-- A file that the user may not write reads the same in both trees. -/
theorem read_sealed (h : Rewritten w ps t t') (hsealed : ¬t.MayWrite path) :
    t'.read path = .ok c ↔ t.read path = .ok c := by
  have hkept : ∀ d, t.read path = .ok d → t'.read path = .ok d := by
    intro d hread
    obtain ⟨place, a, hlocate, hat, hopen⟩ := read_eq_ok.mp hread
    refine read_eq_ok.mpr ⟨place, a, (h.places.locate path).trans hlocate, h.kept place a d hat ?_, hopen⟩
    exact fun htarget => hsealed ((mayWrite_iff hlocate hat).mpr htarget.write)
  refine ⟨fun hread => ?_, hkept c⟩
  obtain ⟨d, hd⟩ := (h.read_isOk path).mp ⟨c, hread⟩
  obtain rfl : c = d := Except.ok.inj (hread.symm.trans (hkept d hd))
  exact hd

end Rewritten

end Tree

namespace Command

variable {o : FormatOptions} {output : Output} {done : Outcome} {path written c : Text} {paths before args : List Text}
  {tree tree' : Tree}

/-! ## What arrives on standard output -/

/-- What is written later arrives as it does after all of what was written before, also if only a part of that has
arrived. -/
theorem Output.holds_append (out : Output) (s t : Text) : out.holds (out.holds s ++ t) = out.holds (s ++ t) := by
  unfold Output.holds
  cases out.room with
  | none => rfl
  | some room =>
    simp only [Option.elim_some]
    rw [List.take_append, List.take_append, List.take_take, Nat.min_self, List.length_take]
    congr 2
    omega

/-- Writing fails after a part of what was written before exactly if it fails after all of it. -/
theorem Output.refuses_holds (out : Output) (s t : Text) : out.refuses (out.holds s) t = out.refuses s t := by
  unfold Output.refuses Output.holds
  cases out.room with
  | none => rfl
  | some room =>
    cases t with
    | nil => rfl
    | cons b t =>
      simp only [Option.elim_some, Option.any_some, List.length_take, List.length_cons]
      congr 1
      rw [decide_eq_decide]
      omega

/-! ## One step -/

/-- The paths that a run rewrites: none, unless it writes files back. -/
def FormatOptions.targets (o : FormatOptions) (paths : List Text) : List Text :=
  if o.write && !o.diff && !o.list then paths else []

theorem targets_nil (o : FormatOptions) : o.targets [] = [] := ite_self []

theorem targets_append (o : FormatOptions) (ps qs : List Text) : o.targets (ps ++ qs) = o.targets ps ++ o.targets qs := by
  unfold FormatOptions.targets
  split <;> rfl

theorem targets_of_writesOnly (ho : o.WritesOnly) (paths : List Text) : o.targets paths = paths := by
  simp [FormatOptions.targets, ho.write, ho.diff, ho.list]

theorem targets_of_not_writesOnly (ho : ¬o.WritesOnly) (paths : List Text) : o.targets paths = [] := by
  rw [FormatOptions.targets, if_neg]
  intro h
  simp only [Bool.and_eq_true, Bool.not_eq_true'] at h
  exact ho ⟨h.1.1, h.1.2, h.2⟩

/-- **One step rewrites the file at its path**, if there is one that the user may read and write. -/
theorem rewritten_formatFile (o : FormatOptions) (output : Output) (done : Outcome) (path : Text) :
    done.tree.Rewritten o.tabWidth (o.targets [path]) (formatFile o output done path).tree := by
  by_cases ho : o.WritesOnly
  · rw [targets_of_writesOnly ho]
    have hstep := formats_formatFile o output done path
    generalize formatFile o output done path = next at hstep ⊢
    cases hstep with
    | unread h =>
      refine .leave fun place a c hlocate hat hread _ => ?_
      rw [Tree.read_eq_ok.mpr ⟨place, a, hlocate, hat, hread⟩] at h
      cases h
    | kept _ h hsame =>
      refine .leave fun place a c hlocate hat hread _ => ?_
      rw [Tree.read_eq_ok.mpr ⟨place, a, hlocate, hat, hread⟩] at h
      cases h
      exact hsame.symm
    | listed ho' => exact Bool.noConfusion (ho.list.symm.trans ho')
    | patched _ ho' => exact Bool.noConfusion (ho.diff.symm.trans ho')
    | written _ _ hlocate hat hread hwrite => exact .put hlocate hat hread hwrite
    | sealed _ _ _ hsealed =>
      exact .leave fun place a c hlocate hat _ hwrite =>
        absurd ((Tree.mayWrite_iff hlocate hat).mpr hwrite) hsealed
    | printed ho' => exact absurd ho' ho.not_printsOnly
    | refused ho' => exact absurd ho' ho.not_printsOnly
  · rw [targets_of_not_writesOnly ho, tree_formatFile ho]
    exact .refl _ _

/-- The fixed texts of the files at these paths, of those that can be read. -/
def FormatOptions.printed (o : FormatOptions) (tree : Tree) (paths : List Text) : Text :=
  paths.flatMap fun path => ((tree.read path).toOption.map (Whitespace.fix · o.tabWidth)).getD []

theorem printed_concat (o : FormatOptions) (tree : Tree) (before : List Text) (path : Text) :
    o.printed tree (before ++ [path]) =
      o.printed tree before ++ ((tree.read path).toOption.map (Whitespace.fix · o.tabWidth)).getD [] := by
  simp [FormatOptions.printed]

/-- **One step of a run that prints fixed texts prints one**, as far as standard output takes it. -/
theorem stdout_formatFile (ho : o.PrintsOnly) (hdone : done.stdout = output.holds (o.printed done.tree before)) :
    (formatFile o output done path).stdout = output.holds (o.printed done.tree (before ++ [path])) := by
  rw [printed_concat]
  have hstep := formats_formatFile o output done path
  generalize formatFile o output done path = next at hstep ⊢
  cases hstep with
  | unread h => simpa [h, Except.toOption, Outcome.fail] using hdone
  | kept ho' => exact absurd ho ho'
  | listed ho' => exact Bool.noConfusion (ho.list.symm.trans ho')
  | patched _ ho' => exact Bool.noConfusion (ho.diff.symm.trans ho')
  | written ho' => exact absurd ho ho'.not_printsOnly
  | sealed ho' => exact absurd ho ho'.not_printsOnly
  | printed _ h => simp [h, Except.toOption, Outcome.print, hdone, Output.holds_append]
  | refused _ h => simp [h, Except.toOption, Outcome.print, Outcome.fail, hdone, Output.holds_append]

/-! ## Runs -/

/-- What a run has done after these paths, beginning with the tree. -/
structure Reached (o : FormatOptions) (output : Output) (tree : Tree) (before : List Text) (done : Outcome) : Prop where
  rewritten : tree.Rewritten o.tabWidth (o.targets before) done.tree
  same : ¬o.WritesOnly → done.tree = tree
  stdout : o.PrintsOnly → done.stdout = output.holds (o.printed tree before)

theorem reached_start (o : FormatOptions) (output : Output) (tree : Tree) : Reached o output tree [] { tree } where
  rewritten := by
    rw [targets_nil]
    exact .refl _ _
  same _ := rfl
  stdout _ := by cases h : output.room <;> simp [FormatOptions.printed, Output.holds, h]

/-- **One step takes the run on.** -/
theorem Reached.step (h : Reached o output tree before done) (path : Text) :
    Reached o output tree (before ++ [path]) (formatFile o output done path) where
  rewritten := by
    rw [targets_append]
    exact h.rewritten.trans (rewritten_formatFile o output done path)
  same ho := (tree_formatFile ho output done path).trans (h.same ho)
  stdout ho := by
    have hsame := h.same fun ho' => ho'.not_printsOnly ho
    have hdone := h.stdout ho
    rw [← hsame] at hdone ⊢
    exact stdout_formatFile ho hdone

theorem Reached.run (h : Reached o output tree before done) (paths : List Text) :
    Reached o output tree (before ++ paths) (paths.foldl (formatFile o output) done) := by
  induction paths generalizing before done with
  | nil => simpa using h
  | cons path paths ih => simpa using ih (h.step path)

/-- **What a run has done does not change which of the later steps fail.** -/
theorem Reached.fails (h : Reached o output tree before done) (path : Text) :
    o.Fails output done.tree done.stdout path ↔ o.Fails output tree (o.printed tree before) path := by
  by_cases ho : o.WritesOnly
  · have hplaces := h.rewritten.places
    rw [fails_of_writesOnly ho, fails_of_writesOnly ho, h.rewritten.read_error, hplaces.mayWrite]
    refine or_congr_right (and_congr_right fun hsealed => ?_)
    simp only [h.rewritten.read_sealed hsealed]
  · rw [fails_iff, fails_iff, h.same ho]
    refine or_congr_right (exists_congr fun c => and_congr_right fun _ => or_congr_right (or_congr_left ?_))
    refine and_congr_right fun hprints => ?_
    rw [h.stdout hprints, Output.refuses_holds]

/-- A split of a list with a first member: at this one, or of the rest. -/
theorem exists_split_cons {P : List Text → Text → Prop} :
    (∃ mid p after, path :: paths = mid ++ p :: after ∧ P mid p) ↔
      P [] path ∨ ∃ mid p after, paths = mid ++ p :: after ∧ P (path :: mid) p := by
  constructor
  · rintro ⟨mid, p, after, hsplit, h⟩
    cases mid with
    | nil =>
      cases hsplit
      exact .inl h
    | cons _ mid =>
      cases hsplit
      exact .inr ⟨mid, p, after, rfl, h⟩
  · rintro (h | ⟨mid, p, after, rfl, h⟩)
    · exact ⟨[], path, paths, rfl, h⟩
    · exact ⟨path :: mid, p, after, rfl, h⟩

/-- **A run fails exactly if one of its steps does**, said of the tree that it starts from. -/
theorem Reached.code (h : Reached o output tree before done) (hdone : done.code ≤ 1) (paths : List Text) :
    (paths.foldl (formatFile o output) done).code ≤ 1 ∧
      ((paths.foldl (formatFile o output) done).code = 1 ↔ done.code = 1 ∨
        ∃ mid path after, paths = mid ++ path :: after ∧
          o.Fails output tree (o.printed tree (before ++ mid)) path) := by
  induction paths generalizing before done with
  | nil => simpa using hdone
  | cons path paths ih =>
    obtain ⟨hle, hcode⟩ := ih (h.step path) (code_formatFile_le o output hdone path)
    refine ⟨hle, hcode.trans ?_⟩
    rw [code_formatFile, h.fails, or_assoc, exists_split_cons]
    simp only [List.append_nil, List.append_assoc, List.singleton_append]

/-- If the arguments can be expanded, a run rewrites the files that they name. -/
theorem format_of_expand (hargs : args ≠ []) (input : Input) (output : Output)
    (h : Path.expand tree args o.excludes o.exts = .ok paths) :
    tree.Rewritten o.tabWidth (o.targets paths) (format o args input tree output).tree ∧
      (format o args input tree output).code ≤ 1 ∧
      ((format o args input tree output).code = 1 ↔ ∃ before path after, paths = before ++ path :: after ∧
        o.Fails output tree (o.printed tree before) path) := by
  have hstart := reached_start o output tree
  obtain ⟨hle, hcode⟩ := hstart.code (Nat.zero_le 1) paths
  rw [format, if_neg (by simpa using hargs), h]
  exact ⟨(hstart.run paths).rewritten, hle, hcode.trans (by simp)⟩

theorem format_of_error (input : Input) (output : Output) {e : Path.ExpandError}
    (h : Path.expand tree args o.excludes o.exts = .error e) :
    (format o args input tree output).tree = tree ∧ (format o args input tree output).code = 1 := by
  have hargs : args ≠ [] := by
    rintro rfl
    cases h
  rw [format, if_neg (by simpa using hargs), h]
  exact ⟨rfl, rfl⟩

end Command

end HouseStyle
