import HouseStyle.Proofs.Linter.Pool
import HouseStyle.Proofs.Linter.Sorting
import HouseStyle.Proofs.Rule.Orderly
import HouseStyle.Proofs.Suppression.Directive

/-!
# Checking many files

The files of a run may be checked one after another (`lintFiles`) or by a pool of workers (`Concurrently`). What is
found in a file is about this file (`file_of_mem_lintFile`), provided the rules put no other file into their findings
(`Rule.KeepsFile`), and the joined findings are sorted in the end. So

* **the findings depend neither on the schedule nor on the order of the paths**, and are those of the files one by one,
  joined and sorted;
* **a file that cannot be read makes the whole run an error**

(`lintFiles_unordered`).
-/

namespace HouseStyle

variable {ε : Type} {rules : List Rule} {read : Text → Except ε Text} {paths : List Text}

/-! ## Runs -/

/-- What is found in the file of a path, or why it cannot be read. -/
def examine (rules : List Rule) (read : Text → Except ε Text) (path : Text) : Except (Text × ε) (List Diagnostic) :=
  match read path with
  | .ok content => .ok (lintFile rules path content)
  | .error e => .error (path, e)

/-- The findings of files, joined. -/
def joined (found : List (List Diagnostic)) : List Diagnostic := Diagnostic.sort found.flatten

/-- How many workers check so many files: as many as are asked for, or one for each core, but no more than files. -/
def workers (jobs : Int) (cores files : Nat) : Nat := min (if jobs ≤ 0 then cores else jobs.toNat) files

/-- Checking the files with a pool of workers comes to an end whatever the schedule, with a result of which `P` is
true. -/
def Concurrently (rules : List Rule) (read : Text → Except ε Text) (jobs : Int) (cores : Nat) (paths : List Text)
    (P : Except (Text × ε) (List Diagnostic) → Prop) : Prop :=
  if paths = [] then P (.ok [])
  else Pool.Ends (examine rules read) (workers jobs cores paths.length) (fun found => P (found.map joined))
    (.start paths)

theorem lintFiles_eq (rules : List Rule) (read : Text → Except ε Text) (paths : List Text) :
    lintFiles rules read paths = (paths.mapM (examine rules read)).map joined := by
  have hbind : lintFiles rules read paths = paths.mapM (examine rules read) >>= fun found => .ok (joined found) := rfl
  rw [hbind]
  cases paths.mapM (examine rules read) <;> rfl

theorem workers_pos {jobs : Int} {cores : Nat} (hcores : 0 < cores) (hpaths : paths ≠ []) :
    0 < workers jobs cores paths.length := by
  have hlength := List.length_pos_of_ne_nil hpaths
  unfold workers
  split <;> omega

/-! ## Readable files -/

section Readable

variable {contents : Text → Text}

theorem examine_of_read {path : Text} (h : read path = .ok (contents path)) :
    examine rules read path = .ok (lintFile rules path (contents path)) := by
  rw [examine, h]

theorem mapM_examine (h : ∀ path ∈ paths, read path = .ok (contents path)) :
    paths.mapM (examine rules read) = .ok (paths.map fun path => lintFile rules path (contents path)) := by
  induction paths with
  | nil => rfl
  | cons path rest ih =>
    rw [List.forall_mem_cons] at h
    rw [List.mapM_cons, examine_of_read h.1, ih h.2]
    rfl

theorem joined_map (found : Text → List Diagnostic) (paths : List Text) :
    joined (paths.map found) = Diagnostic.sort (paths.flatMap found) := by
  rw [joined, List.flatMap_def]

/-- **One after another or by a pool, the findings in readable files are those of each file, joined and sorted.** -/
theorem lintFiles_of_read (h : ∀ path ∈ paths, read path = .ok (contents path)) :
    lintFiles rules read paths =
      .ok (Diagnostic.sort (paths.flatMap fun path => lintFile rules path (contents path))) := by
  rw [lintFiles_eq, mapM_examine h, ← joined_map]
  rfl

theorem concurrently_of_read {jobs : Int} {cores : Nat} (hcores : 0 < cores)
    (h : ∀ path ∈ paths, read path = .ok (contents path)) :
    Concurrently rules read jobs cores paths
      (· = .ok (Diagnostic.sort (paths.flatMap fun path => lintFile rules path (contents path)))) := by
  unfold Concurrently
  split
  next hpaths =>
    subst hpaths
    simp [Diagnostic.sort]
  next hpaths =>
    have hwork : ∀ path ∈ paths, examine rules read path = .ok (lintFile rules path (contents path)) :=
      fun path hpath => examine_of_read (h path hpath)
    refine (Pool.ends_ok (workers_pos hcores hpaths) hwork).imp fun outcome houtcome => ?_
    rw [houtcome, ← joined_map]
    rfl

end Readable

/-! ## Unreadable files -/

/-- The result is the error of a path that cannot be read. -/
def Fails (read : Text → Except ε Text) (paths : List Text) {α : Type} (result : Except (Text × ε) α) : Prop :=
  ∃ path ∈ paths, ∃ e, read path = .error e ∧ result = .error (path, e)

theorem examine_of_error {path : Text} {e : ε} (h : read path = .error e) :
    examine rules read path = .error (path, e) := by
  rw [examine, h]

theorem Fails.map {α β : Type} {f : α → β} {result : Except (Text × ε) α} (h : Fails read paths result) :
    Fails read paths (result.map f) := by
  obtain ⟨path, hpath, e, hread, rfl⟩ := h
  exact ⟨path, hpath, e, hread, rfl⟩

theorem fails_mapM_examine (h : ∃ path ∈ paths, ∃ e, read path = .error e) :
    Fails read paths (paths.mapM (examine rules read)) := by
  induction paths with
  | nil => simp at h
  | cons path rest ih =>
    rw [List.mapM_cons]
    cases hpath : read path with
    | error e =>
      rw [examine_of_error hpath]
      exact ⟨path, List.mem_cons_self, e, hpath, rfl⟩
    | ok content =>
      have hrest : ∃ path ∈ rest, ∃ e, read path = .error e := by simpa [hpath] using h
      obtain ⟨path', hmem, e, hread, hmapM⟩ := ih hrest
      rw [hmapM, examine, hpath]
      exact ⟨path', List.mem_cons_of_mem _ hmem, e, hread, rfl⟩

/-- **One after another or by a pool, a path that cannot be read makes the whole run an error.** -/
theorem fails_lintFiles (h : ∃ path ∈ paths, ∃ e, read path = .error e) :
    Fails read paths (lintFiles rules read paths) := by
  rw [lintFiles_eq]
  exact (fails_mapM_examine h).map

theorem concurrently_fails {jobs : Int} {cores : Nat} (hcores : 0 < cores)
    (h : ∃ path ∈ paths, ∃ e, read path = .error e) :
    Concurrently rules read jobs cores paths (Fails read paths) := by
  have hpaths : paths ≠ [] := List.ne_nil_of_mem h.choose_spec.1
  rw [Concurrently, if_neg hpaths]
  have hwork : ∃ path ∈ paths, ∃ e, examine rules read path = .error e := by
    obtain ⟨path, hpath, e, he⟩ := h
    exact ⟨path, hpath, (path, e), examine_of_error he⟩
  refine (Pool.ends_error (workers_pos hcores hpaths) hwork).imp fun outcome houtcome => ?_
  obtain ⟨path, hpath, failed, hexamine, rfl⟩ := houtcome
  cases hread : read path with
  | ok content => simp [examine, hread] at hexamine
  | error e =>
    rw [examine_of_error hread] at hexamine
    cases hexamine
    exact ⟨path, hpath, e, hread, rfl⟩

/-! ## Files and their findings -/

/-- What the rule finds in a file is about this file. -/
def Rule.KeepsFile (rule : Rule) : Prop := ∀ src : Source, ∀ f ∈ rule.run src, f.file = [] ∨ f.file = src.name

theorem Rule.IsOrderly.keepsFile {rule : Rule} (h : rule.IsOrderly) : rule.KeepsFile :=
  fun src f hf => .inl ((h src).file f hf)

/-- The diagnostics of a file are about this file. -/
theorem file_of_mem_lintFile (hrules : ∀ rule ∈ rules, rule.KeepsFile) {path content : Text} {d : Diagnostic}
    (h : d ∈ lintFile rules path content) : d.pos.file = path := by
  obtain ⟨⟨rule, hrule, hd⟩, -⟩ := Suppression.mem_lintFile.mp h
  obtain ⟨f, hf, rfl⟩ := List.mem_map.mp hd
  have hname : (Source.ofContent path content).name = path := rfl
  rcases hrules rule hrule _ f hf with hfile | hfile <;> simp [Rule.diagnose, hfile, hname]

/-- **Neither the schedule nor the order of the paths matters.** If rules keep to the file they are run over, checking
readable files, with any number of workers, finds for every order of the paths what is found in each file, joined and
sorted. If a path cannot be read, checking is an error about such a path. -/
theorem lintFiles_unordered (rules : List Rule) (hrules : ∀ rule ∈ rules, rule.KeepsFile) (read : Text → Except ε Text)
    (jobs : Int) (cores : Nat) (hcores : 0 < cores) (paths : List Text) :
    (∀ contents : Text → Text, (∀ path ∈ paths, read path = .ok (contents path)) →
      ∀ paths' : List Text, paths'.Perm paths →
        let found := Diagnostic.sort (paths.flatMap fun path => lintFile rules path (contents path))
        lintFiles rules read paths' = .ok found ∧ Concurrently rules read jobs cores paths' (· = .ok found)) ∧
    ((∃ path ∈ paths, ∃ e, read path = .error e) →
      Fails read paths (lintFiles rules read paths) ∧
        Concurrently rules read jobs cores paths (Fails read paths)) := by
  refine ⟨fun contents hread paths' hperm => ?_, fun h => ⟨fails_lintFiles h, concurrently_fails hcores h⟩⟩
  have hread' : ∀ path ∈ paths', read path = .ok (contents path) :=
    fun path hpath => hread path (hperm.mem_iff.mp hpath)
  have hfile : ∀ path, ∀ d ∈ lintFile rules path (contents path), d.pos.file = path :=
    fun _ _ hd => file_of_mem_lintFile hrules hd
  rw [← Diagnostic.sort_flatMap_perm hfile hperm]
  exact ⟨lintFiles_of_read hread', concurrently_of_read hcores hread'⟩

/-- Two workers check two files, one of them given twice and before the other; a third file cannot be read. -/
theorem lintFiles_unordered_twice :
    let rules := [Rule.goto]
    let read : Text → Except Text Text := fun path =>
      if path = Text.ofString "a.c" then .ok "goto x;\n"
      else if path = Text.ofString "b.c" then .ok "\ngoto y;\n"
      else .error "no such file"
    let inFile (path : Text) (line : Int) : Diagnostic :=
      ⟨⟨path, line, 0⟩, "Goto statement unauthorized", "goto", .error, []⟩
    let found := [inFile "a.c" 1, inFile "b.c" 2, inFile "b.c" 2]
    lintFiles rules read ["b.c", "a.c", "b.c"] = .ok found ∧
      Concurrently rules read 2 1 ["b.c", "a.c", "b.c"] (· = .ok found) ∧
      lintFiles rules read ["b.c", "c.c"] = .error ("c.c", "no such file") := by
  intro rules read inFile found
  have hrules : ∀ rule ∈ rules, rule.KeepsFile := by
    intro rule hrule
    obtain rfl := List.mem_singleton.mp hrule
    have hmem : Rule.goto ∈ convention {} := by simp [convention]
    exact (Rule.isOrderly_of_mem_convention hmem).keepsFile
  let contents : Text → Text := fun path => if path = Text.ofString "a.c" then "goto x;\n" else "\ngoto y;\n"
  have hread : ∀ path ∈ [Text.ofString "a.c", "b.c", "b.c"], read path = .ok (contents path) := by decide +kernel
  have hperm : [Text.ofString "b.c", "a.c", "b.c"].Perm ["a.c", "b.c", "b.c"] := .swap _ _ _
  have hfound : Diagnostic.sort ([Text.ofString "a.c", "b.c", "b.c"].flatMap
      fun path => lintFile rules path (contents path)) = found := by
    rw [Diagnostic.sort, List.mergeSort_of_pairwise (by decide +kernel)]
    decide +kernel
  obtain ⟨hone, hmany⟩ := (lintFiles_unordered rules hrules read 2 1 (by decide) ["a.c", "b.c", "b.c"]).1
    contents hread ["b.c", "a.c", "b.c"] hperm
  rw [hfound] at hone hmany
  obtain ⟨path, hpath, e, he, herror⟩ := ((lintFiles_unordered rules hrules read 2 1 (by decide) ["b.c", "c.c"]).2
    ⟨"c.c", by decide, "no such file", by decide +kernel⟩).1
  refine ⟨hone, hmany, ?_⟩
  rw [herror]
  rcases List.mem_cons.mp hpath with rfl | hpath
  · cases he
  · obtain rfl := List.mem_singleton.mp hpath
    cases he
    rfl

end HouseStyle
