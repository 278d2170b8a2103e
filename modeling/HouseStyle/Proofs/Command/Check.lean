import HouseStyle.Command.Check
import HouseStyle.Proofs.Linter.Files
import HouseStyle.Proofs.Linter.Selection

/-!
# What a checking run tells

A checking run goes through stages: it selects rules, reads standard input or expands its arguments and reads the files
they name, and reports. What can stop it is said here without the run itself: a name that no rule has
(`Rule.NamesUnknown`), or something that cannot be read (`CannotRead`).

* **The exit code is 2 exactly if the run is stopped, and then nothing is reported**, however much there is to find in
  the files that can be read.
* **Otherwise the exit code is 1 with findings and 0 without, and a report in text has one line for each finding.**

Both are parts of `check_tells`. Neither depends on the schedule if several workers check the files
(`concurrently_toOption`).
-/

namespace HouseStyle

namespace Rule

variable {rules : List Rule} {enable disable : List Text}

/-- One of the names is the name of no rule. Blank names stand for nothing. -/
def NamesUnknown (rules : List Rule) (enable disable : List Text) : Prop :=
  ∃ n ∈ enable ++ disable, n.trim ≠ [] ∧ ∀ rule ∈ rules, rule.name ≠ n.trim

theorem mem_unknown {name : Text} : name ∈ (select rules enable disable).unknown ↔
    name ∈ givenNames (enable ++ disable) ∧ ∀ rule ∈ rules, rule.name ≠ name := by
  have hgiven : givenNames enable ++ givenNames disable = givenNames (enable ++ disable) := by simp [givenNames]
  simp [select, hgiven]

theorem unknown_eq_nil : (select rules enable disable).unknown = [] ↔ ¬NamesUnknown rules enable disable := by
  rw [List.eq_nil_iff_forall_not_mem]
  constructor
  · rintro h ⟨n, hn, hblank, hrules⟩
    exact h n.trim (mem_unknown.mpr ⟨mem_givenNames.mpr ⟨n, hn, hblank, rfl⟩, hrules⟩)
  · intro h name hname
    obtain ⟨hgiven, hrules⟩ := mem_unknown.mp hname
    obtain ⟨n, hn, hblank, rfl⟩ := mem_givenNames.mp hgiven
    exact h ⟨n, hn, hblank, hrules⟩

end Rule

/-! ## Reading files -/

section Reading

variable {ε : Type} {rules : List Rule} {read : Text → Except ε Text} {paths : List Text} {jobs : Int} {cores : Nat}

/-- A path cannot be read, or all have contents. -/
theorem fails_or_read (read : Text → Except ε Text) (paths : List Text) :
    (∃ path ∈ paths, ∃ e, read path = .error e) ∨
      ∃ contents : Text → Text, ∀ path ∈ paths, read path = .ok (contents path) := by
  by_cases hread : ∃ path ∈ paths, ∃ e, read path = .error e
  · exact .inl hread
  · refine .inr ⟨fun path => (read path).toOption.getD [], fun path hpath => ?_⟩
    cases hpathread : read path with
    | error e => exact absurd ⟨path, hpath, e, hpathread⟩ hread
    | ok content => simp [hpathread, Except.toOption]

theorem Concurrently.imp {P Q : Except (Text × ε) (List Diagnostic) → Prop}
    (h : Concurrently rules read jobs cores paths P) (hPQ : ∀ result, P result → Q result) :
    Concurrently rules read jobs cores paths Q := by
  unfold Concurrently at h ⊢
  split
  next hpaths => exact hPQ _ (by simpa [hpaths] using h)
  next hpaths =>
    rw [if_neg hpaths] at h
    exact h.imp fun found => hPQ (found.map joined)

/-- **A pool of workers finds what is found one file after another**, and fails if this fails. -/
theorem concurrently_toOption (hcores : 0 < cores) : Concurrently rules read jobs cores paths
    fun result => result.toOption = (lintFiles rules read paths).toOption := by
  rcases fails_or_read read paths with hread | ⟨contents, hread⟩
  · obtain ⟨_, _, _, _, hlint⟩ : Fails read paths (lintFiles rules read paths) := fails_lintFiles hread
    refine (concurrently_fails hcores hread).imp fun result hresult => ?_
    obtain ⟨_, _, _, _, rfl⟩ := hresult
    rw [hlint]
    rfl
  · refine (concurrently_of_read hcores hread).imp fun result hresult => ?_
    rw [hresult, lintFiles_of_read hread]

end Reading

namespace Command

variable {o : CheckOptions} {args : List Text} {input : Input} {tree : Tree}

/-! ## Reading what is to be checked -/

/-- Standard input, if there are no arguments, the expansion of the arguments or a file they name cannot be read. -/
def CannotRead (o : CheckOptions) (args : List Text) (input : Input) (tree : Tree) : Prop :=
  (args = [] ∧ ∃ message, input.failure = some message) ∨
  (args ≠ [] ∧ ((∃ e, Path.expand tree args o.excludes o.exts = .error e) ∨
    ∃ paths, Path.expand tree args o.excludes o.exts = .ok paths ∧
      ∃ path ∈ paths, ∃ fault, tree.read path = .error fault))

/-- What the rules find in standard input, or in the files that the arguments name. -/
def Finds (rules : List Rule) (o : CheckOptions) (args : List Text) (input : Input) (tree : Tree)
    (ds : List Diagnostic) : Prop :=
  (args = [] ∧ ds = lintFile rules stdinName input.text) ∨
  (args ≠ [] ∧ ∃ paths, Path.expand tree args o.excludes o.exts = .ok paths ∧
    lintFiles rules tree.read paths = .ok ds)

/-- The examination that a run makes with its rules. -/
def examination (rules : List Rule) (o : CheckOptions) (args : List Text) (input : Input) (tree : Tree) : Examination :=
  if args.isEmpty then examineInput rules input else examineFiles rules o args tree

/-- The examination fails and something cannot be read, or it gives what the rules find. -/
def ExaminationTells (rules : List Rule) (o : CheckOptions) (args : List Text) (input : Input) (tree : Tree) : Prop :=
  (CannotRead o args input tree ∧ ∃ message, (examination rules o args input tree).result = .error message) ∨
  (¬CannotRead o args input tree ∧ ∃ ds, Finds rules o args input tree ds ∧
    (examination rules o args input tree).result = .ok ds)

theorem examination_input {rules : List Rule} (hargs : args = []) : ExaminationTells rules o args input tree := by
  subst hargs
  cases hfailure : input.failure with
  | some message =>
    refine .inl ⟨.inl ⟨rfl, message, hfailure⟩, ?_⟩
    simp [examination, examineInput, Input.readAll, hfailure]
  | none =>
    refine .inr ⟨by simp [CannotRead, hfailure], _, .inl ⟨rfl, rfl⟩, ?_⟩
    simp [examination, examineInput, Input.readAll, hfailure]

theorem examination_files {rules : List Rule} (hargs : args ≠ []) : ExaminationTells rules o args input tree := by
  have hexamine : examination rules o args input tree = examineFiles rules o args tree := by
    simp [examination, hargs]
  rw [ExaminationTells, hexamine, examineFiles]
  cases hexpand : Path.expand tree args o.excludes o.exts with
  | error e => exact .inl ⟨.inr ⟨hargs, .inl ⟨e, hexpand⟩⟩, _, rfl⟩
  | ok paths =>
    rcases fails_or_read tree.read paths with hread | ⟨contents, hread⟩
    · have hfails : Fails tree.read paths (lintFiles rules tree.read paths) := fails_lintFiles hread
      obtain ⟨path, -, fault, -, hlint⟩ := hfails
      refine .inl ⟨.inr ⟨hargs, .inr ⟨paths, hexpand, hread⟩⟩, ?_⟩
      simp [hlint]
    · have hlint : lintFiles rules tree.read paths = _ := lintFiles_of_read hread
      refine .inr ⟨?_, _, .inr ⟨hargs, paths, hexpand, hlint⟩, by simp [hlint]⟩
      rintro (⟨hnil, -⟩ | ⟨-, ⟨e, he⟩ | ⟨paths', hpaths, path, hpath, fault, hfault⟩⟩)
      · exact hargs hnil
      · rw [hexpand] at he
        cases he
      · rw [hexpand] at hpaths
        cases hpaths
        rw [hread path hpath] at hfault
        cases hfault

/-- **A run either cannot read what it is to check, or finds something in it or nothing.** -/
theorem examination_cases (rules : List Rule) (o : CheckOptions) (args : List Text) (input : Input) (tree : Tree) :
    ExaminationTells rules o args input tree := by
  by_cases hargs : args = []
  · exact examination_input hargs
  · exact examination_files hargs

/-! ## Running -/

/-- The rules that a run can select from. -/
def CheckSetup.rules (setup : CheckSetup) (o : CheckOptions) : List Rule := convention o.limits ++ setup.extra

/-- The rules that a run applies. -/
def CheckSetup.selected (setup : CheckSetup) (o : CheckOptions) : List Rule :=
  (Rule.select (setup.rules o) o.checks o.disable).selected

variable {setup : CheckSetup}

theorem check_of_unknown (h : Rule.NamesUnknown (setup.rules o) o.checks o.disable) :
    (check setup o args input tree).code = exitUsage ∧ (check setup o args input tree).stdout = [] := by
  have hunknown : (Rule.select (convention o.limits ++ setup.extra) o.checks o.disable).unknown ≠ [] :=
    fun hnil => Rule.unknown_eq_nil.mp hnil h
  simp [check, hunknown, refused]

theorem check_of_error (hknown : ¬Rule.NamesUnknown (setup.rules o) o.checks o.disable) {message : Text}
    (h : (examination (setup.selected o) o args input tree).result = .error message) :
    (check setup o args input tree).code = exitUsage ∧ (check setup o args input tree).stdout = [] := by
  have hunknown : (Rule.select (convention o.limits ++ setup.extra) o.checks o.disable).unknown = [] :=
    Rule.unknown_eq_nil.mpr hknown
  simp only [examination, CheckSetup.selected, CheckSetup.rules] at h
  simp only [check, hunknown, h, refused]
  exact ⟨rfl, rfl⟩

theorem check_of_ok (hknown : ¬Rule.NamesUnknown (setup.rules o) o.checks o.disable) {ds : List Diagnostic}
    (h : (examination (setup.selected o) o args input tree).result = .ok ds) :
    (check setup o args input tree).code = (if ds = [] then 0 else exitFindings) ∧
      (o.format = .text → (check setup o args input tree).stdout = Text.unlines (ds.map (·.render))) := by
  have hunknown : (Rule.select (convention o.limits ++ setup.extra) o.checks o.disable).unknown = [] :=
    Rule.unknown_eq_nil.mpr hknown
  simp only [examination, CheckSetup.selected, CheckSetup.rules] at h
  simp only [check, hunknown, h]
  refine ⟨by cases ds <;> rfl, fun hformat => ?_⟩
  rw [hformat]
  rfl

/-- **A run that is stopped reports nothing, and the exit code tells the truth.** The exit code is 2 exactly if a name
is unknown or something cannot be read; then nothing is reported. Otherwise it tells whether the rules find something,
and a report in text is one line for each finding. All this is so whatever the schedule of the workers. -/
theorem check_tells (setup : CheckSetup) (o : CheckOptions) (args : List Text) (input : Input) (tree : Tree) :
    let run := check setup o args input tree
    let stopped := Rule.NamesUnknown (setup.rules o) o.checks o.disable ∨ CannotRead o args input tree
    (run.code = 2 ↔ stopped) ∧ (stopped → run.stdout = []) ∧
    (¬stopped → ∃ ds, Finds (setup.selected o) o args input tree ds ∧ run.code = (if ds = [] then 0 else 1) ∧
      (o.format = .text → run.stdout = Text.unlines (ds.map (·.render)))) ∧
    ∀ cores paths, 0 < cores → Concurrently (setup.selected o) tree.read o.jobs cores paths
      fun result => result.toOption = (lintFiles (setup.selected o) tree.read paths).toOption := by
  intro run stopped
  have hschedule : ∀ cores paths, 0 < cores → Concurrently (setup.selected o) tree.read o.jobs cores paths
      fun result => result.toOption = (lintFiles (setup.selected o) tree.read paths).toOption :=
    fun cores paths hcores => concurrently_toOption hcores
  by_cases hknown : Rule.NamesUnknown (setup.rules o) o.checks o.disable
  · obtain ⟨hcode, hout⟩ := check_of_unknown hknown
    exact ⟨iff_of_true hcode (.inl hknown), fun _ => hout, fun h => absurd (.inl hknown) h, hschedule⟩
  · rcases examination_cases (setup.selected o) o args input tree with ⟨hread, message, he⟩ | ⟨hread, ds, hds, he⟩
    · obtain ⟨hcode, hout⟩ := check_of_error hknown he
      exact ⟨iff_of_true hcode (.inr hread), fun _ => hout, fun h => absurd (.inr hread) h, hschedule⟩
    · have hgoes : ¬stopped := not_or.mpr ⟨hknown, hread⟩
      obtain ⟨hcode, hout⟩ := check_of_ok hknown he
      have hne : run.code ≠ 2 := by
        rw [hcode]
        split <;> decide
      exact ⟨iff_of_false hne hgoes, fun h => absurd h hgoes, fun _ => ⟨ds, hds, hcode, hout⟩, hschedule⟩

/-- A file has a finding, which is reported if it is checked alone, by its path from the root, but not next to a file
that is missing, when it is reached through the parent directory. -/
theorem check_tells_missing_file :
    let o : CheckOptions := { checks := [Text.ofString "goto"] }
    let tree := Tree.ofFiles [("a.c", "goto x;\n")]
    (check {} o ["/work/a.c"] {} tree).stdout = Text.ofString "[/work/a.c:1]Goto statement unauthorized.\n" ∧
      (check {} o ["../work/a.c", "/b.c"] {} tree).code = 2 ∧
      (check {} o ["../work/a.c", "/b.c"] {} tree).stdout = [] := by
  intro o tree
  have hunread : CannotRead o ["../work/a.c", "/b.c"] {} tree :=
    .inr ⟨by simp, .inr ⟨["../work/a.c", "/b.c"], by rfl, "/b.c", by simp, .missing, by rfl⟩⟩
  obtain ⟨hcode, hout, -⟩ := check_tells {} o ["../work/a.c", "/b.c"] {} tree
  exact ⟨by decide +kernel, hcode.mpr (.inr hunread), hout (.inr hunread)⟩

end Command

end HouseStyle
