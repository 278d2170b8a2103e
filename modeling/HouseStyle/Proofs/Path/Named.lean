import Mathlib.Data.List.Forall2
import Mathlib.Data.List.Sort
import HouseStyle.Proofs.Path.Expand
import HouseStyle.Proofs.Path.Parts
import HouseStyle.Proofs.Text.Pieces
import HouseStyle.Proofs.Tree.Walk

/-!
# The paths that arguments name

An argument that asks for no walk names itself. One that asks for a walk names files below the root of the walk: those
with one of the extensions that are not excluded and have no excluded directory between the root and themselves, in
lexical order (`Contributes`). A path is named at its first place only.

* What one argument yields, without the excluded paths, is what it contributes (`candidates_contributes`).
* **Arguments that can be walked name what each contributes, joined, without repetitions** (`expand_eq_contributions`).
-/

namespace HouseStyle.Path

variable {tree : Tree} {excludes exts args : List Text} {arg root : Text}

/-! ## What an argument contributes -/

/-- The root of the walk that an argument asks for: the part before the dots, which is the working directory if it is
empty, or a directory that the argument leads to. -/
inductive IsRoot (tree : Tree) : (arg root : Text) → Prop where
  | dots {dir : Text} (h : dir ≠ []) : IsRoot tree (dir ++ "/...") dir
  | here : IsRoot tree "/..." "."
  | directory {dir : Text} (hdots : dir.endsWith "/..." = false) (h : tree.isDir dir) : IsRoot tree dir dir

/-- The file at a place below the root has one of the extensions, is not excluded, and no directory strictly between the
root and the file is. -/
structure IsWanted (excludes exts : List Text) (root : Text) (place : List Text) : Prop where
  extension : ∃ e ∈ exts, ext (Node.pathTo root place) = if e.startsWith "." then e else "." ++ e
  kept : matchesAny (Node.pathTo root place) excludes = false
  above : ∀ q, q ≠ [] → q ≠ place → q <+: place → matchesAny (Node.pathTo root q) excludes = false

/-- The paths that an argument contributes: itself, nothing if it is excluded, or the wanted files of a walk in lexical
order. -/
inductive Contributes (tree : Tree) (excludes exts : List Text) (arg : Text) : List Text → Prop where
  | itself (hdots : arg.endsWith "/..." = false) (hdir : tree.isDir arg = false) (h : matchesAny arg excludes = false) :
    Contributes tree excludes exts arg [arg]
  | excluded (hdots : arg.endsWith "/..." = false) (hdir : tree.isDir arg = false) (h : matchesAny arg excludes) :
    Contributes tree excludes exts arg []
  | walked {root : Text} {n : Node} {places : List (List Text)} (hroot : IsRoot tree arg root)
      (hfind : tree.find root = .ok n) (hsorted : places.Pairwise Node.Before)
      (hplaces : ∀ place, place ∈ places ↔
        (∃ a c, n.at? place = some (.file a c)) ∧ IsWanted excludes exts root place) :
    Contributes tree excludes exts arg (places.map (Node.pathTo root))

/-- The directory can be walked: it is there, and the walk can list every directory that it goes into. -/
def CanWalk (tree : Tree) (excludes : List Text) (root : Text) : Prop :=
  ∃ n, tree.find root = .ok n ∧ n.Walkable (matchesAny · excludes) root

/-! ## Roots -/

theorem walkRoot?_eq_some : walkRoot? tree arg = some root ↔ IsRoot tree arg root := by
  constructor
  · intro h
    unfold walkRoot? at h
    cases hdots : arg.endsWith "/..." with
    | true =>
      obtain ⟨dir, rfl⟩ := List.isSuffixOf_iff_suffix.mp hdots
      rw [Text.beforeSuffix?_append] at h
      cases dir with
      | nil =>
        cases h
        exact .here
      | cons b dir =>
        cases h
        exact .dots (List.cons_ne_nil b dir)
    | false =>
      rw [Text.beforeSuffix?_eq_none hdots] at h
      dsimp only at h
      split at h
      · next hdir =>
        cases h
        exact .directory hdots hdir
      · cases h
  · intro h
    unfold walkRoot?
    cases h with
    | dots h =>
      rw [Text.beforeSuffix?_append]
      simp [h]
    | here => rfl
    | directory hdots hdir =>
      rw [Text.beforeSuffix?_eq_none hdots]
      simp [hdir]

theorem IsRoot.unique {root' : Text} (h : IsRoot tree arg root) (h' : IsRoot tree arg root') : root = root' :=
  Option.some.inj ((walkRoot?_eq_some.mpr h).symm.trans (walkRoot?_eq_some.mpr h'))

theorem walkRoot?_eq_none : walkRoot? tree arg = none ↔ arg.endsWith "/..." = false ∧ tree.isDir arg = false := by
  constructor
  · intro h
    unfold walkRoot? at h
    cases hdots : arg.endsWith "/..." with
    | true =>
      obtain ⟨dir, rfl⟩ := List.isSuffixOf_iff_suffix.mp hdots
      rw [Text.beforeSuffix?_append] at h
      cases h
    | false =>
      rw [Text.beforeSuffix?_eq_none hdots] at h
      cases hdir : tree.isDir arg with
      | true =>
        rw [hdir] at h
        cases h
      | false => exact ⟨rfl, rfl⟩
  · rintro ⟨hdots, hdir⟩
    rw [walkRoot?, Text.beforeSuffix?_eq_none hdots]
    simp [hdir]

theorem not_isRoot (hdots : arg.endsWith "/..." = false) (hdir : tree.isDir arg = false) : ¬ IsRoot tree arg root := by
  rw [← walkRoot?_eq_some, walkRoot?_eq_none.mpr ⟨hdots, hdir⟩]
  simp

/-- An argument contributes one list of paths. -/
theorem Contributes.unique {named named' : List Text} (h : Contributes tree excludes exts arg named)
    (h' : Contributes tree excludes exts arg named') : named = named' := by
  cases h with
  | itself hdots hdir hkept =>
    cases h' with
    | itself => rfl
    | excluded _ _ hexcluded =>
      rw [hkept] at hexcluded
      cases hexcluded
    | walked hroot => exact absurd hroot (not_isRoot hdots hdir)
  | excluded hdots hdir hexcluded =>
    cases h' with
    | itself _ _ hkept =>
      rw [hkept] at hexcluded
      cases hexcluded
    | excluded => rfl
    | walked hroot => exact absurd hroot (not_isRoot hdots hdir)
  | walked hroot hfind hsorted hplaces =>
    cases h' with
    | itself hdots hdir => exact absurd hroot (not_isRoot hdots hdir)
    | excluded hdots hdir => exact absurd hroot (not_isRoot hdots hdir)
    | walked hroot' hfind' hsorted' hplaces' =>
      cases hroot.unique hroot'
      cases hfind.symm.trans hfind'
      rw [hsorted.eq_of_mem_iff hsorted' fun place => (hplaces place).trans (hplaces' place).symm]

/-! ## One argument -/

theorem hasExtension_iff {path : Text} : hasExtension path exts ↔
    ∃ e ∈ exts, ext path = if e.startsWith "." then e else "." ++ e := by
  simp [hasExtension]

/-- What a walk finds, without the excluded paths: the wanted files in lexical order. -/
theorem exists_places {n : Node} (hn : n.Ordered) (root : Text) (excludes exts : List Text) :
    ∃ places : List (List Text), places.Pairwise Node.Before ∧
      (∀ place, place ∈ places ↔ (∃ a c, n.at? place = some (.file a c)) ∧ IsWanted excludes exts root place) ∧
      (n.walk (matchesAny · excludes) (hasExtension · exts) root).filter (!matchesAny · excludes) =
        places.map (Node.pathTo root) := by
  refine ⟨(n.filePlaces.filter (Node.reaches (matchesAny · excludes) (hasExtension · exts) root)).filter
    fun place => !matchesAny (Node.pathTo root place) excludes, ?_, ?_, ?_⟩
  · exact ((Node.pairwise_filePlaces hn).filter _).filter _
  · intro place
    rw [List.mem_filter, List.mem_filter, Node.mem_filePlaces hn, Node.reaches_iff, hasExtension_iff,
      Bool.not_eq_true']
    constructor
    · rintro ⟨⟨hfile, hext, habove⟩, hkept⟩
      exact ⟨hfile, hext, hkept, habove⟩
    · rintro ⟨hfile, hext, hkept, habove⟩
      exact ⟨⟨hfile, hext, habove⟩, hkept⟩
  · rw [Node.walk_eq, List.filter_map]
    rfl

/-- A directory that can be walked is walked without a failure, and no other is. -/
theorem sourceFiles_isOk (htree : tree.Ordered) :
    (sourceFiles tree root excludes exts).isOk ↔ CanWalk tree excludes root := by
  unfold sourceFiles CanWalk
  cases hfind : tree.find root with
  | error fault => simp [Except.isOk, Except.toBool]
  | ok n =>
    obtain ⟨place, -, hat⟩ := Tree.find_eq_ok.mp hfind
    have hbarrier : n.barrier? (matchesAny · excludes) root = none ↔ n.Walkable (matchesAny · excludes) root :=
      Node.barrier?_eq_none (htree.at? hat)
    have hn : (∃ m, Except.ok n = Except.ok (ε := Tree.Fault) m ∧ m.Walkable (matchesAny · excludes) root) ↔
        n.Walkable (matchesAny · excludes) root := by simp
    rw [hn, ← hbarrier]
    dsimp only
    cases n.barrier? (matchesAny · excludes) root <;> simp [Except.isOk, Except.toBool]

/-- **What an argument yields, without the excluded paths, is what it contributes.** -/
theorem candidates_contributes (htree : tree.Ordered)
    (hwalk : ∀ root, IsRoot tree arg root → CanWalk tree excludes root) :
    ∃ found, candidates tree excludes exts arg = .ok found ∧
      Contributes tree excludes exts arg (found.filter (!matchesAny · excludes)) := by
  cases hroot : walkRoot? tree arg with
  | none =>
    obtain ⟨hdots, hdir⟩ := walkRoot?_eq_none.mp hroot
    refine ⟨[arg], by rw [candidates, hroot], ?_⟩
    cases hexcluded : matchesAny arg excludes with
    | true =>
      rw [List.filter_cons_of_neg (by simp [hexcluded])]
      exact .excluded hdots hdir hexcluded
    | false =>
      rw [List.filter_cons_of_pos (by simp [hexcluded])]
      exact .itself hdots hdir hexcluded
  | some root =>
    have hisRoot := walkRoot?_eq_some.mp hroot
    obtain ⟨n, hfind, hwalkable⟩ := hwalk root hisRoot
    obtain ⟨place, -, hat⟩ := Tree.find_eq_ok.mp hfind
    have hn : n.Ordered := htree.at? hat
    obtain ⟨places, hsorted, hplaces, hfound⟩ := exists_places hn root excludes exts
    refine ⟨n.walk (matchesAny · excludes) (hasExtension · exts) root, ?_, ?_⟩
    · rw [candidates, hroot]
      simp only [sourceFiles, hfind, (Node.barrier?_eq_none hn).mpr hwalkable]
    · rw [hfound]
      exact .walked hisRoot hfind hsorted hplaces

/-! ## All arguments -/

/-- Each path at its first place, those in `seen` left out. -/
theorem firsts_eq (seen ts : List Text) : firsts seen ts = (ts.filter fun t => !seen.contains t).eraseDups := by
  induction ts generalizing seen with
  | nil => rfl
  | cons t ts ih =>
    rw [firsts]
    by_cases hseen : seen.contains t
    · rw [if_pos hseen, ih, List.filter_cons_of_neg (by simpa using hseen)]
    · rw [if_neg hseen, ih, List.filter_cons_of_pos (by simpa using hseen), List.eraseDups_cons, List.filter_filter]
      -- A path is left out as seen before, or as the path at the head.
      congr 2
      refine List.filter_congr fun u _ => ?_
      rw [List.contains_cons, Bool.not_or]

theorem firsts_nil (ts : List Text) : firsts [] ts = ts.eraseDups := by
  rw [firsts_eq, List.filter_eq_self.mpr (by simp)]

/-- Arguments that can be walked yield, without the excluded paths, what each contributes. -/
theorem mapM_candidates_contributes (htree : tree.Ordered)
    (hwalk : ∀ arg ∈ args, ∀ root, IsRoot tree arg root → CanWalk tree excludes root) :
    ∃ found, args.mapM (candidates tree excludes exts) = .ok found ∧
      List.Forall₂ (Contributes tree excludes exts) args (found.map (·.filter (!matchesAny · excludes))) := by
  induction args with
  | nil => exact ⟨[], rfl, .nil⟩
  | cons arg args ih =>
    rw [List.forall_mem_cons] at hwalk
    obtain ⟨paths, hpaths, hcontributes⟩ := candidates_contributes htree hwalk.1
    obtain ⟨rest, hrest, hall⟩ := ih hwalk.2
    refine ⟨paths :: rest, ?_, .cons hcontributes hall⟩
    rw [List.mapM_cons, hpaths, hrest]
    rfl

/-- What each of the arguments contributes is determined. -/
theorem forall₂_contributes_unique {named named' : List (List Text)}
    (h : List.Forall₂ (Contributes tree excludes exts) args named)
    (h' : List.Forall₂ (Contributes tree excludes exts) args named') : named = named' := by
  induction h generalizing named' with
  | nil =>
    cases h'
    rfl
  | cons hfirst _ ih =>
    cases h' with
    | cons hfirst' hrest' => rw [hfirst.unique hfirst', ih hrest']

/-- **Arguments that can be walked name what each contributes, joined, each path at its first place only.** What they
contribute is determined by the tree. -/
theorem expand_eq_contributions (htree : tree.Ordered)
    (hwalk : ∀ arg ∈ args, ∀ root, IsRoot tree arg root → CanWalk tree excludes root) :
    ∃ named, (∀ named', List.Forall₂ (Contributes tree excludes exts) args named' ↔ named' = named) ∧
      expand tree args excludes exts = .ok named.flatten.eraseDups := by
  obtain ⟨found, hfound, hall⟩ := mapM_candidates_contributes htree hwalk
  refine ⟨_, fun named' => ⟨fun h => forall₂_contributes_unique h hall, ?_⟩, ?_⟩
  · rintro rfl
    exact hall
  · rw [expand, hfound, ← List.filter_flatten, ← firsts_nil]
    rfl

/-- An excluded directory is walked when an argument asks for it, but none of its files is named; a directory outside the
working directory is reached from the root and through the parent directory, under two spellings; a walk leaves out a
file by its name and passes by a directory that cannot be listed, if that is excluded; a file that is named already is
not named again; a missing path is named for the reader to report. -/
theorem expand_eq_contributions_overlap :
    let files := [Text.ofString "work/build/out.c", "work/src/gen_b.c", "work/src/keep.c", "lib/b.h"]
    let locked := Node.dir { read := false } []
    let tree : Tree := ⟨(Node.ofFiles (files.map (·, []))).put ["lib", "gen"] locked, ["work"]⟩
    let args : List Text := ["/work/build/...", "/lib", "../lib/...", "./src", "src/keep.c", "missing.c"]
    (∃ named, (∀ named', List.Forall₂ (Contributes tree ["build", "gen*"] ["c", ".h"]) args named' ↔ named' = named) ∧
      expand tree args ["build", "gen*"] ["c", ".h"] = .ok named.flatten.eraseDups) ∧
    expand tree args ["build", "gen*"] ["c", ".h"] = .ok ["/lib/b.h", "../lib/b.h", "src/keep.c", "missing.c"] := by
  intro files locked tree args
  have htree : tree.Ordered := (Node.ordered_ofFiles _).put (Node.ordered_dir.mpr ⟨List.Pairwise.nil, by simp⟩) _
  constructor
  · have hroots : (args.all fun arg => (walkRoot? tree arg).all fun root =>
        (sourceFiles tree root ["build", "gen*"] ["c", ".h"]).isOk) = true := by
      simp only [sourceFiles, matchesAny_eq]
      decide +kernel
    refine expand_eq_contributions htree fun arg harg root hroot => ?_
    have hwalked := List.all_eq_true.mp hroots arg harg
    rw [walkRoot?_eq_some.mpr hroot, Option.all_some] at hwalked
    exact (sourceFiles_isOk htree).mp hwalked
  · unfold expand candidates sourceFiles
    simp only [matchesAny_eq]
    decide +kernel

end HouseStyle.Path
