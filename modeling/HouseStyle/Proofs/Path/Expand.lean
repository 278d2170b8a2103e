import HouseStyle.Path.Expand
import HouseStyle.Proofs.Tree.Write

/-!
# Expanding arguments

What arguments stand for depends on where files and directories are, not on what files hold: **in a tree with the same
places the arguments can still be expanded, and name no other files** (`expand_samePlaces`).
-/

namespace HouseStyle.Path

variable {tree tree' : Tree} {excludes exts args paths : List Text} {arg path : Text}

theorem mem_firsts {seen ts : List Text} : path ∈ firsts seen ts ↔ path ∈ ts ∧ path ∉ seen := by
  induction ts generalizing seen with
  | nil => simp [firsts]
  | cons t ts ih =>
    rw [firsts]
    by_cases hseen : t ∈ seen
    · rw [if_pos (by simpa using hseen), ih, List.mem_cons]
      constructor
      · rintro ⟨hmem, hnot⟩
        exact ⟨.inr hmem, hnot⟩
      · rintro ⟨rfl | hmem, hnot⟩
        · exact absurd hseen hnot
        · exact ⟨hmem, hnot⟩
    · rw [if_neg (by simpa using hseen), List.mem_cons, ih, List.mem_cons, List.mem_cons]
      by_cases hpath : path = t
      · simp [hpath, hseen]
      · simp [hpath]

theorem walkRoot?_samePlaces (h : tree.SamePlaces tree') : walkRoot? tree' arg = walkRoot? tree arg := by
  unfold walkRoot?
  rw [h.isDir]

theorem sourceFiles_samePlaces {dir : Text} (h : tree.SamePlaces tree')
    (hpaths : sourceFiles tree dir excludes exts = .ok paths) :
    ∃ paths', sourceFiles tree' dir excludes exts = .ok paths' ∧ paths' ⊆ paths := by
  unfold sourceFiles at hpaths ⊢
  cases hfind : tree.find dir with
  | error fault =>
    rw [hfind] at hpaths
    cases hpaths
  | ok n =>
    obtain ⟨n', hfind', -, hwalk⟩ := h.find hfind
    rw [hfind] at hpaths
    rw [hfind']
    dsimp only at hpaths ⊢
    cases hbarrier : n.barrier? (matchesAny · excludes) dir with
    | some barrier =>
      rw [hbarrier] at hpaths
      cases hpaths
    | none =>
      rw [hbarrier] at hpaths
      rw [hwalk.passes _ _ hbarrier]
      cases hpaths
      exact ⟨_, rfl, hwalk.finds _ _ _⟩

theorem candidates_samePlaces (h : tree.SamePlaces tree') (hpaths : candidates tree excludes exts arg = .ok paths) :
    ∃ paths', candidates tree' excludes exts arg = .ok paths' ∧ paths' ⊆ paths := by
  unfold candidates at hpaths ⊢
  rw [walkRoot?_samePlaces h]
  cases hroot : walkRoot? tree arg with
  | none =>
    rw [hroot] at hpaths
    exact ⟨_, rfl, by cases hpaths; exact List.Subset.refl _⟩
  | some dir =>
    rw [hroot] at hpaths
    dsimp only at hpaths ⊢
    cases hfound : sourceFiles tree dir excludes exts with
    | error fault =>
      rw [hfound] at hpaths
      cases hpaths
    | ok found =>
      rw [hfound] at hpaths
      cases hpaths
      obtain ⟨paths', hpaths', hsub⟩ := sourceFiles_samePlaces h hfound
      rw [hpaths']
      exact ⟨paths', rfl, hsub⟩

theorem mapM_candidates_samePlaces (h : tree.SamePlaces tree') {found : List (List Text)}
    (hfound : args.mapM (candidates tree excludes exts) = .ok found) :
    ∃ found', args.mapM (candidates tree' excludes exts) = .ok found' ∧ found'.flatten ⊆ found.flatten := by
  induction args generalizing found with
  | nil =>
    cases hfound
    exact ⟨[], rfl, List.Subset.refl _⟩
  | cons arg args ih =>
    rw [List.mapM_cons] at hfound ⊢
    cases hpaths : candidates tree excludes exts arg with
    | error e =>
      rw [hpaths] at hfound
      cases hfound
    | ok paths =>
      cases hrest : args.mapM (candidates tree excludes exts) with
      | error e =>
        rw [hpaths, hrest] at hfound
        cases hfound
      | ok rest =>
        rw [hpaths, hrest] at hfound
        cases hfound
        obtain ⟨paths', hpaths', hsub⟩ := candidates_samePlaces h hpaths
        obtain ⟨rest', hrest', hsub'⟩ := ih hrest
        rw [hpaths', hrest']
        refine ⟨_, rfl, ?_⟩
        simp only [List.flatten_cons]
        exact List.append_subset.mpr
          ⟨List.Subset.trans hsub (List.subset_append_left _ _),
            List.Subset.trans hsub' (List.subset_append_right _ _)⟩

/-- **Arguments name the same files in a tree with the same places**, or fewer of them. -/
theorem expand_samePlaces (h : tree.SamePlaces tree') (hpaths : expand tree args excludes exts = .ok paths) :
    ∃ paths', expand tree' args excludes exts = .ok paths' ∧ paths' ⊆ paths := by
  unfold expand at hpaths ⊢
  cases hfound : args.mapM (candidates tree excludes exts) with
  | error e =>
    rw [hfound] at hpaths
    cases hpaths
  | ok found =>
    obtain ⟨found', hfound', hsub⟩ := mapM_candidates_samePlaces h hfound
    rw [hfound] at hpaths
    rw [hfound']
    cases hpaths
    refine ⟨_, rfl, fun path hpath => ?_⟩
    rw [mem_firsts, List.mem_filter] at hpath ⊢
    exact ⟨⟨hsub hpath.1.1, hpath.1.2⟩, hpath.2⟩

end HouseStyle.Path
