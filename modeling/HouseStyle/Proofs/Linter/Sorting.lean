import HouseStyle.Diagnostic
import HouseStyle.Proofs.Sorting
import HouseStyle.Proofs.Text.Order

/-!
# Sorted diagnostics

Diagnostics are sorted by file and then by line, so that what the order does not tell apart is on one line of one file
(`place_eq_of_mem_ties`). Since sorting is determined by these groups,

* **sorting and filtering commute** (`Diagnostic.sort_filter`);
* **the order in which files are joined does not matter**, also where a file is joined several times
  (`Diagnostic.sort_flatMap_perm`).
-/

namespace HouseStyle

namespace Diagnostic

variable {a b c : Diagnostic} {ds : List Diagnostic}

theorem before_asymm (h : a.before b) : b.before a = false := by
  unfold before at h ⊢
  by_cases hf : a.pos.file = b.pos.file
  · rw [if_pos hf, decide_eq_true_eq] at h
    rw [if_pos hf.symm, decide_eq_false_iff_not]
    omega
  · rw [if_neg hf] at h
    rw [if_neg (Ne.symm hf)]
    exact Text.less_asymm h

/-- What precedes another precedes a third, or the third precedes the other. -/
theorem before_or_before (h : a.before c) (b : Diagnostic) : a.before b ∨ b.before c := by
  unfold before at h ⊢
  by_cases hab : a.pos.file = b.pos.file <;> by_cases hbc : b.pos.file = c.pos.file
  · rw [if_pos (hab.trans hbc), decide_eq_true_eq] at h
    rw [if_pos hab, if_pos hbc, decide_eq_true_eq, decide_eq_true_eq]
    omega
  · rw [hab, if_neg hbc] at h
    exact Or.inr (by rwa [if_neg hbc])
  · rw [← hbc, if_neg hab] at h
    exact Or.inl (by rwa [if_neg hab])
  · rw [if_neg hab, if_neg hbc]
    by_cases hac : a.pos.file = c.pos.file
    · rw [← hac]
      by_contra hnot
      simp only [not_or, Bool.not_eq_true] at hnot
      exact hab (Text.eq_of_not_less hnot.1 hnot.2)
    · rw [if_neg hac] at h
      exact Text.less_or_less h b.pos.file

theorem strictWeak_before : StrictWeak before := ⟨before_asymm, before_or_before⟩

/-- What neither precedes the other is on the same line of the same file. -/
theorem place_eq_of_not_before (hab : a.before b = false) (hba : b.before a = false) :
    a.pos.file = b.pos.file ∧ a.pos.line = b.pos.line := by
  unfold before at hab hba
  by_cases hf : a.pos.file = b.pos.file
  · rw [if_pos hf, decide_eq_false_iff_not] at hab
    rw [if_pos hf.symm, decide_eq_false_iff_not] at hba
    exact ⟨hf, by omega⟩
  · rw [if_neg hf] at hab
    rw [if_neg (Ne.symm hf)] at hba
    exact absurd (Text.eq_of_not_less hab hba) hf

/-- The order of reports, read as "does not stand after". -/
def mayPrecede (a b : Diagnostic) : Bool := !b.before a

theorem sort_eq (ds : List Diagnostic) : sort ds = ds.mergeSort mayPrecede := rfl

theorem mayPrecede_total (a b : Diagnostic) : a.mayPrecede b || b.mayPrecede a := strictWeak_before.total a b

theorem mayPrecede_trans (a b c : Diagnostic) (hab : a.mayPrecede b) (hbc : b.mayPrecede c) : a.mayPrecede c :=
  strictWeak_before.trans a b c hab hbc

theorem place_eq_of_mem_ties (h : b ∈ ties mayPrecede a ds) : a.pos.file = b.pos.file ∧ a.pos.line = b.pos.line := by
  obtain ⟨-, hab, hba⟩ := mem_ties.mp h
  exact place_eq_of_not_before (Bool.not_eq_true' _ ▸ hba) (Bool.not_eq_true' _ ▸ hab)

/-- **Sorting and filtering commute.** -/
theorem sort_filter (p : Diagnostic → Bool) (ds : List Diagnostic) : sort (ds.filter p) = (sort ds).filter p :=
  mergeSort_filter mayPrecede_trans mayPrecede_total p ds

/-- What is found in the files of a list on the line of `d` is what is found there in the file of `d`, as often as this
file is in the list. -/
theorem ties_flatMap_files {found : Text → List Diagnostic} (hfound : ∀ path, ∀ d ∈ found path, d.pos.file = path)
    (d : Diagnostic) (paths : List Text) : ties mayPrecede d (paths.flatMap found) =
      (List.replicate (paths.count d.pos.file) (ties mayPrecede d (found d.pos.file))).flatten := by
  rw [ties_flatMap]
  induction paths with
  | nil => rfl
  | cons path rest ih =>
    rw [List.flatMap_cons, ih]
    by_cases hpath : path = d.pos.file
    · rw [hpath, List.count_cons_self, List.replicate_succ, List.flatten_cons]
    · have hnone : ties mayPrecede d (found path) = [] := by
        refine List.eq_nil_iff_forall_not_mem.mpr fun b hb => hpath ?_
        rw [(place_eq_of_mem_ties hb).1, hfound path b (mem_ties.mp hb).1]
      rw [hnone, List.nil_append, List.count_cons_of_ne hpath]

/-- **The order in which files are joined does not matter**, if what is found in a file is about this file. -/
theorem sort_flatMap_perm {found : Text → List Diagnostic} (hfound : ∀ path, ∀ d ∈ found path, d.pos.file = path)
    {paths paths' : List Text} (h : paths.Perm paths') : sort (paths.flatMap found) = sort (paths'.flatMap found) := by
  rw [sort_eq, sort_eq]
  refine mergeSort_congr mayPrecede_trans mayPrecede_total fun d => ?_
  rw [ties_flatMap_files hfound, ties_flatMap_files hfound, h.count_eq]

end Diagnostic

end HouseStyle
