import Mathlib.Algebra.BigOperators.Group.List.Lemmas
import Mathlib.Algebra.Order.Ring.Int
import HouseStyle.Proofs.Sorting
import HouseStyle.Proofs.Text.Order
import HouseStyle.Timing

/-!
# Totals and the order of spans

Spans end in any order, and are handed over one by one or several at a time. The report shows none of this.

* The totals hold one entry for each name under which spans are counted, and the entry is what these spans add up to
  (`tallies_collect`); sums that wrap around may be taken in any order (`summary_perm`).
* The order of the report tells entries of different names apart, so a table has one sorted arrangement
  (`eq_of_sorted`), in whatever order its entries are listed and whatever becomes of ties in sorting.

Hence **the report does not depend on the order of spans** (`report_unordered`), and its rows are those that the spans
call for (`Accounts`).
-/

namespace HouseStyle

/-- The name under which a finished span is counted. -/
def FinishedSpan.row (s : FinishedSpan) : Text := Timing.rowName s.name

/-- A sum that wraps around may be taken of wrapped parts. -/
theorem word_word_add (m n : Int) : word (word m + n) = word (m + n) := Int.bmod_add_bmod

namespace Timing

variable {spans spans' : List FinishedSpan} {table rows rows' : List Timing} {names : List Text} {a b c : Timing}

/-! ## What the spans of a name add up to -/

/-- What the spans counted under a name add up to. -/
def summary (spans : List FinishedSpan) (name : Text) : Timing where
  name := name
  count := spans.countP (·.row = name)
  total := word ((spans.filter (·.row = name)).map (·.duration)).sum

@[simp] theorem name_summary (spans : List FinishedSpan) (name : Text) : (summary spans name).name = name := rfl

theorem summary_perm (h : spans.Perm spans') (name : Text) : summary spans name = summary spans' name := by
  have hcount := h.countP_eq (·.row = name)
  have hsum := ((h.filter (·.row = name)).map (·.duration)).sum_eq
  rw [summary, summary, hcount, hsum]

/-- A further span adds to its own name. -/
theorem summary_concat_self (spans : List FinishedSpan) (s : FinishedSpan) :
    summary (spans ++ [s]) s.row =
      { summary spans s.row with
        count := (summary spans s.row).count + 1
        total := word ((summary spans s.row).total + s.duration) } := by
  have hfilter : (spans ++ [s]).filter (·.row = s.row) = spans.filter (·.row = s.row) ++ [s] := by simp
  simp [summary, hfilter, word_word_add]

/-- A further span adds to no other name. -/
theorem summary_concat_of_ne {s : FinishedSpan} {name : Text} (h : name ≠ s.row) (spans : List FinishedSpan) :
    summary (spans ++ [s]) name = summary spans name := by
  have hfilter : (spans ++ [s]).filter (·.row = name) = spans.filter (·.row = name) := by simp [Ne.symm h]
  simp [summary, hfilter, Ne.symm h]

/-- A name that has no span yet has nothing. -/
theorem summary_of_not_mem {name : Text} (h : name ∉ spans.map (·.row)) : summary spans name = ⟨name, 0, 0⟩ := by
  have hnone : ∀ s ∈ spans, ¬decide (s.row = name) := by
    intro s hs heq
    exact h (List.mem_map.mpr ⟨s, hs, by simpa using heq⟩)
  rw [summary, List.countP_eq_zero.mpr hnone, List.filter_eq_nil_iff.mpr hnone]
  rfl

/-- The first span of a name starts its entry. -/
theorem summary_concat_first {s : FinishedSpan} (h : s.row ∉ spans.map (·.row)) :
    summary (spans ++ [s]) s.row = ⟨s.row, 1, word s.duration⟩ := by
  rw [summary_concat_self, summary_of_not_mem h]
  simp

/-- A further span changes nothing for a list of names that its own is not in. -/
theorem map_summary_concat {s : FinishedSpan} (h : s.row ∉ names) (spans : List FinishedSpan) :
    names.map (summary (spans ++ [s])) = names.map (summary spans) :=
  List.map_congr_left fun _ hname => summary_concat_of_ne (fun heq => h (heq ▸ hname)) spans

/-! ## The table -/

/-- The table lists `names`, each name under which spans are counted once, with what its spans add up to, and its counts
add up to the number of spans. -/
structure Tallies (table : List Timing) (spans : List FinishedSpan) (names : List Text) : Prop where
  nodup : names.Nodup
  mem_iff : ∀ name, name ∈ names ↔ name ∈ spans.map (·.row)
  table_eq : table = names.map (summary spans)
  sum_count : (table.map (·.count)).sum = spans.length

theorem tallies_nil : Tallies [] [] [] := ⟨List.nodup_nil, fun _ => Iff.rfl, rfl, rfl⟩

/-- A span is counted once. -/
theorem sum_count_addTo (name : Text) (duration : Int) (table : List Timing) :
    ((addTo name duration table).map (·.count)).sum = (table.map (·.count)).sum + 1 := by
  induction table with
  | nil => rfl
  | cons t table ih =>
    rw [addTo]
    split
    · simp only [List.map_cons, List.sum_cons]
      omega
    · simp only [List.map_cons, List.sum_cons, ih]
      omega

/-- A span whose name is in the table changes the entry of this name. -/
theorem addTo_of_mem (s : FinishedSpan) (hnodup : names.Nodup) (h : s.row ∈ names) :
    addTo s.row s.duration (names.map (summary spans)) = names.map (summary (spans ++ [s])) := by
  induction names with
  | nil => cases h
  | cons name names ih =>
    obtain ⟨hname, hnodup⟩ := List.nodup_cons.mp hnodup
    rw [List.map_cons, addTo, name_summary]
    by_cases heq : name = s.row
    · subst heq
      rw [if_pos rfl, List.map_cons, summary_concat_self, map_summary_concat hname]
      rfl
    · have hmem : s.row ∈ names := (List.mem_cons.mp h).resolve_left (Ne.symm heq)
      rw [if_neg heq, ih hnodup hmem, List.map_cons, summary_concat_of_ne heq]

/-- A span whose name is not in the table makes a new entry at its end. -/
theorem addTo_of_not_mem (s : FinishedSpan) (h : s.row ∉ names) :
    addTo s.row s.duration (names.map (summary spans)) =
      names.map (summary spans) ++ [⟨s.row, 1, word s.duration⟩] := by
  induction names with
  | nil => rfl
  | cons name names ih =>
    rw [List.mem_cons, not_or] at h
    rw [List.map_cons, addTo, name_summary, if_neg (Ne.symm h.1), ih h.2, List.cons_append]

/-- The names of one more span. -/
theorem Tallies.mem_concat (h : Tallies table spans names) (s : FinishedSpan) (name : Text) :
    name ∈ (spans ++ [s]).map (·.row) ↔ name ∈ names ∨ name = s.row := by
  rw [h.mem_iff, List.map_append, List.mem_append, List.map_singleton, List.mem_singleton]

/-- **One span**: the table still tallies when a span has been added. -/
theorem Tallies.add (h : Tallies table spans names) (s : FinishedSpan) :
    ∃ names', Tallies (add table s.name s.duration) (spans ++ [s]) names' := by
  have hadd : Timing.add table s.name s.duration = addTo s.row s.duration (names.map (summary spans)) := by
    rw [h.table_eq]
    rfl
  have hcount : ((Timing.add table s.name s.duration).map (·.count)).sum = (spans ++ [s]).length := by
    rw [Timing.add, sum_count_addTo, h.sum_count, List.length_append, List.length_singleton]
  by_cases hmem : s.row ∈ names
  · refine ⟨names, h.nodup, ?_, ?_, hcount⟩
    · intro name
      rw [h.mem_concat, or_iff_left_of_imp]
      rintro rfl
      exact hmem
    · rw [hadd, addTo_of_mem s h.nodup hmem]
  · refine ⟨names ++ [s.row], ?_, ?_, ?_, hcount⟩
    · exact List.nodup_append.mpr ⟨h.nodup, List.nodup_singleton _, by grind⟩
    · intro name
      rw [h.mem_concat, List.mem_append, List.mem_singleton]
    · have hnew : s.row ∉ spans.map (·.row) := mt (h.mem_iff _).mpr hmem
      rw [hadd, addTo_of_not_mem s hmem, List.map_append, List.map_singleton, map_summary_concat hmem,
        summary_concat_first hnew]

/-- **A run of spans.** -/
theorem Tallies.addAll (h : Tallies table spans names) (more : List FinishedSpan) :
    ∃ names', Tallies (more.foldl (fun ts s => Timing.add ts s.name s.duration) table) (spans ++ more) names' := by
  induction more generalizing table spans names with
  | nil => exact ⟨names, by simpa using h⟩
  | cons s more ih =>
    obtain ⟨names', h'⟩ := h.add s
    obtain ⟨names'', h''⟩ := ih h'
    exact ⟨names'', by simpa using h''⟩

/-- It does not matter how the spans are grouped into deliveries. -/
theorem collect_eq_foldl (deliveries : List Delivery) :
    collect deliveries =
      (deliveries.flatMap (·.spans)).foldl (fun ts s => Timing.add ts s.name s.duration) [] := by
  rw [collect, List.foldl_flatMap]
  congr 1
  funext ts d
  cases d <;> rfl

theorem tallies_collect (deliveries : List Delivery) :
    ∃ names, Tallies (collect deliveries) (deliveries.flatMap (·.spans)) names := by
  rw [collect_eq_foldl]
  exact tallies_nil.addAll _

namespace Tallies

theorem map_name (h : Tallies table spans names) : table.map (·.name) = names := by
  rw [h.table_eq, List.map_map]
  exact List.map_id' names

theorem eq_summary (h : Tallies table spans names) (ha : a ∈ table) : a = summary spans a.name := by
  rw [h.table_eq] at ha
  obtain ⟨name, -, rfl⟩ := List.mem_map.mp ha
  rfl

theorem eq_of_name (h : Tallies table spans names) (ha : a ∈ table) (hb : b ∈ table) (hname : a.name = b.name) :
    a = b := by
  rw [h.eq_summary ha, h.eq_summary hb, hname]

/-- Tables of the same spans, in whatever order they ended, have the same entries. -/
theorem perm {table' : List Timing} {names' : List Text} (h : Tallies table spans names)
    (h' : Tallies table' spans' names') (hspans : spans.Perm spans') : table.Perm table' := by
  have hnames : names.Perm names' := by
    rw [List.perm_ext_iff_of_nodup h.nodup h'.nodup]
    intro name
    rw [h.mem_iff, h'.mem_iff, (hspans.map _).mem_iff]
  have hsummary : summary spans = summary spans' := funext (summary_perm hspans)
  rw [h.table_eq, h'.table_eq, hsummary]
  exact hnames.map _

end Tallies

/-! ## The order of the report -/

theorem before_iff : a.before b ↔ b.total < a.total ∨ (a.total = b.total ∧ Text.less a.name b.name) := by
  unfold before
  split
  · next h => simp [h]
  · next h => simp [h]

theorem before_asymm (h : a.before b) : b.before a = false := by
  rw [Bool.eq_false_iff, Ne, before_iff]
  rcases before_iff.mp h with h | ⟨heq, h⟩
  · rintro (h' | ⟨heq, -⟩)
    · omega
    · omega
  · rintro (h' | ⟨-, h'⟩)
    · omega
    · rw [Text.less_asymm h] at h'
      cases h'

/-- An entry that comes before another comes before a third, or the third comes before the other. -/
theorem before_or_before (h : a.before c) (b : Timing) : a.before b ∨ b.before c := by
  simp only [before_iff] at h ⊢
  rcases h with h | ⟨heq, h⟩
  · by_cases hb : b.total < a.total
    · exact Or.inl (Or.inl hb)
    · exact Or.inr (Or.inl (by omega))
  · rcases Int.lt_trichotomy a.total b.total with hb | hb | hb
    · exact Or.inr (Or.inl (by omega))
    · rcases Text.less_or_less h b.name with hless | hless
      · exact Or.inl (Or.inr ⟨hb, hless⟩)
      · exact Or.inr (Or.inr ⟨by omega, hless⟩)
    · exact Or.inl (Or.inl hb)

theorem strictWeak_before : StrictWeak before := ⟨before_asymm, before_or_before⟩

/-- Of entries with different names, one comes before the other. -/
theorem before_of_not_before (h : b.before a = false) (hname : a.name ≠ b.name) : a.before b := by
  rw [Bool.eq_false_iff, Ne, before_iff, not_or, not_and, Bool.not_eq_true] at h
  rw [before_iff]
  rcases Int.lt_or_eq_of_le (Int.not_lt.mp h.1) with hlt | heq
  · exact Or.inl hlt
  · refine Or.inr ⟨heq.symm, ?_⟩
    by_contra hless
    exact hname (Text.eq_of_not_less (by simpa using hless) (h.2 heq))

/-- No entry stands in front of one that comes before it. -/
def Sorted (rows : List Timing) : Prop := rows.Pairwise fun a b => b.before a = false

theorem sorted_mergeSort (table : List Timing) : Sorted (table.mergeSort fun a b => !b.before a) :=
  strictWeak_before.pairwise_mergeSort table

/-- **A table has one sorted arrangement.** -/
theorem Tallies.eq_of_sorted (h : Tallies table spans names) (hrows : rows.Perm table) (hrows' : rows'.Perm table)
    (hsorted : Sorted rows) (hsorted' : Sorted rows') : rows = rows' := by
  refine List.Perm.eq_of_pairwise ?_ hsorted hsorted' (hrows.trans hrows'.symm)
  intro a b ha hb hba hab
  refine h.eq_of_name (hrows.mem_iff.mp ha) (hrows'.mem_iff.mp hb) ?_
  by_contra hname
  rw [before_of_not_before hba hname] at hab
  cases hab

/-! ## The report -/

/-- The rows account for the spans: there is one for each name under which spans are counted, it tells how many they are
and how long they took together, and the rows are in the order of the report. -/
structure Accounts (rows : List Timing) (spans : List FinishedSpan) : Prop where
  distinct : (rows.map (·.name)).Nodup
  names : ∀ name, name ∈ rows.map (·.name) ↔ ∃ s ∈ spans, rowName s.name = name
  counts : ∀ r ∈ rows, r.count = spans.countP (rowName ·.name = r.name)
  totals : ∀ r ∈ rows, r.total = word ((spans.filter (rowName ·.name = r.name)).map (·.duration)).sum
  all_counted : (rows.map (·.count)).sum = spans.length
  ordered : rows.Pairwise fun a b => b.total < a.total ∨ (a.total = b.total ∧ Text.less a.name b.name)

theorem Tallies.accounts (h : Tallies table spans names) (hrows : rows.Perm table) (hsorted : Sorted rows) :
    Accounts rows spans where
  distinct := by
    rw [(hrows.map _).nodup_iff, h.map_name]
    exact h.nodup
  names name := by
    rw [(hrows.map _).mem_iff, h.map_name, h.mem_iff, List.mem_map]
    rfl
  counts r hr := by
    rw [h.eq_summary (hrows.mem_iff.mp hr)]
    rfl
  totals r hr := by
    rw [h.eq_summary (hrows.mem_iff.mp hr)]
    rfl
  all_counted := by rw [(hrows.map _).sum_eq, h.sum_count]
  ordered := by
    have hdistinct : rows.Pairwise fun a b => a.name ≠ b.name := by
      rw [← List.pairwise_map, ← List.Nodup, (hrows.map _).nodup_iff, h.map_name]
      exact h.nodup
    exact (hsorted.and hdistinct).imp fun hab => before_iff.mp (before_of_not_before hab.1 hab.2)

/-- **The report does not depend on the order in which spans end**, nor on how they are grouped into deliveries. It stays
the same in whatever order the table lists its entries and whatever sorting makes of entries that are equally long, and
its rows account for the spans. -/
theorem report_unordered {deliveries deliveries' : List Delivery}
    (h : (deliveries.flatMap (·.spans)).Perm (deliveries'.flatMap (·.spans))) :
    report (collect deliveries') = report (collect deliveries) ∧
    (∀ rows, rows.Perm (collect deliveries') → Sorted rows → rows.flatMap row = report (collect deliveries)) ∧
    ∃ rows, report (collect deliveries) = rows.flatMap row ∧ Accounts rows (deliveries.flatMap (·.spans)) := by
  obtain ⟨names, htallies⟩ := tallies_collect deliveries
  obtain ⟨names', htallies'⟩ := tallies_collect deliveries'
  have hsort (table : List Timing) : (table.mergeSort fun a b => !b.before a).Perm table := List.mergeSort_perm _ _
  have hrows (rows : List Timing) (hperm : rows.Perm (collect deliveries')) (hsorted : Sorted rows) :
      rows.flatMap row = report (collect deliveries) := by
    have htable := hperm.trans (htallies.perm htallies' h).symm
    rw [htallies.eq_of_sorted htable (hsort _) hsorted (sorted_mergeSort _)]
    rfl
  refine ⟨hrows _ (hsort _) (sorted_mergeSort _), hrows, _, rfl, ?_⟩
  exact htallies.accounts (hsort _) (sorted_mergeSort _)

/-- Two files whose durations overflow together, and two rules that take equally long. -/
theorem report_unordered_overflow :
    let spans : List FinishedSpan := [⟨"goto", 5⟩, ⟨"lint a.c", 9223372036854775807⟩, ⟨"comma", 5⟩, ⟨"lint b.c", 1⟩]
    let deliveries := spans.map Delivery.one
    let deliveries' := [Delivery.several spans.reverse]
    (deliveries.flatMap (·.spans)).Perm (deliveries'.flatMap (·.spans)) ∧
      report (collect deliveries') = report (collect deliveries) ∧
      report (collect deliveries) = Text.ofString (
        "comma                             1          5ns\n" ++
        "goto                              1          5ns\n" ++
        "(files)                           2 -2562047h47m16.854775808s\n") := by
  intro spans deliveries deliveries'
  have h : (deliveries.flatMap (·.spans)).Perm (deliveries'.flatMap (·.spans)) := by decide +kernel
  obtain ⟨hsame, hrows, -⟩ := report_unordered h
  let rows : List Timing := [⟨"comma", 1, 5⟩, ⟨"goto", 1, 5⟩, ⟨filesName, 2, -9223372036854775808⟩]
  have hperm : rows.Perm (collect deliveries') := by decide +kernel
  have hsorted : Sorted rows := by
    rw [Sorted]
    decide +kernel
  refine ⟨h, hsame, ?_⟩
  rw [← hrows rows hperm hsorted]
  decide +kernel

end Timing

end HouseStyle
