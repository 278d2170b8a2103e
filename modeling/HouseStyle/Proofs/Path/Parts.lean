import HouseStyle.Path.Pattern
import HouseStyle.Proofs.Text.Pieces

/-!
# The components of a path

A path is taken apart from its end: a round takes the last slash off, with the name after it (`parent?_append`), until a
name is left, perhaps with a slash before it (`eq_name_of_last`). What a round takes off is the last piece of the path
(`filter_pieces_of_parent?`) and one of its slashes (`count_tail_of_parent?`).

* **Taking a path apart ends after as many rounds as it has slashes after its first byte, and one more. It finds the
  pieces between the slashes that are not empty, last one first** (`parts_eq_components`).
* So a path is excluded by a pattern that matches the path or one such piece of its normal form (`matchesAny_iff`).
-/

namespace HouseStyle.Path

open Text (pieces)

variable {path dir file : Text}

/-! ## The last slash -/

theorem exists_last_slash (h : slash ∈ path) : ∃ dir file, slash ∉ file ∧ path = dir ++ slash :: file := by
  obtain ⟨file, dir, hreverse, hfile⟩ := List.eq_append_cons_of_mem (List.mem_reverse.mpr h)
  refine ⟨dir.reverse, file.reverse, by simpa using hfile, ?_⟩
  rw [← path.reverse_reverse, hreverse]
  simp

/-- A path is split into a front that is empty or ends with a slash and a name without slashes. -/
theorem split_eq (front : Text) (hfront : front.reverse.takeWhile (· != slash) = []) (hfile : slash ∉ file) :
    split (front ++ file) = (front, file) := by
  have hname : ∀ b ∈ file.reverse, b != slash := fun b hb => by
    rw [bne_iff_ne]
    rintro rfl
    exact hfile (List.mem_reverse.mp hb)
  have hlast : (front ++ file).reverse.takeWhile (· != slash) = file.reverse := by
    rw [List.reverse_append, List.takeWhile_append_of_pos hname, hfront, List.append_nil]
  simp only [split, hlast, List.reverse_reverse, List.length_append, Nat.add_sub_cancel, List.take_left]

theorem split_of_not_mem (h : slash ∉ path) : split path = ([], path) := split_eq [] rfl h

theorem split_append (dir : Text) (h : slash ∉ file) : split (dir ++ slash :: file) = (dir ++ [slash], file) := by
  have hsplit := split_eq (dir ++ [slash]) (by simp) h
  rwa [List.append_assoc] at hsplit

/-! ## One round -/

theorem parent?_of_not_mem (h : slash ∉ path) : parent? path = none := by
  rw [parent?, split_of_not_mem h]
  rfl

/-- **One round** goes on with what stands before the last slash, if anything does. What is left is shorter, so it is
never the path itself. -/
theorem parent?_append (dir : Text) (h : slash ∉ file) :
    parent? (dir ++ slash :: file) = Option.guard (!·.isEmpty) dir := by
  have htrim : (split (dir ++ slash :: file)).1.trimSuffix "/" = dir := by
    rw [split_append dir h]
    exact Text.trimSuffix_append dir "/"
  have hne : dir != dir ++ slash :: file := by
    rw [bne_iff_ne]
    exact fun heq => by simpa using congrArg List.length heq
  rw [parent?, htrim, Option.guard_apply, Option.guard_apply, hne, Bool.and_true]

theorem eq_append_of_parent? (h : parent? path = some dir) :
    dir ≠ [] ∧ ∃ file, slash ∉ file ∧ path = dir ++ slash :: file := by
  by_cases hslash : slash ∈ path
  · obtain ⟨dir', file, hfile, rfl⟩ := exists_last_slash hslash
    rw [parent?_append dir' hfile, Option.guard_eq_some_iff] at h
    obtain ⟨rfl, hdir⟩ := h
    exact ⟨by simpa using hdir, file, hfile, rfl⟩
  · rw [parent?_of_not_mem hslash] at h
    cases h

/-- **The last round** is at a name, perhaps with a slash before it. -/
theorem eq_name_of_last (h : parent? path = none) :
    slash ∉ path ∨ ∃ file, slash ∉ file ∧ path = slash :: file := by
  by_cases hslash : slash ∈ path
  · obtain ⟨dir, file, hfile, rfl⟩ := exists_last_slash hslash
    rw [parent?_append dir hfile, Option.guard_eq_none_iff, Bool.not_eq_false'] at h
    rw [List.isEmpty_iff.mp h]
    exact .inr ⟨file, hfile, rfl⟩
  · exact .inl hslash

/-! ## What a round takes off -/

theorem toList_part? (path : Text) : (part? path).toList = [(split path).2].filter (!·.isEmpty) := by
  rw [part?, Option.guard_apply, List.filter_cons]
  split <;> rfl

theorem pieces_slash (path : Text) : pieces '/' path = path.splitOn slash := Text.pieces_eq_splitOn '/' path

theorem pieces_append_slash (dir : Text) (h : slash ∉ file) :
    pieces '/' (dir ++ slash :: file) = pieces '/' dir ++ [file] := by
  rw [pieces_slash, pieces_slash, List.splitOn_append_cons_self, List.splitOn_eq_singleton h]

/-- What a round takes off is the last piece. -/
theorem filter_pieces_of_parent? (h : parent? path = some dir) :
    (pieces '/' path).filter (!·.isEmpty) = (pieces '/' dir).filter (!·.isEmpty) ++ (part? path).toList := by
  obtain ⟨-, file, hfile, rfl⟩ := eq_append_of_parent? h
  rw [pieces_append_slash dir hfile, List.filter_append, toList_part?, split_append dir hfile]

/-- What the last round takes off is the only piece, but for an empty one before a slash at the front. -/
theorem filter_pieces_of_last (h : parent? path = none) :
    (pieces '/' path).filter (!·.isEmpty) = (part? path).toList := by
  rcases eq_name_of_last h with hslash | ⟨file, hfile, rfl⟩
  · rw [pieces_slash, List.splitOn_eq_singleton hslash, toList_part?, split_of_not_mem hslash]
  · have hpieces : pieces '/' (slash :: file) = [[], file] := pieces_append_slash [] hfile
    have hsplit : split (slash :: file) = ([slash], file) := split_append [] hfile
    rw [hpieces, toList_part?, hsplit]
    rfl

/-- What a round takes off has one slash. -/
theorem count_tail_of_parent? (h : parent? path = some dir) : path.tail.count slash = dir.tail.count slash + 1 := by
  obtain ⟨hdir, file, hfile, rfl⟩ := eq_append_of_parent? h
  rw [List.tail_append_of_ne_nil hdir, List.count_append, List.count_cons_self, List.count_eq_zero.mpr hfile]

theorem count_tail_of_last (h : parent? path = none) : path.tail.count slash = 0 := by
  rw [List.count_eq_zero]
  rcases eq_name_of_last h with hslash | ⟨file, hfile, rfl⟩
  · exact fun hmem => hslash (List.mem_of_mem_tail hmem)
  · exact hfile

/-! ## All rounds -/

/-- Taking the path apart ends after `n` rounds and has found these components. -/
inductive Rounds : (n : Nat) → (path : Text) → (found : List Text) → Prop where
  | last {path : Text} (h : parent? path = none) : Rounds 1 path (part? path).toList
  | next {n : Nat} {path dir : Text} {found : List Text} (h : parent? path = some dir) (hrest : Rounds n dir found) :
    Rounds (n + 1) path ((part? path).toList ++ found)

theorem rounds_parts (path : Text) : Rounds (path.tail.count slash + 1) path (parts path) := by
  fun_induction parts path with
  | case1 path hlast =>
    rw [count_tail_of_last hlast]
    exact .last hlast
  | case2 path dir hdir _ ih =>
    rw [count_tail_of_parent? hdir]
    exact .next hdir ih

/-- There is one way to take a path apart. -/
theorem Rounds.unique {n m : Nat} {found found' : List Text} (h : Rounds n path found) (h' : Rounds m path found') :
    n = m ∧ found = found' := by
  induction h generalizing m found' with
  | last hlast =>
    cases h' with
    | last => exact ⟨rfl, rfl⟩
    | next hdir =>
      rw [hlast] at hdir
      cases hdir
  | next hdir _ ih =>
    cases h' with
    | last hlast =>
      rw [hlast] at hdir
      cases hdir
    | next hdir' hrest' =>
      rw [hdir] at hdir'
      cases hdir'
      obtain ⟨rfl, rfl⟩ := ih hrest'
      exact ⟨rfl, rfl⟩

/-- The rounds find the pieces that are not empty, from the last one to the first. -/
theorem reverse_parts (path : Text) : (parts path).reverse = (pieces '/' path).filter (!·.isEmpty) := by
  fun_induction parts path with
  | case1 path hlast =>
    rw [filter_pieces_of_last hlast]
    cases part? path <;> rfl
  | case2 path dir hdir _ ih =>
    rw [List.reverse_append, ih, filter_pieces_of_parent? hdir]
    -- One round finds one component at most, so there is nothing to turn around.
    cases part? path <;> rfl

/-- **Taking a path apart ends**, after as many rounds as the path has slashes after its first byte, and one more, **with
the pieces between its slashes that are not empty, last one first**. -/
theorem parts_eq_components (path : Text) :
    (∀ n found, Rounds n path found ↔ n = path.tail.count slash + 1 ∧ found = parts path) ∧
      parts path = ((path.pieces '/').filter (!·.isEmpty)).reverse := by
  refine ⟨fun n found => ⟨fun h => h.unique (rounds_parts path), ?_⟩, ?_⟩
  · rintro ⟨rfl, rfl⟩
    exact rounds_parts path
  · rw [← reverse_parts, List.reverse_reverse]

example : parts "//usr///src/" = [("src" : Text), "usr"] := by cbv

/-! ## Excluded paths -/

theorem mem_parts {c : Text} : c ∈ parts path ↔ c ∈ pieces '/' path ∧ c ≠ [] := by
  rw [← List.mem_reverse, reverse_parts, List.mem_filter]
  simp

/-- **A path is excluded by a pattern that matches the whole path or a component of its normal form.** -/
theorem matchesAny_iff {patterns : List Text} : matchesAny path patterns ↔ ∃ p ∈ patterns,
    Pattern.accepts p path ∨ ∃ c ∈ pieces '/' (clean path), c ≠ [] ∧ Pattern.accepts p c := by
  simp only [matchesAny, List.any_eq_true, Bool.or_eq_true, mem_parts, and_assoc]

/-- The same as a test that can be run on fixed paths. -/
theorem matchesAny_eq (path : Text) (patterns : List Text) : matchesAny path patterns =
    patterns.any fun p =>
      Pattern.accepts p path || (pieces '/' (clean path)).any fun c => !c.isEmpty && Pattern.accepts p c := by
  rw [Bool.eq_iff_iff, matchesAny_iff]
  simp

end HouseStyle.Path
