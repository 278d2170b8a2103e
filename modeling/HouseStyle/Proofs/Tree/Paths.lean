import HouseStyle.Proofs.Text.Pieces
import HouseStyle.Proofs.Tree.Write

/-!
# Following paths

* A component leads from what is there to what is there (`Tree.isSome_at?_of_follow`), so **a path that can be followed
  leads to a file or a directory** (`Tree.isSome_at?_of_locate`).
* What stands behind a slash is followed from the place that the path in front of it leads to (`Tree.locate_below`).
  Hence **a path leads to the same place from the working directory as it does behind a path of the working directory**,
  be that one from the root or through parent directories (`Tree.locate_behind`).
-/

namespace HouseStyle.Tree

variable {t : Tree} {root : Node} {place place' : List Text} {component path dir : Text}

/-! ## What a path leads to -/

theorem isSome_at?_dropLast (h : (root.at? place).isSome) : (root.at? place.dropLast).isSome := by
  obtain rfl | ⟨above, name, rfl⟩ := List.eq_nil_or_concat' place
  · exact h
  · rw [Node.at?_append] at h
    rw [List.dropLast_concat]
    exact Option.isSome_of_isSome_bind h

/-- **A component leads to something that is there.** -/
theorem isSome_at?_of_follow (h : follow root place component = .ok place') : (root.at? place').isSome := by
  unfold follow at h
  split at h
  · cases h
  · cases h
  · next a es hat =>
    have hplace : (root.at? place).isSome := by rw [hat, Option.isSome_some]
    split_ifs at h with hempty henter hdot hup hchild
    all_goals cases h
    · exact hplace
    · exact hplace
    · exact isSome_at?_dropLast hplace
    · rwa [← Node.child?_isSome hat]

theorem foldlM_follow_cons {components : List Text} :
    (component :: components).foldlM (follow root) place = .ok place' ↔
      ∃ between, follow root place component = .ok between ∧ components.foldlM (follow root) between = .ok place' := by
  rw [List.foldlM_cons]
  cases follow root place component <;> simp [bind, Except.bind]

/-- Components in a row lead from what is there to what is there. -/
theorem isSome_at?_of_foldlM {components : List Text} (hplace : (root.at? place).isSome)
    (h : components.foldlM (follow root) place = .ok place') : (root.at? place').isSome := by
  induction components generalizing place with
  | nil =>
    cases h
    exact hplace
  | cons component components ih =>
    obtain ⟨between, hfollow, h⟩ := foldlM_follow_cons.mp h
    exact ih (isSome_at?_of_follow hfollow) h

/-- **A path that can be followed leads to a file or a directory**, whatever place it begins at. -/
theorem isSome_at?_of_locate (h : t.locate path = .ok place) : (t.root.at? place).isSome := by
  unfold locate at h
  split at h
  · cases h
  · obtain ⟨component, components, hpieces⟩ := List.exists_cons_of_ne_nil (Text.pieces_ne_nil '/' path)
    rw [hpieces] at h
    obtain ⟨between, hfollow, h⟩ := foldlM_follow_cons.mp h
    exact isSome_at?_of_foldlM (isSome_at?_of_follow hfollow) h

/-! ## Paths behind paths -/

/-- What stands behind a slash is followed from the place that the path in front of the slash leads to. -/
theorem locate_below (hdir : dir ≠ []) (path : Text) :
    t.locate (dir ++ Text.byte '/' :: path) = (do (path.pieces '/').foldlM (follow t.root) (← t.locate dir)) := by
  have hpieces : Text.pieces '/' (dir ++ Text.byte '/' :: path) = dir.pieces '/' ++ path.pieces '/' := by
    rw [Text.pieces_eq_splitOn, Text.pieces_eq_splitOn, Text.pieces_eq_splitOn, List.splitOn_append_cons_self]
  have hstart : Text.startsWith (dir ++ Text.byte '/' :: path) "/" = dir.startsWith "/" := by
    obtain ⟨b, dir, rfl⟩ := List.exists_cons_of_ne_nil hdir
    rfl
  have hbelow : List.isEmpty (dir ++ Text.byte '/' :: path) = false := by simp
  have hdir : List.isEmpty dir = false := by simpa using hdir
  rw [locate, locate, hpieces, hstart, List.foldlM_append, hbelow, hdir]
  rfl

/-- **A path from the working directory leads to the same place behind a path of the working directory.** -/
theorem locate_behind (hdir : t.locate dir = .ok t.here) (hpath : path ≠ []) (hrelative : path.startsWith "/" = false) :
    t.locate (dir ++ Text.byte '/' :: path) = t.locate path := by
  have hne : dir ≠ [] := by
    rintro rfl
    cases hdir
  rw [locate_below hne, hdir, locate, if_neg (by simpa using hpath), hrelative]
  rfl

end HouseStyle.Tree
