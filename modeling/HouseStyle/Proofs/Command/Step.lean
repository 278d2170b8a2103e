import HouseStyle.Command.Format
import HouseStyle.Proofs.Tree.Write

/-!
# Steps of a formatting run

A run goes over its paths one by one. What the step at a path may come to is listed with all that leads there
(`Formats`), and **a step comes to nothing else** (`formats_formatFile`).

A step fails if its path cannot be processed (`CannotProcess`) — it cannot be read, its fixed content cannot be written
back, or standard output does not take it — or, where the run lists the files that would change, if it lists one.
**It makes the run fail exactly if it fails itself** (`code_formatFile`).
-/

namespace HouseStyle.Command

variable {o : FormatOptions} {output : Output} {done : Outcome} {path fixed written c : Text} {tree : Tree}

/-! ## What a step comes to -/

/-- The options ask for files to be written back, and for nothing else. -/
structure FormatOptions.WritesOnly (o : FormatOptions) : Prop where
  write : o.write = true
  diff : o.diff = false
  list : o.list = false

/-- The options ask for fixed texts on standard output. -/
structure FormatOptions.PrintsOnly (o : FormatOptions) : Prop where
  write : o.write = false
  diff : o.diff = false
  list : o.list = false

theorem FormatOptions.WritesOnly.not_printsOnly (ho : o.WritesOnly) : ¬o.PrintsOnly :=
  fun ho' => Bool.noConfusion (ho'.write.symm.trans ho.write)

/-- What a step of a run may come to, with all that leads there. -/
inductive Formats (o : FormatOptions) (output : Output) (done : Outcome) (path : Text) : Outcome → Prop where
  | unread {fault : Tree.Fault} (h : done.tree.read path = .error fault) :
    Formats o output done path (done.fail (path ++ ": " ++ fault.readMessage path))
  | kept {c : Text} (ho : ¬o.PrintsOnly) (h : done.tree.read path = .ok c) (hsame : c = Whitespace.fix c o.tabWidth) :
    Formats o output done path done
  | listed {c : Text} (ho : o.list = true) (h : done.tree.read path = .ok c)
    (hchanged : c ≠ Whitespace.fix c o.tabWidth) :
    Formats o output done path { done.print output (path ++ "\n") with code := 1 }
  | patched {c : Text} (hlist : o.list = false) (hdiff : o.diff = true) (h : done.tree.read path = .ok c)
    (hchanged : c ≠ Whitespace.fix c o.tabWidth) :
    Formats o output done path (done.print output (Patch.render path c (Whitespace.fix c o.tabWidth)))
  | written {c : Text} {place : List Text} {a : Access} (ho : o.WritesOnly) (h : done.tree.read path = .ok c)
    (hlocate : done.tree.locate path = .ok place) (hat : done.tree.root.at? place = some (.file a c))
    (hread : a.read = true) (hwrite : a.write = true) :
    Formats o output done path
      { done with tree := done.tree.put place (.file a (Whitespace.fix c o.tabWidth)) }
  | sealed {c : Text} (ho : o.WritesOnly) (h : done.tree.read path = .ok c)
    (hchanged : c ≠ Whitespace.fix c o.tabWidth) (hsealed : ¬done.tree.MayWrite path) :
    Formats o output done path (done.fail (Tree.Fault.denied.message "open" path))
  | printed {c : Text} (ho : o.PrintsOnly) (h : done.tree.read path = .ok c)
    (htaken : output.refuses done.stdout (Whitespace.fix c o.tabWidth) = false) :
    Formats o output done path (done.print output (Whitespace.fix c o.tabWidth))
  | refused {c : Text} (ho : o.PrintsOnly) (h : done.tree.read path = .ok c)
    (hrefused : output.refuses done.stdout (Whitespace.fix c o.tabWidth) = true) :
    Formats o output done path ((done.print output (Whitespace.fix c o.tabWidth)).fail output.message)

/-- Writing a file back puts the new content in its place, or fails if the user may not write the file. -/
theorem writeBack_eq {place : List Text} {a : Access} (hlocate : done.tree.locate path = .ok place)
    (hat : done.tree.root.at? place = some (.file a c)) : writeBack done path fixed =
      if a.write then { done with tree := done.tree.put place (.file a fixed) }
      else done.fail (Tree.Fault.denied.message "open" path) := by
  have hfind : done.tree.find path = .ok (.file a c) := Tree.find_eq_ok.mpr ⟨place, hlocate, hat⟩
  have hwrite := Tree.write_eq hlocate hat fixed a
  simp only [writeBack, hfind, Node.access, hwrite]
  cases a.write <;> rfl

/-- **What a step of a run comes to.** -/
theorem formats_formatFile (o : FormatOptions) (output : Output) (done : Outcome) (path : Text) :
    Formats o output done path (formatFile o output done path) := by
  unfold formatFile
  cases h : done.tree.read path with
  | error fault => exact .unread h
  | ok c =>
    dsimp only
    cases hlist : o.list with
    | true =>
      rw [if_pos rfl]
      split
      · next hsame => exact .kept (fun ho => Bool.noConfusion (ho.list.symm.trans hlist)) h hsame
      · next hchanged => exact .listed hlist h hchanged
    | false =>
      rw [if_neg Bool.false_ne_true]
      cases hdiff : o.diff with
      | true =>
        rw [if_pos rfl]
        split
        · next hsame => exact .kept (fun ho => Bool.noConfusion (ho.diff.symm.trans hdiff)) h hsame
        · next hchanged => exact .patched hlist hdiff h hchanged
      | false =>
        rw [if_neg Bool.false_ne_true]
        cases hwrite : o.write with
        | true =>
          rw [if_pos rfl]
          split
          · next hsame => exact .kept (fun ho => Bool.noConfusion (ho.write.symm.trans hwrite)) h hsame
          · next hchanged =>
            obtain ⟨place, a, hlocate, hat, hread⟩ := Tree.read_eq_ok.mp h
            rw [writeBack_eq hlocate hat]
            split
            · next hopen => exact .written ⟨hwrite, hdiff, hlist⟩ h hlocate hat hread hopen
            · next hsealed =>
              exact .sealed ⟨hwrite, hdiff, hlist⟩ h hchanged (mt (Tree.mayWrite_iff hlocate hat).mp hsealed)
        | false =>
          rw [if_neg Bool.false_ne_true, printFixed]
          split
          · next hrefused => exact .refused ⟨hwrite, hdiff, hlist⟩ h hrefused
          · next htaken => exact .printed ⟨hwrite, hdiff, hlist⟩ h (Bool.eq_false_iff.mpr htaken)

/-! ## Steps that fail -/

/-- A path cannot be processed when this much has been written to standard output: it cannot be read, its fixed content
cannot be written back, or standard output does not take its fixed content. -/
inductive FormatOptions.CannotProcess (o : FormatOptions) (output : Output) (tree : Tree) (written path : Text) :
    Prop where
  | read {fault : Tree.Fault} (h : tree.read path = .error fault)
  | write {c : Text} (ho : o.WritesOnly) (h : tree.read path = .ok c) (hchanged : c ≠ Whitespace.fix c o.tabWidth)
      (hsealed : ¬tree.MayWrite path)
  | print {c : Text} (ho : o.PrintsOnly) (h : tree.read path = .ok c)
      (hrefused : output.refuses written (Whitespace.fix c o.tabWidth) = true)

/-- The step at a path fails: the path cannot be processed, or it is listed as one that would change. -/
def FormatOptions.Fails (o : FormatOptions) (output : Output) (tree : Tree) (written path : Text) : Prop :=
  o.CannotProcess output tree written path ∨
    (o.list = true ∧ ∃ c, tree.read path = .ok c ∧ c ≠ Whitespace.fix c o.tabWidth)

theorem fails_iff : o.Fails output tree written path ↔ (∃ fault, tree.read path = .error fault) ∨
    ∃ c, tree.read path = .ok c ∧ ((o.WritesOnly ∧ c ≠ Whitespace.fix c o.tabWidth ∧ ¬tree.MayWrite path) ∨
      (o.PrintsOnly ∧ output.refuses written (Whitespace.fix c o.tabWidth) = true) ∨
      (o.list = true ∧ c ≠ Whitespace.fix c o.tabWidth)) := by
  constructor
  · rintro (hstuck | ⟨hlist, c, h, hchanged⟩)
    · cases hstuck with
      | read h => exact .inl ⟨_, h⟩
      | write ho h hchanged hsealed => exact .inr ⟨_, h, .inl ⟨ho, hchanged, hsealed⟩⟩
      | print ho h hrefused => exact .inr ⟨_, h, .inr (.inl ⟨ho, hrefused⟩)⟩
    · exact .inr ⟨c, h, .inr (.inr ⟨hlist, hchanged⟩)⟩
  · rintro (⟨fault, h⟩ | ⟨c, h, ⟨ho, hchanged, hsealed⟩ | ⟨ho, hrefused⟩ | ⟨hlist, hchanged⟩⟩)
    · exact .inl (.read h)
    · exact .inl (.write ho h hchanged hsealed)
    · exact .inl (.print ho h hrefused)
    · exact .inr ⟨hlist, c, h, hchanged⟩

theorem fails_of_read (h : tree.read path = .ok c) : o.Fails output tree written path ↔
    (o.WritesOnly ∧ c ≠ Whitespace.fix c o.tabWidth ∧ ¬tree.MayWrite path) ∨
    (o.PrintsOnly ∧ output.refuses written (Whitespace.fix c o.tabWidth) = true) ∨
    (o.list = true ∧ c ≠ Whitespace.fix c o.tabWidth) := by
  simp [fails_iff, h]

/-- A run that writes files back fails where a file cannot be read, or should change and cannot be written. -/
theorem fails_of_writesOnly (ho : o.WritesOnly) : o.Fails output tree written path ↔
    (∃ fault, tree.read path = .error fault) ∨
    (¬tree.MayWrite path ∧ ∃ c, tree.read path = .ok c ∧ c ≠ Whitespace.fix c o.tabWidth) := by
  simp only [fails_iff, ho, ho.not_printsOnly, ho.list, Bool.false_eq_true, true_and, false_and, or_false]
  refine or_congr_right ⟨?_, ?_⟩
  · rintro ⟨c, h, hchanged, hsealed⟩
    exact ⟨hsealed, c, h, hchanged⟩
  · rintro ⟨hsealed, c, h, hchanged⟩
    exact ⟨c, h, hchanged, hsealed⟩

/-- **A step makes the run fail exactly if it fails itself.** -/
theorem code_formatFile (o : FormatOptions) (output : Output) (done : Outcome) (path : Text) :
    (formatFile o output done path).code = 1 ↔ done.code = 1 ∨ o.Fails output done.tree done.stdout path := by
  have hstep := formats_formatFile o output done path
  generalize formatFile o output done path = next at hstep ⊢
  cases hstep with
  | unread h => exact iff_of_true rfl (.inr (.inl (.read h)))
  | kept ho h hsame =>
    refine (or_iff_left ?_).symm
    rw [fails_of_read h]
    rintro (⟨-, hchanged, -⟩ | ⟨ho', -⟩ | ⟨-, hchanged⟩)
    · exact hchanged hsame
    · exact ho ho'
    · exact hchanged hsame
  | listed ho h hchanged => exact iff_of_true rfl (.inr (.inr ⟨ho, _, h, hchanged⟩))
  | patched hlist hdiff h _ =>
    refine (or_iff_left ?_).symm
    rw [fails_of_read h]
    rintro (⟨ho, -, -⟩ | ⟨ho, -⟩ | ⟨hlist', -⟩)
    · exact Bool.noConfusion (ho.diff.symm.trans hdiff)
    · exact Bool.noConfusion (ho.diff.symm.trans hdiff)
    · exact Bool.noConfusion (hlist.symm.trans hlist')
  | written ho h hlocate hat _ hwrite =>
    refine (or_iff_left ?_).symm
    rw [fails_of_read h]
    rintro (⟨-, -, hsealed⟩ | ⟨ho', -⟩ | ⟨hlist, -⟩)
    · exact hsealed ((Tree.mayWrite_iff hlocate hat).mpr hwrite)
    · exact ho.not_printsOnly ho'
    · exact Bool.noConfusion (ho.list.symm.trans hlist)
  | sealed ho h hchanged hsealed => exact iff_of_true rfl (.inr (.inl (.write ho h hchanged hsealed)))
  | printed ho h htaken =>
    refine (or_iff_left ?_).symm
    rw [fails_of_read h]
    rintro (⟨ho', -, -⟩ | ⟨-, hrefused⟩ | ⟨hlist, -⟩)
    · exact ho'.not_printsOnly ho
    · exact Bool.noConfusion (htaken.symm.trans hrefused)
    · exact Bool.noConfusion (ho.list.symm.trans hlist)
  | refused ho h hrefused => exact iff_of_true rfl (.inr (.inl (.print ho h hrefused)))

theorem code_formatFile_le (o : FormatOptions) (output : Output) (h : done.code ≤ 1) (path : Text) :
    (formatFile o output done path).code ≤ 1 := by
  have hstep := formats_formatFile o output done path
  generalize formatFile o output done path = next at hstep ⊢
  cases hstep with
  | kept | patched | written | printed => exact h
  | unread | listed | sealed | refused => exact Nat.le_refl 1

/-- A run that does not write files back leaves the tree alone. -/
theorem tree_formatFile (ho : ¬o.WritesOnly) (output : Output) (done : Outcome) (path : Text) :
    (formatFile o output done path).tree = done.tree := by
  have hstep := formats_formatFile o output done path
  generalize formatFile o output done path = next at hstep ⊢
  cases hstep with
  | written ho' => exact absurd ho' ho
  | _ => rfl

end HouseStyle.Command
