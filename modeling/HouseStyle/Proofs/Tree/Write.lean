import Mathlib.Data.List.Basic
import HouseStyle.Tree

/-!
# Writing a file of a tree

Replacing the content of a file leaves the rest of a tree as it was:

* **the file at the place has the new content and every other file its old one** (`Node.at?_put_file`);
* files stay files and directories directories, with the same access, and a walk finds no new files and meets no new
  barriers (`Node.samePlaces_put`);
* so **the same paths lead to the same places** (`Tree.SamePlaces.locate`).

Nothing is asked of the order or the names of entries. A file that is there is written exactly if the user may write it
(`Tree.write_eq`).
-/

namespace HouseStyle

namespace Node

variable {n n' u leaf : Node} {name : Text} {es : List (Text × Node)} {p q r : List Text} {a b : Access} {c c' d : Text}

/-! ## Places -/

theorem child?_cons (m : Text) (u : Node) (es : List (Text × Node)) (name : Text) :
    child? ((m, u) :: es) name = if m = name then some u else child? es name := by
  by_cases h : m = name <;> simp [child?, h]

theorem child?_putEntry (name : Text) (n : Node) (es : List (Text × Node)) (m : Text) :
    child? (putEntry name n es) m = if name = m then some n else child? es m := by
  induction es with
  | nil => exact child?_cons name n [] m
  | cons e es ih =>
    obtain ⟨k, u⟩ := e
    rw [putEntry]
    by_cases hk : k = name
    · subst hk
      rw [if_pos (beq_self_eq_true k), child?_cons, child?_cons]
      by_cases hm : k = m <;> simp [hm]
    · rw [if_neg (by simpa using hk)]
      by_cases hless : Text.less name k
      · rw [if_pos hless, child?_cons]
      · rw [if_neg hless, child?_cons, child?_cons, ih]
        by_cases hm : k = m
        · rw [if_pos hm, if_neg fun h => hk (hm.trans h.symm), if_pos hm]
        · rw [if_neg hm, if_neg hm]

theorem mem_of_child? (h : child? es name = some n) : (name, n) ∈ es := by
  obtain ⟨e, he, rfl⟩ := Option.map_eq_some_iff.mp h
  have hname : e.1 = name := by simpa using List.find?_some he
  rw [← hname]
  exact List.mem_of_find?_eq_some he

theorem mem_putEntry {e : Text × Node} (h : e ∈ putEntry name n es) : e = (name, n) ∨ e ∈ es := by
  induction es with
  | nil => exact .inl (List.mem_singleton.mp h)
  | cons e' es ih =>
    obtain ⟨m, u⟩ := e'
    unfold putEntry at h
    split_ifs at h
    · rcases List.mem_cons.mp h with h | h
      · exact .inl h
      · exact .inr (List.mem_cons_of_mem _ h)
    · rcases List.mem_cons.mp h with h | h
      · exact .inl h
      · exact .inr h
    · rcases List.mem_cons.mp h with rfl | h
      · exact .inr List.mem_cons_self
      · exact (ih h).imp_right (List.mem_cons_of_mem _)

theorem at?_append (n : Node) (q r : List Text) : n.at? (q ++ r) = (n.at? q).bind (·.at? r) := by
  induction q generalizing n with
  | nil => rfl
  | cons m q ih =>
    cases n with
    | file a c => rfl
    | dir a es =>
      simp only [List.cons_append, at?]
      cases child? es m with
      | none => rfl
      | some u => exact ih u

/-- A place below a node is a place below one of its entries. -/
theorem at?_cons (h : n.at? (name :: p) = some u) :
    ∃ a es v, n = .dir a es ∧ child? es name = some v ∧ v.at? p = some u := by
  cases n with
  | file a c => cases h
  | dir a es =>
    obtain ⟨v, hv, hu⟩ := Option.bind_eq_some_iff.mp h
    exact ⟨a, es, v, rfl, hv, hu⟩

theorem at?_file (h : (file a c).at? p = some u) : p = [] ∧ u = .file a c := by
  cases p with
  | nil => exact ⟨rfl, (Option.some.inj h).symm⟩
  | cons name p => cases h

/-! ## Putting a file in the place of another -/

theorem put_dir {v : Node} (hv : child? es name = some v) :
    (dir a es).put (name :: p) leaf = .dir a (putEntry name (v.put p leaf) es) := by
  simp [put, entries, access, hv]

/-- At a place on the way, the node there has the file put into it. -/
theorem at?_put_append (h : n.at? (q ++ r) = some u) :
    (n.put (q ++ r) leaf).at? q = (n.at? q).map (·.put r leaf) := by
  induction q generalizing n with
  | nil => rfl
  | cons name q ih =>
    obtain ⟨a, es, v, rfl, hv, hu⟩ := at?_cons h
    rw [List.cons_append, put_dir hv, at?, child?_putEntry, if_pos rfl, at?, hv]
    exact ih hu

/-- At any other place, nothing changes. -/
theorem at?_put_elsewhere (h : n.at? p = some (.file a c)) (hq : ¬q <+: p) :
    (n.put p (.file b c')).at? q = n.at? q := by
  induction p generalizing n q with
  | nil =>
    obtain rfl := Option.some.inj h
    cases q with
    | nil => exact absurd (List.prefix_refl _) hq
    | cons m q => rfl
  | cons name p ih =>
    obtain ⟨_, es, v, rfl, hv, hc⟩ := at?_cons h
    cases q with
    | nil => exact absurd List.nil_prefix hq
    | cons m q =>
      rw [put_dir hv, at?, child?_putEntry, at?]
      by_cases hm : name = m
      · subst hm
        rw [if_pos rfl, hv]
        exact ih hc fun hway => hq (List.cons_prefix_cons.mpr ⟨rfl, hway⟩)
      · rw [if_neg hm]

/-- A place is on the way to the file, and what stands there has the file put into it, or it is not, and nothing changes
there. -/
theorem at?_put_cases (h : n.at? p = some (.file a c)) (b : Access) (c' : Text) (q : List Text) :
    (∃ u r, p = q ++ r ∧ n.at? q = some u ∧ u.at? r = some (.file a c) ∧
      (n.put p (.file b c')).at? q = some (u.put r (.file b c'))) ∨
    (¬q <+: p ∧ (n.put p (.file b c')).at? q = n.at? q) := by
  by_cases hway : q <+: p
  · obtain ⟨r, rfl⟩ := hway
    have hr := h
    rw [at?_append] at hr
    obtain ⟨u, hu, hr⟩ := Option.bind_eq_some_iff.mp hr
    exact .inl ⟨u, r, rfl, hu, hr, by rw [at?_put_append h, hu, Option.map_some]⟩
  · exact .inr ⟨hway, at?_put_elsewhere h hway⟩

/-- **The file at the place has the new content, every other file its old one.** -/
theorem at?_put_file (h : n.at? p = some (.file a c)) (hq : n.at? q = some (.file b d)) :
    (n.put p (.file a c')).at? q = some (.file b (if q = p then c' else d)) := by
  rcases at?_put_cases h a c' q with ⟨u, r, rfl, hu, hr, hput⟩ | ⟨hway, hput⟩
  · rw [hq] at hu
    obtain rfl := Option.some.inj hu
    obtain ⟨rfl, heq⟩ := at?_file hr
    obtain ⟨rfl, rfl⟩ := Node.file.inj heq
    rw [hput, List.append_nil, if_pos rfl]
    rfl
  · rw [hput, hq, if_neg]
    rintro rfl
    exact hway (List.prefix_refl _)

/-! ## The same places -/

/-- Whether a node is a file, and what the user may do with it. -/
def kind (n : Node) : Bool × Access := (n.isFile, n.access)

/-- A walk of `n'` finds no file that a walk of `n` does not find, and meets no barrier if that meets none. -/
structure WalksIn (n' n : Node) : Prop where
  finds : ∀ (skipped wanted : Text → Bool) (path : Text), n'.walk skipped wanted path ⊆ n.walk skipped wanted path
  passes : ∀ (skipped : Text → Bool) (path : Text), n.barrier? skipped path = none → n'.barrier? skipped path = none

/-- Both nodes have files and directories with the same access at the same places, and what stands at a place of `n'` is
walked like what stands there in `n`. -/
structure SamePlaces (n n' : Node) : Prop where
  kind : ∀ q, (n'.at? q).map Node.kind = (n.at? q).map Node.kind
  walks : ∀ q u u', n.at? q = some u → n'.at? q = some u' → WalksIn u' u

theorem WalksIn.refl (n : Node) : WalksIn n n := ⟨fun _ _ _ => List.Subset.refl _, fun _ _ h => h⟩

theorem WalksIn.trans {n'' : Node} (h : WalksIn n'' n') (h' : WalksIn n' n) : WalksIn n'' n where
  finds skipped wanted path := List.Subset.trans (h.finds skipped wanted path) (h'.finds skipped wanted path)
  passes skipped path hpass := h.passes skipped path (h'.passes skipped path hpass)

theorem SamePlaces.refl (n : Node) : SamePlaces n n where
  kind _ := rfl
  walks q u u' hu hu' := by
    obtain rfl := Option.some.inj (hu.symm.trans hu')
    exact .refl u

/-- What stands at a place stands there in the other node too. -/
theorem SamePlaces.exists_at? (h : SamePlaces n n') (hu : n.at? q = some u) :
    ∃ u', n'.at? q = some u' ∧ u'.kind = u.kind := by
  have hq := h.kind q
  rw [hu, Option.map_some, Option.map_eq_some_iff] at hq
  exact hq

theorem SamePlaces.trans {n'' : Node} (h : SamePlaces n n') (h' : SamePlaces n' n'') : SamePlaces n n'' where
  kind q := (h'.kind q).trans (h.kind q)
  walks q u u'' hu hu'' := by
    obtain ⟨u', hu', -⟩ := h.exists_at? hu
    exact (h'.walks q u' u'' hu' hu'').trans (h.walks q u u' hu hu')

theorem kind_eq_file : u.kind = (true, a) ↔ ∃ c, u = .file a c := by
  cases u with
  | file b c => simp [Node.kind, isFile, access]
  | dir b es => simp [Node.kind, isFile]

theorem kind_eq_dir : u.kind = (false, a) ↔ ∃ es, u = .dir a es := by
  cases u with
  | file b c => simp [Node.kind, isFile]
  | dir b es => simp [Node.kind, isFile, access]

theorem SamePlaces.at?_file (h : SamePlaces n n') (a : Access) (q : List Text) :
    (∃ c, n'.at? q = some (.file a c)) ↔ ∃ c, n.at? q = some (.file a c) := by
  have hfile : ∀ m : Node, (m.at? q).map Node.kind = some (true, a) ↔ ∃ c, m.at? q = some (.file a c) := by
    intro m
    rw [Option.map_eq_some_iff]
    constructor
    · rintro ⟨u, hu, hkind⟩
      obtain ⟨c, rfl⟩ := kind_eq_file.mp hkind
      exact ⟨c, hu⟩
    · rintro ⟨c, hu⟩
      exact ⟨_, hu, rfl⟩
  rw [← hfile, ← hfile, h.kind]

theorem mem_walkEntries {skipped wanted : Text → Bool} {path x : Text} : x ∈ walkEntries skipped wanted path es ↔
    ∃ e ∈ es, (e.2.isFile = true ∨ skipped (Path.below path e.1) = false) ∧
      x ∈ e.2.walk skipped wanted (Path.below path e.1) := by
  induction es with
  | nil => simp [walkEntries]
  | cons e es ih =>
    rw [walkEntries, List.mem_append, ih, List.exists_mem_cons_iff]
    refine or_congr_left ?_
    cases e.2.isFile <;> cases skipped (Path.below path e.1) <;> simp

/-- A walk meets no barrier below entries if it meets none below any of those that it goes into. -/
theorem barrierBelow?_eq_none {skipped : Text → Bool} {enter : Bool} {path : Text} :
    barrierBelow? skipped enter path es = none ↔
      ∀ e ∈ es, e.2.isFile = true ∨ skipped (Path.below path e.1) = true ∨
        (enter = true ∧ e.2.barrier? skipped (Path.below path e.1) = none) := by
  induction es with
  | nil => simp [barrierBelow?]
  | cons e es ih =>
    rw [barrierBelow?, Option.or_eq_none_iff, ih, List.forall_mem_cons]
    refine and_congr_left fun _ => ?_
    cases e.2.isFile <;> cases skipped (Path.below path e.1) <;> cases enter <;> simp

theorem kind_put (h : n.at? p = some (.file a c)) : (n.put p (.file a c')).kind = n.kind := by
  cases p with
  | nil =>
    obtain rfl := Option.some.inj h
    rfl
  | cons name p =>
    obtain ⟨_, es, v, rfl, -, -⟩ := at?_cons h
    rfl

/-- A walk goes by the places of files and directories, whatever the content of a file. -/
theorem walksIn_put (h : n.at? p = some (.file a c)) : WalksIn (n.put p (.file a c')) n := by
  induction p generalizing n with
  | nil =>
    obtain rfl := Option.some.inj h
    exact ⟨fun _ _ _ => List.Subset.refl _, fun _ _ h => h⟩
  | cons name p ih =>
    obtain ⟨b, es, v, rfl, hv, hc⟩ := at?_cons h
    have hfile : (v.put p (.file a c')).isFile = v.isFile := congrArg Prod.fst (kind_put hc)
    rw [put_dir hv]
    constructor
    · intro skipped wanted path x hx
      rw [walk, mem_walkEntries] at hx ⊢
      obtain ⟨e, he, hkept, hx⟩ := hx
      rcases mem_putEntry he with rfl | he
      · rw [hfile] at hkept
        exact ⟨(name, v), mem_of_child? hv, hkept, (ih hc).finds skipped wanted _ hx⟩
      · exact ⟨e, he, hkept, hx⟩
    · intro skipped path hpass
      rw [barrier?] at hpass ⊢
      cases hread : b.read with
      | false => simp [hread] at hpass
      | true =>
        rw [hread, if_pos rfl, barrierBelow?_eq_none] at hpass
        rw [if_pos rfl, barrierBelow?_eq_none]
        intro e he
        rcases mem_putEntry he with rfl | he
        · rw [hfile]
          exact (hpass _ (mem_of_child? hv)).imp_right
            (Or.imp_right fun hopen => ⟨hopen.1, (ih hc).passes skipped _ hopen.2⟩)
        · exact hpass e he

/-- **Replacing the content of a file keeps all places.** -/
theorem samePlaces_put (h : n.at? p = some (.file a c)) (c' : Text) : SamePlaces n (n.put p (.file a c')) := by
  constructor
  · intro q
    rcases at?_put_cases h a c' q with ⟨u, r, -, hu, hr, hput⟩ | ⟨-, hput⟩
    · rw [hput, hu, Option.map_some, Option.map_some, kind_put hr]
    · rw [hput]
  · intro q u u' hu hu'
    rcases at?_put_cases h a c' q with ⟨v, r, -, hv, hr, hput⟩ | ⟨-, hput⟩
    · obtain rfl := Option.some.inj (hu.symm.trans hv)
      obtain rfl := Option.some.inj (hu'.symm.trans hput)
      exact walksIn_put hr
    · obtain rfl := Option.some.inj (hu.symm.trans (hput.symm.trans hu'))
      exact .refl u

theorem child?_isSome {here : List Text} (h : n.at? here = some (.dir a es)) (name : Text) :
    (child? es name).isSome = (n.at? (here ++ [name])).isSome := by
  rw [at?_append, h, Option.bind_some, at?]
  cases child? es name <;> rfl

end Node

namespace Tree

variable {t t' t'' : Tree} {n : Node} {path c : Text} {place : List Text} {a : Access}

/-! ## Paths -/

/-- Both trees have the same working directory, and files and directories with the same access at the same places. -/
structure SamePlaces (t t' : Tree) : Prop where
  root : t.root.SamePlaces t'.root
  here : t'.here = t.here

theorem SamePlaces.refl (t : Tree) : SamePlaces t t := ⟨.refl t.root, rfl⟩

theorem SamePlaces.trans (h : SamePlaces t t') (h' : SamePlaces t' t'') : SamePlaces t t'' :=
  ⟨h.root.trans h'.root, h'.here.trans h.here⟩

theorem follow_samePlaces {root root' : Node} (h : root.SamePlaces root') : follow root' = follow root := by
  funext place component
  unfold follow
  cases hat : root.at? place with
  | none =>
    have hat' := h.kind place
    rw [hat, Option.map_none, Option.map_eq_none_iff] at hat'
    rw [hat']
  | some u =>
    obtain ⟨u', hat', hkind⟩ := h.exists_at? hat
    rw [hat']
    cases u with
    | file a c =>
      obtain ⟨c', rfl⟩ : ∃ c', u' = .file a c' := Node.kind_eq_file.mp hkind
      rfl
    | dir a es =>
      obtain ⟨es', rfl⟩ : ∃ es', u' = .dir a es' := Node.kind_eq_dir.mp hkind
      have hchild : (Node.child? es' component).isSome = (Node.child? es component).isSome := by
        rw [Node.child?_isSome hat', Node.child?_isSome hat, ← Option.isSome_map, h.kind, Option.isSome_map]
      simp only [hchild]

/-- **The same paths lead to the same places.** -/
theorem SamePlaces.locate (h : SamePlaces t t') (path : Text) : t'.locate path = t.locate path := by
  rw [Tree.locate, follow_samePlaces h.root, h.here, Tree.locate]

theorem find_eq_ok : t.find path = .ok n ↔ ∃ place, t.locate path = .ok place ∧ t.root.at? place = some n := by
  unfold find
  cases hlocate : t.locate path with
  | error fault => simp [bind, Except.bind]
  | ok place =>
    cases hat : t.root.at? place <;>
      simp [bind, Except.bind, pure, Except.pure, throw, throwThe, MonadExceptOf.throw, hat]

theorem read_eq_ok : t.read path = .ok c ↔
    ∃ place a, t.locate path = .ok place ∧ t.root.at? place = some (.file a c) ∧ a.read := by
  have hfind : t.read path = .ok c ↔ ∃ a, t.find path = .ok (.file a c) ∧ a.read := by
    unfold read
    cases hfind : t.find path with
    | error fault => simp [bind, Except.bind]
    | ok n =>
      cases n with
      | file b d =>
        by_cases hread : b.read <;>
          simp [bind, Except.bind, pure, Except.pure, throw, throwThe, MonadExceptOf.throw, hread]
      | dir a es => simp [bind, Except.bind, throw, throwThe, MonadExceptOf.throw]
  rw [hfind]
  constructor
  · rintro ⟨a, ha, hread⟩
    obtain ⟨place, hlocate, hat⟩ := find_eq_ok.mp ha
    exact ⟨place, a, hlocate, hat, hread⟩
  · rintro ⟨place, a, hlocate, hat, hread⟩
    exact ⟨a, find_eq_ok.mpr ⟨place, hlocate, hat⟩, hread⟩

/-- A path that leads somewhere leads to a node of the same kind in both trees. -/
theorem SamePlaces.find (h : SamePlaces t t') (hn : t.find path = .ok n) :
    ∃ n', t'.find path = .ok n' ∧ n'.kind = n.kind ∧ n'.WalksIn n := by
  obtain ⟨place, hlocate, hat⟩ := find_eq_ok.mp hn
  obtain ⟨n', hat', hkind⟩ := h.root.exists_at? hat
  exact ⟨n', find_eq_ok.mpr ⟨place, (h.locate path).trans hlocate, hat'⟩, hkind, h.root.walks place n n' hat hat'⟩

theorem isDir_iff : t.isDir path = true ↔ ∃ place, t.locate path = .ok place ∧
    (t.root.at? place).map Node.isFile = some false := by
  have hfind : t.isDir path = true ↔ ∃ n, t.find path = .ok n ∧ n.isFile = false := by
    unfold isDir
    cases t.find path <;> simp
  rw [hfind]
  constructor
  · rintro ⟨n, hn, hkind⟩
    obtain ⟨place, hlocate, hat⟩ := find_eq_ok.mp hn
    exact ⟨place, hlocate, by rw [hat, Option.map_some, hkind]⟩
  · rintro ⟨place, hlocate, hkind⟩
    obtain ⟨n, hat, hfile⟩ := Option.map_eq_some_iff.mp hkind
    exact ⟨n, find_eq_ok.mpr ⟨place, hlocate, hat⟩, hfile⟩

theorem SamePlaces.isDir (h : SamePlaces t t') (path : Text) : t'.isDir path = t.isDir path := by
  have hfile : ∀ place, (t'.root.at? place).map Node.isFile = (t.root.at? place).map Node.isFile := by
    intro place
    have hkind := congrArg (Option.map Prod.fst) (h.root.kind place)
    rwa [Option.map_map, Option.map_map] at hkind
  rw [Bool.eq_iff_iff, isDir_iff, isDir_iff]
  simp only [h.locate, hfile]

/-! ## Writing -/

/-- The path leads to a file or directory that the user may write. -/
def MayWrite (t : Tree) (path : Text) : Prop := ∃ n, t.find path = .ok n ∧ n.access.write = true

theorem mayWrite_iff (hlocate : t.locate path = .ok place) (hat : t.root.at? place = some n) :
    t.MayWrite path ↔ n.access.write = true := by
  have hfind : t.find path = .ok n := find_eq_ok.mpr ⟨place, hlocate, hat⟩
  simp [MayWrite, hfind]

theorem SamePlaces.mayWrite (h : SamePlaces t t') (path : Text) : t'.MayWrite path ↔ t.MayWrite path := by
  have hkind : ∀ u : Tree, u.MayWrite path ↔ ∃ place, u.locate path = .ok place ∧
      ∃ k, (u.root.at? place).map Node.kind = some k ∧ k.2.write = true := by
    intro u
    constructor
    · rintro ⟨n, hn, hwrite⟩
      obtain ⟨place, hlocate, hat⟩ := find_eq_ok.mp hn
      exact ⟨place, hlocate, n.kind, by rw [hat, Option.map_some], hwrite⟩
    · rintro ⟨place, hlocate, k, hk, hwrite⟩
      obtain ⟨n, hat, rfl⟩ := Option.map_eq_some_iff.mp hk
      exact ⟨n, find_eq_ok.mpr ⟨place, hlocate, hat⟩, hwrite⟩
  rw [hkind, hkind]
  simp only [h.locate, h.root.kind]

/-- **Replacing the content of a file keeps the places of a tree.** -/
theorem samePlaces_put (hat : t.root.at? place = some (.file a c)) (c' : Text) :
    SamePlaces t (t.put place (.file a c')) :=
  ⟨Node.samePlaces_put hat c', rfl⟩

/-- **A file that is there is written if the user may write it**, and writing it fails if not. -/
theorem write_eq (hlocate : t.locate path = .ok place) (hat : t.root.at? place = some (.file a c)) (c' : Text)
    (b : Access) :
    t.write path c' b = if a.write then .ok (t.put place (.file a c')) else .error .denied := by
  simp only [write, hlocate, hat]

end Tree

end HouseStyle
