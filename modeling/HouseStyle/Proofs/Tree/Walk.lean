import Mathlib.Data.List.Induction
import Mathlib.Data.List.Lex
import HouseStyle.Proofs.Text.Order
import HouseStyle.Proofs.Tree.Write

/-!
# Walking a tree

A directory holds its entries in byte order of their names, each name once (`Ordered`). The trees that are built from
files are ordered (`Tree.ordered_ofFiles`).

* The places of the files of an ordered tree, listed as a walk comes to them, are **all the places of files**
  (`mem_filePlaces`) **in lexical order** (`pairwise_filePlaces`).
* A walk that skips directories finds **the files that are wanted and have no skipped directory above them, up to the
  root** (`walk_eq`, `reaches_iff`): leaving a directory out and leaving out its files come to the same.
* **A walk meets no barrier exactly if it can list every directory that it goes into and go through those with a
  directory to go into** (`barrier?_eq_none`).
-/

namespace HouseStyle.Node

variable {n u : Node} {name : Text} {a : Access} {es : List (Text × Node)} {p q place : List Text}
  {skipped wanted : Text → Bool} {path : Text}

/-- Induction over the nodes of a tree: a directory is settled once its entries are. -/
theorem ind {motive : Node → Prop} (file : ∀ a c, motive (.file a c))
    (dir : ∀ a es, (∀ e ∈ es, motive e.2) → motive (.dir a es)) : ∀ n, motive n
  | .file a c => file a c
  | .dir a es => dir a es fun (_, u) _ => ind file dir u
termination_by n => sizeOf n
decreasing_by
  next he =>
    have hlt := List.sizeOf_lt_of_mem he
    simp only [Prod.mk.sizeOf_spec, Node.dir.sizeOf_spec] at hlt ⊢
    omega

/-! ## Ordered trees -/

/-- The entries have rising names. -/
def Rising (es : List (Text × Node)) : Prop := es.Pairwise fun e e' => Text.less e.1 e'.1

/-- Every directory holds entries with rising names. -/
def Ordered (n : Node) : Prop := ∀ place a es, n.at? place = some (.dir a es) → Rising es

theorem child?_of_mem (h : Rising es) (hmem : (name, u) ∈ es) : child? es name = some u := by
  induction es with
  | nil => cases hmem
  | cons e es ih =>
    obtain ⟨n, v⟩ := e
    obtain ⟨hfirst, hrest⟩ := List.pairwise_cons.mp h
    rw [child?_cons]
    rcases List.mem_cons.mp hmem with heq | hmem
    · cases heq
      rw [if_pos rfl]
    · have hne : n ≠ name := by
        rintro rfl
        have hless := hfirst _ hmem
        rw [Text.less_irrefl] at hless
        cases hless
      rw [if_neg hne, ih hrest hmem]

theorem at?_entry (h : Rising es) (he : (name, u) ∈ es) (place : List Text) :
    (dir a es).at? (name :: place) = u.at? place := by
  rw [at?, child?_of_mem h he]
  rfl

theorem ordered_file (a : Access) (c : Text) : Ordered (.file a c) := by
  intro place b es h
  cases (at?_file h).2

theorem ordered_dir : Ordered (.dir a es) ↔ Rising es ∧ ∀ e ∈ es, e.2.Ordered := by
  constructor
  · intro h
    have hrising := h [] a es rfl
    refine ⟨hrising, fun e he place b es' hat => h (e.1 :: place) b es' ?_⟩
    rw [at?_entry hrising he]
    exact hat
  · rintro ⟨hrising, hentries⟩ place b es' hat
    cases place with
    | nil =>
      cases hat
      exact hrising
    | cons name place =>
      obtain ⟨_, es, v, hes, hv, hat⟩ := at?_cons hat
      cases hes
      exact hentries _ (mem_of_child? hv) place b es' hat

/-- What stands at a place of an ordered node is ordered. -/
theorem Ordered.at? (h : n.Ordered) (hat : n.at? p = some u) : u.Ordered := by
  intro place b es hes
  refine h (p ++ place) b es ?_
  rw [at?_append, hat]
  exact hes

theorem Ordered.entries (h : n.Ordered) : Rising n.entries ∧ ∀ e ∈ n.entries, e.2.Ordered := by
  cases n with
  | file a c => exact ⟨List.Pairwise.nil, by simp [Node.entries]⟩
  | dir a es => exact ordered_dir.mp h

theorem rising_putEntry (h : Rising es) (name : Text) (u : Node) : Rising (putEntry name u es) := by
  induction es with
  | nil => exact List.pairwise_singleton _ _
  | cons e es ih =>
    obtain ⟨m, v⟩ := e
    obtain ⟨hfirst, hrest⟩ := List.pairwise_cons.mp h
    rw [putEntry]
    by_cases hm : m = name
    · subst hm
      rw [if_pos (beq_self_eq_true m)]
      exact List.pairwise_cons.mpr ⟨hfirst, hrest⟩
    · rw [if_neg (by simpa using hm)]
      by_cases hless : Text.less name m
      · rw [if_pos hless]
        refine List.pairwise_cons.mpr ⟨fun e he => ?_, h⟩
        rcases List.mem_cons.mp he with rfl | he
        · exact hless
        · exact Text.less_trans hless (hfirst e he)
      · rw [if_neg hless]
        have hafter : Text.less m name := by
          by_contra hnot
          exact hm (Text.eq_of_not_less (by simpa using hnot) (by simpa using hless))
        refine List.pairwise_cons.mpr ⟨fun e he => ?_, ih hrest⟩
        rcases mem_putEntry he with rfl | he
        · exact hafter
        · exact hfirst e he

/-- Putting an ordered node into an ordered node keeps the order. -/
theorem Ordered.put (h : n.Ordered) (hu : u.Ordered) (place : List Text) : (n.put place u).Ordered := by
  induction place generalizing n with
  | nil => exact hu
  | cons name place ih =>
    obtain ⟨hrising, hentries⟩ := h.entries
    have hchild : ((child? n.entries name).getD empty).Ordered := by
      cases hfind : child? n.entries name with
      | none => exact ordered_dir.mpr ⟨List.Pairwise.nil, by simp⟩
      | some v => exact hentries _ (mem_of_child? hfind)
    rw [Node.put, ordered_dir]
    refine ⟨rising_putEntry hrising _ _, fun e he => ?_⟩
    rcases mem_putEntry he with rfl | he
    · exact ih hchild
    · exact hentries e he

theorem ordered_empty : Ordered empty := ordered_dir.mpr ⟨List.Pairwise.nil, by simp⟩

/-- The directory with given files is ordered. -/
theorem ordered_ofFiles (files : List (Text × Text)) : (ofFiles files).Ordered := by
  unfold ofFiles
  induction files using List.reverseRecOn with
  | nil => exact ordered_empty
  | append_singleton files file ih =>
    rw [List.foldl_append, List.foldl_cons, List.foldl_nil]
    generalize List.foldl _ empty files = n at ih
    refine ih.put ?_ _
    split
    · cases hat : n.at? ((file.1.pieces '/').filter (!·.isEmpty)) with
      | none => exact ordered_empty
      | some u => exact ih.at? hat
    · exact ordered_file _ _

/-! ## The places of files -/

mutual

/-- The places of the files of a node, in the order of a walk. -/
def filePlaces : Node → List (List Text)
  | .file .. => [[]]
  | .dir _ entries => entryPlaces entries

/-- The places of the files below entries. -/
def entryPlaces : List (Text × Node) → List (List Text)
  | [] => []
  | (name, n) :: rest => (filePlaces n).map (name :: ·) ++ entryPlaces rest

end

/-- The lexical order of places: the first names that differ decide. -/
def Before (p q : List Text) : Prop := List.Lex (fun a b => Text.less a b = true) p q

instance : Std.Asymm Before :=
  haveI : Std.Asymm fun a b : Text => Text.less a b = true := ⟨fun _ _ h => by simp [Text.less_asymm h]⟩
  inferInstanceAs (Std.Asymm (List.Lex _))

theorem mem_entryPlaces : p ∈ entryPlaces es ↔ ∃ e ∈ es, ∃ q ∈ e.2.filePlaces, p = e.1 :: q := by
  induction es with
  | nil => simp [entryPlaces]
  | cons e es ih =>
    obtain ⟨name, u⟩ := e
    simp [entryPlaces, ih, eq_comm]

/-- **The places of the files of an ordered node.** -/
theorem mem_filePlaces (h : n.Ordered) : p ∈ n.filePlaces ↔ ∃ a c, n.at? p = some (.file a c) := by
  induction p generalizing n with
  | nil =>
    cases n with
    | file a c => simp [filePlaces, at?]
    | dir a es => simp [filePlaces, mem_entryPlaces, at?]
  | cons name p ih =>
    cases n with
    | file a c => simp [filePlaces, at?]
    | dir a es =>
      obtain ⟨hrising, hentries⟩ := ordered_dir.mp h
      rw [filePlaces, mem_entryPlaces]
      constructor
      · rintro ⟨e, he, q, hq, heq⟩
        cases heq
        rw [at?_entry hrising he]
        exact (ih (hentries e he)).mp hq
      · rintro ⟨b, c, hc⟩
        obtain ⟨_, es', v, hes, hv, hc⟩ := at?_cons hc
        cases hes
        have hmem := mem_of_child? hv
        exact ⟨_, hmem, p, (ih (hentries _ hmem)).mpr ⟨b, c, hc⟩, rfl⟩

theorem pairwise_entryPlaces (hrising : Rising es) (h : ∀ e ∈ es, e.2.filePlaces.Pairwise Before) :
    (entryPlaces es).Pairwise Before := by
  induction es with
  | nil => exact List.Pairwise.nil
  | cons e es ih =>
    obtain ⟨hfirst, hrest⟩ := List.pairwise_cons.mp hrising
    rw [List.forall_mem_cons] at h
    rw [entryPlaces, List.pairwise_append]
    refine ⟨?_, ih hrest h.2, ?_⟩
    · rw [List.pairwise_map]
      exact h.1.imp fun hlex => List.Lex.cons hlex
    · intro p hp q hq
      obtain ⟨p, -, rfl⟩ := List.mem_map.mp hp
      obtain ⟨e', he', q, -, rfl⟩ := mem_entryPlaces.mp hq
      exact List.Lex.rel (hfirst e' he')

/-- **A walk comes to the files of an ordered node in lexical order.** -/
theorem pairwise_filePlaces (h : n.Ordered) : n.filePlaces.Pairwise Before := by
  induction n using ind with
  | file a c => exact List.pairwise_singleton _ _
  | dir a es ih =>
    obtain ⟨hrising, hentries⟩ := ordered_dir.mp h
    exact pairwise_entryPlaces hrising fun e he => ih e he (hentries e he)

/-! ## Walks -/

/-- The path of a place below the root of a walk. -/
def pathTo (root : Text) (place : List Text) : Text := place.foldl Path.below root

/-- Whether a walk from `root` comes to the file at a place and wants it. -/
def reaches (skipped wanted : Text → Bool) : (root : Text) → (place : List Text) → Bool
  | root, [] => wanted root
  | root, [name] => wanted (Path.below root name)
  | root, name :: rest => !skipped (Path.below root name) && reaches skipped wanted (Path.below root name) rest

/-- **A walk comes to a file exactly if it skips no directory strictly between the root and the file.** -/
theorem reaches_iff : reaches skipped wanted path place ↔
    wanted (pathTo path place) ∧ ∀ q, q ≠ [] → q ≠ place → q <+: place → skipped (pathTo path q) = false := by
  fun_induction reaches skipped wanted path place with
  | case1 path =>
    refine ⟨fun h => ⟨h, fun q hne _ hq => absurd (List.prefix_nil.mp hq) hne⟩, And.left⟩
  | case2 path name =>
    refine ⟨fun h => ⟨h, fun q hne hne' hq => ?_⟩, And.left⟩
    rcases List.prefix_cons_iff.mp hq with rfl | ⟨q', rfl, hq'⟩
    · exact absurd rfl hne
    · rw [List.prefix_nil.mp hq'] at hne'
      exact absurd rfl hne'
  | case3 path name rest hrest ih =>
    rw [Bool.and_eq_true, Bool.not_eq_true', ih]
    constructor
    · rintro ⟨hskip, hwanted, hall⟩
      refine ⟨hwanted, fun q hne hne' hq => ?_⟩
      rcases List.prefix_cons_iff.mp hq with rfl | ⟨q', rfl, hq'⟩
      · exact absurd rfl hne
      · by_cases hnil : q' = []
        · rw [hnil]
          exact hskip
        · exact hall q' hnil (fun h => hne' (by rw [h])) hq'
    · rintro ⟨hwanted, hall⟩
      refine ⟨hall [name] (by simp) ?_ ?_, hwanted, fun q hne hne' hq => ?_⟩
      · intro h
        exact hrest (List.cons.inj h).2.symm
      · exact List.cons_prefix_cons.mpr ⟨rfl, List.nil_prefix⟩
      · exact hall (name :: q) (by simp) (by simpa using hne') (List.cons_prefix_cons.mpr ⟨rfl, hq⟩)

/-- Skipping an entry is leaving out the files below it. -/
theorem filter_reaches (path name : Text) (u : Node) :
    (u.filePlaces.map (name :: ·)).filter (reaches skipped wanted path) =
      if u.isFile || !skipped (Path.below path name) then
        (u.filePlaces.filter (reaches skipped wanted (Path.below path name))).map (name :: ·) else [] := by
  cases u with
  | file a c =>
    have hfile : reaches skipped wanted path [name] = reaches skipped wanted (Path.below path name) [] := rfl
    cases hwanted : reaches skipped wanted (Path.below path name) [] <;>
      simp [filePlaces, isFile, hfile, hwanted]
  | dir a es =>
    have hstep : ∀ q ∈ (dir a es).filePlaces, (reaches skipped wanted path ∘ (name :: ·)) q =
        (!skipped (Path.below path name) && reaches skipped wanted (Path.below path name) q) := by
      intro q hq
      obtain ⟨e, -, q', -, rfl⟩ := mem_entryPlaces.mp hq
      rfl
    rw [List.filter_map, List.filter_congr hstep, isFile, Bool.false_or]
    cases skipped (Path.below path name) <;> simp

mutual

/-- **A walk finds the files that it comes to and wants**, in the order of all files. -/
theorem walk_eq (skipped wanted : Text → Bool) (root : Text) : ∀ n : Node,
    n.walk skipped wanted root = (n.filePlaces.filter (reaches skipped wanted root)).map (pathTo root)
  | .file .. => by
    rw [walk, filePlaces]
    cases h : wanted root <;> simp [reaches, h, pathTo]
  | .dir _ es => walkEntries_eq skipped wanted root es

theorem walkEntries_eq (skipped wanted : Text → Bool) (root : Text) : ∀ es : List (Text × Node),
    walkEntries skipped wanted root es = ((entryPlaces es).filter (reaches skipped wanted root)).map (pathTo root)
  | [] => by
    rw [walkEntries, entryPlaces]
    rfl
  | (name, u) :: es => by
    rw [walkEntries, entryPlaces, List.filter_append, List.map_append, filter_reaches,
      walk_eq skipped wanted (Path.below root name) u, walkEntries_eq skipped wanted root es]
    split
    · rw [List.map_map]
      rfl
    · rfl

end

/-! ## Barriers -/

/-- A walk from `path` goes into what stands at a place: nothing down to it is skipped. -/
def GoesTo (skipped : Text → Bool) (path : Text) (place : List Text) : Prop :=
  ∀ q, q ≠ [] → q <+: place → skipped (pathTo path q) = false

/-- A walk from `path` can list every directory that it goes into, and go through a directory that it finds another one
in. -/
structure Walkable (skipped : Text → Bool) (path : Text) (n : Node) : Prop where
  lists : ∀ place a es, n.at? place = some (.dir a es) → GoesTo skipped path place → a.read = true
  enters : ∀ place name a es b es', n.at? place = some (.dir a es) → n.at? (place ++ [name]) = some (.dir b es') →
    GoesTo skipped path (place ++ [name]) → a.enter = true

theorem goesTo_nil : GoesTo skipped path [] := fun _ hne hq => absurd (List.prefix_nil.mp hq) hne

theorem goesTo_cons : GoesTo skipped path (name :: place) ↔
    skipped (Path.below path name) = false ∧ GoesTo skipped (Path.below path name) place := by
  constructor
  · intro h
    refine ⟨h [name] (by simp) (List.cons_prefix_cons.mpr ⟨rfl, List.nil_prefix⟩), fun q _ hq => ?_⟩
    exact h (name :: q) (by simp) (List.cons_prefix_cons.mpr ⟨rfl, hq⟩)
  · rintro ⟨hskip, hrest⟩ q hne hq
    rcases List.prefix_cons_iff.mp hq with rfl | ⟨q', rfl, hq'⟩
    · exact absurd rfl hne
    · by_cases hnil : q' = []
      · rw [hnil]
        exact hskip
      · exact hrest q' hnil hq'

theorem walkable_file (c : Text) : Walkable skipped path (.file a c) where
  lists place b es hat := by cases (at?_file hat).2
  enters place name b es b' es' hat := by cases (at?_file hat).2

/-- A directory that the walk goes into is gone into from a directory that it goes through, and can be walked itself. -/
theorem Walkable.entry (hwalk : Walkable skipped path (.dir a es)) (h : Rising es) (he : (name, u) ∈ es)
    (hdir : u.isFile = false) (hskip : skipped (Path.below path name) = false) :
    a.enter = true ∧ Walkable skipped (Path.below path name) u := by
  have hgoes : ∀ place, GoesTo skipped (Path.below path name) place → GoesTo skipped path (name :: place) :=
    fun place hplace => goesTo_cons.mpr ⟨hskip, hplace⟩
  have hat := at?_entry (a := a) h he
  cases u with
  | file b c => cases hdir
  | dir b bs =>
    refine ⟨hwalk.enters [] name a es b bs rfl (hat []) (hgoes [] goesTo_nil), ?_, ?_⟩
    · intro place d ds hd hplace
      exact hwalk.lists (name :: place) d ds ((hat place).trans hd) (hgoes place hplace)
    · intro place name' d ds d' ds' hd hd' hplace
      exact hwalk.enters (name :: place) name' d ds d' ds' ((hat place).trans hd) ((hat _).trans hd') (hgoes _ hplace)

/-- What a walk has to do with an entry: nothing if it is a file or skipped, otherwise to go into it. -/
def EntryWalkable (skipped : Text → Bool) (path : Text) (a : Access) (e : Text × Node) : Prop :=
  e.2.isFile = true ∨ skipped (Path.below path e.1) = true ∨
    (a.enter = true ∧ Walkable skipped (Path.below path e.1) e.2)

/-- A directory below an entry is met in the walk of that entry. -/
theorem EntryWalkable.goesTo {b : Access} {bs : List (Text × Node)} (h : EntryWalkable skipped path a (name, u))
    (hat : u.at? place = some (.dir b bs)) (hgoes : GoesTo skipped path (name :: place)) :
    a.enter = true ∧ Walkable skipped (Path.below path name) u ∧ GoesTo skipped (Path.below path name) place := by
  obtain ⟨hskip, hgoes⟩ := goesTo_cons.mp hgoes
  rcases h with hfile | hskip' | ⟨henter, hwalk⟩
  · cases u with
    | file b c => cases (at?_file hat).2
    | dir b bs => cases hfile
  · rw [hskip] at hskip'
    cases hskip'
  · exact ⟨henter, hwalk, hgoes⟩

/-- A directory can be walked if it can be listed and the walk can do with its entries what it has to. -/
theorem walkable_dir (h : Rising es) :
    Walkable skipped path (.dir a es) ↔ a.read = true ∧ ∀ e ∈ es, EntryWalkable skipped path a e := by
  constructor
  · intro hwalk
    refine ⟨hwalk.lists [] a es rfl goesTo_nil, fun e he => ?_⟩
    cases hfile : e.2.isFile with
    | true => exact .inl hfile
    | false =>
      cases hskip : skipped (Path.below path e.1) with
      | true => exact .inr (.inl hskip)
      | false => exact .inr (.inr (hwalk.entry h he hfile hskip))
  · rintro ⟨hread, hentries⟩
    constructor
    · intro place b bs hat hgoes
      cases place with
      | nil =>
        cases hat
        exact hread
      | cons name place =>
        obtain ⟨_, _, u, hes, hu, hat⟩ := at?_cons hat
        cases hes
        obtain ⟨-, hwalk, hgoes⟩ := (hentries _ (mem_of_child? hu)).goesTo hat hgoes
        exact hwalk.lists place b bs hat hgoes
    · intro place name b bs b' bs' hat hat' hgoes
      cases place with
      | nil =>
        cases hat
        obtain ⟨_, _, u, hes, hu, hat'⟩ := at?_cons hat'
        cases hes
        exact ((hentries _ (mem_of_child? hu)).goesTo hat' hgoes).1
      | cons first place =>
        obtain ⟨_, _, u, hes, hu, hat⟩ := at?_cons hat
        cases hes
        rw [List.cons_append, at?_entry h (mem_of_child? hu)] at hat'
        obtain ⟨-, hwalk, hgoes⟩ := (hentries _ (mem_of_child? hu)).goesTo hat' hgoes
        exact hwalk.enters place name b bs b' bs' hat hat' hgoes

/-- **A walk meets no barrier exactly if it can list and go through all directories that it has to.** -/
theorem barrier?_eq_none (h : n.Ordered) : n.barrier? skipped path = none ↔ Walkable skipped path n := by
  induction n using ind generalizing path with
  | file a c => exact iff_of_true rfl (walkable_file c)
  | dir a es ih =>
    obtain ⟨hrising, hentries⟩ := ordered_dir.mp h
    rw [walkable_dir hrising, barrier?]
    cases a.read with
    | false => simp
    | true =>
      rw [if_pos rfl, barrierBelow?_eq_none, eq_self, true_and]
      refine forall₂_congr fun e he => ?_
      rw [ih e he (hentries e he), EntryWalkable]

end HouseStyle.Node

namespace HouseStyle.Tree

/-- Every directory of the tree holds entries with rising names. -/
def Ordered (t : Tree) : Prop := t.root.Ordered

/-- **The tree with given files is ordered.** -/
theorem ordered_ofFiles (files : List (Text × Text)) : (ofFiles files).Ordered :=
  Node.ordered_empty.put (Node.ordered_ofFiles files) workplace

end HouseStyle.Tree
