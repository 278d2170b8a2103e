import HouseStyle.Text.Basic

/-!
# Paths

Slash-separated paths as texts: base name, extension, normal form, and the components of a path.
-/

namespace HouseStyle.Path

/-- The slash between components. -/
def slash : UInt8 := Text.byte '/'

/-- The part of a path up to its last slash, that slash included, and the part after it. -/
def split (path : Text) : Text × Text :=
  let file := (path.reverse.takeWhile (· != slash)).reverse
  (path.take (path.length - file.length), file)

/-- The path without slashes at its end. -/
def dropSlashes (path : Text) : Text := (path.reverse.dropWhile (· == slash)).reverse

/-- The last component of a path: `.` for the empty path, `/` for a path of slashes only. -/
def base (path : Text) : Text :=
  if path.isEmpty then "."
  else
    let name := (split (dropSlashes path)).2
    if name.isEmpty then "/" else name

/-- The extension of a path: the text from the last point of its last component on. -/
def ext (path : Text) : Text :=
  let name := (split path).2
  match name.lastIndexOf? '.' with
  | some i => name.drop i
  | none => []

/-- Resolves `.` and `..` in a list of components; `out` holds the components so far in reverse. -/
def resolve (rooted : Bool) : (out : List Text) → List Text → List Text
  | out, [] => out.reverse
  | out, c :: rest =>
    if c.isEmpty || c == Text.ofString "." then resolve rooted out rest
    else if c == Text.ofString ".." then
      match out with
      | [] => resolve rooted (if rooted then [] else [c]) rest
      | top :: below => resolve rooted (if top == Text.ofString ".." then c :: out else below) rest
    else resolve rooted (c :: out) rest

/-- The shortest path that names the same file: no empty components, no `.`, and `..` only at the front. -/
def clean (path : Text) : Text :=
  let rooted := path.startsWith "/"
  let parts := Text.join "/" (resolve rooted [] (path.pieces '/'))
  if rooted then "/" ++ parts else if parts.isEmpty then "." else parts

/-- The path of `name` below the directory `dir`. -/
def below (dir name : Text) : Text := clean (dir ++ "/" ++ name)

/-! ## Components -/

/-- The component after the last slash of a path, unless it is empty. -/
def part? (path : Text) : Option Text := Option.guard (!·.isEmpty) (split path).2

/-- The path before the last slash, unless nothing stands there or it is the whole path. -/
def parent? (path : Text) : Option Text :=
  Option.guard (fun dir => !dir.isEmpty && dir != path) ((split path).1.trimSuffix "/")

theorem trimSuffix_split_prefix (path s : Text) : (split path).1.trimSuffix s <+: path := by
  have hsplit : (split path).1 <+: path := List.take_prefix _ _
  rw [Text.trimSuffix, Text.beforeSuffix?]
  split
  · exact (List.take_prefix _ _).trans hsplit
  · exact hsplit

/-- A path is longer than the path before its last slash. -/
theorem length_lt_of_parent? {path dir : Text} (h : parent? path = some dir) : dir.length < path.length := by
  rw [parent?, Option.guard_eq_some_iff, Bool.and_eq_true, bne_iff_ne] at h
  obtain ⟨rfl, -, hne⟩ := h
  have hpre := trimSuffix_split_prefix path "/"
  exact Nat.lt_of_le_of_ne hpre.length_le fun hlength => hne (hpre.eq_of_length hlength)

/-- The components of a path, last one first: the part after the last slash is taken off again and again. -/
def parts (path : Text) : List Text :=
  match h : parent? path with
  | none => (part? path).toList
  | some dir =>
    have := length_lt_of_parent? h
    (part? path).toList ++ parts dir
termination_by path.length

end HouseStyle.Path
