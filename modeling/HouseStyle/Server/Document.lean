import HouseStyle.Text.Basic

/-!
# Open documents

The documents that an editor has open, each under its URI.
-/

namespace HouseStyle.Server

/-- An open document. -/
structure Document where
  uri : Text
  version : Int
  content : Text
  deriving DecidableEq

/-- The open documents, at most one for each URI. -/
abbrev Store := List Document

namespace Store

/-- The document with this URI. -/
def get? (s : Store) (uri : Text) : Option Document := s.find? (·.uri == uri)

/-- The store without the document of this URI. -/
def close (s : Store) (uri : Text) : Store := s.filter (·.uri != uri)

/-- The store with this document, which replaces the one of its URI. -/
def put (s : Store) (d : Document) : Store := close s d.uri ++ [d]

/-- The URIs of the open documents in byte order. -/
def uris (s : Store) : List Text := (s.map (·.uri)).mergeSort fun a b => !Text.less b a

/-! ## What the operations do to look-ups -/

theorem get?_close (s : Store) (uri other : Text) :
    get? (close s uri) other = if other = uri then none else get? s other := by
  induction s with
  | nil => simp [get?, close]
  | cons d rest ih => grind [get?, close]

theorem get?_put (s : Store) (d : Document) (uri : Text) :
    get? (put s d) uri = if uri = d.uri then some d else get? s uri := by
  have h := get?_close s d.uri uri
  grind [put, get?]

end Store

end HouseStyle.Server
