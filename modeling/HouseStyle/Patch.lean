import HouseStyle.Text.Basic

/-!
# Patches

The lines in which a file and its fixed form differ. Fixing white space neither adds nor removes lines, so lines pair up
one to one.
-/

namespace HouseStyle.Patch

/-- The hunks for two lists of lines that begin at line number `n`. A line without a partner is removed. -/
def hunks : (n : Nat) → List Text → List Text → Text
  | _, [], _ => []
  | n, a :: as, [] => "-" ++ a ++ "\n" ++ hunks (n + 1) as []
  | n, a :: as, b :: bs =>
    if a = b then hunks (n + 1) as bs
    else
      "@@ -" ++ Text.ofNat n ++ " +" ++ Text.ofNat n ++ " @@\n" ++ "-" ++ a ++ "\n" ++ "+" ++ b ++ "\n" ++
        hunks (n + 1) as bs

/-- The patch from one content of a file to another. -/
def render (path before after : Text) : Text :=
  "--- " ++ path ++ "\n" ++ "+++ " ++ path ++ "\n" ++ hunks 1 (before.pieces '\n') (after.pieces '\n')

end HouseStyle.Patch
