/-!
# Path patterns

In a path pattern `*` stands for any run of characters, slashes included, and `?` for one character;
neither takes a line feed.  Every other character stands for itself.  A recursive pattern also
covers what is below the paths that it matches.

A pattern is followed through a path by its residuals: the ends of the pattern that may still have
to match the rest of the path.
-/

namespace Regrant

namespace PathPattern

/-- One character of a pattern. -/
inductive Piece where
  | anyRun
  | anyChar
  | exactly (c : Char)
deriving DecidableEq

def pieceOf : Char → Piece
  | '*' => .anyRun
  | '?' => .anyChar
  | c => .exactly c

def pieces (pattern : String) : List Piece := pattern.toList.map pieceOf

/-- The residuals of a pattern before it has taken anything: its leading runs may be empty. -/
def residuals : List Piece → List (List Piece)
  | .anyRun :: ps => (.anyRun :: ps) :: residuals ps
  | ps => [ps]

/-- The residuals of a residual once it has taken a character. -/
def after (c : Char) : List Piece → List (List Piece)
  | .anyRun :: ps => if c = '\n' then [] else residuals (.anyRun :: ps)
  | .anyChar :: ps => if c = '\n' then [] else residuals ps
  | .exactly d :: ps => if c = d then residuals ps else []
  | [] => []

/-- The residuals after a whole path. -/
def follow : List (List Piece) → List Char → List (List Piece)
  | rs, [] => rs
  | rs, c :: cs => follow (rs.flatMap (after c)).eraseDups cs

/-- The pieces take the whole path. -/
def accepts (ps : List Piece) (path : List Char) : Bool :=
  (follow (residuals ps) path).contains []

end PathPattern

/-- A path pattern as the alternatives that it stands for. -/
structure PathPattern where
  alternatives : List (List PathPattern.Piece)

namespace PathPattern

/-- A recursive pattern that does not end with `*` also covers everything below. -/
def ofText (pattern : String) (recursive : Bool) : PathPattern :=
  let ps := pieces pattern
  if !recursive || pattern.toList.getLast? == some '*' then ⟨[ps]⟩
  else if pattern.toList.getLast? == some '/' then ⟨[ps ++ [.anyRun]]⟩
  else ⟨[ps, ps ++ [.exactly '/', .anyRun]]⟩

def matchesPath (p : PathPattern) (path : String) : Bool :=
  p.alternatives.any (fun ps => accepts ps path.toList)

end PathPattern

end Regrant
