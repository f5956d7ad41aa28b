import Regrant.SortedMap

/-!
# Inclusion between roles

A role may include others.  `Inclusions.close` adds what is included through others: it takes the
roles that include anything one after the other and leads every route through them.
-/

namespace Regrant

/-- The roles that each role includes, in order and without repeats. -/
abbrev Inclusions := SortedMap String (List String)

namespace Inclusions

def ofList (l : List (String × List String)) : Inclusions :=
  SortedMap.ofList (l.map (fun e => (e.1, sortedDistinct e.2)))

/-- The role includes the other. -/
def includes (i : Inclusions) (role other : String) : Bool :=
  ((i.get? role).getD []).contains other

/-- What includes `pivot` also includes what `pivot` includes. -/
def through (pivot : String) (i : Inclusions) : Inclusions :=
  i.map fun included =>
    if included.contains pivot then sortedDistinct (included ++ (i.get? pivot).getD [])
    else included

/-- The transitive closure, with the same roles as keys. -/
def close (direct : Inclusions) : Inclusions :=
  direct.keys.foldl (fun i pivot => i.through pivot) direct

end Inclusions

end Regrant
