/-!
# Joining two sorted lists

`mergeJoin` pairs equal members of two sorted lists in one pass.  Every member is used at most once:
a key that occurs several times on both sides pairs its first occurrences, then its second ones,
and so on.
-/

namespace Regrant

variable {α β : Type}

def mergeJoin (cmp : α → β → Ordering) : List α → List β → List (α × β)
  | [], _ => []
  | _, [] => []
  | a :: as, b :: bs =>
    match cmp a b with
    | .lt => mergeJoin cmp as (b :: bs)
    | .gt => mergeJoin cmp (a :: as) bs
    | .eq => (a, b) :: mergeJoin cmp as bs
termination_by as bs => as.length + bs.length

end Regrant
