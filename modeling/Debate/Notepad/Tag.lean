import Debate.Text.Split
import Debate.Text.Word

/-!
# Tags in a text

A tag starts with `<np-` in any case and a name of Basic Latin letters, digits, low lines and
hyphens. Its head runs up to the first `>` outside double quotes. A head that ends with `/` is the
whole tag; otherwise the tag's content runs up to the first closing tag of the same name, in any
case. What is not well formed is plain text.

* `Tag`           a tag as it was written, in its parts;
* `Tag.written`   the parts put together again;
* `Tag.name`, `Tag.attribute?`   the name in lower case, and the value of an attribute;
* `Tag.read?`     the tag at the start of a text, and what follows it;
* `pieces`        a text as its plain characters and tags, in order.

Nothing is lost: the tag read and what follows it are the text (`Tag.written_append_of_read?`), and
so are all pieces together (`flatMap_written_pieces`).
-/

namespace Debate.Notepad

open Debate.Text

/-! ## letters -/

/-- the lower case of a letter of Basic Latin, and of the Kelvin sign, whose lower case is a letter
of Basic Latin too -/
def foldCase (c : Char) : Char := if c = '\u212a' then 'k' else c.toLower

/-- the characters of names -/
def isNameChar (c : Char) : Bool := c.isAlphanum || c == '_' || c == '-'

/-- the text after one that it starts with in any case, and the way that one is written -/
def dropFolded? : List Char → List Char → Option (List Char × List Char)
  | [], cs => some ([], cs)
  | _ :: _, [] => none
  | l :: ls, c :: cs =>
    if foldCase c = l then (dropFolded? ls cs).map fun r => (c :: r.1, r.2) else none

theorem append_of_dropFolded? {l cs : List Char} {r : List Char × List Char}
    (h : dropFolded? l cs = some r) : r.1 ++ r.2 = cs ∧ r.1.length = l.length := by
  induction l generalizing cs r with
  | nil => simp only [dropFolded?, Option.some.injEq] at h; simp [← h]
  | cons a l ih =>
    cases cs with
    | nil => simp [dropFolded?] at h
    | cons c cs =>
      rw [dropFolded?] at h
      split at h
      · obtain ⟨r', hr', rfl⟩ := Option.map_eq_some_iff.1 h
        obtain ⟨h1, h2⟩ := ih hr'
        simp [h1, h2]
      · cases h

/-! ## the parts of a tag -/

/-- what every tag starts with, in lower case -/
def opener : List Char := ['<', 'n', 'p', '-']

/-- a tag as it was written -/
structure Tag where
  /-- the four characters in front of the name -/
  opening : List Char
  /-- the name as it was written -/
  nameText : List Char
  /-- what stands between the name and the end of the head -/
  head : List Char
  /-- what stands between the head and the closing tag -/
  content : List Char
  /-- the closing tag, empty for a tag without content -/
  closing : List Char
  deriving DecidableEq, Repr

namespace Tag

/-- a tag in the text -/
def written (t : Tag) : List Char :=
  t.opening ++ t.nameText ++ t.head ++ '>' :: t.content ++ t.closing

/-- the name in lower case -/
def name (t : Tag) : String := String.ofList (t.nameText.map Char.toLower)

/-- what closes a tag of the given name, in lower case -/
def closer (nameText : List Char) : List Char :=
  ['<', '/', 'n', 'p', '-'] ++ nameText.map Char.toLower ++ ['>']

/-- whether a head is the whole tag -/
def endsTag (head : List Char) : Bool := head.getLast? = some '/'

/-! ## attributes -/

/-- the attribute at the start of a text: word characters, an equals sign and a quoted value -/
def readAttribute? (cs : List Char) : Option ((List Char × List Char) × List Char) :=
  let key := cs.takeWhile isWordChar
  if key.isEmpty then none
  else
    match cs.dropWhile isWordChar with
    | '=' :: '\"' :: rest =>
      match rest.dropWhile (· ≠ '\"') with
      | _ :: after => some ((key, rest.takeWhile (· ≠ '\"')), after)
      | [] => none
    | _ => none

theorem length_dropWhile_le {α : Type} (p : α → Bool) (xs : List α) :
    (xs.dropWhile p).length ≤ xs.length := (List.dropWhile_sublist p).length_le

theorem length_of_readAttribute? {cs : List Char} {r : (List Char × List Char) × List Char}
    (h : readAttribute? cs = some r) : r.2.length < cs.length := by
  unfold readAttribute? at h
  dsimp only at h
  split at h
  · cases h
  · split at h
    · rename_i rest hrest
      split at h
      · rename_i c after hafter
        cases h
        have h1 := length_dropWhile_le isWordChar cs
        have h2 := length_dropWhile_le (· ≠ '\"') rest
        rw [hrest] at h1
        rw [hafter] at h2
        simp only [List.length_cons] at h1 h2
        dsimp only
        omega
      · cases h
    · cases h

/-- the attributes in a text, from left to right; what is no attribute is passed over -/
def attributesIn : List Char → List (List Char × List Char)
  | [] => []
  | c :: cs =>
    match _h : readAttribute? (c :: cs) with
    | some r => r.1 :: attributesIn r.2
    | none => attributesIn cs
  termination_by cs => cs.length
  decreasing_by
    · exact length_of_readAttribute? _h
    · simp

/-- the attributes of a tag -/
def attributes (t : Tag) : List (List Char × List Char) :=
  attributesIn (if endsTag t.head then t.head.dropLast else t.head)

/-- the value of an attribute; of two with one key the later counts -/
def attribute? (t : Tag) (key : String) : Option String :=
  (t.attributes.reverse.find? fun a => a.1 = key.toList).map fun a => String.ofList a.2

/-! ## reading -/

/-- a head up to the first `>` outside double quotes, and what follows that -/
def cutHead? (inQuotes : Bool) : List Char → Option (List Char × List Char)
  | [] => none
  | c :: cs =>
    if c = '>' ∧ inQuotes = false then some ([], cs)
    else (cutHead? (if c = '\"' then !inQuotes else inQuotes) cs).map fun r => (c :: r.1, r.2)

/-- a content up to the first place where the closer stands, the closer as it is written, and what
follows it -/
def cutContent? (close : List Char) : List Char → Option (List Char × List Char × List Char)
  | [] => none
  | c :: cs =>
    match dropFolded? close (c :: cs) with
    | some (w, rest) => some ([], w, rest)
    | none => (cutContent? close cs).map fun r => (c :: r.1, r.2)

/-- the tag at the start of a text, and what follows it -/
def read? (cs : List Char) : Option (Tag × List Char) := do
  let (opening, rest) ← dropFolded? opener cs
  let nameText := rest.takeWhile isNameChar
  if nameText.isEmpty then none
  else
    let (head, rest) ← cutHead? false (rest.dropWhile isNameChar)
    if endsTag head then some (⟨opening, nameText, head, [], []⟩, rest)
    else
      let (content, closing, rest) ← cutContent? (closer nameText) rest
      some (⟨opening, nameText, head, content, closing⟩, rest)

theorem append_of_cutHead? {q : Bool} {cs : List Char} {r : List Char × List Char}
    (h : cutHead? q cs = some r) : r.1 ++ '>' :: r.2 = cs := by
  induction cs generalizing q r with
  | nil => simp [cutHead?] at h
  | cons c cs ih =>
    rw [cutHead?] at h
    split at h
    · rename_i hc
      cases h
      simp [hc.1]
    · obtain ⟨r', hr', rfl⟩ := Option.map_eq_some_iff.1 h
      simp [ih hr']

theorem append_of_cutContent? {close cs : List Char} {r : List Char × List Char × List Char}
    (h : cutContent? close cs = some r) : r.1 ++ (r.2.1 ++ r.2.2) = cs := by
  induction cs generalizing r with
  | nil => simp [cutContent?] at h
  | cons c cs ih =>
    rw [cutContent?] at h
    split at h
    · rename_i w rest hw
      cases h
      simpa using (append_of_dropFolded? hw).1
    · obtain ⟨r', hr', rfl⟩ := Option.map_eq_some_iff.1 h
      simp [ih hr']

/-- a tag that was read and what follows it are the text -/
theorem written_append_of_read? {cs rest : List Char} {t : Tag}
    (h : read? cs = some (t, rest)) : t.written ++ rest = cs := by
  simp only [read?, Option.bind_eq_bind, Option.bind_eq_some_iff] at h
  obtain ⟨⟨opening, r1⟩, ho, h⟩ := h
  dsimp only at h
  split at h
  · cases h
  · simp only [Option.bind_eq_some_iff] at h
    obtain ⟨⟨head, r2⟩, hh, h⟩ := h
    dsimp only at h
    have e1 := (append_of_dropFolded? ho).1
    have e2 := append_of_cutHead? hh
    dsimp only at e1 e2
    have e3 : r1.takeWhile isNameChar ++ r1.dropWhile isNameChar = r1 :=
      List.takeWhile_append_dropWhile
    rw [← e2] at e3
    generalize r1.takeWhile isNameChar = nameText at h e3
    split at h
    · simp only [Option.some.injEq, Prod.mk.injEq] at h
      obtain ⟨rfl, rfl⟩ := h
      rw [← e1, ← e3]
      simp [written]
    · simp only [Option.bind_eq_some_iff] at h
      obtain ⟨⟨content, closing, r3⟩, hc, h⟩ := h
      simp only [Option.some.injEq, Prod.mk.injEq] at h
      obtain ⟨rfl, rfl⟩ := h
      have e4 := append_of_cutContent? hc
      dsimp only at e4
      rw [← e1, ← e3, ← e4]
      simp [written]

theorem length_of_read? {cs rest : List Char} {t : Tag} (h : read? cs = some (t, rest)) :
    rest.length < cs.length := by
  rw [← written_append_of_read? h, List.length_append]
  simp only [written, List.length_append, List.length_cons]
  omega

end Tag

/-! ## pieces -/

/-- a plain character or a tag -/
inductive Piece where
  | plain (c : Char)
  | tag (t : Tag)
  deriving DecidableEq, Repr

namespace Piece

/-- a piece in the text -/
def written : Piece → List Char
  | .plain c => [c]
  | .tag t => t.written

/-- the character of a plain piece -/
def plain? : Piece → Option Char
  | .plain c => some c
  | .tag _ => none

/-- the tag of a piece that is one -/
def tag? : Piece → Option Tag
  | .plain _ => none
  | .tag t => some t

end Piece

/-- the pieces of a text, from left to right -/
def pieces : List Char → List Piece
  | [] => []
  | c :: cs =>
    match _h : Tag.read? (c :: cs) with
    | some r => .tag r.1 :: pieces r.2
    | none => .plain c :: pieces cs
  termination_by cs => cs.length
  decreasing_by
    · exact Tag.length_of_read? _h
    · simp

/-- the tags of a text -/
def tags (cs : List Char) : List Tag := (pieces cs).filterMap Piece.tag?

/-- a text without its tags -/
def residual (cs : List Char) : List Char := (pieces cs).filterMap Piece.plain?

theorem flatMap_written_pieces (cs : List Char) : (pieces cs).flatMap Piece.written = cs := by
  fun_induction pieces cs with
  | case1 => rfl
  | case2 c cs r h ih =>
    rw [List.flatMap_cons, ih]
    exact Tag.written_append_of_read? h
  | case3 c cs h ih =>
    rw [List.flatMap_cons, ih]
    rfl

end Debate.Notepad
