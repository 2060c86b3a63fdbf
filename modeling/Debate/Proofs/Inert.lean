import Debate.Proofs.Documented
import Debate.Proofs.Legible

/-!
# Attributes that change nothing

An attribute that a tag has no use for should change nothing, wherever it is put between the others. But
the reader does not read a key as it is written: it takes the word in front of the equals sign, whatever
the key starts with. So a key that ends with a word that a tag has a use for, behind a hyphen or a dot,
counts as that word. And if the key ends with no word at all, the value is passed over; one that ends like
a key then makes the reader take the quote behind it for the start of another value, and the attribute
that follows is lost. Every other attribute changes nothing.

* `IsKey`                     a key as it may be written;
* `Slot.IsOpen`               a place between the attributes in a head, with blanks for one more;
* `Slot.IsOpen.stands`        a tag stands where it stood when an attribute is put there;
* `Slot.IsOpen.attributes`    the attribute is read between the others;
* `Tag.edit_congr`            what of a tag its edit depends on;
* `Finished`                  a text in which what looks like the start of a tag belongs to one;
* `Reply.read_congr`          a tag in place of another one with the same edit;
* `Inert`                     an attribute that changes nothing, in any tag of any reply;
* `not_inert_of_used`, `not_inert_of_misread`   two kinds of attributes that do change something;
* `inert_iff`                 there are no others.
-/

namespace Debate.Notepad

open Debate.Text

/-! ## an attribute put into a head -/

/-- the characters of keys: no white space, quotes, equals signs, angle brackets or slashes -/
def isKeyChar (c : Char) : Bool :=
  !isBlank c && decide (c ∉ ['\"', '\'', '=', '<', '>', '/'])

/-- a key as it may be written -/
structure IsKey (key : List Char) : Prop where
  named : key ≠ []
  chars : ∀ c ∈ key, isKeyChar c = true

theorem IsKey.not_mem {key : List Char} (h : IsKey key) {c : Char} (hc : isKeyChar c = false) :
    c ∉ key := by
  intro hmem
  rw [h.chars c hmem] at hc
  cases hc

theorem isKey_of_all {key : List Char} (hne : key ≠ []) (h : key.all isKeyChar = true) : IsKey key :=
  ⟨hne, List.all_eq_true.mp h⟩

/-- a head cut at a place, and the blanks with which an attribute is put there -/
structure Slot where
  before : List Char
  left : List Char
  right : List Char
  after : List Char

namespace Slot

/-- the head without the attribute -/
def closed (s : Slot) : List Char := s.before ++ s.after

/-- the attribute with the blanks around it -/
def inserted (s : Slot) (key value : List Char) : List Char :=
  s.left ++ (key ++ '=' :: '\"' :: (value ++ '\"' :: s.right))

/-- the head with the attribute -/
def filled (s : Slot) (key value : List Char) : List Char :=
  s.before ++ (s.inserted key value ++ s.after)

/-- a place between attributes, in front of the slash that may end the head: what stands in front of it
is legible, and a blank comes before the attribute -/
structure IsOpen (s : Slot) : Prop where
  legible : Legible s.before
  apart : Apart s.before s.after
  unended : Tag.endsTag s.before = true → s.after ≠ []
  left : ∀ c ∈ s.left, isBlank c = true
  right : ∀ c ∈ s.right, isBlank c = true
  spaced : ∃ c ∈ (s.before ++ s.left).getLast?, isBlank c = true

end Slot

/-- a tag with another head -/
def Tag.withHead (t : Tag) (head : List Char) : Tag := { t with head }

/-! ## heads -/

/-- a blank is none of the characters that mean something in a head -/
theorem not_mem_of_blank {g : List Char} (hg : ∀ c ∈ g, isBlank c = true) {c : Char}
    (hc : isBlank c = false) : c ∉ g := by
  intro hmem
  rw [hg c hmem] at hc
  cases hc

/-- a head that ends with other words does so whatever stands in front of these -/
theorem Tag.EndsHead.replace {n : Nat} {a b c : List Char} (h : Tag.EndsHead n (a ++ b))
    (hbc : Tag.EndsHead (n + a.count '\"') b → Tag.EndsHead (n + a.count '\"') c) :
    Tag.EndsHead n (a ++ c) := by
  induction a generalizing n with
  | nil => exact hbc h
  | cons x a ih =>
    obtain ⟨hx, hrest⟩ := Tag.endsHead_cons.mp h
    have hcount : n + (x :: a).count '\"' = n + (if x = '\"' then 1 else 0) + a.count '\"' := by
      rw [List.count_cons, Nat.add_assoc, Nat.add_comm (a.count _)]
      simp only [beq_iff_eq]
    rw [hcount] at hbc
    exact Tag.endsHead_cons.mpr ⟨hx, ih hrest hbc⟩

/-- the slash that ends a tag is one of the last part of its head -/
theorem Tag.endsTag_append {a b : List Char} (h : Tag.endsTag a = true → b ≠ []) :
    Tag.endsTag (a ++ b) = Tag.endsTag b := by
  cases b with
  | nil =>
    rw [List.append_nil]
    exact Bool.eq_false_iff.mpr fun ha => h ha rfl
  | cons c b => rw [Tag.endsTag, Tag.endsTag, List.getLast?_append_of_ne_nil _ (List.cons_ne_nil c b)]

/-- a head without the slash that ends it -/
def Tag.unslashed (head : List Char) : List Char :=
  if Tag.endsTag head then head.dropLast else head

theorem Tag.unslashed_append {a b : List Char} (h : Tag.endsTag a = true → b ≠ []) :
    Tag.unslashed (a ++ b) = a ++ Tag.unslashed b := by
  rw [Tag.unslashed, Tag.unslashed, Tag.endsTag_append h]
  by_cases hb : Tag.endsTag b = true
  · have hne : b ≠ [] := by
      rintro rfl
      cases hb
    rw [if_pos hb, if_pos hb, List.dropLast_append_of_ne_nil hne]
  · rw [if_neg hb, if_neg hb]

theorem Apart.unslashed {a b : List Char} (h : Apart a b) : Apart a (Tag.unslashed b) := by
  intro c hc d hd
  refine h c hc d ?_
  rw [Tag.unslashed] at hd
  split at hd
  · match b, hd with
    | x :: y :: b, hd => exact hd
  · exact hd

namespace Slot

section

variable {s : Slot} {key value : List Char}

theorem IsOpen.quote_not_mem_left (h : s.IsOpen) : '\"' ∉ s.left :=
  not_mem_of_blank h.left (by decide)

theorem IsOpen.quote_not_mem_right (h : s.IsOpen) : '\"' ∉ s.right :=
  not_mem_of_blank h.right (by decide)

/-- an attribute with blanks behind it ends no tag -/
theorem IsOpen.endsTag_inserted (h : s.IsOpen) (key value : List Char) :
    Tag.endsTag (s.before ++ s.inserted key value) = false := by
  have hsplit : s.before ++ s.inserted key value =
      (s.before ++ (s.left ++ (key ++ '=' :: '\"' :: value))) ++ ('\"' :: s.right) := by
    simp only [inserted, List.append_assoc, List.cons_append]
  have hlast : ∀ c ∈ '\"' :: s.right, c ≠ '/' := by
    intro c hc
    rcases List.mem_cons.mp hc with rfl | hc
    · decide
    · rintro rfl
      exact not_mem_of_blank h.right (by decide) hc
  rw [hsplit, Tag.endsTag, List.getLast?_append_of_ne_nil _ (List.cons_ne_nil _ _),
    List.getLast?_eq_some_getLast (List.cons_ne_nil _ _), decide_eq_false_iff_not, Option.some.injEq]
  exact hlast _ (List.getLast_mem _)

theorem IsOpen.unended_inserted (h : s.IsOpen) (key value : List Char)
    (hends : Tag.endsTag (s.before ++ s.inserted key value) = true) : s.after ≠ [] := by
  rw [h.endsTag_inserted] at hends
  cases hends

theorem IsOpen.endsTag_filled (h : s.IsOpen) (key value : List Char) :
    Tag.endsTag (s.filled key value) = Tag.endsTag s.closed := by
  rw [filled, ← List.append_assoc, Tag.endsTag_append (h.unended_inserted key value), closed,
    Tag.endsTag_append h.unended]

/-- an attribute ends no head -/
theorem IsOpen.endsHead_filled (h : s.IsOpen) (hkey : IsKey key) (hvalue : '\"' ∉ value)
    (hend : Tag.EndsHead 0 s.closed) : Tag.EndsHead 0 (s.filled key value) := by
  refine hend.replace fun hafter => ?_
  have heven : (0 + s.before.count '\"') % 2 = 0 := by
    rw [Nat.zero_add]
    exact h.legible.count_quote
  -- put together from the right: the blanks behind the attribute, the attribute, the blanks before it
  have hright := hafter.append h.quote_not_mem_right fun _ => not_mem_of_blank h.right (by decide)
  have hquoted := hright.quoted heven (hkey.not_mem (by decide)) (hkey.not_mem (by decide)) hvalue
  have hleft := hquoted.append h.quote_not_mem_left fun _ => not_mem_of_blank h.left (by decide)
  have hsplit : s.inserted key value ++ s.after =
      s.left ++ (key ++ '=' :: '\"' :: (value ++ '\"' :: (s.right ++ s.after))) := by
    simp only [inserted, List.append_assoc, List.cons_append]
  rw [hsplit]
  exact hleft

/-- no name goes on into a head with an attribute -/
theorem IsOpen.head?_filled (h : s.IsOpen) (hclosed : ∀ c ∈ s.closed.head?, isNameChar c = false)
    (key value : List Char) : ∀ c ∈ (s.filled key value).head?, isNameChar c = false := by
  intro c hc
  cases hbefore : s.before with
  | cons d before =>
    refine hclosed c ?_
    rw [filled, hbefore] at hc
    rw [closed, hbefore]
    exact hc
  | nil =>
    obtain ⟨d, hd, -⟩ := h.spaced
    cases hleft : s.left with
    | nil =>
      rw [hbefore, hleft] at hd
      cases hd
    | cons x left =>
      rw [filled, inserted, hbefore, hleft] at hc
      cases hc
      exact isNameChar_of_isBlank (h.left c (hleft ▸ List.mem_cons_self))

/-- a tag stands there with the attribute, too -/
theorem IsOpen.stands (h : s.IsOpen) (hkey : IsKey key) (hvalue : '\"' ∉ value) {t : Tag}
    {rest : List Char} (hhead : t.head = s.closed) (ht : t.Stands rest) :
    (t.withHead (s.filled key value)).Stands rest where
  opening := ht.opening
  named := ht.named
  name := ht.name
  longest := h.head?_filled (hhead ▸ ht.longest) key value
  head := h.endsHead_filled hkey hvalue (hhead ▸ ht.head)
  bare hbare := ht.bare (by rw [hhead, ← h.endsTag_filled key value]; exact hbare)
  filled hfilled := ht.filled (by rw [hhead, ← h.endsTag_filled key value]; exact hfilled)

/-! ## the attributes of a tag -/

theorem apart_of_blank {g : List Char} (hg : ∀ c ∈ g, isBlank c = true) (ds : List Char) :
    Apart g ds := fun c hc _ _ => .inr (.inl (hg c (List.mem_of_mem_getLast? hc)))

theorem apart_blank {g : List Char} (hg : ∀ c ∈ g, isBlank c = true) (cs : List Char) :
    Apart cs g := fun _ _ d hd => .inr (.inr (.inl (hg d (List.mem_of_mem_head? hd))))

/-- what is read of an attribute and the texts around it -/
theorem IsOpen.attributesIn (h : s.IsOpen) (hkey : '\"' ∉ key) (hvalue : '\"' ∉ value)
    (hwhole : IsWhole (key ++ ['=']) value) (ds : List Char) :
    Tag.attributesIn (s.before ++ (s.inserted key value ++ ds)) =
      Tag.attributesIn s.before ++ (readBehind (key ++ ['=']) value ++ Tag.attributesIn ds) := by
  -- the blank in front of the attribute keeps its key apart from what stands there
  have hspaced (cs : List Char) : Apart (s.before ++ s.left) cs := by
    obtain ⟨c, hc, hblank⟩ := h.spaced
    intro d hd _ _
    rw [Option.mem_unique hd hc]
    exact .inr (.inl hblank)
  have hsplit : s.before ++ (s.inserted key value ++ ds) =
      (s.before ++ s.left) ++ ((key ++ ['=']) ++ '\"' :: (value ++ '\"' :: (s.right ++ ds))) := by
    simp only [inserted, List.append_assoc, List.cons_append, List.nil_append]
  rw [hsplit, attributesIn_append (h.legible.append_plain h.quote_not_mem_left) (hspaced _),
    attributesIn_append h.legible (apart_blank h.left _), attributesIn_of_not_mem h.quote_not_mem_left,
    List.append_nil, attributesIn_quoted (quote_not_mem_concat hkey) hvalue hwhole,
    attributesIn_plain h.quote_not_mem_right (apart_of_blank h.right ds)]

theorem IsOpen.attributes_filled (h : s.IsOpen) (key value : List Char) (t : Tag) :
    (t.withHead (s.filled key value)).attributes =
      Tag.attributesIn (s.before ++ (s.inserted key value ++ Tag.unslashed s.after)) := by
  have hattributes : (t.withHead (s.filled key value)).attributes =
      Tag.attributesIn (Tag.unslashed (s.before ++ (s.inserted key value ++ s.after))) := rfl
  rw [hattributes, ← List.append_assoc, Tag.unslashed_append (h.unended_inserted key value),
    List.append_assoc]

/-- an attribute is read between those that are there -/
theorem IsOpen.attributes (h : s.IsOpen) (hkey : '\"' ∉ key) (hvalue : '\"' ∉ value)
    (hwhole : IsWhole (key ++ ['=']) value) {t : Tag} (hhead : t.head = s.closed) :
    let bs := Tag.attributesIn (Tag.unslashed s.after)
    t.attributes = Tag.attributesIn s.before ++ bs ∧
      (t.withHead (s.filled key value)).attributes =
        Tag.attributesIn s.before ++ (readBehind (key ++ ['=']) value ++ bs) := by
  have hattributes : t.attributes = Tag.attributesIn (Tag.unslashed t.head) := rfl
  constructor
  · rw [hattributes, hhead, closed, Tag.unslashed_append h.unended,
      attributesIn_append h.legible h.apart.unslashed]
  · rw [h.attributes_filled key value t, h.attributesIn hkey hvalue hwhole]

/-- an attribute counts for one key at most: the word at the end of the key under which it was put -/
theorem IsOpen.attribute?_filled (h : s.IsOpen) (hkey : '\"' ∉ key) (hvalue : '\"' ∉ value)
    (hwhole : IsWhole (key ++ ['=']) value) {t : Tag} (hhead : t.head = s.closed) {name : String}
    (hname : key.rtakeWhile isWordChar ≠ name.toList) :
    (t.withHead (s.filled key value)).attribute? name = t.attribute? name := by
  obtain ⟨has, hbs⟩ := h.attributes hkey hvalue hwhole hhead
  have hnone : (readBehind (key ++ ['=']) value).reverse.find?
      (fun a => decide (a.1 = name.toList)) = none := by
    rw [readBehind, keyAtEnd?_concat]
    split
    · rfl
    · exact List.find?_cons_of_neg (by simpa using hname)
  rw [Tag.attribute?, Tag.attribute?, has, hbs]
  simp only [List.reverse_append, List.find?_append, hnone, Option.or_none]

end

end Slot

/-! ## the edit of a tag -/

/-- the keys that are asked for -/
def usedKeys : List String := ["line", "find", "with", "all"]

/-- an edit depends on the name of its tag, the content and the attributes that are asked for -/
theorem Tag.edit_congr {t u : Tag} (hname : t.nameText = u.nameText) (hcontent : t.content = u.content)
    (h : ∀ key ∈ usedKeys, t.attribute? key = u.attribute? key) : t.edit = u.edit := by
  have hline : t.line = u.line := by
    rw [Tag.line, Tag.line, h "line" (by decide)]
  have hsubstitution : t.substitution = u.substitution := by
    rw [Tag.substitution, Tag.substitution, h "find" (by decide), h "with" (by decide),
      h "all" (by decide)]
  rw [Tag.edit, Tag.edit, Tag.name, Tag.name, Tag.contentText, Tag.contentText, hname, hcontent, hline,
    hsubstitution]

/-! ## replies -/

/-- a text in which everything that looks like the start of a tag belongs to a tag -/
inductive Finished : List Char → Prop where
  | plain {cs : List Char} (hcs : ¬ Holds opener cs) : Finished cs
  | tag {cs rest : List Char} {t : Tag} (hcs : ¬ Holds opener cs) (ht : t.Stands rest)
      (hrest : Finished rest) : Finished (cs ++ (t.written ++ rest))

/-- the tags of such a text are found whatever tag follows -/
theorem Finished.pieces_append {front cs : List Char} (h : Finished front)
    (hcs : ∀ d ∈ cs.head?, d = '<') : pieces (front ++ cs) = pieces front ++ pieces cs := by
  induction h with
  | @plain front hfront =>
    rw [pieces_append_of_not_holds hfront hcs, pieces_of_not_holds hfront]
  | @tag front rest t hfront ht _ ih =>
    rw [List.append_assoc, List.append_assoc, pieces_append_of_not_holds hfront (ht.head?_written _),
      pieces_append_of_not_holds hfront (ht.head?_written _), pieces_written (ht.anywhere _),
      pieces_written ht, ih, List.append_assoc, List.cons_append]

/-- a tag with the same edit in place of another one -/
theorem Reply.editsOf_congr {t u : Tag} (h : t.edit = u.edit) (ts us : List Tag) :
    Reply.editsOf (ts ++ t :: us) = Reply.editsOf (ts ++ u :: us) := by
  induction ts with
  | nil => rw [List.nil_append, List.nil_append, Reply.editsOf, Reply.editsOf, h]
  | cons x ts ih => rw [List.cons_append, List.cons_append, Reply.editsOf, Reply.editsOf, ih]

/-- a reply says the same and makes the same edits with such a tag -/
theorem Reply.read_congr {t u : Tag} {front rest : List Char} (hfront : Finished front)
    (ht : t.Stands rest) (hu : u.Stands rest) (h : t.edit = u.edit) :
    Reply.read (String.ofList (front ++ (t.written ++ rest))) =
      Reply.read (String.ofList (front ++ (u.written ++ rest))) := by
  have hpieces {x : Tag} (hx : x.Stands rest) :
      tags (front ++ (x.written ++ rest)) = tags front ++ x :: tags rest ∧
        residual (front ++ (x.written ++ rest)) = residual front ++ residual rest := by
    rw [tags, residual, hfront.pieces_append (hx.head?_written rest), pieces_written hx,
      List.filterMap_append, List.filterMap_append]
    exact ⟨rfl, rfl⟩
  obtain ⟨httags, htresidual⟩ := hpieces ht
  obtain ⟨hutags, huresidual⟩ := hpieces hu
  rw [Reply.read, Reply.read, String.toList_ofList, String.toList_ofList, httags, hutags, htresidual,
    huresidual, Reply.editsOf_congr h]

/-! ## attributes that change nothing -/

/-- an attribute that changes nothing, into whichever tag it is put and wherever: the tag stands as
before, makes the same edit or none, and the reply says the same and makes the same edits -/
def Inert (key value : List Char) : Prop :=
  ∀ (s : Slot) (t : Tag) (front rest : List Char), s.IsOpen → t.head = s.closed → t.Stands rest →
    Finished front →
      let t' := t.withHead (s.filled key value)
      t'.Stands rest ∧ t'.edit = t.edit ∧
        Reply.read (String.ofList (front ++ (t'.written ++ rest))) =
          Reply.read (String.ofList (front ++ (t.written ++ rest)))

section

variable {key value : List Char}

/-- an attribute is inert if the reader takes its value for one, or passes over it, and asks for no such
key -/
theorem inert_of_unused (hkey : IsKey key) (hvalue : '\"' ∉ value)
    (hunused : ∀ name ∈ usedKeys, key.rtakeWhile isWordChar ≠ name.toList)
    (hwhole : IsWhole (key ++ ['=']) value) : Inert key value := by
  intro s t front rest hs hhead ht hfront t'
  have ht' : t'.Stands rest := hs.stands hkey hvalue hhead ht
  have hedit : t'.edit = t.edit := Tag.edit_congr rfl rfl fun name hname =>
    hs.attribute?_filled (hkey.not_mem (by decide)) hvalue hwhole hhead (hunused name hname)
  exact ⟨ht', hedit, Reply.read_congr hfront ht' ht hedit⟩

/-! ## attributes that change something -/

theorem legible_attributesText {as : List (String × String)} (h : ∀ a ∈ as, IsQuotable a) :
    Legible (attributesText as) := by
  induction as with
  | nil => exact .plain nofun
  | cons a as ih =>
    have ha : IsQuotable a := h a List.mem_cons_self
    have hquote : '\"' ∉ [' '] ++ (a.1.toList ++ ['=']) := by
      rw [List.mem_append, not_or]
      exact ⟨by decide, quote_not_mem_word ha.key⟩
    have hsplit : attributesText (a :: as) =
        ([' '] ++ (a.1.toList ++ ['='])) ++ '\"' :: (a.2.toList ++ '\"' :: attributesText as) := by
      rw [attributesText, List.flatMap_cons, attributeText_append]
      simp only [attributesText, List.append_assoc, List.cons_append, List.nil_append]
    rw [hsplit]
    exact .quoted hquote ha.value (fun hnone => absurd hnone (keyAtEnd?_ne_none ha.named ha.key _))
      (ih fun b hb => h b (List.mem_cons_of_mem a hb))

/-- the place behind the attributes that the prompt shows for an edit without content -/
def Slot.behind (e : Edit) : Slot := ⟨attributesText e.attributes, [' '], [], [' ', '/']⟩

/-- the place in front of them -/
def Slot.ahead (e : Edit) : Slot := ⟨[], [' '], [], e.headText⟩

theorem Slot.isOpen_behind {e : Edit} (h : e.HasPlainParts) : (Slot.behind e).IsOpen where
  legible := legible_attributesText (Edit.isQuotable_attributes h)
  apart := fun _ _ d hd => by
    cases hd
    exact .inr (.inr (.inl (by decide)))
  unended _ := List.cons_ne_nil _ _
  left c hc := by
    rw [List.mem_singleton.mp hc]
    decide
  right := nofun
  spaced := ⟨' ', List.getLast?_concat, by decide⟩

theorem Slot.isOpen_ahead (e : Edit) : (Slot.ahead e).IsOpen where
  legible := .plain nofun
  apart := nofun
  unended := nofun
  left c hc := by
    rw [List.mem_singleton.mp hc]
    decide
  right := nofun
  spaced := ⟨' ', rfl, by decide⟩

theorem Slot.closed_behind {e : Edit} (h : e.content? = none) : e.headText = (Slot.behind e).closed := by
  rw [Edit.headText, h]
  rfl

/-- an edit without content can be written as the prompt shows it if its attributes can -/
theorem isPlain_of_bare {e : Edit} (hbare : e.content? = none) (h : e.HasPlainParts) : e.IsPlain where
  parts := h
  content hholds := by
    rw [Edit.contentText, hbare] at hholds
    exact Tag.closer_ne_nil _ (List.infix_nil.mp hholds)

/-- an inert attribute leaves a tag in the form of the prompt the edit that it is -/
theorem Inert.edit (h : Inert key value) {e : Edit} (hplain : e.IsPlain) {s : Slot} (hs : s.IsOpen)
    (hhead : e.headText = s.closed) :
    (e.tag.withHead (s.filled key value)).edit = .ok (some e) := by
  have hwritten := e.isWrittenAs_tag
  have hnone : Finished [] := .plain (by decide)
  obtain ⟨-, hedit, -⟩ := h s e.tag [] [] hs hhead (hwritten.stands hplain []) hnone
  rw [hedit, hwritten.edit hplain]

/-- the last attribute with a key counts -/
theorem attribute?_behind {e : Edit} (hplain : e.IsPlain) (hbare : e.content? = none) (hkey : '\"' ∉ key)
    (hvalue : '\"' ∉ value) {name : String} (hne : name.toList ≠ [])
    (hname : key.rtakeWhile isWordChar = name.toList) :
    (e.tag.withHead ((Slot.behind e).filled key value)).attribute? name =
      some (String.ofList value) := by
  have hkeyed : keyAtEnd? (key ++ ['=']) = some name.toList := keyAtEnd?_of_word hne hname
  obtain ⟨-, hattributes⟩ := (Slot.isOpen_behind hplain.parts).attributes hkey hvalue
    (isWhole_of_some hkeyed value) (t := e.tag) (Slot.closed_behind hbare)
  have hblank : Tag.attributesIn (Tag.unslashed (Slot.behind e).after) = [] :=
    attributesIn_of_not_mem (j := [' ']) (by decide)
  rw [Tag.attribute?, hattributes, hblank, List.append_nil, readBehind, hkeyed]
  simp

/-- an attribute behind another one with a key that is asked for takes its place: of two edits that
differ in that one only, it changes one -/
theorem not_inert_of_pair (hkey : '\"' ∉ key) (hvalue : '\"' ∉ value) {name : String}
    (hne : name.toList ≠ []) (hname : key.rtakeWhile isWordChar = name.toList) {e e' : Edit}
    (hplain : e.IsPlain) (hplain' : e'.IsPlain) (hbare : e.content? = none) (hbare' : e'.content? = none)
    (htag : e.tagName = e'.tagName)
    (hother : ∀ other ∈ usedKeys, other ≠ name → e.tag.attribute? other = e'.tag.attribute? other)
    (hdiffer : e ≠ e') : ¬ Inert key value := by
  intro h
  have hwhole : IsWhole (key ++ ['=']) value := isWhole_of_some (keyAtEnd?_of_word hne hname) value
  -- with the attribute both tags are read alike, and each should still make its own edit
  have hsame : (e.tag.withHead ((Slot.behind e).filled key value)).edit =
      (e'.tag.withHead ((Slot.behind e').filled key value)).edit := by
    refine Tag.edit_congr (congrArg String.toList htag) ?_ fun other hmem => ?_
    · show e.contentText = e'.contentText
      rw [Edit.contentText, Edit.contentText, hbare, hbare']
    · by_cases hsome : other = name
      · rw [hsome, attribute?_behind hplain hbare hkey hvalue hne hname,
          attribute?_behind hplain' hbare' hkey hvalue hne hname]
      · have hword : key.rtakeWhile isWordChar ≠ other.toList := fun heq =>
          hsome (String.toList_inj.mp (heq.symm.trans hname))
        rw [(Slot.isOpen_behind hplain.parts).attribute?_filled hkey hvalue hwhole
            (Slot.closed_behind hbare) hword,
          (Slot.isOpen_behind hplain'.parts).attribute?_filled hkey hvalue hwhole
            (Slot.closed_behind hbare') hword]
        exact hother other hmem hsome
  rw [h.edit hplain (Slot.isOpen_behind hplain.parts) (Slot.closed_behind hbare),
    h.edit hplain' (Slot.isOpen_behind hplain'.parts) (Slot.closed_behind hbare')] at hsame
  exact hdiffer (Option.some.inj (Except.ok.inj hsame))

/-- an attribute with a key that ends in one that is asked for is read as that one -/
theorem not_inert_of_used (hkey : '\"' ∉ key) (hvalue : '\"' ∉ value) {name : String}
    (hmem : name ∈ usedKeys) (hname : key.rtakeWhile isWordChar = name.toList) : ¬ Inert key value := by
  have hpair (e e' : Edit) (hbare : e.content? = none) (hbare' : e'.content? = none)
      (hplain : e.HasPlainParts) (hplain' : e'.HasPlainParts) (hne : name.toList ≠ []) :=
    not_inert_of_pair hkey hvalue hne hname (isPlain_of_bare hbare hplain)
      (isPlain_of_bare hbare' hplain') hbare hbare'
  simp only [usedKeys, List.mem_cons, List.not_mem_nil, or_false] at hmem
  rcases hmem with rfl | rfl | rfl | rfl
  · exact hpair (.delete 1) (.delete 2) rfl rfl (by decide) (by decide) (by decide) rfl
      (by decide +kernel) (by decide)
  · exact hpair (.substitute "a" "" false) (.substitute "b" "" false) rfl rfl (by decide) (by decide)
      (by decide) rfl (by decide +kernel) (by decide)
  · exact hpair (.substitute "a" "" false) (.substitute "a" "b" false) rfl rfl (by decide) (by decide)
      (by decide) rfl (by decide +kernel) (by decide)
  · exact hpair (.substitute "a" "" false) (.substitute "a" "" true) rfl rfl (by decide) (by decide)
      (by decide) rfl (by decide +kernel) (by decide)

/-- a value that ends like a key, behind a key that ends in no word, hides the attribute that follows -/
theorem not_inert_of_misread (hkey : '\"' ∉ key) (hvalue : '\"' ∉ value)
    (hkeyless : keyAtEnd? (key ++ ['=']) = none) {w : List Char} (hkeyed : keyAtEnd? value = some w) :
    ¬ Inert key value := by
  intro h
  let t : Tag := Tag.withHead (Edit.delete 1).tag ((Slot.ahead (.delete 1)).filled key value)
  have hedit : t.edit = .ok (some (.delete 1)) :=
    h.edit (isPlain_of_bare rfl (by decide)) (Slot.isOpen_ahead _) rfl
  -- the quote behind the value is taken for the start of another one, which ends where the line should
  have hattributes : t.attributes = [(w, " line=".toList)] := by
    have hafter : Tag.unslashed (Edit.delete 1).headText =
        " line=".toList ++ '\"' :: (['1'] ++ '\"' :: [' ']) := by decide +kernel
    have hsplit : (Slot.ahead (.delete 1)).before ++ ((Slot.ahead (.delete 1)).inserted key value ++
          Tag.unslashed (Edit.delete 1).headText) =
        ' ' :: ((key ++ ['=']) ++ '\"' :: (value ++ '\"' ::
          (" line=".toList ++ '\"' :: (['1'] ++ '\"' :: [' '])))) := by
      rw [hafter]
      simp only [Slot.ahead, Slot.inserted, List.append_assoc, List.cons_append, List.nil_append]
    rw [(Slot.isOpen_ahead (.delete 1)).attributes_filled key value]
    refine (congrArg Tag.attributesIn hsplit).trans ?_
    rw [attributesIn_blank, attributesIn_keyless (quote_not_mem_concat hkey) hkeyless,
      attributesIn_keyed hvalue hkeyed (by decide), attributesIn_keyless (by decide) (by decide +kernel),
      attributesIn_of_not_mem (by decide)]
  have hline : t.line = .ok none := by
    rw [Tag.line, Tag.attribute?, hattributes, List.reverse_singleton, List.find?_singleton]
    have hread : Line.read (String.ofList " line=".toList) = .ok none := by decide +kernel
    cases decide (w = "line".toList) with
    | true => exact hread
    | false => rfl
  have hname : t.name = "delete" := by
    show String.ofList ("delete".toList.map Char.toLower) = "delete"
    decide +kernel
  rw [Tag.edit, hname, hline] at hedit
  cases hedit

/-- an attribute changes nothing if, and only if, its key does not end with a word that is asked for, and
its value does not end like a key behind a key that ends with no word -/
theorem inert_iff (hkey : IsKey key) (hvalue : '\"' ∉ value) :
    Inert key value ↔ (∀ name ∈ usedKeys, key.rtakeWhile isWordChar ≠ name.toList) ∧
      (key.rtakeWhile isWordChar = [] → keyAtEnd? value = none) := by
  have hquote : '\"' ∉ key := hkey.not_mem (by decide)
  have hkeyless : keyAtEnd? (key ++ ['=']) = none ↔ key.rtakeWhile isWordChar = [] := by
    rw [keyAtEnd?_concat, ite_eq_left_iff]
    simp
  constructor
  · intro h
    refine ⟨fun name hmem hname => not_inert_of_used hquote hvalue hmem hname h, fun hnil => ?_⟩
    refine Option.eq_none_iff_forall_ne_some.mpr fun w hw => ?_
    exact not_inert_of_misread hquote hvalue (hkeyless.mpr hnil) hw h
  · rintro ⟨hunused, hwhole⟩
    exact inert_of_unused hkey hvalue hunused fun hnone => hwhole (hkeyless.mp hnone)

end

/-- a key that holds one of these words, and a value that looks like an attribute and the end of a tag -/
theorem inert_annotated :
    IsKey "note.line-no".toList ∧ '\"' ∉ "see line=7 />".toList ∧
      Inert "note.line-no".toList "see line=7 />".toList := by
  have hkey : IsKey "note.line-no".toList := isKey_of_all (by decide) (by decide +kernel)
  have hvalue : '\"' ∉ "see line=7 />".toList := by decide +kernel
  exact ⟨hkey, hvalue, (inert_iff hkey hvalue).mpr ⟨by decide +kernel, by decide +kernel⟩⟩

/-- another line than the one that the tag is about is deleted -/
theorem read_hyphenated :
    IsKey "data-line".toList ∧ "data-line" ∉ usedKeys ∧ '\"' ∉ "5".toList ∧
      Reply.read "<np-delete line=\"2\" />" = .ok ⟨"", [.delete 2]⟩ ∧
      Reply.read "<np-delete line=\"2\" data-line=\"5\" />" = .ok ⟨"", [.delete 5]⟩ :=
  ⟨isKey_of_all (by decide) (by decide +kernel), by decide, by decide, by decide +kernel,
    by decide +kernel⟩

-- the value behind the first key hides the line
example : Reply.read "<np-delete x-=\"y=\" line=\"2\" />" = .ok ⟨"", []⟩ := by decide +kernel

end Debate.Notepad
