import Debate.Proofs.Attributes
import Debate.Proofs.Scanning
import Debate.Prompt

/-!
# Edits written as the prompt shows them

The prompt shows a tag for each kind of edit. An edit that is written in that form, its name in any
case, is read back as it is, wherever it stands in a reply, and what is said around the edits is what
is said.

* `Holds`                     a word occurs in a text, in any case;
* `Tag.Stands.anywhere`       a tag stands in front of any text if it stands in front of one;
* `Edit.IsWrittenAs`          a tag that writes an edit in the form of the prompt;
* `Edit.IsPlain`              an edit that can be written so;
* `Edit.IsWrittenAs.stands`, `Edit.IsWrittenAs.edit`   such a tag is found, and it is that edit;
* `Reply.read_documented`     a reply that is made of such tags and of texts between them.
-/

namespace Debate.Notepad

open Debate.Text

/-! ## words in any case -/

/-- a word in lower case occurs in a text, in any case -/
def Holds (word cs : List Char) : Prop := word <:+: cs.map Char.toLower

instance (word cs : List Char) : Decidable (Holds word cs) :=
  inferInstanceAs (Decidable (word <:+: cs.map Char.toLower))

theorem holds_append {p w s word : List Char} (hw : w.map Char.toLower = word) :
    Holds word (p ++ (w ++ s)) := by
  refine ⟨p.map Char.toLower, s.map Char.toLower, ?_⟩
  rw [← hw, List.map_append, List.map_append, List.append_assoc]

theorem Holds.cons {word cs : List Char} (c : Char) (h : Holds word cs) : Holds word (c :: cs) := by
  have hinfix : word <:+: c.toLower :: cs.map Char.toLower := List.infix_cons h
  exact hinfix

/-- an upper case letter is a letter, and its lower case is one -/
theorem toLower_cases (c : Char) : c.toLower = c ∨ c.isAlpha = true ∧ 97 ≤ c.toLower.toNat := by
  delta Char.toLower
  split
  · rename_i h
    have hlow : 65 ≤ c.toNat := h.1
    have hhigh : c.toNat ≤ 90 := h.2
    have hupper : c.isUpper = true := decide_eq_true h
    have halpha : c.isAlpha = true := by
      show (c.isUpper || c.isLower) = true
      rw [hupper, Bool.true_or]
    refine .inr ⟨halpha, ?_⟩
    show 97 ≤ (c.val + 32).toNat
    have hval : c.val.toNat = c.toNat := rfl
    rw [UInt32.toNat_add, hval]
    show 97 ≤ (c.toNat + 32) % 4294967296
    omega
  · exact .inl rfl

theorem eq_of_toLower_lt {c : Char} (h : c.toLower = '<') : c = '<' := by
  rcases toLower_cases c with hc | ⟨-, hlow⟩
  · exact hc.symm.trans h
  · rw [h] at hlow
    exact absurd hlow (by decide)

theorem head?_of_toLower {cs word : List Char} (h : cs.map Char.toLower = '<' :: word) :
    cs.head? = some '<' := by
  cases cs with
  | nil => cases h
  | cons c cs => rw [List.head?_cons, eq_of_toLower_lt (List.cons_eq_cons.mp h).1]

theorem isNameChar_of_toLower {c : Char} (h : isNameChar c.toLower = true) : isNameChar c = true := by
  rcases toLower_cases c with hc | ⟨halpha, -⟩
  · rwa [hc] at h
  · rw [isNameChar, Char.isAlphanum, halpha, Bool.true_or, Bool.true_or, Bool.true_or]

theorem foldCase_of_toLower {c l : Char} (h : c.toLower = l) (hl : l ≠ '\u212a') : foldCase c = l := by
  rw [foldCase, if_neg, h]
  rintro rfl
  exact hl (h.symm.trans (by decide))

theorem toLower_of_foldCase {c l : Char} (h : foldCase c = l) (hl : l ≠ 'k') : c.toLower = l := by
  rw [foldCase] at h
  split at h
  · exact absurd h.symm hl
  · exact h

theorem map_foldCase_of_toLower {w word : List Char} (h : w.map Char.toLower = word)
    (hword : '\u212a' ∉ word) : w.map foldCase = word := by
  induction w generalizing word with
  | nil => exact h
  | cons c w ih =>
    subst h
    rw [List.map_cons, List.mem_cons, not_or] at hword
    rw [List.map_cons, List.map_cons, foldCase_of_toLower rfl (Ne.symm hword.1), ih rfl hword.2]

theorem map_toLower_of_foldCase {w word : List Char} (h : w.map foldCase = word)
    (hword : 'k' ∉ word) : w.map Char.toLower = word := by
  induction w generalizing word with
  | nil => exact h
  | cons c w ih =>
    subst h
    rw [List.map_cons, List.mem_cons, not_or] at hword
    rw [List.map_cons, List.map_cons, toLower_of_foldCase rfl (Ne.symm hword.1), ih rfl hword.2]

/-- a word whose only `<` is its first character lies in the first of two texts if it starts there,
unless the second one starts in the middle of it -/
theorem lies_in_first {a b p w s word : List Char} (h : a ++ b = p ++ (w ++ s))
    (hlt : p.length < a.length) (hw : w.map foldCase = '<' :: word) (hword : '<' ∉ word)
    (hb : ∀ c ∈ b.head?, c = '<') : ∃ s', a = p ++ (w ++ s') := by
  rcases List.append_eq_append_iff.mp h with ⟨a', hp, -⟩ | ⟨a', ha, hrest⟩
  · rw [hp, List.length_append] at hlt
    omega
  rcases List.append_eq_append_iff.mp hrest with ⟨w', ha', -⟩ | ⟨w', hw', hb'⟩
  · exact ⟨w', by rw [ha, ha']⟩
  cases w' with
  | nil => exact ⟨[], by rw [ha, hw', List.append_nil, List.append_nil]⟩
  | cons c w' =>
    -- the second text would start inside the word, with the character that the word starts with
    have hc : c = '<' := hb c (by rw [hb']; rfl)
    cases a' with
    | nil =>
      rw [ha, List.append_nil] at hlt
      omega
    | cons d a' =>
      rw [hw', hc, List.cons_append, List.map_cons, List.map_append, List.map_cons] at hw
      refine absurd ?_ hword
      rw [← (List.cons_eq_cons.mp hw).2]
      exact List.mem_append_right _ (List.mem_cons.mpr (.inl (by decide)))

/-! ## plain text -/

/-- no tag starts in a text that does not hold what tags start with -/
theorem read?_of_not_holds {c : Char} {cs rest : List Char} (h : ¬ Holds opener (c :: cs))
    (hrest : ∀ d ∈ rest.head?, d = '<') : Tag.read? (c :: (cs ++ rest)) = none := by
  refine Option.eq_none_iff_forall_ne_some.mpr fun r hr => h ?_
  obtain ⟨hwritten, hstands⟩ := Tag.read?_eq_some_iff.mp hr
  have hsplit : (c :: cs) ++ rest = [] ++ (r.1.opening ++
      (r.1.nameText ++ (r.1.head ++ '>' :: (r.1.content ++ (r.1.closing ++ r.2))))) := by
    rw [List.cons_append, ← hwritten]
    simp only [Tag.written, List.append_assoc, List.cons_append, List.nil_append]
  obtain ⟨s, hs⟩ := lies_in_first hsplit (Nat.succ_pos _) hstands.opening (by decide) hrest
  rw [hs]
  exact holds_append (map_toLower_of_foldCase hstands.opening (by decide))

/-- plain text is what it is, whatever tags follow -/
theorem pieces_append_of_not_holds {cs rest : List Char} (h : ¬ Holds opener cs)
    (hrest : ∀ d ∈ rest.head?, d = '<') : pieces (cs ++ rest) = cs.map .plain ++ pieces rest := by
  induction cs with
  | nil => rfl
  | cons c cs ih =>
    have htail : ¬ Holds opener cs := fun hcs => h (hcs.cons c)
    rw [List.cons_append, pieces_of_none (read?_of_not_holds h hrest), ih htail, List.map_cons,
      List.cons_append]

theorem pieces_of_not_holds {cs : List Char} (h : ¬ Holds opener cs) : pieces cs = cs.map .plain := by
  have hpieces : pieces (cs ++ []) = cs.map .plain ++ pieces [] := pieces_append_of_not_holds h nofun
  have hnil : pieces [] = [] := by rw [pieces]
  rwa [List.append_nil, hnil, List.append_nil] at hpieces

/-! ## tags in front of other texts -/

/-- that a content is the shortest does not depend on what follows the closing tag -/
theorem Tag.EndsContent.anywhere {close content closing rest : List Char}
    (h : Tag.EndsContent close content closing rest) (rest' : List Char) :
    Tag.EndsContent close content closing rest' := by
  refine ⟨h.closes, fun p w s hp hw => ?_⟩
  by_contra hlt
  have hlength := congrArg List.length (hw.trans h.closes.symm)
  rw [List.length_map, List.length_map] at hlength
  -- an earlier closing tag lies within the content and the closing tag
  have hfirst : p ++ w <+: content ++ (closing ++ rest') := ⟨s, by rw [hp, List.append_assoc]⟩
  have hclosed : content ++ closing <+: content ++ (closing ++ rest') :=
    ⟨rest', List.append_assoc _ _ _⟩
  have hwithin : p ++ w <+: content ++ closing := by
    refine List.prefix_of_prefix_length_le hfirst hclosed ?_
    rw [List.length_append, List.length_append, hlength]
    omega
  obtain ⟨b, hb⟩ := hwithin
  refine hlt (h.shortest p w (b ++ rest) ?_ hw)
  rw [← List.append_assoc, ← hb, List.append_assoc, List.append_assoc]

/-- a tag stands in front of any text if it stands in front of one -/
theorem Tag.Stands.anywhere {t : Tag} {rest : List Char} (h : t.Stands rest) (rest' : List Char) :
    t.Stands rest' where
  opening := h.opening
  named := h.named
  name := h.name
  longest := h.longest
  head := h.head
  bare := h.bare
  filled hends := (h.filled hends).anywhere rest'

theorem Tag.Stands.head?_written {t : Tag} {rest : List Char} (h : t.Stands rest) (cs : List Char) :
    ∀ d ∈ (t.written ++ cs).head?, d = '<' := by
  have hopening : t.opening.head? = some '<' :=
    head?_of_toLower (map_toLower_of_foldCase h.opening (by decide))
  intro d hd
  simp only [Tag.written, List.append_assoc, List.head?_append, hopening, Option.some_or] at hd
  exact (Option.some.inj hd).symm

theorem pieces_written {t : Tag} {rest : List Char} (h : t.Stands rest) :
    pieces (t.written ++ rest) = .tag t :: pieces rest := by
  have hread : Tag.read? (t.written ++ rest) = some (t, rest) := Tag.read?_of_stands h
  cases hcs : t.written ++ rest with
  | nil =>
    have hpos := t.length_written_pos
    rw [(List.append_eq_nil_iff.mp hcs).1, List.length_nil] at hpos
    omega
  | cons c cs =>
    rw [hcs] at hread
    exact pieces_of_read? hread

/-! ## edits as the prompt shows them -/

namespace Edit

/-- the name of the tag for an edit -/
def tagName : Edit → String
  | .replaceAll _ => "replace-all"
  | .append _ => "append"
  | .prepend _ => "prepend"
  | .insert .. => "insert"
  | .replace .. => "replace"
  | .delete _ => "delete"
  | .substitute .. => "search-replace"

/-- the attributes of the tag, in the order in which the prompt shows them -/
def attributes : Edit → List (String × String)
  | .replaceAll _ | .append _ | .prepend _ => []
  | .insert line _ | .replace line _ | .delete line => [("line", toString line)]
  | .substitute find replacement all =>
    [("find", find), ("with", replacement)] ++ if all then [("all", "true")] else []

/-- what stands in front of the closing tag; nothing for a tag that needs none -/
def content? : Edit → Option String
  | .replaceAll c | .append c | .prepend c | .insert _ c | .replace _ c => some c
  | .delete _ | .substitute .. => none

def contentText (e : Edit) : List Char := (e.content?.getD "").toList

def headText (e : Edit) : List Char :=
  attributesText e.attributes ++ if e.content?.isSome then [] else [' ', '/']

def closingText (e : Edit) : List Char :=
  if e.content?.isSome then Tag.closer e.tagName.toList else []

/-- a tag that writes an edit as the prompt shows it, its name in any case -/
structure IsWrittenAs (e : Edit) (t : Tag) : Prop where
  opening : t.opening.map Char.toLower = opener
  name : t.nameText.map Char.toLower = e.tagName.toList
  head : t.head = e.headText
  content : t.content = e.contentText
  closing : t.closing.map Char.toLower = e.closingText

/-- lines of at most eighteen digits, and literals without double quotes -/
def HasPlainParts : Edit → Prop
  | .replaceAll _ | .append _ | .prepend _ => True
  | .insert line _ | .replace line _ | .delete line => line.natAbs < 10 ^ 18
  | .substitute find replacement _ =>
    find ≠ "" ∧ '\"' ∉ find.toList ∧ '\"' ∉ replacement.toList

instance : DecidablePred HasPlainParts
  | .replaceAll _ | .append _ | .prepend _ => .isTrue trivial
  | .insert line _ | .replace line _ | .delete line =>
    inferInstanceAs (Decidable (line.natAbs < 10 ^ 18))
  | .substitute find replacement _ =>
    inferInstanceAs (Decidable (find ≠ "" ∧ '\"' ∉ find.toList ∧ '\"' ∉ replacement.toList))

/-- an edit that can be written so: its content does not hold its own closing tag, either -/
structure IsPlain (e : Edit) : Prop where
  parts : e.HasPlainParts
  content : ¬ Holds (Tag.closer e.tagName.toList) e.contentText

theorem isQuotable_line (line : Int) : IsQuotable ("line", toString line) :=
  isQuotable (by decide +kernel) (by decide +kernel) (quote_not_mem_toString line)

theorem isQuotable_attributes {e : Edit} (h : e.HasPlainParts) :
    ∀ a ∈ e.attributes, IsQuotable a := by
  have hline (line : Int) : ∀ a ∈ [("line", toString line)], IsQuotable a := fun a ha => by
    rw [List.mem_singleton.mp ha]
    exact isQuotable_line line
  cases e with
  | replaceAll c => nofun
  | append c => nofun
  | prepend c => nofun
  | insert line c => exact hline line
  | replace line c => exact hline line
  | delete line => exact hline line
  | substitute find replacement all =>
    obtain ⟨-, hfind, hreplacement⟩ := h
    intro a ha
    rcases List.mem_append.mp ha with ha | ha
    · rcases List.mem_cons.mp ha with rfl | ha
      · exact isQuotable (by decide +kernel) (by decide +kernel) hfind
      · rw [List.mem_singleton.mp ha]
        exact isQuotable (by decide +kernel) (by decide +kernel) hreplacement
    · cases all with
      | false => cases ha
      | true =>
        rw [List.mem_singleton.mp ha]
        exact isQuotable (by decide +kernel) (by decide +kernel) (by decide +kernel)

theorem endsTag_headText (e : Edit) : Tag.endsTag e.headText = !e.content?.isSome := by
  have hslash (cs : List Char) : Tag.endsTag (cs ++ [' ', '/']) = true := by
    rw [Tag.endsTag, List.getLast?_append]
    rfl
  have hline (line : Int) : Tag.endsTag (attributesText [("line", toString line)] ++ []) = false := by
    have hquote : attributesText [("line", toString line)] ++ [] =
        (' ' :: ("line".toList ++ '=' :: '\"' :: (toString line).toList)) ++ ['\"'] := by
      simp only [attributesText, attributeText, List.flatMap_cons, List.flatMap_nil, List.append_nil,
        List.cons_append, List.append_assoc]
    rw [hquote, Tag.endsTag, List.getLast?_concat]
    rfl
  cases e with
  | replaceAll c => rfl
  | append c => rfl
  | prepend c => rfl
  | insert line c => exact hline line
  | replace line c => exact hline line
  | delete line => exact hslash _
  | substitute find replacement all => exact hslash _

def tagNames : List String :=
  ["replace-all", "append", "prepend", "insert", "replace", "delete", "search-replace"]

theorem tagName_mem (e : Edit) : e.tagName ∈ tagNames := by
  cases e <;> simp only [tagName, tagNames, List.mem_cons, true_or, or_true]

/-- names in lower case without the letter that the Kelvin sign is taken for -/
theorem tagNames_plain : ∀ name ∈ tagNames, name.toList ≠ [] ∧ name.toList.all isNameChar = true ∧
    name.toList.map Char.toLower = name.toList ∧
    '<' ∉ name.toList ∧ 'k' ∉ name.toList ∧ '\u212a' ∉ name.toList := by
  decide +kernel

/-- no name goes on into a head -/
theorem headText_head? (e : Edit) : ∀ c ∈ e.headText.head?, isNameChar c = false := by
  have hblank : isNameChar ' ' = false := by decide
  intro c hc
  cases e <;> cases hc <;> exact hblank

/-! ## such a tag is found -/

namespace IsWrittenAs

variable {e : Edit} {t : Tag}

theorem closer_eq (h : e.IsWrittenAs t) :
    Tag.closer t.nameText = Tag.closer e.tagName.toList := by
  obtain ⟨-, -, hlower, -, -, -⟩ := tagNames_plain e.tagName e.tagName_mem
  rw [Tag.closer, Tag.closer, h.name, hlower]

theorem named (h : e.IsWrittenAs t) : t.nameText ≠ [] := by
  intro hnil
  have hname := h.name
  rw [hnil] at hname
  exact (tagNames_plain e.tagName e.tagName_mem).1 hname.symm

theorem isNameChar (h : e.IsWrittenAs t) : ∀ c ∈ t.nameText, Notepad.isNameChar c = true := by
  obtain ⟨-, hname, -, -, -, -⟩ := tagNames_plain e.tagName e.tagName_mem
  intro c hc
  have hlower : c.toLower ∈ e.tagName.toList := by
    rw [← h.name]
    exact List.mem_map_of_mem hc
  exact isNameChar_of_toLower (List.all_eq_true.mp hname _ hlower)

/-- the first closing tag behind the content is the one that was put there -/
theorem endsContent (h : e.IsWrittenAs t) (hplain : e.IsPlain) (hblock : e.content?.isSome = true)
    (rest : List Char) : Tag.EndsContent (Tag.closer t.nameText) t.content t.closing rest := by
  obtain ⟨-, -, -, hlt, hk, hkelvin⟩ := tagNames_plain e.tagName e.tagName_mem
  have hcloser : Tag.closer t.nameText = '<' :: (['/', 'n', 'p', '-'] ++ e.tagName.toList ++ ['>']) := by
    rw [Tag.closer, h.name]
    rfl
  have hclosing : t.closing.map Char.toLower = Tag.closer t.nameText := by
    rw [h.closing, closingText, if_pos hblock, h.closer_eq]
  have hmem {c : Char} (hc : c ∉ e.tagName.toList) (hmarks : c ∉ ['<', '/', 'n', 'p', '-', '>']) :
      c ∉ Tag.closer t.nameText := by
    simp only [hcloser, List.mem_cons, List.mem_append, List.not_mem_nil, or_false, not_or] at hmarks ⊢
    tauto
  constructor
  · exact map_foldCase_of_toLower hclosing (hmem hkelvin (by decide))
  · intro p w s hsplit hw
    by_contra hlength
    refine hplain.content ?_
    have hword : '<' ∉ ['/', 'n', 'p', '-'] ++ e.tagName.toList ++ ['>'] := by
      simp only [List.mem_append, List.mem_cons, List.not_mem_nil, or_false, not_or]
      exact ⟨⟨by decide, hlt⟩, by decide⟩
    have hhead : ∀ c ∈ (t.closing ++ rest).head?, c = '<' := by
      have hclosingHead : t.closing.head? = some '<' := head?_of_toLower (hclosing.trans hcloser)
      intro c hc
      rw [List.head?_append, hclosingHead, Option.some_or] at hc
      exact (Option.some.inj hc).symm
    obtain ⟨s', hs'⟩ := lies_in_first hsplit (by omega) (hw.trans hcloser) hword hhead
    rw [← h.content, hs', ← h.closer_eq]
    exact holds_append (map_toLower_of_foldCase hw (hmem hk (by decide)))

theorem stands (h : e.IsWrittenAs t) (hplain : e.IsPlain) (rest : List Char) : t.Stands rest where
  opening := map_foldCase_of_toLower h.opening (by decide)
  named := h.named
  name := h.isNameChar
  longest := by
    rw [h.head]
    exact e.headText_head?
  head := by
    have hslash : Tag.EndsHead 0 ([' ', '/'] ++ []) :=
      Tag.EndsHead.append (by decide) (fun _ => by decide) (Tag.endsHead_nil rfl)
    have hend : Tag.EndsHead 0 (if e.content?.isSome then [] else [' ', '/']) := by
      split
      · exact Tag.endsHead_nil rfl
      · exact hslash
    rw [h.head]
    exact endsHead_attributes (isQuotable_attributes hplain.parts) hend
  bare hbare := by
    rw [h.head, endsTag_headText, Bool.not_eq_true'] at hbare
    have hnone : e.content? = none := 
      Option.isNone_iff_eq_none.mp (Option.isSome_eq_false_iff.mp hbare)
    have hcontent := h.content
    have hclosing := h.closing
    rw [contentText, hnone] at hcontent
    rw [closingText, hbare, if_neg Bool.false_ne_true, List.map_eq_nil_iff] at hclosing
    exact ⟨hcontent, hclosing⟩
  filled hfilled := by
    rw [h.head, endsTag_headText, Bool.not_eq_false'] at hfilled
    exact h.endsContent hplain hfilled rest

/-! ## such a tag is the edit -/

theorem attributes_eq (h : e.IsWrittenAs t) (hplain : e.IsPlain) :
    t.attributes = e.attributes.map fun a => (a.1.toList, a.2.toList) := by
  have hread (rest : List Char) : Tag.attributesIn (attributesText e.attributes ++ rest) =
      e.attributes.map (fun a => (a.1.toList, a.2.toList)) ++ Tag.attributesIn rest :=
    attributesIn_attributes (isQuotable_attributes hplain.parts)
  rw [Tag.attributes, h.head, endsTag_headText, headText]
  cases hblock : e.content?.isSome with
  | true =>
    have hnone : Tag.attributesIn [] = [] := by rw [Tag.attributesIn]
    rw [if_pos rfl, Bool.not_true, if_neg Bool.false_ne_true, hread, hnone, List.append_nil]
  | false =>
    have hnone : Tag.attributesIn [' '] = [] := by rw [attributesIn_blank, Tag.attributesIn]
    have hdrop : (attributesText e.attributes ++ [' ', '/']).dropLast =
        attributesText e.attributes ++ [' '] := by
      rw [List.dropLast_append_of_ne_nil (List.cons_ne_nil _ _)]
      rfl
    rw [if_neg Bool.false_ne_true, Bool.not_false, if_pos rfl, hdrop, hread, hnone, List.append_nil]

theorem name_eq (h : e.IsWrittenAs t) : t.name = e.tagName := by
  rw [Tag.name, h.name, String.ofList_toList]

theorem attribute?_eq (h : e.IsWrittenAs t) (hplain : e.IsPlain) (key : String) :
    t.attribute? key = (e.attributes.reverse.find? fun a => a.1 = key).map (·.2) := by
  have hkey : (fun a : String × String => decide (a.1.toList = key.toList)) =
      fun a => decide (a.1 = key) := by
    funext a
    exact decide_eq_decide.mpr String.toList_inj
  rw [Tag.attribute?, h.attributes_eq hplain, ← List.map_reverse, List.find?_map, Option.map_map]
  show Option.map _ (List.find? (fun a : String × String => decide (a.1.toList = key.toList)) _) = _
  rw [hkey]
  congr 1
  funext a
  exact String.ofList_toList

theorem contentText_eq (h : e.IsWrittenAs t) : t.contentText = e.content?.getD "" := by
  rw [Tag.contentText, h.content, contentText, String.ofList_toList]

/-- the line of a tag whose only attribute is a line -/
theorem line_eq {line : Int} (h : e.IsWrittenAs t) (hplain : e.IsPlain)
    (hattributes : e.attributes = [("line", toString line)]) (hline : line.natAbs < 10 ^ 18) :
    t.line = .ok (some line) := by
  rw [Tag.line, h.attribute?_eq hplain, hattributes]
  exact Line.read_toString hline

theorem substitution_eq {find replacement : String} {all : Bool}
    (h : (Edit.substitute find replacement all).IsWrittenAs t)
    (hplain : (Edit.substitute find replacement all).IsPlain) :
    t.substitution = some (.substitute find replacement all) := by
  have hattribute := h.attribute?_eq hplain
  have hfind : t.attribute? "find" = some find := by
    rw [hattribute]
    cases all <;> rfl
  have hreplacement : t.attribute? "with" = some replacement := by
    rw [hattribute]
    cases all <;> rfl
  have hne : find.isEmpty = false := by
    rw [← Bool.not_eq_true, String.isEmpty_iff]
    exact hplain.parts.1
  have hall : decide (((t.attribute? "all").getD "").toList.map foldCase = "true".toList) = all := by
    rw [hattribute]
    cases all with
    | false =>
      show decide ("".toList.map foldCase = "true".toList) = false
      decide +kernel
    | true =>
      show decide ("true".toList.map foldCase = "true".toList) = true
      decide +kernel
  rw [Tag.substitution, hfind, hreplacement]
  dsimp only
  rw [hne, if_neg Bool.false_ne_true, hall]

theorem edit (h : e.IsWrittenAs t) (hplain : e.IsPlain) : t.edit = .ok (some e) := by
  have hname := h.name_eq
  have hcontent := h.contentText_eq
  cases e with
  | replaceAll c =>
    rw [Tag.edit, hname, hcontent]
    rfl
  | append c =>
    rw [Tag.edit, hname, hcontent]
    rfl
  | prepend c =>
    rw [Tag.edit, hname, hcontent]
    rfl
  | insert line c =>
    rw [Tag.edit, hname, hcontent, h.line_eq hplain rfl hplain.parts]
    rfl
  | replace line c =>
    rw [Tag.edit, hname, hcontent, h.line_eq hplain rfl hplain.parts]
    rfl
  | delete line =>
    rw [Tag.edit, hname, h.line_eq hplain rfl hplain.parts]
    rfl
  | substitute find replacement all =>
    rw [Tag.edit, hname]
    show Except.ok t.substitution = _
    rw [h.substitution_eq hplain]

end IsWrittenAs

/-- the tag for an edit, all in lower case -/
def tag (e : Edit) : Tag :=
  ⟨opener, e.tagName.toList, e.headText, e.contentText, e.closingText⟩

theorem isWrittenAs_tag (e : Edit) : e.IsWrittenAs e.tag := by
  obtain ⟨-, -, hlower, -, -, -⟩ := tagNames_plain e.tagName e.tagName_mem
  have hopening : opener.map Char.toLower = opener := by decide
  refine ⟨hopening, hlower, rfl, rfl, ?_⟩
  show e.closingText.map Char.toLower = e.closingText
  rw [closingText]
  split
  · rw [Tag.closer, hlower, List.map_append, List.map_append, hlower]
    rfl
  · rfl

/-- the tags that the prompt shows are of this form -/
example : [append "\nText added at the end.\n", replace 8 "\nNew content for line 8.\n", delete 3,
    substitute "old text" "new text" true].map (fun e => String.ofList e.tag.written) =
    ["<np-append>\nText added at the end.\n</np-append>",
      "<np-replace line=\"8\">\nNew content for line 8.\n</np-replace>", "<np-delete line=\"3\" />",
      "<np-search-replace find=\"old text\" with=\"new text\" all=\"true\" />"] := by decide +kernel

end Edit

/-! ## replies made of such tags -/

section

variable {texts : List (List Char)} {ts : List Tag}

theorem filterMap_plain (cs : List Char) : (cs.map Piece.plain).filterMap Piece.tag? = [] ∧
    (cs.map Piece.plain).filterMap Piece.plain? = cs := by
  induction cs with
  | nil => exact ⟨rfl, rfl⟩
  | cons c cs ih => exact ⟨ih.1, congrArg (c :: ·) ih.2⟩

/-- tags that stand wherever they are put, and plain texts between them, are found again -/
theorem pieces_weave (hlength : texts.length = ts.length + 1)
    (htexts : ∀ x ∈ texts, ¬ Holds opener x) (hts : ∀ t ∈ ts, ∀ rest, t.Stands rest) :
    tags (weave texts (ts.map Tag.written)) = ts ∧
      residual (weave texts (ts.map Tag.written)) = texts.flatten := by
  induction ts generalizing texts with
  | nil =>
    obtain ⟨g, rfl⟩ := List.length_eq_one_iff.mp hlength
    rw [List.map_nil, weave, List.flatten_nil, List.append_nil, tags, residual,
      pieces_of_not_holds (htexts g List.mem_cons_self), List.flatten_singleton]
    exact filterMap_plain g
  | cons t ts ih =>
    cases texts with
    | nil => cases hlength
    | cons g gs =>
      have hlength' : gs.length = ts.length + 1 := Nat.succ.inj hlength
      obtain ⟨htags, hresidual⟩ := ih hlength' (fun x hx => htexts x (List.mem_cons_of_mem g hx))
        fun t' ht' => hts t' (List.mem_cons_of_mem t ht')
      have hstands : t.Stands (weave gs (ts.map Tag.written)) := hts t List.mem_cons_self _
      have hpieces : pieces (g ++ (t.written ++ weave gs (ts.map Tag.written))) =
          g.map .plain ++ .tag t :: pieces (weave gs (ts.map Tag.written)) := by
        rw [pieces_append_of_not_holds (htexts g List.mem_cons_self) (hstands.head?_written _),
          pieces_written hstands]
      rw [List.map_cons, weave, tags, residual, hpieces, List.filterMap_append,
        List.filterMap_append, (filterMap_plain g).1, (filterMap_plain g).2, List.nil_append,
        List.flatten_cons]
      exact ⟨congrArg (t :: ·) htags, congrArg (g ++ ·) hresidual⟩

theorem stands_of_written {edits : List Edit} (hplain : ∀ e ∈ edits, e.IsPlain)
    (h : List.Forall₂ Edit.IsWrittenAs edits ts) : ∀ t ∈ ts, ∀ rest, t.Stands rest := by
  induction h with
  | nil => nofun
  | cons ht _ ih =>
    intro t hmem rest
    rcases List.mem_cons.mp hmem with rfl | hmem
    · exact ht.stands (hplain _ List.mem_cons_self) rest
    · exact ih (fun e he => hplain e (List.mem_cons_of_mem _ he)) t hmem rest

theorem Reply.editsOf_written {edits : List Edit} (hplain : ∀ e ∈ edits, e.IsPlain)
    (h : List.Forall₂ Edit.IsWrittenAs edits ts) : Reply.editsOf ts = .ok edits := by
  induction h with
  | nil => rfl
  | cons ht _ ih =>
    have he := ht.edit (hplain _ List.mem_cons_self)
    have htail := ih fun e he => hplain e (List.mem_cons_of_mem _ he)
    rw [Reply.editsOf, he, htail]
    rfl

/-- a reply that is made of edits in the form of the prompt, and of texts between them that start no
tag, makes these edits and says these texts -/
theorem Reply.read_documented {edits : List Edit} (hlength : texts.length = ts.length + 1)
    (htexts : ∀ x ∈ texts, ¬ Holds opener x) (hplain : ∀ e ∈ edits, e.IsPlain)
    (hwritten : List.Forall₂ Edit.IsWrittenAs edits ts) :
    Reply.read (String.ofList (weave texts (ts.map Tag.written))) =
      .ok ⟨trim (String.ofList texts.flatten), edits⟩ := by
  have hstands : ∀ t ∈ ts, ∀ rest, t.Stands rest := stands_of_written hplain hwritten
  obtain ⟨htags, hresidual⟩ := pieces_weave hlength htexts hstands
  rw [Reply.read, String.toList_ofList, htags, hresidual, Reply.editsOf_written hplain hwritten, trim,
    String.toList_ofList]
  rfl

end

/-- an edit whose content looks like other tags, a replacement whose literals do, and a line taken out -/
def disguised : List Edit :=
  [.append "</np-prepend> <np-append>\n", .substitute "<np-delete line=" "/>\n" true, .delete (-7)]

def disguisedTags : List Tag :=
  [⟨"<NP-".toList, "Append".toList, [], "</np-prepend> <np-append>\n".toList, "</nP-aPPend>".toList⟩,
    (Edit.substitute "<np-delete line=" "/>\n" true).tag, (Edit.delete (-7)).tag]

def disguisedTexts : List String := [" First ", "", "</np-append> & ", "last <np\n"]

theorem read_documented_disguised :
    disguisedTexts.length = disguisedTags.length + 1 ∧
      (∀ x ∈ disguisedTexts.map String.toList, ¬ Holds opener x) ∧
      (∀ e ∈ disguised, e.IsPlain) ∧ List.Forall₂ Edit.IsWrittenAs disguised disguisedTags ∧
      Reply.read (" First <NP-Append></np-prepend> <np-append>\n</nP-aPPend>" ++
        "<np-search-replace find=\"<np-delete line=\" with=\"/>\n\" all=\"true\" />" ++
        "</np-append> & <np-delete line=\"-7\" />last <np\n") =
        .ok ⟨"First </np-append> & last <np", disguised⟩ := by
  have htexts : ∀ x ∈ disguisedTexts.map String.toList, ¬ Holds opener x := by decide +kernel
  have hplain : ∀ e ∈ disguised, e.IsPlain := by
    intro e he
    rcases List.mem_cons.mp he with rfl | he
    · exact ⟨trivial, by decide +kernel⟩
    rcases List.mem_cons.mp he with rfl | he
    · exact ⟨by decide +kernel, by decide +kernel⟩
    · rw [List.mem_singleton.mp he]
      exact ⟨by decide +kernel, by decide +kernel⟩
  have hwritten : List.Forall₂ Edit.IsWrittenAs disguised disguisedTags := by
    refine .cons ⟨?_, ?_, ?_, ?_, ?_⟩ (.cons (Edit.isWrittenAs_tag _) (.cons (Edit.isWrittenAs_tag _) .nil))
    all_goals decide +kernel
  refine ⟨rfl, htexts, hplain, hwritten, ?_⟩
  have hread := Reply.read_documented (by rfl) htexts hplain hwritten
  have hreply : String.ofList (weave (disguisedTexts.map String.toList)
      (disguisedTags.map Tag.written)) =
      " First <NP-Append></np-prepend> <np-append>\n</nP-aPPend>" ++
        "<np-search-replace find=\"<np-delete line=\" with=\"/>\n\" all=\"true\" />" ++
        "</np-append> & <np-delete line=\"-7\" />last <np\n" := by decide +kernel
  have hspoken : trim (String.ofList (disguisedTexts.map String.toList).flatten) =
      "First </np-append> & last <np" := by decide +kernel
  rw [hreply, hspoken] at hread
  exact hread

end Debate.Notepad
