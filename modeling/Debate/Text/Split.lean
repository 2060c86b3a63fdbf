/-!
# Splitting a text at a literal

A text is cut at the leftmost occurrences of a literal, one after the other and never overlapping.
Lines are the pieces between line feeds; a literal is replaced by joining the pieces with
something else.

* `dropLiteral?`              the text after a literal that it starts with;
* `split`                     the pieces between the occurrences of a literal, never none;
* `join`                      pieces with a literal between each two;
* `lines`, `unlines`          the pieces between line feeds, and back;
* `replaceAll`, `replaceFirst`  every occurrence, or only the first, replaced;
* `unifyNewlines`             a text with every line end as a line feed.

Joining with the literal itself gives the text back (`join_split`), so replacing a literal by
itself changes nothing.
-/

namespace Debate.Text

/-- the text after a literal that it starts with -/
def dropLiteral? : List Char → List Char → Option (List Char)
  | [], cs => some cs
  | _ :: _, [] => none
  | l :: ls, c :: cs => if l = c then dropLiteral? ls cs else none

theorem dropLiteral?_eq_some_iff {l cs rest : List Char} :
    dropLiteral? l cs = some rest ↔ cs = l ++ rest := by
  induction l generalizing cs with
  | nil => simp [dropLiteral?, eq_comm]
  | cons a l ih =>
    cases cs with
    | nil => simp [dropLiteral?]
    | cons c cs =>
      by_cases h : a = c
      · subst h; simp [dropLiteral?, ih]
      · simp [dropLiteral?, h, Ne.symm h]

theorem dropLiteral?_append (l cs : List Char) : dropLiteral? l (l ++ cs) = some cs :=
  dropLiteral?_eq_some_iff.2 rfl

theorem length_of_dropLiteral? {l cs rest : List Char} (h : dropLiteral? l cs = some rest) :
    cs.length = l.length + rest.length := by
  rw [dropLiteral?_eq_some_iff.1 h, List.length_append]

/-! ## pieces -/

/-- puts a character in front of the first piece -/
def consHead (c : Char) : List (List Char) → List (List Char)
  | [] => [[c]]
  | p :: ps => (c :: p) :: ps

/-- the pieces between the occurrences of a literal, from left to right; an empty literal occurs
nowhere -/
def split (l : List Char) : List Char → List (List Char)
  | [] => [[]]
  | c :: cs =>
    if _hl : l = [] then [c :: cs]
    else
      match _h : dropLiteral? l (c :: cs) with
      | some rest => [] :: split l rest
      | none => consHead c (split l cs)
  termination_by cs => cs.length
  decreasing_by
    · have := length_of_dropLiteral? _h
      have := List.length_pos_iff.2 _hl
      omega
    · simp

/-- pieces with a literal between each two -/
def join (l : List Char) : List (List Char) → List Char
  | [] => []
  | [p] => p
  | p :: q :: ps => p ++ l ++ join l (q :: ps)

@[simp] theorem consHead_ne_nil (c : Char) (ps : List (List Char)) : consHead c ps ≠ [] := by
  cases ps <;> simp [consHead]

@[simp] theorem split_nil (l : List Char) : split l [] = [[]] := by rw [split]

theorem split_ne_nil (l cs : List Char) : split l cs ≠ [] := by
  cases cs with
  | nil => simp
  | cons c cs =>
    rw [split]
    split
    · simp
    · split <;> simp

theorem split_append_left {l : List Char} (hl : l ≠ []) (cs : List Char) :
    split l (l ++ cs) = [] :: split l cs := by
  cases h : l ++ cs with
  | nil => simp_all
  | cons d ds =>
    rw [split, dif_neg hl]
    have hd : dropLiteral? l (d :: ds) = some cs := h ▸ dropLiteral?_append l cs
    split
    · rename_i rest hrest
      rw [hd] at hrest
      cases hrest
      rfl
    · rename_i hrest
      rw [hd] at hrest
      cases hrest

theorem split_cons_of_none {l : List Char} {c : Char} {cs : List Char} (hl : l ≠ [])
    (h : dropLiteral? l (c :: cs) = none) : split l (c :: cs) = consHead c (split l cs) := by
  rw [split, dif_neg hl]
  split
  · rename_i rest hrest
    rw [h] at hrest
    cases hrest
  · rfl

@[simp] theorem join_nil (l : List Char) : join l [] = [] := rfl

@[simp] theorem join_singleton (l p : List Char) : join l [p] = p := rfl

theorem join_cons {l p : List Char} {ps : List (List Char)} (h : ps ≠ []) :
    join l (p :: ps) = p ++ l ++ join l ps := by
  cases ps with
  | nil => exact absurd rfl h
  | cons q ps => rfl

theorem join_consHead {l : List Char} {c : Char} {ps : List (List Char)} (h : ps ≠ []) :
    join l (consHead c ps) = c :: join l ps := by
  match ps with
  | [] => exact absurd rfl h
  | [p] => rfl
  | p :: q :: ps => rfl

/-- the pieces of a text with the literal between them are the text -/
theorem join_split (l cs : List Char) : join l (split l cs) = cs := by
  fun_induction split l cs with
  | case1 => rfl
  | case2 => rfl
  | case3 c cs hl rest h ih =>
    rw [join_cons (split_ne_nil l rest), ih, dropLiteral?_eq_some_iff.1 h, List.nil_append]
  | case4 c cs hl h ih => rw [join_consHead (split_ne_nil l cs), ih]

/-! ## lines -/

/-- the lines of a text: the pieces between line feeds -/
def lines (cs : List Char) : List (List Char) := split ['\n'] cs

/-- lines with a line feed between each two -/
def unlines (ls : List (List Char)) : List Char := join ['\n'] ls

theorem lines_ne_nil (cs : List Char) : lines cs ≠ [] := split_ne_nil _ cs

@[simp] theorem lines_nil : lines [] = [[]] := split_nil _

@[simp] theorem lines_newline (cs : List Char) : lines ('\n' :: cs) = [] :: lines cs :=
  split_append_left (l := ['\n']) (by simp) cs

theorem lines_cons {c : Char} (h : c ≠ '\n') (cs : List Char) :
    lines (c :: cs) = consHead c (lines cs) :=
  split_cons_of_none (by simp) (by simp [dropLiteral?, Ne.symm h])

theorem unlines_lines (cs : List Char) : unlines (lines cs) = cs := join_split _ cs

/-! ## replacement -/

/-- every occurrence of a literal replaced, from left to right -/
def replaceAll (l w cs : List Char) : List Char := join w (split l cs)

/-- only the first occurrence of a literal replaced -/
def replaceFirst (l w cs : List Char) : List Char :=
  match split l cs with
  | p :: q :: ps => p ++ w ++ join l (q :: ps)
  | _ => cs

theorem replaceAll_self (l cs : List Char) : replaceAll l l cs = cs := join_split l cs

theorem replaceFirst_self (l cs : List Char) : replaceFirst l l cs = cs := by
  unfold replaceFirst
  split
  · rename_i p q ps h
    have := join_split l cs
    rwa [h] at this
  · rfl

/-- the first place where a literal occurs, as the text before it and the text after it -/
def cutAt? (l cs : List Char) : Option (List Char × List Char) :=
  match split l cs with
  | p :: q :: ps => some (p, join l (q :: ps))
  | _ => none

/-- whether a literal occurs in a text; the empty literal occurs everywhere -/
def contains (l cs : List Char) : Bool := l.isEmpty || (split l cs).length != 1

example : lines ['a', '\n', '\n'] = [['a'], [], []] := by simp [lines_cons, consHead]

/-! ## line ends

A file may end its lines with a carriage return, a line feed, or both; a text has line feeds only. -/

/-- every line end as a line feed -/
def unifyNewlines : List Char → List Char
  | [] => []
  | '\r' :: '\n' :: cs => '\n' :: unifyNewlines cs
  | '\r' :: cs => '\n' :: unifyNewlines cs
  | c :: cs => c :: unifyNewlines cs

theorem unifyNewlines_of_not_mem {cs : List Char} (h : '\r' ∉ cs) : unifyNewlines cs = cs := by
  fun_induction unifyNewlines cs with
  | case1 => rfl
  | case2 cs ih => simp at h
  | case3 cs h' ih => simp at h
  | case4 c cs h1 h2 ih => simp_all

example : unifyNewlines "a\r\nb\rc\n".toList = "a\nb\nc\n".toList := by decide +kernel

end Debate.Text
