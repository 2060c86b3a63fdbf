/-!
# Blanks

The white space of Unicode, the information separators U+001C to U+001F included, and the cutting
of blanks from the ends of a text.

* `isBlank`                 the class of blanks;
* `trimLeft`, `trimRight`   a text without the blanks at one end;
* `trim`                    a text without the blanks at either end;
* `isAllBlank`              whether a text holds nothing but blanks.
-/

namespace Debate.Text

/-- white space of any kind -/
def isBlank (c : Char) : Bool :=
  let n := c.toNat
  (9 ≤ n && n ≤ 13) || (28 ≤ n && n ≤ 32) || n == 0x85 || n == 0xA0 || n == 0x1680 ||
    (0x2000 ≤ n && n ≤ 0x200A) || n == 0x2028 || n == 0x2029 || n == 0x202F || n == 0x205F ||
    n == 0x3000

/-- core's white space is part of the class -/
theorem isBlank_of_isWhitespace {c : Char} (h : c.isWhitespace) : isBlank c := by
  simp only [Char.isWhitespace, Bool.or_eq_true, decide_eq_true_eq] at h
  rcases h with ((rfl | rfl) | rfl) | rfl <;> decide

/-! ## cutting blanks -/

/-- the text from its first character that is no blank -/
def trimLeft (cs : List Char) : List Char := cs.dropWhile isBlank

/-- the text up to its last character that is no blank -/
def trimRight (cs : List Char) : List Char := (cs.reverse.dropWhile isBlank).reverse

/-- the text between its first and last characters that are no blanks -/
def trimChars (cs : List Char) : List Char := trimRight (trimLeft cs)

/-- a text without the blanks at its ends -/
def trim (s : String) : String := String.ofList (trimChars s.toList)

/-- nothing but blanks -/
def isAllBlank (s : String) : Bool := s.toList.all isBlank

@[simp] theorem trimLeft_nil : trimLeft [] = [] := rfl

theorem trimLeft_cons (c : Char) (cs : List Char) :
    trimLeft (c :: cs) = if isBlank c then trimLeft cs else c :: cs := by
  cases h : isBlank c <;> simp [trimLeft, h]

@[simp] theorem trimRight_nil : trimRight [] = [] := rfl

@[simp] theorem trimChars_nil : trimChars [] = [] := rfl

theorem trimLeft_eq_nil_iff {cs : List Char} : trimLeft cs = [] ↔ ∀ c ∈ cs, isBlank c := by
  induction cs with
  | nil => simp
  | cons c cs ih => rw [trimLeft_cons]; split <;> simp_all

theorem trimRight_eq_nil_iff {cs : List Char} : trimRight cs = [] ↔ ∀ c ∈ cs, isBlank c := by
  rw [trimRight, List.reverse_eq_nil_iff]
  exact trimLeft_eq_nil_iff.trans (by simp)

example : trim "  a b\n" = "a b" := by decide +kernel
example : trim "\u00a0\u3000x\x1c" = "x" := by decide +kernel
example : trim "\u200bx\ufeff" = "\u200bx\ufeff" := by decide +kernel

end Debate.Text
