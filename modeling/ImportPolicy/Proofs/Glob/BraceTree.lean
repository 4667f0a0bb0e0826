import ImportPolicy.Glob.Brace
import Mathlib.Data.Nat.Digits.Defs

/-!
# Brace trees

The meaning of braces, said without a text that is read and read again. A
tree is built from characters, escaped characters, concatenations, choices
between two trees or more, and sequences of numbers or letters. It is written
as a pattern by `render`, and stands for a list of texts by `denote`:
concatenation is the product of the lists, the leftmost factor being the
slowest, and a choice is the lists of its branches one after the other.

A sequence has the numbers from its first end towards its last one that are a
multiple of the step away from the first end. The step of a sequence counts
by its size, and a step of zero is as good as none.

Trees of every depth and size have a meaning. The recursion limit of an
expansion is put aside, as it is in the expansion itself.
-/

namespace ImportPolicy.Glob

/-! ## Numbers as they are written -/

/-- The value of a decimal digit of any script, zero for other
characters. -/
def digitOf (c : Char) : Nat := (Text.digitValue? c).getD 0

/-- A whole number as it can be written in a sequence: at least one digit, of
any script, and not too many of them, perhaps behind a minus. -/
structure Written where
  /-- Whether a minus stands before the digits. -/
  negative : Bool
  /-- The digits, the first one first. -/
  digits : List Char
  /-- There is a digit. -/
  digits_ne_nil : digits ≠ []
  /-- There are only digits. -/
  isDigit_of_mem : ∀ c ∈ digits, Text.isDigit c = true
  /-- There are not too many of them to be read. -/
  length_le : digits.length ≤ 4300

namespace Written

/-- The characters of a written number. -/
def text (w : Written) : List Char := if w.negative then '-' :: w.digits else w.digits

/-- The number that is written. -/
def value (w : Written) : Int :=
  let size : Nat := Nat.ofDigits 10 (w.digits.map digitOf).reverse
  if w.negative then -size else size

end Written

/-- The step of a sequence, with the dots before it, if one is written. -/
def stepText : Option Written → List Char
  | none => []
  | some step => '.' :: '.' :: step.text

/-- By how much a sequence goes on: the size of its step, and one if that is
zero or no step is written. -/
def stepSize : Option Written → Nat
  | none => 1
  | some step => max 1 step.value.natAbs

/-- The numbers from one end towards another one whose distance from the
first end is a multiple of the step. -/
def between (first last : Int) (step : Nat) : List Int :=
  ((List.range ((last - first).natAbs + 1)).filter (step ∣ ·)).map fun (distance : Nat) =>
    if first ≤ last then first + distance else first - distance

/-! ## Trees -/

/-- Whether a character means nothing to braces. -/
def isPlain (c : Char) : Bool := c ≠ '\\' ∧ c ≠ '{' ∧ c ≠ '}' ∧ c ≠ ','

/-- Whether two characters are letters of the Latin alphabet of the same
case. -/
def sameCase (x y : Char) : Bool :=
  (('a' ≤ x && x ≤ 'z') && ('a' ≤ y && y ≤ 'z'))
    || (('A' ≤ x && x ≤ 'Z') && ('A' ≤ y && y ≤ 'Z'))

/-- A pattern by its structure. -/
inductive BraceTree where
  /-- A character that means nothing to braces. -/
  | literal (c : Char) (plain : isPlain c = true)
  /-- Any character behind a backslash. -/
  | escape (c : Char)
  /-- Any number of trees one after the other. -/
  | concat (parts : List BraceTree)
  /-- A choice between two trees or more. -/
  | choice (first second : BraceTree) (more : List BraceTree)
  /-- A sequence of numbers. -/
  | numbers (first last : Written) (step : Option Written)
  /-- A sequence of letters of one case. -/
  | letters (first last : Char) (same : sameCase first last = true) (step : Option Written)

/-- The texts of one list, each before all the texts of another. -/
def times (left right : List (List Char)) : List (List Char) :=
  left.flatMap fun text => right.map (text ++ ·)

/-- The product of some lists of texts, the leftmost list being the
slowest. -/
def product : List (List (List Char)) → List (List Char)
  | [] => [[]]
  | texts :: more => times texts (product more)

namespace BraceTree

mutual

/-- A tree as a pattern. -/
def render : BraceTree → List Char
  | literal c _ => [c]
  | escape c => ['\\', c]
  | concat parts => (renderAll parts).flatten
  | choice first second more =>
    '{' :: (List.intercalate [','] (first.render :: second.render :: renderAll more) ++ ['}'])
  | numbers first last step =>
    '{' :: (first.text ++ '.' :: '.' :: (last.text ++ stepText step) ++ ['}'])
  | letters first last _ step =>
    '{' :: (first :: '.' :: '.' :: last :: stepText step ++ ['}'])

/-- Some trees, each as a pattern. -/
def renderAll : List BraceTree → List (List Char)
  | [] => []
  | t :: more => t.render :: renderAll more

end

mutual

/-- The texts a tree stands for, in order. -/
def denote : BraceTree → List (List Char)
  | literal c _ => [[c]]
  | escape c => [['\\', c]]
  | concat parts => product (denoteAll parts)
  | choice first second more => first.denote ++ second.denote ++ (denoteAll more).flatten
  | numbers first last step =>
    (between first.value last.value (stepSize step)).map decimal
  | letters first last _ step =>
    (between first.toNat last.toNat (stepSize step)).map fun n => [Char.ofNat n.toNat]

/-- What each of some trees stands for. -/
def denoteAll : List BraceTree → List (List (List Char))
  | [] => []
  | t :: more => t.denote :: denoteAll more

end

@[simp] theorem renderAll_eq_map (ts : List BraceTree) : renderAll ts = ts.map render := by
  induction ts with
  | nil => rfl
  | cons t more ih => rw [renderAll, ih, List.map_cons]

@[simp] theorem denoteAll_eq_map (ts : List BraceTree) : denoteAll ts = ts.map denote := by
  induction ts with
  | nil => rfl
  | cons t more ih => rw [denoteAll, ih, List.map_cons]

/-- Induction over trees, with the statement at hand for every part of a
concatenation and every branch of a choice. -/
@[elab_as_elim]
theorem tree_induction {motive : BraceTree → Prop}
    (literal : ∀ c plain, motive (.literal c plain)) (escape : ∀ c, motive (.escape c))
    (concat : ∀ parts, (∀ t ∈ parts, motive t) → motive (.concat parts))
    (choice : ∀ first second more, (∀ t ∈ first :: second :: more, motive t) →
      motive (.choice first second more))
    (numbers : ∀ first last step, motive (.numbers first last step))
    (letters : ∀ first last same step, motive (.letters first last same step))
    (t : BraceTree) : motive t := by
  refine @BraceTree.rec motive (fun ts => ∀ t ∈ ts, motive t)
    literal escape concat ?_ numbers letters ?_ ?_ t
  · intro first second more hfirst hsecond hmore
    refine choice first second more (fun t ht => ?_)
    rcases List.mem_cons.mp ht with rfl | ht
    · exact hfirst
    rcases List.mem_cons.mp ht with rfl | ht
    · exact hsecond
    · exact hmore t ht
  · simp
  · intro t more ht hmore other hother
    rcases List.mem_cons.mp hother with rfl | hother
    · exact ht
    · exact hmore other hother

end BraceTree

end ImportPolicy.Glob
