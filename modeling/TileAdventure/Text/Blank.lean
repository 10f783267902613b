/-!
# Blank characters and words

The blanks are the characters with the Unicode property White_Space. `words` cuts a text at
its runs of blanks, so no word is empty and no word holds a blank, and `trim` drops the
blanks at both ends.
-/

namespace TileAdventure.Text

/-- The characters with the property White_Space, as inclusive ranges of code points. -/
def blankRanges : List (Nat × Nat) :=
  [(0x09, 0x0D), (0x20, 0x20), (0x85, 0x85), (0xA0, 0xA0), (0x1680, 0x1680), (0x2000, 0x200A),
    (0x2028, 0x2029), (0x202F, 0x202F), (0x205F, 0x205F), (0x3000, 0x3000)]

/-- Whether `c` is a blank. -/
def isBlank (c : Char) : Bool :=
  blankRanges.any fun (first, last) => first ≤ c.toNat && c.toNat ≤ last

/-- The words of `cs` when `word` holds the letters, last first, of a word under way. -/
def wordsFrom (word : List Char) : List Char → List (List Char)
  | [] => if word.isEmpty then [] else [word.reverse]
  | c :: cs =>
    if isBlank c then
      if word.isEmpty then wordsFrom [] cs else word.reverse :: wordsFrom [] cs
    else wordsFrom (c :: word) cs

/-- No word is empty. -/
theorem ne_nil_of_mem_wordsFrom (word cs : List Char) : ∀ w ∈ wordsFrom word cs, w ≠ [] := by
  fun_induction wordsFrom word cs <;> grind [List.reverse_eq_nil_iff, List.isEmpty_iff]

/-- No word holds a blank, if the one under way holds none. -/
theorem not_isBlank_of_mem_wordsFrom (word cs : List Char) (h : ∀ c ∈ word, isBlank c = false) :
    ∀ w ∈ wordsFrom word cs, ∀ c ∈ w, isBlank c = false := by
  fun_induction wordsFrom word cs <;> grind

/-- The words of `cs` in order. -/
def words (cs : List Char) : List (List Char) :=
  wordsFrom [] cs

/-- `cs` without the blanks at its ends. -/
def trim (cs : List Char) : List Char :=
  ((cs.dropWhile isBlank).reverse.dropWhile isBlank).reverse

/-- An ASCII capital becomes its small letter, any other character stays. -/
def lower (cs : List Char) : List Char :=
  cs.map Char.toLower

end TileAdventure.Text
