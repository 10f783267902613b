import TileAdventure.Text.Blank

/-!
# The words of a text

A text has certain words in it (`HasWords`) if it is these words in order, each a run of
characters that are not blank, with blanks around them, at least one between two words. Every
text has exactly one list of words in it, and that is what `words` gives (`hasWords_iff`). Put
together, they are the text without its blanks (`flatten_words`).
-/

namespace TileAdventure.Text

/-- The text `cs` is made of the given words, with blanks before, between and after them. -/
inductive HasWords : List Char → List (List Char) → Prop
  | blank {cs : List Char} (hblank : ∀ c ∈ cs, isBlank c = true) : HasWords cs []
  /-- A word ends where a blank follows or the text ends. -/
  | word {before word after : List Char} {words : List (List Char)}
      (hbefore : ∀ c ∈ before, isBlank c = true) (hne : word ≠ [])
      (hword : ∀ c ∈ word, isBlank c = false) (hend : ∀ c ∈ after.head?, isBlank c = true)
      (hafter : HasWords after words) : HasWords (before ++ word ++ after) (word :: words)

variable {cs word : List Char} {ws : List (List Char)} {c : Char}

/-! ## Reading a text -/

/-- Blanks before a word are passed over. -/
theorem wordsFrom_blanks_append {blanks : List Char} (h : ∀ c ∈ blanks, isBlank c = true)
    (cs : List Char) : wordsFrom [] (blanks ++ cs) = wordsFrom [] cs := by
  induction blanks with
  | nil => rfl
  | cons c blanks ih =>
    rw [List.cons_append, wordsFrom, if_pos (h c List.mem_cons_self)]
    exact ih fun c hc => h c (List.mem_cons_of_mem _ hc)

/-- The letters of a word join those read already. -/
theorem wordsFrom_letters_append {letters : List Char} (h : ∀ c ∈ letters, isBlank c = false)
    (word cs : List Char) :
    wordsFrom word (letters ++ cs) = wordsFrom (letters.reverse ++ word) cs := by
  induction letters generalizing word with
  | nil => rfl
  | cons c letters ih =>
    have hc : ¬isBlank c = true := by simp [h c List.mem_cons_self]
    rw [List.cons_append, wordsFrom, if_neg hc, ih fun c hc => h c (List.mem_cons_of_mem _ hc)]
    simp

/-- A word is complete where a blank follows or the text ends. -/
theorem wordsFrom_of_end (hne : word ≠ []) (hend : ∀ c ∈ cs.head?, isBlank c = true) :
    wordsFrom word cs = word.reverse :: wordsFrom [] cs := by
  cases cs with
  | nil => simp [wordsFrom, hne]
  | cons c cs => simp [wordsFrom, hne, hend c rfl]

/-- A text is read as the words in it. -/
theorem HasWords.words_eq (h : HasWords cs ws) : words cs = ws := by
  induction h with
  | @blank cs hblank =>
    have hwords := wordsFrom_blanks_append hblank []
    rwa [List.append_nil] at hwords
  | @word before word after ws hbefore hne hword hend _ ih =>
    have hne' : word.reverse ++ [] ≠ [] := by simpa using hne
    rw [words, List.append_assoc, wordsFrom_blanks_append hbefore,
      wordsFrom_letters_append hword, wordsFrom_of_end hne' hend, List.append_nil,
      List.reverse_reverse]
    exact congrArg (word :: ·) ih

/-! ## Every text has words in it -/

/-- A blank in front changes nothing. -/
theorem HasWords.cons (hc : isBlank c = true) (h : HasWords cs ws) : HasWords (c :: cs) ws := by
  cases h with
  | blank hblank => exact .blank (by simpa [hc] using hblank)
  | @word before word after ws hbefore hne hword hend hafter =>
    have hmore : ∀ b ∈ c :: before, isBlank b = true := by simpa [hc] using hbefore
    exact .word hmore hne hword hend hafter

/-- A text may begin with a word. -/
theorem HasWords.of_word (hne : word ≠ []) (hword : ∀ c ∈ word, isBlank c = false)
    (hend : ∀ c ∈ cs.head?, isBlank c = true) (h : HasWords cs ws) :
    HasWords (word ++ cs) (word :: ws) := by
  have hbefore : ∀ c ∈ [], isBlank c = true := by simp
  exact .word hbefore hne hword hend h

/-- What is read when the letters of a word are under way. -/
theorem hasWords_wordsFrom (word cs : List Char) (hword : ∀ c ∈ word, isBlank c = false) :
    HasWords (word.reverse ++ cs) (wordsFrom word cs) := by
  have hletters : ∀ c ∈ word.reverse, isBlank c = false := by simpa using hword
  fun_induction wordsFrom word cs with
  | case1 word hempty =>
    rw [List.isEmpty_iff.mp hempty]
    exact .blank (by simp)
  | case2 word hempty =>
    have hne : word.reverse ≠ [] := by simpa using hempty
    exact .of_word hne hletters (by simp) (.blank (by simp))
  | case3 word c cs hblank hempty ih =>
    rw [List.isEmpty_iff.mp hempty]
    exact (ih (by simp) (by simp)).cons hblank
  | case4 word c cs hblank hempty ih =>
    have hne : word.reverse ≠ [] := by simpa using hempty
    have hafter : HasWords (c :: cs) (wordsFrom [] cs) := (ih (by simp) (by simp)).cons hblank
    exact .of_word hne hletters (by simpa using hblank) hafter
  | case5 word c cs hblank ih =>
    have hc : isBlank c = false := by simpa using hblank
    have hmore : ∀ c' ∈ c :: word, isBlank c' = false := by simpa [hc] using hword
    have hrest := ih hmore (by simpa [or_comm] using hmore)
    rwa [List.reverse_cons, List.append_assoc, List.singleton_append] at hrest

/-- A text has just those words in it that are read. -/
theorem hasWords_iff : HasWords cs ws ↔ words cs = ws :=
  ⟨HasWords.words_eq, fun h => h ▸ hasWords_wordsFrom [] cs (by simp)⟩

/-! ## The words put together -/

theorem flatten_wordsFrom (word cs : List Char) :
    (wordsFrom word cs).flatten = word.reverse ++ cs.filter (!isBlank ·) := by
  fun_induction wordsFrom word cs with
  | case1 word h => simp [List.isEmpty_iff.mp h]
  | case2 word h => simp
  | case3 word c cs hblank h ih => simp_all
  | case4 word c cs hblank h ih => simp [ih, hblank]
  | case5 word c cs hblank ih => simp [ih, hblank]

/-- The words of a text are the text without its blanks. -/
theorem flatten_words (cs : List Char) : (words cs).flatten = cs.filter (!isBlank ·) :=
  flatten_wordsFrom [] cs

theorem ne_nil_of_mem_words (h : word ∈ words cs) : word ≠ [] :=
  ne_nil_of_mem_wordsFrom [] cs word h

theorem not_isBlank_of_mem_words (h : word ∈ words cs) (hc : c ∈ word) : isBlank c = false :=
  not_isBlank_of_mem_wordsFrom [] cs (by simp) word h c hc

/-- A text without words is blank. -/
theorem words_eq_nil_iff : words cs = [] ↔ ∀ c ∈ cs, isBlank c = true := by
  have hflatten := flatten_words cs
  constructor
  · intro h
    rw [h, List.flatten_nil, eq_comm, List.filter_eq_nil_iff] at hflatten
    simpa using hflatten
  · intro h
    rw [List.filter_eq_nil_iff.mpr (by simpa using h), List.flatten_eq_nil_iff] at hflatten
    exact List.eq_nil_iff_forall_not_mem.mpr fun word hword =>
      ne_nil_of_mem_words hword (hflatten word hword)

end TileAdventure.Text
