import Mathlib.Data.List.Chain
import TileAdventure.Proofs.Text.Words
import TileAdventure.Stage.Pager

/-!
# The layout of pages

A text goes on pages word by word, and a word that is too long for a page in parts
(`Piece.ofWord`). What stands on a page is a sheet, whose pieces have single spaces between
them (`Sheet.text`). Sheets are laid for pages of `n` characters (`Laid`) if each of them
fits, if a part of a word stands first on its sheet, and if a word goes on a new sheet only
where it does not fit on the one before. The pages of a text are sheets laid with all its
pieces in order (`exists_laid`), from which follows what a reader sees of them
(`pages_of_text`).
-/

namespace TileAdventure

/-! ## Parts of a word -/

variable {n : Nat} {word : List Char}

theorem chunks_of_le (hword : word ≠ []) (h : word.length ≤ n) : chunks n word = [word] := by
  have hpos : 0 < word.length := List.length_pos_iff.mpr hword
  have hcount : (word.length + n - 1) / n = 1 :=
    Nat.div_eq_of_lt_le (by omega) (by omega)
  simp [chunks, hcount, List.take_of_length_le h]

theorem chunks_of_lt (hn : 0 < n) (h : n < word.length) :
    chunks n word = word.take n :: chunks n (word.drop n) := by
  have hcount : (word.length + n - 1) / n = ((word.drop n).length + n - 1) / n + 1 := by
    rw [← Nat.add_div_right _ hn, List.length_drop]
    congr 1
    omega
  have hdrop : ∀ i, word.drop ((i + 1) * n) = (word.drop n).drop (i * n) := by
    intro i
    rw [List.drop_drop, Nat.succ_mul, Nat.add_comm]
  simp only [chunks, hcount, List.range_succ_eq_map, List.map_cons, List.map_map, Nat.zero_mul,
    List.drop_zero, List.cons.injEq, true_and]
  exact List.map_congr_left fun i _ => by rw [Function.comp_apply, Nat.succ_eq_add_one, hdrop]

/-- The parts of a word have `n` characters, the last one perhaps fewer, and make up the
word. -/
theorem exists_chunks (hn : 0 < n) {word : List Char} (hword : word ≠ []) :
    ∃ full last, chunks n word = full ++ [last] ∧ full.flatten ++ last = word ∧
      (∀ part ∈ full, part.length = n) ∧ last ≠ [] ∧ last.length ≤ n := by
  rcases Nat.lt_or_ge n word.length with h | h
  · have hrest : word.drop n ≠ [] := by simpa using h
    obtain ⟨full, last, hchunks, hflatten, hfull, hlast, hle⟩ := exists_chunks hn hrest
    refine ⟨word.take n :: full, last, by rw [chunks_of_lt hn h, hchunks]; rfl, ?_, ?_, hlast,
      hle⟩
    · rw [List.flatten_cons, List.append_assoc, hflatten, List.take_append_drop]
    · intro part hpart
      rcases List.mem_cons.mp hpart with rfl | hpart
      · exact List.length_take_of_le h.le
      · exact hfull part hpart
  · exact ⟨[], word, chunks_of_le hword h, rfl, by simp, hword, h⟩
termination_by word.length
decreasing_by
  rw [List.length_drop]
  omega

/-! ## Pieces and sheets -/

/-- What stands on a page between spaces. -/
inductive Piece where
  | word (letters : List Char)
  /-- A part of a word too long for a page. -/
  | part (letters : List Char)
  deriving DecidableEq, Repr

namespace Piece

/-- The characters of a piece. -/
def letters : Piece → List Char
  | .word letters | .part letters => letters

/-- The pieces of a word on pages of `n` characters. -/
def ofWord (n : Nat) (word : List Char) : List Piece :=
  if word.length ≤ n then [.word word] else (chunks n word).map .part

/-- The pieces of a word make it up, and none is empty. -/
theorem flatMap_ofWord (hn : 0 < n) (hword : word ≠ []) :
    (ofWord n word).flatMap letters = word ∧ ∀ piece ∈ ofWord n word, piece.letters ≠ [] := by
  unfold ofWord
  split
  · simpa [letters] using hword
  · obtain ⟨full, last, hchunks, hflatten, hfull, hlast, -⟩ := exists_chunks hn hword
    refine ⟨?_, fun piece hpiece => ?_⟩
    · have hid : ∀ part, letters (.part part) = id part := fun _ => rfl
      rw [List.flatMap_map, List.flatMap_congr fun part _ => hid part, List.flatMap_id, hchunks]
      simpa using hflatten
    obtain ⟨part, hpart, rfl⟩ := List.mem_map.mp hpiece
    rw [hchunks] at hpart
    rcases List.mem_append.mp hpart with hpart | hpart
    · have hlength := hfull part hpart
      exact List.ne_nil_of_length_pos (hn.trans_eq hlength.symm)
    · rwa [List.mem_singleton.mp hpart]

end Piece

/-- What stands on a page, in order. -/
abbrev Sheet := List Piece

/-- The text of a sheet: its pieces with single spaces between them. -/
def Sheet.text (sheet : Sheet) : List Char :=
  [' '].intercalate (sheet.map Piece.letters)

namespace Sheet

variable {sheet : Sheet}

@[simp] theorem text_nil : text [] = [] := rfl

@[simp] theorem text_singleton (piece : Piece) : text [piece] = piece.letters := by
  simp [text]

theorem text_cons (piece : Piece) (h : sheet ≠ []) :
    text (piece :: sheet) = piece.letters ++ ' ' :: text sheet := by
  obtain ⟨next, rest, rfl⟩ := List.exists_cons_of_ne_nil h
  simp [text]

theorem text_append_singleton (h : sheet ≠ []) (piece : Piece) :
    text (sheet ++ [piece]) = text sheet ++ ' ' :: piece.letters := by
  induction sheet with
  | nil => exact (h rfl).elim
  | cons first rest ih =>
    cases rest with
    | nil => rw [List.singleton_append, text_cons first (by simp), text_singleton, text_singleton]
    | cons second rest =>
      rw [List.cons_append, text_cons first (by simp), text_cons first (by simp), ih (by simp)]
      simp

/-- A sheet that can stand on a page of `n` characters. -/
structure Proper (n : Nat) (sheet : Sheet) : Prop where
  /-- A part of a word stands first. -/
  starts : ∃ first rest, sheet = first :: rest ∧ ∀ piece ∈ rest, ∃ word, piece = .word word
  letters : ∀ piece ∈ sheet, piece.letters ≠ []
  fits : (text sheet).length ≤ n

theorem Proper.ne_nil (h : Proper n sheet) : sheet ≠ [] := by
  obtain ⟨_, _, rfl, -⟩ := h.starts
  simp

theorem Proper.text_ne_nil (h : Proper n sheet) : text sheet ≠ [] := by
  obtain ⟨first, rest, rfl, -⟩ := h.starts
  have hfirst := h.letters first (by simp)
  cases rest with
  | nil => simpa using hfirst
  | cons => rw [text_cons first (by simp)]; simp

theorem proper_singleton {piece : Piece} (hletters : piece.letters ≠ [])
    (hfits : piece.letters.length ≤ n) : Proper n [piece] where
  starts := ⟨piece, [], rfl, by simp⟩
  letters := by simpa using hletters
  fits := by simpa using hfits

theorem Proper.append_word (h : Proper n sheet) (hword : word ≠ [])
    (hfits : (text sheet).length + 1 + word.length ≤ n) : Proper n (sheet ++ [.word word]) where
  starts := by
    obtain ⟨first, rest, rfl, hrest⟩ := h.starts
    refine ⟨first, rest ++ [.word word], rfl, fun piece hpiece => ?_⟩
    rcases List.mem_append.mp hpiece with hpiece | hpiece
    · exact hrest piece hpiece
    · exact ⟨word, List.mem_singleton.mp hpiece⟩
  letters piece hpiece := by
    rcases List.mem_append.mp hpiece with hpiece | hpiece
    · exact h.letters piece hpiece
    · rw [List.mem_singleton.mp hpiece]
      exact hword
  fits := by
    rw [text_append_singleton h.ne_nil, List.length_append, List.length_cons]
    simp only [Piece.letters]
    omega

/-- The sheet `next` may follow: if it starts with a word, this one had no room for that. -/
def Yields (n : Nat) (sheet next : Sheet) : Prop :=
  ∀ word rest, next = .word word :: rest → n < (text sheet).length + 1 + word.length

end Sheet

/-! ## Laying sheets -/

/-- Sheets on pages of `n` characters. A word goes on a new sheet only where it does not fit
on the one before. -/
structure Laid (n : Nat) (sheets : List Sheet) : Prop where
  proper : ∀ sheet ∈ sheets, Sheet.Proper n sheet
  full : sheets.IsChain (Sheet.Yields n)

namespace Laid

variable {sheet : Sheet} {sheets : List Sheet}

theorem nil : Laid n [] :=
  ⟨by simp, .nil⟩

theorem cons (hsheet : Sheet.Proper n sheet)
    (hnext : ∀ next ∈ sheets.head?, Sheet.Yields n sheet next) (h : Laid n sheets) :
    Laid n (sheet :: sheets) where
  proper := List.forall_mem_cons.mpr ⟨hsheet, h.proper⟩
  full := List.isChain_cons.mpr ⟨hnext, h.full⟩

/-- The first sheet, if there is one, starts with a part of a word. -/
def StartsWithPart (sheets : List Sheet) : Prop :=
  ∀ sheet ∈ sheets.head?, ∃ letters rest, sheet = .part letters :: rest

/-- Any sheet may be followed by a part of a word. -/
theorem cons_of_part (hsheet : Sheet.Proper n sheet) (hpart : StartsWithPart sheets)
    (h : Laid n sheets) : Laid n (sheet :: sheets) := by
  refine h.cons hsheet fun next hnext word rest heq => ?_
  obtain ⟨letters, rest', heq'⟩ := hpart next hnext
  cases heq.symm.trans heq'

/-- Parts of `n` characters go on sheets of their own. -/
theorem append_parts (hn : 0 < n) {parts : List (List Char)}
    (hparts : ∀ part ∈ parts, part.length = n) (hstart : StartsWithPart sheets)
    (h : Laid n sheets) :
    Laid n ((parts.map fun part => [.part part]) ++ sheets) ∧
      StartsWithPart ((parts.map fun part => [.part part]) ++ sheets) := by
  induction parts with
  | nil => exact ⟨h, hstart⟩
  | cons part parts ih =>
    obtain ⟨hlaid, hpart⟩ := ih fun p hp => hparts p (List.mem_cons_of_mem _ hp)
    have hlength : part.length = n := hparts part List.mem_cons_self
    have hsheet : Sheet.Proper n [.part part] :=
      Sheet.proper_singleton (List.ne_nil_of_length_pos (hn.trans_eq hlength.symm)) hlength.le
    refine ⟨hlaid.cons_of_part hsheet hpart, fun sheet hmem => ⟨part, [], ?_⟩⟩
    exact (Option.mem_some_iff.mp hmem).symm

end Laid

/-! ## Filling pages -/

/-- Filling pages from the sheet `current` on, which may be empty, lays these sheets with all
pieces of the words. -/
structure Lays (n : Nat) (current : Sheet) (words : List (List Char)) (sheets : List Sheet) :
    Prop where
  fills : fillPages n (Sheet.text current) words = sheets.map Sheet.text
  laid : Laid n sheets
  flatten : sheets.flatten = current ++ words.flatMap (Piece.ofWord n)
  continues : current ≠ [] → ∃ more rest, sheets = (current ++ more) :: rest

namespace Lays

variable {words : List (List Char)} {current : Sheet} {sheets : List Sheet}

theorem nothing : Lays n [] [] [] :=
  ⟨rfl, .nil, rfl, fun h => (h rfl).elim⟩

theorem last (hcurrent : Sheet.Proper n current) : Lays n current [] [current] where
  fills := by simp [fillPages, hcurrent.text_ne_nil]
  laid := Laid.nil.cons hcurrent (by simp)
  flatten := by simp
  continues _ := ⟨[], [], by simp⟩

/-- The first word goes on an empty sheet. -/
theorem first (hle : word.length ≤ n) (h : Lays n [.word word] words sheets) :
    Lays n [] (word :: words) sheets where
  fills := by
    rw [← h.fills]
    simp [fillPages, hle, Piece.letters]
  laid := h.laid
  flatten := by
    rw [h.flatten, List.flatMap_cons, Piece.ofWord, if_pos hle]
    rfl
  continues hne := (hne rfl).elim

theorem fitting (hcurrent : Sheet.Proper n current)
    (hfits : (Sheet.text current).length + 1 + word.length ≤ n)
    (h : Lays n (current ++ [.word word]) words sheets) :
    Lays n current (word :: words) sheets := by
  have hle : word.length ≤ n := by omega
  refine ⟨?_, h.laid, ?_, fun _ => ?_⟩
  · rw [← h.fills, Sheet.text_append_singleton hcurrent.ne_nil]
    simp [fillPages, hle, hfits, hcurrent.text_ne_nil, Piece.letters]
  · rw [h.flatten, List.flatMap_cons, Piece.ofWord, if_pos hle, List.append_assoc]
  · obtain ⟨more, rest, heq⟩ := h.continues (by simp)
    exact ⟨.word word :: more, rest, by rw [heq, List.append_assoc]; rfl⟩

/-- A word that does not fit goes on the next sheet. -/
theorem turning (hcurrent : Sheet.Proper n current) (hle : word.length ≤ n)
    (hfull : n < (Sheet.text current).length + 1 + word.length)
    (h : Lays n [.word word] words sheets) :
    Lays n current (word :: words) (current :: sheets) := by
  obtain ⟨more, rest, heq⟩ := h.continues (by simp)
  refine ⟨?_, h.laid.cons hcurrent fun next hnext other rest' hother => ?_, ?_, fun _ => ?_⟩
  · rw [List.map_cons, ← h.fills]
    simp [fillPages, hle, Nat.not_le.mpr hfull, hcurrent.text_ne_nil, Piece.letters]
  · -- the next sheet starts with the word
    rw [heq, List.head?_cons, Option.mem_some_iff] at hnext
    cases hnext.trans hother
    exact hfull
  · rw [List.flatten_cons, h.flatten, List.flatMap_cons, Piece.ofWord, if_pos hle]
  · exact ⟨[], sheets, by rw [List.append_nil]⟩

/-- A long word starts a new sheet. Its parts but the last fill a sheet each, and the last one
is open for what follows. -/
theorem cutting (hn : 0 < n) (hcurrent : current ≠ [] → Sheet.Proper n current)
    (hlong : n < word.length) {full : List (List Char)} {part : List Char}
    (hchunks : chunks n word = full ++ [part]) (hparts : ∀ part ∈ full, part.length = n)
    (h : Lays n [.part part] words sheets) :
    ∃ sheets, Lays n current (word :: words) sheets := by
  obtain ⟨more, rest, heq⟩ := h.continues (by simp)
  obtain ⟨hlaid, hstart⟩ := h.laid.append_parts hn hparts fun sheet hmem => by
    rw [heq, List.head?_cons, Option.mem_some_iff] at hmem
    exact ⟨part, more, hmem.symm⟩
  have hfills : fillPages n (Sheet.text current) (word :: words) =
      (if (Sheet.text current).isEmpty then [] else [Sheet.text current]) ++
        ((full.map fun part => [Piece.part part]) ++ sheets).map Sheet.text := by
    have hrest : fillPages n part words = sheets.map Sheet.text := by
      rw [← h.fills, Sheet.text_singleton]
      rfl
    simp [fillPages, Nat.not_le.mpr hlong, hchunks, hrest, Function.comp_def, Piece.letters]
  have hflatten : ((full.map fun part => [Piece.part part]) ++ sheets).flatten =
      (word :: words).flatMap (Piece.ofWord n) := by
    rw [List.flatten_append, h.flatten, List.flatMap_cons, Piece.ofWord,
      if_neg (Nat.not_le.mpr hlong), hchunks, ← List.flatMap_def, ← List.map_eq_flatMap]
    simp
  rcases eq_or_ne current [] with rfl | hne
  · exact ⟨_, by simpa using hfills, hlaid, hflatten, fun h => (h rfl).elim⟩
  · have hproper := hcurrent hne
    refine ⟨current :: _, ?_, hlaid.cons_of_part hproper hstart, ?_,
      fun _ => ⟨[], _, by rw [List.append_nil]⟩⟩
    · simpa [hproper.text_ne_nil] using hfills
    · rw [List.flatten_cons, hflatten]

end Lays

theorem exists_lays (hn : 0 < n) {words : List (List Char)} (hwords : ∀ word ∈ words, word ≠ [])
    {current : Sheet} (hcurrent : current ≠ [] → Sheet.Proper n current) :
    ∃ sheets, Lays n current words sheets := by
  induction words generalizing current with
  | nil =>
    rcases eq_or_ne current [] with rfl | hne
    · exact ⟨[], .nothing⟩
    · exact ⟨[current], .last (hcurrent hne)⟩
  | cons word words ih =>
    obtain ⟨hword, hwords⟩ := List.forall_mem_cons.mp hwords
    rcases Nat.lt_or_ge n word.length with hlong | hle
    · obtain ⟨full, part, hchunks, -, hparts, hpart, hpartLe⟩ := exists_chunks hn hword
      have hproper : Sheet.Proper n [.part part] := Sheet.proper_singleton hpart hpartLe
      obtain ⟨sheets, hsheets⟩ := ih hwords fun _ => hproper
      exact hsheets.cutting hn hcurrent hlong hchunks hparts
    have hproper : Sheet.Proper n [.word word] := Sheet.proper_singleton hword hle
    rcases eq_or_ne current [] with rfl | hne
    · obtain ⟨sheets, hsheets⟩ := ih hwords fun _ => hproper
      exact ⟨sheets, hsheets.first hle⟩
    · have hcurrent := hcurrent hne
      rcases Nat.lt_or_ge n ((Sheet.text current).length + 1 + word.length) with hfull | hfits
      · obtain ⟨sheets, hsheets⟩ := ih hwords fun _ => hproper
        exact ⟨current :: sheets, hsheets.turning hcurrent hle hfull⟩
      · obtain ⟨sheets, hsheets⟩ := ih hwords fun _ => hcurrent.append_word hword hfits
        exact ⟨sheets, hsheets.fitting hcurrent hfits⟩

/-! ## The pages of a text -/

/-- A text without a space at its ends, and without two spaces next to each other. -/
structure Spaced (text : List Char) : Prop where
  leading : text.head? ≠ some ' '
  trailing : text.getLast? ≠ some ' '
  single : text.IsChain fun a b => ¬(a = ' ' ∧ b = ' ')

theorem Spaced.of_notMem {text : List Char} (h : ' ' ∉ text) : Spaced text where
  leading hhead := h (List.mem_of_head? hhead)
  trailing hlast := h (List.mem_of_getLast? hlast)
  single := (List.isChain_isInfix text).imp fun a b hpair ⟨ha, _⟩ =>
    h (hpair.subset (by simp [ha]))

/-- A word in front of a text, with a space between them. -/
theorem Spaced.word_append {text : List Char} (hword : word ≠ []) (hnot : ' ' ∉ word)
    (htext : text ≠ []) (h : Spaced text) : Spaced (word ++ ' ' :: text) := by
  have hspaced : Spaced word := .of_notMem hnot
  refine ⟨?_, ?_, List.isChain_append.mpr ⟨hspaced.single, ?_, fun a ha b _ hboth => ?_⟩⟩
  · rw [List.head?_append_of_ne_nil _ hword]
    exact hspaced.leading
  · rw [List.getLast?_append_of_ne_nil _ (by simp), List.getLast?_cons_of_ne_nil htext]
    exact h.trailing
  · exact List.isChain_cons.mpr ⟨fun b hb hboth => h.leading (hboth.2 ▸ hb), h.single⟩
  · exact hspaced.trailing (hboth.1 ▸ ha)

namespace Sheet

variable {sheet : Sheet}

/-- Spaces stand between the pieces of a sheet only. -/
theorem spaced_text (hletters : ∀ piece ∈ sheet, piece.letters ≠ [])
    (hspace : ∀ piece ∈ sheet, ' ' ∉ piece.letters) : Spaced (text sheet) := by
  induction sheet with
  | nil => exact .of_notMem List.not_mem_nil
  | cons piece rest ih =>
    obtain ⟨hpiece, hrest⟩ := List.forall_mem_cons.mp hletters
    obtain ⟨hnot, hnots⟩ := List.forall_mem_cons.mp hspace
    rcases eq_or_ne rest [] with rfl | hne
    · rw [text_singleton]
      exact .of_notMem hnot
    have hspaced := ih hrest hnots
    rw [text_cons piece hne]
    refine hspaced.word_append hpiece hnot fun hnil => ?_
    obtain ⟨next, more, rfl⟩ := List.exists_cons_of_ne_nil hne
    have hnext := hrest next List.mem_cons_self
    cases more with
    | nil => exact hnext (by simpa using hnil)
    | cons => simp [text_cons next] at hnil

/-- The text of a sheet without its spaces is that of its pieces. -/
theorem filter_text (hspace : ∀ piece ∈ sheet, ' ' ∉ piece.letters) :
    (text sheet).filter (· ≠ ' ') = sheet.flatMap Piece.letters := by
  induction sheet with
  | nil => rfl
  | cons piece rest ih =>
    obtain ⟨hnot, hnots⟩ := List.forall_mem_cons.mp hspace
    have hself : piece.letters.filter (· ≠ ' ') = piece.letters :=
      List.filter_eq_self.mpr fun c hc => by
        simpa using fun h : c = ' ' => hnot (h ▸ hc)
    rcases eq_or_ne rest [] with rfl | hne
    · simpa using hself
    · rw [text_cons piece hne, List.filter_append, hself, List.filter_cons_of_neg (by simp),
        ih hnots, List.flatMap_cons]

/-- The pages of sheets, at least one. -/
def pages (sheets : List Sheet) : List String :=
  if sheets = [] then [""] else sheets.map fun sheet => String.ofList (text sheet)

end Sheet

/-- The pages of a text are sheets laid with all its pieces. -/
theorem exists_laid (text : String) (hn : 0 < n) :
    ∃ sheets, paginate text n = Sheet.pages sheets ∧ Laid n sheets ∧
      sheets.flatten = (Text.words text.toList).flatMap (Piece.ofWord n) := by
  have hnone : ([] : Sheet) ≠ [] → Sheet.Proper n [] := fun h => (h rfl).elim
  obtain ⟨sheets, hlays⟩ := exists_lays hn (fun word => Text.ne_nil_of_mem_words) hnone
  refine ⟨sheets, ?_, hlays.laid, hlays.flatten⟩
  have hfills : fillPages n [] (Text.words text.toList) = sheets.map Sheet.text := hlays.fills
  rw [paginate, hfills, Sheet.pages]
  cases sheets with
  | nil => rfl
  | cons => simp [Function.comp_def]

/-- No piece of a text is empty or holds a blank. -/
theorem letters_of_mem {text : String} (hn : 0 < n) {piece : Piece}
    (h : piece ∈ (Text.words text.toList).flatMap (Piece.ofWord n)) :
    piece.letters ≠ [] ∧ ' ' ∉ piece.letters := by
  obtain ⟨word, hword, hpiece⟩ := List.mem_flatMap.mp h
  obtain ⟨hflatten, hletters⟩ := Piece.flatMap_ofWord hn (Text.ne_nil_of_mem_words hword)
  refine ⟨hletters piece hpiece, fun hspace => ?_⟩
  have hmem : ' ' ∈ word := by
    rw [← hflatten]
    exact List.mem_flatten_of_mem (List.mem_map_of_mem hpiece) hspace
  exact absurd (Text.not_isBlank_of_mem_words hword hmem) (by decide)

/-- The pieces of all words make up the text without its blanks. -/
theorem flatMap_letters (text : String) (hn : 0 < n) :
    ((Text.words text.toList).flatMap (Piece.ofWord n)).flatMap Piece.letters =
      text.toList.filter (!Text.isBlank ·) := by
  have hwords : ∀ word ∈ Text.words text.toList,
      (Piece.ofWord n word).flatMap Piece.letters = id word :=
    fun word hword => (Piece.flatMap_ofWord hn (Text.ne_nil_of_mem_words hword)).1
  rw [← Text.flatten_words, List.flatMap_assoc, List.flatMap_congr hwords, List.flatMap_id]

/-- Sheets are laid for a text unless it is blank. -/
theorem Laid.eq_nil_iff {sheets : List Sheet} {text : String} (hn : 0 < n) (h : Laid n sheets)
    (hflatten : sheets.flatten = (Text.words text.toList).flatMap (Piece.ofWord n)) :
    sheets = [] ↔ ∀ c ∈ text.toList, Text.isBlank c = true := by
  have hpieces : sheets = [] ↔ sheets.flatten = [] := by
    refine ⟨fun hnil => by rw [hnil, List.flatten_nil], fun hnil => ?_⟩
    exact List.eq_nil_iff_forall_not_mem.mpr fun sheet hsheet =>
      (h.proper sheet hsheet).ne_nil (List.flatten_eq_nil_iff.mp hnil sheet hsheet)
  rw [hpieces, hflatten, ← Text.words_eq_nil_iff]
  refine ⟨fun hnil => ?_, fun hnil => by rw [hnil, List.flatMap_nil]⟩
  refine List.eq_nil_iff_forall_not_mem.mpr fun word hword => ?_
  have hne := Text.ne_nil_of_mem_words hword
  have hflat := (Piece.flatMap_ofWord hn hne).1
  rw [List.flatMap_eq_nil_iff.mp hnil word hword] at hflat
  exact hne hflat.symm

theorem paginate_ne_nil (text : String) (n : Nat) : paginate text n ≠ [] := by
  unfold paginate
  split
  · simp
  · rename_i hpages
    simpa using hpages

/-- A page of sheets is the text of one of them, or blank if there are none. -/
theorem Sheet.mem_pages {sheets : List Sheet} {page : String} (h : page ∈ pages sheets) :
    sheets = [] ∧ page = "" ∨ ∃ sheet ∈ sheets, page.toList = text sheet := by
  unfold pages at h
  split at h
  · rename_i hnil
    exact Or.inl ⟨hnil, List.mem_singleton.mp h⟩
  · obtain ⟨sheet, hsheet, rfl⟩ := List.mem_map.mp h
    exact Or.inr ⟨sheet, hsheet, String.toList_ofList⟩

theorem Sheet.flatMap_toList_pages (sheets : List Sheet) :
    (pages sheets).flatMap String.toList = sheets.flatMap text := by
  unfold pages
  split
  · rename_i hnil
    simp [hnil]
  · simp [List.flatMap_map]

/-- The pages of a text, with room for `n` characters each. They are never empty unless the
text is blank, hold `n` characters at most, and have single spaces between their pieces and
no others. Without these spaces they make up the text without its blanks. More closely, they
are sheets laid with all pieces of the text in order: a word of at most `n` characters is
one piece, and a longer one is cut into parts of `n` characters, the last one perhaps
shorter. -/
theorem pages_of_text (text : String) (hn : 1 ≤ n) :
    paginate text n ≠ [] ∧
      (∀ page ∈ paginate text n, page.length ≤ n ∧ Spaced page.toList) ∧
      ("" ∈ paginate text n ↔ ∀ c ∈ text.toList, Text.isBlank c = true) ∧
      ((∀ c ∈ text.toList, Text.isBlank c = true) → paginate text n = [""]) ∧
      ((paginate text n).flatMap String.toList).filter (· ≠ ' ') =
        text.toList.filter (!Text.isBlank ·) ∧
      (∃ sheets, paginate text n = Sheet.pages sheets ∧ Laid n sheets ∧
        sheets.flatten = (Text.words text.toList).flatMap (Piece.ofWord n)) ∧
      ∀ word ∈ Text.words text.toList,
        (word.length ≤ n → Piece.ofWord n word = [.word word]) ∧
        (n < word.length → ∃ full last, Piece.ofWord n word = (full ++ [last]).map .part ∧
          (full ++ [last]).flatten = word ∧ (∀ part ∈ full, part.length = n) ∧ last ≠ [] ∧
          last.length ≤ n) := by
  obtain ⟨sheets, hpages, hlaid, hflatten⟩ := exists_laid text hn
  have hletters : ∀ sheet ∈ sheets, ∀ piece ∈ sheet, piece.letters ≠ [] ∧ ' ' ∉ piece.letters :=
    fun sheet hsheet piece hpiece =>
      letters_of_mem hn (hflatten ▸ List.mem_flatten_of_mem hsheet hpiece)
  have hnil : sheets = [] ↔ ∀ c ∈ text.toList, Text.isBlank c = true :=
    hlaid.eq_nil_iff hn hflatten
  refine ⟨paginate_ne_nil text n, fun page hpage => ?_, ?_, fun hblank => ?_, ?_,
    ⟨sheets, hpages, hlaid, hflatten⟩,
    fun word hword => ⟨fun hle => if_pos hle, fun hlong => ?_⟩⟩
  · rw [hpages] at hpage
    rcases Sheet.mem_pages hpage with ⟨-, rfl⟩ | ⟨sheet, hsheet, htext⟩
    · exact ⟨Nat.zero_le n, .of_notMem List.not_mem_nil⟩
    · rw [← String.length_toList, htext]
      exact ⟨(hlaid.proper sheet hsheet).fits, Sheet.spaced_text
        (fun piece h => (hletters sheet hsheet piece h).1)
        fun piece h => (hletters sheet hsheet piece h).2⟩
  · rw [← hnil, hpages]
    refine ⟨fun hempty => ?_, fun h => by simp [Sheet.pages, h]⟩
    rcases Sheet.mem_pages hempty with ⟨h, -⟩ | ⟨sheet, hsheet, htext⟩
    · exact h
    · exact ((hlaid.proper sheet hsheet).text_ne_nil htext.symm).elim
  · rw [hpages, Sheet.pages, if_pos (hnil.mpr hblank)]
  · have hfilter : ∀ sheet ∈ sheets,
        (Sheet.text sheet).filter (· ≠ ' ') = (id sheet).flatMap Piece.letters :=
      fun sheet hsheet => Sheet.filter_text fun piece h => (hletters sheet hsheet piece h).2
    rw [hpages, Sheet.flatMap_toList_pages, List.filter_flatMap, List.flatMap_congr hfilter,
      ← List.flatMap_assoc, List.flatMap_id, hflatten, flatMap_letters text hn]
  · obtain ⟨full, last, hchunks, hflat, hfull, hlast, hle⟩ :=
      exists_chunks hn (Text.ne_nil_of_mem_words hword)
    refine ⟨full, last, ?_, by simpa using hflat, hfull, hlast, hle⟩
    rw [Piece.ofWord, if_neg (Nat.not_le.mpr hlong), hchunks]

/-- Short words, a word that fills its page, and a long one whose last part has room for the
next word. -/
theorem pages_of_text_cutting : 1 ≤ 3 ∧
    paginate " a  bcd defghij k" 3 = ["a", "bcd", "def", "ghi", "j k"] ∧
    (["a", "bcd", "def", "ghi", "j k"].flatMap String.toList).filter (· ≠ ' ') =
      " a  bcd defghij k".toList.filter (!Text.isBlank ·) ∧
    ∃ sheets, ["a", "bcd", "def", "ghi", "j k"] = Sheet.pages sheets ∧ Laid 3 sheets := by
  have hpages : paginate " a  bcd defghij k" 3 = ["a", "bcd", "def", "ghi", "j k"] := by decide
  obtain ⟨-, -, -, -, hfilter, ⟨sheets, hsheets, hlaid, -⟩, -⟩ :=
    pages_of_text " a  bcd defghij k" (n := 3) (by decide)
  rw [hpages] at hfilter hsheets
  exact ⟨by decide, hpages, hfilter, sheets, hsheets, hlaid⟩

end TileAdventure
