import TileAdventure.Text.Blank

/-!
# Paging a dialog

A dialog's text is shown in pages of at most `pageChars` characters (`paginate`), broken
between words; a word longer than a page is cut. The pager shows one page at a time, each as
a line that counts the pages.
-/

namespace TileAdventure

/-- The pieces of `n` characters of `word`, the last one perhaps shorter, for positive
`n`. -/
def chunks (n : Nat) (word : List Char) : List (List Char) :=
  (List.range ((word.length + n - 1) / n)).map fun i => (word.drop (i * n)).take n

/-- Put the words into pages of `n` characters after the page under way, which is empty if
nothing stands on it. -/
def fillPages (n : Nat) (page : List Char) : List (List Char) → List (List Char)
  | [] => if page.isEmpty then [] else [page]
  | word :: words =>
    if word.length ≤ n then
      if page.isEmpty then fillPages n word words
      else if page.length + 1 + word.length ≤ n then fillPages n (page ++ ' ' :: word) words
      else page :: fillPages n word words
    else
      let pieces := chunks n word
      (if page.isEmpty then [] else [page]) ++ pieces.dropLast
        ++ fillPages n (pieces.getLast?.getD []) words

/-- The pages of a text, at least one. -/
def paginate (text : String) (n : Nat) : List String :=
  match fillPages n [] (Text.words text.toList) with
  | [] => [""]
  | pages => pages.map String.ofList

/-- A dialog's pages and the one that shows. -/
structure Pager where
  pageChars : Nat
  pages : List String
  page : Nat
  atBottom : Bool
  deriving DecidableEq, Repr

namespace Pager

/-- A pager without a dialog, with pages of `pageChars` characters but at least one. -/
def ofPageChars (pageChars : Nat) : Pager :=
  ⟨max pageChars 1, [], 0, false⟩

/-- The line that shows the current page. -/
def pageLine (p : Pager) : String :=
  "[dialog " ++ (if p.atBottom then "bottom" else "top") ++ " " ++ toString (p.page + 1) ++ "/"
    ++ toString (max p.pages.length 1) ++ "] " ++ p.pages.getD p.page ""

/-- Begin a dialog with its first page. The strings are the lines shown. -/
def present (p : Pager) (text : String) (atBottom : Bool) : List String × Pager :=
  let p := { p with pages := paginate text p.pageChars, page := 0, atBottom }
  ([p.pageLine], p)

/-- End the dialog. -/
def close (p : Pager) : List String × Pager :=
  (["[dialog closed]"], { p with pages := [], page := 0 })

/-- Whether the last page shows. -/
def isComplete (p : Pager) : Bool :=
  p.pages.length ≤ p.page + 1

/-- Turn to the next page, if there is one. -/
def turnPage (p : Pager) : List String × Pager :=
  if p.isComplete then ([], p)
  else
    let p := { p with page := p.page + 1 }
    ([p.pageLine], p)

/-- Turn the remaining pages. -/
def turnPages : Nat → Pager → List String × Pager
  | 0, p => ([], p)
  | n + 1, p =>
    if p.isComplete then ([], p)
    else
      let (lines, p) := p.turnPage
      let (more, p) := turnPages n p
      (lines ++ more, p)

/-- Begin a dialog and turn all its pages. -/
def showAll (p : Pager) (text : String) (atBottom : Bool) : List String × Pager :=
  let (lines, p) := p.present text atBottom
  let (more, p) := turnPages p.pages.length p
  (lines ++ more, p)

end Pager

end TileAdventure
