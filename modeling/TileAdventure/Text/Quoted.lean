import TileAdventure.Text.Unprintable

/-!
# Quoted text in messages

A message that shows a text shows it between double quotes, with escapes for the quote, the
backslash, the common controls and every unprintable character (`quote`).
-/

namespace TileAdventure.Text

/-- How `c` is written between double quotes. -/
def quoteChar (c : Char) : String :=
  match c with
  | '"' => "\\\""
  | '\\' => "\\\\"
  | '\n' => "\\n"
  | '\r' => "\\r"
  | '\t' => "\\t"
  | '\x00' => "\\0"
  | c =>
    if isUnprintable c then "\\u\x7b" ++ String.ofList (Nat.toDigits 16 c.toNat) ++ "\x7d"
    else c.toString

/-- `s` between double quotes. -/
def quote (s : String) : String :=
  "\"" ++ s.toList.foldl (fun text c => text ++ quoteChar c) "" ++ "\""

end TileAdventure.Text
