/-
# Showing the structure of a value

An `Inspect` is the outline of a value: a name, its named fields, its items.  It is written in
one of two layouts, on one line (`Inspect.line`) or with one field or item to a line, indented
by four blanks for each level (`Inspect.block`).

    Pair { a: 1, b: 2 }              Pair {
                                         a: 1,
                                         b: 2,
                                     }
-/

namespace ReservedArray

/-- The outline of a value. -/
inductive Inspect where
  /-- A value that is written whole. -/
  | atom (text : String)
  /-- A name with unnamed parts in parentheses. -/
  | tuple (name : String) (parts : List Inspect)
  /-- A name with named fields in braces; an open record ends in two dots, to say that it has
  more fields than it shows. -/
  | record (name : String) (fields : List (String × Inspect)) (opened : Bool)
  /-- Items in brackets. -/
  | sequence (items : List Inspect)

namespace Inspect

/-- A whole number. -/
def number (n : Nat) : Inspect := .atom (toString n)

/-- A record that shows all of its fields. -/
def closed (name : String) (fields : List (String × Inspect)) : Inspect := .record name fields false

/-! ## 1. On one line -/

mutual

/-- The value on one line. -/
def line : Inspect → String
  | atom text => text
  | tuple name parts =>
    let shown := lines parts
    if shown.isEmpty then name else name ++ "(" ++ ", ".intercalate shown ++ ")"
  | record name fields opened =>
    let shown := fieldLines fields ++ (if opened then [".."] else [])
    if shown.isEmpty then name else name ++ " \x7b " ++ ", ".intercalate shown ++ " \x7d"
  | sequence items => "[" ++ ", ".intercalate (lines items) ++ "]"

/-- Each value on one line. -/
def lines : List Inspect → List String
  | [] => []
  | x :: xs => x.line :: lines xs

/-- Each field with its name on one line. -/
def fieldLines : List (String × Inspect) → List String
  | [] => []
  | (name, x) :: rest => (name ++ ": " ++ x.line) :: fieldLines rest

end

/-! ## 2. One part to a line -/

/-- Four blanks for each level. -/
def indent (depth : Nat) : String := String.ofList (List.replicate (4 * depth) ' ')

/-- Parts between an opening and a closing mark, each on a line of its own and followed by
`mark`; a pair of marks alone when there is no part. -/
def stacked (depth : Nat) (opening closing : String) (parts : List String) : String :=
  if parts.isEmpty then opening ++ closing
  else
    opening ++ "\n" ++ String.join (parts.map fun part => indent (depth + 1) ++ part ++ "\n")
      ++ indent depth ++ closing

mutual

/-- The value at an indentation depth; the first line is not indented. -/
def blockAt (depth : Nat) : Inspect → String
  | atom text => text
  | tuple name parts =>
    let shown := blocksAt (depth + 1) parts
    if shown.isEmpty then name else name ++ stacked depth "(" ")" shown
  | record name fields opened =>
    let shown := fieldBlocksAt (depth + 1) fields ++ (if opened then [".."] else [])
    if shown.isEmpty then name else name ++ stacked depth " \x7b" "\x7d" shown
  | sequence items => stacked depth "[" "]" (blocksAt (depth + 1) items)

/-- Each value at a depth, with a comma after it. -/
def blocksAt (depth : Nat) : List Inspect → List String
  | [] => []
  | x :: xs => (x.blockAt depth ++ ",") :: blocksAt depth xs

/-- Each field with its name at a depth, with a comma after it. -/
def fieldBlocksAt (depth : Nat) : List (String × Inspect) → List String
  | [] => []
  | (name, x) :: rest => (name ++ ": " ++ x.blockAt depth ++ ",") :: fieldBlocksAt depth rest

end

/-- The value with one part to a line. -/
def block (x : Inspect) : String := x.blockAt 0

end Inspect

end ReservedArray
