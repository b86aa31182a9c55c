import IssueTracker.Json.Basic
/-!
# Compact text of documents

Documents are written without blanks. In strings the quote, the backslash and the control
characters below the space are escaped and nothing else is.
-/

namespace IssueTracker.Json

/-- A lowercase hexadecimal digit. -/
def hexDigit (n : Nat) : Char := Nat.digitChar (n % 16)

/-- The characters that stand for one character of a string. -/
def escapeChar (c : Char) : List Char :=
  if c = '"' then ['\\', '"']
  else if c = '\\' then ['\\', '\\']
  else if c = '\n' then ['\\', 'n']
  else if c = '\r' then ['\\', 'r']
  else if c = '\t' then ['\\', 't']
  else if c.val = 8 then ['\\', 'b']
  else if c.val = 12 then ['\\', 'f']
  else if c.val < 32 then ['\\', 'u', '0', '0', hexDigit (c.toNat / 16), hexDigit c.toNat]
  else [c]

/-- A string in quotes. -/
def quote (s : String) : List Char :=
  '"' :: s.toList.flatMap escapeChar ++ ['"']

/-- Pieces with commas between them. -/
def commas : List (List Char) → List Char
  | [] => []
  | [x] => x
  | x :: y :: rest => x ++ ',' :: commas (y :: rest)

mutual

/-- The characters of a document. -/
def chars : Json → List Char
  | .null => ['n', 'u', 'l', 'l']
  | .bool true => ['t', 'r', 'u', 'e']
  | .bool false => ['f', 'a', 'l', 's', 'e']
  | .num n => n.render.toList
  | .str s => quote s
  | .arr items => '[' :: commas (charsOfItems items) ++ [']']
  | .obj members => '\x7b' :: commas (charsOfMembers members) ++ ['\x7d']

/-- The characters of each item. -/
def charsOfItems : List Json → List (List Char)
  | [] => []
  | x :: rest => chars x :: charsOfItems rest

/-- The characters of each member. -/
def charsOfMembers : List (String × Json) → List (List Char)
  | [] => []
  | (k, v) :: rest => (quote k ++ ':' :: chars v) :: charsOfMembers rest

end

/-- The compact text of a document. -/
def render (doc : Json) : String := String.ofList doc.chars

end IssueTracker.Json
