import MeshPolicy.Json.Basic

/-! # Compact JSON text

`Json.compact` writes a value on one line without any blanks. Quotes, backslashes and control
characters inside strings are escaped; every other character stands for itself.
-/

namespace MeshPolicy.Json
set_option autoImplicit false

def literalChar (c : Char) : List Char :=
  if c = '"' then ['\\', '"']
  else if c = '\\' then ['\\', '\\']
  else if c = '\n' then ['\\', 'n']
  else if c = '\r' then ['\\', 'r']
  else if c = '\t' then ['\\', 't']
  else if c = '\x08' then ['\\', 'b']
  else if c = '\x0c' then ['\\', 'f']
  else if c.toNat < 32 then
    ['\\', 'u', '0', '0', Nat.digitChar (c.toNat / 16), Nat.digitChar (c.toNat % 16)]
  else [c]

def stringLiteral (s : String) : List Char := '"' :: s.toList.flatMap literalChar ++ ['"']

mutual

def compactChars : Json → List Char
  | null => ['n', 'u', 'l', 'l']
  | bool true => ['t', 'r', 'u', 'e']
  | bool false => ['f', 'a', 'l', 's', 'e']
  | number literal => literal.toList
  | string value => stringLiteral value
  | array [] => ['[', ']']
  | array (item :: rest) => '[' :: item.compactChars ++ compactItems rest
  | object [] => ['{', '}']
  | object ((name, value) :: rest) =>
    '{' :: stringLiteral name ++ ':' :: value.compactChars ++ compactMembers rest

/-- The items after the first one, and the closing bracket. -/
def compactItems : List Json → List Char
  | [] => [']']
  | item :: rest => ',' :: item.compactChars ++ compactItems rest

/-- The members after the first one, and the closing brace. -/
def compactMembers : List (String × Json) → List Char
  | [] => ['}']
  | (name, value) :: rest =>
    ',' :: stringLiteral name ++ ':' :: value.compactChars ++ compactMembers rest

end

/-- The value on one line, without blanks. -/
def compact (value : Json) : String := .ofList value.compactChars

end MeshPolicy.Json
