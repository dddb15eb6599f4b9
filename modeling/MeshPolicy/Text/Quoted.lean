import MeshPolicy.Text.Visible

/-! # Quoted text

A text in double quotes, as messages show it: the quote, the backslash and the common control
characters have two-character escapes, hidden characters are written by their code point in
lower-case hexadecimal without padding, and all other characters stand for themselves.
-/

namespace MeshPolicy.Text
set_option autoImplicit false

def quotedChar (c : Char) : List Char :=
  if c = '"' then ['\\', '"']
  else if c = '\\' then ['\\', '\\']
  else if c = '\n' then ['\\', 'n']
  else if c = '\r' then ['\\', 'r']
  else if c = '\t' then ['\\', 't']
  else if c = '\x00' then ['\\', '0']
  else if isVisible c then [c]
  else ['\\', 'u', '{'] ++ Nat.toDigits 16 c.toNat ++ ['}']

def quoted (s : String) : String := .ofList ('"' :: s.toList.flatMap quotedChar ++ ['"'])

example : quoted "a\"b\\\n\u0301" = "\"a\\\"b\\\\\\n\\u\x7b301\x7d\"" := by decide +kernel

end MeshPolicy.Text
