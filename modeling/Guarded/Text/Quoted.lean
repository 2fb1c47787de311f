import Guarded.Text.Hidden

set_option autoImplicit false

/-! # Quoted texts

A text between quotes on one line, as `quote` writes it. Quotes and backslashes are escaped, the
common controls have names, and a character with `isHidden` is written as its code point; every
other character stands for itself. -/

namespace Guarded.Text.Quoted

/-- A character within quotes: itself, an escape such as `\n`, or `\u` and its code point in
    braces. -/
def encodeChar (c : Char) : List Char :=
  if c = '\x00' then ['\\', '0']
  else if c = '\t' then ['\\', 't']
  else if c = '\r' then ['\\', 'r']
  else if c = '\n' then ['\\', 'n']
  else if c = '"' then ['\\', '"']
  else if c = '\\' then ['\\', '\\']
  else if isHidden c then ['\\', 'u', '\x7b'] ++ Nat.toDigits 16 c.toNat ++ ['\x7d']
  else [c]

/-- The characters of a text within quotes. -/
def encode (text : List Char) : List Char := text.flatMap encodeChar

/-- A text in quotes, as `encode` writes it. -/
def quote (text : String) : String := String.ofList ('"' :: encode text.toList ++ ['"'])

@[simp] theorem encode_nil : encode [] = [] := rfl

@[simp] theorem encode_cons (c : Char) (text : List Char) :
    encode (c :: text) = encodeChar c ++ encode text := rfl

end Guarded.Text.Quoted
