import WalletNotify.Unicode.Printable

/-!
# Quoted text

Text between quotes, with escapes for the quote, the backslash, line breaks and characters that do
not print.
-/

namespace WalletNotify.Text.Quoted

/-- The escape of a character by its number. -/
def numberEscape (c : Char) : List Char :=
  '\\' :: 'u' :: '\x7b' :: Nat.toDigits 16 c.toNat ++ ['\x7d']

/-- A character between quotes of the kind `quote`. -/
def escape (quote c : Char) : List Char :=
  if c = quote ∨ c = '\\' then ['\\', c]
  else if c = '\x00' then ['\\', '0']
  else if c = '\t' then ['\\', 't']
  else if c = '\n' then ['\\', 'n']
  else if c = '\r' then ['\\', 'r']
  else if Unicode.isPrintable c then [c]
  else numberEscape c

/-- A text between double quotes. -/
def text (s : String) : String :=
  String.ofList ('"' :: s.toList.flatMap (escape '"') ++ ['"'])

/-- A character between single quotes. -/
def character (c : Char) : String :=
  String.ofList (('\x27' :: escape '\x27' c) ++ ['\x27'])

end WalletNotify.Text.Quoted
