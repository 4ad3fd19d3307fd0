import WalletNotify.Config.Setting
import WalletNotify.Text.Hex

/-!
# Literals in variables

The text of an environment variable as a setting: words, numbers, quoted text, lists in brackets and
tables in braces. A text that is none of these is taken as it is.
-/

namespace WalletNotify.Config

open Decimal (Binary64 digitsValue)
open Text (Keyed)

namespace Literal

/-- Text that is still to be read. -/
abbrev Input := List Char

/-- White space of any script. -/
def isSpace (c : Char) : Bool :=
  let n := c.toNat
  (9 ≤ n && n ≤ 13) || n = 0x20 || n = 0x85 || n = 0xA0 || n = 0x1680
    || (0x2000 ≤ n && n ≤ 0x200A) || n = 0x2028 || n = 0x2029 || n = 0x202F || n = 0x205F
    || n = 0x3000

/-- Leaves white space out at both ends. -/
def trim (cs : List Char) : List Char :=
  (((cs.dropWhile isSpace).reverse).dropWhile isSpace).reverse

/-- Blanks around literals. -/
def isBlank (c : Char) : Bool := c = ' ' || c = '\t' || c = '\n' || c = '\x0c' || c = '\r'

/-- Leaves blanks out. -/
def skipBlanks (input : Input) : Input := input.dropWhile isBlank

/-- Signs that a plain text does not hold. -/
def isSeparator (c : Char) : Bool := c = ',' || c = '{' || c = '}' || c = '[' || c = ']'

/-- The number of digits, if there are any and nothing else. -/
def natural? (cs : List Char) : Option Nat :=
  if !cs.isEmpty && cs.all Char.isDigit then some (digitsValue cs) else none

/-- The number without a sign, or with a plus, that a text spells in 64 bits. -/
def unsigned? (cs : List Char) : Option Nat := do
  let n ← natural? (match cs with
    | '+' :: rest => rest
    | cs => cs)
  if n < 2 ^ 64 then some n else none

/-- The number with a minus that a text spells in 64 bits. -/
def negative? : List Char → Option Int
  | '-' :: cs => do
    let n ← natural? cs
    if n ≤ 2 ^ 63 then some (-n) else none
  | _ => none

/-- The power of ten of an exponent with its letter; there may be none. -/
def exponent? : List Char → Option Int
  | [] => some 0
  | c :: rest =>
    if c = 'e' ∨ c = 'E' then
      match rest with
      | '-' :: cs => (natural? cs).map fun n => -(n : Int)
      | '+' :: cs => (natural? cs).map Int.ofNat
      | cs => (natural? cs).map Int.ofNat
    else none

/-- The real that a text with a point spells. -/
def real? (cs : List Char) : Option Binary64 := do
  let (negative, cs) := match cs with
    | '-' :: rest => (true, rest)
    | '+' :: rest => (false, rest)
    | cs => (false, cs)
  let whole := cs.takeWhile Char.isDigit
  let fraction ← match cs.dropWhile Char.isDigit with
    | '.' :: rest => some rest
    | _ => none
  let places := fraction.takeWhile Char.isDigit
  let e ← exponent? (fraction.dropWhile Char.isDigit)
  if whole.isEmpty && places.isEmpty then none
  else some (Binary64.ofDecimal negative (digitsValue (whole ++ places)) (e - places.length))

/-- A text without quotes: a number if it spells one. -/
def plain (cs : List Char) : Plain :=
  match if cs.contains '.' then real? cs else none with
  | some x => .real x
  | none =>
    match unsigned? cs, negative? cs with
    | some n, _ => .unsigned n
    | none, some i => .signed i
    | none, none => .text (String.ofList cs)

/-- Reads the character of an escape by number, of `digits` digits. -/
def code? (digits : Nat) (cs : List Char) : Option (Char × List Char) := do
  let values ← (cs.take digits).mapM Text.Hex.digitValue?
  let n := values.foldl (fun n d => 16 * n + d) 0
  if values.length = digits ∧ n.isValidChar then some (Char.ofNat n, cs.drop digits) else none

/-- The character of an escape of one letter or sign. -/
def shortEscape? : Char → Option Char
  | '"' => some '"'
  | '\\' => some '\\'
  | 'b' => some '\x08'
  | 'f' => some '\x0c'
  | 'n' => some '\n'
  | 'r' => some '\r'
  | 't' => some '\t'
  | _ => none

/-- What quoted text stands for, its escapes replaced, in at most `fuel` steps. -/
def unescape? : Nat → List Char → Option (List Char)
  | _, [] => some []
  | 0, _ :: _ => none
  | fuel + 1, '\\' :: 'u' :: rest => do
    let (c, rest) ← code? 4 rest
    return c :: (← unescape? fuel rest)
  | fuel + 1, '\\' :: 'U' :: rest => do
    let (c, rest) ← code? 8 rest
    return c :: (← unescape? fuel rest)
  | fuel + 1, '\\' :: e :: rest => do
    let c ← shortEscape? e
    return c :: (← unescape? fuel rest)
  | fuel + 1, c :: rest =>
    if c = '\\' ∨ (c.toNat < 32 ∧ c ≠ '\t') ∨ c.toNat = 127 then none
    else do return c :: (← unescape? fuel rest)

/-- The text up to the closing quote, as it is written; a sign behind a backslash does not close. -/
def quotedPart : List Char → Option (List Char × Input)
  | [] => none
  | '"' :: rest => some ([], rest)
  | ['\\'] => none
  | '\\' :: c :: rest => (quotedPart rest).map fun (cs, rest) => ('\\' :: c :: cs, rest)
  | c :: rest => (quotedPart rest).map fun (cs, rest) => (c :: cs, rest)

/-- Reads quoted text, its opening quote already read. -/
def quoted? (input : Input) : Option (String × Input) := do
  let (cs, rest) ← quotedPart input
  let cs ← unescape? cs.length cs
  return (String.ofList cs, rest)

/-- Characters of a key without quotes. -/
def isBare (c : Char) : Bool := c.isAlphanum || c = '_' || c = '-'

/-- Reads a key. -/
def key? (input : Input) : Option (String × Input) :=
  match input with
  | '"' :: rest => quoted? rest
  | _ =>
    if (input.takeWhile isBare).isEmpty then none
    else some (String.ofList (input.takeWhile isBare), input.dropWhile isBare)

/-- Reads a key and its literal, with blanks around it. -/
def pair? (item : Input → Option (Setting × Input)) (input : Input) :
    Option ((String × Setting) × Input) := do
  let (k, rest) ← key? (skipBlanks input)
  match skipBlanks rest with
  | '=' :: rest => do
    let (s, rest) ← item rest
    return ((k, s), skipBlanks rest)
  | _ => none

/-- Reads what stands between brackets, the first of them already read, in at most `fuel` steps. A
comma may stand behind the last item. -/
def collect? {α : Type} (closing : Char) (item : Input → Option (α × Input)) :
    Nat → Input → Option (List α × Input)
  | 0, _ => none
  | fuel + 1, input =>
    if input.head? = some closing then some ([], input.drop 1)
    else do
      let (a, rest) ← item input
      match rest with
      | ',' :: rest => do
        let (as, rest) ← collect? closing item fuel rest
        return (a :: as, rest)
      | c :: rest => if c = closing then some ([a], rest) else none
      | [] => none

/-- The environment's setting of a plain value. -/
def ofPlain (p : Plain) : Setting := .plain .environment p

/-- Reads a literal with blanks around it, of at most so many levels. -/
def literal? : (levels : Nat) → Input → Option (Setting × Input)
  | 0, _ => none
  | levels + 1, input => do
    let (s, rest) ← match skipBlanks input with
      | 't' :: 'r' :: 'u' :: 'e' :: rest => some (ofPlain (.flag true), rest)
      | 'f' :: 'a' :: 'l' :: 's' :: 'e' :: rest => some (ofPlain (.flag false), rest)
      | '{' :: rest => do
        let (entries, rest) ← collect? '}' (pair? (literal? levels)) (rest.length + 1) rest
        let table := entries.foldl (fun t (k, s) => Keyed.put k s t) []
        return (Setting.table .environment table, rest)
      | '[' :: rest => do
        let item := fun input => do
          let (s, rest) ← literal? levels input
          return (s, skipBlanks rest)
        let (items, rest) ← collect? ']' item (rest.length + 1) rest
        return (Setting.list .environment items, rest)
      | '"' :: rest => do
        let (text, rest) ← quoted? rest
        return (ofPlain (.text text), rest)
      | '\x27' :: c :: '\x27' :: rest => some (ofPlain (.text (String.singleton c)), rest)
      | '\x27' :: _ => none
      | rest =>
        some (ofPlain (plain (trim (rest.takeWhile fun c => !isSeparator c))),
          rest.dropWhile fun c => !isSeparator c)
    return (s, skipBlanks rest)

/-- The setting of a text. -/
def read (text : String) : Setting :=
  let cs := trim text.toList
  match literal? (cs.length + 1) cs with
  | some (s, []) => s
  | _ => ofPlain (.text (String.ofList cs))

end Literal

end WalletNotify.Config
