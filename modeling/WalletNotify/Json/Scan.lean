import WalletNotify.Text.Hex

/-!
# JSON tokens

Blanks, words, strings and numbers of JSON text. A fault tells whether the text is malformed, ends
too early, or is well formed but holds something else than what is asked for.
-/

namespace WalletNotify.Json

/-- Text that is still to be read. -/
abbrev Input := List Char

/-- Why a text is not read. -/
inductive Fault where
  | malformed
  | truncated
  | unfit
deriving DecidableEq, Repr

/-- Blanks between tokens. -/
def isBlank (c : Char) : Bool := c = ' ' || c = '\n' || c = '\t' || c = '\r'

/-- Leaves blanks out. -/
def skipBlanks (input : Input) : Input := input.dropWhile isBlank

/-- Reads the characters of a word. -/
def word : List Char → Input → Except Fault Input
  | [], input => .ok input
  | _ :: _, [] => .error .truncated
  | c :: cs, d :: rest => if c = d then word cs rest else .error .malformed

/-- The number of four hexadecimal digits. -/
def hexQuad? (a b c d : Char) : Option Nat := do
  let a ← Text.Hex.digitValue? a
  let b ← Text.Hex.digitValue? b
  let c ← Text.Hex.digitValue? c
  let d ← Text.Hex.digitValue? d
  return 4096 * a + 256 * b + 16 * c + d

/-- Reads four hexadecimal digits. The text must have four more bytes whatever they are. -/
def hexQuad (input : Input) : Except Fault (Nat × Input) :=
  match input with
  | a :: b :: c :: d :: rest =>
    match hexQuad? a b c d with
    | some n => .ok (n, rest)
    | none => .error .malformed
  | short => .error (if (String.ofList short).utf8ByteSize < 4 then .truncated else .malformed)

/-- The first unit of a pair of escapes that stand for one character. -/
def isHighSurrogate (n : Nat) : Bool := 0xD800 ≤ n && n ≤ 0xDBFF

/-- The second unit of a pair of escapes that stand for one character. -/
def isLowSurrogate (n : Nat) : Bool := 0xDC00 ≤ n && n ≤ 0xDFFF

/-- Reads the rest of an escape by number: one unit, or a pair of them. -/
def numberEscape (input : Input) : Except Fault (Char × Input) := do
  let (n, rest) ← hexQuad input
  if isLowSurrogate n then throw .malformed
  else if isHighSurrogate n then
    match rest with
    | [] => throw .truncated
    | ['\\'] => throw .truncated
    | '\\' :: 'u' :: rest => do
      let (m, rest) ← hexQuad rest
      if isLowSurrogate m then
        return (Char.ofNat (0x10000 + 0x400 * (n - 0xD800) + (m - 0xDC00)), rest)
      else throw .malformed
    | _ => throw .malformed
  else return (Char.ofNat n, rest)

/-- The character of an escape that is one letter or sign. -/
def shortEscape? : Char → Option Char
  | '"' => some '"'
  | '\\' => some '\\'
  | '/' => some '/'
  | 'b' => some '\x08'
  | 'f' => some '\x0c'
  | 'n' => some '\n'
  | 'r' => some '\r'
  | 't' => some '\t'
  | _ => none

/-- Reads the rest of a string, its opening quote already read. -/
def stringTail : Nat → Input → Except Fault (List Char × Input)
  | 0, _ => .error .truncated
  | _ + 1, [] => .error .truncated
  | _ + 1, '"' :: rest => .ok ([], rest)
  | _ + 1, ['\\'] => .error .truncated
  | fuel + 1, '\\' :: 'u' :: rest => do
    let (c, rest) ← numberEscape rest
    let (cs, rest) ← stringTail fuel rest
    return (c :: cs, rest)
  | fuel + 1, '\\' :: e :: rest =>
    match shortEscape? e with
    | none => .error .malformed
    | some c => do
      let (cs, rest) ← stringTail fuel rest
      return (c :: cs, rest)
  | fuel + 1, c :: rest =>
    if c.toNat < 32 then .error .malformed
    else do
      let (cs, rest) ← stringTail fuel rest
      return (c :: cs, rest)

/-- Reads the rest of a string; every step takes a character or more. -/
def string (input : Input) : Except Fault (List Char × Input) := stringTail (input.length + 1) input

/-- Passes over the rest of a string; units of pairs may stand alone in it. -/
def skipString : Nat → Input → Except Fault Input
  | 0, _ => .error .truncated
  | _ + 1, [] => .error .truncated
  | _ + 1, '"' :: rest => .ok rest
  | _ + 1, ['\\'] => .error .truncated
  | fuel + 1, '\\' :: 'u' :: rest => do
    let (_, rest) ← hexQuad rest
    skipString fuel rest
  | fuel + 1, '\\' :: e :: rest =>
    if (shortEscape? e).isSome then skipString fuel rest else .error .malformed
  | fuel + 1, c :: rest => if c.toNat < 32 then .error .malformed else skipString fuel rest

end WalletNotify.Json
