import WalletNotify.Toml.Fault
import WalletNotify.Text.Hex

/-!
# TOML text

Blanks, comments and line breaks, strings of the four kinds, and keys.
-/

namespace WalletNotify.Toml

open Fault

/-- Blanks inside a line. -/
def isBlank (c : Char) : Bool := c = ' ' || c = '\t'

/-- Characters that stand in comments. -/
def isPlain (c : Char) : Bool := c = '\t' || (32 ≤ c.toNat && c.toNat ≠ 127)

/-- Leaves blanks out. -/
def skipBlanks (input : Input) : Input := input.dropWhile isBlank

/-- Leaves a comment out, if there is one. -/
def skipComment : Input → Input
  | '#' :: rest => rest.dropWhile isPlain
  | input => input

/-- Passes over a line break. -/
def lineBreak? : Input → Option Input
  | '\n' :: rest => some rest
  | '\r' :: '\n' :: rest => some rest
  | _ => none

/-- Passes over the end of a line, or of the text. -/
def endOfLine (input : Input) : Except Fault Input :=
  match input, lineBreak? input with
  | [], _ => .ok []
  | _, some rest => .ok rest
  | _, none => .error (here input)

/-- Passes over what may stand behind an entry: blanks, a comment and the end of the line. -/
def restOfLine (input : Input) : Except Fault Input :=
  (endOfLine (skipComment (skipBlanks input))).mapError fun f =>
    f.expecting [.lineBreak, .sign "#"]

/-- Leaves blanks, comments and line breaks out, in at most `fuel` steps. A comment must have a line
break behind it. -/
def skipLines : Nat → Input → Except Fault Input
  | 0, input => .ok input
  | fuel + 1, input =>
    match skipBlanks input with
    | '#' :: rest =>
      let rest := rest.dropWhile isPlain
      match lineBreak? rest with
      | some rest => skipLines fuel rest
      | none => .error (here rest)
    | rest =>
      match lineBreak? rest with
      | some rest => skipLines fuel rest
      | none =>
        match rest with
        | '\r' :: more => .error (here more)
        | _ => .ok rest

/-- Leaves blanks, comments and line breaks out. -/
def skipSpace (input : Input) : Except Fault Input := skipLines (input.length + 1) input

/-! ## Strings -/

/-- Reads the character of an escape by number, of `digits` digits. -/
def codeEscape (digits : Nat) (c : Construct) : Reader Char := fun input =>
  let code := (input.takeWhile fun d => (Text.Hex.digitValue? d).isSome).take digits
  let value := code.foldl (fun n d => 16 * n + (Text.Hex.digitValue? d).getD 0) 0
  if code.length < digits then .error ((here input).commit.inside c)
  else if value.isValidChar then .ok (Char.ofNat value, input.drop digits)
  else .error ((problemAt input .outOfRange).commit.inside c)

/-- The signs that may follow the backslash of an escape. -/
def escapeSigns : List Expected :=
  ["b", "f", "n", "r", "t", "u", "U", "\\", "\""].map Expected.sign

/-- Reads an escape, its backslash already read. -/
def escapeTail : Reader Char := fun input =>
  match input with
  | [] => .error (here input)
  | 'b' :: rest => .ok ('\x08', rest)
  | 'f' :: rest => .ok ('\x0c', rest)
  | 'n' :: rest => .ok ('\n', rest)
  | 'r' :: rest => .ok ('\r', rest)
  | 't' :: rest => .ok ('\t', rest)
  | '\\' :: rest => .ok ('\\', rest)
  | '"' :: rest => .ok ('"', rest)
  | 'u' :: rest => codeEscape 4 .shortCode rest
  | 'U' :: rest => codeEscape 8 .longCode rest
  | _ :: rest => .error (((here rest).commit.inside .escape).expecting escapeSigns)

/-- Reads the rest of a basic string, in at most `fuel` steps. -/
def basicTail : Nat → Reader (List Char)
  | 0, input => .error ((here input).commit.inside .basicString)
  | fuel + 1, input =>
    let broken : Fault := (here input).commit.inside .basicString
    match input with
    | '"' :: rest => .ok ([], rest)
    | '\\' :: rest =>
      match escapeTail rest with
      | .ok (c, rest) => do
        let (cs, rest) ← basicTail fuel rest
        return (c :: cs, rest)
      | .error f => .error (if f.committed then f else broken)
    | c :: rest =>
      if isPlain c then do
        let (cs, rest) ← basicTail fuel rest
        return (c :: cs, rest)
      else .error broken
    | [] => .error broken

/-- Reads a basic string: between quotes, on one line, with escapes. -/
def basicString : Reader (List Char) := fun input =>
  match input with
  | '"' :: rest => basicTail (rest.length + 1) rest
  | _ => .error (here input)

/-- Reads a literal string: between apostrophes, on one line, as it is. -/
def literalString : Reader (List Char) := fun input =>
  match input with
  | '\x27' :: rest =>
    let isInside := fun c => isPlain c && c != '\x27'
    match rest.dropWhile isInside with
    | '\x27' :: after => .ok (rest.takeWhile isInside, after)
    | after => .error ((here after).commit.inside .literalString)
  | _ => .error (here input)

/-- Leaves out the line break right behind the opening of a long string. -/
def skipFirstBreak (input : Input) : Input := (lineBreak? input).getD input

/-- The quotes that end a long string: three, and up to two more in front of them that belong to the
string. -/
def closing? (quote : Char) (input : Input) : Option (Nat × Input) :=
  let count := (input.takeWhile (· = quote)).length
  if count < 3 then none else some (min (count - 3) 2, input.drop (min count 5))

/-- Leaves out a line break that is escaped, and all space behind it. -/
def skipEscapedBreak? (input : Input) : Option Input :=
  match input with
  | '\\' :: rest =>
    (lineBreak? (skipBlanks rest)).map fun rest =>
      (rest.dropWhile fun c => isBlank c || c = '\n' || c = '\r')
  | _ => none

/-- Whether a long string may go on. -/
def goesOn (quote : Char) (input : Input) : Bool :=
  match input.dropWhile (· = quote), lineBreak? (input.dropWhile (· = quote)) with
  | _, some _ => true
  | [], none => false
  | ['\\'], none => quote = '\x27'
  | c :: _, none => isPlain c

/-- Reads the rest of a long basic string, in at most `fuel` steps. Up to two quotes in a row belong
to it if it goes on behind them. -/
def longBasicTail : Nat → Reader (List Char)
  | 0, input => .error ((here input).commit.inside .longBasicString)
  | fuel + 1, input =>
    let broken : Fault := (here input).commit.inside .longBasicString
    let continued := fun (front : List Char) (rest : Input) => do
      let (cs, rest) ← longBasicTail fuel rest
      return (front ++ cs, rest)
    match closing? '"' input, skipEscapedBreak? input, lineBreak? input, input with
    | some (extra, rest), _, _, _ => .ok (List.replicate extra '"', rest)
    | none, some rest, _, _ => continued [] rest
    | none, none, some rest, _ => continued ['\n'] rest
    | none, none, none, '\\' :: rest =>
      match escapeTail rest with
      | .ok (c, rest) => continued [c] rest
      | .error f => .error (if f.committed then f.inside .longBasicString else broken)
    | none, none, none, c :: rest =>
      if isPlain c && goesOn '"' input then continued [c] rest else .error broken
    | none, none, none, [] => .error broken

/-- Reads the rest of a long literal string, in at most `fuel` steps. -/
def longLiteralTail : Nat → Reader (List Char)
  | 0, input => .error ((here input).commit.inside .longLiteralString)
  | fuel + 1, input =>
    let broken : Fault := (here input).commit.inside .longLiteralString
    let continued := fun (c : Char) (rest : Input) => do
      let (cs, rest) ← longLiteralTail fuel rest
      return (c :: cs, rest)
    match closing? '\x27' input, lineBreak? input, input with
    | some (extra, rest), _, _ => .ok (List.replicate extra '\x27', rest)
    | none, some rest, _ => continued '\n' rest
    | none, none, c :: rest =>
      if isPlain c && goesOn '\x27' input then continued c rest else .error broken
    | none, none, [] => .error broken

/-- Reads a string of any kind. -/
def string : Reader (List Char) := fun input =>
  match input with
  | '"' :: '"' :: '"' :: rest => longBasicTail (rest.length + 1) (skipFirstBreak rest)
  | '\x27' :: '\x27' :: '\x27' :: rest => longLiteralTail (rest.length + 1) (skipFirstBreak rest)
  | '"' :: _ => basicString input
  | _ => literalString input

/-! ## Keys -/

/-- Characters of a key without quotes. -/
def isBare (c : Char) : Bool := c.isAlphanum || c = '-' || c = '_'

/-- Reads a key without dots. -/
def simpleKey : Reader String := fun input =>
  match input with
  | '"' :: _ => (basicString.map String.ofList) input
  | '\x27' :: _ => (literalString.map String.ofList) input
  | _ =>
    match input.takeWhile isBare with
    | [] => .error (here input)
    | cs => .ok (String.ofList cs, input.dropWhile isBare)

/-- Reads a key with blanks around it. -/
def spacedKey : Reader String := fun input => do
  let (k, rest) ← simpleKey (skipBlanks input)
  return (k, skipBlanks rest)

/-- Reads further keys, each behind a dot; a dot without a key is left. -/
def moreKeys : Nat → Reader (List String)
  | 0, input => .ok ([], input)
  | fuel + 1, '.' :: rest =>
    match spacedKey rest with
    | .ok (k, rest) => do
      let (ks, rest) ← moreKeys fuel rest
      return (k :: ks, rest)
    | .error f => if f.committed then .error f else .ok ([], '.' :: rest)
  | _ + 1, input => .ok ([], input)

/-- How many levels a document may nest. -/
def maxLevels : Nat := 79

/-- Reads a key, which may be a path with dots. -/
def keyPath : Reader (List String) := fun input => do
  let (k, rest) ← (spacedKey input).mapError (Fault.inside .key)
  let (ks, rest) ← (moreKeys rest.length rest).mapError (Fault.inside .key)
  if maxLevels ≤ ks.length then throw (problemAt input .tooDeep)
  else return (k :: ks, rest)

end WalletNotify.Toml
