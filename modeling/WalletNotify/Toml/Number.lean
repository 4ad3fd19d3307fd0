import WalletNotify.Decimal.Binary64
import WalletNotify.Toml.Text

/-!
# TOML numbers

Integers of 64 bits in four notations, and reals. Underscores may stand between digits.
-/

namespace WalletNotify.Toml

open Decimal (Binary64 digitsValue)
open Fault

/-- Reads more digits of a class; an underscore must have a digit behind it. -/
def moreDigits (isDigit : Char → Bool) : Reader (List Char) := fun input =>
  match input with
  | '_' :: c :: rest =>
    if isDigit c then do
      let (cs, rest) ← moreDigits isDigit rest
      return (c :: cs, rest)
    else .error ((here (c :: rest)).commit.expecting [.described "digit"])
  | ['_'] => .error ((here []).commit.expecting [.described "digit"])
  | c :: rest =>
    if isDigit c then do
      let (cs, rest) ← moreDigits isDigit rest
      return (c :: cs, rest)
    else .ok ([], input)
  | [] => .ok ([], [])

/-- Reads one digit or more of a class. -/
def digits (isDigit : Char → Bool) : Reader (List Char) := fun input =>
  match input with
  | c :: rest =>
    if isDigit c then do
      let (cs, rest) ← moreDigits isDigit rest
      return (c :: cs, rest)
    else .error (here input)
  | [] => .error (here [])

/-- Reads a sign; `true` is a minus. -/
def readSign : Input → Bool × Input
  | '-' :: rest => (true, rest)
  | '+' :: rest => (false, rest)
  | input => (false, input)

/-- Reads the sign and the digits of a decimal integer. Nothing follows a leading zero. -/
def decimal : Reader (Bool × List Char) := fun input =>
  Except.mapError (Fault.inside .integer) do
    let (negative, rest) := readSign input
    match rest with
    | '0' :: rest => return ((negative, ['0']), rest)
    | _ => do
      let (cs, rest) ← digits Char.isDigit rest
      return ((negative, cs), rest)

/-- The value of digits in a base. -/
def valueIn (base : Nat) (cs : List Char) : Nat :=
  cs.foldl (fun n c => base * n + (Text.Hex.digitValue? c).getD 0) 0

/-- Reads the digits of an integer in a base that is not ten. -/
def based (base : Nat) (c : Construct) (input : Input) : Reader Int := fun rest =>
  let isDigit := fun d => ((Text.Hex.digitValue? d).map (decide <| · < base)).getD false
  match digits isDigit rest with
  | .error f => .error (f.commit.inside c)
  | .ok (cs, rest) =>
    if valueIn base cs < 2 ^ 63 then .ok (valueIn base cs, rest)
    else .error (problemAt input .tooLarge).commit

/-- Reads an integer of 64 bits. -/
def integer : Reader Int := fun input =>
  match input with
  | '0' :: 'x' :: rest => based 16 .hexadecimal input rest
  | '0' :: 'o' :: rest => based 8 .octal input rest
  | '0' :: 'b' :: rest => based 2 .binary input rest
  | _ => do
    let ((negative, cs), rest) ← decimal input
    let n := digitsValue cs
    if negative then
      if n ≤ 2 ^ 63 then return (-n, rest) else throw (problemAt input .tooSmall).commit
    else if n < 2 ^ 63 then return (n, rest)
    else throw (problemAt input .tooLarge).commit

/-- Reads an exponent behind its letter. -/
def exponent : Reader Int := fun input => do
  let (negative, rest) := readSign input
  let (cs, rest) ← (digits Char.isDigit rest).mapError commit
  let n : Int := digitsValue cs
  return (if negative then -n else n, rest)

/-- Reads an exponent if there is one. -/
def optionalExponent : Reader Int := fun input =>
  match input with
  | 'e' :: rest => exponent rest
  | 'E' :: rest => exponent rest
  | _ => .ok (0, input)

/-- Reads a real with a fraction, or an exponent, or both. One that is too large for any real is
refused if it is positive. -/
def plainReal : Reader Binary64 := fun input => do
  let ((negative, whole), rest) ← decimal input
  let (fraction, rest) ← match rest with
    | '.' :: rest =>
      (digits Char.isDigit rest).mapError fun f => f.commit.expecting [.described "digit"]
    | 'e' :: _ => .ok ([], rest)
    | 'E' :: _ => .ok ([], rest)
    | _ => .error (here rest)
  let (e, rest) ← optionalExponent rest
  let x := Binary64.ofDecimal negative (digitsValue (whole ++ fraction)) (e - fraction.length)
  if x = .infinite false then throw (here input).commit else return (x, rest)

/-- Reads an infinity or the text of no number. -/
def specialReal : Reader Binary64 := fun input =>
  let (negative, rest) := readSign input
  match rest with
  | 'i' :: 'n' :: 'f' :: rest => .ok (.infinite negative, rest)
  | 'n' :: 'a' :: 'n' :: rest => .ok (.nan, rest)
  | _ => .error (here rest)

/-- Reads a real. -/
def real : Reader Binary64 :=
  (plainReal.orElse specialReal).onFault (Fault.inside .real)

end WalletNotify.Toml
