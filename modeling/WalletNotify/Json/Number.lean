import WalletNotify.Json.Scan
import WalletNotify.Power

/-!
# JSON numbers

Integers of 64 bits are read as such. Anything else that is a number (fractions, exponents, a
negative zero, integers that do not fit) fits no field; one that is too large for any number format
is malformed.
-/

namespace WalletNotify.Json

/-- What a number token stands for. -/
inductive Number where
  | integer (value : Int)
  | other
deriving DecidableEq, Repr

/-- The value of decimal digits. -/
def digitsValue (digits : List Char) : Nat :=
  digits.foldl (fun n c => 10 * n + (c.toNat - 48)) 0

/-- Whether a decimal number is too large for any number format: above the largest double. -/
def isHuge (significand : Nat) (exponent : Int) : Bool :=
  let digits := (toString significand).length
  if significand = 0 then false
  else if (digits : Int) + exponent > 310 then true
  else if (digits : Int) + exponent < 300 then false
  else if 0 ≤ exponent then 2 ^ 1024 - 2 ^ 970 ≤ significand * 10 ^ exponent.toNat
  else (2 ^ 1024 - 2 ^ 970) * 10 ^ (-exponent).toNat ≤ significand

/-- The number of a token that is not a plain integer. -/
def otherNumber (significand : Nat) (exponent : Int) (rest : Input) :
    Except Fault (Number × Input) :=
  if isHuge significand exponent then .error .malformed else .ok (.other, rest)

/-- Reads an exponent, behind its letter. -/
def exponentTail (significand : Nat) (exponent : Int) (input : Input) :
    Except Fault (Number × Input) :=
  let (negative, rest) := match input with
    | '+' :: rest => (false, rest)
    | '-' :: rest => (true, rest)
    | rest => (false, rest)
  match rest with
  | [] => .error .truncated
  | c :: _ =>
    if c.isDigit then
      let e : Int := digitsValue (rest.takeWhile Char.isDigit)
      otherNumber significand (if negative then exponent - e else exponent + e)
        (rest.dropWhile Char.isDigit)
    else .error .malformed

/-- Reads a fraction, behind its point. -/
def fractionTail (significand : Nat) (input : Input) : Except Fault (Number × Input) :=
  let digits := input.takeWhile Char.isDigit
  let significand := digits.foldl (fun n c => 10 * n + (c.toNat - 48)) significand
  match digits, input.dropWhile Char.isDigit with
  | [], [] => .error .truncated
  | [], _ :: _ => .error .malformed
  | _, 'e' :: rest => exponentTail significand (-digits.length) rest
  | _, 'E' :: rest => exponentTail significand (-digits.length) rest
  | _, rest => otherNumber significand (-digits.length) rest

/-- The number of an integer token; a negative zero is not an integer. -/
def integerNumber (negative : Bool) (n : Nat) (rest : Input) : Except Fault (Number × Input) :=
  if negative then
    if 0 < n ∧ n ≤ 2 ^ 63 then .ok (.integer (-n), rest) else otherNumber n 0 rest
  else if n < 2 ^ 64 then .ok (.integer n, rest) else otherNumber n 0 rest

/-- What may follow the digits in front of the point. -/
def integerTail (negative : Bool) (n : Nat) : Input → Except Fault (Number × Input)
  | '.' :: rest => fractionTail n rest
  | 'e' :: rest => exponentTail n 0 rest
  | 'E' :: rest => exponentTail n 0 rest
  | rest => integerNumber negative n rest

/-- Reads a number, its sign already read. No digit follows a leading zero. -/
def unsignedNumber (negative : Bool) : Input → Except Fault (Number × Input)
  | [] => .error .truncated
  | '0' :: rest =>
    match rest with
    | c :: _ => if c.isDigit then .error .malformed else integerTail negative 0 rest
    | [] => integerTail negative 0 rest
  | c :: rest =>
    if c.isDigit then
      integerTail negative (digitsValue (c :: rest.takeWhile Char.isDigit))
        (rest.dropWhile Char.isDigit)
    else .error .malformed

/-- Reads a number. -/
def number : Input → Except Fault (Number × Input)
  | '-' :: rest => unsignedNumber true rest
  | input => unsignedNumber false input

/-- Passes over one digit or more. -/
def skipDigits : Input → Except Fault Input
  | c :: rest => if c.isDigit then .ok (rest.dropWhile Char.isDigit) else .error .malformed
  | [] => .error .malformed

/-- Passes over an exponent, if there is one. -/
def skipExponent : Input → Except Fault Input
  | c :: rest =>
    if c = 'e' ∨ c = 'E' then
      match rest with
      | '+' :: rest => skipDigits rest
      | '-' :: rest => skipDigits rest
      | rest => skipDigits rest
    else .ok (c :: rest)
  | [] => .ok []

/-- Passes over a fraction and an exponent, if there are any. -/
def skipFraction : Input → Except Fault Input
  | '.' :: rest => do
    let rest ← skipDigits rest
    skipExponent rest
  | rest => skipExponent rest

/-- Passes over a number, its sign already read; whatever its size. -/
def skipNumber : Input → Except Fault Input
  | '0' :: rest =>
    match rest with
    | c :: _ => if c.isDigit then .error .malformed else skipFraction rest
    | [] => .ok []
  | rest => do
    let rest ← skipDigits rest
    skipFraction rest

end WalletNotify.Json
