import WalletNotify.Json.Number

/-!
# Values passed over

A member that a record does not declare may hold any value, nested to any depth.
-/

namespace WalletNotify.Json

mutual

/-- Passes over a value. -/
def skipValue : Nat → Input → Except Fault Input
  | 0, _ => .error .truncated
  | fuel + 1, input =>
    match skipBlanks input with
    | [] => .error .truncated
    | 'n' :: rest => word ['u', 'l', 'l'] rest
    | 't' :: rest => word ['r', 'u', 'e'] rest
    | 'f' :: rest => word ['a', 'l', 's', 'e'] rest
    | '"' :: rest => skipString (rest.length + 1) rest
    | '-' :: rest => skipNumber rest
    | '[' :: rest =>
      match skipBlanks rest with
      | ']' :: rest => .ok rest
      | rest => skipItems fuel rest
    | '\x7b' :: rest =>
      match skipBlanks rest with
      | '\x7d' :: rest => .ok rest
      | rest => skipMembers fuel rest
    | c :: rest => if c.isDigit then skipNumber (c :: rest) else .error .malformed

/-- Passes over the items of an array up to its end, one of them next. -/
def skipItems : Nat → Input → Except Fault Input
  | 0, _ => .error .truncated
  | fuel + 1, input => do
    let rest ← skipValue fuel input
    match skipBlanks rest with
    | [] => throw .truncated
    | ',' :: rest => skipItems fuel rest
    | ']' :: rest => return rest
    | _ => throw .malformed

/-- Passes over the members of an object up to its end, one of them next. -/
def skipMembers : Nat → Input → Except Fault Input
  | 0, _ => .error .truncated
  | fuel + 1, input =>
    match skipBlanks input with
    | [] => .error .truncated
    | '"' :: rest => do
      let rest ← skipString (rest.length + 1) rest
      match skipBlanks rest with
      | [] => throw .truncated
      | ':' :: rest => do
        let rest ← skipValue fuel rest
        match skipBlanks rest with
        | [] => throw .truncated
        | ',' :: rest => skipMembers fuel rest
        | '\x7d' :: rest => return rest
        | _ => throw .malformed
      | _ => throw .malformed
    | _ => .error .malformed

end

/-- Passes over a value; every two steps take a character or more. -/
def skip (input : Input) : Except Fault Input := skipValue (2 * input.length + 2) input

end WalletNotify.Json
