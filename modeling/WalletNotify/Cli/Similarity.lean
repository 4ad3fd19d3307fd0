/-!
# Similar words

How alike two words are: which letters they share at about the same places, and in which order.
-/

namespace WalletNotify.Cli

/-- Marks the first letter like `c` that is not marked yet, at a place from `low` to `high`; `place`
is that of the first letter. -/
def mark? (c : Char) (low high : Nat) : (place : Nat) → List (Char × Bool) →
    Option (List (Char × Bool))
  | _, [] => none
  | place, (d, marked) :: rest =>
    if high < place then none
    else if low ≤ place ∧ c = d ∧ !marked then some ((d, true) :: rest)
    else (mark? c low high (place + 1) rest).map ((d, marked) :: ·)

/-- The letters of a word that have partners, and the other word with the partners marked. -/
def partners (reach : Nat) : (place : Nat) → List Char → List (Char × Bool) →
    List Char × List (Char × Bool)
  | _, [], other => ([], other)
  | place, c :: rest, other =>
    match mark? c (place - reach) (place + reach) 0 other with
    | some other =>
      let (shared, other) := partners reach (place + 1) rest other
      (c :: shared, other)
    | none => partners reach (place + 1) rest other

/-- How alike two words are, from 0 to 1: the mean of the shares of letters with partners in both
words and of the share of partners in the right order. -/
def similarity (word other : String) : Float :=
  let a := word.toList
  let b := other.toList
  let reach := max a.length b.length / 2 - 1
  let (shared, marks) := partners reach 0 a (b.map (·, false))
  let sharedThere := (marks.filter (·.2)).map (·.1)
  let moved := ((shared.zip sharedThere).countP fun (c, d) => c != d) / 2
  let m := shared.length
  if a.isEmpty && b.isEmpty then 1
  else if m = 0 then 0
  else
    (Float.ofNat m / Float.ofNat a.length + Float.ofNat m / Float.ofNat b.length
      + Float.ofNat (m - moved) / Float.ofNat m) / 3

/-- Inserts a word by its score, the best last; of equal ones the later one stands behind. -/
def insertByScore (score : Float) (word : String) : List (Float × String) → List (Float × String)
  | [] => [(score, word)]
  | (s, w) :: rest =>
    if score < s then (score, word) :: (s, w) :: rest else (s, w) :: insertByScore score word rest

/-- The words that are like a word, the likest last. -/
def similar (word : String) (words : List String) : List String :=
  let scored := words.foldl (fun best w =>
    let score := similarity word w
    if 0.7 < score then insertByScore score w best else best) []
  scored.map (·.2)

end WalletNotify.Cli
