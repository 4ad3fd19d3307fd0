import WalletNotify.Text.Utf8
import WalletNotify.Unicode.Direction
import WalletNotify.Unicode.DomainMapping
import WalletNotify.Unicode.Joining
import WalletNotify.Unicode.Marks
import WalletNotify.Unicode.Normal
import WalletNotify.Url.Punycode

/-!
# Domain names

The ASCII form of an international domain name. Characters are mapped and composed, every label is
checked (marks, joiners, writing direction), and those that are not ASCII are written in Punycode.
-/

namespace WalletNotify.Url.Domain

open Unicode (Direction)

/-- The hyphens and letters in front of a label in Punycode. -/
def acePrefix : List Char := ['x', 'n', '-', '-']

/-- What becomes of a character: nothing, itself or others, or a refusal. -/
def mapChar (c : Char) : Option (List Char) :=
  if c.toNat < 128 then some [c.toLower]
  else if Unicode.ignoredInDomains.contains c then some []
  else if Unicode.refusedInDomains.contains c then none
  else
    match Unicode.mappedInDomains.find? c with
    | some numbers => some (numbers.map Char.ofNat)
    | none => some [c]

/-- A name with its characters mapped and composed. -/
def mapName (cs : List Char) : Option (List Char) := do
  let mapped ← cs.mapM mapChar
  return Unicode.compose mapped.flatten

/-- Whether all characters are ASCII. -/
def isAscii (cs : List Char) : Bool := cs.all fun c => c.toNat < 128

/-- Characters that no host has. -/
def isForbidden (c : Char) : Bool :=
  c.toNat ≤ 32 || c.toNat = 127
    || ['#', '%', '/', ':', '<', '>', '?', '@', '[', '\\', ']', '^', '|'].contains c

/-- Whether a joiner stands where it may: behind a mark that suppresses a vowel, or, if it keeps
letters apart, between letters that would join. -/
def joinerAllowed (before : List Char) (joiner : Char) (after : List Char) : Bool :=
  let transparent (c : Char) := Unicode.joining c == .transparent
  if before.head?.any fun c => Unicode.combiningClass c = 9 then true
  else if joiner.toNat = 0x200C then
    ((before.dropWhile transparent).head?.any fun c =>
      Unicode.joining c == .both || Unicode.joining c == .following)
    && ((after.dropWhile transparent).head?.any fun c =>
      Unicode.joining c == .both || Unicode.joining c == .preceding)
  else false

/-- Whether all joiners stand where they may; what is in front of them comes last character
first. -/
def joinersAllowed (before : List Char) : List Char → Bool
  | [] => true
  | c :: after =>
    (if c.toNat = 0x200C ∨ c.toNat = 0x200D then joinerAllowed before c after else true)
      && joinersAllowed (c :: before) after

/-- Whether a label may be part of a name: it starts with no mark and its joiners are in place. -/
def labelAllowed (label : List Char) : Bool :=
  !(label.head?.any Unicode.marks.contains) && joinersAllowed [] label

/-- The characters of a label; one in Punycode must be what mapping would leave as it is. -/
def readLabel (label : List Char) : Option (List Char) :=
  if label.take 4 = acePrefix then do
    let decoded ← Punycode.decode (label.drop 4)
    let mapped ← mapName decoded
    if mapped = decoded ∧ !isAscii decoded ∧ labelAllowed decoded then some decoded else none
  else if isAscii label then some label
  else if labelAllowed label then some label
  else none

/-- Whether a label has a character that runs from right to left. -/
def hasRight (label : List Char) : Bool :=
  label.any fun c => Unicode.direction c == .right || Unicode.direction c == .arabicNumber

/-- The direction of the last character that is not a mark. -/
def lastDirection? (label : List Char) : Option Direction :=
  ((label.map Unicode.direction).reverse.dropWhile (· == .mark)).head?

/-- The direction of a character of a label; digits of ASCII are numbers, and its letters run from
left to right. -/
def directions (label : List Char) : List Direction := label.map Unicode.direction

/-- Whether a label of a name that runs both ways keeps to one direction. -/
def directionAllowed (label : List Char) : Bool :=
  let ds := directions label
  match ds.head? with
  | none => true
  | some .right =>
    ds.all (· != .left)
      && (match lastDirection? label with
        | some .right => true
        | some .europeanNumber => true
        | some .arabicNumber => true
        | _ => false)
      && !(ds.contains .europeanNumber && ds.contains .arabicNumber)
  | some .left =>
    ds.all (fun d => d != .right && d != .arabicNumber)
      && (match lastDirection? label with
        | some .left => true
        | some .europeanNumber => true
        | _ => false)
  | some _ => false

/-- The labels of a name. -/
def splitLabels (cs : List Char) : List (List Char) := cs.splitOn '.'

/-- A label in ASCII. -/
def writeLabel (label : List Char) : List Char :=
  if isAscii label then label else acePrefix ++ Punycode.encode label

/-- The ASCII form of a name, if it is one. -/
def toAscii? (bytes : List UInt8) : Option (List Char) := do
  let text ← Text.ofUtf8? bytes
  let name ← mapName text.toList
  let labels ← (splitLabels name).mapM readLabel
  if labels.any hasRight && !labels.all directionAllowed then none
  else
    let ascii := ['.'].intercalate (labels.map writeLabel)
    if ascii.any isForbidden then none else some ascii

end WalletNotify.Url.Domain
