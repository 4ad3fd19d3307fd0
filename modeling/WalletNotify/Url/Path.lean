import WalletNotify.Url.Percent

/-!
# Paths

A path is a list of segments, or, behind a scheme that nothing hierarchical follows, plain text.
Segments of dots are resolved: one dot stands for the place itself, two for the one above.
-/

namespace WalletNotify.Url

/-- The path of a URL. -/
inductive Path where
  | rooted (segments : List String)
  | plain (text : String)
deriving DecidableEq, Repr

namespace Path

/-- The text of a path. -/
def text : Path → String
  | rooted segments => String.join (segments.map ("/" ++ ·))
  | plain s => s

/-- The dots that a segment stands for: a dot may be percent-encoded. -/
def dots? : List Char → Option Nat
  | [] => some 0
  | '.' :: rest => (dots? rest).map (· + 1)
  | '%' :: '2' :: e :: rest => if e = 'e' ∨ e = 'E' then (dots? rest).map (· + 1) else none
  | _ => none

/-- Whether a segment names a drive: a letter and a colon or a bar. -/
def isDrive : List Char → Bool
  | [a, b] => a.isAlpha && (b = ':' || b = '|')
  | _ => false

/-- Leaves the last segment out, unless it names a drive. -/
def dropLastSegment (segments : List (List Char)) : List (List Char) :=
  match segments.getLast? with
  | some last => if isDrive last then segments else segments.dropLast
  | none => []

/-- Takes a segment into a path; at the end of the path, dots leave an empty segment. -/
def step (inFile atEnd : Bool) (segments : List (List Char)) (segment : List Char) :
    List (List Char) :=
  match dots? segment with
  | some 1 => if atEnd then segments ++ [[]] else segments
  | some 2 => dropLastSegment segments ++ if atEnd then [[]] else []
  | _ =>
    if inFile && segments.isEmpty && isDrive segment then
      segments ++ [segment.take 1 ++ [':']]
    else segments ++ [segment]

/-- Takes all segments into a path. -/
def resolve (inFile : Bool) (segments : List (List Char)) :
    List (List Char) → List (List Char)
  | [] => segments
  | [last] => step inFile true segments last
  | s :: rest => resolve inFile (step inFile false segments s) rest

/-- The parts of a text between separators. -/
def splitSegments (isSeparator : Char → Bool) (cs : List Char) : List (List Char) :=
  cs.splitOnP isSeparator

/-- The rooted path of segments, in encoded form. -/
def ofSegments (segments : List (List Char)) : Path := rooted (segments.map String.ofList)

end Path

end WalletNotify.Url
