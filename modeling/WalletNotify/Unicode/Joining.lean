import WalletNotify.Unicode.Ranges

/-!
# Joining

How the characters of connected scripts join their neighbours.
-/

namespace WalletNotify.Unicode

/-- Which neighbours a character joins; a transparent one is passed over. -/
inductive Joining where
  | none
  | transparent
  | both
  | following
  | preceding
deriving DecidableEq, Repr

/-- The characters that join: each entry holds the first of a run of characters, how many they are,
and how they join. -/
def joiningRuns : Entries := .ofLines
  ["768 112 1,387 7 1,270 45 1,46 1 1,2 2 1,3 2 1,3 1 1,73 11 1,16 1 2,2 4 4,4 1 2,1 1 4,1 1 2",
   "1 1 4,1 5 2,5 4 4,4 13 2,14 7 2,7 1 4,1 2 2,2 21 1,35 2 2,2 1 1,1 3 4,8 15 2,15 18 4,18 38 2",
   "38 1 4,1 2 2,2 9 4,9 1 2,1 1 4,1 1 2,1 1 4,1 2 2,2 2 4,3 1 4,1 7 1,9 6 1,8 2 1,3 4 1,4 2 4",
   "12 3 2,5 1 2,17 1 4,1 1 1,1 3 2,3 5 4,5 4 2,4 1 4,1 9 2,9 1 4,1 1 2,1 1 4,1 1 2,1 1 4,1 2 2",
   "2 1 4,1 27 1,29 1 4,1 11 2,11 3 4,3 15 2,15 2 4,2 4 2,4 1 4,1 1 2,1 2 4,2 3 2,3 2 4,2 6 2",
   "44 11 1,36 33 2,33 9 1,18 1 1,25 4 1,5 9 1,10 3 1,4 5 1,23 1 4,1 5 2,5 2 4,2 1 2,1 1 4",
   "1 10 2,10 1 4,1 1 2,1 3 4,3 3 1,7 1 2,2 4 2,5 1 4,1 1 2,1 26 4,29 1 2,3 5 2,5 1 4,1 1 2",
   "8 9 1,9 10 2,10 3 4,4 1 4,1 2 2,2 2 4,2 6 2,6 1 4,1 15 2,16 57 1,112 1 1,2 1 1,5 8 1,12 1 1",
   "4 7 1,17 2 1,31 1 1,59 1 1,5 4 1,12 1 1,21 2 1,28 5 1,62 1 1,5 17 1,47 2 1,5 1 1,12 2 1",
   "59 1 1,5 8 1,12 1 1,21 2 1,24 8 1,66 1 1,3 1 1,2 4 1,12 10 1,21 2 1,32 1 1,62 1 1,13 1 1",
   "51 1 1,4 1 1,56 1 1,2 3 1,8 17 1,28 2 1,31 1 1,59 1 1,3 1 1,7 1 1,6 2 1,22 2 1,30 2 1,59 2 1",
   "6 4 1,12 1 1,21 2 1,31 1 1,73 1 1,8 5 1,95 1 1,3 7 1,19 8 1,106 1 1,3 9 1,20 7 1,80 2 1",
   "29 1 1,2 1 1,2 1 1,56 14 1,15 5 1,6 2 1,7 48 1,57 1 1,103 4 1,5 6 1,7 2 1,4 2 1,27 2 1,6 3 1",
   "19 4 1,17 1 1,3 2 1,8 1 1,16 1 1,704 3 1,949 3 1,32 2 1,32 2 1,32 2 1,69 7 1,15 1 1,3 11 1",
   "20 1 1,42 1 2,25 89 2,101 2 1,2 34 2,34 1 1,1 1 2,118 3 1,7 2 1,11 1 1,7 3 1,222 2 1,4 1 1",
   "59 1 1,2 9 1,10 1 1,3 8 1,14 13 1,61 84 1,132 1 1,2 5 1,6 1 1,6 1 1,41 9 1,21 2 1,34 4 1",
   "6 2 1,3 3 1,59 1 1,2 2 1,5 1 1,2 3 1,61 8 1,10 2 1,154 3 1,4 13 1,14 7 1,11 1 1,7 1 1,4 2 1",
   "200 64 1,784 33 1,3103 3 1,144 1 1,97 32 1,586 4 1,111 2 1,30166 4 1,5 10 1,42 2 1,82 2 1",
   "274 1 1,4 1 1,5 1 1,26 2 1,7 1 1,20 50 2,50 1 3,82 2 1,28 18 1,31 1 1,39 8 1,33 11 1,57 3 1",
   "51 1 1,3 4 1,6 2 1,41 1 1,68 6 1,8 2 1,4 2 1,14 1 1,9 1 1,48 1 1,52 1 1,2 3 1,5 2 1,7 2 1",
   "3 1 1,43 2 1,10 1 1,239 1 1,3 1 1,5 1 1,20273 1 1,770 16 1,989 1 1,227 1 1,150 5 1,1675 15 1",
   "55 8 1,136 5 2,5 1 4,2 1 4,2 2 4,4 1 3,1 5 4,5 4 2,4 1 3,1 5 2,5 1 4,1 3 2,3 1 4,3 1 4,1 2 1",
   "6 4 2,4 1 4,145 1 2,1 1 4,1 1 2,1 3 4,3 3 2,3 1 4,1 2 2,2 1 4,1 1 2,1 2 4,2 1 2,1 1 4,24 4 4",
   "4 2 2,339 1 3,1 33 2,33 1 4,1 1 2,1 4 1,69 5 1,322 2 1,23 1 4,1 2 2,3 2 2,52 6 1,54 3 2",
   "3 1 4,1 17 2,18 11 1,11 3 2,3 1 4,28 4 2,4 2 4,2 12 2,12 4 1,46 1 2,2 2 2,2 3 4,4 1 2,1 2 4",
   "2 2 2,2 1 4,1 2 2,3 1 2,1 2 4,2 1 2,5 1 4,1 1 2,1 1 3,54 1 1,55 15 1,56 1 1,3 2 1,12 3 1",
   "52 4 1,6 2 1,9 1 1,62 3 1,39 5 1,6 8 1,70 1 1,13 2 1,54 9 1,19 4 1,6 1 1,96 3 1,5 1 1,2 2 1",
   "8 1 1,3 1 1,158 1 1,4 8 1,29 2 1,59 2 1,5 1 1,38 15 1,85 6 1,19 1 1,2 1 1,2 1 1,15 2 1",
   "87 8 1,10 3 1,4 1 1,24 1 1,85 6 1,7 1 1,5 2 1,3 2 1,240 4 1,10 2 1,3 2 1,29 2 1,87 8 1",
   "10 1 1,2 2 1,108 1 1,2 1 1,3 6 1,7 1 1,102 1 1,2 1 1,3 4 1,5 5 1,264 9 1,10 2 1,258 2 1",
   "3 1 1,5 1 1,145 8 1,12 1 1,33 10 1,50 6 1,8 4 1,12 1 1,10 6 1,8 3 1,49 13 1,14 2 1,200 1 1",
   "2 3 1,4 1 1,202 14 1,15 1 1,83 22 1,24 7 1,8 2 1,3 2 1,124 21 1,22 1 1,73 2 1,5 1 1,2 1 1",
   "348 2 1,13 2 1,54 5 1,10 1 1,2 1 1,24 1 1,5350 1 1,7 15 1,11479 12 1,15 3 1,2499 5 1,64 7 1",
   "1055 1 1,64 4 1,85 1 1,19641 2 1,4707 71 1,615 3 1,20 8 1,10 7 1,37 4 1,152 3 1,1982 55 1",
   "59 50 1,58 1 1,15 1 1,23 21 1,1381 144 1,304 7 1,382 1 1,62 4 1,512 4 1,258 2 1,245 1 1",
   "3 1 1,8 2 1,7 1 1,475 7 1,82 34 2,34 8 1"]

/-- How a character joins. -/
def joining (c : Char) : Joining :=
  match joiningRuns.classOf c with
  | 1 => .transparent
  | 2 => .both
  | 3 => .following
  | 4 => .preceding
  | _ => .none

end WalletNotify.Unicode
