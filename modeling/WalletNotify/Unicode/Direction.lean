import WalletNotify.Unicode.Ranges

/-!
# Writing direction

How the characters of domain names behave where text runs from right to left.
-/

namespace WalletNotify.Unicode

/-- What a character does to the direction of the text around it. -/
inductive Direction where
  | left
  | right
  | arabicNumber
  | europeanNumber
  | mark
  | neutral
deriving DecidableEq, Repr

/-- The directions other than left to right: each entry holds the first of a run of characters, how
many they are, and their direction. -/
def directionRuns : Entries := .ofLines
  ["0 48 5,48 10 3,10 39 5,65 93 5,124 1 5,450 2 5,9 14 5,16 28 5,29 17 5,17 112 4,117 1 5",
   "129 1 5,141 7 4,263 6 5,7 45 4,45 1 1,1 1 4,1 1 1,1 2 4,2 1 1,1 2 4,2 1 1,1 1 4,9 37 1",
   "54 2 5,2 1 1,1 2 5,2 1 1,1 1 5,1 1 1,1 2 5,2 11 4,11 48 1,48 21 4,21 10 2,10 1 5,1 2 2,2 3 1",
   "3 1 4,1 101 1,101 7 4,8 1 5,1 6 4,6 2 1,2 2 4,2 1 5,1 4 4,4 2 1,2 10 3,10 23 1,23 1 4,1 30 1",
   "30 27 4,29 89 1,89 11 4,11 58 1,58 9 4,9 2 1,2 4 5,4 1 1,3 1 4,1 24 1,24 4 4,4 1 1,1 9 4",
   "9 1 1,1 3 4,3 1 1,1 5 4,7 41 1,41 3 4,5 50 1,57 9 4,9 42 1,42 57 4,112 1 4,2 1 4,5 8 4",
   "12 1 4,4 7 4,17 2 4,31 1 4,59 1 4,5 4 4,12 1 4,21 2 4,16 2 5,9 1 5,3 5 4,62 1 4,5 17 4",
   "47 2 4,5 1 4,12 2 4,59 1 4,5 8 4,12 1 4,21 2 4,15 1 5,9 8 4,66 1 4,3 1 4,2 4 4,12 10 4",
   "21 2 4,32 1 4,62 1 4,13 1 4,38 8 5,13 1 4,4 1 4,56 1 4,2 3 4,8 17 4,28 2 4,22 7 5,9 1 4",
   "59 1 4,16 2 4,22 2 4,30 2 4,59 2 4,6 4 4,12 1 4,21 2 4,31 1 4,73 1 4,8 5 4,95 1 4,3 7 4",
   "11 1 5,8 8 4,106 1 4,3 9 4,20 7 4,80 2 4,29 1 4,2 1 4,2 1 4,1 4 5,55 14 4,15 5 4,6 2 4",
   "7 48 4,57 1 4,103 4 4,5 6 4,7 2 4,4 2 4,27 2 4,6 3 4,19 4 4,17 1 4,3 2 4,8 1 4,16 1 4",
   "704 3 4,51 10 5,112 1 5,667 2 5,119 3 4,32 2 4,32 2 4,32 2 4,69 7 4,15 1 4,3 11 4,18 1 5",
   "2 1 4,19 27 5,149 2 4,36 1 4,119 3 4,7 2 4,11 1 4,7 3 4,7 6 5,158 34 5,57 2 4,4 1 4,59 1 4",
   "2 9 4,10 1 4,3 8 4,14 13 4,61 84 4,132 1 4,2 5 4,6 1 4,6 1 4,41 9 4,21 2 4,34 4 4,6 2 4",
   "3 3 4,59 1 4,2 2 4,5 1 4,2 3 4,61 8 4,10 2 4,154 3 4,4 13 4,14 7 4,11 1 4,7 1 4,4 2 4",
   "200 64 4,588 182 5,196 33 4,52 74 5,134 428 5,497 26 5,27 145 5,170 620 5,621 339 5",
   "595 662 5,663 105 5,334 6 5,10 3 4,10 7 5,134 1 4,97 32 4,32 517 5,520 25 5,34 4 4,6 1 5",
   "7 1 5,6 3 5,92 2 4,7 1 5,91 1 5,197 36 5,7168 64 5,22224 55 5,381 3 5,98 4 4,4 1 5,1 10 4",
   "10 2 5,32 2 4,82 2 4,16 34 5,136 1 5,122 1 4,4 1 4,5 1 4,26 2 4,3 4 5,4 1 4,12 2 5,60 4 5",
   "80 2 4,28 18 4,31 1 4,39 8 4,33 11 4,57 3 4,51 1 4,3 4 4,6 2 4,41 1 4,68 6 4,8 2 4,4 2 4",
   "14 1 4,9 1 4,48 1 4,52 1 4,2 3 4,5 2 4,7 2 4,3 1 4,43 2 4,10 1 4,116 2 5,123 1 4,3 1 4,5 1 4",
   "20273 1 4,148 33 1,396 18 5,82 63 1,63 49 5,81 16 4,37 2 5,46 1 1,654 1 5,63 77 5,80 17 5",
   "109 1 4,227 1 4,1 27 3,149 5 4,1162 284 1,287 1 5,1 225 1,225 15 4,15 38 1,40 8 4,8 165 1",
   "165 2 4,6 75 1,78 7 5,7 484 1,484 4 4,12 10 2,16 16 1,41 5 4,5 34 1,242 31 2,32 42 1,43 2 4",
   "2 44 1,77 6 4,6 70 1,70 11 4,11 49 1,49 4 4,4 113 1,123 1 4,55 15 4,26 20 5,30 1 4,3 2 4",
   "12 3 4,52 4 4,6 2 4,9 1 4,62 3 4,39 5 4,6 8 4,70 1 4,13 2 4,54 9 4,19 4 4,6 1 4,96 3 4,5 1 4",
   "2 2 4,8 1 4,3 1 4,158 1 4,4 8 4,29 2 4,59 2 4,5 1 4,38 15 4,82 25 4,26 1 4,15 2 4,87 8 4",
   "10 3 4,4 1 4,24 1 4,85 6 4,7 1 4,5 2 4,3 2 4,240 4 4,10 2 4,3 2 4,29 2 4,87 8 4,10 1 4,2 2 4",
   "33 13 5,75 1 4,2 1 4,3 6 4,7 1 4,102 3 4,5 4 4,5 5 4,264 9 4,10 2 4,258 2 4,3 1 4,5 1 4",
   "145 8 4,12 1 4,33 6 4,8 2 4,42 6 4,8 4 4,12 1 4,10 6 4,8 3 4,49 13 4,14 2 4,200 8 4,208 14 4",
   "98 22 4,24 7 4,8 2 4,3 2 4,124 21 4,22 1 4,73 2 4,5 1 4,2 1 4,348 2 4,13 2 4,54 5 4,10 1 4",
   "2 1 4,24 1 4,123 29 5,5227 1 4,7 15 4,11479 18 4,2514 5 4,64 7 4,1055 1 4,64 4 4,83 1 5",
   "2 1 4,19641 2 4,4707 71 4,615 3 4,20 8 4,10 7 4,37 4 4,63 89 5,89 3 4,3 1 5,187 87 5",
   "1792 55 4,59 50 4,58 1 4,15 1 4,23 21 4,1381 144 4,304 7 4,382 1 4,62 4 4,19 1 5,493 4 4",
   "258 2 4,245 1 4,3 1 4,8 2 4,7 1 4,267 208 1,208 7 4,82 34 1,34 7 4,7 1011 1,1445 576 5",
   "637 3 5,64 1 5,179 1144 5,1148 155 5,159 311 5,389 340 5,352 41 5,48 46 5,47 7 5,15 14 5",
   "18 9 5,16 219 5"]

/-- The direction of a character. -/
def direction (c : Char) : Direction :=
  match directionRuns.classOf c with
  | 1 => .right
  | 2 => .arabicNumber
  | 3 => .europeanNumber
  | 4 => .mark
  | 5 => .neutral
  | _ => .left

end WalletNotify.Unicode
