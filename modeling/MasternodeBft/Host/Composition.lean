import MasternodeBft.Host.Table

/-!
Characters with marks in their composed form: marks are put in order, and joined with the character
before them where there is a character for both.
-/

namespace MasternodeBft.Host.Composition

/-- Marks by the place where they stand; marks of different classes may change places. -/
def classes : List Table.Run := Table.marked 768 "
0 21 230 0 1 232 0 4 220 0 1 232 0 1 216 0 5 220 0 2 202 0 4 220 0 2 202 0 11 220 0 5 1 0 4 220 0
10 230 0 3 220 0 3 230 0 2 220 1 3 230 0 4 220 0 1 230 0 1 232 0 2 220 0 1 230 0 1 233 0 2 234 0 1
233 0 2 234 0 1 233 0 13 230 275 5 230 265 1 220 0 4 230 0 1 220 0 3 230 0 1 222 0 1 220 0 6 230 0
6 220 0 2 230 0 1 220 0 2 230 0 1 222 0 1 228 0 1 230 0 1 10 0 1 11 0 1 12 0 1 13 0 1 14 0 1 15 0 1
16 0 1 17 0 1 18 0 2 19 0 1 20 0 1 21 0 1 22 1 1 23 1 1 24 0 1 25 1 1 230 0 1 220 1 1 18 72 8 230 0
1 30 0 1 31 0 1 32 48 1 27 0 1 28 0 1 29 0 1 30 0 1 31 0 1 32 0 1 33 0 1 34 0 2 230 0 2 220 0 5 230
0 1 220 0 2 230 0 1 220 16 1 35 101 7 230 2 4 230 0 1 220 0 1 230 2 2 230 1 1 220 0 2 230 0 1 220
35 1 36 30 1 230 0 1 220 0 2 230 0 1 220 0 2 230 0 3 220 0 1 230 0 2 220 0 1 230 0 1 220 0 3 230 0
1 220 0 1 230 0 1 220 0 1 230 0 1 220 0 1 230 0 1 220 0 2 230 160 7 230 0 1 220 0 1 230 9 1 220 24
4 230 1 9 230 1 3 230 1 5 230 43 3 220 59 2 230 0 3 220 0 4 230 42 5 230 0 5 220 0 14 230 1 1 220 0
2 230 0 1 220 0 2 230 0 1 220 0 3 230 0 3 220 0 1 27 0 1 28 0 1 29 0 3 230 0 1 220 0 2 230 0 2 220
0 5 230 60 1 7 16 1 9 3 1 230 0 1 220 0 2 230 103 1 7 16 1 9 48 1 230 61 1 7 16 1 9 110 1 7 16 1 9
110 1 7 16 1 9 127 1 9 110 1 7 16 1 9 7 1 84 0 1 91 101 1 7 16 1 9 109 2 9 16 1 9 124 1 9 109 2 103
0 1 9 13 4 107 108 2 118 0 1 9 13 4 122 76 2 220 27 1 220 1 1 220 1 1 216 55 1 129 0 1 130 1 1 132
5 4 130 2 1 130 1 2 230 0 1 9 1 2 230 62 1 220 112 1 7 1 2 9 82 1 220 719 3 230 948 2 9 30 1 9 157
1 9 10 1 230 203 1 228 143 1 222 0 1 230 0 1 220 219 1 230 0 1 220 71 1 9 20 8 230 2 1 220 48 5 230
0 6 220 0 2 230 0 1 220 1 2 220 0 2 230 0 2 220 0 5 230 0 1 220 0 18 230 0 1 220 2 6 230 0 1 220 0
4 230 0 1 234 72 1 7 15 1 9 38 1 230 0 1 220 0 7 230 54 2 9 58 1 7 11 2 9 67 1 7 152 3 230 1 1 1 0
5 220 0 2 230 0 4 220 0 1 230 1 7 1 4 1 220 6 1 230 3 2 230 198 2 230 0 1 220 0 7 230 0 1 220 0 2
230 0 1 234 0 1 214 0 1 220 0 1 202 0 37 230 0 1 232 0 2 228 0 1 220 0 1 218 0 1 230 0 1 233 0 1
220 0 1 230 0 1 220 720 2 230 0 2 1 0 4 230 0 3 1 0 2 230 4 1 230 3 2 1 0 1 230 0 1 220 0 1 230 0 2
1 0 4 220 0 1 230 3070 3 230 141 1 9 96 32 230 554 1 218 0 1 228 0 1 232 0 1 222 0 2 224 105 2 8
30164 1 230 4 10 230 32 2 230 80 2 230 276 1 9 37 1 9 151 1 9 27 18 230 57 3 220 37 1 9 95 1 7 12 1
9 239 1 230 1 2 230 0 1 220 2 2 230 5 2 230 1 1 230 52 1 9 246 1 9 20272 1 26 769 7 230 0 7 220 0 2
230 973 1 220 226 1 220 149 5 230 1682 1 220 1 1 230 40 1 230 0 1 1 0 1 220 4 1 9 165 1 230 0 1 220
573 4 230 65 5 230 317 2 230 77 2 220 1 3 220 70 2 220 0 3 230 0 1 220 0 1 230 0 4 220 49 1 230 0 1
220 0 1 230 0 1 220 192 1 9 41 1 9 14 1 9 57 1 9 0 1 7 69 3 230 48 2 9 62 1 7 76 1 9 9 1 7 106 1 9
0 1 7 178 1 7 0 1 9 80 2 7 16 1 9 24 15 230 89 3 9 113 1 9 3 1 7 23 1 230 99 1 9 0 1 7 251 1 9 0 1
7 126 1 9 118 1 9 0 1 7 115 1 9 269 1 9 0 1 7 258 2 9 4 1 7 156 1 9 83 1 9 18 1 9 81 1 9 421 1 9
258 1 7 1 2 9 81 1 9 425 2 9 16876 1 9 2496 5 1 59 7 230 1209 2 6 19628 1 1 5318 2 216 0 3 1 3 1
226 0 5 216 8 8 220 2 5 230 0 2 220 30 4 230 148 3 230 3515 144 230 160 7 230 375 1 230 61 4 230
508 2 232 0 1 220 0 1 230 254 1 230 0 1 220 243 1 230 2 1 230 7 2 230 5 1 230 474 7 220 109 6 230 0
1 7"

def markClass (char : Char) : Nat := Table.property classes char

def vowelless : Nat := 9

/-- Characters, each with the two of which it consists, the second one given by its distance from the first
mark. -/
def pairsOfText (start : Nat) (text : String) : List (Char × Char × Char) :=
  (Table.spaced start (Table.threes (Table.numbers text))).map fun (whole, first, second) =>
    (Char.ofNat whole, Char.ofNat first, Char.ofNat (768 + second))

def pairs : List (Char × Char × Char) := pairsOfText 224 "
0 97 0 1 97 1 1 97 2 1 97 3 1 97 8 1 97 10 2 99 39 1 101 0 1 101 1 1 101 2 1 101 8 1 105 0 1 105 1
1 105 2 1 105 8 2 110 3 1 111 0 1 111 1 1 111 2 1 111 3 1 111 8 3 117 0 1 117 1 1 117 2 1 117 8 1
121 1 2 121 8 2 97 4 2 97 6 2 97 40 2 99 1 2 99 2 2 99 7 2 99 12 2 100 12 4 101 4 2 101 6 2 101 7 2
101 40 2 101 12 2 103 2 2 103 6 2 103 7 2 103 39 2 104 2 4 105 3 2 105 4 2 105 6 2 105 40 6 106 2 2
107 39 3 108 1 2 108 39 2 108 12 6 110 1 2 110 39 2 110 12 5 111 4 2 111 6 2 111 11 4 114 1 2 114
39 2 114 12 2 115 1 2 115 2 2 115 39 2 115 12 2 116 39 2 116 12 4 117 3 2 117 4 2 117 6 2 117 10 2
117 11 2 117 40 2 119 2 2 121 2 3 122 1 2 122 7 2 122 12 35 111 27 15 117 27 30 97 12 2 105 12 2
111 12 2 117 12 2 252 4 2 252 1 2 252 12 2 252 0 3 228 4 2 551 4 2 230 4 4 103 12 2 107 12 2 111 40
2 491 4 2 658 12 1 106 12 5 103 1 4 110 0 2 229 1 2 230 1 2 248 1 2 97 15 2 97 17 2 101 15 2 101 17
2 105 15 2 105 17 2 111 15 2 111 17 2 114 15 2 114 17 2 117 15 2 117 17 2 115 38 2 116 38 4 104 12
8 97 7 2 101 39 2 246 4 2 245 4 2 111 7 2 559 4 2 121 4 349 970 1 28 945 1 1 949 1 1 951 1 1 953 1
1 971 1 26 953 8 1 965 8 1 959 1 1 965 1 1 969 1 107 1080 6 23 1077 0 1 1077 8 2 1075 1 4 1110 8 5
1082 1 1 1080 0 1 1091 6 25 1141 15 75 1078 6 15 1072 6 2 1072 8 4 1077 6 4 1241 8 2 1078 8 2 1079
8 4 1080 4 2 1080 8 2 1086 8 4 1257 8 2 1101 8 2 1091 4 2 1091 8 2 1091 11 2 1095 8 4 1099 8 297
1575 851 1 1575 852 1 1608 852 1 1575 853 1 1610 852 154 1749 852 2 1729 852 17 1746 852 598 2344
1596 8 2352 1596 3 2355 1596 151 2503 1726 1 2503 1751 380 2887 2134 3 2887 2110 1 2887 2135 72
2962 2263 54 3014 2238 1 3015 2238 1 3014 2263 124 3142 2390 120 3263 2517 7 3270 2517 1 3270 2518
2 3270 2498 1 3274 2517 127 3398 2622 1 3399 2622 1 3398 2647 142 3545 2762 2 3545 2767 1 3548 2762
1 3545 2783 584 4133 3374 2784 6917 6197 2 6919 6197 2 6921 6197 2 6923 6197 2 6925 6197 4 6929
6197 41 6970 6197 2 6972 6197 3 6974 6197 1 6975 6197 2 6978 6197 702 97 37 2 98 7 2 98 35 2 98 49
2 231 1 2 100 7 2 100 35 2 100 49 2 100 39 2 100 45 2 275 0 2 275 1 2 101 45 2 101 48 2 553 6 2 102
7 2 103 4 2 104 7 2 104 35 2 104 8 2 104 39 2 104 46 2 105 48 2 239 1 2 107 1 2 107 35 2 107 49 2
108 35 2 7735 4 2 108 49 2 108 45 2 109 1 2 109 7 2 109 35 2 110 7 2 110 35 2 110 49 2 110 45 2 245
1 2 245 8 2 333 0 2 333 1 2 112 1 2 112 7 2 114 7 2 114 35 2 7771 4 2 114 49 2 115 7 2 115 35 2 347
7 2 353 7 2 7779 7 2 116 7 2 116 35 2 116 49 2 116 45 2 117 36 2 117 48 2 117 45 2 361 1 2 363 8 2
118 3 2 118 35 2 119 0 2 119 1 2 119 8 2 119 7 2 119 35 2 120 7 2 120 8 2 121 7 2 122 2 2 122 35 2
122 49 1 104 49 1 116 8 1 119 10 1 121 10 8 97 35 2 97 9 2 226 1 2 226 0 2 226 9 2 226 3 2 7841 2 2
259 1 2 259 0 2 259 9 2 259 3 2 7841 6 2 101 35 2 101 9 2 101 3 2 234 1 2 234 0 2 234 9 2 234 3 2
7865 2 2 105 9 2 105 35 2 111 35 2 111 9 2 244 1 2 244 0 2 244 9 2 244 3 2 7885 2 2 417 1 2 417 0 2
417 9 2 417 3 2 417 35 2 117 35 2 117 9 2 432 1 2 432 0 2 432 9 2 432 3 2 432 35 2 121 0 2 121 35 2
121 9 2 121 3 7 945 19 1 945 20 1 7936 0 1 7937 0 1 7936 1 1 7937 1 1 7936 66 1 7937 66 9 949 19 1
949 20 1 7952 0 1 7953 0 1 7952 1 1 7953 1 11 951 19 1 951 20 1 7968 0 1 7969 0 1 7968 1 1 7969 1 1
7968 66 1 7969 66 9 953 19 1 953 20 1 7984 0 1 7985 0 1 7984 1 1 7985 1 1 7984 66 1 7985 66 9 959
19 1 959 20 1 8000 0 1 8001 0 1 8000 1 1 8001 1 11 965 19 1 965 20 1 8016 0 1 8017 0 1 8016 1 1
8017 1 1 8016 66 1 8017 66 9 969 19 1 969 20 1 8032 0 1 8033 0 1 8032 1 1 8033 1 1 8032 66 1 8033
66 9 945 0 2 949 0 2 951 0 2 953 0 2 959 0 2 965 0 2 969 0 52 945 6 1 945 4 5 945 66 16 951 66 10
953 6 1 953 4 1 970 0 4 953 66 1 970 66 9 965 6 1 965 4 1 971 0 2 961 19 1 961 20 1 965 66 1 971 66
15 969 66 420 8592 56 1 8594 56 19 8596 56 31 8656 56 1 8660 56 1 8658 56 53 8707 56 5 8712 56 3
8715 56 24 8739 56 2 8741 56 27 8764 56 3 8771 56 3 8773 56 2 8776 56 23 61 56 2 8801 56 11 8781 56
1 60 56 1 62 56 1 8804 56 1 8805 56 3 8818 56 1 8819 56 3 8822 56 1 8823 56 7 8826 56 1 8827 56 3
8834 56 1 8835 56 3 8838 56 1 8839 56 35 8866 56 1 8872 56 1 8873 56 1 8875 56 49 8828 56 1 8829 56
1 8849 56 1 8850 56 7 8882 56 1 8883 56 1 8884 56 1 8885 56 3423 12363 11673 2 12365 11673 2 12367
11673 2 12369 11673 2 12371 11673 2 12373 11673 2 12375 11673 2 12377 11673 2 12379 11673 2 12381
11673 2 12383 11673 2 12385 11673 3 12388 11673 2 12390 11673 2 12392 11673 7 12399 11673 1 12399
11674 2 12402 11673 1 12402 11674 2 12405 11673 1 12405 11674 2 12408 11673 1 12408 11674 2 12411
11673 1 12411 11674 23 12358 11673 10 12445 11673 14 12459 11673 2 12461 11673 2 12463 11673 2
12465 11673 2 12467 11673 2 12469 11673 2 12471 11673 2 12473 11673 2 12475 11673 2 12477 11673 2
12479 11673 2 12481 11673 3 12484 11673 2 12486 11673 2 12488 11673 7 12495 11673 1 12495 11674 2
12498 11673 1 12498 11674 2 12501 11673 1 12501 11674 2 12504 11673 1 12504 11674 2 12507 11673 1
12507 11674 23 12454 11673 3 12527 11673 1 12528 11673 1 12529 11673 1 12530 11673 4 12541 11673
54475 67026 7 27 67034 7 2742 69785 69050 2 69787 69050 15 69797 69050 131 69937 69159 1 69938
69159 540 70471 69694 1 70471 69719 55 70530 69833 2 70532 69819 9 70539 69826 3 70544 69833 52
70594 69826 2 70594 69816 1 70594 69833 243 70841 70074 1 70841 70064 2 70841 70077 252 71096 70319
1 71097 70319 893 71989 71216 18409 90398 89630 1 90398 89641 1 90398 89631 1 90409 89631 1 90398
89632 1 90401 89631 1 90402 89631 1 90401 89632 3136 93543 92775 1 93539 92775 1 93545 92775"

/-! Korean syllables consist of a leading consonant, a vowel and perhaps a trailing consonant. -/

def syllableBase : Nat := 0xac00
def leadingBase : Nat := 0x1100
def vowelBase : Nat := 0x1161
def trailingBase : Nat := 0x11a7
def leadingCount : Nat := 19
def vowelCount : Nat := 21
def trailingCount : Nat := 28

def syllableParts? (char : Char) : Option (List Char) :=
  let index := char.toNat - syllableBase
  if syllableBase ≤ char.toNat ∧ index < leadingCount * vowelCount * trailingCount then
    let trailing := index % trailingCount
    some ([Char.ofNat (leadingBase + index / trailingCount / vowelCount),
        Char.ofNat (vowelBase + index / trailingCount % vowelCount)] ++
      (if trailing = 0 then [] else [Char.ofNat (trailingBase + trailing)]))
  else none

def syllable? (first second : Char) : Option Char :=
  let leading := first.toNat - leadingBase
  let vowel := second.toNat - vowelBase
  let index := first.toNat - syllableBase
  let trailing := second.toNat - trailingBase
  if leadingBase ≤ first.toNat ∧ leading < leadingCount ∧ vowelBase ≤ second.toNat ∧ vowel < vowelCount then
    some (Char.ofNat (syllableBase + (leading * vowelCount + vowel) * trailingCount))
  else if syllableBase ≤ first.toNat ∧ index < leadingCount * vowelCount * trailingCount ∧
      index % trailingCount = 0 ∧ trailingBase < second.toNat ∧ trailing < trailingCount then
    some (Char.ofNat (first.toNat + trailing))
  else none

def join? (first second : Char) : Option Char :=
  syllable? first second <|>
    (pairs.find? fun entry => entry.2.1 = first ∧ entry.2.2 = second).map Prod.fst

/-- A character taken apart; `depth` bounds how often, and three times is enough. -/
def parts (pairs : List (Char × Char × Char)) : Nat → Char → List Char
  | 0, char => [char]
  | depth + 1, char =>
    match syllableParts? char with
    | some parts => parts
    | none =>
      match pairs.find? fun entry => entry.1 = char with
      | some (_, first, second) => parts pairs depth first ++ [second]
      | none => [char]

/-- Puts a character before others, and a mark behind those of lower classes. -/
def place (char : Char) : List Char → List Char
  | [] => [char]
  | next :: rest =>
    if 0 < markClass next ∧ markClass next < markClass char then next :: place char rest
    else char :: next :: rest

/-- Joins a character with what follows it; `marks` are those in between that stay, the last one
first. A mark is hidden behind one of its own class or a higher one. -/
def joinFrom (char : Char) (marks : List Char) : List Char → List Char
  | [] => char :: marks.reverse
  | next :: rest =>
    let hidden := marks.head?.any fun mark => markClass next ≤ markClass mark
    match if hidden then none else join? char next with
    | some joined => joinFrom joined marks rest
    | none =>
      if markClass next = 0 then char :: (marks.reverse ++ joinFrom next [] rest)
      else joinFrom char (next :: marks) rest

/-- Joins characters with their marks, behind marks that belong to none. -/
def joinAll : List Char → List Char
  | [] => []
  | char :: rest => if markClass char = 0 then joinFrom char [] rest else char :: joinAll rest

def compose (chars : List Char) : List Char := joinAll ((chars.flatMap (parts pairs 3)).foldr place [])

end MasternodeBft.Host.Composition
