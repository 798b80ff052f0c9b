import MasternodeBft.Host.Table

/-! Characters that stand for others as far away as their neighbours do, such as capital letters. -/

namespace MasternodeBft.Host.Replacement

/-- Code points at equal steps, and as many others that they stand for, at the same steps. -/
structure Shift where
  first : Nat
  count : Nat
  step : Nat
  target : Nat

namespace Shift

def image? (shift : Shift) (code : Nat) : Option Nat :=
  let distance := code - shift.first
  if shift.first ≤ code ∧ distance % shift.step = 0 ∧ distance / shift.step < shift.count then
    some (shift.target + distance)
  else none

def rows : List Nat → List (Nat × Nat × Nat × Nat)
  | gap :: count :: step :: target :: rest => (gap, count, step, target) :: rows rest
  | _ => []

def ofText (start : Nat) (text : String) : List Shift :=
  (Table.spaced start (rows (Table.numbers text))).map fun (first, count, step, target) =>
    ⟨first, count, step, target⟩

def all : List Shift := ⟨65, 26, 1, 97⟩ :: ofText 178 "
0 2 1 50 14 23 1 224 24 7 1 248 40 24 2 257 52 2 2 309 5 3 2 314 8 4 2 322 9 23 2 331 47 3 2 378 9
2 2 387 7 2 1 598 23 3 2 417 17 2 1 650 2 2 2 436 26 8 2 462 17 9 2 479 26 20 2 505 42 9 2 547 36 5
2 583 106 2 2 104 144 2 1 768 48 2 2 881 24 3 1 941 6 2 1 973 3 17 1 945 18 9 1 963 53 12 2 985 37
3 1 891 3 16 1 1104 16 32 1 1072 80 17 2 1121 42 27 2 1163 55 7 2 1218 15 48 2 1233 97 38 1 1377
2927 38 1 11520 856 6 1 5104 2187 2 1 1089 13 43 1 4304 45 3 1 4349 113 2 2 98 3 5 2 101 3 4 2 104
12 2 1 116 4 2 1 592 4 2 1 100 3 2 1 603 5 2 2 109 4 2 1 7446 3 2 1 116 6 3 1 946 3 2 1 966 4 2 1
117 2 2 1 946 3 2 1 966 59 3 1 616 10 4 1 626 5 2 1 642 3 2 1 649 3 2 1 651 3 3 1 656 68 75 2 7681
160 48 2 7841 104 8 1 7936 16 6 1 7952 16 8 1 7968 16 8 1 7984 16 6 1 8000 17 4 2 8017 15 8 1 8032
80 2 1 8112 16 2 2 8050 16 2 1 8144 16 2 1 8160 17 2 2 972 123 6 1 52 9 2 1 40 3 10 1 48 13 2 1 40
9 4 1 107 5 2 1 115 111 2 1 103 9 2 2 108 6 3 1 112 19 2 1 98 4 2 1 101 5 4 1 1488 17 2 1 100 2 2 1
105 37 2 1 99 16 2 1 99 428 2 1 12296 311 9 1 49 86 26 1 97 26 26 1 97 1840 48 1 11312 103 3 2
11368 23 2 1 575 2 50 2 11393 107 2 2 11500 846 2 1 21316 248 2 1 4352 2 2 2 4522 4 3 1 4355 3 6 1
4528 7 3 1 4358 4 10 1 4361 10 21 1 4449 22 2 1 4372 2 2 1 4551 10 2 1 4381 3 2 1 4386 4 5 1 4395
10 2 1 4593 2 3 1 4439 3 2 1 4484 3 2 1 4497 215 2 1 4354 2 3 1 4357 4 2 1 4363 2 5 1 4366 107 2 1
12458 16 6 1 12490 10 5 1 12510 7 6 1 12520 6 4 1 12527 29509 23 2 42561 64 14 2 42625 162 7 2
42787 16 31 2 42803 71 2 2 42874 5 5 2 42879 18 2 2 42897 6 10 2 42903 30 8 2 42933 19 2 2 42952 5
8 2 42957 932 80 1 5024 20194 2 1 31117 208 2 1 1491 2 3 1 1499 52 2 2 1662 1 2 2 1662 19 2 2 1700
1 2 2 1700 16 2 1 1670 7 2 2 1676 1 2 2 1676 26 2 1 1722 6 2 1 1728 10 2 1 1746 42 2 2 1734 1 2 2
1734 569 2 1 58 4 2 1 12310 30 2 1 40 4 2 1 12308 2 2 1 12304 2 2 1 12298 2 2 1 12296 2 4 1 12300
24 2 1 40 4 2 1 12308 4 2 1 42 8 2 1 36 23 2 1 1569 2 2 1 1570 2 2 1 1571 2 2 1 1572 2 2 1 1573 4 2
1 1574 2 2 1 1575 4 2 1 1576 2 2 1 1577 4 2 1 1578 4 2 1 1579 4 2 1 1580 4 2 1 1581 4 2 1 1582 2 2
1 1583 2 2 1 1584 2 2 1 1585 2 2 1 1586 4 2 1 1587 4 2 1 1588 4 2 1 1589 4 2 1 1590 4 2 1 1591 4 2
1 1592 4 2 1 1593 8 2 1 1601 4 2 1 1602 4 2 1 1603 4 2 1 1604 4 2 1 1605 4 2 1 1606 4 2 1 1607 2 2
1 1608 2 2 1 1609 17 32 1 33 32 26 1 97 26 36 1 91 36 2 1 10629 3 2 1 12300 19 2 1 12458 16 6 1
12490 10 5 1 12510 7 6 1 12520 8 2 1 12441 3 2 1 4352 2 2 2 4522 4 3 1 4355 3 6 1 4528 7 3 1 4358 4
10 1 4361 13 6 1 4449 8 6 1 4455 8 6 1 4461 8 3 1 4467 6 2 1 162 9 4 1 8592 1047 40 1 66600 176 36
1 66776 192 19 2 66967 1 5 2 66968 12 7 2 66980 16 3 2 66996 500 2 1 720 6 2 2 675 4 2 1 598 14 2 1
682 10 2 1 630 5 2 1 637 11 2 1 673 3 3 1 448 1226 51 1 68800 208 22 1 68976 2896 32 1 71872 21920
32 1 93792 96 25 1 93883 24118 26 1 97 26 10 1 48 1808 26 1 97 26 26 1 97 26 26 1 97 26 13 2 97 1 3
2 98 8 9 2 106 17 26 1 97 26 26 1 97 26 2 2 97 9 2 1 106 4 4 1 110 5 8 1 115 8 4 1 97 5 11 2 102 3
3 2 105 8 5 2 113 10 26 1 97 26 26 1 97 26 2 1 97 3 4 1 100 6 8 1 106 9 7 1 115 8 26 1 97 26 2 1 97
3 4 1 100 5 5 1 105 10 7 1 115 8 26 1 97 26 26 1 97 26 26 1 97 26 26 1 97 26 26 1 97 26 26 1 97 26
26 1 97 26 26 1 97 26 26 1 97 26 26 1 97 26 26 1 97 26 26 1 97 26 26 1 97 30 17 1 945 18 7 1 963 8
17 1 945 18 7 1 963 14 17 1 945 18 7 1 963 8 17 1 945 18 7 1 963 14 17 1 945 18 7 1 963 8 17 1 945
18 7 1 963 14 17 1 945 18 7 1 963 8 17 1 945 18 7 1 963 14 17 1 945 18 7 1 963 8 17 1 945 18 7 1
963 18 10 1 48 10 10 1 48 10 10 1 48 10 10 1 48 10 10 1 48 2106 9 1 1072 9 3 1 1082 3 11 1 1086 12
2 1 1101 9 9 1 1072 9 2 1 1082 2 2 1 1086 3 6 1 1091 6 2 1 1098 2203 34 1 125218 1280 2 1 1575 10 4
1 1603 11 2 1 1578 21 4 1 1603 11 2 1 1578 22 2 2 1604 31 2 2 1603 11 2 1 1578 11 2 1 1575 4 2 1
1607 7 3 1 1604 10 2 1 1578 22 3 1 1604 10 2 1 1578 635 26 1 97 2752 10 1 48 64569 2 1 21253 7 2 2
21373 75 2 2 138724 6 2 1 24033 116 2 1 27578 80 2 1 30494 163 2 1 37591"

end Shift

end MasternodeBft.Host.Replacement
