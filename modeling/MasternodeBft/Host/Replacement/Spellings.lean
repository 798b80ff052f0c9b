import MasternodeBft.Host.Table

/-! Characters that stand for several, such as ligatures and signs for units. -/

namespace MasternodeBft.Host.Replacement

namespace Spelling

/-- Each row counts the code points that its character stands for. -/
def rows : List Nat → List (Nat × List Nat)
  | gap :: count :: rest => (gap, rest.take count) :: rows (rest.drop count)
  | _ => []
termination_by numbers => numbers.length
decreasing_by
  rw [List.length_drop, List.length_cons, List.length_cons]
  omega

def ofText (start : Nat) (text : String) : List (Nat × List Nat) := Table.spaced start (rows (Table.numbers text))

def all : List (Nat × List Nat) := ofText 168 "
0 2 32 776 7 2 32 772 5 2 32 769 4 2 32 807 4 3 49 8260 52 1 3 49 8260 50 1 3 51 8260 52 114 2 105
775 2 2 105 106 1 2 105 106 12 2 108 183 1 2 108 183 9 2 700 110 123 2 100 382 1 2 100 382 1 2 100
382 1 2 108 106 1 2 108 106 1 2 108 106 1 2 110 106 1 2 110 106 1 2 110 106 37 2 100 122 1 2 100
122 1 2 100 122 229 2 32 774 1 2 32 775 1 2 32 778 1 2 32 808 1 2 32 771 1 2 32 779 103 2 776 769
54 2 32 953 10 2 32 769 1 3 32 776 769 514 2 1381 1410 238 2 1575 1652 1 2 1608 1652 1 2 1735 1652
1 2 1610 1652 736 2 2325 2364 1 2 2326 2364 1 2 2327 2364 1 2 2332 2364 1 2 2337 2364 1 2 2338 2364
1 2 2347 2364 1 2 2351 2364 125 2 2465 2492 1 2 2466 2492 2 2 2479 2492 84 2 2610 2620 3 2 2616
2620 35 2 2582 2620 1 2 2583 2620 1 2 2588 2620 3 2 2603 2620 254 2 2849 2876 1 2 2850 2876 726 2
3661 3634 128 2 3789 3762 41 2 3755 3737 1 2 3755 3745 102 2 3906 4023 10 2 3916 4023 5 2 3921 4023
5 2 3926 4023 5 2 3931 4023 13 2 3904 4021 10 2 3953 3954 2 2 3953 3956 1 2 4018 3968 1 3 4018 3953
3968 1 2 4019 3968 1 3 4019 3953 3968 8 2 3953 3968 18 2 3986 4023 10 2 3996 4023 5 2 4001 4023 5 2
4006 4023 5 2 4011 4023 13 2 3984 4021 3809 2 97 702 230 2 7936 953 1 2 7937 953 1 2 7938 953 1 2
7939 953 1 2 7940 953 1 2 7941 953 1 2 7942 953 1 2 7943 953 1 2 7936 953 1 2 7937 953 1 2 7938 953
1 2 7939 953 1 2 7940 953 1 2 7941 953 1 2 7942 953 1 2 7943 953 1 2 7968 953 1 2 7969 953 1 2 7970
953 1 2 7971 953 1 2 7972 953 1 2 7973 953 1 2 7974 953 1 2 7975 953 1 2 7968 953 1 2 7969 953 1 2
7970 953 1 2 7971 953 1 2 7972 953 1 2 7973 953 1 2 7974 953 1 2 7975 953 1 2 8032 953 1 2 8033 953
1 2 8034 953 1 2 8035 953 1 2 8036 953 1 2 8037 953 1 2 8038 953 1 2 8039 953 1 2 8032 953 1 2 8033
953 1 2 8034 953 1 2 8035 953 1 2 8036 953 1 2 8037 953 1 2 8038 953 1 2 8039 953 3 2 8048 953 1 2
945 953 1 2 940 953 3 2 8118 953 5 2 945 953 1 2 32 787 2 2 32 787 1 2 32 834 1 3 32 776 834 1 2
8052 953 1 2 951 953 1 2 942 953 3 2 8134 953 5 2 951 953 1 3 32 787 768 1 3 32 787 769 1 3 32 787
834 14 3 32 788 768 1 3 32 788 769 1 3 32 788 834 14 3 32 776 768 1 3 32 776 769 4 2 8060 953 1 2
969 953 1 2 974 953 3 2 8182 953 5 2 969 953 1 2 32 769 1 2 32 788 25 2 32 819 28 2 8242 8242 1 3
8242 8242 8242 2 2 8245 8245 1 3 8245 8245 8245 5 2 33 33 2 2 32 773 9 2 63 63 1 2 63 33 1 2 33 63
14 4 8242 8242 8242 8242 81 2 114 115 88 3 97 47 99 1 3 97 47 115 2 2 176 99 2 3 99 47 111 1 3 99
47 117 3 2 176 102 13 2 110 111 10 2 115 109 1 3 116 101 108 1 2 116 109 25 3 102 97 120 21 3 49
8260 55 1 3 49 8260 57 1 4 49 8260 49 48 1 3 49 8260 51 1 3 50 8260 51 1 3 49 8260 53 1 3 50 8260
53 1 3 51 8260 53 1 3 52 8260 53 1 3 49 8260 54 1 3 53 8260 54 1 3 49 8260 56 1 3 51 8260 56 1 3 53
8260 56 1 3 55 8260 56 1 2 49 8260 2 2 105 105 1 3 105 105 105 1 2 105 118 2 2 118 105 1 3 118 105
105 1 4 118 105 105 105 1 2 105 120 2 2 120 105 1 3 120 105 105 6 2 105 105 1 3 105 105 105 1 2 105
118 2 2 118 105 1 3 118 105 105 1 4 118 105 105 105 1 2 105 120 2 2 120 105 1 3 120 105 105 14 3 48
8260 51 163 2 8747 8747 1 3 8747 8747 8747 2 2 8750 8750 1 3 8750 8750 8750 569 2 49 48 1 2 49 49 1
2 49 50 1 2 49 51 1 2 49 52 1 2 49 53 1 2 49 54 1 2 49 55 1 2 49 56 1 2 49 57 1 2 50 48 1 3 40 49
41 1 3 40 50 41 1 3 40 51 41 1 3 40 52 41 1 3 40 53 41 1 3 40 54 41 1 3 40 55 41 1 3 40 56 41 1 3
40 57 41 1 4 40 49 48 41 1 4 40 49 49 41 1 4 40 49 50 41 1 4 40 49 51 41 1 4 40 49 52 41 1 4 40 49
53 41 1 4 40 49 54 41 1 4 40 49 55 41 1 4 40 49 56 41 1 4 40 49 57 41 1 4 40 50 48 41 21 3 40 97 41
1 3 40 98 41 1 3 40 99 41 1 3 40 100 41 1 3 40 101 41 1 3 40 102 41 1 3 40 103 41 1 3 40 104 41 1 3
40 105 41 1 3 40 106 41 1 3 40 107 41 1 3 40 108 41 1 3 40 109 41 1 3 40 110 41 1 3 40 111 41 1 3
40 112 41 1 3 40 113 41 1 3 40 114 41 1 3 40 115 41 1 3 40 116 41 1 3 40 117 41 1 3 40 118 41 1 3
40 119 41 1 3 40 120 41 1 3 40 121 41 1 3 40 122 41 1367 4 8747 8747 8747 8747 104 3 58 58 61 1 2
61 61 1 3 61 61 61 102 2 10973 824 1471 2 32 12441 1 2 32 12442 3 2 12424 12426 96 2 12467 12488
257 3 40 4352 41 1 3 40 4354 41 1 3 40 4355 41 1 3 40 4357 41 1 3 40 4358 41 1 3 40 4359 41 1 3 40
4361 41 1 3 40 4363 41 1 3 40 4364 41 1 3 40 4366 41 1 3 40 4367 41 1 3 40 4368 41 1 3 40 4369 41 1
3 40 4370 41 1 3 40 44032 41 1 3 40 45208 41 1 3 40 45796 41 1 3 40 46972 41 1 3 40 47560 41 1 3 40
48148 41 1 3 40 49324 41 1 3 40 50500 41 1 3 40 51088 41 1 3 40 52264 41 1 3 40 52852 41 1 3 40
53440 41 1 3 40 54028 41 1 3 40 54616 41 1 3 40 51452 41 1 4 40 50724 51204 41 1 4 40 50724 54980
41 2 3 40 19968 41 1 3 40 20108 41 1 3 40 19977 41 1 3 40 22235 41 1 3 40 20116 41 1 3 40 20845 41
1 3 40 19971 41 1 3 40 20843 41 1 3 40 20061 41 1 3 40 21313 41 1 3 40 26376 41 1 3 40 28779 41 1 3
40 27700 41 1 3 40 26408 41 1 3 40 37329 41 1 3 40 22303 41 1 3 40 26085 41 1 3 40 26666 41 1 3 40
26377 41 1 3 40 31038 41 1 3 40 21517 41 1 3 40 29305 41 1 3 40 36001 41 1 3 40 31069 41 1 3 40
21172 41 1 3 40 20195 41 1 3 40 21628 41 1 3 40 23398 41 1 3 40 30435 41 1 3 40 20225 41 1 3 40
36039 41 1 3 40 21332 41 1 3 40 31085 41 1 3 40 20241 41 1 3 40 33258 41 1 3 40 33267 41 13 3 112
116 101 1 2 50 49 1 2 50 50 1 2 50 51 1 2 50 52 1 2 50 53 1 2 50 54 1 2 50 55 1 2 50 56 1 2 50 57 1
2 51 48 1 2 51 49 1 2 51 50 1 2 51 51 1 2 51 52 1 2 51 53 29 2 52280 44256 1 2 51452 51032 52 2 51
54 1 2 51 55 1 2 51 56 1 2 51 57 1 2 52 48 1 2 52 49 1 2 52 50 1 2 52 51 1 2 52 52 1 2 52 53 1 2 52
54 1 2 52 55 1 2 52 56 1 2 52 57 1 2 53 48 1 2 49 26376 1 2 50 26376 1 2 51 26376 1 2 52 26376 1 2
53 26376 1 2 54 26376 1 2 55 26376 1 2 56 26376 1 2 57 26376 1 3 49 48 26376 1 3 49 49 26376 1 3 49
50 26376 1 2 104 103 1 3 101 114 103 1 2 101 118 1 3 108 116 100 48 2 20196 21644 1 4 12450 12497
12540 12488 1 4 12450 12523 12501 12449 1 4 12450 12531 12506 12450 1 3 12450 12540 12523 1 4 12452
12491 12531 12464 1 3 12452 12531 12481 1 3 12454 12457 12531 1 5 12456 12473 12463 12540 12489 1 4
12456 12540 12459 12540 1 3 12458 12531 12473 1 3 12458 12540 12512 1 3 12459 12452 12522 1 4 12459
12521 12483 12488 1 4 12459 12525 12522 12540 1 3 12460 12525 12531 1 3 12460 12531 12510 1 2 12462
12460 1 3 12462 12491 12540 1 4 12461 12517 12522 12540 1 4 12462 12523 12480 12540 1 2 12461 12525
1 5 12461 12525 12464 12521 12512 1 6 12461 12525 12513 12540 12488 12523 1 5 12461 12525 12527
12483 12488 1 3 12464 12521 12512 1 5 12464 12521 12512 12488 12531 1 5 12463 12523 12476 12452
12525 1 4 12463 12525 12540 12493 1 3 12465 12540 12473 1 3 12467 12523 12490 1 3 12467 12540 12509
1 4 12469 12452 12463 12523 1 5 12469 12531 12481 12540 12512 1 4 12471 12522 12531 12464 1 3 12475
12531 12481 1 3 12475 12531 12488 1 3 12480 12540 12473 1 2 12487 12471 1 2 12489 12523 1 2 12488
12531 1 2 12490 12494 1 3 12494 12483 12488 1 3 12495 12452 12484 1 5 12497 12540 12475 12531 12488
1 3 12497 12540 12484 1 4 12496 12540 12524 12523 1 5 12500 12450 12473 12488 12523 1 3 12500 12463
12523 1 2 12500 12467 1 2 12499 12523 1 5 12501 12449 12521 12483 12489 1 4 12501 12451 12540 12488
1 5 12502 12483 12471 12455 12523 1 3 12501 12521 12531 1 5 12504 12463 12479 12540 12523 1 2 12506
12477 1 3 12506 12491 12498 1 3 12504 12523 12484 1 3 12506 12531 12473 1 3 12506 12540 12472 1 3
12505 12540 12479 1 4 12509 12452 12531 12488 1 3 12508 12523 12488 1 2 12507 12531 1 3 12509 12531
12489 1 3 12507 12540 12523 1 3 12507 12540 12531 1 4 12510 12452 12463 12525 1 3 12510 12452 12523
1 3 12510 12483 12495 1 3 12510 12523 12463 1 5 12510 12531 12471 12519 12531 1 4 12511 12463 12525
12531 1 2 12511 12522 1 5 12511 12522 12496 12540 12523 1 2 12513 12460 1 4 12513 12460 12488 12531
1 4 12513 12540 12488 12523 1 3 12516 12540 12489 1 3 12516 12540 12523 1 3 12518 12450 12531 1 4
12522 12483 12488 12523 1 2 12522 12521 1 3 12523 12500 12540 1 4 12523 12540 12502 12523 1 2 12524
12512 1 5 12524 12531 12488 12466 12531 1 3 12527 12483 12488 1 2 48 28857 1 2 49 28857 1 2 50
28857 1 2 51 28857 1 2 52 28857 1 2 53 28857 1 2 54 28857 1 2 55 28857 1 2 56 28857 1 2 57 28857 1
3 49 48 28857 1 3 49 49 28857 1 3 49 50 28857 1 3 49 51 28857 1 3 49 52 28857 1 3 49 53 28857 1 3
49 54 28857 1 3 49 55 28857 1 3 49 56 28857 1 3 49 57 28857 1 3 50 48 28857 1 3 50 49 28857 1 3 50
50 28857 1 3 50 51 28857 1 3 50 52 28857 1 3 104 112 97 1 2 100 97 1 2 97 117 1 3 98 97 114 1 2 111
118 1 2 112 99 1 2 100 109 1 3 100 109 50 1 3 100 109 51 1 2 105 117 1 2 24179 25104 1 2 26157
21644 1 2 22823 27491 1 2 26126 27835 1 4 26666 24335 20250 31038 1 2 112 97 1 2 110 97 1 2 956 97
1 2 109 97 1 2 107 97 1 2 107 98 1 2 109 98 1 2 103 98 1 3 99 97 108 1 4 107 99 97 108 1 2 112 102
1 2 110 102 1 2 956 102 1 2 956 103 1 2 109 103 1 2 107 103 1 2 104 122 1 3 107 104 122 1 3 109 104
122 1 3 103 104 122 1 3 116 104 122 1 2 956 108 1 2 109 108 1 2 100 108 1 2 107 108 1 2 102 109 1 2
110 109 1 2 956 109 1 2 109 109 1 2 99 109 1 2 107 109 1 3 109 109 50 1 3 99 109 50 1 2 109 50 1 3
107 109 50 1 3 109 109 51 1 3 99 109 51 1 2 109 51 1 3 107 109 51 1 3 109 8725 115 1 4 109 8725 115
50 1 2 112 97 1 3 107 112 97 1 3 109 112 97 1 3 103 112 97 1 3 114 97 100 1 5 114 97 100 8725 115 1
6 114 97 100 8725 115 50 1 2 112 115 1 2 110 115 1 2 956 115 1 2 109 115 1 2 112 118 1 2 110 118 1
2 956 118 1 2 109 118 1 2 107 118 1 2 109 118 1 2 112 119 1 2 110 119 1 2 956 119 1 2 109 119 1 2
107 119 1 2 109 119 1 2 107 969 1 2 109 969 2 2 98 113 1 2 99 99 1 2 99 100 1 4 99 8725 107 103 2 2
100 98 1 2 103 121 1 2 104 97 1 2 104 112 1 2 105 110 1 2 107 107 1 2 107 109 1 2 107 116 1 2 108
109 1 2 108 110 1 3 108 111 103 1 2 108 120 1 2 109 98 1 3 109 105 108 1 3 109 111 108 1 2 112 104
2 3 112 112 109 1 2 112 114 1 2 115 114 1 2 115 118 1 2 119 98 1 3 118 8725 109 1 3 97 8725 109 1 2
49 26085 1 2 50 26085 1 2 51 26085 1 2 52 26085 1 2 53 26085 1 2 54 26085 1 2 55 26085 1 2 56 26085
1 2 57 26085 1 3 49 48 26085 1 3 49 49 26085 1 3 49 50 26085 1 3 49 51 26085 1 3 49 52 26085 1 3 49
53 26085 1 3 49 54 26085 1 3 49 55 26085 1 3 49 56 26085 1 3 49 57 26085 1 3 50 48 26085 1 3 50 49
26085 1 3 50 50 26085 1 3 50 51 26085 1 3 50 52 26085 1 3 50 53 26085 1 3 50 54 26085 1 3 50 55
26085 1 3 50 56 26085 1 3 50 57 26085 1 3 51 48 26085 1 3 51 49 26085 1 3 103 97 108 50945 2 102
102 1 2 102 105 1 2 102 108 1 3 102 102 105 1 3 102 102 108 1 2 115 116 1 2 115 116 13 2 1396 1398
1 2 1396 1381 1 2 1396 1387 1 2 1406 1398 1 2 1396 1389 6 2 1497 1460 2 2 1522 1463 11 2 1513 1473
1 2 1513 1474 1 3 1513 1468 1473 1 3 1513 1468 1474 1 2 1488 1463 1 2 1488 1464 1 2 1488 1468 1 2
1489 1468 1 2 1490 1468 1 2 1491 1468 1 2 1492 1468 1 2 1493 1468 1 2 1494 1468 2 2 1496 1468 1 2
1497 1468 1 2 1498 1468 1 2 1499 1468 1 2 1500 1468 2 2 1502 1468 2 2 1504 1468 1 2 1505 1468 2 2
1507 1468 1 2 1508 1468 2 2 1510 1468 1 2 1511 1468 1 2 1512 1468 1 2 1513 1468 1 2 1514 1468 1 2
1493 1465 1 2 1489 1471 1 2 1499 1471 1 2 1508 1471 1 2 1488 1500 142 2 1735 1652 13 2 1574 1575 1
2 1574 1575 1 2 1574 1749 1 2 1574 1749 1 2 1574 1608 1 2 1574 1608 1 2 1574 1735 1 2 1574 1735 1 2
1574 1734 1 2 1574 1734 1 2 1574 1736 1 2 1574 1736 1 2 1574 1744 1 2 1574 1744 1 2 1574 1744 1 2
1574 1609 1 2 1574 1609 1 2 1574 1609 5 2 1574 1580 1 2 1574 1581 1 2 1574 1605 1 2 1574 1609 1 2
1574 1610 1 2 1576 1580 1 2 1576 1581 1 2 1576 1582 1 2 1576 1605 1 2 1576 1609 1 2 1576 1610 1 2
1578 1580 1 2 1578 1581 1 2 1578 1582 1 2 1578 1605 1 2 1578 1609 1 2 1578 1610 1 2 1579 1580 1 2
1579 1605 1 2 1579 1609 1 2 1579 1610 1 2 1580 1581 1 2 1580 1605 1 2 1581 1580 1 2 1581 1605 1 2
1582 1580 1 2 1582 1581 1 2 1582 1605 1 2 1587 1580 1 2 1587 1581 1 2 1587 1582 1 2 1587 1605 1 2
1589 1581 1 2 1589 1605 1 2 1590 1580 1 2 1590 1581 1 2 1590 1582 1 2 1590 1605 1 2 1591 1581 1 2
1591 1605 1 2 1592 1605 1 2 1593 1580 1 2 1593 1605 1 2 1594 1580 1 2 1594 1605 1 2 1601 1580 1 2
1601 1581 1 2 1601 1582 1 2 1601 1605 1 2 1601 1609 1 2 1601 1610 1 2 1602 1581 1 2 1602 1605 1 2
1602 1609 1 2 1602 1610 1 2 1603 1575 1 2 1603 1580 1 2 1603 1581 1 2 1603 1582 1 2 1603 1604 1 2
1603 1605 1 2 1603 1609 1 2 1603 1610 1 2 1604 1580 1 2 1604 1581 1 2 1604 1582 1 2 1604 1605 1 2
1604 1609 1 2 1604 1610 1 2 1605 1580 1 2 1605 1581 1 2 1605 1582 1 2 1605 1605 1 2 1605 1609 1 2
1605 1610 1 2 1606 1580 1 2 1606 1581 1 2 1606 1582 1 2 1606 1605 1 2 1606 1609 1 2 1606 1610 1 2
1607 1580 1 2 1607 1605 1 2 1607 1609 1 2 1607 1610 1 2 1610 1580 1 2 1610 1581 1 2 1610 1582 1 2
1610 1605 1 2 1610 1609 1 2 1610 1610 1 2 1584 1648 1 2 1585 1648 1 2 1609 1648 1 3 32 1612 1617 1
3 32 1613 1617 1 3 32 1614 1617 1 3 32 1615 1617 1 3 32 1616 1617 1 3 32 1617 1648 1 2 1574 1585 1
2 1574 1586 1 2 1574 1605 1 2 1574 1606 1 2 1574 1609 1 2 1574 1610 1 2 1576 1585 1 2 1576 1586 1 2
1576 1605 1 2 1576 1606 1 2 1576 1609 1 2 1576 1610 1 2 1578 1585 1 2 1578 1586 1 2 1578 1605 1 2
1578 1606 1 2 1578 1609 1 2 1578 1610 1 2 1579 1585 1 2 1579 1586 1 2 1579 1605 1 2 1579 1606 1 2
1579 1609 1 2 1579 1610 1 2 1601 1609 1 2 1601 1610 1 2 1602 1609 1 2 1602 1610 1 2 1603 1575 1 2
1603 1604 1 2 1603 1605 1 2 1603 1609 1 2 1603 1610 1 2 1604 1605 1 2 1604 1609 1 2 1604 1610 1 2
1605 1575 1 2 1605 1605 1 2 1606 1585 1 2 1606 1586 1 2 1606 1605 1 2 1606 1606 1 2 1606 1609 1 2
1606 1610 1 2 1609 1648 1 2 1610 1585 1 2 1610 1586 1 2 1610 1605 1 2 1610 1606 1 2 1610 1609 1 2
1610 1610 1 2 1574 1580 1 2 1574 1581 1 2 1574 1582 1 2 1574 1605 1 2 1574 1607 1 2 1576 1580 1 2
1576 1581 1 2 1576 1582 1 2 1576 1605 1 2 1576 1607 1 2 1578 1580 1 2 1578 1581 1 2 1578 1582 1 2
1578 1605 1 2 1578 1607 1 2 1579 1605 1 2 1580 1581 1 2 1580 1605 1 2 1581 1580 1 2 1581 1605 1 2
1582 1580 1 2 1582 1605 1 2 1587 1580 1 2 1587 1581 1 2 1587 1582 1 2 1587 1605 1 2 1589 1581 1 2
1589 1582 1 2 1589 1605 1 2 1590 1580 1 2 1590 1581 1 2 1590 1582 1 2 1590 1605 1 2 1591 1581 1 2
1592 1605 1 2 1593 1580 1 2 1593 1605 1 2 1594 1580 1 2 1594 1605 1 2 1601 1580 1 2 1601 1581 1 2
1601 1582 1 2 1601 1605 1 2 1602 1581 1 2 1602 1605 1 2 1603 1580 1 2 1603 1581 1 2 1603 1582 1 2
1603 1604 1 2 1603 1605 1 2 1604 1580 1 2 1604 1581 1 2 1604 1582 1 2 1604 1605 1 2 1604 1607 1 2
1605 1580 1 2 1605 1581 1 2 1605 1582 1 2 1605 1605 1 2 1606 1580 1 2 1606 1581 1 2 1606 1582 1 2
1606 1605 1 2 1606 1607 1 2 1607 1580 1 2 1607 1605 1 2 1607 1648 1 2 1610 1580 1 2 1610 1581 1 2
1610 1582 1 2 1610 1605 1 2 1610 1607 1 2 1574 1605 1 2 1574 1607 1 2 1576 1605 1 2 1576 1607 1 2
1578 1605 1 2 1578 1607 1 2 1579 1605 1 2 1579 1607 1 2 1587 1605 1 2 1587 1607 1 2 1588 1605 1 2
1588 1607 1 2 1603 1604 1 2 1603 1605 1 2 1604 1605 1 2 1606 1605 1 2 1606 1607 1 2 1610 1605 1 2
1610 1607 1 3 1600 1614 1617 1 3 1600 1615 1617 1 3 1600 1616 1617 1 2 1591 1609 1 2 1591 1610 1 2
1593 1609 1 2 1593 1610 1 2 1594 1609 1 2 1594 1610 1 2 1587 1609 1 2 1587 1610 1 2 1588 1609 1 2
1588 1610 1 2 1581 1609 1 2 1581 1610 1 2 1580 1609 1 2 1580 1610 1 2 1582 1609 1 2 1582 1610 1 2
1589 1609 1 2 1589 1610 1 2 1590 1609 1 2 1590 1610 1 2 1588 1580 1 2 1588 1581 1 2 1588 1582 1 2
1588 1605 1 2 1588 1585 1 2 1587 1585 1 2 1589 1585 1 2 1590 1585 1 2 1591 1609 1 2 1591 1610 1 2
1593 1609 1 2 1593 1610 1 2 1594 1609 1 2 1594 1610 1 2 1587 1609 1 2 1587 1610 1 2 1588 1609 1 2
1588 1610 1 2 1581 1609 1 2 1581 1610 1 2 1580 1609 1 2 1580 1610 1 2 1582 1609 1 2 1582 1610 1 2
1589 1609 1 2 1589 1610 1 2 1590 1609 1 2 1590 1610 1 2 1588 1580 1 2 1588 1581 1 2 1588 1582 1 2
1588 1605 1 2 1588 1585 1 2 1587 1585 1 2 1589 1585 1 2 1590 1585 1 2 1588 1580 1 2 1588 1581 1 2
1588 1582 1 2 1588 1605 1 2 1587 1607 1 2 1588 1607 1 2 1591 1605 1 2 1587 1580 1 2 1587 1581 1 2
1587 1582 1 2 1588 1580 1 2 1588 1581 1 2 1588 1582 1 2 1591 1605 1 2 1592 1605 1 2 1575 1611 1 2
1575 1611 19 3 1578 1580 1605 1 3 1578 1581 1580 1 3 1578 1581 1580 1 3 1578 1581 1605 1 3 1578
1582 1605 1 3 1578 1605 1580 1 3 1578 1605 1581 1 3 1578 1605 1582 1 3 1580 1605 1581 1 3 1580 1605
1581 1 3 1581 1605 1610 1 3 1581 1605 1609 1 3 1587 1581 1580 1 3 1587 1580 1581 1 3 1587 1580 1609
1 3 1587 1605 1581 1 3 1587 1605 1581 1 3 1587 1605 1580 1 3 1587 1605 1605 1 3 1587 1605 1605 1 3
1589 1581 1581 1 3 1589 1581 1581 1 3 1589 1605 1605 1 3 1588 1581 1605 1 3 1588 1581 1605 1 3 1588
1580 1610 1 3 1588 1605 1582 1 3 1588 1605 1582 1 3 1588 1605 1605 1 3 1588 1605 1605 1 3 1590 1581
1609 1 3 1590 1582 1605 1 3 1590 1582 1605 1 3 1591 1605 1581 1 3 1591 1605 1581 1 3 1591 1605 1605
1 3 1591 1605 1610 1 3 1593 1580 1605 1 3 1593 1605 1605 1 3 1593 1605 1605 1 3 1593 1605 1609 1 3
1594 1605 1605 1 3 1594 1605 1610 1 3 1594 1605 1609 1 3 1601 1582 1605 1 3 1601 1582 1605 1 3 1602
1605 1581 1 3 1602 1605 1605 1 3 1604 1581 1605 1 3 1604 1581 1610 1 3 1604 1581 1609 1 3 1604 1580
1580 1 3 1604 1580 1580 1 3 1604 1582 1605 1 3 1604 1582 1605 1 3 1604 1605 1581 1 3 1604 1605 1581
1 3 1605 1581 1580 1 3 1605 1581 1605 1 3 1605 1581 1610 1 3 1605 1580 1581 1 3 1605 1580 1605 1 3
1605 1582 1580 1 3 1605 1582 1605 3 3 1605 1580 1582 1 3 1607 1605 1580 1 3 1607 1605 1605 1 3 1606
1581 1605 1 3 1606 1581 1609 1 3 1606 1580 1605 1 3 1606 1580 1605 1 3 1606 1580 1609 1 3 1606 1605
1610 1 3 1606 1605 1609 1 3 1610 1605 1605 1 3 1610 1605 1605 1 3 1576 1582 1610 1 3 1578 1580 1610
1 3 1578 1580 1609 1 3 1578 1582 1610 1 3 1578 1582 1609 1 3 1578 1605 1610 1 3 1578 1605 1609 1 3
1580 1605 1610 1 3 1580 1581 1609 1 3 1580 1605 1609 1 3 1587 1582 1609 1 3 1589 1581 1610 1 3 1588
1581 1610 1 3 1590 1581 1610 1 3 1604 1580 1610 1 3 1604 1605 1610 1 3 1610 1581 1610 1 3 1610 1580
1610 1 3 1610 1605 1610 1 3 1605 1605 1610 1 3 1602 1605 1610 1 3 1606 1581 1610 1 3 1602 1605 1581
1 3 1604 1581 1605 1 3 1593 1605 1610 1 3 1603 1605 1610 1 3 1606 1580 1581 1 3 1605 1582 1610 1 3
1604 1580 1605 1 3 1603 1605 1605 1 3 1604 1580 1605 1 3 1606 1580 1581 1 3 1580 1581 1610 1 3 1581
1580 1610 1 3 1605 1580 1610 1 3 1601 1605 1610 1 3 1576 1581 1610 1 3 1603 1605 1605 1 3 1593 1580
1605 1 3 1589 1605 1605 1 3 1587 1582 1610 1 3 1606 1580 1610 41 3 1589 1604 1746 1 3 1602 1604
1746 1 4 1575 1604 1604 1607 1 4 1575 1603 1576 1585 1 4 1605 1581 1605 1583 1 4 1589 1604 1593
1605 1 4 1585 1587 1608 1604 1 4 1593 1604 1610 1607 1 4 1608 1587 1604 1605 1 3 1589 1604 1609 1
18 1589 1604 1609 32 1575 1604 1604 1607 32 1593 1604 1610 1607 32 1608 1587 1604 1605 1 8 1580
1604 32 1580 1604 1575 1604 1607 1 4 1585 1740 1575 1604 77 2 32 773 1 2 32 773 1 2 32 773 1 2 32
773 36 2 32 1611 1 2 1600 1611 1 2 32 1612 2 2 32 1613 2 2 32 1614 1 2 1600 1614 1 2 32 1615 1 2
1600 1615 1 2 32 1616 1 2 1600 1616 1 2 32 1617 1 2 1600 1617 1 2 32 1618 1 2 1600 1618 118 2 1604
1570 1 2 1604 1570 1 2 1604 1571 1 2 1604 1571 1 2 1604 1573 1 2 1604 1573 1 2 1604 1575 1 2 1604
1575 231 2 32 772 53627 2 119127 119141 1 2 119128 119141 1 3 119128 119141 119150 1 3 119128
119141 119151 1 3 119128 119141 119152 1 3 119128 119141 119153 1 3 119128 119141 119154 87 2
119225 119141 1 2 119226 119141 1 3 119225 119141 119150 1 3 119226 119141 119150 1 3 119225 119141
119151 1 3 119226 119141 119151 8001 2 48 44 1 2 49 44 1 2 50 44 1 2 51 44 1 2 52 44 1 2 53 44 1 2
54 44 1 2 55 44 1 2 56 44 1 2 57 44 6 3 40 97 41 1 3 40 98 41 1 3 40 99 41 1 3 40 100 41 1 3 40 101
41 1 3 40 102 41 1 3 40 103 41 1 3 40 104 41 1 3 40 105 41 1 3 40 106 41 1 3 40 107 41 1 3 40 108
41 1 3 40 109 41 1 3 40 110 41 1 3 40 111 41 1 3 40 112 41 1 3 40 113 41 1 3 40 114 41 1 3 40 115
41 1 3 40 116 41 1 3 40 117 41 1 3 40 118 41 1 3 40 119 41 1 3 40 120 41 1 3 40 121 41 1 3 40 122
41 1 3 12308 115 12309 3 2 99 100 1 2 119 122 28 2 104 118 1 2 109 118 1 2 115 100 1 2 115 115 1 3
112 112 118 1 2 119 99 27 2 109 99 1 2 109 100 1 2 109 114 36 2 100 106 112 2 12411 12363 1 2 12467
12467 63 3 12308 26412 12309 1 3 12308 19977 12309 1 3 12308 20108 12309 1 3 12308 23433 12309 1 3
12308 28857 12309 1 3 12308 25171 12309 1 3 12308 30423 12309 1 3 12308 21213 12309 1 3 12308 25943
12309"

end Spelling

end MasternodeBft.Host.Replacement
