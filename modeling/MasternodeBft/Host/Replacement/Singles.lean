import MasternodeBft.Host.Table

/-! Characters that each stand for another one, such as variants of ideographs. -/

namespace MasternodeBft.Host.Replacement

namespace Single

def ofText (start : Nat) (text : String) : List (Nat × Nat) := Table.spaced start (Table.twos (Table.numbers text))

def all : List (Nat × Nat) := ofText 160 "
0 32 10 97 11 956 4 49 1 111 190 255 7 115 2 595 5 596 1 392 4 396 3 477 1 601 1 603 1 402 2 608 1
611 2 617 1 616 1 409 4 623 1 626 2 629 7 640 1 424 2 643 3 429 2 648 1 432 8 658 1 441 4 445 56
501 2 405 1 447 41 414 26 11365 1 572 2 410 1 11366 3 578 2 384 1 649 1 652 108 614 2 114 1 633 1
635 1 641 1 119 1 121 40 611 1 108 1 115 1 120 1 661 95 787 2 953 47 697 2 887 8 59 1 1011 7 940 1
183 5 972 67 983 1 946 1 952 1 965 1 973 1 971 1 966 1 960 26 954 1 961 1 963 2 952 1 949 2 1016 2
963 1 1019 198 1231 2636 3851 443 11559 6 11565 47 4316 2948 1074 1 1076 1 1086 3 1090 1 1098 1
1123 1 42571 1 7306 163 97 1 230 5 477 10 111 1 547 1 112 1 114 3 119 1 97 3 7426 1 98 3 601 3 103
2 107 2 331 2 596 3 112 3 7453 1 623 1 118 1 7461 6 105 1 114 5 961 16 1085 35 594 1 99 1 597 1 240
1 604 1 102 1 607 1 609 1 613 4 7547 1 669 1 621 1 7557 1 671 1 625 1 624 5 632 3 427 3 7452 3 122
4 952 220 7777 3 223 211 940 2 941 2 942 2 943 2 972 2 973 2 974 61 8048 1 940 3 953 11 941 2 942 8
912 7 8054 1 943 8 944 7 8058 1 973 1 8165 3 96 9 8056 2 8060 6 32 1 32 1 32 1 32 1 32 1 32 1 32 1
32 1 32 1 32 1 32 7 8208 30 32 48 32 17 48 1 105 9 43 1 8722 1 61 3 110 11 43 1 8722 1 61 4 97 1
101 1 111 1 120 1 601 1 104 5 112 104 99 5 603 5 104 1 104 1 104 1 295 1 105 1 105 1 108 10 114 1
114 7 122 2 969 2 122 2 107 1 229 4 101 3 8526 1 109 1 111 5 105 3 960 1 947 1 947 1 960 1 8721 5
100 27 105 4 118 5 120 3 108 3 109 1 105 4 118 5 120 3 108 3 109 4 8580 871 48 1910 11361 2 619 1
7549 1 637 9 593 1 625 1 592 1 594 2 11379 3 11382 7 106 1 118 117 11507 125 11617 304 27597 84
40863 13 19968 1 20008 1 20022 1 20031 1 20057 1 20101 1 20108 1 20128 1 20154 1 20799 1 20837 1
20843 1 20866 1 20886 1 20907 1 20960 1 20981 1 20992 1 21147 1 21241 1 21269 1 21274 1 21304 1
21313 1 21340 1 21353 1 21378 1 21430 1 21448 1 21475 1 22231 1 22303 1 22763 1 22786 1 22794 1
22805 1 22823 1 22899 1 23376 1 23424 1 23544 1 23567 1 23586 1 23608 1 23662 1 23665 1 24027 1
24037 1 24049 1 24062 1 24178 1 24186 1 24191 1 24308 1 24318 1 24331 1 24339 1 24400 1 24417 1
24435 1 24515 1 25096 1 25142 1 25163 1 25903 1 25908 1 25991 1 26007 1 26020 1 26041 1 26080 1
26085 1 26352 1 26376 1 26408 1 27424 1 27490 1 27513 1 27571 1 27595 1 27604 1 27611 1 27663 1
27668 1 27700 1 28779 1 29226 1 29238 1 29243 1 29247 1 29255 1 29273 1 29275 1 29356 1 29572 1
29577 1 29916 1 29926 1 29976 1 29983 1 29992 1 30000 1 30091 1 30098 1 30326 1 30333 1 30382 1
30399 1 30446 1 30683 1 30690 1 30707 1 31034 1 31160 1 31166 1 31348 1 31435 1 31481 1 31859 1
31992 1 32566 1 32593 1 32650 1 32701 1 32769 1 32780 1 32786 1 32819 1 32895 1 32905 1 33251 1
33258 1 33267 1 33276 1 33292 1 33307 1 33311 1 33390 1 33394 1 33400 1 34381 1 34411 1 34880 1
34892 1 34915 1 35198 1 35211 1 35282 1 35328 1 35895 1 35910 1 35925 1 35960 1 35997 1 36196 1
36208 1 36275 1 36523 1 36554 1 36763 1 36784 1 36789 1 37009 1 37193 1 37318 1 37324 1 37329 1
38263 1 38272 1 38428 1 38582 1 38585 1 38632 1 38737 1 38750 1 38754 1 38761 1 38859 1 38893 1
38899 1 38913 1 39080 1 39131 1 39135 1 39318 1 39321 1 39340 1 39592 1 39640 1 39647 1 39717 1
39727 1 39730 1 39740 1 39770 1 40165 1 40565 1 40575 1 40613 1 40635 1 40643 1 40653 1 40657 1
40697 1 40701 1 40718 1 40723 1 40736 1 40763 1 40778 1 40786 1 40845 1 40860 1 40864 43 32 2 46 52
12306 2 21313 252 4354 2 4525 10 4378 4 4385 37 4556 1 4558 1 4563 1 4567 1 4569 1 4380 1 4573 1
4575 3 4384 3 4391 1 4393 6 4402 1 4406 1 4416 1 4423 1 4428 8 4488 3 4500 1 4510 1 4513 4 19968 1
20108 1 19977 1 22235 1 19978 1 20013 1 19979 1 30002 1 20057 1 19993 1 19969 1 22825 1 22320 1
20154 165 21839 1 24188 1 25991 1 31631 25 4352 6 4361 8 44032 1 45208 1 45796 1 46972 1 47560 1
48148 1 49324 1 50500 1 51088 1 52264 1 52852 1 53440 1 54028 1 54616 3 50864 2 19968 1 20108 1
19977 1 22235 1 20116 1 20845 1 19971 1 20843 1 20061 1 21313 1 26376 1 28779 1 27700 1 26408 1
37329 1 22303 1 26085 1 26666 1 26377 1 31038 1 21517 1 29305 1 36001 1 31069 1 21172 1 31192 1
30007 1 22899 1 36969 1 20778 1 21360 1 27880 1 38917 1 20241 1 20889 1 27491 1 19978 1 20013 1
19979 1 24038 1 21491 1 21307 1 23447 1 23398 1 30435 1 20225 1 36039 1 21332 1 22812 32 12450 1
12452 1 12454 1 12456 3 12461 1 12463 1 12465 1 12467 1 12469 1 12471 1 12473 1 12475 1 12477 1
12479 1 12481 1 12484 1 12486 1 12488 7 12498 1 12501 1 12504 1 12507 6 12516 1 12518 29608 1098 1
1100 211 42863 13 7545 14 42892 2 613 29 614 1 604 1 609 1 620 1 618 2 670 1 647 1 669 1 43859 17
42900 1 642 1 7566 5 612 17 411 21 115 1 99 1 102 1 113 1 42998 3 295 1 339 867 42791 1 43831 1 619
1 43858 10 653 19863 35912 1 26356 1 36554 1 36040 1 28369 1 20018 1 21477 1 40860 1 40860 1 22865
1 37329 1 21895 1 22856 1 25078 1 30313 1 32645 1 34367 1 34746 1 35064 1 37007 1 27138 1 27931 1
28889 1 29662 1 33853 1 37226 1 39409 1 20098 1 21365 1 27396 1 29211 1 34349 1 40478 1 23888 1
28651 1 34253 1 35172 1 25289 1 33240 1 34847 1 24266 1 26391 1 28010 1 29436 1 37070 1 20358 1
20919 1 21214 1 25796 1 27347 1 29200 1 30439 1 32769 1 34310 1 34396 1 36335 1 38706 1 39791 1
40442 1 30860 1 31103 1 32160 1 33737 1 37636 1 40575 1 35542 1 22751 1 24324 1 31840 1 32894 1
29282 1 30922 1 36034 1 38647 1 22744 1 23650 1 27155 1 28122 1 28431 1 32047 1 32311 1 38475 1
21202 1 32907 1 20956 1 20940 1 31260 1 32190 1 33777 1 38517 1 35712 1 25295 1 27138 1 35582 1
20025 1 23527 1 24594 1 29575 1 30064 1 21271 1 30971 1 20415 1 24489 1 19981 1 27852 1 25976 1
32034 1 21443 1 22622 1 30465 1 33865 1 35498 1 27578 1 36784 1 27784 1 25342 1 33509 1 25504 1
30053 1 20142 1 20841 1 20937 1 26753 1 31975 1 33391 1 35538 1 37327 1 21237 1 21570 1 22899 1
24300 1 26053 1 28670 1 31018 1 38317 1 39530 1 40599 1 40654 1 21147 1 26310 1 27511 1 36706 1
24180 1 24976 1 25088 1 25754 1 28451 1 29001 1 29833 1 31178 1 32244 1 32879 1 36646 1 34030 1
36899 1 37706 1 21015 1 21155 1 21693 1 28872 1 35010 1 35498 1 24265 1 24565 1 25467 1 27566 1
31806 1 29557 1 20196 1 22265 1 23527 1 23994 1 24604 1 29618 1 29801 1 32666 1 32838 1 37428 1
38646 1 38728 1 38936 1 20363 1 31150 1 37300 1 38584 1 24801 1 20102 1 20698 1 23534 1 23615 1
26009 1 27138 1 29134 1 30274 1 34044 1 36988 1 40845 1 26248 1 38446 1 21129 1 26491 1 26611 1
27969 1 28316 1 29705 1 30041 1 30827 1 32016 1 39006 1 20845 1 25134 1 38520 1 20523 1 23833 1
28138 1 36650 1 24459 1 24900 1 26647 1 29575 1 38534 1 21033 1 21519 1 23653 1 26131 1 26446 1
26792 1 27877 1 29702 1 30178 1 32633 1 35023 1 35041 1 37324 1 38626 1 21311 1 28346 1 21533 1
29136 1 29848 1 34298 1 38563 1 40023 1 40607 1 26519 1 28107 1 33256 1 31435 1 31520 1 31890 1
29376 1 28825 1 35672 1 20160 1 33590 1 21050 1 20999 1 24230 1 25299 1 31958 1 23429 1 27934 1
26292 1 36667 1 34892 1 38477 1 35211 1 24275 1 20800 1 21952 3 22618 2 26228 3 20958 1 29482 1
30410 1 31036 1 31070 1 31077 1 31119 1 38742 1 31934 1 32701 2 34322 2 35576 3 36920 1 37117 4
39151 1 39164 1 39208 1 40372 1 37086 1 38583 1 20398 1 20711 1 20813 1 21193 1 21220 1 21329 1
21917 1 22022 1 22120 1 22592 1 22696 1 23652 1 23662 1 24724 1 24936 1 24974 1 25074 1 25935 1
26082 1 26257 1 26757 1 28023 1 28186 1 28450 1 29038 1 29227 1 29730 1 30865 1 31038 1 31049 1
31048 1 31056 1 31062 1 31069 3 31296 1 31361 1 31680 1 32244 1 32265 1 32321 1 32626 1 32773 1
33261 1 33401 1 33401 1 33879 1 35088 1 35222 1 35585 1 35641 1 36051 1 36104 1 36790 1 36920 1
38627 1 38911 1 38971 1 24693 1 148206 1 33304 3 20006 1 20917 1 20840 1 20352 1 20805 1 20864 1
21191 1 21242 1 21917 1 21845 1 21913 1 21986 1 22618 1 22707 1 22852 1 22868 1 23138 1 23336 1
24274 1 24281 1 24425 1 24493 1 24792 1 24910 1 24840 1 24974 1 24928 1 25074 1 25140 1 25540 1
25628 1 25682 1 25942 1 26228 1 26391 1 26395 1 26454 1 27513 1 27578 1 27969 1 28379 1 28363 1
28450 1 28702 1 29038 1 30631 1 29237 1 29359 1 29482 1 29809 1 29958 1 30011 1 30237 1 30239 1
30410 1 30427 1 30452 1 30538 1 30528 1 30924 1 31409 1 31680 1 31867 1 32091 1 32244 1 32574 1
32773 1 33618 1 33775 1 34681 1 35137 1 35206 1 35222 1 35519 1 35576 1 35531 1 35585 1 35582 1
35565 1 35641 1 35722 1 36104 1 36664 1 36978 1 37273 1 37494 1 38524 1 38627 1 38742 1 38875 1
38911 1 38923 1 38971 1 39698 1 40860 1 141386 1 141380 1 144341 1 15261 1 16408 1 16441 1 152137 1
154832 1 163539 1 40771 1 40846 71 1506 1 1488 6 1512 1 1514 1 43 39 1649 1 1649 1 1659 1 1659 1
1659 1 1659 1 1662 1 1662 5 1664 1 1664 1 1658 1 1658 1 1658 1 1658 1 1663 1 1663 1 1663 1 1663 1
1657 1 1657 1 1657 1 1657 1 1700 1 1700 5 1702 1 1702 1 1668 1 1668 1 1668 1 1668 1 1667 1 1667 1
1667 1 1667 1 1670 1 1670 1 1670 3 1671 1 1671 1 1671 1 1677 1 1677 5 1672 1 1672 1 1688 1 1688 1
1681 1 1681 1 1705 1 1705 1 1705 1 1705 1 1711 1 1711 1 1711 1 1711 1 1715 1 1715 1 1715 1 1715 1
1713 1 1713 1 1713 1 1713 1 1722 3 1723 1 1723 1 1723 1 1728 3 1729 1 1729 1 1729 1 1726 1 1726 1
1726 1 1726 1 1746 3 1747 34 1709 1 1709 1 1709 1 1709 1 1735 1 1735 6 1739 1 1739 1 1733 1 1733 1
1737 1 1737 1 1744 1 1744 1 1744 1 1744 1 1609 1 1609 19 1740 1 1740 1 1740 1 1740 529 44 1 12289 4
33 1 63 27 8212 1 8211 1 95 1 95 3 123 1 125 15 91 1 93 5 95 1 95 1 95 1 44 1 12289 3 59 1 58 1 63
1 33 1 8212 3 123 1 125 3 35 1 38 3 45 1 60 1 62 1 61 2 92 3 64 31 1574 1 1574 5 1576 1 1576 5 1578
1 1578 3 1579 1 1579 3 1580 1 1580 3 1581 1 1581 3 1582 1 1582 11 1587 1 1587 3 1588 1 1588 3 1589
1 1589 3 1590 1 1590 3 1591 1 1591 3 1592 1 1592 3 1593 1 1593 3 1594 1 1594 1 1594 1 1601 1 1601 1
1601 3 1602 1 1602 3 1603 1 1603 3 1604 1 1604 3 1605 1 1605 3 1606 1 1606 3 1607 1 1607 7 1610 1
1610 1 1610 109 46 3 12289 1 12539 1 12530 1 12449 1 12451 1 12453 1 12455 1 12457 1 12515 1 12517
1 12519 1 12483 1 12540 1 12450 1 12452 1 12454 1 12456 3 12461 1 12463 1 12465 1 12467 1 12469 1
12471 1 12473 1 12475 1 12477 1 12479 1 12481 1 12484 1 12486 1 12488 7 12498 1 12501 1 12504 1
12507 6 12516 1 12518 7 12527 1 12531 7 4354 2 4525 10 4378 4 4385 46 172 2 166 1 165 1 8361 2 9474
5 9632 1 9675 1447 67004 494 230 1 665 1 595 3 43878 2 676 3 7569 1 600 1 606 1 681 1 612 1 610 1
608 1 667 1 295 1 668 1 615 1 644 3 620 1 122628 1 42894 1 622 1 122629 1 654 1 122630 1 248 3 113
1 634 1 122632 3 640 1 680 1 678 1 43879 1 679 1 648 1 11377 2 655 3 664 4 122634 1 122654 52453
100 3 103 164 111 350 305 1 567 20 952 8 8711 18 963 8 8706 1 949 1 952 1 954 1 966 1 961 1 960 18
952 8 8711 18 963 8 8706 1 949 1 952 1 954 1 966 1 961 1 960 18 952 8 8711 18 963 8 8706 1 949 1
952 1 954 1 966 1 961 1 960 18 952 8 8711 18 963 8 8706 1 949 1 952 1 954 1 966 1 961 1 960 18 952
8 8711 18 963 8 8706 1 949 1 952 1 954 1 966 1 961 1 960 1 989 1 989 2172 1099 3 42633 1 1241 1
1110 1 1112 1 1257 1 1199 1 1231 14 1089 9 1169 1 1110 1 1109 1 1119 1 1195 1 42577 1 1201 3477
1580 1 1583 2 1608 1 1586 1 1581 1 1591 1 1610 5 1587 1 1593 1 1601 1 1589 1 1602 1 1585 1 1588 3
1582 1 1584 1 1590 1 1592 1 1594 1 1646 1 1722 1 1697 1 1647 2 1576 1 1580 2 1607 3 1581 2 1610 5
1587 1 1593 1 1601 1 1589 1 1602 2 1588 3 1582 2 1590 2 1594 7 1580 5 1581 2 1610 5 1587 1 1593 2
1589 1 1602 2 1588 3 1582 2 1590 2 1594 2 1722 2 1647 2 1576 1 1580 2 1607 3 1581 1 1591 1 1610 4
1606 1 1587 1 1593 1 1601 1 1589 1 1602 2 1588 3 1582 2 1590 1 1592 1 1594 1 1646 2 1697 4 1580 1
1583 3 1586 1 1581 1 1591 1 1610 5 1587 1 1593 1 1601 1 1589 1 1602 1 1585 1 1588 3 1582 1 1584 1
1590 1 1592 1 1594 6 1576 1 1580 1 1583 2 1608 1 1586 1 1581 1 1591 1 1610 5 1587 1 1593 1 1601 1
1589 1 1602 1 1585 1 1588 3 1582 1 1584 1 1590 1 1592 1 1594 624 99 1 114 214 12469 14 25163 1
23383 1 21452 1 12487 1 20108 1 22810 1 35299 1 22825 1 20132 1 26144 1 28961 1 26009 1 21069 1
24460 1 20877 1 26032 1 21021 1 32066 1 29983 1 36009 1 22768 1 21561 1 28436 1 25237 1 25429 1
19968 1 19977 1 36938 1 24038 1 20013 1 21491 1 25351 1 36208 1 25171 1 31105 1 31354 1 21512 1
28288 1 26377 1 26376 1 30003 1 21106 1 21942 1 37197 21 24471 1 21487 66991 20029 1 20024 1 20033
1 131362 1 20320 1 20398 1 20411 1 20482 1 20602 1 20633 1 20711 1 20687 1 13470 1 132666 1 20813 1
20820 1 20836 1 20855 1 132380 1 13497 1 20839 1 20877 1 132427 1 20887 1 20900 1 20172 1 20908 1
20917 1 168415 1 20981 1 20995 1 13535 1 21051 1 21062 1 21106 1 21111 1 13589 1 21191 1 21193 1
21220 1 21242 3 21271 1 21321 1 21329 1 21338 1 21363 2 21375 2 21375 1 133676 1 28784 1 21450 1
21471 1 133987 1 21483 1 21489 1 21510 1 21662 1 21560 1 21576 1 21608 1 21666 1 21750 1 21776 1
21843 1 21859 1 21892 1 21892 1 21913 1 21931 1 21939 1 21954 1 22294 1 22022 1 22295 1 22097 1
22132 1 20999 1 22766 1 22478 1 22516 1 22541 1 22411 1 22578 1 22577 1 22700 1 136420 1 22770 1
22775 1 22790 1 22810 1 22818 1 22882 1 136872 1 136938 1 23020 1 23067 1 23079 1 23000 1 23142 1
14062 1 14076 1 23304 1 23358 1 23358 1 137672 1 23491 1 23512 1 23527 1 23539 1 138008 1 23551 1
23558 1 24403 1 23586 1 14209 1 23648 1 23662 1 23744 1 23693 2 23875 2 23918 1 23915 1 23932 3
14383 1 24061 1 24104 1 24125 1 24169 1 14434 1 139651 1 14460 1 24240 1 24243 1 24246 1 24266 1
172946 1 24318 1 140081 1 140081 1 33281 1 24354 1 24354 1 14535 1 144056 1 156122 1 24418 1 24427
1 14563 1 24474 1 24525 1 24535 1 24569 1 24705 1 14650 1 14620 1 24724 1 141012 1 24775 1 24904 1
24908 1 24910 1 24908 1 24954 1 24974 1 25010 1 24996 1 25007 1 25054 1 25074 1 25078 1 25104 1
25115 1 25181 1 25265 1 25300 1 25424 1 142092 1 25405 1 25340 1 25448 1 25475 1 25572 1 142321 1
25634 1 25541 1 25513 1 14894 1 25705 1 25726 1 25757 1 25719 1 14956 1 25935 1 25964 1 143370 1
26083 1 26360 1 26185 1 15129 1 26257 1 15112 1 15076 1 20882 1 20885 1 26368 1 26268 1 32941 1
17369 1 26391 1 26395 1 26401 1 26462 1 26451 1 144323 1 15177 1 26618 1 26501 1 26706 1 26757 1
144493 1 26766 1 26655 1 26900 1 15261 1 26946 1 27043 1 27114 1 27304 1 145059 1 27355 1 15384 1
27425 1 145575 1 27476 1 15438 1 27506 1 27551 3 146061 1 138507 1 146170 1 27726 1 146620 1 27839
1 27853 1 27751 1 27926 1 27966 1 28023 1 27969 1 28009 1 28024 1 28037 1 146718 1 27956 1 28207 1
28270 1 15667 1 28363 1 28359 1 147153 1 28153 1 28526 1 147294 1 147342 1 28614 1 28729 1 28702 1
28699 1 15766 1 28746 1 28797 1 28791 1 28845 1 132389 1 28997 1 148067 1 29084 1 148395 1 29224 1
29237 1 29264 1 149000 1 29312 1 29333 1 149301 1 149524 1 29562 1 29579 1 16044 1 29605 1 16056 1
16056 1 29767 1 29788 1 29809 1 29829 1 29898 1 16155 1 29988 1 150582 1 30014 1 150674 1 30064 1
139679 1 30224 1 151457 1 151480 1 151620 1 16380 1 16392 1 30452 1 151795 1 151794 1 151833 1
151859 3 30495 1 30538 1 16441 1 30603 1 16454 1 16534 1 152605 1 30798 1 30860 1 30924 1 16611 1
153126 1 31062 1 153242 1 153285 1 31119 1 31211 1 16687 1 31296 1 31306 1 31311 1 153980 1 154279
1 154279 1 31470 1 16898 1 154539 1 31686 1 31689 1 16935 1 154752 1 31954 1 17056 1 31976 1 31971
1 32000 1 155526 1 32099 1 17153 1 32199 1 32258 1 32325 1 17204 1 156200 1 156231 1 17241 1 156377
1 32634 1 156478 1 32661 1 32762 1 32773 1 156890 1 156963 1 32864 1 157096 1 32880 1 144223 1
17365 1 32946 1 33027 1 17419 1 33086 1 23221 1 157607 1 157621 1 144275 1 144284 1 33281 1 33284 1
36766 1 17515 1 33425 1 33419 1 33437 1 21171 1 33457 1 33459 1 33469 1 33510 1 158524 1 33509 1
33565 1 33635 1 33709 1 33571 1 33725 1 33767 1 33879 1 33619 1 33738 1 33740 1 33756 1 158774 1
159083 1 158933 1 17707 1 34033 1 34035 1 34070 1 160714 1 34148 1 159532 1 17757 1 17761 1 159665
1 159954 1 17771 1 34384 1 34396 1 34407 1 34409 1 34473 1 34440 1 34574 1 34530 1 34681 1 34600 1
34667 1 34694 1 17879 1 34785 1 34817 1 17913 1 34912 1 34915 1 161383 1 35031 1 35038 1 17973 1
35066 1 13499 1 161966 1 162150 1 18110 1 18119 1 35488 1 35565 1 35722 1 35925 1 162984 1 36011 1
36033 1 36123 1 36215 1 163631 1 133124 1 36299 1 36284 1 36336 1 133342 1 36564 1 36664 1 165330 1
165357 1 37012 1 37105 1 37137 1 165678 1 37147 1 37432 3 37500 1 37881 1 37909 1 166906 1 38283 1
18837 1 38327 1 167287 1 18918 1 38595 1 23986 1 38691 1 168261 1 168474 1 19054 1 19062 1 38880 1
168970 1 19122 1 169110 1 38923 1 38923 1 38953 1 169398 1 39138 1 19251 1 39209 1 39335 1 39362 1
39422 1 19406 1 170800 1 39698 1 40000 1 40189 1 19662 1 19693 1 40295 1 172238 1 19704 1 172293 1
172558 1 172689 1 40635 1 19798 1 40697 1 40702 1 40709 1 40719 1 40726 1 40763 1 173568"

end Single

end MasternodeBft.Host.Replacement
