import GuardedTools.Text.PointSet

/-!
# One form for texts that mean the same

Many characters can be written in several ways: a letter with an accent as one code point or two, a
letter in a wide or a raised form, a ligature.  `Text.normalized` gives all of them one form, which
is normalization form KC of Unicode 14: code points are taken apart as far as they can be, marks on
one letter are put in order, and what belongs together is put together again.

The tables are texts of numbers.  Each entry begins with the distance of its code point from that
of the entry before it, or from zero.
-/

namespace GuardedTools

namespace Normal

/-- The code points that stand for others and are never what others are put together to: each with
how many these are and their numbers. -/
def expansionRows : List String := [
  "
    160 1 32 8 2 32 776 2 1 97 5 2 32 772 3 1 50 1 1 51 1 2 32 769 1 1 956 3 2 32 807 1 1 49 1 1
    111 2 3 49 8260 52 1 3 49 8260 50 1 3 51 8260 52 116 2 73 74 1 2 105 106 12 2 76 183 1 2 108
    183 9 2 700 110 54 1 115 69 3 68 90 780 1 3 68 122 780 1 3 100 122 780 1 2 76 74 1 2 76 106
    1 2 108 106 1 2 78 74 1 2 78 106 1 2 110 106 37 2 68 90 1 2 68 122 1 2 100 122 189 1 104 1 1
    614 1 1 106 1 1 114 1 1 633 1 1 635 1 1 641 1 1 119 1 1 121 32 2 32 774 1 2 32 775 1 2 32
    778 1 2 32 808 1 2 32 771 1 2 32 779 3 1 611 1 1 108 1 1 115 1 1 120 1 1 661 92 1 768 1 1
    769 2 1 787 1 2 776 769 48 1 697 6 2 32 837 4 1 59 6 2 32 769 3 1 183 73 1 946 1 1 952 1 1
    933 3 1 966 1 1 960 26 1 954 1 1 961 1 1 962 2 1 920 1 1 949 4 1 931 398 2 1381 1410 238 2
    1575 1652 1 2 1608 1652 1 2 1735 1652 1 2 1610 1652 736 2 2325 2364 1 2 2326 2364 1 2 2327
    2364 1 2 2332 2364 1 2 2337 2364 1 2 2338 2364 1 2 2347 2364 1 2 2351 2364 125 2 2465 2492 1
    2 2466 2492 2 2 2479 2492 84 2 2610 2620 3 2 2616 2620 35 2 2582 2620 1 2 2583 2620 1 2 2588
    2620 3 2 2603 2620 254 2 2849 2876 1 2 2850 2876 726 2 3661 3634 128 2 3789 3762 41 2 3755
    3737 1 2 3755 3745 47 1 3851 55 2 3906 4023 10 2 3916 4023 5 2 3921 4023 5 2 3926 4023 5 2
    3931 4023 13 2 3904 4021 10 2 3953 3954 2 2 3953 3956 1 2 4018 3968 1 3 4018 3953 3968 1 2
    4019 3968 1 3 4019 3953 3968 8 2 3953 3968 18 2 3986 4023 10 2 3996 4023 5 2 4001 4023 5 2
    4006 4023 5 2 4011 4023 13 2 3984 4021 323 1 4316 3120 1 65 1 1 198 1 1 66 2 1 68 1 1 69 1 1
    398 1 1 71 1 1 72 1 1 73 1 1 74 1 1 75 1 1 76 1 1 77 1 1 78 2 1 79 1 1 546 1 1 80 1 1 82 1 1
    84 1 1 85 1 1 87 1 1 97 1 1 592 1 1 593 1 1 7426 1 1 98 1 1 100 1 1 101 1 1 601 1 1 603 1 1
    604 1 1 103 2 1 107 1 1 109 1 1 331 1 1 111 1 1 596 1 1 7446 1 1 7447 1 1 112 1 1 116 1 1
    117 1 1 7453 1 1 623 1 1 118 1 1 7461 1 1 946 1 1 947 1 1 948 1 1 966 1 1 967 1 1 105 1 1
    114 1 1 117 1 1 118 1 1 946 1 1 947 1 1 961 1 1 966 1 1 967 14 1 1085 35 1 594 1 1 99 1 1
    597 1 1 240 1 1 604 1 1 102 1 1 607 1 1 609 1 1 613 1 1 616 1 1 617 1 1 618 1 1 7547 1 1 669
    1 1 621 1 1 7557 1 1 671 1 1 625 1 1 624 1 1 626 1 1 627 1 1 628 1 1 629 1 1 632 1 1 642 1 1
    643 1 1 427 1 1 649 1 1 650 1 1 7452 1 1 651 1 1 652 1 1 122 1 1 656 1 1 657 1 1 658 1 1 952
    219 2 97 702 215 2 945 769 2 2 949 769 2 2 951 769 2 2 953 769 2 2 959 769 2 2 965 769 2 2
    969 769 62 2 913 769 2 2 32 787 1 1 953 1 2 32 787 1 2 32 834 9 2 917 769 2 2 919 769 8 3
    953 776 769 8 2 921 769 8 3 965 776 769 8 2 933 769 3 3 32 776 769 1 1 96 10 2 927 769 2 2
    937 769 2 2 32 769 1 2 32 788 2 1 32 1 1 32 1 1 32 1 1 32 1 1 32 1 1 32 1 1 32 1 1 32 1 1 32
    1 1 32 1 1 32 7 1 8208 6 2 32 819 13 1 46 1 2 46 46 1 3 46 46 46 9 1 32 4 2 8242 8242 1 3
    8242 8242 8242 2 2 8245 8245 1 3 8245 8245 8245 5 2 33 33 2 2 32 773 9 2 63 63 1 2 63 33 1 2
    33 63 14 4 8242 8242 8242 8242 8 1 32 17 1 48 1 1 105 3 1 52 1 1 53 1 1 54 1 1 55 1 1 56 1 1
    57 1 1 43 1 1 8722 1 1 61 1 1 40 1 1 41 1 1 110 1 1 48 1 1 49 1 1 50 1 1 51 1 1 52 1 1 53 1
    1 54 1 1 55 1 1 56 1 1 57 1 1 43 1 1 8722 1 1 61 1 1 40",
  "
    8334 1 41 2 1 97 1 1 101 1 1 111 1 1 120 1 1 601 1 1 104 1 1 107 1 1 108 1 1 109 1 1 110 1 1
    112 1 1 115 1 1 116 12 2 82 115 88 3 97 47 99 1 3 97 47 115 1 1 67 1 2 176 67 2 3 99 47 111
    1 3 99 47 117 1 1 400 2 2 176 70 1 1 103 1 1 72 1 1 72 1 1 72 1 1 104 1 1 295 1 1 73 1 1 73
    1 1 76 1 1 108 2 1 78 1 2 78 111 3 1 80 1 1 81 1 1 82 1 1 82 1 1 82 3 2 83 77 1 3 84 69 76 1
    2 84 77 2 1 90 2 1 937 2 1 90 2 1 75 1 2 65 778 1 1 66 1 1 67 2 1 101 1 1 69 1 1 70 2 1 77 1
    1 111 1 1 1488 1 1 1489 1 1 1490 1 1 1491 1 1 105 2 3 70 65 88 1 1 960 1 1 947 1 1 915 1 1
    928 1 1 8721 5 1 68 1 1 100 1 1 101 1 1 105 1 1 106 7 3 49 8260 55 1 3 49 8260 57 1 4 49
    8260 49 48 1 3 49 8260 51 1 3 50 8260 51 1 3 49 8260 53 1 3 50 8260 53 1 3 51 8260 53 1 3 52
    8260 53 1 3 49 8260 54 1 3 53 8260 54 1 3 49 8260 56 1 3 51 8260 56 1 3 53 8260 56 1 3 55
    8260 56 1 2 49 8260 1 1 73 1 2 73 73 1 3 73 73 73 1 2 73 86 1 1 86 1 2 86 73 1 3 86 73 73 1
    4 86 73 73 73 1 2 73 88 1 1 88 1 2 88 73 1 3 88 73 73 1 1 76 1 1 67 1 1 68 1 1 77 1 1 105 1
    2 105 105 1 3 105 105 105 1 2 105 118 1 1 118 1 2 118 105 1 3 118 105 105 1 4 118 105 105
    105 1 2 105 120 1 1 120 1 2 120 105 1 3 120 105 105 1 1 108 1 1 99 1 1 100 1 1 109 10 3 48
    8260 51 163 2 8747 8747 1 3 8747 8747 8747 2 2 8750 8750 1 3 8750 8750 8750 249 1 12296 1 1
    12297 310 1 49 1 1 50 1 1 51 1 1 52 1 1 53 1 1 54 1 1 55 1 1 56 1 1 57 1 2 49 48 1 2 49 49 1
    2 49 50 1 2 49 51 1 2 49 52 1 2 49 53 1 2 49 54 1 2 49 55 1 2 49 56 1 2 49 57 1 2 50 48 1 3
    40 49 41 1 3 40 50 41 1 3 40 51 41 1 3 40 52 41 1 3 40 53 41 1 3 40 54 41 1 3 40 55 41 1 3
    40 56 41 1 3 40 57 41 1 4 40 49 48 41 1 4 40 49 49 41 1 4 40 49 50 41 1 4 40 49 51 41 1 4 40
    49 52 41 1 4 40 49 53 41 1 4 40 49 54 41 1 4 40 49 55 41 1 4 40 49 56 41 1 4 40 49 57 41 1 4
    40 50 48 41 1 2 49 46 1 2 50 46 1 2 51 46 1 2 52 46 1 2 53 46 1 2 54 46 1 2 55 46 1 2 56 46
    1 2 57 46 1 3 49 48 46 1 3 49 49 46 1 3 49 50 46 1 3 49 51 46 1 3 49 52 46 1 3 49 53 46 1 3
    49 54 46 1 3 49 55 46 1 3 49 56 46 1 3 49 57 46 1 3 50 48 46 1 3 40 97 41 1 3 40 98 41 1 3
    40 99 41 1 3 40 100 41 1 3 40 101 41 1 3 40 102 41 1 3 40 103 41 1 3 40 104 41 1 3 40 105 41
    1 3 40 106 41 1 3 40 107 41 1 3 40 108 41 1 3 40 109 41 1 3 40 110 41 1 3 40 111 41 1 3 40
    112 41 1 3 40 113 41 1 3 40 114 41 1 3 40 115 41 1 3 40 116 41 1 3 40 117 41 1 3 40 118 41 1
    3 40 119 41 1 3 40 120 41 1 3 40 121 41 1 3 40 122 41 1 1 65 1 1 66 1 1 67 1 1 68 1 1 69 1 1
    70 1 1 71 1 1 72 1 1 73 1 1 74 1 1 75 1 1 76 1 1 77 1 1 78 1 1 79 1 1 80 1 1 81 1 1 82 1 1
    83 1 1 84 1 1 85 1 1 86 1 1 87 1 1 88 1 1 89 1 1 90 1 1 97 1 1 98 1 1 99 1 1 100 1 1 101 1 1
    102 1 1 103 1 1 104 1 1 105 1 1 106 1 1 107 1 1 108 1 1 109 1 1 110 1 1 111 1 1 112 1 1 113
    1 1 114 1 1 115 1 1 116 1 1 117 1 1 118 1 1 119 1 1 120 1 1 121 1 1 122 1 1 48 1314 4 8747
    8747 8747 8747 104 3 58 58 61 1 2 61 61 1 3 61 61 61 102 2 10973 824 416 1 106 1 1 86 242 1
    11617 304 1 27597 84 1 40863 13 1 19968 1 1 20008 1 1 20022 1 1 20031 1 1 20057 1 1 20101 1
    1 20108 1 1 20128 1 1 20154 1 1 20799 1 1 20837 1 1 20843 1 1 20866 1 1 20886 1 1 20907 1 1
    20960 1 1 20981 1 1 20992 1 1 21147 1 1 21241 1 1 21269 1 1 21274 1 1 21304 1 1 21313 1 1
    21340",
  "
    12057 1 21353 1 1 21378 1 1 21430 1 1 21448 1 1 21475 1 1 22231 1 1 22303 1 1 22763 1 1
    22786 1 1 22794 1 1 22805 1 1 22823 1 1 22899 1 1 23376 1 1 23424 1 1 23544 1 1 23567 1 1
    23586 1 1 23608 1 1 23662 1 1 23665 1 1 24027 1 1 24037 1 1 24049 1 1 24062 1 1 24178 1 1
    24186 1 1 24191 1 1 24308 1 1 24318 1 1 24331 1 1 24339 1 1 24400 1 1 24417 1 1 24435 1 1
    24515 1 1 25096 1 1 25142 1 1 25163 1 1 25903 1 1 25908 1 1 25991 1 1 26007 1 1 26020 1 1
    26041 1 1 26080 1 1 26085 1 1 26352 1 1 26376 1 1 26408 1 1 27424 1 1 27490 1 1 27513 1 1
    27571 1 1 27595 1 1 27604 1 1 27611 1 1 27663 1 1 27668 1 1 27700 1 1 28779 1 1 29226 1 1
    29238 1 1 29243 1 1 29247 1 1 29255 1 1 29273 1 1 29275 1 1 29356 1 1 29572 1 1 29577 1 1
    29916 1 1 29926 1 1 29976 1 1 29983 1 1 29992 1 1 30000 1 1 30091 1 1 30098 1 1 30326 1 1
    30333 1 1 30382 1 1 30399 1 1 30446 1 1 30683 1 1 30690 1 1 30707 1 1 31034 1 1 31160 1 1
    31166 1 1 31348 1 1 31435 1 1 31481 1 1 31859 1 1 31992 1 1 32566 1 1 32593 1 1 32650 1 1
    32701 1 1 32769 1 1 32780 1 1 32786 1 1 32819 1 1 32895 1 1 32905 1 1 33251 1 1 33258 1 1
    33267 1 1 33276 1 1 33292 1 1 33307 1 1 33311 1 1 33390 1 1 33394 1 1 33400 1 1 34381 1 1
    34411 1 1 34880 1 1 34892 1 1 34915 1 1 35198 1 1 35211 1 1 35282 1 1 35328 1 1 35895 1 1
    35910 1 1 35925 1 1 35960 1 1 35997 1 1 36196 1 1 36208 1 1 36275 1 1 36523 1 1 36554 1 1
    36763 1 1 36784 1 1 36789 1 1 37009 1 1 37193 1 1 37318 1 1 37324 1 1 37329 1 1 38263 1 1
    38272 1 1 38428 1 1 38582 1 1 38585 1 1 38632 1 1 38737 1 1 38750 1 1 38754 1 1 38761 1 1
    38859 1 1 38893 1 1 38899 1 1 38913 1 1 39080 1 1 39131 1 1 39135 1 1 39318 1 1 39321 1 1
    39340 1 1 39592 1 1 39640 1 1 39647 1 1 39717 1 1 39727 1 1 39730 1 1 39740 1 1 39770 1 1
    40165 1 1 40565 1 1 40575 1 1 40613 1 1 40635 1 1 40643 1 1 40653 1 1 40657 1 1 40697 1 1
    40701 1 1 40718 1 1 40723 1 1 40736 1 1 40763 1 1 40778 1 1 40786 1 1 40845 1 1 40860 1 1
    40864 43 1 32 54 1 12306 2 1 21313 1 1 21316 1 1 21317 97 2 32 12441 1 2 32 12442 3 2 12424
    12426 96 2 12467 12488 50 1 4352 1 1 4353 1 1 4522 1 1 4354 1 1 4524 1 1 4525 1 1 4355 1 1
    4356 1 1 4357 1 1 4528 1 1 4529 1 1 4530 1 1 4531 1 1 4532 1 1 4533 1 1 4378 1 1 4358 1 1
    4359 1 1 4360 1 1 4385 1 1 4361 1 1 4362 1 1 4363 1 1 4364 1 1 4365 1 1 4366 1 1 4367 1 1
    4368 1 1 4369 1 1 4370 1 1 4449 1 1 4450 1 1 4451 1 1 4452 1 1 4453 1 1 4454 1 1 4455 1 1
    4456 1 1 4457 1 1 4458 1 1 4459 1 1 4460 1 1 4461 1 1 4462 1 1 4463 1 1 4464 1 1 4465 1 1
    4466 1 1 4467 1 1 4468 1 1 4469 1 1 4448 1 1 4372 1 1 4373 1 1 4551 1 1 4552 1 1 4556 1 1
    4558 1 1 4563 1 1 4567 1 1 4569 1 1 4380 1 1 4573 1 1 4575 1 1 4381 1 1 4382 1 1 4384 1 1
    4386 1 1 4387 1 1 4391 1 1 4393 1 1 4395 1 1 4396 1 1 4397 1 1 4398 1 1 4399 1 1 4402 1 1
    4406 1 1 4416 1 1 4423 1 1 4428 1 1 4593 1 1 4594 1 1 4439 1 1 4440 1 1 4441 1 1 4484 1 1
    4485 1 1 4488 1 1 4497 1 1 4498 1 1 4500 1 1 4510 1 1 4513 4 1 19968 1 1 20108 1 1 19977 1 1
    22235 1 1 19978 1 1 20013 1 1 19979 1 1 30002",
  "
    12698 1 20057 1 1 19993 1 1 19969 1 1 22825 1 1 22320 1 1 20154 97 3 40 4352 41 1 3 40 4354
    41 1 3 40 4355 41 1 3 40 4357 41 1 3 40 4358 41 1 3 40 4359 41 1 3 40 4361 41 1 3 40 4363 41
    1 3 40 4364 41 1 3 40 4366 41 1 3 40 4367 41 1 3 40 4368 41 1 3 40 4369 41 1 3 40 4370 41 1
    4 40 4352 4449 41 1 4 40 4354 4449 41 1 4 40 4355 4449 41 1 4 40 4357 4449 41 1 4 40 4358
    4449 41 1 4 40 4359 4449 41 1 4 40 4361 4449 41 1 4 40 4363 4449 41 1 4 40 4364 4449 41 1 4
    40 4366 4449 41 1 4 40 4367 4449 41 1 4 40 4368 4449 41 1 4 40 4369 4449 41 1 4 40 4370 4449
    41 1 4 40 4364 4462 41 1 7 40 4363 4457 4364 4453 4523 41 1 6 40 4363 4457 4370 4462 41 2 3
    40 19968 41 1 3 40 20108 41 1 3 40 19977 41 1 3 40 22235 41 1 3 40 20116 41 1 3 40 20845 41
    1 3 40 19971 41 1 3 40 20843 41 1 3 40 20061 41 1 3 40 21313 41 1 3 40 26376 41 1 3 40 28779
    41 1 3 40 27700 41 1 3 40 26408 41 1 3 40 37329 41 1 3 40 22303 41 1 3 40 26085 41 1 3 40
    26666 41 1 3 40 26377 41 1 3 40 31038 41 1 3 40 21517 41 1 3 40 29305 41 1 3 40 36001 41 1 3
    40 31069 41 1 3 40 21172 41 1 3 40 20195 41 1 3 40 21628 41 1 3 40 23398 41 1 3 40 30435 41
    1 3 40 20225 41 1 3 40 36039 41 1 3 40 21332 41 1 3 40 31085 41 1 3 40 20241 41 1 3 40 33258
    41 1 3 40 33267 41 1 1 21839 1 1 24188 1 1 25991 1 1 31631 9 3 80 84 69 1 2 50 49 1 2 50 50
    1 2 50 51 1 2 50 52 1 2 50 53 1 2 50 54 1 2 50 55 1 2 50 56 1 2 50 57 1 2 51 48 1 2 51 49 1
    2 51 50 1 2 51 51 1 2 51 52 1 2 51 53 1 1 4352 1 1 4354 1 1 4355 1 1 4357 1 1 4358 1 1 4359
    1 1 4361 1 1 4363 1 1 4364 1 1 4366 1 1 4367 1 1 4368 1 1 4369 1 1 4370 1 2 4352 4449 1 2
    4354 4449 1 2 4355 4449 1 2 4357 4449 1 2 4358 4449 1 2 4359 4449 1 2 4361 4449 1 2 4363
    4449 1 2 4364 4449 1 2 4366 4449 1 2 4367 4449 1 2 4368 4449 1 2 4369 4449 1 2 4370 4449 1 5
    4366 4449 4535 4352 4457 1 4 4364 4462 4363 4468 1 2 4363 4462 2 1 19968 1 1 20108 1 1 19977
    1 1 22235 1 1 20116 1 1 20845 1 1 19971 1 1 20843 1 1 20061 1 1 21313 1 1 26376 1 1 28779 1
    1 27700 1 1 26408 1 1 37329 1 1 22303 1 1 26085 1 1 26666 1 1 26377 1 1 31038 1 1 21517 1 1
    29305 1 1 36001 1 1 31069 1 1 21172 1 1 31192 1 1 30007 1 1 22899 1 1 36969 1 1 20778 1 1
    21360 1 1 27880 1 1 38917 1 1 20241 1 1 20889 1 1 27491 1 1 19978 1 1 20013 1 1 19979 1 1
    24038 1 1 21491 1 1 21307 1 1 23447 1 1 23398 1 1 30435 1 1 20225 1 1 36039 1 1 21332 1 1
    22812 1 2 51 54 1 2 51 55 1 2 51 56 1 2 51 57 1 2 52 48 1 2 52 49 1 2 52 50 1 2 52 51 1 2 52
    52 1 2 52 53 1 2 52 54 1 2 52 55 1 2 52 56 1 2 52 57 1 2 53 48 1 2 49 26376 1 2 50 26376 1 2
    51 26376 1 2 52 26376 1 2 53 26376 1 2 54 26376 1 2 55 26376 1 2 56 26376 1 2 57 26376 1 3
    49 48 26376 1 3 49 49 26376 1 3 49 50 26376 1 2 72 103 1 3 101 114 103 1 2 101 86 1 3 76 84
    68 1 1 12450 1 1 12452 1 1 12454 1 1 12456 1 1 12458 1 1 12459 1 1 12461 1 1 12463 1 1 12465
    1 1 12467 1 1 12469 1 1 12471 1 1 12473 1 1 12475 1 1 12477 1 1 12479 1 1 12481 1 1 12484 1
    1 12486 1 1 12488 1 1 12490 1 1 12491 1 1 12492 1 1 12493 1 1 12494 1 1 12495 1 1 12498 1 1
    12501 1 1 12504 1 1 12507 1 1 12510 1 1 12511 1 1 12512 1 1 12513 1 1 12514 1 1 12516 1 1
    12518 1 1 12520 1 1 12521 1 1 12522 1 1 12523 1 1 12524 1 1 12525 1 1 12527 1 1 12528 1 1
    12529 1 1 12530 1 2 20196 21644 1 5 12450 12495 12442 12540 12488 1 4 12450 12523 12501
    12449 1 5 12450 12531 12504 12442 12450 1 3 12450 12540 12523 1 5 12452 12491 12531 12463
    12441 1 3 12452 12531 12481 1 3 12454 12457 12531 1 6 12456 12473 12463 12540 12488 12441 1
    4 12456 12540 12459 12540 1 3 12458 12531 12473 1 3 12458 12540 12512 1 3 12459 12452 12522
    1 4 12459 12521 12483 12488 1 4 12459 12525 12522 12540 1 4 12459 12441 12525 12531 1 4
    12459 12441 12531 12510 1 4 12461 12441 12459 12441 1 4 12461 12441 12491 12540 1 4 12461
    12517 12522 12540 1 6 12461 12441 12523 12479 12441 12540 1 2 12461 12525 1 6 12461 12525
    12463 12441 12521 12512 1 6 12461 12525 12513 12540 12488 12523 1 5 12461 12525 12527 12483
    12488 1 4 12463 12441 12521 12512 1 6 12463 12441 12521 12512 12488 12531 1 6 12463 12523
    12475 12441 12452 12525 1 4 12463 12525 12540 12493 1 3 12465 12540 12473 1 3 12467 12523
    12490 1 4 12467 12540 12507 12442 1 4 12469 12452 12463 12523 1 5 12469 12531 12481 12540
    12512 1 5 12471 12522 12531 12463 12441 1 3 12475 12531 12481 1 3 12475 12531 12488 1 4
    12479 12441 12540 12473 1 3 12486 12441 12471 1 3 12488 12441 12523 1 2 12488 12531 1 2
    12490 12494 1 3 12494 12483 12488 1 3 12495 12452 12484 1 6 12495 12442 12540 12475 12531
    12488 1 4 12495 12442 12540 12484 1 5 12495 12441 12540 12524 12523 1 6 12498 12442 12450
    12473 12488 12523 1 4 12498 12442 12463 12523",
  "
    13104 3 12498 12442 12467 1 3 12498 12441 12523 1 6 12501 12449 12521 12483 12488 12441 1 4
    12501 12451 12540 12488 1 6 12501 12441 12483 12471 12455 12523 1 3 12501 12521 12531 1 5
    12504 12463 12479 12540 12523 1 3 12504 12442 12477 1 4 12504 12442 12491 12498 1 3 12504
    12523 12484 1 4 12504 12442 12531 12473 1 5 12504 12442 12540 12471 12441 1 4 12504 12441
    12540 12479 1 5 12507 12442 12452 12531 12488 1 4 12507 12441 12523 12488 1 2 12507 12531 1
    5 12507 12442 12531 12488 12441 1 3 12507 12540 12523 1 3 12507 12540 12531 1 4 12510 12452
    12463 12525 1 3 12510 12452 12523 1 3 12510 12483 12495 1 3 12510 12523 12463 1 5 12510
    12531 12471 12519 12531 1 4 12511 12463 12525 12531 1 2 12511 12522 1 6 12511 12522 12495
    12441 12540 12523 1 3 12513 12459 12441 1 5 12513 12459 12441 12488 12531 1 4 12513 12540
    12488 12523 1 4 12516 12540 12488 12441 1 3 12516 12540 12523 1 3 12518 12450 12531 1 4
    12522 12483 12488 12523 1 2 12522 12521 1 4 12523 12498 12442 12540 1 5 12523 12540 12501
    12441 12523 1 2 12524 12512 1 6 12524 12531 12488 12465 12441 12531 1 3 12527 12483 12488 1
    2 48 28857 1 2 49 28857 1 2 50 28857 1 2 51 28857 1 2 52 28857 1 2 53 28857 1 2 54 28857 1 2
    55 28857 1 2 56 28857 1 2 57 28857 1 3 49 48 28857 1 3 49 49 28857 1 3 49 50 28857 1 3 49 51
    28857 1 3 49 52 28857 1 3 49 53 28857 1 3 49 54 28857 1 3 49 55 28857 1 3 49 56 28857 1 3 49
    57 28857 1 3 50 48 28857 1 3 50 49 28857 1 3 50 50 28857 1 3 50 51 28857 1 3 50 52 28857 1 3
    104 80 97 1 2 100 97 1 2 65 85 1 3 98 97 114 1 2 111 86 1 2 112 99 1 2 100 109 1 3 100 109
    50 1 3 100 109 51 1 2 73 85 1 2 24179 25104 1 2 26157 21644 1 2 22823 27491 1 2 26126 27835
    1 4 26666 24335 20250 31038 1 2 112 65 1 2 110 65 1 2 956 65 1 2 109 65 1 2 107 65 1 2 75 66
    1 2 77 66 1 2 71 66 1 3 99 97 108 1 4 107 99 97 108 1 2 112 70 1 2 110 70 1 2 956 70 1 2 956
    103 1 2 109 103 1 2 107 103 1 2 72 122 1 3 107 72 122 1 3 77 72 122 1 3 71 72 122 1 3 84 72
    122 1 2 956 108 1 2 109 108 1 2 100 108 1 2 107 108 1 2 102 109 1 2 110 109 1 2 956 109 1 2
    109 109 1 2 99 109 1 2 107 109 1 3 109 109 50 1 3 99 109 50 1 2 109 50 1 3 107 109 50 1 3
    109 109 51 1 3 99 109 51 1 2 109 51 1 3 107 109 51 1 3 109 8725 115 1 4 109 8725 115 50 1 2
    80 97 1 3 107 80 97 1 3 77 80 97 1 3 71 80 97 1 3 114 97 100 1 5 114 97 100 8725 115 1 6 114
    97 100 8725 115 50 1 2 112 115 1 2 110 115 1 2 956 115 1 2 109 115 1 2 112 86 1 2 110 86 1 2
    956 86 1 2 109 86 1 2 107 86 1 2 77 86 1 2 112 87 1 2 110 87 1 2 956 87 1 2 109 87 1 2 107
    87 1 2 77 87 1 2 107 937 1 2 77 937 1 4 97 46 109 46 1 2 66 113 1 2 99 99 1 2 99 100 1 4 67
    8725 107 103 1 3 67 111 46 1 2 100 66 1 2 71 121 1 2 104 97 1 2 72 80 1 2 105 110 1 2 75 75
    1 2 75 77 1 2 107 116 1 2 108 109 1 2 108 110 1 3 108 111 103 1 2 108 120 1 2 109 98 1 3 109
    105 108 1 3 109 111 108 1 2 80 72 1 4 112 46 109 46 1 3 80 80 77 1 2 80 82 1 2 115 114 1 2
    83 118 1 2 87 98 1 3 86 8725 109 1 3 65 8725 109 1 2 49 26085 1 2 50 26085 1 2 51 26085 1 2
    52 26085 1 2 53 26085 1 2 54 26085 1 2 55 26085 1 2 56 26085 1 2 57 26085 1 3 49 48 26085 1
    3 49 49 26085 1 3 49 50 26085 1 3 49 51 26085 1 3 49 52 26085 1 3 49 53 26085 1 3 49 54
    26085 1 3 49 55 26085 1 3 49 56 26085 1 3 49 57 26085 1 3 50 48 26085 1 3 50 49 26085 1 3 50
    50 26085 1 3 50 51 26085 1 3 50 52 26085 1 3 50 53 26085 1 3 50 54 26085 1 3 50 55 26085 1 3
    50 56 26085 1 3 50 57 26085 1 3 51 48 26085 1 3 51 49 26085 1 3 103 97 108 29341 1 1098 1 1
    1100 211 1 42863 130 1 67 1 1 70 1 1 81 4 1 294 1 1 339 867 1 42791 1 1 43831 1 1 619 1 1
    43858 10 1 653 19863 1 35912 1 1 26356 1 1 36554 1 1 36040 1 1 28369 1 1 20018 1 1 21477 1 1
    40860 1 1 40860 1 1 22865 1 1 37329 1 1 21895 1 1 22856 1 1 25078 1 1 30313 1 1 32645 1 1
    34367 1 1 34746 1 1 35064 1 1 37007 1 1 27138 1 1 27931 1 1 28889 1 1 29662 1 1 33853 1 1
    37226 1 1 39409 1 1 20098 1 1 21365 1 1 27396 1 1 29211 1 1 34349 1 1 40478 1 1 23888 1 1
    28651 1 1 34253 1 1 35172 1 1 25289 1 1 33240 1 1 34847 1 1 24266 1 1 26391 1 1 28010 1 1
    29436 1 1 37070 1 1 20358 1 1 20919 1 1 21214 1 1 25796 1 1 27347 1 1 29200 1 1 30439 1 1
    32769 1 1 34310 1 1 34396 1 1 36335 1 1 38706 1 1 39791 1 1 40442 1 1 30860 1 1 31103 1 1
    32160 1 1 33737 1 1 37636 1 1 40575 1 1 35542 1 1 22751 1 1 24324 1 1 31840 1 1 32894 1 1
    29282 1 1 30922 1 1 36034 1 1 38647 1 1 22744 1 1 23650 1 1 27155 1 1 28122 1 1 28431",
  "
    63823 1 32047 1 1 32311 1 1 38475 1 1 21202 1 1 32907 1 1 20956 1 1 20940 1 1 31260 1 1
    32190 1 1 33777 1 1 38517 1 1 35712 1 1 25295 1 1 27138 1 1 35582 1 1 20025 1 1 23527 1 1
    24594 1 1 29575 1 1 30064 1 1 21271 1 1 30971 1 1 20415 1 1 24489 1 1 19981 1 1 27852 1 1
    25976 1 1 32034 1 1 21443 1 1 22622 1 1 30465 1 1 33865 1 1 35498 1 1 27578 1 1 36784 1 1
    27784 1 1 25342 1 1 33509 1 1 25504 1 1 30053 1 1 20142 1 1 20841 1 1 20937 1 1 26753 1 1
    31975 1 1 33391 1 1 35538 1 1 37327 1 1 21237 1 1 21570 1 1 22899 1 1 24300 1 1 26053 1 1
    28670 1 1 31018 1 1 38317 1 1 39530 1 1 40599 1 1 40654 1 1 21147 1 1 26310 1 1 27511 1 1
    36706 1 1 24180 1 1 24976 1 1 25088 1 1 25754 1 1 28451 1 1 29001 1 1 29833 1 1 31178 1 1
    32244 1 1 32879 1 1 36646 1 1 34030 1 1 36899 1 1 37706 1 1 21015 1 1 21155 1 1 21693 1 1
    28872 1 1 35010 1 1 35498 1 1 24265 1 1 24565 1 1 25467 1 1 27566 1 1 31806 1 1 29557 1 1
    20196 1 1 22265 1 1 23527 1 1 23994 1 1 24604 1 1 29618 1 1 29801 1 1 32666 1 1 32838 1 1
    37428 1 1 38646 1 1 38728 1 1 38936 1 1 20363 1 1 31150 1 1 37300 1 1 38584 1 1 24801 1 1
    20102 1 1 20698 1 1 23534 1 1 23615 1 1 26009 1 1 27138 1 1 29134 1 1 30274 1 1 34044 1 1
    36988 1 1 40845 1 1 26248 1 1 38446 1 1 21129 1 1 26491 1 1 26611 1 1 27969 1 1 28316 1 1
    29705 1 1 30041 1 1 30827 1 1 32016 1 1 39006 1 1 20845 1 1 25134 1 1 38520 1 1 20523 1 1
    23833 1 1 28138 1 1 36650 1 1 24459 1 1 24900 1 1 26647 1 1 29575 1 1 38534 1 1 21033 1 1
    21519 1 1 23653 1 1 26131 1 1 26446 1 1 26792 1 1 27877 1 1 29702 1 1 30178 1 1 32633 1 1
    35023 1 1 35041 1 1 37324 1 1 38626 1 1 21311 1 1 28346 1 1 21533 1 1 29136 1 1 29848 1 1
    34298 1 1 38563 1 1 40023 1 1 40607 1 1 26519 1 1 28107 1 1 33256 1 1 31435 1 1 31520 1 1
    31890 1 1 29376 1 1 28825 1 1 35672 1 1 20160 1 1 33590 1 1 21050 1 1 20999 1 1 24230 1 1
    25299 1 1 31958 1 1 23429 1 1 27934 1 1 26292 1 1 36667 1 1 34892 1 1 38477 1 1 35211 1 1
    24275 1 1 20800 1 1 21952 3 1 22618 2 1 26228 3 1 20958 1 1 29482 1 1 30410 1 1 31036 1 1
    31070 1 1 31077 1 1 31119 1 1 38742 1 1 31934 1 1 32701 2 1 34322 2 1 35576 3 1 36920 1 1
    37117 4 1 39151 1 1 39164 1 1 39208 1 1 40372 1 1 37086 1 1 38583 1 1 20398 1 1 20711 1 1
    20813 1 1 21193 1 1 21220 1 1 21329 1 1 21917 1 1 22022 1 1 22120 1 1 22592 1 1 22696 1 1
    23652 1 1 23662 1 1 24724 1 1 24936 1 1 24974 1 1 25074 1 1 25935 1 1 26082 1 1 26257 1 1
    26757 1 1 28023 1 1 28186 1 1 28450 1 1 29038 1 1 29227 1 1 29730 1 1 30865 1 1 31038 1 1
    31049 1 1 31048 1 1 31056 1 1 31062 1 1 31069 1 1 31117 1 1 31118 1 1 31296 1 1 31361 1 1
    31680 1 1 32244 1 1 32265 1 1 32321 1 1 32626 1 1 32773 1 1 33261 1 1 33401 1 1 33401 1 1
    33879 1 1 35088 1 1 35222 1 1 35585 1 1 35641 1 1 36051 1 1 36104 1 1 36790 1 1 36920 1 1
    38627 1 1 38911 1 1 38971 1 1 24693 1 1 148206 1 1 33304 3 1 20006 1 1 20917 1 1 20840 1 1
    20352 1 1 20805 1 1 20864 1 1 21191 1 1 21242 1 1 21917 1 1 21845 1 1 21913 1 1 21986 1 1
    22618 1 1 22707 1 1 22852 1 1 22868 1 1 23138 1 1 23336 1 1 24274 1 1 24281 1 1 24425 1 1
    24493 1 1 24792 1 1 24910 1 1 24840",
  "
    64137 1 24974 1 1 24928 1 1 25074 1 1 25140 1 1 25540 1 1 25628 1 1 25682 1 1 25942 1 1
    26228 1 1 26391 1 1 26395 1 1 26454 1 1 27513 1 1 27578 1 1 27969 1 1 28379 1 1 28363 1 1
    28450 1 1 28702 1 1 29038 1 1 30631 1 1 29237 1 1 29359 1 1 29482 1 1 29809 1 1 29958 1 1
    30011 1 1 30237 1 1 30239 1 1 30410 1 1 30427 1 1 30452 1 1 30538 1 1 30528 1 1 30924 1 1
    31409 1 1 31680 1 1 31867 1 1 32091 1 1 32244 1 1 32574 1 1 32773 1 1 33618 1 1 33775 1 1
    34681 1 1 35137 1 1 35206 1 1 35222 1 1 35519 1 1 35576 1 1 35531 1 1 35585 1 1 35582 1 1
    35565 1 1 35641 1 1 35722 1 1 36104 1 1 36664 1 1 36978 1 1 37273 1 1 37494 1 1 38524 1 1
    38627 1 1 38742 1 1 38875 1 1 38911 1 1 38923 1 1 38971 1 1 39698 1 1 40860 1 1 141386 1 1
    141380 1 1 144341 1 1 15261 1 1 16408 1 1 16441 1 1 152137 1 1 154832 1 1 163539 1 1 40771 1
    1 40846 39 2 102 102 1 2 102 105 1 2 102 108 1 3 102 102 105 1 3 102 102 108 1 2 115 116 1 2
    115 116 13 2 1396 1398 1 2 1396 1381 1 2 1396 1387 1 2 1406 1398 1 2 1396 1389 6 2 1497 1460
    2 2 1522 1463 1 1 1506 1 1 1488 1 1 1491 1 1 1492 1 1 1499 1 1 1500 1 1 1501 1 1 1512 1 1
    1514 1 1 43 1 2 1513 1473 1 2 1513 1474 1 3 1513 1468 1473 1 3 1513 1468 1474 1 2 1488 1463
    1 2 1488 1464 1 2 1488 1468 1 2 1489 1468 1 2 1490 1468 1 2 1491 1468 1 2 1492 1468 1 2 1493
    1468 1 2 1494 1468 2 2 1496 1468 1 2 1497 1468 1 2 1498 1468 1 2 1499 1468 1 2 1500 1468 2 2
    1502 1468 2 2 1504 1468 1 2 1505 1468 2 2 1507 1468 1 2 1508 1468 2 2 1510 1468 1 2 1511
    1468 1 2 1512 1468 1 2 1513 1468 1 2 1514 1468 1 2 1493 1465 1 2 1489 1471 1 2 1499 1471 1 2
    1508 1471 1 2 1488 1500 1 1 1649 1 1 1649 1 1 1659 1 1 1659 1 1 1659 1 1 1659 1 1 1662 1 1
    1662 1 1 1662 1 1 1662 1 1 1664 1 1 1664 1 1 1664 1 1 1664 1 1 1658 1 1 1658 1 1 1658 1 1
    1658 1 1 1663 1 1 1663 1 1 1663 1 1 1663 1 1 1657 1 1 1657 1 1 1657 1 1 1657 1 1 1700 1 1
    1700 1 1 1700 1 1 1700 1 1 1702 1 1 1702 1 1 1702 1 1 1702 1 1 1668 1 1 1668 1 1 1668 1 1
    1668 1 1 1667 1 1 1667 1 1 1667 1 1 1667 1 1 1670 1 1 1670 1 1 1670 1 1 1670 1 1 1671 1 1
    1671 1 1 1671 1 1 1671 1 1 1677 1 1 1677 1 1 1676 1 1 1676 1 1 1678 1 1 1678 1 1 1672 1 1
    1672 1 1 1688 1 1 1688 1 1 1681 1 1 1681 1 1 1705 1 1 1705 1 1 1705 1 1 1705 1 1 1711 1 1
    1711 1 1 1711 1 1 1711 1 1 1715 1 1 1715 1 1 1715 1 1 1715 1 1 1713 1 1 1713 1 1 1713 1 1
    1713 1 1 1722 1 1 1722 1 1 1723 1 1 1723 1 1 1723 1 1 1723 1 2 1749 1620 1 2 1749 1620 1 1
    1729 1 1 1729 1 1 1729 1 1 1729 1 1 1726 1 1 1726 1 1 1726 1 1 1726 1 1 1746 1 1 1746 1 2
    1746 1620 1 2 1746 1620 34 1 1709 1 1 1709 1 1 1709 1 1 1709 1 1 1735 1 1 1735 1 1 1734 1 1
    1734 1 1 1736 1 1 1736 1 2 1735 1652 1 1 1739 1 1 1739 1 1 1733 1 1 1733 1 1 1737 1 1 1737 1
    1 1744 1 1 1744 1 1 1744 1 1 1744 1 1 1609 1 1 1609 1 3 1610 1620 1575 1 3 1610 1620 1575 1
    3 1610 1620 1749 1 3 1610 1620 1749 1 3 1610 1620 1608 1 3 1610 1620 1608 1 3 1610 1620 1735
    1 3 1610 1620 1735 1 3 1610 1620 1734 1 3 1610 1620 1734 1 3 1610 1620 1736 1 3 1610 1620
    1736 1 3 1610 1620 1744 1 3 1610 1620 1744 1 3 1610 1620 1744 1 3 1610 1620 1609 1 3 1610
    1620 1609 1 3 1610 1620 1609 1 1 1740 1 1 1740 1 1 1740 1 1 1740 1 3 1610 1620 1580 1 3 1610
    1620 1581 1 3 1610 1620 1605 1 3 1610 1620 1609 1 3 1610 1620 1610 1 2 1576 1580 1 2 1576
    1581 1 2 1576 1582 1 2 1576 1605 1 2 1576 1609 1 2 1576 1610 1 2 1578 1580 1 2 1578 1581 1 2
    1578 1582 1 2 1578 1605 1 2 1578 1609 1 2 1578 1610 1 2 1579 1580 1 2 1579 1605",
  "
    64531 2 1579 1609 1 2 1579 1610 1 2 1580 1581 1 2 1580 1605 1 2 1581 1580 1 2 1581 1605 1 2
    1582 1580 1 2 1582 1581 1 2 1582 1605 1 2 1587 1580 1 2 1587 1581 1 2 1587 1582 1 2 1587
    1605 1 2 1589 1581 1 2 1589 1605 1 2 1590 1580 1 2 1590 1581 1 2 1590 1582 1 2 1590 1605 1 2
    1591 1581 1 2 1591 1605 1 2 1592 1605 1 2 1593 1580 1 2 1593 1605 1 2 1594 1580 1 2 1594
    1605 1 2 1601 1580 1 2 1601 1581 1 2 1601 1582 1 2 1601 1605 1 2 1601 1609 1 2 1601 1610 1 2
    1602 1581 1 2 1602 1605 1 2 1602 1609 1 2 1602 1610 1 2 1603 1575 1 2 1603 1580 1 2 1603
    1581 1 2 1603 1582 1 2 1603 1604 1 2 1603 1605 1 2 1603 1609 1 2 1603 1610 1 2 1604 1580 1 2
    1604 1581 1 2 1604 1582 1 2 1604 1605 1 2 1604 1609 1 2 1604 1610 1 2 1605 1580 1 2 1605
    1581 1 2 1605 1582 1 2 1605 1605 1 2 1605 1609 1 2 1605 1610 1 2 1606 1580 1 2 1606 1581 1 2
    1606 1582 1 2 1606 1605 1 2 1606 1609 1 2 1606 1610 1 2 1607 1580 1 2 1607 1605 1 2 1607
    1609 1 2 1607 1610 1 2 1610 1580 1 2 1610 1581 1 2 1610 1582 1 2 1610 1605 1 2 1610 1609 1 2
    1610 1610 1 2 1584 1648 1 2 1585 1648 1 2 1609 1648 1 3 32 1612 1617 1 3 32 1613 1617 1 3 32
    1614 1617 1 3 32 1615 1617 1 3 32 1616 1617 1 3 32 1617 1648 1 3 1610 1620 1585 1 3 1610
    1620 1586 1 3 1610 1620 1605 1 3 1610 1620 1606 1 3 1610 1620 1609 1 3 1610 1620 1610 1 2
    1576 1585 1 2 1576 1586 1 2 1576 1605 1 2 1576 1606 1 2 1576 1609 1 2 1576 1610 1 2 1578
    1585 1 2 1578 1586 1 2 1578 1605 1 2 1578 1606 1 2 1578 1609 1 2 1578 1610 1 2 1579 1585 1 2
    1579 1586 1 2 1579 1605 1 2 1579 1606 1 2 1579 1609 1 2 1579 1610 1 2 1601 1609 1 2 1601
    1610 1 2 1602 1609 1 2 1602 1610 1 2 1603 1575 1 2 1603 1604 1 2 1603 1605 1 2 1603 1609 1 2
    1603 1610 1 2 1604 1605 1 2 1604 1609 1 2 1604 1610 1 2 1605 1575 1 2 1605 1605 1 2 1606
    1585 1 2 1606 1586 1 2 1606 1605 1 2 1606 1606 1 2 1606 1609 1 2 1606 1610 1 2 1609 1648 1 2
    1610 1585 1 2 1610 1586 1 2 1610 1605 1 2 1610 1606 1 2 1610 1609 1 2 1610 1610 1 3 1610
    1620 1580 1 3 1610 1620 1581 1 3 1610 1620 1582 1 3 1610 1620 1605 1 3 1610 1620 1607 1 2
    1576 1580 1 2 1576 1581 1 2 1576 1582 1 2 1576 1605 1 2 1576 1607 1 2 1578 1580 1 2 1578
    1581 1 2 1578 1582 1 2 1578 1605 1 2 1578 1607 1 2 1579 1605 1 2 1580 1581 1 2 1580 1605 1 2
    1581 1580 1 2 1581 1605 1 2 1582 1580 1 2 1582 1605 1 2 1587 1580 1 2 1587 1581 1 2 1587
    1582 1 2 1587 1605 1 2 1589 1581 1 2 1589 1582 1 2 1589 1605 1 2 1590 1580 1 2 1590 1581 1 2
    1590 1582 1 2 1590 1605 1 2 1591 1581 1 2 1592 1605 1 2 1593 1580 1 2 1593 1605 1 2 1594
    1580 1 2 1594 1605 1 2 1601 1580 1 2 1601 1581 1 2 1601 1582 1 2 1601 1605 1 2 1602 1581 1 2
    1602 1605 1 2 1603 1580 1 2 1603 1581 1 2 1603 1582 1 2 1603 1604 1 2 1603 1605 1 2 1604
    1580 1 2 1604 1581 1 2 1604 1582 1 2 1604 1605 1 2 1604 1607 1 2 1605 1580 1 2 1605 1581 1 2
    1605 1582 1 2 1605 1605 1 2 1606 1580 1 2 1606 1581 1 2 1606 1582 1 2 1606 1605 1 2 1606
    1607 1 2 1607 1580 1 2 1607 1605 1 2 1607 1648 1 2 1610 1580 1 2 1610 1581 1 2 1610 1582 1 2
    1610 1605 1 2 1610 1607 1 3 1610 1620 1605 1 3 1610 1620 1607 1 2 1576 1605 1 2 1576 1607 1
    2 1578 1605 1 2 1578 1607 1 2 1579 1605 1 2 1579 1607 1 2 1587 1605 1 2 1587 1607 1 2 1588
    1605 1 2 1588 1607 1 2 1603 1604 1 2 1603 1605 1 2 1604 1605 1 2 1606 1605 1 2 1606 1607 1 2
    1610 1605 1 2 1610 1607 1 3 1600 1614 1617 1 3 1600 1615 1617 1 3 1600 1616 1617 1 2 1591
    1609 1 2 1591 1610 1 2 1593 1609 1 2 1593 1610 1 2 1594 1609 1 2 1594 1610 1 2 1587 1609 1 2
    1587 1610 1 2 1588 1609 1 2 1588 1610 1 2 1581 1609 1 2 1581 1610 1 2 1580 1609 1 2 1580
    1610 1 2 1582 1609 1 2 1582 1610 1 2 1589 1609 1 2 1589 1610 1 2 1590 1609 1 2 1590 1610 1 2
    1588 1580 1 2 1588 1581 1 2 1588 1582 1 2 1588 1605 1 2 1588 1585 1 2 1587 1585 1 2 1589
    1585 1 2 1590 1585 1 2 1591 1609 1 2 1591 1610 1 2 1593 1609 1 2 1593 1610 1 2 1594 1609 1 2
    1594 1610 1 2 1587 1609 1 2 1587 1610 1 2 1588 1609 1 2 1588 1610 1 2 1581 1609 1 2 1581
    1610 1 2 1580 1609 1 2 1580 1610 1 2 1582 1609 1 2 1582 1610 1 2 1589 1609 1 2 1589 1610 1 2
    1590 1609 1 2 1590 1610 1 2 1588 1580 1 2 1588 1581 1 2 1588 1582 1 2 1588 1605 1 2 1588
    1585 1 2 1587 1585 1 2 1589 1585 1 2 1590 1585 1 2 1588 1580 1 2 1588 1581 1 2 1588 1582 1 2
    1588 1605 1 2 1587 1607 1 2 1588 1607 1 2 1591 1605 1 2 1587 1580 1 2 1587 1581 1 2 1587
    1582 1 2 1588 1580 1 2 1588 1581 1 2 1588 1582 1 2 1591 1605 1 2 1592 1605 1 2 1575 1611 1 2
    1575 1611 19 3 1578 1580 1605",
  "
    64849 3 1578 1581 1580 1 3 1578 1581 1580 1 3 1578 1581 1605 1 3 1578 1582 1605 1 3 1578
    1605 1580 1 3 1578 1605 1581 1 3 1578 1605 1582 1 3 1580 1605 1581 1 3 1580 1605 1581 1 3
    1581 1605 1610 1 3 1581 1605 1609 1 3 1587 1581 1580 1 3 1587 1580 1581 1 3 1587 1580 1609 1
    3 1587 1605 1581 1 3 1587 1605 1581 1 3 1587 1605 1580 1 3 1587 1605 1605 1 3 1587 1605 1605
    1 3 1589 1581 1581 1 3 1589 1581 1581 1 3 1589 1605 1605 1 3 1588 1581 1605 1 3 1588 1581
    1605 1 3 1588 1580 1610 1 3 1588 1605 1582 1 3 1588 1605 1582 1 3 1588 1605 1605 1 3 1588
    1605 1605 1 3 1590 1581 1609 1 3 1590 1582 1605 1 3 1590 1582 1605 1 3 1591 1605 1581 1 3
    1591 1605 1581 1 3 1591 1605 1605 1 3 1591 1605 1610 1 3 1593 1580 1605 1 3 1593 1605 1605 1
    3 1593 1605 1605 1 3 1593 1605 1609 1 3 1594 1605 1605 1 3 1594 1605 1610 1 3 1594 1605 1609
    1 3 1601 1582 1605 1 3 1601 1582 1605 1 3 1602 1605 1581 1 3 1602 1605 1605 1 3 1604 1581
    1605 1 3 1604 1581 1610 1 3 1604 1581 1609 1 3 1604 1580 1580 1 3 1604 1580 1580 1 3 1604
    1582 1605 1 3 1604 1582 1605 1 3 1604 1605 1581 1 3 1604 1605 1581 1 3 1605 1581 1580 1 3
    1605 1581 1605 1 3 1605 1581 1610 1 3 1605 1580 1581 1 3 1605 1580 1605 1 3 1605 1582 1580 1
    3 1605 1582 1605 3 3 1605 1580 1582 1 3 1607 1605 1580 1 3 1607 1605 1605 1 3 1606 1581 1605
    1 3 1606 1581 1609 1 3 1606 1580 1605 1 3 1606 1580 1605 1 3 1606 1580 1609 1 3 1606 1605
    1610 1 3 1606 1605 1609 1 3 1610 1605 1605 1 3 1610 1605 1605 1 3 1576 1582 1610 1 3 1578
    1580 1610 1 3 1578 1580 1609 1 3 1578 1582 1610 1 3 1578 1582 1609 1 3 1578 1605 1610 1 3
    1578 1605 1609 1 3 1580 1605 1610 1 3 1580 1581 1609 1 3 1580 1605 1609 1 3 1587 1582 1609 1
    3 1589 1581 1610 1 3 1588 1581 1610 1 3 1590 1581 1610 1 3 1604 1580 1610 1 3 1604 1605 1610
    1 3 1610 1581 1610 1 3 1610 1580 1610 1 3 1610 1605 1610 1 3 1605 1605 1610 1 3 1602 1605
    1610 1 3 1606 1581 1610 1 3 1602 1605 1581 1 3 1604 1581 1605 1 3 1593 1605 1610 1 3 1603
    1605 1610 1 3 1606 1580 1581 1 3 1605 1582 1610 1 3 1604 1580 1605 1 3 1603 1605 1605 1 3
    1604 1580 1605 1 3 1606 1580 1581 1 3 1580 1581 1610 1 3 1581 1580 1610 1 3 1605 1580 1610 1
    3 1601 1605 1610 1 3 1576 1581 1610 1 3 1603 1605 1605 1 3 1593 1580 1605 1 3 1589 1605 1605
    1 3 1587 1582 1610 1 3 1606 1580 1610 41 3 1589 1604 1746 1 3 1602 1604 1746 1 4 1575 1604
    1604 1607 1 4 1575 1603 1576 1585 1 4 1605 1581 1605 1583 1 4 1589 1604 1593 1605 1 4 1585
    1587 1608 1604 1 4 1593 1604 1610 1607 1 4 1608 1587 1604 1605 1 3 1589 1604 1609 1 18 1589
    1604 1609 32 1575 1604 1604 1607 32 1593 1604 1610 1607 32 1608 1587 1604 1605 1 8 1580 1604
    32 1580 1604 1575 1604 1607 1 4 1585 1740 1575 1604 20 1 44 1 1 12289 1 1 12290 1 1 58 1 1
    59 1 1 33 1 1 63 1 1 12310 1 1 12311 1 3 46 46 46 23 2 46 46 1 1 8212 1 1 8211 1 1 95 1 1 95
    1 1 40 1 1 41 1 1 123 1 1 125 1 1 12308 1 1 12309 1 1 12304 1 1 12305 1 1 12298 1 1 12299 1
    1 12296 1 1 12297 1 1 12300 1 1 12301 1 1 12302 1 1 12303 3 1 91 1 1 93 1 2 32 773 1 2 32
    773 1 2 32 773 1 2 32 773 1 1 95 1 1 95 1 1 95 1 1 44 1 1 12289 1 1 46 2 1 59 1 1 58 1 1 63
    1 1 33 1 1 8212 1 1 40 1 1 41 1 1 123 1 1 125 1 1 12308 1 1 12309 1 1 35 1 1 38 1 1 42 1 1
    43 1 1 45 1 1 60 1 1 62 1 1 61 2 1 92 1 1 36 1 1 37 1 1 64 5 2 32 1611 1 2 1600 1611 1 2 32
    1612 2 2 32 1613 2 2 32 1614 1 2 1600 1614 1 2 32 1615 1 2 1600 1615 1 2 32 1616 1 2 1600
    1616 1 2 32 1617 1 2 1600 1617 1 2 32 1618 1 2 1600 1618 1 1 1569 1 2 1575 1619 1 2 1575
    1619 1 2 1575 1620 1 2 1575 1620 1 2 1608 1620 1 2 1608 1620 1 2 1575 1621 1 2 1575 1621 1 2
    1610 1620 1 2 1610 1620 1 2 1610 1620 1 2 1610 1620 1 1 1575 1 1 1575 1 1 1576 1 1 1576 1 1
    1576 1 1 1576 1 1 1577 1 1 1577 1 1 1578 1 1 1578 1 1 1578 1 1 1578 1 1 1579 1 1 1579 1 1
    1579 1 1 1579 1 1 1580 1 1 1580 1 1 1580 1 1 1580 1 1 1581 1 1 1581 1 1 1581 1 1 1581 1 1
    1582 1 1 1582 1 1 1582 1 1 1582 1 1 1583 1 1 1583 1 1 1584 1 1 1584 1 1 1585 1 1 1585 1 1
    1586 1 1 1586 1 1 1587 1 1 1587 1 1 1587 1 1 1587 1 1 1588 1 1 1588 1 1 1588 1 1 1588 1 1
    1589 1 1 1589 1 1 1589 1 1 1589 1 1 1590 1 1 1590 1 1 1590 1 1 1590 1 1 1591 1 1 1591 1 1
    1591 1 1 1591 1 1 1592 1 1 1592 1 1 1592 1 1 1592 1 1 1593 1 1 1593 1 1 1593 1 1 1593 1 1
    1594 1 1 1594 1 1 1594 1 1 1594 1 1 1601 1 1 1601 1 1 1601 1 1 1601 1 1 1602 1 1 1602 1 1
    1602 1 1 1602 1 1 1603",
  "
    65242 1 1603 1 1 1603 1 1 1603 1 1 1604 1 1 1604 1 1 1604 1 1 1604 1 1 1605 1 1 1605 1 1
    1605 1 1 1605 1 1 1606 1 1 1606 1 1 1606 1 1 1606 1 1 1607 1 1 1607 1 1 1607 1 1 1607 1 1
    1608 1 1 1608 1 1 1609 1 1 1609 1 1 1610 1 1 1610 1 1 1610 1 1 1610 1 3 1604 1575 1619 1 3
    1604 1575 1619 1 3 1604 1575 1620 1 3 1604 1575 1620 1 3 1604 1575 1621 1 3 1604 1575 1621 1
    2 1604 1575 1 2 1604 1575 5 1 33 1 1 34 1 1 35 1 1 36 1 1 37 1 1 38 1 1 39 1 1 40 1 1 41 1 1
    42 1 1 43 1 1 44 1 1 45 1 1 46 1 1 47 1 1 48 1 1 49 1 1 50 1 1 51 1 1 52 1 1 53 1 1 54 1 1
    55 1 1 56 1 1 57 1 1 58 1 1 59 1 1 60 1 1 61 1 1 62 1 1 63 1 1 64 1 1 65 1 1 66 1 1 67 1 1
    68 1 1 69 1 1 70 1 1 71 1 1 72 1 1 73 1 1 74 1 1 75 1 1 76 1 1 77 1 1 78 1 1 79 1 1 80 1 1
    81 1 1 82 1 1 83 1 1 84 1 1 85 1 1 86 1 1 87 1 1 88 1 1 89 1 1 90 1 1 91 1 1 92 1 1 93 1 1
    94 1 1 95 1 1 96 1 1 97 1 1 98 1 1 99 1 1 100 1 1 101 1 1 102 1 1 103 1 1 104 1 1 105 1 1
    106 1 1 107 1 1 108 1 1 109 1 1 110 1 1 111 1 1 112 1 1 113 1 1 114 1 1 115 1 1 116 1 1 117
    1 1 118 1 1 119 1 1 120 1 1 121 1 1 122 1 1 123 1 1 124 1 1 125 1 1 126 1 1 10629 1 1 10630
    1 1 12290 1 1 12300 1 1 12301 1 1 12289 1 1 12539 1 1 12530 1 1 12449 1 1 12451 1 1 12453 1
    1 12455 1 1 12457 1 1 12515 1 1 12517 1 1 12519 1 1 12483 1 1 12540 1 1 12450 1 1 12452 1 1
    12454 1 1 12456 1 1 12458 1 1 12459 1 1 12461 1 1 12463 1 1 12465 1 1 12467 1 1 12469 1 1
    12471 1 1 12473 1 1 12475 1 1 12477 1 1 12479 1 1 12481 1 1 12484 1 1 12486 1 1 12488 1 1
    12490 1 1 12491 1 1 12492 1 1 12493 1 1 12494 1 1 12495 1 1 12498 1 1 12501 1 1 12504 1 1
    12507 1 1 12510 1 1 12511 1 1 12512 1 1 12513 1 1 12514 1 1 12516 1 1 12518 1 1 12520 1 1
    12521 1 1 12522 1 1 12523 1 1 12524 1 1 12525 1 1 12527 1 1 12531 1 1 12441 1 1 12442 1 1
    4448 1 1 4352 1 1 4353 1 1 4522 1 1 4354 1 1 4524 1 1 4525 1 1 4355 1 1 4356 1 1 4357 1 1
    4528 1 1 4529 1 1 4530 1 1 4531 1 1 4532 1 1 4533 1 1 4378 1 1 4358 1 1 4359 1 1 4360 1 1
    4385 1 1 4361 1 1 4362 1 1 4363 1 1 4364 1 1 4365 1 1 4366 1 1 4367 1 1 4368 1 1 4369 1 1
    4370 4 1 4449 1 1 4450 1 1 4451 1 1 4452 1 1 4453 1 1 4454 3 1 4455 1 1 4456 1 1 4457 1 1
    4458 1 1 4459 1 1 4460 3 1 4461 1 1 4462 1 1 4463 1 1 4464 1 1 4465 1 1 4466 3 1 4467 1 1
    4468 1 1 4469 4 1 162 1 1 163 1 1 172 1 2 32 772 1 1 166 1 1 165 1 1 8361 2 1 9474 1 1 8592
    1 1 8593 1 1 8594 1 1 8595 1 1 9632 1 1 9675 1939 1 720 1 1 721 1 1 230 1 1 665 1 1 595 2 1
    675 1 1 43878 1 1 677 1 1 676 1 1 598 1 1 599 1 1 7569 1 1 600 1 1 606 1 1 681 1 1 612 1 1
    610 1 1 608 1 1 667 1 1 295 1 1 668 1 1 615 1 1 644 1 1 682 1 1 683 1 1 620 1 1 122628 1 1
    42894 1 1 622 1 1 122629 1 1 654 1 1 122630 1 1 248 1 1 630 1 1 631 1 1 113 1 1 634 1 1
    122632 1 1 637 1 1 638",
  "
    67498 1 640 1 1 680 1 1 678 1 1 43879 1 1 679 1 1 648 1 1 11377 2 1 655 1 1 673 1 1 674 1 1
    664 1 1 448 1 1 449 1 1 450 1 1 122634 1 1 122654 51620 2 119127 119141 1 2 119128 119141 1
    3 119128 119141 119150 1 3 119128 119141 119151 1 3 119128 119141 119152 1 3 119128 119141
    119153 1 3 119128 119141 119154 87 2 119225 119141 1 2 119226 119141 1 3 119225 119141
    119150 1 3 119226 119141 119150 1 3 119225 119141 119151 1 3 119226 119141 119151 576 1 65 1
    1 66 1 1 67 1 1 68 1 1 69 1 1 70 1 1 71 1 1 72 1 1 73 1 1 74 1 1 75 1 1 76 1 1 77 1 1 78 1 1
    79 1 1 80 1 1 81 1 1 82 1 1 83 1 1 84 1 1 85 1 1 86 1 1 87 1 1 88 1 1 89 1 1 90 1 1 97 1 1
    98 1 1 99 1 1 100 1 1 101 1 1 102 1 1 103 1 1 104 1 1 105 1 1 106 1 1 107 1 1 108 1 1 109 1
    1 110 1 1 111 1 1 112 1 1 113 1 1 114 1 1 115 1 1 116 1 1 117 1 1 118 1 1 119 1 1 120 1 1
    121 1 1 122 1 1 65 1 1 66 1 1 67 1 1 68 1 1 69 1 1 70 1 1 71 1 1 72 1 1 73 1 1 74 1 1 75 1 1
    76 1 1 77 1 1 78 1 1 79 1 1 80 1 1 81 1 1 82 1 1 83 1 1 84 1 1 85 1 1 86 1 1 87 1 1 88 1 1
    89 1 1 90 1 1 97 1 1 98 1 1 99 1 1 100 1 1 101 1 1 102 1 1 103 2 1 105 1 1 106 1 1 107 1 1
    108 1 1 109 1 1 110 1 1 111 1 1 112 1 1 113 1 1 114 1 1 115 1 1 116 1 1 117 1 1 118 1 1 119
    1 1 120 1 1 121 1 1 122 1 1 65 1 1 66 1 1 67 1 1 68 1 1 69 1 1 70 1 1 71 1 1 72 1 1 73 1 1
    74 1 1 75 1 1 76 1 1 77 1 1 78 1 1 79 1 1 80 1 1 81 1 1 82 1 1 83 1 1 84 1 1 85 1 1 86 1 1
    87 1 1 88 1 1 89 1 1 90 1 1 97 1 1 98 1 1 99 1 1 100 1 1 101 1 1 102 1 1 103 1 1 104 1 1 105
    1 1 106 1 1 107 1 1 108 1 1 109 1 1 110 1 1 111 1 1 112 1 1 113 1 1 114 1 1 115 1 1 116 1 1
    117 1 1 118 1 1 119 1 1 120 1 1 121 1 1 122 1 1 65 2 1 67 1 1 68 3 1 71 3 1 74 1 1 75 3 1 78
    1 1 79 1 1 80 1 1 81 2 1 83 1 1 84 1 1 85 1 1 86 1 1 87 1 1 88 1 1 89 1 1 90 1 1 97 1 1 98 1
    1 99 1 1 100 2 1 102 2 1 104 1 1 105 1 1 106 1 1 107 1 1 108 1 1 109 1 1 110 2 1 112 1 1 113
    1 1 114 1 1 115 1 1 116 1 1 117 1 1 118 1 1 119 1 1 120 1 1 121 1 1 122 1 1 65 1 1 66 1 1 67
    1 1 68 1 1 69 1 1 70 1 1 71 1 1 72 1 1 73 1 1 74 1 1 75 1 1 76 1 1 77 1 1 78 1 1 79 1 1 80 1
    1 81 1 1 82 1 1 83 1 1 84 1 1 85 1 1 86 1 1 87 1 1 88 1 1 89 1 1 90 1 1 97 1 1 98 1 1 99 1 1
    100 1 1 101 1 1 102 1 1 103 1 1 104 1 1 105 1 1 106 1 1 107 1 1 108 1 1 109 1 1 110 1 1 111
    1 1 112 1 1 113 1 1 114 1 1 115 1 1 116 1 1 117 1 1 118 1 1 119 1 1 120 1 1 121 1 1 122 1 1
    65 1 1 66 2 1 68 1 1 69 1 1 70 1 1 71 3 1 74 1 1 75 1 1 76 1 1 77 1 1 78 1 1 79 1 1 80 1 1
    81 2 1 83 1 1 84 1 1 85 1 1 86 1 1 87 1 1 88 1 1 89 2 1 97 1 1 98",
  "
    120096 1 99 1 1 100 1 1 101 1 1 102 1 1 103 1 1 104 1 1 105 1 1 106 1 1 107 1 1 108 1 1 109
    1 1 110 1 1 111 1 1 112 1 1 113 1 1 114 1 1 115 1 1 116 1 1 117 1 1 118 1 1 119 1 1 120 1 1
    121 1 1 122 1 1 65 1 1 66 2 1 68 1 1 69 1 1 70 1 1 71 2 1 73 1 1 74 1 1 75 1 1 76 1 1 77 2 1
    79 4 1 83 1 1 84 1 1 85 1 1 86 1 1 87 1 1 88 1 1 89 2 1 97 1 1 98 1 1 99 1 1 100 1 1 101 1 1
    102 1 1 103 1 1 104 1 1 105 1 1 106 1 1 107 1 1 108 1 1 109 1 1 110 1 1 111 1 1 112 1 1 113
    1 1 114 1 1 115 1 1 116 1 1 117 1 1 118 1 1 119 1 1 120 1 1 121 1 1 122 1 1 65 1 1 66 1 1 67
    1 1 68 1 1 69 1 1 70 1 1 71 1 1 72 1 1 73 1 1 74 1 1 75 1 1 76 1 1 77 1 1 78 1 1 79 1 1 80 1
    1 81 1 1 82 1 1 83 1 1 84 1 1 85 1 1 86 1 1 87 1 1 88 1 1 89 1 1 90 1 1 97 1 1 98 1 1 99 1 1
    100 1 1 101 1 1 102 1 1 103 1 1 104 1 1 105 1 1 106 1 1 107 1 1 108 1 1 109 1 1 110 1 1 111
    1 1 112 1 1 113 1 1 114 1 1 115 1 1 116 1 1 117 1 1 118 1 1 119 1 1 120 1 1 121 1 1 122 1 1
    65 1 1 66 1 1 67 1 1 68 1 1 69 1 1 70 1 1 71 1 1 72 1 1 73 1 1 74 1 1 75 1 1 76 1 1 77 1 1
    78 1 1 79 1 1 80 1 1 81 1 1 82 1 1 83 1 1 84 1 1 85 1 1 86 1 1 87 1 1 88 1 1 89 1 1 90 1 1
    97 1 1 98 1 1 99 1 1 100 1 1 101 1 1 102 1 1 103 1 1 104 1 1 105 1 1 106 1 1 107 1 1 108 1 1
    109 1 1 110 1 1 111 1 1 112 1 1 113 1 1 114 1 1 115 1 1 116 1 1 117 1 1 118 1 1 119 1 1 120
    1 1 121 1 1 122 1 1 65 1 1 66 1 1 67 1 1 68 1 1 69 1 1 70 1 1 71 1 1 72 1 1 73 1 1 74 1 1 75
    1 1 76 1 1 77 1 1 78 1 1 79 1 1 80 1 1 81 1 1 82 1 1 83 1 1 84 1 1 85 1 1 86 1 1 87 1 1 88 1
    1 89 1 1 90 1 1 97 1 1 98 1 1 99 1 1 100 1 1 101 1 1 102 1 1 103 1 1 104 1 1 105 1 1 106 1 1
    107 1 1 108 1 1 109 1 1 110 1 1 111 1 1 112 1 1 113 1 1 114 1 1 115 1 1 116 1 1 117 1 1 118
    1 1 119 1 1 120 1 1 121 1 1 122 1 1 65 1 1 66 1 1 67 1 1 68 1 1 69 1 1 70 1 1 71 1 1 72 1 1
    73 1 1 74 1 1 75 1 1 76 1 1 77 1 1 78 1 1 79 1 1 80 1 1 81 1 1 82 1 1 83 1 1 84 1 1 85 1 1
    86 1 1 87 1 1 88 1 1 89 1 1 90 1 1 97 1 1 98 1 1 99 1 1 100 1 1 101 1 1 102 1 1 103 1 1 104
    1 1 105 1 1 106 1 1 107 1 1 108 1 1 109 1 1 110 1 1 111 1 1 112 1 1 113 1 1 114 1 1 115 1 1
    116 1 1 117 1 1 118 1 1 119 1 1 120 1 1 121 1 1 122 1 1 65 1 1 66 1 1 67 1 1 68 1 1 69 1 1
    70 1 1 71 1 1 72 1 1 73 1 1 74 1 1 75 1 1 76 1 1 77 1 1 78 1 1 79 1 1 80 1 1 81 1 1 82 1 1
    83 1 1 84 1 1 85 1 1 86 1 1 87",
  "
    120403 1 88 1 1 89 1 1 90 1 1 97 1 1 98 1 1 99 1 1 100 1 1 101 1 1 102 1 1 103 1 1 104 1 1
    105 1 1 106 1 1 107 1 1 108 1 1 109 1 1 110 1 1 111 1 1 112 1 1 113 1 1 114 1 1 115 1 1 116
    1 1 117 1 1 118 1 1 119 1 1 120 1 1 121 1 1 122 1 1 65 1 1 66 1 1 67 1 1 68 1 1 69 1 1 70 1
    1 71 1 1 72 1 1 73 1 1 74 1 1 75 1 1 76 1 1 77 1 1 78 1 1 79 1 1 80 1 1 81 1 1 82 1 1 83 1 1
    84 1 1 85 1 1 86 1 1 87 1 1 88 1 1 89 1 1 90 1 1 97 1 1 98 1 1 99 1 1 100 1 1 101 1 1 102 1
    1 103 1 1 104 1 1 105 1 1 106 1 1 107 1 1 108 1 1 109 1 1 110 1 1 111 1 1 112 1 1 113 1 1
    114 1 1 115 1 1 116 1 1 117 1 1 118 1 1 119 1 1 120 1 1 121 1 1 122 1 1 305 1 1 567 3 1 913
    1 1 914 1 1 915 1 1 916 1 1 917 1 1 918 1 1 919 1 1 920 1 1 921 1 1 922 1 1 923 1 1 924 1 1
    925 1 1 926 1 1 927 1 1 928 1 1 929 1 1 920 1 1 931 1 1 932 1 1 933 1 1 934 1 1 935 1 1 936
    1 1 937 1 1 8711 1 1 945 1 1 946 1 1 947 1 1 948 1 1 949 1 1 950 1 1 951 1 1 952 1 1 953 1 1
    954 1 1 955 1 1 956 1 1 957 1 1 958 1 1 959 1 1 960 1 1 961 1 1 962 1 1 963 1 1 964 1 1 965
    1 1 966 1 1 967 1 1 968 1 1 969 1 1 8706 1 1 949 1 1 952 1 1 954 1 1 966 1 1 961 1 1 960 1 1
    913 1 1 914 1 1 915 1 1 916 1 1 917 1 1 918 1 1 919 1 1 920 1 1 921 1 1 922 1 1 923 1 1 924
    1 1 925 1 1 926 1 1 927 1 1 928 1 1 929 1 1 920 1 1 931 1 1 932 1 1 933 1 1 934 1 1 935 1 1
    936 1 1 937 1 1 8711 1 1 945 1 1 946 1 1 947 1 1 948 1 1 949 1 1 950 1 1 951 1 1 952 1 1 953
    1 1 954 1 1 955 1 1 956 1 1 957 1 1 958 1 1 959 1 1 960 1 1 961 1 1 962 1 1 963 1 1 964 1 1
    965 1 1 966 1 1 967 1 1 968 1 1 969 1 1 8706 1 1 949 1 1 952 1 1 954 1 1 966 1 1 961 1 1 960
    1 1 913 1 1 914 1 1 915 1 1 916 1 1 917 1 1 918 1 1 919 1 1 920 1 1 921 1 1 922 1 1 923 1 1
    924 1 1 925 1 1 926 1 1 927 1 1 928 1 1 929 1 1 920 1 1 931 1 1 932 1 1 933 1 1 934 1 1 935
    1 1 936 1 1 937 1 1 8711 1 1 945 1 1 946 1 1 947 1 1 948 1 1 949 1 1 950 1 1 951 1 1 952 1 1
    953 1 1 954 1 1 955 1 1 956 1 1 957 1 1 958 1 1 959 1 1 960 1 1 961 1 1 962 1 1 963 1 1 964
    1 1 965 1 1 966 1 1 967 1 1 968 1 1 969 1 1 8706 1 1 949 1 1 952 1 1 954 1 1 966 1 1 961 1 1
    960 1 1 913 1 1 914 1 1 915 1 1 916 1 1 917 1 1 918 1 1 919 1 1 920 1 1 921 1 1 922 1 1 923
    1 1 924 1 1 925 1 1 926 1 1 927 1 1 928 1 1 929 1 1 920 1 1 931 1 1 932 1 1 933 1 1 934 1 1
    935 1 1 936 1 1 937 1 1 8711 1 1 945 1 1 946 1 1 947 1 1 948 1 1 949 1 1 950 1 1 951 1 1 952
    1 1 953 1 1 954 1 1 955 1 1 956 1 1 957 1 1 958 1 1 959 1 1 960 1 1 961",
  "
    120705 1 962 1 1 963 1 1 964 1 1 965 1 1 966 1 1 967 1 1 968 1 1 969 1 1 8706 1 1 949 1 1
    952 1 1 954 1 1 966 1 1 961 1 1 960 1 1 913 1 1 914 1 1 915 1 1 916 1 1 917 1 1 918 1 1 919
    1 1 920 1 1 921 1 1 922 1 1 923 1 1 924 1 1 925 1 1 926 1 1 927 1 1 928 1 1 929 1 1 920 1 1
    931 1 1 932 1 1 933 1 1 934 1 1 935 1 1 936 1 1 937 1 1 8711 1 1 945 1 1 946 1 1 947 1 1 948
    1 1 949 1 1 950 1 1 951 1 1 952 1 1 953 1 1 954 1 1 955 1 1 956 1 1 957 1 1 958 1 1 959 1 1
    960 1 1 961 1 1 962 1 1 963 1 1 964 1 1 965 1 1 966 1 1 967 1 1 968 1 1 969 1 1 8706 1 1 949
    1 1 952 1 1 954 1 1 966 1 1 961 1 1 960 1 1 988 1 1 989 3 1 48 1 1 49 1 1 50 1 1 51 1 1 52 1
    1 53 1 1 54 1 1 55 1 1 56 1 1 57 1 1 48 1 1 49 1 1 50 1 1 51 1 1 52 1 1 53 1 1 54 1 1 55 1 1
    56 1 1 57 1 1 48 1 1 49 1 1 50 1 1 51 1 1 52 1 1 53 1 1 54 1 1 55 1 1 56 1 1 57 1 1 48 1 1
    49 1 1 50 1 1 51 1 1 52 1 1 53 1 1 54 1 1 55 1 1 56 1 1 57 1 1 48 1 1 49 1 1 50 1 1 51 1 1
    52 1 1 53 1 1 54 1 1 55 1 1 56 1 1 57 5633 1 1575 1 1 1576 1 1 1580 1 1 1583 2 1 1608 1 1
    1586 1 1 1581 1 1 1591 1 1 1610 1 1 1603 1 1 1604 1 1 1605 1 1 1606 1 1 1587 1 1 1593 1 1
    1601 1 1 1589 1 1 1602 1 1 1585 1 1 1588 1 1 1578 1 1 1579 1 1 1582 1 1 1584 1 1 1590 1 1
    1592 1 1 1594 1 1 1646 1 1 1722 1 1 1697 1 1 1647 2 1 1576 1 1 1580 2 1 1607 3 1 1581 2 1
    1610 1 1 1603 1 1 1604 1 1 1605 1 1 1606 1 1 1587 1 1 1593 1 1 1601 1 1 1589 1 1 1602 2 1
    1588 1 1 1578 1 1 1579 1 1 1582 2 1 1590 2 1 1594 7 1 1580 5 1 1581 2 1 1610 2 1 1604 2 1
    1606 1 1 1587 1 1 1593 2 1 1589 1 1 1602 2 1 1588 3 1 1582 2 1 1590 2 1 1594 2 1 1722 2 1
    1647 2 1 1576 1 1 1580 2 1 1607 3 1 1581 1 1 1591 1 1 1610 1 1 1603 2 1 1605 1 1 1606 1 1
    1587 1 1 1593 1 1 1601 1 1 1589 1 1 1602 2 1 1588 1 1 1578 1 1 1579 1 1 1582 2 1 1590 1 1
    1592 1 1 1594 1 1 1646 2 1 1697 2 1 1575 1 1 1576 1 1 1580 1 1 1583 1 1 1607 1 1 1608 1 1
    1586 1 1 1581 1 1 1591 1 1 1610 2 1 1604 1 1 1605 1 1 1606 1 1 1587 1 1 1593 1 1 1601 1 1
    1589 1 1 1602 1 1 1585 1 1 1588 1 1 1578 1 1 1579 1 1 1582 1 1 1584 1 1 1590 1 1 1592 1 1
    1594 6 1 1576 1 1 1580 1 1 1583 2 1 1608 1 1 1586 1 1 1581 1 1 1591 1 1 1610 2 1 1604 1 1
    1605 1 1 1606 1 1 1587 1 1 1593 1 1 1601 1 1 1589 1 1 1602 1 1 1585 1 1 1588 1 1 1578 1 1
    1579 1 1 1582 1 1 1584 1 1 1590 1 1 1592 1 1 1594 581 2 48 46 1 2 48 44 1 2 49 44 1 2 50 44
    1 2 51 44 1 2 52 44 1 2 53 44 1 2 54 44 1 2 55 44 1 2 56 44 1 2 57 44 6 3 40 65 41 1 3 40 66
    41 1 3 40 67 41 1 3 40 68 41 1 3 40 69 41 1 3 40 70 41 1 3 40 71 41 1 3 40 72 41 1 3 40 73
    41 1 3 40 74 41 1 3 40 75 41 1 3 40 76 41 1 3 40 77 41 1 3 40 78 41 1 3 40 79 41 1 3 40 80
    41 1 3 40 81 41 1 3 40 82 41 1 3 40 83 41 1 3 40 84 41 1 3 40 85 41 1 3 40 86 41 1 3 40 87
    41",
  "
    127271 3 40 88 41 1 3 40 89 41 1 3 40 90 41 1 3 12308 83 12309 1 1 67 1 1 82 1 2 67 68 1 2
    87 90 2 1 65 1 1 66 1 1 67 1 1 68 1 1 69 1 1 70 1 1 71 1 1 72 1 1 73 1 1 74 1 1 75 1 1 76 1
    1 77 1 1 78 1 1 79 1 1 80 1 1 81 1 1 82 1 1 83 1 1 84 1 1 85 1 1 86 1 1 87 1 1 88 1 1 89 1 1
    90 1 2 72 86 1 2 77 86 1 2 83 68 1 2 83 83 1 3 80 80 86 1 2 87 67 27 2 77 67 1 2 77 68 1 2
    77 82 36 2 68 74 112 2 12411 12363 1 2 12467 12467 1 1 12469 14 1 25163 1 1 23383 1 1 21452
    1 2 12486 12441 1 1 20108 1 1 22810 1 1 35299 1 1 22825 1 1 20132 1 1 26144 1 1 28961 1 1
    26009 1 1 21069 1 1 24460 1 1 20877 1 1 26032 1 1 21021 1 1 32066 1 1 29983 1 1 36009 1 1
    22768 1 1 21561 1 1 28436 1 1 25237 1 1 25429 1 1 19968 1 1 19977 1 1 36938 1 1 24038 1 1
    20013 1 1 21491 1 1 25351 1 1 36208 1 1 25171 1 1 31105 1 1 31354 1 1 21512 1 1 28288 1 1
    26377 1 1 26376 1 1 30003 1 1 21106 1 1 21942 1 1 37197 5 3 12308 26412 12309 1 3 12308
    19977 12309 1 3 12308 20108 12309 1 3 12308 23433 12309 1 3 12308 28857 12309 1 3 12308
    25171 12309 1 3 12308 30423 12309 1 3 12308 21213 12309 1 3 12308 25943 12309 8 1 24471 1 1
    21487 2463 1 48 1 1 49 1 1 50 1 1 51 1 1 52 1 1 53 1 1 54 1 1 55 1 1 56 1 1 57 64519 1 20029
    1 1 20024 1 1 20033 1 1 131362 1 1 20320 1 1 20398 1 1 20411 1 1 20482 1 1 20602 1 1 20633 1
    1 20711 1 1 20687 1 1 13470 1 1 132666 1 1 20813 1 1 20820 1 1 20836 1 1 20855 1 1 132380 1
    1 13497 1 1 20839 1 1 20877 1 1 132427 1 1 20887 1 1 20900 1 1 20172 1 1 20908 1 1 20917 1 1
    168415 1 1 20981 1 1 20995 1 1 13535 1 1 21051 1 1 21062 1 1 21106 1 1 21111 1 1 13589 1 1
    21191 1 1 21193 1 1 21220 1 1 21242 1 1 21253 1 1 21254 1 1 21271 1 1 21321 1 1 21329 1 1
    21338 1 1 21363 1 1 21373 1 1 21375 1 1 21375 1 1 21375 1 1 133676 1 1 28784 1 1 21450 1 1
    21471 1 1 133987 1 1 21483 1 1 21489 1 1 21510 1 1 21662 1 1 21560 1 1 21576 1 1 21608 1 1
    21666 1 1 21750 1 1 21776 1 1 21843 1 1 21859 1 1 21892 1 1 21892 1 1 21913 1 1 21931 1 1
    21939 1 1 21954 1 1 22294 1 1 22022 1 1 22295 1 1 22097 1 1 22132 1 1 20999 1 1 22766 1 1
    22478 1 1 22516 1 1 22541 1 1 22411 1 1 22578 1 1 22577 1 1 22700 1 1 136420 1 1 22770 1 1
    22775 1 1 22790 1 1 22810 1 1 22818 1 1 22882 1 1 136872 1 1 136938 1 1 23020 1 1 23067 1 1
    23079 1 1 23000 1 1 23142 1 1 14062 1 1 14076 1 1 23304 1 1 23358 1 1 23358 1 1 137672 1 1
    23491 1 1 23512 1 1 23527 1 1 23539 1 1 138008 1 1 23551 1 1 23558 1 1 24403 1 1 23586 1 1
    14209 1 1 23648 1 1 23662 1 1 23744 1 1 23693 1 1 138724 1 1 23875 1 1 138726 1 1 23918 1 1
    23915 1 1 23932 1 1 24033 1 1 24034 1 1 14383 1 1 24061 1 1 24104 1 1 24125 1 1 24169 1 1
    14434 1 1 139651 1 1 14460 1 1 24240 1 1 24243 1 1 24246 1 1 24266 1 1 172946 1 1 24318 1 1
    140081 1 1 140081 1 1 33281 1 1 24354 1 1 24354 1 1 14535 1 1 144056 1 1 156122 1 1 24418 1
    1 24427 1 1 14563 1 1 24474 1 1 24525 1 1 24535 1 1 24569 1 1 24705 1 1 14650 1 1 14620 1 1
    24724 1 1 141012 1 1 24775 1 1 24904 1 1 24908 1 1 24910 1 1 24908 1 1 24954 1 1 24974 1 1
    25010 1 1 24996 1 1 25007 1 1 25054 1 1 25074 1 1 25078 1 1 25104 1 1 25115 1 1 25181 1 1
    25265 1 1 25300 1 1 25424 1 1 142092 1 1 25405 1 1 25340 1 1 25448",
  "
    194748 1 25475 1 1 25572 1 1 142321 1 1 25634 1 1 25541 1 1 25513 1 1 14894 1 1 25705 1 1
    25726 1 1 25757 1 1 25719 1 1 14956 1 1 25935 1 1 25964 1 1 143370 1 1 26083 1 1 26360 1 1
    26185 1 1 15129 1 1 26257 1 1 15112 1 1 15076 1 1 20882 1 1 20885 1 1 26368 1 1 26268 1 1
    32941 1 1 17369 1 1 26391 1 1 26395 1 1 26401 1 1 26462 1 1 26451 1 1 144323 1 1 15177 1 1
    26618 1 1 26501 1 1 26706 1 1 26757 1 1 144493 1 1 26766 1 1 26655 1 1 26900 1 1 15261 1 1
    26946 1 1 27043 1 1 27114 1 1 27304 1 1 145059 1 1 27355 1 1 15384 1 1 27425 1 1 145575 1 1
    27476 1 1 15438 1 1 27506 1 1 27551 1 1 27578 1 1 27579 1 1 146061 1 1 138507 1 1 146170 1 1
    27726 1 1 146620 1 1 27839 1 1 27853 1 1 27751 1 1 27926 1 1 27966 1 1 28023 1 1 27969 1 1
    28009 1 1 28024 1 1 28037 1 1 146718 1 1 27956 1 1 28207 1 1 28270 1 1 15667 1 1 28363 1 1
    28359 1 1 147153 1 1 28153 1 1 28526 1 1 147294 1 1 147342 1 1 28614 1 1 28729 1 1 28702 1 1
    28699 1 1 15766 1 1 28746 1 1 28797 1 1 28791 1 1 28845 1 1 132389 1 1 28997 1 1 148067 1 1
    29084 1 1 148395 1 1 29224 1 1 29237 1 1 29264 1 1 149000 1 1 29312 1 1 29333 1 1 149301 1 1
    149524 1 1 29562 1 1 29579 1 1 16044 1 1 29605 1 1 16056 1 1 16056 1 1 29767 1 1 29788 1 1
    29809 1 1 29829 1 1 29898 1 1 16155 1 1 29988 1 1 150582 1 1 30014 1 1 150674 1 1 30064 1 1
    139679 1 1 30224 1 1 151457 1 1 151480 1 1 151620 1 1 16380 1 1 16392 1 1 30452 1 1 151795 1
    1 151794 1 1 151833 1 1 151859 1 1 30494 1 1 30495 1 1 30495 1 1 30538 1 1 16441 1 1 30603 1
    1 16454 1 1 16534 1 1 152605 1 1 30798 1 1 30860 1 1 30924 1 1 16611 1 1 153126 1 1 31062 1
    1 153242 1 1 153285 1 1 31119 1 1 31211 1 1 16687 1 1 31296 1 1 31306 1 1 31311 1 1 153980 1
    1 154279 1 1 154279 1 1 31470 1 1 16898 1 1 154539 1 1 31686 1 1 31689 1 1 16935 1 1 154752
    1 1 31954 1 1 17056 1 1 31976 1 1 31971 1 1 32000 1 1 155526 1 1 32099 1 1 17153 1 1 32199 1
    1 32258 1 1 32325 1 1 17204 1 1 156200 1 1 156231 1 1 17241 1 1 156377 1 1 32634 1 1 156478
    1 1 32661 1 1 32762 1 1 32773 1 1 156890 1 1 156963 1 1 32864 1 1 157096 1 1 32880 1 1
    144223 1 1 17365 1 1 32946 1 1 33027 1 1 17419 1 1 33086 1 1 23221 1 1 157607 1 1 157621 1 1
    144275 1 1 144284 1 1 33281 1 1 33284 1 1 36766 1 1 17515 1 1 33425 1 1 33419 1 1 33437 1 1
    21171 1 1 33457 1 1 33459 1 1 33469 1 1 33510 1 1 158524 1 1 33509 1 1 33565 1 1 33635 1 1
    33709 1 1 33571 1 1 33725 1 1 33767 1 1 33879 1 1 33619 1 1 33738 1 1 33740 1 1 33756 1 1
    158774 1 1 159083 1 1 158933 1 1 17707 1 1 34033 1 1 34035 1 1 34070 1 1 160714 1 1 34148 1
    1 159532 1 1 17757 1 1 17761 1 1 159665 1 1 159954 1 1 17771 1 1 34384 1 1 34396 1 1 34407 1
    1 34409 1 1 34473 1 1 34440 1 1 34574 1 1 34530 1 1 34681 1 1 34600 1 1 34667 1 1 34694 1 1
    17879 1 1 34785 1 1 34817 1 1 17913 1 1 34912 1 1 34915 1 1 161383 1 1 35031 1 1 35038 1 1
    17973 1 1 35066 1 1 13499 1 1 161966 1 1 162150 1 1 18110 1 1 18119 1 1 35488 1 1 35565 1 1
    35722 1 1 35925 1 1 162984 1 1 36011 1 1 36033 1 1 36123 1 1 36215 1 1 163631 1 1 133124 1 1
    36299 1 1 36284 1 1 36336 1 1 133342 1 1 36564 1 1 36664 1 1 165330 1 1 165357 1 1 37012 1 1
    37105 1 1 37137 1 1 165678 1 1 37147 1 1 37432",
  "
    195048 1 37591 1 1 37592 1 1 37500 1 1 37881 1 1 37909 1 1 166906 1 1 38283 1 1 18837 1 1
    38327 1 1 167287 1 1 18918 1 1 38595 1 1 23986 1 1 38691 1 1 168261 1 1 168474 1 1 19054 1 1
    19062 1 1 38880 1 1 168970 1 1 19122 1 1 169110 1 1 38923 1 1 38923 1 1 38953 1 1 169398 1 1
    39138 1 1 19251 1 1 39209 1 1 39335 1 1 39362 1 1 39422 1 1 19406 1 1 170800 1 1 39698 1 1
    40000 1 1 40189 1 1 19662 1 1 19693 1 1 40295 1 1 172238 1 1 19704 1 1 172293 1 1 172558 1 1
    172689 1 1 40635 1 1 19798 1 1 40697 1 1 40702 1 1 40709 1 1 40719 1 1 40726 1 1 40763 1 1
    173568"]

/-- The code points that two others are put together to: each with these two. -/
def pairRows : List String := [
  "
    192 65 768 1 65 769 1 65 770 1 65 771 1 65 776 1 65 778 2 67 807 1 69 768 1 69 769 1 69 770
    1 69 776 1 73 768 1 73 769 1 73 770 1 73 776 2 78 771 1 79 768 1 79 769 1 79 770 1 79 771 1
    79 776 3 85 768 1 85 769 1 85 770 1 85 776 1 89 769 3 97 768 1 97 769 1 97 770 1 97 771 1 97
    776 1 97 778 2 99 807 1 101 768 1 101 769 1 101 770 1 101 776 1 105 768 1 105 769 1 105 770
    1 105 776 2 110 771 1 111 768 1 111 769 1 111 770 1 111 771 1 111 776 3 117 768 1 117 769 1
    117 770 1 117 776 1 121 769 2 121 776 1 65 772 1 97 772 1 65 774 1 97 774 1 65 808 1 97 808
    1 67 769 1 99 769 1 67 770 1 99 770 1 67 775 1 99 775 1 67 780 1 99 780 1 68 780 1 100 780 3
    69 772 1 101 772 1 69 774 1 101 774 1 69 775 1 101 775 1 69 808 1 101 808 1 69 780 1 101 780
    1 71 770 1 103 770 1 71 774 1 103 774 1 71 775 1 103 775 1 71 807 1 103 807 1 72 770 1 104
    770 3 73 771 1 105 771 1 73 772 1 105 772 1 73 774 1 105 774 1 73 808 1 105 808 1 73 775 4
    74 770 1 106 770 1 75 807 1 107 807 2 76 769 1 108 769 1 76 807 1 108 807 1 76 780 1 108 780
    5 78 769 1 110 769 1 78 807 1 110 807 1 78 780 1 110 780 4 79 772 1 111 772 1 79 774 1 111
    774 1 79 779 1 111 779 3 82 769 1 114 769 1 82 807 1 114 807 1 82 780 1 114 780 1 83 769 1
    115 769 1 83 770 1 115 770 1 83 807 1 115 807 1 83 780 1 115 780 1 84 807 1 116 807 1 84 780
    1 116 780 3 85 771 1 117 771 1 85 772 1 117 772 1 85 774 1 117 774 1 85 778 1 117 778 1 85
    779 1 117 779 1 85 808 1 117 808 1 87 770 1 119 770 1 89 770 1 121 770 1 89 776 1 90 769 1
    122 769 1 90 775 1 122 775 1 90 780 1 122 780 34 79 795 1 111 795 14 85 795 1 117 795 29 65
    780 1 97 780 1 73 780 1 105 780 1 79 780 1 111 780 1 85 780 1 117 780 1 220 772 1 252 772 1
    220 769 1 252 769 1 220 780 1 252 780 1 220 768 1 252 768 2 196 772 1 228 772 1 550 772 1
    551 772 1 198 772 1 230 772 3 71 780 1 103 780 1 75 780 1 107 780 1 79 808 1 111 808 1 490
    772 1 491 772 1 439 780 1 658 780 1 106 780 4 71 769 1 103 769 3 78 768 1 110 768 1 197 769
    1 229 769 1 198 769 1 230 769 1 216 769 1 248 769 1 65 783 1 97 783 1 65 785 1 97 785 1 69
    783 1 101 783 1 69 785 1 101 785 1 73 783 1 105 783 1 73 785 1 105 785 1 79 783 1 111 783 1
    79 785 1 111 785 1 82 783 1 114 783 1 82 785 1 114 785 1 85 783 1 117 783 1 85 785 1 117 785
    1 83 806 1 115 806 1 84 806 1 116 806 3 72 780 1 104 780 7 65 775 1 97 775 1 69 807 1 101
    807 1 214 772 1 246 772 1 213 772 1 245 772 1 79 775 1 111 775 1 558 772 1 559 772 1 89 772
    1 121 772 338 168 769 1 913 769 2 917 769 1 919 769 1 921 769 2 927 769 2 933 769 1 937 769
    1 970 769 26 921 776 1 933 776 1 945 769 1 949 769 1 951 769 1 953 769 1 971 769 26 953 776
    1 965 776 1 959 769 1 965 769 1 969 769 5 978 769 1 978 776 44 1045 768 1 1045 776 2 1043
    769 4 1030 776 5 1050 769 1 1048 768 1 1059 774 11 1048 774 32 1080 774 23 1077 768 1 1077
    776 2 1075 769 4 1110 776 5 1082 769 1 1080 768 1 1091 774 24 1140 783 1 1141 783 74 1046
    774 1 1078 774 14 1040 774 1 1072 774 1 1040 776 1 1072 776 3 1045 774",
  "
    1239 1077 774 3 1240 776 1 1241 776 1 1046 776 1 1078 776 1 1047 776 1 1079 776 3 1048 772 1
    1080 772 1 1048 776 1 1080 776 1 1054 776 1 1086 776 3 1256 776 1 1257 776 1 1069 776 1 1101
    776 1 1059 772 1 1091 772 1 1059 776 1 1091 776 1 1059 779 1 1091 779 1 1063 776 1 1095 776
    3 1067 776 1 1099 776 297 1575 1619 1 1575 1620 1 1608 1620 1 1575 1621 1 1610 1620 154 1749
    1620 2 1729 1620 17 1746 1620 598 2344 2364 8 2352 2364 3 2355 2364 151 2503 2494 1 2503
    2519 380 2887 2902 3 2887 2878 1 2887 2903 72 2962 3031 54 3014 3006 1 3015 3006 1 3014 3031
    124 3142 3158 120 3263 3285 7 3270 3285 1 3270 3286 2 3270 3266 1 3274 3285 127 3398 3390 1
    3399 3390 1 3398 3415 142 3545 3530 2 3545 3535 1 3548 3530 1 3545 3551 584 4133 4142 2784
    6917 6965 2 6919 6965 2 6921 6965 2 6923 6965 2 6925 6965 4 6929 6965 41 6970 6965 2 6972
    6965 3 6974 6965 1 6975 6965 2 6978 6965 701 65 805 1 97 805 1 66 775 1 98 775 1 66 803 1 98
    803 1 66 817 1 98 817 1 199 769 1 231 769 1 68 775 1 100 775 1 68 803 1 100 803 1 68 817 1
    100 817 1 68 807 1 100 807 1 68 813 1 100 813 1 274 768 1 275 768 1 274 769 1 275 769 1 69
    813 1 101 813 1 69 816 1 101 816 1 552 774 1 553 774 1 70 775 1 102 775 1 71 772 1 103 772 1
    72 775 1 104 775 1 72 803 1 104 803 1 72 776 1 104 776 1 72 807 1 104 807 1 72 814 1 104 814
    1 73 816 1 105 816 1 207 769 1 239 769 1 75 769 1 107 769 1 75 803 1 107 803 1 75 817 1 107
    817 1 76 803 1 108 803 1 7734 772 1 7735 772 1 76 817 1 108 817 1 76 813 1 108 813 1 77 769
    1 109 769 1 77 775 1 109 775 1 77 803 1 109 803 1 78 775 1 110 775 1 78 803 1 110 803 1 78
    817 1 110 817 1 78 813 1 110 813 1 213 769 1 245 769 1 213 776 1 245 776 1 332 768 1 333 768
    1 332 769 1 333 769 1 80 769 1 112 769 1 80 775 1 112 775 1 82 775 1 114 775 1 82 803 1 114
    803 1 7770 772 1 7771 772 1 82 817 1 114 817 1 83 775 1 115 775 1 83 803 1 115 803 1 346 775
    1 347 775 1 352 775 1 353 775 1 7778 775 1 7779 775 1 84 775 1 116 775 1 84 803 1 116 803 1
    84 817 1 116 817 1 84 813 1 116 813 1 85 804 1 117 804 1 85 816 1 117 816 1 85 813 1 117 813
    1 360 769 1 361 769 1 362 776 1 363 776 1 86 771 1 118 771 1 86 803 1 118 803 1 87 768 1 119
    768 1 87 769 1 119 769 1 87 776 1 119 776 1 87 775 1 119 775 1 87 803 1 119 803 1 88 775 1
    120 775 1 88 776 1 120 776 1 89 775 1 121 775 1 90 770 1 122 770 1 90 803 1 122 803 1 90 817
    1 122 817 1 104 817 1 116 776 1 119 778 1 121 778 2 383 775 5 65 803 1 97 803 1 65 777 1 97
    777 1 194 769 1 226 769 1 194 768 1 226 768 1 194 777 1 226 777 1 194 771 1 226 771 1 7840
    770 1 7841 770 1 258 769 1 259 769 1 258 768 1 259 768 1 258 777 1 259 777 1 258 771 1 259
    771 1 7840 774 1 7841 774 1 69 803 1 101 803 1 69 777 1 101 777 1 69 771 1 101 771 1 202 769
    1 234 769 1 202 768 1 234 768 1 202 777 1 234 777 1 202 771 1 234 771 1 7864 770 1 7865 770
    1 73 777 1 105 777 1 73 803 1 105 803 1 79 803 1 111 803 1 79 777 1 111 777 1 212 769 1 244
    769 1 212 768 1 244 768 1 212 777 1 244 777 1 212 771 1 244 771 1 7884 770 1 7885 770 1 416
    769 1 417 769 1 416 768 1 417 768 1 416 777 1 417 777 1 416 771 1 417 771 1 416 803 1 417
    803 1 85 803 1 117 803 1 85 777 1 117 777 1 431 769",
  "
    7913 432 769 1 431 768 1 432 768 1 431 777 1 432 777 1 431 771 1 432 771 1 431 803 1 432 803
    1 89 768 1 121 768 1 89 803 1 121 803 1 89 777 1 121 777 1 89 771 1 121 771 7 945 787 1 945
    788 1 7936 768 1 7937 768 1 7936 769 1 7937 769 1 7936 834 1 7937 834 1 913 787 1 913 788 1
    7944 768 1 7945 768 1 7944 769 1 7945 769 1 7944 834 1 7945 834 1 949 787 1 949 788 1 7952
    768 1 7953 768 1 7952 769 1 7953 769 3 917 787 1 917 788 1 7960 768 1 7961 768 1 7960 769 1
    7961 769 3 951 787 1 951 788 1 7968 768 1 7969 768 1 7968 769 1 7969 769 1 7968 834 1 7969
    834 1 919 787 1 919 788 1 7976 768 1 7977 768 1 7976 769 1 7977 769 1 7976 834 1 7977 834 1
    953 787 1 953 788 1 7984 768 1 7985 768 1 7984 769 1 7985 769 1 7984 834 1 7985 834 1 921
    787 1 921 788 1 7992 768 1 7993 768 1 7992 769 1 7993 769 1 7992 834 1 7993 834 1 959 787 1
    959 788 1 8000 768 1 8001 768 1 8000 769 1 8001 769 3 927 787 1 927 788 1 8008 768 1 8009
    768 1 8008 769 1 8009 769 3 965 787 1 965 788 1 8016 768 1 8017 768 1 8016 769 1 8017 769 1
    8016 834 1 8017 834 2 933 788 2 8025 768 2 8025 769 2 8025 834 1 969 787 1 969 788 1 8032
    768 1 8033 768 1 8032 769 1 8033 769 1 8032 834 1 8033 834 1 937 787 1 937 788 1 8040 768 1
    8041 768 1 8040 769 1 8041 769 1 8040 834 1 8041 834 1 945 768 2 949 768 2 951 768 2 953 768
    2 959 768 2 965 768 2 969 768 4 7936 837 1 7937 837 1 7938 837 1 7939 837 1 7940 837 1 7941
    837 1 7942 837 1 7943 837 1 7944 837 1 7945 837 1 7946 837 1 7947 837 1 7948 837 1 7949 837
    1 7950 837 1 7951 837 1 7968 837 1 7969 837 1 7970 837 1 7971 837 1 7972 837 1 7973 837 1
    7974 837 1 7975 837 1 7976 837 1 7977 837 1 7978 837 1 7979 837 1 7980 837 1 7981 837 1 7982
    837 1 7983 837 1 8032 837 1 8033 837 1 8034 837 1 8035 837 1 8036 837 1 8037 837 1 8038 837
    1 8039 837 1 8040 837 1 8041 837 1 8042 837 1 8043 837 1 8044 837 1 8045 837 1 8046 837 1
    8047 837 1 945 774 1 945 772 1 8048 837 1 945 837 1 940 837 2 945 834 1 8118 837 1 913 774 1
    913 772 1 913 768 2 913 837 5 168 834 1 8052 837 1 951 837 1 942 837 2 951 834 1 8134 837 1
    917 768 2 919 768 2 919 837 1 8127 768 1 8127 769 1 8127 834 1 953 774 1 953 772 1 970 768 4
    953 834 1 970 834 1 921 774 1 921 772 1 921 768 3 8190 768 1 8190 769 1 8190 834 1 965 774 1
    965 772 1 971 768 2 961 787 1 961 788 1 965 834 1 971 834 1 933 774 1 933 772 1 933 768 2
    929 788 1 168 768 5 8060 837 1 969 837 1 974 837 2 969 834 1 8182 837 1 927 768 2 937 768 2
    937 837 414 8592 824 1 8594 824 19 8596 824 31 8656 824 1 8660 824 1 8658 824 53 8707 824 5
    8712 824 3 8715 824 24 8739 824 2 8741 824 27 8764 824 3 8771 824 3 8773 824 2 8776 824 23
    61 824 2 8801 824 11 8781 824 1 60 824 1 62 824 1 8804 824 1 8805 824 3 8818 824 1 8819 824
    3 8822 824 1 8823 824 7 8826 824 1 8827 824 3 8834 824 1 8835 824 3 8838 824 1 8839 824 35
    8866 824 1 8872 824 1 8873 824 1 8875 824 49 8828 824 1 8829 824 1 8849 824 1 8850 824 7
    8882 824 1 8883 824 1 8884 824 1 8885 824 3423 12363 12441 2 12365 12441 2 12367 12441 2
    12369 12441 2 12371 12441 2 12373 12441 2 12375 12441 2 12377 12441 2 12379 12441 2 12381
    12441 2 12383 12441 2 12385 12441 3 12388 12441 2 12390 12441 2 12392 12441 7 12399 12441 1
    12399 12442 2 12402 12441 1 12402 12442 2 12405 12441 1 12405 12442 2 12408 12441 1 12408
    12442 2 12411 12441 1 12411 12442 23 12358 12441 10 12445 12441 14 12459 12441 2 12461 12441
    2 12463 12441",
  "
    12466 12465 12441 2 12467 12441 2 12469 12441 2 12471 12441 2 12473 12441 2 12475 12441 2
    12477 12441 2 12479 12441 2 12481 12441 3 12484 12441 2 12486 12441 2 12488 12441 7 12495
    12441 1 12495 12442 2 12498 12441 1 12498 12442 2 12501 12441 1 12501 12442 2 12504 12441 1
    12504 12442 2 12507 12441 1 12507 12442 23 12454 12441 3 12527 12441 1 12528 12441 1 12529
    12441 1 12530 12441 4 12541 12441 57244 69785 69818 2 69787 69818 15 69797 69818 131 69937
    69927 1 69938 69927 540 70471 70462 1 70471 70487 367 70841 70842 1 70841 70832 2 70841
    70845 252 71096 71087 1 71097 71087 893 71989 71984"]

/-- The classes of marks: the first of some code points in a row, how many there are, and their
class. -/
def classRows : List String := [
  "
    768 21 230 21 1 232 1 4 220 4 1 232 1 1 216 1 5 220 5 2 202 2 4 220 4 2 202 2 11 220 11 5 1
    5 4 220 4 8 230 8 1 240 1 1 230 1 3 220 3 3 230 3 2 220 3 3 230 3 4 220 4 1 230 1 1 232 1 2
    220 2 1 230 1 1 233 1 2 234 2 1 233 1 2 234 2 1 233 1 13 230 288 5 230 270 1 220 1 4 230 4 1
    220 1 3 230 3 1 222 1 1 220 1 6 230 6 6 220 6 2 230 2 1 220 1 2 230 2 1 222 1 1 228 1 1 230
    1 1 10 1 1 11 1 1 12 1 1 13 1 1 14 1 1 15 1 1 16 1 1 17 1 1 18 1 2 19 2 1 20 1 1 21 1 1 22 2
    1 23 2 1 24 1 1 25 2 1 230 1 1 220 2 1 18 73 8 230 8 1 30 1 1 31 1 1 32 49 1 27 1 1 28 1 1
    29 1 1 30 1 1 31 1 1 32 1 1 33 1 1 34 1 2 230 2 2 220 2 5 230 5 1 220 1 2 230 2 1 220 17 1
    35 102 7 230 9 4 230 4 1 220 1 1 230 3 2 230 3 1 220 1 2 230 2 1 220 36 1 36 31 1 230 1 1
    220 1 2 230 2 1 220 1 2 230 2 3 220 3 1 230 1 2 220 2 1 230 1 1 220 1 3 230 3 1 220 1 1 230
    1 1 220 1 1 230 1 1 220 1 1 230 1 1 220 1 2 230 162 7 230 7 1 220 1 1 230 10 1 220 25 4 230
    5 9 230 10 3 230 4 5 230 48 3 220 63 1 230 1 3 220 3 4 230 46 5 230 5 5 220 5 14 230 15 1
    220 1 2 230 2 1 220 1 2 230 2 1 220 1 3 230 3 3 220 3 1 27 1 1 28 1 1 29 1 3 230 3 1 220 1 2
    230 2 2 220 2 5 230 65 1 7 17 1 9 4 1 230 1 1 220 1 2 230 105 1 7 17 1 9 49 1 230 62 1 7 17
    1 9 111 1 7 17 1 9 111 1 7 17 1 9 128 1 9 111 1 7 17 1 9 8 1 84 1 1 91 102 1 7 17 1 9 110 2
    9 18 1 9 125 1 9 110 2 103 2 1 9 14 4 107 112 2 118 2 1 9 14 4 122 80 2 220 29 1 220 2 1 220
    2 1 216 56 1 129 1 1 130 2 1 132 6 4 130 6 1 130 2 2 230 2 1 9 2 2 230 64 1 220 113 1 7 2 2
    9 84 1 220 720 3 230 951 2 9 32 1 9 158 1 9 11 1 230 204 1 228 144 1 222 1 1 230 1 1 220 220
    1 230 1 1 220 72 1 9 21 8 230 10 1 220 49 5 230 5 6 220 6 2 230 2 1 220 2 2 220 2 2 230 2 2
    220 2 5 230 5 1 220 1 4 230 105 1 7 16 1 9 39 1 230 1 1 220 1 7 230 61 2 9 60 1 7 12 2 9 69
    1 7 153 3 230 4 1 1 1 5 220 5 2 230 2 4 220 4 1 230 2 7 1 11 1 220 7 1 230 4 2 230 200 2 230
    2 1 220 1 7 230 7 1 220 1 2 230 2 1 234 1 1 214 1 1 220 1 1 202 1 37 230 37 1 232 1 2 228 2
    1 220 1 1 218 1 1 230 1 1 233 1 1 220 1 1 230 1 1 220 721 2 230 2 2 1 2 4 230 4 3 1 3 2 230
    6 1 230 4 2 1 2 1 230 1 1 220 1 1 230 1 2 1 2 4 220 4 1 230 3071 3 230 144 1 9 97 32 230 586
    1 218 1 1 228 1 1 232 1 1 222 1 2 224 107 2 8 30166 1 230 5 10 230 42 2 230 82 2 230 278 1 9
    38 1 9 152 1 9 28 18 230 75 3 220 40 1 9 96 1 7 13 1 9 240 1 230 2 2 230 2 1 220 3 2 230 7 2
    230 3 1 230 53 1 9 247 1 9 20273 1 26 770 7 230 7 7 220 7 2 230 975 1 220 227 1 220 150 5
    230 1687 1 220 2 1 230 41 1 230 1 1 1 1 1 220 5 1 9 166 1 230 1 1 220 574 4 230 391 2 230
    155 2 220 2 3 230 3 1 220 1 1 230 1 4 220 53 1 230 1 1 220 1 1 230 1 1 220 193 1 9 42 1 9 15
    1 9 58 1 9 1 1 7 70 3 230 51 2 9 64 1 7 77 1 9 10 1 7 107 1 9 1 1 7 179 1 7 1 1 9 81 2 7 18
    1 9 25 7 230 10 5 230 210 1 9 4 1 7 24 1 230 100 1 9 1 1 7 252 1 9 1 1 7 127 1 9 119 1 9 1 1
    7 116 1 9 270 1 9 1 1 7 259 2 9 6 1 7 157 1 9 84 1 9 19 1 9 82 1 9 422 1 9 259 1 7 2 2 9 83
    1 9 19801 5 1 64 7 230 1216 2 6 19630 1 1 5319 2 216 2 3 1 6 1 226 1 5 216 13 8 220 10 5 230
    5 2 220 32 4 230 152 3 230 3518 7 230 8 17 230 19 7 230 8 2 230 3 5 230 266 7 230 382 1 230
    62 4 230 1508 7 220 116 6 230 6 1 7"]

/-- The entries of a text of numbers in which each says how many members it has; the first argument
is the code point before. -/
def countedEntries (before : Nat) : List Nat → List (Nat × List Nat)
  | distance :: count :: rest =>
    (before + distance, rest.take count) :: countedEntries (before + distance) (rest.drop count)
  | _ => []
termination_by ns => ns.length
decreasing_by simp; omega

/-- The entries of a text of numbers with two members each. -/
def pairEntries (before : Nat) : List Nat → List (Nat × Nat × Nat)
  | distance :: a :: b :: rest =>
    (before + distance, a, b) :: pairEntries (before + distance) rest
  | _ => []

/-- The numbers of a text. -/
def numbersOf (s : String) : List Nat := PointSet.numbers none s.toList

/-- What code points stand for. -/
def expansions : List (Nat × List Nat) :=
  expansionRows.flatMap fun s => countedEntries 0 (numbersOf s)

/-- What code points are put together from. -/
def pairs : List (Nat × Nat × Nat) := pairRows.flatMap fun s => pairEntries 0 (numbersOf s)

/-- The classes of code points in a row. -/
def classes : List (Nat × Nat × Nat) := classRows.flatMap fun s => pairEntries 0 (numbersOf s)

/-- The class of a code point; marks of different classes do not touch, and zero is no mark. -/
def classOf (n : Nat) : Nat :=
  ((classes.find? fun row => row.1 ≤ n && n < row.1 + row.2.1).map (·.2.2)).getD 0

/-! ### Syllables of Hangul

A syllable is put together from a leading consonant, a vowel and perhaps a trailing consonant, whose
numbers give its own. -/

def syllableBase : Nat := 0xAC00
def leadBase : Nat := 0x1100
def vowelBase : Nat := 0x1161
def trailBase : Nat := 0x11A7
def leadCount : Nat := 19
def vowelCount : Nat := 21
def trailCount : Nat := 28

/-- The parts of a syllable. -/
def syllable? (n : Nat) : Option (List Nat) :=
  let i := n - syllableBase
  if syllableBase ≤ n && i < leadCount * vowelCount * trailCount then
    let lead := leadBase + i / (vowelCount * trailCount)
    let vowel := vowelBase + i / trailCount % vowelCount
    some (if i % trailCount = 0 then [lead, vowel] else [lead, vowel, trailBase + i % trailCount])
  else none

/-- A syllable from its first parts and the next. -/
def syllableOf? (a b : Nat) : Option Nat :=
  let lead := a - leadBase
  let vowel := b - vowelBase
  let openPart := a - syllableBase
  let trail := b - trailBase
  if leadBase ≤ a && lead < leadCount && vowelBase ≤ b && vowel < vowelCount then
    some (syllableBase + (lead * vowelCount + vowel) * trailCount)
  else if syllableBase ≤ a && openPart < leadCount * vowelCount * trailCount
      && openPart % trailCount = 0 && trailBase < b && trail < trailCount then
    some (a + trail)
  else none

/-! ### The form -/

/-- What a code point is taken apart to.  The first argument bounds how often. -/
def takenApart : Nat → Nat → List Nat
  | 0, n => [n]
  | fuel + 1, n => match syllable? n, expansions.find? (·.1 == n) with
    | some ns, _ => ns
    | none, some (_, ns) => ns
    | none, none => match pairs.find? (·.1 == n) with
      | some (_, a, b) => takenApart fuel a ++ takenApart fuel b
      | none => [n]

/-- Marks on one letter in the order of their classes. -/
def ordered (ns : List Nat) : List Nat :=
  (ns.splitBy fun _ n => classOf n != 0).flatMap (·.mergeSort fun a b => classOf a ≤ classOf b)

/-- What two code points are put together to. -/
def together? (a b : Nat) : Option Nat :=
  syllableOf? a b <|> (pairs.find? fun p => p.2.1 == a && p.2.2 == b).map (·.1)

/-- Puts code points together.  The letter that takes marks comes first, then the marks behind it
that it has not taken, the last one first; a mark behind one of its class or a higher one is not
taken. -/
def composed (letter : Nat) (left : List Nat) : List Nat → List Nat
  | [] => letter :: left.reverse
  | n :: ns =>
    let isFree := left.head?.all fun m => classOf m < classOf n
    match if isFree then together? letter n else none with
    | some whole => composed whole left ns
    | none =>
      if classOf n = 0 then letter :: left.reverse ++ composed n [] ns
      else composed letter (n :: left) ns

/-- Puts code points together behind marks without a letter. -/
def composedAll : List Nat → List Nat
  | [] => []
  | n :: ns => if classOf n = 0 then composed n [] ns else n :: composedAll ns

/-- How often a code point can be taken apart. -/
def depth : Nat := 8

end Normal

/-- A text in the one form of all texts that mean the same. -/
def Text.normalized (t : Text) : Text :=
  if t.points.all (·.toNat < 128) then t
  else
    let apart := t.points.flatMap fun p => Normal.takenApart Normal.depth p.toNat
    ⟨(Normal.composedAll (Normal.ordered apart)).map CodePoint.ofNat⟩

end GuardedTools
