import MarkupLint.Text.CharSet

set_option autoImplicit false

namespace MarkupLint.Text

def wideSet : CharSet := CharSet.ofSteps
    [ "888 2 6 4 7 1 1 1 20 1 397 1 38 2 50 2 3 1 55 8 27 4 6 11 270 1 60 2 101 14 59 2 49 2 15 1 28 2",
      "1 1 11 5 31 1 2 6 236 1 8 2 2 2 22 1 7 1 1 3 4 2 9 2 2 2 4 8 1 4 2 1 5 2 25 2 3 1 6 4 2 2 22 1 7",
      "1 2 1 2 1 2 2 1 1 5 4 2 2 3 3 1 7 4 1 1 7 17 10 3 1 9 1 3 1 22 1 7 1 2 1 5 2 10 1 3 1 3 2 1 15 4",
      "2 12 7 7 1 3 1 8 2 2 2 22 1 7 1 2 1 5 2 9 2 2 2 3 7 3 4 2 1 5 2 18 10 2 1 6 3 3 1 4 3 2 1 1 1 2",
      "3 2 3 3 3 12 4 5 3 3 1 4 2 1 6 1 14 21 5 13 1 3 1 23 1 16 2 9 1 3 1 4 7 2 1 3 2 1 2 4 2 10 7 22",
      "1 3 1 23 1 10 1 5 2 9 1 3 1 4 7 2 6 2 1 4 2 10 1 2 13 13 1 3 1 51 1 3 1 6 4 16 2 26 1 3 1 18 3",
      "24 1 9 1 1 2 7 3 1 4 6 1 1 1 8 6 10 2 3 12 58 4 29 37 2 1 1 1 5 1 24 1 1 1 23 2 5 1 1 1 6 2 10 2",
      "4 32 72 1 36 4 39 1 36 1 15 1 13 37 198 1 1 5 1 2 48 96 233 1 4 2 7 1 1 1 4 2 41 1 4 2 33 1 4 2",
      "7 1 1 1 4 2 15 1 57 1 4 2 67 2 32 3 26 6 86 2 6 2 669 3 89 7 22 9 24 9 20 12 13 1 3 1 2 12 94 2",
      "10 6 10 6 26 6 89 7 43 5 70 10 31 1 12 4 12 4 1 3 42 2 5 11 44 4 26 6 11 3 62 2 65 1 29 2 11 6",
      "10 6 14 2 31 49 77 3 47 1 116 8 60 3 15 3 60 7 43 2 11 8 43 5 534 2 6 2 38 2 6 2 8 1 1 1 1 1 1 1",
      "31 2 53 1 15 1 14 2 6 1 19 2 3 1 9 1 101 1 12 2 27 1 13 3 33 15 33 15 140 4 394 2 13 2 190 4 3 1",
      "2 1 51 25 11 21 413 2 21 2 50 12 43 1 19 1 13 1 8 2 17 2 5 2 8 1 5 1 21 1 7 2 1 1 4 1 2 1 7 1 4",
      "2 28 1 35 1 1 1 4 3 1 1 61 3 24 1 14 1 859 2 51 1 4 1 30 2 32 1 349 5 45 1 1 5 1 2 56 7 2 14 24",
      "9 7 1 7 1 7 1 7 1 7 1 7 1 7 1 7 1 126 481 1 520 8 7024 64 22224 348 20 184 8 203 5 2 1 1 1 5 24",
      "59 3 10 6 56 8 70 8 12 6 116 11 1 32 78 1 11 4 33 1 55 9 14 2 10 2 103 24 28 10 6 2 6 2 6 9 7 1",
      "7 1 60 4 126 2 10 11190 23 4 49 2052 6400 512 7 12 5 5 26 1 5 1 1 1 2 1 2 1 125 16 445 2 54 7 1",
      "32 32 16 16 64 5 1 135 2 1 97 94 3 6 2 6 2 6 2 3 11 7 10 5 2 12 1 26 1 19 1 2 1 15 2 14 34 123 5",
      "3 4 45 3 88 1 13 3 1 47 46 130 29 3 49 15 28 4 36 9 30 5 43 5 30 1 37 4 14 42 158 2 10 6 36 4 36",
      "4 40 8 52 11 12 1 15 1 7 1 2 1 11 1 15 1 7 1 2 67 311 9 22 10 8 24 6 1 42 1 9 69 6 2 1 1 44 1 2",
      "3 1 2 23 1 72 8 9 48 19 1 2 5 33 3 27 5 1 64 56 4 20 2 50 1 2 5 8 1 3 1 29 2 3 4 10 7 9 7 64 32",
      "39 4 12 9 54 3 29 2 27 5 26 7 4 12 7 80 73 55 51 13 51 7 46 8 10 294 31 1 42 1 3 2 2 78 40 8 42",
      "22 26 38 28 20 23 9 78 4 36 9 68 10 1 2 25 7 10 6 53 1 18 8 39 9 96 1 20 11 18 1 44 65 7 1 1 1 4",
      "1 15 1 11 6 59 5 10 6 4 1 8 2 2 2 22 1 7 1 2 1 5 1 10 2 2 2 3 2 1 6 1 5 7 2 7 3 5 139 92 1 5 30",
      "72 8 10 166 54 2 38 34 69 11 10 6 13 19 58 6 10 54 27 2 15 4 23 185 60 100 83 12 8 2 1 2 8 1 2 1",
      "30 1 2 2 12 9 10 70 8 2 46 2 11 27 72 8 83 13 73 263 9 1 45 1 14 10 29 3 32 2 22 1 14 73 7 1 2 1",
      "44 3 1 1 2 1 9 8 10 6 6 1 2 1 37 1 2 1 6 7 10 310 25 183 1 15 50 13 923 102 111 1 5 11 196 2636",
      "99 13 1071 1 9 4039 583 8633 569 7 31 1 10 4 81 1 10 6 30 2 6 10 70 10 10 1 7 1 21 5 19 688 91",
      "101 75 4 57 7 17 19552 107 5 13 3 9 7 10 2 8 4700 46 2 23 9 116 60 246 10 39 2 194 21 70 154 20",
      "12 87 9 25 135 85 1 71 1 2 2 1 2 2 2 4 1 12 1 1 1 7 1 65 1 4 2 8 1 7 1 28 1 4 1 5 1 1 3 7 1 340",
      "2 292 2 702 15 5 1 15 1104 31 225 7 1 17 2 7 1 2 1 5 213 45 3 14 2 10 4 2 320 31 17 58 5 1 1248",
      "7 1 4 1 2 1 15 1 197 2 16 41 76 4 10 4 2 785 68 76 61 194 4 1 27 1 2 1 1 2 1 1 10 1 4 1 1 1 1 6",
      "1 4 1 1 1 1 1 1 3 1 2 1 1 2 1 1 1 1 1 1 1 1 1 1 2 1 1 2 4 1 7 1 4 1 4 1 1 1 10 1 17 5 3 1 5 1 17",
      "52 2 270 4 1 39 4 100 12 15 2 15 1 14 2 37 10 142 1 2 10 19 56 26 289 12 9 1 70 1 22 12 43 4 5",
      "12 17 3 1 3 71 1 1 1 187 2 63 13 4 1 24 18 1 26 2 13 1 86 85 48 70 6 1 3 3 2 11 11 5 4 12 116 12",
      "89 39 12 4 56 8 10 6 40 8 30 2 2 78 12 47 1 10 1 185 84 12 14 146 147 1 55 37 10 787463 1 30 96",
      "128 240 65040 65534 2 65534 2" ]

def combiningSet : CharSet := CharSet.ofSteps
    [ "768 79 1 32 275 5 265 45 1 1 1 2 1 2 1 1 72 11 48 21 16 1 101 7 2 6 2 2 1 4 35 1 30 27 160 9 9 1",
      "24 4 1 9 1 3 1 5 43 3 60 8 42 24 1 29 60 1 16 1 3 4 103 1 16 1 48 1 61 1 16 1 110 1 16 1 110 1",
      "16 1 127 1 110 1 16 1 7 2 101 1 16 1 109 2 16 1 124 1 109 3 13 4 108 3 13 4 76 2 27 1 1 1 1 1 55",
      "2 1 1 5 4 2 1 1 3 1 2 62 1 112 1 1 2 82 1 719 3 948 2 30 1 157 1 10 1 203 1 143 3 219 2 71 1 20",
      "8 2 1 48 14 1 16 101 1 15 1 38 9 54 2 58 1 11 2 67 1 152 3 1 13 1 7 4 1 6 1 3 2 198 64 720 13 4",
      "1 3 12 3070 3 141 1 96 32 554 6 105 2 30164 1 4 10 32 2 80 2 276 1 37 1 151 1 27 18 57 3 37 1 95",
      "1 12 1 239 1 1 3 2 2 5 2 1 1 52 1 246 1 20272 1 769 16 973 1 226 1 149 5 1682 1 1 1 40 3 4 1 165",
      "2 573 4 387 2 153 11 49 4 192 1 41 1 14 1 57 2 69 3 48 2 62 1 76 1 9 1 106 2 178 2 80 2 16 1 24",
      "7 3 5 205 1 3 1 23 1 99 2 251 2 126 1 118 2 115 1 269 2 258 2 4 1 156 1 83 1 18 1 81 1 421 1 258",
      "1 1 2 81 1 19800 5 59 7 1209 2 19628 1 5318 5 3 6 8 8 2 7 30 4 148 3 3515 7 1 17 2 7 1 2 1 5 261",
      "7 375 1 61 4 1504 7 109 7" ]

def charWidth (c : Char) : Int :=
  (if wideSet.contains c then 2 else 1) - (if combiningSet.contains c then 1 else 0)

def columnWidth (text : List Char) : Int := text.foldl (fun width c => width + charWidth c) 0

end MarkupLint.Text
