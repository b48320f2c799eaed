import MarkupLint.Text.Letter

set_option autoImplicit false

namespace MarkupLint.Text

def ofCodes (rows : List String) : List Char :=
  rows.flatMap fun row => (row.splitOn " ").map fun code => Char.ofNat (hexValue code.toList)

-- Marks that open a bracket or a quotation. A mark of quotation may open in one language and close in
-- another.
def openers : List Char := ofCodes
    [ "22 27 28 3c 5b 7b f3a f3c 169b 2045 207d 208d 2329 2768 276a 276c 276e 2770 2772 2774 27c5 27e6",
      "27e8 27ea 27ec 27ee 2983 2985 2987 2989 298b 298d 298f 2991 2993 2995 2997 29d8 29da 29fc 2e22",
      "2e24 2e26 2e28 3008 300a 300c 300e 3010 3014 3016 3018 301a 301d 301d fd3e fe17 fe35 fe37 fe39",
      "fe3b fe3d fe3f fe41 fe43 fe47 fe59 fe5b fe5d ff08 ff3b ff5b ff5f ff62 ab 2018 201c 2039 2e02",
      "2e04 2e09 2e0c 2e1c 2e20 201a 201e bb 2019 201d 203a 2e03 2e05 2e0a 2e0d 2e1d 2e21 201b 201f" ]

-- The marks that close, each at the place of the one that opens.
def closers : List Char := ofCodes
    [ "22 27 29 3e 5d 7d f3b f3d 169c 2046 207e 208e 232a 2769 276b 276d 276f 2771 2773 2775 27c6 27e7",
      "27e9 27eb 27ed 27ef 2984 2986 2988 298a 298c 298e 2990 2992 2994 2996 2998 29d9 29db 29fd 2e23",
      "2e25 2e27 2e29 3009 300b 300d 300f 3011 3015 3017 3019 301b 301e 301f fd3f fe18 fe36 fe38 fe3a",
      "fe3c fe3e fe40 fe42 fe44 fe48 fe5a fe5c fe5e ff09 ff3d ff5d ff60 ff63 bb 2019 201d 203a 2e03",
      "2e05 2e0a 2e0d 2e1d 2e21 201b 201f ab 2018 201c 2039 2e02 2e04 2e09 2e0c 2e1c 2e20 201a 201e" ]

def delimiterSet : CharSet := CharSet.ofSteps
    [ "45 1 1 1 10 1 102 1 21 1 7 1 702 1 8 1 466 6 41 2 51 1 1 1 2 1 2 1 44 2 20 2 1 2 13 1 2 2 74 4",
      "102 1 43 14 233 3 54 15 293 2 10 1 1155 1 90 1 10 2 168 15 114 1 74 5 117 6 171 1 613 8 151 1 620",
      "2 124 3 71 2 157 3 1 3 37 11 313 2 152 2 62 2 128 7 1 6 172 7 218 5 62 2 83 1 828 8 8 8 8 9 2 4 2",
      "3 3 11 1 1 1 10 3226 4 1 2 256 2 4 3 2 1 2 14 2 2 10 5 1 2 463 3 24 1 19 1 12 1 98 1 90 1 29698 2",
      "269 3 99 1 10 1 115 6 380 4 86 2 40 3 51 2 47 1 97 13 16 2 124 4 126 2 267 1 21028 7 2 1 22 3 18",
      "2 2 4 3 3 1 5 6 3 1 1 4 1 1 2 149 3 1 3 2 1 1 4 10 2 3 2 27 1 36 1 2 2 410 2 669 1 48 1 1158 1",
      "199 1 31 1 272 9 38 1 185 7 1403 2 1 4 5038 4" ]

def isOpener (c : Char) : Bool := openers.contains c

def isCloser (c : Char) : Bool := closers.contains c

def isDelimiter (c : Char) : Bool := delimiterSet.contains c

def isClosingDelimiter (c : Char) : Bool :=
  c = '\\' || c = '.' || c = ',' || c = ';' || c = '!' || c = '?'

def quotationPairs : List (Char × List Char) :=
  [ ('»', ['»']), ('‘', ['‚']), ('’', ['’']), ('‚', ['‘', '’']), ('“', ['„']), ('„', ['“', '”']),
    ('”', ['”']), ('›', ['›']), ('〝', ['〟']) ]

def closes (opener closer : Char) : Bool :=
  match openers.findIdx? (· = opener) with
  | none => false
  | some place => closers[place]? = some closer
      || ((quotationPairs.lookup opener).map (·.contains closer)).getD false

end MarkupLint.Text
