set_option autoImplicit false

namespace MarkupLint.Text

-- Rows of a plain form and the codes, or ranges of codes, of the characters that have it. A dash stands for
-- anything that is neither a letter nor a digit.
def plainRows : List String :=
  [ "- 160 168 175 180 184 728-733 890 894 900-901 7468 7470 7472-7473 7475-7482 7484 7486-7490",
    "- 8125 8127-8129 8141-8143 8157-8159 8173-8175 8189-8190 8192-8202 8215 8228 8239 8254 8287",
    "- 8314 8316-8318 8330 8332-8334 8450-8451 8457 8459-8461 8464-8466 8469 8473-8477 8484 8488",
    "- 8492-8493 8496-8497 8499 8517 8800 8814-8815 11389 12288 12443-12444 13186 13196 13238 13244",
    "- 13249 42994-42996 64297 64606-64611 65019 65040 65043-65046 65075-65080 65095-65104 65106",
    "- 65108-65111 65113-65116 65119-65126 65128-65131 65136 65138 65140 65142 65144 65146 65148",
    "- 65150 65281-65295 65306-65312 65339-65344 65371-65374 65507 119808-119833 119860-119885",
    "- 119912-119937 119964 119966-119967 119970 119973-119974 119977-119980 119982-119989",
    "- 120016-120041 120068-120069 120071-120074 120077-120084 120086-120092 120120-120121",
    "- 120123-120126 120128-120132 120134 120138-120144 120172-120197 120224-120249 120276-120301",
    "- 120328-120353 120380-120405 120432-120457 127274-127276 127280-127305",
    "-- 8229 8252 8263-8265 8480 8482 10869 12800-12830 12832-12867 13171 13178 13189-13191 13241",
    "-- 13247 13259 13261-13262 13271 13274 65072 127277-127278 127306-127309 127311 127338-127340",
    "-- 127376",
    "--- 8230 8481 8507 10868 10870 12880 13007 13273 65018 65049 127248-127273 127310",
    "--a 13227-13228",
    "--z 13202-13204",
    "-1- 9332",
    "-10- 9341",
    "-11- 9342",
    "-12- 9343",
    "-13- 9344",
    "-14- 9345",
    "-15- 9346",
    "-16- 9347",
    "-17- 9348",
    "-18- 9349",
    "-19- 9350",
    "-2- 9333",
    "-20- 9351",
    "-3- 9334",
    "-4- 9335",
    "-5- 9336",
    "-6- 9337",
    "-7- 9338",
    "-8- 9339",
    "-9- 9340",
    "-a 13225",
    "-a- 9372",
    "-b 13277",
    "-b- 9373",
    "-c- 9374",
    "-d- 9375",
    "-e- 9376",
    "-f- 9377",
    "-g 13004",
    "-g- 9378",
    "-h- 9379",
    "-i- 9380",
    "-j- 9381",
    "-k- 9382",
    "-kg 13254",
    "-l- 9383",
    "-m 13278-13279",
    "-m- 9384",
    "-n- 9385",
    "-o 8470",
    "-o- 9386 13255",
    "-p- 9387",
    "-q 13251",
    "-q- 9388",
    "-r- 9389",
    "-s 8360",
    "-s- 9390",
    "-t- 9391",
    "-u- 9392",
    "-v 13276",
    "-v- 9393",
    "-w- 9394",
    "-x- 9395",
    "-y 13257",
    "-y- 9396",
    "-z 13200",
    "-z- 9397",
    "0 8304 8320 9450 13144 65296 120782 120792 120802 120812 120822 130032",
    "0- 127232-127233",
    "03 8585",
    "1 185 8321 8543 9312 12992 13145 13280 65297 120783 120793 120803 120813 120823 130033",
    "1- 9352 127234",
    "10 9321 13001 13154 13289",
    "10- 9361",
    "11 9322 13002 13155 13290",
    "11- 9362",
    "110 8530",
    "12 189 9323 13003 13156 13291",
    "12- 9363",
    "13 8531 9324 13157 13292",
    "13- 9364",
    "14 188 9325 13158 13293",
    "14- 9365",
    "15 8533 9326 13159 13294",
    "15- 9366",
    "16 8537 9327 13160 13295",
    "16- 9367",
    "17 8528 9328 13161 13296",
    "17- 9368",
    "18 8539 9329 13162 13297",
    "18- 9369",
    "19 8529 9330 13163 13298",
    "19- 9370",
    "2 178 8322 9313 12993 13146 13281 65298 120784 120794 120804 120814 120824 130034",
    "2- 9353 127235",
    "20 9331 13164 13299",
    "20- 9371",
    "21 12881 13165 13300",
    "22 12882 13166 13301",
    "23 8532 12883 13167 13302",
    "24 12884 13168 13303",
    "25 8534 12885 13304",
    "26 12886 13305",
    "27 12887 13306",
    "28 12888 13307",
    "29 12889 13308",
    "3 179 8323 9314 12994 13147 13282 65299 120785 120795 120805 120815 120825 130035",
    "3- 9354 127236",
    "30 12890 13309",
    "31 12891 13310",
    "32 12892",
    "33 12893",
    "34 190 12894",
    "35 8535 12895",
    "36 12977",
    "37 12978",
    "38 8540 12979",
    "39 12980",
    "4 8308 8324 9315 12995 13148 13283 65300 120786 120796 120806 120816 120826 130036",
    "4- 9355 127237",
    "40 12981",
    "41 12982",
    "42 12983",
    "43 12984",
    "44 12985",
    "45 8536 12986",
    "46 12987",
    "47 12988",
    "48 12989",
    "49 12990",
    "5 8309 8325 9316 12996 13149 13284 65301 120787 120797 120807 120817 120827 130037",
    "5- 9356 127238",
    "50 12991",
    "56 8538",
    "58 8541",
    "6 8310 8326 9317 12997 13150 13285 65302 120788 120798 120808 120818 120828 130038",
    "6- 9357 127239",
    "7 8311 8327 9318 12998 13151 13286 65303 120789 120799 120809 120819 120829 130039",
    "7- 9358 127240",
    "78 8542",
    "8 8312 8328 9319 12999 13152 13287 65304 120790 120800 120810 120820 120830 130040",
    "8- 9359 127241",
    "9 8313 8329 9320 13000 13153 13288 65305 120791 120801 120811 120821 120831 130041",
    "9- 9360 127242",
    "a 170 224-229 257 259 261 462 479 481 507 513 515 551 7491 7681 7834 7841 7843 7845 7847 7849",
    "a 7851 7853 7855 7857 7859 7861 7863 8336 9424 65345 119834 119886 119938 119990 120042 120094",
    "a 120146 120198 120250 120302 120354 120406 120458",
    "a-c 8448",
    "a-m- 13250",
    "a-s 8449",
    "ae 230",
    "b 384 387 7495 7683 7685 7687 9425 65346 119835 119887 119939 119991 120043 120095 120147",
    "b 120199 120251 120303 120355 120407 120459",
    "bar 13172",
    "c 231 263 265 267 269 392 572 7580 7689 8573 9426 65347 119836 119888 119940 119992 120044",
    "c 120096 120148 120200 120252 120304 120356 120408 120460",
    "c-o 8453",
    "c-u 8454",
    "cal 13192",
    "cc 13252",
    "cd 13253",
    "cm 13213",
    "cm2 13216",
    "cm3 13220",
    "d 271 273 396 7496 7691 7693 7695 7697 7699 8518 8574 9427 65348 119837 119889 119941 119993",
    "d 120045 120097 120149 120201 120253 120305 120357 120409 120461",
    "d- 13256",
    "da 13170",
    "db 568",
    "dl 13207",
    "dm 13175",
    "dm2 13176",
    "dm3 13177",
    "dz 454 499",
    "e 232-235 275 277 279 281 283 517 519 553 583 7497 7701 7703 7705 7707 7709 7865 7867 7869",
    "e 7871 7873 7875 7877 7879 8337 8495 8519 9428 65349 119838 119890 119942 120046 120098 120150",
    "e 120202 120254 120306 120358 120410 120462",
    "e- 13006",
    "erg 13005",
    "f 402 7584 7711 9429 65350 119839 119891 119943 119995 120047 120099 120151 120203 120255",
    "f 120307 120359 120411 120463",
    "ff 64256",
    "ffi 64259",
    "ffl 64260",
    "fi 64257",
    "fl 64258",
    "fm 13209",
    "g 285 287 289 291 485 487 501 7501 7713 8458 9430 13197 65351 119840 119892 119944 120048",
    "g 120100 120152 120204 120256 120308 120360 120412 120464",
    "gal 13311",
    "h 293 295 543 688 7715 7717 7719 7721 7723 7830 8341 8462 9431 65352 119841 119945 119997",
    "h 120049 120101 120153 120205 120257 120309 120361 120413 120465",
    "h-a 13169",
    "ha 13258",
    "i 236-239 297 299 301 303 305 464 521 523 7522 7725 7727 7881 7883 8305 8505 8520 8560 9432",
    "i 65353 119842 119894 119946 119998 120050 120102 120154 120206 120258 120310 120362 120414",
    "i 120466",
    "ii 8561",
    "iii 8562",
    "ij 307",
    "in 13260",
    "iv 8563",
    "ix 8568",
    "j 309 496 567 585 690 8521 9433 11388 65354 119843 119895 119947 119999 120051 120103 120155",
    "j 120207 120259 120311 120363 120415 120467",
    "k 311 409 489 7503 7729 7731 7733 8342 9434 13248 65355 119844 119896 119948 120000 120052",
    "k 120104 120156 120208 120260 120312 120364 120416 120468",
    "k- 13188 13240 13246",
    "k-a 13226",
    "k-z 13201",
    "kcal 13193",
    "kg 13199",
    "kl 13208",
    "km 13214",
    "km2 13218",
    "km3 13222",
    "kt 13263",
    "l 314 316 318 320 322 410 564 737 7735 7737 7739 7741 8343 8467 8572 9435 13205 65356 119845",
    "l 119897 119949 120001 120053 120105 120157 120209 120261 120313 120365 120417 120469",
    "lj 457",
    "lm 13264",
    "ln 13265",
    "log 13266",
    "lx 13267",
    "m 7504 7743 7745 7747 8344 8575 9436 13211 65357 119846 119898 119950 120002 120054 120106",
    "m 120158 120210 120262 120314 120366 120418 120470",
    "m- 13187 13239 13245",
    "m2 13217",
    "m3 13221",
    "mb 13268",
    "mg 13198",
    "mil 13269",
    "ml 13206",
    "mm 13212",
    "mm2 13215",
    "mm3 13219",
    "mol 13270",
    "ms 13223 13235",
    "ms2 13224",
    "n 241 324 326 328-329 414 505 565 7749 7751 7753 7755 8319 8345 9437 65358 119847 119899",
    "n 119951 120003 120055 120107 120159 120211 120263 120315 120367 120419 120471",
    "n- 13185 13195 13237 13243",
    "nj 460",
    "nm 13210",
    "ns 13233",
    "o 186 242-246 248 333 335 337 417 466 491 493 525 527 555 557 559 561 7506 7757 7759 7761 7763",
    "o 7885 7887 7889 7891 7893 7895 7897 7899 7901 7903 7905 7907 8338 8500 9438 65359 119848",
    "o 119900 119952 120056 120108 120160 120212 120264 120316 120368 120420 120472",
    "o- 13173",
    "oe 339",
    "p 421 7510 7765 7767 8346 9439 65360 119849 119901 119953 120005 120057 120109 120161 120213",
    "p 120265 120317 120369 120421 120473",
    "p- 13184 13194 13236 13242",
    "p-m- 13272",
    "pc 13174",
    "ps 13232",
    "q 587 9440 65361 67493 119850 119902 119954 120006 120058 120110 120162 120214 120266 120318",
    "q 120370 120422 120474",
    "qp 569",
    "r 341 343 345 529 531 589 691 7523 7769 7771 7773 7775 9441 65362 119851 119903 119955 120007",
    "r 120059 120111 120163 120215 120267 120319 120371 120423 120475",
    "rad 13229",
    "rads 13230",
    "rads2 13231",
    "s 347 349 351 353 383 537 575 738 7777 7779 7781 7783 7785 7835 8347 9442 13234 65363 119852",
    "s 119904 119956 120008 120060 120112 120164 120216 120268 120320 120372 120424 120476",
    "sr 13275",
    "st 64261-64262",
    "sz 223",
    "t 355 357 359 427 429 539 566 7511 7787 7789 7791 7793 7831 8348 9443 65364 119853 119905",
    "t 119957 120009 120061 120113 120165 120217 120269 120321 120373 120425 120477",
    "u 249-252 361 363 365 367 369 371 432 468 470 472 474 476 533 535 7512 7524 7795 7797 7799",
    "u 7801 7803 7909 7911 7913 7915 7917 7919 7921 9444 65365 119854 119906 119958 120010 120062",
    "u 120114 120166 120218 120270 120322 120374 120426 120478",
    "v 7515 7525 7805 7807 8564 9445 65366 119855 119907 119959 120011 120063 120115 120167 120219",
    "v 120271 120323 120375 120427 120479",
    "vi 8565",
    "vii 8566",
    "viii 8567",
    "w 373 695 7809 7811 7813 7815 7817 7832 9446 65367 119856 119908 119960 120012 120064 120116",
    "w 120168 120220 120272 120324 120376 120428 120480",
    "x 739 7819 7821 8339 8569 9447 65368 119857 119909 119961 120013 120065 120117 120169 120221",
    "x 120273 120325 120377 120429 120481",
    "xi 8570",
    "xii 8571",
    "y 253 255 375 436 563 591 696 7823 7833 7923 7925 7927 7929 9448 65369 119858 119910 119962",
    "y 120014 120066 120118 120170 120222 120274 120326 120378 120430 120482",
    "z 378 380 382 438 549 576 7611 7825 7827 7829 9449 65370 119859 119911 119963 120015 120067",
    "z 120119 120171 120223 120275 120327 120379 120431 120483" ]

structure PlainRange where
  first : Nat
  last : Nat
  form : List Char
deriving Repr

def plainRange? (form : List Char) (word : String) : Option PlainRange :=
  match word.splitOn "-" with
  | [code] => code.toNat?.map fun n => ⟨n, n, form⟩
  | [first, last] => do pure ⟨← first.toNat?, ← last.toNat?, form⟩
  | _ => none

def plainRanges : List PlainRange :=
  plainRows.flatMap fun row =>
    match row.splitOn " " with
    | form :: words => words.filterMap (plainRange? form.toList)
    | [] => []

def plainForm (c : Char) : List Char :=
  if c.toNat < 128 then [c]
  else
    match plainRanges.find? fun range => range.first ≤ c.toNat && c.toNat ≤ range.last with
    | some range => range.form
    | none => []

end MarkupLint.Text
