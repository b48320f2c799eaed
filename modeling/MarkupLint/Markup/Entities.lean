import MarkupLint.Markup.Name
import MarkupLint.Text.Search

set_option autoImplicit false

namespace MarkupLint.Markup

def entityRows : List (String × List String) :=
  [
    ("isobox",
      [ "boxDL 2557 boxDl 2556 boxdL 2555 boxdl 2510 boxDR 2554 boxDr 2553 boxdR 2552 boxdr 250c",
        "boxH 2550 boxh 2500 boxHD 2566 boxHd 2564 boxhD 2565 boxhd 252c boxHU 2569 boxHu 2567",
        "boxhU 2568 boxhu 2534 boxUL 255d boxUl 255c boxuL 255b boxul 2518 boxUR 255a boxUr 2559",
        "boxuR 2558 boxur 2514 boxV 2551 boxv 2502 boxVH 256c boxVh 256b boxvH 256a boxvh 253c",
        "boxVL 2563 boxVl 2562 boxvL 2561 boxvl 2524 boxVR 2560 boxVr 255f boxvR 255e boxvr 251c" ]),
    ("isocyr1",
      [ "Acy 410 acy 430 Bcy 411 bcy 431 CHcy 427 chcy 447 Dcy 414 dcy 434 Ecy 42d ecy 44d Fcy 424",
        "fcy 444 Gcy 413 gcy 433 HARDcy 42a hardcy 44a Icy 418 icy 438 IEcy 415 iecy 435 IOcy 401",
        "iocy 451 Jcy 419 jcy 439 Kcy 41a kcy 43a KHcy 425 khcy 445 Lcy 41b lcy 43b Mcy 41c mcy 43c",
        "Ncy 41d ncy 43d numero 2116 Ocy 41e ocy 43e Pcy 41f pcy 43f Rcy 420 rcy 440 Scy 421 scy",
        "441 SHCHcy 429 shchcy 449 SHcy 428 shcy 448 SOFTcy 42c softcy 44c Tcy 422 tcy 442 TScy 426",
        "tscy 446 Ucy 423 ucy 443 Vcy 412 vcy 432 YAcy 42f yacy 44f Ycy 42b ycy 44b YUcy 42e yucy",
        "44e Zcy 417 zcy 437 ZHcy 416 zhcy 436" ]),
    ("isocyr2",
      [ "DJcy 402 djcy 452 DScy 405 dscy 455 DZcy 40f dzcy 45f GJcy 403 gjcy 453 Iukcy 406 iukcy",
        "456 Jsercy 408 jsercy 458 Jukcy 404 jukcy 454 KJcy 40c kjcy 45c LJcy 409 ljcy 459 NJcy 40a",
        "njcy 45a TSHcy 40b tshcy 45b Ubrcy 40e ubrcy 45e YIcy 407 yicy 457" ]),
    ("isodia",
      [ "acute b4 breve 2d8 caron 2c7 cedil b8 circ 2c6 dblac 2dd die a8 dot 2d9 grave 60 macr af",
        "ogon 2db ring 2da tilde 2dc uml a8" ]),
    ("isogrk1",
      [ "Agr 391 agr 3b1 Bgr 392 bgr 3b2 Dgr 394 dgr 3b4 EEgr 397 eegr 3b7 Egr 395 egr 3b5 Ggr 393",
        "ggr 3b3 Igr 399 igr 3b9 Kgr 39a kgr 3ba KHgr 3a7 khgr 3c7 Lgr 39b lgr 3bb Mgr 39c mgr 3bc",
        "Ngr 39d ngr 3bd Ogr 39f ogr 3bf OHgr 3a9 ohgr 3c9 Pgr 3a0 pgr 3c0 PHgr 3a6 phgr 3c6 PSgr",
        "3a8 psgr 3c8 Rgr 3a1 rgr 3c1 sfgr 3c2 Sgr 3a3 sgr 3c3 Tgr 3a4 tgr 3c4 THgr 398 thgr 3b8",
        "Ugr 3a5 ugr 3c5 Xgr 39e xgr 3be Zgr 396 zgr 3b6" ]),
    ("isogrk2",
      [ "Aacgr 386 aacgr 3ac Eacgr 388 eacgr 3ad EEacgr 389 eeacgr 3ae Iacgr 38a iacgr 3af idiagr",
        "390 Idigr 3aa idigr 3ca Oacgr 38c oacgr 3cc OHacgr 38f ohacgr 3ce Uacgr 38e uacgr 3cd",
        "udiagr 3b0 Udigr 3ab udigr 3cb" ]),
    ("isogrk3",
      [ "alpha 3b1 beta 3b2 chi 3c7 Delta 394 delta 3b4 epsi 3b5 epsis 3f5 epsiv 3f5 eta 3b7 Gamma",
        "393 gamma 3b3 Gammad 3dc gammad 3dd iota 3b9 kappa 3ba kappav 3f0 Lambda 39b lambda 3bb mu",
        "3bc nu 3bd Omega 3a9 omega 3c9 Phi 3a6 phi 3c6 phis 3d5 phiv 3d5 Pi 3a0 pi 3c0 piv 3d6 Psi",
        "3a8 psi 3c8 rho 3c1 rhov 3f1 Sigma 3a3 sigma 3c3 sigmav 3c2 tau 3c4 Theta 398 theta 3b8",
        "thetas 3b8 thetav 3d1 Upsi 3d2 upsi 3c5 Xi 39e xi 3be zeta 3b6" ]),
    ("isogrk4",
      [ "b.Gammad 3dc b.gammad 3dd" ]),
    ("isogrk4-wide",
      [ "b.alpha 3b1 b.beta 3b2 b.chi 3c7 b.Delta 394 b.delta 3b4 b.epsi 3b5 b.epsiv 3f5 b.eta 3b7",
        "b.Gamma 393 b.gamma 3b3 b.Gammad 3dc b.gammad 3dd b.iota 3b9 b.kappa 3ba b.kappav 3f0",
        "b.Lambda 39b b.lambda 3bb b.mu 3bc b.nu 3bd b.Omega 3a9 b.omega 3c9 b.Phi 3a6 b.phi 3c6",
        "b.phiv 3d5 b.Pi 3a0 b.pi 3c0 b.piv 3d6 b.Psi 3a8 b.psi 3c8 b.rho 3c1 b.rhov 3f1 b.Sigma",
        "3a3 b.sigma 3c3 b.sigmav 3c2 b.tau 3c4 b.Theta 398 b.theta 3b8 b.thetav 3d1 b.Upsi 3d2",
        "b.upsi 3c5 b.Xi 39e b.xi 3be b.zeta 3b6" ]),
    ("isolat1",
      [ "Aacute c1 aacute e1 Acirc c2 acirc e2 AElig c6 aelig e6 Agrave c0 agrave e0 Aring c5 aring",
        "e5 Atilde c3 atilde e3 Auml c4 auml e4 Ccedil c7 ccedil e7 Eacute c9 eacute e9 Ecirc ca",
        "ecirc ea Egrave c8 egrave e8 ETH d0 eth f0 Euml cb euml eb Iacute cd iacute ed Icirc ce",
        "icirc ee Igrave cc igrave ec Iuml cf iuml ef Ntilde d1 ntilde f1 Oacute d3 oacute f3 Ocirc",
        "d4 ocirc f4 Ograve d2 ograve f2 Oslash d8 oslash f8 Otilde d5 otilde f5 Ouml d6 ouml f6",
        "szlig df THORN de thorn fe Uacute da uacute fa Ucirc db ucirc fb Ugrave d9 ugrave f9 Uuml",
        "dc uuml fc Yacute dd yacute fd yuml ff" ]),
    ("isolat2",
      [ "Abreve 102 abreve 103 Amacr 100 amacr 101 Aogon 104 aogon 105 Cacute 106 cacute 107 Ccaron",
        "10c ccaron 10d Ccirc 108 ccirc 109 Cdot 10a cdot 10b Dcaron 10e dcaron 10f Dstrok 110",
        "dstrok 111 Ecaron 11a ecaron 11b Edot 116 edot 117 Emacr 112 emacr 113 ENG 14a eng 14b",
        "Eogon 118 eogon 119 gacute 1f5 Gbreve 11e gbreve 11f Gcedil 122 Gcirc 11c gcirc 11d Gdot",
        "120 gdot 121 Hcirc 124 hcirc 125 Hstrok 126 hstrok 127 Idot 130 IJlig 132 ijlig 133 Imacr",
        "12a imacr 12b inodot 131 Iogon 12e iogon 12f Itilde 128 itilde 129 Jcirc 134 jcirc 135",
        "Kcedil 136 kcedil 137 kgreen 138 Lacute 139 lacute 13a Lcaron 13d lcaron 13e Lcedil 13b",
        "lcedil 13c Lmidot 13f lmidot 140 Lstrok 141 lstrok 142 Nacute 143 nacute 144 napos 149",
        "Ncaron 147 ncaron 148 Ncedil 145 ncedil 146 Odblac 150 odblac 151 OElig 152 oelig 153",
        "Omacr 14c omacr 14d Racute 154 racute 155 Rcaron 158 rcaron 159 Rcedil 156 rcedil 157",
        "Sacute 15a sacute 15b Scaron 160 scaron 161 Scedil 15e scedil 15f Scirc 15c scirc 15d",
        "Tcaron 164 tcaron 165 Tcedil 162 tcedil 163 Tstrok 166 tstrok 167 Ubreve 16c ubreve 16d",
        "Udblac 170 udblac 171 Umacr 16a umacr 16b Uogon 172 uogon 173 Uring 16e uring 16f Utilde",
        "168 utilde 169 Wcirc 174 wcirc 175 Ycirc 176 ycirc 177 Yuml 178 Zacute 179 zacute 17a",
        "Zcaron 17d zcaron 17e Zdot 17b zdot 17c" ]),
    ("isomfrk",
      [ "Cfr 212d Hfr 210c Ifr 2111 Rfr 211c Zfr 2128" ]),
    ("isomfrk-wide",
      [ "Afr 1d504 Bfr 1d505 Cfr 212d Dfr 1d507 Efr 1d508 Ffr 1d509 Gfr 1d50a Hfr 210c Ifr 2111 Jfr",
        "1d50d Kfr 1d50e Lfr 1d50f Mfr 1d510 Nfr 1d511 Ofr 1d512 Pfr 1d513 Qfr 1d514 Rfr 211c Sfr",
        "1d516 Tfr 1d517 Ufr 1d518 Vfr 1d519 Wfr 1d51a Xfr 1d51b Yfr 1d51c Zfr 2128 afr 1d51e bfr",
        "1d51f cfr 1d520 dfr 1d521 efr 1d522 ffr 1d523 gfr 1d524 hfr 1d525 ifr 1d526 jfr 1d527 kfr",
        "1d528 lfr 1d529 mfr 1d52a nfr 1d52b ofr 1d52c pfr 1d52d qfr 1d52e rfr 1d52f sfr 1d530 tfr",
        "1d531 ufr 1d532 vfr 1d533 wfr 1d534 xfr 1d535 yfr 1d536 zfr 1d537" ]),
    ("isomopf",
      [ "Copf 2102 Hopf 210d Nopf 2115 Popf 2119 Qopf 211a Ropf 211d Zopf 2124" ]),
    ("isomopf-wide",
      [ "Aopf 1d538 Bopf 1d539 Copf 2102 Dopf 1d53b Eopf 1d53c Fopf 1d53d Gopf 1d53e Hopf 210d Iopf",
        "1d540 Jopf 1d541 Kopf 1d542 Lopf 1d543 Mopf 1d544 Nopf 2115 Oopf 1d546 Popf 2119 Qopf 211a",
        "Ropf 211d Sopf 1d54a Topf 1d54b Uopf 1d54c Vopf 1d54d Wopf 1d54e Xopf 1d54f Yopf 1d550",
        "Zopf 2124" ]),
    ("isomscr",
      [ "Bscr 212c Escr 2130 Fscr 2131 Hscr 210b Iscr 2110 Lscr 2112 Mscr 2133 Rscr 211b escr 212f",
        "gscr 210a oscr 2134" ]),
    ("isomscr-wide",
      [ "Ascr 1d49c Bscr 212c Cscr 1d49e Dscr 1d49f Escr 2130 Fscr 2131 Gscr 1d4a2 Hscr 210b Iscr",
        "2110 Jscr 1d4a5 Kscr 1d4a6 Lscr 2112 Mscr 2133 Nscr 1d4a9 Oscr 1d4aa Pscr 1d4ab Qscr 1d4ac",
        "Rscr 211b Sscr 1d4ae Tscr 1d4af Uscr 1d4b0 Vscr 1d4b1 Wscr 1d4b2 Xscr 1d4b3 Yscr 1d4b4",
        "Zscr 1d4b5 ascr 1d4b6 bscr 1d4b7 cscr 1d4b8 dscr 1d4b9 escr 212f fscr 1d4bb gscr 210a hscr",
        "1d4bd iscr 1d4be jscr 1d4bf kscr 1d4c0 lscr 1d4c1 mscr 1d4c2 nscr 1d4c3 oscr 2134 pscr",
        "1d4c5 qscr 1d4c6 rscr 1d4c7 sscr 1d4c8 tscr 1d4c9 uscr 1d4ca vscr 1d4cb wscr 1d4cc xscr",
        "1d4cd yscr 1d4ce zscr 1d4cf" ]),
    ("isonum",
      [ "amp 26 apos 27 ast 2a brvbar a6 bsol 5c cent a2 colon 3a comma 2c commat 40 copy a9 curren",
        "a4 darr 2193 deg b0 divide f7 dollar 24 equals 3d excl 21 frac12 bd frac14 bc frac18 215b",
        "frac34 be frac38 215c frac58 215d frac78 215e gt 3e half bd horbar 2015 hyphen 2010 iexcl",
        "a1 iquest bf laquo ab larr 2190 lcub 7b ldquo 201c lowbar 5f lpar 28 lsqb 5b lsquo 2018 lt",
        "3c micro b5 middot b7 nbsp a0 not ac num 23 ohm 3a9 ordf aa ordm ba para b6 percnt 25",
        "period 2e plus 2b plusmn b1 pound a3 quest 3f quot 22 raquo bb rarr 2192 rcub 7d rdquo",
        "201d reg ae rpar 29 rsqb 5d rsquo 2019 sect a7 semi 3b shy ad sol 2f sung 266a sup1 b9",
        "sup2 b2 sup3 b3 times d7 trade 2122 uarr 2191 verbar 7c yen a5" ]),
    ("isopub",
      [ "blank 2423 blk12 2592 blk14 2591 blk34 2593 block 2588 bull 2022 caret 2041 check 2713 cir",
        "25cb clubs 2663 copysr 2117 cross 2717 Dagger 2021 dagger 2020 dash 2010 diams 2666 dlcrop",
        "230d drcrop 230c dtri 25bf dtrif 25be emsp 2003 emsp13 2004 emsp14 2005 ensp 2002 female",
        "2640 ffilig fb03 fflig fb00 ffllig fb04 filig fb01 flat 266d fllig fb02 frac13 2153 frac15",
        "2155 frac16 2159 frac23 2154 frac25 2156 frac35 2157 frac45 2158 frac56 215a hairsp 200a",
        "hearts 2665 hellip 2026 hybull 2043 incare 2105 ldquor 201e lhblk 2584 loz 25ca lozf 29eb",
        "lsquor 201a ltri 25c3 ltrif 25c2 male 2642 malt 2720 marker 25ae mdash 2014 mldr 2026",
        "natur 266e ndash 2013 nldr 2025 numsp 2007 phone 260e puncsp 2008 rdquor 201d rect 25ad",
        "rsquor 2019 rtri 25b9 rtrif 25b8 rx 211e sext 2736 sharp 266f spades 2660 squ 25a1 squf",
        "25aa star 2606 starf 2605 target 2316 telrec 2315 thinsp 2009 uhblk 2580 ulcrop 230f",
        "urcrop 230e utri 25b5 utrif 25b4 vellip 22ee" ]),
    ("isotech",
      [ "acd 223f aleph 2135 And 2a53 and 2227 andand 2a55 angrt 221f angsph 2222 angst c5 ap 2248",
        "apacir 2a6f awconint 2233 awint 2a11 becaus 2235 bernou 212c bne 3d bnequiv 2261 bNot 2aed",
        "bnot 2310 bottom 22a5 cap 2229 Cconint 2230 cirfnint 2a10 compfn 2218 cong 2245 Conint",
        "222f conint 222e ctdot 22ef cup 222a cwconint 2232 cwint 2231 cylcty 232d disin 22f2 Dot",
        "a8 DotDot 20dc dsol 29f6 dtdot 22f1 dwangle 29a6 elinters 23e7 epar 22d5 eparsl 29e3 equiv",
        "2261 eqvparsl 29e5 exist 2203 fltns 25b1 fnof 192 forall 2200 fpartint 2a0d ge 2265 hamilt",
        "210b iff 21d4 iinfin 29dc imped 1b5 infin 221e infintie 29dd Int 222c int 222b intlarhk",
        "2a17 isin 2208 isindot 22f5 isinE 22f9 isins 22f4 isinsv 22f3 isinv 2208 lagran 2112 Lang",
        "27ea lang 27e8 lArr 21d0 lbbrk 2772 le 2264 loang 27ec lobrk 27e6 lopar 2985 lowast 2217",
        "minus 2212 mnplus 2213 nabla 2207 ne 2260 nedot 2250 nhpar 2af2 ni 220b nis 22fc nisd 22fa",
        "niv 220b Not 2aec notin 2209 notindot 22f5 notinE 22f9 notinva 2209 notinvb 22f7 notinvc",
        "22f6 notni 220c notniva 220c notnivb 22fe notnivc 22fd npolint 2a14 nvinfin 29de olcross",
        "29bb Or 2a54 or 2228 ord 2a5d order 2134 oror 2a56 orslope 2a57 orv 2a5b par 2225 parsl",
        "2afd part 2202 permil 2030 perp 22a5 pertenk 2031 phmmat 2133 pointint 2a15 Prime 2033",
        "prime 2032 profalar 232e profline 2312 profsurf 2313 prop 221d qint 2a0c qprime 2057",
        "quatint 2a16 radic 221a Rang 27eb rang 27e9 rArr 21d2 rbbrk 2773 roang 27ed robrk 27e7",
        "ropar 2986 rppolint 2a12 scpolint 2a13 sim 223c simdot 2a6a sime 2243 smeparsl 29e4 square",
        "25a1 squarf 25aa sub 2282 sube 2286 sup 2283 supe 2287 tdot 20db there4 2234 tint 222d top",
        "22a4 topbot 2336 topcir 2af1 tprime 2034 utdot 22f0 uwangle 29a7 vangrt 299c veeeq 225a",
        "Verbar 2016 wedgeq 2259 xnis 22fb" ]),
    ("xhtml1-lat1",
      [ "AElig c6 Aacute c1 Acirc c2 Agrave c0 Aring c5 Atilde c3 Auml c4 Ccedil c7 ETH d0 Eacute",
        "c9 Ecirc ca Egrave c8 Euml cb Iacute cd Icirc ce Igrave cc Iuml cf Ntilde d1 Oacute d3",
        "Ocirc d4 Ograve d2 Oslash d8 Otilde d5 Ouml d6 THORN de Uacute da Ucirc db Ugrave d9 Uuml",
        "dc Yacute dd aacute e1 acirc e2 acute b4 aelig e6 agrave e0 aring e5 atilde e3 auml e4",
        "brvbar a6 ccedil e7 cedil b8 cent a2 copy a9 curren a4 deg b0 divide f7 eacute e9 ecirc ea",
        "egrave e8 eth f0 euml eb frac12 bd frac14 bc frac34 be iacute ed icirc ee iexcl a1 igrave",
        "ec iquest bf iuml ef laquo ab macr af micro b5 middot b7 nbsp a0 not ac ntilde f1 oacute",
        "f3 ocirc f4 ograve f2 ordf aa ordm ba oslash f8 otilde f5 ouml f6 para b6 plusmn b1 pound",
        "a3 raquo bb reg ae sect a7 shy ad sup1 b9 sup2 b2 sup3 b3 szlig df thorn fe times d7",
        "uacute fa ucirc fb ugrave f9 uml a8 uuml fc yacute fd yen a5 yuml ff" ]),
    ("xhtml1-special",
      [ "bdquo 201e circ 2c6 Dagger 2021 dagger 2020 emsp 2003 ensp 2002 euro 20ac gt 3e ldquo 201c",
        "lrm 200e lsaquo 2039 lsquo 2018 lt 3c mdash 2014 ndash 2013 OElig 152 oelig 153 permil",
        "2030 quot 22 rdquo 201d rlm 200f rsaquo 203a rsquo 2019 sbquo 201a Scaron 160 scaron 161",
        "thinsp 2009 tilde 2dc Yuml 178 zwj 200d zwnj 200c amp 26 apos 27" ]),
    ("xhtml1-symbol",
      [ "alefsym 2135 alpha 3b1 Alpha 391 and 2227 ang 2220 asymp 2248 beta 3b2 Beta 392 bull 2022",
        "cap 2229 chi 3c7 Chi 3a7 clubs 2663 cong 2245 crarr 21b5 cup 222a darr 2193 dArr 21d3",
        "delta 3b4 Delta 394 diams 2666 empty 2205 epsilon 3b5 Epsilon 395 equiv 2261 eta 3b7 Eta",
        "397 exist 2203 fnof 192 forall 2200 frasl 2044 gamma 3b3 Gamma 393 ge 2265 harr 2194 hArr",
        "21d4 hearts 2665 hellip 2026 image 2111 infin 221e int 222b iota 3b9 Iota 399 isin 2208",
        "kappa 3ba Kappa 39a lambda 3bb Lambda 39b lang 27e8 larr 2190 lArr 21d0 lceil 2308 le 2264",
        "lfloor 230a lowast 2217 loz 25ca minus 2212 mu 3bc Mu 39c nabla 2207 ne 2260 ni 220b notin",
        "2209 nsub 2284 nu 3bd Nu 39d oline 203e omega 3c9 Omega 3a9 omicron 3bf Omicron 39f oplus",
        "2295 or 2228 otimes 2297 part 2202 perp 22a5 phi 3c6 Phi 3a6 pi 3c0 Pi 3a0 piv 3d6 prime",
        "2032 Prime 2033 prod 220f prop 221d psi 3c8 Psi 3a8 radic 221a rang 27e9 rarr 2192 rArr",
        "21d2 rceil 2309 real 211c rfloor 230b rho 3c1 Rho 3a1 sdot 22c5 sigma 3c3 Sigma 3a3 sigmaf",
        "3c2 sim 223c spades 2660 sub 2282 sube 2286 sum 2211 sup 2283 supe 2287 tau 3c4 Tau 3a4",
        "there4 2234 theta 3b8 Theta 398 thetasym 3d1 trade 2122 uarr 2191 uArr 21d1 upsih 3d2",
        "upsilon 3c5 Upsilon 3a5 weierp 2118 xi 3be Xi 39e zeta 3b6 Zeta 396" ]) ]

-- Sets that can be included and hold nothing that is known here.
def furtherSets : List String :=
  [ "isoamsa", "isoamsb", "isoamsc", "isoamsn", "isoamso", "isoamsr", "mmlalias", "mmlextra",
    "mmlextra-wide", "README" ]

def slideRoles : List String :=
  [ "huge", "big", "small", "tiny", "maroon", "red", "magenta", "fuchsia", "pink", "orange", "yellow",
    "lime", "green", "olive", "teal", "cyan", "aqua", "blue", "navy", "purple", "black", "gray", "silver",
    "white", "incremental" ]

def entityLines : List (List Char) → List String
  | name :: code :: rest =>
      (".. |" ++ String.ofList name ++ "| unicode:: U+" ++ String.ofList code) :: entityLines rest
  | _ => []

def withBreaks (lines : List String) : String := String.join (lines.map (· ++ "\n"))

def standardFile? (name : String) : Option String :=
  match Text.dropStart? ".txt".toList.reverse name.toList.reverse with
  | none => none
  | some reversed =>
      let stem := String.ofList reversed.reverse
      match entityRows.lookup stem with
      | some rows => some (withBreaks (entityLines (rows.flatMap fun row => words row.toList)))
      | none =>
          if stem = "s5defs" then some (withBreaks (slideRoles.map (".. role:: " ++ ·)))
          else if furtherSets.contains stem then some ""
          else none

def standardDirectory : String := "usr/share/entities"

end MarkupLint.Markup
