import MarkupLint.Text.Allotment
import MarkupLint.Text.Lines

set_option autoImplicit false

namespace MarkupLint

structure CodePage where
  names : List String
  -- The codes of the characters that the bytes stand for. The first one for a byte counts.
  codes : List Text.Allotment
deriving DecidableEq, Repr

namespace CodePage

def char? (page : CodePage) (byte : UInt8) : Option Char :=
  (Text.Allotment.find? page.codes byte.toNat).bind fun entry =>
    entry.parts.head?.map fun code => Char.ofNat (code + (byte.toNat - entry.first))

def variant (page : CodePage) (names rows : List String) : CodePage :=
  ⟨names, Text.Allotment.ofRows rows ++ page.codes⟩

def latin1 : CodePage := ⟨[], [⟨0, 255, [0]⟩]⟩

def cp037 : CodePage := latin1.variant
    ["cp037", "037", "csibm037", "ebcdic_cp_ca", "ebcdic_cp_nl", "ebcdic_cp_us", "ebcdic_cp_wt", "ibm037",
      "ibm039"]
    [ "4=9c,9,86,7f,97,8d,8e 14=9d,85,8,87 1a=92,8f 20-24=80 25=a,17,1b 28-2c=88 2d-2f=5 30=90,91,16 33-36=93 37=4",
      "38-3b=98 3c=14,15,9e,1a,20,a0,e2,e4,e0,e1,e3,e5,e7,f1,a2,2e,3c,28,2b,7c,26 51-53=e9 54=e8 55-57=ed 58=ec,df",
      "5a=21,24,2a,29,3b,ac,2d,2f,c2,c4,c0,c1,c3,c5,c7,d1,a6,2c,25,5f,3e,3f,f8 71-73=c9 74=c8 75-77=cd 78=cc,60,3a",
      "7b=23,40,27,3d,22,d8 81-89=61 8a=ab,bb,f0,fd,fe,b1,b0 91-99=6a 9a=aa,ba,e6,b8,c6,a4,b5,7e a2-a9=73 aa=a1,bf",
      "ac=d0,dd,de,ae,5e,a3,a5,b7,a9,a7 b7-b9=bc ba=5b,5d,af,a8,b4,d7,7b c1-c9=41 ca=ad,f4,f6,f2,f3,f5,7d d1-d9=4a",
      "da=b9,fb,fc,f9,fa,ff,5c,f7 e2-e9=53 ea=b2,d4,d6,d2,d3,d5 f0-f9=30 fa=b3,db,dc,d9,da,9f" ]

def cp1006 : CodePage := latin1.variant
    ["cp1006"]
    [ "a1-aa=6f0 ab=60c,61b ae=61f,fe81,fe8d,fe8e,fe8e,fe8f,fe91,fb56,fb58,fe93,fe95,fe97,fb66,fb68,fe99,fe9b,fe9d",
      "bf=fe9f,fb7a,fb7c,fea1,fea3,fea5,fea7,fea9,fb84,feab,fead,fb8c,feaf,fb8a,feb1,feb3,feb5,feb7,feb9,febb,febd",
      "d4=febf,fec1,fec5 d7-df=fec9 e0=fed3,fed5,fed7,fed9,fedb,fb92,fb94,fedd e8-ea=fedf eb=fee3,fb9e,fee5,fee7",
      "ef=fe85,feed,fba6 f2-f4=fba8 f5=fe80 f6-f8=fe89 f9-fb=fef1 fc=fbb0,fbae,fe7c,fe7d" ]

def cp500 : CodePage := cp037.variant
    ["cp500", "500", "csibm500", "ebcdic_cp_be", "ebcdic_cp_ch", "ibm500"]
    ["4a=5b 4f=21 5a=5d 5f=5e b0=a2 ba=ac,7c"]

def cp1026 : CodePage := cp500.variant
    ["cp1026", "1026", "csibm1026", "ibm1026"]
    [ "48=7b 4a=c7 5a=11e,130 68=5b 6a=15f 79=131 7b=d6,15e 7f=dc 8c=7d,60,a6 a1=f6 ac=5d,24,40 c0=e7 cc=7e d0=11f",
      "dc=5c e0=fc ec=23 fc=22" ]

def cp437 : CodePage := latin1.variant
    ["cp437", "437", "cspc8codepage437", "ibm437"]
    [ "80=c7,fc,e9,e2,e4,e0,e5,e7,ea,eb,e8,ef,ee,ec,c4,c5,c9,e6,c6,f4,f6,f2,fb,f9,ff,d6,dc,a2,a3,a5,20a7,192,e1,ed",
      "a2=f3,fa,f1,d1,aa,ba,bf,2310,ac,bd,bc,a1,ab,bb b0-b2=2591 b3=2502,2524,2561,2562,2556,2555,2563,2551,2557",
      "bc=255d,255c,255b,2510,2514,2534,252c,251c,2500,253c,255e,255f,255a,2554,2569,2566,2560,2550,256c,2567,2568",
      "d1=2564,2565,2559,2558,2552,2553,256b,256a,2518,250c,2588,2584,258c,2590,2580,3b1,df,393,3c0,3a3,3c3,b5,3c4",
      "e8=3a6,398,3a9,3b4,221e,3c6,3b5,2229,2261,b1,2265,2264,2320,2321,f7,2248,b0,2219,b7,221a,207f,b2,25a0,a0" ]

def cp866 : CodePage := cp437.variant
    ["cp866", "866", "csibm866", "ibm866"]
    ["80-af=410 e0-ef=440 f0=401,451,404,454,407,457,40e,45e fc=2116,a4"]

def cp1125 : CodePage := cp866.variant
    ["cp1125", "1125", "cp866u", "ibm1125", "ruscii"]
    ["f2=490,491,404,454,406,456,407,457"]

def cp1140 : CodePage := cp037.variant
    ["cp1140", "1140", "ibm1140"]
    ["9f=20ac"]

def cp1252 : CodePage := latin1.variant
    ["cp1252", "1252", "windows_1252"]
    [ "80=20ac 81= 82=201a,192,201e,2026,2020,2021,2c6,2030,160,2039,152 8d= 8e=17d 8f-90= 91=2018,2019,201c,201d",
      "95=2022,2013,2014,2dc,2122,161,203a,153 9d= 9e=17e,178" ]

def cp1250 : CodePage := cp1252.variant
    ["cp1250", "1250", "windows_1250"]
    [ "83= 88= 8c=15a,164 8f=179 98= 9c=15b,165 9f=17a a1=2c7,2d8,141 a5=104 aa=15e af=17b b2=2db,142 b9=105,15f",
      "bc=13d,2dd,13e,17c,154 c3=102 c5=139,106 c8=10c ca=118 cc=11a cf=10e,110,143,147 d5=150 d8=158,16e db=170",
      "de=162 e0=155 e3=103 e5=13a,107 e8=10d ea=119 ec=11b ef=10f,111,144,148 f5=151 f8=159,16f fb=171 fe=163,2d9" ]

def cp1254 : CodePage := cp1252.variant
    ["cp1254", "1254", "windows_1254"]
    ["8e= 9e= d0=11e dd=130,15e f0=11f fd=131,15f"]

def cp1258 : CodePage := cp1254.variant
    ["cp1258", "1258", "windows_1258"]
    ["8a= 9a= c3=102 cc=300 d0=110 d2=309 d5=1a0 dd=1af,303 e3=103 ec=301 f0=111 f2=323 f5=1a1 fd=1b0,20ab"]

def cp1253 : CodePage := cp1258.variant
    ["cp1253", "1253", "windows_1253"]
    ["88= 8c= 98= 9c= 9f= a1=385,386 aa= af=2015 b4=384 b8-ba=388 bc=38c be-d1=38e d2= d3-fe=3a3 ff="]

def cp1251 : CodePage := cp1253.variant
    ["cp1251", "1251", "windows_1251"]
    [ "80=402,403 83=453 88=20ac 8a=409 8c=40a,40c,40b,40f,452 9a=459 9c=45a,45c,45b,45f a1=40e,45e,408 a5=490",
      "a8=401 aa=404 af=407 b2=406,456,491 b8=451,2116,454 bc=458,405,455,457 c0-ff=410" ]

def cp1255 : CodePage := cp1258.variant
    ["cp1255", "1255", "windows_1255"]
    ["8c= 9c= 9f= a4=20aa aa=d7 ba=f7 c0-c9=5b0 ca= cb-d3=5bb d4-d8=5f0 d9-df= e0-fa=5d0 fb-fc= fd=200e,200f ff="]

def cp1256 : CodePage := cp1252.variant
    ["cp1256", "1256", "windows_1256"]
    [ "81=67e 8a=679 8d=686,698,688,6af 98=6a9 9a=691 9d=200c,200d,6ba a1=60c aa=6be ba=61b bf=61f,6c1 c1-d6=621",
      "d8-db=637 dc-df=640 e1=644 e3-e6=645 ec=649,64a f0-f3=64b f5=64f,650 f8=651 fa=652 fd=200e,200f,6d2" ]

def cp1257 : CodePage := cp1252.variant
    ["cp1257", "1257", "windows_1257"]
    [ "83= 88= 8a= 8c= 8d=a8,2c7,b8 98= 9a= 9c= 9d=af,2db 9f= a1= a5= a8=d8 aa=156 af=c6 b8=f8 ba=157 bf=e6,104",
      "c1=12e,100,106 c6=118,112,10c ca=179,116,122,136,12a,13b,160,143,145 d4=14c d8=172,141,15a,16a dd=17b,17d",
      "e0=105,12f,101,107 e6=119,113,10d ea=17a,117,123,137,12b,13c,161,144,146 f4=14d f8=173,142,15b,16b fd=17c",
      "fe=17e,2d9" ]

def cp273 : CodePage := cp500.variant
    ["cp273", "273", "csibm273", "ibm273"]
    ["43=7b 4a=c4 59=7e,dc 63=5b 6a=f6 7c=a7 a1=df b5=40 bc=203e c0=e4 cc=a6 d0=fc dc=7d e0=d6 ec=5c fc=5d"]

def cp424 : CodePage := cp037.variant
    ["cp424", "424", "csibm424", "ebcdic_cp_he", "ibm424"]
    [ "41-49=5d0 51-59=5d9 62-69=5e2 70= 71=5ea 72-73= 74=a0 75-77= 78=2017 80= 8c-8e= 9a-9c= 9e= aa-ae= cb-cf=",
      "db-df= eb-ef= fb-fe=" ]

def cp720 : CodePage := cp437.variant
    ["cp720"]
    ["80=80,81 84=84 86=86 8d-90=8d 91=651,652 94=a4,640 98-9b=621 9d-ad=625 e0-e4=636 e5=641 e7-ef=642 f1-f6=64b"]

def cp737 : CodePage := cp437.variant
    ["cp737"]
    [ "80-90=391 91-97=3a3 98-a8=3b1 a9=3c3,3c2 ab-af=3c4 e0=3c9 e1-e3=3ac e4=3ca,3af,3cc,3cd,3cb,3ce,386",
      "eb-ed=388 ee=38c,38e,38f f4=3aa,3ab" ]

def cp850 : CodePage := cp437.variant
    ["cp850", "850", "cspc850multilingual", "ibm850"]
    [ "9b=f8 9d=d8,d7 a9=ae b5=c1,c2,c0,a9 bd=a2,a5 c6=e3,c3 cf=a4,f0,d0,ca,cb,c8,131 d6-d8=cd dd=a6,cc e0=d3",
      "e2=d4,d2,f5,d5 e7=fe,de,da,db,d9,fd,dd,af,b4,ad f2=2017,be,b6,a7 f7=b8 f9=a8 fb=b9,b3" ]

def cp775 : CodePage := cp850.variant
    ["cp775", "775", "cspc775baltic", "ibm775"]
    [ "80=106 83=101 85=123 87=107,142,113,156,157,12b,179 93=14d 95=122,a2,15a,15b 9f=a4,100,12a a3=17b,17c,17a",
      "a6=201d,a6,a9 ad=141 b5=104,10c,118,116 bd=12e,160 c6=172,16a cf=17d,105,10d,119,117,12f,161,173,16b,17e",
      "dd=258c,2590 e2=14c,143 e7=144,136,137,13b,13c,146,112,145,2019 f2=201c f7=201e f9=2219" ]

def cp852 : CodePage := cp850.variant
    ["cp852", "852", "cspcp852", "ibm852"]
    [ "85=16f,107 88=142 8a=150,151 8d=179 8f=106 91=139,13a 95=13d,13e,15a,15b 9b=164,165,141 9f=10d a4=104,105",
      "a6=17d,17e,118,119 ab=17a,10c,15f b7=11a,15e bd=17b,17c c6=102,103 d0=111,110,10e d4=10f,147 d8=11b dd=162",
      "de=16e e3=143,144,148,160,161,154 ea=155,170 ee=163 f1=2dd,2db,2c7,2d8 fa=2d9,171,158,159" ]

def cp862 : CodePage := cp437.variant
    ["cp862", "862", "cspc862latinhebrew", "ibm862"]
    ["80-9a=5d0"]

def cp856 : CodePage := cp862.variant
    ["cp856"]
    [ "9b= 9d= 9e=d7 9f-a8= a9=ae ad= b5-b7= b8=a9 bd=a2,a5 c6-c7= cf=a4 d0-d8= dd=a6 de= e0-e5= e7-ed= ee=af,b4",
      "f0=ad f2=2017,be,b6,a7 f7=b8 f9=a8 fb=b9,b3" ]

def cp855 : CodePage := cp856.variant
    ["cp855", "855", "csibm855", "ibm855"]
    [ "80=452,402,453,403,451,401,454,404,455,405,456,406,457,407,458,408,459,409,45a,40a,45b,40b,45c,40c,45e,40e",
      "9a=45f,40f,44e,42e,44a,42a,430,410,431,411,446,426,434,414,435,415,444,424,433,413 b5=445,425,438,418",
      "bd=439,419 c6=43a,41a d0=43b,41b,43c,41c,43d,41d,43e,41e,43f dd=41f,44f e0=42f,440,420,441,421,442,422,443",
      "e8=423,436,416,432,412,44c,42c,2116 f1=44b,42b,437,417,448,428,44d,42d,449,429,447,427,a7" ]

def cp857 : CodePage := cp850.variant
    ["cp857", "857", "csibm857", "ibm857"]
    ["8d=131 98=130 9e=15e,15f a6=11e,11f d0=ba,aa d5= e7= e8=d7 ec=ec,ff f2="]

def cp858 : CodePage := cp850.variant
    ["cp858", "858", "csibm858", "ibm858"]
    ["d5=20ac"]

def cp860 : CodePage := cp437.variant
    ["cp860", "860", "csibm860", "ibm860"]
    ["84=e3 86=c1 89=ca 8b=cd,d4 8e=c3,c2 91=c0,c8 94=f5 96=da 98=cc,d5 9d=d9 9f=d3 a9=d2"]

def cp865 : CodePage := cp437.variant
    ["cp865", "865", "csibm865", "ibm865"]
    ["9b=f8 9d=d8 af=a4"]

def cp861 : CodePage := cp865.variant
    ["cp861", "861", "cp_is", "csibm861", "ibm861"]
    ["8b=d0,f0,de 95=fe 97=dd,fd a4=c1,cd,d3,da af=bb"]

def cp863 : CodePage := cp437.variant
    ["cp863", "863", "csibm863", "ibm863"]
    ["84=c2 86=b6 8d=2017,c0,a7 91=c8,ca 94=cb,cf 98=a4,d4 9d=d9,db a0=a6,b4 a4=a8,b8,b3,af,ce ad=be"]

def cp864 : CodePage := cp856.variant
    ["cp864", "864", "csibm864", "ibm864"]
    [ "25=66a 80=b0,b7,2219,221a,2592,2500,2502,253c,2524,252c,251c,2534,2510,250c,2514,2518,3b2,221e,3c6,b1,bd,bc",
      "96=2248,ab,bb,fef7,fef8 9c= 9d=fefb,fefc a0=a0,ad,fe82,a3,a4,fe84 a8=fe8e,fe8f,fe95,fe99,60c,fe9d,fea1,fea5",
      "b0-b9=660 ba=fed1,61b,feb1,feb5,feb9,61f,a2,fe80,fe81,fe83,fe85,feca,fe8b,fe8d,fe91,fe93,fe97,fe9b,fe9f",
      "cd=fea3,fea7,fea9,feab,fead,feaf,feb3,feb7,febb,febf,fec1,fec5,fecb,fecf,a6,ac,f7,d7,fec9,640,fed3,fed7",
      "e3=fedb,fedf,fee3,fee7,feeb,feed,feef,fef3,febd,fecc,fece,fecd,fee1,fe7d,651,fee5,fee9,feec,fef0,fef2,fed0",
      "f8=fed5,fef5,fef6,fedd,fed9,fef1 ff=" ]

def cp869 : CodePage := cp856.variant
    ["cp869", "869", "cp_gr", "csibm869", "ibm869"]
    [ "80-85= 86=386 87= 88=b7,ac,a6,2018,2019,388,2015,389,38a,3aa,38c 93-94= 95=38e,3ab,a9,38f,b2,b3,3ac",
      "9d-9f=3ad a0=3ca,390,3cc,3cd a4-aa=391 ac=398,399 b5-b8=39a bd=39e,39f c6=3a0,3a1 cf-d5=3a3 d6-d8=3b1",
      "dd=3b4,3b5 e0-eb=3b6 ec=3c3,3c2,3c4,384 f2-f4=3c5 f6=3c8,385 fa=3c9,3cb,3b0,3ce" ]

def iso885911 : CodePage := latin1.variant
    ["iso8859_11", "iso_8859_11", "iso_8859_11_2001", "thai"]
    ["a1-da=e01 db-de= df-fb=e3f fc-ff="]

def cp874 : CodePage := iso885911.variant
    ["cp874"]
    ["80=20ac 81-84= 85=2026 86-90= 91=2018,2019,201c,201d,2022,2013,2014 98-9f="]

def cp875 : CodePage := cp500.variant
    ["cp875"]
    [ "41-49=391 51-58=39a 59=3a3 62-69=3a4 6a=7c 70=a8,386,388,389,a0,38a,38c,38e,38f 80=385 8a-8f=3b1 9a-9f=3b7",
      "a0=b4 aa-ae=3bd af=3c3,a3 b1-b3=3ac b4=3ca,3af,3cc,3cd,3cb,3ce,3c2 bb-bf=3c4 cb=3c9,390,3b0,2018,2015 da=b1",
      "db=bd,1a,387,2019,a6 e1=1a eb=a7,1a,1a,ab,ac fb=a9,1a,1a,bb" ]

def hpRoman8 : CodePage := iso885911.variant
    ["hp_roman8", "cp1051", "csHPRoman8", "ibm1051", "r8", "roman8"]
    [ "a1=c0,c2,c8,ca,cb,ce,cf,b4,2cb,2c6,a8,2dc,d9,db,20a4,af,dd,fd,b0,c7,e7,d1,f1,a1,bf,a4,a3,a5,a7,192,a2,e2,ea",
      "c2=f4,fb,e1,e9,f3,fa,e0,e8,f2,f9,e4,eb,f6,fc,c5,ee,d8,c6,e5,ed,f8,e6,c4,ec,d6,dc,c9,ef,df,d4,c1,c3,e3,d0,f0",
      "e5=cd,cc,d3,d2,d5,f5,160,161,da,178,ff,de,fe,b7,b5,b6,be,2014,bc,bd,aa,ba,ab,25a0,bb,b1" ]

def iso885910 : CodePage := latin1.variant
    ["iso8859_10", "csisolatin6", "iso_8859_10", "iso_8859_10_1992", "iso_ir_157", "l6", "latin6"]
    [ "a1=104,112,122,12a,128,136 a8=13b,110,160,166,17d ae=16a,14a b1=105,113,123,12b,129,137 b8=13c,111,161,167",
      "bc=17e,2015,16b,14b,100 c7=12e,10c ca=118 cc=116 d1=145,14c d7=168 d9=172 e0=101 e7=12f,10d ea=119 ec=117",
      "f1=146,14d f7=169 f9=173 ff=138" ]

def iso885913 : CodePage := latin1.variant
    ["iso8859_13", "iso_8859_13", "l7", "latin7"]
    [ "a1=201d a5=201e a8=d8 aa=156 af=c6 b4=201c b8=f8 ba=157 bf=e6,104,12e,100,106 c6=118,112,10c ca=179,116,122",
      "cd=136,12a,13b,160,143,145 d4=14c d8=172,141,15a,16a dd=17b,17d e0=105,12f,101,107 e6=119,113,10d ea=17a",
      "eb=117,123,137,12b,13c,161,144,146 f4=14d f8=173,142,15b,16b fd=17c,17e,2019" ]

def iso885914 : CodePage := latin1.variant
    ["iso8859_14", "iso_8859_14", "iso_8859_14_1998", "iso_celtic", "iso_ir_199", "l8", "latin8"]
    [ "a1=1e02,1e03 a4=10a,10b,1e0a a8=1e80 aa=1e82,1e0b,1ef2 af=178,1e1e,1e1f,120,121,1e40,1e41 b7=1e56,1e81,1e57",
      "ba=1e83,1e60,1ef3,1e84,1e85,1e61 d0=174 d7=1e6a de=176 f0=175 f7=1e6b fe=177" ]

def iso885915 : CodePage := latin1.variant
    ["iso8859_15", "iso_8859_15", "l9", "latin9"]
    ["a4=20ac a6=160 a8=161 b4=17d b8=17e bc=152,153,178"]

def iso885916 : CodePage := iso885915.variant
    ["iso8859_16", "iso_8859_16", "iso_8859_16_2001", "iso_ir_226", "l10", "latin10"]
    [ "a1=104,105,141 a5=201e aa=218 ac=179 ae=17a,17b b2=10c,142 b5=201d b9=10d,219 bf=17c c3=102 c5=106 d0=110",
      "d1=143 d5=150 d7=15a,170 dd=118,21a e3=103 e5=107 f0=111,144 f5=151 f7=15b,171 fd=119,21b" ]

def iso88594 : CodePage := iso885910.variant
    ["iso8859_4", "csisolatin4", "iso_8859_4", "iso_8859_4_1988", "iso_ir_110", "l4", "latin4"]
    [ "a2=138,156,a4 a6=13b a8=a8,160,112,122,166 ae=17d,af b2=2db,157,b4 b6=13c,2c7,b8,161,113,123,167,14a,17e",
      "cf=12a,110 d3=136 d7=d7 dd=168,16a ef=12b,111 f3=137 f7=f7 fd=169,16b,2d9" ]

def iso88592 : CodePage := iso88594.variant
    ["iso8859_2", "csisolatin2", "iso_8859_2", "iso_8859_2_1987", "iso_ir_101", "l2", "latin2"]
    [ "a2=2d8,141 a5=13d,15a aa=15e,164,179 af=17b b3=142 b5=13e,15b ba=15f,165,17a,2dd bf=17c,154 c3=102 c5=139",
      "c6=106,c7 cc=11a cf=10e d1=143,147,d3 d5=150 d8=158,16e db=170 dd=dd,162 e0=155 e3=103 e5=13a,107,e7 ec=11b",
      "ef=10f f1=144,148,f3 f5=151 f8=159,16f fb=171 fd=fd,163" ]

def iso88593 : CodePage := latin1.variant
    ["iso8859_3", "csisolatin3", "iso_8859_3", "iso_8859_3_1988", "iso_ir_109", "l3", "latin3"]
    [ "a1=126,2d8 a5= a6=124 a9=130,15e,11e,134 ae= af=17b b1=127 b6=125 b9=131,15f,11f,135 be= bf=17c c3= c5=10a",
      "c6=108 d0= d5=120 d8=11c dd=16c,15c e3= e5=10b,109 f0= f5=121 f8=11d fd=16d,15d,2d9" ]

def iso88595 : CodePage := latin1.variant
    ["iso8859_5", "csisolatincyrillic", "cyrillic", "iso_8859_5", "iso_8859_5_1988", "iso_ir_144"]
    ["a1-ac=401 ae-ef=40e f0=2116 f1-fc=451 fd=a7,45e,45f"]

def iso88596 : CodePage := latin1.variant
    ["iso8859_6", "arabic", "asmo_708", "csisolatinarabic", "ecma_114", "iso_8859_6", "iso_8859_6_1987",
      "iso_ir_127"]
    ["a1-a3= a5-ab= ac=60c ae-ba= bb=61b bc-be= bf=61f c0= c1-da=621 db-df= e0-f2=640 f3-ff="]

def iso88598 : CodePage := latin1.variant
    ["iso8859_8", "csisolatinhebrew", "hebrew", "iso_8859_8", "iso_8859_8_1988", "iso_ir_138"]
    ["a1= aa=d7 ba=f7 bf-de= df=2017 e0-fa=5d0 fb-fc= fd=200e,200f ff="]

def iso88597 : CodePage := iso88598.variant
    ["iso8859_7", "csisolatingreek", "ecma_118", "elot_928", "greek", "greek8", "iso_8859_7", "iso_8859_7_1987",
      "iso_ir_126"]
    ["a1=2018,2019 a4=20ac,20af aa=37a ae= af=2015 b4-b6=384 b8-ba=388 bc=38c be-d1=38e d3-fe=3a3"]

def iso88599 : CodePage := latin1.variant
    ["iso8859_9", "csisolatin5", "iso_8859_9", "iso_8859_9_1989", "iso_ir_148", "l5", "latin5"]
    ["d0=11e dd=130,15e f0=11f fd=131,15f"]

def koi8R : CodePage := latin1.variant
    ["koi8_r", "cskoi8r"]
    [ "80=2500,2502,250c,2510,2514,2518,251c,2524,252c,2534,253c,2580,2584,2588,258c 8f-92=2590 93=2320,25a0,2219",
      "96=221a,2248,2264,2265,a0,2321,b0,b2,b7,f7 a0-a2=2550 a3=451 a4-b2=2553 b3=401 b4-be=2562 bf=a9,44e,430,431",
      "c3=446,434,435,444,433,445 c9-d0=438 d1=44f d2-d5=440 d6=436,432,44c,44b,437,448,44d,449,447,44a,42e,410",
      "e2=411,426,414,415,424,413,425 e9-f0=418 f1=42f f2-f5=420 f6=416,412,42c,42b,417,428,42d,429,427,42a" ]

def koi8T : CodePage := koi8R.variant
    ["koi8_t"]
    [ "80=49b,493,201a,492,201e,2026,2020,2021 88= 89=2030,4b3,2039,4b2,4b7,4b6 8f= 90=49a,2018,2019,201c,201d",
      "95=2022,2013,2014 98= 99=2122 9a= 9b=203a 9c-a0= a1=4ef,4ee a4=a4,4e3,a6,a7 a8-aa= ab-ae=ab af= b0-b2=b0",
      "b4= b5=4e2,b6,b7 b8= b9=2116 ba= bb=bb bc-be=" ]

def koi8U : CodePage := koi8R.variant
    ["koi8_u"]
    ["a4=454 a6=456,457 ad=491 b4=404 b6=406,407 bd=490"]

def kz1048 : CodePage := cp1251.variant
    ["kz1048", "kz_1048", "rk1048", "strk1048_2002"]
    ["8d=49a,4ba 9d=49b,4bb a1=4b0,4b1,4d8 a5=4e8 aa=492 af=4ae b4=4e9 ba=493 bc=4d9,4a2,4a3,4af"]

def macRoman : CodePage := latin1.variant
    ["mac_roman", "macintosh", "macroman"]
    [ "80=c4,c5,c7,c9,d1,d6,dc,e1,e0,e2,e4,e3,e5,e7,e9,e8,ea,eb,ed,ec,ee,ef,f1,f3,f2,f4,f6,f5,fa,f9,fb,fc,2020,b0",
      "a4=a7,2022,b6,df,ae aa=2122,b4,a8,2260,c6,d8,221e b2=2264,2265,a5 b6=2202,2211,220f,3c0,222b,aa,ba,3a9,e6",
      "bf=f8,bf,a1,ac,221a,192,2248,2206,ab,bb,2026,a0,c0,c3,d5,152,153,2013,2014,201c,201d,2018,2019,f7,25ca,ff",
      "d9=178,2044,20ac,2039,203a,fb01,fb02,2021,b7,201a,201e,2030,c2,ca,c1,cb,c8 ea-ec=cd ed=cc,d3,d4,f8ff,d2,da",
      "f3=db,d9,131,2c6,2dc,af f9-fb=2d8 fc=b8,2dd,2db,2c7" ]

def macArabic : CodePage := macRoman.variant
    ["mac_arabic"]
    [ "81=a0 8b=6ba,ab 93=2026 98=bb 9b=f7 a0-a4=20 a5=66a a6-ab=26 ac=60c ad-af=2d b0-b9=660 ba=3a,61b bc-be=3c",
      "bf=61f,274a c1-da=621 db-df=5b e0-f2=640 f3=67e,679,686,6d5,6a4,6af,688,691 fb-fd=7b fe=698,6d2" ]

def macCroatian : CodePage := macRoman.variant
    ["mac_croatian"]
    [ "a9=160 ae=17d b4=2206 b9=161 be=17e c6=106 c8=10c d0=110 d8=f8ff,a9 de=c6,bb,2013 e6=107 e8=10d f0=111",
      "f9=3c0,cb fd=ca,e6" ]

def macCyrillic : CodePage := macRoman.variant
    ["mac_cyrillic", "maccyrillic"]
    [ "80-9f=410 a2=490 a7=406 ab=402,452 ae=403,453 b4=456 b6=491,408,404,454,407,457,409,459,40a,45a,458,405",
      "cb=40b,45b,40c,45c,455 d7=201e,40e,45e,40f,45f,2116,401,451,44f e0-fe=430 ff=20ac" ]

def macFarsi : CodePage := macArabic.variant
    ["mac_farsi"]
    ["b0-b9=6f0"]

def macGreek : CodePage := macRoman.variant
    ["mac_greek", "macgreek"]
    [ "81=b9,b2 84=b3 87=385 8b=384,a8 92=a3,2122 96=2022,bd,2030 9b=a6,20ac a1=393,394,398,39b,39e,3a0 aa=3a3,3aa",
      "ac=a7 ae=b0,b7,391 b5=392 b6-b8=395 b9=399,39a,39c,3a6,3ab,3a8,3a9,3ac,39d c3=39f,3a1 c6=3a4 cb=3a5,3a7,386",
      "ce=388 d1=2015 d7=389,38a,38c,38e db-dd=3ad de=3cc,38f,3cd,3b1,3b2,3c8,3b4,3b5,3c6,3b3,3b7,3b9,3be",
      "eb-ee=3ba ef=3bf,3c0,3ce,3c1,3c3,3c4,3b8,3c9,3c2,3c7,3c5,3b6,3ca,3cb,390,3b0,ad" ]

def macIceland : CodePage := macRoman.variant
    ["mac_iceland", "maciceland"]
    ["a0=dd dc=d0,f0,de,fe,fd"]

def macLatin2 : CodePage := macRoman.variant
    ["mac_latin2", "mac_centeuro", "maccentraleurope", "maclatin2"]
    [ "81=100,101 84=104 88=105,10c 8b=10d,106,107 8f=179,17a,10e 93=10f,112,113,116 98=117 9d=11a,11b a2=118",
      "ab=119 ae=123,12e,12f,12a b4=12b,136 b8=142 b9-bc=13b bd=139,13a,145,146,143 c4=144,147 cb=148,150 ce=151",
      "cf=14c d8=14d,154,155,158 de=159,156,157,160 e4=161,15a,15b e8=164,165 eb=17d,17e,16a f0=16b,16e f3-f7=16f",
      "f8=dd,fd,137,17b,141,17c,122" ]

def macRomanian : CodePage := macRoman.variant
    ["mac_romanian"]
    ["ae=102,218 be=103,219 de=21a,21b"]

def macTurkish : CodePage := macRoman.variant
    ["mac_turkish", "macturkish"]
    ["da=11e,11f,130,131,15e,15f f5=f8a0"]

def palmos : CodePage := cp1252.variant
    ["palmos"]
    ["81=81 8d=2666,2663,2665,2660 9b=9b 9d=9d,9e"]

def ptcp154 : CodePage := cp1251.variant
    ["ptcp154", "cp154", "csptcp154", "cyrillic_asian", "pt154"]
    [ "80=496,492,4ee,493 86=4b6,4ae,4b2,4af,4a0,4e2,4a2,49a,4ba,4b8,497 98=4b3,4b7,4a1,4e3,4a3,49b,4bb,4b9 a4=4e8",
      "a5=498,4b0 aa=4d8 ad=4ef af=49c b1=4b1 b4=499,4e9 ba=4d9 bd=4aa,4ab,49d" ]

def tis620 : CodePage := iso885911.variant
    ["tis_620", "iso_ir_166", "tis620", "tis_620_0", "tis_620_2529_0", "tis_620_2529_1"]
    ["a0="]

def all : List CodePage :=
  [ cp037, cp1006, cp1026, cp1125, cp1140, cp1250, cp1251, cp1252, cp1253, cp1254, cp1255,
    cp1256, cp1257, cp1258, cp273, cp424, cp437, cp500, cp720, cp737, cp775, cp850, cp852, cp855,
    cp856, cp857, cp858, cp860, cp861, cp862, cp863, cp864, cp865, cp866, cp869, cp874, cp875,
    hpRoman8, iso885910, iso885911, iso885913, iso885914, iso885915, iso885916, iso88592,
    iso88593, iso88594, iso88595, iso88596, iso88597, iso88598, iso88599, koi8R, koi8T, koi8U,
    kz1048, macArabic, macCroatian, macCyrillic, macFarsi, macGreek, macIceland, macLatin2,
    macRoman, macRomanian, macTurkish, palmos, ptcp154, tis620 ]

end CodePage

end MarkupLint
