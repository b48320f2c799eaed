set_option autoImplicit false

namespace MarkupLint.Text

def frequentRows : String :=
"WITH LETTER SIGN AND SMALL DOUBLE DOT RIGHT TWO LEFT PLUS ONE THREE TIMES OVER DIGIT MIDDLE ABOVE FINAL FOUR
ISOLATED HOOK NGA STROKE VOWEL SHA HORIZONTAL VERTICAL CIRCUMFLEX INITIAL INVERTED RIGHTWARDS CAPITAL DIAERESIS
LEFTWARDS ANUSVARA CANDRABINDU GREATER-THAN TRIANGLE TRIANGLE-HEADED ARROW MEDIAL NUMBER DOWNWARDS PUNCTUATION
EXCLAMATION REVERSED BLACK CIRCLE SYMBOL WHITE ABBREVIATION VOCALIC CROSSING PARENTHESIS ACUTE DIAGONAL RETROFLEX
BELOW LOWER QUESTION VISARGA SQUARE LESS-THAN POINTING VIRAMA DOWN TILDE FIVE PALATAL SANS-SERIF DESCENDER MACRON
CEDILLA MEDIUM RING TRIANGULAR UPWARDS COMBINING CARON TWENTY ALEF CONSONANT LITTLE TRIPLE EIGHT THUMB LONG GRAVE
OPEN COMMA INDEX SEVEN SHORT STRAIGHT UPPER MEEM SQUARED HEAVY ALTERNATE ARROWHEAD HALF LIGATURE RIGHT-POINTING
SINGLE SEPARATOR QUARTER LINE LARGE MARK HUNDRED SECTION AVAGRAHA CENTRE CLOSED EQUAL EQUILATERAL PERISPOMENI
INTERSECTION TTHA FRACTION UNDERBAR CONJOINED LEFT-POINTING SEMICOLON DDHA BREVE CIRCLED ALTERNATING ASTERISK CORNER
DOTTED SUPERSCRIPT DIAMOND POINTED TURNED ANGLE JEEM LIGHT TORTOISE EPSILON OBLIQUE TEARDROP-SPOKED BOTTOM EQUALS
RAISED CHA HAMZA KHA NYA ARCHAIC CROSSED-TAIL FIFTY FORWARD GLOTTAL MODIFIER NUKTA SOLIDUS THOUSAND TEN DOTS NINE
THA COLON YEH CHARACTER EQUIVALENT ANTICLOCKWISE BETWEEN BRACKET FINGERS HARPOON HITTING REVERSE SEVENTY
YPOGEGRAMMENI CROSS OPERATOR SYLLABLE PHA SCRIPT THIRTY TONE TWELVE LATIN ARABIC-INDIC KHAH MAKSURA NEUTRAL SALTIRE
UPSILON AMPERSAND QUADRUPLE QUOTATION SEVENTEEN THOUSANDS ALPHA APOSTROPHE DANDA EIGHTEEN EIGHTH INTEGRAL LAMEDH
MULTIPLICATION NEPOSTOYANNAYA NINETY OMEGA PROSGEGRAMMENI SAMEKH SUPERSET TTA DDA GHA NOON SHIN CURLY GAMMA
JIHVAMULIYA LOGICAL LOZENGE OVERBAR ROTATED SIXTEEN SLANTED SOUTH UPADHMANIYA VARIANT DHA DOWN-POINTING ELEVEN FACE
FULL OGONEK SUBSET NNA ALEPH BHA EXTENDED FOURTEEN FROM HIGH ITERATION MINUS NINETEEN NORTH OPPOSING OVERLINE
QUADRANT QUARTERS SVETLAYA THIRTEEN BAR NUN BULLET CROSSED DASHED DIGRAPH DOTLESS FIFTEEN HINGED KASKAL RISING
ROUNDED SMILING SUBSTITUTION VERTICALLY DELTA GREEK SSA THETA VARIA HAH SIX LOW ARCHAION CURVED EIGHTY GIMEL GUNU
IDEOGRAPHIC INDEPENDENT INTERROBANG KLYUCHEVAYA PARALLEL SADHE SIDEWAYS ZERO EXTENSION RECTANGLE TELEPHONE JHA
ROTATION-FLOORPLANE CHECK DASIA EARTH HEART KAPPA THIRD TONOS ALMOST BENT COMPRESSED CONTAINING DISH INSIDE
LENTICULAR MOON ROTATION-WALLPLANE STAR TABULATION TACK VOICED AIRPLANE ANTIMONY ASH BLOCK CANCELLATION CURL FORTY
GAN2 HAND HYPHEN-MINUS INSULAR KATAKANA-HIRAGANA MILLIONS NOTEHEAD NUMERAL OMICRON PIEUP-SIOS-TIKEUT PINWHEEL PSILI
RIEUL-KIYEOK SHE SHESHIG SIDDHAM SIXTY TAIL UNION ZAYIN BETH CANDRA DALETH DASH DIALYTIKA FORM PAIRED PARAGRAPH SIDE
SUBJOINED SUBSCRIPT ACKNOWLEDGE DOUBLE-LINE FINGER-POST GHAIN NIEUN-CIEUC NIEUN-HIEUH PRIME RIEUL-HIEUH RIEUL-MIEUM
RIEUL-PIEUP SHAR2 SIGMA SLASH SPACE SSANGKIYEOK SSANGTIKEUT THE TRESVETLAYA TSHEG UP-POINTING WATER BETA HORN IOTA
KAPH KAPYEOUNPHIEUPH OXIA TSA TSHA WAW CEILING CHIEUCH CONTACT DIGAMMA KHIEUKH KRYZHEM LLA MUSICAL NOT NOTCHED
PHIEUPH STATERS THIEUTH THROUGH ACCENT BALLOON-SPOKED BARB BESIDE COMMERCIAL CRESCENT CURVE DAGESH DIVISION DOLLAR
ELLIPSIS FATHATAN FISHHOOK FLOURISH FOLDER GEMINATION GESH2 GISH HETH HYPHEN IGI INFINITY ITALIC KAREN LAGAB LAMDA
LOOP MOUNTAIN MULTIPLE ORNAMENT PENTAGON PIEUP-SIOS RIEUL-SIOS SECOND SEMIDIRECT SEQUENTIAL SHADOWED SHELL SPEECH
SPREAD SSANGCIEUC SSANGPIEUP TAK4 TONGUE TWO-HEADED WAVE WRINKLED WRIST YODH ZAIN ZIGZAG APPROXIMATELY DOUBLE-STRUCK
FOR KAPYEOUNMIEUM KAPYEOUNPIEUP ONE-HUNDRED-AND-SIXTIETH PRISHTHAMATRA RIEUL-PHIEUPH RIEUL-THIEUTH TENU TOP
TRANSPOSITION WEST BACKSLASH CLOCKWISE MADDA MOUTH POINT POVODNAYA ROUND SHEEN SIXTEENTH SSANGSIOS ARABIC BARRED
BOLD BUTTON BYELORUSSIAN-UKRAINIAN CENTRED CIRCLES EIGHTHS FALLING FINGER FRONT-TILTED HEAD INVERSE KAVYKA KIYEOK
LENGTH MATHEMATICAL MEASURE NASALIZATION NIEUN-TIKEUT NORMAL PARTIAL PERCENT PERSON PIEUP-TIKEUT POINTER
RIEUL-TIKEUT RIGHT-SHADED ROTUNDA SEMICIRCULAR STOP TALENTS TIKEUT WIGGLY WITHOUT WORD ZHA AIN KLYUCHENEPOSTOYANNAYA
RRA APPROXIMATE AYIN BACK BACK-TILTED BIRGA CARET COMPOSITION CURRENCY DAMMA DAMMATAN EKFONITIKON FLOOR FLORETTE
FROWNING GAYANUKITTA HANDS IOTIFIED KASRA KASRATAN KATAKANA KIYEOK-SIOS LAGAR LEFT-SHADED LOGOGRAM MIEUM-PIEUP
MOVEMENT NEGATIVE NOTE OPEN-HEADED OUTLINED OVERLAPPING PHI PIEUP-CIEUC PLACEHOLDER POSITION PROSTAYA RESH RUPEE
SCHWA SEEN SEMI-VOICED SIOS-KIYEOK SIOS-TIKEUT WOMAN YEORINHIEUH ZAPYATOY BOX CHI END LAM MOVEMENT-FLOORPLANE REH
RHO RIEUL-KAPYEOUNPIEUP AELA-PILLA ALAYHE ARROW-TAIL BRIDGE COPPER CUPPED DESCENDING DRAGON EAST FEMALE FILLER FIRE
FISH HARD HEADSTROKE HOOKED IMPERFECTA JOINED KAPYEOUNSSANGPIEUP KUSHU2 LUNATE MIEUM-SIOS MOVEMENT-WALLPLANE
NIEUN-SIOS OPPOSITION ROCKET SEMICIRCLE SIOS-CIEUC SIOS-PIEUP SIXTEENTHS SSANGIEUNG SSANGNIEUN SUSPENSION TEXT
TONE-2 TURTLE TWENTY-TWO VRACHY WITHIN YANG CHARIOT CIEUC CONTROL ELLIPSE FATHA FEATHER HIEUH HOLDING HORSE IEUNG
KOPPA MEM MIEUM MURDA NIEUN OPENING OVERLAY PIEUP PIEUP-SIOS-KIYEOK QAF RADICAL RIEUL RIEUL-KIYEOK-SIOS
RIEUL-SSANGKIYEOK RIEUL-YEORINHIEUH SHADE SHAKING SHARP SIMILAR SOUND STILE SVARITA SWASH TIKHAYA TILTING TRIDENT
WESTERN BAD CHRISTMAS DELIMITER ENCLOSURE FLATTENED HEH HOURGLASS INSERTION ISOSCELES KAF LEFT-STEM LIGHTNING
MAHAPRANA MONOCULAR MONOGRAPH MRACHNAYA PAP PENTAGRAM REST RIEUL-PIEUP-SIOS SHAD SHAN SNOWFLAKE SUMMATION TAH TETH
THEH TUG2 UKRAINIAN VARIATION VERY YESIEUNG-PANSIOS ZETA BLACK-FEATHERED CHE CLUSTER-INITIAL FEH GAR GROMOKRYZHEVAYA
HIGH-REVERSED-9 KUR MAN OLD SHU TAW THO ANUDATTA ASH2 ASYMPTOTICALLY BACKHAND BELT BOTTLE BROKEN BUILDING CALENDAR
CAN CENTRALIZATION CLOUD COMPUTER CONGRATULATION CYRILLIC DAGGER DIPLI"

def sharedRows : String :=
"c.mg.df.ao.ax.bg.r.v.hw.ch bq t ff l co jm m i ka.r bg.s+1u+1.x.ir.fn.s+1.fc.g.js.dg fc.fv.se.qm.L LL R RR.s+1ad+1
u+1ap+1.dg.oe.dl+TO..am.ly.fu.u+1.j h.fe.cw.ad+1.fe+6.aw.bp.ad+1u+1.dd.af+3.dz.ga.h.a+17.gf+11.YUS.a+12.ei.db.kw.s+1
ad+1.cx+268.KOET ROC.ph.l i.cm hx+21.a+ol..OF+CLUBS DIAMONDS HEARTS SPADES..dw.EYES.hx+21.gq.ARROWS.mz.de bw e.bc.
bk.hs+1.OCLOCK.aw bk.j.wu.ld.am+34.as.gl+2.bo UP.ICHOS.cf.me.cu.f da.fe+10.ci.pp+14.PRODUCT.ch bq t ff l co jm m i.
qt.ko.SPOKED+42.TWELFTHS.fe+5.d+565.hn+gx+109i+dg+fs+109....ck.li.rp+2.OF+BAMBOOS CHARACTERS rg..kj.SHAFT.d+ft..
dg*16fc.A B C D E F G H I J K L M N O P Q R S T U V W X Y Z.yj.bx.d+bu..iw.DEGREES.FILL.ad+1ap+1.k+lc..rh+74.BUBBLE.
RTAGS.a+175.ab+12.a+7.ky.OR+27.ed.ay+3.aa+12.MARKER.LONSUM.av ay.jo NEO.gf+15.dr.aw+3.xh+2.TEDUNG.d+703.SASAK.ks.aj.
cn.a+29.p+9.fh.a+576.d+266.de LARGEST bw e.dl.d+aa j h..PIECE.ao+6.TURNSTILE.cv+1.CLICK.fb.cx+106.CRESCENTS.uy+3.
d+220.gt.SUBUNIT.PLASTICS.be.DIVIDER.fo.x+73.d OR.yb.fp.dm+34.INDICATOR.TREE.og+3cu+249ei+249bw+249yt+cu+249..ga+2.
ci+mj..df+55.ee+174SPOKED+42.av+51.ah.WIND.xd.ln.tp yh.me+aa ab..h+LEG..cx.t l m i.FLEX.f.SUIT.AREA.wr.ad+1u+1a+373.
SECANT.STAFF.ANO KATO.gy.IN OUT.FLAG.rl.b+104.ON+251.q+44.bn.TICK.CHEST FRONT+WALL..my.va.fm pg da.tn.al bl.CORNERS.
bd ck.STEM.ab+13.yh.LEAF.SUNG TAM.tp.ENVELOPE.ay+41.bw+177.BALL.bd.ea.bm+137.k+A..BARLINE.ad+1u+1a+cs+52..od+bt..pg
da.bl.THIRDS.rx.kr.a+bt..aw ed bk.BUD LEAF VINE+213.cx+74.ZAPYATAYA.c+AA AI AU E I II O U UU ba+23..ag+197e+197.ar
bz.eg+14.dh.r*11.a+266.ex mj.DODEKATA.l+333.gs+74dc+74.RIGHT-SHADOWED+217.og+3.d+32.av+68.FENCE.h+28.KNUCKLE.n+xp..
d+209.TOGETHER.an+3.eg.HEADED+3.za+o+za...GLASS.ak.mx.cx+37.g+6.dy f da.av.cx*5.po+122.c+AA AI AU E EE I II O OO U
UU ba+23..SATANGA.q+UP..am*rf..ao dx+122.a+587.d+219.MOUSE.a+lf..d+nm*102dn*102jk*102ft..ao*TO+13..ar.u+1ap+1.k+EN..
do.ox.eb+526xz+352ga+13.xj.fp+a+og+bo....n+zd..a+bt q+7..li+0.SCISSORS.cm.j+in.h+in..U-SHAPED+3.CIRCULAR+ARC..rh+74
io+74.cx+O..de e.c+I U..mg+i..ai af.ao kp+3.r*107bg.JOINER.c+5.l+dc+74..dm+34am+34.cm+682.a+kh*752nm ls*752km jk..
DIFFERENTIAL.ih+2.d+nm*426dn*426gz jk*426..ea CROP cx+14.ad+1u+1a+cd+128cs+35fi+15..ai+3.a+ev..a+33.CAT+8hw.al.wl+
td..gx+109.rl+2.ET+55.AT+72.qp+3.s+1ad+1u+1ap+1a+cs+52fi+15..d+29.LENGTHENER.fl+3.cf+47.gs+74.a+lf bf+7..eg+77.a+
g+135..ch bq t ff ON+251l co jm m i.dl+TO.fk+TO..r+hp+144..ee+51.ux.l+182.se*48.ob sf.cm+682ef+310.dj.jo.ax a+8.o+
GAD+261..ib sp mb md jr HE ow nk gu wp is PE QOPH ty jy ha hg zh yo np qa ma.mx+4.ga+13.ik+154.ee+av+51lr+51..d+576.
LEERAEWA.SHADED+122.OR+144.ay+37.CUBED ct.n+zk..a+ab+29..cq.q.at+2.KNUCKLES.ee+174.a+ol RAFE..n+LAL..TO+bh+346..
AS-SALAAM.ALTA BASSA.fi+15.a+f+117ab+12..ag+104e+104.kj+it..qq.a+zn..o+l+g+76...j+WAY+TRAFFIC...k+U..MONKEY.ed hl
bk.A go B nh C uj D jg E ek ETA F G hi H I nj J K kk L pd M MU N NU O gy lp P tt PI PSI Q R uo S mx T TAU jj*4U gi V
W X XI Y Z yv.ig+43jn+43.eo+0.a+129.da.zq.POWERS+OF+t...aw+6.fq+202.bz+5.d+aa+388j+388h+388..e+37.bm+748.fj.ju+288.
v+5.fn+55.qf+EVEN+390ODD+390..CHRONON.vk+351.ad+1u+1a+425.ai+3af+3.d+m+36..ao+759.df+6.SQUARES.l m i.ay+h+222..fa+6.
d+aa+185j+185h+185..MARK-1 MARK-2.nx+NOTES..INTRODUCER.xh+WAVES..a+aa+13..d+g+6j+106..i+33.ir+AT+uk+OF+123....IN+
SILHOUETTE..RELATION.ON+32.cd+128fi+15.d+gz..a+55.oo.gd+p+m+6i+6...fq+nq sz..-KHYIL.bo+82cu.yc+O.O.hn+FORTY-FIVE+109
gx+109l+dg+THIRTY-FIVE+109..m+dg+iy+109..i+dg+fs+109TWENTY-FIVE+109....r+mn+144..ANTIRESTRICTION.DZE TSE YU ZE.FONT+
SIZE+4..ad+1u+1a+cd+128cs+52fi+15..BISHOP KING KNIGHT PAWN QUEEN ROOK.BIG+47e+47.cw cx+106ky.tp+STEM+78..BA DA FA HA
KA KVA LA MA NA w PA fx QA SA SUA TA fg nn VA XA XVA YA.l+gs cx dc qy.m+io vt..REPEAT+0.hh+fn+241..ab+40.bo+82UP+82
ab+82.j+182h+182.ALLO jo NEO.DE EL EM c.h+og+bo+165UP+165...kt+14ej+86.hh+14bc ej+86.b+AKHMIMIC+KHEI.ALFA BOHAIRIC+
KHEI.iu+SHEI.CRYPTOGRAMMIC+EIE GANGIA NI SHEI.DALDA DEI DIALECT-P+cd HORI KAPA NI.EIE FEI FI hi GANGIA HATE HORI
IAUDA KAPA KHEI KHI KSI L-SHAPED+HA.LAULA MI NI O zf+COPTIC+sl DJA ESH GANGIA HA HAT HEI HORI OOU SHEI SHIMA.NUBIAN+
NGI NYI SHIMA WAU..OOU PI PSI RO SAMPI SHEI SHIMA SIMA SOU TAU THETHE UA VIDA ZATA..a+kh*314nm gz ls*314km jk..b+
RA..a+dx+k.e+37..e+ROTATIONS..BO CHO CO DO FO GO HO KHHO KHO KO LO MO NGO NO NYO O PHO PO RO SO zi TO VO YO.
CULTIVATION+0.qu+l..er qw+17.ad+1u+1a+eh+35cs+35fi+15..A BA DA GA HA I KA LA MA NA w PA RA SA TA U WA YA.k+ja..bq jm
i.aw kw.d+ar+3bz+3..bm+zm+137..A BIG+47dk+332E cf+47YAT.a+x+0..uy+503qp+503.dj q+44h.ik+154af+3hq+154.ea+14.uy+ao
bm+723.qp+bm+723..COMPLETION.eg+14jp+240f+335MAGNIFYING+262.cw ky.k+yf+k+LU3....uz+0.g gv+307k+307.b+AY BEE CHEE DEE
EF EL EM EN ENG ER ES ESH ETH EW GAY H JEE KAY cj+508OI OW PEE cp+508TEE THEE VEE WU YEE ZEE ZHEE..SUBGROUP+OF*120..
kr hs+mg+A...a+bt ah ab+12..ny+so.SINGLE-LINE+ny+27..a+f+55ph..d+aa*a+aw am px....EMBEDDING ISOLATE df OVERRIDE.cr+
d+bh+246...r+kn+27eo+0ny+kn+27dl+TO..SINGLE-LINE+eo+0ny+27..BUT+ny+798.OR+338UNDER+423.bx+cf+ON...tl+2.TESSERA+245.
a+bt v q+7ly..b+A AM ANG AT BU DA E ENN ENY GA HAR HIYO HOLO HORR II KO NGAA NUNG O ODD PU SII SSUU TTE UC UU VIYO
WI YA YO YU YUJ..DISIMOU TETRASIMOU TRISIMOU.a+cb..hh+400bc+55.bm+213.a+ec+cd+31...c+AA AI AU E I II O U UU ba+R...
b+A AI ATIU B C D E F G H HP I J K KP L M N NG NY O OE P Q R S T U V W X Y YU Z..e+V+5..A AH E I O OO.BY+ok*339..eo+
SIGNS..b+ALIF BA BHE uj DAALI ht E FA GA GBE HA I JIIM xy es KPO LAAM MIIM NHA is et O PE QAAF RA z SINNYIIYHE TU U
VA np YA YHE ZAL..jl+52fi+15.vq+a+m+33...MGO+SGAB+MA...ON+32S+nv+424..b+A AA AK AMB d CLOSE+E.E EB EC ECH ECS ED EE
EF EG EGY EH EJ EK EL ELY EM EMP EN ENC ENT ENT-SHAPED+0ENY EP ER ES ESZ ET ETY EV EZ EZS I II NIKOLSBURG+OE UE.O
OEE OO RUDIMENTA+OE UE.cp+ER.U UNK US UU..ir*TO+av+121...iw+279.bc+55.ko ds.hh+14bc bk+14.a+og+j+oh+ar+580bz+580.
if+13TO+13.ai h+if+13TO+13.af...gq dh+2.rc+101f+aa+12ab+12.cu+101cj+TIP+239.bw+101NARROW+101yt+cu+101..ao*if+13.f+
ao*if+13..SQUIGGLE+3.xz+352ga+13.ACTUALLY+27.ORDINAL+167.a+LOWERED+195ep+195..a+bt v j+7q+7ly..kd+RECEIVER..bi+2.AEN
sl AN BAN zs CHAR CHIN CIL DON ELIFI EN FI GAN GHAN HAE HAR vd+0HE HIE HOE IN JHAN JIL KAN KHAR LABIAL+0LAS ze NAR
ON PAR PHAR QAR RAE SAN hg TAN TAR ef+GAN.UN VIN WE XAN YN ZEN ZHAR.av yh ay.SYRIAC+30.a+bt q+7x*d+7.UPTURN..aj fa
bn bj.ao+6bx+73.js n+pu..p+9aq+fd..dy.a+ah ei+zt+12...i+fe+76..dj*TO+199..FLOPPY+DISK..iw*141.ej+pp+400..d+i+36..r
bg wu.a+bt v x..A+IE.EN+GHE.TE+TSE..rc+101f+123cu+101cj+TIP+303.bw+101NARROW+101yt+cu+101..aw+135g bi+408.eb+403
vk+351.r+kn+27eo+0ny+27bp+20.OR+dl+TO*243..a+ny+27..fc+0.a+cj+LEG...a+ah ck bu..by+140.SHOULDER+HIP+MOVE...zz sy
NEO.d+bd cb ck bu.bg.bo+0UP+0.hm dr.bd g+5ck v+6bp.be+bh+q+j+TO+bh+642....cr+dj+TO+bh+666cr+199..j+TO+bh+690cr+199..
q+j+TO+bh+475......a+og+282..a+dw ck..jw.b+yn+d+420...fn*bh+7q+146cr+7..t l*25fd m cc i.bq l*25fd cc.t l*19fd m cc
i.r bg*107.bf+7.b+RA WA YA..a+f+55..a+f+ck+26...fp+a+og+44...am*a+211..REPETITION+2.a+hm..MGO+MDUN+MA...jo NEO+ANO
KATO MESO..ch*19jq*16ew*16bq*19lg*16t*19ff*19gx*16l*19co*19fs*16jm*19lx*16fd*16fz*16m*19cc*16i*19.j+53h+53.a+kh*280
nm*102dn*102ls*280km jk*102ft..ci+ex..KHOKHLOM+424nv.PING QU RU SHANG.cl+ui+20..n+pu..A I se U.FACTOR+pm+87..a+
da+236..BOOK kj.zj UDATTA.d+be+12..d+e+yn...PARAPHRASE+14.f+28xx+253e+28am.ra+mg+SHAPING..SYMMETRIC+SWAPPING..
PROPELLER+42.b+AEN AN BAN zs CHAR CHIN CIL DON EN GAN GHAN HAE HAR HE HIE HOE IN JHAN JIL KAN KHAR LAS ze NAR ON PAR
PHAR QAR RAE SAN hg TAN TAR UN VIN WE XAN YN ZEN ZHAR..r bg*142.ao me+3.BINDING+14IMAGE+14.AS+KORANIC+se+c+31....
BAG+xr..ON+32S+590STRANNO.dy f.aw+5.NO+85ci+244.PIPAEMBA PIPAEMGBIEE.fb+73.a+bt v x ab+12..kb bh+7cr+7.TREE+TRUNK..
a+TITLO..OMISSION+14.d+bh+44..a+f+236da+236..SET a+JUSTIFICATION..ei UP+49.bd+26ck+26.oe*5ga+2.ch+25jq ew bq+25lg
t+25ff+25gx l+25co+25fs jm+25lx fd fz m+25cc i+25.ao+if+13a+f+117ly*374am+652ab+12..cg+me+3..s cj*s..ac+26.po+217.
lm+0.al+14.S*ct..v*d+zn...wc+17.LOCOMOTIVE.a+kh*133mf*d+nm dn km jk..bu nm dn ls*133km jk wb..A+kc+ui...d+220bg.dj
h.k+MASH..am+652.WHEELCHAIR.q+j+370..ln+126.ai+147.bh+h+110..yx*232DZE HA.a+ah f+220bu..ARROWHEADS.ag+197.de+83e+83.
r bg eb.bo+og+j+165h+165...in+268.bl+14.PATH+AROUND+POLE...be+203.ao*wc+75..OF+NOR+27..A DA DE DI DLA DO DU DV E GA
GE GI GO GU GV HA HE HI HNA HO HU HV I KA LA LE LI LO LU LV MA ME MI MO MU MV NA NAH NE NI NO NU NV O QUA QUE QUI
QUO QUU QUV S SA SE SI SO SU SV TA TE TI TLA TLE TLI TLO TLU TLV nn TSE TSI TSO TSU TSV U V WA WE WI WO WU WV YA YE
YI YO YU YV.d+v+4..x ab+12.q+44h.ag+384ek+4kk+4NABLA rv+312tt+4PI+4uo+4e+701jj+4.BAYANNA CAYANNA DAYANNA DDAYANNA
GAYANNA JAYANNA KAYANNA PAYANNA TAYANNA TTAYANNA.DOUBLE-LINED+324rl+2.k+ov..hh+14bc bk+14ay+67.be+53.SCREEN+4.a+sq+
YER.ah..TO+nc+44..d+CROSSBONES..be+bh+dj+TO+bh+199cr+666..j+TO+bh+199cr+690..q+j+TO+cr+475....cr+q+j+TO+cr+642......
aa+49.k+lh+22..fn*kb bh+221cr+221a+f+12QUILL x TICK+IN+en+221qn+221..dr...b+AZU BIG+47BUKY CAUDATE+CHRIVI.CHRIVI
DJERVI DOBRO DZELO FITA FRITU GLAGOLI HERU I ad+IZHE.IOTATED+441IZHE IZHITSA KAKO LATINATE+MYSLITE.LJUDIJE MYSLITE
NASHI ONU OTU PE POKOJI RITSI z SHTA SHTAPIC SLOVO e+YUS*138.SPIDERY+HA.TROKUTASTI+A.TSI TVRIDO UKU VEDE YATI YERI
YERU YESTU YO YU ZEMLJA ZHIVETE..gl+172.CROSSHATCH+110.bw e.BISHOP*95EQUIHOPPER*744KING*95KNIGHT*434KNIGHT-BISHOP
KNIGHT-QUEEN KNIGHT-ROOK PAWN*95QUEEN*95ROOK*95ef+440.n+U+o+pc+n+U......a+bt ah..d+565bg.gp.dj q+44.STANDARD+4.OF*
OR+dl+TO.ny+27...a+tf..BUR+o+BUR...a+dw bt ah..a+bd bu..b+A AH AI sl BRA eq ht E EHCHA EHKA EHPA EHTA EHTSA EIN he
HA HYA I KA es KYA LA MA NA O OIN PA SA z TA nn no U WA ZA sk..vq+3.s+1ad+1u+1.ir+a+QUILL..ui+40.A go B nh C uj D jg
E ek ETA F s+264G hi H I nj J K kk L pd M MU N NU O gy lp P tt PI PSI Q R uo S mx T TAU jj U gi V W X XI Y Z yv.
nq+300sz+300.nm dn jk.a+OVERLAID+377..n+oy+18..TO+OR+207..aa+82.cw+5.DEPARTING+170.d+bd ah bu..fp+a+og+UP....D F G R
S T.kn+27bp+20.cl py.dy*pz+184.cq pz+184.fq+WALL+83..SKEWED+32.d+bh+777..fe+r jf+6..a+ul+a+cd+gf.....a+RAYS..cu
UP+82.BUD VINE+213.ao*if+13a+665.us me+3.je+14.ea+14hh+14kt+14bc bk+14ej+86.a+x*226..CLEF*OTTAVA+372..ko ds be.
LAYANNA NAYANNA SAYANNA.LINK+ESCAPE..aj+6.REDUPLICATION.bo+222j+222h+222UP+222.bh+j+110..py YAWN.bo+49UP+49ab+49.
r*155bg.ARMENIAN+ETERNITY+0.FIST SVASTI+c*319..xh+px..INTERLACED+yg..UNDERLINE+4.fo+ds..hn+323.A AA AI AU BA ic CA
eq DA hd dv ht E GA he HA I II JA ke KA es LA nw MA NA w ia et O PA fx RA SA z ji TA fg hc dp U UU VA ba+23YA.bo+49
ei.s+1ad+1u+1ap+1a+g+5..zm+137cn.n+lc..eg+fn+55gl+172..a+JEGOGAN..d+nm jk..PLACE+MEDAL..rr+FIRST+157..d+bz+cl+
aw+64....PARAGRAPHOS.MGO+RGYAN..RECYCLING+4.a+dm+34de+166..iw*795.ENCLOSURES.LANE+MERGE.bm+748.av+51lr+51
RECTILINEAR+174.me QUAD mz.q+17.n+lh+22..a+dw ah..c+AA AI AU E I II O U UU..ao+bm+ar+THEN+ik+uy......aa+190.kx.d+
h+777.l+333.f cg.hm ab+421.uy+169qp+169.be+428.by+m+io+74...qr+3.COVERING+89.CANNON we ELEPHANT GENERAL wm MANDARIN
SOLDIER.OF+vx+2..s+1u+1gf+11.j+28h+28.df as.QUILT+bk+ph*IN+251....a+x*d+7...cq+143pz+184.a+v bf+7..aj di ak fa bn
bj.c+AA AI AU EE I II OO U UU..eg+14f+240xt+67ay+bk+14ej+86..oj+ku+4.GIBBOUS+ku+4..zt+x+5..DE DJE DZJE LJE NJE SJE
TJE ZJE.a+br+7bf+7..kt+14.b+A BBE BE CE yx DE DHE E EI FE GA HA HHA I IJE JE KA LA nw ME NE NJE O PE QA RE SE lu TE
nc U VE XE Y ZE..fk+TO.."

def nameRows : String :=
"ABACUS AC+CURRENT.ACCORDION ACCOUNT+OF.ACK mm ACTIVATE+603bd+oe eg.ADDRESSED+TO+nc+SUBJECT...ADHESIVE+BANDAGE.ADI+
SHAKTI.ADLAM+ALIF+330ag+511ce+ez.p+9GEMINATE+ce+ez..ot+2er ad+at+2bi+2.rs+2fa e+511y+330.ADMETOS ADMISSION+TICKETS.
ADULT AEGEAN+kg+2DRY+754LIQUID+754rr+pl+157kl+157.aq+586WEIGHT+BASE+UNIT.FIRST+157FOURTH+157pl+157kl+157.sj+db+g
dd...AERIAL+TRAMWAY.AFGHANI+0AHOM+ce+c+ap+LA LIGATING+RA.RA...p+9b+A cv+BA GA TA.BA ic CA eq DA hd dv ht GA he HA JA
ke KA es LA nw MA NA w ia et PA fx RA SA TA fg hc dp.aq+fd cc.c+KILLER RULAI dh e+241.ax+VI.y+c+A AA AI AM AW E I II
O U UU...la*ARRIVING DEPARTURE.AKTIESELSKAB ALARM+CLOCK.ALCHEMICAL+ax+qf+AIR ALEMBIC ALKALI ALKALI-2 ALUM AMALGAM
lb+ORE.AQUA+REGIA REGIA-2 VITAE VITAE-2.AQUAFORTIS ARSENIC ASHES AURIPIGMENT BATH+OF+MARY VAPOURS..BISMUTH+ORE.av+
SULFUR.BORAX BORAX-2 BORAX-3 BRICK CADUCEUS CALX CAPUT+MORTUUM.CINNABAR uu+ANTIMONIATE ORE.CROCUS+OF+uu COPPER-2
IRON..CRUCIBLE CRUCIBLE-2~5 DAY-NIGHT DISSOLVE DISSOLVE-2 DISTILL ki vb GOLD GUM cx+DRAM OUNCE.wm+DUNG.HOUR IRON+ORE
ORE-2.IRON-COPPER+ORE.LEAD+ORE.LODESTONE MARCASITE MERCURY+SUBLIMATE SUBLIMATE-2 SUBLIMATE-3.MONTH NIGHT NITRE OIL
PHILOSOPHERS+SULFUR.POT+ASHES.POWDER POWDERED+BRICK.PRECIPITATE PURIFY PUTREFACTION QUICK+LIME.QUINTESSENCE REALGAR
REALGAR-2 REGULUS*OF+lb ANTIMONY-2 IRON..REGULUS-2~4 RETORT ROCK+SALT SALT-2.SAL-AMMONIAC SALT*OF+lb uu+
ANTIMONIATE...SCEPTER+OF+JOVE..SILVER SOAP SPIRIT STARRED+xn.STRATUM+SUPER+STRATUM STRATUM-2..SUBLIMATE+OF+lb uu
SALT+OF+lb uu....SUBLIMATION SULFUR TARTAR TARTAR-2 TIN+ORE.TINCTURE xn TUTTY URINE VERDIGRIS VINEGAR*OF+lb..
VINEGAR-2 VINEGAR-3 VITRIOL VITRIOL-2 ng WAX...cd+4ALEMBIC ALERT ALIEN+MONSTER.ALL+AROUND-PROFILE dl+TO..ALM kn+dl+
OR+27TO*a+631...cv+ONE-WAY+380.ALTERNATIVE+KEY+4.AMALGAMATION+OR+COPRODUCT..AMBULANCE AMERICAN+FOOTBALL.gj AMPHORA
ANATOLIAN+HIEROGLYPH+A001~331 A010A A026A A039A A041A A045A A046A A046B A066A A066B A066C A097A A098A A100A A101A
A102A A104A A104B A104C A105A A105B A107A A107B A107C A110A A110B A115A A125A A135A A202A A202B A207A A209A A215A
A216A A227A A267A A289A A294A A299A A309A A329A A332A A332B A332C A333~82 A336A A336B A336C A359A A364A A368A A371A
A381A A383+RA+OR+RI...A383A A384~92 A386A A393+ch.A394~409 A410+BEGIN+496.A410A+uk+496.A411~97 A450A A457A A501~30..
ANATOMICAL+100ANCHOR d+45ANGER+4eg*a+S+135dr..ANGRY+8ANGSTROM+0ANGUISHED+8ANKH ANT ANTENNA+a+BARS..fl+dk+130
CONTOUR+156ar+755GAPPED+130INTEGRATION cl+130qn+698an+en+296j+296cl+130h+296qn+296..APC APL+FUNCTIONAL+ax+go*129
qq+13aw+qq ah JOT kw xi dr.cm+13DEL+ah xi bp.jg+xi dr.ed+129bo+st+38SHOE+xi.ky+JOT dr..ar+VANE.ek+129al+175I-BEAM
nj*129JOT+ah dr.j+SHOE+xi..ai+VANE.gy*129QUAD*qq aw fh DEL jg ed DIVIDE bo+st.ar+3dl al JOT ai+3bl ny+144bi af+3my
UP+st.bz+3.QUOTE+QUAD dr.uo af+VANE.du+129my+13SQUISH+QUAD.kw+175xi+38bp+175UP+st+38SHOE+JOT.ky+ah JOT hm..bz+VANE.
ZILDE...APOLLON gp APPLICATION+PROGRAM+COMMAND..APPROACHES+nc+LIMIT..qd+BUT+ny+527.dl+OR+27TO*OR+nc+IMAGE+OF......
AQUARIUS ra+BASELINE+qw+17.cm hh+sw sx wi op tf tg.sw*u+1ap+1a+17.sx*31DATE+50DECIMAL+50DISPUTED+uk+OF+AYAH...f+h+
cw+r*45...DOUBLED+qs.EMPTY+dj+ig+21jn+21..uk+OF+AYAH vx+2..wi*u+1ap+1a+g+6bx i+33..op*31bq+340FOOTNOTE+124hx+21cx+
qs+o+qs...er+10ae+sw.tf*u+1ap+1a+g+5..tg*31de+aw+5qw+g+r bg ks+613...j+cw+10.b+AE AFRICAN+yz hf wx*a+m+36...sl*s+1
ad+1u+1ap+1a+m+fe+r bg bm+ar+6...i+719..cd*s+1u+1gf*11WASLA*11a+ATTACHED+en+h+tf*419..wi tf j+464h+464qw+g+10.qn+h+
wi*419...g+6id+429er+r*11bg*11.j+q+12.qs+242h+q+x*419..WAVY+er+10...BEEH*24BEH*s+1ad+1u+1ap+1a+g+bg+406.er+6ae+507e+
cs+6V*5.m+fe+HORIZONTALLY+5bm+bz+bg*548....i+fe+bg+142....BEHEH*24DAD*747DAHAL*11DAL*s+1u+1a+g+bg*600.t+36ae+e+V+5.
V.bx m+fe+r+282bg..i+fe+jf+bg+600.....DDAHAL*11DDAL*11ix+BEH yz wx.DUL*11DYEH*24E*24FARSI+fi*s+1ad+1u+1ap+1a+id+gd+
p+t+5m+6i+6...ae+V.m+36i+36...yz*s+1ad+1u+1ap+1a+g+bg*406MOVED+5.m+fe+bg bm+393..i+93..GAF*s+1ad+1u+1ap+1a+ae+12bx
m+36i+93..mp*s+1ad+1u+1ap+1a+g+5m+36..GRAF GUEH*24jl*s+1ad+1u+1ap+1a+id+gd+p+t+5...er+6ae+507e+ra+b+yn+r d+420bg....
m+fe+r bm+393..i+fe+r ab+6....er*31xu*DOACHASHMEE*24s+1GOAL*s+1ad+1u+1ap+1a+er+6..ad+1u+1ap+1a+ae+V.fi+242..ig+er*cd
np fi..eh*s+1ad+1u+1ap+1a+m+84i+36..JEH*11xy*s+1ad+1u+1ap+1a+g+10bx m+93i+36..KASHMIRI+fi.KEHEH*s+1ad+1u+1ap+1a+g+6
e+V.m+fe+r bg bm+393..i+fe+r jf+5....ge*24KIRGHIZ+OE*11YU*11.ul*s+1ad+1u+1ap+1a+ir g+6f+13e+ra+b+yn+6..V.m+84..jn+
cd.df cs*s+1ad+1u+1ap+1a+g+10m+36..NG*24NGOEH*24hf*s+1GHUNNA*11ad+1u+1ap+1a+g+5ae+e+V..bx e+yn V.m+36i+93..NYEH*24
OE*11PEH*s+1ad+1u+1ap+1a+e+cs+6V...PEHEH*24wx*s+1ad+1u+1ap+1a+g+r bg*d+NO+36...m+36..un*s+1u+1a+g+bg*142.t+36er+6ae+
V.pe bx e+ra+570hf+6V*5.x i+719..RNOON*24ROHINGYA+fi.RREH*11SAD*s+1ad+1u+1ap+1a+m+84i+93..ub*s+1ad+1u+1ap+1a+g+
bg+142.id+gd+p+t+6...t+36ae+V.e+ra+570.m+fe+bg*406..i+fe+jf+6....qx*747cq+np.ec+cd.xk+xy.yn*s+1ad+1u+1ap+1a+g+5m+84
i+36..TCHEH*s+1ad+1u+1ap+1a+g+6e+V...TCHEHEH*24TEH*s+1ad+1u+1MARBUTA*s+1GOAL u+1.ap+1a+bx e+TEH+6V.m+fe+r+282....
TEHEH*24THAL*11yp*24THIN+fi.TTEH*s+1ad+1u+1ap+1a+e+V...TTEHEH*24U*s+1u+1a+er+r*31...UIGHUR+KAZAKH+KIRGHIZ+cd+
gf+111....VE*11VEH*24np*s+1u+1a+g+r wc.id+429er+242bx i+36..fi*BARREE*s+1u+1a+id+429er+242..s+1ad+1u+1ap+1a+er+r*24.
e+V.ly m+93i+fe+bg+d+g+6er+6e+hf+6.......YU*11ZAH*24qb*s+1u+1a+ae+V+6....cy+sl+a+cd+46eh+225cs+439fi+11..AKBAR+31
ALAYHAA+371ur+31ALAYHI+AS-SALAAM AS-SALAATU+WAS-SALAAM..ALAYHIM+371ALAYHIMAA+371cd+gf+a+ec+cd+11...a+op+11..ALLAH+31
AZZA+WA+JALL..BEH+a+cd+46jl+189xu+111eh+39ge+189cs+24hf+15un+15fi+11qb+15..BISMILLAH+AR-RAHMAN+AR-RAHEEM..DAD+a+
cd+46jl+404eh+39ge+225cs+39un+11fi+11..yz+a+cd+46jl+39eh+39ge+225cs+189fi+11..mp+a+cd+46eh+39cs+ad+1u+1a+cd+128cs+15
fi+15..fi+11..jl+a+cd+46eh+189cs+404fi+11..xu+a+cd+gf+31.eh+39cs+ad+1u+1a+eh+35cs+35..ec+cd+35.fi+31..
JALLAJALALOUHOU eh+a+cd+46jl+404cs+ad+1u+1a+cd+128jl+52fi+15..fi+11..xy+a+cd+782jl+39eh+39ge+39ul+24cs+328fi+11..ge+
a+cd+46jl+31eh+39cs+39fi+11..ul+a+cd+s+1u+1gf+11a+er+r+11bg+11.qs+r+11...jl+439xu+35eh+ad+1u+1a+eh+52cs+52fi+15..
ge+225cs+s+1ad+1u+1ap+1a+512.fi+11..cs+a+cd+s+1gf+31.jl+465eh+ad+1u+1a+jl+35ge+35cs+35fi+15..ge+465cs+s+1ad+1u+1
a+373.fi+31..MOHAMMAD+31hf+a+cd+46jl+316xu+111eh+ad+1u+1a+cd+128jl+52cs+52fi+15..ge+39cs+s+1ad+1u+1ap+1a+425.hf+15
un+15fi+11qb+15..wx+a+cd+46jl+39cs+ad+1u+1a+jl+52cs+15fi+15..fi+11..QALA+USED+609.QUDDISA+SIRRAH.RADI+ALLAAHU+ANH
ANHAA ANHUM ANHUMAA ANHUNNA..RAHIMAHU+ALLAAH.RAHIMAHUM+ALLAAH.RASOUL+31un+504SAD+a+cd+46jl+ad+1u+1a+512.ge+35cs+225
un+11fi+11..SALAAMUHU+ALAYNAA.SALAM+31SALLA+u+1USED+609.SALLALLAAHU+ALAYHI+WA-AALIH..SALLALLAHOU+ur+WASALLAM..
SALLALLAHU+ALAYHI+WAAALIHEE+WA-SALLAM...ub+a+cd+46jl+ad+1u+1ap+1a+eh+35..xu+111eh+ad+1u+1ap+1a+cd+128jl+35..ge+ad+1
u+1ap+1a+425.cs+ad+1u+1ap+1a+jl+52eh+35cs+52..un+11fi+11..SHADDA+a+sw+283sx+31wi+283tf+283tg+31ec+cd+31...qx+a+cd+46
jl+328xu+111eh+s+1ad+1u+1ap+1a+373.ge+24cs+s+1ad+1u+1ap+1a+ge+52cs+52..un+11fi+11..SUBHAANAHU+WA+TAAALAA..TABAARAKA+
WA-TAAALAA.yn+a+cd+46jl+39cs+ad+1u+1ap+1a+jl+52cs+35fi+15..fi+11..TEH+a+cd+46jl+ad+1u+1a+eh+52cs+35..xu+111eh+316
ge+316cs+s+1ad+1u+1ap+1a+cd+128jl+35eh+35ge+35fi+15..hf+15un+15fi+11qb+15..THAL+504yp+a+cd+46xu+ap+1.eh+31cs+24hf+15
un+15fi+11qb+15..UIGHUR+KIRGHIZ+fi+a+er+r+a+cd+gf+699........WASALLAM+31fi+a+cd+46jl+189er+r+a+AE+11cd+782E+699jl+39
xu+111eh+39ge+35cs+24hf+15OE+11un+15U+11np+11fi+11YU+11qb+15...xu+111eh+189ge+39cs+328hf+15un+15fi+11qb+15..ZAH+a+
cs+ad+1u+1ap+1....qs+WAAJIB.MADDAH+6df+hf+GHUNNA.jz+hf+GHUNNA...rq+sl cd BEH DAD DAL ix+BEH yz hf wx.qe+sl BEH DAD
DAL yz mp jl eh ge ul cs hf wx un SAD ub qx yn TEH THAL yp np fi ZAH qb.yz mp jl ad+sl BEH DAD yz mp jl xu eh xy ge
ul cs hf wx SAD ub qx TEH yp fi.eh xy ge ul LOOPED+sl cd BEH DAD DAL yz mp jl xu eh ge ul cs hf wx un SAD ub qx yn
TEH THAL yp np fi ZAH qb.cs hf fv+jl+a+DAL..cs+a+jl+a+TATWEEL.....wx un SAD ub qx STRETCHED+sl BEH DAD ix+BEH yz.yz
mp jl xu eh xy ge cs hf wx SAD ub qx yn TEH yp fi ZAH.yn TAILED+sl DAD ix+hf wx.mp jl eh ge ul hf wx SAD ub qx fi.
TEH THAL yp np fi ZAH qb.aq+df+6c.cl+sx op tg.rw+0PIASTRE+408PLACE+OF+SAJDAH..POETIC+VERSE+0.POUND+408bi+2ep+qw+17.
RAY au+sw.h+cw+r*45bg..jc+ig+se+a+FILLED+346....du SHADDA*283c+ur+ASSALLAM.MISRA RADI+ALLAHOU+ANHU..RAHMATULLAH+ur.
SAFHA SALLALLAHOU+ur+WASSALLAM..SAMVAT SANAH SINDHI+gj POSTPOSITION+MEN..TAKHALLUS.e+sw FARSI+fi.wi ig+sl ix+rl+OF+
ge...FARSI+fi.FOOTNOTE+124eh ul+cd.cy+cd+a+ul+a+fi....wx+720SAD+720.qs cs+39hf*693wx jc+ka.SAD ub c+SAFHA.yn m+33
UPRIGHT+RECTANGULAR+ka..np sj+AL-JUZ AN-NISF AR-RUB AS-SAJDA ATH-THALATHA QIF SAH SAKTA WAQFA.fi*BARREE+a+i+93...ZAH
qb.tf jn+cs hf+693ub np sj+IMAALA ISHMAAM TASHEEL..np fi.START+OF+RUB+EL+HIZB....ml+cd.SUKUN*bg u+1ap+1.ec+cd+
MOKHASSAS..ax+g+10f+ab+ir+5..t+84bx e+yn+10.m+fe+r bg bm+ar+10...i+fe+r bg jf+10..WASLA+6.ly+FRAGMENT.TATWEEL*a+op+6
OVERSTRUCK+er np.i+93..gn+50ga+pe+10l+g+10.i+84.cg+g+as+2..ef+sw+5.ab+29y+c+g+5ae+e+V+6..e+V+6...WAVY+er+5.ZWARAKAY.
gd+CUBE+ROOT.p+9FOURTH+ROOT.PER+MILLE+0fd+556..ARC ARIES ARMENIAN+az+2gp ag+b+AYB BEN CA eq CHEH CO DA ECH EH ET yz
GHAD GIM HO INI JA JHEH KEH KEN LIWN MEN NOW OH PEH PIWR RA un SEH z TIWN TO VEW VO XEH YI YIWN ZA ZHE..cm DRAM+0
EMPHASIS+2at+2hx+21ox ez+b+j+152..bi+2e+b+AYB BEN CA eq CHEH CO DA ECH EH ET yz GHAD GIM HO INI JA JHEH KEH KEN LIWN
MEN NOW OH PEH PIWR RA un SEH z TIWN TO ef+AYB.VEW VO XEH YI*48YIWN ZA ZHE.cy+ECH+YIWN.MEN+ECH INI NOW XEH.VEW+
NOW....ao+bm+ar+THEN+CURVING+303..af+THEN+CURVING+ar hq+qp.bz...bz+THEN+ik+qp.....ARROWHEAD-SHAPED+rz.ARTICULATED+
LORRY.ARTIST+PALETTE.ASCENDING+NODE.ASCIA+4ASSERTION dz*20ASTERISM ASTONISHED+8ASTRAEA ASTRONOMICAL+ax+qf+URANUS...
zl+27ATHLETIC+SHOE.ATOM+4AUBERGINE AUSTRAL+0AUTO+RICKSHAW.AUTOMATED+TELLER+MACHINE..AUTOMOBILE AVESTAN+az+2b+A AA
AAN AAO AE AEE AN AO BE BHE CE DE DHE E EE FE GE GGE GHE HE HME I II JE KE LE ME NE NGE NGVE NGYE NNE NYE O OO PE RE
SE lu SHYE SSHE TE nc TTE U UU VE XE XVE XYE YE YYE ZE ZHE..AVOCADO AXE BABY*ANGEL zo CHICK ax.sq+OF+216a+648.sr+632
BACKSLANTED+hq+ao+a+vf+29aa+29....BACKSPACE BACON BACTRIAN+CAMEL.BADGER BADMINTON+RACQUET+d+SHUTTLECOCK...BAGEL
BAGGAGE+CLAIM.BAGUETTE+BREAD.BALINESE+ADEG+ADEG.CARIK+PAMUNGKAH PAREREN SIKI.p+9b+AIKARA AKARA*132eu+JNYA.ASYURA+134
BA*KEMBANG.CA*LACA.DA*MADU wr+ALPAPRANA yb..EF+134EKARA GA*GORA.HA IKARA*132JA*JERA.KA*164xy+134KHOT+134LA*
LENGA*132.MA NA*RAMBAT.w et OKARA*132PA*KAPAL.RA*REPA*132.SA*SAGA SAPA.TA*LATIK wr+164TAWA.TZIR+134UKARA*132VE+134WA
YA ZAL+134.nx+ax+ca+BENDE ENDEP GONG JEGOGAN KEMPLI*751KEMPUL*751TEGEH.DAENG DAING DANG*GEDE SURANG.DENG DEUNG DING
DONG DUNG LEFT-HAND+dk+PLAK PLUK.cl+PANG PING PUNG..RIGHT-HAND+dk+TAK TUK.cl+DAG DUG....PAMADA*LANTANG.PAMENENG
PANTI*LANTANG.c+BISAH CECEK REREKAN SURANG ULU+mc RICEM..y+c+LA+LENGA*132.PEPET*132RA+REPA*132.SUKU*ILUT.TALING*
REPA*132TEDUNG.TEDUNG ULU*SARI...WINDU.BALL+OF+YARN..BALLET+SHOES.BALLOON of+42BALLOT+rc+fy+X..ui*a+BALLOT rc+kg fy+
X..kg ei+X.fy+X.X..fy+X.X.BAMUM+fh ca+df+KOQNDON TUKWENTIS..cm hx+21b+A EE FAAMAE FEE FOM FU I KA KEN KET KEUX KI KO
KOGHOM KOVUU KPA KU KYEE LA LEEEE LI LOQ LU M MA MBAA MBEN MEEEE MEN MI MO MU NA NDAA w NGGA NGKWAEN NI NJAEM NJEE
NJUAE NSHA NTEE NTUU NU NUAE NYI O PA PEE PEUX PHASE-A+FIRI GBIEE+FON.GHEUAEGHEUAE GHEUAERAE KAFA KAQ KET KEUKEUTNDA
KPOQ KUOQ LAPAQ LET+KUT.LOMMAE LU LUAEP MAEKEUP MAEM MAEMBGBIEE MAEMKPEN MAEMVEUX MAENYI MAESI MANSUAE MAP+PIEET.
MBANYI MBAQ MEUNJOMNDEUQ MGBASA MON+NGGEUAET.MOOMEUT MOOMPUQ MVEUAENGAM NAA+MFON.NAQ NDA+356NDAANGGEUAET NEN NGANGU
NGGEN NGKUE+MFON.NGKUENZEUM NIKA NJAM NKAARAE NKINDI NSHA NSHIEE NTAP*MFAA NTAA.NTOQPEN NYET NYI NYIT+MONGKEUAEQ.
NZA+MFON.NZUN+MEUT.PA+356PAAM PAARAE PAMSHAE PASHAE PET PON+MFON+615PA+NJI+615..PUP ROM SEUNYAM SHINDA+PA+NJI..
SHIRAE SHOQ+NSHUT+YUM..SHUENSHUET SHUM SISA SONJAM SOQ SOT SUU TEUAEN TEUTEUWEN TITA+MFON.TU+MAEMBA.TUAEP U+YUQ+
NAE..UNKNOWN VEE.PHASE-B+FEE FEUX GHEUGHEN GHEUGHEUAEM KAM KEUAEM KEUPUQ KEUYEUX KIEEM KIQ LAANAE ul+NSHUT+NYAM..LET
LOM+NTEUM.MA*NJEUAENA NJUQA.MBA+MAELEE.MBAARAE MBEURI MBIT+MBAAKET.MBUOQ MEUQ MEUT+NGGEET.MFIYAQ MFON+TEUAEQ.
MONTIEEN NDU+NJAA.NGGAAM NGGEU+MBU.NGGUOQ*de.NGKINDI+MVOP.NGOM NSEN NSHUET NTIEE+SHEUOQ.NYAEMAE NYI+NTEUM.PARUM
PEESHI PIT PUNGAAM SAKEUAE SET+TU.SHET+NJAQ.SHEUAEQTU SIEE SUE TAAM TU+MAEMGBIEE NSIEE.VEUM WUAET YAFU+356YEURAE.
PHASE-C+BUNG FUE GBAYI GHAP GHARAE KAA KEN+FATIGUE LAW.KET KEUKAQ KEUM KEUSEUX KEUSHEUAEP KPARAQ KUOP+NKAARAE.KUT ul
LAP LIQ LU MA+KEUAERI NSIEE.MAEMBA MAESI MBAA+CABBAGE-TREE PICKET.MBANYI MBEEKEET MBERAE MBEUM MBEUX MBI MBIRIEEN
MBIT MBUAEM MBUE MGBASAQ MIEE MUAE NANSANAQ NAQ NDAM NDAP NDEUAEREE NDEUT NDIDA NDOMBU NGAQ NGGEN NGGU NGGUAEN+NYAM.
NGGUEET NGGUM NGGUON NGKAQ NGKUE+MAEMBA.NGOM NJAEM NJAM NJEEEE NJEUX NJUEQ NSA NSEUAEN NSHAQ NSOM NSUN NSUOT+NGOM.
NTAA NTEN NTEUNGBA NTU+MBIT.NYIR+MKPARAQ+MEUN..NZA NZEUM PEN PIN PIRIEEN RU SETFON SEUX SHIQ SHUEQ SUAET TAASHAE TET
TEUTEUX TITA+YUE.TITUAEP VEUAEPEN VEUX WANGKUOQ WUP YAA YEUQ YU+MUOMAE.YUM YUWOQ.PHASE-D+FAA FEUFEUAET GHAA GHEUAE
KET KEUAETMEUN KEUM KEUOT+MBUAE.KEUP KU KUN KUOM KUQ KWAET KYEE LEEEE LET LEUAEP LEUM LIEE LOQ LUM M MAENJET MALEERI
MBAA*co.MBUO MEEEE MEUN MEUT MFEUAE MFEUT MFIEE MFO MFON MGBEUN MGBIEE MGBOFUM MONI MU MVOP NDAM NDEE NDEUX NDON
NGGAAM NGGAAMAE NGGAP NGGEUX NGGUOM NGGWAEN NGKAP NGKEUAEQ NGKEURI NGKIEE NGKUN NGKYEE NI NJAP NJEUAEM NJEUT NJI
NJIEE NJUEQ NSHEE NSHUT NSIEEP NSIEET NSUM NTEE NTEUM NTUU NU NYAM NYET NYI NYUE yf PEE PEUTAE PIP PUQ PUUT RAEM
REN+MUCH zf.RII SAP SAQ SEUAEQ SHEE SHEUAE SHEUX SHII SHOQ zg SOT SUAE SUE SUU TAE TEEEE TEUAEN TEUN TEUT TI TOQ TU
TUOT WAP WUAEN YAEMMAE YEN YUOM YUOP YUWOQ.PHASE-E+A FA FAQ FEE FOM FU+CALL I REMEDY.FUE FUET GBET GBEUX GHAAMAE
GHET GHEUAE GHEUN GHEUX GHOM I KET KEUAE KEUX KI KO KPEUX KUET KUOP KUT LAAM LAP LAQ LEUAEM LOM LOON LOOT LOQ LU MA
MAE MAEM MAP MAQ MBEE MBEUM MEN MFEUQ MGBA MGBEN MI MIEE MON MUAE MVI NA NAE NDAA+MY+HOUSE.SOFTNESS.NDAP NDIAQ NDIQ
NDUN w NGEUREUT NGGEEEE NGGEUAE NGGEUAET NGGUAESHAE+NYAM.NGGUP NGGURAE NGKA NGKAAMI NGKEUAEM NGKEUX NGKUM NGKUP NGOP
NGOQ NGUAE NGUAET NJAEMLI NJEE*EPOCH.NJEUX NKOM NSHIEE NSHUE NSHUOP NTAP NTUM NYI+fm CLEAVER.NZAQ NZUQ O PA+PEOPLE
PLURAL.PAA PAAM PEEM PEUT PEUX PI PIEEQ PIET PO POON PU PUAE PUAQ PUE PUM RAE RAQ REUX RIMGBA SAA SEE SET SHEUAEQ
SHIQ SHO SHOQ SOM SUAEN TAA TAAQ TAEN+NTEUM.TAM TAQ fd TEU TEUAEQ TOO TOON TOQ TUAE TUM TUMAE VEE VEUAE VOM WEUX WUE
WUO YAP YEUAE YEUAET YEUM YEUX YIEE YIT YOQ+COVER SWIMMING.YUAEN YUEQ YUN YUQ.PHASE-F+EE FOM KA KEN KET KO KPA KU
KYEE LA LI LOQ M MA MBAA MBEN MEEEE MO NDAA NGGA NGKWAEN NI NJAEM NJUAE NSHA NTEE NU NUAE NYI PEE PEUX PUAE REE REN
REUX RIEE RII RU SAMBA SEUX SHII SHO zg SI SUU TAA TAE TET U VUEQ WA WUE YA YOQ.PI PUAE PUE RAE REE REN REUX RIEE
RII RU SAMBA SEUX SHEUX SHII SHO zg SI SUU TAA TAE fd TET TI U WA WUE YA YOQ YUQ.NJAEMLI bi+2du.BANANA BANJO BANK
BANKNOTE+a+on+0EURO+0POUND+0YEN+0..ir+CHART OF+SOAP..BARBER+POLE.BASEBALL BASKET BASKETBALL+d+HOOP..BASSA+VAH+ca+
ig+43HIGH-LOW+43jn+43LOW-MID+43MID+43.hx+21b+A BA CE DHII DO E EE ENNI FA GAH GBU HWAH I JO KA KPAH MBE O OO PA SE
TO U UWU VU WA WADDA YEIN YIE ZO...BAT BATAK+ce+c+H NG..b+A BA CA DA GA HA I JA KARO+BA.LA MA MANDAILING+HA NA SA.
MBA NA NDA w NORTHERN+TA.et PA PAKPAK+WA.RA SA SIMALUNGUN+A GA HA LA MA PA RA SA WA YA.SOUTHERN+TA.U WA YA.PANGOLAT
PANONGONAN c+TOMPI.ax+BINDU+JUDUL NA+METEK.PANGOLAT PINARBORAS..y+c+E EE I KARO+I O.O PAKPAK+E.U*qf+SIMALUNGUN+
SA......BATH BATHTUB BATTERY BEACH+a+UMBRELLA..BEAMED+ASCENDING+415uw+415gs+NOTES.qy+NOTES..BEANS BEAR+8BEARDED+230
BEATING+100BEAVER BECAUSE BED BEER+MUG.BEETLE BEL BELL*PEPPER ax a+le+12..BELLHOP+BELL.BENGALI+az+0ANJI AU+98sv+
DENOMINATOR+ho.NUMERATOR+t l*LESS+THAN+nc+DENOMINATOR....m i..p+9GANDA+2ISSHAR b+A AA AI AU BA ic CA eq DA hd dv ht
E GA he HA I II JA ke KA es KHANDA+TA.LA MA NA w ia et O PA fx RA*a+bh+159q+159..RHA sn SA z ji TA fg hc dp U UU
VEDIC+136ba+23YA YYA.tz+df c.SANDHI+2c+789y+237.ko+769BENTO+ui.BENZENE+bx*a+37..BET+4fm BEVERAGE+ui.BHAIKSUKI+gq p+9
f+63GAP+FILLER-1 FILLER-2.HUNDREDS+UNIT+2.b+A AA AI AU BA ic CA eq DA hd dv ht E GA he HA I II JA ke KA es LA MA NA
w ia et O PA fx RA SA z ji TA fg hc dp U UU VA ba+L R RR.YA.aq+ch jq ew bq lg t ff gx l co fs jm lx fd fz m cc i.c+
aj di ak bn bj.y+c+AA AI AU E I II O U UU ba+L R RR...sj+50.BICYCLE BICYCLIST BIG+fr+151fb.BIKINI BILLED+CAP.
BILLIARDS BIOHAZARD+0BIRD BIRTHDAY+CAKE.BISON BITCOIN+0BITING+LIP.av+BOWTIE dj+ay+51.CHESS+685aw*qf+RECORD.a+bo+3i+
ay+33.ay+g+44...CLUB+186fu+ON+SHIELD..jp+ar+d+405.ai+470af+470bz+d+405..ed*rf ii+ay+X..ON+30SUIT a+bo+3..bo+471
hu+602ar+166DRAUGHTS+KING ze.DROPLET FLAG ta os t+340vd+pp+545.kj*186HEXAGON aa+wh.xv de+71j+762dt+f+581xx+253rz
e+28am.ai+it dm+34.bh+783hl bw+ed hu+274dt+274hl cz+274e+383bk nf+274.ku+LILITH.NIB OCTAGON PARALLELOGRAM PENNANT pi
PUSHPIN bi+172kc h+396cz+f+581xx+253pi rz e+28am*a+f+211...af+ao cw it dm+34.ROSETTE SAFETY+293SCISSORS SHOGI+146
SKULL+676SLIGHTLY+e+71.e+ed hl bk kw.jd+8SNOWMAN SPADE+186bk*rd rf qf+21.kw SUN+721kd TINY+383TOUCHTONE+kd.TRUCK
TWO-WAY+380UNIVERSAL+758UP+471nf+602cr+783bz+166ab+wh kc.yt+e+383..yw+476BLACK-LETTER+ag+C H I R Z..BLANK+4ld+
SEXTANT-1~6 SEXTANT-12~6 SEXTANT-123~6 SEXTANT-1234~6 SEXTANT-12345 SEXTANT-12346 SEXTANT-12356 SEXTANT-1245
SEXTANT-12456 SEXTANT-1246 SEXTANT-1256 SEXTANT-134 SEXTANT-1345 SEXTANT-13456 SEXTANT-1346 SEXTANT-1356 SEXTANT-136
SEXTANT-145 SEXTANT-1456 SEXTANT-146 SEXTANT-156 SEXTANT-23~6 SEXTANT-234~6 SEXTANT-2345 SEXTANT-23456 SEXTANT-2346
SEXTANT-2356 SEXTANT-245 SEXTANT-2456 SEXTANT-256 SEXTANT-34~6 SEXTANT-345 SEXTANT-3456 SEXTANT-346 SEXTANT-356
SEXTANT-45 SEXTANT-456 SEXTANT-46 SEXTANT-56.BLOSSOM BLOWFISH BLUE+597BLUEBERRIES BOAR rc+ch+91bq+91jh+30gh jm+91
ay+71.BOM BOMB BONE BOOK BOOKMARK*TABS.BOOKS BOOMERANG BOPOMOFO+s+b+G H K P T..b+A AH AI AINN AM AN ANG ANN AU AUNN
B BU C CH D E EE EH EI EN ENG ENN ER F G GH GN GU GW H I IH IM INN INNN IR IU J JI K KW L LH M N NG NGG NN O*243OE
OM ONG ONN OO OU P Q R S SH T U UNN V X Z ZH ZI ZY..zo+a+POPPING+CORK...en+ARC+331hh+14cx+av+37gt j+67h+67.j+315bc
h+315bk+fn*o+qn+bk+14....ej+86.BOUQUET*OF+FLOWERS..BOW+d+3.BOWL+OF+HYGIEIA.a+SPOON..BOWLING BOWTIE*276ui+DRAWINGS+f+
bo+145aa UP+145ab*145.bo+f+394cu+d+aa+49j+625h+625UP+678..ei+d+aa+82j+722h+722UP+707..da+413.cu+f+180bo*145aa j*d+
ei+44..gk+180h cg+180UP*d+aa j ei+bo.h..ab*145.j+bo+cu+d+h+UP+49....cu+d+h+737..ei+d+h+449..UP+cu+d+h+bo+49.....ei+
ARC+bo+250UP+250.be+fu ed q+j+TO+bh+544cr+dj+TO+q+h*370......h+TO+bh+346cr+dj+TO+646.....cr+dj+TO+q+j*d+q+h+370..TO+
bh+544..h*d+646TO+bh+dj*TO+q+72........j+TO+bh+44..h+TO+bh+72....f+180bo*145aa*a+117.j*d+cu+44..gk+180h cg+180UP*d+
cu+bo.aa j h..ab*145.h+bo+cu+d+j+UP+49....cu+d+j+737..ei+d+j+449..UP+cu+d+j+bo+49.....UP+f+394cu+d+bo+678aa+49j+746
h+746..ei+d+bo+707aa+82j+432h+432..da+413.ab+f+394cu+d+aa+49j+49h+49..ei+d+aa+82j+82h+82..da+413...BOXING+GLOVE.BOY
BOYS+4BPH BRAHMI+gq p+9f+63b+A AA AI AU BA ic CA eq DA hd dv ht E GA he HA I II JA ke KA es LA nw MA NA w ia et O
zf+TAMIL+nw LLLA NNNA sn cp+E O...PA fx RA SA z ji TA fg hc dp U UU VA ba+23YA.aq+ch jq ew bq lg t JOINER ff gx l*19
co fs jm lx fd fz m cc i.as+oj+13g f+17dd LOTUS.c+aj ak hj zf+TAMIL+200.hr bj.bn y+c+AA AI AU BHATTIPROLU+AA.E I II
O zf+TAMIL+cp+E O...U UU ba+23...BRAILLE+PATTERN+BLANK DOTS-1~8 DOTS-12~8 DOTS-123~8 DOTS-1234~8 DOTS-12345~8
DOTS-123456~8 DOTS-1234567 DOTS-12345678 DOTS-1234568 DOTS-1234578 DOTS-123467 DOTS-1234678 DOTS-123468 DOTS-123478
DOTS-12356~8 DOTS-123567 DOTS-1235678 DOTS-123568 DOTS-123578 DOTS-12367 DOTS-123678 DOTS-12368 DOTS-12378
DOTS-1245~8 DOTS-12456~8 DOTS-124567 DOTS-1245678 DOTS-124568 DOTS-124578 DOTS-12467 DOTS-124678 DOTS-12468
DOTS-12478 DOTS-1256~8 DOTS-12567 DOTS-125678 DOTS-12568 DOTS-12578 DOTS-1267 DOTS-12678 DOTS-1268 DOTS-1278
DOTS-134~8 DOTS-1345~8 DOTS-13456~8 DOTS-134567 DOTS-1345678 DOTS-134568 DOTS-134578 DOTS-13467 DOTS-134678
DOTS-13468 DOTS-13478 DOTS-1356~8 DOTS-13567 DOTS-135678 DOTS-13568 DOTS-13578 DOTS-1367 DOTS-13678 DOTS-1368
DOTS-1378 DOTS-145~8 DOTS-1456~8 DOTS-14567 DOTS-145678 DOTS-14568 DOTS-14578 DOTS-1467 DOTS-14678 DOTS-1468
DOTS-1478 DOTS-156~8 DOTS-1567 DOTS-15678 DOTS-1568 DOTS-1578 DOTS-167 DOTS-1678 DOTS-168 DOTS-178 DOTS-23~8
DOTS-234~8 DOTS-2345~8 DOTS-23456~8 DOTS-234567 DOTS-2345678 DOTS-234568 DOTS-234578 DOTS-23467 DOTS-234678
DOTS-23468 DOTS-23478 DOTS-2356~8 DOTS-23567 DOTS-235678 DOTS-23568 DOTS-23578 DOTS-2367 DOTS-23678 DOTS-2368
DOTS-2378 DOTS-245~8 DOTS-2456~8 DOTS-24567 DOTS-245678 DOTS-24568 DOTS-24578 DOTS-2467 DOTS-24678 DOTS-2468
DOTS-2478 DOTS-256~8 DOTS-2567 DOTS-25678 DOTS-2568 DOTS-2578 DOTS-267 DOTS-2678 DOTS-268 DOTS-278 DOTS-34~8
DOTS-345~8 DOTS-3456~8 DOTS-34567 DOTS-345678 DOTS-34568 DOTS-34578 DOTS-3467 DOTS-34678 DOTS-3468 DOTS-3478
DOTS-356~8 DOTS-3567 DOTS-35678 DOTS-3568 DOTS-3578 DOTS-367 DOTS-3678 DOTS-368 DOTS-378 DOTS-45~8 DOTS-456~8
DOTS-4567 DOTS-45678 DOTS-4568 DOTS-4578 DOTS-467 DOTS-4678 DOTS-468 DOTS-478 DOTS-56~8 DOTS-567 DOTS-5678 DOTS-568
DOTS-578 DOTS-67 DOTS-678 DOTS-68 DOTS-78..BRAIN BREAD BREAK+PERMITTED+HERE..BREAST-FEEDING dw BRICK BRIDE+a+VEIL..
ut+AT+NIGHT..BRIEFCASE BRIEFS BROCCOLI zp+ir aw+a+NORTHWEST+3..kj.BROOM BROWN+100BS BUBBLE+TEA.BUBBLES BUCKET BUG
BUGINESE+uk+OF+241.b+A BA CA DA GA HA JA KA LA MA MPA NA w NGKA NRA et NYCA PA RA SA TA VA YA.PALLAWA y+c+AE E I O
U...BUHID+b+466y+301.zq+CONSTRUCTION.it*20BULLHORN*a+417.BULLSEYE BURRITO BUS*21BUST+422BUSTS+422BUTTER BUTTERFLY
BYTE+ORDER+2.BYZANTINE+nx+ax+AGOGI+ARGI ARGOTERI GORGI GORGOTERI MESI METRIA POLI+ARGI GORGI..ANATRICHISMA
ANTIKENOKYLISMA ANTIKENOMA APESO+sy EXO+NEO..APLI APODERMA+127APOSTROFOI+SYNDESMOS+NEO.TELOUS+ICHIMATOS..APOSTROFOS*
zz NEO.APOTHEMA ARGON ARGOSYNTHETON ARKTIKO+DI GA KE NI PA VOU ZO.CHAMILI CHAMILON CHOREVMA+127CHROA+KLITON SPATHI
ZYGOS.DASEIA DIARGON DIASTOLI+APLI+MEGALI MIKRI.zz THESEOS.DIESIS+APLI+DYO+245.DIGRAMMOS+EX+245.MONOGRAMMOS+497
TETARTIMORION TRIGRAMMOS+OKTO+245.TRITIMORION.DIFTOGGOS+OU.DIGORGON*PARESTIGMENON+ARISTERA+192DEXIA..DIGRAMMA+GG.
zz*347DYO EKSTREPTON ELAFRON ENARXIS+KAI+FTHORA+VOU...ENDOFONON EPEGERMA ETERON+ARGOSYNTHETON PARAKALESMA.EXO+sy.
FANEROSIS+DIFONIAS MONOFONIAS TETRAFONIAS.FHTORA+SKLIRON+CHROMA+VASIS...FTHORA+jo*DEYTEROU+ICHOU..DIATONIKI+DI KE
NANA NI+192PA ZO.ENARMONIOS+ANTIFONIA.I+YFESIS+TETARTIMORION..MALAKON+CHROMA+DIFONIAS MONOFONIAS..NAOS+79NENANO
SKLIRON+CHROMA+SYNAFI VASIS.DIATONON+DI...GENIKI+DIESIS YFESIS.GORGON+jo NEO+192PARESTIGMENON+ARISTERA DEXIA..
GORGOSYNTHETON GORTHMIKON+N+APLOUN DIPLOUN..GRONTHISMATA ICHADIN IMIDIARGON IMIFONON IMIFTHORA IMIFTHORON ISAKIA+
TELOUS+ICHIMATOS..ISON+127KATAVA+TROMIKON.KATAVASMA KATHISTI KENTIMA+585KENTIMATA*585KLASMA*192KONTEVMA*ALLO.KORONIS
KOUFISMA KRATIMA+451KRATIMATA KRATIMOKOUFISMA KRATIMOYPORROON KREMASTI KYLISMA LEIMMA+DYO+402ENOS+CHRONOU.IMISEOS+
CHRONOU.TESSARON+402TRION+402.LEMOI LYGISMA MARTYRIA+ALLI+DEYTEROS+79PROTOS+79.DEYTEROS+79LEGETOS+79PLAGIOS+ICHOS
TETARTOS+79.PROTOS+79PROTOVARYS+79TETARTOS+ICHOS LEGETOS+79.TRIFONIAS TRITOS+79VARYS+79.MIKRON+ISON.NANA OLIGON+127
OMALON OXEIA+561OXEIAI+347OYRANISMA+127PARAKALESMA+127PARAKLITIKI*127PARICHON PELASTON*NEO.dn PETASMA PETASTI
PETASTOKOUFISMA PIASMA+127PSIFISTOLYGISMA PSIFISTON*NEO.PSIFISTOPARAKALESMA PSIFISTOSYNAGMA ls PSILON RAPISMA REVMA
SAXIMATA SEISMA*NEO.SIMANSIS+ARSEOS*500THESEOS*500.STAVROS*APODEXIA.STIGMA STRAGGISMATA SYNAGMA+jo META+STAVROU.NEO.
SYNEVMA SYRMA SYRMATIKI TELEIA TESSERA TETRAPLI THEMA*APLOUN.THEMATISMOS+ESO EXO.THES+KAI+APOTHES..THITA TINAGMA
TRIA TRIGORGON TRIPLI TROMIKOLYGISMA TROMIKON+451TROMIKOPARAKALESMA TROMIKOPSIFISTON TROMIKOSYNAGMA VAREIA+561
VAREIAI+347VATHY XIRON+KLASMA.YFEN+192YFESIS+APLI+DYO+245.DIGRAMMOS+EX+245.MONOGRAMMOS+497TRIGRAMMOS+OKTO+245.
TRITIMORION.YPOKRISIS*zz.YPORROI YPSILI...CACTUS CADA+UNA.CADUCEUS zr CALL+ME+97.CAMERA*a+FLASH..CAMPING zs
CANADIAN+SYLLABICS+A AA AAI AAY AI AIVILIK+B.AN ATHAPASCAN+M S.AY BEAVER+DENE+L R..BIBLE-CREE+Y.BLACKFOOT+A E I KA
KE KI KO NA NE NI NO O S W WA WE WI WO.C CA CAA CAAI CARRIER+eq yx CHEE uj CHO CHU DEE DENE+GEE.DENTAL+S.DI DLA DLE
DLEE DLI DLO DLU DZA DZE DZEE DZI DZO DZU EE GA GAA GE GEE he GHE GHEE GHI GHO GHU GI GO GU GWA GWU H HEE HI HWA HWE
HWEE HWI HWO HWU I ad+Z.JA JE JEE JI JJA JJE JJEE JJI JJO JJU JO JU JWA es KHE KHEE KHI KHO KHU KK KKA KKE KKEE KKI
KKO KKU LA LE LEE LHA LHE LHEE LHI LHO LHU LI LO LU MA ME MEE MI MO MU NA NE NEE NG NI NO NU P PA PE PEE PI PO PU RA
RE REE RI RO RU SA SE SEE SH z lu SHEE SHI SHO zg SI SO SU fg nc THEE THI zi THU TLA TLE TLEE TLHA TLHE TLHEE TLHI
TLHO TLHU TLI TLO TLU nn TSE TSEE TSI TSO TSU hc TTE TTEE TTI TTO TTSA TTSE TTSEE TTSI TTSO TTSU TTU WA WE WEE WI WO
WU YA YE YEE YI YO YU Z ZA ZE ZEE ZI ZO ZU.CE uj+0CI CII CO COO CWA CWAA CWE CWI CWII CWO CWOO E EASTERN+W.EN F FA
FAA FAAI FE FI FII s+bd en+152f+bd cp+ab+STROKES...bo+119ck q+17k ep+17h+152bx cp+123e+106qn+152.FO FOO hx+21FWAA
ey+21HK ox I II IN K KA KAA KAAI KAY KE KI KII KO KOO KW KWA KWAA KWAY KWE KWI KWII KWO KWOO L LA LAA LAAI LAY LE LH
LHA LHAA LHI LHII LHO LHOO LI LII LO LOO LWA LWAA LWE LWI LWII LWO LWOO M MA MAA MAAI MAY ME ap+L R.MH MI MII MO MOO
MOOSE-CREE+SK.MWA MWAA MWE MWI MWII MWO MWOO N N-CREE+nc THI THII.NA NAA NAAI NASKAPI+CWAA KWAA MWAA NWAA S-W SCWA
SKW SKWA SPWA STWA SWAA TWAA WAA WOO YWAA.NATTILIK+HA HAA HI HII HO HOO SHRA SHRAA SHRI SHRII SHRO SHROO.NAY NE NG w
NGAA NGAAI NGAI NGI NGII NGO NGOO NH NI NII NNG NNGA NNGAA NNGI NNGII NNGO NNGOO NO NOO NOY NUNAVIK+H HA HAA HE HI
HII HO HOO.NUNAVUT+H.NWA NWAA NWE NWI NWII NWO NWOO O OJIBWAY+C K M N NWI NWII NWO NWOO P S SH T.ON OO OY P PA PAA
PAAI PAY PE PI PII PO POO POY PWA PWAA PWE PWI PWII PWO PWOO PWOY Q QA QAA QAAI QAI QI QII QO QOO R R-CREE+RE RWE.RA
RAA RAAI RAY RE RI RII RO ROO RWA RWAA RWEE RWI RWII RWO RWOO S SA SAA SAAI SAY SAYISI+HA HE HI HO HOO JI JU JUU M z
lu SHI SHO SHOO SHWE TH YI.SE SH z SHAA SHAY lu SHI SHII SHO SHOO SHOY SHWA SHWAA SHWE SHWI SHWII SHWO SHWOO SHWOY
SI SII SO SOO SOUTH-SLAVEY+KAH KEH KIH KOH.SOY SPA SPE SPI SPO SW SWA SWAA SWE SWI SWII SWO SWOO T TA TAA TAAI TAY
TE TH TH-CREE+TH fg THAA nc THI THII zi THOO.fg THAA nc THI THII zi THOO THWA THWAA THWE TI TII TLHA TLHE TLHI TLHO
TLHOO TLHWE TO TOO hc TTE TTH dp TTHAA TTHE TTHI TTHO TTHOO TTHWE TTI TTO TWA TWAA TWE TWI TWII i TWOO TYA TYE TYI
TYO WA WAA WAY WE WEST-CREE+CWA CWAA CWE CWI CWII CWO CWOO FWAA KWA KWAA KWE KWI KWII KWO KWOO L LA LAA LE LO LOO
LWA LWAA LWE LWI LWII LWO LWOO M MWA MWAA MWE MWI MWII MWO MWOO NWA NWAA NWE P PWA PWAA PWE PWI PWII PWO PWOO R RA
RE RI RO RWAA SHWA SHWAA SHWE SHWI SHWII SHWO SHWOO SWA SWAA SWE SWI SWII SWO SWOO THWAA TWA TWAA TWE TWI TWII i
TWOO WA WAA WE WI WII WO WOO Y YWA YWAA YWE YWI YWII YWO YWOO.xo+W.WI WII WO WOO WOODS-CREE+s+TH.TH fg nc THI zi
THWA THWAA THWEE THWI THWII THWO THWOO.Y Y-CREE+COO KOO LOO MOO NOO OO POO PWAA SOO TOO W YOO.YA YAA YAAI YAY YE YI
YII YO YOO YOY YWA YWAA YWE YWI YWII YWO YWOO..CANCEL*fj TAG.le+X.CANCER CANDLE CANDY CANNED+FOOD.CANOE CAPITULUM
CAPRICORN CAR+SLIDING.CARD+FILE+ui.cn*DIVIDERS..CARE+OF.st*xw+qu..CARIAN+b+A A2 B C-18 C-39 D D2 E E2 G G2 I II K K2
L LD LD2 M MB MB2~4 N ND NG NN O P P2 Q R RR S SH SH2 SS ST ST2 T TT TT2 U UU UUU UUU2 UUU3 UUUU X..cb CAROUSEL+wm.
CARP+STREAMER.CARPENTRY+SAW.CARRIAGE+RETURN.CARROT CASTLE CAT*hw*a+TEARS+OF+JOY..WRY+SMILE....CAUCASIAN+ALBANIAN+
CITATION+2b+ALT AOR BET CAR CAYN eq CHAT uj CHOY CYAW CYAY DAT DYAN DZAY DZYAY EB EYN FAM GHEYS GIM HEYT INYA IRB
IWN JAYN JHOX KAR KIW LAN LYIT MAQ NOWC ON PEN PIWR QAR QAY RAT SEYK z SHAK SHOY TAS TIWR TYAY VEYZ XEYN YAYD YOWD
ZARL sk ZHIL...CAUTION+0CCH CEDI+0bv CELTIC+30CENT+0dj+dd+4.CENTRELINE+jn+40im.CERES CGJ CHAINS CHAIR CHAKMA+AU+2gq
p+9f+63b+AA BAA BHAA CAA CHAA DAA DDAA DDHAA DHAA E GAA GHAA HAA I JAA JHAA KAA KHAA LAA LHAA MAA NAA NGAA NNAA NYAA
PAA PHAA RAA SAA TAA THAA TTAA TTHAA U VAA WAA YAA YYAA.MAAYYAA O+2bi+2dh+2c+aj ak bj.bn y+c+A AA AI AU E EI I II O
OI U UU...CHAM+ce+c+s+H M NG.LA RA WA YA..p+9b+A AI BA BBA ic eq CHHA DA hd ht E s+CH G K L N NG P R SS T Y.GA he HA
I JA ke KA es LA MA MUE NA w NGUE NHA NHJA NHUE NUE O PA fx PPA RA SA ji TA fg U VA YA.as+gq f+63SPIRAL cg+63.y+c+AA
AI AU EI I II O OE U UE...fj+kx*624TIE.CHART+a+ar+TREND.bz+TREND*d+YEN+0.....kg+2CHECKER+BOARD*110.CHEERING+
MEGAPHONE.CHEESE+WEDGE.CHEQUERED+195CHEROKEE+b+663e+b+663..CHERRIES CHERRY+BLOSSOM.CHESTNUT uj+uo.CHICKEN CHILD
CHILDREN+bb.CHIPMUNK CHIRON CHOCOLATE+13CHOPSTICKS CHORASMIAN+b+ib sp mb CURLED+np.md jr HE ow nk gu wp is PE ty ha
hg e+ib.zh np qa ma.aq+572.xq+168CHURCH CINEMA aw+DIVIDED+BY+aa+ir+d+qn+cx+DIVIDED+BY+211........a+ALL+BUT+cr+
j+657...aa+13j+53bh+53h+53e+aw+675.SUPERIMPOSED+X.i+aa+STROKES+675..cr+cx+268h+657.ab+110..dx+fl+3
ANTICLOCKWISE-ROTATED+om+0.dz+20rc+X.it C+704CC CD fu+FORMEE*a+t+33i+33..POMMEE.bb+LANES.me p+9om+c my.on+c+704.g+20
eo al HANGUL+nr*A.wf*A.wk*A.wn*A U.nu*A.ro*A.wq*A.ws*A.oa*A.wv*A.wz*A.SIOS*A.oc*A.sg*A..cu+217aa+ir+a+NOTCH...HUMAN+
FIGURE.IDEOGRAPH+ACCEPT ADVANTAGE ALLIANCE ATTENTION dj zw COPY CORRECT ki ch ENTERPRISE EXCELLENT uz FINANCIAL vb
bq t HAVE ig ITEM KINDERGARTEN KOTO LABOR j jn MALE MEDICINE METAL ku NAME NIGHT ff l PRINT bi RELIGION RESOURCE yh
h SCHOOL SECRET co jm SOCIETY SPECIAL STOCK STUDY SUITABLE SUN SUPERVISE fd m i ng WOOD.INFORMATION+SOURCE.pa+gc+ag+
b+C R....th+A E HA HE HI HO HU I KA KE KI KO KU MA ME MI MO MU NA NE NI NO NU O RA RE RI RO RU SA SE SI SO SU TA TE
TI TO TU U WA WE WI WO YA YO YU.KOREAN+fj+CHAMKO JUEUI..gc+238bl ii gv+c+a+631..aq+gr jq+198hv iy ew*198lg*337ie ij
gm fs+198ho lx+198fd*198iq fz*337gb cc*337.cl+dj+ch+340..jx PERPENDICULAR k POSTAL+2fr+151bx+20bk n am*bo.ab+13ay+it
kw.WZ X ka+a+203..CIRCULATION+FUNCTION.ac+26CIRCUS+TENT.CITYSCAPE*AT+DUSK..CJK+wy+BAMBOO BLUE BOLT+OF+CLOTH..BONE ui
BRUSH+56C-SIMPLIFIED+BIRD CART ux EAT EVEN vc FLY FROG GATE GOLD wm LEAF cj SALT SEE pp SILK pq TANNED+LEATHER.TOOTH
vz WIND.CHOKE CITY CIVILIAN CLIFF CLOTHES COW DEATH DIVINATION DOG EAT+410EWE EYE vb FOOT GHOST GRASS+410li rl kj+56
ni J-SIMPLIFIED+ux EVEN TOOTH vz.JADE KNIFE+56LAME+183cj+56MEAT MESH ku MORTAR MOTHER MOUND+56NET+183zf PAW+56rx
RAIN RAM RAP REPEAT SEAL pl+410SHEEP SILK SIMPLIFIED+cx+619ni WALK WHEAT YELLOW.e+56SNAKE SNOUT+56SPIRIT+56SUN TABLE
THREAD TIGER vz WALK+56ng+56qp+56.x+BXG D H HG HP HPWG HXWG HZ HZG HZT HZW HZWG HZZ HZZP HZZZ HZZZG N P PD PG PZ Q S
SG SP ST SW SWG SWZ SZ SZWG SZZ T TN WG XG..CLAMSHELL+MOBILE+PHONE..CLAPPER+BOARD.CLAPPING+td+0.CLASSICAL+389
CLEAR+673CLINKING+BEER+MUGS.GLASSES.CLIPBOARD CLOCK+hw+ch+70EIGHT-THIRTY hv+70ELEVEN-THIRTY bq+70FIVE-THIRTY t+70
FOUR-THIRTY ff+70NINE-THIRTY l+70ONE-THIRTY co+70SEVEN-THIRTY jm+70SIX-THIRTY fd+70TEN-THIRTY m+70THREE-THIRTY gb+70
TWELVE-THIRTY i+70TWO-THIRTY..qr+dk+130CONTOUR+156ar+755GAPPED+130gt cl+130h+d+j+vq+64...af+d+ai+cl+aw+ARROWS*a+dx+
l+73........qn+698an+cl+130..CLOSE+UP.dk+BOOK do+a+SERIFS..LOCK+a+KEY..MAILBOX+529hz*120hb*120UMBRELLA lz+a+SERIFS*
d+SMASH+87.....zu*a+ya RAIN SNOW TORNADO..CLOWN+8COAT COCKROACH COCKTAIL+262COCONUT COFFIN COIN COLLISION+4fh*eo c.
ca+bd+627ACUTE-GRAVE-ACUTE ACUTE-MACRON kn+dl+TO+10..ANNUITY+4fl+538dz+10BINDU+5dw*5BREVE-MACRON ut+10ak cb*5bv ac+
oe*5.qr+538cm+r*44bg.CONJOINING+bu*5.zx+kh+PNEUMATA.dg+lm+0gn+0.rn b+A BE BIG+47yx DE DJERV EF EL EM EN ER ES ES-TE
FITA GHE HA vd+0I IE te+A BIG+47E.KA cf+47yd+UK.O gy PE z SHCHA SOFT+0TE TSE U yr+IE.VE YAT YERU YI YU ZE ZHE.lm+0
PALATALIZATION PAYEROK POKRYTIE ls+PNEUMATA.fd+633fc+633TITLO*450VZMET.DELETION+2DEVANAGARI+p+9b+A KA NA PA RA U VI.
c+di..ah*5DIAERESIS-RING g+r*32bg*72.eb+626f+bd+26dw*5ac+6ck+26ae+dw*5.jn+40bu*5cl+df+5.im PARENTHESES+6k+c+10.af+
ao+5.bx+5bp*450ab+dd+10x+73..DOUBLED+631bo+ky+5.ar+3ENCLOSING+aw*377ed KEYCAP SCREEN bk UPWARD+bm+28..eo+307FERMATA
t+36GLAGOLITIC+b+AZU BIG+47BUKY CHRIVI DJERVI DOBRO FITA FRITU GLAGOLI HERU I ad+IZHE.IOTATED+441IZHE KAKO LJUDIJE
MYSLITE NASHI ONU POKOJI RITSI z SHTA SLOVO e+47TSI TVRIDO UKU VEDE YATI YERI YERU YESTU YO YU ZEMLJA ZHIVETE..
GRANTHA+p+bq t l jm m i ka.b+A KA NA PA VI..GRAPHEME+306ck+627GRAVE-ACUTE-GRAVE GRAVE-MACRON jh+mf+km.KORONIS nx+
PENTASEME TETRASEME TRISEME.dn ft.HOMOTHETIC+6v+6ni oz ae+dw*5ut+5f+ARCH+10..IS+5ll+uc+131kz+131.rn+r+32.gc+b+e+ag+G
L M N R...e+b+A*116AE go AO AV B nh C*bv.D E ESH ETH F xt+cl+A+6..G H I lk+D G R T.K L*a+f+q+38...cj+S.M N O*542P R*
bg sc.S ua T ef+W+5.U*542V W*5X Z...j+eg+10ao+10cw+10cx+bx+10.fp+6bc+r+72bg+72.h+ao+10.ky+5.ai+ao+73fp+567.cy+j+269
h+269.ei+793cj+f+616fb+73x+73ab+dd+73..jn+40bu*bg j+269h+269.MACRON-ACUTE MACRON-BREVE MACRON-GRAVE ii+307ny+bp+6.
aq+c+6.hy*6zf+PERMIC+b+AN DOI NENOE SII ZATA...cl+df+5.im PALATALIZED+399PARENTHESES+549k+c+10.bf+399fr+616au+cm+6.
h+ao+10cw+r d+bo+708UP+708.bg.cx+bx+10.fp+6bc+r+44bg+44.ky+5.af+fp+567.bx+549SEAGULL+5cp+fb+73x+73ab+dd+73..SNAKE+5
bk+bg BRACKETS+6.STRONG+793vw+2m+36bp*bg j+cx+5.wu h+cx+5..cg+bd+26g UNDERDOT.ef+cm+6.UP+ky+10.bz+ao+5.UR+6US+6ab+
dd+10bp.WIDE+ut+6ae+ut+5..sh+dd+5.X+10X-X+5qc+10.COMET cm oi+AT ii+0.COMPASS COMPLEMENT su+4COMPRESSION CONFETTI+219
CONFOUNDED+8CONFUSED+8CONGRUENT+243CONICAL+TAPER.CONJUNCTION CONSTRUCTION+c WORKER.CONTAINS+AS+MEMBER ru+
SUBGROUP*120..a+cj+123hm ab+421..CONTINUOUS+742CONTOUR+156wg+KNOBS SEQUENCE+416.CONVENIENCE+STORE.COOKED+RICE.COOKIE
COOKING COPTIC+ag+456ca+NI+6SPIRITUS+ASPER LENIS..EPACT+p+88aq+628gn+2.dq+342hx+21MORPHOLOGICAL+160zf+NUBIAN+
DIRECT+532hx+21INDIRECT+532VERSE+160..e+456ax+KAI KHI+RO.MI+RO.PI+RO.SHIMA+SIMA.STAUROS TAU+RO...COPYLEFT+4
COPYRIGHT+0CORAL CORNISH+VERSE+160.CORRESPONDS+TO.COUCH+d+LAMP..COUNTERBORE COUNTERSINK COUNTING+ROD+TENS+p+88.UNIT+
p+88...COUPLE+a+100.COW*8CR CRAB CREDIT+CARD.oj+ku.CRICKET*BAT+277.CROCODILE CROISSANT fu+df OF+JERUSALEM LORRAINE.
PATTY+a+j+CROSSBAR.h+CROSSBAR...POMMEE*a+HALF-CIRCLE+5...iu+FLAGS to+ct+gc+ag+b+P.....SWORDS.bb+LANES.CROWN CRUTCH
CRUZEIRO+0CRYING+320CRYSTAL+219CSI CUBE+ROOT.CUCUMBER CUNEIFORM+NUMERIC+c+ch+lc kr ou mw U*69hs+mg+USSU USSU3...
ELAMITE+ew lg l+kl.i+229.bq+lc*22BAN2*69BURU kr ou GESHU mw SHARU SIXTHS+231U*69.t+lc*22BAN2*69BURU kr ou GESHU mw
SHARU U*69hs+mg+LIMMU*A B.LIMMU4...NIGIDAESH NIGIDAMIN ff+lc kr ou mw U*69hs+mg+ILIMMU*A.ILIMMU3 ILIMMU4...zf+
ASSYRIAN+l+dc SIXTH...l+BAN2 BURU gs+lc.ESHE3 ou GESHU cx+GUR.dc+lc GUR.SHARU kl+487.co+lc kr ou mw U*69hs+mg+IMIN+A
B.IMIN3...mw+n+GAL+k+kr MIN....jm+lc*22kr ou mw U*69hs+mg+ASH9...m+lc*22BAN2 BURU*69kr ou GESHU mw*69SHARU*69hs+mg+
ESH16 ESH21...i+lc*22BAN2 BURU ESHE3 ou GESHU mw SHARU THIRDS+487...as+c+be+fh QUADCOLON TRICOLON.zf+ASSYRIAN+
sj+160..ab+140..c+A*n+A xp lh+22HA oy tj+18MUSH SAG..A2 AB*js n+zk DUN3+18GAL lh+22HA oy+18IMIN pc is*22SHESH SHU2
U+k+U+381....AB2*n+A BALAG lh+22ME+284SHA3 pu..AD*n+ESH2..AK*n+ERIN2 SHITA+670..AL*n+AL DIM2 ov HA KAD3 KI lu USH..
ALAN ib AMAR*n+KUG lu..AN*o+AN.k+NAGA+il+AN+k+NAGA...ct..m+n..ANSHE APIN ARAD*290ARKAB ASAL2 lc*KABA+22o+lc+o+lc*bb+
lc+o+lc+o+lc.......yq+o+yq+yq+o+yq+yf........ZIDA+22.zk ASHGAB BA xp*n+kr+22..BAG3 BAHAR2*n+AB2 NI ZA..BAL*o+BAL..
BALAG ir BARA2 BI*n+A za oy+18..BU*bb+BU.o+BU+AB n+NA2.UN...BULUG*o+BULUG..BUR BUR2 DA*593DAG*KISIM5+n+A+643AMAR
BALAG BI GA*643GI GIR2 GUD HA IR*k+LU..KAK LA LU*k+MASH2..LUM NE yf+k+yf..SI pu U2+k+GIR2 MASH..USH..n+zd..DAG3 DAM
DAR DARA3 DARA4 DI DIB DIM*n+oy lu U+U+U....DIM2*n+UD..DIN*ja+U+js+231...kr*k+zg..DU*js o+DU.lv.DUB*n+ESH2 lu..DUB2
DUG*n+ANSHE lc*326DIN DUN ERIN2 GA GI GIR2+18ov HA HI oy+18ja zd vj*467LAK-020 ul*290LUH+670MASH MES MI NI PI lu
SI+18..DUGUD DUH DUN DUN3*js*18.DUN4 DUR2 E*o+E+is+o+is....n+yf..E2*n+A+k+HA+k+DA....za zd MI yf SAL lu U..EDIN EGIR
EL EN*bb+EN.il+EN.ct n+lh*22ME..EREN ERIN2*X.ESH2*bb+ESH2..EZEN*lv+n+lc HI oy+18LA LAL ME MES SU..n+A*k+LAL*369..AN
xp DUN3+js*18.GUD HA*18oy+18ja*ct.KU3 LA LAL+369LI LU lu SU U2 UD..GA*18GA2*o+GA2.n+A+k+DA+k+HA..HA oy..AB2+qm+k+
TAB...AN*k+KAK+223..lc zk*k+GAL..xp BAHAR2 ir+k+RA..BUR*k+RA..DA DI DIM+js n+lu..DUB DUG+n+oy+18ja..EL*k+LA..EN*766
EREN GA lh+22za*k+DI NE..GI GI4*223GIR2+k+SU..HA+k+A LU+k+ESH2....HAL*k+LA..HI+k+LI..HUB2 oy+18ISH+k+HU+112..KAK ja
KID*k+LAL..KU3+k+AN..vj+467LA ul*290LUH ME+284MI MUSH NE*k+E2 GI..is*o+is..PA SAL SAR lu*k+TUR..SHID SHIM SUM pu U
UD*k+DU..ZIZ2..GABA*bb+GABA.hn+323.GAD*349GAL*GAD+349.GALAM GAM GAN lh*bb+lh.o+lh.qm.za GAR3 GASHAN GE22 GESHTIN*n+
zd U..GI*bb+GI.n+E U..GI4*bb+GI4.o+GI4..GIDIM GIG GIR2*18GIR3*n+A+k+oy..lh+22oy LU+k+oy..PA..GISAL ov*bb+ov.qm n+xp
ov+bb+ov..pu..GU*bb+GU..GU2*js n+oy+18KAK*705is SAL+k+yq....GUD*o+GUD+LUGAL..k+ov+593.n+A+k+zd..zd..GUL GUM*n+lu..
GUR GUR7 GURUN GURUSH HA*js qm*18.HAL HI*n+lc*o+HI+749..zk xp kr GAD KIN is lu U..HU HUB2*n+AN HAL ja LISH UD..HUL2
HUSH I*A.IB IDIM*o+IDIM+BUR ct...IG oy*DIB js o+oy+SHIR+o+SHIR+UD+o+UD.......RI.IL*766IL2 IM*bb+IM.il+IM.ct n+pu..
IMIN IN IR ISH KA*n+A AD*k+KU3..ANSHE zk ASH3 xp BALAG ir BI BU ERIN2 ESH2 GA GAL lh+22za*k+SHA3+223..GI GIR2 ov*bb+
ov.k+SAR..GU GUD GUR7 HI+361oy IM KA KAK KI KID LI LU LUM ME*k+DU GI TE..MI*k+NUNUZ..NE is PA PI RU SA SAR z lu SHID
zg SHUL SIG SUHUR TAR TU U*U+U..U2 UD UMUM+n+PA..UR UR2 USH ZI..KA2*bb+KA2..KAB KAD2~4 KAD5*o+KAD5..KAK*705KAL*bb+
KAL.n+xp..KAM2 KAM4 KAP+ELAMITE.ja*pc+686o+ja+pc+686...KESH2 KI*n+xp U UD..KID KIN KISAL KISH KISIM5*o+KISIM5..KU*o+
HI+n+zk+KU+o+HI+361.......KU3 KU4*69KU7 KUL*18KUN zd*il+zd..vj KWU318 LA pc*ct n+A*k+DA+k+HA..za LAL..AL AN lc+
ZIDA+22.xp BI DAR EN GA za GI GUD*k+GUD..HA HAL HI+n+is..oy+18IM*k+HA LU..KI KIN KU3 KUL*k+HI+223..pc LISH LU LUL
ME*284MUSH NE lu+k+SUM..SHITA+k+ov+k+ERIN2.qm...SHU2*k+SHU2..SUM TAG pu TE+k+A+k+SU+k+NA......U*k+A U+381..U2+112UD
USH ZU+o+ZU....tj*js*o+tj+js+lu....n+lu*k+SUM....LAHSHU LAK-003 LAK-021 LAK-025 LAK-030 LAK-050 LAK-051 LAK-062
LAK-079+o+LAK-079+18..LAK-080 LAK-081+o+LAK-081..LAK-092 LAK-130 LAK-142 LAK-210 LAK-219 LAK-220 LAK-225 LAK-228
LAK-238 LAK-265 LAK-266 LAK-343 LAK-347 LAK-348 LAK-383 LAK-384 LAK-390 LAK-441 LAK-449*n+GU oy yf+k+LU3 yf+k+
LU3....U2+k+BA....LAK-450 LAK-457 LAK-470 LAK-483 LAK-490 LAK-492 LAK-493 LAK-495 LAK-550 LAK-608 LAK-617*n+lc xp
DUN3+js+18.KU3 LA TAR TE U2 UD URUDA..LAK-636 LAK-648*n+DUB GA oy*18NI yf+482SHESH+k+KI..UD URUDA..LAK-724 LAK-749
LAL*369ul*n+zd*k+RU....LI LIL LIMMU2 LISH LU*255LU2*bb+LU2.js+749il+LU2.lv*255ct qm n+AL xp kr ESH2*k+LAL.qm.lh+22
HAL HI+255IM KAD2 KAD3*112KI LA+112pc ME+284NE NU yf*482zg SI+112SIK2+k+BU..pu yq..LU3 LUGAL*il+LUGAL.o+LUGAL.lv.LUH
LUL LUM*o+LUM*261..MA*539MA2 MAH MAR MASH MASH2 ME MES MESH MI*k+ZA7..MIN MU*o+MU..MUG*18MUNSUB MURGU2 MUSH*bb+MUSH.
o+MUSH*n+A+k+NA..GA KAK...n+A zd ZA..MUSH3*js n+A*k+DI..DI ZA..NA NA2 NA4 NAGA*ae il+NAGA.n+zg+22..NAGAR NAM*
NUTILLU.NAM2 NE*lv n+A UD..NI*n+E..NI2 NIM*n+lh+22za+679..NIN NIN9 NINDA2*n+AN lc*112BAL DIM+18GI ov GUD GUL HI
KESH2 LAK-050 MASH ME+679NE is yf+k+yf..lu*k+A+AN.lc*112..U*381U2+112URUDA USH..NISAG NU NU11*o+NU11+694.hn+323qm.
is*bb+is*tj+o+tj....tj+n+za MASH SAL*o+is+tj+n+SAL.....USH..o+is.qm.NUNUZ*AB2+n+ASHGAB BI DUG GUD oy+18KAD3 LA NE
SILA3 U2..KISIM5+n+BI*U....PA PAD PAN yf PESH2*42PI*bb+PI.n+A AB BI BU E I IB U U2..PIR2 PIRIG*il+PIRIG.n+KAL UD
ZA..RA RAB RI RU SA SAG*js*n+HA..NUTILLU o+SAG.n+A DU DUB EN HA oy+18KAK zd LUM MI is SAL lu+326SHID TAB pu U2 UB UM
UR USH..SAL*pc+361.SANGA2 SAR z SHA3*n+A xp ov NE SHU2 TUR U*223..SHA6*22SHAB6 mw lu*HU o+lu*GAD+349TAB+o+
TAB+261....k+HUB2 NAM2 SAR..SHEG9 SHEN SHESH SHESH2 SHESHLAM SHID*n+A IM..SHIM*n+A BAL BULUG DIN za oy*18vj LUL MUG
SAL..SHINIG SHIR*o+SHIR+694.qm.SHITA zg*o+ae+zg...SHU2*k+DUG+n+NI..E2+n+AN....SHUBUR SI*539SIG SIG4*o+SIG4+SHU2...
SIK2 SILA3 SU*o+SU..SUD SUD2 SUHUR SUM SUMASH SUR SUR9 TA*dz js n+HI MI..TAB*o+TAB+NI+o+NI+kr+o+231......ct.TAG*n+BI
GUD lu zg yq UD..pu*k+SAG..TAR TE*18TI*22TI2 TIL TIR*o+TIR*GAD+349..n+pu..TU yq TUK TUM*n+lh+22m+231..TUR*o+TUR+ZA+
o+ZA.....U*GUD o+U+PA+o+PA+261..SUR+o+SUR..U+au+o+U+au......U*U..U2 UB UD*js vj lv*255n+xp MI U+k+U+k+U*18......UDUG
UM*n+pc ME*k+DA..SHA3 U..UMBIN UMUM*n+ja PA..UN*18UR*bb+UR.lv.UR2*ae n+A+k+HA NA..AL HA is U2*k+lc BI..UD..UR4 URI
URI3 URU*n+A ASHGAB ir DARA3 DUN GA GAL lh+22za GU HA oy IM ISH KI LAK-668 LU3 LUM MIN PA lu SIG4 TU U+k+GUD..UD
URUDA..URUDA*n+U..USH*n+A KU zd pu..USH2 USHUMX USHX UTUKI UZ3*n+ja..UZU ZA*ct+290qm.ZA7 ZAG ZAMX ZE2 ZI*o+ZI..ZI3
ZIB*KABA+22.ZIG ZIZ2 ZU*o+ZU+k+SAR....ZU5*n+A m+kr+22...ZUBUR ZUM..CUP+ON+251a+STRAW..CUPCAKE CUPIDO CURLING+STONE.
hh+fn+kb.hk+163pe.sv+EXCHANGE c.CURRY+d+RICE..jp+STEM+mi+c+55...CUSTARD CUSTOMS CUT+OF+MEAT..CYCLONE CYLINDRICITY
CYPRIOT+fw+A E I JA JO KA KE KI KO KU LA LE LI LO LU MA ME MI MO MU NA NE NI NO NU O PA PE PI PO PU RA RE RI RO RU
SA SE SI SO SU TA TE TI TO TU U WA WE WI WO XA XE ZA ZO..CYPRO-MINOAN+c+CM001 CM002 CM004~13 CM012B CM015 CM017
CM019 CM021 CM023~30 CM033~41 CM044 CM046 CM047 CM049~56 CM058~64 CM066~76 CM075B CM078~92 CM094~105 CM107~10 CM112
CM114 CM301 CM302..zx+ag+b+A*767ABKHASIAN+650ALEUT+KA.rb+O*116.BASHKIR+KA.BE BIG+47BINOCULAR+O.BLENDED+47BROAD+193
re+I.CCHE yx*488dk+332iu+O.DCHE DE DJE DJERV f+433DWE DZE DZELO DZHE DZWE DZZE DZZHE E*116EF EL*498EM*138EN*530ER*
a+201.ES*232FITA GHE*536GJE HA*550vd+0HWE I*558IE*568IO nj te+472IZHITSA*579JE KA*617KHAKASSIAN+yx.KJE KOMI+794wo
KSI LHA cf+47LJE yc+O.yd+UK.gg+YER.NJE O*116gy*620OT PE*291PSI QA au+437RHA qw+193ua*116SEMISOFT+0z SHCHA SHHA*232
cp+I*138U.SHWE SOFT+452cq+U*48.TCHE TE*291TSE TSHE TSSE TSWE TWE U*651UK yr+IE.VE WE YA YAE YAT YERU*674YI YN YU
ZE*687ZEMLYA ZHE*695ZHWE.cy+551.rn b+MULTIOCULAR+O.PALOCHKA e+ag+EL...PAYEROK e+b+A*767ABKHASIAN+650ALEUT+KA.rb+
O*116.BASHKIR+KA.BE BIG+47BINOCULAR+O.BLENDED+47BROAD+193re+I.CCHE yx*488dk+332iu+O.DCHE DE DJE DJERV f+433DWE DZE
DZELO DZHE DZWE DZZE DZZHE E*116EF EL*498EM*138EN*530ER*a+201.ES*232FITA GHE*536GJE HA*550vd+0HWE I*558IE*568IO nj
te+472IZHITSA*579JE KA*617KHAKASSIAN+yx.KJE KOMI+794wo KSI LHA cf+47LJE LONG-LEGGED+DE.yc+O.yd+UK.NARROW+O.gg+YER.
NJE O*116gy*620OT PALOCHKA PE*291PSI QA au+437RHA qw+193jc+VE.ua*116SEMISOFT+0z SHCHA SHHA*232cp+I*138U.SHWE
SOFT+452cq+U*48.TALL+vd+0TE YAT.TCHE TE*291THREE-LEGGED+TE.TSE TSHE TSSE TSWE TWE U*651UK yr+IE.UNBLENDED+UK.VE WE
WIDE+ES.YA YAE YAT YERU*674YI YN YU ZE*687ZEMLYA ZHE*695ZHWE.cy+551.gn+0.zy*KNIFE a+j+GUARD.h+GUARD...DALET+4DANCER
DANGO DARK+xd SUNGLASSES.me+ax a+j+UPTURN...iv+jn+40im an+41.DATA+731DC1~4 DCS DEAF+230DECIDUOUS+168DECIMAL+
EXPONENT+4db+KEY+4..DECREASE+438DEER DEGREE+CELSIUS FAHRENHEIT c.DEL DELETE DELIVERY+TRUCK.jg+27DENTISTRY+ax+ei+
bo+491UP+491ab+d+en+32qn+32px.a+aw am.....DEPARTMENT+STORE.DERELICT+HOUSE+389.uw+NODE.DESERET+ag+485e+485.DESERT*
ISLAND.DESKTOP+zv WINDOW.DEVANAGARI+az+0bd+26st gq p+9f+63GAP+204ck+26ve JAIN+OM.b+A AA AI AU AW AY BA BBA ic CA mc+
A E O.eq DA hd DDDA DDDHA dv ht E FA GA GGA he GHHA ey+21HA cu+YA.I II JA ke JJA KA es KHHA LA nw LLLA MA MARWARI+
hd.NA w ia NNNA et O OE OOE PA fx QA RA RHA sn SA z cp+A E O.ji TA fg hc dp U UE UU UUE VA ba+23YA YYA ZA sk.OM c+aj
di ak*di m i bn.f+ak+200.ig+SPACING+17.ae+263fa PUSHPIKA lw SPACING+263bn bj.STRESS+c+598.y+c+AA AI AU AW AY mc+E
cj+E.O.E I II O OE OOE qj+E.cp+E O.U UE UU UUE ba+23...DEVICE+wg+t l STRING m i..ah DIAMETER+0ed+fv SHAPE+a+A+
g+135...TARGET a+en+53j+53h+53qn+53..DIE+FACE-1~6.DIESEL+638DIFFERENCE+fm.p+ch*57bq*57t*57ff*57l*57co*57jm*57m*57
i*57ka*57.DIGRAM+qf+ki EARTHLY+HEAVEN HUMAN.GREATER+wd YIN.HEAVENLY+ki.HUMAN+ki.LESSER+wd YIN...DIMENSION+ORIGIN.
DINGBAT+dx+bs+540.to+dx+p+88aq+fd.bs+540...DIRECT+CURRENT+ax+302.HIT.DISABLED+CAR.DISAPPOINTED+BUT+RELIEVED+8.hw.
DISCONTINUOUS+742DISGUISED+8DITTO+2DIVES+AKURU+p+9f+63uk+781GAP+204ad+RA.b+A AA BA ic CA eq DA hd dv ht E GA he HA I
II JA KA es LA nw MA NA w ia et O PA fx RA SA z ji TA fg hc U UU VA YA YYA ZA.ap+RA YA.PREFIXED+NASAL+0.c+aj ak
HALANTA fa.bn y+c+AA AI E I II O U UU....DIVIDES DIVING+MASK.om+c my n.DIVORCE+4DIYA+LAMP.DIZZY+hw ax.DLE DNA+f+
HELIX..DO+ny+LITTER+4..DOCUMENT*a+PICTURE vx*d+PICTURE....DODO DOES+ny+CONTAIN+AS+MEMBER ru+SUBGROUP*358...DIVIDE*a+
au+NEGATION+203...FORCE PRECEDE*358PROVE SUCCEED*358..DOG*8DOGRA+az+0b+A AA AI AU BA ic CA eq DA hd dv ht E GA he HA
I II JA ke KA es LA MA NA w ia et O PA fx RA sn SA z ji TA fg hc dp U UU VA YA.c+537y+c+AA AI AU E I II O U UU ba+R
RR....on+0DOLPHIN DOMINO+TILE+aa+sq.HORIZONTAL-00-00~6 HORIZONTAL-01-00~6 HORIZONTAL-02-00~6 HORIZONTAL-03-00~6
HORIZONTAL-04-00~6 HORIZONTAL-05-00~6 HORIZONTAL-06-00~6 ab+sq.VERTICAL-00-00~6 VERTICAL-01-00~6 VERTICAL-02-00~6
VERTICAL-03-00~6 VERTICAL-04-00~6 VERTICAL-05-00~6 VERTICAL-06-00~6..DONG+0DOOR g+r ii fv k.eb+aw fu FENCE dd+8
OBELOS cz+259fb bk qo+124.f+bd+26dx+p+88aq+fd..fh+144hh+pe.zy bo+119at+2zc+77ox gt do j+ARC+634.hk+163jn+40LOW-9+77
LOW-REVERSED-9+77NESTED+al bl*387.el+286k PRECEDES ms*77bi+2h+ARC+658.fb+20bk+do lz.STACKED+294x+ny+0.hz SUCCEEDS hb
vw+2lz UP+119ab+ir*f+j+148h+148.j+148.dd.WAVY+im..DOUBLE-ENDED+MULTIMAP.mn+dl+706hp+dl+706al+120bl+120..qe+ag+C hi H
N P PI Q R Z.pa+ag+D.e+D E I J..N-ARY+ym.e+hi PI..DOUBLED+uz+0MALE+0ax.DOUGHNUT DOVE+OF+PEACE..bo+cw vc+29h+776ky*
a+613..hu+RED+28e+RED+28.am+276.DOWNWARD+FACING+v*45nz+v*45...ar+ANCORA ao*d+h+246.if+13ai+OF+bz+3..TO+13a+ea+ai.
f+12dm+34aa+12de+75bw+75nz+29e+309TIP+303..av+275kp+3iv+3f+3mo+3fp+522cu+304mh+64gk+3vp bs+3ct+3am+34an+ao*ai+OF+
bz+258..TO+13a+552.iv+3mh+64qc+3.cg+3i+260pw+ao+a+644..ay+661qc+3.DRACHMA+0DRAFTING+qu+41.ux*8DRESS DRIVE+SLOW+0.
DROMEDARY+CAMEL.DROOLING+8DROP+OF+BLOOD..DROPLET DRUM+a+DRUMSTICKS..DUCK DUMPLING DUPLOYAN+AFFIX+ATTACHED+E+7I+7
LEFT-TO-RIGHT+190SECANT ly TANGENT*7.ig+bd aw g ck dd cj+96TIGHT+220ab*190px.j+770jn+bd ao aw g ck dd cj+96TIGHT+220
ab*190px.MID+aa+190ab+190.h+770.f+2b+A AOU B D*S.DH E EE EU F*N.G*R+S..H HL I IE J*M*S.N*S.S*45a+g fe+ks+d+6....K*M
R+S..KK L LH cj+I U.M*N*S.S a+17.N*M*S.S a+17.NASAL+A I O U.O OA OOH OU OW P*N.PERNIN+AM AN.R*S.RH ROMANIAN+I U.S*J*
S.K*R.M N P*R.S T*R.a+g*5..cp+I.SLOAN+AN DH EE EH EN J ON OW U.T*R+S.S.TH U*N.UH UI V ba+M.W*R.WA WEI WH WI WO WOW X
XW YE.as+CHINOOK+62.c+O+a+30..THICK+b+SELECTOR...DVD E-MAIL+4EAGLE EAR*OF+MAIZE RICE.a+HEARING+AID...ki*GLOBE+
AMERICAS ASIA-AUSTRALIA EUROPE-AFRICA.GROUND.uy+535EDITORIAL+CORONIS.EGG EGYPTIAN+HIEROGLYPH+A001~70 A005A A006A
A006B A014A A017A A032A A040A A042A A043A A045A AA001~32 AA007A AA007B B001~9 B005A BEGIN+SEGMENT.C001~24 C002A
C002B C002C C010A D001~67 D008A D027A D031A D034A D046A D048A D050A D050B D050C D050D D050E D050F D050G D050H D050I
D052A D054A D067A D067B D067C D067D D067E D067F D067G D067H E001~34 E008A E009A E016A E017A E020A E028A E034A E036~8
uk+SEGMENT.F001~53 F001A F013A F021A F031A F037A F038A F045A F046A F047A F051A F051B F051C G001~54 G006A G007A G007B
G011A G020A G026A G036A G037A G043A G045A H001~8 H006A aa+306I001~15 I005A I009A I010A I011A INSERT+AT+en+uk START.
qn+uk START...K001~8 L001~8 L002A L006A M001~44 M001A M001B M003A M010A M012A M012B M012C M012D M012E M012F M012G
M012H M015A M016A M017A M022A M024A M028A M031A M033A M033B M040A N001~42 N018A N018B N025A N033A N034A N035A N037A
NL001~20 NL005A NL017A NU001~22 NU010A NU011A NU018A NU022A O001~51 O001A O005A O006A O006B O006C O006D O006E O006F
O010A O010B O010C O019A O020A O024A O025A O029A O030A O033A O036A O036B O036C O036D O050A O050B wu+364P001~11 P001A
P003A Q001~7 R001~29 R002A R003A R003B R010A R016A S001~46 S002A S006A S014A S014B S017A S026A S026B S035A T001~36
T003A T007A T008A T009A T011A T016A T032A T033A U001~42 U006A U006B U023A U029A U032A V001~40 V001A V001B V001C
V001D V001E V001F V001G V001H V001I V002A V007A V007B V011A V011B V011C V012A V012B V020A V020B V020C V020D V020E
V020F V020G V020H V020I V020J V020K V020L V023A V028A V029A V030A V031A V033A V037A V040A ab+306W001~25 W003A W009A
W010A W014A W017A W018A W024A X001~8 X004A X004B X006A X008A Y001~8 Y001A Z001~16 Z002A Z002B Z002C Z002D Z003A
Z003B Z004A Z005A Z015A Z015B Z015C Z015D Z015E Z015F Z015G Z015H Z015I Z016A Z016B Z016C Z016D Z016E Z016F Z016G
Z016H..ch+PETALLED+tr+av+ta...ee+763SPOKED+42em+604.gs+215EJECT+4ELBASAN+b+A BE CE yx DE DHE E EI FE GE GHAMMA GHE
GJE HE I JE KE KHE LE LLE ME NA NDE NE NJE O PE QE RE RRE SE lu TE nc U VE XE Y ZE ZHE..ELECTRIC+ao ei+BULB.PLUG
TORCH.ELECTRICAL+285ELEMENT+OF*wt+239a+g+6cj+123hm i+aa+STROKES..dr ab+421...ELEPHANT ELEVATOR ELF ELYMAIC+b+350cy+
ZAYIN-YODH..EM+764EMOJI+COMPONENT+BALD hh+HAIR.RED+HAIR.ay+HAIR..ez+FITZPATRICK+TYPE-1-2 TYPE-3~6...EMPHASIS+4EMPTY+
DOCUMENT NEST tp*PAD PAGE.PAGE PAGES SET*a+j+147hm h+147e+391...EN+764uk+OF+GUARDED+187dd bw PROOF PROTECTED+187
SELECTED+187vx TRANSMISSION*74.a+648.ENQ ENQUIRY ENTER+4ENVELOPE*a+ar+147ya..EOL EOM EOT EPA dl+d+jx+TO..TO+BY+
DEFINITION.OR+al bl PRECEDES SUCCEEDS...eo+fh c*r+ai+3k+0af+3bp+20.d+hp+jx*a+bp+6....a+BUMPY+6g+5oz+5i+fe+r+d+
i+93......a+42.EQUIANGULAR+TO.fk+TO a+t+36..ERASE+TO+nc+32..ERIS+mg+56.ERROR-BARRED+av+233ay+233.ESA ESC ESCAPE
ESTIMATED+4ESTIMATES ETB ETHIOPIC+fh ca+ot+d+y+98.df.y+98.cm p+88hx+21aq+jq ew lg dg gx fs lx fd*16fz cc.mi+50
PREFACE+140bi+2dh+2du fw+BA BAA BBA BBAA BBE BBEE BBI BBO BBU BE BEE BI BO BOA BU BWA BWE BWEE BWI CA CAA CCA CCAA
CCE CCEE CCHA CCHAA CCHE CCHEE CCHHA CCHHAA CCHHE CCHHEE CCHHI CCHHO CCHHU CCHI CCHO CCHU CCI CCO CCU CE CEE eq CHAA
yx CHEE uj CHO CHOA CHU CHWA CI CO COA CU CWA DA DAA hd DDAA DDE DDEE DDHAA DDHE DDHEE DDHI DDHO DDHU DDI DDO DDOA
DDU DDWA DE DEE DI DO DOA DU DWA DZAA DZE DZEE DZI DZO DZU FA FAA FE FEE FI FO FU FWA FWE FWEE FWI FYA GA GAA GE GEE
GGA GGAA GGE GGEE GGI GGO GGU GGWA GGWAA GGWE GGWEE GGWI GI ey+A AA E EE I O OA U WA.GO GOA GU GURAGE+BWEE BWI FWEE
FWI GWE GWEE GWI HHWA KWE KWEE KWI MWEE MWI PWEE PWI QWE QWEE QWI.GWA GWAA GWE GWEE GWI GYA GYAA GYE GYEE GYI GYO
GYU HA HAA HE HEE HHA HHAA HHE HHEE HHI HHO HHU HHWA HHWE HHWEE HHWI HHYA HHYAA HHYE HHYEE HHYI HHYO HHYU HI HO HOA
HU JA JAA JE JEE JI JO JOA JU JWA KA KAA KE KEE KI KO KOA KU KWA KWAA KWE KWEE KWI KXA KXAA KXE KXEE KXI KXO KXU
KXWA KXWAA KXWE KXWEE KXWI KYA KYAA KYE KYEE KYI KYO KYU LA LAA LE LEE LI LO LOA LU LWA MA MAA ME MEE MI MO MOA MU
MWA MWE MWEE MWI MYA NA NAA NE NEE NI NO NOA NU NWA et NYAA NYE NYEE NYI NYO NYOA NYU NYWA PA PAA PE PEE fx PHAA
PHARYNGEAL+A AA E EE I O U.PHE PHEE tt PHO PHOA PHU PHWA PI PO POA PU PWA PWE PWEE PWI QA QAA QE QEE QHA QHAA QHE
QHEE QHI QHO QHU QHWA QHWAA QHWE QHWEE QHWI QI QO QOA QU QWA QWAA QWE QWEE QWI QYA QYAA QYE QYEE QYI QYO QYU RA RAA
RE REE RI RO ROA RU RWA RYA SA SAA SE SEBATBEIT+BWA FWA MWA PWA.SEE z SHAA lu SHEE SHI SHO SHOA zg SHWA SI SO SOA ji
SSAA SSE SSEE SSI SSO SSU SU SWA SZA SZAA SZE SZEE SZI SZO SZU SZWA TA TAA TE TEE fg THAA nc THEE THI zi THOA THU
THWA TI TO TOA nn TSAA TSE TSEE TSI TSO TSU TSWA TTHAA TTHE TTHEE TTHI TTHO TTHU TU TWA TZA TZAA TZE TZEE TZI TZO
TZOA TZU VA VAA VE VEE VI VO VU VWA WA WAA WE WEE WI WO WOA WU XA XAA XE XEE XI XO XOA XU XWA XWAA XWE XWEE XWI XYA
XYAA XYE XYEE XYI XYO XYU YA YAA YE YEE YI YO YOA YU ZA ZAA ZE ZEE sk ZHAA ZHE ZHEE ZHI ZHO ZHU ZHWA ZI ZO ZOA ZU
ZWA ZZA ZZAA ZZE ZZEE ZZI ZZO ZZU.TONAL+df+CHIRET DERET DERET-HIDET DIFAT HIDET KENAT KURT RIKRIK cp+RIKRIK.YIZET..
WORDSPACE.ETX EULER+CONSTANT.EURO+0EURO-CURRENCY+0EUROPEAN+CASTLE POST+OFFICE..EVERGREEN+168EXCESS at+df bi+2.
EXPRESSIONLESS+8id+gd+139.EXTRATERRESTRIAL+ALIEN.EXTREMELY+cu+bq+91jh+30gh jm+91ay+71..EYE EYEGLASSES EYES hw+wl+sq+
TEARS..MASSAGE PALM SAVOURING+DELICIOUS+FOOD..SCREAMING+IN+FEAR..THROWING+A+KISS..a+COLD+SWEAT.COWBOY+HAT.be+89rj+
COVERING+dk+LIPS...HEAD-BANDAGE LOOK+OF+TRIUMPH..MEDICAL+MASK.MONOCLE NO+GOOD+GESTURE..OK+GESTURE.l+EYEBROW+ep..cl+
EYES+d+li+o+89...qt*d+COLD+SWEAT..VOMITING..PARTY+ni+d+PARTY+HAT....PEEKING+EYE.PLEADING+61ROLLING+61STUCK-OUT+pv*d+
TIGHTLY-CLOSED+61WINKING+EYE....TEARS+OF+JOY..THERMOMETER UNEVEN+EYES+d+WAVY+89....si+89.FACSIMILE+0FACTORY FAIRY
FALAFEL FALLEN+213ri+be+bb+ik+154jb+159.IN+ay+aw+IN+251.....FAMILY FARSI+4FATHER+xq.FAX+ICON MACHINE.FEARFUL+8wj
uz+0FEMININE+528FENCER FERRIS+WHEEL.FERRY FF FIELD+HOCKEY+STICK+277..FIGURE+me mz.FILE+CABINET os db.FILM+FRAMES
PROJECTOR.FINITE+PART+156.vb*ENGINE EXTINGUISHER.FIRECRACKER FIREWORK+SPARKLER.FIREWORKS FIRST+PLACE+MEDAL.dc+
ku*348.STRONG+ISOLATE..vc*CAKE+a+SWIRL+DESIGN....FISHEYE FISHING+POLE+d+vc...FISTED+292bq+g+784.FLAG+IN+HOLE..
FLAMINGO FLAT+SHOE.FLATBREAD FLATNESS FLEUR-DE-LIS FLEXED+BICEPS.FLOPPY+DISK.FLORAL+100FLOWER*PLAYING+CARDS.as+2.
FLUSHED+8FLY FLYING+DISC ENVELOPE SAUCER.FOG FOGGY os FONDUE FOOT FOOTPRINTS qf+ALL.FORCES FORK+d+KNIFE*a+PLATE....
FORKED+756FORKING mg+FEED.FORTUNE+COOKIE.FOUNTAIN t+of+42CLUB-SPOKED+42ea+ARROWS+CIRCLING+fl...g+784LEAF+CLOVER.
ee+174em+42.FOUR-PER-EM+65FOURTH+ROOT.FOX+8dq+NUMERATOR+l.my.FRAME+a+AN+X.PICTURE TILES..FREEZING+8FRENCH+FRANC+0
FRIES.FRIED+SHRIMP.FROG+8FRONT-FACING+BABY+CHICK..rk+632FROWN tb+hw+a+cl+89...FS FSI FUEL+PUMP.hx+ld ku+348OUTER+
JOIN.se.FULLWIDTH+gj gp dz zp+13CENT+0ac+26fh cm oi+AT.p+9on+0eo+0at+2hx+21ck+26al+0lj gc+238j+671bl+0jn+40bu ny+0
aq+0rw+0k+0POUND+0bi+2gl+2fr+151h+671du fb bp ab+40WON+0YEN+0.FUNCTION+APPLICATION.FUNERAL+URN.FUSE FVS1~4 GAME+DIE.
GARLIC GEAR*a+HANDLES.si+HUB..GEM+STONE.GEMINI GENIE GEOMETRIC+PROPORTION.GEOMETRICALLY+338GEORGIAN+ag+605b+533
MTAVRULI+ag+b+533..mi+50e+605.GERMAN+PENNY+0.GETA+2GHOST jr+4GIRAFFE+8GIRL GIRLS+4GLAGOLITIC+ag+681e+681.GLASS+OF+
MILK..GLEICH+STARK.GLOBE+a+MERIDIANS..GLOVES GLOWING+51GOAL+NET.GOAT GOGGLES GOLFER GORILLA GOTHIC+b+AHSA AIHVUS
BAIRKAN DAGS EIS FAIHU GIBA HAGL HWAIR IGGWS IUJA JER KUSMA LAGUS MANNA NAUTHS ff+25gx OTHAL PAIRTHRA QAIRTHRA RAIDA
SAUIL TEIWS THIUTH URUS WINJA..GRADUATION+CAP.GRANTHA+AU+98b+A AA AI AU BA ic CA eq DA hd dv ht EE GA he HA I II JA
ke KA es LA nw MA NA w ia et OO PA fx RA SA z ji TA fg hc dp U UU VA VEDIC+aj f+136.ba+23YA.OM c+aj di ak ca+732fa
PLUTA bn bj.y+c+AA AI AU EE I II OO U UU ba+23...GRAPES ck+26al+r+mn+dl+r+228..bl+435af+3xg+r+228OR+144.hp+dl+r+
bl+339....d+489oh+228BUT+ny+338.dk+509dl+TO+OR+228..OR+so dl+TO.fk+TO.bl hp+dl+TO*a+g+r*72ks......o+27ts+228c a+553.
jh+ACROPHONIC+ATTIC+ew*ob sf fc*ob..bq*dg*344ob sf fc*sf..l+DRACHMA cx dg+344dc fc+344.fd+MNAS ob sf fc+ob...
CARYSTIAN+bq+25.CYRENAIC+i+DRACHMAS..DELPHIC+bq+MNAS..EPIDAUREAN+bq+25i*DRACHMAS..HERAEUM+l+PLETHRON..HERMIONIAN+ew
l fd.MESSENIAN+fd.NAXIAN+bq+25.STRATIAN+ew+MNAS..THESPIAN+ew bq+19l*19fd fz m+25i.TROEZENIAN+ew*149bq*25fd*149..ANO+
TELEIA.AROURA+0ARTABE+0nh+4ag+eb+403KAI+4b+go*a+kh*314bu nm gz ls*314km jk wb..eu+SAMPI.nh uj jg ek*311ETA*457hi
HETA nj*a+kh*133mf bu nm ls*133km jk wb..kk pd MU NU gy*457lp*311PAMPHYLIAN+nt.tt PI PSI uo*a+kh..SAN SHO mx TAU jj
gi*a+kh*133mf bu nm km jk wb..XI YOT yv.vk+351au+554jj+4.kh*133mf+d+703km.DRACHMA+0bq+OBOLS+0.t+OBOLS+0.GRAMMA+0
INDICTION+0INSTRUMENTAL+NOTATION+SYMBOL-1 SYMBOL-11~4 SYMBOL-17~9 SYMBOL-2 SYMBOL-23~7 SYMBOL-29 SYMBOL-30 SYMBOL-32
SYMBOL-36~40 SYMBOL-4 SYMBOL-42 SYMBOL-43 SYMBOL-45 SYMBOL-47~54 SYMBOL-5 SYMBOL-7 SYMBOL-8..KAI+4kk+4KORONIS
KYATHOS+BASE+0.b+eu+wo.nt wo SAMPI e+ag+hi pd gy PI PSI uo..STIGMA YOT.LITRA+0bh+lo+0.vk+ek+4mx+4.METRETES+0nx+
LEIMMA.lo+0OBOL+0l+cx+c*149.dc+0.OUNKIA+0nm dn tt+4PI+4gz ls*133bi+2au+vk+ek+4..uo+ax a+x+4..SINUSOID+0e+eb+403b+go*
a+kh*280bu nm*102dn*102ls*280km jk*102wb ft..eu+wo SAMPI.nh uj jg nt ek*311ETA*588s+264hi HETA nj*639kk wo pd MU NU
gy*588lp*311PAMPHYLIAN+nt.tt PI PSI uo*a+kh ls..SAMPI SAN SHO mx STIGMA TAU jj gi*639XI yv.au+554.ml+e+b+nh uj hi tt
uo...ax+TAU+uo..TALENT+0jj+4m+OBOLS+0io+0.km TRYBLION+BASE+0.i+OBOLS+0THIRDS+0.gi+a+bd+664ah+664v+4..jk VOCAL+
NOTATION+SYMBOL-1~9 SYMBOL-10~24 SYMBOL-50~4..XESTES+0YEAR+0ft ka+0.GREEN+APPLE BOOK kj SALAD.GRIMACING+8GRINNING+
CAT+hw+a+jd+61...hw*a+l+de+d+l+e+EYE.....jd+61kw+61...GROUP+df db.GROWING+100GS GUARANI+0GUARDSMAN GUIDE+DOG.GUITAR
GUJARATI+az+0p+9b+A AA AI AU BA ic CA eq DA hd dv ht E GA he HA I II JA ke KA es LA nw MA NA w ia et O PA fx RA SA z
ji TA fg hc dp U UU VA ba+23YA sk.OM tz+0c+aj di ak aw+412MADDAH fa SHADDA SUKUN THREE-DOT+412TWO-CIRCLE+412bn bj.y+
mc+E O.c+AA AI AU mc+E O.E I II O U UU ba+23...GUNJALA+GONDI+p+9b+A AA AI AU BA ic CA eq DA hd dv ht EE GA he HA I
II JA ke KA es LA nw MA NA w OO PA fx RA SA TA fg hc dp U UU VA YA.OM c+aj bj.bn y+790..GURMUKHI+az+0ADDAK p+9EK+
ONKAR.IRI b+A AA AI AU BA ic CA eq DA hd dv ht EE FA GA he GHHA HA I II JA ke KA es KHHA LA nw MA NA w ia et OO PA
fx RA sn SA z TA fg hc dp U UU VA YA ZA.c+ADAK+BINDI.BINDI fa UDAAT bn bj YAKASH.TIPPI URA y+790.HADES HAIR+65
HAIRCUT HALFWIDTH+av+68ar+3FORMS+ei+ab..HANGUL+va b+A AE nr wf E EO EU wk I wn nu ro ti wq ws mq mr O OE oa wv pj wz
mt lt mu qk mv pk ql SIOS ps na pt qz nb oc sg U WA WAE WE WEO WI YA YAE YE YEO YI YO YU..jt+57th+b+A E HA HE HI HO
HU I KA KE KI KO KU MA ME MI MO MU N NA NE NI NO NU O RA RE RI RO RU SA SE SI e+A E I O TU U YA YO YU.SO SU TA TE TI
TO TU U WA WO YA YO YU.q+17uc+131kz+131.ll+PROLONGED+131.j+477ai+3h+477af+3bz+3ay+37.HAMBURGER HAMMER*d+PICK SICKLE
WRENCH..HAMSA HAMSTER+8li+a+cn+d+q+fo+iu...rj+d+ci+iu......HANDBAG HANDBALL HANDSHAKE HANGUL+CHOSEONG+
CEONGCHIEUMCHIEUCH CEONGCHIEUMCIEUC CEONGCHIEUMSIOS CEONGCHIEUMSSANGCIEUC CEONGCHIEUMSSANGSIOS nr CHIEUCH-HIEUH
CHIEUCH-KHIEUKH CHITUEUMCHIEUCH CHITUEUMCIEUC CHITUEUMSIOS CHITUEUMSSANGCIEUC CHITUEUMSSANGSIOS wf CIEUC-IEUNG va wk
HIEUH-SIOS wn IEUNG-CHIEUCH IEUNG-CIEUC IEUNG-HIEUH IEUNG-KIYEOK IEUNG-MIEUM IEUNG-PANSIOS IEUNG-PHIEUPH IEUNG-PIEUP
IEUNG-RIEUL IEUNG-SIOS IEUNG-THIEUTH IEUNG-TIKEUT qg nl qh KAPYEOUNRIEUL vi nu ro KIYEOK-TIKEUT wq MIEUM-KIYEOK tm
vl MIEUM-TIKEUT ws mq mr NIEUN-KIYEOK NIEUN-PIEUP vn rt PANSIOS oa PHIEUPH-HIEUH PHIEUPH-PIEUP wv PIEUP-CHIEUCH tu
PIEUP-HIEUH PIEUP-KHIEUKH PIEUP-KIYEOK PIEUP-NIEUN PIEUP-PHIEUPH pj PIEUP-SIOS-CIEUC ww PIEUP-SIOS-PIEUP
PIEUP-SIOS-THIEUTH lq PIEUP-SSANGSIOS PIEUP-THIEUTH ry wz RIEUL-CIEUC mt up RIEUL-KHIEUKH lt mu RIEUL-NIEUN mv pk xb
RIEUL-SSANGPIEUP RIEUL-SSANGTIKEUT sa SIOS SIOS-CHIEUCH vr SIOS-HIEUH SIOS-IEUNG SIOS-KHIEUKH ud SIOS-MIEUM
SIOS-NIEUN SIOS-PHIEUPH vs SIOS-PIEUP-KIYEOK SIOS-RIEUL SIOS-SSANGSIOS SIOS-THIEUTH ue ps SSANGCIEUC-HIEUH
SSANGHIEUH vu na vv pt SSANGRIEUL qz SSANGSIOS-PIEUP SSANGTHIEUTH nb SSANGYEORINHIEUH oc sg TIKEUT-CIEUC
TIKEUT-KIYEOK TIKEUT-MIEUM TIKEUT-PIEUP TIKEUT-RIEUL TIKEUT-SIOS ug YESIEUNG.f+g+170.va JONGSEONG+nr wf CIEUC-PIEUP
CIEUC-SSANGPIEUP wk HIEUH-MIEUM HIEUH-NIEUN HIEUH-PIEUP HIEUH-RIEUL wn IEUNG-KHIEUKH IEUNG-KIYEOK IEUNG-SSANGKIYEOK
qg nl qh KAPYEOUNRIEUL nu ro KIYEOK-CHIEUCH KIYEOK-HIEUH KIYEOK-KHIEUKH KIYEOK-NIEUN KIYEOK-PIEUP KIYEOK-RIEUL ti
KIYEOK-SIOS-KIYEOK wq MIEUM-CHIEUCH MIEUM-CIEUC MIEUM-HIEUH MIEUM-KIYEOK MIEUM-NIEUN MIEUM-PANSIOS tm
MIEUM-PIEUP-SIOS MIEUM-RIEUL vl MIEUM-SSANGNIEUN MIEUM-SSANGSIOS ws NIEUN-CHIEUCH mq mr NIEUN-KIYEOK NIEUN-PANSIOS
NIEUN-RIEUL vn NIEUN-THIEUTH rt PANSIOS PANSIOS-KAPYEOUNPIEUP PANSIOS-PIEUP oa PHIEUPH-PIEUP PHIEUPH-SIOS
PHIEUPH-THIEUTH wv PIEUP-CHIEUCH tu PIEUP-HIEUH PIEUP-MIEUM PIEUP-PHIEUPH PIEUP-RIEUL PIEUP-RIEUL-PHIEUPH pj lq ry
wz mt up RIEUL-KHIEUKH lt RIEUL-KIYEOK-HIEUH xa mu RIEUL-MIEUM-HIEUH RIEUL-MIEUM-KIYEOK RIEUL-MIEUM-SIOS RIEUL-NIEUN
RIEUL-PANSIOS qk mv RIEUL-PIEUP-HIEUH RIEUL-PIEUP-PHIEUPH yi RIEUL-PIEUP-TIKEUT pk xb RIEUL-SSANGSIOS ql sa
RIEUL-TIKEUT-HIEUH xc RIEUL-YEORINHIEUH-HIEUH RIEUL-YESIEUNG SIOS SIOS-CHIEUCH vr SIOS-HIEUH SIOS-KAPYEOUNPIEUP ud
SIOS-MIEUM SIOS-PANSIOS vs SIOS-RIEUL SIOS-THIEUTH ue ps vu na SSANGMIEUM vv pt SSANGRIEUL SSANGRIEUL-KHIEUKH qz
SSANGSIOS-KIYEOK SSANGSIOS-TIKEUT nb SSANGTIKEUT-PIEUP SSANGYESIEUNG oc sg TIKEUT-CHIEUCH TIKEUT-CIEUC TIKEUT-KIYEOK
TIKEUT-PIEUP TIKEUT-RIEUL TIKEUT-SIOS TIKEUT-SIOS-KIYEOK TIKEUT-THIEUTH ug YESIEUNG YESIEUNG-HIEUH YESIEUNG-KHIEUKH
YESIEUNG-KIYEOK YESIEUNG-MIEUM yu YESIEUNG-SIOS YESIEUNG-SSANGKIYEOK.JUNGSEONG+A A-EU A-O A-U AE ARAEA ARAEA-A
ARAEA-E ARAEA-EO ARAEA-I ARAEA-U E EO EO-EU EO-O EO-U EU EU-A EU-E EU-EO EU-EU EU-O EU-U va I I-A I-ARAEA I-EU I-I
I-O I-O-I I-U I-YA I-YA-O I-YAE I-YE I-YEO I-YO I-YU O O-E O-EO O-O O-O-I O-U O-YA O-YAE O-YE O-YEO OE SSANGARAEA U
U-A U-AE U-EO-EU U-I-I U-U U-YE U-YEO WA WAE WE WEO WI YA YA-O YA-U YA-YO YAE YE YEO YEO-O YEO-U YEO-YA YI YI-U YO
YO-A YO-AE YO-EO YO-I YO-O YO-YA YO-YAE YO-YEO YU YU-A YU-AE YU-E YU-EO YU-I YU-O YU-U YU-YE YU-YEO.b+A AE ARAEA
ARAEAE nr wf E EO EU wk I wn qg nl qh vi nu ro ti wq MIEUM-PANSIOS tm vl ws mq mr NIEUN-PANSIOS vn rt O OE PANSIOS
oa wv tu PIEUP-KIYEOK pj ww lq PIEUP-THIEUTH ry wz mt lt xa mu RIEUL-PANSIOS qk mv yi pk ql sa xc SIOS vr ud
SIOS-NIEUN vs ue ps SSANGHIEUH vu na vv pt qz nb oc sg U WA WAE WE WEO WI YA YAE YE YEO ug YESIEUNG yu YESIEUNG-SIOS
YI YO YO-I YO-YA YO-YAE YU YU-I YU-YE YU-YEO.da+g+170..HANGZHOU+lo+ch bq t ff l co jm fd fz m cc i..HANIFI+ROHINGYA+
p+9b+A BA CA DA hd FA GA HA JA KA es KINNA+WA YA.LA MA NA w et PA RA sn SA z TA hc VA WA YA ZA.df+NA+KHONNA.SAKIN.c+
HARBAHAY TAHALA TANA TASSI.y+A E I O U...HANUNOO+b+466c+PAMUDPOD.y+301.HAPPY+rx+RAISING+l+97...vd+DISK.HATCHING+
CHICK.HATRAN+b+ib AYN mb DALETH-RESH jr HE ow nk gu wp is PE QOPH jy ha hg zh yo np qa ZAYN.aq+573.HEADPHONE
HEADSTONE*GRAVEYARD+4.HEAR-NO-EVIL+382kj+DECORATION td a+ao RIBBON TIP+ON+nc+72....cu+gj+55ao+SHAFT+WIDTH+l*cx kl.
i+229...dz BALLOT+X.av+jp+ar+d+41.bz+d+41..kj.yw+476kg+2CHEVRON+yl.aw*a+aw+135x+548..dx+gh.CONCAVE-POINTED+av+41.iv+
an+41.om+0on+0f+345ar+407ch+ee+763SPOKED+42em+604.eo+0at+df+ph ax..bq+173t+of+42.jh+30kj+at+172.aa+110jv+55de+37
gc+30dt+750ai+407cy+cl+325.jn+f+310da+310.bh+248ii+0gv+X.ik+478cl+dj+30.tr+174OVAL+a+OVAL+135..k+0cz+750af+ao*759.
ROUND-TIPPED+41gh bs+jv+55.fy+cy+325.da+345jm+173hq+478SPARKLE TEARDROP-SHANKED+41em+dz lr+42.an+41gb+354cr+248
bz+407ab+13WEDGE-TAILED+41ay+aw hu+28bk.WIDE-HEADED+41.HEBREW+oe+ATNAH+HAFUKH.DARGA DEHI ETNAHTA GERESH*MUQDAM.
GERSHAYIM ILUY MAHAPAKH MERKHA*KEFULA.MUNAH OLE PASHTA PAZER QADMA QARNEY+PARA.REVIA SEGOL SHALSHELET TELISHA+GEDOLA
QETANA.TEVIR TIPEHA YERAH+BEN+YOMO..YETIV ZAQEF+GADOL QATAN.ZARQA ZINOR.b+cd*a+MAPIQ PATAH QAMATS..ALTERNATIVE+sp
k+0.sp BET*368DALET*58s+xy*58wp is PE*58TSADI.jr*58HE*a+MAPIQ..HET xy*368LAMED*58wp*58is*58PE*368QOF*58ty*58ha*58hg*
a+ol*d+hg+17SIN+17..hg+17SIN+17..TAV*58TET*58TSADI*58VAV*a+ol HOLAM..WIDE+cd DALET s+wp.HE xy LAMED ty TAV.YOD*a+ol
HIRIQ..ma*58.cy+cd+LAMED.YIDDISH+f+VAV YOD.VAV+YOD.YOD+YOD+PATAH....df+bh+17MASORA+37cr+17.qu+ol+OR+MAPIQ..HATAF+
PATAH QAMATS SEGOL.HIRIQ HOLAM*HASER+qf+VAV...JUDEO-SPANISH+VARIKA.METEG PATAH QAMATS*QATAN.QUBUTS RAFE SEGOL SHEVA
hg+17SIN+17TSERE.as+GERESH GERSHAYIM MAQAF is+HAFUKHA.PASEQ SOF+PASUQ..YOD+28.HEDGEHOG HELICOPTER HELLSCHREIBER+
PAUSE+4.HELM+4HELMET+a+ay+30..HENTAIGANA+b+A-1~3 A-WO E-1~6 HA-1~9 HA-10 HA-11 HE-1~7 HI-1~7 HO-1~8 HU-1~3 I-1~4
KA-1~9 KA-10 KA-11 KA-KE KE-1~6 KI-1~8 KO-1~3 KO-KI KU-1~7 MA-1~7 ME-1 ME-2 ME-MA MI-1~7 MO-1~6 MU-1~4 N-MU-MO-1
N-MU-MO-2 NA-1~9 NE-1~6 NE-KO NI-1~7 NI-TE NO-1~5 NU-1~3 O-1~3 RA-1~4 RE-1~4 RI-1~7 RO-1~6 RU-1~6 SA-1~8 SE-1~5
SI-1~6 SO-1~7 SU-1~8 TA-1~4 TE-1~9 TI-1~7 TO-1~6 TO-RA TU-1~4 TU-TO U-1~5 WA-1~5 WE-1~4 WI-1~5 WO-1~7 YA-1~5 YA-YO
YO-1~6 YU-1~4..HERB HERMITIAN+CONJUGATE+MATRIX..HEXAGRAM+qf+ABUNDANCE AFTER+479APPROACH BEFORE+479BITING+od.
BREAKTHROUGH COMING+TO+MEET..CONFLICT CONTEMPLATION DARKENING+OF+nc+49..DECREASE DELIVERANCE DEVELOPMENT DIFFICULTY+
AT+nc+BEGINNING...DISPERSION DURATION ENTHUSIASM FELLOWSHIP FOLLOWING GATHERING+257GRACE GREAT+POSSESSION POWER
PREPONDERANCE TAMING.wl+257INCREASE INFLUENCE INNER+TRUTH.INNOCENCE LIMITATION MODESTY qt+208OBSTRUCTION vo
OPPRESSION PEACE PROGRESS PUSHING+UPWARD.RETREAT RETURN REVOLUTION e+PREPONDERANCE TAMING.SPLITTING+APART.STANDSTILL
nc+ABYSMAL+ng.ARMY AROUSING+THUNDER.CAULDRON CLINGING+vb.CREATIVE+HEAVEN.FAMILY GENTLE+176JOYOUS+LAKE.KEEPING+STILL+
pf..MARRYING+MAIDEN.RECEPTIVE+ki.WANDERER WELL.TREADING WAITING WORK+ON+nc+DECAYED...YOUTHFUL+FOLLY...HIBISCUS ig+
BRIGHTNESS+4OCTET+PRESET.VOLTAGE+0.HIGH-HEELED+SHOE.HIGH-SPEED+TRAIN*a+it+NOSE....HIKING+BOOT.HINDU+TEMPLE.
HIPPOPOTAMUS HIRAGANA+iw+YORI.ih+2b+A eu+WU YE.BA BE BI BO BU DA DE DI DO DU E GA GE GI GO GU HA HE HI HO HU I KA KE
KI KO KU MA ME MI MO MU N NA NE NI NO NU O PA PE PI PO PU RA RE RI RO RU SA SE SI e+A E I KA KE O TU U WA WE WI WO
YA YO YU.SO SU TA TE TI TO TU U VU WA WE WI WO YA YO YU ZA ZE ZI ZO ZU.kz+313.HISTORIC+SITE.HOCHO HOLE HOLLOW+785
HOMOTHETIC HONEY+POT.HONEYBEE v HOP aa+ir av+HEXAGON OCTAGON.oo dd+kb.MALE+473l+gs+BLOCK-1358 BLOCK-2~7..SCAN+LINE-1
LINE-3 LINE-7 LINE-9.TAB+KEY.kx*624TRAFFIC+49.wm*hw RACING.HOSPITAL HOT+BEVERAGE DOG PEPPER SPRINGS.HOTEL xv*a+
FLOWING+SAND...HOUSE*zq BUILDINGS a+GARDEN..HRYVNIA+0HT HTJ HTS HUGGING+8dg+POINTS+4.HUSHED+8HUT HYGIEA ox*it a+175.
lj HYPHENATION+qu.HYPODIASTOLE HYSTERESIS+4I+LOVE+YOU+292..ICE+CREAM CUBE HOCKEY+STICK+d+PUCK...SKATE.IDENTICAL+TO*
d+hp+jx...a+266.IDENTIFICATION+CARD.jt+ANNOTATION+en+2ki+2FIRST+2t+2FOURTH+2HEAVEN+2LINKING+2ze+2q+2l+2fr+2pl+2kl+2
m+2qn+2i+2.CLOSING+2cm DEPARTING+170DESCRIPTION+fj+r+TO+bg q+d+5...hx+SURROUND.j+TO+q+d+44.h..OVERLAID SURROUND+if+r
bg j bh+72cr+32....ENTERING+170hx+21cx+FILL+65.ih+2LEVEL+170aq+ka.jb+170mz TALLY+df+bq t l m i..TELEGRAPH+dd+FEED+
db+4..ax+qf+APRIL AUGUST DAY+ch gr hv iy bq t ie ff ij l co gm jm ho fd iq fz THIRTY-ONE m gb cc TWENTY-EIGHT
TWENTY-FIVE TWENTY-FOUR TWENTY-NINE TWENTY-ONE TWENTY-SEVEN TWENTY-SIX TWENTY-THREE wa i.DECEMBER FEBRUARY HOUR+ch
gr hv iy bq t ie ff ij l co gm jm ho fd iq m gb cc TWENTY-FOUR TWENTY-ONE TWENTY-THREE wa i ka.JANUARY JULY JUNE
MARCH MAY NOVEMBER OCTOBER SEPTEMBER...ys+167.IMAGE+OF*OR+qd+27...IMP IMPERIAL+ARAMAIC+b+350aq+l*19fd*16m cc i.
dh+0..INBOX+TRAY.INCOMING+216INCOMPLETE+oz.INCREASE+438INCREASES+AS.INCREMENT IND cn*bm+AT+nc+VIEWER....INDIAN+tz+0.
INDIC+SIYAQ+cv+LAKH+2.dq+l+cx dc.m+io..LAKH+2aq+cv+l fd+16i.ch*19jq*16ew*16bq*19lg*16t*19KAROR KARORAN LAKH LAKHAN
ff*19gx*16l*19PREFIXED+88co*19fs*16jm*19lx*16fd*16fz*16m*19cc*16i*19.tv tz+2..oz*NEGATED+a+211..INFORMATION+DESK+230
db+183SOURCE.INHIBIT+603INPUT+ax+qf+gc+ag+LETTERS.LETTERS e+LETTERS..NUMBERS SYMBOLS...INSCRIPTIONAL+PAHLAVI+b+ib mb
md jr HE ow nk gu MEM-QOPH is PE jy ha hg zh yo WAW-AYIN-RESH qa ma.aq+574.PARTHIAN+b+350aq+574..xw+4gt*AROUND+A+
qu+20..AVERAGE+a+203.kb a+f+12do ai+ao+118.hm n+0dr lz..INTERCALATE INTERIOR+87INTERLINEAR+ANNOTATION+ANCHOR db
TERMINATOR..INTERLOCKED+uz+d+MALE+0...jv do*r+ir+r+lz..lz.oh+d+vh+a+285...a+g hk+d.hm..rm+it kg+2CHECKER+BOARD+110.
ar+ao+a+TIP+ai....bw+177ay+37.ae+at+2jv LAZY+S.jn+rn*a+rn+6...OHM+0yg bi+2UNDERTIE.INVISIBLE+k db n.IZAKAYA+LANTERN.
JACK-O-LANTERN JAPANESE+BANK+4CASTLE DOLLS GOBLIN INDUSTRIAL+691OGRE POST+OFFICE.ax+qf+BEGINNER...JAR JAVANESE+ce+c+
CAKRA KERET PENGKAL..p+9j+RERENGGAN.b+A AI BA*188CA*188DA*164hd*164E GA*188HA I*KAWI.II JA*164KA*wr SASAK.LA MA
NA*188w*LELET*RASWADI..et*188O PA*CEREK wr.RA*AGUNG.SA*yb wr.TA*188hc*164U WA YA.PADA+ADEG*ADEG.ANDAP ISEN-ISEN
LINGSA LUHUR LUNGSI MADYA PANGKAT PISELEH TIRTA+TUMETES.WINDU.PANGKON PANGRANGKEP h+RERENGGAN.c+CECAK*TELU.LAYAR
PANYANGGA WIGNYAN.ef+PADA+PISELEH..y+c+DIRGA+MURE.PEPET SUKU*MENDUT.TALING TARUNG TOLONG WULU*MELIK....JEANS JIGSAW+
PUZZLE+146.JOIN JOYSTICK JUGGLING JUNO JUPITER KAABA KAITHI+az+0gq f+523ENUMERATION+0b+A AA AI AU BA ic CA eq DA hd
DDDHA dv ht E GA he HA I II JA ke KA es LA MA NA w ia et O PA fx RA RHA SA z ji TA fg hc dp U UU VA YA.aq+c*6.dh+2c+
aj ak fa bn bj.y+505.KANGAROO KANGXI+wy+AGAIN d ARRIVE ao AXE BADGER BAMBOO BEAN BIG BIRD BITTER av BLOOD BLUE BOAT
BODY BOLT+OF+CLOTH..BONE BOW BRANCH BRISTLE BRUSH CART CAULDRON CAVE CHILD CITY CLAN CLAW CLIFF CLOTHES COLOR
COMPARE CORPSE COVER COW DEATH DEER DIPPER kr DISTINGUISH DIVINATION DO+ny.DOG DOOR g eb+CLIFF TENT.f+X.bo+ui.ux
DRUM DRY EAR ki EAT ch EMBROIDERY xs ENTER EVEN EVENING EYE hw FANG FATHER wj FIELD FIGHT vb vc FLUTE FLY FOOT
FRAGRANT FROG FUR GATE GHOST GO*SLOWLY.GOLD GRAIN GRASS HAIR HALBERD cx+619li rl kj HEMP HIDING+xs.v ni wm ICE INCH
INSECT JADE JAR KNIFE LACK LAME LEAF LEATHER LEEK LEGS LID LIFE dd cj*STRIDE.ze MEAT MELON MILLET MINISTER ku
MORNING MORTAR MOUND pf qt NET NOSE ny zf l ONESELF cl+ui.OPPOSE PIG PLOW POWER PRIVATE PROFOUND RAIN RAP RAT RED
RICE h+cl+ui..RIVER ROOF RUN SACRIFICIAL+WINE.SALT SAY SCHOLAR fy SEAL pl SEE SELF SHEEP pp SHOOT cp+TAILED+BIRD.
THREAD.SICKNESS SILK SKIN my SLAVE SLICE e SNOUT xh SPEAR pq SPIRIT SPOON SPROUT bk STAND STEAM STEP STONE se
STOPPING SUN SWEET TABLE TALL TANNED+LEATHER.fd TIGER TILE pv TOOTH TRACK TREE TRIPOD TURBAN vz i*td.USE VALLEY
VILLAGE WALK*xs.ng WEAPON qp WHEAT ay WIND WINE uf WORK WRAP WRONG YELLOW..KANNADA+AI+98p+9rp+2b+A AA AI AU BA ic CA
eq DA hd dv ht E EE FA GA he HA I II JA ke KA es LA nw LLLA MA NA NAKAARA+POLLU.w ia et O OO PA fx RA sn SA z ji TA
fg hc dp U UU VA ba+23YA.c+aj di ak hj fa lw SPACING+263hr bn bj.y+271.th+iw+KOTO.ih+2b+A eu+E WU YE YI.BA BE BI BO
BU DA DE DI DO DU E GA GE GI GO GU HA HE HI HO HU I KA KE KI KO KU MA ME MI MINNAN+NASALIZED+TONE-1~5 TONE-7 TONE-8.
TONE-2~5 TONE-7 TONE-8.MO MU N NA NE NI NO NU O PA PE PI PO PU RA RE RI RO RU SA SE SI e+A E HA HE HI HO HU I KA KE
KU MU N NU O RA RE RI RO RU SI SU TO TU U WA WE WI WO YA YO YU.SO SU TA TE TI TO TU U VA VE VI VO VU WA WE WI WO YA
YO YU ZA ZE ZI ZO ZU.q+17kz+313.ll+f+286PROLONGED+131uc+131kz+131.KAYAH+LI+p+9b+A BA CA DA GA HA HTA I KA es LA MA
NA w et OE OO PA fx RA SA z TA fg VA WA YA ZA.c+CWI SHYA.ga+CALYA*PLOPHU.PLOPHU.y+E EE O U UE...KELVIN+0KEY
KEYBOARD*d+278.KEYCAP+fd.KHAROSHTHI+p+183dq+342b+A BA ic CA eq DA hd dv ht GA he HA JA KA es KKA LA MA NA ia et PA
fx RA SA z ji TA fg hc dp TTTA TTTHA VA VHA YA ZA.aq+l+19fd cc.as+aw oj+13gq g f+63LINES LOTUS MANGALAM e+37.c+aj
ir+6CAUDA g+5f+bx+5.bj.bn y+rp+2c+E I O U ba+R....KHITAN+e+fy+204..KHMER+sv+ax+RIEL..p+9ju+y+LY LYY QAA QAI QAQ QAU
QE QI QII QOO+TYPE+56.QU QUK QUU QUUV RY RYY..b+BA CA eq CHO CO DA DO HA KA es KHO KO LA LO MO NGO NNO NO NYO fx PHO
PO QA RO SA z SSO TA fg zi TO dp TTHO VO YO.c+AHSDA ATTHACAN AVAKRAHASANYA BANTOC BARIYOOSAN BATHAMASAT BEYYAL
CAMNUC+PII+KUUH..COENG KAKABAT KHAN KOOMUUT LEK+TOO.MUUSIKATOAN NIKAHIT PHNAEK+MUAN.REAHMUK ROBAT SAMYOK+SANNYA.
TOANDAKHIAT TRIISAP VIRIAM YUUKALEAPINTU.ax+BEI+54BUON+54DAP+54DAP-BEI+54DAP-BUON+54DAP-MUOY+54DAP-PII+54DAP-PRAM+54
LEK+ATTAK+BEI BUON MUOY PII PRAM PRAM-BEI PRAM-BUON PRAM-MUOY PRAM-PII SON..MUOY+54PATHAMASAT PII+54PRAM+54
PRAM-BEI+54PRAM-BUON+54PRAM-MUOY+54PRAM-PII+54TUTEYASAT.y+INHERENT+AA AQ.c+AA AE AI AU E I IE II OE OO U UA UU Y YA
YY...KHOJKI+az+0gq f+523b+A AA AI AU BA BBA ic CA eq DA hd DDDA dv ht E GA GGA he HA I JA JJA KA es LA nw MA NA w ia
et O PA fx RA SA TA fg hc dp U VA YA.dh+2c+aj fa SHADDA SUKUN bn.y+c+AA AI AU E I II O U..sj+50.KHUDAWADI+p+9b+A AA
AI AU BA BBA ic CA eq DA hd DDDA dv ht E GA GGA he HA I II JA ke JJA KA es LA MA NA w ia et O PA fx RA sn SA z TA fg
hc dp U UU VA YA.c+aj fa bn.y+768.KIMONO KIP+0KISS*2KISSING+CAT+hw+a+dk+61...hw*a+dk+61jd+61...KITE KIWIFRUIT
KNEELING+230KNOT KOALA KOREAN+691KRONOS L+B+ir+4..LAB+COAT.LABEL LACROSSE+STICK+277.LADDER LADY+BEETLE.LANGUAGE+TAG.
LAO+le+2p+9oo HO+MO NO.KO+LA.b+BO CO DO FO+FAY FON SUNG TAM.HO+214KHMU+GO NYO.KHO+214KO LO*LING LOOT.MO NGO NO NYO O
PALI+ic eq hd dv ht he ke nw ia et hc dp.PHO+214PO RO SANSKRIT+z ji.SO+214zi+214TO WO YO.NIGGAHITA SEMIVOWEL+c+LO
NYO..c+PALI+200.ga+MAI+CATAWA EK zi TI..y+c+A AA AI AM AY E EI I II MAI+KAN KON.O U UU Y YY...de+BLUE+233BROWN+71aw
bo+119GREEN+71j+am+20.l+g+o+543.bx+o+i+RINGS+76....ORANGE+233PURPLE+71RED+71cg+ab+ir+20..i+fe+379RINGS+o+l+bx+76....
UP+119YELLOW+71.LARGER+THAN*120.LARI+0LAST+dc+ku*348..gc+ag+b+A*a+bd dw*94cb ac*94ah*107g+305f+96ck v+6ae+60bu hy
bx+738x bp..AA AE*696AFRICAN+D.go ANGLICANA+W.AO AU AV*418AY B*a+g+10or v dd+5x TOPBAR..nh zp+L.C*a+bd ir cb bv*155
ac g+6v br+7x..uj dk+lk+G..CON CUATRILLO*a+294.D*a+cb bv ac+5g+10v dd+5cp+162e+b+Z*501..x TOPBAR..DZ*501E*a+bd dw cb
bv*d+60.ac*688ah g+10f+96ck v+6ae+60bu*256hy x bp*5..EGYPTOLOGICAL+sl cd.ENG ESH ET ETH EZH*au a+cb..F*a+g+6v x..G*
a+bd dw cb bv ac g+6v bu el+12x..hi he ey+594H*a+dw+5cb bv ac bt ah g+10v x..cx+H.HENG HWAIR I*a+bd dw cb ac ah*155
g+10f+96ck v+6ae+60bu hy x bp*5..lk+712nj IS J*a+ac ev x..K*a+bd cb bv bt be+12g+5v dd+5el+12x*599..L*a+bd ir zn cb
bv ac+5g+bg*107.f+13ig+12dd+5q+g bp.e+b+J..x..LJ M*a+bd g+10v..q+SCOTS+S..MIDDLE-WELSH+LL V.N*a+bd cb bv ac+5bt g+10
ck j+7dd+5cj+181el+12e+b+J..bp..NJ O*a+bd dw cb ac*94ah*107g+305f+209ck v+6ni*94ae+60cj+162pe bu*256q+38hy*107x*155
bp*710..OI zf+POLISH+O..gy OO cl+E O.OU P*a+bd g+6or v SQUIRREL+29x*226..Q*a+be+12x+226..R*sc a+bd cb bv g+575f+96
ae+60dd+5el+12x ly..au+C+45E cx+H.cl+E..RUM+sc.S*a+bd*142cb*142bv ac cm+5g+606v el+12cp+162xk+29..SALTILLO ua fy+G.
xf+S.SIGMOID+S.e+ag+I.Q+a+v+29...T*a+cb bv ac+5cm+5be+12g+10v dd+5bf+7x..THORN*727ga+468TRESILLO ef+A go H lk+G.K L
M T V.TZ U*ir a+bd dw cb ac*5ah*562g+5f+209ck v+6ni*94ae+60bu*d+175.hy bx+6x bp*641..gi V*a+be+12g+5v bp..VEND
VISIGOTHIC+Z.VOLAPUK+AE OE UE.VY W*a+bd ac ah g+10ck v..WYNN X*a+ah g+6..Y*a+bd ac ah g+10ck v*6pe bu x bp..YOGH Z*
a+bd cb ac bt g+10v dd+5br+7x xk+29...cy+IJ OE..fu EPIGRAPHIC+b+eu+M.I+LONGA.ae+M.au+F P.jz+I...b+sl ALVEOLAR+150
BIDENTAL+PERCUSSIVE.BILABIAL+CLICK PERCUSSIVE.DENTAL+150ey+343ae+ey+se*a+lf x....LATERAL+150PHARYNGEAL+kz+
FRICATIVE..bf+CLICK*141.au+ESH+pe.ey+se+48..SINOLOGICAL+17e+ag+A AE B rb+B.C D E ETH EZH F G*118H I ae+R.J K L*a+zn
x..M N O OE cl+O.OU P Q R*a+181.au+N R.RUM S T ef+E G K M R.U V W Y Z..STRETCHED+C*279.i+48kz+LARYNGEAL+SPIRANT..
WYNN YR.e+ag+b+I+48U+48..b+A*REVERSED-SCHWA a+bd dw*94cb ac*94ah*107g+305f+96ck v+6ae+60bu hy bf+7h+152bx+738x bp..
AA AE*696go*141ANGLICANA+W.AO AU AV*418AY B*a+g+10or v dd+5q+38br+7x TOPBAR..rb+go E O.BASELINE+ESH.nh BLACKLETTER+E
O*48.en+299zp+L.C*a+bd ir cb bv*155ac lf g+6v br+7bf+7x..uj*a+jn+j+SERIF.h+106...dk+lk+G.gy cl+E.au+cl+E...CON
CUATRILLO*a+294.D*a+cb bv ac+5lf g+10v*329dd+5q+38br+7cp+162x ly TOPBAR..DB+108jg DEZH+760ix+I J*786.f+R*318THORN
WYNN.DUM DZ*iw*334a+cb..E*a+bd dw cb bv*d+60.ac*688ah g+10f+96or ck v+6ae+60bu*256NOTCH hy bf+7x bp*5..
EGYPTOLOGICAL+sl cd.ENG*a+ev br+7..ESH*a+lf f+ir*d+lf...br+7bf+7..ET ETH EZH*au a+cb lf br+7bf+7ly..F*a+g+6v q+38
br+7x..FENG+iw*a+TRILL...G*a+bd dw cb bv ac g+6v bu el+12br+7x..hi he ey+594H*a+dw+5cb bv ac bt ah g+10v dd+5br+7x..
cx+H.HENG*118HV I*a+bd dw cb ac ah*155g+5f+96ck v+6ae+60bu hy bf+7x*355bp*5..lk+712ae+go OE.nj*48te+E.IS J*a+cb ac
ev x..K*a+bd cb bv bt be+12g+5v dd+5el+12br+7x*599..KRA L*a+bd ir zn*d+br+7..cb bv ac+5lf g+bg*107.f+ir q+38.oq
ig+12ae+LAZY+S..dd+5q+g bx bp.br+7bf+636x..LAMBDA+48LENIS+F.LEZH*141LJ cj+S*a+be+12g+6ig+12...LS+108LUM LZ+108M*a+bd
ev g+10v q+38br+7..q+SCOTS+S..MIDDLE-WELSH+LL V.MUM N*PRECEDED+BY+689.a+bd cb bv ac+5ev lf bt g+10ck j+7dd+5cj+181
q+38el+12br+7bf+7bp..NJ NUM O*a+bd dw cb ac*94ah*107g+305f+209ck v+6ni*94ae+60cj+162pe jn+bx+135.bu*256hy*107bf+7
x*155bp*710..OI zf+POLISH+O..gy OO cl+E*141O*a+bf+7x..OE.OU P*a+bd g+6or v q+38br+7SQUIRREL+29x*226..tt Q*a+be+12
v*29x+226..QP+108R*sc a+bd cb bv ev g+575f+96oq*d+q+38br+7..ae+60dd+5cj+LEG.q+38el+12br+7x ly.si+HANDLE..RAMS+ni.au+
C*45E ENG cx+H.K cl+E*788.R+a+oq..fy+G..RUM*sc.S*a+bd*142cb*142bv ac cm+5lf g+606v q+38el+12br+7cp+162xk+29..SAKHA+
YAT.SALTILLO ua*788fy+G*318R*a+106..xf+S.jz+DIAERESIZED+U.O*48cl+O.ef+M.U.SIGMOID+S.SQUAT+au+ESH..STIRRUP+R.T*a+cb
bv ac+5cm+5lf ah be+12g+10v*355dd+5q+38br+7bf+7x..TAILLESS+tt.TC+518TESH+760TH+a+STRIKETHROUGH..THORN*727ga+468
qn+299TRESILLO TS+546TUM ef+A AE go jg E G H*a+oq*329..I lk+G.K L M*557O+OPEN-O*48.OE*a+aa+12x..cl+E.R*a+v cj+
LEG*355.q+38br+7ly..T*279UI V W Y*378.TZ U*ir*a+cp+181..a+bd dw cb ac*5ah*562g+5f+209ck v+6ni*94ae+60j+7bu*d+175.hy
bf+7bx+6cp+181x bp*641..UE UI UM UO gi*48V*a+lf be+12g+5v br+7h+7bp..VEND VISIGOTHIC+Z.VOLAPUK+AE OE UE.VY W*a+bd ac
ah g+10ck v bx+6..X*a+ah g+6cj+j+LEG*d+jn+h+106..a+SERIF....jn+h+106.br+7..Y*a+bd ac ah g+10ck v*6pe bu bx+6cp+181x
bp..YOGH Z*a+bd cb ac lf bt g+10v dd+5q+38br+7bf+7x xk+29...cy+FF FFI FFL FI FL IJ cj+S+T..OE ST..ml+e+b+A E H I J K
L M N O P R S ua T U V X....LEAF+FLUTTERING+IN+176..LEAFY+GREEN.LEDGER j+d+bh+772h+f+148ky by+235.cr+772.ANGER+114
eg+fn*45.ARC+658ao+459og+bo+453UP+453.av+454nq dk+ENTRY.ea+14hh+571eb+725f+eg+14bc gl+2sh+252.vc+29bq+113sz cx+
av+469ld aw*a+g t+33m+33i+33..os rm+bw+xd+d+h+235....bw+177RUNNING+ze..li+531jn+601LUGGAGE MULTIMAP ru+595l+247
OUTER+JOIN.bc*618ep+621h+ao*od+395a+f+117x ab+12..av+3f+ao*a+665..tq+3bs+3an+3px+3ay+3.S-SHAPED+610pm+87co+113jz+
U+14.da+77pq+114bk+680je+14ky kl+411THOUGHT+114m+298ej+86qo+14am+oh+211.by+308ab+700ay+726sh+252WRITING+97.
LEFT-FACING+739LEFT-HANDED+741dt+480tk+217LEFT-SIDE+ARC+331.LEFT-TO-RIGHT+492ai+ao*r+kn+27fr+713cp+41bp+20.d+493
if+517o+41od+bl hz X.TO+ir*o+af+ao+TO+13....av+121.a+eb+210f+117dm+34v de+75pe bw+75nz+29k+5e+309x ly*374TIP+239
ab+12..us sr+270av+275BOTTOM-SHADED+122kp+3iv+3f+724mo+3rk+270li fp+o+af+165.a+og+bo+r+af+289.bg+cj+81.if+13TO+13.ar
UP+r+ai+289cj+81af+711.if+13TO+13.bz...cu+304tk+122tq+3mh+64gk+3sb+122vp bs+3ct+3SQUIGGLE+3qn+357am+34an+ao*o+
af+258.TO+13a+524.iv+3mh+64.cg+607i+260pw+629px+3ay+661.LEG LEMON LEO LEOPARD LEPCHA+ce+c+K KANG L M N NYIN-DO P R
T..p+9b+A BA BLA CA eq DA hd DZA FA FLA GA GLA HA HLA JA KA es KLA LA MA MLA NA w et PA fx PLA RA SA z TA fg nn no
hc dp VA WA YA.as+CER-WA NYET+THYOOM+TA-ROL..TA-ROL TSHOOK*CER-WA..c+fa RAN.mk+b+RA YA..y+c+AA E I O OO U UU...bl+r+
mn+dl+r+321..al+435ai+3xg+r+321OR+144.hp+dl+r+al+339....d+489BUT+ny+338.dk+509dl+TO+OR+321..OR+so dl+TO.fk+TO.al hp+
dl+TO*a+g+r*44ks......o+27c a+553.LEVEL+SLIDER.LF LIBRA cy+cl+325.ei+kg+2ch+91bq+173t+ee+av+CUSP kw...jh+30j+547RAIL
h+547gh xd jm+91m+367gb+367ab+13ay+68.ya*MOOD*114.LIMBU+p+9at+2b+BA ic CA eq DA ht GA he GYAN HA JA ke KA es LA MA
NA w PA fx RA SA z ji TA fg TRA WA YA YAN.bi+2c+KEMPHRENG LOO MUKPHRENG SA-I.e+b+aj KA LA MA NA w PA RA TA..mk+577y+
c+A AI AU E EE I O OO U..VOWEL-CARRIER+b..LIMITED+LIABILITY+0.dd+FEED INTEGRATION+ny+INCLUDING+nc+POLE...a+
RECTANGULAR+659sd+659..db kx*SET..LINEAR+A+c+A028B A100-102 A120B A131C A301~8 A309A A309B A309C A310~2 A313A A313B
A313C A314~71 A400-VAS A401-VAS A402-VAS A403-VAS A404-VAS A405-VAS A406-VAS A407-VAS A408-VAS A409-VAS A410-VAS
A411-VAS A412-VAS A413-VAS A414-VAS A415-VAS A416-VAS A417-VAS A418-VAS A501~6 A508~13 A515 A516 A520 A521 A523~32
A534~42 A545 A547~57 A559 A563~6 A568~89 A591 A592 A594~6 A598 A600~4 A606 A608~24 A626~9 A634 A637 A638 A640 A642~6
A648 A649 A651~64 A701+A.A702+B.A703+D.A704+E.A705+F.A706+H.A707+J.A708+K.A709+L.A709-2+L2.A709-3+L3.A709-4+L4.
A709-6+L6.A710+W.A711+X.A712+Y.A713+193A714+ABB.A715+BB.A717+DD.A726+EYYY.A732+JE.A800~7 AB001~11 AB013 AB016 AB017
AB020~4 AB021F AB021M AB022F AB022M AB023M AB026~31 AB034 AB037~41 AB044~51 AB053~61 AB065~7 AB069 AB070 AB073 AB074
AB076~82 AB085~7 AB118 AB120 AB122 AB123 AB131A AB131B AB164 AB171 AB180 AB188 AB191..B+IDEOGRAM+B100+ze.B102+uf.
B104+DEER.B105+EQUID.B105F+MARE.B105M+STALLION.B106F+EWE.B106M+RAM.B107F+SHE-GOAT.B107M+HE-GOAT.B108F+SOW.B108M+
BOAR.B109F+COW.B109M+BULL.B120+WHEAT.B121+BARLEY.B122+OLIVE.B123+SPICE.B125+CYPERUS.B130+OIL.B131+WINE.B132 B140+
BRONZE.B141+GOLD.B142 B145+WOOL.B146 B150 B151+ni.B152~4 B157 B158 B159+CLOTH.B160 B161 B162+GARMENT.B163+ARMOUR.
B164~72 B173+MONTH.B174 B176+168B177~85 B189 B190 B191+HELMET.B220+FOOTSTOOL.B225+BATHTUB.B230+SPEAR.B231+3B232
B233+SWORD.B234 B236 B240+WHEELED+we..B241+we.B242+we+FRAME..B243+WHEEL.B245 B246 B248 B249 B251~3 B254+DART.B255~9
VESSEL+B155 B200~19 B221 B222 B226~9 B250 B305..MONOGRAM+B127+KAPO.B128+KANAKO.B133+AREPA.B135+MERI.B156+TURO2.B247+
DIPTE..fw+B001+DA.B002+RO.B003+PA.B004+TE.B005+TO.B006+NA.B007+DI.B008+A.B009+SE.B010+U.B011+PO.B012+SO.B013+ME.
B014+DO.B015+MO.B016+QA.B017+ZA.B020+ZO.B021+QI.B023+MU.B024+NE.B025+A2.B026+RU.B027+RE.B028+I.B029+PU2.B030+NI.
B031+SA.B032+QO.B033+RA3.B036+JO.B037+TI.B038+E.B039+PI.B040+WI.B041+SI.B042+WO.B043+A3.B044+KE.B045+DE.B046+JE.
B048+NWA.B050+PU.B051+DU.B052+NO.B053+RI.B054+WA.B055+NU.B057+JA.B058+SU.B059+TA.B060+RA.B061+O.B062+PTE.B065+JU.
B066+TA2.B067+KI.B068+RO2.B069+TU.B070+KO.B071+DWE.B072+PE.B073+MI.B074+ZE.B075+WE.B076+RA2.B077+KA.B078+QE.B080+MA.
B081+KU.B085+AU.B087+TWE.B090+DWO.B091+i..ax+B018 B019 B022 B034 B047 B049 B056 B063 B064 B079 B082 B083 B086
B089...LINK+4LINKED+PAPERCLIPS.LION+8LIPS LIPSTICK LIRA+0LISU+b+A AE BA CA eq DA DZA E EU FA GA he HA HHA I JA KA es
LA MA NA w O OE PA fx SA z TA fg ga+MYA+BO CYA JEU NA TI.NA+PO..nn no U UE UH WA XA YA YHA ZA sk.as+57.LIVRE+
TOURNOIS+0.LIZARD LLAMA LOBSTER LOCK*a+INK+PEN...LOCKING-SHIFT+l ka.hk+d*a+g+6f+564aa+81q+210dr..OR*ts+hk+d..a+g+6
f+564aa+81q+210...LOLLIPOP cj+me+if+j+MEMBER+OF+f+ab......om DRUM j+h+ao f+3.ky.ai+525h+119af+525.LOTION+zo.LOTUS
LOUDLY+CRYING+8.LOVE+HOTEL b.jn+dz BATTERY BRIGHTNESS+4f+ms+77.rn*45dd.bh+BLADE+293bq+113cx+ld aw rm+359bw+177.j+
BALLPOINT+PEN.ld+566CRAYON FOUNTAIN+PEN.PAINTBRUSH PENCIL in+297sd+331am by+218.l+247h+ld+677ea+45DROP-SHADOWED+
ay+68.PENCIL in+297sd+778po+ay+71.am by+218.co+113m+298by+308.hl*DIVIDED+BY+aa+RULE....LRE LRI LRM LRO LUGGAGE LUNGS
LYCIAN+b+A AN B BH D E EN G H I J K KK L M MM N NN P Q R S T TH TT U W X Z..LYDIAN+b+A AN B C D E EN F G I K L LY M
N NN O Q R S SS T TT U V Y.by+2.LYING+8bu MAGE MAGIC+WAND.MAGNET MAHAJANI+az+0b+A BA ic CA eq DA hd dv ht E GA he HA
I JA ke KA es LA MA NA ia et O PA fx RA sn SA TA fg hc dp U VA.cy+SHRI.dh+2c+fa..MAHJONG+TILE+AUTUMN sq BAMBOO
CHRYSANTHEMUM uy+176ch+99bq+99t+99GREEN+341JOKER ff+99ik+176l+99ORCHID PLUM RED+341co+99jm+99hq+176SPRING SUMMER
m+99i+99qp+176ay+341WINTER..MAKASAR+ANGKA uk+OF+241.b+A BA CA DA GA JA KA LA MA NA w et PA RA SA TA VA YA.PASSIMBANG
y+c+E I O U...MALAYALAM+AU+98DATE+2p+9dq+l+gs FIFTH FORTIETH cx qi dc qy TENTH TWENTIETH.m+EIGHTIETHS io vt
TWENTIETHS..b+A AA AI eu+II.AU BA ic CA eq CHILLU+K L LL LLL M N NN RR Y.DA hd dv ht g+REPH.E EE GA he HA I II JA ke
KA es LA nw LLLA MA NA w ia NNNA et O OO PA fx RA sn SA z ji TA fg hc dp TTTA U UU VA VEDIC+136ba+23YA.aq+l+19fd.c+
aj di ak CIRCULAR+200ca+732PARA ab+ir+200.bn bj.y+271.MALE+d+483c a+x+d+MALE+d+483..c...MALTESE+30MAMMOTH ze*d+
uf+322.DANCING IN+BUSINESS+SUIT+LEVITATING..TUXEDO.a+GUA+PI+MAO..TURBAN..MANAT+0MANDAIC+AFFRICATION+2ot+2b+AB AD AG
AH sl AK AKSA AL AM AN AP AQ AR AS lc ASZ AT ATT AZ DUSHENNA HALQA IN IT KAD USHENNA.as VOCALIZATION+2.MANGO
MANICHAEAN+az+df+10.b+AAYIN ib sp mb BHETH md DHAMEDH FE GHIMEL jr HE ow JAYIN JHAYIN nk KHAPH gu wp is PE QHOPH
QOPH ty jy ha hg SSHIN zh yo THAMEDH np XAPH XOPH qa ma ZHAYIN.aq+573as+g*637f+g+637.FLEURON dd+204kw i+33.c+UD..
MANS+SHOE.MANTELPIECE+CLOCK.MANUAL+645MAP+ax+qf+LIGHTHOUSE...MAPLE+213MARCHEN+rl+2b+-A A BA CA eq DA DZA GA HA JA KA
es LA MA NA w et PA fx RA SA z TA fg nn no WA YA ZA sk.df+105c+aj ak.mk+b+A BA CA eq DA DZA GA HA JA KA es LA MA NA
w et PA fx RA SA z TA fg nn no WA YA ZA sk..y+c+AA E I O U...MARRIAGE+4MARTIAL+ARTS+UNIFORM..MASARAM+GONDI+p+9b+A AA
AI AU BA ic CA eq DA hd dv ht E GA he HA I II JA ke JNYA KA es KSSA LA nw MA NA w ia et O PA fx RA SA z ji TA fg TRA
hc dp U UU VA YA.RA-KARA REPHA c+aj mc HALANTA fa bj.bn y+505..MASCULINE+528MASK+WORK+4.MASU+2MATE+DRINK.rq+rc+ag+A
go B nh C uj D jg nt E ek ETA F G hi H I nj J K kk L pd M MU N NU O gy lp P tt PI PSI Q R uo S mx T TAU jj*4U gi V W
X XI Y Z yv.p+9ek+4FRAKTUR+375pa+667kk+4NABLA rv+312tt+4PI+4uo+4fy+375e+A go B nh C uj D jg nt E ek ETA F s+264G hi
H I nj J K kk L pd M MU N NU O gy lp P tt PI PSI Q R uo S mx T TAU jj U gi V W X XI Y Z yv.jj+4.qe+ag+A B D E F G I
J K L M O S T U V W X Y.p+9e+104.ri+159FRAKTUR+ag+A B D E F G J K L M N O P Q S T U V W X Y.e+104.pa+ag+384ek+4kk+4
NABLA rv+312tt+4PI+4uo+4e+A go B nh C uj D jg ix+I J.E ek ETA F s+264G hi I nj J K kk L pd M MU N NU O gy lp P tt PI
PSI Q R uo S mx T TAU jj U gi V W X XI Y Z yv.jj+4.j+791MONOSPACE+ag+104p+9e+104.h+791jb+159bs+rc+ag+384p+9ek+4
pa+667kk+4NABLA rv+312tt+4PI+4uo+4e+701jj+4.ag+104p+9pa+375e+104.fy+ag+A C D G J K N O P Q S T U V W X Y Z.e+A B C D
F H I J K L M N P Q R S T U V W X Y Z...MAXIMIZE MAYAN+lo+ch gr hv iy bq t ie ff ij l co gm jm ho fd iq m gb i ka..
MEASURED+eg*wt+72a+cl+ARM+ENDING+IN+ao+bm+bo+250j+d+78.h+d+78.UP+250........BY h+eg+45..MEAT+ON+BONE..MECHANICAL+ARM
LEG.MEDEFAIDRIN+ag+506cm p+ch bq t ff l*149co jm m*149i*149ka.at+OH.hx+21aq+gr hv iy ie ij gm ho fd iq gb.e+506ax+
AIVA..MEDIEVAL+cm at+2bi+2.bw+av+37rc+359ch+173bq+91xt+j+519h+519.t+354jh+30j+502dt+eg+400.rq+65h+502cz+eg+400.gh xd
jm+173e+359m+354ab+13ay+71.MEETEI+MAYEK+AHANG+KHUDAM.ANJI APUN+IYEK.CHEIKHAN CHEIKHEI p+9b+ATIYA BA BHAM eq CHIL hd
dv DHOU DIL E GHOU GOK HUK I*125JHAM JIL KHOU KOK*125LAI*125MIT*125NA*125NGOU*125ia et O PA*125PHAM RAI SAM z ji
THOU TIL*125hc dp UN WAI wd.LUM+IYEK.fw+582bn y+c+AAI AAU ANAP AU CHEINAP II INAP NUNG ONAP SOUNAP UNAP UU bj
YENAP..sj+582..MELON MELTING+8MEMO MENDE+KIKAKUI+ca+aq+dg+gn.HUNDREDS lm TEENS fd+gn.TENS gn..p+88fw+M001+KI.M002+
KA.M003+KU.M004+WI.M005+WA.M006+WU.M007+MIN.M008+ze.M009+MUN.M010+BI.M011+BA.M012+BU.M013+I.M014+A.M015+U.M016+DI.
M017+DA.M018+DU.M019+SI.M020+SA.M021+SU.M022+TI.M023+TA.M024+TU.M025+LI.M026+LA.M027+LU.M028+JI.M029+JA.M030+JU.
M031+YI.M032+YA.M033+YU.M034+FI.M035+FA.M036+FU.M037+NIN.M038+NAN.M039+is.M040+HEE.M041+HA.M042+HOO.M043+NGGA.M044+
KPEE.M045+WO.M046+HUAN.M047+MBEE.M048+KO.M049+WVA.M050+PU.M051+PE.M052+HEN.M053+HIN.M054+LOO.M055+TE.M056+GBA.M057+
NGON.M058+NYAN.M059+MEN.M060+NYON.M061+WVI.M062+MBA.M063+JO.M064+NDO.M065+KEE.M066+PO.M067+NDOO.M068+PI.M069+TO.
M070+GBO.M071+GBOO.M072+MBE.M073+LE.M074+KPU.M075+FE.M076+KOO.M077+VO.M078+FEE.M079+SO.M080+YE.M081+PEE.M082+NGGU.
M083+HEEI.M084+LEE.M085+VE.M086+cj+NGGE..M087+HUN.M088+FO.M089+DEE.M090+NGGI.M091+TEE.M092+KPA.M093+GBEE.M094+MON.
M095+KE.M096+HE.M097+BE.M098+NYEN.M099+PA.M100+E.M101+FAN.M102+POO.M103+BOO.M104+TOO.M105+cj+MBOO..M106+cj+NGGOO..
M107+GBE.M108+KPE.M109+YEE.M110+cj+LE..M111+GA.M112+KPOO.M113+JE.M114+WOO.M115+NGGEE.M116+SE.M117+NEN.M118+WE.M119+
NDE.M120+NGGO.M121+YO.M122+MBU.M123+NDI.M124+GBI.M125+NDU.M126+WEE.M127+NGGUA.M128+HOOU.M129+NDA.M130+HAN.M131+IN.
M132+KPI.M133+FOO.M134+NJOO.M135+IN.M136+SOO.M137+EI.M138+BO.M139+WVE.M140+HO.M141+YOO.M142+cj+MBO..M143+WEI.M144+
VOO.M145+MBI.M146+NGGE.M147+O.M148+GBU.M149+NJEE.M150+BEE.M151+VU.M152+NJA.M153+LO.M154+MUAN.M155+GI.M156+NGGOO.
M157+JEE.M158+KPO.M159+NGGAA.M160+JOO.M161+cj+MBE..M162+SEE.M163+EE.M164+NYIN.M165+OO.M166+GUEI.M167+GUAN.M168+GU.
M169+NON.M170+NYUN.M171+RA.M172+MBOO.M173+VEE.M174+MBO.M175+cj+JO..M176+HI.M177+NGUAN.M178+EN.M179+KUA.M180+DOO.
M181+DO.M182+VI.M183+cj+NGGO..M184+NGEN.M185+VA.M186+HU.M187+MBUU.M188+MBEE.M189+MUEN.M190+GEE.M191+NDEE.M192+NJU.
M193+HON.M194+WUI.M195+AN.M196+SIA.M197+FUA....MENORAH+a+ff+BRANCHES...MENS+4MERCURY MEROITIC+CURSIVE+dq+ch+92hv+92
bq+92t+92ff+92l+cx TWELFTH.co+92jm+92fd+92m+92i+92.b+A eu+SA.BA DA E HHA I KA es LA MA NA NE O PA QA RA SA SE TA TE
TO WA YA.tl+IMN RMT.aq+ch*103jq+16ew*16bq*103lg*16t*103ff*103gx+16l*103co*103fs*16jm*103lx*16fd*16fz*16m*103cc*16
i*103..HIEROGLYPHIC+b+A BA BA-2 DA E HHA I KA es LA MA NA NA-2 NE NE-2 O PA QA RA RA-2 SA SA-2 SE TA TA-2 TE TE-2 TO
WA YA.ax+VIDJ VIDJ-2...MERPERSON MESSAGE+WAITING.METRICAL+dw cj+o+cp i+SHORTS...PENTASEME cp+o+cj..TETRASEME TRISEME
i+SHORTS+vh o+cj....METRO MIAO+b+AH eu+MA NA w ZZA.BA BRI DA hd DLHA DLHYA DZA DZHA DZYI DZZA FA GA he GHHA HA HHA
KA LA LHA LHYA LYA MA MHA NA rs w NGHA NHA ia NNHA et NYHA PA PLA QA QGA REFORMED+TONE-1 vy TONE-4~6 TONE-8 no.RTE
SA z ji SYI TA TE TLHA TLHYA TONE-2~8 nn TSE no TSSA hc VA VFA WA XA YI+DZHA KA ia PA TA nn no hc.ZA sk ZSA ZSHA ZZA
ZZSA ZZSYA ZZYA.c+ASPIRATION ce+ez+13.REFORMED+ASPIRATION VOICING..ga+r bg h qn+44.y+c+A AA AE AEE AHH AI AN ANG AU
E EA EI EN ENG ER ERR I IA IAN IANG IE IG II ING IO IONG IU N NG O OER OEY OG OO OU jc+ER ERR.U UA UAN UANG UEI UI
UNG UOG UU VW W WO Y YI YUI...MICR+me+4ON+US+4..MICRO+0MICROBE MICROPHONE MICROSCOPE q+g kl+411.MIDLINE+aa+428.
MILITARY+HELMET MEDAL.MILKY+WAY.MILL+0MINIBUS MINIDISC MINIMIZE ii+c*IN+28a+cm+6g+5ri+33jb+33..bp.MINUS-OR-PLUS+0
MINY MIRROR*219MMSP MOBILE+PHONE*OFF a+af+ao+326....MODELS MODERN+PENTATHLON.MODI+az+0gq p+9f+63b+745c+aj
ARDHACANDRA HUVA bn bj.y+237.ez+dw+a+ae+60..b+bd+26ALVEOLAR+150gp BEGIN+385BILABIAL+150ag+A AE B rb+B.C D E F G H*48
I J K L M N O OU P Q R au+E N.T U V W.rf+j+152h+152.CHINESE+ga+wd+591YIN+591..ac+26fh fu+26zx+EN vd+0SOFT+0.
DENTAL+150g+aa+13my ab+13.f+gp ms.bo+481uk+385EXTRA-HIGH+287EXTRA-LOW+287GEORGIAN+NAR.ey+343ck+26cx+559ig+287
LATERAL+150j+442jn+bd+26ac+26eb+526bo+34ck+26ae+365j+ao cw.xz+352bu h+34bx bp ga+13UP+34ab+40.bh+h+ea+259..bu
MID+287q+f+626ck+26.ii+0cl+SHELF.k+0ms ep+fh bo+3at+2ae+365UP+3.bf+CLICK+141.au+cm ey+343.RHOTIC+7h+442SHELF cp+386
e+A AE sl go B*118rb+O.nh en+299C*279ag+AA B G*118H I*48ae+R.L*378N OE R U Y.uj dk+gy au+cl+E...D*a+v*329ly..jg
DEZH+108ix+J+786.DZ+iw*334.E ENG ESH ETH EZH F FENG+108G*118hi jh+hi tt.H*a+v x..HENG*118I+48nj J*318K L*a+zn ae+
LAZY+S..q+38br+7bf+636..LEZH*141cy+OE.LS+108LZ+108M*118N+a+j+7bf+7..O*48cl+E O.P tt Q R*a+oq ly..RAMS+ni.au+E ey+21
cl+E..S*a+lf v..ua fy+G.jz+U.T*795TC+518TESH+108jj qn+299TS+546ef+A AE go H I M*557cl+E.R*a+v cj+LEG*355...V W
Y*378.U*ir a+j+7..gi V*a+v h+7..W X Y Z*334.STRESS+d+385.ec+cx+559by+140.by+140ef+294UNASPIRATED UP+481US ab+40
VOICING wd+709YIN+709..MODULO+i+SUM..MONEY+BAG a+WINGS..MONEY-MOUTH+8MONGOLIAN+ss*490fh cm p+9f+ss+427.oo t+33FREE+
ys+SELECTOR+183..hx+21ae+ss*578.b+A ALI+GALI+A AH aj+l.BALUDA CA DA DAGALGA DAMARU hd cx+U YA.I ae+UBADAMA.KA w ia
PA fx ji TA m+BALUDA.hc dp UBADAMA bj+l.ZA sk..ANG BA eq*a+420.uj DA E EE FA GA HAA I JA KA es LA LHA MA MANCHU+ALI+
GALI+ic CA CYA dv ht he ke LHA w ji TA hc ZA sk..FA I KA RA sk.NA O OE PA QA RA SA z SIBE+ANG eq DA E FA GA GAA HA
HAA I IY JA KA PA RAA z TA nn U UE ZA sk.TA TODO+ALI+GALI+TA sk..ANG BA eq DA DZA E GA GAA HAA I JA JIA KA cj+y+0.MA
NIA O OE PA QA TA nn U UE WA YA.nn U UE WA YA ZA ZHI ZRA.MANCHU+57NIRUGU hn+ss*490.SIBE+fw+BOUNDARY+124..SWIRL+
ss*490.TODO+SOFT+286.cg+ss+427.ef+SWIRL+ss+578..y+50.MONKEY*8MONOGRAM+qf+ki wd YIN..MONORAIL MONOSTABLE+4MOOD+114ku+
CAKE VIEWING+CEREMONY..MOSQUE MOSQUITO MOTHER+xq.MOTOR+BOAT SCOOTER.MOTORIZED+645MOTORWAY MOUNT+FUJI.pf*BICYCLIST
CABLEWAY RAILWAY.MOUSE*hw TRAP.qt MOVIE+CAMERA.MOYAI MRO+gq p+9f+63b+A BA CHU DA DAI E EA HAI HAO KEAAE KHAI KO LA
LAN MAEM MIM NGI NIN O OL OO PA tt RI RO SHI TA TEK THEA WA YO..MUCH+207MULTANI+b+A BA ic CA eq DA hd DDDA dv ht E
GA he HA I JA JJA KA es LA MA NA ia et PA fx RA RHA sn SA TA fg hc dp U VA YA.dh+2.MULTIMAP pg+415gv+c*IN+f+37j+265
h+265am.a+g+6dr..X.MULTISET*gv lz.MUSHROOM MUSIC+FLAT+0NATURAL+0xf+0.nx+KEYBOARD*a+JACKS..tp SCORE ax+ARPEGGIATO+78
BEGIN+BEAM PHRASE SLUR TIE.BRACE fn BREATH+2dw BREVIS*212C+CLEF.CAESURA aw+X+178.CLIMACUS CLIVIS CLUSTER+647CODA ca+
oe ACCENT-STACCATO AUGMENTATION+17BEND DOIT f+pv.bo+BOW.FLAG-1~5 FLIP HARMONIC LOURE MARCATO MARCATO-STACCATO RIP
SMEAR SNAP+PIZZICATO.SPRECHGESANG+210STACCATISSIMO STACCATO STEM TENUTO TREMOLO-1~3 cg+pv.UP+BOW..COMMON+TIME.
CRESCENDO CROIX CUT+TIME.DA+CAPO.DAL+SEGNO.DAMP*ALL.iv+224DECRESCENDO DEGREE+203f+BARLINE FLAT xf.DRUM+CLEF-1
CLEF-2.gs+179uk+BEAM OF+STIMME.PHRASE SLUR TIE.F+728FERMATA*5s+224FINGERED+TREMOLO-1~3.FIVE-LINE+191FLAT+78FORTE
FOUR-LINE+191FOUR-STRING+FRETBOARD.FUSA+126G+728GLISSANDO+78GRACE+tp+NO+203my..GREGORIAN+C+CLEF.F+CLEF..cx+tp
PEDAL+2yh.HAUPTSTIMME ae+TURN.KIEVAN+C+CLEF.gs+443uk+OF+146.s+215FLAT+0cx+215dc+443RECITATIVE+2WHOLE+215.KORON j+446
LONGA*vg+212PERFECTA+212.MAXIMA MEZZO MINIMA*av yh.ku+647MULTI+212pg+rr+212.NATURAL+78NEBENSTIMME ln+268NULL+178l+
dg+TWENTY-EIGHTH+179..ONE-LINE+191ph+STROKE-1~9 STROKE-10 STROKE-11.OTTAVA+372bc+178PEDAL+df UP+2.PES+SUBPUNCTIS.
PIANO k+178PODATUS PORRECTUS*FLEXUS.dc+tp yh ga+FLAT xf..QUINDICESIMA+372REPEAT+33REPEATED+FIGURE-1~3.fr+s+224.h+446
RINFORZANDO SCANDICUS*FLEXUS.SEGNO SEMIBREVIS+534SEMIMINIMA+534xf+78cp+224da+224SIX-LINE+191SIX-STRING+FRETBOARD.
qy+179SIXTY-FOURTH+179SORI bk+B ln+126.SUBITO TEMPUS+IMPERFECTUM+CUM+PROLATIONE+vg*DIMINUTION-1~3.PERFECTA...
PERFECTUM+CUM+PROLATIONE+vg PERFECTA*DIMINUTION-1.....THIRTY-SECOND+179THREE-LINE+191TORCULUS*RESUPINUS.TR am+ln+
bo+126j+126h+126UP+av h+126ay...TRIANGLE-ROUND+ln+bo+126..TURN*my UP.TWO-LINE+191VIRGA VOID+178WHOLE+179a+
FINGERNAILS.X+178Z..MVS MW MYANMAR+ce+c+ap+HA RA WA YA.MON+ap+LA MA NA..yk+ap+WA....p+9b+A AITON+RA.AU BA ic CA eq
DA hd dv ht E EASTERN+PWO+pb+GHWA ia YWA...GA he GREAT+SA.HA I II JA ke KA es KHAMTI+CA eq hd dv ht FA GA HA HHA JA
ke nw NA et RA SA hc dp XA ZA.LA nw MA MON+BBA BBE E ke w.NA w ia NNYA et O PA fx RA RUMAI+PALAUNG+FA..SA SGAW+pb+
z..z yk+A BA ic CA eq DA FA GA he HA ke KA es NA ia et fx fg ZA.SHWE+PALAUNG+eq z..ji TA TAI+LAING+BA ic DA hd dv ht
FA GA he JA ke nw ia et..fg hc dp U UU ba+23WA xo+PWO+pb+PWA fg...YA.tl+KHAMTI+HM OAY QN..ez+b+KHAMTI+733yk+733..
yk+139c+aj ASAT g+5KHAMTI+TONE-1 TONE-3.cf+241PAO+pb+43.RUMAI+PALAUNG+TONE-5..dh yk+COUNCIL+EMPHATIC+43vy TONE-3.SAW
vy TONE-3 TONE-5 TONE-6.TAI+LAING+vy TONE-5..bn bj xo+PWO+pb+TONE-1~5....ax+AFOREMENTIONED AITON+at l i.COMPLETED
GENITIVE LOCATIVE yk+at l..TAI+LAING+139.ga+df+SGAW+pb+HATHI KE+PHO.....y+c+AA AI AITON+A AI.E*6GEBA+pb+I..I II
KAYAH+EE OE U.MON+II O.SGAW+pb+EU..yk+AA E*6s+Y..TALL+AA.U UU ba+23xo+PWO+pb+EU UE......N-ARY+dx+g+20k+20n+20.
COPRODUCT do hk+163PRODUCT bk+do+20lz+20.ym n+20lz*fv+a+g k...ay+211.NABATAEAN+CRUCIFORM+aq+t..b+ib sp mb md s+ib mb
HE nk gu wp is hg qa.jr HE ow nk gu wp is PE QOPH ty jy ha hg zh yo np qa ma.aq+bq t l*25fd m cc i..NABLA NAIL+
POLISH.NAIRA+0NAK NAME+BADGE.NAND NANDINAGARI+ve b+A AA AI AU BA ic CA eq DA hd dv ht E GA he HA I II JA ke KA es LA
nw MA NA w ia et O PA fx RA sn SA z ji TA fg hc dp U UU VA ba+R RR.YA.c+aj di lw bn bj.y+c+AA AI AU E I II O qj+E.U
UU ba+R RR....NARROW+NO-BREAK+65.NATIONAL+p+SHAPES.PARK.NAUSEATED+8NAZAR+AMULET.NBH NBSP NECKTIE NEGATED+f+ab+ir+f+
h+148.....to+mm dx+p+ka.gc+653aq+gr hv iy ie ij gm ho iq gb cc.bk am.be+fu ed q+h+370..ct+AB fu+2IC gc+653PA bi+2SA
WC..NEITHER+A+hz+662hb+662.qd+NOR+527.al+NOR+dl+TO.fk+TO.bl..bl+NOR+dl+TO.fk+TO.al...NEL NEPTUNE*302NERD+8NESSUS
NEST+a+EGGS..NESTING+DOLLS.NEUTER gg+CHESS+BISHOP*95EQUIHOPPER*744KING*95KNIGHT*434PAWN*95QUEEN*95ROOK*95ef+440.hw.
NEW+dd ku+348SHEQEL+0TAI+LUE+p+9b+s+B D K M N NG V.ig+444jn+444.c+LAE LAEV.THAM+p+l..ga+414y+c+AA AAY AE AY E II IY
O OA OAY OY U UE UEY UU UY y+SHORTENER......NEWA+az+0cm gq p+9f+cm gq.GAP+204xw+0b+A AA AI AU BA ic CA eq DA hd dv
ht E GA he HA I II JA ke KA es LA LHA MA MHA NA w NGHA NHA ia et NYHA O PA fx RA RHA SA z ji TA fg hc dp U UU
VEDIC+136ba+23WA YA.OM tv+2SANDHI+2SIDDHI c+aj di ak s+136hj fa hr bn bj.y+237.NEWLINE+32NEWSPAPER NEXT+dd PAGE.
NIGHT+a+STARS..NINJA NKO+ca+f+266cj+uw+43ig+43jn+43jb+43.rs+2cp+ig+43jn+43jb+43..cm DANTAYALAN p+9DOROME+0at+2ig+
ga+689.LAJANYALAN b+A BA eq DA DAGBASINNA E EE FA GBA HA I JA JONA+eq JA RA.KA LA MA N NA*WOLOSO.et*WOLOSO.O OO PA
RA sn SA TA U WA YA.jn+ga+689.ax+GBAKURUNEN OO+DENNEN..TAMAN+0.NL NNBSP NO+BICYCLES BREAK+HERE.ENTRY*0MOBILE+PHONES.
l+UNDER+gr+4..PEDESTRIANS PIRACY SMOKING+4.NO-BREAK+65NOMINAL+p+SHAPES..NOMISMA+0NON-BREAKING+286NON-POTABLE+ng+4.
NONFORKING NOR NORDIC+df+0.ru+486ik+uy+d+hq+327.ao*d+hq+154.bb+ik+327hq+154.a+7.av+3f+3bm+234bs+3an+281ay+3.INDIC+
dq+445tv+2QUANTITY+2dc+2tz+2.qp+d+hq+154.ao*d+353bb+353TO+ea cj+13.a+7.av+3f+3bm+234bs+3an+281ay+3..
NORTHEAST-POINTING+la.NOSE ny+A+hz+OF.hb+OF..kn+27AN+ELEMENT+OF..zl+27kg+2dl+TO.fk+TO.al IDENTICAL+TO.bl ru+486jx+
TO.c bk+IMAGE+OF+120.ORIGINAL+OF+120..bp TRUE.nz+j+513bh+248h+513cr+248.tp*PAD PAGE.NOTEBOOK*a+DECORATIVE+COVER...
NUL NULL aq+gr+62hv+62iy+62ie+62ij+62gm+62c ho+62fd+62iq+62gb+62cc+62.NUMERO+0NUSHU+313NUT+d+BOLT..NYIAKENG+PUACHUE+
HMONG+dx+CA.p+9b+A AA CA DA DLA E EE FA GA HA jl I KA LA MA MLA NA NCA NKA NPA NPLA NQA NRA NTA NTSA NTXA et O OO PA
PLA QA RA sn SA TA nn TXA U VA W XA XYA YA ZA.tl+NYAJ.c+qf+ANIMAL INVERTEBRATE LOCATION rx THING.XW+XW..fw+330TONE-B
TONE-D TONE-G TONE-J TONE-M TONE-S TONE-V...OBJECT+REPLACEMENT+397.el+eg+wt+78.ox.OBSERVER+EYE+4.OCR+AMOUNT+OF+kg..
zn+BUCKLE.BOW+TIE.BRANCH+BANK+IDENTIFICATION..CHAIR CUSTOMER+ACCOUNT+aq..me f+377FORK v ae+FORK..OCTAGONAL+0OCTOPUS
ODEN OFFICE+389OGHAM+wj+2b+AILM BEITH CEIRT COLL DAIR EABHADH EADHADH EAMHANCHOLL FEARN GORT IFIN IODHADH LUIS MUIN
NGEADAL NION ONN OR PEITH RUIS SAIL STRAIF TINNE UATH UILLEANN UR.au+wj+2.mz+2.hy OHM+0OIL+DRUM.OK+292OL+CHIKI+AHAD
p+9GAAHLAA+TTUDDAAG.b+AAJ AAK AAM AAW AG AL ANG AT EDD EN EP ERR IH INY IR IS LA LAA LE LI LO LU OB OH OTT OV UC UD
UNN UY.MU+TTUDDAG.MU-GAAHLAA+TTUDDAAG.PHAARKAA as+f+MUCAAD.MUCAAD.RELAA..zf+CHINESE+v+2ih+2.HUNGARIAN+ag+516aq+ew bq
l*19fd.e+516.pa+b+A BE yx DE E EF EKS EL EM EN ER ERS ES ESH ESS HE I II KA KE KHE KU NORTHERN+TSE.O PE PHE lu
SOUTHERN+TSE.TE nc U UU VE YE ZE.lo+ew bq l fd..KEY ik+ARABIAN+b+sl cd BEH DAD DAL ES-1~3 yz GEEM mp jl xu xy ge ul
cs hf wx un SAD yn TEH THAL yp np fi ZAH qb.aq+l fd cc...PERMIC+b+AN BUR CHERY DOI DZHOI DZITA E EF GAI HA I IA IE
KOKE LEI MENOE NENOE O OO PEEI REI SHCHOOI SHOOI SII TAI TSIU U VER VOOI YA YAT YER YERI YERU YRY YU ZATA ZHOI..
PERSIAN+aq+dg l fd cc i.c+A AURAMAZDAA AURAMAZDAA-2 AURAMAZDAAHA BA BAGA BUUMISH CA DA DAHYAAUSH DAHYAAUSH-2 DI DU
FA GA GU HA I JA JI KA KU LA MA MI MU NA NU PA RA RU SA z ji TA fg TU U VA VI XA XSHAAYATHIYA YA ZA.sj+160.PERSONAL+
zv.SOGDIAN+dq+342b+ib cv+sp.sp mb s+ib mb HE is*362jy*362zh*362.jr HE ow nk gu wp is PE RESH-AYIN-DALETH jy ha hg zh
np qa ma.cy+AYIN-DALETH.aq+bq t l*25fd fz m cc i..hq+ARABIAN+b+cd AYN mb md DHADHE DHALETH FE GHAYN jr HE ow nk
KHETH gu wp is QOPH ty jy ha SAT hg zh yo THAW THETH np qa ZAYN.aq+ew l.NUMERIC+167..TURKIC+b+ORKHON+A AB AD AEB AED
AEG AEK AEL AEN AER AES AET AEY AG AL AN AQ AR AS lc AT AY BASH EC ELT EM ENC ENG ENT ENY EP ESH EZ I IC IQ O OE OEK
OP OQ OT.YENISEI+A AB AD AE AEB AEG AEK AEN AENG AET AEY AG AL ANG AQ AR lc AT AY E EC ENC ENT ENY ESH EZ I IQ OE
OEK OQ...UYGHUR+ca+g+10i+84.b+ib mb s+ow.GIMEL-HETH nk gu LESH wp is PE ty jy ha hg zh np qa ma.as+ir t+33i+BARS
fe....OLDER+ADULT ze uf.OLIVE OM+4ON+a+at+df+a+j+h+147......ONCOMING+AUTOMOBILE BUS vb+ENGINE.POLICE+CAR.TAXI.l+
rd+278g+LEADER o+543..ONE-PIECE+SWIMSUIT.ONION cl+BOOK ui dj+dz av+51fu em+42.FILE+os.os td+0LOCK MAILBOX+529hz hb.
OPEN-CIRCUIT-OUTPUT+H-TYPE+4L-TYPE+4.OPEN-OUTLINED+41OPERATING+SYSTEM+COMMAND..OPHIUCHUS vo OPTICAL+DISC*ICON..
OPTION+KEY.OR+336ORANGE+597ORANGUTAN ORIGINAL+OF.ORIYA+AI+98AU+98p+9dq+445ISSHAR b+A AA AI AU BA ic CA eq DA hd dv
ht E GA he HA I II JA ke KA es LA nw MA NA w ia et O PA fx RA RHA sn SA z ji TA fg hc dp U UU VA ba+23WA YA YYA.c+aj
di ak fa im bn bj.y+237.ORNATE+j+67h+67.ORTHODOX+30OSAGE+ag+697e+697.OSC OSMANYA+p+9b+A AA cd BA CAYN DEEL ht E EE
FA GA HA I JA KAAF es LAAN MIIN NUUN O OO QAAF RA SA SHIIN TA U np XA YA..OTTER OTTOMAN+SIYAQ+cv+aq+ch bq t*25ff co
jm*25fd*16m i*16..dq+l+cx SIXTH..MARRATAN aq+586..OUNCE+0OUTBOX+TRAY.tr+av+51jh+30gc+30ay+51.OVERHEATED+8OVERLAP ts+
av+409ay+d+av+409.SQUARES..im OWL OX OYSTER PACKAGE PAD PADDING+397PAGE*FACING+UP.a+dx+vx.lf..PAGER PAGES PAGODA
PAHAWH+HMONG+CLAN+c+FAJ HAM HAWJ KHAB KOO KWM LAUJ LIS MUAS PHAB THOJ TSAB TSHEEJ TSWB VAJ VWJ XYOOJ YAJ YEEG..ce+AU
CAU CHAU HAU HLAU HNAU LAU MAU NAU NCHAU NKAU NLAU NTHAU NTSAU PLHAU QHAU RAU VAU XAU YAU.p+9df+CIM+HOM KES KHAV SO
SUAM TAUM TUB..aq+dg+lm.HUNDREDS lm fd+BILLIONS gn.TENS TRILLIONS.c+AV CIM+CHEEM CUAM+TSHOOJ.HAIS+LUS+NTOG+NTOG...
NRES+TOS.PUB+DAWB.TSOV+ROG.TXWV*CHWV..HLI HNUB IB+YAM.LOS MEEJ+SUAB TSEEB.MUS NQIG NTUJ TAU THIRD-STAGE+HLI.TXHEEJ+
CEEV.VOS+FEEM LUB NRUA SEEV THIAB THOM TSHAB+CEEB..XAUS XIAB XYEEM+FAIB NTXIV uo TOV.XYOO ZWJ+THAJ..y+KAAB KAAV KAB
KAIB KAIV KAUB KAUV KAV KAWB KAWV KEB KEEB KEEV KEV KIAB KIAV KIB KIV KOB KOOB KOOV KOV KUAB KUAV KUB KUV KWB KWV...
PALLAS PALM+BRANCH bo+97TREE UP+97.PALMS+UP+257.PALMYRENE+dt+FLEURON.b+ib sp mb md s+is.jr HE ow nk gu wp is PE QOPH
ty jy ha hg zh yo np qa ma.aq+bq t l fd m cc i.cz+FLEURON..PANCAKES PANDA+8PAPERCLIP PARACHUTE mi+50PARAGRAPHOS
PARAGRAPHUS+2jx+TO a+aa+12bp+20..PARENTHESIZED+p+88HANGUL+nr*A.wf*A U.wk*A.wn*A.nu*A.ro*A.wq*A.ws*A.oa*A.wv*A.wz*A.
SIOS*A.oc*A.sg*A..IDEOGRAPH+ALLIANCE CALL zw ki ch ENTERPRISE FESTIVAL FINANCIAL vb bq t HAVE LABOR METAL ku NAME ff
l REACH REPRESENT RESOURCE yh SELF co jm SOCIETY SPECIAL STOCK STUDY SUN SUPERVISE fd m i ng WOOD.KOREAN+fj+O+HU.
OJEON..gc+238aq+gr hv iy ie ij gm ho fd iq gb cc..PARROT PART+ALTERNATION+2.rv+DIFFERENTIAL dd+BACKWARD bo ex UP..
PARTIALLY-RECYCLED+PAPER+4.PARTNERSHIP+0PARTY+POPPER.PASSED+4PASSENGER+SHIP.PASSIVE-PULL-DOWN-OUTPUT+4
PASSIVE-PULL-UP-OUTPUT+4PASSPORT+wg.PAU+CIN+HAU+ey+se*s hs..b+A BA CA eq DA E FA s+K L M N NG P T W Y.GA HA I IA KA
es LA MA NA w O PA fx RA SA TA fg U UA VA ZA.LOW-FALLING+ga*630.MID-LEVEL+ga*s cj+s...jb+ga*630.SANDHI+ey+se*s..
ga*630....PAW+PRINTS.PDF PDI PEACE+4PEACH PEACOCK PEANUTS PEAR PEDESTRIAN PEN+o+STAMPED+216..PENCIL PENGUIN
PENSIVE+8yg PEOPLE+HUGGING.PER+MILLE+0c fd+556.rw+0PERFORMING+ARTS.PERMANENT+PAPER+0.PERPENDICULAR*a+S..
PERSEVERING+8rx+BOWING+DEEPLY.CLIMBING DOING+CARTWHEEL.tb IN+LOTUS+tw.STEAMY+ROOM..RAISING+BOTH+td+IN+
CELEBRATION....a+BALL BLOND+HAIR.CROWN FOLDED+td.HEADSCARF POUTING+8..PERSONAL+zv.PERSPECTIVE PESETA+0PESO+0
PETRI+231PHAGS-PA+f+324b+A cv+YA.ASPIRATED+FA.BA CA ak eq DA hd DZA E EE FA GA GGA HA I JA KA es LA MA NA w ia et O
PA fx QA RA SA z e+A.TA fg nn no hc dp U kz+HA.VOICELESS+z.WA XA YA ZA sk.df+f+105yj.da+324mk+577SUPERFIXED+458.
PHAISTOS+DISC+c+ao BEE BEEHIVE BOOMERANG BOW BULLS+LEG.CAPTIVE CARPENTRY+PLANE.CAT CHILD CLUB COLUMN COMB ca+el+12.
DOLIUM DOVE EAGLE FLUTE GAUNTLET GRATER HELMET HIDE ni LID LILY MANACLES MATTOCK OX+sq.PAPYRUS PEDESTRIAN PLANE+168
PLUMED+196RAM ROSETTE SAW SHIELD SHIP SLING e+AXE.STRAINER TATTOOED+196TIARA TUNNY VINE WAVY+BAND.uf...PHILIPPINE+
f+76da+76.PHOENICIAN+b+sl ALF BET DELT GAML HE HET xy LAMD wp is PE QOF ROSH SADE SEMK hg TAU TET WAU YOD ZAI.aq+
l*25fd m cc i.sj+50.PHOLUS PICK PICKUP+TRUCK.PIE PIG*hw NOSE.PILCROW+0PILE+OF+POO..PILL PINATA PINCHED+161
PINCHING+97PINE+DECORATION.PINEAPPLE lr+51PISCES PISTOL PITCHFORK*a+TEE+qn...PLACARD PLACE+OF+INTEREST+0WORSHIP..
PLANCK+CONSTANT*o+i+PI....PLAYGROUND+SLIDE.PLAYING+CARD+ACE+59sq av+JOKER.ch+59bq+59FOOL t+59JACK+59KING+59KNIGHT+59
ff+59QUEEN+59RED+JOKER.co+59jm+59fd+59m+59TRUMP-1~9 TRUMP-10~21 i+59ay+JOKER...PLD PLU PLUNGER k+c*r+386IN+j+265
h+265am.a+av+28ac+oe+6.g+5e+391ml+i.bp+10...PLUS-MINUS+0PLUTO*mg+bq t m i..PM POCKET+CALCULATOR.POLICE+CAR CARS+
REVOLVING+49.OFFICER.POODLE POP+DIRECTIONAL+FORMATTING ISOLATE..POPCORN PORTABLE+STEREO.POSEIDON tw+167POSTAL+ni
df*8.POSTBOX POT+OF+FOOD..POTABLE+ng+4.POTATO POTTED+PLANT.POUCH POULTRY+LEG.POUND+0POURING+LIQUID.POUTING+320POWER+
ON+4ON-OFF+4SLEEP+4ax.PRAYER+BEADS.PRECEDES*494PREGNANT+ze rx uf.PRESCRIPTION+TAKE.PRESENTATION+mg+qf+ab+fh cm EM+81
EN+81at+2aa+428jt+57j+eg+14av+796ea+14hh+14f+240bc bk+14ej+86ay+ea+14kt+14..jn+40bi+2h+eg+14av+796ea+14hh+14f+240bc
bk+14ej+86ay+ea+14kt+fn BRAKCET...du i+g+LEADER..WAVY+jn+40.....PRETZEL PREVIOUS+PAGE.ms PRINCE PRINCESS PRINT+673
PRINTER*ICON.PRIVACY+MESSAGE.PRIVATE+USE+56USE-1 USE-2.PROBING+CANE.PROHIBITED+0PROJECTIVE PROPERTY+40PROPORTION
PROPORTIONAL+TO.PROSERPINA PSALTER+PAHLAVI+t+fe+a+fu g...b+ib mb md jr HE ow nk gu MEM-QOPH is PE jy ha hg zh
WAW-AYIN-RESH qa ma.aq+572dh+2ef+dh+2...PU1 PU2 PUBLIC+ADDRESS+LOUDSPEAKER..as+65PUNCTUS+ELEVATUS+2.PURPLE+100PURSE
PUSHPIN PUT+LITTER+IN+ITS+PLACE+4....in+bh+32cr+j*d+bh+j+622h.cr+h+d+bh+32.....h*d+bh+j*622.....gk+gt+20ms.dc+215
QUATERNION+gt+20.bi+at+2df.QUESTIONED+27QUINCUNX gl+2RABBIT*8RACCOON RACING+CAR MOTORCYCLE.wy+ax+en..RADIO*rd.
RADIOACTIVE+0RAILWAY+CAR TRACK.RAIN RAINBOW ep+sq+OF+97.cm g eb+INTERPOLATION+124.FIST li*a+fo+SPLAYED.PART+fm+q+d+
bx+161......INTERPOLATION+124MC+0MD+0MR+0bk.RAM RAT RATIO RAZOR RECEIPT RECORD+50RECREATIONAL+VEHICLE.RECYCLED+
PAPER+4.RECYCLING+ax+qf+GENERIC+MATERIALS.TYPE-1+158TYPE-2+158TYPE-3+158TYPE-4+158TYPE-5+158TYPE-6+158TYPE-7+158...
RED+APPLE GIFT+216.REFERENCE+2REGIONAL+INDICATOR+ax+197..REGISTERED+0REJANG+ce+c+H N NG R..b+A BA CA DA GA HA JA KA
LA MA MBA NA NDA w NGGA et NYJA PA RA SA TA WA YA.dh+2bn y+c+AI AU E EA EU I O U...RELIEVED+8REMINDER+RIBBON.
REPLACEMENT+397RESPONSE RESTRICTED+j+ENTRY-1 ENTRY-2..RESTROOM RETURN+j h ax.fr+CHECKER+BOARD.cn ei+t+ee+lr+51...dd+
FEED.fb*fv PRECEDING+hz.a+123.bp+fv+r+405...au+eg*387cm f+ms*77x+ny+0..EMPTY+SET.FORKED+756li+a+q+rj+id....ny+0
PILCROW+0ms bi+2ep+li+a+fo+SPLAYED....h+259hn+FLORAL+376.bs+ag+L..du THUMBS+563bp*eo.cg+ms.VICTORY+97.REVOLVING+
HEARTS.RHINOCEROS RI RIAL+0RIBBON*ao+bo+32j+78h+78UP+32..RICE+BALL CRACKER.RIFLE h+d+bh+246cr+246.ANGER+114eg*fn*45
eb+je+124.je+124hs+a+68.a+ARC ar+qc+3...ARC+634ao+459av+454nq ea+14hh+571eb+725f+eg+14ao+a+jc+196..bc gl+2sh+252.
vc+29bq+113sz cx+av+469ld os bw+177RUNNING+ze..li+531jn+601ru+595l+247cl+ct+17.OUTER+JOIN.bc*618ep+621S-SHAPED+610
pm+87co+113jz+U+14.da+77SPEAKER*a+l+740m+417..pq+114bk+680je+14ky kl+411THOUGHT+114m+298ej+86qo+14am*r+j+28..by+308
ab+700ay+726sh+252.RIGHT-FACING+739RIGHT-HANDED+741cz+480sb+217RIGHT-SIDE+ARC+778.RIGHT-TO-LEFT+492RIGHTHAND+
INTERIOR+87.af+ao*r+kn+27fr+713cp+317bp+20.d+493if+517o+317od+al hb X.TO+ir av+121.a+ea+282eb+210f+117dm+34v de+75pe
bw+75nz+29k+5e+309x ly*374TIP+239ab+12..us sr+270av+275en+357kp+3iv+3f+724mo+3rk+270li fp+o+ai+165.a+og+bo+r+ai+289.
bg+cj+81.if+13TO+13.ar UP+r+ai+711cj+81af+289.if+13TO+13.bz...cu+304tk+122tq+3mh+64gk+3sb+122vp bs+3ct+3SQUIGGLE+3
qn+357am+34an+ao*o+ai+258.TO+13a+524.iv+3mh+64.cg+607i+260pw+629px+3ay+ao*if+WALL.wc+75...bx*r BUOY dl+TO.IN+27fv
qu.RINGED+PLANET.RINGING+BELL.jb+be+bb+ri+159hq+154...RLE RLI RLM RLO ROASTED+SWEET+POTATO..ROBOT+8ROCK vp ROLL+OF+
PAPER..ROLLED-UP+NEWSPAPER.ROLLER+COASTER SKATE.ROLLING+ON+nc+sz+LAUGHING....ROMAN+AS+0CENTURIAL+0DENARIUS+0DIMIDIA+
SEXTULA+0.DUPONDIUS+0lo+ch hv ew*EARLY+1fc.bq*19t ff l*dg*16fc*C+D...au+l+25.co jm*LATE+1.fd*16m gb i.QUINARIUS+0
SEMUNCIA+0SESTERTIUS+0SEXTANS+0SEXTULA+0SILIQUA+0UNCIA+0.ROOSTER ROSE ROSETTE hn+ag+Q.FLORAL+376cu+av+376.ei+t+ee+
av+CUSP....ay+t+ee+CUSP....qw+PUSHPIN TARGET.jc+ax+qf+CAI FU LU SHOU SHUANGXI XI...ROWBOAT RS RUBLE+0RUGBY+FOOTBALL.
RULE-DELAYED RUMI+p+88dq+l+cx dc kl.i+229.aq+628.RUNIC+ARLAUG+4BELGTHOR+4fu+76b+AC+A.AESC ALGIZ+EOLHX.ANSUZ+A.
BERKANAN+BEORC+BJARKAN+B...C CALC CEALC CEN CWEORTH D DAGAZ+DAEG+D..DOTTED-L DOTTED-N DOTTED-P E EAR EHWAZ+EH+E..ENG
ETH FEHU+FEOH+FE+F...FRANKS+CASKET+AC AESC EH IS OS..G za GEBO+GYFU+G..GER HAEGL+H.HAGLAZ+H.ICELANDIC-YR ING INGWAZ
IOR ISAZ+IS+ISS+I...IWAZ+EOH.JERAN+J.K KAUN+K.KAUNA LAUKAZ+LAGU+LOGR+L...LONG-BRANCH-AR+AE.LONG-BRANCH-HAGALL+H.
LONG-BRANCH-MADR+M.LONG-BRANCH-OSS+O.LONG-BRANCH-YR MANNAZ+ze+M..NAUDIZ+NYD+NAUD+N...O OE ON OO OPEN-P OS+O.OTHALAN+
ETHEL+O..PERTHO+PEORTH+P..Q RAIDO+RAD+REID+R...SH SHORT-TWIG-AR+A.SHORT-TWIG-BJARKAN+B.SHORT-TWIG-HAGALL+H.
SHORT-TWIG-MADR+M.SHORT-TWIG-NAUD+N.SHORT-TWIG-OSS+O.SHORT-TWIG-SOL+S.SHORT-TWIG-TYR+T.SHORT-TWIG-YR SIGEL+
LONG-BRANCH-SOL+S..SOWILO+S.STAN THURISAZ+THURS+THORN..TIWAZ+TIR+TYR+T...URUZ+UR+U..V W WUNJO+WYNN+W..X Y YR Z.pg+76
da+76TVIMADUR+4.RUNNER RUNNING+SHIRT+a+SASH...tz+0RUSSIAN+ASTROLOGICAL+ax+BINOVILE NOVILE QUINTILE SENTAGON
TREDECILE VIGINTILE...S+IN+28.SAFETY+PIN VEST.SAGITTARIUS SAILBOAT SAKE+zo+d+CUP...SALT+SHAKER.gh SALUTING+8
SAMARITAN+az+2b+ALAF BAA BIT DALAT FI GAMAN IN IT IY KAAF LABAT MIM is QUF RISH yk SINGAAT TAAF TIT TSAADIY YUT ZEN.
df+ol EPENTHETIC+YUT.IN IN-ALAF NEQUDAA OCCLUSION.ez+b+EPENTHETIC+YUT.I cp+A...as+AFSAAQ ANGED ANNAAU ARKAANU ATMAAU
BAU MELODIC+QITSA.NEQUDAA QITSA SHIYYAALAA SOF+MASHFAAT.TURU ZAEF ZIQAA.y+c+A AA E I cj+A AA E I U.O OVERLONG+A AA.
cp+A.SUKUN U...SANDWICH bs+cu+f+345jn+f+310..jv+55.SARI SATELLITE*ANTENNA.SATURN SAURASHTRA+ce+c+HAARU..gq p+9f+63b+
A AA AI AU BA ic CA eq DA hd dv ht E EE GA he HA I II JA ke KA es LA nw MA NA w ia et O OO PA fx RA SA z ji TA fg hc
dp U UU VA ba+23YA.c+aj ak bn bj.y+271.SAUROPOD SAXOPHONE SCALES SCARF SCHOOL*SATCHEL.SCI SCOOTER SCORPION SCORPIUS
SCREEN SCREWDRIVER fy+ag+B E F H I L M P R.cy+325e+E G L O..SCROLL SCRUPLE SEAL SEAT pl+753dh+0SECTOR SEDNA
SEE-NO-EVIL+382SEEDLING SEGMENT SEGMENTED+139SELFIE du pm+PRODUCT+a+en+dk....SEMISEXTILE SEPARATED+4SERIOUS+hw+a+
SYMBOLS+779...SERVICE+2SESAME+17SESQUIQUADRATE SET+ii TRANSMIT+STATE..SEWING+NEEDLE.SEXTILE SGC po+ay+aw gc+30kw..
SHALLOW+PAN+OF+FOOD...SHAMROCK SHARADA+az+0CONTINUATION+0gq p+9f+63EKAM EXTRA+cp+y+2..ve b+745OM SANDHI+2dh+414db c+
aj di ak ae+263hj fa lw hr bn bj.SUTRA+2y+ez+2c+AA AI AU E I II O qj+E.U UU ba+23...SHARK SHAVED+ICE.SHAVIAN+b+ADO
AGE AH AIR ARE ARRAY lc AWE BIB CHURCH DEAD EAR EAT EGG ERR FEE GAG HA-HA HUNG IAN ICE IF JUDGE KICK LOLL rr MIME is
OAK OIL ON OOZE OR OUT PEEP ROAR SO SURE THEY THIGH TOT UP VOW WOE WOOL YEA YEW ZOO..SHEEP SHIELD SHIFT+194SHINTO+
SHRINE.SHIP SHOCKED+hw+a+EXPLODING+196...SHOOTING+51SHOPPING+BAGS TROLLEY.cp+BACKSLANTED+hq+3.ko+769bo+ky*583.j+119
af+ao+r+317..hp+ik+3.UP+ky*r+cp+bo+119..a+129...SHORTCAKE SHORTHAND+FORMAT+CONTINUING+OVERLAP.bo+STEP.b+OVERLAP.UP+
STEP...SHORTS SHOULDERED+cl+ui..SHOWER SHRIMP SHRUG SHUFFLE+87SHY SI lw+gq f+63uk+781b+A AA AI cv+U.AU BA ic CA eq
DA hd dv ht E GA he HA I II JA ke KA es LA MA NA w ia et O PA fx RA SA z ji TA fg THREE-CIRCLE+cv+I..hc dp
TWO-CIRCLE+cv+I II..U UU VA ba+23YA.REPETITION+MARK-1~3.dh+df+f+bx*721.a+rg+d+t+761RAYS i+761..f+153gk+153RAYS+d+eb+
CRESCENTS f+153cg+153...SEPTUPLE+153xn+d+eb+153U-SHAPED+ORNAMENTS...cg+153...db+ir g.c+aj ak fa lw bn bj.y+c+AA AI
cv+U UU.AU E I II O U UU ba+R RR....jz+av+734ay+734.c+OF+nc+HORNS...SIGNWRITING+AIR+BLOW+460BLOWING+OUT.SUCK+460
SUCKING+IN..BREATH+EXHALE INHALE.BRUSH+205CHEEKS+gg PUFFED SUCKED.fh cm DREAMY+EYEBROWS+bo+gg.gg+78UP+gg...DYNAMIC+
cw+300EVERY+OTHER+TIME..FAST GRADUAL RELAXED SIMULTANEOUS*541SLOW TENSE.EARS EXCITEMENT EYE+BLINK+227WINK.EYEBROWS+
cq+bo gg UP..EYEGAZE-FLOORPLANE+jp cq*612.EYEGAZE-WALLPLANE+CIRCLING jp cq*612.EYELASHES+bo FLUTTERING UP.EYES+dk
cx+dk cl.cl SQUEEZED WIDE+cl.WIDENING+206.hw+DIRECTION+tw+NOSE+ex+xm.UP+OR+bo*xm.......FILL+MODIFIER-2~6.rj FLICK+
de+227pn e+227.FLOORPLANE+560FOREHEAD+ns gg py.hx+21GRASP+205HAIR HAND-ANGLE*cn*q+cf bx.bx+cf*OUT..ci*194.cf+cn*ci+
cn+ci*OUT....UP.q+bx+cf*194..bx+bo+q+ci+cn+30...cf..HAND-CIRCLE*cn*ko HINGE q*fu+80iu cf bx ci.bx+80.cf+cn UP.q+bx+
cf*90.UP.bx+80.HAND-CLAW*t+743cn+ci+ok+ci+135...q+bx+cf+ds*mj....NO+85ci+244.HAND-CUP*bq+fo+pr*cl...cn*bx+80ci*cl..
q+bx+80.NO+85cl*614ci+244.HAND-CURLICUE*cn+495q+495cl.HAND-FIST*t+fo+ds+90..HEEL cn*ko*o+364.uv iz*jn q+UP*171..q*
ko*ci+363.ds*uv*589iz*171cn+90q+90ci+ex mj*520..fu+80iu*171iz*pr+171.cf ep+366bx*520cq+ci+90.ci*ANGLED*OUT.ko dx ds+
iz.uv iz vf.UP+pr+589..ep+254bx+80ci+ANGLED+IN+273OUT+273.aw dx+273uv+273CURLICUE ok+ci+ks UNDER..ex+cn+ko cq..v vf+
q+iz UP..mj*BOTH+90cn+ko HINGE.ci+729..UP+q+iz*ci+ds mj.....cf+ko bo*OTHERS+dx.RIPPLE+jp cq..cn*85ep+254ci
TOUCHES+85UP.q+ko+o+137.bo cf ep+254bx+80ci+ANGLED+cn+UP.OUT+cn+iu UP...dx+cn+iz UP..uv+cn+UP..vf+cn+UP..cf.UP*171.
bx+bo cn cf q*ds ep+366.ep+254ci UP.ci*fm+cn+q*363.q+106bx+80.ex HEEL o+t+ep+366.i+161.mj+729UNDER+t+161cn+90cf+UP.
m+161i+161...HAND-FLAT*fm+PALM+FACINGS..bq+fo+pr*ko t+90iz*NO+85ci+mj..ci+ex....t+fo*ko ds*SPLIT.iz..HEEL*bq+fo+pr*
ko t+90...ci+mj..SPLIT+dj*ci+mj*90..cn+171cf.ci+ko ex mj..HAND-HINGE*bq+fo+pr+cl...t+743cn*iz q+cf bx*ds..bx+80ci*de
cl mj e..cf*cn*85ci.q*bx+80.NO+85cl*614bx*bo+cn+ci+v+364....e ci+fm+q+106.mj*TOUCHING+137...HAND-HOOK*CURLICUE cn+
bx+cf+IN OUT UNDER...q+bx+cf+ds*194..ci.bx+85.HAND-OVAL*bq+fo+pr..cn cf+UP.NO+85bx+80ci+244.rl*tn+37um+ok cq.vm+ok
cq TILT.RIM.LIMB+COMBINATION LENGTH-1~7.LIP+bh+o+cr..cr+o+bh...LIPS+PRESSED+257.LOCATION+DEPTH rl+NECK.HEIGHT LIMBS+
DIGITS.TORSO WIDTH.LOCATION-FLOORPLANE+65LOCATION-WALLPLANE+65qt+dk+ns ex gg.CORNERS FROWN*714KISS*ex py.cl+aw ex
OVAL*736kc*736py.SMILE*714TENSE*ex SUCKED.WRINKLES+83.MOVEMENT-DIAGONAL+AWAY+143fm+AWAY+143TOWARDS+143.TOWARDS+143.
um+ARM+aw+fq+WALL+de+83bw+83e+83....BEND ui+66kg ea+66fu ok+COMBINED fq+702de LARGEST bw e.f+715rj+rg+716ns.HUMP+fq+
nq+de+773e+773.sz+de+185e+185cg+de+cg.e+cg....e.JAW pe+fq+nq+654sz+654.e.PEAKS+66xe+jx.da+787cg+dy+tn pz+184.cq+206
pz+184.px+fq+702de e SNAKE.pz+aw+716.qc+66.MOVEMENT-HINGE+bo+pn.mj+TO+mj+293..UP+bo+dy+300de e.pn..vm+ARM+aw+bw+83
e+83..BEND+66ui+66kg+66ea+de bw ROTATION e.fu ok+HALF-CIRCLE+143fq+202dc+143THEN+363THREE-QUARTER+aw+684..jp+fu+684.
f+715rj+rg+83ns.HUMP+fq+202de bw e.JAW pe+fq+202de bw e*185.PEAKS+66xe da+787cg+dy*pz+184.cq+206pz+184.px+ok+f+66
cg+66.be+PATH+66.fq+202.pz+aw+FRONT+83..qc+66.NECK NOSE+ns gg WIGGLES WRINKLES.bc ROTATION+MODIFIER-10~6
MODIFIER-2~9.kf+dy*430f*430da*430.kv+cv dy+392f*392da*392.RUB+205du SHOULDER+HIP+POSITIONS SPINE.xm+if+WAIST...
SQUEEZE+FLICK+541de+227pn e+227.STRIKE+205SURFACE+fm SYMBOLS.TEETH*BITE+LIPS.tn ON+LIPS*206pv*206..TENSE+CHEEKS+ig
jn q..pv+dj+ks+89STICKING+OUT..ks+qt+RELAXED..LICKING+LIPS.MOVES+AGAINST+CHEEK..STICKING+OUT+FAR..TIP+fm+LIPS.
TOUCHING+ks+89...TORSO-FLOORPLANE+TWISTING.TORSO-WALLPLANE+jp+BEND.cq+STRETCH..TOUCH+205TRAVEL-FLOORPLANE+kf+267
kv+267xe.TRAVEL-WALLPLANE+ARM+SPIRAL+f da cg..kf+267kv+267xe.cr+BODY+xm+if+HIP+JOINTS.....WALLPLANE+560.SILHOUETTE+
OF+JAPAN..xg+r+al+r+386.bl+r+386..ii+xg.OR+207.SINE+px.da+fj+416GRAPHIC+fj+416.zc+77dt+335LOW-9+77cz+335SHIFT+m i..
SINGLE-SHIFT-2 SINGLE-SHIFT-3 SINHALA+eu+p+88aq+jq ew lg gx l+19fs lx fd fz cc..b+AAYANNA AEEYANNA AEYANNA AIYANNA
ALPAPRAANA+668AMBA+BAYANNA.AUYANNA AYANNA DANTAJA+730EEYANNA EYANNA FAYANNA HAYANNA IIYANNA ILUUYANNA ILUYANNA
IRUUYANNA IRUYANNA IYANNA KANTAJA+NAASIKYAYA.MAHAAPRAANA+668MAYANNA MUURDHAJA+730OOYANNA OYANNA RAYANNA SANYAKA+
DAYANNA DDAYANNA GAYANNA JAYANNA.TAALUJA+NAASIKYAYA SANYOOGA+NAAKSIKYAYA.SAYANNA.UUYANNA UYANNA VAYANNA YAYANNA.
LITH+139as+KUNDDALIYA.c+AL-LAKUNA ANUSVARAYA ak VISARGAYA.y+c+uq DIGA+AEDA-PILLA GAETTA-PILLA tc IS-PILLA KOMBUVA
PAA-PILLA.GAETTA-PILLA tc KETTI+AEDA-PILLA IS-PILLA PAA-PILLA.KOMBU+DEKA.KOMBUVA*HAA+uq DIGA+uq.tc.....jm+PETALLED+
av+d+ay+ta....ee+av+51lr+51kw+a+765...SIX-PER-EM+65ho+ee+42.SKATEBOARD SKI+d+SKI+BOOT...SKIER SKULL*676SKUNK hp+dl+
TO+OR+al*336bl*336...ik+ao+a+vf+196aa+29....SLAVONIC+42SLED SLEEPING+ACCOMMODATION hw ax.SLEEPY+8SLEUTH+OR+SPY..
SLICE+OF+PIZZA..SLIGHTLY+tb+8jd+8.SLOPE SLOPING+de+163.SLOT+MACHINE.SLOTH e+la gj dz BLUE+121fh cm oi+AT.CONTAINS+
AS+MEMBER.a+774.on+0ELEMENT+OF*a+774..EM+81eo+0at+2hx+21al+0lj jt+294j+455bl+0aq+0ORANGE+121rw+0k+0bi+2fr+151h+455
ROMAN+lo+ch hv ew bq*25t ff l*19co jm fd m gb i..du bp i+fe+379.VEE+387.SMALLER+THAN*120.SMASH+87SMILE jd+CAT+hw+a+
HEART-SHAPED+61cl+89...hw+a+HALO HEART-SHAPED+61HORNS cl+qt*d+COLD+SWEAT.jd+61TIGHTLY-CLOSED+61...jd+EYES*d+li+779m+
HEARTS....SUNGLASSES TEAR...SMIRKING+8SMOKING+4SNAIL SNAKE SNEEZING+8SNOW+CAPPED+pf..SNOWBOARDER yl SNOWMAN*si+
SNOW..SO SOCCER+219SOCKS SOFT+ox ICE+CREAM.pp+545.SOFTBALL SOFTWARE-FUNCTION+4SOGDIAN+ca+ok+10g+10v+10cj+399ty+5x+5
i+84.ju+hg.b+ib sp mb FETH jr HE ow nk gu LESH wp is PE RESH-AYIN jy ha hg zh np qa ma.aq+l*25fd cc.as+aw+45cx+
aw+45.i+rg+319ab+BARS*319....SOH SOLID+785fb*583SOM+0SOON+a+af+147..SORA+SOMPENG+p+9b+AH BAH CAH DAH EEH EH GAH jl
IH JAH KAH LAH MAE MAH NAH NGAH NYAH OH PAH RAH SAH yn UH VAH YAH...SOS xh+RECORDING+COPYRIGHT..hq+uy+ao*d+hq+327.
bb+353TO+221a+7.av+3f+3bm+234bs+3an+281ay+3.qp+ao*d+ik+327.a+7.av+3f+3bm+234bs+3an+281ay+3..SOYOMBO+yy+b+LA RA SA
z..s+ce+c+-A B D G K L M N NG R S SH...ot+2rl+df+a+ku+d+SUN*d+FLAME cg+FLAME........b+-A A BA ic CA eq DA hd dv ht
DZA GA he HA JA ke KA es KSSA LA MA NA w ia et PA fx RA SA z ji TA fg nn no hc dp VA YA ZA sk.df+f+105PLUTA yj ne.c+
aj hj hr bj.SUBJOINER TERMINAL+414y+rp+2c+AI AU E I O OE U UE ba+L R....SP SPA mz SPAGHETTI SPARKLE SPARKLES
SPARKLING+100SPEAK-NO-EVIL+382SPEAKER*a+le+12l+740m+417..SPEAKING+rl+422.pq+BALLOON.SPEEDBOAT SPESMILO+0SPHERICAL+
eg*wt+j UP...SPIDER*WEB.SPIRAL+zr+PAD.tp+PAD.pp.SPLASHING+SWEAT+4.SPONGE SPOOL+OF+THREAD..SPOON SPORTS+MEDAL.
SPOUTING+WHALE.bk+A+o+M..AARU AM ANPEA APAATO ARUHUA AU BAARERU ir BEETA BIRU BORUTO BQ BUSSYERU C+o+KG..CAL CAP CC
CD CM*360CO CORPORATION CUP DA DAASU DB DESI DJ DL DM*360DORU EEKAA ERA+NAME+HEISEI MEIZI REIWA SYOUWA TAISYOU..ERG
ESUKUUDO EV FM FOOT t+208GAL GANMA GARON GB GHZ GIGA GINII GIRUDAA GPA GURAMU GURAMUTON GY HA HAITU HEKUTAARU HERUTU
HG HIRAGANA+HOKA.HON HOON HOORU HP HPA HUARADDO HUIITO HURAN HZ IMAGE+692IN ININGU INTI IU K+OHM.KA KAIRI KARATTO
KARORII KB KCAL KEESU KG KHZ KIRO KIROGURAMU KIROMEETORU KIROWATTO KK KL KM*ag CUBED ct.KOOPO KORUNA KPA KT KUROONE
KURUZEIRO KV KW KYURII j+592LM LN LOG hl LX M+CUBED OHM o+635ct.MA MAHHA MAIKURO MAIRU MANSYON MARUKU MB*e.MEETORU
MEGA MEGATON MG MHZ MIKURON MIL MIRI MIRIBAARU ML MM*360MOL MPA MS MU+A F G L M S V W.MV*MEGA.MW*MEGA.NA NANO NF NM
NOTTO NS NV NW ONSU OOMU ORIGINAL+692OV PA*AMPS.PAASENTO PAATU PC PEEZI PENIHI PENSU PESO PF PH PIASUTORU PIKO
PIKURU PM POINTO PONDO tw+167PPM PR PS PV PW RAD*o+635.REMU RENTOGEN h+592RIRA RITTORU ROOT RUPII RUUBURU SAIKURU
SANTIIMU SENTI SENTO SIRINGU SR SV TARGET THZ TON UON V+o+M..WATTO WB a+en+53CONTOURED+OUTLINE.be+683aa+110j+53bh+
j+672h+672.ORTHOGONAL+683h+53qn+53cr+j+be+53TO+649.h+be+53TO+735..ab+110.YAADO YAARU YUAN.ct+dz CJK+UNIFIED+
IDEOGRAPH-4E00 IDEOGRAPH-4E09 IDEOGRAPH-4E2D IDEOGRAPH-4E8C IDEOGRAPH-4EA4 IDEOGRAPH-518D IDEOGRAPH-521D
IDEOGRAPH-524D IDEOGRAPH-5272 IDEOGRAPH-53CC IDEOGRAPH-53F3 IDEOGRAPH-5408 IDEOGRAPH-5439 IDEOGRAPH-55B6
IDEOGRAPH-58F0 IDEOGRAPH-591A IDEOGRAPH-5929 IDEOGRAPH-5B57 IDEOGRAPH-5DE6 IDEOGRAPH-5F8C IDEOGRAPH-624B
IDEOGRAPH-6253 IDEOGRAPH-6295 IDEOGRAPH-6307 IDEOGRAPH-6355 IDEOGRAPH-6599 IDEOGRAPH-65B0 IDEOGRAPH-6620
IDEOGRAPH-6708 IDEOGRAPH-6709 IDEOGRAPH-6E80 IDEOGRAPH-6F14 IDEOGRAPH-7121 IDEOGRAPH-751F IDEOGRAPH-7533
IDEOGRAPH-7981 IDEOGRAPH-7A7A IDEOGRAPH-7D42 IDEOGRAPH-89E3 IDEOGRAPH-8CA9 IDEOGRAPH-8D70 IDEOGRAPH-904A
IDEOGRAPH-914D..CL COOL g+20ch+K.ri+660bq+463t+g+76K.FREE HC HDR HI-RES HV ID th+DE KOKO SA.KEY gc+ag+197e+b+D...
hk+163LOSSLESS ii MV NEW NG OK l+dg+cc+P...k PPV jb+660gh SD pl+SCREEN.co+463SHV lx+P.e+37SOS bk SS m+D.n wa+qu+i..
i+K.UHD UP+a+365.VOD VS WC.SQUAT+av+41.SQUID SS2 SS3 ji ST STADIUM STAFF+OF+AESCULAPIUS HERMES..STAMPED+216
STANDING+230kw+d+oj.eo OF+DAVID.fv a+587.START+OF+GUARDED+187HEADING PROTECTED+187SELECTED+187STRING vx..STATION
STATUE+OF+LIBERTY..STEAM+638STEAMING+BOWL.STENOGRAPHIC+62STETHOSCOPE STICK+FIGURE*LEANING+32a+ARMS+ep.DRESS...STOCK+
CHART.STOPWATCH cq+RULER.STRAIGHTNESS STRAWBERRY STRESS+tr+ay+51..STRICTLY+798STRING+TERMINATOR.STS STUDIO+
MICROPHONE.STUFFED+FLATBREAD.STUPA STX SUB ml+ch eo+0bq t j+67ii ff l k+0h+67co jm m i ka.hz+r+af+3hz hb.OF*555
a+484.SUBSTITUTE SUCCEEDS*494ym+en qn a+156.SUN*BEHIND+zu.a+8.SUNDANESE+di ce+c+PAMINGKAL PANYAKRA PANYIKU PASANGAN+
MA WA...p+9b+A AE BA ic CA DA E EU FA s+K M.GA HA I JA KA es LA LEU MA NA w et O PA QA RA REU SA SYA TA U VA WA XA
YA ZA.as+BINDU+BA+272CAKRA DA+272KA+272LEU+272PANGLONG PURNAMA SURYA..c+PAMAAEH PANGLAYAR PANGWISAD PANYECEK bn.y+c+
PAMEPET PANAELAENG PANEULEUNG PANGHULU PANOLONG PANYUKU...SUNFLOWER SUNRISE*o+MOUNTAINS..SUNSET+o+BUILDINGS..
SUPERHERO ec+ch eo+0bq t gc+e+b+I N...j+67ii ff l k+0h+67co jm m i ka.hb+r+ai+3hz hb.oh+d+vh+BY+me+a+hz.....hz.
OF*555PRECEDING+151a+484.SUPERVILLAIN SURFACE+156SURFER SUSHI vw+RAILWAY.SWAN xk+gj+55.SWIMMER SWUNG+81SYLOTI+NAGRI+
b+A BHO BO CHO CO DDHO DDO DHO DO E GHO GO HO I JHO JO KHO KO LO MO NO O PHO PO RO RRO SO zi TO TTHO TTO U.POETRY+
MARK-1~4.c+cv+HASANTA.aj DVISVARA HASANTA.y+c+A E I OO U....ax+qf+mm BACKSPACE BELL CANCEL CARRIAGE+RETURN.DATA+731
DELETE*302DEVICE+wg+183.uk+OF+bw vx TRANSMISSION*74..ENQUIRY ESCAPE FILE+50mg+FEED.GROUP+50aa+771dd+FEED.MARKS+
CHAPTER.to+mm.NEWLINE NULL RECORD+50SAMARITAN+SOURCE.SHIFT+194mz START+OF+HEADING vx..SUBSTITUTE*302SYNCHRONOUS+
IDLE.TYPE+A+ELECTRONICS..UNIT+50ab+771..SYMMETRY SYN SYNAGOGUE SYNCHRONOUS+IDLE.SYRIAC+az+2BARREKH fh+717CONTRACTION
eb+ZLAMA+ANGULAR aa..uk+OF+mi..ESASA+10FEMININE+17HARKLEAN+ASTERISCUS METOBELUS OBELUS.HBASA+10HBASA-ESASA+eb.aa+140
b+ALAPH mb DALATH ix+DALATH+RISH..E s+SEMKATH.GAMAL*GARSHUNI.HE ow nk LAMADH MALAYALAM+ic JA nw LLLA w ia NNNA et RA
ji hc.MIM is PE PERSIAN+BHETH DHALATH GHAMAL.QAPH au+PE.RISH jy SEMKATH hg SOGDIAN+FE KHAPH ZHAIN.ec+ALAPH.zh yo*
GARSHUNI.np YUDH*HE.qb.MUSIC el+dd+10.PTHAHA+655QUSHSHAYA RBASA+10RUKKAKHA RWAHA SUBLINEAR+fh*717hx+21.SUPRALINEAR+
fh*SKEWED+72.hx+21.m+84i+ab+84.ZQAPHA+655.SYRINGE T-REX T-SHIRT TAB TABLE+TENNIS+PADDLE+277..TACO TAG+gj gp dz ac+26
fh cm oi+AT.p+9on+0eo+0at+2hx+21ck+26al+0lj gc+238j+521bl+0jn+40aq+0rw+0k+0bi+2gl+2fr+151h+521du fb mz bp ab+40.
TAGALOG+b+A eu+RA.BA DA GA HA I KA LA MA NA w PA RA SA TA U WA YA.c+PAMUDPOD bn.y+301.TAGBANWA+b+A BA DA GA I KA LA
MA NA w PA SA TA U WA YA.y+301.TAI+LE+b+A AI AUE E EE EH FA HA I KA es LA MA NA w O OO PA fx QA SA TA fg TONE-2~6 nn
no U UE VA XA YA..THAM+ca+CRYPTOGRAMMIC+17.ce+c+BA s+w.ig+RATHA+OR+jn+PA....LA+TANG+LAI..jn+PA.MA ap+LA RA.SA..
HORA+139b+A BA DA EE GREAT+SA.ig+CA eq FA HA KA es KXA PA fx RATHA SA z ji TA fg YA.I II LA LAE nw jn+CA eq FA HA KA
es KXA PA fx RATHA SA TA fg YA.LUE MA NA w et OO RA RANA RATA RUE U UU WA.c+CAANG DOKMAI HANG HOY KAAN KAANKUU KEOW
KHUEN+TONE-3~5.KHUEN-LUE+KARAN.MAI+KANG*LAI.SAM YAMOK.RA+HAAM.au+hn+RANA..SAKOT SATKAAN SATKAANKUU SAWAN TONE-1 vy
WIANG WIANGWAAK.THAM+139y+c+A AA AE AI E I II MAI+SAT.O OA+10OO OY TALL+AA.THAM+AI.U UE UU UUE...VIET+b+ig+461
jn+461.MAI+KANG KHIT.ax+HO+HOI.KOI+KOI.KON NUENG SAM.ga+MAI+EK NUENG SONG zi..y+AA AM AN AUE AY E I IA O U UA UE
UEA...TAKEOUT+ui.TAKRI+az+0p+9b+A AA AI eu+es.AU BA ic CA eq DA hd dv ht E GA he HA I II JA ke KA es LA MA NA w ia
et O PA fx RA sn SA z TA fg hc dp U UU VA YA.c+537y+768.TALLY+df+bq l..TAMALE TAMIL+d+ODD+0.AS+r+0.AU+98CREDIT+0
CURRENT+0DAY+0DEBIT+0p+9DRY+462dq+DOWNSCALING+FACTOR+KIIZH..l+gs EIGHTIETH FIFTH FORTIETH HALF-1 HALF-2 qi dc
SIXTEENTH-1 SIXTEENTH-2 SIXTY-FOURTH TENTH THIRTY-SECOND THREE-HUNDRED-AND-TWENTIETH TWENTIETH.m+EIGHTIETHS io vt
SIXTY-FOURTHS TWENTIETHS..IN+POSSESSION+0.LAND+0b+A AA AI AU CA E EE HA I II JA KA LA nw LLLA MA NA w ia NNNA et O
OO PA RA sn SA z ji TA hc U UU VA YA.MONTH+0aq+l+19c fd.OM as+uk+OF+vx...tz+0SALT+PAN+0.c+AAZHAAKKU aj CEVITU KAACU
KURUNI KUZHI MUKKURUNI MUTHALIYA MUUVUZHAKKU NEL PAARAM PANAM PATHAKKU PON UZHAKKU VAKAIYARAA VARAAKAN VELI bn bj.
SPENT+0STARTING+if+0.TOTAL+0TRADITIONAL+CREDIT+0aq+0.y+c+AA AI AU E EE I II O OO U UU..WET+462YEAR+0.TANABATA+168
TANGERINE TANGSA+p+9b+AC AQ AWC AWQ AWX AWZ AX AZ BA CA eq DA ht EC EQ EX EZ FA s+NG.GA he HA HTA HTTA IC IQ IX IZ
KA es LA cj+UEX.MA MC MQ MX MZ NA w NHA et OC OQ OX OZ PA fx RA SA z cp+AWX UEZ.TA fg nn UC UEC UEQ UEX UEZ UIC UIQ
UIUC UIUQ UIUX UIUZ UIX UIZ UQ UX UZ VC VQ VX VZ WA XA YA ZA..TANGUT+COMPONENT-001~768 ih+2.TAPE+CARTRIDGE DRIVE.
TAURUS TAXI TEACUP+si+HANDLE..TEAPOT TEAR-OFF+zr.TEARDROP-BARBED+41em+42TEDDY+BEAR.kd+LOCATION+0ON+qn+OF+MODEM...
RECEIVER*a+PAGE..RECORDER c.TELESCOPE TELEVISION TELUGU+AI+98p+9dq+p+l+401m+401i+401ka+qf+ODD+390....rp+2b+A AA AI
AU BA ic CA eq DA hd dv ht DZA E EE GA he HA I II JA ke KA es LA nw LLLA MA NA NAKAARA+POLLU.w ia et O OO PA fx RA
sn RRRA SA z ji TA fg nn hc dp U UU VA ba+23YA.c+aj di ak ca+aj+6ak+6.fa lw TUUMU bn bj.y+271.TENGE+0TENNIS+
RACQUET+277.TENT TEST+TUBE.TETRAGRAM+qf+ACCUMULATION ADVANCE AGGRAVATION ASCENT BARRIER rc+RESOLUTION.BRANCHING+OUT.
dj CHANGE dk+89CLOSENESS CLOSURE COMPLETION COMPLIANCE CONSTANCY ns CONTENTION CONTRARIETY DARKENING DECISIVENESS
DEFECTIVENESS+OR+DISTORTION..DEPARTURE DIFFICULTIES DIMINISHMENT DIMMING DIVERGENCE DOUBT DUTIES EASE EMBELLISHMENT
ENCOUNTERS ENDEAVOUR ENLARGEMENT ETERNITY EXHAUSTION FAILURE FLIGHT FOLLOWING FOSTERING hx+37FULLNESS GATHERING*IN.
GOING+TO+MEET..GREATNESS GUARDEDNESS HARDNESS wl+sq.INCREASE INNER JOY KEEPING+e.KINSHIP LABOURING LAW+OR+MODEL..
LEGION MASSING rr MIRED ON+nc+VERGE..vo PACKING PATTERN PENETRATION PURITY REACH RELEASE RESIDENCE RESISTANCE
RESPONSE RITUAL SEVERANCE SINKING STOPPAGE STOVE STRENGTH UNITY VASTNESS+OR+WASTING..WAITING WATCH YOUTHFULNESS..
THAANA+AABAAFILI ABAFILI EBEFILI EEBEEFILI EYBEYFILI IBIFILI b+AINU ALIFU BAA CHAVIYANI DAADHU DAVIYANI DHAALU FAAFU
GAAFU GHAINU GNAVIYANI HAA HHAA JAVIYANI KAAFU KHAA LAAMU LHAVIYANI MEEMU NAA NOONU PAVIYANI QAAFU RAA SAADHU SEENU
SHAVIYANI SHEENU TAVIYANI THAA THAALU TO TTAA VAAVU WAAVU YAA ZAA ZAVIYANI ZO.OABOAFILI OBOFILI OOBOOFILI SUKUN
UBUFILI.THAI+fj+ANGKHANKHU BO+BAIMAI.CHO+CHAN CHANG CHING CHOE.DO+CHADA DEK.FO+FA FAN.FONGMAN HO+HIP NOKHUK.KHO+KHAI
KHON KHUAT KHWAI RAKHANG.KHOMUT KO+KAI.LAKKHANGYAO LO+CHULA LING.LU MAI+CHATTAWA EK HAN-AKAT zi TRI.MAITAIKHU
MAIYAMOK MO+MA.NGO+NGU.NIKHAHIT NO+NEN NU.O+ANG.PAIYANNOI PHINTHU PHO+PHAN PHUNG SAMPHAO.PO+PLA.RO+RUA.RU SARA+A AA
AE AI+MAIMALAI MAIMUAN.AM E I II O U UE UEE UU.SO+RUSI SALA SO SUA.THANTHAKHAT zi+NANGMONTHO PHUTHAO THAHAN THAN
THONG THUNG.TO+PATAK TAO.WO+WAEN.YAMAKKAN YO+YAK YING..sv+ax+BAHT..p+9.THERE+DOES+ny+EXIST..EXISTS.THEREFORE
THERMODYNAMIC THERMOMETER THIN+jh+30gh mz.THINKING+8kl+753THONG+SANDAL.THOUGHT+BALLOON.m+rd+278CONSECUTIVE+510
DIMENSIONAL+259g+76ai+64LINES+CONVERGING+32.NETWORKED+COMPUTERS.ee+174RAYS+r bg j h.af+64pq+BUBBLES..THREE-D+
BOTTOM-LIGHTED+af+34.LEFT-LIGHTED+ar+166.RIGHT-LIGHTED+bz+166.TOP-LIGHTED+ai+166af+cw dm+34...THREE-EM+81
THREE-PER-EM+65THUMBS+563THUNDER+zu+d+RAIN...THUNDERSTORM TIBETAN+ASTROLOGICAL+c+-KHYUD+PA.SDONG+TSHUGS.SGRA+GCAN+
-CHAR+115....CANTILLATION+c+CANG+TE-U.cu+BEAT.ei+BEAT.SBUB+-CHAL...p+ch bq t cx+9ff l co jm m i ka.KU+RU+es*BZHI+
MIG+zs.....b+-A A BA ic CA eq DA hd dv ht DZA DZHA FIXED-FORM+RA.GA he HA JA KA es KKA KSSA LA MA NA w ia et PA fx
RA sn SA z ji TA fg nn no hc dp WA YA ZA sk.LOGOTYPE+c+CHAD+115LHAG+115..df+ANG+KHANG+GYAS GYON..BKA-+SHOG+GI+757
YIG+MGO...BSDUS+115BSKA-+SHOG+GI+757..BSKUR+YIG+MGO..st+-DZUD+RTAGS+BZHI+MIG+zs..ME+cj+zs....YIG+MGO+PHUR+yj+MA.....
yx+MGO.CLOSING+BRDA+RNYING+YIG+514..YIG+514.xr+ne+BSTAR..GTER+ne YIG+MGO+-UM+GTER+ne+MA..RNAM+BCAD+MA...TRUNCATED+
A....GUG+RTAGS+GYAS GYON..HALANTA ad+BRDA+RNYING+YIG+584..YIG+584.INTERSYLLABIC+ne.LEADING+MCHAN+115.MNYAM+YIG+
GI+757..NGAS+BZUNG+NYI+ZLA.SGOR+115..NYIS+yj ne*105.PALUTA RGYA+GRAM+105.RIN+CHEN+SPUNGS+105..SBRUL+105yj TRAILING+
MCHAN+115.nn+-PHRU.ne+105YIG+MGO+ne+yj+MA.....c+GRU+zs+RGYINGS.MED+RGYINGS..ae+MCHU+zs..LCE+nn+zs..LCI+115MAR+TSHES.
MCHU+zs.NYI+ZLA+NAA+DA...RDEL+DKAR+GCIG GNYIS GSUM RDEL+NAG..NAG+GCIG GNYIS GSUM RDEL+DKAR...RJES+SU+w+RO...RNAM+
BCAD.SNA+LDAN.wd+115YAR+TSHES..mk+b+-A A BA ic CA eq DA hd dv ht DZA DZHA FIXED-FORM+RA WA YA.GA he HA JA KA es KSSA
LA MA NA w ia et PA fx RA SA z ji TA fg nn no hc dp WA YA ZA sk.c+ae+MCHU+zs..LCE+nn+zs..MCHU+zs...fw+OM.ax+DRIL+BU.
NOR+BU*BZHI+431GSUM+431NYIS+431..PADMA+GDAN.PHUR+PA.RDO+RJE*RGYA+GRAM....y+c+AA E EE I II O OO au+I II.U UU ba+23...
TICKET TIE+o+oz..TIFINAGH+ce+306b+AHAGGAR+YAZH.AYER+YAGH.BERBER+ACADEMY+YAH YAJ..TAWELLEMET+YAZ.TUAREG+YAGH YAGN YAH
YAK YAKH wd YAQ YAZH.YA YAA YAB YABH YACH YAD YADD YADDH YADH YAF YAG YAGH YAGHH YAH YAHH YAJ YAK YAKH YAKHH YAL YAM
YAN YAP YAQ YAR YARR YAS YASH YASS YAT YATH YATT YAV YAW YAY YAZ YAZH YAZZ YE YEY YI YO YU.ez+b+LABIALIZATION+2..
db+2.TIGER*8TIGHT+TRIFOLIATE+yl..bp*fv*r+405a+g+6jb+33..a+g+10bx+6..TIMER+CLOCK.n+276TINY*i+fe+379..TIRED+8TIRHUTA+
az+0ANJI p+9GVANG b+A AA AI AU BA ic CA eq DA hd dv ht E GA he HA I II JA ke KA es LA MA NA w ia et O PA fx RA SA z
ji TA fg hc dp U UU VA ba+23YA.OM c+789y+c+AA AI AU E I II O cp+E O.U UU ba+23...TIRONIAN+c+ag+ET.ET..TOILET TOKYO+
TOWER.TOMATO pv TOOLBOX TOOTH TOOTHBRUSH qn+ARC+fl+ao*a+k...qr+ao+a+ii....hh+14cx+av+37gt j+67h+67dh+0.HAT j+315bc
h+315bk+14ej+86a+bz+147..ej+pp+BRACKETED+CJK+UNIFIED+IDEOGRAPH-4E09 IDEOGRAPH-4E8C IDEOGRAPH-52DD IDEOGRAPH-5B89
IDEOGRAPH-6253 IDEOGRAPH-6557 IDEOGRAPH-672C IDEOGRAPH-70B9 IDEOGRAPH-76D7..gc+ag+b+S......TOTAL+RUNOUT.TOTO+b+A AE
BA BREATHY+AE E EO I IU.eq DA E EO GA HA I IU JA KA LA MA NA w O PA RA SA TA U WA YA.c+jb+43..TRACKBALL TRACTOR
TRADE+df+0.TRAIN TRAM*CAR.TRANSPLUTO TRANSVERSAL+285am+a+g+6jc+208SERIFS+AT+en..dr..an+41by+it FLAG+ON+POST..RULER.
TRICOLON xn+EMBLEM.TRIGRAM+qf+ki vb HEAVEN LAKE pf THUNDER ng WIND..cg+fh+20zy aa+ir+a+f+117cg+117...gt NESTED+207k
ms fb+BINARY+423.bp ab+ir+BINARY+423xr h+148a+123...TROLL TROLLEYBUS TROPHY TROPICAL+DRINK vc.TRUE*ei+ku+ARTA...
TRUMPET TUGRIK+0TULIP TUMBLER+262TURKEY TURKISH+LIRA+0.ef+gj eg av+pi SHOGI+146.ag+F.cm zy p+m i.jh+e+b+nj...ik+474
ny+0OK+292bs+ag+G L Y..du e+F.hq+474ay+SHOGI+146..vz gb+367TWISTED+af+64.i+ASTERISKS+ALIGNED+jf..rd+278
CONSECUTIVE+510g+LEADER as.fe+379HEARTS INTERSECTING+hk+163.vh+409hk+d+20OR+20.MEN+322pq+BUBBLES.WOMEN+322.TWO-EM+81
UGARITIC+b+sl ALPA nh jg DHAL GAMLA mp HO HOTA I xy es pd wp is PU QOPA RASHA SADE SAMKA hg SSU TET THANNA TO U WO
YOD yv ZU.sj+160.UMBRELLA*ON+GROUND.a+RAIN+DROPS...UNAMUSED+8UNCERTAINTY+0UNDERTIE UNDO+4UNICORN+8lz*r+ir+r+285.do.
oh+d+vh+a+lz....a+hk+OR.ii+0hm..UNIT+50UNITED+4UNIVERSAL+758UNMARRIED+PARTNERSHIP+4.UP+ao+od+37.cw*fm+i+aa+BARS...
IN+640.og+j+656h+656.bo+ao*a+BASE..av+3f+3bs+3an+3ay+3.vc+29h+776ky*a+391..nf+la MILITARY+la.RED+28e+la RED+28.
am+276.cr+d+j+718bh+l+333by+235.h+718.BLADE+293bq+113cx+ld*d+bh+cx+rm+218....aw rm+bw+xd+d+bh+235...ay+37.bw+177.j+
ld+677ea+45OR+bh+h+447..in+297TO+649am by+218.l+247h+ld+566DROP-SHADOWED+ay+68.OR+bh+j+447..PENCIL in+297po+ay+71.
TO+735am by+218.co+113m+298by+308.UPSIDE-DOWN+8bz+ANCORA ao*d+h+246.if+13ai+OF+ar+3..TO+13a+f+12dm+34aa+12de+75bw+75
nz+29e+309TIP+303..av+275kp+3iv+3f+3mo+3fp+522cu+304mh+64gk+3vp bs+3ct+3am+34an+ao*ai+OF+ar+258..TO+13a+552.iv+3
mh+64.cg+3i+260pw+ao+if+395a+644..ay+ao*if+ir*418.ON+PEDESTAL*a+aa+13ab+13...wc+75.f+ao*ON+PEDESTAL.....URANUS US
VAI+cm p+9hx+21bi+2fw+A AN BA BE BEE ic BHE BHEE BHI BHO BHOO BHU BI BO BOO BU CA CE CEE CI CO COO CU DA DE DEE ht
DHE DHEE DHHA DHHE DHHEE DHHI DHHO DHHOO DHHU DHI DHO DHOO DHU DI DO DOO DU E EE EEN EN FA FE FEE FI FO FOO FU GA
GBA GBE GBEE GBEN GBI GBO GBON GBOO GBU GE GEE GEN GI GO GOO GU HA HAN HE HEE HEN HI HIN HO HON HOO HU HUN I IN JA
JE JEE JI JO JOO JU KA KAN KE KEE KI KO KOO KPA KPAN KPE KPEE KPEN KPI KPO KPOO KPU KU LA LE LEE LENGTHENER LI LO
LOO LU MA MBA MBE MBEE MBI MBO MBOO MBU ME MEE MGBA MGBE MGBEE MGBI MGBO MGBOO MGBU MI MO MOO MU NA NDA NDE NDEE NDI
NDO NDOLE+DO FA KA MA SOO.NDOO NDU NE NEE NG NGAN NGEN NGGA NGGE NGGEE NGGEN NGGI NGGO NGGOO NGGU NGON NI NJA NJE
NJEE NJI NJO NJOO NJU NO NOO NU et NYE NYEE NYI NYO NYOO NYU O ON OO OON PA PE PEE PI PO POO PU RA RE REE RI RO ROO
RU SA SE SEE z lu SHEE SHI SHO SHOO zg SI SO SOO SU TA TE TEE fg nc THEE THI zi THOO THU TI TO TOO TU U UN VA VE VEE
VI VO VOO VU WA WAN WE WEE WEEN WEN WI WIN WO WON WOO WOON WU WUN YA YE YEE YI YO YOO YU ZA ZE ZEE sk ZHE ZHEE ZHI
ZHO ZHOO ZHU ZI ZO ZOO ZU.ax+BANG DANG DO-O DOONG FAA FEENG JONG KEENG KUNG NII TAA TING TONG..VAMPIRE ys+
SELECTOR-1~9 SELECTOR-10~99 SELECTOR-100~256.VECTOR+OR+fu+87..VEDIC+c+aj+ANTARGOMUKHA BAHIRGOMUKHA UBHAYATO+MUKHA.
VAMAGOMUKHA*138.ARDHAVISARGA ATIKRAMA f+aj+ANTARGOMUKHA..HEXIFORM+cj+136.hj cj+136NIHSHVASA au+bj+598.hn+
ARDHAVISARGA.RTHANG+cj+136.TIRYAK hr bj+zj*138xj UDATTA*138.YAJURVEDIC+MIDLINE+288..ga+ATHARVAVEDIC+398mc+10g+5f+
bx+6xj.KARSHANA KATHAKA+zj.PRENKHA RIGVEDIC+KASHMIRI+398.bx+6SHARA m+93cg+288i+93YAJURVEDIC+AGGRAVATED+398ju+288
KATHAKA+ju+xj*SCHROEDER......VERSICLE ab+ir+oh+253f+j+148.cg+h+148.a+123.oo t+33jt+313KANA+REPEAT+df*bh+182cr+182.a+
kz+xh+df*cr+182......dd*kb a+aw+10q+17..MALE+473l+gs+BLOCK-2~7..jm+33TAB+KEY.kx*SET.bp TRAFFIC+49qc+40.yt+rc+jh+30.
cu+ch+173bq+91jh+30fr+151gh jm+91fb ay+71.MUCH+207.VESTA VIBRATION+MODE.VICTORY+97VIDEO+CAMERA GAME.VIDEOCASSETTE
VIETNAMESE+cv+READING+df+CA NHAY....VIEWDATA+68VIOLIN VIRGO VITHKUQI+ag+797e+797.VOIDED+jh+30.VOLCANO VOLLEYBALL
VOLUME+156VS1~9 VS10~99 VS100~256 VT VTS VULCANUS VULGAR+dq+bq+rh SIXTHS.t+FIFTHS.l+gs FIFTH cx NINTH dc SEVENTH
SIXTH TENTH kl.co+rh.m+rh FIFTHS io.i+FIFTHS THIRDS.ka+229..WAFFLE WANCHO+p+9b+A AA AAN AANG ANG AU BA CA DA E EN FA
GA HA I ING JA KA es LA LLHA MA NA w et O ON ONG PA fx RA SA z TA fg TRA nn U UEN VA WA YA YIH ZA.NGUN+0ga+KOI KOINI
TUP TUPNI..WANING+792WARANG+CITI+ag+499p+9aq+jq ew lg gx fs lx fd fz cc.OM e+499..WARNING+0WASTEBASKET WATCH ng+
BUFFALO CLOSET POLO px.WATERMELON px+ao+bm+DIRECTLY+32..me.WAVING+av+195li+0ay+195.WAVY+me dd jn+40im.WAXING+792
WEARY+320WEDDING WEDGE-TAILED+41WEIERSTRASS+ELLIPTIC+FUNCTION..WEIGHT+LIFTER.qp+535WHALE WHEEL*OF+DHARMA..
WHEELCHAIR+4ay+ao+SHAFT+WIDTH+l i+229...it CHESS+685aw*kq+av+395.a+g+44bo+3bh+295i+33cr+295..CLUB+186CONCAVE-SIDED+
ed*a+ai+201af+201...ed*kq+av+bw+121e+121yt+e+121...IN+68SUIT a+rf+17..bo+bm+zm+137cn j+li+137...hu+e+28am.DRAUGHTS+
KING ze.at+172FLAG*a+aa+q+av+STRIPE.....ta FLOWER t+ee+CUSP kw..tb+8vd+pp+545.kj*186cu+kg+2gh+a+jc+208...HEXAGON aa+
wh.xv de+68gc+30j+762dt+rz e+28am.hl+kq+av+e+hl....bw+ed hl e+68bk kw.ku+SELENA.NIB PARALLELOGRAM PENNANT pi bi+172
kc h+396cz+pi rz e+28am.SCISSORS SESAME+17SHOGI+146e+hl bk kw.jd+8SPADE+186bk*rd kq+av+bw+68e+68yt+e+68...a+dj+448
ai+201bh+295af+201jc+208cr+295ab+BISECTING+40...kw SUN*BEHIND+zu*a+RAIN...a+RAYS e+zu...kd TOUCHTONE+kd.TRAPEZIUM
am+kq+e+ay+28...TWO-WAY+380UP+396nf+CHEVRON e+28am*45.ab+ir wh kc.yt+e+68..WHITE-FEATHERED+41WIDE-HEADED+ar+169
ai+169ik+775af+169hq+775bz+169.sh+448WILTED+FLOWER.WIND+BLOWING+8CHIME.WINDOW WINE+262WINKING+8WIRED+KEYBOARD.WJ
WOLF+8uf*a+BUNNY+EARS...WOMANS+BOOTS CLOTHES HAT SANDAL.WOMENS+4WON+0WOOD sj+JOINER db+765.WORLD+MAP.WORM WORRIED+8
WRAPPED+PRESENT.WREATH+87WRENCH WRESTLERS WRITING+97X+IN+640.X-RAY XIANGQI+av+780RED+780.XOR YAWNING+8YELLOW+100
YEN+0YEZIDI+ca+er+2qs+2.HYPHENATION+2b+BE CHHIM CHIM CIM DAD DAL ELIF ET EW EYN FA GAF HAY HHA JA xy KHAF ul*243MIM
is OW PE PHE wx RA RHA SAD SE hg SIN TA nc UM VA*149np XA XHEYN YOT*a+ac+6..ZA ZAL ZE..YI+wy+BBUT BUR yx CIP CUOP CY
CYP CYT DDUR DU GA GEP GGOP GGUO GOT HMO HXIT HXOP HXUO JJIE JJUT JJY JO KE KIT LI LIE LYR MI MOP NBIE NYIP NYOP
NZUP OP PUT PYT QOT SHAT SHOP SHUR SHY SSI TAT TU VEP VUR WO YIT YO ZA ZOT ZUP ZUR ZZIET.fw+A AP AT AX BA BAP BAT
BAX BBA BBAP BBAT BBAX BBE BBEP BBEX BBI BBIE BBIEP BBIET BBIEX BBIP BBIT BBIX BBO BBOP BBOT BBOX BBU BBUO BBUOP
BBUOX BBUP BBUR BBURX BBUT BBUX BBY BBYP BBYT BBYX BE BEP BEX BI BIE BIEP BIET BIEX BIP BIT BIX BO BOP BOT ui BU BUO
BUOP BUOX BUP BUR BURX BUT BUX BY BYP BYR BYRX BYT BYX CA CAP CAT CAX CE CEP CEX eq CHAP CHAT CHAX yx CHEP CHET CHEX
CHO CHOP CHOT CHOX CHU CHUO CHUOP CHUOT CHUOX CHUP CHUR CHURX CHUX CHY CHYP CHYR CHYRX CHYT CHYX CI CIE CIEP CIET
CIEX CIP CIT CIX CO COP COT COX CU CUO CUOP CUOX CUP CUR CURX CUT CUX CY CYP CYR CYRX CYT CYX DA DAP DAT DAX hd DDAP
DDAT DDAX DDE DDEP DDEX DDI DDIE DDIEP DDIEX DDIP DDIT DDIX DDO DDOP DDOT DDOX DDU DDUO DDUOP DDUOX DDUP DDUR DDURX
DDUT DDUX DE DEP DEX DI DIE DIEP DIEX DIP DIT DIX DO DOP g DOX DU DUO DUOX DUP DUR DURX DUT DUX E EX FA FAP FAT FAX
FI FIP FIT FIX FO FOP FOX FU FUP FUR FURX FUT FUX FY FYP FYT FYX GA GAP GAT GAX GE GEP GET GEX GGA GGAP GGAT GGAX
GGE GGEP GGET GGEX GGI GGIE GGIEP GGIEX GGIT GGIX GGO GGOP GGOT GGOX GGU GGUO GGUOP GGUOT GGUOX GGUP GGUR GGURX GGUT
GGUX GI GIE GIEP GIET GIEX GIP GIT GIX GO GOP GOT GOX GU GUO GUOP GUOT GUOX GUP GUR GURX GUT GUX HA HAP HAT HAX HE
HEP HEX HIE HIEX HIT HLA HLAP HLAT HLAX HLE HLEP HLEX HLI HLIE HLIEP HLIEX HLIP HLIT HLIX HLO HLOP HLOX HLU HLUO
HLUOP HLUOX HLUP HLUR HLURX HLUT HLUX HLY HLYP HLYR HLYRX HLYT HLYX HMA HMAP HMAT HMAX HMI HMIE HMIEP HMIEX HMIP
HMIT HMIX HMO HMOP HMOT HMOX HMU HMUO HMUOP HMUOX HMUP HMUR HMURX HMUT HMUX HMY HMYP HMYR HMYRX HMYX HNA HNAP HNAT
HNAX HNE HNEP HNEX HNI HNIE HNIEP HNIET HNIEX HNIP HNIT HNIX HNOP HNOT HNOX HNUO HNUOX HNUT HO HOP HOT HOX HUO HUOP
HUOT HUOX HXA HXAP HXAT HXAX HXE HXEP HXEX HXI HXIE HXIEP HXIET HXIEX HXIP HXIT HXIX HXO HXOP HXOT HXOX HXUO HXUOP
HXUOT HXUOX I IE IEP IET IEX IP IT ih+2IX JI JIE JIEP JIET JIEX JIP JIT JIX JJI JJIE JJIEP JJIET JJIEX JJIP JJIT
JJIX JJO JJOP JJOT JJOX JJU JJUO JJUOP JJUOX JJUP JJUR JJURX JJUT JJUX JJY JJYP JJYT JJYX JO JOP JOT JOX JU JUO JUOP
JUOT JUOX JUP JUR JURX JUT JUX JY JYP JYR JYRX JYT JYX KA KAP KAT KAX KE KEP KET KEX KI KIE KIEP KIEX KIP KIT KIX KO
KOP KOT KOX KU KUO KUOP KUOX KUP zd KURX KUT KUX LA LAP LAT LAX LE LEP LEX LI LIE LIEP LIET LIEX LIP LIT LIX LO LOP
LOT LOX LU LUO LUOP LUOT LUOX LUP LUR LURX LUT LUX LY LYP LYR LYRX LYT LYX MA MAP MAT MAX ME MEX MGA MGAP MGAT MGAX
MGE MGEP MGEX MGIE MGIEX MGO MGOP MGOT MGOX MGU MGUO MGUOP MGUOX MGUP MGUR MGURX MGUT MGUX MI MIE MIEP MIEX MIP MIT
MIX MO MOP MOT MOX MU MUO MUOP MUOT MUOX MUP MUR MURX MUT MUX MY MYP MYT MYX NA NAP NAX NBA NBAP NBAT NBAX NBI NBIE
NBIEP NBIEX NBIP NBIT NBIX NBO NBOP NBOT NBOX NBU NBUP NBUR NBURX NBUT NBUX NBY NBYP NBYR NBYRX NBYT NBYX NDA NDAP
NDAT NDAX NDE NDEP NDEX NDI NDIE NDIEX NDIP NDIT NDIX NDO NDOP NDOT NDOX NDU NDUP NDUR NDURX NDUT NDUX NE NEP NEX w
NGAP NGAT NGAX NGE NGEP NGEX NGIE NGIEP NGIEX NGO NGOP NGOT NGOX NGUO NGUOT NGUOX NI NIE NIEP NIEX NIP NIT NIX NJI
NJIE NJIEP NJIET NJIEX NJIP NJIT NJIX NJO NJOP NJOT NJOX NJU NJUO NJUOX NJUP NJUR NJURX NJUX NJY NJYP NJYR NJYRX
NJYT NJYX NO NOP ny NOX NRA NRAP NRAT NRAX NRE NREP NRET NREX NRO NROP NROX NRU NRUP NRUR NRURX NRUT NRUX NRY NRYP
NRYR NRYRX NRYT NRYX NU NUO NUOP NUOX NUP NUR NURX NUT NUX NYI NYIE NYIEP NYIET NYIEX NYIP NYIT NYIX NYO NYOP NYOT
NYOX NYU NYUO NYUOP NYUOX NYUP NYUT NYUX NZA NZAP NZAT NZAX NZE NZEX NZI NZIE NZIEP NZIEX NZIP NZIT NZIX NZOP NZOX
NZU NZUO NZUOX NZUP NZUR NZURX NZUX NZY NZYP NZYR NZYRX NZYT NZYX O OP OT OX PA yf PAT PAX PI PIE PIEP PIEX PIP PIT
PIX PO POP POT POX PU PUO PUOP PUOX PUP PUR PURX PUT PUX PY PYP PYR PYRX PYT PYX QI QIE QIEP QIET QIEX QIP QIT QIX
QO QOP QOT QOX QU QUO QUOP QUOT QUOX QUP QUR QURX QUT QUX QY QYP QYR QYRX QYT QYX RA RAP RAT RAX RE REP REX RO ROP
ROT ROX sn RRAX RRE RREP RRET RREX RRO RROP RROT RROX RRU RRUO RRUOX RRUP RRUR RRURX RRUT RRUX RRY RRYP RRYR RRYRX
RRYT RRYX RU RUO RUOP RUOX RUP RUR RURX RUT RUX RY RYP RYR RYRX RYT RYX SA SAP SAT SAX SE SEP SEX z SHAP SHAT SHAX
lu SHEP SHET SHEX SHO SHOP SHOT SHOX zg SHUO SHUOP SHUOX SHUP SHUR SHURX SHUT SHUX SHY SHYP SHYR SHYRX SHYT SHYX SI
SIE SIEP SIEX SIP SIT jm SO SOP SOT SOX ji SSAP SSAT SSAX SSE SSEP SSEX SSI SSIE SSIEP SSIEX SSIP SSIT SSIX SSO SSOP
SSOT SSOX SSU SSUP SSUT SSUX SSY SSYP SSYR SSYRX SSYT SSYX SU SUO SUOP SUOX SUP SUR SURX SUT SUX SY SYP SYR SYRX SYT
SYX TA TAP TAT TAX TE TEP TEX TI TIE TIEP TIEX TIP TIT TIX TO qn TOT TOX TU TUO TUOP TUOT TUOX TUP TUR TURX TUT TUX
UO UOP UOX VA VAP VAT VAX VEP VEX VI VIE VIEP VIET VIEX VIP VIT VIX VO VOP VOT VOX VU VUP VUR VURX VUT VUX VY VYP
VYR VYRX VYT VYX WA WAP WAT WAX WE WEP WEX WO WOP WOX WU WUO WUOP WUOX XI XIE XIEP XIET XIEX XIP XIT XIX XO XOP XOT
XOX XUO XUOX XY XYP XYR XYRX XYT XYX YI YIE YIEP YIET YIEX YIP YIT YIX YO YOP YOT YOX YU YUO YUOP YUOT YUOX YUP YUR
YURX YUT YUX YY YYP YYR YYRX YYT YYX ZA ZAP ZAT ZAX ZE ZEP ZEX sk ZHAP ZHAT ZHAX ZHE ZHEP ZHET ZHEX ZHO ZHOP ZHOT
ZHOX ZHU ZHUO ZHUOP ZHUOX ZHUP ZHUR ZHURX ZHUT ZHUX ZHY ZHYP ZHYR ZHYRX ZHYT ZHYX ZI ZIE ZIEP ZIEX ZIP ZIT ZIX ZO
ZOP ZOT ZOX ZU ZUO ZUOP ZUOX ZUP ZUR ZURX ZUT ZUX ZY ZYP ZYR ZYRX ZYT ZYX ZZA ZZAP ZZAT ZZAX ZZE ZZEP ZZEX ZZI ZZIE
ZZIEP ZZIET ZZIEX ZZIP ZZIT ZZIX ZZO ZZOP ZZOX ZZU ZZUP ZZUR ZZURX ZZUX ZZY ZZYP ZZYR ZZYRX ZZYT ZZYX..YIN+wd.YO-YO
Z+NOTATION+BAG+MEMBERSHIP.DOMAIN+436j+608RANGE+436RELATIONAL+su.h+608SCHEMA+su PIPING PROJECTION.SPOT TYPE+140..
ZANABAZAR+bk+CLOSING+669CLUSTER-FINAL+b+LA RA VA YA..yy+458s+ce+2.ad+669b+-A A BA ic CA eq DA hd dv ht DZA DZHA GA
he HA JA KA es KSSA LA MA NA w ia et PA fx RA SA z ji TA fg nn no hc dp VA YA ZA sk.df+f+105cj+ne.yj ne.c+aj mc+427
ak*427bn bj.SUBJOINER y+rp+2c+AI AU E I O OE au+I.U UE....ZEBRA+8ka+WIDTH+JOINER NO-BREAK+65NON-JOINER mz..ZEUS
ZIPPER-MOUTH+8ZNAMENNY+ca+ATTACHING+ab+OMET..bh+TONAL+RANGE+167..df+BORZAYA CHASHKA*POLNAYA.jp+OMET.DEMESTVENNY+
ZADERZHKA.DVOETOCHIE GORAZDO+NIZKO+515VYSOKO.KACHKA KRYZH*ON+72.KUPNAYA LOMKA MALO+POVYSHE+611.NIZKO+515OBLACHKO ON
OTSECHKA PODCHASHIE*a+117.PODVERTKA POVYSHE+611RAVNO RAZSEKA SKOBA SOROCHYA+NOZHKA.SREDNE+424STRANNO+MALO+POVYSHE..
xl TOCHKA TSATA+ON+32S+nv..UDARKA VYSOKO+ON+32S+590.ZADERZHKA ZELO ZEVOK.TONAL+RANGE+df+MRACHNO SVETLO TRESVETLO....
NEUME+CHASHKA CHELYUSTKA DEMESTVENNY+KLYUCH.DERBITSA f+236DUDA DVA+V+CHELNU..FITA GOLUBCHIK+BORZY MRACHNY SVETLY
TIKHY TRESVETLY.KHAMILO KLYUCH KOBYLA KRYUK*TIKHY.KRYZH KUFISMA MECHIK*KLYUCHENEPOSTOYANNY KLYUCHEPOVODNY KLYUCHEVOY
POVODNY.NEMKA OBLAKO OSOKA*jw+gw ip.KRYUKOVAYA+ip.ip nd.PALKA PARAKLIT PAUK PEREVODKA*gw.PODCHASHIE POLKULIZMY au+
CHELYUSTKA.ROG SKAMEYTSA+DVOECHELNAYA+jw gw tx ip.sm jw+ip xl.ye ip xl nd.SLOZHITIE*S+nv uh.ZAKRYTOE.STATYA*gw S+
DVUMYA+ZAPYATYMI.nv*I+uh..ROGOM uh*I+nv PODCHASHIEM...ZAKRYTAYA*S+uh...STOPITSA*S+OCHKOM.a+SOROCHYA+NOZHKA...STRELA+
DVOECHELNAYA*569DVOECHELNOKRYZHEVAYA DVOECHELNOPOVODNAYA*569GROMNAYA*596zb*qv.GROMOPOVODNAYA*623sm KLYUCHEPOVODNAYA
KRYUKOVAYA*GROMNAYA*596zb*qv.GROMOPOVODNAYA*623qv TRYASKA.KRYZHEVAYA MRACHNOTIKHAYA gw POLUPOVODNAYA qv tx xl+
PUTNAYA.TRYASOGLASNAYA TRYASOPOVODNAYA TRYASOSTRELNAYA.VRAKHIYA+jw+ye tx ip nd.ye tx ip nd.ZANOZHEK ZAPYATAYA
ZMEYTSA.PRIZNAK+ez+DIRECTION+FLIP.KRYZH LEVEL-2 LEVEL-3 ROG...ZOMBIE ZWJ ZWNBSP ZWNJ ZWSP."

end MarkupLint.Text
