import HtmlTemplate.Writing.CharName.Basic

/-!
# Names of characters from U+0D00 to U+1FFF

Further scripts of India and those east of it, scripts of Africa and America, and additions to Latin and Greek.
-/

namespace HtmlTemplate.CharName

/-- The names of these characters. -/
def easternNames : List NameRun := [
  ⟨0xD00, "MALAYALAM SIGN ", "COMBINING ANUSVARA ABOVE;CANDRABINDU;ANUSVARA;VISARGA"⟩,
  ⟨0xD04, "MALAYALAM LETTER ", "VEDIC ANUSVARA;A;AA;I;II;U;UU;VOCALIC R;VOCALIC L"⟩,
  ⟨0xD0E, "MALAYALAM LETTER ", "E;EE;AI"⟩,
  ⟨0xD12, "MALAYALAM LETTER ", "O;OO;AU;KA;KHA;GA;GHA;NGA;CA;CHA;JA;JHA;NYA;TTA;TTHA;DDA;DDHA;NNA"⟩,
  ⟨0xD24, "MALAYALAM LETTER ", "TA;THA;DA;DHA;NA;NNNA;PA;PHA;BA;BHA;MA;YA;RA;RRA;LA;LLA;LLLA;VA;SHA;SSA;SA;HA;TTTA"⟩,
  ⟨0xD3B, "MALAYALAM SIGN ", "VERTICAL BAR VIRAMA;CIRCULAR VIRAMA;AVAGRAHA"⟩,
  ⟨0xD3E, "MALAYALAM VOWEL SIGN ", "AA;I;II;U;UU;VOCALIC R;VOCALIC RR"⟩,
  ⟨0xD46, "MALAYALAM VOWEL SIGN ", "E;EE;AI"⟩,
  ⟨0xD4A, "MALAYALAM ", "VOWEL SIGN O;VOWEL SIGN OO;VOWEL SIGN AU;SIGN VIRAMA;LETTER DOT REPH;SIGN PARA"⟩,
  ⟨0xD54, "MALAYALAM LETTER CHILLU ", "M;Y;LLL"⟩,
  ⟨0xD57, "MALAYALAM ", "AU LENGTH MARK;FRACTION ONE ONE-HUNDRED-AND-SIXTIETH"⟩,
  ⟨0xD59, "MALAYALAM FRACTION ", "ONE FORTIETH;THREE EIGHTIETHS;ONE TWENTIETH;ONE TENTH;THREE TWENTIETHS;ONE FIFTH"⟩,
  ⟨0xD5F, "MALAYALAM LETTER ", "ARCHAIC II;VOCALIC RR;VOCALIC LL"⟩,
  ⟨0xD62, "MALAYALAM VOWEL SIGN VOCALIC ", "L;LL"⟩,
  ⟨0xD66, "MALAYALAM DIGIT ", "ZERO;ONE;TWO;THREE;FOUR;FIVE;SIX;SEVEN;EIGHT;NINE"⟩,
  ⟨0xD70, "MALAYALAM NUMBER ", "TEN;ONE HUNDRED;ONE THOUSAND"⟩,
  ⟨0xD73, "MALAYALAM FRACTION ", "ONE QUARTER;ONE HALF;THREE QUARTERS;ONE SIXTEENTH;ONE EIGHTH;THREE SIXTEENTHS"⟩,
  ⟨0xD79, "", "MALAYALAM DATE MARK"⟩,
  ⟨0xD7A, "MALAYALAM LETTER CHILLU ", "NN;N;RR;L;LL;K"⟩,
  ⟨0xD81, "SINHALA SIGN ", "CANDRABINDU;ANUSVARAYA;VISARGAYA"⟩,
  ⟨0xD85, "SINHALA LETTER ", "AYANNA;AAYANNA;AEYANNA;AEEYANNA;IYANNA;IIYANNA;UYANNA;UUYANNA"⟩,
  ⟨0xD8D, "SINHALA LETTER ", "IRUYANNA;IRUUYANNA;ILUYANNA;ILUUYANNA;EYANNA;EEYANNA;AIYANNA;OYANNA;OOYANNA;AUYANNA"⟩,
  ⟨0xD9A, "SINHALA LETTER ", "ALPAPRAANA KAYANNA;MAHAAPRAANA KAYANNA;ALPAPRAANA GAYANNA;MAHAAPRAANA GAYANNA"⟩,
  ⟨0xD9E, "SINHALA LETTER ", "KANTAJA NAASIKYAYA;SANYAKA GAYANNA;ALPAPRAANA CAYANNA;MAHAAPRAANA CAYANNA"⟩,
  ⟨0xDA2, "SINHALA LETTER ", "ALPAPRAANA JAYANNA;MAHAAPRAANA JAYANNA;TAALUJA NAASIKYAYA;TAALUJA SANYOOGA NAAKSIKYAYA"⟩,
  ⟨0xDA6, "SINHALA LETTER ", "SANYAKA JAYANNA;ALPAPRAANA TTAYANNA;MAHAAPRAANA TTAYANNA;ALPAPRAANA DDAYANNA"⟩,
  ⟨0xDAA, "SINHALA LETTER ", "MAHAAPRAANA DDAYANNA;MUURDHAJA NAYANNA;SANYAKA DDAYANNA;ALPAPRAANA TAYANNA"⟩,
  ⟨0xDAE, "SINHALA LETTER ", "MAHAAPRAANA TAYANNA;ALPAPRAANA DAYANNA;MAHAAPRAANA DAYANNA;DANTAJA NAYANNA"⟩,
  ⟨0xDB3, "SINHALA LETTER ", "SANYAKA DAYANNA;ALPAPRAANA PAYANNA;MAHAAPRAANA PAYANNA"⟩,
  ⟨0xDB6, "SINHALA LETTER ", "ALPAPRAANA BAYANNA;MAHAAPRAANA BAYANNA;MAYANNA;AMBA BAYANNA;YAYANNA;RAYANNA"⟩,
  ⟨0xDBD, "", "SINHALA LETTER DANTAJA LAYANNA"⟩,
  ⟨0xDC0, "", "SINHALA LETTER VAYANNA"⟩,
  ⟨0xDC1, "SINHALA LETTER ", "TAALUJA SAYANNA;MUURDHAJA SAYANNA;DANTAJA SAYANNA;HAYANNA;MUURDHAJA LAYANNA;FAYANNA"⟩,
  ⟨0xDCA, "", "SINHALA SIGN AL-LAKUNA"⟩,
  ⟨0xDCF, "", "SINHALA VOWEL SIGN AELA-PILLA"⟩,
  ⟨0xDD0, "SINHALA VOWEL SIGN ", "KETTI AEDA-PILLA;DIGA AEDA-PILLA;KETTI IS-PILLA;DIGA IS-PILLA;KETTI PAA-PILLA"⟩,
  ⟨0xDD6, "", "SINHALA VOWEL SIGN DIGA PAA-PILLA"⟩,
  ⟨0xDD8, "SINHALA VOWEL SIGN ", "GAETTA-PILLA;KOMBUVA;DIGA KOMBUVA;KOMBU DEKA;KOMBUVA HAA AELA-PILLA"⟩,
  ⟨0xDDD, "SINHALA VOWEL SIGN ", "KOMBUVA HAA DIGA AELA-PILLA;KOMBUVA HAA GAYANUKITTA;GAYANUKITTA"⟩,
  ⟨0xDE6, "SINHALA LITH DIGIT ", "ZERO;ONE;TWO;THREE;FOUR;FIVE;SIX;SEVEN;EIGHT;NINE"⟩,
  ⟨0xDF2, "SINHALA ", "VOWEL SIGN DIGA GAETTA-PILLA;VOWEL SIGN DIGA GAYANUKITTA;PUNCTUATION KUNDDALIYA"⟩,
  ⟨0xE01, "THAI CHARACTER ", "KO KAI;KHO KHAI;KHO KHUAT;KHO KHWAI;KHO KHON;KHO RAKHANG;NGO NGU;CHO CHAN"⟩,
  ⟨0xE09, "THAI CHARACTER ", "CHO CHING;CHO CHANG;SO SO;CHO CHOE;YO YING;DO CHADA;TO PATAK;THO THAN;THO NANGMONTHO"⟩,
  ⟨0xE12, "THAI CHARACTER ", "THO PHUTHAO;NO NEN;DO DEK;TO TAO;THO THUNG;THO THAHAN;THO THONG;NO NU;BO BAIMAI;PO PLA"⟩,
  ⟨0xE1C, "THAI CHARACTER ", "PHO PHUNG;FO FA;PHO PHAN;FO FAN;PHO SAMPHAO;MO MA;YO YAK;RO RUA;RU;LO LING;LU;WO WAEN"⟩,
  ⟨0xE28, "THAI CHARACTER ", "SO SALA;SO RUSI;SO SUA;HO HIP;LO CHULA;O ANG;HO NOKHUK;PAIYANNOI;SARA A;MAI HAN-AKAT"⟩,
  ⟨0xE32, "THAI CHARACTER SARA ", "AA;AM;I;II;UE;UEE;U;UU"⟩,
  ⟨0xE3A, "", "THAI CHARACTER PHINTHU"⟩,
  ⟨0xE3F, "", "THAI CURRENCY SYMBOL BAHT"⟩,
  ⟨0xE40, "THAI CHARACTER ", "SARA E;SARA AE;SARA O;SARA AI MAIMUAN;SARA AI MAIMALAI;LAKKHANGYAO;MAIYAMOK"⟩,
  ⟨0xE47, "THAI CHARACTER ", "MAITAIKHU;MAI EK;MAI THO;MAI TRI;MAI CHATTAWA;THANTHAKHAT;NIKHAHIT;YAMAKKAN;FONGMAN"⟩,
  ⟨0xE50, "THAI DIGIT ", "ZERO;ONE;TWO;THREE;FOUR;FIVE;SIX;SEVEN;EIGHT;NINE"⟩,
  ⟨0xE5A, "THAI CHARACTER ", "ANGKHANKHU;KHOMUT"⟩,
  ⟨0xE81, "LAO LETTER ", "KO;KHO SUNG"⟩,
  ⟨0xE84, "", "LAO LETTER KHO TAM"⟩,
  ⟨0xE86, "LAO LETTER ", "PALI GHA;NGO;CO;PALI CHA;SO TAM"⟩,
  ⟨0xE8C, "LAO LETTER ", "PALI JHA;NYO;PALI NYA;PALI TTA;PALI TTHA;PALI DDA;PALI DDHA;PALI NNA;DO;TO"⟩,
  ⟨0xE96, "LAO LETTER ", "THO SUNG;THO TAM;PALI DHA;NO;BO;PO;PHO SUNG;FO TAM;PHO TAM;FO SUNG;PALI BHA;MO;YO;LO LING"⟩,
  ⟨0xEA5, "", "LAO LETTER LO LOOT"⟩,
  ⟨0xEA7, "LAO LETTER ", "WO;SANSKRIT SHA;SANSKRIT SSA;SO SUNG;HO SUNG;PALI LLA;O;HO TAM"⟩,
  ⟨0xEAF, "", "LAO ELLIPSIS"⟩,
  ⟨0xEB0, "LAO VOWEL SIGN ", "A;MAI KAN;AA;AM;I;II;Y;YY;U;UU"⟩,
  ⟨0xEBA, "LAO ", "SIGN PALI VIRAMA;VOWEL SIGN MAI KON;SEMIVOWEL SIGN LO;SEMIVOWEL SIGN NYO"⟩,
  ⟨0xEC0, "LAO VOWEL SIGN ", "E;EI;O;AY;AI"⟩,
  ⟨0xEC6, "", "LAO KO LA"⟩,
  ⟨0xEC8, "LAO TONE MAI ", "EK;THO;TI;CATAWA"⟩,
  ⟨0xECC, "LAO ", "CANCELLATION MARK;NIGGAHITA"⟩,
  ⟨0xED0, "LAO DIGIT ", "ZERO;ONE;TWO;THREE;FOUR;FIVE;SIX;SEVEN;EIGHT;NINE"⟩,
  ⟨0xEDC, "LAO ", "HO NO;HO MO;LETTER KHMU GO;LETTER KHMU NYO"⟩,
  ⟨0xF00, "", "TIBETAN SYLLABLE OM"⟩,
  ⟨0xF01, "TIBETAN MARK GTER YIG MGO ", "TRUNCATED A;-UM RNAM BCAD MA;-UM GTER TSHEG MA"⟩,
  ⟨0xF04, "TIBETAN MARK ", "INITIAL YIG MGO MDUN MA;CLOSING YIG MGO SGAB MA;CARET YIG MGO PHUR SHAD MA"⟩,
  ⟨0xF07, "TIBETAN MARK ", "YIG MGO TSHEG SHAD MA;SBRUL SHAD;BSKUR YIG MGO;BKA- SHOG YIG MGO"⟩,
  ⟨0xF0B, "TIBETAN MARK ", "INTERSYLLABIC TSHEG;DELIMITER TSHEG BSTAR;SHAD;NYIS SHAD;TSHEG SHAD;NYIS TSHEG SHAD"⟩,
  ⟨0xF11, "TIBETAN MARK ", "RIN CHEN SPUNGS SHAD;RGYA GRAM SHAD;CARET -DZUD RTAGS ME LONG CAN;GTER TSHEG"⟩,
  ⟨0xF15, "TIBETAN LOGOTYPE SIGN ", "CHAD RTAGS;LHAG RTAGS"⟩,
  ⟨0xF17, "TIBETAN ASTROLOGICAL SIGN ", "SGRA GCAN -CHAR RTAGS;-KHYUD PA;SDONG TSHUGS"⟩,
  ⟨0xF1A, "TIBETAN SIGN RDEL ", "DKAR GCIG;DKAR GNYIS;DKAR GSUM;NAG GCIG;NAG GNYIS;DKAR RDEL NAG"⟩,
  ⟨0xF20, "TIBETAN DIGIT ", "ZERO;ONE;TWO;THREE;FOUR;FIVE;SIX;SEVEN;EIGHT;NINE"⟩,
  ⟨0xF2A, "TIBETAN DIGIT HALF ", "ONE;TWO;THREE;FOUR;FIVE;SIX;SEVEN;EIGHT;NINE;ZERO"⟩,
  ⟨0xF34, "TIBETAN MARK ", "BSDUS RTAGS;NGAS BZUNG NYI ZLA;CARET -DZUD RTAGS BZHI MIG CAN;NGAS BZUNG SGOR RTAGS"⟩,
  ⟨0xF38, "TIBETAN MARK ", "CHE MGO;TSA -PHRU;GUG RTAGS GYON;GUG RTAGS GYAS;ANG KHANG GYON;ANG KHANG GYAS"⟩,
  ⟨0xF3E, "TIBETAN SIGN ", "YAR TSHES;MAR TSHES"⟩,
  ⟨0xF40, "TIBETAN LETTER ", "KA;KHA;GA;GHA;NGA;CA;CHA;JA"⟩,
  ⟨0xF49, "TIBETAN LETTER ", "NYA;TTA;TTHA;DDA;DDHA;NNA;TA;THA;DA;DHA;NA;PA;PHA;BA;BHA"⟩,
  ⟨0xF58, "TIBETAN LETTER ", "MA;TSA;TSHA;DZA;DZHA;WA;ZHA;ZA;-A;YA;RA;LA;SHA;SSA;SA;HA;A;KSSA;FIXED-FORM RA;KKA;RRA"⟩,
  ⟨0xF71, "TIBETAN VOWEL SIGN ", "AA;I;II;U;UU;VOCALIC R;VOCALIC RR;VOCALIC L;VOCALIC LL;E;EE;O;OO"⟩,
  ⟨0xF7E, "TIBETAN SIGN ", "RJES SU NGA RO;RNAM BCAD"⟩,
  ⟨0xF80, "TIBETAN VOWEL SIGN REVERSED ", "I;II"⟩,
  ⟨0xF82, "TIBETAN ", "SIGN NYI ZLA NAA DA;SIGN SNA LDAN;MARK HALANTA;MARK PALUTA;SIGN LCI RTAGS"⟩,
  ⟨0xF87, "TIBETAN SIGN ", "YANG RTAGS;LCE TSA CAN;MCHU CAN;GRU CAN RGYINGS;GRU MED RGYINGS;INVERTED MCHU CAN"⟩,
  ⟨0xF8D, "TIBETAN SUBJOINED SIGN ", "LCE TSA CAN;MCHU CAN;INVERTED MCHU CAN"⟩,
  ⟨0xF90, "TIBETAN SUBJOINED LETTER ", "KA;KHA;GA;GHA;NGA;CA;CHA;JA"⟩,
  ⟨0xF99, "TIBETAN SUBJOINED LETTER ", "NYA;TTA;TTHA;DDA;DDHA;NNA;TA;THA;DA;DHA;NA;PA"⟩,
  ⟨0xFA5, "TIBETAN SUBJOINED LETTER ", "PHA;BA;BHA;MA;TSA;TSHA;DZA;DZHA;WA;ZHA;ZA;-A;YA;RA;LA;SHA;SSA;SA;HA;A;KSSA"⟩,
  ⟨0xFBA, "TIBETAN SUBJOINED LETTER FIXED-FORM ", "WA;YA;RA"⟩,
  ⟨0xFBE, "TIBETAN KU RU ", "KHA;KHA BZHI MIG CAN"⟩,
  ⟨0xFC0, "TIBETAN CANTILLATION SIGN ", "HEAVY BEAT;LIGHT BEAT;CANG TE-U;SBUB -CHAL"⟩,
  ⟨0xFC4, "TIBETAN SYMBOL ", "DRIL BU;RDO RJE;PADMA GDAN;RDO RJE RGYA GRAM;PHUR PA;NOR BU"⟩,
  ⟨0xFCA, "TIBETAN SYMBOL NOR BU ", "NYIS -KHYIL;GSUM -KHYIL;BZHI -KHYIL"⟩,
  ⟨0xFCE, "TIBETAN SIGN RDEL NAG ", "RDEL DKAR;GSUM"⟩,
  ⟨0xFD0, "TIBETAN MARK ", "BSKA- SHOG GI MGO RGYAN;MNYAM YIG GI MGO RGYAN"⟩,
  ⟨0xFD2, "TIBETAN MARK ", "NYIS TSHEG;INITIAL BRDA RNYING YIG MGO MDUN MA;CLOSING BRDA RNYING YIG MGO SGAB MA"⟩,
  ⟨0xFD5, "", "RIGHT-FACING SVASTI SIGN;LEFT-FACING SVASTI SIGN;RIGHT-FACING SVASTI SIGN WITH DOTS"⟩,
  ⟨0xFD8, "", "LEFT-FACING SVASTI SIGN WITH DOTS;TIBETAN MARK LEADING MCHAN RTAGS;TIBETAN MARK TRAILING MCHAN RTAGS"⟩,
  ⟨0x1000, "MYANMAR LETTER ", "KA;KHA;GA;GHA;NGA;CA;CHA;JA;JHA;NYA;NNYA;TTA;TTHA;DDA;DDHA;NNA;TA"⟩,
  ⟨0x1011, "MYANMAR LETTER ", "THA;DA;DHA;NA;PA;PHA;BA;BHA;MA;YA;RA;LA;WA;SA;HA;LLA;A;SHAN A;I;II;U;UU;E;MON E;O;AU"⟩,
  ⟨0x102B, "MYANMAR VOWEL SIGN ", "TALL AA;AA;I;II;U;UU;E;AI;MON II;MON O;E ABOVE"⟩,
  ⟨0x1036, "MYANMAR SIGN ", "ANUSVARA;DOT BELOW;VISARGA;VIRAMA;ASAT"⟩,
  ⟨0x103B, "MYANMAR CONSONANT SIGN MEDIAL ", "YA;RA;WA;HA"⟩,
  ⟨0x103F, "", "MYANMAR LETTER GREAT SA"⟩,
  ⟨0x1040, "MYANMAR DIGIT ", "ZERO;ONE;TWO;THREE;FOUR;FIVE;SIX;SEVEN;EIGHT;NINE"⟩,
  ⟨0x104A, "MYANMAR SIGN ", "LITTLE SECTION;SECTION"⟩,
  ⟨0x104C, "MYANMAR SYMBOL ", "LOCATIVE;COMPLETED;AFOREMENTIONED;GENITIVE"⟩,
  ⟨0x1050, "MYANMAR LETTER ", "SHA;SSA;VOCALIC R;VOCALIC RR;VOCALIC L;VOCALIC LL"⟩,
  ⟨0x1056, "MYANMAR VOWEL SIGN VOCALIC ", "R;RR;L;LL"⟩,
  ⟨0x105A, "MYANMAR LETTER MON ", "NGA;JHA;BBA;BBE"⟩,
  ⟨0x105E, "MYANMAR CONSONANT SIGN MON MEDIAL ", "NA;MA;LA"⟩,
  ⟨0x1061, "MYANMAR ", "LETTER SGAW KAREN SHA;VOWEL SIGN SGAW KAREN EU"⟩,
  ⟨0x1063, "MYANMAR TONE MARK SGAW KAREN ", "HATHI;KE PHO"⟩,
  ⟨0x1065, "MYANMAR LETTER WESTERN PWO KAREN ", "THA;PWA"⟩,
  ⟨0x1067, "MYANMAR VOWEL SIGN WESTERN PWO KAREN ", "EU;UE"⟩,
  ⟨0x1069, "MYANMAR SIGN WESTERN PWO KAREN TONE-", "1;2;3;4;5"⟩,
  ⟨0x106E, "MYANMAR LETTER EASTERN PWO KAREN ", "NNA;YWA;GHWA"⟩,
  ⟨0x1071, "MYANMAR VOWEL SIGN ", "GEBA KAREN I;KAYAH OE;KAYAH U;KAYAH EE"⟩,
  ⟨0x1075, "MYANMAR LETTER SHAN ", "KA;KHA;GA;CA;ZA;NYA;DA;NA;PHA;FA;BA;THA;HA"⟩,
  ⟨0x1082, "", "MYANMAR CONSONANT SIGN SHAN MEDIAL WA"⟩,
  ⟨0x1083, "MYANMAR VOWEL SIGN SHAN ", "AA;E;E ABOVE;FINAL Y"⟩,
  ⟨0x1087, "MYANMAR SIGN SHAN ", "TONE-2;TONE-3;TONE-5;TONE-6;COUNCIL TONE-2;COUNCIL TONE-3;COUNCIL EMPHATIC TONE"⟩,
  ⟨0x108E, "MYANMAR ", "LETTER RUMAI PALAUNG FA;SIGN RUMAI PALAUNG TONE-5"⟩,
  ⟨0x1090, "MYANMAR SHAN DIGIT ", "ZERO;ONE;TWO;THREE;FOUR;FIVE;SIX;SEVEN;EIGHT;NINE"⟩,
  ⟨0x109A, "MYANMAR SIGN KHAMTI TONE-", "1;3"⟩,
  ⟨0x109C, "MYANMAR VOWEL SIGN AITON ", "A;AI"⟩,
  ⟨0x109E, "MYANMAR SYMBOL SHAN ", "ONE;EXCLAMATION"⟩,
  ⟨0x10A0, "GEORGIAN CAPITAL LETTER ", "AN;BAN;GAN;DON;EN;VIN;ZEN;TAN;IN;KAN;LAS;MAN;NAR;ON;PAR;ZHAR;RAE;SAN;TAR;UN"⟩,
  ⟨0x10B4, "GEORGIAN CAPITAL LETTER ", "PHAR;KHAR;GHAN;QAR;SHIN;CHIN;CAN;JIL;CIL;CHAR;XAN;JHAN;HAE;HE;HIE;WE;HAR;HOE"⟩,
  ⟨0x10C7, "", "GEORGIAN CAPITAL LETTER YN"⟩,
  ⟨0x10CD, "", "GEORGIAN CAPITAL LETTER AEN"⟩,
  ⟨0x10D0, "GEORGIAN LETTER ", "AN;BAN;GAN;DON;EN;VIN;ZEN;TAN;IN;KAN;LAS;MAN;NAR;ON;PAR;ZHAR;RAE;SAN;TAR;UN;PHAR"⟩,
  ⟨0x10E5, "GEORGIAN LETTER ", "KHAR;GHAN;QAR;SHIN;CHIN;CAN;JIL;CIL;CHAR;XAN;JHAN;HAE;HE;HIE;WE;HAR;HOE;FI;YN;ELIFI"⟩,
  ⟨0x10F9, "GEORGIAN ", "LETTER TURNED GAN;LETTER AIN;PARAGRAPH SEPARATOR"⟩,
  ⟨0x10FC, "", "MODIFIER LETTER GEORGIAN NAR"⟩,
  ⟨0x10FD, "GEORGIAN LETTER ", "AEN;HARD SIGN;LABIAL SIGN"⟩,
  ⟨0x1100, "HANGUL CHOSEONG ", "KIYEOK;SSANGKIYEOK;NIEUN;TIKEUT;SSANGTIKEUT;RIEUL;MIEUM;PIEUP;SSANGPIEUP;SIOS"⟩,
  ⟨0x110A, "HANGUL CHOSEONG ", "SSANGSIOS;IEUNG;CIEUC;SSANGCIEUC;CHIEUCH;KHIEUKH;THIEUTH;PHIEUPH;HIEUH;NIEUN-KIYEOK"⟩,
  ⟨0x1114, "HANGUL CHOSEONG ", "SSANGNIEUN;NIEUN-TIKEUT;NIEUN-PIEUP;TIKEUT-KIYEOK;RIEUL-NIEUN;SSANGRIEUL"⟩,
  ⟨0x111A, "HANGUL CHOSEONG ", "RIEUL-HIEUH;KAPYEOUNRIEUL;MIEUM-PIEUP;KAPYEOUNMIEUM;PIEUP-KIYEOK;PIEUP-NIEUN"⟩,
  ⟨0x1120, "HANGUL CHOSEONG PIEUP-", "TIKEUT;SIOS;SIOS-KIYEOK;SIOS-TIKEUT;SIOS-PIEUP;SSANGSIOS;SIOS-CIEUC;CIEUC"⟩,
  ⟨0x1128, "HANGUL CHOSEONG ", "PIEUP-CHIEUCH;PIEUP-THIEUTH;PIEUP-PHIEUPH;KAPYEOUNPIEUP;KAPYEOUNSSANGPIEUP"⟩,
  ⟨0x112D, "HANGUL CHOSEONG SIOS-", "KIYEOK;NIEUN;TIKEUT;RIEUL;MIEUM"⟩,
  ⟨0x1132, "HANGUL CHOSEONG SIOS-", "PIEUP;PIEUP-KIYEOK;SSANGSIOS;IEUNG;CIEUC;CHIEUCH;KHIEUKH;THIEUTH;PHIEUPH;HIEUH"⟩,
  ⟨0x113C, "HANGUL CHOSEONG ", "CHITUEUMSIOS;CHITUEUMSSANGSIOS;CEONGCHIEUMSIOS;CEONGCHIEUMSSANGSIOS;PANSIOS"⟩,
  ⟨0x1141, "HANGUL CHOSEONG IEUNG-", "KIYEOK;TIKEUT;MIEUM;PIEUP;SIOS;PANSIOS"⟩,
  ⟨0x1147, "HANGUL CHOSEONG ", "SSANGIEUNG;IEUNG-CIEUC;IEUNG-CHIEUCH;IEUNG-THIEUTH;IEUNG-PHIEUPH;YESIEUNG"⟩,
  ⟨0x114D, "HANGUL CHOSEONG ", "CIEUC-IEUNG;CHITUEUMCIEUC;CHITUEUMSSANGCIEUC;CEONGCHIEUMCIEUC;CEONGCHIEUMSSANGCIEUC"⟩,
  ⟨0x1152, "HANGUL CHOSEONG CHIEUCH-", "KHIEUKH;HIEUH"⟩,
  ⟨0x1154, "HANGUL CHOSEONG ", "CHITUEUMCHIEUCH;CEONGCHIEUMCHIEUCH;PHIEUPH-PIEUP;KAPYEOUNPHIEUPH;SSANGHIEUH"⟩,
  ⟨0x1159, "HANGUL CHOSEONG ", "YEORINHIEUH;KIYEOK-TIKEUT;NIEUN-SIOS;NIEUN-CIEUC;NIEUN-HIEUH;TIKEUT-RIEUL;FILLER"⟩,
  ⟨0x1160, "HANGUL JUNGSEONG ", "FILLER;A;AE;YA;YAE;EO"⟩,
  ⟨0x1166, "HANGUL JUNGSEONG ", "E;YEO;YE;O;WA;WAE;OE;YO;U;WEO;WE;WI;YU;EU;YI;I;A-O;A-U;YA-O;YA-YO;EO-O;EO-U;EO-EU"⟩,
  ⟨0x117D, "HANGUL JUNGSEONG ", "YEO-O;YEO-U;O-EO;O-E;O-YE;O-O;O-U;YO-YA;YO-YAE;YO-YEO;YO-O;YO-I;U-A;U-AE;U-EO-EU"⟩,
  ⟨0x118C, "HANGUL JUNGSEONG ", "U-YE;U-U;YU-A;YU-EO;YU-E;YU-YEO;YU-YE;YU-U;YU-I;EU-U;EU-EU;YI-U;I-A;I-YA;I-O;I-U"⟩,
  ⟨0x119C, "HANGUL JUNGSEONG ", "I-EU;I-ARAEA;ARAEA;ARAEA-EO;ARAEA-U;ARAEA-I;SSANGARAEA;A-EU;YA-U;YEO-YA;O-YA;O-YAE"⟩,
  ⟨0x11A8, "HANGUL JONGSEONG ", "KIYEOK;SSANGKIYEOK;KIYEOK-SIOS;NIEUN;NIEUN-CIEUC;NIEUN-HIEUH;TIKEUT;RIEUL"⟩,
  ⟨0x11B0, "HANGUL JONGSEONG RIEUL-", "KIYEOK;MIEUM;PIEUP;SIOS;THIEUTH;PHIEUPH;HIEUH"⟩,
  ⟨0x11B7, "HANGUL JONGSEONG ", "MIEUM;PIEUP;PIEUP-SIOS;SIOS;SSANGSIOS"⟩,
  ⟨0x11BC, "HANGUL JONGSEONG ", "IEUNG;CIEUC;CHIEUCH;KHIEUKH;THIEUTH;PHIEUPH;HIEUH;KIYEOK-RIEUL;KIYEOK-SIOS-KIYEOK"⟩,
  ⟨0x11C5, "HANGUL JONGSEONG NIEUN-", "KIYEOK;TIKEUT;SIOS;PANSIOS;THIEUTH"⟩,
  ⟨0x11CA, "HANGUL JONGSEONG ", "TIKEUT-KIYEOK;TIKEUT-RIEUL;RIEUL-KIYEOK-SIOS;RIEUL-NIEUN"⟩,
  ⟨0x11CE, "HANGUL JONGSEONG ", "RIEUL-TIKEUT;RIEUL-TIKEUT-HIEUH;SSANGRIEUL;RIEUL-MIEUM-KIYEOK;RIEUL-MIEUM-SIOS"⟩,
  ⟨0x11D3, "HANGUL JONGSEONG RIEUL-", "PIEUP-SIOS;PIEUP-HIEUH;KAPYEOUNPIEUP;SSANGSIOS;PANSIOS;KHIEUKH;YEORINHIEUH"⟩,
  ⟨0x11DA, "HANGUL JONGSEONG MIEUM-", "KIYEOK;RIEUL;PIEUP;SIOS;SSANGSIOS;PANSIOS;CHIEUCH;HIEUH"⟩,
  ⟨0x11E2, "HANGUL JONGSEONG ", "KAPYEOUNMIEUM;PIEUP-RIEUL;PIEUP-PHIEUPH;PIEUP-HIEUH;KAPYEOUNPIEUP;SIOS-KIYEOK"⟩,
  ⟨0x11E8, "HANGUL JONGSEONG ", "SIOS-TIKEUT;SIOS-RIEUL;SIOS-PIEUP;PANSIOS;IEUNG-KIYEOK;IEUNG-SSANGKIYEOK"⟩,
  ⟨0x11EE, "HANGUL JONGSEONG ", "SSANGIEUNG;IEUNG-KHIEUKH;YESIEUNG;YESIEUNG-SIOS;YESIEUNG-PANSIOS;PHIEUPH-PIEUP"⟩,
  ⟨0x11F4, "HANGUL JONGSEONG ", "KAPYEOUNPHIEUPH;HIEUH-NIEUN;HIEUH-RIEUL;HIEUH-MIEUM;HIEUH-PIEUP;YEORINHIEUH"⟩,
  ⟨0x11FA, "HANGUL JONGSEONG ", "KIYEOK-NIEUN;KIYEOK-PIEUP;KIYEOK-CHIEUCH;KIYEOK-KHIEUKH;KIYEOK-HIEUH;SSANGNIEUN"⟩,
  ⟨0x1200, "ETHIOPIC SYLLABLE ", "HA;HU;HI;HAA;HEE;HE;HO;HOA"⟩,
  ⟨0x1208, "ETHIOPIC SYLLABLE ", "LA;LU;LI;LAA;LEE;LE;LO;LWA;HHA;HHU;HHI;HHAA;HHEE;HHE;HHO;HHWA;MA;MU;MI;MAA;MEE;ME"⟩,
  ⟨0x121E, "ETHIOPIC SYLLABLE ", "MO;MWA;SZA;SZU;SZI;SZAA;SZEE;SZE;SZO;SZWA;RA;RU;RI;RAA;REE;RE;RO;RWA;SA;SU;SI;SAA"⟩,
  ⟨0x1234, "ETHIOPIC SYLLABLE ", "SEE;SE;SO;SWA;SHA;SHU;SHI;SHAA;SHEE;SHE;SHO;SHWA;QA;QU;QI;QAA;QEE;QE;QO;QOA;QWA"⟩,
  ⟨0x124A, "ETHIOPIC SYLLABLE ", "QWI;QWAA;QWEE;QWE"⟩,
  ⟨0x1250, "ETHIOPIC SYLLABLE ", "QHA;QHU;QHI;QHAA;QHEE;QHE;QHO"⟩,
  ⟨0x1258, "", "ETHIOPIC SYLLABLE QHWA"⟩,
  ⟨0x125A, "ETHIOPIC SYLLABLE ", "QHWI;QHWAA;QHWEE;QHWE"⟩,
  ⟨0x1260, "ETHIOPIC SYLLABLE ", "BA;BU;BI;BAA;BEE;BE;BO;BWA;VA;VU;VI;VAA;VEE;VE;VO;VWA;TA"⟩,
  ⟨0x1271, "ETHIOPIC SYLLABLE ", "TU;TI;TAA;TEE;TE;TO;TWA;CA;CU;CI;CAA;CEE;CE;CO;CWA;XA;XU;XI;XAA;XEE;XE;XO;XOA;XWA"⟩,
  ⟨0x128A, "ETHIOPIC SYLLABLE ", "XWI;XWAA;XWEE;XWE"⟩,
  ⟨0x1290, "ETHIOPIC SYLLABLE ", "NA;NU;NI;NAA;NEE;NE;NO;NWA;NYA;NYU;NYI;NYAA;NYEE;NYE;NYO;NYWA"⟩,
  ⟨0x12A0, "ETHIOPIC SYLLABLE GLOTTAL ", "A;U;I;AA;EE;E;O;WA"⟩,
  ⟨0x12A8, "ETHIOPIC SYLLABLE ", "KA;KU;KI;KAA;KEE;KE;KO;KOA;KWA"⟩,
  ⟨0x12B2, "ETHIOPIC SYLLABLE ", "KWI;KWAA;KWEE;KWE"⟩,
  ⟨0x12B8, "ETHIOPIC SYLLABLE ", "KXA;KXU;KXI;KXAA;KXEE;KXE;KXO"⟩,
  ⟨0x12C0, "", "ETHIOPIC SYLLABLE KXWA"⟩,
  ⟨0x12C2, "ETHIOPIC SYLLABLE ", "KXWI;KXWAA;KXWEE;KXWE"⟩,
  ⟨0x12C8, "ETHIOPIC SYLLABLE ", "WA;WU;WI;WAA;WEE;WE;WO;WOA"⟩,
  ⟨0x12D0, "ETHIOPIC SYLLABLE PHARYNGEAL ", "A;U;I;AA;EE;E;O"⟩,
  ⟨0x12D8, "ETHIOPIC SYLLABLE ", "ZA;ZU;ZI;ZAA;ZEE;ZE;ZO;ZWA;ZHA;ZHU;ZHI;ZHAA;ZHEE"⟩,
  ⟨0x12E5, "ETHIOPIC SYLLABLE ", "ZHE;ZHO;ZHWA;YA;YU;YI;YAA;YEE;YE;YO;YOA;DA;DU;DI;DAA;DEE;DE;DO;DWA;DDA;DDU;DDI"⟩,
  ⟨0x12FB, "ETHIOPIC SYLLABLE ", "DDAA;DDEE;DDE;DDO;DDWA;JA;JU;JI;JAA;JEE;JE;JO;JWA;GA;GU;GI;GAA;GEE;GE;GO;GOA;GWA"⟩,
  ⟨0x1312, "ETHIOPIC SYLLABLE ", "GWI;GWAA;GWEE;GWE"⟩,
  ⟨0x1318, "ETHIOPIC SYLLABLE ", "GGA;GGU;GGI;GGAA;GGEE;GGE;GGO;GGWAA"⟩,
  ⟨0x1320, "ETHIOPIC SYLLABLE ", "THA;THU;THI;THAA;THEE;THE;THO;THWA;CHA;CHU;CHI;CHAA;CHEE;CHE;CHO;CHWA;PHA;PHU;PHI"⟩,
  ⟨0x1333, "ETHIOPIC SYLLABLE ", "PHAA;PHEE;PHE;PHO;PHWA;TSA;TSU;TSI;TSAA;TSEE;TSE;TSO;TSWA;TZA;TZU;TZI;TZAA;TZEE"⟩,
  ⟨0x1345, "ETHIOPIC SYLLABLE ", "TZE;TZO;TZOA;FA;FU;FI;FAA;FEE;FE;FO;FWA;PA;PU;PI;PAA;PEE;PE;PO;PWA;RYA;MYA;FYA"⟩,
  ⟨0x135D, "ETHIOPIC COMBINING ", "GEMINATION AND VOWEL LENGTH MARK;VOWEL LENGTH MARK;GEMINATION MARK"⟩,
  ⟨0x1360, "", "ETHIOPIC SECTION MARK"⟩,
  ⟨0x1361, "ETHIOPIC ", "WORDSPACE;FULL STOP;COMMA;SEMICOLON;COLON;PREFACE COLON;QUESTION MARK;PARAGRAPH SEPARATOR"⟩,
  ⟨0x1369, "ETHIOPIC DIGIT ", "ONE;TWO;THREE;FOUR;FIVE;SIX;SEVEN;EIGHT;NINE"⟩,
  ⟨0x1372, "ETHIOPIC NUMBER ", "TEN;TWENTY;THIRTY;FORTY;FIFTY;SIXTY;SEVENTY;EIGHTY;NINETY;HUNDRED;TEN THOUSAND"⟩,
  ⟨0x1380, "ETHIOPIC SYLLABLE ", "SEBATBEIT MWA;MWI;MWEE;MWE"⟩,
  ⟨0x1384, "ETHIOPIC SYLLABLE ", "SEBATBEIT BWA;BWI;BWEE;BWE;SEBATBEIT FWA;FWI;FWEE;FWE;SEBATBEIT PWA;PWI;PWEE;PWE"⟩,
  ⟨0x1390, "ETHIOPIC TONAL MARK ", "YIZET;DERET;RIKRIK;SHORT RIKRIK;DIFAT;KENAT;CHIRET;HIDET;DERET-HIDET;KURT"⟩,
  ⟨0x13A0, "CHEROKEE LETTER ", "A;E;I;O;U;V;GA;KA;GE"⟩,
  ⟨0x13A9, "CHEROKEE LETTER ", "GI;GO;GU;GV;HA;HE;HI;HO;HU;HV;LA;LE;LI;LO;LU;LV;MA;ME;MI;MO;MU;NA;HNA;NAH;NE;NI;NO"⟩,
  ⟨0x13C4, "CHEROKEE LETTER ", "NU;NV;QUA;QUE;QUI;QUO;QUU;QUV;SA;S;SE;SI;SO;SU;SV;DA;TA;DE;TE;DI;TI;DO;DU;DV;DLA;TLA"⟩,
  ⟨0x13DE, "CHEROKEE LETTER ", "TLE;TLI;TLO;TLU;TLV;TSA;TSE;TSI;TSO;TSU;TSV;WA;WE;WI;WO;WU;WV;YA;YE;YI;YO;YU;YV;MV"⟩,
  ⟨0x13F8, "CHEROKEE SMALL LETTER ", "YE;YI;YO;YU;YV;MV"⟩,
  ⟨0x1400, "CANADIAN SYLLABICS ", "HYPHEN;E;AAI;I;II;O;OO;Y-CREE OO;CARRIER EE;CARRIER I;A;AA;WE;WEST-CREE WE;WI"⟩,
  ⟨0x140F, "CANADIAN SYLLABICS ", "WEST-CREE WI;WII;WEST-CREE WII;WO;WEST-CREE WO;WOO;WEST-CREE WOO;NASKAPI WOO;WA"⟩,
  ⟨0x1418, "CANADIAN SYLLABICS ", "WEST-CREE WA;WAA;WEST-CREE WAA;NASKAPI WAA;AI;Y-CREE W;GLOTTAL STOP;FINAL ACUTE"⟩,
  ⟨0x1420, "CANADIAN SYLLABICS FINAL ", "GRAVE;BOTTOM HALF RING;TOP HALF RING;RIGHT HALF RING;RING;DOUBLE ACUTE"⟩,
  ⟨0x1426, "CANADIAN SYLLABICS FINAL ", "DOUBLE SHORT VERTICAL STROKES;MIDDLE DOT;SHORT HORIZONTAL STROKE;PLUS"⟩,
  ⟨0x142A, "CANADIAN SYLLABICS ", "FINAL DOWN TACK;EN;IN;ON;AN;PE;PAAI;PI;PII;PO"⟩,
  ⟨0x1434, "CANADIAN SYLLABICS ", "POO;Y-CREE POO;CARRIER HEE;CARRIER HI;PA;PAA;PWE;WEST-CREE PWE;PWI;WEST-CREE PWI"⟩,
  ⟨0x143E, "CANADIAN SYLLABICS ", "PWII;WEST-CREE PWII;PWO;WEST-CREE PWO;PWOO;WEST-CREE PWOO;PWA;WEST-CREE PWA"⟩,
  ⟨0x1446, "CANADIAN SYLLABICS ", "PWAA;WEST-CREE PWAA;Y-CREE PWAA;P;WEST-CREE P;CARRIER H;TE;TAAI;TI;TII;TO"⟩,
  ⟨0x1451, "CANADIAN SYLLABICS ", "TOO;Y-CREE TOO;CARRIER DEE;CARRIER DI;TA;TAA;TWE;WEST-CREE TWE;TWI;WEST-CREE TWI"⟩,
  ⟨0x145B, "CANADIAN SYLLABICS ", "TWII;WEST-CREE TWII;TWO;WEST-CREE TWO;TWOO;WEST-CREE TWOO;TWA;WEST-CREE TWA;TWAA"⟩,
  ⟨0x1464, "CANADIAN SYLLABICS ", "WEST-CREE TWAA;NASKAPI TWAA;T;TTE;TTI;TTO;TTA;KE;KAAI;KI;KII;KO;KOO;Y-CREE KOO"⟩,
  ⟨0x1472, "CANADIAN SYLLABICS ", "KA;KAA;KWE;WEST-CREE KWE;KWI;WEST-CREE KWI;KWII;WEST-CREE KWII;KWO;WEST-CREE KWO"⟩,
  ⟨0x147C, "CANADIAN SYLLABICS ", "KWOO;WEST-CREE KWOO;KWA;WEST-CREE KWA;KWAA;WEST-CREE KWAA;NASKAPI KWAA;K;KW"⟩,
  ⟨0x1485, "CANADIAN SYLLABICS SOUTH-SLAVEY ", "KEH;KIH;KOH;KAH"⟩,
  ⟨0x1489, "CANADIAN SYLLABICS ", "CE;CAAI;CI;CII;CO;COO;Y-CREE COO;CA;CAA"⟩,
  ⟨0x1492, "CANADIAN SYLLABICS ", "CWE;WEST-CREE CWE;CWI;WEST-CREE CWI;CWII;WEST-CREE CWII;CWO;WEST-CREE CWO;CWOO"⟩,
  ⟨0x149B, "CANADIAN SYLLABICS ", "WEST-CREE CWOO;CWA;WEST-CREE CWA;CWAA;WEST-CREE CWAA;NASKAPI CWAA;C;SAYISI TH"⟩,
  ⟨0x14A3, "CANADIAN SYLLABICS ", "ME;MAAI;MI;MII;MO;MOO;Y-CREE MOO;MA;MAA;MWE;WEST-CREE MWE;MWI;WEST-CREE MWI"⟩,
  ⟨0x14B0, "CANADIAN SYLLABICS ", "MWII;WEST-CREE MWII;MWO;WEST-CREE MWO;MWOO;WEST-CREE MWOO;MWA;WEST-CREE MWA"⟩,
  ⟨0x14B8, "CANADIAN SYLLABICS ", "MWAA;WEST-CREE MWAA;NASKAPI MWAA;M;WEST-CREE M;MH;ATHAPASCAN M;SAYISI M"⟩,
  ⟨0x14C0, "CANADIAN SYLLABICS ", "NE;NAAI;NI;NII;NO;NOO;Y-CREE NOO;NA;NAA;NWE;WEST-CREE NWE;NWA;WEST-CREE NWA"⟩,
  ⟨0x14CD, "CANADIAN SYLLABICS ", "NWAA;WEST-CREE NWAA;NASKAPI NWAA;N;CARRIER NG;NH;LE;LAAI;LI;LII;LO;LOO;Y-CREE LOO"⟩,
  ⟨0x14DA, "CANADIAN SYLLABICS ", "LA;LAA;LWE;WEST-CREE LWE;LWI;WEST-CREE LWI;LWII;WEST-CREE LWII;LWO;WEST-CREE LWO"⟩,
  ⟨0x14E4, "CANADIAN SYLLABICS ", "LWOO;WEST-CREE LWOO;LWA;WEST-CREE LWA;LWAA;WEST-CREE LWAA;L;WEST-CREE L;MEDIAL L"⟩,
  ⟨0x14ED, "CANADIAN SYLLABICS ", "SE;SAAI;SI;SII;SO;SOO;Y-CREE SOO;SA;SAA;SWE;WEST-CREE SWE;SWI;WEST-CREE SWI"⟩,
  ⟨0x14FA, "CANADIAN SYLLABICS ", "SWII;WEST-CREE SWII;SWO;WEST-CREE SWO;SWOO;WEST-CREE SWOO;SWA;WEST-CREE SWA"⟩,
  ⟨0x1502, "CANADIAN SYLLABICS ", "SWAA;WEST-CREE SWAA;NASKAPI SWAA;S;ATHAPASCAN S;SW;BLACKFOOT S;MOOSE-CREE SK"⟩,
  ⟨0x150A, "CANADIAN SYLLABICS NASKAPI ", "SKW;S-W;SPWA;STWA;SKWA;SCWA"⟩,
  ⟨0x1510, "CANADIAN SYLLABICS ", "SHE;SHI;SHII"⟩,
  ⟨0x1513, "CANADIAN SYLLABICS ", "SHO;SHOO;SHA;SHAA;SHWE;WEST-CREE SHWE;SHWI;WEST-CREE SHWI;SHWII;WEST-CREE SHWII"⟩,
  ⟨0x151D, "CANADIAN SYLLABICS ", "SHWO;WEST-CREE SHWO;SHWOO;WEST-CREE SHWOO;SHWA;WEST-CREE SHWA;SHWAA"⟩,
  ⟨0x1524, "CANADIAN SYLLABICS ", "WEST-CREE SHWAA;SH;YE;YAAI;YI;YII;YO;YOO;Y-CREE YOO;YA;YAA;YWE;WEST-CREE YWE"⟩,
  ⟨0x1531, "CANADIAN SYLLABICS ", "YWI;WEST-CREE YWI;YWII;WEST-CREE YWII;YWO;WEST-CREE YWO;YWOO;WEST-CREE YWOO"⟩,
  ⟨0x1539, "CANADIAN SYLLABICS ", "YWA;WEST-CREE YWA;YWAA;WEST-CREE YWAA;NASKAPI YWAA;Y;BIBLE-CREE Y;WEST-CREE Y"⟩,
  ⟨0x1541, "CANADIAN SYLLABICS ", "SAYISI YI;RE;R-CREE RE;WEST-CREE LE;RAAI;RI;RII;RO;ROO;WEST-CREE LO;RA"⟩,
  ⟨0x154C, "CANADIAN SYLLABICS ", "RAA;WEST-CREE LA;RWAA;WEST-CREE RWAA;R;WEST-CREE R;MEDIAL R;FE;FAAI;FI;FII;FO;FOO"⟩,
  ⟨0x1559, "CANADIAN SYLLABICS ", "FA;FAA;FWAA;WEST-CREE FWAA;F;THE;N-CREE THE;THI;N-CREE THI;THII;N-CREE THII;THO"⟩,
  ⟨0x1565, "CANADIAN SYLLABICS ", "THOO;THA;THAA;THWAA;WEST-CREE THWAA;TH;TTHE;TTHI;TTHO;TTHA;TTH;TYE;TYI;TYO;TYA"⟩,
  ⟨0x1574, "CANADIAN SYLLABICS NUNAVIK ", "HE;HI;HII;HO;HOO;HA;HAA;H"⟩,
  ⟨0x157C, "CANADIAN SYLLABICS ", "NUNAVUT H;HK;QAAI;QI;QII;QO;QOO;QA;QAA;Q;TLHE;TLHI;TLHO;TLHA;WEST-CREE RE"⟩,
  ⟨0x158B, "CANADIAN SYLLABICS ", "WEST-CREE RI;WEST-CREE RO;WEST-CREE RA;NGAAI;NGI;NGII;NGO;NGOO;NGA;NGAA;NG;NNG"⟩,
  ⟨0x1597, "CANADIAN SYLLABICS SAYISI ", "SHE;SHI;SHO;SHA"⟩,
  ⟨0x159B, "CANADIAN SYLLABICS WOODS-CREE ", "THE;THI;THO;THA;TH"⟩,
  ⟨0x15A0, "CANADIAN SYLLABICS ", "LHI;LHII;LHO;LHOO;LHA;LHAA;LH"⟩,
  ⟨0x15A7, "CANADIAN SYLLABICS TH-CREE ", "THE;THI;THII;THO;THOO;THA;THAA;TH"⟩,
  ⟨0x15AF, "", "CANADIAN SYLLABICS AIVILIK B"⟩,
  ⟨0x15B0, "CANADIAN SYLLABICS BLACKFOOT ", "E;I;O;A;WE;WI;WO;WA;NE;NI;NO;NA;KE;KI;KO;KA"⟩,
  ⟨0x15C0, "CANADIAN SYLLABICS SAYISI ", "HE;HI;HO;HA"⟩,
  ⟨0x15C4, "CANADIAN SYLLABICS CARRIER ", "GHU;GHO;GHE;GHEE;GHI;GHA;RU;RO;RE;REE;RI;RA;WU;WO;WE;WEE;WI;WA;HWU"⟩,
  ⟨0x15D7, "CANADIAN SYLLABICS CARRIER ", "HWO;HWE;HWEE;HWI;HWA;THU;THO;THE;THEE;THI;THA;TTU;TTO;TTE;TTEE;TTI;TTA;PU"⟩,
  ⟨0x15E9, "CANADIAN SYLLABICS CARRIER ", "PO;PE;PEE;PI;PA;P;GU;GO;GE;GEE;GI;GA;KHU;KHO;KHE;KHEE;KHI;KHA;KKU;KKO;KKE"⟩,
  ⟨0x15FE, "CANADIAN SYLLABICS CARRIER ", "KKEE;KKI;KKA;KK;NU;NO;NE;NEE;NI;NA;MU;MO;ME;MEE;MI;MA;YU;YO;YE;YEE;YI;YA"⟩,
  ⟨0x1614, "CANADIAN SYLLABICS ", "CARRIER JU;SAYISI JU;CARRIER JO;CARRIER JE;CARRIER JEE;CARRIER JI;SAYISI JI"⟩,
  ⟨0x161B, "CANADIAN SYLLABICS CARRIER ", "JA;JJU;JJO;JJE;JJEE;JJI;JJA;LU;LO;LE;LEE;LI"⟩,
  ⟨0x1627, "CANADIAN SYLLABICS CARRIER ", "LA;DLU;DLO;DLE;DLEE;DLI;DLA;LHU;LHO;LHE;LHEE;LHI;LHA;TLHU;TLHO;TLHE;TLHEE"⟩,
  ⟨0x1638, "CANADIAN SYLLABICS CARRIER ", "TLHI;TLHA;TLU;TLO;TLE;TLEE;TLI;TLA;ZU;ZO;ZE;ZEE;ZI;ZA;Z;INITIAL Z;DZU;DZO"⟩,
  ⟨0x164A, "CANADIAN SYLLABICS CARRIER ", "DZE;DZEE;DZI;DZA;SU;SO;SE;SEE;SI;SA;SHU;SHO;SHE;SHEE;SHI;SHA;SH;TSU;TSO"⟩,
  ⟨0x165D, "CANADIAN SYLLABICS CARRIER ", "TSE;TSEE;TSI;TSA;CHU;CHO;CHE;CHEE;CHI;CHA;TTSU;TTSO;TTSE;TTSEE;TTSI;TTSA"⟩,
  ⟨0x166D, "CANADIAN SYLLABICS ", "CHI SIGN;FULL STOP;QAI;NGAI;NNGI;NNGII;NNGO;NNGOO;NNGA;NNGAA"⟩,
  ⟨0x1677, "CANADIAN SYLLABICS WOODS-CREE ", "THWEE;THWI;THWII;THWO;THWOO;THWA;THWAA;FINAL TH"⟩,
  ⟨0x167F, "", "CANADIAN SYLLABICS BLACKFOOT W;OGHAM SPACE MARK"⟩,
  ⟨0x1681, "OGHAM LETTER ", "BEITH;LUIS;FEARN;SAIL;NION;UATH;DAIR;TINNE;COLL;CEIRT;MUIN;GORT;NGEADAL"⟩,
  ⟨0x168E, "OGHAM LETTER ", "STRAIF;RUIS;AILM;ONN;UR;EADHADH;IODHADH;EABHADH;OR;UILLEANN;IFIN;EAMHANCHOLL;PEITH"⟩,
  ⟨0x169B, "OGHAM ", "FEATHER MARK;REVERSED FEATHER MARK"⟩,
  ⟨0x16A0, "RUNIC LETTER ", "FEHU FEOH FE F;V;URUZ UR U;YR"⟩,
  ⟨0x16A4, "RUNIC LETTER ", "Y;W;THURISAZ THURS THORN;ETH;ANSUZ A;OS O;AC A;AESC;LONG-BRANCH-OSS O;SHORT-TWIG-OSS O"⟩,
  ⟨0x16AE, "RUNIC LETTER ", "O;OE;ON;RAIDO RAD REID R;KAUNA;CEN;KAUN K;G;ENG;GEBO GYFU G;GAR;WUNJO WYNN W"⟩,
  ⟨0x16BA, "RUNIC LETTER ", "HAGLAZ H;HAEGL H;LONG-BRANCH-HAGALL H;SHORT-TWIG-HAGALL H;NAUDIZ NYD NAUD N"⟩,
  ⟨0x16BF, "RUNIC LETTER ", "SHORT-TWIG-NAUD N;DOTTED-N;ISAZ IS ISS I;E;JERAN J;GER;LONG-BRANCH-AR AE"⟩,
  ⟨0x16C6, "RUNIC LETTER ", "SHORT-TWIG-AR A;IWAZ EOH;PERTHO PEORTH P;ALGIZ EOLHX;SOWILO S;SIGEL LONG-BRANCH-SOL S"⟩,
  ⟨0x16CC, "RUNIC LETTER ", "SHORT-TWIG-SOL S;C;Z;TIWAZ TIR TYR T;SHORT-TWIG-TYR T;D;BERKANAN BEORC BJARKAN B"⟩,
  ⟨0x16D3, "RUNIC LETTER ", "SHORT-TWIG-BJARKAN B;DOTTED-P;OPEN-P;EHWAZ EH E;MANNAZ MAN M;LONG-BRANCH-MADR M"⟩,
  ⟨0x16D9, "RUNIC LETTER ", "SHORT-TWIG-MADR M;LAUKAZ LAGU LOGR L;DOTTED-L;INGWAZ;ING;DAGAZ DAEG D;OTHALAN ETHEL O"⟩,
  ⟨0x16E0, "RUNIC LETTER ", "EAR;IOR;CWEORTH;CALC;CEALC;STAN;LONG-BRANCH-YR;SHORT-TWIG-YR;ICELANDIC-YR;Q;X"⟩,
  ⟨0x16EB, "RUNIC ", "SINGLE PUNCTUATION;MULTIPLE PUNCTUATION"⟩,
  ⟨0x16ED, "RUNIC ", "CROSS PUNCTUATION;ARLAUG SYMBOL;TVIMADUR SYMBOL;BELGTHOR SYMBOL;LETTER K;LETTER SH;LETTER OO"⟩,
  ⟨0x16F4, "RUNIC LETTER FRANKS CASKET ", "OS;IS;EH;AC;AESC"⟩,
  ⟨0x1700, "TAGALOG LETTER ", "A;I;U;KA;GA;NGA;TA;DA;NA;PA;BA;MA;YA;RA;LA;WA;SA;HA"⟩,
  ⟨0x1712, "TAGALOG ", "VOWEL SIGN I;VOWEL SIGN U;SIGN VIRAMA;SIGN PAMUDPOD"⟩,
  ⟨0x171F, "", "TAGALOG LETTER ARCHAIC RA"⟩,
  ⟨0x1720, "HANUNOO LETTER ", "A;I;U;KA;GA;NGA;TA;DA;NA;PA;BA;MA;YA;RA;LA;WA;SA;HA"⟩,
  ⟨0x1732, "HANUNOO ", "VOWEL SIGN I;VOWEL SIGN U;SIGN PAMUDPOD"⟩,
  ⟨0x1735, "PHILIPPINE ", "SINGLE PUNCTUATION;DOUBLE PUNCTUATION"⟩,
  ⟨0x1740, "BUHID LETTER ", "A;I;U;KA;GA;NGA;TA;DA;NA;PA;BA;MA;YA;RA;LA;WA;SA;HA"⟩,
  ⟨0x1752, "BUHID VOWEL SIGN ", "I;U"⟩,
  ⟨0x1760, "TAGBANWA LETTER ", "A;I;U;KA;GA;NGA;TA;DA;NA;PA;BA;MA;YA"⟩,
  ⟨0x176E, "TAGBANWA LETTER ", "LA;WA;SA"⟩,
  ⟨0x1772, "TAGBANWA VOWEL SIGN ", "I;U"⟩,
  ⟨0x1780, "KHMER LETTER ", "KA;KHA;KO;KHO;NGO;CA;CHA;CO;CHO;NYO"⟩,
  ⟨0x178A, "KHMER LETTER ", "DA;TTHA;DO;TTHO;NNO;TA;THA;TO;THO;NO;BA;PHA;PO;PHO;MO;YO;RO;LO;VO;SHA;SSO;SA;HA;LA;QA"⟩,
  ⟨0x17A3, "KHMER INDEPENDENT VOWEL ", "QAQ;QAA"⟩,
  ⟨0x17A5, "KHMER INDEPENDENT VOWEL ", "QI;QII;QU;QUK;QUU;QUUV;RY;RYY;LY;LYY;QE;QAI;QOO TYPE ONE;QOO TYPE TWO;QAU"⟩,
  ⟨0x17B4, "KHMER VOWEL INHERENT ", "AQ;AA"⟩,
  ⟨0x17B6, "KHMER VOWEL SIGN ", "AA;I;II;Y;YY;U;UU;UA;OE;YA;IE;E;AE;AI;OO;AU"⟩,
  ⟨0x17C6, "KHMER SIGN ", "NIKAHIT;REAHMUK;YUUKALEAPINTU;MUUSIKATOAN;TRIISAP;BANTOC;ROBAT;TOANDAKHIAT;KAKABAT;AHSDA"⟩,
  ⟨0x17D0, "KHMER SIGN ", "SAMYOK SANNYA;VIRIAM;COENG;BATHAMASAT;KHAN;BARIYOOSAN;CAMNUC PII KUUH;LEK TOO;BEYYAL"⟩,
  ⟨0x17D9, "KHMER ", "SIGN PHNAEK MUAN;SIGN KOOMUUT;CURRENCY SYMBOL RIEL;SIGN AVAKRAHASANYA;SIGN ATTHACAN"⟩,
  ⟨0x17E0, "KHMER DIGIT ", "ZERO;ONE;TWO;THREE;FOUR;FIVE;SIX;SEVEN;EIGHT;NINE"⟩,
  ⟨0x17F0, "KHMER SYMBOL LEK ATTAK ", "SON;MUOY;PII;BEI;BUON;PRAM;PRAM-MUOY;PRAM-PII;PRAM-BEI;PRAM-BUON"⟩,
  ⟨0x1800, "MONGOLIAN ", "BIRGA;ELLIPSIS;COMMA;FULL STOP;COLON;FOUR DOTS"⟩,
  ⟨0x1806, "MONGOLIAN ", "TODO SOFT HYPHEN;SIBE SYLLABLE BOUNDARY MARKER;MANCHU COMMA;MANCHU FULL STOP;NIRUGU"⟩,
  ⟨0x180B, "MONGOLIAN FREE VARIATION SELECTOR ", "ONE;TWO;THREE"⟩,
  ⟨0x180E, "MONGOLIAN ", "VOWEL SEPARATOR;FREE VARIATION SELECTOR FOUR"⟩,
  ⟨0x1810, "MONGOLIAN DIGIT ", "ZERO;ONE;TWO;THREE;FOUR;FIVE;SIX;SEVEN;EIGHT;NINE"⟩,
  ⟨0x1820, "MONGOLIAN LETTER ", "A;E;I;O;U;OE;UE;EE;NA;ANG;BA;PA;QA;GA;MA;LA;SA"⟩,
  ⟨0x1831, "MONGOLIAN LETTER ", "SHA;TA;DA;CHA;JA;YA;RA;WA;FA;KA;KHA;TSA;ZA;HAA;ZRA;LHA;ZHI;CHI;TODO LONG VOWEL SIGN"⟩,
  ⟨0x1844, "MONGOLIAN LETTER TODO ", "E;I;O;U;OE;UE;ANG;BA;PA;QA;GA;MA;TA;DA;CHA;JA;TSA;YA;WA;KA;GAA;HAA;JIA;NIA;DZA"⟩,
  ⟨0x185D, "MONGOLIAN LETTER SIBE ", "E;I;IY;UE;U;ANG;KA;GA;HA;PA;SHA;TA;DA;JA;FA;GAA;HAA;TSA;ZA;RAA;CHA;ZHA"⟩,
  ⟨0x1873, "MONGOLIAN LETTER ", "MANCHU I;MANCHU KA;MANCHU RA;MANCHU FA;MANCHU ZHA;CHA WITH TWO DOTS"⟩,
  ⟨0x1880, "MONGOLIAN LETTER ALI GALI ", "ANUSVARA ONE;VISARGA ONE;DAMARU;UBADAMA;INVERTED UBADAMA;BALUDA"⟩,
  ⟨0x1886, "MONGOLIAN LETTER ALI GALI ", "THREE BALUDA;A;I;KA;NGA;CA;TTA;TTHA;DDA;NNA;TA;DA;PA;PHA;SSA;ZHA;ZA;AH"⟩,
  ⟨0x1898, "MONGOLIAN LETTER TODO ALI GALI ", "TA;ZHA"⟩,
  ⟨0x189A, "MONGOLIAN LETTER MANCHU ALI GALI ", "GHA;NGA;CA;JHA;TTA;DDHA;TA;DHA;SSA;CYA;ZHA;ZA"⟩,
  ⟨0x18A6, "MONGOLIAN LETTER ALI GALI HALF ", "U;YA"⟩,
  ⟨0x18A8, "MONGOLIAN LETTER ", "MANCHU ALI GALI BHA;ALI GALI DAGALGA;MANCHU ALI GALI LHA"⟩,
  ⟨0x18B0, "CANADIAN SYLLABICS ", "OY;AY;AAY;WAY;POY;PAY;PWOY"⟩,
  ⟨0x18B7, "CANADIAN SYLLABICS ", "TAY;KAY;KWAY;MAY;NOY;NAY;LAY;SOY;SAY;SHOY;SHAY;SHWOY;YOY;YAY;RAY;NWI;OJIBWAY NWI"⟩,
  ⟨0x18C8, "CANADIAN SYLLABICS ", "NWII;OJIBWAY NWII;NWO;OJIBWAY NWO;NWOO;OJIBWAY NWOO;RWEE;RWI;RWII;RWO;RWOO;RWA"⟩,
  ⟨0x18D4, "CANADIAN SYLLABICS OJIBWAY ", "P;T;K;C;M;N;S;SH"⟩,
  ⟨0x18DC, "CANADIAN SYLLABICS ", "EASTERN W;WESTERN W;FINAL SMALL RING;FINAL RAISED DOT"⟩,
  ⟨0x18E0, "CANADIAN SYLLABICS ", "R-CREE RWE;WEST-CREE LOO;WEST-CREE LAA;THWE;THWA;TTHWE;TTHOO;TTHAA;TLHWE;TLHOO"⟩,
  ⟨0x18EA, "CANADIAN SYLLABICS SAYISI ", "SHWE;SHOO;HOO"⟩,
  ⟨0x18ED, "CANADIAN SYLLABICS CARRIER ", "GWU;DENE GEE;GAA;GWA"⟩,
  ⟨0x18F1, "CANADIAN SYLLABICS ", "SAYISI JUU;CARRIER JWA;BEAVER DENE L;BEAVER DENE R;CARRIER DENTAL S"⟩,
  ⟨0x1900, "", "LIMBU VOWEL-CARRIER LETTER"⟩,
  ⟨0x1901, "LIMBU LETTER ", "KA;KHA;GA;GHA;NGA"⟩,
  ⟨0x1906, "LIMBU LETTER ", "CA;CHA;JA;JHA;YAN;TA;THA;DA;DHA;NA;PA;PHA;BA;BHA;MA;YA;RA;LA;WA;SHA;SSA;SA;HA;GYAN;TRA"⟩,
  ⟨0x1920, "LIMBU VOWEL SIGN ", "A;I;U;EE;AI;OO;AU;E;O"⟩,
  ⟨0x1929, "LIMBU SUBJOINED LETTER ", "YA;RA;WA"⟩,
  ⟨0x1930, "LIMBU SMALL LETTER ", "KA;NGA;ANUSVARA;TA;NA;PA;MA;RA;LA"⟩,
  ⟨0x1939, "LIMBU SIGN ", "MUKPHRENG;KEMPHRENG;SA-I"⟩,
  ⟨0x1940, "", "LIMBU SIGN LOO"⟩,
  ⟨0x1944, "LIMBU ", "EXCLAMATION MARK;QUESTION MARK"⟩,
  ⟨0x1946, "LIMBU DIGIT ", "ZERO;ONE;TWO;THREE;FOUR;FIVE;SIX;SEVEN;EIGHT;NINE"⟩,
  ⟨0x1950, "TAI LE LETTER ", "KA;XA"⟩,
  ⟨0x1952, "TAI LE LETTER ", "NGA;TSA;SA;YA;TA;THA;LA;PA;PHA;MA;FA;VA;HA;QA;KHA;TSHA;NA;A;I;EE;EH;U;OO;O;UE;E;AUE;AI"⟩,
  ⟨0x1970, "TAI LE LETTER TONE-", "2;3;4;5;6"⟩,
  ⟨0x1980, "NEW TAI LUE LETTER ", "HIGH QA;LOW QA;HIGH KA;HIGH XA"⟩,
  ⟨0x1984, "NEW TAI LUE LETTER ", "HIGH NGA;LOW KA;LOW XA;LOW NGA;HIGH TSA;HIGH SA;HIGH YA;LOW TSA;LOW SA;LOW YA"⟩,
  ⟨0x198E, "NEW TAI LUE LETTER ", "HIGH TA;HIGH THA;HIGH NA;LOW TA;LOW THA;LOW NA;HIGH PA;HIGH PHA;HIGH MA;LOW PA"⟩,
  ⟨0x1998, "NEW TAI LUE LETTER ", "LOW PHA;LOW MA;HIGH FA;HIGH VA;HIGH LA;LOW FA;LOW VA;LOW LA;HIGH HA;HIGH DA"⟩,
  ⟨0x19A2, "NEW TAI LUE LETTER ", "HIGH BA;LOW HA;LOW DA;LOW BA;HIGH KVA;HIGH XVA;LOW KVA;LOW XVA;HIGH SUA;LOW SUA"⟩,
  ⟨0x19B0, "NEW TAI LUE VOWEL SIGN ", "VOWEL SHORTENER;AA;II;U;UU;E;AE;O;OA;UE;AY;AAY;UY;OY;OAY;UEY;IY"⟩,
  ⟨0x19C1, "NEW TAI LUE LETTER FINAL ", "V;NG;N;M;K;D;B"⟩,
  ⟨0x19C8, "NEW TAI LUE TONE MARK-", "1;2"⟩,
  ⟨0x19D0, "NEW TAI LUE DIGIT ", "ZERO;ONE;TWO;THREE;FOUR;FIVE;SIX;SEVEN;EIGHT;NINE"⟩,
  ⟨0x19DA, "", "NEW TAI LUE THAM DIGIT ONE"⟩,
  ⟨0x19DE, "NEW TAI LUE SIGN ", "LAE;LAEV"⟩,
  ⟨0x19E0, "KHMER SYMBOL ", "PATHAMASAT;MUOY KOET;PII KOET;BEI KOET;BUON KOET;PRAM KOET"⟩,
  ⟨0x19E6, "KHMER SYMBOL ", "PRAM-MUOY KOET;PRAM-PII KOET;PRAM-BEI KOET;PRAM-BUON KOET;DAP KOET;DAP-MUOY KOET"⟩,
  ⟨0x19EC, "KHMER SYMBOL ", "DAP-PII KOET;DAP-BEI KOET;DAP-BUON KOET;DAP-PRAM KOET;TUTEYASAT;MUOY ROC;PII ROC"⟩,
  ⟨0x19F3, "KHMER SYMBOL ", "BEI ROC;BUON ROC;PRAM ROC;PRAM-MUOY ROC;PRAM-PII ROC;PRAM-BEI ROC;PRAM-BUON ROC;DAP ROC"⟩,
  ⟨0x19FB, "KHMER SYMBOL DAP-", "MUOY ROC;PII ROC;BEI ROC;BUON ROC;PRAM ROC"⟩,
  ⟨0x1A00, "BUGINESE LETTER ", "KA;GA;NGA;NGKA;PA;BA;MA;MPA;TA;DA;NA;NRA;CA;JA;NYA;NYCA;YA;RA;LA;VA;SA;A;HA"⟩,
  ⟨0x1A17, "BUGINESE VOWEL SIGN ", "I;U;E;O;AE"⟩,
  ⟨0x1A1E, "BUGINESE ", "PALLAWA;END OF SECTION"⟩,
  ⟨0x1A20, "TAI THAM LETTER ", "HIGH KA;HIGH KHA;HIGH KXA;LOW KA;LOW KXA;LOW KHA;NGA;HIGH CA;HIGH CHA;LOW CA"⟩,
  ⟨0x1A2A, "TAI THAM LETTER ", "LOW SA;LOW CHA;NYA;RATA;HIGH RATHA;DA;LOW RATHA;RANA;HIGH TA;HIGH THA;LOW TA;LOW THA"⟩,
  ⟨0x1A36, "TAI THAM LETTER ", "NA;BA;HIGH PA;HIGH PHA;HIGH FA;LOW PA;LOW FA;LOW PHA;MA;LOW YA;HIGH YA;RA;RUE;LA"⟩,
  ⟨0x1A44, "TAI THAM LETTER ", "LUE;WA;HIGH SHA;HIGH SSA;HIGH SA;HIGH HA;LLA;A;LOW HA;I;II;U;UU;EE;OO;LAE;GREAT SA"⟩,
  ⟨0x1A55, "TAI THAM CONSONANT SIGN ", "MEDIAL RA;MEDIAL LA;LA TANG LAI"⟩,
  ⟨0x1A58, "", "TAI THAM SIGN MAI KANG LAI"⟩,
  ⟨0x1A59, "TAI THAM CONSONANT SIGN ", "FINAL NGA;LOW PA;HIGH RATHA OR LOW PA;MA;BA;SA"⟩,
  ⟨0x1A60, "", "TAI THAM SIGN SAKOT"⟩,
  ⟨0x1A61, "TAI THAM VOWEL SIGN ", "A;MAI SAT;AA;TALL AA;I;II;UE;UUE;U;UU;O;OA BELOW;OY;E;AE;OO;AI;THAM AI;OA ABOVE"⟩,
  ⟨0x1A74, "", "TAI THAM SIGN MAI KANG"⟩,
  ⟨0x1A75, "TAI THAM SIGN ", "TONE-1;TONE-2;KHUEN TONE-3;KHUEN TONE-4;KHUEN TONE-5;RA HAAM;MAI SAM;KHUEN-LUE KARAN"⟩,
  ⟨0x1A7F, "", "TAI THAM COMBINING CRYPTOGRAMMIC DOT"⟩,
  ⟨0x1A80, "TAI THAM HORA DIGIT ", "ZERO;ONE;TWO;THREE;FOUR;FIVE;SIX;SEVEN;EIGHT;NINE"⟩,
  ⟨0x1A90, "TAI THAM THAM DIGIT ", "ZERO;ONE;TWO;THREE;FOUR;FIVE;SIX;SEVEN;EIGHT;NINE"⟩,
  ⟨0x1AA0, "TAI THAM SIGN ", "WIANG;WIANGWAAK;SAWAN;KEOW"⟩,
  ⟨0x1AA4, "TAI THAM SIGN ", "HOY;DOKMAI;REVERSED ROTATED RANA;MAI YAMOK;KAAN;KAANKUU;SATKAAN;SATKAANKUU;HANG;CAANG"⟩,
  ⟨0x1AB0, "COMBINING ", "DOUBLED CIRCUMFLEX ACCENT;DIAERESIS-RING;INFINITY;DOWNWARDS ARROW;TRIPLE DOT;X-X BELOW"⟩,
  ⟨0x1AB6, "COMBINING ", "WIGGLY LINE BELOW;OPEN MARK BELOW;DOUBLE OPEN MARK BELOW;LIGHT CENTRALIZATION STROKE BELOW"⟩,
  ⟨0x1ABA, "COMBINING ", "STRONG CENTRALIZATION STROKE BELOW;PARENTHESES ABOVE;DOUBLE PARENTHESES ABOVE"⟩,
  ⟨0x1ABD, "COMBINING PARENTHESES ", "BELOW;OVERLAY"⟩,
  ⟨0x1ABF, "COMBINING ", "LATIN SMALL LETTER W BELOW;LATIN SMALL LETTER TURNED W BELOW;LEFT PARENTHESIS ABOVE LEFT"⟩,
  ⟨0x1AC2, "COMBINING ", "RIGHT PARENTHESIS ABOVE RIGHT;LEFT PARENTHESIS BELOW LEFT;RIGHT PARENTHESIS BELOW RIGHT"⟩,
  ⟨0x1AC5, "COMBINING ", "SQUARE BRACKETS ABOVE;NUMBER SIGN ABOVE;INVERTED DOUBLE ARCH ABOVE"⟩,
  ⟨0x1AC8, "COMBINING ", "PLUS SIGN ABOVE;DOUBLE PLUS SIGN ABOVE;DOUBLE PLUS SIGN BELOW;TRIPLE ACUTE ACCENT"⟩,
  ⟨0x1ACC, "COMBINING LATIN SMALL LETTER INSULAR ", "G;R;T"⟩,
  ⟨0x1B00, "BALINESE SIGN ", "ULU RICEM;ULU CANDRA;CECEK;SURANG;BISAH"⟩,
  ⟨0x1B05, "BALINESE LETTER ", "AKARA;AKARA TEDUNG;IKARA;IKARA TEDUNG;UKARA;UKARA TEDUNG;RA REPA;RA REPA TEDUNG"⟩,
  ⟨0x1B0D, "BALINESE LETTER LA ", "LENGA;LENGA TEDUNG"⟩,
  ⟨0x1B0F, "BALINESE LETTER ", "EKARA;AIKARA;OKARA;OKARA TEDUNG;KA;KA MAHAPRANA;GA;GA GORA;NGA;CA;CA LACA;JA;JA JERA"⟩,
  ⟨0x1B1C, "BALINESE LETTER ", "NYA;TA LATIK;TA MURDA MAHAPRANA;DA MURDA ALPAPRANA;DA MURDA MAHAPRANA;NA RAMBAT;TA"⟩,
  ⟨0x1B23, "BALINESE LETTER ", "TA TAWA;DA;DA MADU;NA;PA;PA KAPAL;BA;BA KEMBANG;MA;YA;RA;LA;WA;SA SAGA;SA SAPA;SA;HA"⟩,
  ⟨0x1B34, "", "BALINESE SIGN REREKAN"⟩,
  ⟨0x1B35, "BALINESE VOWEL SIGN ", "TEDUNG;ULU;ULU SARI;SUKU;SUKU ILUT;RA REPA;RA REPA TEDUNG;LA LENGA"⟩,
  ⟨0x1B3D, "BALINESE VOWEL SIGN ", "LA LENGA TEDUNG;TALING;TALING REPA;TALING TEDUNG;TALING REPA TEDUNG;PEPET"⟩,
  ⟨0x1B43, "BALINESE ", "VOWEL SIGN PEPET TEDUNG;ADEG ADEG;LETTER KAF SASAK"⟩,
  ⟨0x1B46, "BALINESE LETTER ", "KHOT SASAK;TZIR SASAK;EF SASAK;VE SASAK;ZAL SASAK;ASYURA SASAK;ARCHAIC JNYA"⟩,
  ⟨0x1B50, "BALINESE DIGIT ", "ZERO;ONE;TWO;THREE;FOUR;FIVE;SIX;SEVEN;EIGHT;NINE"⟩,
  ⟨0x1B5A, "BALINESE ", "PANTI;PAMADA;WINDU;CARIK PAMUNGKAH;CARIK SIKI;CARIK PAREREN;PAMENENG"⟩,
  ⟨0x1B61, "BALINESE MUSICAL SYMBOL ", "DONG;DENG;DUNG;DANG;DANG SURANG;DING;DAENG;DEUNG;DAING;DANG GEDE"⟩,
  ⟨0x1B6B, "BALINESE MUSICAL SYMBOL COMBINING ", "TEGEH;ENDEP;KEMPUL"⟩,
  ⟨0x1B6E, "BALINESE MUSICAL SYMBOL COMBINING ", "KEMPLI;JEGOGAN;KEMPUL WITH JEGOGAN;KEMPLI WITH JEGOGAN;BENDE;GONG"⟩,
  ⟨0x1B74, "BALINESE MUSICAL SYMBOL RIGHT-HAND ", "OPEN DUG;OPEN DAG;CLOSED TUK;CLOSED TAK"⟩,
  ⟨0x1B78, "BALINESE MUSICAL SYMBOL LEFT-HAND ", "OPEN PANG;OPEN PUNG;CLOSED PLAK;CLOSED PLUK;OPEN PING"⟩,
  ⟨0x1B7D, "BALINESE ", "PANTI LANTANG;PAMADA LANTANG"⟩,
  ⟨0x1B80, "SUNDANESE ", "SIGN PANYECEK;SIGN PANGLAYAR;SIGN PANGWISAD;LETTER A;LETTER I"⟩,
  ⟨0x1B85, "SUNDANESE LETTER ", "U;AE;O;E;EU;KA;QA;GA;NGA;CA;JA;ZA;NYA;TA;DA;NA;PA;FA;VA;BA;MA;YA;RA;LA;WA;SA;XA;HA"⟩,
  ⟨0x1BA1, "SUNDANESE CONSONANT SIGN ", "PAMINGKAL;PANYAKRA;PANYIKU"⟩,
  ⟨0x1BA4, "SUNDANESE VOWEL SIGN ", "PANGHULU;PANYUKU;PANAELAENG;PANOLONG;PAMEPET;PANEULEUNG"⟩,
  ⟨0x1BAA, "SUNDANESE SIGN ", "PAMAAEH;VIRAMA"⟩,
  ⟨0x1BAC, "SUNDANESE CONSONANT SIGN PASANGAN ", "MA;WA"⟩,
  ⟨0x1BAE, "SUNDANESE LETTER ", "KHA;SYA"⟩,
  ⟨0x1BB0, "SUNDANESE DIGIT ", "ZERO;ONE;TWO;THREE;FOUR;FIVE;SIX;SEVEN;EIGHT;NINE"⟩,
  ⟨0x1BBA, "", "SUNDANESE AVAGRAHA"⟩,
  ⟨0x1BBB, "SUNDANESE LETTER ", "REU;LEU;BHA;FINAL K;FINAL M"⟩,
  ⟨0x1BC0, "BATAK LETTER ", "A;SIMALUNGUN A;HA;SIMALUNGUN HA"⟩,
  ⟨0x1BC4, "BATAK LETTER ", "MANDAILING HA;BA;KARO BA;PA;SIMALUNGUN PA;NA;MANDAILING NA;WA;SIMALUNGUN WA;PAKPAK WA"⟩,
  ⟨0x1BCE, "BATAK LETTER ", "GA;SIMALUNGUN GA;JA;DA;RA;SIMALUNGUN RA;MA;SIMALUNGUN MA;SOUTHERN TA;NORTHERN TA"⟩,
  ⟨0x1BD8, "BATAK LETTER ", "SA;SIMALUNGUN SA;MANDAILING SA;YA;SIMALUNGUN YA;NGA;LA;SIMALUNGUN LA;NYA;CA;NDA;MBA;I;U"⟩,
  ⟨0x1BE6, "", "BATAK SIGN TOMPI"⟩,
  ⟨0x1BE7, "BATAK VOWEL SIGN ", "E;PAKPAK E;EE;I;KARO I;O;KARO O;U;U FOR SIMALUNGUN SA"⟩,
  ⟨0x1BF0, "BATAK ", "CONSONANT SIGN NG;CONSONANT SIGN H;PANGOLAT;PANONGONAN"⟩,
  ⟨0x1BFC, "BATAK SYMBOL BINDU ", "NA METEK;PINARBORAS;JUDUL;PANGOLAT"⟩,
  ⟨0x1C00, "LEPCHA LETTER ", "KA;KLA;KHA;GA;GLA;NGA;CA;CHA;JA;NYA;TA"⟩,
  ⟨0x1C0B, "LEPCHA LETTER ", "THA;DA;NA;PA;PLA;PHA;FA;FLA;BA;BLA;MA;MLA;TSA;TSHA;DZA;YA;RA;LA;HA;HLA;VA;SA;SHA;WA;A"⟩,
  ⟨0x1C24, "LEPCHA SUBJOINED LETTER ", "YA;RA"⟩,
  ⟨0x1C26, "LEPCHA VOWEL SIGN ", "AA;I;O;OO;U;UU;E"⟩,
  ⟨0x1C2D, "LEPCHA CONSONANT SIGN ", "K;M;L;N;P;R;T;NYIN-DO;KANG"⟩,
  ⟨0x1C36, "LEPCHA SIGN ", "RAN;NUKTA"⟩,
  ⟨0x1C3B, "LEPCHA PUNCTUATION ", "TA-ROL;NYET THYOOM TA-ROL;CER-WA;TSHOOK CER-WA;TSHOOK"⟩,
  ⟨0x1C40, "LEPCHA DIGIT ", "ZERO;ONE;TWO;THREE;FOUR;FIVE;SIX;SEVEN;EIGHT;NINE"⟩,
  ⟨0x1C4D, "LEPCHA LETTER ", "TTA;TTHA;DDA"⟩,
  ⟨0x1C50, "OL CHIKI DIGIT ", "ZERO;ONE;TWO;THREE;FOUR;FIVE;SIX;SEVEN;EIGHT;NINE"⟩,
  ⟨0x1C5A, "OL CHIKI LETTER ", "LA;AT;AG;ANG;AL"⟩,
  ⟨0x1C5F, "OL CHIKI LETTER ", "LAA;AAK;AAJ;AAM;AAW;LI;IS;IH;INY;IR;LU;UC;UD;UNN;UY;LE;EP;EDD;EN;ERR;LO;OTT;OB;OV;OH"⟩,
  ⟨0x1C78, "OL CHIKI ", "MU TTUDDAG;GAAHLAA TTUDDAAG;MU-GAAHLAA TTUDDAAG;RELAA;PHAARKAA;AHAD"⟩,
  ⟨0x1C7E, "OL CHIKI PUNCTUATION ", "MUCAAD;DOUBLE MUCAAD"⟩,
  ⟨0x1C80, "CYRILLIC SMALL LETTER ", "ROUNDED VE;LONG-LEGGED DE"⟩,
  ⟨0x1C82, "CYRILLIC SMALL LETTER ", "NARROW O;WIDE ES;TALL TE;THREE-LEGGED TE;TALL HARD SIGN;TALL YAT;UNBLENDED UK"⟩,
  ⟨0x1C90, "GEORGIAN MTAVRULI CAPITAL LETTER ", "AN;BAN;GAN;DON;EN;VIN;ZEN;TAN;IN;KAN;LAS;MAN"⟩,
  ⟨0x1C9C, "GEORGIAN MTAVRULI CAPITAL LETTER ", "NAR;ON;PAR;ZHAR;RAE;SAN;TAR;UN;PHAR;KHAR;GHAN;QAR;SHIN;CHIN;CAN;JIL"⟩,
  ⟨0x1CAC, "GEORGIAN MTAVRULI CAPITAL LETTER ", "CIL;CHAR;XAN;JHAN;HAE;HE;HIE;WE;HAR;HOE;FI;YN;ELIFI;TURNED GAN;AIN"⟩,
  ⟨0x1CBD, "GEORGIAN MTAVRULI CAPITAL LETTER ", "AEN;HARD SIGN;LABIAL SIGN"⟩,
  ⟨0x1CC0, "", "SUNDANESE PUNCTUATION BINDU SURYA"⟩,
  ⟨0x1CC1, "SUNDANESE PUNCTUATION BINDU ", "PANGLONG;PURNAMA;CAKRA;LEU SATANGA;KA SATANGA;DA SATANGA;BA SATANGA"⟩,
  ⟨0x1CD0, "VEDIC ", "TONE KARSHANA;TONE SHARA;TONE PRENKHA;SIGN NIHSHVASA;SIGN YAJURVEDIC MIDLINE SVARITA"⟩,
  ⟨0x1CD5, "VEDIC TONE YAJURVEDIC ", "AGGRAVATED INDEPENDENT SVARITA;INDEPENDENT SVARITA;KATHAKA INDEPENDENT SVARITA"⟩,
  ⟨0x1CD8, "VEDIC TONE ", "CANDRA BELOW;YAJURVEDIC KATHAKA INDEPENDENT SVARITA SCHROEDER"⟩,
  ⟨0x1CDA, "VEDIC TONE ", "DOUBLE SVARITA;TRIPLE SVARITA;KATHAKA ANUDATTA;DOT BELOW;TWO DOTS BELOW"⟩,
  ⟨0x1CDF, "VEDIC TONE ", "THREE DOTS BELOW;RIGVEDIC KASHMIRI INDEPENDENT SVARITA;ATHARVAVEDIC INDEPENDENT SVARITA"⟩,
  ⟨0x1CE2, "VEDIC SIGN ", "VISARGA SVARITA;VISARGA UDATTA;REVERSED VISARGA UDATTA;VISARGA ANUDATTA"⟩,
  ⟨0x1CE6, "VEDIC SIGN ", "REVERSED VISARGA ANUDATTA;VISARGA UDATTA WITH TAIL;VISARGA ANUDATTA WITH TAIL"⟩,
  ⟨0x1CE9, "VEDIC SIGN ANUSVARA ", "ANTARGOMUKHA;BAHIRGOMUKHA;VAMAGOMUKHA;VAMAGOMUKHA WITH TAIL"⟩,
  ⟨0x1CED, "VEDIC SIGN ", "TIRYAK;HEXIFORM LONG ANUSVARA;LONG ANUSVARA;RTHANG LONG ANUSVARA;ANUSVARA UBHAYATO MUKHA"⟩,
  ⟨0x1CF2, "VEDIC ", "SIGN ARDHAVISARGA;SIGN ROTATED ARDHAVISARGA;TONE CANDRA ABOVE"⟩,
  ⟨0x1CF5, "VEDIC SIGN ", "JIHVAMULIYA;UPADHMANIYA;ATIKRAMA"⟩,
  ⟨0x1CF8, "VEDIC ", "TONE RING ABOVE;TONE DOUBLE RING ABOVE;SIGN DOUBLE ANUSVARA ANTARGOMUKHA"⟩,
  ⟨0x1D00, "LATIN ", "LETTER SMALL CAPITAL A;LETTER SMALL CAPITAL AE;SMALL LETTER TURNED AE"⟩,
  ⟨0x1D03, "LATIN LETTER SMALL CAPITAL ", "BARRED B;C;D;ETH;E"⟩,
  ⟨0x1D08, "LATIN SMALL LETTER TURNED ", "OPEN E;I"⟩,
  ⟨0x1D0A, "LATIN LETTER SMALL CAPITAL ", "J;K;L WITH STROKE;M;REVERSED N;O;OPEN O"⟩,
  ⟨0x1D11, "LATIN SMALL LETTER ", "SIDEWAYS O;SIDEWAYS OPEN O;SIDEWAYS O WITH STROKE;TURNED OE"⟩,
  ⟨0x1D15, "LATIN ", "LETTER SMALL CAPITAL OU;SMALL LETTER TOP HALF O;SMALL LETTER BOTTOM HALF O"⟩,
  ⟨0x1D18, "LATIN LETTER SMALL CAPITAL ", "P;REVERSED R;TURNED R;T;U"⟩,
  ⟨0x1D1D, "LATIN SMALL LETTER SIDEWAYS ", "U;DIAERESIZED U;TURNED M"⟩,
  ⟨0x1D20, "LATIN LETTER SMALL CAPITAL ", "V;W;Z;EZH"⟩,
  ⟨0x1D24, "LATIN LETTER ", "VOICED LARYNGEAL SPIRANT;AIN"⟩,
  ⟨0x1D26, "GREEK LETTER SMALL CAPITAL ", "GAMMA;LAMDA;PI;RHO;PSI"⟩,
  ⟨0x1D2B, "", "CYRILLIC LETTER SMALL CAPITAL EL"⟩,
  ⟨0x1D2C, "MODIFIER LETTER CAPITAL ", "A;AE;B;BARRED B;D;E;REVERSED E;G;H;I;J;K;L;M;N;REVERSED N;O;OU;P;R;T;U;W"⟩,
  ⟨0x1D43, "MODIFIER LETTER SMALL ", "A;TURNED A;ALPHA;TURNED AE;B;D;E;SCHWA"⟩,
  ⟨0x1D4B, "MODIFIER LETTER SMALL ", "OPEN E;TURNED OPEN E;G;TURNED I;K;M;ENG;O;OPEN O;TOP HALF O;BOTTOM HALF O"⟩,
  ⟨0x1D56, "MODIFIER LETTER SMALL ", "P;T;U;SIDEWAYS U;TURNED M;V;AIN;BETA;GREEK GAMMA;DELTA;GREEK PHI;CHI"⟩,
  ⟨0x1D62, "LATIN SUBSCRIPT SMALL LETTER ", "I;R;U;V"⟩,
  ⟨0x1D66, "GREEK SUBSCRIPT SMALL LETTER ", "BETA;GAMMA;RHO;PHI;CHI"⟩,
  ⟨0x1D6B, "LATIN SMALL LETTER ", "UE;B WITH MIDDLE TILDE;D WITH MIDDLE TILDE"⟩,
  ⟨0x1D6E, "LATIN SMALL LETTER ", "F WITH MIDDLE TILDE;M WITH MIDDLE TILDE;N WITH MIDDLE TILDE;P WITH MIDDLE TILDE"⟩,
  ⟨0x1D72, "LATIN SMALL LETTER R WITH ", "MIDDLE TILDE;FISHHOOK AND MIDDLE TILDE"⟩,
  ⟨0x1D74, "LATIN SMALL LETTER ", "S WITH MIDDLE TILDE;T WITH MIDDLE TILDE;Z WITH MIDDLE TILDE;TURNED G"⟩,
  ⟨0x1D78, "", "MODIFIER LETTER CYRILLIC EN;LATIN SMALL LETTER INSULAR G"⟩,
  ⟨0x1D7A, "LATIN SMALL ", "LETTER TH WITH STRIKETHROUGH;CAPITAL LETTER I WITH STROKE;LETTER IOTA WITH STROKE"⟩,
  ⟨0x1D7D, "LATIN SMALL ", "LETTER P WITH STROKE;CAPITAL LETTER U WITH STROKE;LETTER UPSILON WITH STROKE"⟩,
  ⟨0x1D80, "LATIN SMALL LETTER ", "B WITH PALATAL HOOK;D WITH PALATAL HOOK;F WITH PALATAL HOOK;G WITH PALATAL HOOK"⟩,
  ⟨0x1D84, "LATIN SMALL LETTER ", "K WITH PALATAL HOOK;L WITH PALATAL HOOK;M WITH PALATAL HOOK;N WITH PALATAL HOOK"⟩,
  ⟨0x1D88, "LATIN SMALL LETTER ", "P WITH PALATAL HOOK;R WITH PALATAL HOOK;S WITH PALATAL HOOK;ESH WITH PALATAL HOOK"⟩,
  ⟨0x1D8C, "LATIN SMALL LETTER ", "V WITH PALATAL HOOK;X WITH PALATAL HOOK;Z WITH PALATAL HOOK;A WITH RETROFLEX HOOK"⟩,
  ⟨0x1D90, "LATIN SMALL LETTER ", "ALPHA WITH RETROFLEX HOOK;D WITH HOOK AND TAIL;E WITH RETROFLEX HOOK"⟩,
  ⟨0x1D93, "LATIN SMALL LETTER ", "OPEN E WITH RETROFLEX HOOK;REVERSED OPEN E WITH RETROFLEX HOOK"⟩,
  ⟨0x1D95, "LATIN SMALL LETTER ", "SCHWA WITH RETROFLEX HOOK;I WITH RETROFLEX HOOK;OPEN O WITH RETROFLEX HOOK"⟩,
  ⟨0x1D98, "LATIN SMALL LETTER ", "ESH WITH RETROFLEX HOOK;U WITH RETROFLEX HOOK;EZH WITH RETROFLEX HOOK"⟩,
  ⟨0x1D9B, "MODIFIER LETTER SMALL ", "TURNED ALPHA;C;C WITH CURL;ETH;REVERSED OPEN E;F;DOTLESS J WITH STROKE"⟩,
  ⟨0x1DA2, "MODIFIER LETTER SMALL ", "SCRIPT G;TURNED H;I WITH STROKE;IOTA;CAPITAL I;CAPITAL I WITH STROKE"⟩,
  ⟨0x1DA8, "MODIFIER LETTER SMALL ", "J WITH CROSSED-TAIL;L WITH RETROFLEX HOOK;L WITH PALATAL HOOK;CAPITAL L"⟩,
  ⟨0x1DAC, "MODIFIER LETTER SMALL ", "M WITH HOOK;TURNED M WITH LONG LEG;N WITH LEFT HOOK;N WITH RETROFLEX HOOK"⟩,
  ⟨0x1DB0, "MODIFIER LETTER SMALL ", "CAPITAL N;BARRED O;PHI;S WITH HOOK;ESH;T WITH PALATAL HOOK;U BAR;UPSILON"⟩,
  ⟨0x1DB8, "MODIFIER LETTER SMALL ", "CAPITAL U;V WITH HOOK;TURNED V;Z;Z WITH RETROFLEX HOOK;Z WITH CURL;EZH;THETA"⟩,
  ⟨0x1DC0, "COMBINING DOTTED ", "GRAVE ACCENT;ACUTE ACCENT"⟩,
  ⟨0x1DC2, "COMBINING ", "SNAKE BELOW;SUSPENSION MARK;MACRON-ACUTE;GRAVE-MACRON;MACRON-GRAVE"⟩,
  ⟨0x1DC7, "COMBINING ", "ACUTE-MACRON;GRAVE-ACUTE-GRAVE;ACUTE-GRAVE-ACUTE;LATIN SMALL LETTER R BELOW;BREVE-MACRON"⟩,
  ⟨0x1DCC, "COMBINING ", "MACRON-BREVE;DOUBLE CIRCUMFLEX ABOVE;OGONEK ABOVE;ZIGZAG BELOW;IS BELOW;UR ABOVE;US ABOVE"⟩,
  ⟨0x1DD3, "COMBINING LATIN SMALL LETTER ", "FLATTENED OPEN A ABOVE;AE;AO;AV;C CEDILLA;INSULAR D;ETH;G"⟩,
  ⟨0x1DDB, "COMBINING LATIN ", "LETTER SMALL CAPITAL G;SMALL LETTER K;SMALL LETTER L;LETTER SMALL CAPITAL L"⟩,
  ⟨0x1DDF, "COMBINING LATIN ", "LETTER SMALL CAPITAL M;SMALL LETTER N;LETTER SMALL CAPITAL N;LETTER SMALL CAPITAL R"⟩,
  ⟨0x1DE3, "COMBINING LATIN SMALL LETTER ", "R ROTUNDA;S;LONG S;Z;ALPHA;B;BETA;SCHWA"⟩,
  ⟨0x1DEB, "COMBINING LATIN SMALL LETTER ", "F;L WITH DOUBLE MIDDLE TILDE;O WITH LIGHT CENTRALIZATION STROKE;P;ESH"⟩,
  ⟨0x1DF0, "COMBINING LATIN SMALL LETTER ", "U WITH LIGHT CENTRALIZATION STROKE;W;A WITH DIAERESIS;O WITH DIAERESIS"⟩,
  ⟨0x1DF4, "COMBINING ", "LATIN SMALL LETTER U WITH DIAERESIS;UP TACK ABOVE;KAVYKA ABOVE RIGHT"⟩,
  ⟨0x1DF7, "COMBINING ", "KAVYKA ABOVE LEFT;DOT ABOVE LEFT;WIDE INVERTED BRIDGE BELOW;DOT BELOW LEFT"⟩,
  ⟨0x1DFB, "COMBINING ", "DELETION MARK;DOUBLE INVERTED BREVE BELOW;ALMOST EQUAL TO BELOW;LEFT ARROWHEAD ABOVE"⟩,
  ⟨0x1DFF, "", "COMBINING RIGHT ARROWHEAD AND DOWN ARROWHEAD BELOW;LATIN CAPITAL LETTER A WITH RING BELOW"⟩,
  ⟨0x1E01, "LATIN ", "SMALL LETTER A WITH RING BELOW;CAPITAL LETTER B WITH DOT ABOVE;SMALL LETTER B WITH DOT ABOVE"⟩,
  ⟨0x1E04, "LATIN ", "CAPITAL LETTER B WITH DOT BELOW;SMALL LETTER B WITH DOT BELOW;CAPITAL LETTER B WITH LINE BELOW"⟩,
  ⟨0x1E07, "LATIN ", "SMALL LETTER B WITH LINE BELOW;CAPITAL LETTER C WITH CEDILLA AND ACUTE"⟩,
  ⟨0x1E09, "LATIN ", "SMALL LETTER C WITH CEDILLA AND ACUTE;CAPITAL LETTER D WITH DOT ABOVE"⟩,
  ⟨0x1E0B, "LATIN ", "SMALL LETTER D WITH DOT ABOVE;CAPITAL LETTER D WITH DOT BELOW;SMALL LETTER D WITH DOT BELOW"⟩,
  ⟨0x1E0E, "LATIN ", "CAPITAL LETTER D WITH LINE BELOW;SMALL LETTER D WITH LINE BELOW;CAPITAL LETTER D WITH CEDILLA"⟩,
  ⟨0x1E11, "LATIN ", "SMALL LETTER D WITH CEDILLA;CAPITAL LETTER D WITH CIRCUMFLEX BELOW"⟩,
  ⟨0x1E13, "LATIN ", "SMALL LETTER D WITH CIRCUMFLEX BELOW;CAPITAL LETTER E WITH MACRON AND GRAVE"⟩,
  ⟨0x1E15, "LATIN ", "SMALL LETTER E WITH MACRON AND GRAVE;CAPITAL LETTER E WITH MACRON AND ACUTE"⟩,
  ⟨0x1E17, "LATIN ", "SMALL LETTER E WITH MACRON AND ACUTE;CAPITAL LETTER E WITH CIRCUMFLEX BELOW"⟩,
  ⟨0x1E19, "LATIN ", "SMALL LETTER E WITH CIRCUMFLEX BELOW;CAPITAL LETTER E WITH TILDE BELOW"⟩,
  ⟨0x1E1B, "LATIN ", "SMALL LETTER E WITH TILDE BELOW;CAPITAL LETTER E WITH CEDILLA AND BREVE"⟩,
  ⟨0x1E1D, "LATIN ", "SMALL LETTER E WITH CEDILLA AND BREVE;CAPITAL LETTER F WITH DOT ABOVE"⟩,
  ⟨0x1E1F, "LATIN ", "SMALL LETTER F WITH DOT ABOVE;CAPITAL LETTER G WITH MACRON;SMALL LETTER G WITH MACRON"⟩,
  ⟨0x1E22, "LATIN ", "CAPITAL LETTER H WITH DOT ABOVE;SMALL LETTER H WITH DOT ABOVE;CAPITAL LETTER H WITH DOT BELOW"⟩,
  ⟨0x1E25, "LATIN ", "SMALL LETTER H WITH DOT BELOW;CAPITAL LETTER H WITH DIAERESIS;SMALL LETTER H WITH DIAERESIS"⟩,
  ⟨0x1E28, "LATIN ", "CAPITAL LETTER H WITH CEDILLA;SMALL LETTER H WITH CEDILLA;CAPITAL LETTER H WITH BREVE BELOW"⟩,
  ⟨0x1E2B, "LATIN ", "SMALL LETTER H WITH BREVE BELOW;CAPITAL LETTER I WITH TILDE BELOW"⟩,
  ⟨0x1E2D, "LATIN ", "SMALL LETTER I WITH TILDE BELOW;CAPITAL LETTER I WITH DIAERESIS AND ACUTE"⟩,
  ⟨0x1E2F, "LATIN ", "SMALL LETTER I WITH DIAERESIS AND ACUTE;CAPITAL LETTER K WITH ACUTE;SMALL LETTER K WITH ACUTE"⟩,
  ⟨0x1E32, "LATIN ", "CAPITAL LETTER K WITH DOT BELOW;SMALL LETTER K WITH DOT BELOW;CAPITAL LETTER K WITH LINE BELOW"⟩,
  ⟨0x1E35, "LATIN ", "SMALL LETTER K WITH LINE BELOW;CAPITAL LETTER L WITH DOT BELOW"⟩,
  ⟨0x1E37, "LATIN ", "SMALL LETTER L WITH DOT BELOW;CAPITAL LETTER L WITH DOT BELOW AND MACRON"⟩,
  ⟨0x1E39, "LATIN ", "SMALL LETTER L WITH DOT BELOW AND MACRON;CAPITAL LETTER L WITH LINE BELOW"⟩,
  ⟨0x1E3B, "LATIN ", "SMALL LETTER L WITH LINE BELOW;CAPITAL LETTER L WITH CIRCUMFLEX BELOW"⟩,
  ⟨0x1E3D, "LATIN ", "SMALL LETTER L WITH CIRCUMFLEX BELOW;CAPITAL LETTER M WITH ACUTE;SMALL LETTER M WITH ACUTE"⟩,
  ⟨0x1E40, "LATIN ", "CAPITAL LETTER M WITH DOT ABOVE;SMALL LETTER M WITH DOT ABOVE;CAPITAL LETTER M WITH DOT BELOW"⟩,
  ⟨0x1E43, "LATIN ", "SMALL LETTER M WITH DOT BELOW;CAPITAL LETTER N WITH DOT ABOVE;SMALL LETTER N WITH DOT ABOVE"⟩,
  ⟨0x1E46, "LATIN ", "CAPITAL LETTER N WITH DOT BELOW;SMALL LETTER N WITH DOT BELOW;CAPITAL LETTER N WITH LINE BELOW"⟩,
  ⟨0x1E49, "LATIN ", "SMALL LETTER N WITH LINE BELOW;CAPITAL LETTER N WITH CIRCUMFLEX BELOW"⟩,
  ⟨0x1E4B, "LATIN ", "SMALL LETTER N WITH CIRCUMFLEX BELOW;CAPITAL LETTER O WITH TILDE AND ACUTE"⟩,
  ⟨0x1E4D, "LATIN ", "SMALL LETTER O WITH TILDE AND ACUTE;CAPITAL LETTER O WITH TILDE AND DIAERESIS"⟩,
  ⟨0x1E4F, "LATIN ", "SMALL LETTER O WITH TILDE AND DIAERESIS;CAPITAL LETTER O WITH MACRON AND GRAVE"⟩,
  ⟨0x1E51, "LATIN ", "SMALL LETTER O WITH MACRON AND GRAVE;CAPITAL LETTER O WITH MACRON AND ACUTE"⟩,
  ⟨0x1E53, "LATIN ", "SMALL LETTER O WITH MACRON AND ACUTE;CAPITAL LETTER P WITH ACUTE"⟩,
  ⟨0x1E55, "LATIN ", "SMALL LETTER P WITH ACUTE;CAPITAL LETTER P WITH DOT ABOVE;SMALL LETTER P WITH DOT ABOVE"⟩,
  ⟨0x1E58, "LATIN ", "CAPITAL LETTER R WITH DOT ABOVE;SMALL LETTER R WITH DOT ABOVE;CAPITAL LETTER R WITH DOT BELOW"⟩,
  ⟨0x1E5B, "LATIN ", "SMALL LETTER R WITH DOT BELOW;CAPITAL LETTER R WITH DOT BELOW AND MACRON"⟩,
  ⟨0x1E5D, "LATIN ", "SMALL LETTER R WITH DOT BELOW AND MACRON;CAPITAL LETTER R WITH LINE BELOW"⟩,
  ⟨0x1E5F, "LATIN ", "SMALL LETTER R WITH LINE BELOW;CAPITAL LETTER S WITH DOT ABOVE"⟩,
  ⟨0x1E61, "LATIN ", "SMALL LETTER S WITH DOT ABOVE;CAPITAL LETTER S WITH DOT BELOW;SMALL LETTER S WITH DOT BELOW"⟩,
  ⟨0x1E64, "LATIN ", "CAPITAL LETTER S WITH ACUTE AND DOT ABOVE;SMALL LETTER S WITH ACUTE AND DOT ABOVE"⟩,
  ⟨0x1E66, "LATIN ", "CAPITAL LETTER S WITH CARON AND DOT ABOVE;SMALL LETTER S WITH CARON AND DOT ABOVE"⟩,
  ⟨0x1E68, "LATIN ", "CAPITAL LETTER S WITH DOT BELOW AND DOT ABOVE;SMALL LETTER S WITH DOT BELOW AND DOT ABOVE"⟩,
  ⟨0x1E6A, "LATIN ", "CAPITAL LETTER T WITH DOT ABOVE;SMALL LETTER T WITH DOT ABOVE;CAPITAL LETTER T WITH DOT BELOW"⟩,
  ⟨0x1E6D, "LATIN ", "SMALL LETTER T WITH DOT BELOW;CAPITAL LETTER T WITH LINE BELOW;SMALL LETTER T WITH LINE BELOW"⟩,
  ⟨0x1E70, "LATIN ", "CAPITAL LETTER T WITH CIRCUMFLEX BELOW;SMALL LETTER T WITH CIRCUMFLEX BELOW"⟩,
  ⟨0x1E72, "LATIN ", "CAPITAL LETTER U WITH DIAERESIS BELOW;SMALL LETTER U WITH DIAERESIS BELOW"⟩,
  ⟨0x1E74, "LATIN ", "CAPITAL LETTER U WITH TILDE BELOW;SMALL LETTER U WITH TILDE BELOW"⟩,
  ⟨0x1E76, "LATIN ", "CAPITAL LETTER U WITH CIRCUMFLEX BELOW;SMALL LETTER U WITH CIRCUMFLEX BELOW"⟩,
  ⟨0x1E78, "LATIN ", "CAPITAL LETTER U WITH TILDE AND ACUTE;SMALL LETTER U WITH TILDE AND ACUTE"⟩,
  ⟨0x1E7A, "LATIN ", "CAPITAL LETTER U WITH MACRON AND DIAERESIS;SMALL LETTER U WITH MACRON AND DIAERESIS"⟩,
  ⟨0x1E7C, "LATIN ", "CAPITAL LETTER V WITH TILDE;SMALL LETTER V WITH TILDE;CAPITAL LETTER V WITH DOT BELOW"⟩,
  ⟨0x1E7F, "LATIN ", "SMALL LETTER V WITH DOT BELOW;CAPITAL LETTER W WITH GRAVE;SMALL LETTER W WITH GRAVE"⟩,
  ⟨0x1E82, "LATIN ", "CAPITAL LETTER W WITH ACUTE;SMALL LETTER W WITH ACUTE;CAPITAL LETTER W WITH DIAERESIS"⟩,
  ⟨0x1E85, "LATIN ", "SMALL LETTER W WITH DIAERESIS;CAPITAL LETTER W WITH DOT ABOVE;SMALL LETTER W WITH DOT ABOVE"⟩,
  ⟨0x1E88, "LATIN ", "CAPITAL LETTER W WITH DOT BELOW;SMALL LETTER W WITH DOT BELOW;CAPITAL LETTER X WITH DOT ABOVE"⟩,
  ⟨0x1E8B, "LATIN ", "SMALL LETTER X WITH DOT ABOVE;CAPITAL LETTER X WITH DIAERESIS;SMALL LETTER X WITH DIAERESIS"⟩,
  ⟨0x1E8E, "LATIN ", "CAPITAL LETTER Y WITH DOT ABOVE;SMALL LETTER Y WITH DOT ABOVE;CAPITAL LETTER Z WITH CIRCUMFLEX"⟩,
  ⟨0x1E91, "LATIN ", "SMALL LETTER Z WITH CIRCUMFLEX;CAPITAL LETTER Z WITH DOT BELOW;SMALL LETTER Z WITH DOT BELOW"⟩,
  ⟨0x1E94, "LATIN ", "CAPITAL LETTER Z WITH LINE BELOW;SMALL LETTER Z WITH LINE BELOW;SMALL LETTER H WITH LINE BELOW"⟩,
  ⟨0x1E97, "LATIN SMALL LETTER ", "T WITH DIAERESIS;W WITH RING ABOVE;Y WITH RING ABOVE;A WITH RIGHT HALF RING"⟩,
  ⟨0x1E9B, "LATIN SMALL LETTER LONG S WITH ", "DOT ABOVE;DIAGONAL STROKE;HIGH STROKE"⟩,
  ⟨0x1E9E, "LATIN ", "CAPITAL LETTER SHARP S;SMALL LETTER DELTA;CAPITAL LETTER A WITH DOT BELOW"⟩,
  ⟨0x1EA1, "LATIN ", "SMALL LETTER A WITH DOT BELOW;CAPITAL LETTER A WITH HOOK ABOVE;SMALL LETTER A WITH HOOK ABOVE"⟩,
  ⟨0x1EA4, "LATIN ", "CAPITAL LETTER A WITH CIRCUMFLEX AND ACUTE;SMALL LETTER A WITH CIRCUMFLEX AND ACUTE"⟩,
  ⟨0x1EA6, "LATIN ", "CAPITAL LETTER A WITH CIRCUMFLEX AND GRAVE;SMALL LETTER A WITH CIRCUMFLEX AND GRAVE"⟩,
  ⟨0x1EA8, "LATIN ", "CAPITAL LETTER A WITH CIRCUMFLEX AND HOOK ABOVE;SMALL LETTER A WITH CIRCUMFLEX AND HOOK ABOVE"⟩,
  ⟨0x1EAA, "LATIN ", "CAPITAL LETTER A WITH CIRCUMFLEX AND TILDE;SMALL LETTER A WITH CIRCUMFLEX AND TILDE"⟩,
  ⟨0x1EAC, "LATIN ", "CAPITAL LETTER A WITH CIRCUMFLEX AND DOT BELOW;SMALL LETTER A WITH CIRCUMFLEX AND DOT BELOW"⟩,
  ⟨0x1EAE, "LATIN ", "CAPITAL LETTER A WITH BREVE AND ACUTE;SMALL LETTER A WITH BREVE AND ACUTE"⟩,
  ⟨0x1EB0, "LATIN ", "CAPITAL LETTER A WITH BREVE AND GRAVE;SMALL LETTER A WITH BREVE AND GRAVE"⟩,
  ⟨0x1EB2, "LATIN ", "CAPITAL LETTER A WITH BREVE AND HOOK ABOVE;SMALL LETTER A WITH BREVE AND HOOK ABOVE"⟩,
  ⟨0x1EB4, "LATIN ", "CAPITAL LETTER A WITH BREVE AND TILDE;SMALL LETTER A WITH BREVE AND TILDE"⟩,
  ⟨0x1EB6, "LATIN ", "CAPITAL LETTER A WITH BREVE AND DOT BELOW;SMALL LETTER A WITH BREVE AND DOT BELOW"⟩,
  ⟨0x1EB8, "LATIN ", "CAPITAL LETTER E WITH DOT BELOW;SMALL LETTER E WITH DOT BELOW;CAPITAL LETTER E WITH HOOK ABOVE"⟩,
  ⟨0x1EBB, "LATIN ", "SMALL LETTER E WITH HOOK ABOVE;CAPITAL LETTER E WITH TILDE;SMALL LETTER E WITH TILDE"⟩,
  ⟨0x1EBE, "LATIN ", "CAPITAL LETTER E WITH CIRCUMFLEX AND ACUTE;SMALL LETTER E WITH CIRCUMFLEX AND ACUTE"⟩,
  ⟨0x1EC0, "LATIN ", "CAPITAL LETTER E WITH CIRCUMFLEX AND GRAVE;SMALL LETTER E WITH CIRCUMFLEX AND GRAVE"⟩,
  ⟨0x1EC2, "LATIN ", "CAPITAL LETTER E WITH CIRCUMFLEX AND HOOK ABOVE;SMALL LETTER E WITH CIRCUMFLEX AND HOOK ABOVE"⟩,
  ⟨0x1EC4, "LATIN ", "CAPITAL LETTER E WITH CIRCUMFLEX AND TILDE;SMALL LETTER E WITH CIRCUMFLEX AND TILDE"⟩,
  ⟨0x1EC6, "LATIN ", "CAPITAL LETTER E WITH CIRCUMFLEX AND DOT BELOW;SMALL LETTER E WITH CIRCUMFLEX AND DOT BELOW"⟩,
  ⟨0x1EC8, "LATIN ", "CAPITAL LETTER I WITH HOOK ABOVE;SMALL LETTER I WITH HOOK ABOVE"⟩,
  ⟨0x1ECA, "LATIN ", "CAPITAL LETTER I WITH DOT BELOW;SMALL LETTER I WITH DOT BELOW;CAPITAL LETTER O WITH DOT BELOW"⟩,
  ⟨0x1ECD, "LATIN ", "SMALL LETTER O WITH DOT BELOW;CAPITAL LETTER O WITH HOOK ABOVE;SMALL LETTER O WITH HOOK ABOVE"⟩,
  ⟨0x1ED0, "LATIN ", "CAPITAL LETTER O WITH CIRCUMFLEX AND ACUTE;SMALL LETTER O WITH CIRCUMFLEX AND ACUTE"⟩,
  ⟨0x1ED2, "LATIN ", "CAPITAL LETTER O WITH CIRCUMFLEX AND GRAVE;SMALL LETTER O WITH CIRCUMFLEX AND GRAVE"⟩,
  ⟨0x1ED4, "LATIN ", "CAPITAL LETTER O WITH CIRCUMFLEX AND HOOK ABOVE;SMALL LETTER O WITH CIRCUMFLEX AND HOOK ABOVE"⟩,
  ⟨0x1ED6, "LATIN ", "CAPITAL LETTER O WITH CIRCUMFLEX AND TILDE;SMALL LETTER O WITH CIRCUMFLEX AND TILDE"⟩,
  ⟨0x1ED8, "LATIN ", "CAPITAL LETTER O WITH CIRCUMFLEX AND DOT BELOW;SMALL LETTER O WITH CIRCUMFLEX AND DOT BELOW"⟩,
  ⟨0x1EDA, "LATIN ", "CAPITAL LETTER O WITH HORN AND ACUTE;SMALL LETTER O WITH HORN AND ACUTE"⟩,
  ⟨0x1EDC, "LATIN ", "CAPITAL LETTER O WITH HORN AND GRAVE;SMALL LETTER O WITH HORN AND GRAVE"⟩,
  ⟨0x1EDE, "LATIN ", "CAPITAL LETTER O WITH HORN AND HOOK ABOVE;SMALL LETTER O WITH HORN AND HOOK ABOVE"⟩,
  ⟨0x1EE0, "LATIN ", "CAPITAL LETTER O WITH HORN AND TILDE;SMALL LETTER O WITH HORN AND TILDE"⟩,
  ⟨0x1EE2, "LATIN ", "CAPITAL LETTER O WITH HORN AND DOT BELOW;SMALL LETTER O WITH HORN AND DOT BELOW"⟩,
  ⟨0x1EE4, "LATIN ", "CAPITAL LETTER U WITH DOT BELOW;SMALL LETTER U WITH DOT BELOW;CAPITAL LETTER U WITH HOOK ABOVE"⟩,
  ⟨0x1EE7, "LATIN ", "SMALL LETTER U WITH HOOK ABOVE;CAPITAL LETTER U WITH HORN AND ACUTE"⟩,
  ⟨0x1EE9, "LATIN ", "SMALL LETTER U WITH HORN AND ACUTE;CAPITAL LETTER U WITH HORN AND GRAVE"⟩,
  ⟨0x1EEB, "LATIN ", "SMALL LETTER U WITH HORN AND GRAVE;CAPITAL LETTER U WITH HORN AND HOOK ABOVE"⟩,
  ⟨0x1EED, "LATIN ", "SMALL LETTER U WITH HORN AND HOOK ABOVE;CAPITAL LETTER U WITH HORN AND TILDE"⟩,
  ⟨0x1EEF, "LATIN ", "SMALL LETTER U WITH HORN AND TILDE;CAPITAL LETTER U WITH HORN AND DOT BELOW"⟩,
  ⟨0x1EF1, "LATIN ", "SMALL LETTER U WITH HORN AND DOT BELOW;CAPITAL LETTER Y WITH GRAVE;SMALL LETTER Y WITH GRAVE"⟩,
  ⟨0x1EF4, "LATIN ", "CAPITAL LETTER Y WITH DOT BELOW;SMALL LETTER Y WITH DOT BELOW;CAPITAL LETTER Y WITH HOOK ABOVE"⟩,
  ⟨0x1EF7, "LATIN ", "SMALL LETTER Y WITH HOOK ABOVE;CAPITAL LETTER Y WITH TILDE;SMALL LETTER Y WITH TILDE"⟩,
  ⟨0x1EFA, "LATIN ", "CAPITAL LETTER MIDDLE-WELSH LL;SMALL LETTER MIDDLE-WELSH LL;CAPITAL LETTER MIDDLE-WELSH V"⟩,
  ⟨0x1EFD, "LATIN ", "SMALL LETTER MIDDLE-WELSH V;CAPITAL LETTER Y WITH LOOP;SMALL LETTER Y WITH LOOP"⟩,
  ⟨0x1F00, "GREEK SMALL LETTER ALPHA WITH ", "PSILI;DASIA;PSILI AND VARIA;DASIA AND VARIA;PSILI AND OXIA"⟩,
  ⟨0x1F05, "GREEK SMALL LETTER ALPHA WITH ", "DASIA AND OXIA;PSILI AND PERISPOMENI;DASIA AND PERISPOMENI"⟩,
  ⟨0x1F08, "GREEK CAPITAL LETTER ALPHA WITH ", "PSILI;DASIA;PSILI AND VARIA;DASIA AND VARIA;PSILI AND OXIA"⟩,
  ⟨0x1F0D, "GREEK CAPITAL LETTER ALPHA WITH ", "DASIA AND OXIA;PSILI AND PERISPOMENI;DASIA AND PERISPOMENI"⟩,
  ⟨0x1F10, "", "GREEK SMALL LETTER EPSILON WITH PSILI"⟩,
  ⟨0x1F11, "GREEK SMALL LETTER EPSILON WITH ", "DASIA;PSILI AND VARIA;DASIA AND VARIA;PSILI AND OXIA;DASIA AND OXIA"⟩,
  ⟨0x1F18, "GREEK CAPITAL LETTER EPSILON WITH ", "PSILI;DASIA"⟩,
  ⟨0x1F1A, "GREEK CAPITAL LETTER EPSILON WITH ", "PSILI AND VARIA;DASIA AND VARIA;PSILI AND OXIA;DASIA AND OXIA"⟩,
  ⟨0x1F20, "GREEK SMALL LETTER ETA WITH ", "PSILI;DASIA;PSILI AND VARIA;DASIA AND VARIA;PSILI AND OXIA"⟩,
  ⟨0x1F25, "GREEK SMALL LETTER ETA WITH ", "DASIA AND OXIA;PSILI AND PERISPOMENI;DASIA AND PERISPOMENI"⟩,
  ⟨0x1F28, "GREEK CAPITAL LETTER ETA WITH ", "PSILI;DASIA;PSILI AND VARIA;DASIA AND VARIA;PSILI AND OXIA"⟩,
  ⟨0x1F2D, "GREEK CAPITAL LETTER ETA WITH ", "DASIA AND OXIA;PSILI AND PERISPOMENI;DASIA AND PERISPOMENI"⟩,
  ⟨0x1F30, "GREEK SMALL LETTER IOTA WITH ", "PSILI;DASIA;PSILI AND VARIA;DASIA AND VARIA;PSILI AND OXIA"⟩,
  ⟨0x1F35, "GREEK SMALL LETTER IOTA WITH ", "DASIA AND OXIA;PSILI AND PERISPOMENI;DASIA AND PERISPOMENI"⟩,
  ⟨0x1F38, "GREEK CAPITAL LETTER IOTA WITH ", "PSILI;DASIA;PSILI AND VARIA;DASIA AND VARIA;PSILI AND OXIA"⟩,
  ⟨0x1F3D, "GREEK CAPITAL LETTER IOTA WITH ", "DASIA AND OXIA;PSILI AND PERISPOMENI;DASIA AND PERISPOMENI"⟩,
  ⟨0x1F40, "", "GREEK SMALL LETTER OMICRON WITH PSILI"⟩,
  ⟨0x1F41, "GREEK SMALL LETTER OMICRON WITH ", "DASIA;PSILI AND VARIA;DASIA AND VARIA;PSILI AND OXIA;DASIA AND OXIA"⟩,
  ⟨0x1F48, "GREEK CAPITAL LETTER OMICRON WITH ", "PSILI;DASIA"⟩,
  ⟨0x1F4A, "GREEK CAPITAL LETTER OMICRON WITH ", "PSILI AND VARIA;DASIA AND VARIA;PSILI AND OXIA;DASIA AND OXIA"⟩,
  ⟨0x1F50, "GREEK SMALL LETTER UPSILON WITH ", "PSILI;DASIA;PSILI AND VARIA;DASIA AND VARIA;PSILI AND OXIA"⟩,
  ⟨0x1F55, "GREEK SMALL LETTER UPSILON WITH ", "DASIA AND OXIA;PSILI AND PERISPOMENI;DASIA AND PERISPOMENI"⟩,
  ⟨0x1F59, "", "GREEK CAPITAL LETTER UPSILON WITH DASIA"⟩,
  ⟨0x1F5B, "", "GREEK CAPITAL LETTER UPSILON WITH DASIA AND VARIA"⟩,
  ⟨0x1F5D, "", "GREEK CAPITAL LETTER UPSILON WITH DASIA AND OXIA"⟩,
  ⟨0x1F5F, "", "GREEK CAPITAL LETTER UPSILON WITH DASIA AND PERISPOMENI"⟩,
  ⟨0x1F60, "GREEK SMALL LETTER OMEGA WITH ", "PSILI;DASIA;PSILI AND VARIA;DASIA AND VARIA;PSILI AND OXIA"⟩,
  ⟨0x1F65, "GREEK SMALL LETTER OMEGA WITH ", "DASIA AND OXIA;PSILI AND PERISPOMENI;DASIA AND PERISPOMENI"⟩,
  ⟨0x1F68, "GREEK CAPITAL LETTER OMEGA WITH ", "PSILI;DASIA;PSILI AND VARIA;DASIA AND VARIA;PSILI AND OXIA"⟩,
  ⟨0x1F6D, "GREEK CAPITAL LETTER OMEGA WITH ", "DASIA AND OXIA;PSILI AND PERISPOMENI;DASIA AND PERISPOMENI"⟩,
  ⟨0x1F70, "GREEK SMALL LETTER ", "ALPHA WITH VARIA;ALPHA WITH OXIA;EPSILON WITH VARIA"⟩,
  ⟨0x1F73, "GREEK SMALL LETTER ", "EPSILON WITH OXIA;ETA WITH VARIA;ETA WITH OXIA;IOTA WITH VARIA;IOTA WITH OXIA"⟩,
  ⟨0x1F78, "GREEK SMALL LETTER OMICRON WITH ", "VARIA;OXIA"⟩,
  ⟨0x1F7A, "GREEK SMALL LETTER ", "UPSILON WITH VARIA;UPSILON WITH OXIA;OMEGA WITH VARIA;OMEGA WITH OXIA"⟩,
  ⟨0x1F80, "GREEK SMALL LETTER ALPHA WITH ", "PSILI AND YPOGEGRAMMENI;DASIA AND YPOGEGRAMMENI"⟩,
  ⟨0x1F82, "GREEK SMALL LETTER ALPHA WITH ", "PSILI AND VARIA AND YPOGEGRAMMENI;DASIA AND VARIA AND YPOGEGRAMMENI"⟩,
  ⟨0x1F84, "GREEK SMALL LETTER ALPHA WITH ", "PSILI AND OXIA AND YPOGEGRAMMENI;DASIA AND OXIA AND YPOGEGRAMMENI"⟩,
  ⟨0x1F86, "", "GREEK SMALL LETTER ALPHA WITH PSILI AND PERISPOMENI AND YPOGEGRAMMENI"⟩,
  ⟨0x1F87, "", "GREEK SMALL LETTER ALPHA WITH DASIA AND PERISPOMENI AND YPOGEGRAMMENI"⟩,
  ⟨0x1F88, "", "GREEK CAPITAL LETTER ALPHA WITH PSILI AND PROSGEGRAMMENI"⟩,
  ⟨0x1F89, "GREEK CAPITAL LETTER ALPHA WITH ", "DASIA AND PROSGEGRAMMENI;PSILI AND VARIA AND PROSGEGRAMMENI"⟩,
  ⟨0x1F8B, "", "GREEK CAPITAL LETTER ALPHA WITH DASIA AND VARIA AND PROSGEGRAMMENI"⟩,
  ⟨0x1F8C, "GREEK CAPITAL LETTER ALPHA WITH ", "PSILI AND OXIA AND PROSGEGRAMMENI;DASIA AND OXIA AND PROSGEGRAMMENI"⟩,
  ⟨0x1F8E, "", "GREEK CAPITAL LETTER ALPHA WITH PSILI AND PERISPOMENI AND PROSGEGRAMMENI"⟩,
  ⟨0x1F8F, "", "GREEK CAPITAL LETTER ALPHA WITH DASIA AND PERISPOMENI AND PROSGEGRAMMENI"⟩,
  ⟨0x1F90, "", "GREEK SMALL LETTER ETA WITH PSILI AND YPOGEGRAMMENI"⟩,
  ⟨0x1F91, "GREEK SMALL LETTER ETA WITH ", "DASIA AND YPOGEGRAMMENI;PSILI AND VARIA AND YPOGEGRAMMENI"⟩,
  ⟨0x1F93, "GREEK SMALL LETTER ETA WITH ", "DASIA AND VARIA AND YPOGEGRAMMENI;PSILI AND OXIA AND YPOGEGRAMMENI"⟩,
  ⟨0x1F95, "GREEK SMALL LETTER ETA WITH ", "DASIA AND OXIA AND YPOGEGRAMMENI;PSILI AND PERISPOMENI AND YPOGEGRAMMENI"⟩,
  ⟨0x1F97, "", "GREEK SMALL LETTER ETA WITH DASIA AND PERISPOMENI AND YPOGEGRAMMENI"⟩,
  ⟨0x1F98, "GREEK CAPITAL LETTER ETA WITH ", "PSILI AND PROSGEGRAMMENI;DASIA AND PROSGEGRAMMENI"⟩,
  ⟨0x1F9A, "GREEK CAPITAL LETTER ETA WITH ", "PSILI AND VARIA AND PROSGEGRAMMENI;DASIA AND VARIA AND PROSGEGRAMMENI"⟩,
  ⟨0x1F9C, "GREEK CAPITAL LETTER ETA WITH ", "PSILI AND OXIA AND PROSGEGRAMMENI;DASIA AND OXIA AND PROSGEGRAMMENI"⟩,
  ⟨0x1F9E, "", "GREEK CAPITAL LETTER ETA WITH PSILI AND PERISPOMENI AND PROSGEGRAMMENI"⟩,
  ⟨0x1F9F, "", "GREEK CAPITAL LETTER ETA WITH DASIA AND PERISPOMENI AND PROSGEGRAMMENI"⟩,
  ⟨0x1FA0, "GREEK SMALL LETTER OMEGA WITH ", "PSILI AND YPOGEGRAMMENI;DASIA AND YPOGEGRAMMENI"⟩,
  ⟨0x1FA2, "GREEK SMALL LETTER OMEGA WITH ", "PSILI AND VARIA AND YPOGEGRAMMENI;DASIA AND VARIA AND YPOGEGRAMMENI"⟩,
  ⟨0x1FA4, "GREEK SMALL LETTER OMEGA WITH ", "PSILI AND OXIA AND YPOGEGRAMMENI;DASIA AND OXIA AND YPOGEGRAMMENI"⟩,
  ⟨0x1FA6, "", "GREEK SMALL LETTER OMEGA WITH PSILI AND PERISPOMENI AND YPOGEGRAMMENI"⟩,
  ⟨0x1FA7, "", "GREEK SMALL LETTER OMEGA WITH DASIA AND PERISPOMENI AND YPOGEGRAMMENI"⟩,
  ⟨0x1FA8, "", "GREEK CAPITAL LETTER OMEGA WITH PSILI AND PROSGEGRAMMENI"⟩,
  ⟨0x1FA9, "GREEK CAPITAL LETTER OMEGA WITH ", "DASIA AND PROSGEGRAMMENI;PSILI AND VARIA AND PROSGEGRAMMENI"⟩,
  ⟨0x1FAB, "", "GREEK CAPITAL LETTER OMEGA WITH DASIA AND VARIA AND PROSGEGRAMMENI"⟩,
  ⟨0x1FAC, "GREEK CAPITAL LETTER OMEGA WITH ", "PSILI AND OXIA AND PROSGEGRAMMENI;DASIA AND OXIA AND PROSGEGRAMMENI"⟩,
  ⟨0x1FAE, "", "GREEK CAPITAL LETTER OMEGA WITH PSILI AND PERISPOMENI AND PROSGEGRAMMENI"⟩,
  ⟨0x1FAF, "", "GREEK CAPITAL LETTER OMEGA WITH DASIA AND PERISPOMENI AND PROSGEGRAMMENI"⟩,
  ⟨0x1FB0, "", "GREEK SMALL LETTER ALPHA WITH VRACHY"⟩,
  ⟨0x1FB1, "GREEK SMALL LETTER ALPHA WITH ", "MACRON;VARIA AND YPOGEGRAMMENI;YPOGEGRAMMENI;OXIA AND YPOGEGRAMMENI"⟩,
  ⟨0x1FB6, "GREEK SMALL LETTER ALPHA WITH ", "PERISPOMENI;PERISPOMENI AND YPOGEGRAMMENI"⟩,
  ⟨0x1FB8, "GREEK CAPITAL LETTER ALPHA WITH ", "VRACHY;MACRON;VARIA;OXIA;PROSGEGRAMMENI"⟩,
  ⟨0x1FBD, "GREEK ", "KORONIS;PROSGEGRAMMENI;PSILI;PERISPOMENI;DIALYTIKA AND PERISPOMENI"⟩,
  ⟨0x1FC2, "GREEK SMALL LETTER ETA WITH ", "VARIA AND YPOGEGRAMMENI;YPOGEGRAMMENI;OXIA AND YPOGEGRAMMENI"⟩,
  ⟨0x1FC6, "GREEK SMALL LETTER ETA WITH ", "PERISPOMENI;PERISPOMENI AND YPOGEGRAMMENI"⟩,
  ⟨0x1FC8, "GREEK CAPITAL LETTER EPSILON WITH ", "VARIA;OXIA"⟩,
  ⟨0x1FCA, "GREEK CAPITAL LETTER ETA WITH ", "VARIA;OXIA;PROSGEGRAMMENI"⟩,
  ⟨0x1FCD, "GREEK PSILI AND ", "VARIA;OXIA;PERISPOMENI"⟩,
  ⟨0x1FD0, "GREEK SMALL LETTER IOTA WITH ", "VRACHY;MACRON;DIALYTIKA AND VARIA;DIALYTIKA AND OXIA"⟩,
  ⟨0x1FD6, "GREEK SMALL LETTER IOTA WITH ", "PERISPOMENI;DIALYTIKA AND PERISPOMENI"⟩,
  ⟨0x1FD8, "GREEK CAPITAL LETTER IOTA WITH ", "VRACHY;MACRON;VARIA;OXIA"⟩,
  ⟨0x1FDD, "GREEK DASIA AND ", "VARIA;OXIA;PERISPOMENI"⟩,
  ⟨0x1FE0, "GREEK SMALL LETTER UPSILON WITH ", "VRACHY;MACRON;DIALYTIKA AND VARIA;DIALYTIKA AND OXIA"⟩,
  ⟨0x1FE4, "GREEK SMALL LETTER RHO WITH ", "PSILI;DASIA"⟩,
  ⟨0x1FE6, "GREEK SMALL LETTER UPSILON WITH ", "PERISPOMENI;DIALYTIKA AND PERISPOMENI"⟩,
  ⟨0x1FE8, "GREEK CAPITAL LETTER UPSILON WITH ", "VRACHY;MACRON;VARIA;OXIA"⟩,
  ⟨0x1FEC, "GREEK ", "CAPITAL LETTER RHO WITH DASIA;DIALYTIKA AND VARIA;DIALYTIKA AND OXIA;VARIA"⟩,
  ⟨0x1FF2, "GREEK SMALL LETTER OMEGA WITH ", "VARIA AND YPOGEGRAMMENI;YPOGEGRAMMENI;OXIA AND YPOGEGRAMMENI"⟩,
  ⟨0x1FF6, "GREEK SMALL LETTER OMEGA WITH ", "PERISPOMENI;PERISPOMENI AND YPOGEGRAMMENI"⟩,
  ⟨0x1FF8, "GREEK CAPITAL LETTER OMICRON WITH ", "VARIA;OXIA"⟩,
  ⟨0x1FFA, "GREEK CAPITAL LETTER OMEGA WITH ", "VARIA;OXIA;PROSGEGRAMMENI"⟩,
  ⟨0x1FFD, "GREEK ", "OXIA;DASIA"⟩]

end HtmlTemplate.CharName
