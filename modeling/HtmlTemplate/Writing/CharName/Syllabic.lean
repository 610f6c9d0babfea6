import HtmlTemplate.Writing.CharName.Basic

/-!
# Names of characters from U+16000 to U+1CFFF

Scripts of syllables, and notations of sounds.
-/

namespace HtmlTemplate.CharName

/-- The names of these characters. -/
def syllabicNames : List NameRun := [
  ⟨0x16800, "BAMUM LETTER PHASE-A ", "NGKUE MFON;GBIEE FON;PON MFON PIPAEMGBIEE;PON MFON PIPAEMBA"⟩,
  ⟨0x16804, "BAMUM LETTER PHASE-A ", "NAA MFON;SHUENSHUET;TITA MFON;NZA MFON;SHINDA PA NJI;PON PA NJI PIPAEMGBIEE"⟩,
  ⟨0x1680A, "BAMUM LETTER PHASE-A ", "PON PA NJI PIPAEMBA;MAEMBGBIEE;TU MAEMBA;NGANGU;MAEMVEUX;MANSUAE;MVEUAENGAM"⟩,
  ⟨0x16811, "BAMUM LETTER PHASE-A ", "SEUNYAM;NTOQPEN;KEUKEUTNDA;NKINDI;SUU;NGKUENZEUM;LAPAQ;LET KUT;NTAP MFAA"⟩,
  ⟨0x1681A, "BAMUM LETTER PHASE-A ", "MAEKEUP;PASHAE;GHEUAERAE;PAMSHAE;MON NGGEUAET;NZUN MEUT;U YUQ NAE;GHEUAEGHEUAE"⟩,
  ⟨0x16822, "BAMUM LETTER PHASE-A ", "NTAP NTAA;SISA;MGBASA;MEUNJOMNDEUQ;MOOMPUQ;KAFA;PA LEERAEWA;NDA LEERAEWA;PET"⟩,
  ⟨0x1682B, "BAMUM LETTER PHASE-A ", "MAEMKPEN;NIKA;PUP;TUAEP;LUAEP;SONJAM;TEUTEUWEN;MAENYI;KET;NDAANGGEUAET;KUOQ"⟩,
  ⟨0x16836, "BAMUM LETTER PHASE-A ", "MOOMEUT;SHUM;LOMMAE;FIRI;ROM;KPOQ;SOQ;MAP PIEET;SHIRAE;NTAP;SHOQ NSHUT YUM"⟩,
  ⟨0x16841, "BAMUM LETTER PHASE-A ", "NYIT MONGKEUAEQ;PAARAE;NKAARAE;UNKNOWN;NGGEN;MAESI;NJAM;MBANYI;NYET;TEUAEN;SOT"⟩,
  ⟨0x1684C, "BAMUM LETTER PHASE-", "A PAAM;A NSHIEE;A MAEM;A NYI;A KAQ;A NSHA;A VEE;A LU;A NEN;A NAQ;A MBAQ;B NSHUET"⟩,
  ⟨0x16858, "BAMUM LETTER PHASE-B ", "TU MAEMGBIEE;SIEE;SET TU;LOM NTEUM;MBA MAELEE;KIEEM;YEURAE;MBAARAE;KAM;PEESHI"⟩,
  ⟨0x16862, "BAMUM LETTER PHASE-B ", "YAFU LEERAEWA;LAM NSHUT NYAM;NTIEE SHEUOQ;NDU NJAA;GHEUGHEUAEM;PIT;TU NSIEE"⟩,
  ⟨0x16869, "BAMUM LETTER PHASE-B ", "SHET NJAQ;SHEUAEQTU;MFON TEUAEQ;MBIT MBAAKET;NYI NTEUM;KEUPUQ;GHEUGHEN"⟩,
  ⟨0x16870, "BAMUM LETTER PHASE-B ", "KEUYEUX;LAANAE;PARUM;VEUM;NGKINDI MVOP;NGGEU MBU;WUAET;SAKEUAE;TAAM;MEUQ"⟩,
  ⟨0x1687A, "BAMUM LETTER PHASE-B ", "NGGUOQ;NGGUOQ LARGE;MFIYAQ;SUE;MBEURI;MONTIEEN;NYAEMAE;PUNGAAM;MEUT NGGEET"⟩,
  ⟨0x16883, "BAMUM LETTER PHASE-B ", "FEUX;MBUOQ;FEE;KEUAEM;MA NJEUAENA;MA NJUQA;LET;NGGAAM;NSEN;MA;KIQ;NGOM"⟩,
  ⟨0x1688F, "BAMUM LETTER PHASE-C ", "NGKUE MAEMBA;NZA;YUM;WANGKUOQ;NGGEN;NDEUAEREE;NGKAQ;GHARAE;MBEEKEET"⟩,
  ⟨0x16898, "BAMUM LETTER PHASE-C ", "GBAYI;NYIR MKPARAQ MEUN;NTU MBIT;MBEUM;PIRIEEN;NDOMBU;MBAA CABBAGE-TREE"⟩,
  ⟨0x1689F, "BAMUM LETTER PHASE-C ", "KEUSHEUAEP;GHAP;KEUKAQ;YU MUOMAE;NZEUM;MBUE;NSEUAEN;MBIT;YEUQ;KPARAQ;KAA"⟩,
  ⟨0x168AA, "BAMUM LETTER PHASE-C ", "SEUX;NDIDA;TAASHAE;NJUEQ;TITA YUE;SUAET;NGGUAEN NYAM;VEUX;NANSANAQ;MA KEUAERI"⟩,
  ⟨0x168B4, "BAMUM LETTER PHASE-C ", "NTAA;NGGUON;LAP;MBIRIEEN;MGBASAQ;NTEUNGBA;TEUTEUX;NGGUM;FUE;NDEUT;NSA;NSHAQ"⟩,
  ⟨0x168C0, "BAMUM LETTER PHASE-C ", "BUNG;VEUAEPEN;MBERAE;RU;NJAEM;LAM;TITUAEP;NSUOT NGOM;NJEEEE;KET;NGGU;MAESI"⟩,
  ⟨0x168CC, "BAMUM LETTER PHASE-C ", "MBUAEM;LU;KUT;NJAM;NGOM;WUP;NGGUEET;NSOM;NTEN;KUOP NKAARAE;NSUN;NDAM;MA NSIEE"⟩,
  ⟨0x168D9, "BAMUM LETTER PHASE-C ", "YAA;NDAP;SHUEQ;SETFON;MBI;MAEMBA;MBANYI;KEUSEUX;MBEUX;KEUM;MBAA PICKET"⟩,
  ⟨0x168E4, "BAMUM LETTER PHASE-C ", "YUWOQ;NJEUX;MIEE;MUAE;SHIQ;KEN LAW;KEN FATIGUE;NGAQ;NAQ;LIQ;PIN;PEN;TET"⟩,
  ⟨0x168F1, "BAMUM LETTER PHASE-D ", "MBUO;WAP;NJI;MFON;NJIEE;LIEE;NJEUT;NSHEE;NGGAAMAE;NYAM;WUAEN;NGKUN;SHEE;NGKAP"⟩,
  ⟨0x168FF, "BAMUM LETTER PHASE-D ", "KEUAETMEUN;TEUT;SHEUAE;NJAP;SUE;KET;YAEMMAE;KUOM;SAP;MFEUT;NDEUX;MALEERI;MEUT"⟩,
  ⟨0x1690C, "BAMUM LETTER PHASE-D ", "SEUAEQ;YEN;NJEUAEM;KEUOT MBUAE;NGKEURI;TU;GHAA;NGKYEE;FEUFEUAET;NDEE;MGBOFUM"⟩,
  ⟨0x16917, "BAMUM LETTER PHASE-D ", "LEUAEP;NDON;MONI;MGBEUN;PUUT;MGBIEE;MFO;LUM;NSIEEP;MBAA;KWAET;NYET;TEUAEN;SOT"⟩,
  ⟨0x16925, "BAMUM LETTER PHASE-D ", "YUWOQ;KEUM;RAEM;TEEEE;NGKEUAEQ;MFEUAE;NSIEET;KEUP;PIP;PEUTAE;NYUE;LET;NGGAAM"⟩,
  ⟨0x16932, "BAMUM LETTER PHASE-D ", "MFIEE;NGGWAEN;YUOM;PAP;YUOP;NDAM;NTEUM;SUAE;KUN;NGGEUX;NGKIEE;TUOT;MEUN;KUQ"⟩,
  ⟨0x16940, "BAMUM LETTER PHASE-D ", "NSUM;TEUN;MAENJET;NGGAP;LEUM;NGGUOM;NSHUT;NJUEQ;GHEUAE;KU;REN OLD;TAE;TOQ;NYI"⟩,
  ⟨0x1694E, "BAMUM LETTER PHASE-D ", "RII;LEEEE;MEEEE;M;SUU;MU;SHII;SHEUX;KYEE;NU;SHU;NTEE;PEE;NI;SHOQ;PUQ;MVOP;LOQ"⟩,
  ⟨0x16960, "BAMUM LETTER PHASE-", "D REN MUCH;D TI;D NTUU;D MBAA SEVEN;D SAQ;D FAA;E NDAP;E TOON;E MBEUM;E LAP"⟩,
  ⟨0x1696A, "BAMUM LETTER PHASE-E ", "VOM;LOON;PAA;SOM;RAQ;NSHUOP;NDUN;PUAE;TAM;NGKA;KPEUX;WUO;SEE;NGGEUAET;PAAM;TOO"⟩,
  ⟨0x1697A, "BAMUM LETTER PHASE-E ", "KUOP;LOM;NSHIEE;NGOP;MAEM;NGKEUX;NGOQ;NSHUE;RIMGBA;NJEUX;PEEM;SAA;NGGURAE;MGBA"⟩,
  ⟨0x16988, "BAMUM LETTER PHASE-E ", "GHEUX;NGKEUAEM;NJAEMLI;MAP;LOOT;NGGEEEE;NDIQ;TAEN NTEUM;SET;PUM;NDAA SOFTNESS"⟩,
  ⟨0x16993, "BAMUM LETTER PHASE-E ", "NGGUAESHAE NYAM;YIEE;GHEUN;TUAE;YEUAE;PO;TUMAE;KEUAE;SUAEN;TEUAEQ;VEUAE;WEUX"⟩,
  ⟨0x1699F, "BAMUM LETTER PHASE-E ", "LAAM;PU;TAAQ;GHAAMAE;NGEUREUT;SHEUAEQ;MGBEN;MBEE;NZAQ;NKOM;GBET;TUM;KUET;YAP"⟩,
  ⟨0x169AD, "BAMUM LETTER PHASE-E ", "NYI CLEAVER;YIT;MFEUQ;NDIAQ;PIEEQ;YUEQ;LEUAEM;FUE;GBEUX;NGKUP;KET;MAE;NGKAAMI"⟩,
  ⟨0x169BA, "BAMUM LETTER PHASE-E ", "GHET;FA;NTUM;PEUT;YEUM;NGGEUAE;NYI BETWEEN;NZUQ;POON;MIEE;FUET;NAE;MUAE;GHEUAE"⟩,
  ⟨0x169C8, "BAMUM LETTER PHASE-E ", "FU I;MVI;PUAQ;NGKUM;KUT;PIET;NTAP;YEUAET;NGGUP;PA PEOPLE;FU CALL;FOM;NJEE;A"⟩,
  ⟨0x169D6, "BAMUM LETTER PHASE-E ", "TOQ;O;I;LAQ;PA PLURAL;TAA;TAQ;NDAA MY HOUSE;SHIQ;YEUX;NGUAE;YUAEN;YOQ SWIMMING"⟩,
  ⟨0x169E3, "BAMUM LETTER PHASE-E ", "YOQ COVER;YUQ;YUN;KEUX;PEUX;NJEE EPOCH;PUE;WUE;FEE;VEE;LU;MI;REUX;RAE"⟩,
  ⟨0x169F1, "BAMUM LETTER PHASE-E ", "NGUAET;NGA;SHO;SHOQ;FU REMEDY;NA;PI;LOQ;KO;MEN;MA;MAQ;TEU;KI;MON;TEN;FAQ;GHOM"⟩,
  ⟨0x16A03, "BAMUM LETTER PHASE-F ", "KA;U;KU;EE;REE;TAE;NYI;LA;RII;RIEE;MEEEE;TAA;NDAA;NJAEM;M;SUU;SHII;SI"⟩,
  ⟨0x16A15, "BAMUM LETTER PHASE-F ", "SEUX;KYEE;KET;NUAE;NU;NJUAE;YOQ;SHU;YA;NSHA;PEUX;NTEE;WUE;PEE;RU;NI;REUX;KEN"⟩,
  ⟨0x16A27, "BAMUM LETTER PHASE-F ", "NGKWAEN;NGGA;SHO;PUAE;FOM;WA;LI;LOQ;KO;MBEN;REN;MA;MO;MBAA;TET;KPA;SAMBA;VUEQ"⟩,
  ⟨0x16A40, "MRO LETTER ", "TA;NGI;YO;MIM;BA;DA;A"⟩,
  ⟨0x16A47, "MRO LETTER ", "PHI;KHAI;HAO;DAI;CHU;KEAAE;OL;MAEM;NIN;PA;OO;O;RO;SHI;THEA;EA;WA;E;KO;LAN;LA;HAI;RI;TEK"⟩,
  ⟨0x16A60, "MRO DIGIT ", "ZERO;ONE;TWO;THREE;FOUR;FIVE;SIX;SEVEN;EIGHT;NINE"⟩,
  ⟨0x16A6E, "MRO ", "DANDA;DOUBLE DANDA"⟩,
  ⟨0x16A70, "TANGSA LETTER ", "OZ;OC;OQ;OX;AZ;AC;AQ;AX;VZ;VC;VQ;VX;EZ;EC;EQ;EX"⟩,
  ⟨0x16A80, "TANGSA LETTER ", "IZ;IC;IQ;IX;UZ;UC;UQ;UX;AWZ;AWC;AWQ;AWX;UIZ;UIC;UIQ;UIX;FINAL NG;LONG UEX;SHORT UEZ"⟩,
  ⟨0x16A93, "TANGSA LETTER ", "SHORT AWX;UEC;UEZ;UEQ;UEX;UIUZ;UIUC;UIUQ;UIUX;MZ;MC;MQ;MX;KA;KHA;GA;NGA;SA;YA;WA"⟩,
  ⟨0x16AA7, "TANGSA LETTER ", "PA;NYA;PHA;BA;MA;NA;HA;LA;HTA;TA;DA;RA;NHA;SHA;CA;TSA;GHA;HTTA;THA;XA;FA;DHA;CHA;ZA"⟩,
  ⟨0x16AC0, "TANGSA DIGIT ", "ZERO;ONE;TWO;THREE;FOUR;FIVE;SIX;SEVEN;EIGHT;NINE"⟩,
  ⟨0x16AD0, "BASSA VAH LETTER ", "ENNI;KA;SE;FA;MBE;YIE"⟩,
  ⟨0x16AD6, "BASSA VAH LETTER ", "GAH;DHII;KPAH;JO;HWAH;WA;ZO;GBU;DO;CE;UWU;TO;BA;VU;YEIN;PA;WADDA;A;O;OO;U;EE;E;I"⟩,
  ⟨0x16AF0, "BASSA VAH COMBINING ", "HIGH TONE;LOW TONE;MID TONE;LOW-MID TONE;HIGH-LOW TONE"⟩,
  ⟨0x16AF5, "", "BASSA VAH FULL STOP"⟩,
  ⟨0x16B00, "PAHAWH HMONG VOWEL ", "KEEB;KEEV;KIB;KIV;KAUB;KAUV;KUB;KUV;KEB;KEV;KAIB"⟩,
  ⟨0x16B0B, "PAHAWH HMONG VOWEL ", "KAIV;KOOB;KOOV;KAWB;KAWV;KUAB;KUAV;KOB;KOV;KIAB;KIAV;KAB;KAV;KWB;KWV;KAAB;KAAV"⟩,
  ⟨0x16B1C, "PAHAWH HMONG CONSONANT ", "VAU;NTSAU;LAU;HAU"⟩,
  ⟨0x16B20, "PAHAWH HMONG CONSONANT ", "NLAU;RAU;NKAU;QHAU;YAU;HLAU;MAU;CHAU;NCHAU;HNAU;PLHAU;NTHAU;NAU;AU;XAU;CAU"⟩,
  ⟨0x16B30, "PAHAWH HMONG MARK CIM ", "TUB;SO;KES;KHAV;SUAM;HOM;TAUM"⟩,
  ⟨0x16B37, "PAHAWH HMONG SIGN ", "VOS THOM;VOS TSHAB CEEB;CIM CHEEM;VOS THIAB;VOS FEEM;XYEEM NTXIV;XYEEM RHO"⟩,
  ⟨0x16B3E, "PAHAWH HMONG SIGN ", "XYEEM TOV;XYEEM FAIB;VOS SEEV;MEEJ SUAB;VOS NRUA;IB YAM;XAUS;CIM TSOV ROG"⟩,
  ⟨0x16B50, "PAHAWH HMONG DIGIT ", "ZERO;ONE;TWO;THREE;FOUR;FIVE;SIX;SEVEN;EIGHT;NINE"⟩,
  ⟨0x16B5B, "PAHAWH HMONG NUMBER ", "TENS;HUNDREDS;TEN THOUSANDS;MILLIONS;HUNDRED MILLIONS;TEN BILLIONS;TRILLIONS"⟩,
  ⟨0x16B63, "PAHAWH HMONG SIGN ", "VOS LUB;XYOO;HLI;THIRD-STAGE HLI"⟩,
  ⟨0x16B67, "PAHAWH HMONG SIGN ", "ZWJ THAJ;HNUB;NQIG;XIAB;NTUJ;AV;TXHEEJ CEEV;MEEJ TSEEB;TAU;LOS;MUS"⟩,
  ⟨0x16B72, "PAHAWH HMONG SIGN CIM ", "HAIS LUS NTOG NTOG;CUAM TSHOOJ;TXWV;TXWV CHWV;PUB DAWB;NRES TOS"⟩,
  ⟨0x16B7D, "PAHAWH HMONG CLAN SIGN ", "TSHEEJ;YEEG;LIS"⟩,
  ⟨0x16B80, "PAHAWH HMONG CLAN SIGN ", "LAUJ;XYOOJ;KOO;HAWJ;MUAS;THOJ;TSAB;PHAB;KHAB;HAM;VAJ;FAJ;YAJ;TSWB;KWM;VWJ"⟩,
  ⟨0x16E40, "MEDEFAIDRIN CAPITAL LETTER ", "M;S;V;W;ATIU;Z;KP;P;T;G;F;I;K;A;J;E;B;C;U;YU;L;Q;HP;NY;X;D;OE;N;R;O;AI;Y"⟩,
  ⟨0x16E60, "MEDEFAIDRIN SMALL LETTER ", "M;S;V;W;ATIU;Z;KP;P;T;G;F;I;K;A;J;E;B;C;U;YU;L;Q;HP;NY;X;D;OE;N;R;O;AI;Y"⟩,
  ⟨0x16E80, "MEDEFAIDRIN DIGIT ", "ZERO;ONE;TWO;THREE;FOUR;FIVE;SIX;SEVEN;EIGHT;NINE"⟩,
  ⟨0x16E8A, "MEDEFAIDRIN NUMBER ", "TEN;ELEVEN;TWELVE;THIRTEEN;FOURTEEN;FIFTEEN;SIXTEEN;SEVENTEEN;EIGHTEEN;NINETEEN"⟩,
  ⟨0x16E94, "MEDEFAIDRIN DIGIT ", "ONE ALTERNATE FORM;TWO ALTERNATE FORM;THREE ALTERNATE FORM"⟩,
  ⟨0x16E97, "MEDEFAIDRIN ", "COMMA;FULL STOP;SYMBOL AIVA;EXCLAMATION OH"⟩,
  ⟨0x16F00, "MIAO LETTER ", "PA;BA;YI PA;PLA;MA"⟩,
  ⟨0x16F05, "MIAO LETTER ", "MHA;ARCHAIC MA;FA;VA;VFA;TA;DA;YI TTA;YI TA;TTA;DDA;NA;NHA;YI NNA;ARCHAIC NA;NNA;NNHA"⟩,
  ⟨0x16F16, "MIAO LETTER ", "LA;LYA;LHA;LHYA;TLHA;DLHA;TLHYA;DLHYA;KA;GA;YI KA;QA;QGA;NGA;NGHA;ARCHAIC NGA;HA;XA;GHA"⟩,
  ⟨0x16F29, "MIAO LETTER ", "GHHA;TSSA;DZZA;NYA;NYHA;TSHA;DZHA;YI TSHA;YI DZHA;REFORMED TSHA;SHA;SSA;ZHA;ZSHA;TSA"⟩,
  ⟨0x16F38, "MIAO LETTER ", "DZA;YI TSA;SA;ZA;ZSA;ZZA;ZZSA;ARCHAIC ZZA;ZZYA;ZZSYA;WA;AH;HHA;BRI;SYI;DZYI;TE;TSE;RTE"⟩,
  ⟨0x16F4F, "MIAO ", "SIGN CONSONANT MODIFIER BAR;LETTER NASALIZATION;SIGN ASPIRATION"⟩,
  ⟨0x16F52, "MIAO SIGN REFORMED ", "VOICING;ASPIRATION"⟩,
  ⟨0x16F54, "MIAO VOWEL SIGN ", "A;AA;AHH;AN;ANG;O"⟩,
  ⟨0x16F5A, "MIAO VOWEL SIGN ", "OO;WO;W;E;EN;ENG;OEY;I;IA;IAN;IANG;IO;IE;II;IU;ING;U;UA;UAN;UANG;UU;UEI;UNG;Y;YI;AE"⟩,
  ⟨0x16F74, "MIAO VOWEL SIGN ", "AEE;ERR;ROUNDED ERR;ER;ROUNDED ER;AI;EI;AU;OU;N;NG;UOG;YUI;OG;OER;VW;IG;EA;IONG;UI"⟩,
  ⟨0x16F8F, "MIAO TONE ", "RIGHT;TOP RIGHT;ABOVE;BELOW"⟩,
  ⟨0x16F93, "MIAO LETTER TONE-", "2;3;4;5;6;7;8"⟩,
  ⟨0x16F9A, "MIAO LETTER REFORMED TONE-", "1;2;4;5;6;8"⟩,
  ⟨0x16FE0, "", "TANGUT ITERATION MARK"⟩,
  ⟨0x16FE1, "", "NUSHU ITERATION MARK;OLD CHINESE HOOK MARK;OLD CHINESE ITERATION MARK;KHITAN SMALL SCRIPT FILLER"⟩,
  ⟨0x16FF0, "VIETNAMESE ALTERNATE READING MARK ", "CA;NHAY"⟩,
  ⟨0x18800, "TANGUT COMPONENT-", "001;002;003;004;005;006;007;008"⟩,
  ⟨0x18808, "TANGUT COMPONENT-", "009;010;011;012;013;014;015;016;017;018;019;020;021;022;023;024;025;026;027;028"⟩,
  ⟨0x1881C, "TANGUT COMPONENT-", "029;030;031;032;033;034;035;036;037;038;039;040;041;042;043;044;045;046;047;048"⟩,
  ⟨0x18830, "TANGUT COMPONENT-", "049;050;051;052;053;054;055;056;057;058;059;060;061;062;063;064;065;066;067;068"⟩,
  ⟨0x18844, "TANGUT COMPONENT-", "069;070;071;072;073;074;075;076;077;078;079;080;081;082;083;084;085;086;087;088"⟩,
  ⟨0x18858, "TANGUT COMPONENT-", "089;090;091;092;093;094;095;096;097;098;099;100;101;102;103;104;105;106;107;108"⟩,
  ⟨0x1886C, "TANGUT COMPONENT-", "109;110;111;112;113;114;115;116;117;118;119;120;121;122;123;124;125;126;127;128"⟩,
  ⟨0x18880, "TANGUT COMPONENT-", "129;130;131;132;133;134;135;136;137;138;139;140;141;142;143;144;145;146;147;148"⟩,
  ⟨0x18894, "TANGUT COMPONENT-", "149;150;151;152;153;154;155;156;157;158;159;160;161;162;163;164;165;166;167;168"⟩,
  ⟨0x188A8, "TANGUT COMPONENT-", "169;170;171;172;173;174;175;176;177;178;179;180;181;182;183;184;185;186;187;188"⟩,
  ⟨0x188BC, "TANGUT COMPONENT-", "189;190;191;192;193;194;195;196;197;198;199;200;201;202;203;204;205;206;207;208"⟩,
  ⟨0x188D0, "TANGUT COMPONENT-", "209;210;211;212;213;214;215;216;217;218;219;220;221;222;223;224;225;226;227;228"⟩,
  ⟨0x188E4, "TANGUT COMPONENT-", "229;230;231;232;233;234;235;236;237;238;239;240;241;242;243;244;245;246;247;248"⟩,
  ⟨0x188F8, "TANGUT COMPONENT-", "249;250;251;252;253;254;255;256;257;258;259;260;261;262;263;264;265;266;267;268"⟩,
  ⟨0x1890C, "TANGUT COMPONENT-", "269;270;271;272;273;274;275;276;277;278;279;280;281;282;283;284;285;286;287;288"⟩,
  ⟨0x18920, "TANGUT COMPONENT-", "289;290;291;292;293;294;295;296;297;298;299;300;301;302;303;304;305;306;307;308"⟩,
  ⟨0x18934, "TANGUT COMPONENT-", "309;310;311;312;313;314;315;316;317;318;319;320;321;322;323;324;325;326;327;328"⟩,
  ⟨0x18948, "TANGUT COMPONENT-", "329;330;331;332;333;334;335;336;337;338;339;340;341;342;343;344;345;346;347;348"⟩,
  ⟨0x1895C, "TANGUT COMPONENT-", "349;350;351;352;353;354;355;356;357;358;359;360;361;362;363;364;365;366;367;368"⟩,
  ⟨0x18970, "TANGUT COMPONENT-", "369;370;371;372;373;374;375;376;377;378;379;380;381;382;383;384;385;386;387;388"⟩,
  ⟨0x18984, "TANGUT COMPONENT-", "389;390;391;392;393;394;395;396;397;398;399;400;401;402;403;404;405;406;407;408"⟩,
  ⟨0x18998, "TANGUT COMPONENT-", "409;410;411;412;413;414;415;416;417;418;419;420;421;422;423;424;425;426;427;428"⟩,
  ⟨0x189AC, "TANGUT COMPONENT-", "429;430;431;432;433;434;435;436;437;438;439;440;441;442;443;444;445;446;447;448"⟩,
  ⟨0x189C0, "TANGUT COMPONENT-", "449;450;451;452;453;454;455;456;457;458;459;460;461;462;463;464;465;466;467;468"⟩,
  ⟨0x189D4, "TANGUT COMPONENT-", "469;470;471;472;473;474;475;476;477;478;479;480;481;482;483;484;485;486;487;488"⟩,
  ⟨0x189E8, "TANGUT COMPONENT-", "489;490;491;492;493;494;495;496;497;498;499;500;501;502;503;504;505;506;507;508"⟩,
  ⟨0x189FC, "TANGUT COMPONENT-", "509;510;511;512;513;514;515;516;517;518;519;520;521;522;523;524;525;526;527;528"⟩,
  ⟨0x18A10, "TANGUT COMPONENT-", "529;530;531;532;533;534;535;536;537;538;539;540;541;542;543;544;545;546;547;548"⟩,
  ⟨0x18A24, "TANGUT COMPONENT-", "549;550;551;552;553;554;555;556;557;558;559;560;561;562;563;564;565;566;567;568"⟩,
  ⟨0x18A38, "TANGUT COMPONENT-", "569;570;571;572;573;574;575;576;577;578;579;580;581;582;583;584;585;586;587;588"⟩,
  ⟨0x18A4C, "TANGUT COMPONENT-", "589;590;591;592;593;594;595;596;597;598;599;600;601;602;603;604;605;606;607;608"⟩,
  ⟨0x18A60, "TANGUT COMPONENT-", "609;610;611;612;613;614;615;616;617;618;619;620;621;622;623;624;625;626;627;628"⟩,
  ⟨0x18A74, "TANGUT COMPONENT-", "629;630;631;632;633;634;635;636;637;638;639;640;641;642;643;644;645;646;647;648"⟩,
  ⟨0x18A88, "TANGUT COMPONENT-", "649;650;651;652;653;654;655;656;657;658;659;660;661;662;663;664;665;666;667;668"⟩,
  ⟨0x18A9C, "TANGUT COMPONENT-", "669;670;671;672;673;674;675;676;677;678;679;680;681;682;683;684;685;686;687;688"⟩,
  ⟨0x18AB0, "TANGUT COMPONENT-", "689;690;691;692;693;694;695;696;697;698;699;700;701;702;703;704;705;706;707;708"⟩,
  ⟨0x18AC4, "TANGUT COMPONENT-", "709;710;711;712;713;714;715;716;717;718;719;720;721;722;723;724;725;726;727;728"⟩,
  ⟨0x18AD8, "TANGUT COMPONENT-", "729;730;731;732;733;734;735;736;737;738;739;740;741;742;743;744;745;746;747;748"⟩,
  ⟨0x18AEC, "TANGUT COMPONENT-", "749;750;751;752;753;754;755;756;757;758;759;760;761;762;763;764;765;766;767;768"⟩,
  ⟨0x1AFF0, "KATAKANA LETTER MINNAN TONE-", "2;3;4;5"⟩,
  ⟨0x1AFF5, "KATAKANA LETTER MINNAN TONE-", "7;8"⟩,
  ⟨0x1AFF7, "KATAKANA LETTER MINNAN NASALIZED TONE-", "1;2;3;4;5"⟩,
  ⟨0x1AFFD, "KATAKANA LETTER MINNAN NASALIZED TONE-", "7;8"⟩,
  ⟨0x1B000, "", "KATAKANA LETTER ARCHAIC E;HIRAGANA LETTER ARCHAIC YE;HENTAIGANA LETTER A-1"⟩,
  ⟨0x1B003, "HENTAIGANA LETTER ", "A-2;A-3;A-WO;I-1;I-2;I-3;I-4;U-1;U-2;U-3;U-4;U-5;E-2;E-3;E-4;E-5;E-6;O-1;O-2;O-3"⟩,
  ⟨0x1B017, "HENTAIGANA LETTER KA-", "1;2;3;4;5;6;7;8;9;10;11;KE"⟩,
  ⟨0x1B023, "HENTAIGANA LETTER KI-", "1;2;3;4;5;6;7;8"⟩,
  ⟨0x1B02B, "HENTAIGANA LETTER ", "KU-1;KU-2;KU-3;KU-4;KU-5;KU-6;KU-7;KE-1;KE-2;KE-3;KE-4;KE-5;KE-6;KO-1;KO-2"⟩,
  ⟨0x1B03A, "HENTAIGANA LETTER ", "KO-3;KO-KI;SA-1;SA-2;SA-3;SA-4;SA-5;SA-6;SA-7;SA-8;SI-1;SI-2;SI-3;SI-4;SI-5;SI-6"⟩,
  ⟨0x1B04A, "HENTAIGANA LETTER SU-", "1;2;3;4;5;6;7;8"⟩,
  ⟨0x1B052, "HENTAIGANA LETTER ", "SE-1;SE-2;SE-3;SE-4;SE-5;SO-1;SO-2;SO-3;SO-4;SO-5;SO-6;SO-7"⟩,
  ⟨0x1B05E, "HENTAIGANA LETTER ", "TA-1;TA-2;TA-3;TA-4;TI-1;TI-2;TI-3;TI-4;TI-5;TI-6;TI-7;TU-1;TU-2;TU-3;TU-4;TU-TO"⟩,
  ⟨0x1B06E, "HENTAIGANA LETTER TE-", "1;2;3;4;5;6;7;8;9"⟩,
  ⟨0x1B077, "HENTAIGANA LETTER TO-", "1;2;3;4;5;6;RA"⟩,
  ⟨0x1B07E, "HENTAIGANA LETTER NA-", "1;2;3;4;5;6;7;8;9"⟩,
  ⟨0x1B087, "HENTAIGANA LETTER NI-", "1;2;3;4;5;6;7;TE"⟩,
  ⟨0x1B08F, "HENTAIGANA LETTER ", "NU-1;NU-2;NU-3;NE-1;NE-2;NE-3;NE-4;NE-5;NE-6;NE-KO;NO-1;NO-2;NO-3;NO-4;NO-5"⟩,
  ⟨0x1B09E, "HENTAIGANA LETTER HA-", "1;2;3;4;5;6;7;8;9;10;11"⟩,
  ⟨0x1B0A9, "HENTAIGANA LETTER ", "HI-1;HI-2;HI-3;HI-4;HI-5;HI-6;HI-7;HU-1;HU-2;HU-3"⟩,
  ⟨0x1B0B3, "HENTAIGANA LETTER HE-", "1;2;3;4;5;6;7"⟩,
  ⟨0x1B0BA, "HENTAIGANA LETTER HO-", "1;2;3;4;5;6;7;8"⟩,
  ⟨0x1B0C2, "HENTAIGANA LETTER ", "MA-1;MA-2;MA-3;MA-4;MA-5;MA-6;MA-7;MI-1;MI-2;MI-3;MI-4;MI-5;MI-6;MI-7;MU-1"⟩,
  ⟨0x1B0D1, "HENTAIGANA LETTER ", "MU-2;MU-3;MU-4;ME-1;ME-2;ME-MA;MO-1;MO-2;MO-3;MO-4;MO-5;MO-6;YA-1;YA-2;YA-3;YA-4"⟩,
  ⟨0x1B0E1, "HENTAIGANA LETTER ", "YA-5;YA-YO;YU-1;YU-2;YU-3;YU-4;YO-1;YO-2;YO-3;YO-4;YO-5;YO-6;RA-1;RA-2;RA-3;RA-4"⟩,
  ⟨0x1B0F1, "HENTAIGANA LETTER ", "RI-1;RI-2;RI-3;RI-4;RI-5;RI-6;RI-7;RU-1;RU-2;RU-3;RU-4;RU-5;RU-6;RE-1;RE-2;RE-3"⟩,
  ⟨0x1B101, "HENTAIGANA LETTER ", "RE-4;RO-1;RO-2;RO-3;RO-4;RO-5;RO-6;WA-1;WA-2;WA-3;WA-4;WA-5;WI-1;WI-2;WI-3;WI-4"⟩,
  ⟨0x1B111, "HENTAIGANA LETTER ", "WI-5;WE-1;WE-2;WE-3;WE-4;WO-1;WO-2;WO-3;WO-4;WO-5;WO-6;WO-7;N-MU-MO-1;N-MU-MO-2"⟩,
  ⟨0x1B11F, "", "HIRAGANA LETTER ARCHAIC WU"⟩,
  ⟨0x1B120, "KATAKANA LETTER ARCHAIC ", "YI;YE;WU"⟩,
  ⟨0x1B150, "HIRAGANA LETTER SMALL ", "WI;WE;WO"⟩,
  ⟨0x1B164, "KATAKANA LETTER SMALL ", "WI;WE;WO;N"⟩,
  ⟨0x1BC00, "DUPLOYAN LETTER ", "H;X;P;T;F;K;L;B;D;V;G;R;P N;D S;F N;K M;R S;TH;SLOAN DH;DH;KK;SLOAN J;HL;LH;RH;M"⟩,
  ⟨0x1BC1A, "DUPLOYAN LETTER ", "N;J;S;M N;N M;J M;S J;M WITH DOT;N WITH DOT;J WITH DOT;J WITH DOTS INSIDE AND ABOVE"⟩,
  ⟨0x1BC25, "DUPLOYAN LETTER ", "S WITH DOT;S WITH DOT BELOW;M S;N S;J S;S S;M N S;N M S;J M S;S J S;J S WITH DOT"⟩,
  ⟨0x1BC30, "DUPLOYAN LETTER ", "J N;J N S;S T;S T R;S P;S P R;T S;T R S;W;WH;W R;S N;S M;K R S;G R S;S K"⟩,
  ⟨0x1BC40, "DUPLOYAN LETTER ", "S K R;A;SLOAN OW;OA;O;AOU;I;E;IE;SHORT I;UI;EE;SLOAN EH;ROMANIAN I;SLOAN EE;LONG I"⟩,
  ⟨0x1BC50, "DUPLOYAN LETTER ", "YE;U;EU;XW;U N;LONG U;ROMANIAN U;UH;SLOAN U;OOH;OW;OU;WA;WO;WI;WEI;WOW;NASAL U"⟩,
  ⟨0x1BC62, "DUPLOYAN LETTER ", "NASAL O;NASAL I;NASAL A;PERNIN AN;PERNIN AM;SLOAN EN;SLOAN AN;SLOAN ON;VOCALIC M"⟩,
  ⟨0x1BC70, "DUPLOYAN AFFIX ", "LEFT HORIZONTAL SECANT;MID HORIZONTAL SECANT"⟩,
  ⟨0x1BC72, "DUPLOYAN AFFIX ", "RIGHT HORIZONTAL SECANT;LOW VERTICAL SECANT;MID VERTICAL SECANT;HIGH VERTICAL SECANT"⟩,
  ⟨0x1BC76, "DUPLOYAN AFFIX ATTACHED ", "SECANT;LEFT-TO-RIGHT SECANT;TANGENT;TAIL;E HOOK;I HOOK;TANGENT HOOK"⟩,
  ⟨0x1BC80, "DUPLOYAN AFFIX HIGH ", "ACUTE;TIGHT ACUTE;GRAVE;LONG GRAVE;DOT;CIRCLE;LINE;WAVE;VERTICAL"⟩,
  ⟨0x1BC90, "DUPLOYAN AFFIX LOW ", "ACUTE;TIGHT ACUTE;GRAVE;LONG GRAVE;DOT;CIRCLE;LINE;WAVE;VERTICAL;ARROW"⟩,
  ⟨0x1BC9C, "DUPLOYAN ", "SIGN O WITH CROSS;THICK LETTER SELECTOR;DOUBLE MARK;PUNCTUATION CHINOOK FULL STOP"⟩,
  ⟨0x1BCA0, "SHORTHAND FORMAT ", "LETTER OVERLAP;CONTINUING OVERLAP;DOWN STEP;UP STEP"⟩,
  ⟨0x1CF00, "ZNAMENNY COMBINING MARK ", "GORAZDO NIZKO S KRYZHEM ON LEFT;NIZKO S KRYZHEM ON LEFT;TSATA ON LEFT"⟩,
  ⟨0x1CF03, "ZNAMENNY COMBINING MARK ", "GORAZDO NIZKO ON LEFT;NIZKO ON LEFT;SREDNE ON LEFT;MALO POVYSHE ON LEFT"⟩,
  ⟨0x1CF07, "ZNAMENNY COMBINING MARK ", "POVYSHE ON LEFT;VYSOKO ON LEFT;MALO POVYSHE S KHOKHLOM ON LEFT"⟩,
  ⟨0x1CF0A, "ZNAMENNY COMBINING MARK ", "POVYSHE S KHOKHLOM ON LEFT;VYSOKO S KHOKHLOM ON LEFT"⟩,
  ⟨0x1CF0C, "ZNAMENNY COMBINING MARK ", "GORAZDO NIZKO S KRYZHEM ON RIGHT;NIZKO S KRYZHEM ON RIGHT"⟩,
  ⟨0x1CF0E, "ZNAMENNY COMBINING MARK ", "TSATA ON RIGHT;GORAZDO NIZKO ON RIGHT;NIZKO ON RIGHT"⟩,
  ⟨0x1CF11, "ZNAMENNY COMBINING MARK ", "SREDNE ON RIGHT;MALO POVYSHE ON RIGHT;POVYSHE ON RIGHT;VYSOKO ON RIGHT"⟩,
  ⟨0x1CF15, "ZNAMENNY COMBINING MARK ", "MALO POVYSHE S KHOKHLOM ON RIGHT;POVYSHE S KHOKHLOM ON RIGHT"⟩,
  ⟨0x1CF17, "ZNAMENNY COMBINING MARK ", "VYSOKO S KHOKHLOM ON RIGHT;TSATA S KRYZHEM;MALO POVYSHE S KRYZHEM"⟩,
  ⟨0x1CF1A, "ZNAMENNY COMBINING MARK ", "STRANNO MALO POVYSHE;POVYSHE S KRYZHEM;POVYSHE STRANNO;VYSOKO S KRYZHEM"⟩,
  ⟨0x1CF1E, "ZNAMENNY COMBINING MARK ", "MALO POVYSHE STRANNO;GORAZDO VYSOKO;ZELO;ON;RAVNO;TIKHAYA;BORZAYA"⟩,
  ⟨0x1CF25, "ZNAMENNY COMBINING MARK ", "UDARKA;PODVERTKA;LOMKA;KUPNAYA;KACHKA;ZEVOK;SKOBA;RAZSEKA;KRYZH ON LEFT"⟩,
  ⟨0x1CF30, "ZNAMENNY COMBINING TONAL RANGE MARK ", "MRACHNO;SVETLO;TRESVETLO"⟩,
  ⟨0x1CF33, "", "ZNAMENNY COMBINING MARK ZADERZHKA"⟩,
  ⟨0x1CF34, "ZNAMENNY COMBINING MARK ", "DEMESTVENNY ZADERZHKA;OTSECHKA;PODCHASHIE;PODCHASHIE WITH VERTICAL STROKE"⟩,
  ⟨0x1CF38, "ZNAMENNY COMBINING MARK ", "CHASHKA;CHASHKA POLNAYA;OBLACHKO;SOROCHYA NOZHKA;TOCHKA;DVOETOCHIE"⟩,
  ⟨0x1CF3E, "ZNAMENNY COMBINING ", "ATTACHING VERTICAL OMET;MARK CURVED OMET;MARK KRYZH;LOWER TONAL RANGE INDICATOR"⟩,
  ⟨0x1CF42, "ZNAMENNY PRIZNAK MODIFIER ", "LEVEL-2;LEVEL-3;DIRECTION FLIP;KRYZH;ROG"⟩,
  ⟨0x1CF50, "ZNAMENNY NEUME ", "KRYUK;KRYUK TIKHY"⟩,
  ⟨0x1CF52, "ZNAMENNY NEUME ", "PARAKLIT;DVA V CHELNU;KLYUCH;ZANOZHEK;STOPITSA;STOPITSA S OCHKOM;PEREVODKA"⟩,
  ⟨0x1CF59, "ZNAMENNY NEUME ", "PEREVODKA NEPOSTOYANNAYA;STOPITSA WITH SOROCHYA NOZHKA;CHELYUSTKA;PALKA;ZAPYATAYA"⟩,
  ⟨0x1CF5E, "ZNAMENNY NEUME GOLUBCHIK ", "BORZY;TIKHY;MRACHNY;SVETLY;TRESVETLY"⟩,
  ⟨0x1CF63, "ZNAMENNY NEUME VRAKHIYA ", "PROSTAYA;MRACHNAYA;SVETLAYA;TRESVETLAYA"⟩,
  ⟨0x1CF67, "ZNAMENNY NEUME VRAKHIYA KLYUCHEVAYA ", "PROSTAYA;MRACHNAYA;SVETLAYA;TRESVETLAYA"⟩,
  ⟨0x1CF6B, "ZNAMENNY NEUME ", "DOUBLE ZAPYATAYA;REVERSED CHELYUSTKA;DERBITSA;KHAMILO;CHASHKA;PODCHASHIE"⟩,
  ⟨0x1CF71, "ZNAMENNY NEUME SKAMEYTSA ", "MRACHNAYA;SVETLAYA;TRESVETLAYA;TIKHAYA"⟩,
  ⟨0x1CF75, "", "ZNAMENNY NEUME DEMESTVENNY KLYUCH"⟩,
  ⟨0x1CF76, "ZNAMENNY NEUME SKAMEYTSA ", "KLYUCHEVAYA SVETLAYA;KLYUCHENEPOSTOYANNAYA;KLYUCHEVAYA TIKHAYA"⟩,
  ⟨0x1CF79, "ZNAMENNY NEUME SKAMEYTSA DVOECHELNAYA ", "PROSTAYA;SVETLAYA;NEPOSTOYANNAYA;KLYUCHEVAYA"⟩,
  ⟨0x1CF7D, "ZNAMENNY NEUME ", "SLOZHITIE;SLOZHITIE S ZAPYATOY"⟩,
  ⟨0x1CF7F, "ZNAMENNY NEUME ", "SLOZHITIE ZAKRYTOE;SLOZHITIE S KRYZHEM;KRYZH;ROG;FITA;KOBYLA;ZMEYTSA;STATYA"⟩,
  ⟨0x1CF87, "ZNAMENNY NEUME STATYA ", "S ZAPYATOY;S KRYZHEM;S ZAPYATOY I KRYZHEM;S KRYZHEM I ZAPYATOY;ZAKRYTAYA"⟩,
  ⟨0x1CF8C, "ZNAMENNY NEUME STATYA ", "ZAKRYTAYA S ZAPYATOY;S ROGOM;S DVUMYA ZAPYATYMI;S ZAPYATOY I PODCHASHIEM"⟩,
  ⟨0x1CF90, "ZNAMENNY NEUME ", "POLKULIZMY;STATYA NEPOSTOYANNAYA;STRELA PROSTAYA;STRELA MRACHNOTIKHAYA"⟩,
  ⟨0x1CF94, "ZNAMENNY NEUME STRELA ", "KRYZHEVAYA;POLUPOVODNAYA;POVODNAYA;NEPOSTOYANNAYA;KLYUCHEPOVODNAYA"⟩,
  ⟨0x1CF99, "ZNAMENNY NEUME STRELA ", "KLYUCHENEPOSTOYANNAYA;TIKHAYA PUTNAYA;DVOECHELNAYA;DVOECHELNOKRYZHEVAYA"⟩,
  ⟨0x1CF9D, "ZNAMENNY NEUME STRELA ", "DVOECHELNOPOVODNAYA;DVOECHELNAYA KLYUCHEVAYA;DVOECHELNOPOVODNAYA KLYUCHEVAYA"⟩,
  ⟨0x1CFA0, "ZNAMENNY NEUME STRELA ", "GROMNAYA WITH SINGLE ZAPYATAYA;GROMOPOVODNAYA WITH SINGLE ZAPYATAYA"⟩,
  ⟨0x1CFA2, "ZNAMENNY NEUME STRELA ", "GROMNAYA;GROMOPOVODNAYA;GROMOPOVODNAYA WITH DOUBLE ZAPYATAYA;GROMOKRYZHEVAYA"⟩,
  ⟨0x1CFA6, "ZNAMENNY NEUME ", "STRELA GROMOKRYZHEVAYA POVODNAYA;MECHIK"⟩,
  ⟨0x1CFA8, "ZNAMENNY NEUME MECHIK ", "POVODNY;KLYUCHEVOY;KLYUCHEPOVODNY;KLYUCHENEPOSTOYANNY"⟩,
  ⟨0x1CFAC, "ZNAMENNY NEUME STRELA ", "TRYASOGLASNAYA;TRYASOPOVODNAYA;TRYASOSTRELNAYA"⟩,
  ⟨0x1CFAF, "ZNAMENNY NEUME ", "OSOKA;OSOKA SVETLAYA;OSOKA TRESVETLAYA;OSOKA KRYUKOVAYA SVETLAYA"⟩,
  ⟨0x1CFB3, "ZNAMENNY NEUME OSOKA KLYUCHEVAYA ", "SVETLAYA;NEPOSTOYANNAYA"⟩,
  ⟨0x1CFB5, "ZNAMENNY NEUME STRELA ", "KRYUKOVAYA;KRYUKOVAYA POVODNAYA;KRYUKOVAYA GROMNAYA WITH SINGLE ZAPYATAYA"⟩,
  ⟨0x1CFB8, "", "ZNAMENNY NEUME STRELA KRYUKOVAYA GROMOPOVODNAYA WITH SINGLE ZAPYATAYA"⟩,
  ⟨0x1CFB9, "ZNAMENNY NEUME STRELA KRYUKOVAYA ", "GROMNAYA;GROMOPOVODNAYA;GROMOPOVODNAYA WITH DOUBLE ZAPYATAYA"⟩,
  ⟨0x1CFBC, "ZNAMENNY NEUME STRELA KRYUKOVAYA ", "GROMOKRYZHEVAYA;GROMOKRYZHEVAYA POVODNAYA;TRYASKA"⟩,
  ⟨0x1CFBF, "ZNAMENNY NEUME ", "KUFISMA;OBLAKO;DUDA;NEMKA;PAUK"⟩]

end HtmlTemplate.CharName
