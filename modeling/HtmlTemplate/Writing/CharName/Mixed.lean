import HtmlTemplate.Writing.CharName.Basic

/-!
# Names of characters from U+2C00 to U+FFFD

Further scripts, the syllables and radicals of East Asia, and forms of letters that other sets have.
-/

namespace HtmlTemplate.CharName

/-- The names of these characters. -/
def mixedNames : List NameRun := [
  ⟨0x2C00, "GLAGOLITIC CAPITAL LETTER ", "AZU;BUKY;VEDE;GLAGOLI;DOBRO;YESTU;ZHIVETE;DZELO;ZEMLJA;IZHE;INITIAL IZHE"⟩,
  ⟨0x2C0B, "GLAGOLITIC CAPITAL LETTER ", "I;DJERVI;KAKO;LJUDIJE;MYSLITE;NASHI;ONU;POKOJI;RITSI;SLOVO;TVRIDO"⟩,
  ⟨0x2C16, "GLAGOLITIC CAPITAL LETTER ", "UKU;FRITU;HERU;OTU;PE;SHTA;TSI;CHRIVI;SHA;YERU;YERI;YATI;SPIDERY HA;YU"⟩,
  ⟨0x2C24, "GLAGOLITIC CAPITAL LETTER ", "SMALL YUS;SMALL YUS WITH TAIL;YO;IOTATED SMALL YUS;BIG YUS;IOTATED BIG YUS"⟩,
  ⟨0x2C2A, "GLAGOLITIC CAPITAL LETTER ", "FITA;IZHITSA;SHTAPIC;TROKUTASTI A;LATINATE MYSLITE;CAUDATE CHRIVI"⟩,
  ⟨0x2C30, "GLAGOLITIC SMALL LETTER ", "AZU;BUKY;VEDE;GLAGOLI;DOBRO;YESTU;ZHIVETE;DZELO;ZEMLJA;IZHE;INITIAL IZHE"⟩,
  ⟨0x2C3B, "GLAGOLITIC SMALL LETTER ", "I;DJERVI;KAKO;LJUDIJE;MYSLITE;NASHI;ONU;POKOJI;RITSI;SLOVO;TVRIDO"⟩,
  ⟨0x2C46, "GLAGOLITIC SMALL LETTER ", "UKU;FRITU;HERU;OTU;PE;SHTA;TSI;CHRIVI;SHA;YERU;YERI;YATI;SPIDERY HA;YU"⟩,
  ⟨0x2C54, "GLAGOLITIC SMALL LETTER ", "SMALL YUS;SMALL YUS WITH TAIL;YO;IOTATED SMALL YUS;BIG YUS;IOTATED BIG YUS"⟩,
  ⟨0x2C5A, "GLAGOLITIC SMALL LETTER ", "FITA;IZHITSA;SHTAPIC;TROKUTASTI A;LATINATE MYSLITE;CAUDATE CHRIVI"⟩,
  ⟨0x2C60, "LATIN ", "CAPITAL LETTER L WITH DOUBLE BAR;SMALL LETTER L WITH DOUBLE BAR"⟩,
  ⟨0x2C62, "LATIN CAPITAL LETTER ", "L WITH MIDDLE TILDE;P WITH STROKE;R WITH TAIL"⟩,
  ⟨0x2C65, "LATIN SMALL LETTER ", "A WITH STROKE;T WITH DIAGONAL STROKE"⟩,
  ⟨0x2C67, "LATIN ", "CAPITAL LETTER H WITH DESCENDER;SMALL LETTER H WITH DESCENDER;CAPITAL LETTER K WITH DESCENDER"⟩,
  ⟨0x2C6A, "LATIN ", "SMALL LETTER K WITH DESCENDER;CAPITAL LETTER Z WITH DESCENDER;SMALL LETTER Z WITH DESCENDER"⟩,
  ⟨0x2C6D, "LATIN CAPITAL LETTER ", "ALPHA;M WITH HOOK;TURNED A;TURNED ALPHA"⟩,
  ⟨0x2C71, "LATIN ", "SMALL LETTER V WITH RIGHT HOOK;CAPITAL LETTER W WITH HOOK"⟩,
  ⟨0x2C73, "LATIN ", "SMALL LETTER W WITH HOOK;SMALL LETTER V WITH CURL;CAPITAL LETTER HALF H"⟩,
  ⟨0x2C76, "LATIN SMALL LETTER ", "HALF H;TAILLESS PHI;E WITH NOTCH;TURNED R WITH TAIL;O WITH LOW RING INSIDE"⟩,
  ⟨0x2C7B, "", "LATIN LETTER SMALL CAPITAL TURNED E;LATIN SUBSCRIPT SMALL LETTER J;MODIFIER LETTER CAPITAL V"⟩,
  ⟨0x2C7E, "LATIN CAPITAL LETTER ", "S WITH SWASH TAIL;Z WITH SWASH TAIL"⟩,
  ⟨0x2C80, "COPTIC ", "CAPITAL LETTER ALFA;SMALL LETTER ALFA"⟩,
  ⟨0x2C82, "COPTIC ", "CAPITAL LETTER VIDA;SMALL LETTER VIDA;CAPITAL LETTER GAMMA;SMALL LETTER GAMMA"⟩,
  ⟨0x2C86, "COPTIC ", "CAPITAL LETTER DALDA;SMALL LETTER DALDA;CAPITAL LETTER EIE;SMALL LETTER EIE"⟩,
  ⟨0x2C8A, "COPTIC ", "CAPITAL LETTER SOU;SMALL LETTER SOU;CAPITAL LETTER ZATA;SMALL LETTER ZATA;CAPITAL LETTER HATE"⟩,
  ⟨0x2C8F, "COPTIC ", "SMALL LETTER HATE;CAPITAL LETTER THETHE;SMALL LETTER THETHE;CAPITAL LETTER IAUDA"⟩,
  ⟨0x2C93, "COPTIC ", "SMALL LETTER IAUDA;CAPITAL LETTER KAPA;SMALL LETTER KAPA;CAPITAL LETTER LAULA"⟩,
  ⟨0x2C97, "COPTIC ", "SMALL LETTER LAULA;CAPITAL LETTER MI;SMALL LETTER MI;CAPITAL LETTER NI;SMALL LETTER NI"⟩,
  ⟨0x2C9C, "COPTIC ", "CAPITAL LETTER KSI;SMALL LETTER KSI;CAPITAL LETTER O;SMALL LETTER O;CAPITAL LETTER PI"⟩,
  ⟨0x2CA1, "COPTIC ", "SMALL LETTER PI;CAPITAL LETTER RO;SMALL LETTER RO;CAPITAL LETTER SIMA;SMALL LETTER SIMA"⟩,
  ⟨0x2CA6, "COPTIC ", "CAPITAL LETTER TAU;SMALL LETTER TAU;CAPITAL LETTER UA;SMALL LETTER UA;CAPITAL LETTER FI"⟩,
  ⟨0x2CAB, "COPTIC ", "SMALL LETTER FI;CAPITAL LETTER KHI;SMALL LETTER KHI;CAPITAL LETTER PSI;SMALL LETTER PSI"⟩,
  ⟨0x2CB0, "COPTIC ", "CAPITAL LETTER OOU;SMALL LETTER OOU;CAPITAL LETTER DIALECT-P ALEF;SMALL LETTER DIALECT-P ALEF"⟩,
  ⟨0x2CB4, "COPTIC ", "CAPITAL LETTER OLD COPTIC AIN;SMALL LETTER OLD COPTIC AIN;CAPITAL LETTER CRYPTOGRAMMIC EIE"⟩,
  ⟨0x2CB7, "COPTIC ", "SMALL LETTER CRYPTOGRAMMIC EIE;CAPITAL LETTER DIALECT-P KAPA;SMALL LETTER DIALECT-P KAPA"⟩,
  ⟨0x2CBA, "COPTIC ", "CAPITAL LETTER DIALECT-P NI;SMALL LETTER DIALECT-P NI;CAPITAL LETTER CRYPTOGRAMMIC NI"⟩,
  ⟨0x2CBD, "COPTIC ", "SMALL LETTER CRYPTOGRAMMIC NI;CAPITAL LETTER OLD COPTIC OOU;SMALL LETTER OLD COPTIC OOU"⟩,
  ⟨0x2CC0, "COPTIC ", "CAPITAL LETTER SAMPI;SMALL LETTER SAMPI;CAPITAL LETTER CROSSED SHEI"⟩,
  ⟨0x2CC3, "COPTIC ", "SMALL LETTER CROSSED SHEI;CAPITAL LETTER OLD COPTIC SHEI;SMALL LETTER OLD COPTIC SHEI"⟩,
  ⟨0x2CC6, "COPTIC ", "CAPITAL LETTER OLD COPTIC ESH;SMALL LETTER OLD COPTIC ESH;CAPITAL LETTER AKHMIMIC KHEI"⟩,
  ⟨0x2CC9, "COPTIC ", "SMALL LETTER AKHMIMIC KHEI;CAPITAL LETTER DIALECT-P HORI;SMALL LETTER DIALECT-P HORI"⟩,
  ⟨0x2CCC, "COPTIC ", "CAPITAL LETTER OLD COPTIC HORI;SMALL LETTER OLD COPTIC HORI;CAPITAL LETTER OLD COPTIC HA"⟩,
  ⟨0x2CCF, "COPTIC ", "SMALL LETTER OLD COPTIC HA;CAPITAL LETTER L-SHAPED HA;SMALL LETTER L-SHAPED HA"⟩,
  ⟨0x2CD2, "COPTIC ", "CAPITAL LETTER OLD COPTIC HEI;SMALL LETTER OLD COPTIC HEI;CAPITAL LETTER OLD COPTIC HAT"⟩,
  ⟨0x2CD5, "COPTIC ", "SMALL LETTER OLD COPTIC HAT;CAPITAL LETTER OLD COPTIC GANGIA;SMALL LETTER OLD COPTIC GANGIA"⟩,
  ⟨0x2CD8, "COPTIC ", "CAPITAL LETTER OLD COPTIC DJA;SMALL LETTER OLD COPTIC DJA;CAPITAL LETTER OLD COPTIC SHIMA"⟩,
  ⟨0x2CDB, "COPTIC ", "SMALL LETTER OLD COPTIC SHIMA;CAPITAL LETTER OLD NUBIAN SHIMA;SMALL LETTER OLD NUBIAN SHIMA"⟩,
  ⟨0x2CDE, "COPTIC ", "CAPITAL LETTER OLD NUBIAN NGI;SMALL LETTER OLD NUBIAN NGI;CAPITAL LETTER OLD NUBIAN NYI"⟩,
  ⟨0x2CE1, "COPTIC ", "SMALL LETTER OLD NUBIAN NYI;CAPITAL LETTER OLD NUBIAN WAU;SMALL LETTER OLD NUBIAN WAU"⟩,
  ⟨0x2CE4, "COPTIC SYMBOL ", "KAI;MI RO;PI RO;STAUROS;TAU RO;KHI RO;SHIMA SIMA"⟩,
  ⟨0x2CEB, "COPTIC ", "CAPITAL LETTER CRYPTOGRAMMIC SHEI;SMALL LETTER CRYPTOGRAMMIC SHEI"⟩,
  ⟨0x2CED, "COPTIC ", "CAPITAL LETTER CRYPTOGRAMMIC GANGIA;SMALL LETTER CRYPTOGRAMMIC GANGIA"⟩,
  ⟨0x2CEF, "COPTIC COMBINING ", "NI ABOVE;SPIRITUS ASPER;SPIRITUS LENIS"⟩,
  ⟨0x2CF2, "COPTIC ", "CAPITAL LETTER BOHAIRIC KHEI;SMALL LETTER BOHAIRIC KHEI"⟩,
  ⟨0x2CF9, "COPTIC OLD NUBIAN ", "FULL STOP;DIRECT QUESTION MARK;INDIRECT QUESTION MARK;VERSE DIVIDER"⟩,
  ⟨0x2CFD, "COPTIC ", "FRACTION ONE HALF;FULL STOP;MORPHOLOGICAL DIVIDER"⟩,
  ⟨0x2D00, "GEORGIAN SMALL LETTER ", "AN;BAN;GAN;DON;EN;VIN;ZEN;TAN;IN;KAN;LAS;MAN;NAR;ON;PAR;ZHAR;RAE;SAN;TAR;UN"⟩,
  ⟨0x2D14, "GEORGIAN SMALL LETTER ", "PHAR;KHAR;GHAN;QAR;SHIN;CHIN;CAN;JIL;CIL;CHAR;XAN;JHAN;HAE;HE;HIE;WE;HAR;HOE"⟩,
  ⟨0x2D27, "", "GEORGIAN SMALL LETTER YN"⟩,
  ⟨0x2D2D, "", "GEORGIAN SMALL LETTER AEN"⟩,
  ⟨0x2D30, "TIFINAGH LETTER ", "YA;YAB;YABH;YAG;YAGHH;BERBER ACADEMY YAJ"⟩,
  ⟨0x2D36, "TIFINAGH LETTER ", "YAJ;YAD;YADH;YADD;YADDH;YEY;YAF;YAK;TUAREG YAK;YAKHH;YAH;BERBER ACADEMY YAH"⟩,
  ⟨0x2D42, "TIFINAGH LETTER ", "TUAREG YAH;YAHH;YAA;YAKH;TUAREG YAKH;YAQ;TUAREG YAQ;YI;YAZH;AHAGGAR YAZH"⟩,
  ⟨0x2D4C, "TIFINAGH LETTER ", "TUAREG YAZH;YAL;YAM;YAN;TUAREG YAGN;TUAREG YANG;YAP;YU;YAR;YARR;YAGH;TUAREG YAGH"⟩,
  ⟨0x2D58, "TIFINAGH LETTER ", "AYER YAGH;YAS;YASS;YASH;YAT;YATH;YACH;YATT;YAV;YAW;YAY;YAZ;TAWELLEMET YAZ;YAZZ;YE;YO"⟩,
  ⟨0x2D6F, "TIFINAGH ", "MODIFIER LETTER LABIALIZATION MARK;SEPARATOR MARK"⟩,
  ⟨0x2D7F, "", "TIFINAGH CONSONANT JOINER"⟩,
  ⟨0x2D80, "ETHIOPIC SYLLABLE ", "LOA;MOA;ROA;SOA;SHOA;BOA;TOA"⟩,
  ⟨0x2D87, "ETHIOPIC SYLLABLE ", "COA;NOA;NYOA;GLOTTAL OA;ZOA;DOA;DDOA;JOA;THOA;CHOA;PHOA;POA;GGWA;GGWI;GGWEE;GGWE"⟩,
  ⟨0x2DA0, "ETHIOPIC SYLLABLE ", "SSA;SSU;SSI;SSAA;SSEE;SSE;SSO"⟩,
  ⟨0x2DA8, "ETHIOPIC SYLLABLE ", "CCA;CCU;CCI;CCAA;CCEE;CCE;CCO"⟩,
  ⟨0x2DB0, "ETHIOPIC SYLLABLE ", "ZZA;ZZU;ZZI;ZZAA;ZZEE;ZZE;ZZO"⟩,
  ⟨0x2DB8, "ETHIOPIC SYLLABLE ", "CCHA;CCHU;CCHI;CCHAA;CCHEE;CCHE;CCHO"⟩,
  ⟨0x2DC0, "ETHIOPIC SYLLABLE ", "QYA;QYU;QYI;QYAA;QYEE;QYE;QYO"⟩,
  ⟨0x2DC8, "ETHIOPIC SYLLABLE ", "KYA;KYU;KYI;KYAA;KYEE;KYE;KYO"⟩,
  ⟨0x2DD0, "ETHIOPIC SYLLABLE ", "XYA;XYU;XYI;XYAA;XYEE;XYE;XYO"⟩,
  ⟨0x2DD8, "ETHIOPIC SYLLABLE ", "GYA;GYU;GYI;GYAA;GYEE;GYE;GYO"⟩,
  ⟨0x2DE0, "COMBINING CYRILLIC LETTER ", "BE;VE;GHE"⟩,
  ⟨0x2DE3, "COMBINING CYRILLIC LETTER ", "DE;ZHE;ZE;KA;EL;EM;EN;O;PE;ER;ES;TE;HA;TSE;CHE;SHA;SHCHA;FITA;ES-TE;A;IE"⟩,
  ⟨0x2DF8, "COMBINING CYRILLIC LETTER ", "DJERV;MONOGRAPH UK;YAT;YU;IOTIFIED A;LITTLE YUS;BIG YUS;IOTIFIED BIG YUS"⟩,
  ⟨0x2E00, "RIGHT ANGLE ", "SUBSTITUTION MARKER;DOTTED SUBSTITUTION MARKER"⟩,
  ⟨0x2E02, "", "LEFT SUBSTITUTION BRACKET;RIGHT SUBSTITUTION BRACKET;LEFT DOTTED SUBSTITUTION BRACKET"⟩,
  ⟨0x2E05, "", "RIGHT DOTTED SUBSTITUTION BRACKET;RAISED INTERPOLATION MARKER;RAISED DOTTED INTERPOLATION MARKER"⟩,
  ⟨0x2E08, "", "DOTTED TRANSPOSITION MARKER;LEFT TRANSPOSITION BRACKET;RIGHT TRANSPOSITION BRACKET;RAISED SQUARE"⟩,
  ⟨0x2E0C, "", "LEFT RAISED OMISSION BRACKET;RIGHT RAISED OMISSION BRACKET;EDITORIAL CORONIS;PARAGRAPHOS"⟩,
  ⟨0x2E10, "", "FORKED PARAGRAPHOS;REVERSED FORKED PARAGRAPHOS;HYPODIASTOLE;DOTTED OBELOS;DOWNWARDS ANCORA"⟩,
  ⟨0x2E15, "", "UPWARDS ANCORA;DOTTED RIGHT-POINTING ANGLE;DOUBLE OBLIQUE HYPHEN;INVERTED INTERROBANG"⟩,
  ⟨0x2E19, "", "PALM BRANCH;HYPHEN WITH DIAERESIS;TILDE WITH RING ABOVE;LEFT LOW PARAPHRASE BRACKET"⟩,
  ⟨0x2E1D, "", "RIGHT LOW PARAPHRASE BRACKET;TILDE WITH DOT ABOVE;TILDE WITH DOT BELOW;LEFT VERTICAL BAR WITH QUILL"⟩,
  ⟨0x2E21, "", "RIGHT VERTICAL BAR WITH QUILL;TOP LEFT HALF BRACKET;TOP RIGHT HALF BRACKET;BOTTOM LEFT HALF BRACKET"⟩,
  ⟨0x2E25, "", "BOTTOM RIGHT HALF BRACKET;LEFT SIDEWAYS U BRACKET;RIGHT SIDEWAYS U BRACKET;LEFT DOUBLE PARENTHESIS"⟩,
  ⟨0x2E29, "", "RIGHT DOUBLE PARENTHESIS;TWO DOTS OVER ONE DOT PUNCTUATION;ONE DOT OVER TWO DOTS PUNCTUATION"⟩,
  ⟨0x2E2C, "", "SQUARED FOUR DOT PUNCTUATION;FIVE DOT MARK;REVERSED QUESTION MARK;VERTICAL TILDE"⟩,
  ⟨0x2E30, "", "RING POINT;WORD SEPARATOR MIDDLE DOT;TURNED COMMA;RAISED DOT;RAISED COMMA;TURNED SEMICOLON"⟩,
  ⟨0x2E36, "", "DAGGER WITH LEFT GUARD;DAGGER WITH RIGHT GUARD;TURNED DAGGER;TOP HALF SECTION SIGN;TWO-EM DASH"⟩,
  ⟨0x2E3B, "", "THREE-EM DASH;STENOGRAPHIC FULL STOP;VERTICAL SIX DOTS;WIGGLY VERTICAL LINE;CAPITULUM;DOUBLE HYPHEN"⟩,
  ⟨0x2E41, "", "REVERSED COMMA;DOUBLE LOW-REVERSED-9 QUOTATION MARK;DASH WITH LEFT UPTURN;DOUBLE SUSPENSION MARK"⟩,
  ⟨0x2E45, "INVERTED LOW ", "KAVYKA;KAVYKA WITH KAVYKA ABOVE"⟩,
  ⟨0x2E47, "", "LOW KAVYKA;LOW KAVYKA WITH DOT;DOUBLE STACKED COMMA;DOTTED SOLIDUS"⟩,
  ⟨0x2E4B, "", "TRIPLE DAGGER;MEDIEVAL COMMA;PARAGRAPHUS MARK;PUNCTUS ELEVATUS MARK;CORNISH VERSE DIVIDER"⟩,
  ⟨0x2E50, "CROSS PATTY WITH ", "RIGHT CROSSBAR;LEFT CROSSBAR"⟩,
  ⟨0x2E52, "", "TIRONIAN SIGN CAPITAL ET;MEDIEVAL EXCLAMATION MARK"⟩,
  ⟨0x2E54, "", "MEDIEVAL QUESTION MARK;LEFT SQUARE BRACKET WITH STROKE;RIGHT SQUARE BRACKET WITH STROKE"⟩,
  ⟨0x2E57, "", "LEFT SQUARE BRACKET WITH DOUBLE STROKE;RIGHT SQUARE BRACKET WITH DOUBLE STROKE"⟩,
  ⟨0x2E59, "TOP HALF ", "LEFT PARENTHESIS;RIGHT PARENTHESIS"⟩,
  ⟨0x2E5B, "", "BOTTOM HALF LEFT PARENTHESIS;BOTTOM HALF RIGHT PARENTHESIS;OBLIQUE HYPHEN"⟩,
  ⟨0x2E80, "CJK RADICAL ", "REPEAT;CLIFF;SECOND ONE;SECOND TWO;SECOND THREE;PERSON"⟩,
  ⟨0x2E86, "CJK RADICAL ", "BOX;TABLE;KNIFE ONE;KNIFE TWO;DIVINATION;SEAL;SMALL ONE;SMALL TWO;LAME ONE;LAME TWO"⟩,
  ⟨0x2E90, "CJK RADICAL ", "LAME THREE;LAME FOUR;SNAKE;THREAD;SNOUT ONE;SNOUT TWO;HEART ONE;HEART TWO;HAND;RAP"⟩,
  ⟨0x2E9B, "CJK RADICAL ", "CHOKE;SUN;MOON;DEATH;MOTHER;CIVILIAN;WATER ONE;WATER TWO;FIRE;PAW ONE"⟩,
  ⟨0x2EA5, "CJK RADICAL ", "PAW TWO;SIMPLIFIED HALF TREE TRUNK;COW;DOG;JADE;BOLT OF CLOTH;EYE;SPIRIT ONE;SPIRIT TWO"⟩,
  ⟨0x2EAE, "CJK RADICAL ", "BAMBOO;SILK;C-SIMPLIFIED SILK;NET ONE;NET TWO;NET THREE;NET FOUR;MESH;SHEEP;RAM;EWE;OLD"⟩,
  ⟨0x2EBA, "CJK RADICAL ", "BRUSH ONE;BRUSH TWO;MEAT;MORTAR;GRASS ONE;GRASS TWO;GRASS THREE;TIGER;CLOTHES;WEST ONE"⟩,
  ⟨0x2EC4, "CJK RADICAL ", "WEST TWO;C-SIMPLIFIED SEE;SIMPLIFIED HORN;HORN;C-SIMPLIFIED SPEECH;C-SIMPLIFIED SHELL"⟩,
  ⟨0x2ECA, "CJK RADICAL ", "FOOT;C-SIMPLIFIED CART;SIMPLIFIED WALK;WALK ONE;WALK TWO;CITY;C-SIMPLIFIED GOLD"⟩,
  ⟨0x2ED1, "CJK RADICAL ", "LONG ONE;LONG TWO;C-SIMPLIFIED LONG;C-SIMPLIFIED GATE;MOUND ONE;MOUND TWO;RAIN;BLUE"⟩,
  ⟨0x2ED9, "CJK RADICAL C-SIMPLIFIED ", "TANNED LEATHER;LEAF;WIND;FLY"⟩,
  ⟨0x2EDD, "CJK RADICAL ", "EAT ONE;EAT TWO;EAT THREE;C-SIMPLIFIED EAT;HEAD;C-SIMPLIFIED HORSE;BONE;GHOST"⟩,
  ⟨0x2EE5, "CJK RADICAL C-SIMPLIFIED ", "FISH;BIRD;SALT"⟩,
  ⟨0x2EE8, "CJK RADICAL ", "SIMPLIFIED WHEAT;SIMPLIFIED YELLOW;C-SIMPLIFIED FROG"⟩,
  ⟨0x2EEB, "CJK RADICAL ", "J-SIMPLIFIED EVEN;C-SIMPLIFIED EVEN;J-SIMPLIFIED TOOTH;C-SIMPLIFIED TOOTH"⟩,
  ⟨0x2EEF, "CJK RADICAL ", "J-SIMPLIFIED DRAGON;C-SIMPLIFIED DRAGON;TURTLE;J-SIMPLIFIED TURTLE;C-SIMPLIFIED TURTLE"⟩,
  ⟨0x2F00, "KANGXI RADICAL ", "ONE;LINE;DOT;SLASH;SECOND;HOOK;TWO;LID;MAN;LEGS;ENTER;EIGHT;DOWN BOX"⟩,
  ⟨0x2F0D, "KANGXI RADICAL ", "COVER;ICE;TABLE;OPEN BOX;KNIFE;POWER;WRAP;SPOON;RIGHT OPEN BOX;HIDING ENCLOSURE"⟩,
  ⟨0x2F17, "KANGXI RADICAL ", "TEN;DIVINATION;SEAL;CLIFF;PRIVATE;AGAIN;MOUTH;ENCLOSURE;EARTH;SCHOLAR"⟩,
  ⟨0x2F21, "KANGXI RADICAL ", "GO;GO SLOWLY;EVENING;BIG;WOMAN;CHILD;ROOF;INCH;SMALL;LAME;CORPSE;SPROUT;MOUNTAIN"⟩,
  ⟨0x2F2E, "KANGXI RADICAL ", "RIVER;WORK;ONESELF;TURBAN;DRY;SHORT THREAD;DOTTED CLIFF;LONG STRIDE;TWO HANDS"⟩,
  ⟨0x2F37, "KANGXI RADICAL ", "SHOOT;BOW;SNOUT;BRISTLE;STEP;HEART;HALBERD;DOOR;HAND;BRANCH;RAP;SCRIPT;DIPPER"⟩,
  ⟨0x2F44, "KANGXI RADICAL ", "AXE;SQUARE;NOT;SUN;SAY;MOON;TREE;LACK;STOP;DEATH;WEAPON;DO NOT;COMPARE;FUR;CLAN"⟩,
  ⟨0x2F53, "KANGXI RADICAL ", "STEAM;WATER;FIRE;CLAW;FATHER;DOUBLE X;HALF TREE TRUNK;SLICE;FANG;COW;DOG;PROFOUND"⟩,
  ⟨0x2F5F, "KANGXI RADICAL ", "JADE;MELON;TILE;SWEET;LIFE;USE;FIELD;BOLT OF CLOTH;SICKNESS;DOTTED TENT;WHITE;SKIN"⟩,
  ⟨0x2F6B, "KANGXI RADICAL ", "DISH;EYE;SPEAR;ARROW;STONE;SPIRIT;TRACK;GRAIN;CAVE;STAND;BAMBOO;RICE;SILK;JAR;NET"⟩,
  ⟨0x2F7A, "KANGXI RADICAL ", "SHEEP;FEATHER;OLD;AND;PLOW;EAR;BRUSH;MEAT;MINISTER;SELF;ARRIVE;MORTAR;TONGUE;OPPOSE"⟩,
  ⟨0x2F88, "KANGXI RADICAL ", "BOAT;STOPPING;COLOR;GRASS;TIGER;INSECT;BLOOD;WALK ENCLOSURE;CLOTHES;WEST;SEE;HORN"⟩,
  ⟨0x2F94, "KANGXI RADICAL ", "SPEECH;VALLEY;BEAN;PIG;BADGER;SHELL;RED;RUN;FOOT;BODY;CART;BITTER;MORNING;WALK;CITY"⟩,
  ⟨0x2FA3, "KANGXI RADICAL ", "WINE;DISTINGUISH;VILLAGE;GOLD;LONG;GATE;MOUND;SLAVE;SHORT TAILED BIRD;RAIN;BLUE;WRONG"⟩,
  ⟨0x2FAF, "KANGXI RADICAL ", "FACE;LEATHER;TANNED LEATHER;LEEK;SOUND;LEAF;WIND;FLY;EAT;HEAD;FRAGRANT;HORSE;BONE"⟩,
  ⟨0x2FBC, "KANGXI RADICAL ", "TALL;HAIR;FIGHT;SACRIFICIAL WINE;CAULDRON;GHOST;FISH;BIRD;SALT;DEER;WHEAT;HEMP;YELLOW"⟩,
  ⟨0x2FC9, "KANGXI RADICAL ", "MILLET;BLACK;EMBROIDERY;FROG;TRIPOD;DRUM;RAT;NOSE;EVEN;TOOTH;DRAGON;TURTLE;FLUTE"⟩,
  ⟨0x2FF0, "IDEOGRAPHIC DESCRIPTION CHARACTER ", "LEFT TO RIGHT;ABOVE TO BELOW"⟩,
  ⟨0x2FF2, "IDEOGRAPHIC DESCRIPTION CHARACTER ", "LEFT TO MIDDLE AND RIGHT;ABOVE TO MIDDLE AND BELOW;FULL SURROUND"⟩,
  ⟨0x2FF5, "IDEOGRAPHIC DESCRIPTION CHARACTER SURROUND FROM ", "ABOVE;BELOW;LEFT;UPPER LEFT;UPPER RIGHT;LOWER LEFT"⟩,
  ⟨0x2FFB, "", "IDEOGRAPHIC DESCRIPTION CHARACTER OVERLAID"⟩,
  ⟨0x3000, "IDEOGRAPHIC ", "SPACE;COMMA;FULL STOP"⟩,
  ⟨0x3003, "", "DITTO MARK;JAPANESE INDUSTRIAL STANDARD SYMBOL"⟩,
  ⟨0x3005, "IDEOGRAPHIC ", "ITERATION MARK;CLOSING MARK;NUMBER ZERO"⟩,
  ⟨0x3008, "", "LEFT ANGLE BRACKET;RIGHT ANGLE BRACKET;LEFT DOUBLE ANGLE BRACKET"⟩,
  ⟨0x300B, "", "RIGHT DOUBLE ANGLE BRACKET;LEFT CORNER BRACKET;RIGHT CORNER BRACKET;LEFT WHITE CORNER BRACKET"⟩,
  ⟨0x300F, "", "RIGHT WHITE CORNER BRACKET;LEFT BLACK LENTICULAR BRACKET;RIGHT BLACK LENTICULAR BRACKET;POSTAL MARK"⟩,
  ⟨0x3013, "", "GETA MARK;LEFT TORTOISE SHELL BRACKET;RIGHT TORTOISE SHELL BRACKET;LEFT WHITE LENTICULAR BRACKET"⟩,
  ⟨0x3017, "", "RIGHT WHITE LENTICULAR BRACKET;LEFT WHITE TORTOISE SHELL BRACKET;RIGHT WHITE TORTOISE SHELL BRACKET"⟩,
  ⟨0x301A, "", "LEFT WHITE SQUARE BRACKET;RIGHT WHITE SQUARE BRACKET;WAVE DASH;REVERSED DOUBLE PRIME QUOTATION MARK"⟩,
  ⟨0x301E, "", "DOUBLE PRIME QUOTATION MARK;LOW DOUBLE PRIME QUOTATION MARK;POSTAL MARK FACE"⟩,
  ⟨0x3021, "HANGZHOU NUMERAL ", "ONE;TWO;THREE;FOUR;FIVE;SIX;SEVEN;EIGHT;NINE"⟩,
  ⟨0x302A, "IDEOGRAPHIC ", "LEVEL TONE MARK;RISING TONE MARK;DEPARTING TONE MARK;ENTERING TONE MARK"⟩,
  ⟨0x302E, "", "HANGUL SINGLE DOT TONE MARK;HANGUL DOUBLE DOT TONE MARK;WAVY DASH"⟩,
  ⟨0x3031, "VERTICAL KANA REPEAT ", "MARK;WITH VOICED SOUND MARK"⟩,
  ⟨0x3033, "VERTICAL KANA REPEAT ", "MARK UPPER HALF;WITH VOICED SOUND MARK UPPER HALF;MARK LOWER HALF"⟩,
  ⟨0x3036, "", "CIRCLED POSTAL MARK;IDEOGRAPHIC TELEGRAPH LINE FEED SEPARATOR SYMBOL"⟩,
  ⟨0x3038, "HANGZHOU NUMERAL ", "TEN;TWENTY;THIRTY"⟩,
  ⟨0x303B, "", "VERTICAL IDEOGRAPHIC ITERATION MARK;MASU MARK;PART ALTERNATION MARK"⟩,
  ⟨0x303E, "IDEOGRAPHIC ", "VARIATION INDICATOR;HALF FILL SPACE"⟩,
  ⟨0x3041, "HIRAGANA LETTER ", "SMALL A;A;SMALL I;I;SMALL U;U;SMALL E;E;SMALL O;O;KA;GA;KI;GI;KU;GU"⟩,
  ⟨0x3051, "HIRAGANA LETTER ", "KE;GE;KO;GO;SA;ZA;SI;ZI;SU;ZU;SE;ZE;SO;ZO;TA;DA;TI;DI;SMALL TU;TU;DU;TE;DE;TO;DO;NA"⟩,
  ⟨0x306B, "HIRAGANA LETTER ", "NI;NU;NE;NO;HA;BA;PA;HI;BI;PI;HU;BU;PU;HE;BE;PE;HO;BO;PO;MA;MI;MU;ME;MO;SMALL YA;YA"⟩,
  ⟨0x3085, "HIRAGANA LETTER ", "SMALL YU;YU;SMALL YO;YO;RA;RI;RU;RE;RO;SMALL WA;WA;WI;WE;WO;N;VU;SMALL KA;SMALL KE"⟩,
  ⟨0x3099, "COMBINING KATAKANA-HIRAGANA ", "VOICED SOUND MARK;SEMI-VOICED SOUND MARK"⟩,
  ⟨0x309B, "KATAKANA-HIRAGANA ", "VOICED SOUND MARK;SEMI-VOICED SOUND MARK"⟩,
  ⟨0x309D, "HIRAGANA ", "ITERATION MARK;VOICED ITERATION MARK;DIGRAPH YORI"⟩,
  ⟨0x30A0, "", "KATAKANA-HIRAGANA DOUBLE HYPHEN"⟩,
  ⟨0x30A1, "KATAKANA LETTER ", "SMALL A;A;SMALL I;I;SMALL U;U;SMALL E;E;SMALL O;O;KA;GA;KI;GI;KU;GU;KE;GE;KO;GO"⟩,
  ⟨0x30B5, "KATAKANA LETTER ", "SA;ZA;SI;ZI;SU;ZU;SE;ZE;SO;ZO;TA;DA;TI;DI;SMALL TU;TU;DU;TE;DE;TO;DO;NA;NI;NU;NE;NO"⟩,
  ⟨0x30CF, "KATAKANA LETTER ", "HA;BA;PA;HI;BI;PI;HU;BU;PU;HE;BE;PE;HO;BO;PO;MA;MI;MU;ME;MO;SMALL YA;YA;SMALL YU;YU"⟩,
  ⟨0x30E7, "KATAKANA LETTER ", "SMALL YO;YO;RA;RI;RU;RE;RO;SMALL WA;WA;WI;WE;WO;N;VU;SMALL KA;SMALL KE;VA;VI;VE;VO"⟩,
  ⟨0x30FB, "", "KATAKANA MIDDLE DOT;KATAKANA-HIRAGANA PROLONGED SOUND MARK"⟩,
  ⟨0x30FD, "KATAKANA ", "ITERATION MARK;VOICED ITERATION MARK;DIGRAPH KOTO"⟩,
  ⟨0x3105, "BOPOMOFO LETTER ", "B;P;M;F;D;T;N;L;G;K;H;J;Q;X;ZH;CH;SH"⟩,
  ⟨0x3116, "BOPOMOFO LETTER ", "R;Z;C;S;A;O;E;EH;AI;EI;AU;OU;AN;EN;ANG;ENG;ER;I;U;IU;V;NG;GN;IH;O WITH DOT ABOVE;NN"⟩,
  ⟨0x3131, "HANGUL LETTER ", "KIYEOK;SSANGKIYEOK;KIYEOK-SIOS;NIEUN;NIEUN-CIEUC;NIEUN-HIEUH;TIKEUT;SSANGTIKEUT;RIEUL"⟩,
  ⟨0x313A, "HANGUL LETTER RIEUL-", "KIYEOK;MIEUM;PIEUP;SIOS;THIEUTH;PHIEUPH;HIEUH"⟩,
  ⟨0x3141, "HANGUL LETTER ", "MIEUM;PIEUP;SSANGPIEUP;PIEUP-SIOS;SIOS;SSANGSIOS;IEUNG;CIEUC;SSANGCIEUC;CHIEUCH"⟩,
  ⟨0x314B, "HANGUL LETTER ", "KHIEUKH;THIEUTH;PHIEUPH;HIEUH;A;AE;YA;YAE;EO;E;YEO;YE;O;WA;WAE;OE;YO;U;WEO;WE;WI;YU;EU"⟩,
  ⟨0x3162, "HANGUL ", "LETTER YI;LETTER I;FILLER;LETTER SSANGNIEUN"⟩,
  ⟨0x3166, "HANGUL LETTER NIEUN-", "TIKEUT;SIOS;PANSIOS"⟩,
  ⟨0x3169, "HANGUL LETTER RIEUL-", "KIYEOK-SIOS;TIKEUT;PIEUP-SIOS;PANSIOS;YEORINHIEUH"⟩,
  ⟨0x316E, "HANGUL LETTER ", "MIEUM-PIEUP;MIEUM-SIOS;MIEUM-PANSIOS;KAPYEOUNMIEUM"⟩,
  ⟨0x3172, "HANGUL LETTER PIEUP-", "KIYEOK;TIKEUT;SIOS-KIYEOK;SIOS-TIKEUT;CIEUC;THIEUTH"⟩,
  ⟨0x3178, "HANGUL LETTER ", "KAPYEOUNPIEUP;KAPYEOUNSSANGPIEUP;SIOS-KIYEOK;SIOS-NIEUN;SIOS-TIKEUT;SIOS-PIEUP"⟩,
  ⟨0x317E, "HANGUL LETTER ", "SIOS-CIEUC;PANSIOS;SSANGIEUNG;YESIEUNG;YESIEUNG-SIOS;YESIEUNG-PANSIOS;KAPYEOUNPHIEUPH"⟩,
  ⟨0x3185, "HANGUL LETTER ", "SSANGHIEUH;YEORINHIEUH;YO-YA;YO-YAE;YO-I;YU-YEO;YU-YE;YU-I;ARAEA;ARAEAE"⟩,
  ⟨0x3190, "IDEOGRAPHIC ANNOTATION ", "LINKING MARK;REVERSE MARK"⟩,
  ⟨0x3192, "IDEOGRAPHIC ANNOTATION ", "ONE MARK;TWO MARK;THREE MARK;FOUR MARK;TOP MARK;MIDDLE MARK;BOTTOM MARK"⟩,
  ⟨0x3199, "IDEOGRAPHIC ANNOTATION ", "FIRST MARK;SECOND MARK;THIRD MARK;FOURTH MARK;HEAVEN MARK;EARTH MARK;MAN MARK"⟩,
  ⟨0x31A0, "BOPOMOFO LETTER ", "BU;ZI;JI;GU;EE;ENN;OO;ONN;IR;ANN;INN;UNN;IM;NGG;AINN;AUNN;AM;OM;ONG;INNN"⟩,
  ⟨0x31B4, "BOPOMOFO FINAL LETTER ", "P;T;K;H"⟩,
  ⟨0x31B8, "BOPOMOFO ", "LETTER GH;LETTER LH;LETTER ZY;FINAL LETTER G;LETTER GW;LETTER KW;LETTER OE;LETTER AH"⟩,
  ⟨0x31C0, "CJK STROKE ", "T;WG;XG;BXG;SW;HZZ;HZG;HP;HZWG;SZWG"⟩,
  ⟨0x31CA, "CJK STROKE ", "HZT;HZZP;HPWG;HZW;HZZZ;N;H;S;P;SP;D;HZ;HG;SZ;SWZ;ST;SG;PD;PZ;TN;SZZ;SWG;HXWG;HZZZG;PG;Q"⟩,
  ⟨0x31F0, "KATAKANA LETTER SMALL ", "KU;SI;SU;TO;NU;HA;HI;HU;HE;HO;MU;RA;RI;RU;RE;RO"⟩,
  ⟨0x3200, "PARENTHESIZED HANGUL ", "KIYEOK;NIEUN;TIKEUT;RIEUL;MIEUM;PIEUP;SIOS;IEUNG;CIEUC;CHIEUCH"⟩,
  ⟨0x320A, "PARENTHESIZED HANGUL ", "KHIEUKH;THIEUTH;PHIEUPH;HIEUH;KIYEOK A;NIEUN A;TIKEUT A;RIEUL A;MIEUM A;PIEUP A"⟩,
  ⟨0x3214, "PARENTHESIZED HANGUL ", "SIOS A;IEUNG A;CIEUC A;CHIEUCH A;KHIEUKH A;THIEUTH A;PHIEUPH A;HIEUH A;CIEUC U"⟩,
  ⟨0x321D, "PARENTHESIZED KOREAN CHARACTER ", "OJEON;O HU"⟩,
  ⟨0x3220, "PARENTHESIZED IDEOGRAPH ", "ONE;TWO"⟩,
  ⟨0x3222, "PARENTHESIZED IDEOGRAPH ", "THREE;FOUR;FIVE;SIX;SEVEN;EIGHT;NINE;TEN;MOON;FIRE;WATER;WOOD;METAL;EARTH"⟩,
  ⟨0x3230, "PARENTHESIZED IDEOGRAPH ", "SUN;STOCK;HAVE;SOCIETY;NAME;SPECIAL;FINANCIAL;CONGRATULATION;LABOR;REPRESENT"⟩,
  ⟨0x323A, "PARENTHESIZED IDEOGRAPH ", "CALL;STUDY;SUPERVISE;ENTERPRISE;RESOURCE;ALLIANCE;FESTIVAL;REST;SELF;REACH"⟩,
  ⟨0x3244, "CIRCLED IDEOGRAPH ", "QUESTION;KINDERGARTEN;SCHOOL;KOTO"⟩,
  ⟨0x3248, "CIRCLED NUMBER ", "TEN ON BLACK SQUARE;TWENTY ON BLACK SQUARE;THIRTY ON BLACK SQUARE"⟩,
  ⟨0x324B, "CIRCLED NUMBER ", "FORTY ON BLACK SQUARE;FIFTY ON BLACK SQUARE;SIXTY ON BLACK SQUARE"⟩,
  ⟨0x324E, "", "CIRCLED NUMBER SEVENTY ON BLACK SQUARE;CIRCLED NUMBER EIGHTY ON BLACK SQUARE;PARTNERSHIP SIGN"⟩,
  ⟨0x3251, "CIRCLED NUMBER TWENTY ", "ONE;TWO;THREE;FOUR;FIVE;SIX;SEVEN;EIGHT;NINE"⟩,
  ⟨0x325A, "CIRCLED NUMBER ", "THIRTY;THIRTY ONE;THIRTY TWO;THIRTY THREE;THIRTY FOUR;THIRTY FIVE"⟩,
  ⟨0x3260, "CIRCLED HANGUL ", "KIYEOK;NIEUN;TIKEUT;RIEUL;MIEUM;PIEUP;SIOS;IEUNG"⟩,
  ⟨0x3268, "CIRCLED HANGUL ", "CIEUC;CHIEUCH;KHIEUKH;THIEUTH;PHIEUPH;HIEUH;KIYEOK A;NIEUN A;TIKEUT A;RIEUL A;MIEUM A"⟩,
  ⟨0x3273, "CIRCLED HANGUL ", "PIEUP A;SIOS A;IEUNG A;CIEUC A;CHIEUCH A;KHIEUKH A;THIEUTH A;PHIEUPH A;HIEUH A"⟩,
  ⟨0x327C, "CIRCLED KOREAN CHARACTER ", "CHAMKO;JUEUI"⟩,
  ⟨0x327E, "", "CIRCLED HANGUL IEUNG U;KOREAN STANDARD SYMBOL"⟩,
  ⟨0x3280, "CIRCLED IDEOGRAPH ", "ONE;TWO;THREE;FOUR;FIVE;SIX;SEVEN;EIGHT;NINE;TEN;MOON;FIRE;WATER;WOOD;METAL;EARTH"⟩,
  ⟨0x3290, "CIRCLED IDEOGRAPH ", "SUN;STOCK;HAVE;SOCIETY;NAME;SPECIAL;FINANCIAL;CONGRATULATION;LABOR;SECRET;MALE"⟩,
  ⟨0x329B, "CIRCLED IDEOGRAPH ", "FEMALE;SUITABLE;EXCELLENT;PRINT;ATTENTION;ITEM;REST;COPY;CORRECT;HIGH;CENTRE;LOW"⟩,
  ⟨0x32A7, "CIRCLED IDEOGRAPH ", "LEFT;RIGHT;MEDICINE;RELIGION;STUDY;SUPERVISE;ENTERPRISE;RESOURCE;ALLIANCE;NIGHT"⟩,
  ⟨0x32B1, "CIRCLED NUMBER ", "THIRTY SIX;THIRTY SEVEN;THIRTY EIGHT;THIRTY NINE;FORTY"⟩,
  ⟨0x32B6, "CIRCLED NUMBER FORTY ", "ONE;TWO;THREE;FOUR;FIVE;SIX;SEVEN;EIGHT;NINE"⟩,
  ⟨0x32BF, "", "CIRCLED NUMBER FIFTY"⟩,
  ⟨0x32C0, "IDEOGRAPHIC TELEGRAPH SYMBOL FOR ", "JANUARY;FEBRUARY;MARCH"⟩,
  ⟨0x32C3, "IDEOGRAPHIC TELEGRAPH SYMBOL FOR ", "APRIL;MAY;JUNE;JULY;AUGUST;SEPTEMBER;OCTOBER;NOVEMBER;DECEMBER"⟩,
  ⟨0x32CC, "", "SQUARE HG;SQUARE ERG;SQUARE EV;LIMITED LIABILITY SIGN"⟩,
  ⟨0x32D0, "CIRCLED KATAKANA ", "A;I;U;E;O;KA;KI;KU;KE;KO;SA;SI;SU;SE;SO;TA;TI;TU;TE"⟩,
  ⟨0x32E3, "CIRCLED KATAKANA ", "TO;NA;NI;NU;NE;NO;HA;HI;HU;HE;HO;MA;MI;MU;ME;MO;YA;YU;YO;RA;RI;RU;RE;RO;WA;WI;WE;WO"⟩,
  ⟨0x32FF, "SQUARE ", "ERA NAME REIWA;APAATO;ARUHUA;ANPEA;AARU;ININGU;INTI;UON;ESUKUUDO;EEKAA;ONSU"⟩,
  ⟨0x330A, "SQUARE ", "OOMU;KAIRI;KARATTO;KARORII;GARON;GANMA;GIGA;GINII;KYURII;GIRUDAA;KIRO;KIROGURAMU;KIROMEETORU"⟩,
  ⟨0x3317, "SQUARE ", "KIROWATTO;GURAMU;GURAMUTON;KURUZEIRO;KUROONE;KEESU;KORUNA;KOOPO;SAIKURU;SANTIIMU;SIRINGU"⟩,
  ⟨0x3322, "SQUARE ", "SENTI;SENTO;DAASU;DESI;DORU;TON;NANO;NOTTO;HAITU;PAASENTO;PAATU;BAARERU;PIASUTORU;PIKURU"⟩,
  ⟨0x3330, "SQUARE ", "PIKO;BIRU;HUARADDO;HUIITO;BUSSYERU;HURAN;HEKUTAARU;PESO;PENIHI;HERUTU;PENSU;PEEZI;BEETA"⟩,
  ⟨0x333D, "SQUARE ", "POINTO;BORUTO;HON;PONDO;HOORU;HOON;MAIKURO;MAIRU;MAHHA;MARUKU;MANSYON;MIKURON;MIRI;MIRIBAARU"⟩,
  ⟨0x334B, "SQUARE ", "MEGA;MEGATON;MEETORU;YAADO;YAARU;YUAN;RITTORU;RIRA;RUPII;RUUBURU;REMU;RENTOGEN;WATTO"⟩,
  ⟨0x3358, "IDEOGRAPHIC TELEGRAPH SYMBOL FOR HOUR ", "ZERO;ONE;TWO;THREE;FOUR;FIVE;SIX;SEVEN;EIGHT;NINE;TEN;ELEVEN"⟩,
  ⟨0x3364, "IDEOGRAPHIC TELEGRAPH SYMBOL FOR HOUR ", "TWELVE;THIRTEEN;FOURTEEN;FIFTEEN;SIXTEEN;SEVENTEEN;EIGHTEEN"⟩,
  ⟨0x336B, "IDEOGRAPHIC TELEGRAPH SYMBOL FOR HOUR ", "NINETEEN;TWENTY;TWENTY-ONE;TWENTY-TWO;TWENTY-THREE;TWENTY-FOUR"⟩,
  ⟨0x3371, "SQUARE ", "HPA;DA;AU;BAR;OV;PC;DM;DM SQUARED;DM CUBED;IU"⟩,
  ⟨0x337B, "SQUARE ERA NAME ", "HEISEI;SYOUWA;TAISYOU;MEIZI"⟩,
  ⟨0x337F, "SQUARE ", "CORPORATION;PA AMPS"⟩,
  ⟨0x3381, "SQUARE ", "NA;MU A;MA;KA;KB;MB;GB;CAL;KCAL;PF;NF;MU F;MU G;MG;KG;HZ;KHZ;MHZ;GHZ;THZ;MU L;ML;DL;KL;FM;NM"⟩,
  ⟨0x339B, "SQUARE ", "MU M;MM;CM;KM;MM SQUARED;CM SQUARED;M SQUARED;KM SQUARED;MM CUBED;CM CUBED;M CUBED;KM CUBED"⟩,
  ⟨0x33A7, "SQUARE ", "M OVER S;M OVER S SQUARED;PA;KPA;MPA;GPA;RAD;RAD OVER S;RAD OVER S SQUARED;PS;NS;MU S;MS;PV"⟩,
  ⟨0x33B5, "SQUARE ", "NV;MU V;MV;KV;MV MEGA;PW;NW;MU W;MW;KW;MW MEGA;K OHM;M OHM;AM;BQ;CC;CD;C OVER KG;CO;DB;GY;HA"⟩,
  ⟨0x33CB, "SQUARE ", "HP;IN;KK;KM CAPITAL;KT;LM;LN;LOG;LX;MB SMALL;MIL;MOL;PH;PM;PPM;PR;SR;SV;WB;V OVER M;A OVER M"⟩,
  ⟨0x33E0, "IDEOGRAPHIC TELEGRAPH SYMBOL FOR DAY ", "ONE;TWO"⟩,
  ⟨0x33E2, "IDEOGRAPHIC TELEGRAPH SYMBOL FOR DAY ", "THREE;FOUR;FIVE;SIX;SEVEN;EIGHT;NINE;TEN;ELEVEN;TWELVE;THIRTEEN"⟩,
  ⟨0x33ED, "IDEOGRAPHIC TELEGRAPH SYMBOL FOR DAY ", "FOURTEEN;FIFTEEN;SIXTEEN;SEVENTEEN;EIGHTEEN;NINETEEN;TWENTY"⟩,
  ⟨0x33F4, "IDEOGRAPHIC TELEGRAPH SYMBOL FOR DAY TWENTY-", "ONE;TWO;THREE;FOUR;FIVE;SIX;SEVEN;EIGHT;NINE"⟩,
  ⟨0x33FD, "IDEOGRAPHIC TELEGRAPH SYMBOL FOR DAY ", "THIRTY;THIRTY-ONE"⟩,
  ⟨0x33FF, "", "SQUARE GAL"⟩,
  ⟨0x4DC0, "HEXAGRAM FOR THE ", "CREATIVE HEAVEN;RECEPTIVE EARTH"⟩,
  ⟨0x4DC2, "HEXAGRAM FOR ", "DIFFICULTY AT THE BEGINNING;YOUTHFUL FOLLY;WAITING;CONFLICT;THE ARMY"⟩,
  ⟨0x4DC7, "HEXAGRAM FOR ", "HOLDING TOGETHER;SMALL TAMING;TREADING;PEACE;STANDSTILL;FELLOWSHIP;GREAT POSSESSION"⟩,
  ⟨0x4DCE, "HEXAGRAM FOR ", "MODESTY;ENTHUSIASM;FOLLOWING;WORK ON THE DECAYED;APPROACH;CONTEMPLATION;BITING THROUGH"⟩,
  ⟨0x4DD5, "HEXAGRAM FOR ", "GRACE;SPLITTING APART;RETURN;INNOCENCE;GREAT TAMING;MOUTH CORNERS;GREAT PREPONDERANCE"⟩,
  ⟨0x4DDC, "HEXAGRAM FOR ", "THE ABYSMAL WATER;THE CLINGING FIRE;INFLUENCE;DURATION;RETREAT;GREAT POWER;PROGRESS"⟩,
  ⟨0x4DE3, "HEXAGRAM FOR ", "DARKENING OF THE LIGHT;THE FAMILY;OPPOSITION;OBSTRUCTION;DELIVERANCE;DECREASE;INCREASE"⟩,
  ⟨0x4DEA, "HEXAGRAM FOR ", "BREAKTHROUGH;COMING TO MEET;GATHERING TOGETHER;PUSHING UPWARD;OPPRESSION;THE WELL"⟩,
  ⟨0x4DF0, "HEXAGRAM FOR ", "REVOLUTION;THE CAULDRON;THE AROUSING THUNDER;THE KEEPING STILL MOUNTAIN;DEVELOPMENT"⟩,
  ⟨0x4DF5, "HEXAGRAM FOR ", "THE MARRYING MAIDEN;ABUNDANCE;THE WANDERER;THE GENTLE WIND;THE JOYOUS LAKE;DISPERSION"⟩,
  ⟨0x4DFB, "HEXAGRAM FOR ", "LIMITATION;INNER TRUTH;SMALL PREPONDERANCE;AFTER COMPLETION;BEFORE COMPLETION"⟩,
  ⟨0xA000, "YI SYLLABLE ", "IT;IX;I;IP;IET;IEX;IE;IEP;AT;AX;A;AP;UOX;UO;UOP;OT;OX;O;OP;EX;E;WU;BIT;BIX"⟩,
  ⟨0xA018, "YI SYLLABLE ", "BI;BIP;BIET;BIEX;BIE;BIEP;BAT;BAX;BA;BAP;BUOX;BUO;BUOP;BOT;BOX;BO;BOP;BEX;BE;BEP;BUT;BUX"⟩,
  ⟨0xA02E, "YI SYLLABLE ", "BU;BUP;BURX;BUR;BYT;BYX;BY;BYP;BYRX;BYR;PIT;PIX;PI;PIP;PIEX;PIE;PIEP;PAT;PAX;PA;PAP;PUOX"⟩,
  ⟨0xA044, "YI SYLLABLE ", "PUO;PUOP;POT;POX;PO;POP;PUT;PUX;PU;PUP;PURX;PUR;PYT;PYX;PY;PYP;PYRX;PYR;BBIT;BBIX;BBI"⟩,
  ⟨0xA059, "YI SYLLABLE ", "BBIP;BBIET;BBIEX;BBIE;BBIEP;BBAT;BBAX;BBA;BBAP;BBUOX;BBUO;BBUOP;BBOT;BBOX;BBO;BBOP;BBEX"⟩,
  ⟨0xA06A, "YI SYLLABLE ", "BBE;BBEP;BBUT;BBUX;BBU;BBUP;BBURX;BBUR;BBYT;BBYX;BBY;BBYP;NBIT;NBIX;NBI;NBIP;NBIEX;NBIE"⟩,
  ⟨0xA07C, "YI SYLLABLE ", "NBIEP;NBAT;NBAX;NBA;NBAP;NBOT;NBOX;NBO;NBOP;NBUT;NBUX;NBU;NBUP;NBURX;NBUR;NBYT;NBYX;NBY"⟩,
  ⟨0xA08E, "YI SYLLABLE ", "NBYP;NBYRX;NBYR;HMIT;HMIX;HMI;HMIP;HMIEX;HMIE;HMIEP;HMAT;HMAX;HMA;HMAP;HMUOX;HMUO;HMUOP"⟩,
  ⟨0xA09F, "YI SYLLABLE ", "HMOT;HMOX;HMO;HMOP;HMUT;HMUX;HMU;HMUP;HMURX;HMUR;HMYX;HMY;HMYP;HMYRX;HMYR;MIT;MIX;MI"⟩,
  ⟨0xA0B1, "YI SYLLABLE ", "MIP;MIEX;MIE;MIEP;MAT;MAX;MA;MAP;MUOT;MUOX;MUO;MUOP;MOT;MOX;MO;MOP;MEX;ME;MUT;MUX;MU;MUP"⟩,
  ⟨0xA0C7, "YI SYLLABLE ", "MURX;MUR;MYT;MYX;MY;MYP;FIT;FIX;FI;FIP;FAT;FAX;FA;FAP;FOX;FO;FOP;FUT;FUX;FU;FUP;FURX;FUR"⟩,
  ⟨0xA0DE, "YI SYLLABLE ", "FYT;FYX;FY;FYP;VIT;VIX;VI;VIP;VIET;VIEX;VIE;VIEP;VAT;VAX;VA;VAP;VOT;VOX;VO;VOP;VEX;VEP"⟩,
  ⟨0xA0F4, "YI SYLLABLE ", "VUT;VUX;VU;VUP;VURX;VUR;VYT;VYX;VY;VYP;VYRX;VYR;DIT;DIX;DI;DIP;DIEX;DIE;DIEP;DAT;DAX;DA"⟩,
  ⟨0xA10A, "YI SYLLABLE ", "DAP;DUOX;DUO;DOT;DOX;DO;DOP;DEX;DE;DEP;DUT;DUX;DU;DUP;DURX;DUR;TIT;TIX;TI;TIP;TIEX;TIE"⟩,
  ⟨0xA120, "YI SYLLABLE ", "TIEP;TAT;TAX;TA;TAP;TUOT;TUOX;TUO;TUOP;TOT;TOX;TO;TOP;TEX;TE;TEP;TUT;TUX;TU;TUP;TURX;TUR"⟩,
  ⟨0xA136, "YI SYLLABLE ", "DDIT;DDIX;DDI;DDIP;DDIEX;DDIE;DDIEP;DDAT;DDAX;DDA;DDAP;DDUOX;DDUO;DDUOP;DDOT;DDOX;DDO"⟩,
  ⟨0xA147, "YI SYLLABLE ", "DDOP;DDEX;DDE;DDEP;DDUT;DDUX;DDU;DDUP;DDURX;DDUR;NDIT;NDIX;NDI;NDIP;NDIEX;NDIE;NDAT;NDAX"⟩,
  ⟨0xA159, "YI SYLLABLE ", "NDA;NDAP;NDOT;NDOX;NDO;NDOP;NDEX;NDE;NDEP;NDUT;NDUX;NDU;NDUP;NDURX;NDUR;HNIT;HNIX;HNI"⟩,
  ⟨0xA16B, "YI SYLLABLE ", "HNIP;HNIET;HNIEX;HNIE;HNIEP;HNAT;HNAX;HNA;HNAP;HNUOX;HNUO;HNOT;HNOX;HNOP;HNEX;HNE;HNEP"⟩,
  ⟨0xA17C, "YI SYLLABLE ", "HNUT;NIT;NIX;NI;NIP;NIEX;NIE;NIEP;NAX;NA;NAP;NUOX;NUO;NUOP;NOT;NOX;NO;NOP;NEX;NE;NEP;NUT"⟩,
  ⟨0xA192, "YI SYLLABLE ", "NUX;NU;NUP;NURX;NUR;HLIT;HLIX;HLI;HLIP;HLIEX;HLIE;HLIEP;HLAT;HLAX;HLA;HLAP;HLUOX;HLUO"⟩,
  ⟨0xA1A4, "YI SYLLABLE ", "HLUOP;HLOX;HLO;HLOP;HLEX;HLE;HLEP;HLUT;HLUX;HLU;HLUP;HLURX;HLUR;HLYT;HLYX;HLY;HLYP;HLYRX"⟩,
  ⟨0xA1B6, "YI SYLLABLE ", "HLYR;LIT;LIX;LI;LIP;LIET;LIEX;LIE;LIEP;LAT;LAX;LA;LAP;LUOT;LUOX;LUO;LUOP;LOT;LOX;LO;LOP"⟩,
  ⟨0xA1CB, "YI SYLLABLE ", "LEX;LE;LEP;LUT;LUX;LU;LUP;LURX;LUR;LYT;LYX;LY;LYP;LYRX;LYR;GIT;GIX;GI;GIP;GIET;GIEX;GIE"⟩,
  ⟨0xA1E1, "YI SYLLABLE ", "GIEP;GAT;GAX;GA;GAP;GUOT;GUOX;GUO;GUOP;GOT;GOX;GO;GOP;GET;GEX;GE;GEP;GUT;GUX;GU;GUP;GURX"⟩,
  ⟨0xA1F7, "YI SYLLABLE ", "GUR;KIT;KIX;KI;KIP;KIEX;KIE;KIEP;KAT;KAX;KA;KAP;KUOX;KUO;KUOP;KOT;KOX;KO;KOP;KET;KEX"⟩,
  ⟨0xA20C, "YI SYLLABLE ", "KE;KEP;KUT;KUX;KU;KUP;KURX;KUR;GGIT;GGIX;GGI;GGIEX;GGIE;GGIEP;GGAT;GGAX;GGA;GGAP;GGUOT"⟩,
  ⟨0xA21F, "YI SYLLABLE ", "GGUOX;GGUO;GGUOP;GGOT;GGOX;GGO;GGOP;GGET;GGEX;GGE;GGEP;GGUT;GGUX;GGU;GGUP;GGURX;GGUR"⟩,
  ⟨0xA230, "YI SYLLABLE ", "MGIEX;MGIE;MGAT;MGAX;MGA;MGAP;MGUOX;MGUO;MGUOP;MGOT;MGOX;MGO;MGOP;MGEX;MGE;MGEP;MGUT"⟩,
  ⟨0xA241, "YI SYLLABLE ", "MGUX;MGU;MGUP;MGURX;MGUR;HXIT;HXIX;HXI;HXIP;HXIET;HXIEX;HXIE;HXIEP;HXAT;HXAX;HXA;HXAP"⟩,
  ⟨0xA252, "YI SYLLABLE ", "HXUOT;HXUOX;HXUO;HXUOP;HXOT;HXOX;HXO;HXOP;HXEX;HXE;HXEP;NGIEX;NGIE;NGIEP;NGAT;NGAX;NGA"⟩,
  ⟨0xA263, "YI SYLLABLE ", "NGAP;NGUOT;NGUOX;NGUO;NGOT;NGOX;NGO;NGOP;NGEX;NGE;NGEP;HIT;HIEX;HIE;HAT;HAX;HA;HAP;HUOT"⟩,
  ⟨0xA276, "YI SYLLABLE ", "HUOX;HUO;HUOP;HOT;HOX;HO;HOP;HEX;HE;HEP;WAT;WAX;WA;WAP;WUOX;WUO;WUOP;WOX;WO;WOP;WEX;WE"⟩,
  ⟨0xA28C, "YI SYLLABLE ", "WEP;ZIT;ZIX;ZI;ZIP;ZIEX;ZIE;ZIEP;ZAT;ZAX;ZA;ZAP;ZUOX;ZUO;ZUOP;ZOT;ZOX;ZO;ZOP;ZEX;ZE;ZEP"⟩,
  ⟨0xA2A2, "YI SYLLABLE ", "ZUT;ZUX;ZU;ZUP;ZURX;ZUR;ZYT;ZYX;ZY;ZYP;ZYRX;ZYR;CIT;CIX;CI;CIP;CIET;CIEX;CIE;CIEP;CAT"⟩,
  ⟨0xA2B7, "YI SYLLABLE ", "CAX;CA;CAP;CUOX;CUO;CUOP;COT;COX;CO;COP;CEX;CE;CEP;CUT;CUX;CU;CUP;CURX;CUR;CYT;CYX;CY"⟩,
  ⟨0xA2CD, "YI SYLLABLE ", "CYP;CYRX;CYR;ZZIT;ZZIX;ZZI;ZZIP;ZZIET;ZZIEX;ZZIE;ZZIEP;ZZAT;ZZAX;ZZA;ZZAP;ZZOX;ZZO;ZZOP"⟩,
  ⟨0xA2DF, "YI SYLLABLE ", "ZZEX;ZZE;ZZEP;ZZUX;ZZU;ZZUP;ZZURX;ZZUR;ZZYT;ZZYX;ZZY;ZZYP;ZZYRX;ZZYR;NZIT;NZIX;NZI;NZIP"⟩,
  ⟨0xA2F1, "YI SYLLABLE ", "NZIEX;NZIE;NZIEP;NZAT;NZAX;NZA;NZAP;NZUOX;NZUO;NZOX;NZOP;NZEX;NZE;NZUX;NZU;NZUP;NZURX"⟩,
  ⟨0xA302, "YI SYLLABLE ", "NZUR;NZYT;NZYX;NZY;NZYP;NZYRX;NZYR;SIT;SIX;SI;SIP;SIEX;SIE;SIEP;SAT;SAX;SA;SAP;SUOX"⟩,
  ⟨0xA315, "YI SYLLABLE ", "SUO;SUOP;SOT;SOX;SO;SOP;SEX;SE;SEP;SUT;SUX;SU;SUP;SURX;SUR;SYT;SYX;SY;SYP;SYRX;SYR;SSIT"⟩,
  ⟨0xA32B, "YI SYLLABLE ", "SSIX;SSI;SSIP;SSIEX;SSIE;SSIEP;SSAT;SSAX;SSA;SSAP;SSOT;SSOX;SSO;SSOP;SSEX;SSE;SSEP;SSUT"⟩,
  ⟨0xA33D, "YI SYLLABLE ", "SSUX;SSU;SSUP;SSYT;SSYX;SSY;SSYP;SSYRX;SSYR;ZHAT;ZHAX;ZHA;ZHAP;ZHUOX;ZHUO;ZHUOP;ZHOT"⟩,
  ⟨0xA34E, "YI SYLLABLE ", "ZHOX;ZHO;ZHOP;ZHET;ZHEX;ZHE;ZHEP;ZHUT;ZHUX;ZHU;ZHUP;ZHURX;ZHUR;ZHYT;ZHYX;ZHY;ZHYP;ZHYRX"⟩,
  ⟨0xA360, "YI SYLLABLE ", "ZHYR;CHAT;CHAX;CHA;CHAP;CHUOT;CHUOX;CHUO;CHUOP;CHOT;CHOX;CHO;CHOP;CHET;CHEX;CHE;CHEP"⟩,
  ⟨0xA371, "YI SYLLABLE ", "CHUX;CHU;CHUP;CHURX;CHUR;CHYT;CHYX;CHY;CHYP;CHYRX;CHYR;RRAX;RRA;RRUOX;RRUO;RROT;RROX"⟩,
  ⟨0xA382, "YI SYLLABLE ", "RRO;RROP;RRET;RREX;RRE;RREP;RRUT;RRUX;RRU;RRUP;RRURX;RRUR;RRYT;RRYX;RRY;RRYP;RRYRX;RRYR"⟩,
  ⟨0xA394, "YI SYLLABLE ", "NRAT;NRAX;NRA;NRAP;NROX;NRO;NROP;NRET;NREX;NRE;NREP;NRUT;NRUX;NRU;NRUP;NRURX;NRUR;NRYT"⟩,
  ⟨0xA3A6, "YI SYLLABLE ", "NRYX;NRY;NRYP;NRYRX;NRYR;SHAT;SHAX;SHA;SHAP;SHUOX;SHUO;SHUOP;SHOT;SHOX;SHO;SHOP;SHET"⟩,
  ⟨0xA3B7, "YI SYLLABLE ", "SHEX;SHE;SHEP;SHUT;SHUX;SHU;SHUP;SHURX;SHUR;SHYT;SHYX;SHY;SHYP;SHYRX;SHYR;RAT;RAX;RA;RAP"⟩,
  ⟨0xA3CA, "YI SYLLABLE ", "RUOX;RUO;RUOP;ROT;ROX;RO;ROP;REX;RE;REP;RUT;RUX;RU;RUP;RURX;RUR;RYT;RYX;RY;RYP;RYRX;RYR"⟩,
  ⟨0xA3E0, "YI SYLLABLE ", "JIT;JIX;JI;JIP;JIET;JIEX;JIE;JIEP;JUOT;JUOX;JUO;JUOP;JOT;JOX;JO;JOP;JUT;JUX;JU;JUP;JURX"⟩,
  ⟨0xA3F5, "YI SYLLABLE ", "JUR;JYT;JYX;JY;JYP;JYRX;JYR;QIT;QIX;QI;QIP;QIET;QIEX;QIE;QIEP;QUOT;QUOX;QUO;QUOP;QOT;QOX"⟩,
  ⟨0xA40A, "YI SYLLABLE ", "QO;QOP;QUT;QUX;QU;QUP;QURX;QUR;QYT;QYX;QY;QYP;QYRX;QYR;JJIT;JJIX;JJI;JJIP;JJIET;JJIEX"⟩,
  ⟨0xA41E, "YI SYLLABLE ", "JJIE;JJIEP;JJUOX;JJUO;JJUOP;JJOT;JJOX;JJO;JJOP;JJUT;JJUX;JJU;JJUP;JJURX;JJUR;JJYT;JJYX"⟩,
  ⟨0xA42F, "YI SYLLABLE ", "JJY;JJYP;NJIT;NJIX;NJI;NJIP;NJIET;NJIEX;NJIE;NJIEP;NJUOX;NJUO;NJOT;NJOX;NJO;NJOP;NJUX"⟩,
  ⟨0xA440, "YI SYLLABLE ", "NJU;NJUP;NJURX;NJUR;NJYT;NJYX;NJY;NJYP;NJYRX;NJYR;NYIT;NYIX;NYI;NYIP;NYIET;NYIEX;NYIE"⟩,
  ⟨0xA451, "YI SYLLABLE ", "NYIEP;NYUOX;NYUO;NYUOP;NYOT;NYOX;NYO;NYOP;NYUT;NYUX;NYU;NYUP;XIT;XIX;XI;XIP;XIET;XIEX"⟩,
  ⟨0xA463, "YI SYLLABLE ", "XIE;XIEP;XUOX;XUO;XOT;XOX;XO;XOP;XYT;XYX;XY;XYP;XYRX;XYR;YIT;YIX;YI;YIP;YIET;YIEX;YIE"⟩,
  ⟨0xA478, "YI SYLLABLE ", "YIEP;YUOT;YUOX;YUO;YUOP;YOT;YOX;YO;YOP;YUT;YUX;YU;YUP;YURX;YUR;YYT;YYX;YY;YYP;YYRX;YYR"⟩,
  ⟨0xA490, "YI RADICAL ", "QOT;LI;KIT;NYIP;CYP;SSI;GGOP;GEP;MI;HXIT;LYR;BBUT"⟩,
  ⟨0xA49C, "YI RADICAL ", "MOP;YO;PUT;HXUO;TAT;GA;ZUP;CYT;DDUR;BUR;GGUO;NYOP;TU;OP;JJUT;ZOT;PYT;HMO;YIT;VUR;SHY;VEP"⟩,
  ⟨0xA4B2, "YI RADICAL ", "ZA;JO;NZUP;JJY;GOT;JJIE;WO;DU;SHUR;LIE;CY;CUOP;CIP;HXOP;SHAT;ZUR;SHOP;CHE;ZZIET;NBIE;KE"⟩,
  ⟨0xA4D0, "LISU LETTER ", "BA;PA;PHA;DA;TA;THA;GA;KA;KHA;JA;CA;CHA;DZA;TSA;TSHA;MA;NA;LA"⟩,
  ⟨0xA4E2, "LISU LETTER ", "SA;ZHA;ZA;NGA;HA;XA;HHA;FA;WA;SHA;YA;GHA;A;AE;E;EU;I;O;U;UE;UH;OE;TONE MYA TI;TONE NA PO"⟩,
  ⟨0xA4FA, "LISU LETTER TONE MYA ", "CYA;BO;NA;JEU"⟩,
  ⟨0xA4FE, "LISU PUNCTUATION ", "COMMA;FULL STOP"⟩,
  ⟨0xA500, "VAI SYLLABLE ", "EE;EEN;HEE;WEE;WEEN;PEE;BHEE;BEE;MBEE;KPEE;MGBEE;GBEE;FEE;VEE;TEE;THEE;DHEE"⟩,
  ⟨0xA511, "VAI SYLLABLE ", "DHHEE;LEE;REE;DEE;NDEE;SEE;SHEE;ZEE;ZHEE;CEE;JEE;NJEE;YEE;KEE;NGGEE;GEE;MEE;NEE;NYEE"⟩,
  ⟨0xA524, "VAI SYLLABLE ", "I;IN;HI;HIN;WI;WIN;PI;BHI;BI;MBI;KPI;MGBI;GBI;FI;VI;TI;THI;DHI;DHHI;LI;RI;DI;NDI;SI;SHI"⟩,
  ⟨0xA53D, "VAI SYLLABLE ", "ZI;ZHI;CI;JI;NJI;YI;KI;NGGI;GI;MI;NI;NYI;A;AN;NGAN;HA;HAN;WA;WAN;PA;BHA;BA;MBA;KPA;KPAN"⟩,
  ⟨0xA556, "VAI SYLLABLE ", "MGBA;GBA;FA;VA;TA;THA;DHA;DHHA;LA;RA;DA;NDA;SA;SHA;ZA;ZHA;CA;JA;NJA;YA;KA;KAN;NGGA;GA"⟩,
  ⟨0xA56E, "VAI SYLLABLE ", "MA;NA;NYA;OO;OON;HOO;WOO;WOON;POO;BHOO;BOO;MBOO;KPOO;MGBOO;GBOO;FOO;VOO;TOO;THOO;DHOO"⟩,
  ⟨0xA582, "VAI SYLLABLE ", "DHHOO;LOO;ROO;DOO;NDOO;SOO;SHOO;ZOO;ZHOO;COO;JOO;NJOO;YOO;KOO;NGGOO;GOO;MOO;NOO;NYOO"⟩,
  ⟨0xA595, "VAI SYLLABLE ", "U;UN;HU;HUN;WU;WUN;PU;BHU;BU;MBU;KPU;MGBU;GBU;FU;VU;TU;THU;DHU;DHHU;LU;RU;DU;NDU;SU;SHU"⟩,
  ⟨0xA5AE, "VAI SYLLABLE ", "ZU;ZHU;CU;JU;NJU;YU;KU;NGGU;GU;MU;NU;NYU;O;ON;NGON;HO;HON;WO;WON;PO;BHO;BO;MBO;KPO;MGBO"⟩,
  ⟨0xA5C7, "VAI SYLLABLE ", "GBO;GBON;FO;VO;TO;THO;DHO;DHHO;LO;RO;DO;NDO;SO;SHO;ZO;ZHO;CO;JO;NJO;YO;KO;NGGO;GO;MO;NO"⟩,
  ⟨0xA5E0, "VAI SYLLABLE ", "NYO;E;EN;NGEN;HE;HEN;WE;WEN;PE;BHE;BE;MBE;KPE;KPEN;MGBE;GBE;GBEN;FE;VE;TE;THE;DHE;DHHE"⟩,
  ⟨0xA5F7, "VAI SYLLABLE ", "LE;RE;DE;NDE;SE;SHE;ZE;ZHE;CE;JE;NJE;YE;KE;NGGE;NGGEN;GE;GEN;ME;NE;NYE;NG;LENGTHENER"⟩,
  ⟨0xA60D, "VAI ", "COMMA;FULL STOP;QUESTION MARK"⟩,
  ⟨0xA610, "VAI SYLLABLE NDOLE ", "FA;KA;SOO"⟩,
  ⟨0xA613, "VAI SYMBOL ", "FEENG;KEENG;TING;NII;BANG;FAA;TAA;DANG;DOONG;KUNG;TONG;DO-O;JONG"⟩,
  ⟨0xA620, "VAI DIGIT ", "ZERO;ONE;TWO;THREE;FOUR;FIVE;SIX;SEVEN;EIGHT;NINE"⟩,
  ⟨0xA62A, "VAI SYLLABLE NDOLE ", "MA;DO"⟩,
  ⟨0xA640, "CYRILLIC ", "CAPITAL LETTER ZEMLYA;SMALL LETTER ZEMLYA;CAPITAL LETTER DZELO;SMALL LETTER DZELO"⟩,
  ⟨0xA644, "CYRILLIC ", "CAPITAL LETTER REVERSED DZE;SMALL LETTER REVERSED DZE;CAPITAL LETTER IOTA"⟩,
  ⟨0xA647, "CYRILLIC ", "SMALL LETTER IOTA;CAPITAL LETTER DJERV;SMALL LETTER DJERV;CAPITAL LETTER MONOGRAPH UK"⟩,
  ⟨0xA64B, "CYRILLIC ", "SMALL LETTER MONOGRAPH UK;CAPITAL LETTER BROAD OMEGA;SMALL LETTER BROAD OMEGA"⟩,
  ⟨0xA64E, "CYRILLIC ", "CAPITAL LETTER NEUTRAL YER;SMALL LETTER NEUTRAL YER;CAPITAL LETTER YERU WITH BACK YER"⟩,
  ⟨0xA651, "CYRILLIC ", "SMALL LETTER YERU WITH BACK YER;CAPITAL LETTER IOTIFIED YAT"⟩,
  ⟨0xA653, "CYRILLIC ", "SMALL LETTER IOTIFIED YAT;CAPITAL LETTER REVERSED YU;SMALL LETTER REVERSED YU"⟩,
  ⟨0xA656, "CYRILLIC ", "CAPITAL LETTER IOTIFIED A;SMALL LETTER IOTIFIED A;CAPITAL LETTER CLOSED LITTLE YUS"⟩,
  ⟨0xA659, "CYRILLIC ", "SMALL LETTER CLOSED LITTLE YUS;CAPITAL LETTER BLENDED YUS;SMALL LETTER BLENDED YUS"⟩,
  ⟨0xA65C, "CYRILLIC ", "CAPITAL LETTER IOTIFIED CLOSED LITTLE YUS;SMALL LETTER IOTIFIED CLOSED LITTLE YUS"⟩,
  ⟨0xA65E, "CYRILLIC ", "CAPITAL LETTER YN;SMALL LETTER YN;CAPITAL LETTER REVERSED TSE;SMALL LETTER REVERSED TSE"⟩,
  ⟨0xA662, "CYRILLIC ", "CAPITAL LETTER SOFT DE;SMALL LETTER SOFT DE;CAPITAL LETTER SOFT EL"⟩,
  ⟨0xA665, "CYRILLIC ", "SMALL LETTER SOFT EL;CAPITAL LETTER SOFT EM;SMALL LETTER SOFT EM;CAPITAL LETTER MONOCULAR O"⟩,
  ⟨0xA669, "CYRILLIC ", "SMALL LETTER MONOCULAR O;CAPITAL LETTER BINOCULAR O;SMALL LETTER BINOCULAR O"⟩,
  ⟨0xA66C, "CYRILLIC ", "CAPITAL LETTER DOUBLE MONOCULAR O;SMALL LETTER DOUBLE MONOCULAR O;LETTER MULTIOCULAR O"⟩,
  ⟨0xA66F, "COMBINING CYRILLIC ", "VZMET;TEN MILLIONS SIGN;HUNDRED MILLIONS SIGN;THOUSAND MILLIONS SIGN"⟩,
  ⟨0xA673, "", "SLAVONIC ASTERISK"⟩,
  ⟨0xA674, "COMBINING CYRILLIC LETTER ", "UKRAINIAN IE;I;YI;U;HARD SIGN;YERU;SOFT SIGN;OMEGA"⟩,
  ⟨0xA67C, "COMBINING CYRILLIC ", "KAVYKA;PAYEROK"⟩,
  ⟨0xA67E, "CYRILLIC ", "KAVYKA;PAYEROK;CAPITAL LETTER DWE;SMALL LETTER DWE"⟩,
  ⟨0xA682, "CYRILLIC ", "CAPITAL LETTER DZWE;SMALL LETTER DZWE;CAPITAL LETTER ZHWE;SMALL LETTER ZHWE"⟩,
  ⟨0xA686, "CYRILLIC ", "CAPITAL LETTER CCHE;SMALL LETTER CCHE;CAPITAL LETTER DZZE;SMALL LETTER DZZE"⟩,
  ⟨0xA68A, "CYRILLIC ", "CAPITAL LETTER TE WITH MIDDLE HOOK;SMALL LETTER TE WITH MIDDLE HOOK;CAPITAL LETTER TWE"⟩,
  ⟨0xA68D, "CYRILLIC ", "SMALL LETTER TWE;CAPITAL LETTER TSWE;SMALL LETTER TSWE;CAPITAL LETTER TSSE"⟩,
  ⟨0xA691, "CYRILLIC ", "SMALL LETTER TSSE;CAPITAL LETTER TCHE;SMALL LETTER TCHE;CAPITAL LETTER HWE"⟩,
  ⟨0xA695, "CYRILLIC ", "SMALL LETTER HWE;CAPITAL LETTER SHWE;SMALL LETTER SHWE;CAPITAL LETTER DOUBLE O"⟩,
  ⟨0xA699, "CYRILLIC ", "SMALL LETTER DOUBLE O;CAPITAL LETTER CROSSED O;SMALL LETTER CROSSED O"⟩,
  ⟨0xA69C, "MODIFIER LETTER CYRILLIC ", "HARD SIGN;SOFT SIGN"⟩,
  ⟨0xA69E, "COMBINING CYRILLIC LETTER ", "EF;IOTIFIED E"⟩,
  ⟨0xA6A0, "BAMUM LETTER ", "A;KA;U;KU;EE;REE;TAE;O;NYI;I;LA;PA;RII;RIEE;LEEEE;MEEEE;TAA;NDAA;NJAEM"⟩,
  ⟨0xA6B3, "BAMUM LETTER ", "M;SUU;MU;SHII;SI;SHEUX;SEUX;KYEE;KET;NUAE;NU;NJUAE;YOQ;SHU;YUQ;YA;NSHA;KEUX;PEUX;NJEE"⟩,
  ⟨0xA6C7, "BAMUM LETTER ", "NTEE;PUE;WUE;PEE;FEE;RU;LU;MI;NI;REUX;RAE;KEN;NGKWAEN;NGGA;NGA;SHO;PUAE;FU;FOM;WA;NA"⟩,
  ⟨0xA6DC, "BAMUM LETTER ", "LI;PI;LOQ;KO;MBEN;REN;MEN;MA;TI;KI;MO;MBAA;TET;KPA;TEN;NTUU;SAMBA;FAAMAE;KOVUU;KOGHOM"⟩,
  ⟨0xA6F0, "BAMUM COMBINING MARK ", "KOQNDON;TUKWENTIS"⟩,
  ⟨0xA6F2, "BAMUM ", "NJAEMLI;FULL STOP;COLON;COMMA;SEMICOLON;QUESTION MARK"⟩,
  ⟨0xA700, "MODIFIER LETTER CHINESE TONE ", "YIN PING;YANG PING;YIN SHANG;YANG SHANG;YIN QU;YANG QU;YIN RU;YANG RU"⟩,
  ⟨0xA708, "MODIFIER LETTER ", "EXTRA-HIGH DOTTED TONE BAR;HIGH DOTTED TONE BAR;MID DOTTED TONE BAR"⟩,
  ⟨0xA70B, "MODIFIER LETTER ", "LOW DOTTED TONE BAR;EXTRA-LOW DOTTED TONE BAR;EXTRA-HIGH DOTTED LEFT-STEM TONE BAR"⟩,
  ⟨0xA70E, "MODIFIER LETTER ", "HIGH DOTTED LEFT-STEM TONE BAR;MID DOTTED LEFT-STEM TONE BAR"⟩,
  ⟨0xA710, "MODIFIER LETTER ", "LOW DOTTED LEFT-STEM TONE BAR;EXTRA-LOW DOTTED LEFT-STEM TONE BAR"⟩,
  ⟨0xA712, "MODIFIER LETTER ", "EXTRA-HIGH LEFT-STEM TONE BAR;HIGH LEFT-STEM TONE BAR"⟩,
  ⟨0xA714, "MODIFIER LETTER ", "MID LEFT-STEM TONE BAR;LOW LEFT-STEM TONE BAR;EXTRA-LOW LEFT-STEM TONE BAR"⟩,
  ⟨0xA717, "MODIFIER LETTER ", "DOT VERTICAL BAR;DOT SLASH;DOT HORIZONTAL BAR;LOWER RIGHT CORNER ANGLE"⟩,
  ⟨0xA71B, "MODIFIER LETTER RAISED ", "UP ARROW;DOWN ARROW;EXCLAMATION MARK;INVERTED EXCLAMATION MARK"⟩,
  ⟨0xA71F, "MODIFIER LETTER ", "LOW INVERTED EXCLAMATION MARK;STRESS AND HIGH TONE;STRESS AND LOW TONE"⟩,
  ⟨0xA722, "LATIN ", "CAPITAL LETTER EGYPTOLOGICAL ALEF;SMALL LETTER EGYPTOLOGICAL ALEF"⟩,
  ⟨0xA724, "LATIN ", "CAPITAL LETTER EGYPTOLOGICAL AIN;SMALL LETTER EGYPTOLOGICAL AIN"⟩,
  ⟨0xA726, "LATIN ", "CAPITAL LETTER HENG;SMALL LETTER HENG;CAPITAL LETTER TZ;SMALL LETTER TZ"⟩,
  ⟨0xA72A, "LATIN ", "CAPITAL LETTER TRESILLO;SMALL LETTER TRESILLO;CAPITAL LETTER CUATRILLO;SMALL LETTER CUATRILLO"⟩,
  ⟨0xA72E, "LATIN ", "CAPITAL LETTER CUATRILLO WITH COMMA;SMALL LETTER CUATRILLO WITH COMMA;LETTER SMALL CAPITAL F"⟩,
  ⟨0xA731, "LATIN ", "LETTER SMALL CAPITAL S;CAPITAL LETTER AA;SMALL LETTER AA;CAPITAL LETTER AO"⟩,
  ⟨0xA735, "LATIN ", "SMALL LETTER AO;CAPITAL LETTER AU;SMALL LETTER AU;CAPITAL LETTER AV;SMALL LETTER AV"⟩,
  ⟨0xA73A, "LATIN ", "CAPITAL LETTER AV WITH HORIZONTAL BAR;SMALL LETTER AV WITH HORIZONTAL BAR;CAPITAL LETTER AY"⟩,
  ⟨0xA73D, "LATIN ", "SMALL LETTER AY;CAPITAL LETTER REVERSED C WITH DOT;SMALL LETTER REVERSED C WITH DOT"⟩,
  ⟨0xA740, "LATIN ", "CAPITAL LETTER K WITH STROKE;SMALL LETTER K WITH STROKE;CAPITAL LETTER K WITH DIAGONAL STROKE"⟩,
  ⟨0xA743, "LATIN ", "SMALL LETTER K WITH DIAGONAL STROKE;CAPITAL LETTER K WITH STROKE AND DIAGONAL STROKE"⟩,
  ⟨0xA745, "", "LATIN SMALL LETTER K WITH STROKE AND DIAGONAL STROKE"⟩,
  ⟨0xA746, "LATIN ", "CAPITAL LETTER BROKEN L;SMALL LETTER BROKEN L;CAPITAL LETTER L WITH HIGH STROKE"⟩,
  ⟨0xA749, "LATIN ", "SMALL LETTER L WITH HIGH STROKE;CAPITAL LETTER O WITH LONG STROKE OVERLAY"⟩,
  ⟨0xA74B, "LATIN ", "SMALL LETTER O WITH LONG STROKE OVERLAY;CAPITAL LETTER O WITH LOOP;SMALL LETTER O WITH LOOP"⟩,
  ⟨0xA74E, "LATIN ", "CAPITAL LETTER OO;SMALL LETTER OO;CAPITAL LETTER P WITH STROKE THROUGH DESCENDER"⟩,
  ⟨0xA751, "LATIN ", "SMALL LETTER P WITH STROKE THROUGH DESCENDER;CAPITAL LETTER P WITH FLOURISH"⟩,
  ⟨0xA753, "LATIN ", "SMALL LETTER P WITH FLOURISH;CAPITAL LETTER P WITH SQUIRREL TAIL"⟩,
  ⟨0xA755, "LATIN ", "SMALL LETTER P WITH SQUIRREL TAIL;CAPITAL LETTER Q WITH STROKE THROUGH DESCENDER"⟩,
  ⟨0xA757, "LATIN ", "SMALL LETTER Q WITH STROKE THROUGH DESCENDER;CAPITAL LETTER Q WITH DIAGONAL STROKE"⟩,
  ⟨0xA759, "LATIN ", "SMALL LETTER Q WITH DIAGONAL STROKE;CAPITAL LETTER R ROTUNDA;SMALL LETTER R ROTUNDA"⟩,
  ⟨0xA75C, "LATIN ", "CAPITAL LETTER RUM ROTUNDA;SMALL LETTER RUM ROTUNDA;CAPITAL LETTER V WITH DIAGONAL STROKE"⟩,
  ⟨0xA75F, "LATIN ", "SMALL LETTER V WITH DIAGONAL STROKE;CAPITAL LETTER VY;SMALL LETTER VY"⟩,
  ⟨0xA762, "LATIN ", "CAPITAL LETTER VISIGOTHIC Z;SMALL LETTER VISIGOTHIC Z;CAPITAL LETTER THORN WITH STROKE"⟩,
  ⟨0xA765, "LATIN ", "SMALL LETTER THORN WITH STROKE;CAPITAL LETTER THORN WITH STROKE THROUGH DESCENDER"⟩,
  ⟨0xA767, "LATIN ", "SMALL LETTER THORN WITH STROKE THROUGH DESCENDER;CAPITAL LETTER VEND;SMALL LETTER VEND"⟩,
  ⟨0xA76A, "LATIN ", "CAPITAL LETTER ET;SMALL LETTER ET;CAPITAL LETTER IS;SMALL LETTER IS;CAPITAL LETTER CON"⟩,
  ⟨0xA76F, "", "LATIN SMALL LETTER CON;MODIFIER LETTER US"⟩,
  ⟨0xA771, "LATIN SMALL LETTER ", "DUM;LUM;MUM;NUM;RUM"⟩,
  ⟨0xA776, "LATIN ", "LETTER SMALL CAPITAL RUM;SMALL LETTER TUM;SMALL LETTER UM;CAPITAL LETTER INSULAR D"⟩,
  ⟨0xA77A, "LATIN ", "SMALL LETTER INSULAR D;CAPITAL LETTER INSULAR F;SMALL LETTER INSULAR F"⟩,
  ⟨0xA77D, "LATIN CAPITAL LETTER ", "INSULAR G;TURNED INSULAR G"⟩,
  ⟨0xA77F, "LATIN ", "SMALL LETTER TURNED INSULAR G;CAPITAL LETTER TURNED L"⟩,
  ⟨0xA781, "LATIN ", "SMALL LETTER TURNED L;CAPITAL LETTER INSULAR R;SMALL LETTER INSULAR R;CAPITAL LETTER INSULAR S"⟩,
  ⟨0xA785, "LATIN ", "SMALL LETTER INSULAR S;CAPITAL LETTER INSULAR T;SMALL LETTER INSULAR T"⟩,
  ⟨0xA788, "MODIFIER LETTER ", "LOW CIRCUMFLEX ACCENT;COLON;SHORT EQUALS SIGN"⟩,
  ⟨0xA78B, "LATIN ", "CAPITAL LETTER SALTILLO;SMALL LETTER SALTILLO"⟩,
  ⟨0xA78D, "LATIN ", "CAPITAL LETTER TURNED H;SMALL LETTER L WITH RETROFLEX HOOK AND BELT;LETTER SINOLOGICAL DOT"⟩,
  ⟨0xA790, "LATIN ", "CAPITAL LETTER N WITH DESCENDER;SMALL LETTER N WITH DESCENDER;CAPITAL LETTER C WITH BAR"⟩,
  ⟨0xA793, "LATIN SMALL LETTER ", "C WITH BAR;C WITH PALATAL HOOK;H WITH PALATAL HOOK"⟩,
  ⟨0xA796, "", "LATIN CAPITAL LETTER B WITH FLOURISH"⟩,
  ⟨0xA797, "LATIN ", "SMALL LETTER B WITH FLOURISH;CAPITAL LETTER F WITH STROKE;SMALL LETTER F WITH STROKE"⟩,
  ⟨0xA79A, "LATIN ", "CAPITAL LETTER VOLAPUK AE;SMALL LETTER VOLAPUK AE;CAPITAL LETTER VOLAPUK OE"⟩,
  ⟨0xA79D, "LATIN ", "SMALL LETTER VOLAPUK OE;CAPITAL LETTER VOLAPUK UE;SMALL LETTER VOLAPUK UE"⟩,
  ⟨0xA7A0, "LATIN ", "CAPITAL LETTER G WITH OBLIQUE STROKE;SMALL LETTER G WITH OBLIQUE STROKE"⟩,
  ⟨0xA7A2, "LATIN ", "CAPITAL LETTER K WITH OBLIQUE STROKE;SMALL LETTER K WITH OBLIQUE STROKE"⟩,
  ⟨0xA7A4, "LATIN ", "CAPITAL LETTER N WITH OBLIQUE STROKE;SMALL LETTER N WITH OBLIQUE STROKE"⟩,
  ⟨0xA7A6, "LATIN ", "CAPITAL LETTER R WITH OBLIQUE STROKE;SMALL LETTER R WITH OBLIQUE STROKE"⟩,
  ⟨0xA7A8, "LATIN ", "CAPITAL LETTER S WITH OBLIQUE STROKE;SMALL LETTER S WITH OBLIQUE STROKE"⟩,
  ⟨0xA7AA, "LATIN CAPITAL LETTER ", "H WITH HOOK;REVERSED OPEN E;SCRIPT G;L WITH BELT;SMALL CAPITAL I"⟩,
  ⟨0xA7AF, "", "LATIN LETTER SMALL CAPITAL Q"⟩,
  ⟨0xA7B0, "LATIN CAPITAL LETTER ", "TURNED K;TURNED T;J WITH CROSSED-TAIL;CHI;BETA"⟩,
  ⟨0xA7B5, "LATIN ", "SMALL LETTER BETA;CAPITAL LETTER OMEGA;SMALL LETTER OMEGA"⟩,
  ⟨0xA7B8, "LATIN ", "CAPITAL LETTER U WITH STROKE;SMALL LETTER U WITH STROKE;CAPITAL LETTER GLOTTAL A"⟩,
  ⟨0xA7BB, "LATIN ", "SMALL LETTER GLOTTAL A;CAPITAL LETTER GLOTTAL I;SMALL LETTER GLOTTAL I"⟩,
  ⟨0xA7BE, "LATIN ", "CAPITAL LETTER GLOTTAL U;SMALL LETTER GLOTTAL U;CAPITAL LETTER OLD POLISH O"⟩,
  ⟨0xA7C1, "LATIN ", "SMALL LETTER OLD POLISH O;CAPITAL LETTER ANGLICANA W;SMALL LETTER ANGLICANA W"⟩,
  ⟨0xA7C4, "LATIN CAPITAL LETTER ", "C WITH PALATAL HOOK;S WITH HOOK;Z WITH PALATAL HOOK;D WITH SHORT STROKE OVERLAY"⟩,
  ⟨0xA7C8, "", "LATIN SMALL LETTER D WITH SHORT STROKE OVERLAY"⟩,
  ⟨0xA7C9, "LATIN ", "CAPITAL LETTER S WITH SHORT STROKE OVERLAY;SMALL LETTER S WITH SHORT STROKE OVERLAY"⟩,
  ⟨0xA7D0, "LATIN ", "CAPITAL LETTER CLOSED INSULAR G;SMALL LETTER CLOSED INSULAR G"⟩,
  ⟨0xA7D3, "", "LATIN SMALL LETTER DOUBLE THORN"⟩,
  ⟨0xA7D5, "LATIN ", "SMALL LETTER DOUBLE WYNN;CAPITAL LETTER MIDDLE SCOTS S"⟩,
  ⟨0xA7D7, "LATIN ", "SMALL LETTER MIDDLE SCOTS S;CAPITAL LETTER SIGMOID S;SMALL LETTER SIGMOID S"⟩,
  ⟨0xA7F2, "MODIFIER LETTER CAPITAL ", "C;F;Q"⟩,
  ⟨0xA7F5, "LATIN ", "CAPITAL LETTER REVERSED HALF H;SMALL LETTER REVERSED HALF H;EPIGRAPHIC LETTER SIDEWAYS I"⟩,
  ⟨0xA7F8, "MODIFIER LETTER ", "CAPITAL H WITH STROKE;SMALL LIGATURE OE"⟩,
  ⟨0xA7FA, "", "LATIN LETTER SMALL CAPITAL TURNED M"⟩,
  ⟨0xA7FB, "LATIN EPIGRAPHIC LETTER ", "REVERSED F;REVERSED P;INVERTED M;I LONGA;ARCHAIC M"⟩,
  ⟨0xA800, "SYLOTI NAGRI ", "LETTER A;LETTER I;SIGN DVISVARA;LETTER U;LETTER E"⟩,
  ⟨0xA805, "SYLOTI NAGRI ", "LETTER O;SIGN HASANTA;LETTER KO;LETTER KHO;LETTER GO;LETTER GHO;SIGN ANUSVARA;LETTER CO"⟩,
  ⟨0xA80D, "SYLOTI NAGRI LETTER ", "CHO;JO;JHO;TTO;TTHO;DDO;DDHO;TO;THO;DO;DHO;NO;PO;PHO;BO;BHO;MO;RO;LO;RRO;SO;HO"⟩,
  ⟨0xA823, "SYLOTI NAGRI VOWEL SIGN ", "A;I;U;E;OO"⟩,
  ⟨0xA828, "SYLOTI NAGRI POETRY MARK-", "1;2;3;4"⟩,
  ⟨0xA82C, "", "SYLOTI NAGRI SIGN ALTERNATE HASANTA"⟩,
  ⟨0xA830, "NORTH INDIC FRACTION ", "ONE QUARTER;ONE HALF;THREE QUARTERS;ONE SIXTEENTH;ONE EIGHTH;THREE SIXTEENTHS"⟩,
  ⟨0xA836, "NORTH INDIC ", "QUARTER MARK;PLACEHOLDER MARK;RUPEE MARK;QUANTITY MARK"⟩,
  ⟨0xA840, "PHAGS-PA LETTER ", "KA;KHA;GA;NGA;CA;CHA;JA;NYA;TA;THA;DA;NA;PA;PHA"⟩,
  ⟨0xA84E, "PHAGS-PA LETTER ", "BA;MA;TSA;TSHA;DZA;WA;ZHA;ZA;SMALL A;YA;RA;LA;SHA;SA;HA;A;I;U;E;O;QA;XA;FA;GGA;EE"⟩,
  ⟨0xA867, "PHAGS-PA SUBJOINED LETTER ", "WA;YA"⟩,
  ⟨0xA869, "PHAGS-PA LETTER ", "TTA;TTHA;DDA;NNA;ALTERNATE YA;VOICELESS SHA;VOICED HA;ASPIRATED FA"⟩,
  ⟨0xA871, "PHAGS-PA ", "SUBJOINED LETTER RA;SUPERFIXED LETTER RA"⟩,
  ⟨0xA873, "PHAGS-PA ", "LETTER CANDRABINDU;SINGLE HEAD MARK;DOUBLE HEAD MARK;MARK SHAD;MARK DOUBLE SHAD"⟩,
  ⟨0xA880, "SAURASHTRA SIGN ", "ANUSVARA;VISARGA"⟩,
  ⟨0xA882, "SAURASHTRA LETTER ", "A;AA;I;II;U;UU;VOCALIC R;VOCALIC RR"⟩,
  ⟨0xA88A, "SAURASHTRA LETTER ", "VOCALIC L;VOCALIC LL;E;EE;AI;O;OO;AU;KA;KHA;GA;GHA;NGA;CA;CHA;JA;JHA;NYA;TTA"⟩,
  ⟨0xA89D, "SAURASHTRA LETTER ", "TTHA;DDA;DDHA;NNA;TA;THA;DA;DHA;NA;PA;PHA;BA;BHA;MA;YA;RA;LA;VA;SHA;SSA;SA;HA;LLA"⟩,
  ⟨0xA8B4, "", "SAURASHTRA CONSONANT SIGN HAARU"⟩,
  ⟨0xA8B5, "SAURASHTRA VOWEL SIGN ", "AA;I;II;U;UU;VOCALIC R;VOCALIC RR;VOCALIC L;VOCALIC LL;E;EE;AI;O;OO;AU"⟩,
  ⟨0xA8C4, "SAURASHTRA SIGN ", "VIRAMA;CANDRABINDU"⟩,
  ⟨0xA8CE, "SAURASHTRA ", "DANDA;DOUBLE DANDA"⟩,
  ⟨0xA8D0, "SAURASHTRA DIGIT ", "ZERO;ONE;TWO;THREE;FOUR;FIVE;SIX;SEVEN;EIGHT;NINE"⟩,
  ⟨0xA8E0, "COMBINING DEVANAGARI DIGIT ", "ZERO;ONE;TWO;THREE;FOUR;FIVE;SIX;SEVEN;EIGHT;NINE"⟩,
  ⟨0xA8EA, "COMBINING DEVANAGARI LETTER ", "A;U;KA;NA;PA;RA;VI"⟩,
  ⟨0xA8F1, "", "COMBINING DEVANAGARI SIGN AVAGRAHA"⟩,
  ⟨0xA8F2, "DEVANAGARI SIGN ", "SPACING CANDRABINDU;CANDRABINDU VIRAMA;DOUBLE CANDRABINDU VIRAMA"⟩,
  ⟨0xA8F5, "DEVANAGARI SIGN CANDRABINDU ", "TWO;THREE;AVAGRAHA"⟩,
  ⟨0xA8F8, "DEVANAGARI ", "SIGN PUSHPIKA;GAP FILLER;CARET;HEADSTROKE;SIGN SIDDHAM;JAIN OM;LETTER AY;VOWEL SIGN AY"⟩,
  ⟨0xA900, "KAYAH LI DIGIT ", "ZERO;ONE;TWO;THREE;FOUR;FIVE;SIX;SEVEN;EIGHT;NINE"⟩,
  ⟨0xA90A, "KAYAH LI LETTER ", "KA;KHA"⟩,
  ⟨0xA90C, "KAYAH LI LETTER ", "GA;NGA;SA;SHA;ZA;NYA;TA;HTA;NA;PA;PHA;MA;DA;BA;RA;YA;LA;WA;THA;HA;VA;CA;A;OE;I;OO"⟩,
  ⟨0xA926, "KAYAH LI VOWEL ", "UE;E;U;EE;O"⟩,
  ⟨0xA92B, "KAYAH LI ", "TONE PLOPHU;TONE CALYA;TONE CALYA PLOPHU;SIGN CWI;SIGN SHYA"⟩,
  ⟨0xA930, "REJANG LETTER ", "KA;GA;NGA;TA;DA;NA;PA;BA;MA;CA;JA;NYA;SA;RA;LA;YA;WA;HA;MBA;NGGA;NDA;NYJA;A"⟩,
  ⟨0xA947, "REJANG VOWEL SIGN ", "I;U;E;AI;O;AU;EU;EA"⟩,
  ⟨0xA94F, "REJANG CONSONANT SIGN ", "NG;N;R;H"⟩,
  ⟨0xA953, "", "REJANG VIRAMA"⟩,
  ⟨0xA95F, "", "REJANG SECTION MARK"⟩,
  ⟨0xA960, "HANGUL CHOSEONG TIKEUT-", "MIEUM;PIEUP;SIOS;CIEUC"⟩,
  ⟨0xA964, "HANGUL CHOSEONG RIEUL-", "KIYEOK;SSANGKIYEOK;TIKEUT;SSANGTIKEUT;MIEUM;PIEUP;SSANGPIEUP;KAPYEOUNPIEUP"⟩,
  ⟨0xA96C, "HANGUL CHOSEONG ", "RIEUL-SIOS;RIEUL-CIEUC;RIEUL-KHIEUKH;MIEUM-KIYEOK;MIEUM-TIKEUT"⟩,
  ⟨0xA971, "HANGUL CHOSEONG ", "MIEUM-SIOS;PIEUP-SIOS-THIEUTH;PIEUP-KHIEUKH;PIEUP-HIEUH;SSANGSIOS-PIEUP;IEUNG-RIEUL"⟩,
  ⟨0xA977, "HANGUL CHOSEONG ", "IEUNG-HIEUH;SSANGCIEUC-HIEUH;SSANGTHIEUTH;PHIEUPH-HIEUH;HIEUH-SIOS;SSANGYEORINHIEUH"⟩,
  ⟨0xA980, "JAVANESE SIGN ", "PANYANGGA;CECAK;LAYAR;WIGNYAN"⟩,
  ⟨0xA984, "JAVANESE LETTER ", "A;I KAWI;I;II;U;PA CEREK;NGA LELET;NGA LELET RASWADI"⟩,
  ⟨0xA98C, "JAVANESE LETTER ", "E;AI;O;KA;KA SASAK;KA MURDA;GA;GA MURDA;NGA;CA;CA MURDA;JA;NYA MURDA;JA MAHAPRANA"⟩,
  ⟨0xA99A, "JAVANESE LETTER ", "NYA;TTA;TTA MAHAPRANA;DDA;DDA MAHAPRANA;NA MURDA;TA;TA MURDA;DA;DA MAHAPRANA"⟩,
  ⟨0xA9A4, "JAVANESE LETTER ", "NA;PA;PA MURDA;BA;BA MURDA;MA;YA;RA;RA AGUNG;LA;WA;SA MURDA;SA MAHAPRANA;SA;HA"⟩,
  ⟨0xA9B3, "", "JAVANESE SIGN CECAK TELU"⟩,
  ⟨0xA9B4, "JAVANESE VOWEL SIGN ", "TARUNG;TOLONG;WULU;WULU MELIK;SUKU;SUKU MENDUT;TALING;DIRGA MURE;PEPET"⟩,
  ⟨0xA9BD, "JAVANESE CONSONANT SIGN ", "KERET;PENGKAL;CAKRA"⟩,
  ⟨0xA9C0, "JAVANESE ", "PANGKON;LEFT RERENGGAN;RIGHT RERENGGAN"⟩,
  ⟨0xA9C3, "JAVANESE PADA ", "ANDAP;MADYA;LUHUR;WINDU;PANGKAT;LINGSA;LUNGSI;ADEG;ADEG ADEG;PISELEH"⟩,
  ⟨0xA9CD, "", "JAVANESE TURNED PADA PISELEH"⟩,
  ⟨0xA9CF, "", "JAVANESE PANGRANGKEP"⟩,
  ⟨0xA9D0, "JAVANESE DIGIT ", "ZERO;ONE;TWO;THREE;FOUR;FIVE;SIX;SEVEN;EIGHT;NINE"⟩,
  ⟨0xA9DE, "JAVANESE PADA ", "TIRTA TUMETES;ISEN-ISEN"⟩,
  ⟨0xA9E0, "MYANMAR LETTER SHAN ", "GHA;CHA;JHA;NNA;BHA"⟩,
  ⟨0xA9E5, "MYANMAR ", "SIGN SHAN SAW;MODIFIER LETTER SHAN REDUPLICATION"⟩,
  ⟨0xA9E7, "MYANMAR LETTER TAI LAING ", "NYA;FA;GA;GHA;JA;JHA;DDA;DDHA;NNA"⟩,
  ⟨0xA9F0, "MYANMAR TAI LAING DIGIT ", "ZERO;ONE;TWO;THREE;FOUR;FIVE;SIX;SEVEN;EIGHT;NINE"⟩,
  ⟨0xA9FA, "MYANMAR LETTER TAI LAING ", "LLA;DA;DHA;BA;BHA"⟩,
  ⟨0xAA00, "CHAM LETTER ", "A;I;U;E;AI;O;KA;KHA;GA;GHA;NGUE;NGA;CHA;CHHA;JA;JHA;NHUE"⟩,
  ⟨0xAA11, "CHAM LETTER ", "NHA;NHJA;TA;THA;DA;DHA;NUE;NA;DDA;PA;PPA;PHA;BA;BHA;MUE;MA;BBA;YA;RA;LA;VA;SSA;SA;HA"⟩,
  ⟨0xAA29, "CHAM VOWEL SIGN ", "AA;I;II;EI;U;OE;O;AI;AU;UE"⟩,
  ⟨0xAA33, "CHAM CONSONANT SIGN ", "YA;RA;LA;WA"⟩,
  ⟨0xAA40, "CHAM LETTER FINAL ", "K;G;NG"⟩,
  ⟨0xAA43, "", "CHAM CONSONANT SIGN FINAL NG"⟩,
  ⟨0xAA44, "CHAM LETTER FINAL ", "CH;T;N;P;Y;R;L;SS"⟩,
  ⟨0xAA4C, "CHAM CONSONANT SIGN FINAL ", "M;H"⟩,
  ⟨0xAA50, "CHAM DIGIT ", "ZERO;ONE;TWO;THREE;FOUR;FIVE;SIX;SEVEN;EIGHT;NINE"⟩,
  ⟨0xAA5C, "CHAM PUNCTUATION ", "SPIRAL;DANDA;DOUBLE DANDA;TRIPLE DANDA"⟩,
  ⟨0xAA60, "MYANMAR LETTER KHAMTI ", "GA;CA;CHA;JA;JHA;NYA;TTA;TTHA;DDA;DDHA;DHA;NA;SA;HA;HHA;FA"⟩,
  ⟨0xAA70, "", "MYANMAR MODIFIER LETTER KHAMTI REDUPLICATION"⟩,
  ⟨0xAA71, "MYANMAR LETTER KHAMTI ", "XA;ZA;RA"⟩,
  ⟨0xAA74, "MYANMAR LOGOGRAM KHAMTI ", "OAY;QN;HM"⟩,
  ⟨0xAA77, "MYANMAR SYMBOL AITON ", "EXCLAMATION;ONE;TWO"⟩,
  ⟨0xAA7A, "MYANMAR ", "LETTER AITON RA;SIGN PAO KAREN TONE;SIGN TAI LAING TONE-2;SIGN TAI LAING TONE-5"⟩,
  ⟨0xAA7E, "MYANMAR LETTER SHWE PALAUNG ", "CHA;SHA"⟩,
  ⟨0xAA80, "TAI VIET LETTER ", "LOW KO;HIGH KO;LOW KHO;HIGH KHO;LOW KHHO;HIGH KHHO"⟩,
  ⟨0xAA86, "TAI VIET LETTER ", "LOW GO;HIGH GO;LOW NGO;HIGH NGO;LOW CO;HIGH CO;LOW CHO;HIGH CHO;LOW SO;HIGH SO"⟩,
  ⟨0xAA90, "TAI VIET LETTER ", "LOW NYO;HIGH NYO;LOW DO;HIGH DO;LOW TO;HIGH TO;LOW THO;HIGH THO;LOW NO;HIGH NO"⟩,
  ⟨0xAA9A, "TAI VIET LETTER ", "LOW BO;HIGH BO;LOW PO;HIGH PO;LOW PHO;HIGH PHO;LOW FO;HIGH FO;LOW MO;HIGH MO;LOW YO"⟩,
  ⟨0xAAA5, "TAI VIET LETTER ", "HIGH YO;LOW RO;HIGH RO;LOW LO;HIGH LO;LOW VO;HIGH VO;LOW HO;HIGH HO;LOW O;HIGH O"⟩,
  ⟨0xAAB0, "TAI VIET ", "MAI KANG;VOWEL AA;VOWEL I;VOWEL UE;VOWEL U;VOWEL E;VOWEL O;MAI KHIT"⟩,
  ⟨0xAAB8, "TAI VIET VOWEL ", "IA;UEA;UA;AUE;AY;AN;AM"⟩,
  ⟨0xAABF, "TAI VIET TONE MAI ", "EK;NUENG;THO;SONG"⟩,
  ⟨0xAADB, "TAI VIET SYMBOL ", "KON;NUENG;SAM;HO HOI;KOI KOI"⟩,
  ⟨0xAAE0, "MEETEI MAYEK LETTER ", "E;O;CHA;NYA;TTA;TTHA;DDA;DDHA;NNA;SHA;SSA"⟩,
  ⟨0xAAEB, "MEETEI MAYEK VOWEL SIGN ", "II;UU;AAI;AU;AAU"⟩,
  ⟨0xAAF0, "MEETEI MAYEK ", "CHEIKHAN;AHANG KHUDAM"⟩,
  ⟨0xAAF2, "MEETEI MAYEK ", "ANJI;SYLLABLE REPETITION MARK;WORD REPETITION MARK;VOWEL SIGN VISARGA;VIRAMA"⟩,
  ⟨0xAB01, "ETHIOPIC SYLLABLE ", "TTHU;TTHI;TTHAA;TTHEE;TTHE;TTHO"⟩,
  ⟨0xAB09, "ETHIOPIC SYLLABLE ", "DDHU;DDHI;DDHAA;DDHEE;DDHE;DDHO"⟩,
  ⟨0xAB11, "ETHIOPIC SYLLABLE ", "DZU;DZI;DZAA;DZEE;DZE;DZO"⟩,
  ⟨0xAB20, "ETHIOPIC SYLLABLE ", "CCHHA;CCHHU;CCHHI;CCHHAA;CCHHEE;CCHHE;CCHHO"⟩,
  ⟨0xAB28, "ETHIOPIC SYLLABLE ", "BBA;BBU;BBI;BBAA;BBEE;BBE;BBO"⟩,
  ⟨0xAB30, "LATIN SMALL LETTER ", "BARRED ALPHA;A REVERSED-SCHWA;BLACKLETTER E;BARRED E;E WITH FLOURISH;LENIS F"⟩,
  ⟨0xAB36, "LATIN SMALL LETTER ", "SCRIPT G WITH CROSSED-TAIL;L WITH INVERTED LAZY S;L WITH DOUBLE MIDDLE TILDE"⟩,
  ⟨0xAB39, "LATIN SMALL LETTER ", "L WITH MIDDLE RING;M WITH CROSSED-TAIL;N WITH CROSSED-TAIL;ENG WITH CROSSED-TAIL"⟩,
  ⟨0xAB3D, "LATIN SMALL LETTER ", "BLACKLETTER O;BLACKLETTER O WITH STROKE;OPEN O WITH STROKE;INVERTED OE"⟩,
  ⟨0xAB41, "LATIN SMALL LETTER TURNED ", "OE WITH STROKE;OE WITH HORIZONTAL STROKE;O OPEN-O;O OPEN-O WITH STROKE"⟩,
  ⟨0xAB45, "LATIN ", "SMALL LETTER STIRRUP R;LETTER SMALL CAPITAL R WITH RIGHT LEG"⟩,
  ⟨0xAB47, "LATIN SMALL LETTER ", "R WITHOUT HANDLE;DOUBLE R;R WITH CROSSED-TAIL"⟩,
  ⟨0xAB4A, "LATIN SMALL LETTER ", "DOUBLE R WITH CROSSED-TAIL;SCRIPT R;SCRIPT R WITH RING;BASELINE ESH"⟩,
  ⟨0xAB4E, "LATIN SMALL LETTER ", "U WITH SHORT RIGHT LEG;U BAR WITH SHORT RIGHT LEG;UI;TURNED UI;U WITH LEFT HOOK"⟩,
  ⟨0xAB53, "LATIN SMALL LETTER ", "CHI;CHI WITH LOW RIGHT RING;CHI WITH LOW LEFT SERIF;X WITH LOW RIGHT RING"⟩,
  ⟨0xAB57, "LATIN SMALL LETTER X WITH LONG LEFT ", "LEG;LEG AND LOW RIGHT RING;LEG WITH SERIF"⟩,
  ⟨0xAB5A, "", "LATIN SMALL LETTER Y WITH SHORT RIGHT LEG;MODIFIER BREVE WITH INVERTED BREVE"⟩,
  ⟨0xAB5C, "MODIFIER LETTER SMALL ", "HENG;L WITH INVERTED LAZY S;L WITH MIDDLE TILDE;U WITH LEFT HOOK"⟩,
  ⟨0xAB60, "LATIN SMALL LETTER ", "SAKHA YAT;IOTIFIED E;OPEN OE;UO;INVERTED ALPHA"⟩,
  ⟨0xAB65, "", "GREEK LETTER SMALL CAPITAL OMEGA;LATIN SMALL LETTER DZ DIGRAPH WITH RETROFLEX HOOK"⟩,
  ⟨0xAB67, "LATIN SMALL LETTER ", "TS DIGRAPH WITH RETROFLEX HOOK;TURNED R WITH MIDDLE TILDE"⟩,
  ⟨0xAB69, "MODIFIER LETTER ", "SMALL TURNED W;LEFT TACK;RIGHT TACK"⟩,
  ⟨0xAB70, "CHEROKEE SMALL LETTER ", "A;E;I;O;U;V;GA;KA;GE"⟩,
  ⟨0xAB79, "CHEROKEE SMALL LETTER ", "GI;GO;GU;GV;HA;HE;HI;HO;HU;HV;LA;LE;LI;LO;LU;LV;MA;ME;MI;MO;MU;NA;HNA;NAH;NE"⟩,
  ⟨0xAB92, "CHEROKEE SMALL LETTER ", "NI;NO;NU;NV;QUA;QUE;QUI;QUO;QUU;QUV;SA;S;SE;SI;SO;SU;SV;DA;TA;DE;TE;DI;TI;DO"⟩,
  ⟨0xABAA, "CHEROKEE SMALL LETTER ", "DU;DV;DLA;TLA;TLE;TLI;TLO;TLU;TLV;TSA;TSE;TSI;TSO;TSU;TSV;WA;WE;WI;WO;WU;WV;YA"⟩,
  ⟨0xABC0, "MEETEI MAYEK LETTER ", "KOK;SAM;LAI;MIT;PA;NA;CHIL;TIL;KHOU;NGOU;THOU"⟩,
  ⟨0xABCB, "MEETEI MAYEK LETTER ", "WAI;YANG;HUK;UN;I;PHAM;ATIYA;GOK;JHAM;RAI;BA;JIL;DIL;GHOU;DHOU;BHAM;KOK LONSUM"⟩,
  ⟨0xABDC, "MEETEI MAYEK LETTER ", "LAI LONSUM;MIT LONSUM;PA LONSUM;NA LONSUM;TIL LONSUM;NGOU LONSUM;I LONSUM"⟩,
  ⟨0xABE3, "MEETEI MAYEK VOWEL SIGN ", "ONAP;INAP;ANAP;YENAP;SOUNAP;UNAP;CHEINAP;NUNG"⟩,
  ⟨0xABEB, "MEETEI MAYEK ", "CHEIKHEI;LUM IYEK;APUN IYEK"⟩,
  ⟨0xABF0, "MEETEI MAYEK DIGIT ", "ZERO;ONE;TWO;THREE;FOUR;FIVE;SIX;SEVEN;EIGHT;NINE"⟩,
  ⟨0xD7B0, "HANGUL JUNGSEONG ", "O-YEO;O-O-I;YO-A;YO-AE;YO-EO;U-YEO;U-I-I;YU-AE;YU-O"⟩,
  ⟨0xD7B9, "HANGUL JUNGSEONG ", "EU-A;EU-EO;EU-E;EU-O;I-YA-O;I-YAE;I-YEO;I-YE;I-O-I;I-YO;I-YU;I-I;ARAEA-A;ARAEA-E"⟩,
  ⟨0xD7CB, "HANGUL JONGSEONG ", "NIEUN-RIEUL;NIEUN-CHIEUCH;SSANGTIKEUT;SSANGTIKEUT-PIEUP"⟩,
  ⟨0xD7CF, "HANGUL JONGSEONG TIKEUT-", "PIEUP;SIOS;SIOS-KIYEOK;CIEUC;CHIEUCH;THIEUTH"⟩,
  ⟨0xD7D5, "HANGUL JONGSEONG ", "RIEUL-SSANGKIYEOK;RIEUL-KIYEOK-HIEUH;SSANGRIEUL-KHIEUKH"⟩,
  ⟨0xD7D8, "HANGUL JONGSEONG RIEUL-", "MIEUM-HIEUH;PIEUP-TIKEUT;PIEUP-PHIEUPH;YESIEUNG;YEORINHIEUH-HIEUH"⟩,
  ⟨0xD7DD, "HANGUL JONGSEONG ", "KAPYEOUNRIEUL;MIEUM-NIEUN;MIEUM-SSANGNIEUN;SSANGMIEUM;MIEUM-PIEUP-SIOS"⟩,
  ⟨0xD7E2, "HANGUL JONGSEONG ", "MIEUM-CIEUC;PIEUP-TIKEUT;PIEUP-RIEUL-PHIEUPH;PIEUP-MIEUM;SSANGPIEUP"⟩,
  ⟨0xD7E7, "HANGUL JONGSEONG ", "PIEUP-SIOS-TIKEUT;PIEUP-CIEUC;PIEUP-CHIEUCH;SIOS-MIEUM;SIOS-KAPYEOUNPIEUP"⟩,
  ⟨0xD7EC, "HANGUL JONGSEONG ", "SSANGSIOS-KIYEOK;SSANGSIOS-TIKEUT;SIOS-PANSIOS;SIOS-CIEUC;SIOS-CHIEUCH"⟩,
  ⟨0xD7F1, "HANGUL JONGSEONG ", "SIOS-THIEUTH;SIOS-HIEUH;PANSIOS-PIEUP;PANSIOS-KAPYEOUNPIEUP;YESIEUNG-MIEUM"⟩,
  ⟨0xD7F6, "HANGUL JONGSEONG ", "YESIEUNG-HIEUH;CIEUC-PIEUP;CIEUC-SSANGPIEUP;SSANGCIEUC;PHIEUPH-SIOS;PHIEUPH-THIEUTH"⟩,
  ⟨0xFB00, "LATIN SMALL LIGATURE ", "FF;FI;FL;FFI;FFL;LONG S T;ST"⟩,
  ⟨0xFB13, "ARMENIAN SMALL LIGATURE ", "MEN NOW;MEN ECH;MEN INI;VEW NOW;MEN XEH"⟩,
  ⟨0xFB1D, "", "HEBREW LETTER YOD WITH HIRIQ"⟩,
  ⟨0xFB1E, "HEBREW ", "POINT JUDEO-SPANISH VARIKA;LIGATURE YIDDISH YOD YOD PATAH;LETTER ALTERNATIVE AYIN"⟩,
  ⟨0xFB21, "HEBREW LETTER WIDE ", "ALEF;DALET;HE;KAF;LAMED;FINAL MEM;RESH;TAV"⟩,
  ⟨0xFB29, "", "HEBREW LETTER ALTERNATIVE PLUS SIGN"⟩,
  ⟨0xFB2A, "HEBREW LETTER SHIN WITH ", "SHIN DOT;SIN DOT;DAGESH AND SHIN DOT;DAGESH AND SIN DOT"⟩,
  ⟨0xFB2E, "HEBREW LETTER ", "ALEF WITH PATAH;ALEF WITH QAMATS;ALEF WITH MAPIQ;BET WITH DAGESH"⟩,
  ⟨0xFB32, "HEBREW LETTER ", "GIMEL WITH DAGESH;DALET WITH DAGESH;HE WITH MAPIQ;VAV WITH DAGESH;ZAYIN WITH DAGESH"⟩,
  ⟨0xFB38, "", "HEBREW LETTER TET WITH DAGESH"⟩,
  ⟨0xFB39, "HEBREW LETTER ", "YOD WITH DAGESH;FINAL KAF WITH DAGESH;KAF WITH DAGESH;LAMED WITH DAGESH"⟩,
  ⟨0xFB3E, "", "HEBREW LETTER MEM WITH DAGESH"⟩,
  ⟨0xFB40, "HEBREW LETTER ", "NUN WITH DAGESH;SAMEKH WITH DAGESH"⟩,
  ⟨0xFB43, "HEBREW LETTER ", "FINAL PE WITH DAGESH;PE WITH DAGESH"⟩,
  ⟨0xFB46, "HEBREW LETTER ", "TSADI WITH DAGESH;QOF WITH DAGESH;RESH WITH DAGESH;SHIN WITH DAGESH"⟩,
  ⟨0xFB4A, "HEBREW LETTER ", "TAV WITH DAGESH;VAV WITH HOLAM;BET WITH RAFE;KAF WITH RAFE;PE WITH RAFE"⟩,
  ⟨0xFB4F, "", "HEBREW LIGATURE ALEF LAMED"⟩,
  ⟨0xFB50, "ARABIC LETTER ALEF WASLA ", "ISOLATED FORM;FINAL FORM"⟩,
  ⟨0xFB52, "ARABIC LETTER BEEH ", "ISOLATED FORM;FINAL FORM;INITIAL FORM;MEDIAL FORM"⟩,
  ⟨0xFB56, "ARABIC LETTER PEH ", "ISOLATED FORM;FINAL FORM;INITIAL FORM;MEDIAL FORM"⟩,
  ⟨0xFB5A, "ARABIC LETTER BEHEH ", "ISOLATED FORM;FINAL FORM;INITIAL FORM;MEDIAL FORM"⟩,
  ⟨0xFB5E, "ARABIC LETTER TTEHEH ", "ISOLATED FORM;FINAL FORM;INITIAL FORM;MEDIAL FORM"⟩,
  ⟨0xFB62, "ARABIC LETTER TEHEH ", "ISOLATED FORM;FINAL FORM;INITIAL FORM;MEDIAL FORM"⟩,
  ⟨0xFB66, "ARABIC LETTER TTEH ", "ISOLATED FORM;FINAL FORM;INITIAL FORM;MEDIAL FORM"⟩,
  ⟨0xFB6A, "ARABIC LETTER VEH ", "ISOLATED FORM;FINAL FORM;INITIAL FORM;MEDIAL FORM"⟩,
  ⟨0xFB6E, "ARABIC LETTER PEHEH ", "ISOLATED FORM;FINAL FORM;INITIAL FORM;MEDIAL FORM"⟩,
  ⟨0xFB72, "ARABIC LETTER DYEH ", "ISOLATED FORM;FINAL FORM;INITIAL FORM;MEDIAL FORM"⟩,
  ⟨0xFB76, "ARABIC LETTER NYEH ", "ISOLATED FORM;FINAL FORM;INITIAL FORM;MEDIAL FORM"⟩,
  ⟨0xFB7A, "ARABIC LETTER TCHEH ", "ISOLATED FORM;FINAL FORM;INITIAL FORM;MEDIAL FORM"⟩,
  ⟨0xFB7E, "ARABIC LETTER TCHEHEH ", "ISOLATED FORM;FINAL FORM;INITIAL FORM;MEDIAL FORM"⟩,
  ⟨0xFB82, "ARABIC LETTER ", "DDAHAL ISOLATED FORM;DDAHAL FINAL FORM;DAHAL ISOLATED FORM"⟩,
  ⟨0xFB85, "ARABIC LETTER ", "DAHAL FINAL FORM;DUL ISOLATED FORM;DUL FINAL FORM;DDAL ISOLATED FORM"⟩,
  ⟨0xFB89, "ARABIC LETTER ", "DDAL FINAL FORM;JEH ISOLATED FORM;JEH FINAL FORM;RREH ISOLATED FORM;RREH FINAL FORM"⟩,
  ⟨0xFB8E, "ARABIC LETTER KEHEH ", "ISOLATED FORM;FINAL FORM;INITIAL FORM;MEDIAL FORM"⟩,
  ⟨0xFB92, "ARABIC LETTER GAF ", "ISOLATED FORM;FINAL FORM;INITIAL FORM;MEDIAL FORM"⟩,
  ⟨0xFB96, "ARABIC LETTER GUEH ", "ISOLATED FORM;FINAL FORM;INITIAL FORM;MEDIAL FORM"⟩,
  ⟨0xFB9A, "ARABIC LETTER NGOEH ", "ISOLATED FORM;FINAL FORM;INITIAL FORM;MEDIAL FORM"⟩,
  ⟨0xFB9E, "ARABIC LETTER NOON GHUNNA ", "ISOLATED FORM;FINAL FORM"⟩,
  ⟨0xFBA0, "ARABIC LETTER RNOON ", "ISOLATED FORM;FINAL FORM;INITIAL FORM;MEDIAL FORM"⟩,
  ⟨0xFBA4, "ARABIC LETTER HEH WITH YEH ABOVE ", "ISOLATED FORM;FINAL FORM"⟩,
  ⟨0xFBA6, "ARABIC LETTER HEH GOAL ", "ISOLATED FORM;FINAL FORM;INITIAL FORM;MEDIAL FORM"⟩,
  ⟨0xFBAA, "ARABIC LETTER HEH DOACHASHMEE ", "ISOLATED FORM;FINAL FORM;INITIAL FORM;MEDIAL FORM"⟩,
  ⟨0xFBAE, "ARABIC LETTER YEH BARREE ", "ISOLATED FORM;FINAL FORM"⟩,
  ⟨0xFBB0, "ARABIC LETTER YEH BARREE WITH HAMZA ABOVE ", "ISOLATED FORM;FINAL FORM"⟩,
  ⟨0xFBB2, "ARABIC SYMBOL ", "DOT ABOVE;DOT BELOW;TWO DOTS ABOVE;TWO DOTS BELOW"⟩,
  ⟨0xFBB6, "ARABIC SYMBOL THREE DOTS ", "ABOVE;BELOW;POINTING DOWNWARDS ABOVE;POINTING DOWNWARDS BELOW"⟩,
  ⟨0xFBBA, "ARABIC SYMBOL ", "FOUR DOTS ABOVE;FOUR DOTS BELOW;DOUBLE VERTICAL BAR BELOW;TWO DOTS VERTICALLY ABOVE"⟩,
  ⟨0xFBBE, "ARABIC SYMBOL ", "TWO DOTS VERTICALLY BELOW;RING;SMALL TAH ABOVE;SMALL TAH BELOW;WASLA ABOVE"⟩,
  ⟨0xFBD3, "ARABIC LETTER NG ", "ISOLATED FORM;FINAL FORM;INITIAL FORM;MEDIAL FORM"⟩,
  ⟨0xFBD7, "ARABIC LETTER ", "U ISOLATED FORM;U FINAL FORM;OE ISOLATED FORM;OE FINAL FORM;YU ISOLATED FORM"⟩,
  ⟨0xFBDC, "ARABIC LETTER ", "YU FINAL FORM;U WITH HAMZA ABOVE ISOLATED FORM;VE ISOLATED FORM;VE FINAL FORM"⟩,
  ⟨0xFBE0, "ARABIC LETTER KIRGHIZ ", "OE ISOLATED FORM;OE FINAL FORM;YU ISOLATED FORM;YU FINAL FORM"⟩,
  ⟨0xFBE4, "ARABIC LETTER E ", "ISOLATED FORM;FINAL FORM;INITIAL FORM;MEDIAL FORM"⟩,
  ⟨0xFBE8, "ARABIC LETTER UIGHUR KAZAKH KIRGHIZ ALEF MAKSURA ", "INITIAL FORM;MEDIAL FORM"⟩,
  ⟨0xFBEA, "ARABIC LIGATURE YEH WITH HAMZA ABOVE WITH ALEF ", "ISOLATED FORM;FINAL FORM"⟩,
  ⟨0xFBEC, "ARABIC LIGATURE YEH WITH HAMZA ABOVE WITH ", "AE ISOLATED FORM;AE FINAL FORM;WAW ISOLATED FORM"⟩,
  ⟨0xFBEF, "ARABIC LIGATURE YEH WITH HAMZA ABOVE WITH ", "WAW FINAL FORM;U ISOLATED FORM;U FINAL FORM"⟩,
  ⟨0xFBF2, "ARABIC LIGATURE YEH WITH HAMZA ABOVE WITH ", "OE ISOLATED FORM;OE FINAL FORM;YU ISOLATED FORM"⟩,
  ⟨0xFBF5, "ARABIC LIGATURE YEH WITH HAMZA ABOVE WITH ", "YU FINAL FORM;E ISOLATED FORM;E FINAL FORM;E INITIAL FORM"⟩,
  ⟨0xFBF9, "", "ARABIC LIGATURE UIGHUR KIRGHIZ YEH WITH HAMZA ABOVE WITH ALEF MAKSURA ISOLATED FORM"⟩,
  ⟨0xFBFA, "ARABIC LIGATURE UIGHUR KIRGHIZ YEH WITH HAMZA ABOVE WITH ALEF MAKSURA ", "FINAL FORM;INITIAL FORM"⟩,
  ⟨0xFBFC, "ARABIC LETTER FARSI YEH ", "ISOLATED FORM;FINAL FORM;INITIAL FORM;MEDIAL FORM"⟩,
  ⟨0xFC00, "ARABIC LIGATURE YEH WITH HAMZA ABOVE WITH ", "JEEM ISOLATED FORM;HAH ISOLATED FORM;MEEM ISOLATED FORM"⟩,
  ⟨0xFC03, "ARABIC LIGATURE YEH WITH HAMZA ABOVE WITH ", "ALEF MAKSURA ISOLATED FORM;YEH ISOLATED FORM"⟩,
  ⟨0xFC05, "ARABIC LIGATURE BEH WITH ", "JEEM ISOLATED FORM;HAH ISOLATED FORM;KHAH ISOLATED FORM"⟩,
  ⟨0xFC08, "ARABIC LIGATURE BEH WITH ", "MEEM ISOLATED FORM;ALEF MAKSURA ISOLATED FORM;YEH ISOLATED FORM"⟩,
  ⟨0xFC0B, "ARABIC LIGATURE TEH WITH ", "JEEM ISOLATED FORM;HAH ISOLATED FORM;KHAH ISOLATED FORM"⟩,
  ⟨0xFC0E, "ARABIC LIGATURE TEH WITH ", "MEEM ISOLATED FORM;ALEF MAKSURA ISOLATED FORM;YEH ISOLATED FORM"⟩,
  ⟨0xFC11, "ARABIC LIGATURE THEH WITH ", "JEEM ISOLATED FORM;MEEM ISOLATED FORM;ALEF MAKSURA ISOLATED FORM"⟩,
  ⟨0xFC14, "ARABIC LIGATURE ", "THEH WITH YEH ISOLATED FORM;JEEM WITH HAH ISOLATED FORM;JEEM WITH MEEM ISOLATED FORM"⟩,
  ⟨0xFC17, "ARABIC LIGATURE HAH WITH ", "JEEM ISOLATED FORM;MEEM ISOLATED FORM"⟩,
  ⟨0xFC19, "ARABIC LIGATURE KHAH WITH ", "JEEM ISOLATED FORM;HAH ISOLATED FORM;MEEM ISOLATED FORM"⟩,
  ⟨0xFC1C, "ARABIC LIGATURE SEEN WITH ", "JEEM ISOLATED FORM;HAH ISOLATED FORM;KHAH ISOLATED FORM;MEEM ISOLATED FORM"⟩,
  ⟨0xFC20, "ARABIC LIGATURE SAD WITH ", "HAH ISOLATED FORM;MEEM ISOLATED FORM"⟩,
  ⟨0xFC22, "ARABIC LIGATURE DAD WITH ", "JEEM ISOLATED FORM;HAH ISOLATED FORM;KHAH ISOLATED FORM;MEEM ISOLATED FORM"⟩,
  ⟨0xFC26, "ARABIC LIGATURE ", "TAH WITH HAH ISOLATED FORM;TAH WITH MEEM ISOLATED FORM;ZAH WITH MEEM ISOLATED FORM"⟩,
  ⟨0xFC29, "ARABIC LIGATURE AIN WITH ", "JEEM ISOLATED FORM;MEEM ISOLATED FORM"⟩,
  ⟨0xFC2B, "ARABIC LIGATURE GHAIN WITH ", "JEEM ISOLATED FORM;MEEM ISOLATED FORM"⟩,
  ⟨0xFC2D, "ARABIC LIGATURE FEH WITH ", "JEEM ISOLATED FORM;HAH ISOLATED FORM;KHAH ISOLATED FORM"⟩,
  ⟨0xFC30, "ARABIC LIGATURE FEH WITH ", "MEEM ISOLATED FORM;ALEF MAKSURA ISOLATED FORM;YEH ISOLATED FORM"⟩,
  ⟨0xFC33, "ARABIC LIGATURE QAF WITH ", "HAH ISOLATED FORM;MEEM ISOLATED FORM;ALEF MAKSURA ISOLATED FORM"⟩,
  ⟨0xFC36, "ARABIC LIGATURE ", "QAF WITH YEH ISOLATED FORM;KAF WITH ALEF ISOLATED FORM"⟩,
  ⟨0xFC38, "ARABIC LIGATURE KAF WITH ", "JEEM ISOLATED FORM;HAH ISOLATED FORM;KHAH ISOLATED FORM;LAM ISOLATED FORM"⟩,
  ⟨0xFC3C, "ARABIC LIGATURE KAF WITH ", "MEEM ISOLATED FORM;ALEF MAKSURA ISOLATED FORM;YEH ISOLATED FORM"⟩,
  ⟨0xFC3F, "ARABIC LIGATURE LAM WITH ", "JEEM ISOLATED FORM;HAH ISOLATED FORM;KHAH ISOLATED FORM"⟩,
  ⟨0xFC42, "ARABIC LIGATURE LAM WITH ", "MEEM ISOLATED FORM;ALEF MAKSURA ISOLATED FORM;YEH ISOLATED FORM"⟩,
  ⟨0xFC45, "ARABIC LIGATURE MEEM WITH ", "JEEM ISOLATED FORM;HAH ISOLATED FORM;KHAH ISOLATED FORM"⟩,
  ⟨0xFC48, "ARABIC LIGATURE MEEM WITH ", "MEEM ISOLATED FORM;ALEF MAKSURA ISOLATED FORM;YEH ISOLATED FORM"⟩,
  ⟨0xFC4B, "ARABIC LIGATURE NOON WITH ", "JEEM ISOLATED FORM;HAH ISOLATED FORM;KHAH ISOLATED FORM"⟩,
  ⟨0xFC4E, "ARABIC LIGATURE NOON WITH ", "MEEM ISOLATED FORM;ALEF MAKSURA ISOLATED FORM;YEH ISOLATED FORM"⟩,
  ⟨0xFC51, "", "ARABIC LIGATURE HEH WITH JEEM ISOLATED FORM"⟩,
  ⟨0xFC52, "ARABIC LIGATURE HEH WITH ", "MEEM ISOLATED FORM;ALEF MAKSURA ISOLATED FORM;YEH ISOLATED FORM"⟩,
  ⟨0xFC55, "ARABIC LIGATURE YEH WITH ", "JEEM ISOLATED FORM;HAH ISOLATED FORM;KHAH ISOLATED FORM"⟩,
  ⟨0xFC58, "ARABIC LIGATURE YEH WITH ", "MEEM ISOLATED FORM;ALEF MAKSURA ISOLATED FORM;YEH ISOLATED FORM"⟩,
  ⟨0xFC5B, "ARABIC LIGATURE ", "THAL WITH SUPERSCRIPT ALEF ISOLATED FORM;REH WITH SUPERSCRIPT ALEF ISOLATED FORM"⟩,
  ⟨0xFC5D, "", "ARABIC LIGATURE ALEF MAKSURA WITH SUPERSCRIPT ALEF ISOLATED FORM"⟩,
  ⟨0xFC5E, "ARABIC LIGATURE SHADDA WITH ", "DAMMATAN ISOLATED FORM;KASRATAN ISOLATED FORM;FATHA ISOLATED FORM"⟩,
  ⟨0xFC61, "ARABIC LIGATURE SHADDA WITH ", "DAMMA ISOLATED FORM;KASRA ISOLATED FORM;SUPERSCRIPT ALEF ISOLATED FORM"⟩,
  ⟨0xFC64, "ARABIC LIGATURE YEH WITH HAMZA ABOVE WITH ", "REH FINAL FORM;ZAIN FINAL FORM;MEEM FINAL FORM"⟩,
  ⟨0xFC67, "ARABIC LIGATURE YEH WITH HAMZA ABOVE WITH ", "NOON FINAL FORM;ALEF MAKSURA FINAL FORM;YEH FINAL FORM"⟩,
  ⟨0xFC6A, "ARABIC LIGATURE BEH WITH ", "REH FINAL FORM;ZAIN FINAL FORM"⟩,
  ⟨0xFC6C, "ARABIC LIGATURE BEH WITH ", "MEEM FINAL FORM;NOON FINAL FORM;ALEF MAKSURA FINAL FORM;YEH FINAL FORM"⟩,
  ⟨0xFC70, "ARABIC LIGATURE TEH WITH ", "REH FINAL FORM;ZAIN FINAL FORM;MEEM FINAL FORM;NOON FINAL FORM"⟩,
  ⟨0xFC74, "ARABIC LIGATURE ", "TEH WITH ALEF MAKSURA FINAL FORM;TEH WITH YEH FINAL FORM;THEH WITH REH FINAL FORM"⟩,
  ⟨0xFC77, "ARABIC LIGATURE THEH WITH ", "ZAIN FINAL FORM;MEEM FINAL FORM;NOON FINAL FORM;ALEF MAKSURA FINAL FORM"⟩,
  ⟨0xFC7B, "ARABIC LIGATURE ", "THEH WITH YEH FINAL FORM;FEH WITH ALEF MAKSURA FINAL FORM;FEH WITH YEH FINAL FORM"⟩,
  ⟨0xFC7E, "ARABIC LIGATURE ", "QAF WITH ALEF MAKSURA FINAL FORM;QAF WITH YEH FINAL FORM;KAF WITH ALEF FINAL FORM"⟩,
  ⟨0xFC81, "ARABIC LIGATURE KAF WITH ", "LAM FINAL FORM;MEEM FINAL FORM;ALEF MAKSURA FINAL FORM;YEH FINAL FORM"⟩,
  ⟨0xFC85, "ARABIC LIGATURE LAM WITH ", "MEEM FINAL FORM;ALEF MAKSURA FINAL FORM;YEH FINAL FORM"⟩,
  ⟨0xFC88, "ARABIC LIGATURE ", "MEEM WITH ALEF FINAL FORM;MEEM WITH MEEM FINAL FORM;NOON WITH REH FINAL FORM"⟩,
  ⟨0xFC8B, "ARABIC LIGATURE NOON WITH ", "ZAIN FINAL FORM;MEEM FINAL FORM;NOON FINAL FORM;ALEF MAKSURA FINAL FORM"⟩,
  ⟨0xFC8F, "ARABIC LIGATURE ", "NOON WITH YEH FINAL FORM;ALEF MAKSURA WITH SUPERSCRIPT ALEF FINAL FORM"⟩,
  ⟨0xFC91, "ARABIC LIGATURE YEH WITH ", "REH FINAL FORM;ZAIN FINAL FORM;MEEM FINAL FORM;NOON FINAL FORM"⟩,
  ⟨0xFC95, "ARABIC LIGATURE YEH WITH ", "ALEF MAKSURA FINAL FORM;YEH FINAL FORM;HAMZA ABOVE WITH JEEM INITIAL FORM"⟩,
  ⟨0xFC98, "ARABIC LIGATURE YEH WITH HAMZA ABOVE WITH ", "HAH INITIAL FORM;KHAH INITIAL FORM;MEEM INITIAL FORM"⟩,
  ⟨0xFC9B, "ARABIC LIGATURE ", "YEH WITH HAMZA ABOVE WITH HEH INITIAL FORM;BEH WITH JEEM INITIAL FORM"⟩,
  ⟨0xFC9D, "ARABIC LIGATURE BEH WITH ", "HAH INITIAL FORM;KHAH INITIAL FORM;MEEM INITIAL FORM;HEH INITIAL FORM"⟩,
  ⟨0xFCA1, "ARABIC LIGATURE TEH WITH ", "JEEM INITIAL FORM;HAH INITIAL FORM;KHAH INITIAL FORM;MEEM INITIAL FORM"⟩,
  ⟨0xFCA5, "ARABIC LIGATURE ", "TEH WITH HEH INITIAL FORM;THEH WITH MEEM INITIAL FORM;JEEM WITH HAH INITIAL FORM"⟩,
  ⟨0xFCA8, "ARABIC LIGATURE ", "JEEM WITH MEEM INITIAL FORM;HAH WITH JEEM INITIAL FORM;HAH WITH MEEM INITIAL FORM"⟩,
  ⟨0xFCAB, "ARABIC LIGATURE KHAH WITH ", "JEEM INITIAL FORM;MEEM INITIAL FORM"⟩,
  ⟨0xFCAD, "ARABIC LIGATURE SEEN WITH ", "JEEM INITIAL FORM;HAH INITIAL FORM;KHAH INITIAL FORM;MEEM INITIAL FORM"⟩,
  ⟨0xFCB1, "ARABIC LIGATURE SAD WITH ", "HAH INITIAL FORM;KHAH INITIAL FORM;MEEM INITIAL FORM"⟩,
  ⟨0xFCB4, "ARABIC LIGATURE DAD WITH ", "JEEM INITIAL FORM;HAH INITIAL FORM;KHAH INITIAL FORM;MEEM INITIAL FORM"⟩,
  ⟨0xFCB8, "ARABIC LIGATURE ", "TAH WITH HAH INITIAL FORM;ZAH WITH MEEM INITIAL FORM;AIN WITH JEEM INITIAL FORM"⟩,
  ⟨0xFCBB, "ARABIC LIGATURE ", "AIN WITH MEEM INITIAL FORM;GHAIN WITH JEEM INITIAL FORM;GHAIN WITH MEEM INITIAL FORM"⟩,
  ⟨0xFCBE, "ARABIC LIGATURE FEH WITH ", "JEEM INITIAL FORM;HAH INITIAL FORM;KHAH INITIAL FORM;MEEM INITIAL FORM"⟩,
  ⟨0xFCC2, "ARABIC LIGATURE QAF WITH ", "HAH INITIAL FORM;MEEM INITIAL FORM"⟩,
  ⟨0xFCC4, "ARABIC LIGATURE KAF WITH ", "JEEM INITIAL FORM;HAH INITIAL FORM;KHAH INITIAL FORM;LAM INITIAL FORM"⟩,
  ⟨0xFCC8, "ARABIC LIGATURE ", "KAF WITH MEEM INITIAL FORM;LAM WITH JEEM INITIAL FORM"⟩,
  ⟨0xFCCA, "ARABIC LIGATURE LAM WITH ", "HAH INITIAL FORM;KHAH INITIAL FORM;MEEM INITIAL FORM;HEH INITIAL FORM"⟩,
  ⟨0xFCCE, "ARABIC LIGATURE MEEM WITH ", "JEEM INITIAL FORM;HAH INITIAL FORM;KHAH INITIAL FORM;MEEM INITIAL FORM"⟩,
  ⟨0xFCD2, "ARABIC LIGATURE NOON WITH ", "JEEM INITIAL FORM;HAH INITIAL FORM;KHAH INITIAL FORM;MEEM INITIAL FORM"⟩,
  ⟨0xFCD6, "ARABIC LIGATURE ", "NOON WITH HEH INITIAL FORM;HEH WITH JEEM INITIAL FORM;HEH WITH MEEM INITIAL FORM"⟩,
  ⟨0xFCD9, "ARABIC LIGATURE ", "HEH WITH SUPERSCRIPT ALEF INITIAL FORM;YEH WITH JEEM INITIAL FORM"⟩,
  ⟨0xFCDB, "ARABIC LIGATURE YEH WITH ", "HAH INITIAL FORM;KHAH INITIAL FORM;MEEM INITIAL FORM;HEH INITIAL FORM"⟩,
  ⟨0xFCDF, "ARABIC LIGATURE YEH WITH HAMZA ABOVE WITH ", "MEEM MEDIAL FORM;HEH MEDIAL FORM"⟩,
  ⟨0xFCE1, "ARABIC LIGATURE ", "BEH WITH MEEM MEDIAL FORM;BEH WITH HEH MEDIAL FORM;TEH WITH MEEM MEDIAL FORM"⟩,
  ⟨0xFCE4, "ARABIC LIGATURE ", "TEH WITH HEH MEDIAL FORM;THEH WITH MEEM MEDIAL FORM;THEH WITH HEH MEDIAL FORM"⟩,
  ⟨0xFCE7, "ARABIC LIGATURE SEEN WITH ", "MEEM MEDIAL FORM;HEH MEDIAL FORM"⟩,
  ⟨0xFCE9, "ARABIC LIGATURE ", "SHEEN WITH MEEM MEDIAL FORM;SHEEN WITH HEH MEDIAL FORM;KAF WITH LAM MEDIAL FORM"⟩,
  ⟨0xFCEC, "ARABIC LIGATURE ", "KAF WITH MEEM MEDIAL FORM;LAM WITH MEEM MEDIAL FORM;NOON WITH MEEM MEDIAL FORM"⟩,
  ⟨0xFCEF, "ARABIC LIGATURE ", "NOON WITH HEH MEDIAL FORM;YEH WITH MEEM MEDIAL FORM;YEH WITH HEH MEDIAL FORM"⟩,
  ⟨0xFCF2, "ARABIC LIGATURE SHADDA WITH ", "FATHA MEDIAL FORM;DAMMA MEDIAL FORM;KASRA MEDIAL FORM"⟩,
  ⟨0xFCF5, "ARABIC LIGATURE TAH WITH ", "ALEF MAKSURA ISOLATED FORM;YEH ISOLATED FORM"⟩,
  ⟨0xFCF7, "ARABIC LIGATURE AIN WITH ", "ALEF MAKSURA ISOLATED FORM;YEH ISOLATED FORM"⟩,
  ⟨0xFCF9, "ARABIC LIGATURE GHAIN WITH ", "ALEF MAKSURA ISOLATED FORM;YEH ISOLATED FORM"⟩,
  ⟨0xFCFB, "ARABIC LIGATURE SEEN WITH ", "ALEF MAKSURA ISOLATED FORM;YEH ISOLATED FORM"⟩,
  ⟨0xFCFD, "ARABIC LIGATURE SHEEN WITH ", "ALEF MAKSURA ISOLATED FORM;YEH ISOLATED FORM"⟩,
  ⟨0xFCFF, "ARABIC LIGATURE HAH WITH ", "ALEF MAKSURA ISOLATED FORM;YEH ISOLATED FORM"⟩,
  ⟨0xFD01, "ARABIC LIGATURE JEEM WITH ", "ALEF MAKSURA ISOLATED FORM;YEH ISOLATED FORM"⟩,
  ⟨0xFD03, "ARABIC LIGATURE KHAH WITH ", "ALEF MAKSURA ISOLATED FORM;YEH ISOLATED FORM"⟩,
  ⟨0xFD05, "ARABIC LIGATURE SAD WITH ", "ALEF MAKSURA ISOLATED FORM;YEH ISOLATED FORM"⟩,
  ⟨0xFD07, "ARABIC LIGATURE DAD WITH ", "ALEF MAKSURA ISOLATED FORM;YEH ISOLATED FORM"⟩,
  ⟨0xFD09, "", "ARABIC LIGATURE SHEEN WITH JEEM ISOLATED FORM"⟩,
  ⟨0xFD0A, "ARABIC LIGATURE SHEEN WITH ", "HAH ISOLATED FORM;KHAH ISOLATED FORM;MEEM ISOLATED FORM;REH ISOLATED FORM"⟩,
  ⟨0xFD0E, "ARABIC LIGATURE ", "SEEN WITH REH ISOLATED FORM;SAD WITH REH ISOLATED FORM;DAD WITH REH ISOLATED FORM"⟩,
  ⟨0xFD11, "ARABIC LIGATURE TAH WITH ", "ALEF MAKSURA FINAL FORM;YEH FINAL FORM"⟩,
  ⟨0xFD13, "ARABIC LIGATURE AIN WITH ", "ALEF MAKSURA FINAL FORM;YEH FINAL FORM"⟩,
  ⟨0xFD15, "ARABIC LIGATURE GHAIN WITH ", "ALEF MAKSURA FINAL FORM;YEH FINAL FORM"⟩,
  ⟨0xFD17, "ARABIC LIGATURE SEEN WITH ", "ALEF MAKSURA FINAL FORM;YEH FINAL FORM"⟩,
  ⟨0xFD19, "ARABIC LIGATURE SHEEN WITH ", "ALEF MAKSURA FINAL FORM;YEH FINAL FORM"⟩,
  ⟨0xFD1B, "ARABIC LIGATURE HAH WITH ", "ALEF MAKSURA FINAL FORM;YEH FINAL FORM"⟩,
  ⟨0xFD1D, "ARABIC LIGATURE JEEM WITH ", "ALEF MAKSURA FINAL FORM;YEH FINAL FORM"⟩,
  ⟨0xFD1F, "ARABIC LIGATURE KHAH WITH ", "ALEF MAKSURA FINAL FORM;YEH FINAL FORM"⟩,
  ⟨0xFD21, "ARABIC LIGATURE SAD WITH ", "ALEF MAKSURA FINAL FORM;YEH FINAL FORM"⟩,
  ⟨0xFD23, "ARABIC LIGATURE ", "DAD WITH ALEF MAKSURA FINAL FORM;DAD WITH YEH FINAL FORM;SHEEN WITH JEEM FINAL FORM"⟩,
  ⟨0xFD26, "ARABIC LIGATURE SHEEN WITH ", "HAH FINAL FORM;KHAH FINAL FORM;MEEM FINAL FORM;REH FINAL FORM"⟩,
  ⟨0xFD2A, "ARABIC LIGATURE ", "SEEN WITH REH FINAL FORM;SAD WITH REH FINAL FORM;DAD WITH REH FINAL FORM"⟩,
  ⟨0xFD2D, "ARABIC LIGATURE SHEEN WITH ", "JEEM INITIAL FORM;HAH INITIAL FORM;KHAH INITIAL FORM;MEEM INITIAL FORM"⟩,
  ⟨0xFD31, "ARABIC LIGATURE ", "SEEN WITH HEH INITIAL FORM;SHEEN WITH HEH INITIAL FORM;TAH WITH MEEM INITIAL FORM"⟩,
  ⟨0xFD34, "ARABIC LIGATURE SEEN WITH ", "JEEM MEDIAL FORM;HAH MEDIAL FORM;KHAH MEDIAL FORM"⟩,
  ⟨0xFD37, "ARABIC LIGATURE SHEEN WITH ", "JEEM MEDIAL FORM;HAH MEDIAL FORM;KHAH MEDIAL FORM"⟩,
  ⟨0xFD3A, "ARABIC LIGATURE ", "TAH WITH MEEM MEDIAL FORM;ZAH WITH MEEM MEDIAL FORM"⟩,
  ⟨0xFD3C, "ARABIC LIGATURE ALEF WITH FATHATAN ", "FINAL FORM;ISOLATED FORM"⟩,
  ⟨0xFD3E, "", "ORNATE LEFT PARENTHESIS;ORNATE RIGHT PARENTHESIS;ARABIC LIGATURE RAHIMAHU ALLAAH"⟩,
  ⟨0xFD41, "ARABIC LIGATURE RADI ALLAAHU ", "ANH;ANHAA;ANHUM;ANHUMAA;ANHUNNA"⟩,
  ⟨0xFD46, "", "ARABIC LIGATURE SALLALLAAHU ALAYHI WA-AALIH"⟩,
  ⟨0xFD47, "ARABIC LIGATURE ", "ALAYHI AS-SALAAM;ALAYHIM AS-SALAAM;ALAYHIMAA AS-SALAAM;ALAYHI AS-SALAATU WAS-SALAAM"⟩,
  ⟨0xFD4B, "ARABIC LIGATURE ", "QUDDISA SIRRAH;SALLALLAHU ALAYHI WAAALIHEE WA-SALLAM;ALAYHAA AS-SALAAM"⟩,
  ⟨0xFD4E, "ARABIC LIGATURE ", "TABAARAKA WA-TAAALAA;RAHIMAHUM ALLAAH;TEH WITH JEEM WITH MEEM INITIAL FORM"⟩,
  ⟨0xFD51, "ARABIC LIGATURE TEH WITH HAH WITH ", "JEEM FINAL FORM;JEEM INITIAL FORM;MEEM INITIAL FORM"⟩,
  ⟨0xFD54, "", "ARABIC LIGATURE TEH WITH KHAH WITH MEEM INITIAL FORM"⟩,
  ⟨0xFD55, "ARABIC LIGATURE TEH WITH MEEM WITH ", "JEEM INITIAL FORM;HAH INITIAL FORM;KHAH INITIAL FORM"⟩,
  ⟨0xFD58, "ARABIC LIGATURE JEEM WITH MEEM WITH HAH ", "FINAL FORM;INITIAL FORM"⟩,
  ⟨0xFD5A, "ARABIC LIGATURE HAH WITH MEEM WITH ", "YEH FINAL FORM;ALEF MAKSURA FINAL FORM"⟩,
  ⟨0xFD5C, "", "ARABIC LIGATURE SEEN WITH HAH WITH JEEM INITIAL FORM"⟩,
  ⟨0xFD5D, "ARABIC LIGATURE SEEN WITH JEEM WITH ", "HAH INITIAL FORM;ALEF MAKSURA FINAL FORM"⟩,
  ⟨0xFD5F, "ARABIC LIGATURE SEEN WITH MEEM WITH ", "HAH FINAL FORM;HAH INITIAL FORM;JEEM INITIAL FORM"⟩,
  ⟨0xFD62, "ARABIC LIGATURE SEEN WITH MEEM WITH MEEM ", "FINAL FORM;INITIAL FORM"⟩,
  ⟨0xFD64, "ARABIC LIGATURE SAD WITH ", "HAH WITH HAH FINAL FORM;HAH WITH HAH INITIAL FORM;MEEM WITH MEEM FINAL FORM"⟩,
  ⟨0xFD67, "ARABIC LIGATURE SHEEN WITH HAH WITH MEEM ", "FINAL FORM;INITIAL FORM"⟩,
  ⟨0xFD69, "ARABIC LIGATURE SHEEN WITH ", "JEEM WITH YEH FINAL FORM;MEEM WITH KHAH FINAL FORM"⟩,
  ⟨0xFD6B, "ARABIC LIGATURE SHEEN WITH MEEM WITH ", "KHAH INITIAL FORM;MEEM FINAL FORM;MEEM INITIAL FORM"⟩,
  ⟨0xFD6E, "", "ARABIC LIGATURE DAD WITH HAH WITH ALEF MAKSURA FINAL FORM"⟩,
  ⟨0xFD6F, "ARABIC LIGATURE DAD WITH KHAH WITH MEEM ", "FINAL FORM;INITIAL FORM"⟩,
  ⟨0xFD71, "ARABIC LIGATURE TAH WITH MEEM WITH ", "HAH FINAL FORM;HAH INITIAL FORM;MEEM INITIAL FORM;YEH FINAL FORM"⟩,
  ⟨0xFD75, "", "ARABIC LIGATURE AIN WITH JEEM WITH MEEM FINAL FORM"⟩,
  ⟨0xFD76, "ARABIC LIGATURE AIN WITH MEEM WITH ", "MEEM FINAL FORM;MEEM INITIAL FORM;ALEF MAKSURA FINAL FORM"⟩,
  ⟨0xFD79, "ARABIC LIGATURE GHAIN WITH MEEM WITH ", "MEEM FINAL FORM;YEH FINAL FORM;ALEF MAKSURA FINAL FORM"⟩,
  ⟨0xFD7C, "ARABIC LIGATURE FEH WITH KHAH WITH MEEM ", "FINAL FORM;INITIAL FORM"⟩,
  ⟨0xFD7E, "ARABIC LIGATURE QAF WITH MEEM WITH ", "HAH FINAL FORM;MEEM FINAL FORM"⟩,
  ⟨0xFD80, "ARABIC LIGATURE LAM WITH HAH WITH ", "MEEM FINAL FORM;YEH FINAL FORM;ALEF MAKSURA FINAL FORM"⟩,
  ⟨0xFD83, "ARABIC LIGATURE LAM WITH JEEM WITH JEEM ", "INITIAL FORM;FINAL FORM"⟩,
  ⟨0xFD85, "ARABIC LIGATURE LAM WITH KHAH WITH MEEM ", "FINAL FORM;INITIAL FORM"⟩,
  ⟨0xFD87, "ARABIC LIGATURE LAM WITH MEEM WITH HAH ", "FINAL FORM;INITIAL FORM"⟩,
  ⟨0xFD89, "ARABIC LIGATURE MEEM WITH HAH WITH ", "JEEM INITIAL FORM;MEEM INITIAL FORM;YEH FINAL FORM"⟩,
  ⟨0xFD8C, "ARABIC LIGATURE MEEM WITH JEEM WITH ", "HAH INITIAL FORM;MEEM INITIAL FORM"⟩,
  ⟨0xFD8E, "ARABIC LIGATURE MEEM WITH KHAH WITH ", "JEEM INITIAL FORM;MEEM INITIAL FORM"⟩,
  ⟨0xFD92, "", "ARABIC LIGATURE MEEM WITH JEEM WITH KHAH INITIAL FORM"⟩,
  ⟨0xFD93, "ARABIC LIGATURE HEH WITH MEEM WITH ", "JEEM INITIAL FORM;MEEM INITIAL FORM"⟩,
  ⟨0xFD95, "ARABIC LIGATURE NOON WITH HAH WITH ", "MEEM INITIAL FORM;ALEF MAKSURA FINAL FORM"⟩,
  ⟨0xFD97, "ARABIC LIGATURE NOON WITH JEEM WITH ", "MEEM FINAL FORM;MEEM INITIAL FORM;ALEF MAKSURA FINAL FORM"⟩,
  ⟨0xFD9A, "ARABIC LIGATURE NOON WITH MEEM WITH ", "YEH FINAL FORM;ALEF MAKSURA FINAL FORM"⟩,
  ⟨0xFD9C, "ARABIC LIGATURE YEH WITH MEEM WITH MEEM ", "FINAL FORM;INITIAL FORM"⟩,
  ⟨0xFD9E, "", "ARABIC LIGATURE BEH WITH KHAH WITH YEH FINAL FORM"⟩,
  ⟨0xFD9F, "ARABIC LIGATURE TEH WITH JEEM WITH ", "YEH FINAL FORM;ALEF MAKSURA FINAL FORM"⟩,
  ⟨0xFDA1, "ARABIC LIGATURE TEH WITH KHAH WITH ", "YEH FINAL FORM;ALEF MAKSURA FINAL FORM"⟩,
  ⟨0xFDA3, "ARABIC LIGATURE TEH WITH MEEM WITH ", "YEH FINAL FORM;ALEF MAKSURA FINAL FORM"⟩,
  ⟨0xFDA5, "", "ARABIC LIGATURE JEEM WITH MEEM WITH YEH FINAL FORM"⟩,
  ⟨0xFDA6, "ARABIC LIGATURE JEEM WITH ", "HAH WITH ALEF MAKSURA FINAL FORM;MEEM WITH ALEF MAKSURA FINAL FORM"⟩,
  ⟨0xFDA8, "ARABIC LIGATURE ", "SEEN WITH KHAH WITH ALEF MAKSURA FINAL FORM;SAD WITH HAH WITH YEH FINAL FORM"⟩,
  ⟨0xFDAA, "ARABIC LIGATURE ", "SHEEN WITH HAH WITH YEH FINAL FORM;DAD WITH HAH WITH YEH FINAL FORM"⟩,
  ⟨0xFDAC, "ARABIC LIGATURE LAM WITH ", "JEEM WITH YEH FINAL FORM;MEEM WITH YEH FINAL FORM"⟩,
  ⟨0xFDAE, "ARABIC LIGATURE YEH WITH ", "HAH WITH YEH FINAL FORM;JEEM WITH YEH FINAL FORM;MEEM WITH YEH FINAL FORM"⟩,
  ⟨0xFDB1, "", "ARABIC LIGATURE MEEM WITH MEEM WITH YEH FINAL FORM"⟩,
  ⟨0xFDB2, "ARABIC LIGATURE ", "QAF WITH MEEM WITH YEH FINAL FORM;NOON WITH HAH WITH YEH FINAL FORM"⟩,
  ⟨0xFDB4, "ARABIC LIGATURE ", "QAF WITH MEEM WITH HAH INITIAL FORM;LAM WITH HAH WITH MEEM INITIAL FORM"⟩,
  ⟨0xFDB6, "ARABIC LIGATURE ", "AIN WITH MEEM WITH YEH FINAL FORM;KAF WITH MEEM WITH YEH FINAL FORM"⟩,
  ⟨0xFDB8, "ARABIC LIGATURE ", "NOON WITH JEEM WITH HAH INITIAL FORM;MEEM WITH KHAH WITH YEH FINAL FORM"⟩,
  ⟨0xFDBA, "ARABIC LIGATURE ", "LAM WITH JEEM WITH MEEM INITIAL FORM;KAF WITH MEEM WITH MEEM FINAL FORM"⟩,
  ⟨0xFDBC, "ARABIC LIGATURE ", "LAM WITH JEEM WITH MEEM FINAL FORM;NOON WITH JEEM WITH HAH FINAL FORM"⟩,
  ⟨0xFDBE, "ARABIC LIGATURE ", "JEEM WITH HAH WITH YEH FINAL FORM;HAH WITH JEEM WITH YEH FINAL FORM"⟩,
  ⟨0xFDC0, "ARABIC LIGATURE ", "MEEM WITH JEEM WITH YEH FINAL FORM;FEH WITH MEEM WITH YEH FINAL FORM"⟩,
  ⟨0xFDC2, "ARABIC LIGATURE ", "BEH WITH HAH WITH YEH FINAL FORM;KAF WITH MEEM WITH MEEM INITIAL FORM"⟩,
  ⟨0xFDC4, "ARABIC LIGATURE ", "AIN WITH JEEM WITH MEEM INITIAL FORM;SAD WITH MEEM WITH MEEM INITIAL FORM"⟩,
  ⟨0xFDC6, "ARABIC LIGATURE ", "SEEN WITH KHAH WITH YEH FINAL FORM;NOON WITH JEEM WITH YEH FINAL FORM"⟩,
  ⟨0xFDCF, "", "ARABIC LIGATURE SALAAMUHU ALAYNAA"⟩,
  ⟨0xFDF0, "", "ARABIC LIGATURE SALLA USED AS KORANIC STOP SIGN ISOLATED FORM"⟩,
  ⟨0xFDF1, "ARABIC LIGATURE ", "QALA USED AS KORANIC STOP SIGN ISOLATED FORM;ALLAH ISOLATED FORM;AKBAR ISOLATED FORM"⟩,
  ⟨0xFDF4, "ARABIC LIGATURE ", "MOHAMMAD ISOLATED FORM;SALAM ISOLATED FORM;RASOUL ISOLATED FORM;ALAYHE ISOLATED FORM"⟩,
  ⟨0xFDF8, "ARABIC LIGATURE ", "WASALLAM ISOLATED FORM;SALLA ISOLATED FORM;SALLALLAHOU ALAYHE WASALLAM"⟩,
  ⟨0xFDFB, "", "ARABIC LIGATURE JALLAJALALOUHOU;RIAL SIGN"⟩,
  ⟨0xFDFD, "ARABIC LIGATURE ", "BISMILLAH AR-RAHMAN AR-RAHEEM;SUBHAANAHU WA TAAALAA;AZZA WA JALL"⟩,
  ⟨0xFE00, "VARIATION SELECTOR-", "1;2;3;4;5;6;7;8;9;10;11;12;13;14;15;16"⟩,
  ⟨0xFE10, "PRESENTATION FORM FOR VERTICAL ", "COMMA;IDEOGRAPHIC COMMA;IDEOGRAPHIC FULL STOP;COLON;SEMICOLON"⟩,
  ⟨0xFE15, "PRESENTATION FORM FOR VERTICAL ", "EXCLAMATION MARK;QUESTION MARK;LEFT WHITE LENTICULAR BRACKET"⟩,
  ⟨0xFE18, "PRESENTATION FORM FOR VERTICAL ", "RIGHT WHITE LENTICULAR BRAKCET;HORIZONTAL ELLIPSIS"⟩,
  ⟨0xFE20, "COMBINING ", "LIGATURE LEFT HALF;LIGATURE RIGHT HALF;DOUBLE TILDE LEFT HALF;DOUBLE TILDE RIGHT HALF"⟩,
  ⟨0xFE24, "COMBINING ", "MACRON LEFT HALF;MACRON RIGHT HALF;CONJOINING MACRON;LIGATURE LEFT HALF BELOW"⟩,
  ⟨0xFE28, "COMBINING ", "LIGATURE RIGHT HALF BELOW;TILDE LEFT HALF BELOW;TILDE RIGHT HALF BELOW"⟩,
  ⟨0xFE2B, "COMBINING ", "MACRON LEFT HALF BELOW;MACRON RIGHT HALF BELOW;CONJOINING MACRON BELOW"⟩,
  ⟨0xFE2E, "COMBINING CYRILLIC TITLO ", "LEFT HALF;RIGHT HALF"⟩,
  ⟨0xFE30, "PRESENTATION FORM FOR VERTICAL ", "TWO DOT LEADER;EM DASH"⟩,
  ⟨0xFE32, "PRESENTATION FORM FOR VERTICAL ", "EN DASH;LOW LINE;WAVY LOW LINE;LEFT PARENTHESIS;RIGHT PARENTHESIS"⟩,
  ⟨0xFE37, "PRESENTATION FORM FOR VERTICAL ", "LEFT CURLY BRACKET;RIGHT CURLY BRACKET;LEFT TORTOISE SHELL BRACKET"⟩,
  ⟨0xFE3A, "PRESENTATION FORM FOR VERTICAL ", "RIGHT TORTOISE SHELL BRACKET;LEFT BLACK LENTICULAR BRACKET"⟩,
  ⟨0xFE3C, "PRESENTATION FORM FOR VERTICAL ", "RIGHT BLACK LENTICULAR BRACKET;LEFT DOUBLE ANGLE BRACKET"⟩,
  ⟨0xFE3E, "PRESENTATION FORM FOR VERTICAL ", "RIGHT DOUBLE ANGLE BRACKET;LEFT ANGLE BRACKET;RIGHT ANGLE BRACKET"⟩,
  ⟨0xFE41, "PRESENTATION FORM FOR VERTICAL ", "LEFT CORNER BRACKET;RIGHT CORNER BRACKET;LEFT WHITE CORNER BRACKET"⟩,
  ⟨0xFE44, "", "PRESENTATION FORM FOR VERTICAL RIGHT WHITE CORNER BRACKET;SESAME DOT;WHITE SESAME DOT"⟩,
  ⟨0xFE47, "PRESENTATION FORM FOR VERTICAL ", "LEFT SQUARE BRACKET;RIGHT SQUARE BRACKET"⟩,
  ⟨0xFE49, "", "DASHED OVERLINE;CENTRELINE OVERLINE;WAVY OVERLINE;DOUBLE WAVY OVERLINE;DASHED LOW LINE"⟩,
  ⟨0xFE4E, "", "CENTRELINE LOW LINE;WAVY LOW LINE;SMALL COMMA;SMALL IDEOGRAPHIC COMMA;SMALL FULL STOP"⟩,
  ⟨0xFE54, "SMALL ", "SEMICOLON;COLON"⟩,
  ⟨0xFE56, "SMALL ", "QUESTION MARK;EXCLAMATION MARK;EM DASH;LEFT PARENTHESIS;RIGHT PARENTHESIS;LEFT CURLY BRACKET"⟩,
  ⟨0xFE5C, "SMALL ", "RIGHT CURLY BRACKET;LEFT TORTOISE SHELL BRACKET;RIGHT TORTOISE SHELL BRACKET;NUMBER SIGN"⟩,
  ⟨0xFE60, "SMALL ", "AMPERSAND;ASTERISK;PLUS SIGN;HYPHEN-MINUS;LESS-THAN SIGN;GREATER-THAN SIGN;EQUALS SIGN"⟩,
  ⟨0xFE68, "SMALL ", "REVERSE SOLIDUS;DOLLAR SIGN;PERCENT SIGN;COMMERCIAL AT"⟩,
  ⟨0xFE70, "", "ARABIC FATHATAN ISOLATED FORM"⟩,
  ⟨0xFE71, "ARABIC ", "TATWEEL WITH FATHATAN ABOVE;DAMMATAN ISOLATED FORM;TAIL FRAGMENT;KASRATAN ISOLATED FORM"⟩,
  ⟨0xFE76, "ARABIC ", "FATHA ISOLATED FORM;FATHA MEDIAL FORM;DAMMA ISOLATED FORM"⟩,
  ⟨0xFE79, "ARABIC ", "DAMMA MEDIAL FORM;KASRA ISOLATED FORM;KASRA MEDIAL FORM;SHADDA ISOLATED FORM"⟩,
  ⟨0xFE7D, "ARABIC ", "SHADDA MEDIAL FORM;SUKUN ISOLATED FORM;SUKUN MEDIAL FORM;LETTER HAMZA ISOLATED FORM"⟩,
  ⟨0xFE81, "ARABIC LETTER ALEF WITH MADDA ABOVE ", "ISOLATED FORM;FINAL FORM"⟩,
  ⟨0xFE83, "ARABIC LETTER ALEF WITH HAMZA ABOVE ", "ISOLATED FORM;FINAL FORM"⟩,
  ⟨0xFE85, "ARABIC LETTER WAW WITH HAMZA ABOVE ", "ISOLATED FORM;FINAL FORM"⟩,
  ⟨0xFE87, "ARABIC LETTER ALEF WITH HAMZA BELOW ", "ISOLATED FORM;FINAL FORM"⟩,
  ⟨0xFE89, "ARABIC LETTER YEH WITH HAMZA ABOVE ", "ISOLATED FORM;FINAL FORM;INITIAL FORM;MEDIAL FORM"⟩,
  ⟨0xFE8D, "ARABIC LETTER ALEF ", "ISOLATED FORM;FINAL FORM"⟩,
  ⟨0xFE8F, "ARABIC LETTER BEH ", "ISOLATED FORM;FINAL FORM;INITIAL FORM;MEDIAL FORM"⟩,
  ⟨0xFE93, "ARABIC LETTER TEH ", "MARBUTA ISOLATED FORM;MARBUTA FINAL FORM;ISOLATED FORM;FINAL FORM;INITIAL FORM"⟩,
  ⟨0xFE98, "ARABIC LETTER ", "TEH MEDIAL FORM;THEH ISOLATED FORM;THEH FINAL FORM;THEH INITIAL FORM;THEH MEDIAL FORM"⟩,
  ⟨0xFE9D, "ARABIC LETTER JEEM ", "ISOLATED FORM;FINAL FORM;INITIAL FORM;MEDIAL FORM"⟩,
  ⟨0xFEA1, "ARABIC LETTER HAH ", "ISOLATED FORM;FINAL FORM;INITIAL FORM;MEDIAL FORM"⟩,
  ⟨0xFEA5, "ARABIC LETTER KHAH ", "ISOLATED FORM;FINAL FORM;INITIAL FORM;MEDIAL FORM"⟩,
  ⟨0xFEA9, "ARABIC LETTER ", "DAL ISOLATED FORM;DAL FINAL FORM;THAL ISOLATED FORM"⟩,
  ⟨0xFEAC, "ARABIC LETTER ", "THAL FINAL FORM;REH ISOLATED FORM;REH FINAL FORM;ZAIN ISOLATED FORM;ZAIN FINAL FORM"⟩,
  ⟨0xFEB1, "ARABIC LETTER SEEN ", "ISOLATED FORM;FINAL FORM;INITIAL FORM;MEDIAL FORM"⟩,
  ⟨0xFEB5, "ARABIC LETTER SHEEN ", "ISOLATED FORM;FINAL FORM;INITIAL FORM;MEDIAL FORM"⟩,
  ⟨0xFEB9, "ARABIC LETTER SAD ", "ISOLATED FORM;FINAL FORM;INITIAL FORM;MEDIAL FORM"⟩,
  ⟨0xFEBD, "ARABIC LETTER DAD ", "ISOLATED FORM;FINAL FORM;INITIAL FORM;MEDIAL FORM"⟩,
  ⟨0xFEC1, "ARABIC LETTER TAH ", "ISOLATED FORM;FINAL FORM;INITIAL FORM;MEDIAL FORM"⟩,
  ⟨0xFEC5, "ARABIC LETTER ZAH ", "ISOLATED FORM;FINAL FORM;INITIAL FORM;MEDIAL FORM"⟩,
  ⟨0xFEC9, "ARABIC LETTER AIN ", "ISOLATED FORM;FINAL FORM;INITIAL FORM;MEDIAL FORM"⟩,
  ⟨0xFECD, "ARABIC LETTER GHAIN ", "ISOLATED FORM;FINAL FORM;INITIAL FORM;MEDIAL FORM"⟩,
  ⟨0xFED1, "ARABIC LETTER FEH ", "ISOLATED FORM;FINAL FORM;INITIAL FORM;MEDIAL FORM"⟩,
  ⟨0xFED5, "ARABIC LETTER QAF ", "ISOLATED FORM;FINAL FORM;INITIAL FORM;MEDIAL FORM"⟩,
  ⟨0xFED9, "ARABIC LETTER KAF ", "ISOLATED FORM;FINAL FORM;INITIAL FORM;MEDIAL FORM"⟩,
  ⟨0xFEDD, "ARABIC LETTER LAM ", "ISOLATED FORM;FINAL FORM;INITIAL FORM;MEDIAL FORM"⟩,
  ⟨0xFEE1, "ARABIC LETTER MEEM ", "ISOLATED FORM;FINAL FORM;INITIAL FORM;MEDIAL FORM"⟩,
  ⟨0xFEE5, "ARABIC LETTER NOON ", "ISOLATED FORM;FINAL FORM;INITIAL FORM;MEDIAL FORM"⟩,
  ⟨0xFEE9, "ARABIC LETTER HEH ", "ISOLATED FORM;FINAL FORM;INITIAL FORM;MEDIAL FORM"⟩,
  ⟨0xFEED, "ARABIC LETTER ", "WAW ISOLATED FORM;WAW FINAL FORM;ALEF MAKSURA ISOLATED FORM;ALEF MAKSURA FINAL FORM"⟩,
  ⟨0xFEF1, "ARABIC LETTER YEH ", "ISOLATED FORM;FINAL FORM;INITIAL FORM;MEDIAL FORM"⟩,
  ⟨0xFEF5, "ARABIC LIGATURE LAM WITH ALEF WITH MADDA ABOVE ", "ISOLATED FORM;FINAL FORM"⟩,
  ⟨0xFEF7, "ARABIC LIGATURE LAM WITH ALEF WITH HAMZA ", "ABOVE ISOLATED FORM;ABOVE FINAL FORM;BELOW ISOLATED FORM"⟩,
  ⟨0xFEFA, "ARABIC LIGATURE LAM WITH ALEF ", "WITH HAMZA BELOW FINAL FORM;ISOLATED FORM;FINAL FORM"⟩,
  ⟨0xFEFF, "", "ZERO WIDTH NO-BREAK SPACE"⟩,
  ⟨0xFF01, "FULLWIDTH ", "EXCLAMATION MARK;QUOTATION MARK;NUMBER SIGN;DOLLAR SIGN;PERCENT SIGN;AMPERSAND;APOSTROPHE"⟩,
  ⟨0xFF08, "FULLWIDTH ", "LEFT PARENTHESIS;RIGHT PARENTHESIS;ASTERISK;PLUS SIGN;COMMA;HYPHEN-MINUS;FULL STOP;SOLIDUS"⟩,
  ⟨0xFF10, "FULLWIDTH DIGIT ", "ZERO;ONE;TWO;THREE;FOUR;FIVE;SIX;SEVEN;EIGHT;NINE"⟩,
  ⟨0xFF1A, "FULLWIDTH ", "COLON;SEMICOLON;LESS-THAN SIGN;EQUALS SIGN;GREATER-THAN SIGN;QUESTION MARK;COMMERCIAL AT"⟩,
  ⟨0xFF21, "FULLWIDTH LATIN CAPITAL LETTER ", "A;B;C;D;E;F;G;H;I;J;K;L;M;N;O;P;Q;R;S;T;U;V;W;X;Y;Z"⟩,
  ⟨0xFF3B, "", "FULLWIDTH LEFT SQUARE BRACKET"⟩,
  ⟨0xFF3C, "FULLWIDTH ", "REVERSE SOLIDUS;RIGHT SQUARE BRACKET;CIRCUMFLEX ACCENT;LOW LINE;GRAVE ACCENT"⟩,
  ⟨0xFF41, "FULLWIDTH LATIN SMALL LETTER ", "A;B;C;D;E;F;G;H;I;J;K;L;M;N;O;P;Q;R;S;T;U;V;W;X;Y;Z"⟩,
  ⟨0xFF5B, "", "FULLWIDTH LEFT CURLY BRACKET"⟩,
  ⟨0xFF5C, "FULLWIDTH ", "VERTICAL LINE;RIGHT CURLY BRACKET;TILDE;LEFT WHITE PARENTHESIS;RIGHT WHITE PARENTHESIS"⟩,
  ⟨0xFF61, "HALFWIDTH ", "IDEOGRAPHIC FULL STOP;LEFT CORNER BRACKET;RIGHT CORNER BRACKET;IDEOGRAPHIC COMMA"⟩,
  ⟨0xFF65, "HALFWIDTH KATAKANA ", "MIDDLE DOT;LETTER WO"⟩,
  ⟨0xFF67, "HALFWIDTH KATAKANA LETTER SMALL ", "A;I;U;E;O;YA;YU;YO;TU"⟩,
  ⟨0xFF70, "", "HALFWIDTH KATAKANA-HIRAGANA PROLONGED SOUND MARK"⟩,
  ⟨0xFF71, "HALFWIDTH KATAKANA LETTER ", "A;I;U;E;O;KA;KI;KU;KE;KO;SA;SI;SU;SE;SO;TA;TI;TU;TE;TO"⟩,
  ⟨0xFF85, "HALFWIDTH KATAKANA LETTER ", "NA;NI;NU;NE;NO;HA;HI;HU;HE;HO;MA;MI;MU;ME;MO;YA;YU;YO;RA;RI;RU;RE;RO;WA;N"⟩,
  ⟨0xFF9E, "HALFWIDTH KATAKANA ", "VOICED SOUND MARK;SEMI-VOICED SOUND MARK"⟩,
  ⟨0xFFA0, "HALFWIDTH HANGUL ", "FILLER;LETTER KIYEOK;LETTER SSANGKIYEOK"⟩,
  ⟨0xFFA3, "HALFWIDTH HANGUL LETTER ", "KIYEOK-SIOS;NIEUN;NIEUN-CIEUC;NIEUN-HIEUH;TIKEUT;SSANGTIKEUT;RIEUL"⟩,
  ⟨0xFFAA, "HALFWIDTH HANGUL LETTER RIEUL-", "KIYEOK;MIEUM;PIEUP;SIOS;THIEUTH;PHIEUPH;HIEUH"⟩,
  ⟨0xFFB1, "HALFWIDTH HANGUL LETTER ", "MIEUM;PIEUP;SSANGPIEUP;PIEUP-SIOS"⟩,
  ⟨0xFFB5, "HALFWIDTH HANGUL LETTER ", "SIOS;SSANGSIOS;IEUNG;CIEUC;SSANGCIEUC;CHIEUCH;KHIEUKH;THIEUTH;PHIEUPH;HIEUH"⟩,
  ⟨0xFFC2, "HALFWIDTH HANGUL LETTER ", "A;AE;YA;YAE;EO;E"⟩,
  ⟨0xFFCA, "HALFWIDTH HANGUL LETTER ", "YEO;YE;O;WA;WAE;OE"⟩,
  ⟨0xFFD2, "HALFWIDTH HANGUL LETTER ", "YO;U;WEO;WE;WI;YU"⟩,
  ⟨0xFFDA, "HALFWIDTH HANGUL LETTER ", "EU;YI;I"⟩,
  ⟨0xFFE0, "FULLWIDTH ", "CENT SIGN;POUND SIGN;NOT SIGN;MACRON;BROKEN BAR;YEN SIGN;WON SIGN"⟩,
  ⟨0xFFE8, "", "HALFWIDTH FORMS LIGHT VERTICAL"⟩,
  ⟨0xFFE9, "HALFWIDTH ", "LEFTWARDS ARROW;UPWARDS ARROW;RIGHTWARDS ARROW;DOWNWARDS ARROW;BLACK SQUARE;WHITE CIRCLE"⟩,
  ⟨0xFFF9, "INTERLINEAR ANNOTATION ", "ANCHOR;SEPARATOR;TERMINATOR"⟩,
  ⟨0xFFFC, "", "OBJECT REPLACEMENT CHARACTER;REPLACEMENT CHARACTER"⟩]

end HtmlTemplate.CharName
