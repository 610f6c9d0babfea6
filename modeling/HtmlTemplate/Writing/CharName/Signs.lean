import HtmlTemplate.Writing.CharName.Basic

/-!
# Names of characters from U+2000 to U+2BFF

Punctuation, signs of currencies and of mathematics, arrows, boxes and shapes, and the patterns of Braille.
-/

namespace HtmlTemplate.CharName

/-- The names of these characters. -/
def signsNames : List NameRun := [
  ⟨0x2000, "", "EN QUAD;EM QUAD;EN SPACE;EM SPACE;THREE-PER-EM SPACE"⟩,
  ⟨0x2005, "", "FOUR-PER-EM SPACE;SIX-PER-EM SPACE;FIGURE SPACE;PUNCTUATION SPACE;THIN SPACE;HAIR SPACE"⟩,
  ⟨0x200B, "ZERO WIDTH ", "SPACE;NON-JOINER;JOINER"⟩,
  ⟨0x200E, "", "LEFT-TO-RIGHT MARK;RIGHT-TO-LEFT MARK"⟩,
  ⟨0x2010, "", "HYPHEN;NON-BREAKING HYPHEN;FIGURE DASH;EN DASH;EM DASH;HORIZONTAL BAR;DOUBLE VERTICAL LINE"⟩,
  ⟨0x2017, "", "DOUBLE LOW LINE;LEFT SINGLE QUOTATION MARK;RIGHT SINGLE QUOTATION MARK;SINGLE LOW-9 QUOTATION MARK"⟩,
  ⟨0x201B, "", "SINGLE HIGH-REVERSED-9 QUOTATION MARK;LEFT DOUBLE QUOTATION MARK;RIGHT DOUBLE QUOTATION MARK"⟩,
  ⟨0x201E, "DOUBLE ", "LOW-9 QUOTATION MARK;HIGH-REVERSED-9 QUOTATION MARK"⟩,
  ⟨0x2020, "", "DAGGER;DOUBLE DAGGER;BULLET;TRIANGULAR BULLET;ONE DOT LEADER;TWO DOT LEADER"⟩,
  ⟨0x2026, "", "HORIZONTAL ELLIPSIS;HYPHENATION POINT;LINE SEPARATOR;PARAGRAPH SEPARATOR;LEFT-TO-RIGHT EMBEDDING"⟩,
  ⟨0x202B, "", "RIGHT-TO-LEFT EMBEDDING;POP DIRECTIONAL FORMATTING;LEFT-TO-RIGHT OVERRIDE;RIGHT-TO-LEFT OVERRIDE"⟩,
  ⟨0x202F, "", "NARROW NO-BREAK SPACE;PER MILLE SIGN;PER TEN THOUSAND SIGN;PRIME;DOUBLE PRIME;TRIPLE PRIME"⟩,
  ⟨0x2035, "REVERSED ", "PRIME;DOUBLE PRIME;TRIPLE PRIME"⟩,
  ⟨0x2038, "", "CARET;SINGLE LEFT-POINTING ANGLE QUOTATION MARK;SINGLE RIGHT-POINTING ANGLE QUOTATION MARK"⟩,
  ⟨0x203B, "", "REFERENCE MARK;DOUBLE EXCLAMATION MARK;INTERROBANG;OVERLINE;UNDERTIE;CHARACTER TIE"⟩,
  ⟨0x2041, "", "CARET INSERTION POINT;ASTERISM;HYPHEN BULLET;FRACTION SLASH;LEFT SQUARE BRACKET WITH QUILL"⟩,
  ⟨0x2046, "", "RIGHT SQUARE BRACKET WITH QUILL;DOUBLE QUESTION MARK;QUESTION EXCLAMATION MARK"⟩,
  ⟨0x2049, "", "EXCLAMATION QUESTION MARK;TIRONIAN SIGN ET;REVERSED PILCROW SIGN;BLACK LEFTWARDS BULLET"⟩,
  ⟨0x204D, "", "BLACK RIGHTWARDS BULLET;LOW ASTERISK;REVERSED SEMICOLON;CLOSE UP;TWO ASTERISKS ALIGNED VERTICALLY"⟩,
  ⟨0x2052, "", "COMMERCIAL MINUS SIGN;SWUNG DASH;INVERTED UNDERTIE;FLOWER PUNCTUATION MARK;THREE DOT PUNCTUATION"⟩,
  ⟨0x2057, "", "QUADRUPLE PRIME;FOUR DOT PUNCTUATION;FIVE DOT PUNCTUATION;TWO DOT PUNCTUATION;FOUR DOT MARK"⟩,
  ⟨0x205C, "", "DOTTED CROSS;TRICOLON;VERTICAL FOUR DOTS;MEDIUM MATHEMATICAL SPACE;WORD JOINER;FUNCTION APPLICATION"⟩,
  ⟨0x2062, "INVISIBLE ", "TIMES;SEPARATOR;PLUS"⟩,
  ⟨0x2066, "", "LEFT-TO-RIGHT ISOLATE;RIGHT-TO-LEFT ISOLATE"⟩,
  ⟨0x2068, "", "FIRST STRONG ISOLATE;POP DIRECTIONAL ISOLATE;INHIBIT SYMMETRIC SWAPPING;ACTIVATE SYMMETRIC SWAPPING"⟩,
  ⟨0x206C, "", "INHIBIT ARABIC FORM SHAPING;ACTIVATE ARABIC FORM SHAPING;NATIONAL DIGIT SHAPES;NOMINAL DIGIT SHAPES"⟩,
  ⟨0x2070, "SUPERSCRIPT ", "ZERO;LATIN SMALL LETTER I"⟩,
  ⟨0x2074, "SUPERSCRIPT ", "FOUR;FIVE;SIX;SEVEN;EIGHT"⟩,
  ⟨0x2079, "SUPERSCRIPT ", "NINE;PLUS SIGN;MINUS;EQUALS SIGN;LEFT PARENTHESIS;RIGHT PARENTHESIS;LATIN SMALL LETTER N"⟩,
  ⟨0x2080, "SUBSCRIPT ", "ZERO;ONE;TWO;THREE;FOUR"⟩,
  ⟨0x2085, "SUBSCRIPT ", "FIVE;SIX;SEVEN;EIGHT;NINE;PLUS SIGN;MINUS;EQUALS SIGN;LEFT PARENTHESIS;RIGHT PARENTHESIS"⟩,
  ⟨0x2090, "LATIN SUBSCRIPT SMALL LETTER ", "A;E;O;X;SCHWA;H;K;L;M;N;P;S;T"⟩,
  ⟨0x20A0, "", "EURO-CURRENCY SIGN;COLON SIGN;CRUZEIRO SIGN"⟩,
  ⟨0x20A3, "", "FRENCH FRANC SIGN;LIRA SIGN;MILL SIGN;NAIRA SIGN;PESETA SIGN;RUPEE SIGN;WON SIGN;NEW SHEQEL SIGN"⟩,
  ⟨0x20AB, "", "DONG SIGN;EURO SIGN;KIP SIGN;TUGRIK SIGN;DRACHMA SIGN;GERMAN PENNY SIGN;PESO SIGN;GUARANI SIGN"⟩,
  ⟨0x20B3, "", "AUSTRAL SIGN;HRYVNIA SIGN;CEDI SIGN;LIVRE TOURNOIS SIGN;SPESMILO SIGN;TENGE SIGN;INDIAN RUPEE SIGN"⟩,
  ⟨0x20BA, "", "TURKISH LIRA SIGN;NORDIC MARK SIGN;MANAT SIGN;RUBLE SIGN;LARI SIGN;BITCOIN SIGN;SOM SIGN"⟩,
  ⟨0x20D0, "COMBINING ", "LEFT HARPOON ABOVE;RIGHT HARPOON ABOVE"⟩,
  ⟨0x20D2, "COMBINING ", "LONG VERTICAL LINE OVERLAY;SHORT VERTICAL LINE OVERLAY;ANTICLOCKWISE ARROW ABOVE"⟩,
  ⟨0x20D5, "COMBINING ", "CLOCKWISE ARROW ABOVE;LEFT ARROW ABOVE;RIGHT ARROW ABOVE;RING OVERLAY"⟩,
  ⟨0x20D9, "COMBINING ", "CLOCKWISE RING OVERLAY;ANTICLOCKWISE RING OVERLAY;THREE DOTS ABOVE;FOUR DOTS ABOVE"⟩,
  ⟨0x20DD, "COMBINING ENCLOSING ", "CIRCLE;SQUARE;DIAMOND;CIRCLE BACKSLASH"⟩,
  ⟨0x20E1, "COMBINING ", "LEFT RIGHT ARROW ABOVE;ENCLOSING SCREEN"⟩,
  ⟨0x20E3, "COMBINING ", "ENCLOSING KEYCAP;ENCLOSING UPWARD POINTING TRIANGLE;REVERSE SOLIDUS OVERLAY"⟩,
  ⟨0x20E6, "COMBINING ", "DOUBLE VERTICAL STROKE OVERLAY;ANNUITY SYMBOL;TRIPLE UNDERDOT;WIDE BRIDGE ABOVE"⟩,
  ⟨0x20EA, "COMBINING ", "LEFTWARDS ARROW OVERLAY;LONG DOUBLE SOLIDUS OVERLAY;RIGHTWARDS HARPOON WITH BARB DOWNWARDS"⟩,
  ⟨0x20ED, "COMBINING ", "LEFTWARDS HARPOON WITH BARB DOWNWARDS;LEFT ARROW BELOW;RIGHT ARROW BELOW;ASTERISK ABOVE"⟩,
  ⟨0x2100, "", "ACCOUNT OF;ADDRESSED TO THE SUBJECT;DOUBLE-STRUCK CAPITAL C"⟩,
  ⟨0x2103, "", "DEGREE CELSIUS;CENTRE LINE SYMBOL;CARE OF;CADA UNA;EULER CONSTANT;SCRUPLE;DEGREE FAHRENHEIT"⟩,
  ⟨0x210A, "", "SCRIPT SMALL G;SCRIPT CAPITAL H;BLACK-LETTER CAPITAL H;DOUBLE-STRUCK CAPITAL H;PLANCK CONSTANT"⟩,
  ⟨0x210F, "", "PLANCK CONSTANT OVER TWO PI;SCRIPT CAPITAL I;BLACK-LETTER CAPITAL I;SCRIPT CAPITAL L;SCRIPT SMALL L"⟩,
  ⟨0x2114, "", "L B BAR SYMBOL;DOUBLE-STRUCK CAPITAL N;NUMERO SIGN;SOUND RECORDING COPYRIGHT;SCRIPT CAPITAL P"⟩,
  ⟨0x2119, "DOUBLE-STRUCK CAPITAL ", "P;Q"⟩,
  ⟨0x211B, "", "SCRIPT CAPITAL R;BLACK-LETTER CAPITAL R;DOUBLE-STRUCK CAPITAL R;PRESCRIPTION TAKE"⟩,
  ⟨0x211F, "", "RESPONSE;SERVICE MARK;TELEPHONE SIGN;TRADE MARK SIGN;VERSICLE;DOUBLE-STRUCK CAPITAL Z"⟩,
  ⟨0x2125, "", "OUNCE SIGN;OHM SIGN;INVERTED OHM SIGN;BLACK-LETTER CAPITAL Z;TURNED GREEK SMALL LETTER IOTA"⟩,
  ⟨0x212A, "", "KELVIN SIGN;ANGSTROM SIGN;SCRIPT CAPITAL B;BLACK-LETTER CAPITAL C;ESTIMATED SYMBOL"⟩,
  ⟨0x212F, "", "SCRIPT SMALL E;SCRIPT CAPITAL E;SCRIPT CAPITAL F;TURNED CAPITAL F;SCRIPT CAPITAL M;SCRIPT SMALL O"⟩,
  ⟨0x2135, "", "ALEF SYMBOL;BET SYMBOL;GIMEL SYMBOL;DALET SYMBOL;INFORMATION SOURCE;ROTATED CAPITAL Q;FACSIMILE SIGN"⟩,
  ⟨0x213C, "DOUBLE-STRUCK ", "SMALL PI;SMALL GAMMA;CAPITAL GAMMA;CAPITAL PI;N-ARY SUMMATION"⟩,
  ⟨0x2141, "TURNED SANS-SERIF CAPITAL ", "G;L"⟩,
  ⟨0x2143, "", "REVERSED SANS-SERIF CAPITAL L;TURNED SANS-SERIF CAPITAL Y"⟩,
  ⟨0x2145, "DOUBLE-STRUCK ITALIC ", "CAPITAL D;SMALL D;SMALL E;SMALL I;SMALL J"⟩,
  ⟨0x214A, "", "PROPERTY LINE;TURNED AMPERSAND;PER SIGN;AKTIESELSKAB;TURNED SMALL F;SYMBOL FOR SAMARITAN SOURCE"⟩,
  ⟨0x2150, "VULGAR FRACTION ", "ONE SEVENTH;ONE NINTH;ONE TENTH;ONE THIRD;TWO THIRDS;ONE FIFTH;TWO FIFTHS"⟩,
  ⟨0x2157, "VULGAR FRACTION ", "THREE FIFTHS;FOUR FIFTHS;ONE SIXTH;FIVE SIXTHS;ONE EIGHTH;THREE EIGHTHS;FIVE EIGHTHS"⟩,
  ⟨0x215E, "", "VULGAR FRACTION SEVEN EIGHTHS;FRACTION NUMERATOR ONE"⟩,
  ⟨0x2160, "ROMAN NUMERAL ", "ONE;TWO;THREE;FOUR;FIVE"⟩,
  ⟨0x2165, "ROMAN NUMERAL ", "SIX;SEVEN;EIGHT;NINE;TEN;ELEVEN;TWELVE;FIFTY;ONE HUNDRED;FIVE HUNDRED;ONE THOUSAND"⟩,
  ⟨0x2170, "SMALL ROMAN NUMERAL ", "ONE;TWO;THREE;FOUR;FIVE;SIX"⟩,
  ⟨0x2176, "SMALL ROMAN NUMERAL ", "SEVEN;EIGHT;NINE;TEN;ELEVEN;TWELVE;FIFTY;ONE HUNDRED;FIVE HUNDRED;ONE THOUSAND"⟩,
  ⟨0x2180, "ROMAN NUMERAL ", "ONE THOUSAND C D;FIVE THOUSAND;TEN THOUSAND;REVERSED ONE HUNDRED"⟩,
  ⟨0x2184, "", "LATIN SMALL LETTER REVERSED C"⟩,
  ⟨0x2185, "ROMAN NUMERAL ", "SIX LATE FORM;FIFTY EARLY FORM;FIFTY THOUSAND;ONE HUNDRED THOUSAND"⟩,
  ⟨0x2189, "", "VULGAR FRACTION ZERO THIRDS;TURNED DIGIT TWO;TURNED DIGIT THREE"⟩,
  ⟨0x2190, "", "LEFTWARDS ARROW;UPWARDS ARROW;RIGHTWARDS ARROW;DOWNWARDS ARROW;LEFT RIGHT ARROW;UP DOWN ARROW"⟩,
  ⟨0x2196, "", "NORTH WEST ARROW;NORTH EAST ARROW;SOUTH EAST ARROW;SOUTH WEST ARROW;LEFTWARDS ARROW WITH STROKE"⟩,
  ⟨0x219B, "", "RIGHTWARDS ARROW WITH STROKE;LEFTWARDS WAVE ARROW;RIGHTWARDS WAVE ARROW;LEFTWARDS TWO HEADED ARROW"⟩,
  ⟨0x219F, "", "UPWARDS TWO HEADED ARROW;RIGHTWARDS TWO HEADED ARROW;DOWNWARDS TWO HEADED ARROW"⟩,
  ⟨0x21A2, "", "LEFTWARDS ARROW WITH TAIL;RIGHTWARDS ARROW WITH TAIL;LEFTWARDS ARROW FROM BAR"⟩,
  ⟨0x21A5, "", "UPWARDS ARROW FROM BAR;RIGHTWARDS ARROW FROM BAR;DOWNWARDS ARROW FROM BAR;UP DOWN ARROW WITH BASE"⟩,
  ⟨0x21A9, "", "LEFTWARDS ARROW WITH HOOK;RIGHTWARDS ARROW WITH HOOK;LEFTWARDS ARROW WITH LOOP"⟩,
  ⟨0x21AC, "", "RIGHTWARDS ARROW WITH LOOP;LEFT RIGHT WAVE ARROW;LEFT RIGHT ARROW WITH STROKE;DOWNWARDS ZIGZAG ARROW"⟩,
  ⟨0x21B0, "UPWARDS ARROW WITH TIP ", "LEFTWARDS;RIGHTWARDS"⟩,
  ⟨0x21B2, "DOWNWARDS ARROW WITH TIP ", "LEFTWARDS;RIGHTWARDS"⟩,
  ⟨0x21B4, "", "RIGHTWARDS ARROW WITH CORNER DOWNWARDS;DOWNWARDS ARROW WITH CORNER LEFTWARDS"⟩,
  ⟨0x21B6, "", "ANTICLOCKWISE TOP SEMICIRCLE ARROW;CLOCKWISE TOP SEMICIRCLE ARROW"⟩,
  ⟨0x21B8, "", "NORTH WEST ARROW TO LONG BAR;LEFTWARDS ARROW TO BAR OVER RIGHTWARDS ARROW TO BAR"⟩,
  ⟨0x21BA, "", "ANTICLOCKWISE OPEN CIRCLE ARROW;CLOCKWISE OPEN CIRCLE ARROW"⟩,
  ⟨0x21BC, "LEFTWARDS HARPOON WITH BARB ", "UPWARDS;DOWNWARDS"⟩,
  ⟨0x21BE, "UPWARDS HARPOON WITH BARB ", "RIGHTWARDS;LEFTWARDS"⟩,
  ⟨0x21C0, "RIGHTWARDS HARPOON WITH BARB ", "UPWARDS;DOWNWARDS"⟩,
  ⟨0x21C2, "DOWNWARDS HARPOON WITH BARB ", "RIGHTWARDS;LEFTWARDS"⟩,
  ⟨0x21C4, "", "RIGHTWARDS ARROW OVER LEFTWARDS ARROW;UPWARDS ARROW LEFTWARDS OF DOWNWARDS ARROW"⟩,
  ⟨0x21C6, "", "LEFTWARDS ARROW OVER RIGHTWARDS ARROW;LEFTWARDS PAIRED ARROWS;UPWARDS PAIRED ARROWS"⟩,
  ⟨0x21C9, "", "RIGHTWARDS PAIRED ARROWS;DOWNWARDS PAIRED ARROWS;LEFTWARDS HARPOON OVER RIGHTWARDS HARPOON"⟩,
  ⟨0x21CC, "", "RIGHTWARDS HARPOON OVER LEFTWARDS HARPOON;LEFTWARDS DOUBLE ARROW WITH STROKE"⟩,
  ⟨0x21CE, "", "LEFT RIGHT DOUBLE ARROW WITH STROKE;RIGHTWARDS DOUBLE ARROW WITH STROKE"⟩,
  ⟨0x21D0, "", "LEFTWARDS DOUBLE ARROW;UPWARDS DOUBLE ARROW;RIGHTWARDS DOUBLE ARROW;DOWNWARDS DOUBLE ARROW"⟩,
  ⟨0x21D4, "", "LEFT RIGHT DOUBLE ARROW;UP DOWN DOUBLE ARROW;NORTH WEST DOUBLE ARROW;NORTH EAST DOUBLE ARROW"⟩,
  ⟨0x21D8, "", "SOUTH EAST DOUBLE ARROW;SOUTH WEST DOUBLE ARROW;LEFTWARDS TRIPLE ARROW;RIGHTWARDS TRIPLE ARROW"⟩,
  ⟨0x21DC, "", "LEFTWARDS SQUIGGLE ARROW;RIGHTWARDS SQUIGGLE ARROW;UPWARDS ARROW WITH DOUBLE STROKE"⟩,
  ⟨0x21DF, "", "DOWNWARDS ARROW WITH DOUBLE STROKE;LEFTWARDS DASHED ARROW;UPWARDS DASHED ARROW"⟩,
  ⟨0x21E2, "", "RIGHTWARDS DASHED ARROW;DOWNWARDS DASHED ARROW;LEFTWARDS ARROW TO BAR;RIGHTWARDS ARROW TO BAR"⟩,
  ⟨0x21E6, "", "LEFTWARDS WHITE ARROW;UPWARDS WHITE ARROW;RIGHTWARDS WHITE ARROW;DOWNWARDS WHITE ARROW"⟩,
  ⟨0x21EA, "UPWARDS WHITE ARROW ", "FROM BAR;ON PEDESTAL;ON PEDESTAL WITH HORIZONTAL BAR"⟩,
  ⟨0x21ED, "UPWARDS WHITE ", "ARROW ON PEDESTAL WITH VERTICAL BAR;DOUBLE ARROW;DOUBLE ARROW ON PEDESTAL"⟩,
  ⟨0x21F0, "", "RIGHTWARDS WHITE ARROW FROM WALL;NORTH WEST ARROW TO CORNER;SOUTH EAST ARROW TO CORNER"⟩,
  ⟨0x21F3, "", "UP DOWN WHITE ARROW;RIGHT ARROW WITH SMALL CIRCLE;DOWNWARDS ARROW LEFTWARDS OF UPWARDS ARROW"⟩,
  ⟨0x21F6, "", "THREE RIGHTWARDS ARROWS;LEFTWARDS ARROW WITH VERTICAL STROKE;RIGHTWARDS ARROW WITH VERTICAL STROKE"⟩,
  ⟨0x21F9, "", "LEFT RIGHT ARROW WITH VERTICAL STROKE;LEFTWARDS ARROW WITH DOUBLE VERTICAL STROKE"⟩,
  ⟨0x21FB, "", "RIGHTWARDS ARROW WITH DOUBLE VERTICAL STROKE;LEFT RIGHT ARROW WITH DOUBLE VERTICAL STROKE"⟩,
  ⟨0x21FD, "", "LEFTWARDS OPEN-HEADED ARROW;RIGHTWARDS OPEN-HEADED ARROW;LEFT RIGHT OPEN-HEADED ARROW"⟩,
  ⟨0x2200, "", "FOR ALL;COMPLEMENT;PARTIAL DIFFERENTIAL;THERE EXISTS;THERE DOES NOT EXIST;EMPTY SET;INCREMENT"⟩,
  ⟨0x2207, "", "NABLA;ELEMENT OF;NOT AN ELEMENT OF;SMALL ELEMENT OF;CONTAINS AS MEMBER;DOES NOT CONTAIN AS MEMBER"⟩,
  ⟨0x220D, "", "SMALL CONTAINS AS MEMBER;END OF PROOF;N-ARY PRODUCT;N-ARY COPRODUCT;N-ARY SUMMATION;MINUS SIGN"⟩,
  ⟨0x2213, "", "MINUS-OR-PLUS SIGN;DOT PLUS;DIVISION SLASH;SET MINUS;ASTERISK OPERATOR;RING OPERATOR;BULLET OPERATOR"⟩,
  ⟨0x221A, "", "SQUARE ROOT;CUBE ROOT;FOURTH ROOT;PROPORTIONAL TO;INFINITY;RIGHT ANGLE;ANGLE;MEASURED ANGLE"⟩,
  ⟨0x2222, "", "SPHERICAL ANGLE;DIVIDES;DOES NOT DIVIDE;PARALLEL TO;NOT PARALLEL TO;LOGICAL AND;LOGICAL OR"⟩,
  ⟨0x2229, "", "INTERSECTION;UNION;INTEGRAL;DOUBLE INTEGRAL;TRIPLE INTEGRAL;CONTOUR INTEGRAL;SURFACE INTEGRAL"⟩,
  ⟨0x2230, "", "VOLUME INTEGRAL;CLOCKWISE INTEGRAL;CLOCKWISE CONTOUR INTEGRAL;ANTICLOCKWISE CONTOUR INTEGRAL"⟩,
  ⟨0x2234, "", "THEREFORE;BECAUSE;RATIO;PROPORTION;DOT MINUS;EXCESS;GEOMETRIC PROPORTION"⟩,
  ⟨0x223B, "", "HOMOTHETIC;TILDE OPERATOR;REVERSED TILDE;INVERTED LAZY S;SINE WAVE;WREATH PRODUCT"⟩,
  ⟨0x2241, "", "NOT TILDE;MINUS TILDE;ASYMPTOTICALLY EQUAL TO;NOT ASYMPTOTICALLY EQUAL TO;APPROXIMATELY EQUAL TO"⟩,
  ⟨0x2246, "", "APPROXIMATELY BUT NOT ACTUALLY EQUAL TO;NEITHER APPROXIMATELY NOR ACTUALLY EQUAL TO"⟩,
  ⟨0x2248, "", "ALMOST EQUAL TO;NOT ALMOST EQUAL TO;ALMOST EQUAL OR EQUAL TO;TRIPLE TILDE;ALL EQUAL TO;EQUIVALENT TO"⟩,
  ⟨0x224E, "", "GEOMETRICALLY EQUIVALENT TO;DIFFERENCE BETWEEN;APPROACHES THE LIMIT;GEOMETRICALLY EQUAL TO"⟩,
  ⟨0x2252, "", "APPROXIMATELY EQUAL TO OR THE IMAGE OF;IMAGE OF OR APPROXIMATELY EQUAL TO;COLON EQUALS;EQUALS COLON"⟩,
  ⟨0x2256, "", "RING IN EQUAL TO;RING EQUAL TO;CORRESPONDS TO;ESTIMATES;EQUIANGULAR TO;STAR EQUALS;DELTA EQUAL TO"⟩,
  ⟨0x225D, "", "EQUAL TO BY DEFINITION;MEASURED BY;QUESTIONED EQUAL TO;NOT EQUAL TO;IDENTICAL TO;NOT IDENTICAL TO"⟩,
  ⟨0x2263, "", "STRICTLY EQUIVALENT TO;LESS-THAN OR EQUAL TO;GREATER-THAN OR EQUAL TO;LESS-THAN OVER EQUAL TO"⟩,
  ⟨0x2267, "", "GREATER-THAN OVER EQUAL TO;LESS-THAN BUT NOT EQUAL TO;GREATER-THAN BUT NOT EQUAL TO"⟩,
  ⟨0x226A, "", "MUCH LESS-THAN;MUCH GREATER-THAN;BETWEEN;NOT EQUIVALENT TO;NOT LESS-THAN;NOT GREATER-THAN"⟩,
  ⟨0x2270, "NEITHER ", "LESS-THAN NOR EQUAL TO;GREATER-THAN NOR EQUAL TO"⟩,
  ⟨0x2272, "", "LESS-THAN OR EQUIVALENT TO;GREATER-THAN OR EQUIVALENT TO"⟩,
  ⟨0x2274, "NEITHER ", "LESS-THAN NOR EQUIVALENT TO;GREATER-THAN NOR EQUIVALENT TO"⟩,
  ⟨0x2276, "", "LESS-THAN OR GREATER-THAN;GREATER-THAN OR LESS-THAN;NEITHER LESS-THAN NOR GREATER-THAN"⟩,
  ⟨0x2279, "", "NEITHER GREATER-THAN NOR LESS-THAN;PRECEDES;SUCCEEDS;PRECEDES OR EQUAL TO;SUCCEEDS OR EQUAL TO"⟩,
  ⟨0x227E, "", "PRECEDES OR EQUIVALENT TO;SUCCEEDS OR EQUIVALENT TO;DOES NOT PRECEDE;DOES NOT SUCCEED;SUBSET OF"⟩,
  ⟨0x2283, "", "SUPERSET OF;NOT A SUBSET OF;NOT A SUPERSET OF;SUBSET OF OR EQUAL TO;SUPERSET OF OR EQUAL TO"⟩,
  ⟨0x2288, "NEITHER A ", "SUBSET OF NOR EQUAL TO;SUPERSET OF NOR EQUAL TO"⟩,
  ⟨0x228A, "", "SUBSET OF WITH NOT EQUAL TO;SUPERSET OF WITH NOT EQUAL TO;MULTISET"⟩,
  ⟨0x228D, "MULTISET ", "MULTIPLICATION;UNION"⟩,
  ⟨0x228F, "SQUARE ", "IMAGE OF;ORIGINAL OF;IMAGE OF OR EQUAL TO;ORIGINAL OF OR EQUAL TO;CAP;CUP"⟩,
  ⟨0x2295, "CIRCLED ", "PLUS;MINUS;TIMES;DIVISION SLASH;DOT OPERATOR;RING OPERATOR;ASTERISK OPERATOR;EQUALS;DASH"⟩,
  ⟨0x229E, "SQUARED ", "PLUS;MINUS;TIMES;DOT OPERATOR"⟩,
  ⟨0x22A2, "", "RIGHT TACK;LEFT TACK;DOWN TACK;UP TACK;ASSERTION"⟩,
  ⟨0x22A7, "", "MODELS;TRUE;FORCES;TRIPLE VERTICAL BAR RIGHT TURNSTILE;DOUBLE VERTICAL BAR DOUBLE RIGHT TURNSTILE"⟩,
  ⟨0x22AC, "", "DOES NOT PROVE;NOT TRUE;DOES NOT FORCE;NEGATED DOUBLE VERTICAL BAR DOUBLE RIGHT TURNSTILE"⟩,
  ⟨0x22B0, "", "PRECEDES UNDER RELATION;SUCCEEDS UNDER RELATION;NORMAL SUBGROUP OF;CONTAINS AS NORMAL SUBGROUP"⟩,
  ⟨0x22B4, "", "NORMAL SUBGROUP OF OR EQUAL TO;CONTAINS AS NORMAL SUBGROUP OR EQUAL TO;ORIGINAL OF;IMAGE OF"⟩,
  ⟨0x22B8, "", "MULTIMAP;HERMITIAN CONJUGATE MATRIX;INTERCALATE;XOR;NAND;NOR;RIGHT ANGLE WITH ARC;RIGHT TRIANGLE"⟩,
  ⟨0x22C0, "N-ARY ", "LOGICAL AND;LOGICAL OR;INTERSECTION;UNION"⟩,
  ⟨0x22C4, "", "DIAMOND OPERATOR;DOT OPERATOR;STAR OPERATOR;DIVISION TIMES;BOWTIE"⟩,
  ⟨0x22C9, "", "LEFT NORMAL FACTOR SEMIDIRECT PRODUCT;RIGHT NORMAL FACTOR SEMIDIRECT PRODUCT;LEFT SEMIDIRECT PRODUCT"⟩,
  ⟨0x22CC, "", "RIGHT SEMIDIRECT PRODUCT;REVERSED TILDE EQUALS;CURLY LOGICAL OR;CURLY LOGICAL AND"⟩,
  ⟨0x22D0, "DOUBLE ", "SUBSET;SUPERSET;INTERSECTION;UNION"⟩,
  ⟨0x22D4, "", "PITCHFORK;EQUAL AND PARALLEL TO;LESS-THAN WITH DOT;GREATER-THAN WITH DOT;VERY MUCH LESS-THAN"⟩,
  ⟨0x22D9, "", "VERY MUCH GREATER-THAN;LESS-THAN EQUAL TO OR GREATER-THAN;GREATER-THAN EQUAL TO OR LESS-THAN"⟩,
  ⟨0x22DC, "EQUAL TO OR ", "LESS-THAN;GREATER-THAN;PRECEDES;SUCCEEDS"⟩,
  ⟨0x22E0, "DOES NOT ", "PRECEDE OR EQUAL;SUCCEED OR EQUAL"⟩,
  ⟨0x22E2, "NOT SQUARE ", "IMAGE OF OR EQUAL TO;ORIGINAL OF OR EQUAL TO"⟩,
  ⟨0x22E4, "SQUARE ", "IMAGE OF OR NOT EQUAL TO;ORIGINAL OF OR NOT EQUAL TO"⟩,
  ⟨0x22E6, "", "LESS-THAN BUT NOT EQUIVALENT TO;GREATER-THAN BUT NOT EQUIVALENT TO;PRECEDES BUT NOT EQUIVALENT TO"⟩,
  ⟨0x22E9, "", "SUCCEEDS BUT NOT EQUIVALENT TO;NOT NORMAL SUBGROUP OF;DOES NOT CONTAIN AS NORMAL SUBGROUP"⟩,
  ⟨0x22EC, "", "NOT NORMAL SUBGROUP OF OR EQUAL TO;DOES NOT CONTAIN AS NORMAL SUBGROUP OR EQUAL;VERTICAL ELLIPSIS"⟩,
  ⟨0x22EF, "", "MIDLINE HORIZONTAL ELLIPSIS;UP RIGHT DIAGONAL ELLIPSIS;DOWN RIGHT DIAGONAL ELLIPSIS"⟩,
  ⟨0x22F2, "ELEMENT OF WITH ", "LONG HORIZONTAL STROKE;VERTICAL BAR AT END OF HORIZONTAL STROKE"⟩,
  ⟨0x22F4, "", "SMALL ELEMENT OF WITH VERTICAL BAR AT END OF HORIZONTAL STROKE"⟩,
  ⟨0x22F5, "", "ELEMENT OF WITH DOT ABOVE;ELEMENT OF WITH OVERBAR;SMALL ELEMENT OF WITH OVERBAR"⟩,
  ⟨0x22F8, "ELEMENT OF WITH ", "UNDERBAR;TWO HORIZONTAL STROKES"⟩,
  ⟨0x22FA, "CONTAINS WITH ", "LONG HORIZONTAL STROKE;VERTICAL BAR AT END OF HORIZONTAL STROKE"⟩,
  ⟨0x22FC, "", "SMALL CONTAINS WITH VERTICAL BAR AT END OF HORIZONTAL STROKE;CONTAINS WITH OVERBAR"⟩,
  ⟨0x22FE, "", "SMALL CONTAINS WITH OVERBAR;Z NOTATION BAG MEMBERSHIP;DIAMETER SIGN;ELECTRIC ARROW;HOUSE"⟩,
  ⟨0x2303, "", "UP ARROWHEAD;DOWN ARROWHEAD;PROJECTIVE;PERSPECTIVE;WAVY LINE;LEFT CEILING;RIGHT CEILING;LEFT FLOOR"⟩,
  ⟨0x230B, "", "RIGHT FLOOR;BOTTOM RIGHT CROP;BOTTOM LEFT CROP;TOP RIGHT CROP;TOP LEFT CROP;REVERSED NOT SIGN"⟩,
  ⟨0x2311, "", "SQUARE LOZENGE;ARC;SEGMENT;SECTOR;TELEPHONE RECORDER;POSITION INDICATOR;VIEWDATA SQUARE"⟩,
  ⟨0x2318, "", "PLACE OF INTEREST SIGN;TURNED NOT SIGN;WATCH;HOURGLASS;TOP LEFT CORNER;TOP RIGHT CORNER"⟩,
  ⟨0x231E, "BOTTOM ", "LEFT CORNER;RIGHT CORNER"⟩,
  ⟨0x2320, "", "TOP HALF INTEGRAL;BOTTOM HALF INTEGRAL;FROWN;SMILE;UP ARROWHEAD BETWEEN TWO HORIZONTAL BARS"⟩,
  ⟨0x2325, "", "OPTION KEY;ERASE TO THE RIGHT;X IN A RECTANGLE BOX;KEYBOARD;LEFT-POINTING ANGLE BRACKET"⟩,
  ⟨0x232A, "", "RIGHT-POINTING ANGLE BRACKET;ERASE TO THE LEFT;BENZENE RING;CYLINDRICITY;ALL AROUND-PROFILE"⟩,
  ⟨0x232F, "", "SYMMETRY;TOTAL RUNOUT;DIMENSION ORIGIN;CONICAL TAPER;SLOPE;COUNTERBORE;COUNTERSINK"⟩,
  ⟨0x2336, "APL FUNCTIONAL SYMBOL ", "I-BEAM;SQUISH QUAD;QUAD EQUAL;QUAD DIVIDE;QUAD DIAMOND"⟩,
  ⟨0x233B, "APL FUNCTIONAL SYMBOL ", "QUAD JOT;QUAD CIRCLE;CIRCLE STILE;CIRCLE JOT;SLASH BAR;BACKSLASH BAR"⟩,
  ⟨0x2341, "APL FUNCTIONAL SYMBOL QUAD ", "SLASH;BACKSLASH;LESS-THAN;GREATER-THAN"⟩,
  ⟨0x2345, "APL FUNCTIONAL SYMBOL ", "LEFTWARDS VANE;RIGHTWARDS VANE;QUAD LEFTWARDS ARROW"⟩,
  ⟨0x2348, "APL FUNCTIONAL SYMBOL ", "QUAD RIGHTWARDS ARROW;CIRCLE BACKSLASH;DOWN TACK UNDERBAR;DELTA STILE"⟩,
  ⟨0x234C, "APL FUNCTIONAL SYMBOL ", "QUAD DOWN CARET;QUAD DELTA;DOWN TACK JOT;UPWARDS VANE;QUAD UPWARDS ARROW"⟩,
  ⟨0x2351, "APL FUNCTIONAL SYMBOL ", "UP TACK OVERBAR;DEL STILE;QUAD UP CARET;QUAD DEL;UP TACK JOT;DOWNWARDS VANE"⟩,
  ⟨0x2357, "APL FUNCTIONAL SYMBOL ", "QUAD DOWNWARDS ARROW;QUOTE UNDERBAR;DELTA UNDERBAR;DIAMOND UNDERBAR"⟩,
  ⟨0x235B, "APL FUNCTIONAL SYMBOL ", "JOT UNDERBAR;CIRCLE UNDERBAR;UP SHOE JOT;QUOTE QUAD;CIRCLE STAR;QUAD COLON"⟩,
  ⟨0x2361, "APL FUNCTIONAL SYMBOL ", "UP TACK DIAERESIS;DEL DIAERESIS;STAR DIAERESIS;JOT DIAERESIS;CIRCLE DIAERESIS"⟩,
  ⟨0x2366, "APL FUNCTIONAL SYMBOL ", "DOWN SHOE STILE;LEFT SHOE STILE;TILDE DIAERESIS;GREATER-THAN DIAERESIS"⟩,
  ⟨0x236A, "APL FUNCTIONAL SYMBOL ", "COMMA BAR;DEL TILDE;ZILDE;STILE TILDE;SEMICOLON UNDERBAR"⟩,
  ⟨0x236F, "APL FUNCTIONAL SYMBOL ", "QUAD NOT EQUAL;QUAD QUESTION;DOWN CARET TILDE;UP CARET TILDE;IOTA"⟩,
  ⟨0x2374, "APL FUNCTIONAL SYMBOL ", "RHO;OMEGA;ALPHA UNDERBAR;EPSILON UNDERBAR;IOTA UNDERBAR;OMEGA UNDERBAR;ALPHA"⟩,
  ⟨0x237B, "", "NOT CHECK MARK;RIGHT ANGLE WITH DOWNWARDS ZIGZAG ARROW"⟩,
  ⟨0x237D, "", "SHOULDERED OPEN BOX;BELL SYMBOL;VERTICAL LINE WITH MIDDLE DOT;INSERTION SYMBOL"⟩,
  ⟨0x2381, "", "CONTINUOUS UNDERLINE SYMBOL;DISCONTINUOUS UNDERLINE SYMBOL;EMPHASIS SYMBOL;COMPOSITION SYMBOL"⟩,
  ⟨0x2385, "", "WHITE SQUARE WITH CENTRE VERTICAL LINE;ENTER SYMBOL;ALTERNATIVE KEY SYMBOL;HELM SYMBOL"⟩,
  ⟨0x2389, "CIRCLED ", "HORIZONTAL BAR WITH NOTCH;TRIANGLE DOWN"⟩,
  ⟨0x238B, "", "BROKEN CIRCLE WITH NORTHWEST ARROW;UNDO SYMBOL;MONOSTABLE SYMBOL;HYSTERESIS SYMBOL"⟩,
  ⟨0x238F, "OPEN-CIRCUIT-OUTPUT ", "H-TYPE SYMBOL;L-TYPE SYMBOL"⟩,
  ⟨0x2391, "PASSIVE-PULL-", "DOWN-OUTPUT SYMBOL;UP-OUTPUT SYMBOL"⟩,
  ⟨0x2393, "", "DIRECT CURRENT SYMBOL FORM TWO;SOFTWARE-FUNCTION SYMBOL;APL FUNCTIONAL SYMBOL QUAD"⟩,
  ⟨0x2396, "", "DECIMAL SEPARATOR KEY SYMBOL;PREVIOUS PAGE;NEXT PAGE;PRINT SCREEN SYMBOL;CLEAR SCREEN SYMBOL"⟩,
  ⟨0x239B, "LEFT PARENTHESIS ", "UPPER HOOK;EXTENSION;LOWER HOOK"⟩,
  ⟨0x239E, "RIGHT PARENTHESIS ", "UPPER HOOK;EXTENSION;LOWER HOOK"⟩,
  ⟨0x23A1, "LEFT SQUARE BRACKET ", "UPPER CORNER;EXTENSION;LOWER CORNER"⟩,
  ⟨0x23A4, "RIGHT SQUARE BRACKET ", "UPPER CORNER;EXTENSION;LOWER CORNER"⟩,
  ⟨0x23A7, "LEFT CURLY BRACKET ", "UPPER HOOK;MIDDLE PIECE;LOWER HOOK"⟩,
  ⟨0x23AA, "", "CURLY BRACKET EXTENSION"⟩,
  ⟨0x23AB, "RIGHT CURLY BRACKET ", "UPPER HOOK;MIDDLE PIECE;LOWER HOOK"⟩,
  ⟨0x23AE, "", "INTEGRAL EXTENSION;HORIZONTAL LINE EXTENSION;UPPER LEFT OR LOWER RIGHT CURLY BRACKET SECTION"⟩,
  ⟨0x23B1, "", "UPPER RIGHT OR LOWER LEFT CURLY BRACKET SECTION;SUMMATION TOP;SUMMATION BOTTOM;TOP SQUARE BRACKET"⟩,
  ⟨0x23B5, "BOTTOM SQUARE ", "BRACKET;BRACKET OVER TOP SQUARE BRACKET"⟩,
  ⟨0x23B7, "", "RADICAL SYMBOL BOTTOM;LEFT VERTICAL BOX LINE;RIGHT VERTICAL BOX LINE"⟩,
  ⟨0x23BA, "HORIZONTAL SCAN LINE-", "1;3;7;9"⟩,
  ⟨0x23BE, "DENTISTRY SYMBOL LIGHT VERTICAL ", "AND TOP RIGHT;AND BOTTOM RIGHT;WITH CIRCLE"⟩,
  ⟨0x23C1, "DENTISTRY SYMBOL LIGHT ", "DOWN AND HORIZONTAL WITH CIRCLE;UP AND HORIZONTAL WITH CIRCLE"⟩,
  ⟨0x23C3, "DENTISTRY SYMBOL LIGHT ", "VERTICAL WITH TRIANGLE;DOWN AND HORIZONTAL WITH TRIANGLE"⟩,
  ⟨0x23C5, "DENTISTRY SYMBOL LIGHT ", "UP AND HORIZONTAL WITH TRIANGLE;VERTICAL AND WAVE"⟩,
  ⟨0x23C7, "DENTISTRY SYMBOL LIGHT ", "DOWN AND HORIZONTAL WITH WAVE;UP AND HORIZONTAL WITH WAVE;DOWN AND HORIZONTAL"⟩,
  ⟨0x23CA, "DENTISTRY SYMBOL LIGHT ", "UP AND HORIZONTAL;VERTICAL AND TOP LEFT;VERTICAL AND BOTTOM LEFT"⟩,
  ⟨0x23CD, "", "SQUARE FOOT;RETURN SYMBOL;EJECT SYMBOL;VERTICAL LINE EXTENSION"⟩,
  ⟨0x23D1, "METRICAL ", "BREVE;LONG OVER SHORT;SHORT OVER LONG"⟩,
  ⟨0x23D4, "METRICAL ", "LONG OVER TWO SHORTS;TWO SHORTS OVER LONG;TWO SHORTS JOINED;TRISEME;TETRASEME;PENTASEME"⟩,
  ⟨0x23DA, "", "EARTH GROUND;FUSE;TOP PARENTHESIS;BOTTOM PARENTHESIS;TOP CURLY BRACKET;BOTTOM CURLY BRACKET"⟩,
  ⟨0x23E0, "", "TOP TORTOISE SHELL BRACKET;BOTTOM TORTOISE SHELL BRACKET;WHITE TRAPEZIUM;BENZENE RING WITH CIRCLE"⟩,
  ⟨0x23E4, "", "STRAIGHTNESS;FLATNESS;AC CURRENT;ELECTRICAL INTERSECTION;DECIMAL EXPONENT SYMBOL"⟩,
  ⟨0x23E9, "BLACK ", "RIGHT-POINTING DOUBLE TRIANGLE;LEFT-POINTING DOUBLE TRIANGLE;UP-POINTING DOUBLE TRIANGLE"⟩,
  ⟨0x23EC, "BLACK ", "DOWN-POINTING DOUBLE TRIANGLE;RIGHT-POINTING DOUBLE TRIANGLE WITH VERTICAL BAR"⟩,
  ⟨0x23EE, "", "BLACK LEFT-POINTING DOUBLE TRIANGLE WITH VERTICAL BAR"⟩,
  ⟨0x23EF, "", "BLACK RIGHT-POINTING TRIANGLE WITH DOUBLE VERTICAL BAR"⟩,
  ⟨0x23F0, "", "ALARM CLOCK;STOPWATCH;TIMER CLOCK;HOURGLASS WITH FLOWING SAND;BLACK MEDIUM LEFT-POINTING TRIANGLE"⟩,
  ⟨0x23F5, "BLACK MEDIUM ", "RIGHT-POINTING TRIANGLE;UP-POINTING TRIANGLE;DOWN-POINTING TRIANGLE"⟩,
  ⟨0x23F8, "", "DOUBLE VERTICAL BAR;BLACK SQUARE FOR STOP;BLACK CIRCLE FOR RECORD"⟩,
  ⟨0x23FB, "POWER ", "SYMBOL;ON-OFF SYMBOL;ON SYMBOL;SLEEP SYMBOL"⟩,
  ⟨0x23FF, "", "OBSERVER EYE SYMBOL"⟩,
  ⟨0x2400, "SYMBOL FOR ", "NULL;START OF HEADING;START OF TEXT;END OF TEXT"⟩,
  ⟨0x2404, "SYMBOL FOR ", "END OF TRANSMISSION;ENQUIRY;ACKNOWLEDGE;BELL;BACKSPACE;HORIZONTAL TABULATION;LINE FEED"⟩,
  ⟨0x240B, "SYMBOL FOR ", "VERTICAL TABULATION;FORM FEED;CARRIAGE RETURN;SHIFT OUT;SHIFT IN;DATA LINK ESCAPE"⟩,
  ⟨0x2411, "SYMBOL FOR DEVICE CONTROL ", "ONE;TWO;THREE;FOUR"⟩,
  ⟨0x2415, "SYMBOL FOR ", "NEGATIVE ACKNOWLEDGE;SYNCHRONOUS IDLE;END OF TRANSMISSION BLOCK;CANCEL;END OF MEDIUM"⟩,
  ⟨0x241A, "SYMBOL FOR ", "SUBSTITUTE;ESCAPE;FILE SEPARATOR;GROUP SEPARATOR;RECORD SEPARATOR;UNIT SEPARATOR;SPACE"⟩,
  ⟨0x2421, "", "SYMBOL FOR DELETE;BLANK SYMBOL;OPEN BOX"⟩,
  ⟨0x2424, "SYMBOL FOR ", "NEWLINE;DELETE FORM TWO;SUBSTITUTE FORM TWO"⟩,
  ⟨0x2440, "OCR ", "HOOK;CHAIR;FORK;INVERTED FORK;BELT BUCKLE"⟩,
  ⟨0x2445, "OCR ", "BOW TIE;BRANCH BANK IDENTIFICATION;AMOUNT OF CHECK;DASH;CUSTOMER ACCOUNT NUMBER;DOUBLE BACKSLASH"⟩,
  ⟨0x2460, "CIRCLED DIGIT ", "ONE;TWO;THREE;FOUR;FIVE;SIX;SEVEN;EIGHT;NINE"⟩,
  ⟨0x2469, "", "CIRCLED NUMBER TEN"⟩,
  ⟨0x246A, "CIRCLED NUMBER ", "ELEVEN;TWELVE;THIRTEEN;FOURTEEN;FIFTEEN;SIXTEEN;SEVENTEEN;EIGHTEEN;NINETEEN;TWENTY"⟩,
  ⟨0x2474, "PARENTHESIZED DIGIT ", "ONE;TWO;THREE;FOUR;FIVE;SIX;SEVEN;EIGHT;NINE"⟩,
  ⟨0x247D, "PARENTHESIZED NUMBER ", "TEN;ELEVEN"⟩,
  ⟨0x247F, "PARENTHESIZED NUMBER ", "TWELVE;THIRTEEN;FOURTEEN;FIFTEEN;SIXTEEN;SEVENTEEN;EIGHTEEN;NINETEEN;TWENTY"⟩,
  ⟨0x2488, "DIGIT ", "ONE FULL STOP;TWO FULL STOP;THREE FULL STOP;FOUR FULL STOP;FIVE FULL STOP;SIX FULL STOP"⟩,
  ⟨0x248E, "", "DIGIT SEVEN FULL STOP;DIGIT EIGHT FULL STOP;DIGIT NINE FULL STOP;NUMBER TEN FULL STOP"⟩,
  ⟨0x2492, "NUMBER ", "ELEVEN FULL STOP;TWELVE FULL STOP;THIRTEEN FULL STOP;FOURTEEN FULL STOP;FIFTEEN FULL STOP"⟩,
  ⟨0x2497, "NUMBER ", "SIXTEEN FULL STOP;SEVENTEEN FULL STOP;EIGHTEEN FULL STOP;NINETEEN FULL STOP;TWENTY FULL STOP"⟩,
  ⟨0x249C, "PARENTHESIZED LATIN SMALL LETTER ", "A;B;C;D;E;F;G;H;I;J;K;L;M;N;O;P;Q;R;S;T;U;V;W;X;Y;Z"⟩,
  ⟨0x24B6, "CIRCLED LATIN CAPITAL LETTER ", "A;B;C;D;E;F;G;H;I;J;K;L;M;N;O;P;Q;R;S;T;U;V;W;X;Y;Z"⟩,
  ⟨0x24D0, "CIRCLED LATIN SMALL LETTER ", "A;B;C;D;E;F;G;H;I;J;K;L;M;N;O;P;Q;R;S;T;U;V;W;X;Y;Z"⟩,
  ⟨0x24EA, "", "CIRCLED DIGIT ZERO;NEGATIVE CIRCLED NUMBER ELEVEN"⟩,
  ⟨0x24EC, "NEGATIVE CIRCLED NUMBER ", "TWELVE;THIRTEEN;FOURTEEN;FIFTEEN;SIXTEEN;SEVENTEEN;EIGHTEEN;NINETEEN;TWENTY"⟩,
  ⟨0x24F5, "DOUBLE CIRCLED DIGIT ", "ONE;TWO;THREE;FOUR;FIVE;SIX;SEVEN;EIGHT;NINE"⟩,
  ⟨0x24FE, "", "DOUBLE CIRCLED NUMBER TEN;NEGATIVE CIRCLED DIGIT ZERO"⟩,
  ⟨0x2500, "BOX DRAWINGS ", "LIGHT HORIZONTAL;HEAVY HORIZONTAL"⟩,
  ⟨0x2502, "BOX DRAWINGS ", "LIGHT VERTICAL;HEAVY VERTICAL;LIGHT TRIPLE DASH HORIZONTAL;HEAVY TRIPLE DASH HORIZONTAL"⟩,
  ⟨0x2506, "BOX DRAWINGS ", "LIGHT TRIPLE DASH VERTICAL;HEAVY TRIPLE DASH VERTICAL;LIGHT QUADRUPLE DASH HORIZONTAL"⟩,
  ⟨0x2509, "BOX DRAWINGS ", "HEAVY QUADRUPLE DASH HORIZONTAL;LIGHT QUADRUPLE DASH VERTICAL"⟩,
  ⟨0x250B, "BOX DRAWINGS ", "HEAVY QUADRUPLE DASH VERTICAL;LIGHT DOWN AND RIGHT;DOWN LIGHT AND RIGHT HEAVY"⟩,
  ⟨0x250E, "BOX DRAWINGS ", "DOWN HEAVY AND RIGHT LIGHT;HEAVY DOWN AND RIGHT;LIGHT DOWN AND LEFT"⟩,
  ⟨0x2511, "BOX DRAWINGS ", "DOWN LIGHT AND LEFT HEAVY;DOWN HEAVY AND LEFT LIGHT;HEAVY DOWN AND LEFT"⟩,
  ⟨0x2514, "BOX DRAWINGS ", "LIGHT UP AND RIGHT;UP LIGHT AND RIGHT HEAVY;UP HEAVY AND RIGHT LIGHT;HEAVY UP AND RIGHT"⟩,
  ⟨0x2518, "BOX DRAWINGS ", "LIGHT UP AND LEFT;UP LIGHT AND LEFT HEAVY;UP HEAVY AND LEFT LIGHT;HEAVY UP AND LEFT"⟩,
  ⟨0x251C, "BOX DRAWINGS ", "LIGHT VERTICAL AND RIGHT;VERTICAL LIGHT AND RIGHT HEAVY;UP HEAVY AND RIGHT DOWN LIGHT"⟩,
  ⟨0x251F, "BOX DRAWINGS ", "DOWN HEAVY AND RIGHT UP LIGHT;VERTICAL HEAVY AND RIGHT LIGHT"⟩,
  ⟨0x2521, "BOX DRAWINGS ", "DOWN LIGHT AND RIGHT UP HEAVY;UP LIGHT AND RIGHT DOWN HEAVY;HEAVY VERTICAL AND RIGHT"⟩,
  ⟨0x2524, "BOX DRAWINGS ", "LIGHT VERTICAL AND LEFT;VERTICAL LIGHT AND LEFT HEAVY;UP HEAVY AND LEFT DOWN LIGHT"⟩,
  ⟨0x2527, "BOX DRAWINGS ", "DOWN HEAVY AND LEFT UP LIGHT;VERTICAL HEAVY AND LEFT LIGHT;DOWN LIGHT AND LEFT UP HEAVY"⟩,
  ⟨0x252A, "BOX DRAWINGS ", "UP LIGHT AND LEFT DOWN HEAVY;HEAVY VERTICAL AND LEFT;LIGHT DOWN AND HORIZONTAL"⟩,
  ⟨0x252D, "BOX DRAWINGS ", "LEFT HEAVY AND RIGHT DOWN LIGHT;RIGHT HEAVY AND LEFT DOWN LIGHT"⟩,
  ⟨0x252F, "BOX DRAWINGS DOWN ", "LIGHT AND HORIZONTAL HEAVY;HEAVY AND HORIZONTAL LIGHT"⟩,
  ⟨0x2531, "BOX DRAWINGS ", "RIGHT LIGHT AND LEFT DOWN HEAVY;LEFT LIGHT AND RIGHT DOWN HEAVY"⟩,
  ⟨0x2533, "BOX DRAWINGS ", "HEAVY DOWN AND HORIZONTAL;LIGHT UP AND HORIZONTAL;LEFT HEAVY AND RIGHT UP LIGHT"⟩,
  ⟨0x2536, "BOX DRAWINGS ", "RIGHT HEAVY AND LEFT UP LIGHT;UP LIGHT AND HORIZONTAL HEAVY"⟩,
  ⟨0x2538, "BOX DRAWINGS ", "UP HEAVY AND HORIZONTAL LIGHT;RIGHT LIGHT AND LEFT UP HEAVY"⟩,
  ⟨0x253A, "BOX DRAWINGS ", "LEFT LIGHT AND RIGHT UP HEAVY;HEAVY UP AND HORIZONTAL;LIGHT VERTICAL AND HORIZONTAL"⟩,
  ⟨0x253D, "BOX DRAWINGS ", "LEFT HEAVY AND RIGHT VERTICAL LIGHT;RIGHT HEAVY AND LEFT VERTICAL LIGHT"⟩,
  ⟨0x253F, "BOX DRAWINGS ", "VERTICAL LIGHT AND HORIZONTAL HEAVY;UP HEAVY AND DOWN HORIZONTAL LIGHT"⟩,
  ⟨0x2541, "BOX DRAWINGS ", "DOWN HEAVY AND UP HORIZONTAL LIGHT;VERTICAL HEAVY AND HORIZONTAL LIGHT"⟩,
  ⟨0x2543, "BOX DRAWINGS ", "LEFT UP HEAVY AND RIGHT DOWN LIGHT;RIGHT UP HEAVY AND LEFT DOWN LIGHT"⟩,
  ⟨0x2545, "BOX DRAWINGS ", "LEFT DOWN HEAVY AND RIGHT UP LIGHT;RIGHT DOWN HEAVY AND LEFT UP LIGHT"⟩,
  ⟨0x2547, "BOX DRAWINGS ", "DOWN LIGHT AND UP HORIZONTAL HEAVY;UP LIGHT AND DOWN HORIZONTAL HEAVY"⟩,
  ⟨0x2549, "BOX DRAWINGS ", "RIGHT LIGHT AND LEFT VERTICAL HEAVY;LEFT LIGHT AND RIGHT VERTICAL HEAVY"⟩,
  ⟨0x254B, "BOX DRAWINGS ", "HEAVY VERTICAL AND HORIZONTAL;LIGHT DOUBLE DASH HORIZONTAL;HEAVY DOUBLE DASH HORIZONTAL"⟩,
  ⟨0x254E, "BOX DRAWINGS ", "LIGHT DOUBLE DASH VERTICAL;HEAVY DOUBLE DASH VERTICAL;DOUBLE HORIZONTAL;DOUBLE VERTICAL"⟩,
  ⟨0x2552, "BOX DRAWINGS ", "DOWN SINGLE AND RIGHT DOUBLE;DOWN DOUBLE AND RIGHT SINGLE;DOUBLE DOWN AND RIGHT"⟩,
  ⟨0x2555, "BOX DRAWINGS ", "DOWN SINGLE AND LEFT DOUBLE;DOWN DOUBLE AND LEFT SINGLE;DOUBLE DOWN AND LEFT"⟩,
  ⟨0x2558, "BOX DRAWINGS ", "UP SINGLE AND RIGHT DOUBLE;UP DOUBLE AND RIGHT SINGLE;DOUBLE UP AND RIGHT"⟩,
  ⟨0x255B, "BOX DRAWINGS ", "UP SINGLE AND LEFT DOUBLE;UP DOUBLE AND LEFT SINGLE;DOUBLE UP AND LEFT"⟩,
  ⟨0x255E, "BOX DRAWINGS VERTICAL ", "SINGLE AND RIGHT DOUBLE;DOUBLE AND RIGHT SINGLE"⟩,
  ⟨0x2560, "BOX DRAWINGS ", "DOUBLE VERTICAL AND RIGHT;VERTICAL SINGLE AND LEFT DOUBLE"⟩,
  ⟨0x2562, "BOX DRAWINGS ", "VERTICAL DOUBLE AND LEFT SINGLE;DOUBLE VERTICAL AND LEFT"⟩,
  ⟨0x2564, "BOX DRAWINGS DOWN ", "SINGLE AND HORIZONTAL DOUBLE;DOUBLE AND HORIZONTAL SINGLE"⟩,
  ⟨0x2566, "BOX DRAWINGS ", "DOUBLE DOWN AND HORIZONTAL;UP SINGLE AND HORIZONTAL DOUBLE"⟩,
  ⟨0x2568, "BOX DRAWINGS ", "UP DOUBLE AND HORIZONTAL SINGLE;DOUBLE UP AND HORIZONTAL"⟩,
  ⟨0x256A, "BOX DRAWINGS VERTICAL ", "SINGLE AND HORIZONTAL DOUBLE;DOUBLE AND HORIZONTAL SINGLE"⟩,
  ⟨0x256C, "", "BOX DRAWINGS DOUBLE VERTICAL AND HORIZONTAL"⟩,
  ⟨0x256D, "BOX DRAWINGS LIGHT ARC ", "DOWN AND RIGHT;DOWN AND LEFT;UP AND LEFT;UP AND RIGHT"⟩,
  ⟨0x2571, "BOX DRAWINGS LIGHT DIAGONAL ", "UPPER RIGHT TO LOWER LEFT;UPPER LEFT TO LOWER RIGHT;CROSS"⟩,
  ⟨0x2574, "BOX DRAWINGS LIGHT ", "LEFT;UP;RIGHT;DOWN"⟩,
  ⟨0x2578, "BOX DRAWINGS HEAVY ", "LEFT;UP;RIGHT;DOWN"⟩,
  ⟨0x257C, "BOX DRAWINGS ", "LIGHT LEFT AND HEAVY RIGHT;LIGHT UP AND HEAVY DOWN;HEAVY LEFT AND LIGHT RIGHT"⟩,
  ⟨0x257F, "", "BOX DRAWINGS HEAVY UP AND LIGHT DOWN;UPPER HALF BLOCK;LOWER ONE EIGHTH BLOCK"⟩,
  ⟨0x2582, "LOWER ", "ONE QUARTER BLOCK;THREE EIGHTHS BLOCK;HALF BLOCK;FIVE EIGHTHS BLOCK;THREE QUARTERS BLOCK"⟩,
  ⟨0x2587, "", "LOWER SEVEN EIGHTHS BLOCK;FULL BLOCK;LEFT SEVEN EIGHTHS BLOCK;LEFT THREE QUARTERS BLOCK"⟩,
  ⟨0x258B, "LEFT ", "FIVE EIGHTHS BLOCK;HALF BLOCK;THREE EIGHTHS BLOCK;ONE QUARTER BLOCK;ONE EIGHTH BLOCK"⟩,
  ⟨0x2590, "", "RIGHT HALF BLOCK;LIGHT SHADE;MEDIUM SHADE;DARK SHADE;UPPER ONE EIGHTH BLOCK;RIGHT ONE EIGHTH BLOCK"⟩,
  ⟨0x2596, "QUADRANT ", "LOWER LEFT;LOWER RIGHT;UPPER LEFT"⟩,
  ⟨0x2599, "QUADRANT UPPER LEFT AND LOWER ", "LEFT AND LOWER RIGHT;RIGHT"⟩,
  ⟨0x259B, "QUADRANT UPPER LEFT AND UPPER RIGHT AND LOWER ", "LEFT;RIGHT"⟩,
  ⟨0x259D, "QUADRANT UPPER ", "RIGHT;RIGHT AND LOWER LEFT;RIGHT AND LOWER LEFT AND LOWER RIGHT"⟩,
  ⟨0x25A0, "", "BLACK SQUARE;WHITE SQUARE"⟩,
  ⟨0x25A2, "WHITE SQUARE ", "WITH ROUNDED CORNERS;CONTAINING BLACK SMALL SQUARE"⟩,
  ⟨0x25A4, "SQUARE WITH ", "HORIZONTAL FILL;VERTICAL FILL;ORTHOGONAL CROSSHATCH FILL"⟩,
  ⟨0x25A7, "SQUARE WITH ", "UPPER LEFT TO LOWER RIGHT FILL;UPPER RIGHT TO LOWER LEFT FILL;DIAGONAL CROSSHATCH FILL"⟩,
  ⟨0x25AA, "", "BLACK SMALL SQUARE;WHITE SMALL SQUARE;BLACK RECTANGLE;WHITE RECTANGLE;BLACK VERTICAL RECTANGLE"⟩,
  ⟨0x25AF, "", "WHITE VERTICAL RECTANGLE;BLACK PARALLELOGRAM;WHITE PARALLELOGRAM;BLACK UP-POINTING TRIANGLE"⟩,
  ⟨0x25B3, "", "WHITE UP-POINTING TRIANGLE;BLACK UP-POINTING SMALL TRIANGLE;WHITE UP-POINTING SMALL TRIANGLE"⟩,
  ⟨0x25B6, "", "BLACK RIGHT-POINTING TRIANGLE;WHITE RIGHT-POINTING TRIANGLE;BLACK RIGHT-POINTING SMALL TRIANGLE"⟩,
  ⟨0x25B9, "", "WHITE RIGHT-POINTING SMALL TRIANGLE;BLACK RIGHT-POINTING POINTER;WHITE RIGHT-POINTING POINTER"⟩,
  ⟨0x25BC, "", "BLACK DOWN-POINTING TRIANGLE;WHITE DOWN-POINTING TRIANGLE;BLACK DOWN-POINTING SMALL TRIANGLE"⟩,
  ⟨0x25BF, "", "WHITE DOWN-POINTING SMALL TRIANGLE;BLACK LEFT-POINTING TRIANGLE;WHITE LEFT-POINTING TRIANGLE"⟩,
  ⟨0x25C2, "", "BLACK LEFT-POINTING SMALL TRIANGLE;WHITE LEFT-POINTING SMALL TRIANGLE;BLACK LEFT-POINTING POINTER"⟩,
  ⟨0x25C5, "", "WHITE LEFT-POINTING POINTER;BLACK DIAMOND;WHITE DIAMOND;WHITE DIAMOND CONTAINING BLACK SMALL DIAMOND"⟩,
  ⟨0x25C9, "", "FISHEYE;LOZENGE;WHITE CIRCLE;DOTTED CIRCLE;CIRCLE WITH VERTICAL FILL;BULLSEYE;BLACK CIRCLE"⟩,
  ⟨0x25D0, "CIRCLE WITH ", "LEFT HALF BLACK;RIGHT HALF BLACK;LOWER HALF BLACK"⟩,
  ⟨0x25D3, "CIRCLE WITH ", "UPPER HALF BLACK;UPPER RIGHT QUADRANT BLACK;ALL BUT UPPER LEFT QUADRANT BLACK"⟩,
  ⟨0x25D6, "", "LEFT HALF BLACK CIRCLE;RIGHT HALF BLACK CIRCLE"⟩,
  ⟨0x25D8, "", "INVERSE BULLET;INVERSE WHITE CIRCLE;UPPER HALF INVERSE WHITE CIRCLE;LOWER HALF INVERSE WHITE CIRCLE"⟩,
  ⟨0x25DC, "", "UPPER LEFT QUADRANT CIRCULAR ARC;UPPER RIGHT QUADRANT CIRCULAR ARC;LOWER RIGHT QUADRANT CIRCULAR ARC"⟩,
  ⟨0x25DF, "", "LOWER LEFT QUADRANT CIRCULAR ARC;UPPER HALF CIRCLE;LOWER HALF CIRCLE"⟩,
  ⟨0x25E2, "BLACK ", "LOWER RIGHT TRIANGLE;LOWER LEFT TRIANGLE;UPPER LEFT TRIANGLE;UPPER RIGHT TRIANGLE"⟩,
  ⟨0x25E6, "", "WHITE BULLET;SQUARE WITH LEFT HALF BLACK"⟩,
  ⟨0x25E8, "SQUARE WITH ", "RIGHT HALF BLACK;UPPER LEFT DIAGONAL HALF BLACK;LOWER RIGHT DIAGONAL HALF BLACK"⟩,
  ⟨0x25EB, "WHITE ", "SQUARE WITH VERTICAL BISECTING LINE;UP-POINTING TRIANGLE WITH DOT"⟩,
  ⟨0x25ED, "UP-POINTING TRIANGLE WITH ", "LEFT HALF BLACK;RIGHT HALF BLACK"⟩,
  ⟨0x25EF, "", "LARGE CIRCLE"⟩,
  ⟨0x25F0, "WHITE SQUARE WITH ", "UPPER LEFT QUADRANT;LOWER LEFT QUADRANT;LOWER RIGHT QUADRANT;UPPER RIGHT QUADRANT"⟩,
  ⟨0x25F4, "WHITE CIRCLE WITH ", "UPPER LEFT QUADRANT;LOWER LEFT QUADRANT;LOWER RIGHT QUADRANT;UPPER RIGHT QUADRANT"⟩,
  ⟨0x25F8, "", "UPPER LEFT TRIANGLE;UPPER RIGHT TRIANGLE;LOWER LEFT TRIANGLE;WHITE MEDIUM SQUARE"⟩,
  ⟨0x25FC, "", "BLACK MEDIUM SQUARE;WHITE MEDIUM SMALL SQUARE;BLACK MEDIUM SMALL SQUARE;LOWER RIGHT TRIANGLE"⟩,
  ⟨0x2600, "", "BLACK SUN WITH RAYS;CLOUD;UMBRELLA;SNOWMAN;COMET;BLACK STAR;WHITE STAR;LIGHTNING;THUNDERSTORM"⟩,
  ⟨0x2609, "", "SUN;ASCENDING NODE;DESCENDING NODE;CONJUNCTION;OPPOSITION;BLACK TELEPHONE;WHITE TELEPHONE;BALLOT BOX"⟩,
  ⟨0x2611, "BALLOT BOX WITH ", "CHECK;X"⟩,
  ⟨0x2613, "", "SALTIRE;UMBRELLA WITH RAIN DROPS;HOT BEVERAGE;WHITE SHOGI PIECE;BLACK SHOGI PIECE"⟩,
  ⟨0x2618, "", "SHAMROCK;REVERSED ROTATED FLORAL HEART BULLET;BLACK LEFT POINTING INDEX;BLACK RIGHT POINTING INDEX"⟩,
  ⟨0x261C, "WHITE ", "LEFT POINTING INDEX;UP POINTING INDEX;RIGHT POINTING INDEX;DOWN POINTING INDEX"⟩,
  ⟨0x2620, "", "SKULL AND CROSSBONES"⟩,
  ⟨0x2621, "", "CAUTION SIGN;RADIOACTIVE SIGN;BIOHAZARD SIGN;CADUCEUS;ANKH;ORTHODOX CROSS;CHI RHO;CROSS OF LORRAINE"⟩,
  ⟨0x2629, "", "CROSS OF JERUSALEM;STAR AND CRESCENT;FARSI SYMBOL;ADI SHAKTI;HAMMER AND SICKLE;PEACE SYMBOL;YIN YANG"⟩,
  ⟨0x2630, "TRIGRAM FOR ", "HEAVEN;LAKE;FIRE;THUNDER;WIND;WATER;MOUNTAIN;EARTH"⟩,
  ⟨0x2638, "", "WHEEL OF DHARMA"⟩,
  ⟨0x2639, "", "WHITE FROWNING FACE;WHITE SMILING FACE;BLACK SMILING FACE;WHITE SUN WITH RAYS;FIRST QUARTER MOON"⟩,
  ⟨0x263E, "", "LAST QUARTER MOON;MERCURY;FEMALE SIGN;EARTH;MALE SIGN;JUPITER;SATURN;URANUS;NEPTUNE"⟩,
  ⟨0x2647, "", "PLUTO;ARIES;TAURUS;GEMINI;CANCER;LEO;VIRGO;LIBRA;SCORPIUS;SAGITTARIUS;CAPRICORN;AQUARIUS;PISCES"⟩,
  ⟨0x2654, "WHITE CHESS ", "KING;QUEEN;ROOK;BISHOP;KNIGHT;PAWN"⟩,
  ⟨0x265A, "BLACK CHESS ", "KING;QUEEN;ROOK;BISHOP;KNIGHT;PAWN"⟩,
  ⟨0x2660, "", "BLACK SPADE SUIT;WHITE HEART SUIT;WHITE DIAMOND SUIT;BLACK CLUB SUIT;WHITE SPADE SUIT"⟩,
  ⟨0x2665, "", "BLACK HEART SUIT;BLACK DIAMOND SUIT;WHITE CLUB SUIT;HOT SPRINGS;QUARTER NOTE;EIGHTH NOTE"⟩,
  ⟨0x266B, "BEAMED ", "EIGHTH NOTES;SIXTEENTH NOTES"⟩,
  ⟨0x266D, "MUSIC ", "FLAT SIGN;NATURAL SIGN;SHARP SIGN"⟩,
  ⟨0x2670, "", "WEST SYRIAC CROSS;EAST SYRIAC CROSS;UNIVERSAL RECYCLING SYMBOL"⟩,
  ⟨0x2673, "RECYCLING SYMBOL FOR TYPE-", "1 PLASTICS;2 PLASTICS;3 PLASTICS;4 PLASTICS;5 PLASTICS;6 PLASTICS"⟩,
  ⟨0x2679, "RECYCLING SYMBOL FOR ", "TYPE-7 PLASTICS;GENERIC MATERIALS"⟩,
  ⟨0x267B, "", "BLACK UNIVERSAL RECYCLING SYMBOL"⟩,
  ⟨0x267C, "", "RECYCLED PAPER SYMBOL;PARTIALLY-RECYCLED PAPER SYMBOL;PERMANENT PAPER SIGN;WHEELCHAIR SYMBOL"⟩,
  ⟨0x2680, "DIE FACE-", "1;2;3;4;5;6"⟩,
  ⟨0x2686, "WHITE CIRCLE WITH ", "DOT RIGHT;TWO DOTS"⟩,
  ⟨0x2688, "BLACK CIRCLE WITH ", "WHITE DOT RIGHT;TWO WHITE DOTS"⟩,
  ⟨0x268A, "MONOGRAM FOR ", "YANG;YIN"⟩,
  ⟨0x268C, "DIGRAM FOR ", "GREATER YANG;LESSER YIN;LESSER YANG;GREATER YIN"⟩,
  ⟨0x2690, "", "WHITE FLAG;BLACK FLAG;HAMMER AND PICK;ANCHOR;CROSSED SWORDS;STAFF OF AESCULAPIUS"⟩,
  ⟨0x2696, "", "SCALES;ALEMBIC;FLOWER;GEAR;STAFF OF HERMES;ATOM SYMBOL;FLEUR-DE-LIS;OUTLINED WHITE STAR"⟩,
  ⟨0x269E, "THREE LINES CONVERGING ", "RIGHT;LEFT"⟩,
  ⟨0x26A0, "", "WARNING SIGN;HIGH VOLTAGE SIGN"⟩,
  ⟨0x26A2, "", "DOUBLED FEMALE SIGN;DOUBLED MALE SIGN;INTERLOCKED FEMALE AND MALE SIGN;MALE AND FEMALE SIGN"⟩,
  ⟨0x26A6, "MALE WITH STROKE ", "SIGN;AND MALE AND FEMALE SIGN"⟩,
  ⟨0x26A8, "", "VERTICAL MALE WITH STROKE SIGN;HORIZONTAL MALE WITH STROKE SIGN"⟩,
  ⟨0x26AA, "MEDIUM ", "WHITE CIRCLE;BLACK CIRCLE;SMALL WHITE CIRCLE"⟩,
  ⟨0x26AD, "", "MARRIAGE SYMBOL;DIVORCE SYMBOL;UNMARRIED PARTNERSHIP SYMBOL;COFFIN;FUNERAL URN"⟩,
  ⟨0x26B2, "", "NEUTER;CERES;PALLAS;JUNO;VESTA;CHIRON;BLACK MOON LILITH;SEXTILE;SEMISEXTILE;QUINCUNX;SESQUIQUADRATE"⟩,
  ⟨0x26BD, "", "SOCCER BALL;BASEBALL;SQUARED KEY;WHITE DRAUGHTS MAN;WHITE DRAUGHTS KING;BLACK DRAUGHTS MAN"⟩,
  ⟨0x26C3, "", "BLACK DRAUGHTS KING;SNOWMAN WITHOUT SNOW;SUN BEHIND CLOUD;RAIN;BLACK SNOWMAN;THUNDER CLOUD AND RAIN"⟩,
  ⟨0x26C9, "TURNED ", "WHITE SHOGI PIECE;BLACK SHOGI PIECE"⟩,
  ⟨0x26CB, "", "WHITE DIAMOND IN SQUARE;CROSSING LANES;DISABLED CAR"⟩,
  ⟨0x26CE, "", "OPHIUCHUS;PICK;CAR SLIDING;HELMET WITH WHITE CROSS;CIRCLED CROSSING LANES;CHAINS;NO ENTRY"⟩,
  ⟨0x26D5, "", "ALTERNATE ONE-WAY LEFT WAY TRAFFIC;BLACK TWO-WAY LEFT WAY TRAFFIC;WHITE TWO-WAY LEFT WAY TRAFFIC"⟩,
  ⟨0x26D8, "", "BLACK LEFT LANE MERGE;WHITE LEFT LANE MERGE;DRIVE SLOW SIGN;HEAVY WHITE DOWN-POINTING TRIANGLE"⟩,
  ⟨0x26DC, "", "LEFT CLOSED ENTRY;SQUARED SALTIRE;FALLING DIAGONAL IN WHITE CIRCLE IN BLACK SQUARE;BLACK TRUCK"⟩,
  ⟨0x26E0, "RESTRICTED LEFT ENTRY-", "1;2"⟩,
  ⟨0x26E2, "", "ASTRONOMICAL SYMBOL FOR URANUS"⟩,
  ⟨0x26E3, "", "HEAVY CIRCLE WITH STROKE AND TWO DOTS ABOVE;PENTAGRAM;RIGHT-HANDED INTERLACED PENTAGRAM"⟩,
  ⟨0x26E6, "", "LEFT-HANDED INTERLACED PENTAGRAM;INVERTED PENTAGRAM;BLACK CROSS ON SHIELD;SHINTO SHRINE"⟩,
  ⟨0x26EA, "", "CHURCH;CASTLE;HISTORIC SITE;GEAR WITHOUT HUB;GEAR WITH HANDLES;MAP SYMBOL FOR LIGHTHOUSE"⟩,
  ⟨0x26F0, "", "MOUNTAIN;UMBRELLA ON GROUND;FOUNTAIN;FLAG IN HOLE;FERRY;SAILBOAT;SQUARE FOUR CORNERS;SKIER;ICE SKATE"⟩,
  ⟨0x26F9, "", "PERSON WITH BALL;TENT;JAPANESE BANK SYMBOL;HEADSTONE GRAVEYARD SYMBOL;FUEL PUMP;CUP ON BLACK SQUARE"⟩,
  ⟨0x26FF, "", "WHITE FLAG WITH HORIZONTAL MIDDLE BLACK STRIPE;BLACK SAFETY SCISSORS;UPPER BLADE SCISSORS"⟩,
  ⟨0x2702, "", "BLACK SCISSORS;LOWER BLADE SCISSORS;WHITE SCISSORS;WHITE HEAVY CHECK MARK;TELEPHONE LOCATION SIGN"⟩,
  ⟨0x2707, "", "TAPE DRIVE;AIRPLANE;ENVELOPE;RAISED FIST;RAISED HAND;VICTORY HAND;WRITING HAND"⟩,
  ⟨0x270E, "", "LOWER RIGHT PENCIL;PENCIL;UPPER RIGHT PENCIL;WHITE NIB;BLACK NIB;CHECK MARK;HEAVY CHECK MARK"⟩,
  ⟨0x2715, "", "MULTIPLICATION X;HEAVY MULTIPLICATION X;BALLOT X;HEAVY BALLOT X;OUTLINED GREEK CROSS"⟩,
  ⟨0x271A, "", "HEAVY GREEK CROSS;OPEN CENTRE CROSS;HEAVY OPEN CENTRE CROSS;LATIN CROSS;SHADOWED WHITE LATIN CROSS"⟩,
  ⟨0x271F, "", "OUTLINED LATIN CROSS;MALTESE CROSS;STAR OF DAVID;FOUR TEARDROP-SPOKED ASTERISK"⟩,
  ⟨0x2723, "", "FOUR BALLOON-SPOKED ASTERISK;HEAVY FOUR BALLOON-SPOKED ASTERISK;FOUR CLUB-SPOKED ASTERISK"⟩,
  ⟨0x2726, "", "BLACK FOUR POINTED STAR;WHITE FOUR POINTED STAR;SPARKLES;STRESS OUTLINED WHITE STAR"⟩,
  ⟨0x272A, "", "CIRCLED WHITE STAR;OPEN CENTRE BLACK STAR;BLACK CENTRE WHITE STAR;OUTLINED BLACK STAR"⟩,
  ⟨0x272E, "", "HEAVY OUTLINED BLACK STAR;PINWHEEL STAR;SHADOWED WHITE STAR;HEAVY ASTERISK;OPEN CENTRE ASTERISK"⟩,
  ⟨0x2733, "EIGHT ", "SPOKED ASTERISK;POINTED BLACK STAR;POINTED PINWHEEL STAR"⟩,
  ⟨0x2736, "", "SIX POINTED BLACK STAR;EIGHT POINTED RECTILINEAR BLACK STAR"⟩,
  ⟨0x2738, "", "HEAVY EIGHT POINTED RECTILINEAR BLACK STAR;TWELVE POINTED BLACK STAR"⟩,
  ⟨0x273A, "", "SIXTEEN POINTED ASTERISK;TEARDROP-SPOKED ASTERISK;OPEN CENTRE TEARDROP-SPOKED ASTERISK"⟩,
  ⟨0x273D, "", "HEAVY TEARDROP-SPOKED ASTERISK;SIX PETALLED BLACK AND WHITE FLORETTE"⟩,
  ⟨0x273F, "", "BLACK FLORETTE;WHITE FLORETTE;EIGHT PETALLED OUTLINED BLACK FLORETTE"⟩,
  ⟨0x2742, "", "CIRCLED OPEN CENTRE EIGHT POINTED STAR;HEAVY TEARDROP-SPOKED PINWHEEL ASTERISK;SNOWFLAKE"⟩,
  ⟨0x2745, "", "TIGHT TRIFOLIATE SNOWFLAKE;HEAVY CHEVRON SNOWFLAKE;SPARKLE;HEAVY SPARKLE;BALLOON-SPOKED ASTERISK"⟩,
  ⟨0x274A, "", "EIGHT TEARDROP-SPOKED PROPELLER ASTERISK;HEAVY EIGHT TEARDROP-SPOKED PROPELLER ASTERISK"⟩,
  ⟨0x274C, "", "CROSS MARK;SHADOWED WHITE CIRCLE;NEGATIVE SQUARED CROSS MARK"⟩,
  ⟨0x274F, "", "LOWER RIGHT DROP-SHADOWED WHITE SQUARE;UPPER RIGHT DROP-SHADOWED WHITE SQUARE"⟩,
  ⟨0x2751, "", "LOWER RIGHT SHADOWED WHITE SQUARE;UPPER RIGHT SHADOWED WHITE SQUARE;BLACK QUESTION MARK ORNAMENT"⟩,
  ⟨0x2754, "WHITE ", "QUESTION MARK ORNAMENT;EXCLAMATION MARK ORNAMENT"⟩,
  ⟨0x2756, "", "BLACK DIAMOND MINUS WHITE X;HEAVY EXCLAMATION MARK SYMBOL;LIGHT VERTICAL BAR;MEDIUM VERTICAL BAR"⟩,
  ⟨0x275A, "HEAVY ", "VERTICAL BAR;SINGLE TURNED COMMA QUOTATION MARK ORNAMENT;SINGLE COMMA QUOTATION MARK ORNAMENT"⟩,
  ⟨0x275D, "HEAVY DOUBLE ", "TURNED COMMA QUOTATION MARK ORNAMENT;COMMA QUOTATION MARK ORNAMENT"⟩,
  ⟨0x275F, "HEAVY LOW ", "SINGLE COMMA QUOTATION MARK ORNAMENT;DOUBLE COMMA QUOTATION MARK ORNAMENT"⟩,
  ⟨0x2761, "", "CURVED STEM PARAGRAPH SIGN ORNAMENT"⟩,
  ⟨0x2762, "HEAVY ", "EXCLAMATION MARK ORNAMENT;HEART EXCLAMATION MARK ORNAMENT;BLACK HEART"⟩,
  ⟨0x2765, "", "ROTATED HEAVY BLACK HEART BULLET;FLORAL HEART;ROTATED FLORAL HEART BULLET"⟩,
  ⟨0x2768, "MEDIUM ", "LEFT PARENTHESIS ORNAMENT;RIGHT PARENTHESIS ORNAMENT"⟩,
  ⟨0x276A, "MEDIUM FLATTENED ", "LEFT PARENTHESIS ORNAMENT;RIGHT PARENTHESIS ORNAMENT"⟩,
  ⟨0x276C, "MEDIUM ", "LEFT-POINTING ANGLE BRACKET ORNAMENT;RIGHT-POINTING ANGLE BRACKET ORNAMENT"⟩,
  ⟨0x276E, "HEAVY ", "LEFT-POINTING ANGLE QUOTATION MARK ORNAMENT;RIGHT-POINTING ANGLE QUOTATION MARK ORNAMENT"⟩,
  ⟨0x2770, "HEAVY ", "LEFT-POINTING ANGLE BRACKET ORNAMENT;RIGHT-POINTING ANGLE BRACKET ORNAMENT"⟩,
  ⟨0x2772, "LIGHT ", "LEFT TORTOISE SHELL BRACKET ORNAMENT;RIGHT TORTOISE SHELL BRACKET ORNAMENT"⟩,
  ⟨0x2774, "MEDIUM ", "LEFT CURLY BRACKET ORNAMENT;RIGHT CURLY BRACKET ORNAMENT"⟩,
  ⟨0x2776, "DINGBAT NEGATIVE CIRCLED DIGIT ", "ONE;TWO;THREE;FOUR;FIVE;SIX;SEVEN;EIGHT;NINE"⟩,
  ⟨0x277F, "", "DINGBAT NEGATIVE CIRCLED NUMBER TEN"⟩,
  ⟨0x2780, "DINGBAT CIRCLED SANS-SERIF DIGIT ", "ONE;TWO;THREE;FOUR;FIVE;SIX;SEVEN;EIGHT;NINE"⟩,
  ⟨0x2789, "", "DINGBAT CIRCLED SANS-SERIF NUMBER TEN"⟩,
  ⟨0x278A, "DINGBAT NEGATIVE CIRCLED SANS-SERIF DIGIT ", "ONE;TWO;THREE;FOUR;FIVE;SIX;SEVEN;EIGHT;NINE"⟩,
  ⟨0x2793, "", "DINGBAT NEGATIVE CIRCLED SANS-SERIF NUMBER TEN;HEAVY WIDE-HEADED RIGHTWARDS ARROW"⟩,
  ⟨0x2795, "HEAVY ", "PLUS SIGN;MINUS SIGN;DIVISION SIGN;SOUTH EAST ARROW;RIGHTWARDS ARROW;NORTH EAST ARROW"⟩,
  ⟨0x279B, "", "DRAFTING POINT RIGHTWARDS ARROW;HEAVY ROUND-TIPPED RIGHTWARDS ARROW;TRIANGLE-HEADED RIGHTWARDS ARROW"⟩,
  ⟨0x279E, "", "HEAVY TRIANGLE-HEADED RIGHTWARDS ARROW;DASHED TRIANGLE-HEADED RIGHTWARDS ARROW"⟩,
  ⟨0x27A0, "", "HEAVY DASHED TRIANGLE-HEADED RIGHTWARDS ARROW;BLACK RIGHTWARDS ARROW"⟩,
  ⟨0x27A2, "THREE-D ", "TOP-LIGHTED RIGHTWARDS ARROWHEAD;BOTTOM-LIGHTED RIGHTWARDS ARROWHEAD"⟩,
  ⟨0x27A4, "", "BLACK RIGHTWARDS ARROWHEAD"⟩,
  ⟨0x27A5, "HEAVY BLACK CURVED ", "DOWNWARDS AND RIGHTWARDS ARROW;UPWARDS AND RIGHTWARDS ARROW"⟩,
  ⟨0x27A7, "", "SQUAT BLACK RIGHTWARDS ARROW;HEAVY CONCAVE-POINTED BLACK RIGHTWARDS ARROW"⟩,
  ⟨0x27A9, "", "RIGHT-SHADED WHITE RIGHTWARDS ARROW;LEFT-SHADED WHITE RIGHTWARDS ARROW"⟩,
  ⟨0x27AB, "", "BACK-TILTED SHADOWED WHITE RIGHTWARDS ARROW;FRONT-TILTED SHADOWED WHITE RIGHTWARDS ARROW"⟩,
  ⟨0x27AD, "HEAVY ", "LOWER RIGHT-SHADOWED WHITE RIGHTWARDS ARROW;UPPER RIGHT-SHADOWED WHITE RIGHTWARDS ARROW"⟩,
  ⟨0x27AF, "", "NOTCHED LOWER RIGHT-SHADOWED WHITE RIGHTWARDS ARROW"⟩,
  ⟨0x27B0, "", "CURLY LOOP;NOTCHED UPPER RIGHT-SHADOWED WHITE RIGHTWARDS ARROW"⟩,
  ⟨0x27B2, "", "CIRCLED HEAVY WHITE RIGHTWARDS ARROW;WHITE-FEATHERED RIGHTWARDS ARROW"⟩,
  ⟨0x27B4, "BLACK-FEATHERED ", "SOUTH EAST ARROW;RIGHTWARDS ARROW;NORTH EAST ARROW"⟩,
  ⟨0x27B7, "HEAVY BLACK-FEATHERED ", "SOUTH EAST ARROW;RIGHTWARDS ARROW;NORTH EAST ARROW"⟩,
  ⟨0x27BA, "", "TEARDROP-BARBED RIGHTWARDS ARROW;HEAVY TEARDROP-SHANKED RIGHTWARDS ARROW"⟩,
  ⟨0x27BC, "", "WEDGE-TAILED RIGHTWARDS ARROW;HEAVY WEDGE-TAILED RIGHTWARDS ARROW;OPEN-OUTLINED RIGHTWARDS ARROW"⟩,
  ⟨0x27BF, "", "DOUBLE CURLY LOOP;THREE DIMENSIONAL ANGLE;WHITE TRIANGLE CONTAINING SMALL WHITE TRIANGLE"⟩,
  ⟨0x27C2, "", "PERPENDICULAR;OPEN SUBSET;OPEN SUPERSET;LEFT S-SHAPED BAG DELIMITER;RIGHT S-SHAPED BAG DELIMITER"⟩,
  ⟨0x27C7, "", "OR WITH DOT INSIDE;REVERSE SOLIDUS PRECEDING SUBSET;SUPERSET PRECEDING SOLIDUS"⟩,
  ⟨0x27CA, "", "VERTICAL BAR WITH HORIZONTAL STROKE;MATHEMATICAL RISING DIAGONAL;LONG DIVISION"⟩,
  ⟨0x27CD, "", "MATHEMATICAL FALLING DIAGONAL;SQUARED LOGICAL AND;SQUARED LOGICAL OR;WHITE DIAMOND WITH CENTRED DOT"⟩,
  ⟨0x27D1, "", "AND WITH DOT;ELEMENT OF OPENING UPWARDS;LOWER RIGHT CORNER WITH DOT;UPPER LEFT CORNER WITH DOT"⟩,
  ⟨0x27D5, "", "LEFT OUTER JOIN;RIGHT OUTER JOIN;FULL OUTER JOIN;LARGE UP TACK;LARGE DOWN TACK"⟩,
  ⟨0x27DA, "LEFT ", "AND RIGHT DOUBLE TURNSTILE;AND RIGHT TACK;MULTIMAP"⟩,
  ⟨0x27DD, "", "LONG RIGHT TACK;LONG LEFT TACK;UP TACK WITH CIRCLE ABOVE;LOZENGE DIVIDED BY HORIZONTAL RULE"⟩,
  ⟨0x27E1, "WHITE CONCAVE-SIDED ", "DIAMOND;DIAMOND WITH LEFTWARDS TICK;DIAMOND WITH RIGHTWARDS TICK"⟩,
  ⟨0x27E4, "WHITE SQUARE WITH ", "LEFTWARDS TICK;RIGHTWARDS TICK"⟩,
  ⟨0x27E6, "MATHEMATICAL ", "LEFT WHITE SQUARE BRACKET;RIGHT WHITE SQUARE BRACKET;LEFT ANGLE BRACKET"⟩,
  ⟨0x27E9, "MATHEMATICAL ", "RIGHT ANGLE BRACKET;LEFT DOUBLE ANGLE BRACKET;RIGHT DOUBLE ANGLE BRACKET"⟩,
  ⟨0x27EC, "MATHEMATICAL ", "LEFT WHITE TORTOISE SHELL BRACKET;RIGHT WHITE TORTOISE SHELL BRACKET"⟩,
  ⟨0x27EE, "MATHEMATICAL ", "LEFT FLATTENED PARENTHESIS;RIGHT FLATTENED PARENTHESIS"⟩,
  ⟨0x27F0, "", "UPWARDS QUADRUPLE ARROW;DOWNWARDS QUADRUPLE ARROW"⟩,
  ⟨0x27F2, "", "ANTICLOCKWISE GAPPED CIRCLE ARROW;CLOCKWISE GAPPED CIRCLE ARROW;RIGHT ARROW WITH CIRCLED PLUS"⟩,
  ⟨0x27F5, "LONG ", "LEFTWARDS ARROW;RIGHTWARDS ARROW;LEFT RIGHT ARROW"⟩,
  ⟨0x27F8, "LONG ", "LEFTWARDS DOUBLE ARROW;RIGHTWARDS DOUBLE ARROW;LEFT RIGHT DOUBLE ARROW;LEFTWARDS ARROW FROM BAR"⟩,
  ⟨0x27FC, "LONG ", "RIGHTWARDS ARROW FROM BAR;LEFTWARDS DOUBLE ARROW FROM BAR;RIGHTWARDS DOUBLE ARROW FROM BAR"⟩,
  ⟨0x27FF, "", "LONG RIGHTWARDS SQUIGGLE ARROW;BRAILLE PATTERN BLANK"⟩,
  ⟨0x2801, "BRAILLE PATTERN DOTS-", "1;2;12;3;13;23;123;4;14;24;124"⟩,
  ⟨0x280C, "BRAILLE PATTERN DOTS-", "34;134;234;1234;5;15;25;125;35;135;235;1235;45;145;245;1245;345;1345;2345;12345"⟩,
  ⟨0x2820, "BRAILLE PATTERN DOTS-", "6;16;26;126;36;136;236;1236;46;146;246;1246;346;1346;2346;12346;56;156;256;1256"⟩,
  ⟨0x2834, "BRAILLE PATTERN DOTS-", "356;1356;2356;12356;456;1456;2456;12456;3456;13456;23456;123456;7;17;27;127"⟩,
  ⟨0x2844, "BRAILLE PATTERN DOTS-", "37;137;237;1237;47;147;247;1247;347;1347;2347;12347;57;157;257;1257;357;1357"⟩,
  ⟨0x2856, "BRAILLE PATTERN DOTS-", "2357;12357;457;1457;2457;12457;3457;13457;23457;123457;67;167;267;1267;367;1367"⟩,
  ⟨0x2866, "BRAILLE PATTERN DOTS-", "2367;12367;467;1467;2467;12467;3467;13467;23467;123467;567;1567;2567;12567;3567"⟩,
  ⟨0x2875, "BRAILLE PATTERN DOTS-", "13567;23567;123567;4567;14567;24567;124567;34567;134567;234567;1234567;8;18"⟩,
  ⟨0x2882, "BRAILLE PATTERN DOTS-", "28;128;38;138;238;1238;48;148;248;1248;348;1348;2348;12348;58;158;258;1258;358"⟩,
  ⟨0x2895, "BRAILLE PATTERN DOTS-", "1358;2358;12358;458;1458;2458;12458;3458;13458;23458;123458;68;168;268;1268;368"⟩,
  ⟨0x28A5, "BRAILLE PATTERN DOTS-", "1368;2368;12368;468;1468;2468;12468;3468;13468;23468;123468;568;1568;2568;12568"⟩,
  ⟨0x28B4, "BRAILLE PATTERN DOTS-", "3568;13568;23568;123568;4568;14568;24568;124568;34568;134568;234568;1234568"⟩,
  ⟨0x28C0, "BRAILLE PATTERN DOTS-", "78;178;278;1278;378;1378;2378;12378;478;1478;2478;12478;3478;13478;23478;123478"⟩,
  ⟨0x28D0, "BRAILLE PATTERN DOTS-", "578;1578;2578;12578;3578;13578;23578;123578;4578;14578;24578;124578;34578"⟩,
  ⟨0x28DD, "BRAILLE PATTERN DOTS-", "134578;234578;1234578;678;1678;2678;12678;3678;13678;23678;123678;4678;14678"⟩,
  ⟨0x28EA, "BRAILLE PATTERN DOTS-", "24678;124678;34678;134678;234678;1234678;5678;15678;25678;125678;35678;135678"⟩,
  ⟨0x28F6, "BRAILLE PATTERN DOTS-", "235678;1235678;45678;145678;245678;1245678;345678;1345678;2345678;12345678"⟩,
  ⟨0x2900, "RIGHTWARDS TWO-HEADED ARROW WITH ", "VERTICAL STROKE;DOUBLE VERTICAL STROKE"⟩,
  ⟨0x2902, "", "LEFTWARDS DOUBLE ARROW WITH VERTICAL STROKE"⟩,
  ⟨0x2903, "", "RIGHTWARDS DOUBLE ARROW WITH VERTICAL STROKE;LEFT RIGHT DOUBLE ARROW WITH VERTICAL STROKE"⟩,
  ⟨0x2905, "", "RIGHTWARDS TWO-HEADED ARROW FROM BAR;LEFTWARDS DOUBLE ARROW FROM BAR"⟩,
  ⟨0x2907, "", "RIGHTWARDS DOUBLE ARROW FROM BAR;DOWNWARDS ARROW WITH HORIZONTAL STROKE"⟩,
  ⟨0x2909, "", "UPWARDS ARROW WITH HORIZONTAL STROKE;UPWARDS TRIPLE ARROW;DOWNWARDS TRIPLE ARROW"⟩,
  ⟨0x290C, "", "LEFTWARDS DOUBLE DASH ARROW;RIGHTWARDS DOUBLE DASH ARROW;LEFTWARDS TRIPLE DASH ARROW"⟩,
  ⟨0x290F, "RIGHTWARDS ", "TRIPLE DASH ARROW;TWO-HEADED TRIPLE DASH ARROW;ARROW WITH DOTTED STEM"⟩,
  ⟨0x2912, "", "UPWARDS ARROW TO BAR;DOWNWARDS ARROW TO BAR"⟩,
  ⟨0x2914, "RIGHTWARDS ARROW WITH TAIL WITH ", "VERTICAL STROKE;DOUBLE VERTICAL STROKE"⟩,
  ⟨0x2916, "RIGHTWARDS TWO-HEADED ARROW WITH ", "TAIL;TAIL WITH VERTICAL STROKE;TAIL WITH DOUBLE VERTICAL STROKE"⟩,
  ⟨0x2919, "", "LEFTWARDS ARROW-TAIL;RIGHTWARDS ARROW-TAIL;LEFTWARDS DOUBLE ARROW-TAIL"⟩,
  ⟨0x291C, "", "RIGHTWARDS DOUBLE ARROW-TAIL;LEFTWARDS ARROW TO BLACK DIAMOND;RIGHTWARDS ARROW TO BLACK DIAMOND"⟩,
  ⟨0x291F, "", "LEFTWARDS ARROW FROM BAR TO BLACK DIAMOND;RIGHTWARDS ARROW FROM BAR TO BLACK DIAMOND"⟩,
  ⟨0x2921, "NORTH ", "WEST AND SOUTH EAST ARROW;EAST AND SOUTH WEST ARROW;WEST ARROW WITH HOOK;EAST ARROW WITH HOOK"⟩,
  ⟨0x2925, "SOUTH ", "EAST ARROW WITH HOOK;WEST ARROW WITH HOOK"⟩,
  ⟨0x2927, "NORTH ", "WEST ARROW AND NORTH EAST ARROW;EAST ARROW AND SOUTH EAST ARROW"⟩,
  ⟨0x2929, "SOUTH ", "EAST ARROW AND SOUTH WEST ARROW;WEST ARROW AND NORTH WEST ARROW"⟩,
  ⟨0x292B, "", "RISING DIAGONAL CROSSING FALLING DIAGONAL;FALLING DIAGONAL CROSSING RISING DIAGONAL"⟩,
  ⟨0x292D, "", "SOUTH EAST ARROW CROSSING NORTH EAST ARROW;NORTH EAST ARROW CROSSING SOUTH EAST ARROW"⟩,
  ⟨0x292F, "", "FALLING DIAGONAL CROSSING NORTH EAST ARROW;RISING DIAGONAL CROSSING SOUTH EAST ARROW"⟩,
  ⟨0x2931, "NORTH ", "EAST ARROW CROSSING NORTH WEST ARROW;WEST ARROW CROSSING NORTH EAST ARROW"⟩,
  ⟨0x2933, "", "WAVE ARROW POINTING DIRECTLY RIGHT"⟩,
  ⟨0x2934, "ARROW POINTING RIGHTWARDS THEN CURVING ", "UPWARDS;DOWNWARDS"⟩,
  ⟨0x2936, "ARROW POINTING DOWNWARDS THEN CURVING ", "LEFTWARDS;RIGHTWARDS"⟩,
  ⟨0x2938, "", "RIGHT-SIDE ARC CLOCKWISE ARROW;LEFT-SIDE ARC ANTICLOCKWISE ARROW"⟩,
  ⟨0x293A, "", "TOP ARC ANTICLOCKWISE ARROW;BOTTOM ARC ANTICLOCKWISE ARROW;TOP ARC CLOCKWISE ARROW WITH MINUS"⟩,
  ⟨0x293D, "", "TOP ARC ANTICLOCKWISE ARROW WITH PLUS;LOWER RIGHT SEMICIRCULAR CLOCKWISE ARROW"⟩,
  ⟨0x293F, "", "LOWER LEFT SEMICIRCULAR ANTICLOCKWISE ARROW;ANTICLOCKWISE CLOSED CIRCLE ARROW"⟩,
  ⟨0x2941, "", "CLOCKWISE CLOSED CIRCLE ARROW;RIGHTWARDS ARROW ABOVE SHORT LEFTWARDS ARROW"⟩,
  ⟨0x2943, "", "LEFTWARDS ARROW ABOVE SHORT RIGHTWARDS ARROW;SHORT RIGHTWARDS ARROW ABOVE LEFTWARDS ARROW"⟩,
  ⟨0x2945, "", "RIGHTWARDS ARROW WITH PLUS BELOW;LEFTWARDS ARROW WITH PLUS BELOW;RIGHTWARDS ARROW THROUGH X"⟩,
  ⟨0x2948, "", "LEFT RIGHT ARROW THROUGH SMALL CIRCLE;UPWARDS TWO-HEADED ARROW FROM SMALL CIRCLE"⟩,
  ⟨0x294A, "LEFT BARB ", "UP RIGHT BARB DOWN HARPOON;DOWN RIGHT BARB UP HARPOON"⟩,
  ⟨0x294C, "UP BARB ", "RIGHT DOWN BARB LEFT HARPOON;LEFT DOWN BARB RIGHT HARPOON"⟩,
  ⟨0x294E, "", "LEFT BARB UP RIGHT BARB UP HARPOON;UP BARB RIGHT DOWN BARB RIGHT HARPOON"⟩,
  ⟨0x2950, "", "LEFT BARB DOWN RIGHT BARB DOWN HARPOON;UP BARB LEFT DOWN BARB LEFT HARPOON"⟩,
  ⟨0x2952, "", "LEFTWARDS HARPOON WITH BARB UP TO BAR;RIGHTWARDS HARPOON WITH BARB UP TO BAR"⟩,
  ⟨0x2954, "", "UPWARDS HARPOON WITH BARB RIGHT TO BAR;DOWNWARDS HARPOON WITH BARB RIGHT TO BAR"⟩,
  ⟨0x2956, "", "LEFTWARDS HARPOON WITH BARB DOWN TO BAR;RIGHTWARDS HARPOON WITH BARB DOWN TO BAR"⟩,
  ⟨0x2958, "", "UPWARDS HARPOON WITH BARB LEFT TO BAR;DOWNWARDS HARPOON WITH BARB LEFT TO BAR"⟩,
  ⟨0x295A, "", "LEFTWARDS HARPOON WITH BARB UP FROM BAR;RIGHTWARDS HARPOON WITH BARB UP FROM BAR"⟩,
  ⟨0x295C, "", "UPWARDS HARPOON WITH BARB RIGHT FROM BAR;DOWNWARDS HARPOON WITH BARB RIGHT FROM BAR"⟩,
  ⟨0x295E, "", "LEFTWARDS HARPOON WITH BARB DOWN FROM BAR;RIGHTWARDS HARPOON WITH BARB DOWN FROM BAR"⟩,
  ⟨0x2960, "", "UPWARDS HARPOON WITH BARB LEFT FROM BAR;DOWNWARDS HARPOON WITH BARB LEFT FROM BAR"⟩,
  ⟨0x2962, "", "LEFTWARDS HARPOON WITH BARB UP ABOVE LEFTWARDS HARPOON WITH BARB DOWN"⟩,
  ⟨0x2963, "", "UPWARDS HARPOON WITH BARB LEFT BESIDE UPWARDS HARPOON WITH BARB RIGHT"⟩,
  ⟨0x2964, "", "RIGHTWARDS HARPOON WITH BARB UP ABOVE RIGHTWARDS HARPOON WITH BARB DOWN"⟩,
  ⟨0x2965, "", "DOWNWARDS HARPOON WITH BARB LEFT BESIDE DOWNWARDS HARPOON WITH BARB RIGHT"⟩,
  ⟨0x2966, "", "LEFTWARDS HARPOON WITH BARB UP ABOVE RIGHTWARDS HARPOON WITH BARB UP"⟩,
  ⟨0x2967, "", "LEFTWARDS HARPOON WITH BARB DOWN ABOVE RIGHTWARDS HARPOON WITH BARB DOWN"⟩,
  ⟨0x2968, "", "RIGHTWARDS HARPOON WITH BARB UP ABOVE LEFTWARDS HARPOON WITH BARB UP"⟩,
  ⟨0x2969, "", "RIGHTWARDS HARPOON WITH BARB DOWN ABOVE LEFTWARDS HARPOON WITH BARB DOWN"⟩,
  ⟨0x296A, "LEFTWARDS HARPOON WITH BARB ", "UP ABOVE LONG DASH;DOWN BELOW LONG DASH"⟩,
  ⟨0x296C, "RIGHTWARDS HARPOON WITH BARB ", "UP ABOVE LONG DASH;DOWN BELOW LONG DASH"⟩,
  ⟨0x296E, "", "UPWARDS HARPOON WITH BARB LEFT BESIDE DOWNWARDS HARPOON WITH BARB RIGHT"⟩,
  ⟨0x296F, "", "DOWNWARDS HARPOON WITH BARB LEFT BESIDE UPWARDS HARPOON WITH BARB RIGHT"⟩,
  ⟨0x2970, "", "RIGHT DOUBLE ARROW WITH ROUNDED HEAD;EQUALS SIGN ABOVE RIGHTWARDS ARROW"⟩,
  ⟨0x2972, "", "TILDE OPERATOR ABOVE RIGHTWARDS ARROW;LEFTWARDS ARROW ABOVE TILDE OPERATOR"⟩,
  ⟨0x2974, "RIGHTWARDS ARROW ABOVE ", "TILDE OPERATOR;ALMOST EQUAL TO"⟩,
  ⟨0x2976, "", "LESS-THAN ABOVE LEFTWARDS ARROW"⟩,
  ⟨0x2977, "", "LEFTWARDS ARROW THROUGH LESS-THAN;GREATER-THAN ABOVE RIGHTWARDS ARROW;SUBSET ABOVE RIGHTWARDS ARROW"⟩,
  ⟨0x297A, "", "LEFTWARDS ARROW THROUGH SUBSET;SUPERSET ABOVE LEFTWARDS ARROW;LEFT FISH TAIL;RIGHT FISH TAIL"⟩,
  ⟨0x297E, "", "UP FISH TAIL;DOWN FISH TAIL;TRIPLE VERTICAL BAR DELIMITER;Z NOTATION SPOT;Z NOTATION TYPE COLON"⟩,
  ⟨0x2983, "", "LEFT WHITE CURLY BRACKET;RIGHT WHITE CURLY BRACKET;LEFT WHITE PARENTHESIS;RIGHT WHITE PARENTHESIS"⟩,
  ⟨0x2987, "Z NOTATION ", "LEFT IMAGE BRACKET;RIGHT IMAGE BRACKET;LEFT BINDING BRACKET;RIGHT BINDING BRACKET"⟩,
  ⟨0x298B, "", "LEFT SQUARE BRACKET WITH UNDERBAR;RIGHT SQUARE BRACKET WITH UNDERBAR"⟩,
  ⟨0x298D, "", "LEFT SQUARE BRACKET WITH TICK IN TOP CORNER;RIGHT SQUARE BRACKET WITH TICK IN BOTTOM CORNER"⟩,
  ⟨0x298F, "", "LEFT SQUARE BRACKET WITH TICK IN BOTTOM CORNER;RIGHT SQUARE BRACKET WITH TICK IN TOP CORNER"⟩,
  ⟨0x2991, "", "LEFT ANGLE BRACKET WITH DOT;RIGHT ANGLE BRACKET WITH DOT"⟩,
  ⟨0x2993, "", "LEFT ARC LESS-THAN BRACKET;RIGHT ARC GREATER-THAN BRACKET;DOUBLE LEFT ARC GREATER-THAN BRACKET"⟩,
  ⟨0x2996, "", "DOUBLE RIGHT ARC LESS-THAN BRACKET;LEFT BLACK TORTOISE SHELL BRACKET"⟩,
  ⟨0x2998, "", "RIGHT BLACK TORTOISE SHELL BRACKET;DOTTED FENCE;VERTICAL ZIGZAG LINE;MEASURED ANGLE OPENING LEFT"⟩,
  ⟨0x299C, "", "RIGHT ANGLE VARIANT WITH SQUARE;MEASURED RIGHT ANGLE WITH DOT;ANGLE WITH S INSIDE;ACUTE ANGLE"⟩,
  ⟨0x29A0, "SPHERICAL ANGLE OPENING ", "LEFT;UP"⟩,
  ⟨0x29A2, "", "TURNED ANGLE;REVERSED ANGLE;ANGLE WITH UNDERBAR;REVERSED ANGLE WITH UNDERBAR"⟩,
  ⟨0x29A6, "OBLIQUE ANGLE OPENING ", "UP;DOWN"⟩,
  ⟨0x29A8, "MEASURED ANGLE WITH OPEN ARM ENDING IN ARROW POINTING UP AND ", "RIGHT;LEFT"⟩,
  ⟨0x29AA, "MEASURED ANGLE WITH OPEN ARM ENDING IN ARROW POINTING ", "DOWN AND RIGHT;DOWN AND LEFT;RIGHT AND UP"⟩,
  ⟨0x29AD, "MEASURED ANGLE WITH OPEN ARM ENDING IN ARROW POINTING ", "LEFT AND UP;RIGHT AND DOWN;LEFT AND DOWN"⟩,
  ⟨0x29B0, "", "REVERSED EMPTY SET"⟩,
  ⟨0x29B1, "EMPTY SET WITH ", "OVERBAR;SMALL CIRCLE ABOVE;RIGHT ARROW ABOVE;LEFT ARROW ABOVE"⟩,
  ⟨0x29B5, "", "CIRCLE WITH HORIZONTAL BAR"⟩,
  ⟨0x29B6, "CIRCLED ", "VERTICAL BAR;PARALLEL;REVERSE SOLIDUS;PERPENDICULAR"⟩,
  ⟨0x29BA, "CIRCLE ", "DIVIDED BY HORIZONTAL BAR AND TOP HALF DIVIDED BY VERTICAL BAR;WITH SUPERIMPOSED X"⟩,
  ⟨0x29BC, "", "CIRCLED ANTICLOCKWISE-ROTATED DIVISION SIGN;UP ARROW THROUGH CIRCLE"⟩,
  ⟨0x29BE, "CIRCLED ", "WHITE BULLET;BULLET;LESS-THAN;GREATER-THAN"⟩,
  ⟨0x29C2, "CIRCLE WITH ", "SMALL CIRCLE TO THE RIGHT;TWO HORIZONTAL STROKES TO THE RIGHT"⟩,
  ⟨0x29C4, "SQUARED ", "RISING DIAGONAL SLASH;FALLING DIAGONAL SLASH;ASTERISK;SMALL CIRCLE;SQUARE"⟩,
  ⟨0x29C9, "", "TWO JOINED SQUARES;TRIANGLE WITH DOT ABOVE;TRIANGLE WITH UNDERBAR"⟩,
  ⟨0x29CC, "", "S IN TRIANGLE;TRIANGLE WITH SERIFS AT BOTTOM;RIGHT TRIANGLE ABOVE LEFT TRIANGLE"⟩,
  ⟨0x29CF, "", "LEFT TRIANGLE BESIDE VERTICAL BAR;VERTICAL BAR BESIDE RIGHT TRIANGLE;BOWTIE WITH LEFT HALF BLACK"⟩,
  ⟨0x29D2, "", "BOWTIE WITH RIGHT HALF BLACK;BLACK BOWTIE;TIMES WITH LEFT HALF BLACK;TIMES WITH RIGHT HALF BLACK"⟩,
  ⟨0x29D6, "", "WHITE HOURGLASS;BLACK HOURGLASS;LEFT WIGGLY FENCE;RIGHT WIGGLY FENCE;LEFT DOUBLE WIGGLY FENCE"⟩,
  ⟨0x29DB, "", "RIGHT DOUBLE WIGGLY FENCE;INCOMPLETE INFINITY;TIE OVER INFINITY;INFINITY NEGATED WITH VERTICAL BAR"⟩,
  ⟨0x29DF, "", "DOUBLE-ENDED MULTIMAP;SQUARE WITH CONTOURED OUTLINE;INCREASES AS;SHUFFLE PRODUCT"⟩,
  ⟨0x29E3, "EQUALS SIGN AND SLANTED ", "PARALLEL;PARALLEL WITH TILDE ABOVE"⟩,
  ⟨0x29E5, "", "IDENTICAL TO AND SLANTED PARALLEL;GLEICH STARK;THERMODYNAMIC"⟩,
  ⟨0x29E8, "DOWN-POINTING TRIANGLE WITH ", "LEFT HALF BLACK;RIGHT HALF BLACK"⟩,
  ⟨0x29EA, "BLACK ", "DIAMOND WITH DOWN ARROW;LOZENGE"⟩,
  ⟨0x29EC, "", "WHITE CIRCLE WITH DOWN ARROW;BLACK CIRCLE WITH DOWN ARROW"⟩,
  ⟨0x29EE, "ERROR-BARRED ", "WHITE SQUARE;BLACK SQUARE;WHITE DIAMOND;BLACK DIAMOND;WHITE CIRCLE;BLACK CIRCLE"⟩,
  ⟨0x29F4, "", "RULE-DELAYED;REVERSE SOLIDUS OPERATOR;SOLIDUS WITH OVERBAR"⟩,
  ⟨0x29F7, "", "REVERSE SOLIDUS WITH HORIZONTAL STROKE;BIG SOLIDUS;BIG REVERSE SOLIDUS;DOUBLE PLUS"⟩,
  ⟨0x29FB, "", "TRIPLE PLUS;LEFT-POINTING CURVED ANGLE BRACKET;RIGHT-POINTING CURVED ANGLE BRACKET;TINY;MINY"⟩,
  ⟨0x2A00, "N-ARY CIRCLED ", "DOT OPERATOR;PLUS OPERATOR;TIMES OPERATOR"⟩,
  ⟨0x2A03, "N-ARY UNION OPERATOR WITH ", "DOT;PLUS"⟩,
  ⟨0x2A05, "N-ARY SQUARE ", "INTERSECTION OPERATOR;UNION OPERATOR"⟩,
  ⟨0x2A07, "TWO LOGICAL ", "AND OPERATOR;OR OPERATOR"⟩,
  ⟨0x2A09, "", "N-ARY TIMES OPERATOR;MODULO TWO SUM;SUMMATION WITH INTEGRAL;QUADRUPLE INTEGRAL OPERATOR"⟩,
  ⟨0x2A0D, "", "FINITE PART INTEGRAL;INTEGRAL WITH DOUBLE STROKE;INTEGRAL AVERAGE WITH SLASH"⟩,
  ⟨0x2A10, "", "CIRCULATION FUNCTION;ANTICLOCKWISE INTEGRATION;LINE INTEGRATION WITH RECTANGULAR PATH AROUND POLE"⟩,
  ⟨0x2A13, "LINE INTEGRATION ", "WITH SEMICIRCULAR PATH AROUND POLE;NOT INCLUDING THE POLE"⟩,
  ⟨0x2A15, "", "INTEGRAL AROUND A POINT OPERATOR;QUATERNION INTEGRAL OPERATOR"⟩,
  ⟨0x2A17, "INTEGRAL WITH ", "LEFTWARDS ARROW WITH HOOK;TIMES SIGN;INTERSECTION;UNION;OVERBAR;UNDERBAR"⟩,
  ⟨0x2A1D, "", "JOIN;LARGE LEFT TRIANGLE OPERATOR"⟩,
  ⟨0x2A1F, "Z NOTATION SCHEMA ", "COMPOSITION;PIPING;PROJECTION"⟩,
  ⟨0x2A22, "PLUS SIGN WITH ", "SMALL CIRCLE ABOVE;CIRCUMFLEX ACCENT ABOVE"⟩,
  ⟨0x2A24, "PLUS SIGN WITH ", "TILDE ABOVE;DOT BELOW;TILDE BELOW;SUBSCRIPT TWO;BLACK TRIANGLE"⟩,
  ⟨0x2A29, "MINUS SIGN WITH ", "COMMA ABOVE;DOT BELOW;FALLING DOTS;RISING DOTS"⟩,
  ⟨0x2A2D, "", "PLUS SIGN IN LEFT HALF CIRCLE;PLUS SIGN IN RIGHT HALF CIRCLE;VECTOR OR CROSS PRODUCT"⟩,
  ⟨0x2A30, "MULTIPLICATION SIGN WITH ", "DOT ABOVE;UNDERBAR"⟩,
  ⟨0x2A32, "", "SEMIDIRECT PRODUCT WITH BOTTOM CLOSED;SMASH PRODUCT"⟩,
  ⟨0x2A34, "MULTIPLICATION SIGN IN ", "LEFT HALF CIRCLE;RIGHT HALF CIRCLE"⟩,
  ⟨0x2A36, "", "CIRCLED MULTIPLICATION SIGN WITH CIRCUMFLEX ACCENT;MULTIPLICATION SIGN IN DOUBLE CIRCLE"⟩,
  ⟨0x2A38, "", "CIRCLED DIVISION SIGN;PLUS SIGN IN TRIANGLE;MINUS SIGN IN TRIANGLE;MULTIPLICATION SIGN IN TRIANGLE"⟩,
  ⟨0x2A3C, "", "INTERIOR PRODUCT;RIGHTHAND INTERIOR PRODUCT;Z NOTATION RELATIONAL COMPOSITION"⟩,
  ⟨0x2A3F, "", "AMALGAMATION OR COPRODUCT;INTERSECTION WITH DOT;UNION WITH MINUS SIGN;UNION WITH OVERBAR"⟩,
  ⟨0x2A43, "INTERSECTION WITH ", "OVERBAR;LOGICAL AND"⟩,
  ⟨0x2A45, "UNION ", "WITH LOGICAL OR;ABOVE INTERSECTION"⟩,
  ⟨0x2A47, "", "INTERSECTION ABOVE UNION;UNION ABOVE BAR ABOVE INTERSECTION;INTERSECTION ABOVE BAR ABOVE UNION"⟩,
  ⟨0x2A4A, "", "UNION BESIDE AND JOINED WITH UNION;INTERSECTION BESIDE AND JOINED WITH INTERSECTION"⟩,
  ⟨0x2A4C, "CLOSED ", "UNION WITH SERIFS;INTERSECTION WITH SERIFS"⟩,
  ⟨0x2A4E, "DOUBLE SQUARE ", "INTERSECTION;UNION"⟩,
  ⟨0x2A50, "", "CLOSED UNION WITH SERIFS AND SMASH PRODUCT;LOGICAL AND WITH DOT ABOVE;LOGICAL OR WITH DOT ABOVE"⟩,
  ⟨0x2A53, "DOUBLE LOGICAL ", "AND;OR"⟩,
  ⟨0x2A55, "TWO INTERSECTING LOGICAL ", "AND;OR"⟩,
  ⟨0x2A57, "SLOPING LARGE ", "OR;AND"⟩,
  ⟨0x2A59, "LOGICAL ", "OR OVERLAPPING LOGICAL AND;AND WITH MIDDLE STEM;OR WITH MIDDLE STEM;AND WITH HORIZONTAL DASH"⟩,
  ⟨0x2A5D, "LOGICAL ", "OR WITH HORIZONTAL DASH;AND WITH DOUBLE OVERBAR;AND WITH UNDERBAR;AND WITH DOUBLE UNDERBAR"⟩,
  ⟨0x2A61, "", "SMALL VEE WITH UNDERBAR"⟩,
  ⟨0x2A62, "LOGICAL OR WITH DOUBLE ", "OVERBAR;UNDERBAR"⟩,
  ⟨0x2A64, "Z NOTATION ", "DOMAIN ANTIRESTRICTION;RANGE ANTIRESTRICTION"⟩,
  ⟨0x2A66, "", "EQUALS SIGN WITH DOT BELOW;IDENTICAL WITH DOT ABOVE"⟩,
  ⟨0x2A68, "TRIPLE HORIZONTAL BAR WITH ", "DOUBLE VERTICAL STROKE;TRIPLE VERTICAL STROKE"⟩,
  ⟨0x2A6A, "TILDE OPERATOR WITH ", "DOT ABOVE;RISING DOTS"⟩,
  ⟨0x2A6C, "", "SIMILAR MINUS SIMILAR;CONGRUENT WITH DOT ABOVE"⟩,
  ⟨0x2A6E, "", "EQUALS WITH ASTERISK;ALMOST EQUAL TO WITH CIRCUMFLEX ACCENT;APPROXIMATELY EQUAL OR EQUAL TO"⟩,
  ⟨0x2A71, "", "EQUALS SIGN ABOVE PLUS SIGN;PLUS SIGN ABOVE EQUALS SIGN;EQUALS SIGN ABOVE TILDE OPERATOR"⟩,
  ⟨0x2A74, "", "DOUBLE COLON EQUAL;TWO CONSECUTIVE EQUALS SIGNS;THREE CONSECUTIVE EQUALS SIGNS"⟩,
  ⟨0x2A77, "", "EQUALS SIGN WITH TWO DOTS ABOVE AND TWO DOTS BELOW;EQUIVALENT WITH FOUR DOTS ABOVE"⟩,
  ⟨0x2A79, "", "LESS-THAN WITH CIRCLE INSIDE;GREATER-THAN WITH CIRCLE INSIDE;LESS-THAN WITH QUESTION MARK ABOVE"⟩,
  ⟨0x2A7C, "", "GREATER-THAN WITH QUESTION MARK ABOVE;LESS-THAN OR SLANTED EQUAL TO"⟩,
  ⟨0x2A7E, "", "GREATER-THAN OR SLANTED EQUAL TO;LESS-THAN OR SLANTED EQUAL TO WITH DOT INSIDE"⟩,
  ⟨0x2A80, "", "GREATER-THAN OR SLANTED EQUAL TO WITH DOT INSIDE;LESS-THAN OR SLANTED EQUAL TO WITH DOT ABOVE"⟩,
  ⟨0x2A82, "", "GREATER-THAN OR SLANTED EQUAL TO WITH DOT ABOVE;LESS-THAN OR SLANTED EQUAL TO WITH DOT ABOVE RIGHT"⟩,
  ⟨0x2A84, "", "GREATER-THAN OR SLANTED EQUAL TO WITH DOT ABOVE LEFT"⟩,
  ⟨0x2A85, "", "LESS-THAN OR APPROXIMATE;GREATER-THAN OR APPROXIMATE;LESS-THAN AND SINGLE-LINE NOT EQUAL TO"⟩,
  ⟨0x2A88, "", "GREATER-THAN AND SINGLE-LINE NOT EQUAL TO;LESS-THAN AND NOT APPROXIMATE"⟩,
  ⟨0x2A8A, "", "GREATER-THAN AND NOT APPROXIMATE;LESS-THAN ABOVE DOUBLE-LINE EQUAL ABOVE GREATER-THAN"⟩,
  ⟨0x2A8C, "", "GREATER-THAN ABOVE DOUBLE-LINE EQUAL ABOVE LESS-THAN;LESS-THAN ABOVE SIMILAR OR EQUAL"⟩,
  ⟨0x2A8E, "", "GREATER-THAN ABOVE SIMILAR OR EQUAL;LESS-THAN ABOVE SIMILAR ABOVE GREATER-THAN"⟩,
  ⟨0x2A90, "", "GREATER-THAN ABOVE SIMILAR ABOVE LESS-THAN;LESS-THAN ABOVE GREATER-THAN ABOVE DOUBLE-LINE EQUAL"⟩,
  ⟨0x2A92, "", "GREATER-THAN ABOVE LESS-THAN ABOVE DOUBLE-LINE EQUAL"⟩,
  ⟨0x2A93, "", "LESS-THAN ABOVE SLANTED EQUAL ABOVE GREATER-THAN ABOVE SLANTED EQUAL"⟩,
  ⟨0x2A94, "", "GREATER-THAN ABOVE SLANTED EQUAL ABOVE LESS-THAN ABOVE SLANTED EQUAL"⟩,
  ⟨0x2A95, "SLANTED EQUAL TO OR ", "LESS-THAN;GREATER-THAN;LESS-THAN WITH DOT INSIDE;GREATER-THAN WITH DOT INSIDE"⟩,
  ⟨0x2A99, "DOUBLE-LINE EQUAL TO OR ", "LESS-THAN;GREATER-THAN"⟩,
  ⟨0x2A9B, "DOUBLE-LINE SLANTED EQUAL TO OR ", "LESS-THAN;GREATER-THAN"⟩,
  ⟨0x2A9D, "SIMILAR OR ", "LESS-THAN;GREATER-THAN"⟩,
  ⟨0x2A9F, "SIMILAR ABOVE ", "LESS-THAN ABOVE EQUALS SIGN;GREATER-THAN ABOVE EQUALS SIGN"⟩,
  ⟨0x2AA1, "DOUBLE NESTED ", "LESS-THAN;GREATER-THAN;LESS-THAN WITH UNDERBAR"⟩,
  ⟨0x2AA4, "GREATER-THAN ", "OVERLAPPING LESS-THAN;BESIDE LESS-THAN"⟩,
  ⟨0x2AA6, "", "LESS-THAN CLOSED BY CURVE;GREATER-THAN CLOSED BY CURVE;LESS-THAN CLOSED BY CURVE ABOVE SLANTED EQUAL"⟩,
  ⟨0x2AA9, "", "GREATER-THAN CLOSED BY CURVE ABOVE SLANTED EQUAL;SMALLER THAN;LARGER THAN;SMALLER THAN OR EQUAL TO"⟩,
  ⟨0x2AAD, "", "LARGER THAN OR EQUAL TO;EQUALS SIGN WITH BUMPY ABOVE;PRECEDES ABOVE SINGLE-LINE EQUALS SIGN"⟩,
  ⟨0x2AB0, "", "SUCCEEDS ABOVE SINGLE-LINE EQUALS SIGN;PRECEDES ABOVE SINGLE-LINE NOT EQUAL TO"⟩,
  ⟨0x2AB2, "", "SUCCEEDS ABOVE SINGLE-LINE NOT EQUAL TO;PRECEDES ABOVE EQUALS SIGN"⟩,
  ⟨0x2AB4, "", "SUCCEEDS ABOVE EQUALS SIGN;PRECEDES ABOVE NOT EQUAL TO;SUCCEEDS ABOVE NOT EQUAL TO"⟩,
  ⟨0x2AB7, "", "PRECEDES ABOVE ALMOST EQUAL TO;SUCCEEDS ABOVE ALMOST EQUAL TO;PRECEDES ABOVE NOT ALMOST EQUAL TO"⟩,
  ⟨0x2ABA, "", "SUCCEEDS ABOVE NOT ALMOST EQUAL TO;DOUBLE PRECEDES;DOUBLE SUCCEEDS;SUBSET WITH DOT;SUPERSET WITH DOT"⟩,
  ⟨0x2ABF, "", "SUBSET WITH PLUS SIGN BELOW;SUPERSET WITH PLUS SIGN BELOW;SUBSET WITH MULTIPLICATION SIGN BELOW"⟩,
  ⟨0x2AC2, "", "SUPERSET WITH MULTIPLICATION SIGN BELOW;SUBSET OF OR EQUAL TO WITH DOT ABOVE"⟩,
  ⟨0x2AC4, "", "SUPERSET OF OR EQUAL TO WITH DOT ABOVE;SUBSET OF ABOVE EQUALS SIGN;SUPERSET OF ABOVE EQUALS SIGN"⟩,
  ⟨0x2AC7, "", "SUBSET OF ABOVE TILDE OPERATOR;SUPERSET OF ABOVE TILDE OPERATOR;SUBSET OF ABOVE ALMOST EQUAL TO"⟩,
  ⟨0x2ACA, "", "SUPERSET OF ABOVE ALMOST EQUAL TO;SUBSET OF ABOVE NOT EQUAL TO;SUPERSET OF ABOVE NOT EQUAL TO"⟩,
  ⟨0x2ACD, "SQUARE ", "LEFT OPEN BOX OPERATOR;RIGHT OPEN BOX OPERATOR"⟩,
  ⟨0x2ACF, "CLOSED ", "SUBSET;SUPERSET;SUBSET OR EQUAL TO;SUPERSET OR EQUAL TO"⟩,
  ⟨0x2AD3, "", "SUBSET ABOVE SUPERSET;SUPERSET ABOVE SUBSET;SUBSET ABOVE SUBSET"⟩,
  ⟨0x2AD6, "SUPERSET ", "ABOVE SUPERSET;BESIDE SUBSET;BESIDE AND JOINED BY DASH WITH SUBSET"⟩,
  ⟨0x2AD9, "", "ELEMENT OF OPENING DOWNWARDS;PITCHFORK WITH TEE TOP;TRANSVERSAL INTERSECTION;FORKING;NONFORKING"⟩,
  ⟨0x2ADE, "SHORT ", "LEFT TACK;DOWN TACK;UP TACK"⟩,
  ⟨0x2AE1, "", "PERPENDICULAR WITH S;VERTICAL BAR TRIPLE RIGHT TURNSTILE;DOUBLE VERTICAL BAR LEFT TURNSTILE"⟩,
  ⟨0x2AE4, "", "VERTICAL BAR DOUBLE LEFT TURNSTILE;DOUBLE VERTICAL BAR DOUBLE LEFT TURNSTILE"⟩,
  ⟨0x2AE6, "", "LONG DASH FROM LEFT MEMBER OF DOUBLE VERTICAL;SHORT DOWN TACK WITH OVERBAR"⟩,
  ⟨0x2AE8, "SHORT UP TACK ", "WITH UNDERBAR;ABOVE SHORT DOWN TACK"⟩,
  ⟨0x2AEA, "DOUBLE ", "DOWN TACK;UP TACK;STROKE NOT SIGN"⟩,
  ⟨0x2AED, "", "REVERSED DOUBLE STROKE NOT SIGN;DOES NOT DIVIDE WITH REVERSED NEGATION SLASH"⟩,
  ⟨0x2AEF, "VERTICAL LINE WITH CIRCLE ", "ABOVE;BELOW"⟩,
  ⟨0x2AF1, "", "DOWN TACK WITH CIRCLE BELOW;PARALLEL WITH HORIZONTAL STROKE;PARALLEL WITH TILDE OPERATOR"⟩,
  ⟨0x2AF4, "TRIPLE VERTICAL BAR ", "BINARY RELATION;WITH HORIZONTAL STROKE"⟩,
  ⟨0x2AF6, "TRIPLE ", "COLON OPERATOR;NESTED LESS-THAN;NESTED GREATER-THAN"⟩,
  ⟨0x2AF9, "DOUBLE-LINE SLANTED ", "LESS-THAN OR EQUAL TO;GREATER-THAN OR EQUAL TO"⟩,
  ⟨0x2AFB, "", "TRIPLE SOLIDUS BINARY RELATION;LARGE TRIPLE VERTICAL BAR OPERATOR;DOUBLE SOLIDUS OPERATOR"⟩,
  ⟨0x2AFE, "", "WHITE VERTICAL BAR;N-ARY WHITE VERTICAL BAR;NORTH EAST WHITE ARROW;NORTH WEST WHITE ARROW"⟩,
  ⟨0x2B02, "", "SOUTH EAST WHITE ARROW;SOUTH WEST WHITE ARROW;LEFT RIGHT WHITE ARROW;LEFTWARDS BLACK ARROW"⟩,
  ⟨0x2B06, "", "UPWARDS BLACK ARROW;DOWNWARDS BLACK ARROW;NORTH EAST BLACK ARROW;NORTH WEST BLACK ARROW"⟩,
  ⟨0x2B0A, "", "SOUTH EAST BLACK ARROW;SOUTH WEST BLACK ARROW;LEFT RIGHT BLACK ARROW;UP DOWN BLACK ARROW"⟩,
  ⟨0x2B0E, "RIGHTWARDS ARROW WITH TIP ", "DOWNWARDS;UPWARDS"⟩,
  ⟨0x2B10, "LEFTWARDS ARROW WITH TIP ", "DOWNWARDS;UPWARDS"⟩,
  ⟨0x2B12, "", "SQUARE WITH TOP HALF BLACK"⟩,
  ⟨0x2B13, "SQUARE WITH ", "BOTTOM HALF BLACK;UPPER RIGHT DIAGONAL HALF BLACK;LOWER LEFT DIAGONAL HALF BLACK"⟩,
  ⟨0x2B16, "DIAMOND WITH ", "LEFT HALF BLACK;RIGHT HALF BLACK;TOP HALF BLACK;BOTTOM HALF BLACK"⟩,
  ⟨0x2B1A, "", "DOTTED SQUARE;BLACK LARGE SQUARE;WHITE LARGE SQUARE;BLACK VERY SMALL SQUARE;WHITE VERY SMALL SQUARE"⟩,
  ⟨0x2B1F, "", "BLACK PENTAGON;WHITE PENTAGON;WHITE HEXAGON;BLACK HEXAGON;HORIZONTAL BLACK HEXAGON"⟩,
  ⟨0x2B24, "BLACK ", "LARGE CIRCLE;MEDIUM DIAMOND"⟩,
  ⟨0x2B26, "", "WHITE MEDIUM DIAMOND;BLACK MEDIUM LOZENGE;WHITE MEDIUM LOZENGE"⟩,
  ⟨0x2B29, "", "BLACK SMALL DIAMOND;BLACK SMALL LOZENGE;WHITE SMALL LOZENGE;BLACK HORIZONTAL ELLIPSE"⟩,
  ⟨0x2B2D, "", "WHITE HORIZONTAL ELLIPSE;BLACK VERTICAL ELLIPSE;WHITE VERTICAL ELLIPSE;LEFT ARROW WITH SMALL CIRCLE"⟩,
  ⟨0x2B31, "", "THREE LEFTWARDS ARROWS;LEFT ARROW WITH CIRCLED PLUS;LONG LEFTWARDS SQUIGGLE ARROW"⟩,
  ⟨0x2B34, "LEFTWARDS TWO-HEADED ARROW ", "WITH VERTICAL STROKE;WITH DOUBLE VERTICAL STROKE;FROM BAR"⟩,
  ⟨0x2B37, "", "LEFTWARDS TWO-HEADED TRIPLE DASH ARROW"⟩,
  ⟨0x2B38, "LEFTWARDS ARROW WITH ", "DOTTED STEM;TAIL WITH VERTICAL STROKE;TAIL WITH DOUBLE VERTICAL STROKE"⟩,
  ⟨0x2B3B, "LEFTWARDS TWO-HEADED ARROW WITH ", "TAIL;TAIL WITH VERTICAL STROKE;TAIL WITH DOUBLE VERTICAL STROKE"⟩,
  ⟨0x2B3E, "", "LEFTWARDS ARROW THROUGH X;WAVE ARROW POINTING DIRECTLY LEFT;EQUALS SIGN ABOVE LEFTWARDS ARROW"⟩,
  ⟨0x2B41, "", "REVERSE TILDE OPERATOR ABOVE LEFTWARDS ARROW;LEFTWARDS ARROW ABOVE REVERSE ALMOST EQUAL TO"⟩,
  ⟨0x2B43, "RIGHTWARDS ARROW THROUGH ", "GREATER-THAN;SUPERSET"⟩,
  ⟨0x2B45, "", "LEFTWARDS QUADRUPLE ARROW;RIGHTWARDS QUADRUPLE ARROW;REVERSE TILDE OPERATOR ABOVE RIGHTWARDS ARROW"⟩,
  ⟨0x2B48, "", "RIGHTWARDS ARROW ABOVE REVERSE ALMOST EQUAL TO;TILDE OPERATOR ABOVE LEFTWARDS ARROW"⟩,
  ⟨0x2B4A, "LEFTWARDS ARROW ABOVE ", "ALMOST EQUAL TO;REVERSE TILDE OPERATOR"⟩,
  ⟨0x2B4C, "", "RIGHTWARDS ARROW ABOVE REVERSE TILDE OPERATOR;DOWNWARDS TRIANGLE-HEADED ZIGZAG ARROW"⟩,
  ⟨0x2B4E, "", "SHORT SLANTED NORTH ARROW;SHORT BACKSLANTED SOUTH ARROW;WHITE MEDIUM STAR"⟩,
  ⟨0x2B51, "", "BLACK SMALL STAR;WHITE SMALL STAR;BLACK RIGHT-POINTING PENTAGON;WHITE RIGHT-POINTING PENTAGON"⟩,
  ⟨0x2B55, "HEAVY ", "LARGE CIRCLE;OVAL WITH OVAL INSIDE;CIRCLE WITH CIRCLE INSIDE;CIRCLE;CIRCLED SALTIRE"⟩,
  ⟨0x2B5A, "", "SLANTED NORTH ARROW WITH HOOKED HEAD;BACKSLANTED SOUTH ARROW WITH HOOKED TAIL"⟩,
  ⟨0x2B5C, "", "SLANTED NORTH ARROW WITH HORIZONTAL TAIL;BACKSLANTED SOUTH ARROW WITH HORIZONTAL TAIL"⟩,
  ⟨0x2B5E, "", "BENT ARROW POINTING DOWNWARDS THEN NORTH EAST;SHORT BENT ARROW POINTING DOWNWARDS THEN NORTH EAST"⟩,
  ⟨0x2B60, "", "LEFTWARDS TRIANGLE-HEADED ARROW;UPWARDS TRIANGLE-HEADED ARROW;RIGHTWARDS TRIANGLE-HEADED ARROW"⟩,
  ⟨0x2B63, "", "DOWNWARDS TRIANGLE-HEADED ARROW;LEFT RIGHT TRIANGLE-HEADED ARROW;UP DOWN TRIANGLE-HEADED ARROW"⟩,
  ⟨0x2B66, "NORTH ", "WEST TRIANGLE-HEADED ARROW;EAST TRIANGLE-HEADED ARROW"⟩,
  ⟨0x2B68, "SOUTH ", "EAST TRIANGLE-HEADED ARROW;WEST TRIANGLE-HEADED ARROW"⟩,
  ⟨0x2B6A, "", "LEFTWARDS TRIANGLE-HEADED DASHED ARROW;UPWARDS TRIANGLE-HEADED DASHED ARROW"⟩,
  ⟨0x2B6C, "", "RIGHTWARDS TRIANGLE-HEADED DASHED ARROW;DOWNWARDS TRIANGLE-HEADED DASHED ARROW"⟩,
  ⟨0x2B6E, "", "CLOCKWISE TRIANGLE-HEADED OPEN CIRCLE ARROW;ANTICLOCKWISE TRIANGLE-HEADED OPEN CIRCLE ARROW"⟩,
  ⟨0x2B70, "", "LEFTWARDS TRIANGLE-HEADED ARROW TO BAR;UPWARDS TRIANGLE-HEADED ARROW TO BAR"⟩,
  ⟨0x2B72, "", "RIGHTWARDS TRIANGLE-HEADED ARROW TO BAR;DOWNWARDS TRIANGLE-HEADED ARROW TO BAR"⟩,
  ⟨0x2B76, "NORTH ", "WEST TRIANGLE-HEADED ARROW TO BAR;EAST TRIANGLE-HEADED ARROW TO BAR"⟩,
  ⟨0x2B78, "SOUTH ", "EAST TRIANGLE-HEADED ARROW TO BAR;WEST TRIANGLE-HEADED ARROW TO BAR"⟩,
  ⟨0x2B7A, "", "LEFTWARDS TRIANGLE-HEADED ARROW WITH DOUBLE HORIZONTAL STROKE"⟩,
  ⟨0x2B7B, "", "UPWARDS TRIANGLE-HEADED ARROW WITH DOUBLE HORIZONTAL STROKE"⟩,
  ⟨0x2B7C, "", "RIGHTWARDS TRIANGLE-HEADED ARROW WITH DOUBLE HORIZONTAL STROKE"⟩,
  ⟨0x2B7D, "", "DOWNWARDS TRIANGLE-HEADED ARROW WITH DOUBLE HORIZONTAL STROKE;HORIZONTAL TAB KEY"⟩,
  ⟨0x2B7F, "", "VERTICAL TAB KEY;LEFTWARDS TRIANGLE-HEADED ARROW OVER RIGHTWARDS TRIANGLE-HEADED ARROW"⟩,
  ⟨0x2B81, "", "UPWARDS TRIANGLE-HEADED ARROW LEFTWARDS OF DOWNWARDS TRIANGLE-HEADED ARROW"⟩,
  ⟨0x2B82, "", "RIGHTWARDS TRIANGLE-HEADED ARROW OVER LEFTWARDS TRIANGLE-HEADED ARROW"⟩,
  ⟨0x2B83, "", "DOWNWARDS TRIANGLE-HEADED ARROW LEFTWARDS OF UPWARDS TRIANGLE-HEADED ARROW"⟩,
  ⟨0x2B84, "", "LEFTWARDS TRIANGLE-HEADED PAIRED ARROWS;UPWARDS TRIANGLE-HEADED PAIRED ARROWS"⟩,
  ⟨0x2B86, "", "RIGHTWARDS TRIANGLE-HEADED PAIRED ARROWS;DOWNWARDS TRIANGLE-HEADED PAIRED ARROWS"⟩,
  ⟨0x2B88, "", "LEFTWARDS BLACK CIRCLED WHITE ARROW;UPWARDS BLACK CIRCLED WHITE ARROW"⟩,
  ⟨0x2B8A, "", "RIGHTWARDS BLACK CIRCLED WHITE ARROW;DOWNWARDS BLACK CIRCLED WHITE ARROW"⟩,
  ⟨0x2B8C, "ANTICLOCKWISE TRIANGLE-HEADED ", "RIGHT U-SHAPED ARROW;BOTTOM U-SHAPED ARROW;LEFT U-SHAPED ARROW"⟩,
  ⟨0x2B8F, "", "ANTICLOCKWISE TRIANGLE-HEADED TOP U-SHAPED ARROW;RETURN LEFT;RETURN RIGHT"⟩,
  ⟨0x2B92, "", "NEWLINE LEFT;NEWLINE RIGHT;FOUR CORNER ARROWS CIRCLING ANTICLOCKWISE;RIGHTWARDS BLACK ARROW"⟩,
  ⟨0x2B97, "", "SYMBOL FOR TYPE A ELECTRONICS;THREE-D TOP-LIGHTED LEFTWARDS EQUILATERAL ARROWHEAD"⟩,
  ⟨0x2B99, "THREE-D ", "RIGHT-LIGHTED UPWARDS EQUILATERAL ARROWHEAD;TOP-LIGHTED RIGHTWARDS EQUILATERAL ARROWHEAD"⟩,
  ⟨0x2B9B, "", "THREE-D LEFT-LIGHTED DOWNWARDS EQUILATERAL ARROWHEAD;BLACK LEFTWARDS EQUILATERAL ARROWHEAD"⟩,
  ⟨0x2B9D, "BLACK ", "UPWARDS EQUILATERAL ARROWHEAD;RIGHTWARDS EQUILATERAL ARROWHEAD;DOWNWARDS EQUILATERAL ARROWHEAD"⟩,
  ⟨0x2BA0, "DOWNWARDS TRIANGLE-HEADED ARROW WITH LONG TIP ", "LEFTWARDS;RIGHTWARDS"⟩,
  ⟨0x2BA2, "UPWARDS TRIANGLE-HEADED ARROW WITH LONG TIP ", "LEFTWARDS;RIGHTWARDS"⟩,
  ⟨0x2BA4, "", "LEFTWARDS TRIANGLE-HEADED ARROW WITH LONG TIP UPWARDS"⟩,
  ⟨0x2BA5, "", "RIGHTWARDS TRIANGLE-HEADED ARROW WITH LONG TIP UPWARDS"⟩,
  ⟨0x2BA6, "", "LEFTWARDS TRIANGLE-HEADED ARROW WITH LONG TIP DOWNWARDS"⟩,
  ⟨0x2BA7, "", "RIGHTWARDS TRIANGLE-HEADED ARROW WITH LONG TIP DOWNWARDS"⟩,
  ⟨0x2BA8, "BLACK CURVED DOWNWARDS AND ", "LEFTWARDS ARROW;RIGHTWARDS ARROW"⟩,
  ⟨0x2BAA, "BLACK CURVED UPWARDS AND ", "LEFTWARDS ARROW;RIGHTWARDS ARROW"⟩,
  ⟨0x2BAC, "BLACK CURVED ", "LEFTWARDS AND UPWARDS ARROW;RIGHTWARDS AND UPWARDS ARROW"⟩,
  ⟨0x2BAE, "BLACK CURVED ", "LEFTWARDS AND DOWNWARDS ARROW;RIGHTWARDS AND DOWNWARDS ARROW"⟩,
  ⟨0x2BB0, "RIBBON ARROW ", "DOWN LEFT;DOWN RIGHT;UP LEFT;UP RIGHT;LEFT UP;RIGHT UP;LEFT DOWN;RIGHT DOWN"⟩,
  ⟨0x2BB8, "", "UPWARDS WHITE ARROW FROM BAR WITH HORIZONTAL BAR;UP ARROWHEAD IN A RECTANGLE BOX"⟩,
  ⟨0x2BBA, "OVERLAPPING ", "WHITE SQUARES;WHITE AND BLACK SQUARES;BLACK SQUARES"⟩,
  ⟨0x2BBD, "", "BALLOT BOX WITH LIGHT X;CIRCLED X;CIRCLED BOLD X;BLACK SQUARE CENTRED"⟩,
  ⟨0x2BC1, "", "BLACK DIAMOND CENTRED;TURNED BLACK PENTAGON;HORIZONTAL BLACK OCTAGON;BLACK OCTAGON"⟩,
  ⟨0x2BC5, "BLACK MEDIUM ", "UP-POINTING TRIANGLE CENTRED;DOWN-POINTING TRIANGLE CENTRED"⟩,
  ⟨0x2BC7, "BLACK MEDIUM ", "LEFT-POINTING TRIANGLE CENTRED;RIGHT-POINTING TRIANGLE CENTRED"⟩,
  ⟨0x2BC9, "", "NEPTUNE FORM TWO;TOP HALF BLACK CIRCLE;BOTTOM HALF BLACK CIRCLE"⟩,
  ⟨0x2BCC, "", "LIGHT FOUR POINTED BLACK CUSP;ROTATED LIGHT FOUR POINTED BLACK CUSP;WHITE FOUR POINTED CUSP"⟩,
  ⟨0x2BCF, "", "ROTATED WHITE FOUR POINTED CUSP;SQUARE POSITION INDICATOR;UNCERTAINTY SIGN;GROUP MARK"⟩,
  ⟨0x2BD3, "PLUTO FORM ", "TWO;THREE;FOUR;FIVE"⟩,
  ⟨0x2BD7, "", "TRANSPLUTO;PROSERPINA;ASTRAEA;HYGIEA;PHOLUS;NESSUS"⟩,
  ⟨0x2BDD, "", "WHITE MOON SELENA;BLACK DIAMOND ON CROSS;TRUE LIGHT MOON ARTA;CUPIDO;HADES;ZEUS;KRONOS;APOLLON"⟩,
  ⟨0x2BE5, "", "ADMETOS;VULCANUS;POSEIDON;LEFT HALF BLACK STAR;RIGHT HALF BLACK STAR;STAR WITH LEFT HALF BLACK"⟩,
  ⟨0x2BEB, "", "STAR WITH RIGHT HALF BLACK;LEFTWARDS TWO-HEADED ARROW WITH TRIANGLE ARROWHEADS"⟩,
  ⟨0x2BED, "", "UPWARDS TWO-HEADED ARROW WITH TRIANGLE ARROWHEADS"⟩,
  ⟨0x2BEE, "", "RIGHTWARDS TWO-HEADED ARROW WITH TRIANGLE ARROWHEADS"⟩,
  ⟨0x2BEF, "", "DOWNWARDS TWO-HEADED ARROW WITH TRIANGLE ARROWHEADS;ERIS FORM ONE;ERIS FORM TWO;SEDNA"⟩,
  ⟨0x2BF3, "RUSSIAN ASTROLOGICAL SYMBOL ", "VIGINTILE;NOVILE;QUINTILE;BINOVILE;SENTAGON;TREDECILE"⟩,
  ⟨0x2BF9, "", "EQUALS SIGN WITH INFINITY BELOW;UNITED SYMBOL"⟩,
  ⟨0x2BFB, "", "SEPARATED SYMBOL;DOUBLED SYMBOL;PASSED SYMBOL;REVERSED RIGHT ANGLE;HELLSCHREIBER PAUSE SYMBOL"⟩]

end HtmlTemplate.CharName
