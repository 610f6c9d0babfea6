import HtmlTemplate.Writing.CharName.Basic

/-!
# Names of characters from U+0020 to U+0CFF

The scripts of Europe and of the Near East, and the first of those of India.
-/

namespace HtmlTemplate.CharName

/-- The names of these characters. -/
def westernNames : List NameRun := [
  ⟨0x20, "", "SPACE;EXCLAMATION MARK;QUOTATION MARK;NUMBER SIGN;DOLLAR SIGN;PERCENT SIGN;AMPERSAND"⟩,
  ⟨0x27, "", "APOSTROPHE;LEFT PARENTHESIS;RIGHT PARENTHESIS;ASTERISK;PLUS SIGN;COMMA;HYPHEN-MINUS;FULL STOP;SOLIDUS"⟩,
  ⟨0x30, "DIGIT ", "ZERO;ONE;TWO;THREE;FOUR;FIVE;SIX;SEVEN;EIGHT;NINE"⟩,
  ⟨0x3A, "", "COLON;SEMICOLON;LESS-THAN SIGN;EQUALS SIGN;GREATER-THAN SIGN;QUESTION MARK;COMMERCIAL AT"⟩,
  ⟨0x41, "LATIN CAPITAL LETTER ", "A;B;C;D;E;F;G;H;I;J;K;L;M;N;O;P;Q;R;S;T;U;V;W;X;Y;Z"⟩,
  ⟨0x5B, "", "LEFT SQUARE BRACKET;REVERSE SOLIDUS;RIGHT SQUARE BRACKET;CIRCUMFLEX ACCENT;LOW LINE;GRAVE ACCENT"⟩,
  ⟨0x61, "LATIN SMALL LETTER ", "A;B;C;D;E;F;G;H;I;J;K;L;M;N;O;P;Q;R;S;T;U;V;W;X;Y;Z"⟩,
  ⟨0x7B, "", "LEFT CURLY BRACKET;VERTICAL LINE;RIGHT CURLY BRACKET;TILDE"⟩,
  ⟨0xA0, "", "NO-BREAK SPACE;INVERTED EXCLAMATION MARK;CENT SIGN;POUND SIGN"⟩,
  ⟨0xA4, "", "CURRENCY SIGN;YEN SIGN;BROKEN BAR;SECTION SIGN;DIAERESIS;COPYRIGHT SIGN;FEMININE ORDINAL INDICATOR"⟩,
  ⟨0xAB, "", "LEFT-POINTING DOUBLE ANGLE QUOTATION MARK;NOT SIGN;SOFT HYPHEN;REGISTERED SIGN;MACRON;DEGREE SIGN"⟩,
  ⟨0xB1, "", "PLUS-MINUS SIGN;SUPERSCRIPT TWO;SUPERSCRIPT THREE;ACUTE ACCENT;MICRO SIGN;PILCROW SIGN;MIDDLE DOT"⟩,
  ⟨0xB8, "", "CEDILLA;SUPERSCRIPT ONE;MASCULINE ORDINAL INDICATOR;RIGHT-POINTING DOUBLE ANGLE QUOTATION MARK"⟩,
  ⟨0xBC, "VULGAR FRACTION ", "ONE QUARTER;ONE HALF;THREE QUARTERS"⟩,
  ⟨0xBF, "", "INVERTED QUESTION MARK"⟩,
  ⟨0xC0, "LATIN CAPITAL LETTER A WITH ", "GRAVE;ACUTE;CIRCUMFLEX;TILDE;DIAERESIS;RING ABOVE"⟩,
  ⟨0xC6, "LATIN CAPITAL LETTER ", "AE;C WITH CEDILLA;E WITH GRAVE;E WITH ACUTE;E WITH CIRCUMFLEX;E WITH DIAERESIS"⟩,
  ⟨0xCC, "LATIN CAPITAL LETTER ", "I WITH GRAVE;I WITH ACUTE;I WITH CIRCUMFLEX;I WITH DIAERESIS;ETH;N WITH TILDE"⟩,
  ⟨0xD2, "LATIN CAPITAL LETTER O WITH ", "GRAVE;ACUTE;CIRCUMFLEX;TILDE;DIAERESIS"⟩,
  ⟨0xD7, "", "MULTIPLICATION SIGN;LATIN CAPITAL LETTER O WITH STROKE"⟩,
  ⟨0xD9, "LATIN CAPITAL LETTER ", "U WITH GRAVE;U WITH ACUTE;U WITH CIRCUMFLEX;U WITH DIAERESIS;Y WITH ACUTE;THORN"⟩,
  ⟨0xDF, "", "LATIN SMALL LETTER SHARP S"⟩,
  ⟨0xE0, "LATIN SMALL LETTER A WITH ", "GRAVE;ACUTE;CIRCUMFLEX;TILDE;DIAERESIS;RING ABOVE"⟩,
  ⟨0xE6, "LATIN SMALL LETTER ", "AE;C WITH CEDILLA;E WITH GRAVE;E WITH ACUTE;E WITH CIRCUMFLEX;E WITH DIAERESIS"⟩,
  ⟨0xEC, "LATIN SMALL LETTER ", "I WITH GRAVE;I WITH ACUTE;I WITH CIRCUMFLEX;I WITH DIAERESIS;ETH;N WITH TILDE"⟩,
  ⟨0xF2, "LATIN SMALL LETTER O WITH ", "GRAVE;ACUTE;CIRCUMFLEX;TILDE;DIAERESIS"⟩,
  ⟨0xF7, "", "DIVISION SIGN;LATIN SMALL LETTER O WITH STROKE"⟩,
  ⟨0xF9, "LATIN SMALL LETTER U WITH ", "GRAVE;ACUTE;CIRCUMFLEX;DIAERESIS"⟩,
  ⟨0xFD, "LATIN SMALL LETTER ", "Y WITH ACUTE;THORN;Y WITH DIAERESIS"⟩,
  ⟨0x100, "LATIN ", "CAPITAL LETTER A WITH MACRON;SMALL LETTER A WITH MACRON;CAPITAL LETTER A WITH BREVE"⟩,
  ⟨0x103, "LATIN ", "SMALL LETTER A WITH BREVE;CAPITAL LETTER A WITH OGONEK;SMALL LETTER A WITH OGONEK"⟩,
  ⟨0x106, "LATIN ", "CAPITAL LETTER C WITH ACUTE;SMALL LETTER C WITH ACUTE;CAPITAL LETTER C WITH CIRCUMFLEX"⟩,
  ⟨0x109, "LATIN ", "SMALL LETTER C WITH CIRCUMFLEX;CAPITAL LETTER C WITH DOT ABOVE;SMALL LETTER C WITH DOT ABOVE"⟩,
  ⟨0x10C, "LATIN ", "CAPITAL LETTER C WITH CARON;SMALL LETTER C WITH CARON;CAPITAL LETTER D WITH CARON"⟩,
  ⟨0x10F, "LATIN ", "SMALL LETTER D WITH CARON;CAPITAL LETTER D WITH STROKE;SMALL LETTER D WITH STROKE"⟩,
  ⟨0x112, "LATIN ", "CAPITAL LETTER E WITH MACRON;SMALL LETTER E WITH MACRON;CAPITAL LETTER E WITH BREVE"⟩,
  ⟨0x115, "LATIN ", "SMALL LETTER E WITH BREVE;CAPITAL LETTER E WITH DOT ABOVE;SMALL LETTER E WITH DOT ABOVE"⟩,
  ⟨0x118, "LATIN ", "CAPITAL LETTER E WITH OGONEK;SMALL LETTER E WITH OGONEK;CAPITAL LETTER E WITH CARON"⟩,
  ⟨0x11B, "LATIN ", "SMALL LETTER E WITH CARON;CAPITAL LETTER G WITH CIRCUMFLEX;SMALL LETTER G WITH CIRCUMFLEX"⟩,
  ⟨0x11E, "LATIN ", "CAPITAL LETTER G WITH BREVE;SMALL LETTER G WITH BREVE;CAPITAL LETTER G WITH DOT ABOVE"⟩,
  ⟨0x121, "LATIN ", "SMALL LETTER G WITH DOT ABOVE;CAPITAL LETTER G WITH CEDILLA;SMALL LETTER G WITH CEDILLA"⟩,
  ⟨0x124, "LATIN ", "CAPITAL LETTER H WITH CIRCUMFLEX;SMALL LETTER H WITH CIRCUMFLEX;CAPITAL LETTER H WITH STROKE"⟩,
  ⟨0x127, "LATIN ", "SMALL LETTER H WITH STROKE;CAPITAL LETTER I WITH TILDE;SMALL LETTER I WITH TILDE"⟩,
  ⟨0x12A, "LATIN ", "CAPITAL LETTER I WITH MACRON;SMALL LETTER I WITH MACRON;CAPITAL LETTER I WITH BREVE"⟩,
  ⟨0x12D, "LATIN ", "SMALL LETTER I WITH BREVE;CAPITAL LETTER I WITH OGONEK;SMALL LETTER I WITH OGONEK"⟩,
  ⟨0x130, "LATIN ", "CAPITAL LETTER I WITH DOT ABOVE;SMALL LETTER DOTLESS I;CAPITAL LIGATURE IJ;SMALL LIGATURE IJ"⟩,
  ⟨0x134, "LATIN ", "CAPITAL LETTER J WITH CIRCUMFLEX;SMALL LETTER J WITH CIRCUMFLEX;CAPITAL LETTER K WITH CEDILLA"⟩,
  ⟨0x137, "LATIN SMALL LETTER ", "K WITH CEDILLA;KRA"⟩,
  ⟨0x139, "LATIN ", "CAPITAL LETTER L WITH ACUTE;SMALL LETTER L WITH ACUTE;CAPITAL LETTER L WITH CEDILLA"⟩,
  ⟨0x13C, "LATIN ", "SMALL LETTER L WITH CEDILLA;CAPITAL LETTER L WITH CARON;SMALL LETTER L WITH CARON"⟩,
  ⟨0x13F, "LATIN ", "CAPITAL LETTER L WITH MIDDLE DOT;SMALL LETTER L WITH MIDDLE DOT;CAPITAL LETTER L WITH STROKE"⟩,
  ⟨0x142, "LATIN ", "SMALL LETTER L WITH STROKE;CAPITAL LETTER N WITH ACUTE;SMALL LETTER N WITH ACUTE"⟩,
  ⟨0x145, "LATIN ", "CAPITAL LETTER N WITH CEDILLA;SMALL LETTER N WITH CEDILLA;CAPITAL LETTER N WITH CARON"⟩,
  ⟨0x148, "LATIN SMALL LETTER N ", "WITH CARON;PRECEDED BY APOSTROPHE"⟩,
  ⟨0x14A, "LATIN ", "CAPITAL LETTER ENG;SMALL LETTER ENG"⟩,
  ⟨0x14C, "LATIN ", "CAPITAL LETTER O WITH MACRON;SMALL LETTER O WITH MACRON;CAPITAL LETTER O WITH BREVE"⟩,
  ⟨0x14F, "LATIN ", "SMALL LETTER O WITH BREVE;CAPITAL LETTER O WITH DOUBLE ACUTE;SMALL LETTER O WITH DOUBLE ACUTE"⟩,
  ⟨0x152, "LATIN ", "CAPITAL LIGATURE OE;SMALL LIGATURE OE;CAPITAL LETTER R WITH ACUTE"⟩,
  ⟨0x155, "LATIN ", "SMALL LETTER R WITH ACUTE;CAPITAL LETTER R WITH CEDILLA;SMALL LETTER R WITH CEDILLA"⟩,
  ⟨0x158, "LATIN ", "CAPITAL LETTER R WITH CARON;SMALL LETTER R WITH CARON;CAPITAL LETTER S WITH ACUTE"⟩,
  ⟨0x15B, "LATIN ", "SMALL LETTER S WITH ACUTE;CAPITAL LETTER S WITH CIRCUMFLEX;SMALL LETTER S WITH CIRCUMFLEX"⟩,
  ⟨0x15E, "LATIN ", "CAPITAL LETTER S WITH CEDILLA;SMALL LETTER S WITH CEDILLA;CAPITAL LETTER S WITH CARON"⟩,
  ⟨0x161, "LATIN ", "SMALL LETTER S WITH CARON;CAPITAL LETTER T WITH CEDILLA;SMALL LETTER T WITH CEDILLA"⟩,
  ⟨0x164, "LATIN ", "CAPITAL LETTER T WITH CARON;SMALL LETTER T WITH CARON;CAPITAL LETTER T WITH STROKE"⟩,
  ⟨0x167, "LATIN ", "SMALL LETTER T WITH STROKE;CAPITAL LETTER U WITH TILDE;SMALL LETTER U WITH TILDE"⟩,
  ⟨0x16A, "LATIN ", "CAPITAL LETTER U WITH MACRON;SMALL LETTER U WITH MACRON;CAPITAL LETTER U WITH BREVE"⟩,
  ⟨0x16D, "LATIN ", "SMALL LETTER U WITH BREVE;CAPITAL LETTER U WITH RING ABOVE;SMALL LETTER U WITH RING ABOVE"⟩,
  ⟨0x170, "LATIN ", "CAPITAL LETTER U WITH DOUBLE ACUTE;SMALL LETTER U WITH DOUBLE ACUTE"⟩,
  ⟨0x172, "LATIN ", "CAPITAL LETTER U WITH OGONEK;SMALL LETTER U WITH OGONEK;CAPITAL LETTER W WITH CIRCUMFLEX"⟩,
  ⟨0x175, "LATIN ", "SMALL LETTER W WITH CIRCUMFLEX;CAPITAL LETTER Y WITH CIRCUMFLEX;SMALL LETTER Y WITH CIRCUMFLEX"⟩,
  ⟨0x178, "LATIN ", "CAPITAL LETTER Y WITH DIAERESIS;CAPITAL LETTER Z WITH ACUTE;SMALL LETTER Z WITH ACUTE"⟩,
  ⟨0x17B, "LATIN ", "CAPITAL LETTER Z WITH DOT ABOVE;SMALL LETTER Z WITH DOT ABOVE;CAPITAL LETTER Z WITH CARON"⟩,
  ⟨0x17E, "LATIN SMALL LETTER ", "Z WITH CARON;LONG S;B WITH STROKE"⟩,
  ⟨0x181, "LATIN CAPITAL LETTER B WITH ", "HOOK;TOPBAR"⟩,
  ⟨0x183, "LATIN ", "SMALL LETTER B WITH TOPBAR;CAPITAL LETTER TONE SIX"⟩,
  ⟨0x185, "LATIN ", "SMALL LETTER TONE SIX;CAPITAL LETTER OPEN O;CAPITAL LETTER C WITH HOOK;SMALL LETTER C WITH HOOK"⟩,
  ⟨0x189, "LATIN CAPITAL LETTER ", "AFRICAN D;D WITH HOOK;D WITH TOPBAR"⟩,
  ⟨0x18C, "LATIN SMALL LETTER ", "D WITH TOPBAR;TURNED DELTA"⟩,
  ⟨0x18E, "LATIN CAPITAL LETTER ", "REVERSED E;SCHWA;OPEN E;F WITH HOOK"⟩,
  ⟨0x192, "LATIN ", "SMALL LETTER F WITH HOOK;CAPITAL LETTER G WITH HOOK;CAPITAL LETTER GAMMA;SMALL LETTER HV"⟩,
  ⟨0x196, "LATIN CAPITAL LETTER ", "IOTA;I WITH STROKE;K WITH HOOK"⟩,
  ⟨0x199, "LATIN SMALL LETTER ", "K WITH HOOK;L WITH BAR;LAMBDA WITH STROKE"⟩,
  ⟨0x19C, "LATIN ", "CAPITAL LETTER TURNED M;CAPITAL LETTER N WITH LEFT HOOK;SMALL LETTER N WITH LONG RIGHT LEG"⟩,
  ⟨0x19F, "LATIN ", "CAPITAL LETTER O WITH MIDDLE TILDE;CAPITAL LETTER O WITH HORN;SMALL LETTER O WITH HORN"⟩,
  ⟨0x1A2, "LATIN ", "CAPITAL LETTER OI;SMALL LETTER OI;CAPITAL LETTER P WITH HOOK;SMALL LETTER P WITH HOOK;LETTER YR"⟩,
  ⟨0x1A7, "LATIN ", "CAPITAL LETTER TONE TWO;SMALL LETTER TONE TWO;CAPITAL LETTER ESH;LETTER REVERSED ESH LOOP"⟩,
  ⟨0x1AB, "LATIN ", "SMALL LETTER T WITH PALATAL HOOK;CAPITAL LETTER T WITH HOOK;SMALL LETTER T WITH HOOK"⟩,
  ⟨0x1AE, "LATIN ", "CAPITAL LETTER T WITH RETROFLEX HOOK;CAPITAL LETTER U WITH HORN;SMALL LETTER U WITH HORN"⟩,
  ⟨0x1B1, "LATIN CAPITAL LETTER ", "UPSILON;V WITH HOOK;Y WITH HOOK"⟩,
  ⟨0x1B4, "LATIN ", "SMALL LETTER Y WITH HOOK;CAPITAL LETTER Z WITH STROKE;SMALL LETTER Z WITH STROKE"⟩,
  ⟨0x1B7, "LATIN CAPITAL LETTER ", "EZH;EZH REVERSED"⟩,
  ⟨0x1B9, "LATIN SMALL LETTER EZH ", "REVERSED;WITH TAIL"⟩,
  ⟨0x1BB, "LATIN ", "LETTER TWO WITH STROKE;CAPITAL LETTER TONE FIVE;SMALL LETTER TONE FIVE"⟩,
  ⟨0x1BE, "LATIN LETTER ", "INVERTED GLOTTAL STOP WITH STROKE;WYNN;DENTAL CLICK;LATERAL CLICK;ALVEOLAR CLICK"⟩,
  ⟨0x1C3, "LATIN ", "LETTER RETROFLEX CLICK;CAPITAL LETTER DZ WITH CARON"⟩,
  ⟨0x1C5, "LATIN ", "CAPITAL LETTER D WITH SMALL LETTER Z WITH CARON;SMALL LETTER DZ WITH CARON"⟩,
  ⟨0x1C7, "LATIN ", "CAPITAL LETTER LJ;CAPITAL LETTER L WITH SMALL LETTER J;SMALL LETTER LJ;CAPITAL LETTER NJ"⟩,
  ⟨0x1CB, "LATIN ", "CAPITAL LETTER N WITH SMALL LETTER J;SMALL LETTER NJ;CAPITAL LETTER A WITH CARON"⟩,
  ⟨0x1CE, "LATIN ", "SMALL LETTER A WITH CARON;CAPITAL LETTER I WITH CARON;SMALL LETTER I WITH CARON"⟩,
  ⟨0x1D1, "LATIN ", "CAPITAL LETTER O WITH CARON;SMALL LETTER O WITH CARON;CAPITAL LETTER U WITH CARON"⟩,
  ⟨0x1D4, "LATIN ", "SMALL LETTER U WITH CARON;CAPITAL LETTER U WITH DIAERESIS AND MACRON"⟩,
  ⟨0x1D6, "LATIN ", "SMALL LETTER U WITH DIAERESIS AND MACRON;CAPITAL LETTER U WITH DIAERESIS AND ACUTE"⟩,
  ⟨0x1D8, "LATIN ", "SMALL LETTER U WITH DIAERESIS AND ACUTE;CAPITAL LETTER U WITH DIAERESIS AND CARON"⟩,
  ⟨0x1DA, "LATIN ", "SMALL LETTER U WITH DIAERESIS AND CARON;CAPITAL LETTER U WITH DIAERESIS AND GRAVE"⟩,
  ⟨0x1DC, "LATIN SMALL LETTER ", "U WITH DIAERESIS AND GRAVE;TURNED E"⟩,
  ⟨0x1DE, "LATIN ", "CAPITAL LETTER A WITH DIAERESIS AND MACRON;SMALL LETTER A WITH DIAERESIS AND MACRON"⟩,
  ⟨0x1E0, "LATIN ", "CAPITAL LETTER A WITH DOT ABOVE AND MACRON;SMALL LETTER A WITH DOT ABOVE AND MACRON"⟩,
  ⟨0x1E2, "LATIN ", "CAPITAL LETTER AE WITH MACRON;SMALL LETTER AE WITH MACRON"⟩,
  ⟨0x1E4, "LATIN ", "CAPITAL LETTER G WITH STROKE;SMALL LETTER G WITH STROKE;CAPITAL LETTER G WITH CARON"⟩,
  ⟨0x1E7, "LATIN ", "SMALL LETTER G WITH CARON;CAPITAL LETTER K WITH CARON;SMALL LETTER K WITH CARON"⟩,
  ⟨0x1EA, "LATIN ", "CAPITAL LETTER O WITH OGONEK;SMALL LETTER O WITH OGONEK;CAPITAL LETTER O WITH OGONEK AND MACRON"⟩,
  ⟨0x1ED, "LATIN ", "SMALL LETTER O WITH OGONEK AND MACRON;CAPITAL LETTER EZH WITH CARON"⟩,
  ⟨0x1EF, "LATIN SMALL LETTER ", "EZH WITH CARON;J WITH CARON"⟩,
  ⟨0x1F1, "LATIN CAPITAL LETTER ", "DZ;D WITH SMALL LETTER Z"⟩,
  ⟨0x1F3, "LATIN ", "SMALL LETTER DZ;CAPITAL LETTER G WITH ACUTE;SMALL LETTER G WITH ACUTE"⟩,
  ⟨0x1F6, "LATIN CAPITAL LETTER ", "HWAIR;WYNN;N WITH GRAVE"⟩,
  ⟨0x1F9, "", "LATIN SMALL LETTER N WITH GRAVE"⟩,
  ⟨0x1FA, "LATIN ", "CAPITAL LETTER A WITH RING ABOVE AND ACUTE;SMALL LETTER A WITH RING ABOVE AND ACUTE"⟩,
  ⟨0x1FC, "LATIN ", "CAPITAL LETTER AE WITH ACUTE;SMALL LETTER AE WITH ACUTE"⟩,
  ⟨0x1FE, "LATIN ", "CAPITAL LETTER O WITH STROKE AND ACUTE;SMALL LETTER O WITH STROKE AND ACUTE"⟩,
  ⟨0x200, "LATIN ", "CAPITAL LETTER A WITH DOUBLE GRAVE;SMALL LETTER A WITH DOUBLE GRAVE"⟩,
  ⟨0x202, "LATIN ", "CAPITAL LETTER A WITH INVERTED BREVE;SMALL LETTER A WITH INVERTED BREVE"⟩,
  ⟨0x204, "LATIN ", "CAPITAL LETTER E WITH DOUBLE GRAVE;SMALL LETTER E WITH DOUBLE GRAVE"⟩,
  ⟨0x206, "LATIN ", "CAPITAL LETTER E WITH INVERTED BREVE;SMALL LETTER E WITH INVERTED BREVE"⟩,
  ⟨0x208, "LATIN ", "CAPITAL LETTER I WITH DOUBLE GRAVE;SMALL LETTER I WITH DOUBLE GRAVE"⟩,
  ⟨0x20A, "LATIN ", "CAPITAL LETTER I WITH INVERTED BREVE;SMALL LETTER I WITH INVERTED BREVE"⟩,
  ⟨0x20C, "LATIN ", "CAPITAL LETTER O WITH DOUBLE GRAVE;SMALL LETTER O WITH DOUBLE GRAVE"⟩,
  ⟨0x20E, "LATIN ", "CAPITAL LETTER O WITH INVERTED BREVE;SMALL LETTER O WITH INVERTED BREVE"⟩,
  ⟨0x210, "LATIN ", "CAPITAL LETTER R WITH DOUBLE GRAVE;SMALL LETTER R WITH DOUBLE GRAVE"⟩,
  ⟨0x212, "LATIN ", "CAPITAL LETTER R WITH INVERTED BREVE;SMALL LETTER R WITH INVERTED BREVE"⟩,
  ⟨0x214, "LATIN ", "CAPITAL LETTER U WITH DOUBLE GRAVE;SMALL LETTER U WITH DOUBLE GRAVE"⟩,
  ⟨0x216, "LATIN ", "CAPITAL LETTER U WITH INVERTED BREVE;SMALL LETTER U WITH INVERTED BREVE"⟩,
  ⟨0x218, "LATIN ", "CAPITAL LETTER S WITH COMMA BELOW;SMALL LETTER S WITH COMMA BELOW"⟩,
  ⟨0x21A, "LATIN ", "CAPITAL LETTER T WITH COMMA BELOW;SMALL LETTER T WITH COMMA BELOW"⟩,
  ⟨0x21C, "LATIN ", "CAPITAL LETTER YOGH;SMALL LETTER YOGH;CAPITAL LETTER H WITH CARON"⟩,
  ⟨0x21F, "LATIN ", "SMALL LETTER H WITH CARON;CAPITAL LETTER N WITH LONG RIGHT LEG;SMALL LETTER D WITH CURL"⟩,
  ⟨0x222, "LATIN ", "CAPITAL LETTER OU;SMALL LETTER OU;CAPITAL LETTER Z WITH HOOK;SMALL LETTER Z WITH HOOK"⟩,
  ⟨0x226, "LATIN ", "CAPITAL LETTER A WITH DOT ABOVE;SMALL LETTER A WITH DOT ABOVE;CAPITAL LETTER E WITH CEDILLA"⟩,
  ⟨0x229, "LATIN ", "SMALL LETTER E WITH CEDILLA;CAPITAL LETTER O WITH DIAERESIS AND MACRON"⟩,
  ⟨0x22B, "LATIN ", "SMALL LETTER O WITH DIAERESIS AND MACRON;CAPITAL LETTER O WITH TILDE AND MACRON"⟩,
  ⟨0x22D, "LATIN ", "SMALL LETTER O WITH TILDE AND MACRON;CAPITAL LETTER O WITH DOT ABOVE"⟩,
  ⟨0x22F, "LATIN ", "SMALL LETTER O WITH DOT ABOVE;CAPITAL LETTER O WITH DOT ABOVE AND MACRON"⟩,
  ⟨0x231, "LATIN ", "SMALL LETTER O WITH DOT ABOVE AND MACRON;CAPITAL LETTER Y WITH MACRON"⟩,
  ⟨0x233, "LATIN SMALL LETTER ", "Y WITH MACRON;L WITH CURL;N WITH CURL;T WITH CURL;DOTLESS J;DB DIGRAPH;QP DIGRAPH"⟩,
  ⟨0x23A, "LATIN ", "CAPITAL LETTER A WITH STROKE;CAPITAL LETTER C WITH STROKE;SMALL LETTER C WITH STROKE"⟩,
  ⟨0x23D, "LATIN CAPITAL LETTER ", "L WITH BAR;T WITH DIAGONAL STROKE"⟩,
  ⟨0x23F, "LATIN SMALL LETTER ", "S WITH SWASH TAIL;Z WITH SWASH TAIL"⟩,
  ⟨0x241, "LATIN ", "CAPITAL LETTER GLOTTAL STOP;SMALL LETTER GLOTTAL STOP"⟩,
  ⟨0x243, "LATIN CAPITAL LETTER ", "B WITH STROKE;U BAR;TURNED V;E WITH STROKE"⟩,
  ⟨0x247, "LATIN ", "SMALL LETTER E WITH STROKE;CAPITAL LETTER J WITH STROKE"⟩,
  ⟨0x249, "LATIN ", "SMALL LETTER J WITH STROKE;CAPITAL LETTER SMALL Q WITH HOOK TAIL;SMALL LETTER Q WITH HOOK TAIL"⟩,
  ⟨0x24C, "LATIN ", "CAPITAL LETTER R WITH STROKE;SMALL LETTER R WITH STROKE;CAPITAL LETTER Y WITH STROKE"⟩,
  ⟨0x24F, "LATIN SMALL LETTER ", "Y WITH STROKE;TURNED A;ALPHA;TURNED ALPHA;B WITH HOOK;OPEN O;C WITH CURL"⟩,
  ⟨0x256, "LATIN SMALL LETTER ", "D WITH TAIL;D WITH HOOK;REVERSED E;SCHWA;SCHWA WITH HOOK;OPEN E;REVERSED OPEN E"⟩,
  ⟨0x25D, "LATIN SMALL LETTER ", "REVERSED OPEN E WITH HOOK;CLOSED REVERSED OPEN E;DOTLESS J WITH STROKE;G WITH HOOK"⟩,
  ⟨0x261, "LATIN ", "SMALL LETTER SCRIPT G;LETTER SMALL CAPITAL G"⟩,
  ⟨0x263, "LATIN SMALL LETTER ", "GAMMA;RAMS HORN;TURNED H;H WITH HOOK;HENG WITH HOOK;I WITH STROKE;IOTA"⟩,
  ⟨0x26A, "", "LATIN LETTER SMALL CAPITAL I"⟩,
  ⟨0x26B, "LATIN SMALL LETTER ", "L WITH MIDDLE TILDE;L WITH BELT;L WITH RETROFLEX HOOK;LEZH"⟩,
  ⟨0x26F, "LATIN SMALL LETTER ", "TURNED M;TURNED M WITH LONG LEG;M WITH HOOK;N WITH LEFT HOOK;N WITH RETROFLEX HOOK"⟩,
  ⟨0x274, "LATIN ", "LETTER SMALL CAPITAL N;SMALL LETTER BARRED O;LETTER SMALL CAPITAL OE"⟩,
  ⟨0x277, "LATIN SMALL LETTER ", "CLOSED OMEGA;PHI;TURNED R;TURNED R WITH LONG LEG;TURNED R WITH HOOK"⟩,
  ⟨0x27C, "LATIN SMALL LETTER ", "R WITH LONG LEG;R WITH TAIL;R WITH FISHHOOK;REVERSED R WITH FISHHOOK"⟩,
  ⟨0x280, "LATIN LETTER SMALL CAPITAL ", "R;INVERTED R"⟩,
  ⟨0x282, "LATIN SMALL LETTER ", "S WITH HOOK;ESH;DOTLESS J WITH STROKE AND HOOK;SQUAT REVERSED ESH;ESH WITH CURL"⟩,
  ⟨0x287, "LATIN SMALL LETTER ", "TURNED T;T WITH RETROFLEX HOOK;U BAR;UPSILON;V WITH HOOK;TURNED V;TURNED W"⟩,
  ⟨0x28E, "LATIN ", "SMALL LETTER TURNED Y;LETTER SMALL CAPITAL Y"⟩,
  ⟨0x290, "LATIN SMALL LETTER ", "Z WITH RETROFLEX HOOK;Z WITH CURL;EZH;EZH WITH CURL"⟩,
  ⟨0x294, "LATIN LETTER ", "GLOTTAL STOP;PHARYNGEAL VOICED FRICATIVE;INVERTED GLOTTAL STOP;STRETCHED C"⟩,
  ⟨0x298, "LATIN ", "LETTER BILABIAL CLICK;LETTER SMALL CAPITAL B;SMALL LETTER CLOSED OPEN E"⟩,
  ⟨0x29B, "LATIN LETTER SMALL CAPITAL ", "G WITH HOOK;H"⟩,
  ⟨0x29D, "LATIN SMALL LETTER ", "J WITH CROSSED-TAIL;TURNED K"⟩,
  ⟨0x29F, "LATIN ", "LETTER SMALL CAPITAL L;SMALL LETTER Q WITH HOOK"⟩,
  ⟨0x2A1, "LATIN LETTER ", "GLOTTAL STOP WITH STROKE;REVERSED GLOTTAL STOP WITH STROKE"⟩,
  ⟨0x2A3, "LATIN SMALL LETTER ", "DZ DIGRAPH;DEZH DIGRAPH;DZ DIGRAPH WITH CURL"⟩,
  ⟨0x2A6, "LATIN SMALL LETTER ", "TS DIGRAPH;TESH DIGRAPH;TC DIGRAPH WITH CURL;FENG DIGRAPH;LS DIGRAPH;LZ DIGRAPH"⟩,
  ⟨0x2AC, "LATIN LETTER ", "BILABIAL PERCUSSIVE;BIDENTAL PERCUSSIVE"⟩,
  ⟨0x2AE, "LATIN SMALL LETTER TURNED H WITH ", "FISHHOOK;FISHHOOK AND TAIL"⟩,
  ⟨0x2B0, "MODIFIER LETTER SMALL ", "H;H WITH HOOK;J;R;TURNED R;TURNED R WITH HOOK;CAPITAL INVERTED R;W;Y"⟩,
  ⟨0x2B9, "MODIFIER LETTER ", "PRIME;DOUBLE PRIME;TURNED COMMA;APOSTROPHE"⟩,
  ⟨0x2BD, "MODIFIER LETTER ", "REVERSED COMMA;RIGHT HALF RING;LEFT HALF RING;GLOTTAL STOP;REVERSED GLOTTAL STOP"⟩,
  ⟨0x2C2, "MODIFIER LETTER ", "LEFT ARROWHEAD;RIGHT ARROWHEAD;UP ARROWHEAD;DOWN ARROWHEAD;CIRCUMFLEX ACCENT"⟩,
  ⟨0x2C7, "", "CARON"⟩,
  ⟨0x2C8, "MODIFIER LETTER ", "VERTICAL LINE;MACRON;ACUTE ACCENT;GRAVE ACCENT;LOW VERTICAL LINE"⟩,
  ⟨0x2CD, "MODIFIER LETTER ", "LOW MACRON;LOW GRAVE ACCENT;LOW ACUTE ACCENT;TRIANGULAR COLON;HALF TRIANGULAR COLON"⟩,
  ⟨0x2D2, "MODIFIER LETTER ", "CENTRED RIGHT HALF RING;CENTRED LEFT HALF RING;UP TACK;DOWN TACK;PLUS SIGN;MINUS SIGN"⟩,
  ⟨0x2D8, "", "BREVE;DOT ABOVE;RING ABOVE;OGONEK;SMALL TILDE;DOUBLE ACUTE ACCENT"⟩,
  ⟨0x2DE, "MODIFIER LETTER ", "RHOTIC HOOK;CROSS ACCENT"⟩,
  ⟨0x2E0, "MODIFIER LETTER ", "SMALL GAMMA;SMALL L;SMALL S;SMALL X;SMALL REVERSED GLOTTAL STOP;EXTRA-HIGH TONE BAR"⟩,
  ⟨0x2E6, "MODIFIER LETTER ", "HIGH TONE BAR;MID TONE BAR;LOW TONE BAR;EXTRA-LOW TONE BAR;YIN DEPARTING TONE MARK"⟩,
  ⟨0x2EB, "MODIFIER LETTER ", "YANG DEPARTING TONE MARK;VOICING;UNASPIRATED;DOUBLE APOSTROPHE"⟩,
  ⟨0x2EF, "MODIFIER LETTER LOW ", "DOWN ARROWHEAD;UP ARROWHEAD;LEFT ARROWHEAD;RIGHT ARROWHEAD;RING"⟩,
  ⟨0x2F4, "MODIFIER LETTER MIDDLE ", "GRAVE ACCENT;DOUBLE GRAVE ACCENT;DOUBLE ACUTE ACCENT"⟩,
  ⟨0x2F7, "MODIFIER LETTER ", "LOW TILDE;RAISED COLON;BEGIN HIGH TONE"⟩,
  ⟨0x2FA, "MODIFIER LETTER ", "END HIGH TONE;BEGIN LOW TONE;END LOW TONE;SHELF;OPEN SHELF;LOW LEFT ARROW"⟩,
  ⟨0x300, "COMBINING ", "GRAVE ACCENT;ACUTE ACCENT;CIRCUMFLEX ACCENT;TILDE;MACRON;OVERLINE;BREVE"⟩,
  ⟨0x307, "COMBINING ", "DOT ABOVE;DIAERESIS;HOOK ABOVE;RING ABOVE;DOUBLE ACUTE ACCENT;CARON;VERTICAL LINE ABOVE"⟩,
  ⟨0x30E, "COMBINING DOUBLE ", "VERTICAL LINE ABOVE;GRAVE ACCENT"⟩,
  ⟨0x310, "COMBINING ", "CANDRABINDU;INVERTED BREVE;TURNED COMMA ABOVE;COMMA ABOVE;REVERSED COMMA ABOVE"⟩,
  ⟨0x315, "COMBINING ", "COMMA ABOVE RIGHT;GRAVE ACCENT BELOW;ACUTE ACCENT BELOW;LEFT TACK BELOW"⟩,
  ⟨0x319, "COMBINING ", "RIGHT TACK BELOW;LEFT ANGLE ABOVE;HORN;LEFT HALF RING BELOW;UP TACK BELOW;DOWN TACK BELOW"⟩,
  ⟨0x31F, "COMBINING ", "PLUS SIGN BELOW;MINUS SIGN BELOW;PALATALIZED HOOK BELOW;RETROFLEX HOOK BELOW"⟩,
  ⟨0x323, "COMBINING ", "DOT BELOW;DIAERESIS BELOW;RING BELOW;COMMA BELOW;CEDILLA;OGONEK;VERTICAL LINE BELOW"⟩,
  ⟨0x32A, "COMBINING ", "BRIDGE BELOW;INVERTED DOUBLE ARCH BELOW;CARON BELOW;CIRCUMFLEX ACCENT BELOW"⟩,
  ⟨0x32E, "COMBINING ", "BREVE BELOW;INVERTED BREVE BELOW;TILDE BELOW;MACRON BELOW;LOW LINE;DOUBLE LOW LINE"⟩,
  ⟨0x334, "COMBINING ", "TILDE OVERLAY;SHORT STROKE OVERLAY;LONG STROKE OVERLAY;SHORT SOLIDUS OVERLAY"⟩,
  ⟨0x338, "COMBINING ", "LONG SOLIDUS OVERLAY;RIGHT HALF RING BELOW;INVERTED BRIDGE BELOW;SQUARE BELOW"⟩,
  ⟨0x33C, "COMBINING ", "SEAGULL BELOW;X ABOVE;VERTICAL TILDE;DOUBLE OVERLINE;GRAVE TONE MARK;ACUTE TONE MARK"⟩,
  ⟨0x342, "COMBINING GREEK ", "PERISPOMENI;KORONIS;DIALYTIKA TONOS;YPOGEGRAMMENI"⟩,
  ⟨0x346, "COMBINING ", "BRIDGE ABOVE;EQUALS SIGN BELOW;DOUBLE VERTICAL LINE BELOW;LEFT ANGLE BELOW"⟩,
  ⟨0x34A, "COMBINING ", "NOT TILDE ABOVE;HOMOTHETIC ABOVE;ALMOST EQUAL TO ABOVE;LEFT RIGHT ARROW BELOW"⟩,
  ⟨0x34E, "COMBINING ", "UPWARDS ARROW BELOW;GRAPHEME JOINER;RIGHT ARROWHEAD ABOVE;LEFT HALF RING ABOVE;FERMATA"⟩,
  ⟨0x353, "COMBINING ", "X BELOW;LEFT ARROWHEAD BELOW;RIGHT ARROWHEAD BELOW;RIGHT ARROWHEAD AND UP ARROWHEAD BELOW"⟩,
  ⟨0x357, "COMBINING ", "RIGHT HALF RING ABOVE;DOT ABOVE RIGHT;ASTERISK BELOW;DOUBLE RING BELOW;ZIGZAG ABOVE"⟩,
  ⟨0x35C, "COMBINING DOUBLE ", "BREVE BELOW;BREVE;MACRON;MACRON BELOW;TILDE;INVERTED BREVE;RIGHTWARDS ARROW BELOW"⟩,
  ⟨0x363, "COMBINING LATIN SMALL LETTER ", "A;E;I;O;U;C;D;H;M;R;T;V;X"⟩,
  ⟨0x370, "", "GREEK CAPITAL LETTER HETA"⟩,
  ⟨0x371, "GREEK ", "SMALL LETTER HETA;CAPITAL LETTER ARCHAIC SAMPI;SMALL LETTER ARCHAIC SAMPI;NUMERAL SIGN"⟩,
  ⟨0x375, "GREEK ", "LOWER NUMERAL SIGN;CAPITAL LETTER PAMPHYLIAN DIGAMMA;SMALL LETTER PAMPHYLIAN DIGAMMA"⟩,
  ⟨0x37A, "GREEK ", "YPOGEGRAMMENI;SMALL REVERSED LUNATE SIGMA SYMBOL;SMALL DOTTED LUNATE SIGMA SYMBOL"⟩,
  ⟨0x37D, "GREEK ", "SMALL REVERSED DOTTED LUNATE SIGMA SYMBOL;QUESTION MARK;CAPITAL LETTER YOT"⟩,
  ⟨0x384, "GREEK ", "TONOS;DIALYTIKA TONOS;CAPITAL LETTER ALPHA WITH TONOS;ANO TELEIA"⟩,
  ⟨0x388, "GREEK CAPITAL LETTER ", "EPSILON WITH TONOS;ETA WITH TONOS;IOTA WITH TONOS"⟩,
  ⟨0x38C, "", "GREEK CAPITAL LETTER OMICRON WITH TONOS"⟩,
  ⟨0x38E, "GREEK CAPITAL LETTER ", "UPSILON WITH TONOS;OMEGA WITH TONOS"⟩,
  ⟨0x390, "GREEK ", "SMALL LETTER IOTA WITH DIALYTIKA AND TONOS;CAPITAL LETTER ALPHA"⟩,
  ⟨0x392, "GREEK CAPITAL LETTER ", "BETA;GAMMA;DELTA;EPSILON;ZETA;ETA;THETA;IOTA;KAPPA;LAMDA;MU;NU;XI;OMICRON;PI;RHO"⟩,
  ⟨0x3A3, "GREEK CAPITAL LETTER ", "SIGMA;TAU;UPSILON;PHI;CHI;PSI;OMEGA;IOTA WITH DIALYTIKA;UPSILON WITH DIALYTIKA"⟩,
  ⟨0x3AC, "", "GREEK SMALL LETTER ALPHA WITH TONOS"⟩,
  ⟨0x3AD, "GREEK SMALL LETTER ", "EPSILON WITH TONOS;ETA WITH TONOS;IOTA WITH TONOS;UPSILON WITH DIALYTIKA AND TONOS"⟩,
  ⟨0x3B1, "GREEK SMALL LETTER ", "ALPHA;BETA;GAMMA;DELTA;EPSILON;ZETA;ETA;THETA;IOTA;KAPPA;LAMDA;MU;NU;XI"⟩,
  ⟨0x3BF, "GREEK SMALL LETTER ", "OMICRON;PI;RHO;FINAL SIGMA;SIGMA;TAU;UPSILON;PHI;CHI;PSI;OMEGA;IOTA WITH DIALYTIKA"⟩,
  ⟨0x3CB, "GREEK SMALL LETTER ", "UPSILON WITH DIALYTIKA;OMICRON WITH TONOS;UPSILON WITH TONOS;OMEGA WITH TONOS"⟩,
  ⟨0x3CF, "GREEK ", "CAPITAL KAI SYMBOL;BETA SYMBOL;THETA SYMBOL"⟩,
  ⟨0x3D2, "GREEK UPSILON WITH ", "HOOK SYMBOL;ACUTE AND HOOK SYMBOL;DIAERESIS AND HOOK SYMBOL"⟩,
  ⟨0x3D5, "GREEK ", "PHI SYMBOL;PI SYMBOL;KAI SYMBOL;LETTER ARCHAIC KOPPA;SMALL LETTER ARCHAIC KOPPA;LETTER STIGMA"⟩,
  ⟨0x3DB, "GREEK ", "SMALL LETTER STIGMA;LETTER DIGAMMA;SMALL LETTER DIGAMMA;LETTER KOPPA;SMALL LETTER KOPPA"⟩,
  ⟨0x3E0, "", "GREEK LETTER SAMPI;GREEK SMALL LETTER SAMPI;COPTIC CAPITAL LETTER SHEI"⟩,
  ⟨0x3E3, "COPTIC ", "SMALL LETTER SHEI;CAPITAL LETTER FEI;SMALL LETTER FEI;CAPITAL LETTER KHEI;SMALL LETTER KHEI"⟩,
  ⟨0x3E8, "COPTIC ", "CAPITAL LETTER HORI;SMALL LETTER HORI;CAPITAL LETTER GANGIA;SMALL LETTER GANGIA"⟩,
  ⟨0x3EC, "COPTIC ", "CAPITAL LETTER SHIMA;SMALL LETTER SHIMA;CAPITAL LETTER DEI;SMALL LETTER DEI"⟩,
  ⟨0x3F0, "GREEK ", "KAPPA SYMBOL;RHO SYMBOL;LUNATE SIGMA SYMBOL;LETTER YOT;CAPITAL THETA SYMBOL"⟩,
  ⟨0x3F5, "GREEK ", "LUNATE EPSILON SYMBOL;REVERSED LUNATE EPSILON SYMBOL;CAPITAL LETTER SHO;SMALL LETTER SHO"⟩,
  ⟨0x3F9, "GREEK ", "CAPITAL LUNATE SIGMA SYMBOL;CAPITAL LETTER SAN;SMALL LETTER SAN;RHO WITH STROKE SYMBOL"⟩,
  ⟨0x3FD, "GREEK CAPITAL ", "REVERSED LUNATE SIGMA SYMBOL;DOTTED LUNATE SIGMA SYMBOL"⟩,
  ⟨0x3FF, "", "GREEK CAPITAL REVERSED DOTTED LUNATE SIGMA SYMBOL;CYRILLIC CAPITAL LETTER IE WITH GRAVE"⟩,
  ⟨0x401, "CYRILLIC CAPITAL LETTER ", "IO;DJE;GJE;UKRAINIAN IE;DZE;BYELORUSSIAN-UKRAINIAN I;YI;JE;LJE;NJE;TSHE"⟩,
  ⟨0x40C, "CYRILLIC CAPITAL LETTER ", "KJE;I WITH GRAVE;SHORT U;DZHE;A;BE;VE;GHE;DE;IE;ZHE;ZE;I;SHORT I;KA;EL;EM"⟩,
  ⟨0x41D, "CYRILLIC CAPITAL LETTER ", "EN;O;PE;ER;ES;TE;U;EF;HA;TSE;CHE;SHA;SHCHA;HARD SIGN;YERU;SOFT SIGN;E;YU;YA"⟩,
  ⟨0x430, "CYRILLIC SMALL LETTER ", "A;BE;VE;GHE;DE;IE;ZHE;ZE;I;SHORT I;KA;EL;EM;EN;O;PE;ER;ES;TE;U;EF"⟩,
  ⟨0x445, "CYRILLIC SMALL LETTER ", "HA;TSE;CHE;SHA;SHCHA;HARD SIGN;YERU;SOFT SIGN;E;YU;YA;IE WITH GRAVE;IO;DJE;GJE"⟩,
  ⟨0x454, "CYRILLIC SMALL LETTER ", "UKRAINIAN IE;DZE;BYELORUSSIAN-UKRAINIAN I;YI;JE;LJE;NJE;TSHE;KJE;I WITH GRAVE"⟩,
  ⟨0x45E, "CYRILLIC ", "SMALL LETTER SHORT U;SMALL LETTER DZHE;CAPITAL LETTER OMEGA;SMALL LETTER OMEGA"⟩,
  ⟨0x462, "CYRILLIC ", "CAPITAL LETTER YAT;SMALL LETTER YAT;CAPITAL LETTER IOTIFIED E;SMALL LETTER IOTIFIED E"⟩,
  ⟨0x466, "CYRILLIC ", "CAPITAL LETTER LITTLE YUS;SMALL LETTER LITTLE YUS;CAPITAL LETTER IOTIFIED LITTLE YUS"⟩,
  ⟨0x469, "CYRILLIC ", "SMALL LETTER IOTIFIED LITTLE YUS;CAPITAL LETTER BIG YUS;SMALL LETTER BIG YUS"⟩,
  ⟨0x46C, "CYRILLIC ", "CAPITAL LETTER IOTIFIED BIG YUS;SMALL LETTER IOTIFIED BIG YUS;CAPITAL LETTER KSI"⟩,
  ⟨0x46F, "CYRILLIC ", "SMALL LETTER KSI;CAPITAL LETTER PSI;SMALL LETTER PSI;CAPITAL LETTER FITA;SMALL LETTER FITA"⟩,
  ⟨0x474, "CYRILLIC ", "CAPITAL LETTER IZHITSA;SMALL LETTER IZHITSA;CAPITAL LETTER IZHITSA WITH DOUBLE GRAVE ACCENT"⟩,
  ⟨0x477, "", "CYRILLIC SMALL LETTER IZHITSA WITH DOUBLE GRAVE ACCENT"⟩,
  ⟨0x478, "CYRILLIC ", "CAPITAL LETTER UK;SMALL LETTER UK;CAPITAL LETTER ROUND OMEGA"⟩,
  ⟨0x47B, "CYRILLIC ", "SMALL LETTER ROUND OMEGA;CAPITAL LETTER OMEGA WITH TITLO;SMALL LETTER OMEGA WITH TITLO"⟩,
  ⟨0x47E, "CYRILLIC ", "CAPITAL LETTER OT;SMALL LETTER OT;CAPITAL LETTER KOPPA;SMALL LETTER KOPPA;THOUSANDS SIGN"⟩,
  ⟨0x483, "COMBINING CYRILLIC ", "TITLO;PALATALIZATION"⟩,
  ⟨0x485, "COMBINING CYRILLIC ", "DASIA PNEUMATA;PSILI PNEUMATA;POKRYTIE;HUNDRED THOUSANDS SIGN;MILLIONS SIGN"⟩,
  ⟨0x48A, "CYRILLIC ", "CAPITAL LETTER SHORT I WITH TAIL;SMALL LETTER SHORT I WITH TAIL;CAPITAL LETTER SEMISOFT SIGN"⟩,
  ⟨0x48D, "CYRILLIC ", "SMALL LETTER SEMISOFT SIGN;CAPITAL LETTER ER WITH TICK;SMALL LETTER ER WITH TICK"⟩,
  ⟨0x490, "CYRILLIC ", "CAPITAL LETTER GHE WITH UPTURN;SMALL LETTER GHE WITH UPTURN;CAPITAL LETTER GHE WITH STROKE"⟩,
  ⟨0x493, "CYRILLIC ", "SMALL LETTER GHE WITH STROKE;CAPITAL LETTER GHE WITH MIDDLE HOOK"⟩,
  ⟨0x495, "CYRILLIC ", "SMALL LETTER GHE WITH MIDDLE HOOK;CAPITAL LETTER ZHE WITH DESCENDER"⟩,
  ⟨0x497, "CYRILLIC ", "SMALL LETTER ZHE WITH DESCENDER;CAPITAL LETTER ZE WITH DESCENDER"⟩,
  ⟨0x499, "CYRILLIC ", "SMALL LETTER ZE WITH DESCENDER;CAPITAL LETTER KA WITH DESCENDER"⟩,
  ⟨0x49B, "CYRILLIC ", "SMALL LETTER KA WITH DESCENDER;CAPITAL LETTER KA WITH VERTICAL STROKE"⟩,
  ⟨0x49D, "CYRILLIC ", "SMALL LETTER KA WITH VERTICAL STROKE;CAPITAL LETTER KA WITH STROKE"⟩,
  ⟨0x49F, "CYRILLIC ", "SMALL LETTER KA WITH STROKE;CAPITAL LETTER BASHKIR KA;SMALL LETTER BASHKIR KA"⟩,
  ⟨0x4A2, "CYRILLIC ", "CAPITAL LETTER EN WITH DESCENDER;SMALL LETTER EN WITH DESCENDER;CAPITAL LIGATURE EN GHE"⟩,
  ⟨0x4A5, "CYRILLIC ", "SMALL LIGATURE EN GHE;CAPITAL LETTER PE WITH MIDDLE HOOK;SMALL LETTER PE WITH MIDDLE HOOK"⟩,
  ⟨0x4A8, "CYRILLIC ", "CAPITAL LETTER ABKHASIAN HA;SMALL LETTER ABKHASIAN HA;CAPITAL LETTER ES WITH DESCENDER"⟩,
  ⟨0x4AB, "CYRILLIC ", "SMALL LETTER ES WITH DESCENDER;CAPITAL LETTER TE WITH DESCENDER"⟩,
  ⟨0x4AD, "CYRILLIC ", "SMALL LETTER TE WITH DESCENDER;CAPITAL LETTER STRAIGHT U;SMALL LETTER STRAIGHT U"⟩,
  ⟨0x4B0, "CYRILLIC ", "CAPITAL LETTER STRAIGHT U WITH STROKE;SMALL LETTER STRAIGHT U WITH STROKE"⟩,
  ⟨0x4B2, "CYRILLIC ", "CAPITAL LETTER HA WITH DESCENDER;SMALL LETTER HA WITH DESCENDER;CAPITAL LIGATURE TE TSE"⟩,
  ⟨0x4B5, "CYRILLIC ", "SMALL LIGATURE TE TSE;CAPITAL LETTER CHE WITH DESCENDER;SMALL LETTER CHE WITH DESCENDER"⟩,
  ⟨0x4B8, "CYRILLIC ", "CAPITAL LETTER CHE WITH VERTICAL STROKE;SMALL LETTER CHE WITH VERTICAL STROKE"⟩,
  ⟨0x4BA, "CYRILLIC ", "CAPITAL LETTER SHHA;SMALL LETTER SHHA;CAPITAL LETTER ABKHASIAN CHE"⟩,
  ⟨0x4BD, "CYRILLIC ", "SMALL LETTER ABKHASIAN CHE;CAPITAL LETTER ABKHASIAN CHE WITH DESCENDER"⟩,
  ⟨0x4BF, "CYRILLIC ", "SMALL LETTER ABKHASIAN CHE WITH DESCENDER;LETTER PALOCHKA;CAPITAL LETTER ZHE WITH BREVE"⟩,
  ⟨0x4C2, "CYRILLIC ", "SMALL LETTER ZHE WITH BREVE;CAPITAL LETTER KA WITH HOOK;SMALL LETTER KA WITH HOOK"⟩,
  ⟨0x4C5, "CYRILLIC ", "CAPITAL LETTER EL WITH TAIL;SMALL LETTER EL WITH TAIL;CAPITAL LETTER EN WITH HOOK"⟩,
  ⟨0x4C8, "CYRILLIC ", "SMALL LETTER EN WITH HOOK;CAPITAL LETTER EN WITH TAIL;SMALL LETTER EN WITH TAIL"⟩,
  ⟨0x4CB, "CYRILLIC ", "CAPITAL LETTER KHAKASSIAN CHE;SMALL LETTER KHAKASSIAN CHE;CAPITAL LETTER EM WITH TAIL"⟩,
  ⟨0x4CE, "CYRILLIC SMALL LETTER ", "EM WITH TAIL;PALOCHKA"⟩,
  ⟨0x4D0, "CYRILLIC ", "CAPITAL LETTER A WITH BREVE;SMALL LETTER A WITH BREVE"⟩,
  ⟨0x4D2, "CYRILLIC ", "CAPITAL LETTER A WITH DIAERESIS;SMALL LETTER A WITH DIAERESIS;CAPITAL LIGATURE A IE"⟩,
  ⟨0x4D5, "CYRILLIC ", "SMALL LIGATURE A IE;CAPITAL LETTER IE WITH BREVE;SMALL LETTER IE WITH BREVE"⟩,
  ⟨0x4D8, "CYRILLIC ", "CAPITAL LETTER SCHWA;SMALL LETTER SCHWA;CAPITAL LETTER SCHWA WITH DIAERESIS"⟩,
  ⟨0x4DB, "CYRILLIC ", "SMALL LETTER SCHWA WITH DIAERESIS;CAPITAL LETTER ZHE WITH DIAERESIS"⟩,
  ⟨0x4DD, "CYRILLIC ", "SMALL LETTER ZHE WITH DIAERESIS;CAPITAL LETTER ZE WITH DIAERESIS"⟩,
  ⟨0x4DF, "CYRILLIC ", "SMALL LETTER ZE WITH DIAERESIS;CAPITAL LETTER ABKHASIAN DZE;SMALL LETTER ABKHASIAN DZE"⟩,
  ⟨0x4E2, "CYRILLIC ", "CAPITAL LETTER I WITH MACRON;SMALL LETTER I WITH MACRON;CAPITAL LETTER I WITH DIAERESIS"⟩,
  ⟨0x4E5, "CYRILLIC ", "SMALL LETTER I WITH DIAERESIS;CAPITAL LETTER O WITH DIAERESIS"⟩,
  ⟨0x4E7, "CYRILLIC ", "SMALL LETTER O WITH DIAERESIS;CAPITAL LETTER BARRED O;SMALL LETTER BARRED O"⟩,
  ⟨0x4EA, "CYRILLIC ", "CAPITAL LETTER BARRED O WITH DIAERESIS;SMALL LETTER BARRED O WITH DIAERESIS"⟩,
  ⟨0x4EC, "CYRILLIC ", "CAPITAL LETTER E WITH DIAERESIS;SMALL LETTER E WITH DIAERESIS"⟩,
  ⟨0x4EE, "CYRILLIC ", "CAPITAL LETTER U WITH MACRON;SMALL LETTER U WITH MACRON;CAPITAL LETTER U WITH DIAERESIS"⟩,
  ⟨0x4F1, "CYRILLIC ", "SMALL LETTER U WITH DIAERESIS;CAPITAL LETTER U WITH DOUBLE ACUTE"⟩,
  ⟨0x4F3, "CYRILLIC ", "SMALL LETTER U WITH DOUBLE ACUTE;CAPITAL LETTER CHE WITH DIAERESIS"⟩,
  ⟨0x4F5, "CYRILLIC ", "SMALL LETTER CHE WITH DIAERESIS;CAPITAL LETTER GHE WITH DESCENDER"⟩,
  ⟨0x4F7, "CYRILLIC ", "SMALL LETTER GHE WITH DESCENDER;CAPITAL LETTER YERU WITH DIAERESIS"⟩,
  ⟨0x4F9, "CYRILLIC ", "SMALL LETTER YERU WITH DIAERESIS;CAPITAL LETTER GHE WITH STROKE AND HOOK"⟩,
  ⟨0x4FB, "CYRILLIC ", "SMALL LETTER GHE WITH STROKE AND HOOK;CAPITAL LETTER HA WITH HOOK"⟩,
  ⟨0x4FD, "CYRILLIC ", "SMALL LETTER HA WITH HOOK;CAPITAL LETTER HA WITH STROKE;SMALL LETTER HA WITH STROKE"⟩,
  ⟨0x500, "CYRILLIC ", "CAPITAL LETTER KOMI DE;SMALL LETTER KOMI DE;CAPITAL LETTER KOMI DJE"⟩,
  ⟨0x503, "CYRILLIC ", "SMALL LETTER KOMI DJE;CAPITAL LETTER KOMI ZJE;SMALL LETTER KOMI ZJE;CAPITAL LETTER KOMI DZJE"⟩,
  ⟨0x507, "CYRILLIC ", "SMALL LETTER KOMI DZJE;CAPITAL LETTER KOMI LJE;SMALL LETTER KOMI LJE"⟩,
  ⟨0x50A, "CYRILLIC ", "CAPITAL LETTER KOMI NJE;SMALL LETTER KOMI NJE;CAPITAL LETTER KOMI SJE;SMALL LETTER KOMI SJE"⟩,
  ⟨0x50E, "CYRILLIC ", "CAPITAL LETTER KOMI TJE;SMALL LETTER KOMI TJE;CAPITAL LETTER REVERSED ZE"⟩,
  ⟨0x511, "CYRILLIC ", "SMALL LETTER REVERSED ZE;CAPITAL LETTER EL WITH HOOK;SMALL LETTER EL WITH HOOK"⟩,
  ⟨0x514, "CYRILLIC ", "CAPITAL LETTER LHA;SMALL LETTER LHA;CAPITAL LETTER RHA;SMALL LETTER RHA;CAPITAL LETTER YAE"⟩,
  ⟨0x519, "CYRILLIC ", "SMALL LETTER YAE;CAPITAL LETTER QA;SMALL LETTER QA;CAPITAL LETTER WE;SMALL LETTER WE"⟩,
  ⟨0x51E, "CYRILLIC ", "CAPITAL LETTER ALEUT KA;SMALL LETTER ALEUT KA;CAPITAL LETTER EL WITH MIDDLE HOOK"⟩,
  ⟨0x521, "CYRILLIC ", "SMALL LETTER EL WITH MIDDLE HOOK;CAPITAL LETTER EN WITH MIDDLE HOOK"⟩,
  ⟨0x523, "CYRILLIC ", "SMALL LETTER EN WITH MIDDLE HOOK;CAPITAL LETTER PE WITH DESCENDER"⟩,
  ⟨0x525, "CYRILLIC ", "SMALL LETTER PE WITH DESCENDER;CAPITAL LETTER SHHA WITH DESCENDER"⟩,
  ⟨0x527, "CYRILLIC ", "SMALL LETTER SHHA WITH DESCENDER;CAPITAL LETTER EN WITH LEFT HOOK"⟩,
  ⟨0x529, "CYRILLIC ", "SMALL LETTER EN WITH LEFT HOOK;CAPITAL LETTER DZZHE;SMALL LETTER DZZHE;CAPITAL LETTER DCHE"⟩,
  ⟨0x52D, "CYRILLIC ", "SMALL LETTER DCHE;CAPITAL LETTER EL WITH DESCENDER;SMALL LETTER EL WITH DESCENDER"⟩,
  ⟨0x531, "ARMENIAN CAPITAL LETTER ", "AYB;BEN;GIM;DA;ECH;ZA;EH;ET;TO;ZHE;INI;LIWN;XEH;CA;KEN;HO;JA;GHAD;CHEH"⟩,
  ⟨0x544, "ARMENIAN CAPITAL LETTER ", "MEN;YI;NOW;SHA;VO;CHA;PEH;JHEH;RA;SEH;VEW;TIWN;REH;CO;YIWN;PIWR;KEH;OH;FEH"⟩,
  ⟨0x559, "", "ARMENIAN MODIFIER LETTER LEFT HALF RING"⟩,
  ⟨0x55A, "ARMENIAN ", "APOSTROPHE;EMPHASIS MARK;EXCLAMATION MARK;COMMA;QUESTION MARK;ABBREVIATION MARK"⟩,
  ⟨0x560, "ARMENIAN SMALL LETTER ", "TURNED AYB;AYB;BEN;GIM;DA;ECH;ZA;EH;ET;TO;ZHE;INI;LIWN;XEH;CA;KEN;HO;JA;GHAD"⟩,
  ⟨0x573, "ARMENIAN SMALL LETTER ", "CHEH;MEN;YI;NOW;SHA;VO;CHA;PEH;JHEH;RA;SEH;VEW;TIWN;REH;CO;YIWN;PIWR;KEH;OH;FEH"⟩,
  ⟨0x587, "ARMENIAN ", "SMALL LIGATURE ECH YIWN;SMALL LETTER YI WITH STROKE;FULL STOP;HYPHEN"⟩,
  ⟨0x58D, "", "RIGHT-FACING ARMENIAN ETERNITY SIGN;LEFT-FACING ARMENIAN ETERNITY SIGN;ARMENIAN DRAM SIGN"⟩,
  ⟨0x591, "HEBREW ACCENT ", "ETNAHTA;SEGOL;SHALSHELET;ZAQEF QATAN;ZAQEF GADOL;TIPEHA;REVIA;ZARQA;PASHTA;YETIV;TEVIR"⟩,
  ⟨0x59C, "HEBREW ACCENT ", "GERESH;GERESH MUQDAM;GERSHAYIM;QARNEY PARA;TELISHA GEDOLA;PAZER;ATNAH HAFUKH;MUNAH"⟩,
  ⟨0x5A4, "HEBREW ACCENT ", "MAHAPAKH;MERKHA;MERKHA KEFULA;DARGA;QADMA;TELISHA QETANA;YERAH BEN YOMO;OLE;ILUY;DEHI"⟩,
  ⟨0x5AE, "HEBREW ", "ACCENT ZINOR;MARK MASORA CIRCLE;POINT SHEVA"⟩,
  ⟨0x5B1, "HEBREW POINT HATAF ", "SEGOL;PATAH;QAMATS"⟩,
  ⟨0x5B4, "HEBREW POINT ", "HIRIQ;TSERE;SEGOL;PATAH;QAMATS;HOLAM;HOLAM HASER FOR VAV;QUBUTS;DAGESH OR MAPIQ;METEG"⟩,
  ⟨0x5BE, "HEBREW ", "PUNCTUATION MAQAF;POINT RAFE;PUNCTUATION PASEQ;POINT SHIN DOT;POINT SIN DOT"⟩,
  ⟨0x5C3, "HEBREW ", "PUNCTUATION SOF PASUQ;MARK UPPER DOT;MARK LOWER DOT;PUNCTUATION NUN HAFUKHA;POINT QAMATS QATAN"⟩,
  ⟨0x5D0, "HEBREW LETTER ", "ALEF;BET;GIMEL;DALET;HE;VAV;ZAYIN;HET;TET;YOD;FINAL KAF;KAF;LAMED"⟩,
  ⟨0x5DD, "HEBREW LETTER ", "FINAL MEM;MEM;FINAL NUN;NUN;SAMEKH;AYIN;FINAL PE;PE;FINAL TSADI;TSADI;QOF;RESH;SHIN;TAV"⟩,
  ⟨0x5EF, "", "HEBREW YOD TRIANGLE"⟩,
  ⟨0x5F0, "HEBREW LIGATURE YIDDISH ", "DOUBLE VAV;VAV YOD;DOUBLE YOD"⟩,
  ⟨0x5F3, "HEBREW PUNCTUATION ", "GERESH;GERSHAYIM"⟩,
  ⟨0x600, "ARABIC ", "NUMBER SIGN;SIGN SANAH;FOOTNOTE MARKER;SIGN SAFHA;SIGN SAMVAT;NUMBER MARK ABOVE"⟩,
  ⟨0x606, "ARABIC-INDIC ", "CUBE ROOT;FOURTH ROOT"⟩,
  ⟨0x608, "", "ARABIC RAY;ARABIC-INDIC PER MILLE SIGN;ARABIC-INDIC PER TEN THOUSAND SIGN;AFGHANI SIGN"⟩,
  ⟨0x60C, "ARABIC ", "COMMA;DATE SEPARATOR;POETIC VERSE SIGN;SIGN MISRA;SIGN SALLALLAHOU ALAYHE WASSALLAM"⟩,
  ⟨0x611, "ARABIC SIGN ", "ALAYHE ASSALLAM;RAHMATULLAH ALAYHE;RADI ALLAHOU ANHU;TAKHALLUS"⟩,
  ⟨0x615, "ARABIC SMALL ", "HIGH TAH;HIGH LIGATURE ALEF WITH LAM WITH YEH;HIGH ZAIN;FATHA;DAMMA;KASRA"⟩,
  ⟨0x61B, "ARABIC ", "SEMICOLON;LETTER MARK;END OF TEXT MARK;TRIPLE DOT PUNCTUATION MARK;QUESTION MARK"⟩,
  ⟨0x620, "ARABIC LETTER ", "KASHMIRI YEH;HAMZA;ALEF WITH MADDA ABOVE;ALEF WITH HAMZA ABOVE"⟩,
  ⟨0x624, "ARABIC LETTER ", "WAW WITH HAMZA ABOVE;ALEF WITH HAMZA BELOW;YEH WITH HAMZA ABOVE;ALEF;BEH;TEH MARBUTA"⟩,
  ⟨0x62A, "ARABIC LETTER ", "TEH;THEH;JEEM;HAH;KHAH;DAL;THAL;REH;ZAIN;SEEN;SHEEN;SAD;DAD;TAH;ZAH;AIN;GHAIN"⟩,
  ⟨0x63B, "ARABIC LETTER KEHEH WITH ", "TWO DOTS ABOVE;THREE DOTS BELOW"⟩,
  ⟨0x63D, "ARABIC LETTER FARSI YEH WITH ", "INVERTED V;TWO DOTS ABOVE;THREE DOTS ABOVE"⟩,
  ⟨0x640, "", "ARABIC TATWEEL"⟩,
  ⟨0x641, "ARABIC LETTER ", "FEH;QAF;KAF;LAM;MEEM;NOON;HEH;WAW;ALEF MAKSURA;YEH"⟩,
  ⟨0x64B, "ARABIC ", "FATHATAN;DAMMATAN;KASRATAN;FATHA;DAMMA;KASRA;SHADDA;SUKUN"⟩,
  ⟨0x653, "ARABIC ", "MADDAH ABOVE;HAMZA ABOVE;HAMZA BELOW;SUBSCRIPT ALEF;INVERTED DAMMA;MARK NOON GHUNNA;ZWARAKAY"⟩,
  ⟨0x65A, "ARABIC VOWEL SIGN ", "SMALL V ABOVE;INVERTED SMALL V ABOVE;DOT BELOW"⟩,
  ⟨0x65D, "ARABIC ", "REVERSED DAMMA;FATHA WITH TWO DOTS;WAVY HAMZA BELOW"⟩,
  ⟨0x660, "ARABIC-INDIC DIGIT ", "ZERO;ONE;TWO;THREE;FOUR;FIVE;SIX;SEVEN;EIGHT;NINE"⟩,
  ⟨0x66A, "ARABIC ", "PERCENT SIGN;DECIMAL SEPARATOR;THOUSANDS SEPARATOR;FIVE POINTED STAR"⟩,
  ⟨0x66E, "ARABIC LETTER ", "DOTLESS BEH;DOTLESS QAF;SUPERSCRIPT ALEF;ALEF WASLA"⟩,
  ⟨0x672, "ARABIC LETTER ALEF WITH WAVY HAMZA ", "ABOVE;BELOW"⟩,
  ⟨0x674, "ARABIC LETTER HIGH ", "HAMZA;HAMZA ALEF;HAMZA WAW"⟩,
  ⟨0x677, "ARABIC LETTER ", "U WITH HAMZA ABOVE;HIGH HAMZA YEH;TTEH;TTEHEH;BEEH"⟩,
  ⟨0x67C, "ARABIC LETTER ", "TEH WITH RING;TEH WITH THREE DOTS ABOVE DOWNWARDS;PEH;TEHEH;BEHEH;HAH WITH HAMZA ABOVE"⟩,
  ⟨0x682, "ARABIC LETTER ", "HAH WITH TWO DOTS VERTICAL ABOVE;NYEH;DYEH;HAH WITH THREE DOTS ABOVE;TCHEH;TCHEHEH;DDAL"⟩,
  ⟨0x689, "ARABIC LETTER DAL WITH ", "RING;DOT BELOW;DOT BELOW AND SMALL TAH"⟩,
  ⟨0x68C, "ARABIC LETTER ", "DAHAL;DDAHAL;DUL;DAL WITH THREE DOTS ABOVE DOWNWARDS;DAL WITH FOUR DOTS ABOVE;RREH"⟩,
  ⟨0x692, "ARABIC LETTER REH WITH ", "SMALL V;RING;DOT BELOW;SMALL V BELOW;DOT BELOW AND DOT ABOVE;TWO DOTS ABOVE"⟩,
  ⟨0x698, "ARABIC LETTER ", "JEH;REH WITH FOUR DOTS ABOVE;SEEN WITH DOT BELOW AND DOT ABOVE"⟩,
  ⟨0x69B, "ARABIC LETTER SEEN WITH THREE DOTS ", "BELOW;BELOW AND THREE DOTS ABOVE"⟩,
  ⟨0x69D, "ARABIC LETTER ", "SAD WITH TWO DOTS BELOW;SAD WITH THREE DOTS ABOVE;TAH WITH THREE DOTS ABOVE"⟩,
  ⟨0x6A0, "ARABIC LETTER ", "AIN WITH THREE DOTS ABOVE;DOTLESS FEH;FEH WITH DOT MOVED BELOW;FEH WITH DOT BELOW"⟩,
  ⟨0x6A4, "ARABIC LETTER ", "VEH;FEH WITH THREE DOTS BELOW;PEHEH;QAF WITH DOT ABOVE;QAF WITH THREE DOTS ABOVE"⟩,
  ⟨0x6A9, "ARABIC LETTER ", "KEHEH;SWASH KAF;KAF WITH RING;KAF WITH DOT ABOVE;NG;KAF WITH THREE DOTS BELOW"⟩,
  ⟨0x6AF, "ARABIC LETTER ", "GAF;GAF WITH RING;NGOEH;GAF WITH TWO DOTS BELOW;GUEH;GAF WITH THREE DOTS ABOVE"⟩,
  ⟨0x6B5, "ARABIC LETTER LAM WITH ", "SMALL V;DOT ABOVE;THREE DOTS ABOVE;THREE DOTS BELOW"⟩,
  ⟨0x6B9, "ARABIC LETTER ", "NOON WITH DOT BELOW;NOON GHUNNA;RNOON;NOON WITH RING"⟩,
  ⟨0x6BD, "ARABIC LETTER ", "NOON WITH THREE DOTS ABOVE;HEH DOACHASHMEE;TCHEH WITH DOT ABOVE;HEH WITH YEH ABOVE"⟩,
  ⟨0x6C1, "ARABIC LETTER ", "HEH GOAL;HEH GOAL WITH HAMZA ABOVE;TEH MARBUTA GOAL;WAW WITH RING;KIRGHIZ OE"⟩,
  ⟨0x6C6, "ARABIC LETTER ", "OE;U;YU;KIRGHIZ YU;WAW WITH TWO DOTS ABOVE;VE;FARSI YEH;YEH WITH TAIL;YEH WITH SMALL V"⟩,
  ⟨0x6CF, "ARABIC LETTER ", "WAW WITH DOT ABOVE;E;YEH WITH THREE DOTS BELOW;YEH BARREE;YEH BARREE WITH HAMZA ABOVE"⟩,
  ⟨0x6D4, "ARABIC ", "FULL STOP;LETTER AE;SMALL HIGH LIGATURE SAD WITH LAM WITH ALEF MAKSURA"⟩,
  ⟨0x6D7, "ARABIC SMALL HIGH ", "LIGATURE QAF WITH LAM WITH ALEF MAKSURA;MEEM INITIAL FORM;LAM ALEF;JEEM;THREE DOTS"⟩,
  ⟨0x6DC, "ARABIC ", "SMALL HIGH SEEN;END OF AYAH;START OF RUB EL HIZB"⟩,
  ⟨0x6DF, "ARABIC SMALL HIGH ", "ROUNDED ZERO;UPRIGHT RECTANGULAR ZERO;DOTLESS HEAD OF KHAH;MEEM ISOLATED FORM"⟩,
  ⟨0x6E3, "ARABIC SMALL ", "LOW SEEN;HIGH MADDA;WAW;YEH;HIGH YEH;HIGH NOON"⟩,
  ⟨0x6E9, "ARABIC ", "PLACE OF SAJDAH;EMPTY CENTRE LOW STOP"⟩,
  ⟨0x6EB, "ARABIC ", "EMPTY CENTRE HIGH STOP;ROUNDED HIGH STOP WITH FILLED CENTRE;SMALL LOW MEEM"⟩,
  ⟨0x6EE, "ARABIC LETTER ", "DAL WITH INVERTED V;REH WITH INVERTED V"⟩,
  ⟨0x6F0, "EXTENDED ARABIC-INDIC DIGIT ", "ZERO;ONE;TWO;THREE;FOUR;FIVE;SIX;SEVEN;EIGHT;NINE"⟩,
  ⟨0x6FA, "ARABIC LETTER ", "SHEEN WITH DOT BELOW;DAD WITH DOT BELOW;GHAIN WITH DOT BELOW"⟩,
  ⟨0x6FD, "ARABIC ", "SIGN SINDHI AMPERSAND;SIGN SINDHI POSTPOSITION MEN;LETTER HEH WITH INVERTED V"⟩,
  ⟨0x700, "SYRIAC ", "END OF PARAGRAPH;SUPRALINEAR FULL STOP"⟩,
  ⟨0x702, "SYRIAC ", "SUBLINEAR FULL STOP;SUPRALINEAR COLON;SUBLINEAR COLON;HORIZONTAL COLON;COLON SKEWED LEFT"⟩,
  ⟨0x707, "SYRIAC ", "COLON SKEWED RIGHT;SUPRALINEAR COLON SKEWED LEFT;SUBLINEAR COLON SKEWED RIGHT;CONTRACTION"⟩,
  ⟨0x70B, "SYRIAC HARKLEAN ", "OBELUS;METOBELUS;ASTERISCUS"⟩,
  ⟨0x70F, "", "SYRIAC ABBREVIATION MARK"⟩,
  ⟨0x710, "SYRIAC LETTER ", "ALAPH;SUPERSCRIPT ALAPH;BETH;GAMAL;GAMAL GARSHUNI;DALATH;DOTLESS DALATH RISH;HE"⟩,
  ⟨0x718, "SYRIAC LETTER ", "WAW;ZAIN;HETH;TETH;TETH GARSHUNI;YUDH;YUDH HE;KAPH;LAMADH;MIM;NUN;SEMKATH;FINAL SEMKATH"⟩,
  ⟨0x725, "SYRIAC LETTER ", "E;PE;REVERSED PE;SADHE;QAPH;RISH;SHIN;TAW;PERSIAN BHETH;PERSIAN GHAMAL;PERSIAN DHALATH"⟩,
  ⟨0x730, "SYRIAC PTHAHA ", "ABOVE;BELOW;DOTTED"⟩,
  ⟨0x733, "SYRIAC ZQAPHA ", "ABOVE;BELOW;DOTTED"⟩,
  ⟨0x736, "SYRIAC ", "RBASA ABOVE;RBASA BELOW;DOTTED ZLAMA HORIZONTAL;DOTTED ZLAMA ANGULAR;HBASA ABOVE"⟩,
  ⟨0x73B, "SYRIAC ", "HBASA BELOW;HBASA-ESASA DOTTED;ESASA ABOVE;ESASA BELOW;RWAHA;FEMININE DOT;QUSHSHAYA;RUKKAKHA"⟩,
  ⟨0x743, "SYRIAC TWO VERTICAL DOTS ", "ABOVE;BELOW"⟩,
  ⟨0x745, "SYRIAC ", "THREE DOTS ABOVE;THREE DOTS BELOW;OBLIQUE LINE ABOVE;OBLIQUE LINE BELOW;MUSIC;BARREKH"⟩,
  ⟨0x74D, "SYRIAC LETTER SOGDIAN ", "ZHAIN;KHAPH;FE"⟩,
  ⟨0x750, "ARABIC LETTER BEH WITH ", "THREE DOTS HORIZONTALLY BELOW;DOT BELOW AND THREE DOTS ABOVE"⟩,
  ⟨0x752, "ARABIC LETTER BEH WITH THREE DOTS POINTING UPWARDS ", "BELOW;BELOW AND TWO DOTS ABOVE"⟩,
  ⟨0x754, "ARABIC LETTER BEH WITH ", "TWO DOTS BELOW AND DOT ABOVE;INVERTED SMALL V BELOW;SMALL V"⟩,
  ⟨0x757, "ARABIC LETTER HAH WITH ", "TWO DOTS ABOVE;THREE DOTS POINTING UPWARDS BELOW"⟩,
  ⟨0x759, "ARABIC LETTER DAL WITH ", "TWO DOTS VERTICALLY BELOW AND SMALL TAH;INVERTED SMALL V BELOW"⟩,
  ⟨0x75B, "ARABIC LETTER ", "REH WITH STROKE;SEEN WITH FOUR DOTS ABOVE"⟩,
  ⟨0x75D, "ARABIC LETTER AIN WITH ", "TWO DOTS ABOVE;THREE DOTS POINTING DOWNWARDS ABOVE;TWO DOTS VERTICALLY ABOVE"⟩,
  ⟨0x760, "ARABIC LETTER FEH WITH ", "TWO DOTS BELOW;THREE DOTS POINTING UPWARDS BELOW"⟩,
  ⟨0x762, "ARABIC LETTER KEHEH WITH ", "DOT ABOVE;THREE DOTS ABOVE;THREE DOTS POINTING UPWARDS BELOW"⟩,
  ⟨0x765, "ARABIC LETTER MEEM WITH DOT ", "ABOVE;BELOW"⟩,
  ⟨0x767, "ARABIC LETTER NOON WITH ", "TWO DOTS BELOW;SMALL TAH;SMALL V"⟩,
  ⟨0x76A, "ARABIC LETTER ", "LAM WITH BAR;REH WITH TWO DOTS VERTICALLY ABOVE"⟩,
  ⟨0x76C, "ARABIC LETTER ", "REH WITH HAMZA ABOVE;SEEN WITH TWO DOTS VERTICALLY ABOVE"⟩,
  ⟨0x76E, "ARABIC LETTER HAH WITH SMALL ARABIC LETTER TAH ", "BELOW;AND TWO DOTS"⟩,
  ⟨0x770, "", "ARABIC LETTER SEEN WITH SMALL ARABIC LETTER TAH AND TWO DOTS"⟩,
  ⟨0x771, "ARABIC LETTER ", "REH WITH SMALL ARABIC LETTER TAH AND TWO DOTS;HAH WITH SMALL ARABIC LETTER TAH ABOVE"⟩,
  ⟨0x773, "ARABIC LETTER ALEF WITH EXTENDED ARABIC-INDIC DIGIT ", "TWO ABOVE;THREE ABOVE"⟩,
  ⟨0x775, "ARABIC LETTER FARSI YEH WITH EXTENDED ARABIC-INDIC DIGIT ", "TWO ABOVE;THREE ABOVE;FOUR BELOW"⟩,
  ⟨0x778, "ARABIC LETTER WAW WITH EXTENDED ARABIC-INDIC DIGIT ", "TWO ABOVE;THREE ABOVE"⟩,
  ⟨0x77A, "ARABIC LETTER YEH BARREE WITH EXTENDED ARABIC-INDIC DIGIT ", "TWO ABOVE;THREE ABOVE"⟩,
  ⟨0x77C, "", "ARABIC LETTER HAH WITH EXTENDED ARABIC-INDIC DIGIT FOUR BELOW"⟩,
  ⟨0x77D, "ARABIC LETTER SEEN WITH ", "EXTENDED ARABIC-INDIC DIGIT FOUR ABOVE;INVERTED V"⟩,
  ⟨0x77F, "", "ARABIC LETTER KAF WITH TWO DOTS ABOVE"⟩,
  ⟨0x780, "THAANA LETTER ", "HAA;SHAVIYANI;NOONU;RAA;BAA;LHAVIYANI;KAAFU;ALIFU;VAAVU;MEEMU;FAAFU;DHAALU"⟩,
  ⟨0x78C, "THAANA LETTER ", "THAA;LAAMU;GAAFU;GNAVIYANI;SEENU;DAVIYANI;ZAVIYANI;TAVIYANI;YAA;PAVIYANI;JAVIYANI"⟩,
  ⟨0x797, "THAANA LETTER ", "CHAVIYANI;TTAA;HHAA;KHAA;THAALU;ZAA;SHEENU;SAADHU;DAADHU;TO;ZO;AINU;GHAINU;QAAFU;WAAVU"⟩,
  ⟨0x7A6, "THAANA ", "ABAFILI;AABAAFILI"⟩,
  ⟨0x7A8, "THAANA ", "IBIFILI;EEBEEFILI;UBUFILI;OOBOOFILI;EBEFILI;EYBEYFILI;OBOFILI;OABOAFILI;SUKUN;LETTER NAA"⟩,
  ⟨0x7C0, "NKO DIGIT ", "ZERO;ONE;TWO;THREE;FOUR;FIVE;SIX;SEVEN;EIGHT;NINE"⟩,
  ⟨0x7CA, "NKO LETTER ", "A;EE;I;E;U;OO;O;DAGBASINNA;N;BA;PA;TA;JA;CHA"⟩,
  ⟨0x7D8, "NKO LETTER ", "DA;RA;RRA;SA;GBA;FA;KA;LA;NA WOLOSO;MA;NYA;NA;HA;WA;YA;NYA WOLOSO;JONA JA;JONA CHA;JONA RA"⟩,
  ⟨0x7EB, "NKO COMBINING SHORT ", "HIGH TONE;LOW TONE;RISING TONE"⟩,
  ⟨0x7EE, "NKO COMBINING LONG ", "DESCENDING TONE;HIGH TONE;LOW TONE;RISING TONE"⟩,
  ⟨0x7F2, "NKO ", "COMBINING NASALIZATION MARK;COMBINING DOUBLE DOT ABOVE;HIGH TONE APOSTROPHE"⟩,
  ⟨0x7F5, "NKO ", "LOW TONE APOSTROPHE;SYMBOL OO DENNEN;SYMBOL GBAKURUNEN;COMMA;EXCLAMATION MARK;LAJANYALAN"⟩,
  ⟨0x7FD, "NKO ", "DANTAYALAN;DOROME SIGN;TAMAN SIGN"⟩,
  ⟨0x800, "SAMARITAN LETTER ", "ALAF;BIT;GAMAN;DALAT"⟩,
  ⟨0x804, "SAMARITAN LETTER ", "IY;BAA;ZEN;IT;TIT;YUT;KAAF;LABAT;MIM;NUN;SINGAAT;IN;FI;TSAADIY;QUF;RISH;SHAN;TAAF"⟩,
  ⟨0x816, "SAMARITAN MARK ", "IN;IN-ALAF;OCCLUSION;DAGESH"⟩,
  ⟨0x81A, "SAMARITAN ", "MODIFIER LETTER EPENTHETIC YUT;MARK EPENTHETIC YUT"⟩,
  ⟨0x81C, "SAMARITAN VOWEL SIGN ", "LONG E;E;OVERLONG AA;LONG AA;AA;OVERLONG A;LONG A;A"⟩,
  ⟨0x824, "SAMARITAN ", "MODIFIER LETTER SHORT A;VOWEL SIGN SHORT A;VOWEL SIGN LONG U;VOWEL SIGN U;MODIFIER LETTER I"⟩,
  ⟨0x829, "SAMARITAN VOWEL SIGN ", "LONG I;I;O;SUKUN"⟩,
  ⟨0x82D, "", "SAMARITAN MARK NEQUDAA"⟩,
  ⟨0x830, "SAMARITAN PUNCTUATION ", "NEQUDAA;AFSAAQ;ANGED;BAU;ATMAAU;SHIYYAALAA"⟩,
  ⟨0x836, "", "SAMARITAN ABBREVIATION MARK"⟩,
  ⟨0x837, "SAMARITAN PUNCTUATION ", "MELODIC QITSA;ZIQAA;QITSA;ZAEF;TURU;ARKAANU;SOF MASHFAAT;ANNAAU"⟩,
  ⟨0x840, "MANDAIC LETTER ", "HALQA;AB;AG;AD;AH;USHENNA;AZ;IT;ATT;AKSA;AK;AL;AM;AN;AS;IN;AP;ASZ;AQ;AR;ASH;AT"⟩,
  ⟨0x856, "MANDAIC ", "LETTER DUSHENNA;LETTER KAD;LETTER AIN;AFFRICATION MARK;VOCALIZATION MARK;GEMINATION MARK"⟩,
  ⟨0x85E, "", "MANDAIC PUNCTUATION"⟩,
  ⟨0x860, "SYRIAC LETTER MALAYALAM ", "NGA;JA;NYA;TTA;NNA;NNNA;BHA;RA;LLA;LLLA;SSA"⟩,
  ⟨0x870, "ARABIC LETTER ALEF WITH ATTACHED ", "FATHA;TOP RIGHT FATHA"⟩,
  ⟨0x872, "ARABIC LETTER ALEF WITH ", "RIGHT MIDDLE STROKE;LEFT MIDDLE STROKE;ATTACHED KASRA"⟩,
  ⟨0x875, "ARABIC LETTER ALEF WITH ATTACHED ", "BOTTOM RIGHT KASRA;ROUND DOT ABOVE;RIGHT ROUND DOT;LEFT ROUND DOT"⟩,
  ⟨0x879, "ARABIC LETTER ALEF WITH ", "ATTACHED ROUND DOT BELOW;DOT ABOVE;ATTACHED TOP RIGHT FATHA AND DOT ABOVE"⟩,
  ⟨0x87C, "ARABIC LETTER ALEF WITH ", "RIGHT MIDDLE STROKE AND DOT ABOVE;ATTACHED BOTTOM RIGHT KASRA AND DOT ABOVE"⟩,
  ⟨0x87E, "ARABIC LETTER ALEF WITH ", "ATTACHED TOP RIGHT FATHA AND LEFT RING;RIGHT MIDDLE STROKE AND LEFT RING"⟩,
  ⟨0x880, "ARABIC LETTER ALEF WITH ATTACHED ", "BOTTOM RIGHT KASRA AND LEFT RING;RIGHT HAMZA;LEFT HAMZA"⟩,
  ⟨0x883, "ARABIC TATWEEL WITH ", "OVERSTRUCK HAMZA;OVERSTRUCK WAW;TWO DOTS BELOW"⟩,
  ⟨0x886, "ARABIC ", "LETTER THIN YEH;BASELINE ROUND DOT;RAISED ROUND DOT"⟩,
  ⟨0x889, "ARABIC LETTER ", "NOON WITH INVERTED SMALL V;HAH WITH INVERTED SMALL V BELOW;TAH WITH DOT BELOW"⟩,
  ⟨0x88C, "ARABIC ", "LETTER TAH WITH THREE DOTS BELOW;LETTER KEHEH WITH TWO DOTS VERTICALLY BELOW;VERTICAL TAIL"⟩,
  ⟨0x890, "ARABIC ", "POUND MARK ABOVE;PIASTRE MARK ABOVE"⟩,
  ⟨0x898, "ARABIC SMALL ", "HIGH WORD AL-JUZ;LOW WORD ISHMAAM;LOW WORD IMAALA;LOW WORD TASHEEL"⟩,
  ⟨0x89C, "ARABIC ", "MADDA WAAJIB;SUPERSCRIPT ALEF MOKHASSAS;DOUBLED MADDA;HALF MADDA OVER MADDA"⟩,
  ⟨0x8A0, "ARABIC LETTER ", "BEH WITH SMALL V BELOW;BEH WITH HAMZA ABOVE;JEEM WITH TWO DOTS ABOVE"⟩,
  ⟨0x8A3, "ARABIC LETTER ", "TAH WITH TWO DOTS ABOVE;FEH WITH DOT BELOW AND THREE DOTS ABOVE;QAF WITH DOT BELOW"⟩,
  ⟨0x8A6, "ARABIC LETTER ", "LAM WITH DOUBLE BAR;MEEM WITH THREE DOTS ABOVE;YEH WITH TWO DOTS BELOW AND HAMZA ABOVE"⟩,
  ⟨0x8A9, "ARABIC LETTER ", "YEH WITH TWO DOTS BELOW AND DOT ABOVE;REH WITH LOOP;WAW WITH DOT WITHIN;ROHINGYA YEH"⟩,
  ⟨0x8AD, "ARABIC LETTER ", "LOW ALEF;DAL WITH THREE DOTS BELOW;SAD WITH THREE DOTS BELOW;GAF WITH INVERTED STROKE"⟩,
  ⟨0x8B1, "ARABIC LETTER ", "STRAIGHT WAW;ZAIN WITH INVERTED V ABOVE;AIN WITH THREE DOTS BELOW"⟩,
  ⟨0x8B4, "ARABIC LETTER ", "KAF WITH DOT BELOW;QAF WITH DOT BELOW AND NO DOTS ABOVE;BEH WITH SMALL MEEM ABOVE"⟩,
  ⟨0x8B7, "ARABIC LETTER ", "PEH WITH SMALL MEEM ABOVE;TEH WITH SMALL TEH ABOVE;REH WITH SMALL NOON ABOVE"⟩,
  ⟨0x8BA, "ARABIC LETTER ", "YEH WITH TWO DOTS BELOW AND SMALL NOON ABOVE;AFRICAN FEH;AFRICAN QAF"⟩,
  ⟨0x8BD, "ARABIC LETTER ", "AFRICAN NOON;PEH WITH SMALL V;TEH WITH SMALL V;TTEH WITH SMALL V;TCHEH WITH SMALL V"⟩,
  ⟨0x8C2, "ARABIC LETTER ", "KEHEH WITH SMALL V;GHAIN WITH THREE DOTS ABOVE;AFRICAN QAF WITH THREE DOTS ABOVE"⟩,
  ⟨0x8C5, "ARABIC LETTER JEEM WITH THREE DOTS ", "ABOVE;BELOW"⟩,
  ⟨0x8C7, "ARABIC ", "LETTER LAM WITH SMALL ARABIC LETTER TAH ABOVE;LETTER GRAF;SMALL FARSI YEH"⟩,
  ⟨0x8CA, "ARABIC SMALL HIGH ", "FARSI YEH;YEH BARREE WITH TWO DOTS BELOW;WORD SAH;ZAH"⟩,
  ⟨0x8CE, "ARABIC LARGE ROUND DOT ", "ABOVE;BELOW"⟩,
  ⟨0x8D0, "ARABIC ", "SUKUN BELOW;LARGE CIRCLE BELOW;LARGE ROUND DOT INSIDE CIRCLE BELOW;SMALL LOW WAW"⟩,
  ⟨0x8D4, "ARABIC SMALL ", "HIGH WORD AR-RUB;HIGH SAD;HIGH AIN;HIGH QAF;HIGH NOON WITH KASRA;LOW NOON WITH KASRA"⟩,
  ⟨0x8DA, "ARABIC SMALL HIGH WORD ", "ATH-THALATHA;AS-SAJDA;AN-NISF;SAKTA;QIF;WAQFA"⟩,
  ⟨0x8E0, "ARABIC ", "SMALL HIGH FOOTNOTE MARKER;SMALL HIGH SIGN SAFHA;DISPUTED END OF AYAH;TURNED DAMMA BELOW"⟩,
  ⟨0x8E4, "ARABIC CURLY ", "FATHA;DAMMA;KASRA;FATHATAN;DAMMATAN;KASRATAN"⟩,
  ⟨0x8EA, "ARABIC TONE ", "ONE DOT ABOVE;TWO DOTS ABOVE;LOOP ABOVE;ONE DOT BELOW;TWO DOTS BELOW;LOOP BELOW"⟩,
  ⟨0x8F0, "ARABIC OPEN ", "FATHATAN;DAMMATAN;KASRATAN"⟩,
  ⟨0x8F3, "ARABIC ", "SMALL HIGH WAW;FATHA WITH RING;FATHA WITH DOT ABOVE;KASRA WITH DOT BELOW"⟩,
  ⟨0x8F7, "ARABIC ", "LEFT ARROWHEAD ABOVE;RIGHT ARROWHEAD ABOVE;LEFT ARROWHEAD BELOW;RIGHT ARROWHEAD BELOW"⟩,
  ⟨0x8FB, "ARABIC DOUBLE RIGHT ARROWHEAD ", "ABOVE;ABOVE WITH DOT"⟩,
  ⟨0x8FD, "ARABIC ", "RIGHT ARROWHEAD ABOVE WITH DOT;DAMMA WITH DOT;MARK SIDEWAYS NOON GHUNNA"⟩,
  ⟨0x900, "DEVANAGARI SIGN ", "INVERTED CANDRABINDU;CANDRABINDU;ANUSVARA;VISARGA"⟩,
  ⟨0x904, "DEVANAGARI LETTER ", "SHORT A;A;AA;I;II;U;UU;VOCALIC R;VOCALIC L;CANDRA E;SHORT E"⟩,
  ⟨0x90F, "DEVANAGARI LETTER ", "E;AI;CANDRA O;SHORT O;O;AU;KA;KHA;GA;GHA;NGA;CA;CHA;JA;JHA;NYA;TTA;TTHA;DDA;DDHA"⟩,
  ⟨0x923, "DEVANAGARI LETTER ", "NNA;TA;THA;DA;DHA;NA;NNNA;PA;PHA;BA;BHA;MA;YA;RA;RRA;LA;LLA;LLLA;VA;SHA;SSA;SA;HA"⟩,
  ⟨0x93A, "DEVANAGARI ", "VOWEL SIGN OE;VOWEL SIGN OOE;SIGN NUKTA;SIGN AVAGRAHA"⟩,
  ⟨0x93E, "DEVANAGARI VOWEL SIGN ", "AA;I;II;U;UU;VOCALIC R;VOCALIC RR;CANDRA E;SHORT E;E;AI;CANDRA O;SHORT O;O;AU"⟩,
  ⟨0x94D, "DEVANAGARI ", "SIGN VIRAMA;VOWEL SIGN PRISHTHAMATRA E"⟩,
  ⟨0x94F, "DEVANAGARI ", "VOWEL SIGN AW;OM;STRESS SIGN UDATTA;STRESS SIGN ANUDATTA;GRAVE ACCENT;ACUTE ACCENT"⟩,
  ⟨0x955, "DEVANAGARI VOWEL SIGN ", "CANDRA LONG E;UE;UUE"⟩,
  ⟨0x958, "DEVANAGARI LETTER ", "QA;KHHA;GHHA;ZA;DDDHA;RHA;FA;YYA;VOCALIC RR;VOCALIC LL"⟩,
  ⟨0x962, "DEVANAGARI ", "VOWEL SIGN VOCALIC L;VOWEL SIGN VOCALIC LL;DANDA;DOUBLE DANDA"⟩,
  ⟨0x966, "DEVANAGARI DIGIT ", "ZERO;ONE;TWO;THREE;FOUR;FIVE;SIX;SEVEN;EIGHT;NINE"⟩,
  ⟨0x970, "DEVANAGARI ", "ABBREVIATION SIGN;SIGN HIGH SPACING DOT"⟩,
  ⟨0x972, "DEVANAGARI LETTER ", "CANDRA A;OE;OOE;AW;UE;UUE;MARWARI DDA;ZHA;HEAVY YA;GGA;JJA;GLOTTAL STOP;DDDA;BBA"⟩,
  ⟨0x980, "BENGALI ", "ANJI;SIGN CANDRABINDU;SIGN ANUSVARA;SIGN VISARGA"⟩,
  ⟨0x985, "BENGALI LETTER ", "A;AA;I;II;U;UU;VOCALIC R;VOCALIC L"⟩,
  ⟨0x98F, "BENGALI LETTER ", "E;AI"⟩,
  ⟨0x993, "BENGALI LETTER ", "O;AU;KA;KHA;GA;GHA;NGA;CA;CHA;JA;JHA;NYA;TTA;TTHA;DDA;DDHA;NNA;TA;THA;DA;DHA;NA"⟩,
  ⟨0x9AA, "BENGALI LETTER ", "PA;PHA;BA;BHA;MA;YA;RA"⟩,
  ⟨0x9B2, "", "BENGALI LETTER LA"⟩,
  ⟨0x9B6, "BENGALI LETTER ", "SHA;SSA;SA;HA"⟩,
  ⟨0x9BC, "BENGALI SIGN ", "NUKTA;AVAGRAHA"⟩,
  ⟨0x9BE, "BENGALI VOWEL SIGN ", "AA;I;II;U;UU;VOCALIC R;VOCALIC RR"⟩,
  ⟨0x9C7, "BENGALI VOWEL SIGN ", "E;AI"⟩,
  ⟨0x9CB, "BENGALI ", "VOWEL SIGN O;VOWEL SIGN AU;SIGN VIRAMA;LETTER KHANDA TA"⟩,
  ⟨0x9D7, "", "BENGALI AU LENGTH MARK"⟩,
  ⟨0x9DC, "BENGALI LETTER ", "RRA;RHA"⟩,
  ⟨0x9DF, "BENGALI LETTER ", "YYA;VOCALIC RR;VOCALIC LL"⟩,
  ⟨0x9E2, "BENGALI VOWEL SIGN VOCALIC ", "L;LL"⟩,
  ⟨0x9E6, "BENGALI DIGIT ", "ZERO;ONE;TWO;THREE;FOUR;FIVE;SIX;SEVEN;EIGHT;NINE"⟩,
  ⟨0x9F0, "BENGALI ", "LETTER RA WITH MIDDLE DIAGONAL;LETTER RA WITH LOWER DIAGONAL;RUPEE MARK;RUPEE SIGN"⟩,
  ⟨0x9F4, "BENGALI CURRENCY NUMERATOR ", "ONE;TWO;THREE;FOUR;ONE LESS THAN THE DENOMINATOR"⟩,
  ⟨0x9F9, "", "BENGALI CURRENCY DENOMINATOR SIXTEEN"⟩,
  ⟨0x9FA, "BENGALI ", "ISSHAR;GANDA MARK;LETTER VEDIC ANUSVARA;ABBREVIATION SIGN;SANDHI MARK"⟩,
  ⟨0xA01, "GURMUKHI SIGN ", "ADAK BINDI;BINDI;VISARGA"⟩,
  ⟨0xA05, "GURMUKHI LETTER ", "A;AA;I;II;U;UU"⟩,
  ⟨0xA0F, "GURMUKHI LETTER ", "EE;AI"⟩,
  ⟨0xA13, "GURMUKHI LETTER ", "OO;AU;KA;KHA;GA;GHA;NGA;CA;CHA;JA;JHA;NYA;TTA;TTHA;DDA;DDHA;NNA;TA;THA;DA;DHA;NA"⟩,
  ⟨0xA2A, "GURMUKHI LETTER ", "PA;PHA;BA;BHA;MA;YA;RA"⟩,
  ⟨0xA32, "GURMUKHI LETTER ", "LA;LLA"⟩,
  ⟨0xA35, "GURMUKHI LETTER ", "VA;SHA"⟩,
  ⟨0xA38, "GURMUKHI LETTER ", "SA;HA"⟩,
  ⟨0xA3C, "", "GURMUKHI SIGN NUKTA"⟩,
  ⟨0xA3E, "GURMUKHI VOWEL SIGN ", "AA;I;II;U;UU"⟩,
  ⟨0xA47, "GURMUKHI VOWEL SIGN ", "EE;AI"⟩,
  ⟨0xA4B, "GURMUKHI ", "VOWEL SIGN OO;VOWEL SIGN AU;SIGN VIRAMA"⟩,
  ⟨0xA51, "", "GURMUKHI SIGN UDAAT"⟩,
  ⟨0xA59, "GURMUKHI LETTER ", "KHHA;GHHA;ZA;RRA"⟩,
  ⟨0xA5E, "", "GURMUKHI LETTER FA"⟩,
  ⟨0xA66, "GURMUKHI DIGIT ", "ZERO;ONE;TWO;THREE;FOUR;FIVE;SIX;SEVEN;EIGHT;NINE"⟩,
  ⟨0xA70, "GURMUKHI ", "TIPPI;ADDAK;IRI;URA;EK ONKAR;SIGN YAKASH;ABBREVIATION SIGN"⟩,
  ⟨0xA81, "GUJARATI SIGN ", "CANDRABINDU;ANUSVARA;VISARGA"⟩,
  ⟨0xA85, "GUJARATI LETTER ", "A;AA;I;II;U;UU;VOCALIC R;VOCALIC L"⟩,
  ⟨0xA8D, "", "GUJARATI VOWEL CANDRA E"⟩,
  ⟨0xA8F, "GUJARATI ", "LETTER E;LETTER AI;VOWEL CANDRA O"⟩,
  ⟨0xA93, "GUJARATI LETTER ", "O;AU;KA;KHA;GA;GHA;NGA;CA;CHA;JA;JHA;NYA;TTA;TTHA;DDA;DDHA;NNA;TA;THA;DA;DHA;NA"⟩,
  ⟨0xAAA, "GUJARATI LETTER ", "PA;PHA;BA;BHA;MA;YA;RA"⟩,
  ⟨0xAB2, "GUJARATI LETTER ", "LA;LLA"⟩,
  ⟨0xAB5, "GUJARATI LETTER ", "VA;SHA;SSA;SA;HA"⟩,
  ⟨0xABC, "GUJARATI SIGN ", "NUKTA;AVAGRAHA"⟩,
  ⟨0xABE, "GUJARATI VOWEL SIGN ", "AA;I;II;U;UU;VOCALIC R;VOCALIC RR;CANDRA E"⟩,
  ⟨0xAC7, "GUJARATI VOWEL SIGN ", "E;AI;CANDRA O"⟩,
  ⟨0xACB, "GUJARATI ", "VOWEL SIGN O;VOWEL SIGN AU;SIGN VIRAMA"⟩,
  ⟨0xAD0, "", "GUJARATI OM"⟩,
  ⟨0xAE0, "GUJARATI LETTER VOCALIC ", "RR;LL"⟩,
  ⟨0xAE2, "GUJARATI VOWEL SIGN VOCALIC ", "L;LL"⟩,
  ⟨0xAE6, "GUJARATI DIGIT ", "ZERO;ONE;TWO;THREE;FOUR;FIVE;SIX;SEVEN;EIGHT;NINE"⟩,
  ⟨0xAF0, "GUJARATI ", "ABBREVIATION SIGN;RUPEE SIGN"⟩,
  ⟨0xAF9, "", "GUJARATI LETTER ZHA"⟩,
  ⟨0xAFA, "GUJARATI SIGN ", "SUKUN;SHADDA;MADDAH;THREE-DOT NUKTA ABOVE;CIRCLE NUKTA ABOVE;TWO-CIRCLE NUKTA ABOVE"⟩,
  ⟨0xB01, "ORIYA SIGN ", "CANDRABINDU;ANUSVARA;VISARGA"⟩,
  ⟨0xB05, "ORIYA LETTER ", "A;AA;I;II;U;UU;VOCALIC R;VOCALIC L"⟩,
  ⟨0xB0F, "ORIYA LETTER ", "E;AI"⟩,
  ⟨0xB13, "ORIYA LETTER ", "O;AU;KA;KHA;GA;GHA;NGA;CA;CHA;JA;JHA;NYA;TTA;TTHA;DDA;DDHA;NNA;TA;THA;DA;DHA;NA"⟩,
  ⟨0xB2A, "ORIYA LETTER ", "PA;PHA;BA;BHA;MA;YA;RA"⟩,
  ⟨0xB32, "ORIYA LETTER ", "LA;LLA"⟩,
  ⟨0xB35, "ORIYA LETTER ", "VA;SHA;SSA;SA;HA"⟩,
  ⟨0xB3C, "ORIYA SIGN ", "NUKTA;AVAGRAHA"⟩,
  ⟨0xB3E, "ORIYA VOWEL SIGN ", "AA;I;II;U;UU;VOCALIC R;VOCALIC RR"⟩,
  ⟨0xB47, "ORIYA VOWEL SIGN ", "E;AI"⟩,
  ⟨0xB4B, "ORIYA ", "VOWEL SIGN O;VOWEL SIGN AU;SIGN VIRAMA"⟩,
  ⟨0xB55, "ORIYA ", "SIGN OVERLINE;AI LENGTH MARK;AU LENGTH MARK"⟩,
  ⟨0xB5C, "ORIYA LETTER ", "RRA;RHA"⟩,
  ⟨0xB5F, "ORIYA LETTER ", "YYA;VOCALIC RR;VOCALIC LL"⟩,
  ⟨0xB62, "ORIYA VOWEL SIGN VOCALIC ", "L;LL"⟩,
  ⟨0xB66, "ORIYA DIGIT ", "ZERO;ONE;TWO;THREE;FOUR;FIVE;SIX;SEVEN;EIGHT;NINE"⟩,
  ⟨0xB70, "ORIYA ", "ISSHAR;LETTER WA"⟩,
  ⟨0xB72, "ORIYA FRACTION ", "ONE QUARTER;ONE HALF;THREE QUARTERS;ONE SIXTEENTH;ONE EIGHTH;THREE SIXTEENTHS"⟩,
  ⟨0xB82, "TAMIL SIGN ", "ANUSVARA;VISARGA"⟩,
  ⟨0xB85, "TAMIL LETTER ", "A;AA;I;II;U;UU"⟩,
  ⟨0xB8E, "TAMIL LETTER ", "E;EE;AI"⟩,
  ⟨0xB92, "TAMIL LETTER ", "O;OO;AU;KA"⟩,
  ⟨0xB99, "TAMIL LETTER ", "NGA;CA"⟩,
  ⟨0xB9C, "", "TAMIL LETTER JA"⟩,
  ⟨0xB9E, "TAMIL LETTER ", "NYA;TTA"⟩,
  ⟨0xBA3, "TAMIL LETTER ", "NNA;TA"⟩,
  ⟨0xBA8, "TAMIL LETTER ", "NA;NNNA;PA"⟩,
  ⟨0xBAE, "TAMIL LETTER ", "MA;YA;RA;RRA;LA;LLA;LLLA;VA;SHA;SSA;SA;HA"⟩,
  ⟨0xBBE, "TAMIL VOWEL SIGN ", "AA;I;II;U;UU"⟩,
  ⟨0xBC6, "TAMIL VOWEL SIGN ", "E;EE;AI"⟩,
  ⟨0xBCA, "TAMIL ", "VOWEL SIGN O;VOWEL SIGN OO;VOWEL SIGN AU;SIGN VIRAMA"⟩,
  ⟨0xBD0, "", "TAMIL OM"⟩,
  ⟨0xBD7, "", "TAMIL AU LENGTH MARK"⟩,
  ⟨0xBE6, "TAMIL DIGIT ", "ZERO;ONE;TWO;THREE;FOUR;FIVE;SIX;SEVEN;EIGHT;NINE"⟩,
  ⟨0xBF0, "TAMIL NUMBER ", "TEN;ONE HUNDRED;ONE THOUSAND"⟩,
  ⟨0xBF3, "TAMIL ", "DAY SIGN;MONTH SIGN;YEAR SIGN;DEBIT SIGN;CREDIT SIGN;AS ABOVE SIGN;RUPEE SIGN;NUMBER SIGN"⟩,
  ⟨0xC00, "TELUGU SIGN ", "COMBINING CANDRABINDU ABOVE;CANDRABINDU;ANUSVARA;VISARGA;COMBINING ANUSVARA ABOVE"⟩,
  ⟨0xC05, "TELUGU LETTER ", "A;AA;I;II;U;UU;VOCALIC R;VOCALIC L"⟩,
  ⟨0xC0E, "TELUGU LETTER ", "E;EE;AI"⟩,
  ⟨0xC12, "TELUGU LETTER ", "O;OO;AU;KA;KHA;GA;GHA;NGA;CA;CHA;JA;JHA;NYA;TTA;TTHA;DDA;DDHA;NNA;TA;THA;DA;DHA;NA"⟩,
  ⟨0xC2A, "TELUGU LETTER ", "PA;PHA;BA;BHA;MA;YA;RA;RRA;LA;LLA;LLLA;VA;SHA;SSA;SA;HA"⟩,
  ⟨0xC3C, "TELUGU SIGN ", "NUKTA;AVAGRAHA"⟩,
  ⟨0xC3E, "TELUGU VOWEL SIGN ", "AA;I;II;U;UU;VOCALIC R;VOCALIC RR"⟩,
  ⟨0xC46, "TELUGU VOWEL SIGN ", "E;EE;AI"⟩,
  ⟨0xC4A, "TELUGU ", "VOWEL SIGN O;VOWEL SIGN OO;VOWEL SIGN AU;SIGN VIRAMA"⟩,
  ⟨0xC55, "TELUGU ", "LENGTH MARK;AI LENGTH MARK"⟩,
  ⟨0xC58, "TELUGU LETTER ", "TSA;DZA;RRRA"⟩,
  ⟨0xC5D, "", "TELUGU LETTER NAKAARA POLLU"⟩,
  ⟨0xC60, "TELUGU LETTER VOCALIC ", "RR;LL"⟩,
  ⟨0xC62, "TELUGU VOWEL SIGN VOCALIC ", "L;LL"⟩,
  ⟨0xC66, "TELUGU DIGIT ", "ZERO;ONE;TWO;THREE;FOUR;FIVE;SIX;SEVEN;EIGHT;NINE"⟩,
  ⟨0xC77, "", "TELUGU SIGN SIDDHAM"⟩,
  ⟨0xC78, "TELUGU FRACTION DIGIT ", "ZERO FOR ODD POWERS OF FOUR;ONE FOR ODD POWERS OF FOUR"⟩,
  ⟨0xC7A, "TELUGU FRACTION DIGIT ", "TWO FOR ODD POWERS OF FOUR;THREE FOR ODD POWERS OF FOUR"⟩,
  ⟨0xC7C, "TELUGU FRACTION DIGIT ", "ONE FOR EVEN POWERS OF FOUR;TWO FOR EVEN POWERS OF FOUR"⟩,
  ⟨0xC7E, "TELUGU ", "FRACTION DIGIT THREE FOR EVEN POWERS OF FOUR;SIGN TUUMU"⟩,
  ⟨0xC80, "KANNADA SIGN ", "SPACING CANDRABINDU;CANDRABINDU;ANUSVARA;VISARGA;SIDDHAM"⟩,
  ⟨0xC85, "KANNADA LETTER ", "A;AA;I;II;U;UU;VOCALIC R;VOCALIC L"⟩,
  ⟨0xC8E, "KANNADA LETTER ", "E;EE;AI"⟩,
  ⟨0xC92, "KANNADA LETTER ", "O;OO;AU;KA;KHA;GA;GHA;NGA;CA;CHA;JA;JHA;NYA;TTA;TTHA;DDA;DDHA;NNA;TA;THA;DA;DHA;NA"⟩,
  ⟨0xCAA, "KANNADA LETTER ", "PA;PHA;BA;BHA;MA;YA;RA;RRA;LA;LLA"⟩,
  ⟨0xCB5, "KANNADA LETTER ", "VA;SHA;SSA;SA;HA"⟩,
  ⟨0xCBC, "KANNADA SIGN ", "NUKTA;AVAGRAHA"⟩,
  ⟨0xCBE, "KANNADA VOWEL SIGN ", "AA;I;II;U;UU;VOCALIC R;VOCALIC RR"⟩,
  ⟨0xCC6, "KANNADA VOWEL SIGN ", "E;EE;AI"⟩,
  ⟨0xCCA, "KANNADA ", "VOWEL SIGN O;VOWEL SIGN OO;VOWEL SIGN AU;SIGN VIRAMA"⟩,
  ⟨0xCD5, "KANNADA ", "LENGTH MARK;AI LENGTH MARK"⟩,
  ⟨0xCDD, "KANNADA LETTER ", "NAKAARA POLLU;FA"⟩,
  ⟨0xCE0, "KANNADA LETTER VOCALIC ", "RR;LL"⟩,
  ⟨0xCE2, "KANNADA VOWEL SIGN VOCALIC ", "L;LL"⟩,
  ⟨0xCE6, "KANNADA DIGIT ", "ZERO;ONE;TWO;THREE;FOUR;FIVE;SIX;SEVEN;EIGHT;NINE"⟩,
  ⟨0xCF1, "KANNADA SIGN ", "JIHVAMULIYA;UPADHMANIYA"⟩]

end HtmlTemplate.CharName
