import HtmlTemplate.Writing.CharName.Basic

/-!
# Names of characters from U+1D000 on

Notes, alphabets of mathematics, tiles and cards, pictures, and marks that select a variant.
-/

namespace HtmlTemplate.CharName

/-- The names of these characters. -/
def picturesNames : List NameRun := [
  ⟨0x1D000, "BYZANTINE MUSICAL SYMBOL ", "PSILI;DASEIA;PERISPOMENI;OXEIA EKFONITIKON"⟩,
  ⟨0x1D004, "BYZANTINE MUSICAL SYMBOL ", "OXEIA DIPLI;VAREIA EKFONITIKON;VAREIA DIPLI;KATHISTI;SYRMATIKI;PARAKLITIKI"⟩,
  ⟨0x1D00A, "BYZANTINE MUSICAL SYMBOL ", "YPOKRISIS;YPOKRISIS DIPLI;KREMASTI;APESO EKFONITIKON;EXO EKFONITIKON"⟩,
  ⟨0x1D00F, "BYZANTINE MUSICAL SYMBOL ", "TELEIA;KENTIMATA;APOSTROFOS;APOSTROFOS DIPLI;SYNEVMA;THITA;OLIGON ARCHAION"⟩,
  ⟨0x1D016, "BYZANTINE MUSICAL SYMBOL ", "GORGON ARCHAION;PSILON;CHAMILON;VATHY;ISON ARCHAION;KENTIMA ARCHAION"⟩,
  ⟨0x1D01C, "BYZANTINE MUSICAL SYMBOL ", "KENTIMATA ARCHAION;SAXIMATA;PARICHON;STAVROS APODEXIA;OXEIAI ARCHAION"⟩,
  ⟨0x1D021, "BYZANTINE MUSICAL SYMBOL ", "VAREIAI ARCHAION;APODERMA ARCHAION;APOTHEMA;KLASMA;REVMA;PIASMA ARCHAION"⟩,
  ⟨0x1D027, "BYZANTINE MUSICAL SYMBOL ", "TINAGMA;ANATRICHISMA;SEISMA;SYNAGMA ARCHAION;SYNAGMA META STAVROU"⟩,
  ⟨0x1D02C, "BYZANTINE MUSICAL SYMBOL ", "OYRANISMA ARCHAION;THEMA;LEMOI;DYO;TRIA;TESSERA;KRATIMATA"⟩,
  ⟨0x1D033, "BYZANTINE MUSICAL SYMBOL ", "APESO EXO NEO;FTHORA ARCHAION;IMIFTHORA;TROMIKON ARCHAION;KATAVA TROMIKON"⟩,
  ⟨0x1D038, "BYZANTINE MUSICAL SYMBOL ", "PELASTON;PSIFISTON;KONTEVMA;CHOREVMA ARCHAION;RAPISMA;PARAKALESMA ARCHAION"⟩,
  ⟨0x1D03E, "BYZANTINE MUSICAL SYMBOL ", "PARAKLITIKI ARCHAION;ICHADIN;NANA;PETASMA;KONTEVMA ALLO;TROMIKON ALLO"⟩,
  ⟨0x1D044, "BYZANTINE MUSICAL SYMBOL ", "STRAGGISMATA;GRONTHISMATA;ISON NEO;OLIGON NEO;OXEIA NEO;PETASTI"⟩,
  ⟨0x1D04A, "BYZANTINE MUSICAL SYMBOL ", "KOUFISMA;PETASTOKOUFISMA;KRATIMOKOUFISMA;PELASTON NEO;KENTIMATA NEO ANO"⟩,
  ⟨0x1D04F, "BYZANTINE MUSICAL SYMBOL ", "KENTIMA NEO ANO;YPSILI;APOSTROFOS NEO;APOSTROFOI SYNDESMOS NEO"⟩,
  ⟨0x1D053, "BYZANTINE MUSICAL SYMBOL ", "YPORROI;KRATIMOYPORROON;ELAFRON;CHAMILI;MIKRON ISON;VAREIA NEO"⟩,
  ⟨0x1D059, "BYZANTINE MUSICAL SYMBOL ", "PIASMA NEO;PSIFISTON NEO;OMALON;ANTIKENOMA;LYGISMA;PARAKLITIKI NEO"⟩,
  ⟨0x1D05F, "BYZANTINE MUSICAL SYMBOL ", "PARAKALESMA NEO;ETERON PARAKALESMA;KYLISMA;ANTIKENOKYLISMA;TROMIKON NEO"⟩,
  ⟨0x1D064, "BYZANTINE MUSICAL SYMBOL ", "EKSTREPTON;SYNAGMA NEO;SYRMA;CHOREVMA NEO;EPEGERMA;SEISMA NEO;XIRON KLASMA"⟩,
  ⟨0x1D06B, "BYZANTINE MUSICAL SYMBOL ", "TROMIKOPSIFISTON;PSIFISTOLYGISMA;TROMIKOLYGISMA;TROMIKOPARAKALESMA"⟩,
  ⟨0x1D06F, "BYZANTINE MUSICAL SYMBOL ", "PSIFISTOPARAKALESMA;TROMIKOSYNAGMA;PSIFISTOSYNAGMA;GORGOSYNTHETON"⟩,
  ⟨0x1D073, "BYZANTINE MUSICAL SYMBOL ", "ARGOSYNTHETON;ETERON ARGOSYNTHETON;OYRANISMA NEO;THEMATISMOS ESO"⟩,
  ⟨0x1D077, "BYZANTINE MUSICAL SYMBOL ", "THEMATISMOS EXO;THEMA APLOUN;THES KAI APOTHES;KATAVASMA;ENDOFONON"⟩,
  ⟨0x1D07C, "BYZANTINE MUSICAL SYMBOL ", "YFEN KATO;YFEN ANO;STAVROS;KLASMA ANO;DIPLI ARCHAION;KRATIMA ARCHAION"⟩,
  ⟨0x1D082, "BYZANTINE MUSICAL SYMBOL ", "KRATIMA ALLO;KRATIMA NEO;APODERMA NEO;APLI;DIPLI;TRIPLI;TETRAPLI;KORONIS"⟩,
  ⟨0x1D08A, "BYZANTINE MUSICAL SYMBOL LEIMMA ", "ENOS CHRONOU;DYO CHRONON;TRION CHRONON;TESSARON CHRONON"⟩,
  ⟨0x1D08E, "BYZANTINE MUSICAL SYMBOL ", "LEIMMA IMISEOS CHRONOU;GORGON NEO ANO"⟩,
  ⟨0x1D090, "BYZANTINE MUSICAL SYMBOL ", "GORGON PARESTIGMENON ARISTERA;GORGON PARESTIGMENON DEXIA;DIGORGON"⟩,
  ⟨0x1D093, "BYZANTINE MUSICAL SYMBOL DIGORGON PARESTIGMENON ", "ARISTERA KATO;ARISTERA ANO;DEXIA"⟩,
  ⟨0x1D096, "BYZANTINE MUSICAL SYMBOL ", "TRIGORGON;ARGON;IMIDIARGON;DIARGON"⟩,
  ⟨0x1D09A, "BYZANTINE MUSICAL SYMBOL AGOGI ", "POLI ARGI;ARGOTERI;ARGI;METRIA;MESI;GORGI;GORGOTERI;POLI GORGI"⟩,
  ⟨0x1D0A2, "BYZANTINE MUSICAL SYMBOL MARTYRIA ", "PROTOS ICHOS;ALLI PROTOS ICHOS"⟩,
  ⟨0x1D0A4, "BYZANTINE MUSICAL SYMBOL MARTYRIA ", "DEYTEROS ICHOS;ALLI DEYTEROS ICHOS;TRITOS ICHOS;TRIFONIAS"⟩,
  ⟨0x1D0A8, "BYZANTINE MUSICAL SYMBOL MARTYRIA ", "TETARTOS ICHOS;TETARTOS LEGETOS ICHOS;LEGETOS ICHOS;PLAGIOS ICHOS"⟩,
  ⟨0x1D0AC, "BYZANTINE MUSICAL SYMBOL ", "ISAKIA TELOUS ICHIMATOS;APOSTROFOI TELOUS ICHIMATOS"⟩,
  ⟨0x1D0AE, "BYZANTINE MUSICAL SYMBOL FANEROSIS ", "TETRAFONIAS;MONOFONIAS;DIFONIAS"⟩,
  ⟨0x1D0B1, "BYZANTINE MUSICAL SYMBOL MARTYRIA ", "VARYS ICHOS;PROTOVARYS ICHOS;PLAGIOS TETARTOS ICHOS"⟩,
  ⟨0x1D0B4, "BYZANTINE MUSICAL SYMBOL ", "GORTHMIKON N APLOUN;GORTHMIKON N DIPLOUN;ENARXIS KAI FTHORA VOU"⟩,
  ⟨0x1D0B7, "BYZANTINE MUSICAL SYMBOL ", "IMIFONON;IMIFTHORON;FTHORA ARCHAION DEYTEROU ICHOU;FTHORA DIATONIKI PA"⟩,
  ⟨0x1D0BB, "BYZANTINE MUSICAL SYMBOL FTHORA ", "DIATONIKI NANA;NAOS ICHOS;DIATONIKI DI;SKLIRON DIATONON DI"⟩,
  ⟨0x1D0BF, "BYZANTINE MUSICAL SYMBOL FTHORA DIATONIKI ", "KE;ZO;NI KATO;NI ANO"⟩,
  ⟨0x1D0C3, "BYZANTINE MUSICAL SYMBOL FTHORA MALAKON CHROMA ", "DIFONIAS;MONOFONIAS"⟩,
  ⟨0x1D0C5, "BYZANTINE MUSICAL SYMBOL ", "FHTORA SKLIRON CHROMA VASIS;FTHORA SKLIRON CHROMA SYNAFI;FTHORA NENANO"⟩,
  ⟨0x1D0C8, "BYZANTINE MUSICAL SYMBOL ", "CHROA ZYGOS;CHROA KLITON;CHROA SPATHI;FTHORA I YFESIS TETARTIMORION"⟩,
  ⟨0x1D0CC, "BYZANTINE MUSICAL SYMBOL ", "FTHORA ENARMONIOS ANTIFONIA;YFESIS TRITIMORION;DIESIS TRITIMORION"⟩,
  ⟨0x1D0CF, "BYZANTINE MUSICAL SYMBOL DIESIS ", "TETARTIMORION;APLI DYO DODEKATA;MONOGRAMMOS TESSERA DODEKATA"⟩,
  ⟨0x1D0D2, "BYZANTINE MUSICAL SYMBOL DIESIS ", "DIGRAMMOS EX DODEKATA;TRIGRAMMOS OKTO DODEKATA"⟩,
  ⟨0x1D0D4, "BYZANTINE MUSICAL SYMBOL YFESIS ", "APLI DYO DODEKATA;MONOGRAMMOS TESSERA DODEKATA"⟩,
  ⟨0x1D0D6, "BYZANTINE MUSICAL SYMBOL YFESIS ", "DIGRAMMOS EX DODEKATA;TRIGRAMMOS OKTO DODEKATA"⟩,
  ⟨0x1D0D8, "BYZANTINE MUSICAL SYMBOL GENIKI ", "DIESIS;YFESIS"⟩,
  ⟨0x1D0DA, "BYZANTINE MUSICAL SYMBOL DIASTOLI ", "APLI MIKRI;APLI MEGALI;DIPLI;THESEOS"⟩,
  ⟨0x1D0DE, "BYZANTINE MUSICAL SYMBOL SIMANSIS ", "THESEOS;THESEOS DISIMOU;THESEOS TRISIMOU;THESEOS TETRASIMOU"⟩,
  ⟨0x1D0E2, "BYZANTINE MUSICAL SYMBOL SIMANSIS ", "ARSEOS;ARSEOS DISIMOU;ARSEOS TRISIMOU;ARSEOS TETRASIMOU"⟩,
  ⟨0x1D0E6, "BYZANTINE MUSICAL SYMBOL ", "DIGRAMMA GG;DIFTOGGOS OU;STIGMA"⟩,
  ⟨0x1D0E9, "BYZANTINE MUSICAL SYMBOL ARKTIKO ", "PA;VOU;GA;DI;KE;ZO;NI"⟩,
  ⟨0x1D0F0, "BYZANTINE MUSICAL SYMBOL ", "KENTIMATA NEO MESO;KENTIMA NEO MESO"⟩,
  ⟨0x1D0F2, "BYZANTINE MUSICAL SYMBOL ", "KENTIMATA NEO KATO;KENTIMA NEO KATO;KLASMA KATO;GORGON NEO KATO"⟩,
  ⟨0x1D100, "MUSICAL SYMBOL ", "SINGLE BARLINE;DOUBLE BARLINE;FINAL BARLINE;REVERSE FINAL BARLINE;DASHED BARLINE"⟩,
  ⟨0x1D105, "MUSICAL SYMBOL ", "SHORT BARLINE;LEFT REPEAT SIGN;RIGHT REPEAT SIGN;REPEAT DOTS;DAL SEGNO"⟩,
  ⟨0x1D10A, "MUSICAL SYMBOL ", "DA CAPO;SEGNO;CODA;REPEATED FIGURE-1;REPEATED FIGURE-2;REPEATED FIGURE-3;FERMATA"⟩,
  ⟨0x1D111, "MUSICAL SYMBOL ", "FERMATA BELOW;BREATH MARK;CAESURA;BRACE;BRACKET;ONE-LINE STAFF;TWO-LINE STAFF"⟩,
  ⟨0x1D118, "MUSICAL SYMBOL ", "THREE-LINE STAFF;FOUR-LINE STAFF;FIVE-LINE STAFF;SIX-LINE STAFF;SIX-STRING FRETBOARD"⟩,
  ⟨0x1D11D, "MUSICAL SYMBOL ", "FOUR-STRING FRETBOARD;G CLEF;G CLEF OTTAVA ALTA;G CLEF OTTAVA BASSA"⟩,
  ⟨0x1D121, "MUSICAL SYMBOL ", "C CLEF;F CLEF;F CLEF OTTAVA ALTA;F CLEF OTTAVA BASSA;DRUM CLEF-1;DRUM CLEF-2"⟩,
  ⟨0x1D129, "MUSICAL SYMBOL ", "MULTIPLE MEASURE REST;DOUBLE SHARP;DOUBLE FLAT;FLAT UP;FLAT DOWN"⟩,
  ⟨0x1D12E, "MUSICAL SYMBOL ", "NATURAL UP;NATURAL DOWN;SHARP UP;SHARP DOWN;QUARTER TONE SHARP;QUARTER TONE FLAT"⟩,
  ⟨0x1D134, "MUSICAL SYMBOL ", "COMMON TIME;CUT TIME;OTTAVA ALTA;OTTAVA BASSA;QUINDICESIMA ALTA;QUINDICESIMA BASSA"⟩,
  ⟨0x1D13A, "MUSICAL SYMBOL ", "MULTI REST;WHOLE REST;HALF REST;QUARTER REST;EIGHTH REST;SIXTEENTH REST"⟩,
  ⟨0x1D140, "MUSICAL SYMBOL ", "THIRTY-SECOND REST;SIXTY-FOURTH REST;ONE HUNDRED TWENTY-EIGHTH REST;X NOTEHEAD"⟩,
  ⟨0x1D144, "MUSICAL SYMBOL ", "PLUS NOTEHEAD;CIRCLE X NOTEHEAD;SQUARE NOTEHEAD WHITE;SQUARE NOTEHEAD BLACK"⟩,
  ⟨0x1D148, "MUSICAL SYMBOL TRIANGLE NOTEHEAD ", "UP WHITE;UP BLACK;LEFT WHITE;LEFT BLACK;RIGHT WHITE"⟩,
  ⟨0x1D14D, "MUSICAL SYMBOL TRIANGLE NOTEHEAD ", "RIGHT BLACK;DOWN WHITE;DOWN BLACK;UP RIGHT WHITE;UP RIGHT BLACK"⟩,
  ⟨0x1D152, "MUSICAL SYMBOL MOON NOTEHEAD ", "WHITE;BLACK"⟩,
  ⟨0x1D154, "MUSICAL SYMBOL TRIANGLE-ROUND NOTEHEAD DOWN ", "WHITE;BLACK"⟩,
  ⟨0x1D156, "MUSICAL SYMBOL ", "PARENTHESIS NOTEHEAD;VOID NOTEHEAD;NOTEHEAD BLACK;NULL NOTEHEAD"⟩,
  ⟨0x1D15A, "MUSICAL SYMBOL CLUSTER NOTEHEAD ", "WHITE;BLACK"⟩,
  ⟨0x1D15C, "MUSICAL SYMBOL ", "BREVE;WHOLE NOTE;HALF NOTE;QUARTER NOTE;EIGHTH NOTE"⟩,
  ⟨0x1D161, "MUSICAL SYMBOL ", "SIXTEENTH NOTE;THIRTY-SECOND NOTE;SIXTY-FOURTH NOTE;ONE HUNDRED TWENTY-EIGHTH NOTE"⟩,
  ⟨0x1D165, "MUSICAL SYMBOL COMBINING ", "STEM;SPRECHGESANG STEM;TREMOLO-1;TREMOLO-2;TREMOLO-3"⟩,
  ⟨0x1D16A, "MUSICAL SYMBOL FINGERED TREMOLO-", "1;2;3"⟩,
  ⟨0x1D16D, "MUSICAL SYMBOL COMBINING ", "AUGMENTATION DOT;FLAG-1;FLAG-2;FLAG-3;FLAG-4;FLAG-5"⟩,
  ⟨0x1D173, "MUSICAL SYMBOL ", "BEGIN BEAM;END BEAM;BEGIN TIE;END TIE;BEGIN SLUR;END SLUR;BEGIN PHRASE;END PHRASE"⟩,
  ⟨0x1D17B, "MUSICAL SYMBOL COMBINING ", "ACCENT;STACCATO;TENUTO;STACCATISSIMO;MARCATO;MARCATO-STACCATO"⟩,
  ⟨0x1D181, "MUSICAL SYMBOL ", "COMBINING ACCENT-STACCATO;COMBINING LOURE;ARPEGGIATO UP;ARPEGGIATO DOWN"⟩,
  ⟨0x1D185, "MUSICAL SYMBOL COMBINING ", "DOIT;RIP;FLIP;SMEAR;BEND;DOUBLE TONGUE;TRIPLE TONGUE"⟩,
  ⟨0x1D18C, "MUSICAL SYMBOL ", "RINFORZANDO;SUBITO;Z;PIANO;MEZZO;FORTE;CRESCENDO;DECRESCENDO"⟩,
  ⟨0x1D194, "MUSICAL SYMBOL ", "GRACE NOTE SLASH;GRACE NOTE NO SLASH;TR;TURN;INVERTED TURN;TURN SLASH;TURN UP"⟩,
  ⟨0x1D19B, "MUSICAL SYMBOL ORNAMENT STROKE-", "1;2;3;4;5;6;7;8;9;10;11"⟩,
  ⟨0x1D1A6, "MUSICAL SYMBOL ", "HAUPTSTIMME;NEBENSTIMME;END OF STIMME;DEGREE SLASH"⟩,
  ⟨0x1D1AA, "MUSICAL SYMBOL COMBINING ", "DOWN BOW;UP BOW;HARMONIC;SNAP PIZZICATO"⟩,
  ⟨0x1D1AE, "MUSICAL SYMBOL ", "PEDAL MARK;PEDAL UP MARK;HALF PEDAL MARK;GLISSANDO UP;GLISSANDO DOWN"⟩,
  ⟨0x1D1B3, "MUSICAL SYMBOL ", "WITH FINGERNAILS;DAMP;DAMP ALL;MAXIMA;LONGA;BREVIS;SEMIBREVIS WHITE;SEMIBREVIS BLACK"⟩,
  ⟨0x1D1BB, "MUSICAL SYMBOL ", "MINIMA;MINIMA BLACK;SEMIMINIMA WHITE;SEMIMINIMA BLACK;FUSA WHITE;FUSA BLACK"⟩,
  ⟨0x1D1C1, "MUSICAL SYMBOL LONGA ", "PERFECTA REST;IMPERFECTA REST"⟩,
  ⟨0x1D1C3, "MUSICAL SYMBOL ", "BREVIS REST;SEMIBREVIS REST;MINIMA REST;SEMIMINIMA REST"⟩,
  ⟨0x1D1C7, "MUSICAL SYMBOL TEMPUS PERFECTUM CUM PROLATIONE ", "PERFECTA;IMPERFECTA;PERFECTA DIMINUTION-1"⟩,
  ⟨0x1D1CA, "MUSICAL SYMBOL TEMPUS IMPERFECTUM CUM PROLATIONE ", "PERFECTA;IMPERFECTA"⟩,
  ⟨0x1D1CC, "MUSICAL SYMBOL TEMPUS IMPERFECTUM CUM PROLATIONE IMPERFECTA DIMINUTION-", "1;2;3"⟩,
  ⟨0x1D1CF, "MUSICAL SYMBOL ", "CROIX;GREGORIAN C CLEF"⟩,
  ⟨0x1D1D1, "MUSICAL SYMBOL ", "GREGORIAN F CLEF;SQUARE B;VIRGA;PODATUS;CLIVIS;SCANDICUS;CLIMACUS;TORCULUS"⟩,
  ⟨0x1D1D9, "MUSICAL SYMBOL ", "PORRECTUS;PORRECTUS FLEXUS;SCANDICUS FLEXUS;TORCULUS RESUPINUS;PES SUBPUNCTIS"⟩,
  ⟨0x1D1DE, "MUSICAL SYMBOL KIEVAN ", "C CLEF;END OF PIECE;FINAL NOTE;RECITATIVE MARK;WHOLE NOTE;HALF NOTE"⟩,
  ⟨0x1D1E4, "MUSICAL SYMBOL KIEVAN QUARTER NOTE STEM ", "DOWN;UP"⟩,
  ⟨0x1D1E6, "MUSICAL SYMBOL ", "KIEVAN EIGHTH NOTE STEM DOWN;KIEVAN EIGHTH NOTE STEM UP;KIEVAN FLAT SIGN;SORI;KORON"⟩,
  ⟨0x1D200, "GREEK VOCAL NOTATION SYMBOL-", "1;2;3"⟩,
  ⟨0x1D203, "GREEK VOCAL NOTATION SYMBOL-", "4;5;6;7;8;9;10;11;12;13;14;15;16;17;18;19;20;21;22;23;24;50;51;52;53;54"⟩,
  ⟨0x1D21D, "GREEK INSTRUMENTAL NOTATION SYMBOL-", "1;2;4;5;7;8;11;12;13;14;17;18;19;23;24;25"⟩,
  ⟨0x1D22D, "GREEK INSTRUMENTAL NOTATION SYMBOL-", "26;27;29;30;32;36;37;38;39;40;42;43;45;47;48;49;50;51;52;53;54"⟩,
  ⟨0x1D242, "COMBINING GREEK MUSICAL ", "TRISEME;TETRASEME;PENTASEME"⟩,
  ⟨0x1D245, "", "GREEK MUSICAL LEIMMA"⟩,
  ⟨0x1D2E0, "MAYAN NUMERAL ", "ZERO;ONE;TWO;THREE;FOUR;FIVE;SIX;SEVEN;EIGHT"⟩,
  ⟨0x1D2E9, "MAYAN NUMERAL ", "NINE;TEN;ELEVEN;TWELVE;THIRTEEN;FOURTEEN;FIFTEEN;SIXTEEN;SEVENTEEN;EIGHTEEN;NINETEEN"⟩,
  ⟨0x1D300, "", "MONOGRAM FOR EARTH"⟩,
  ⟨0x1D301, "DIGRAM FOR ", "HEAVENLY EARTH;HUMAN EARTH;EARTHLY HEAVEN;EARTHLY HUMAN;EARTH"⟩,
  ⟨0x1D306, "TETRAGRAM FOR ", "CENTRE;FULL CIRCLE;MIRED;BARRIER;KEEPING SMALL;CONTRARIETY;ASCENT"⟩,
  ⟨0x1D30D, "TETRAGRAM FOR ", "OPPOSITION;BRANCHING OUT;DEFECTIVENESS OR DISTORTION;DIVERGENCE;YOUTHFULNESS;INCREASE"⟩,
  ⟨0x1D313, "TETRAGRAM FOR ", "PENETRATION;REACH;CONTACT;HOLDING BACK;WAITING;FOLLOWING;ADVANCE;RELEASE;RESISTANCE"⟩,
  ⟨0x1D31C, "TETRAGRAM FOR ", "EASE;JOY;CONTENTION;ENDEAVOUR;DUTIES;CHANGE;DECISIVENESS;BOLD RESOLUTION;PACKING"⟩,
  ⟨0x1D325, "TETRAGRAM FOR ", "LEGION;CLOSENESS;KINSHIP;GATHERING;STRENGTH;PURITY;FULLNESS;RESIDENCE;LAW OR MODEL"⟩,
  ⟨0x1D32E, "TETRAGRAM FOR ", "RESPONSE;GOING TO MEET;ENCOUNTERS;STOVE;GREATNESS;ENLARGEMENT;PATTERN;RITUAL"⟩,
  ⟨0x1D336, "TETRAGRAM FOR ", "FLIGHT;VASTNESS OR WASTING;CONSTANCY;MEASURE;ETERNITY;UNITY;DIMINISHMENT;CLOSED MOUTH"⟩,
  ⟨0x1D33E, "TETRAGRAM FOR ", "GUARDEDNESS;GATHERING IN;MASSING;ACCUMULATION;EMBELLISHMENT;DOUBT;WATCH;SINKING"⟩,
  ⟨0x1D346, "TETRAGRAM FOR ", "INNER;DEPARTURE;DARKENING;DIMMING;EXHAUSTION;SEVERANCE;STOPPAGE;HARDNESS;COMPLETION"⟩,
  ⟨0x1D34F, "TETRAGRAM FOR ", "CLOSURE;FAILURE;AGGRAVATION;COMPLIANCE;ON THE VERGE;DIFFICULTIES;LABOURING;FOSTERING"⟩,
  ⟨0x1D360, "COUNTING ROD UNIT DIGIT ", "ONE;TWO;THREE;FOUR;FIVE;SIX;SEVEN;EIGHT;NINE"⟩,
  ⟨0x1D369, "COUNTING ROD TENS DIGIT ", "ONE;TWO;THREE;FOUR;FIVE;SIX;SEVEN;EIGHT;NINE"⟩,
  ⟨0x1D372, "IDEOGRAPHIC TALLY MARK ", "ONE;TWO;THREE;FOUR;FIVE"⟩,
  ⟨0x1D377, "TALLY MARK ", "ONE;FIVE"⟩,
  ⟨0x1D400, "MATHEMATICAL BOLD CAPITAL ", "A;B;C;D;E;F;G;H;I;J;K;L;M;N;O;P;Q;R;S;T;U;V;W;X;Y;Z"⟩,
  ⟨0x1D41A, "MATHEMATICAL BOLD SMALL ", "A;B;C;D;E;F;G;H;I;J;K;L;M;N;O;P;Q;R;S;T;U;V;W;X;Y;Z"⟩,
  ⟨0x1D434, "MATHEMATICAL ITALIC CAPITAL ", "A;B;C;D;E;F;G;H;I;J;K;L;M;N;O;P;Q;R;S;T;U;V;W;X;Y;Z"⟩,
  ⟨0x1D44E, "MATHEMATICAL ITALIC SMALL ", "A;B;C;D;E;F;G"⟩,
  ⟨0x1D456, "MATHEMATICAL ITALIC SMALL ", "I;J;K;L;M;N;O;P;Q;R;S;T;U;V;W;X;Y;Z"⟩,
  ⟨0x1D468, "MATHEMATICAL BOLD ITALIC CAPITAL ", "A;B;C;D;E;F;G;H;I;J;K;L;M;N;O;P;Q;R;S;T;U;V;W;X;Y;Z"⟩,
  ⟨0x1D482, "MATHEMATICAL BOLD ITALIC SMALL ", "A;B;C;D;E;F;G;H;I;J;K;L;M;N;O;P;Q;R;S;T;U;V;W;X;Y;Z"⟩,
  ⟨0x1D49C, "", "MATHEMATICAL SCRIPT CAPITAL A"⟩,
  ⟨0x1D49E, "MATHEMATICAL SCRIPT CAPITAL ", "C;D"⟩,
  ⟨0x1D4A2, "", "MATHEMATICAL SCRIPT CAPITAL G"⟩,
  ⟨0x1D4A5, "MATHEMATICAL SCRIPT CAPITAL ", "J;K"⟩,
  ⟨0x1D4A9, "MATHEMATICAL SCRIPT CAPITAL ", "N;O;P;Q"⟩,
  ⟨0x1D4AE, "MATHEMATICAL SCRIPT CAPITAL ", "S;T;U;V;W;X;Y;Z"⟩,
  ⟨0x1D4B6, "MATHEMATICAL SCRIPT SMALL ", "A;B;C;D"⟩,
  ⟨0x1D4BB, "", "MATHEMATICAL SCRIPT SMALL F"⟩,
  ⟨0x1D4BD, "MATHEMATICAL SCRIPT SMALL ", "H;I;J;K;L;M;N"⟩,
  ⟨0x1D4C5, "MATHEMATICAL SCRIPT SMALL ", "P;Q;R;S;T;U;V;W;X;Y;Z"⟩,
  ⟨0x1D4D0, "MATHEMATICAL BOLD SCRIPT CAPITAL ", "A;B;C;D;E;F;G;H;I;J;K;L;M;N;O;P;Q;R;S;T;U;V;W;X;Y;Z"⟩,
  ⟨0x1D4EA, "MATHEMATICAL BOLD SCRIPT SMALL ", "A;B;C;D;E;F;G;H;I;J;K;L;M;N;O;P;Q;R;S;T;U;V;W;X;Y;Z"⟩,
  ⟨0x1D504, "MATHEMATICAL FRAKTUR CAPITAL ", "A;B"⟩,
  ⟨0x1D507, "MATHEMATICAL FRAKTUR CAPITAL ", "D;E;F;G"⟩,
  ⟨0x1D50D, "MATHEMATICAL FRAKTUR CAPITAL ", "J;K;L;M;N;O;P;Q"⟩,
  ⟨0x1D516, "MATHEMATICAL FRAKTUR CAPITAL ", "S;T;U;V;W;X;Y"⟩,
  ⟨0x1D51E, "MATHEMATICAL FRAKTUR SMALL ", "A;B;C;D;E;F;G;H;I;J;K;L;M;N;O;P;Q;R;S;T;U;V;W;X;Y;Z"⟩,
  ⟨0x1D538, "MATHEMATICAL DOUBLE-STRUCK CAPITAL ", "A;B"⟩,
  ⟨0x1D53B, "MATHEMATICAL DOUBLE-STRUCK CAPITAL ", "D;E;F;G"⟩,
  ⟨0x1D540, "MATHEMATICAL DOUBLE-STRUCK CAPITAL ", "I;J;K;L;M"⟩,
  ⟨0x1D546, "", "MATHEMATICAL DOUBLE-STRUCK CAPITAL O"⟩,
  ⟨0x1D54A, "MATHEMATICAL DOUBLE-STRUCK CAPITAL ", "S;T;U;V;W;X;Y"⟩,
  ⟨0x1D552, "MATHEMATICAL DOUBLE-STRUCK SMALL ", "A;B;C;D;E;F;G;H;I;J;K;L;M;N;O;P;Q;R;S;T;U;V;W;X;Y;Z"⟩,
  ⟨0x1D56C, "MATHEMATICAL BOLD FRAKTUR CAPITAL ", "A;B;C;D;E;F;G;H;I;J;K;L;M;N;O;P;Q;R;S;T;U;V;W;X;Y;Z"⟩,
  ⟨0x1D586, "MATHEMATICAL BOLD FRAKTUR SMALL ", "A;B;C;D;E;F;G;H;I;J;K;L;M;N;O;P;Q;R;S;T;U;V;W;X;Y;Z"⟩,
  ⟨0x1D5A0, "MATHEMATICAL SANS-SERIF CAPITAL ", "A;B;C;D;E;F;G;H;I;J;K;L;M;N;O;P;Q;R;S;T;U;V;W;X;Y;Z"⟩,
  ⟨0x1D5BA, "MATHEMATICAL SANS-SERIF SMALL ", "A;B;C;D;E;F;G;H;I;J;K;L;M;N;O;P;Q;R;S;T;U;V;W;X;Y;Z"⟩,
  ⟨0x1D5D4, "MATHEMATICAL SANS-SERIF BOLD CAPITAL ", "A;B;C;D;E;F;G;H;I;J;K;L;M;N;O;P;Q;R;S;T;U;V;W;X;Y;Z"⟩,
  ⟨0x1D5EE, "MATHEMATICAL SANS-SERIF BOLD SMALL ", "A;B;C;D;E;F;G;H;I;J;K;L;M;N;O;P;Q;R;S;T;U;V;W;X;Y;Z"⟩,
  ⟨0x1D608, "MATHEMATICAL SANS-SERIF ITALIC CAPITAL ", "A;B;C;D;E;F;G;H;I;J;K;L;M;N;O;P;Q;R;S;T;U;V;W;X;Y;Z"⟩,
  ⟨0x1D622, "MATHEMATICAL SANS-SERIF ITALIC SMALL ", "A;B;C;D;E;F;G;H;I;J;K;L;M;N;O;P;Q;R;S;T;U;V;W;X;Y;Z"⟩,
  ⟨0x1D63C, "MATHEMATICAL SANS-SERIF BOLD ITALIC CAPITAL ", "A;B;C;D;E;F;G;H;I;J;K;L;M;N;O;P;Q;R;S;T;U;V;W;X;Y;Z"⟩,
  ⟨0x1D656, "MATHEMATICAL SANS-SERIF BOLD ITALIC SMALL ", "A;B;C;D;E;F;G;H;I;J;K;L;M;N;O;P;Q;R;S;T;U;V;W;X;Y;Z"⟩,
  ⟨0x1D670, "MATHEMATICAL MONOSPACE CAPITAL ", "A;B;C;D;E;F;G;H;I;J;K;L;M;N;O;P;Q;R;S;T;U;V;W;X;Y;Z"⟩,
  ⟨0x1D68A, "MATHEMATICAL MONOSPACE SMALL ", "A;B;C;D;E;F;G;H;I;J;K;L;M;N;O;P;Q;R;S;T;U;V;W;X;Y;Z"⟩,
  ⟨0x1D6A4, "MATHEMATICAL ITALIC SMALL DOTLESS ", "I;J"⟩,
  ⟨0x1D6A8, "MATHEMATICAL BOLD CAPITAL ", "ALPHA;BETA;GAMMA;DELTA;EPSILON;ZETA;ETA;THETA;IOTA;KAPPA;LAMDA"⟩,
  ⟨0x1D6B3, "MATHEMATICAL BOLD CAPITAL ", "MU;NU;XI;OMICRON;PI;RHO;THETA SYMBOL;SIGMA;TAU;UPSILON;PHI;CHI;PSI;OMEGA"⟩,
  ⟨0x1D6C1, "", "MATHEMATICAL BOLD NABLA"⟩,
  ⟨0x1D6C2, "MATHEMATICAL BOLD SMALL ", "ALPHA;BETA;GAMMA;DELTA;EPSILON;ZETA;ETA;THETA;IOTA;KAPPA;LAMDA"⟩,
  ⟨0x1D6CD, "MATHEMATICAL BOLD SMALL ", "MU;NU;XI;OMICRON;PI;RHO;FINAL SIGMA;SIGMA;TAU;UPSILON;PHI;CHI;PSI;OMEGA"⟩,
  ⟨0x1D6DB, "", "MATHEMATICAL BOLD PARTIAL DIFFERENTIAL"⟩,
  ⟨0x1D6DC, "MATHEMATICAL BOLD ", "EPSILON SYMBOL;THETA SYMBOL;KAPPA SYMBOL;PHI SYMBOL;RHO SYMBOL;PI SYMBOL"⟩,
  ⟨0x1D6E2, "MATHEMATICAL ITALIC CAPITAL ", "ALPHA;BETA;GAMMA;DELTA;EPSILON;ZETA;ETA;THETA;IOTA;KAPPA;LAMDA;MU"⟩,
  ⟨0x1D6EE, "MATHEMATICAL ITALIC CAPITAL ", "NU;XI;OMICRON;PI;RHO;THETA SYMBOL;SIGMA;TAU;UPSILON;PHI;CHI;PSI;OMEGA"⟩,
  ⟨0x1D6FB, "", "MATHEMATICAL ITALIC NABLA"⟩,
  ⟨0x1D6FC, "MATHEMATICAL ITALIC SMALL ", "ALPHA;BETA;GAMMA;DELTA;EPSILON;ZETA;ETA;THETA;IOTA;KAPPA;LAMDA"⟩,
  ⟨0x1D707, "MATHEMATICAL ITALIC SMALL ", "MU;NU;XI;OMICRON;PI;RHO;FINAL SIGMA;SIGMA;TAU;UPSILON;PHI;CHI;PSI;OMEGA"⟩,
  ⟨0x1D715, "", "MATHEMATICAL ITALIC PARTIAL DIFFERENTIAL"⟩,
  ⟨0x1D716, "MATHEMATICAL ITALIC ", "EPSILON SYMBOL;THETA SYMBOL;KAPPA SYMBOL;PHI SYMBOL;RHO SYMBOL;PI SYMBOL"⟩,
  ⟨0x1D71C, "MATHEMATICAL BOLD ITALIC CAPITAL ", "ALPHA;BETA;GAMMA;DELTA;EPSILON;ZETA;ETA;THETA;IOTA;KAPPA;LAMDA"⟩,
  ⟨0x1D727, "MATHEMATICAL BOLD ITALIC CAPITAL ", "MU;NU;XI;OMICRON;PI;RHO;THETA SYMBOL;SIGMA;TAU;UPSILON;PHI;CHI;PSI"⟩,
  ⟨0x1D734, "MATHEMATICAL BOLD ITALIC ", "CAPITAL OMEGA;NABLA"⟩,
  ⟨0x1D736, "MATHEMATICAL BOLD ITALIC SMALL ", "ALPHA;BETA;GAMMA;DELTA;EPSILON;ZETA;ETA;THETA;IOTA;KAPPA;LAMDA;MU"⟩,
  ⟨0x1D742, "MATHEMATICAL BOLD ITALIC SMALL ", "NU;XI;OMICRON;PI;RHO;FINAL SIGMA;SIGMA;TAU;UPSILON;PHI;CHI;PSI;OMEGA"⟩,
  ⟨0x1D74F, "", "MATHEMATICAL BOLD ITALIC PARTIAL DIFFERENTIAL"⟩,
  ⟨0x1D750, "MATHEMATICAL BOLD ITALIC ", "EPSILON SYMBOL;THETA SYMBOL;KAPPA SYMBOL;PHI SYMBOL;RHO SYMBOL;PI SYMBOL"⟩,
  ⟨0x1D756, "MATHEMATICAL SANS-SERIF BOLD CAPITAL ", "ALPHA;BETA;GAMMA;DELTA;EPSILON;ZETA;ETA;THETA;IOTA;KAPPA;LAMDA"⟩,
  ⟨0x1D761, "MATHEMATICAL SANS-SERIF BOLD CAPITAL ", "MU;NU;XI;OMICRON;PI;RHO;THETA SYMBOL;SIGMA;TAU;UPSILON;PHI;CHI"⟩,
  ⟨0x1D76D, "MATHEMATICAL SANS-SERIF BOLD ", "CAPITAL PSI;CAPITAL OMEGA;NABLA"⟩,
  ⟨0x1D770, "MATHEMATICAL SANS-SERIF BOLD SMALL ", "ALPHA;BETA;GAMMA;DELTA;EPSILON;ZETA;ETA;THETA;IOTA;KAPPA;LAMDA"⟩,
  ⟨0x1D77B, "MATHEMATICAL SANS-SERIF BOLD SMALL ", "MU;NU;XI;OMICRON;PI;RHO;FINAL SIGMA;SIGMA;TAU;UPSILON;PHI;CHI"⟩,
  ⟨0x1D787, "MATHEMATICAL SANS-SERIF BOLD ", "SMALL PSI;SMALL OMEGA;PARTIAL DIFFERENTIAL;EPSILON SYMBOL"⟩,
  ⟨0x1D78B, "MATHEMATICAL SANS-SERIF BOLD ", "THETA SYMBOL;KAPPA SYMBOL;PHI SYMBOL;RHO SYMBOL;PI SYMBOL"⟩,
  ⟨0x1D790, "MATHEMATICAL SANS-SERIF BOLD ITALIC CAPITAL ", "ALPHA;BETA;GAMMA;DELTA;EPSILON"⟩,
  ⟨0x1D795, "MATHEMATICAL SANS-SERIF BOLD ITALIC CAPITAL ", "ZETA;ETA;THETA;IOTA;KAPPA;LAMDA;MU;NU;XI;OMICRON"⟩,
  ⟨0x1D79F, "MATHEMATICAL SANS-SERIF BOLD ITALIC CAPITAL ", "PI;RHO;THETA SYMBOL;SIGMA;TAU;UPSILON;PHI;CHI;PSI;OMEGA"⟩,
  ⟨0x1D7A9, "MATHEMATICAL SANS-SERIF BOLD ITALIC ", "NABLA;SMALL ALPHA;SMALL BETA"⟩,
  ⟨0x1D7AC, "MATHEMATICAL SANS-SERIF BOLD ITALIC SMALL ", "GAMMA;DELTA;EPSILON;ZETA;ETA;THETA;IOTA;KAPPA;LAMDA;MU;NU"⟩,
  ⟨0x1D7B7, "MATHEMATICAL SANS-SERIF BOLD ITALIC SMALL ", "XI;OMICRON;PI;RHO;FINAL SIGMA;SIGMA;TAU;UPSILON;PHI;CHI"⟩,
  ⟨0x1D7C1, "MATHEMATICAL SANS-SERIF BOLD ITALIC ", "SMALL PSI;SMALL OMEGA;PARTIAL DIFFERENTIAL;EPSILON SYMBOL"⟩,
  ⟨0x1D7C5, "MATHEMATICAL SANS-SERIF BOLD ITALIC ", "THETA SYMBOL;KAPPA SYMBOL;PHI SYMBOL;RHO SYMBOL;PI SYMBOL"⟩,
  ⟨0x1D7CA, "MATHEMATICAL BOLD ", "CAPITAL DIGAMMA;SMALL DIGAMMA"⟩,
  ⟨0x1D7CE, "MATHEMATICAL BOLD DIGIT ", "ZERO;ONE;TWO;THREE;FOUR;FIVE;SIX;SEVEN;EIGHT;NINE"⟩,
  ⟨0x1D7D8, "MATHEMATICAL DOUBLE-STRUCK DIGIT ", "ZERO;ONE;TWO;THREE;FOUR;FIVE;SIX;SEVEN;EIGHT;NINE"⟩,
  ⟨0x1D7E2, "MATHEMATICAL SANS-SERIF DIGIT ", "ZERO;ONE;TWO;THREE;FOUR;FIVE;SIX;SEVEN;EIGHT;NINE"⟩,
  ⟨0x1D7EC, "MATHEMATICAL SANS-SERIF BOLD DIGIT ", "ZERO;ONE;TWO;THREE;FOUR;FIVE;SIX;SEVEN;EIGHT;NINE"⟩,
  ⟨0x1D7F6, "MATHEMATICAL MONOSPACE DIGIT ", "ZERO;ONE;TWO;THREE;FOUR;FIVE;SIX;SEVEN;EIGHT;NINE"⟩,
  ⟨0x1D800, "SIGNWRITING HAND-", "FIST INDEX;CIRCLE INDEX;CUP INDEX;OVAL INDEX;HINGE INDEX"⟩,
  ⟨0x1D805, "SIGNWRITING HAND-", "ANGLE INDEX;FIST INDEX BENT;CIRCLE INDEX BENT;FIST THUMB UNDER INDEX BENT"⟩,
  ⟨0x1D809, "SIGNWRITING HAND-FIST INDEX ", "RAISED KNUCKLE;CUPPED;HINGED;HINGED LOW"⟩,
  ⟨0x1D80D, "SIGNWRITING HAND-", "CIRCLE INDEX HINGE;FIST INDEX MIDDLE;CIRCLE INDEX MIDDLE"⟩,
  ⟨0x1D810, "SIGNWRITING HAND-FIST INDEX MIDDLE ", "BENT;RAISED KNUCKLES;HINGED"⟩,
  ⟨0x1D813, "SIGNWRITING HAND-FIST INDEX ", "UP MIDDLE HINGED;HINGED MIDDLE UP;MIDDLE CONJOINED"⟩,
  ⟨0x1D816, "SIGNWRITING HAND-FIST INDEX MIDDLE CONJOINED ", "INDEX BENT;MIDDLE BENT;CUPPED;HINGED"⟩,
  ⟨0x1D81A, "SIGNWRITING HAND-", "FIST INDEX MIDDLE CROSSED;CIRCLE INDEX MIDDLE CROSSED;FIST MIDDLE BENT OVER INDEX"⟩,
  ⟨0x1D81D, "SIGNWRITING HAND-FIST INDEX ", "BENT OVER MIDDLE;MIDDLE THUMB"⟩,
  ⟨0x1D81F, "SIGNWRITING HAND-", "CIRCLE INDEX MIDDLE THUMB;FIST INDEX MIDDLE STRAIGHT THUMB BENT"⟩,
  ⟨0x1D821, "SIGNWRITING HAND-FIST INDEX MIDDLE ", "BENT THUMB STRAIGHT;THUMB BENT;HINGED SPREAD THUMB SIDE"⟩,
  ⟨0x1D824, "SIGNWRITING HAND-FIST INDEX UP MIDDLE HINGED THUMB ", "SIDE;CONJOINED"⟩,
  ⟨0x1D826, "SIGNWRITING HAND-FIST INDEX ", "HINGED MIDDLE UP THUMB SIDE;MIDDLE UP SPREAD THUMB FORWARD"⟩,
  ⟨0x1D828, "SIGNWRITING HAND-FIST INDEX MIDDLE THUMB ", "CUPPED;CIRCLED;HOOKED;HINGED"⟩,
  ⟨0x1D82C, "", "SIGNWRITING HAND-FIST THUMB BETWEEN INDEX MIDDLE STRAIGHT"⟩,
  ⟨0x1D82D, "SIGNWRITING HAND-FIST INDEX MIDDLE CONJOINED THUMB ", "SIDE;SIDE CONJOINED;SIDE BENT"⟩,
  ⟨0x1D830, "SIGNWRITING HAND-FIST ", "MIDDLE THUMB HOOKED INDEX UP;INDEX THUMB HOOKED MIDDLE UP"⟩,
  ⟨0x1D832, "SIGNWRITING HAND-FIST INDEX MIDDLE ", "CONJOINED HINGED THUMB SIDE;CROSSED THUMB SIDE"⟩,
  ⟨0x1D834, "SIGNWRITING HAND-FIST INDEX MIDDLE CONJOINED ", "THUMB FORWARD;CUPPED THUMB FORWARD"⟩,
  ⟨0x1D836, "SIGNWRITING HAND-FIST ", "MIDDLE THUMB CUPPED INDEX UP;INDEX THUMB CUPPED MIDDLE UP"⟩,
  ⟨0x1D838, "SIGNWRITING HAND-FIST MIDDLE THUMB CIRCLED INDEX ", "UP;HINGED"⟩,
  ⟨0x1D83A, "SIGNWRITING HAND-FIST INDEX THUMB ", "ANGLED OUT MIDDLE UP;ANGLED IN MIDDLE UP;CIRCLED MIDDLE UP"⟩,
  ⟨0x1D83D, "SIGNWRITING HAND-FIST INDEX MIDDLE THUMB ", "CONJOINED HINGED;ANGLED OUT;ANGLED"⟩,
  ⟨0x1D840, "SIGNWRITING HAND-FIST MIDDLE THUMB ANGLED ", "OUT INDEX UP;OUT INDEX CROSSED;INDEX UP"⟩,
  ⟨0x1D843, "SIGNWRITING HAND-", "FIST INDEX THUMB HOOKED MIDDLE HINGED;FLAT FOUR FINGERS"⟩,
  ⟨0x1D845, "SIGNWRITING HAND-FLAT FOUR FINGERS ", "BENT;HINGED;CONJOINED;CONJOINED SPLIT"⟩,
  ⟨0x1D849, "", "SIGNWRITING HAND-CLAW FOUR FINGERS CONJOINED"⟩,
  ⟨0x1D84A, "SIGNWRITING HAND-", "FIST FOUR FINGERS CONJOINED BENT;HINGE FOUR FINGERS CONJOINED"⟩,
  ⟨0x1D84C, "SIGNWRITING HAND-FLAT ", "FIVE FINGERS SPREAD;HEEL FIVE FINGERS SPREAD;FIVE FINGERS SPREAD FOUR BENT"⟩,
  ⟨0x1D84F, "SIGNWRITING HAND-FLAT ", "HEEL FIVE FINGERS SPREAD FOUR BENT;FIVE FINGERS SPREAD BENT"⟩,
  ⟨0x1D851, "SIGNWRITING HAND-FLAT ", "HEEL FIVE FINGERS SPREAD BENT;FIVE FINGERS SPREAD THUMB FORWARD"⟩,
  ⟨0x1D853, "SIGNWRITING HAND-CUP FIVE FINGERS ", "SPREAD;SPREAD OPEN"⟩,
  ⟨0x1D855, "SIGNWRITING HAND-", "HINGE FIVE FINGERS SPREAD OPEN;OVAL FIVE FINGERS SPREAD"⟩,
  ⟨0x1D857, "SIGNWRITING HAND-FLAT FIVE FINGERS SPREAD ", "HINGED;HINGED THUMB SIDE;HINGED NO THUMB"⟩,
  ⟨0x1D85A, "", "SIGNWRITING HAND-FLAT"⟩,
  ⟨0x1D85B, "SIGNWRITING HAND-FLAT ", "BETWEEN PALM FACINGS;HEEL;THUMB SIDE;HEEL THUMB SIDE;THUMB BENT;THUMB FORWARD"⟩,
  ⟨0x1D861, "SIGNWRITING HAND-FLAT SPLIT ", "INDEX THUMB SIDE;CENTRE;CENTRE THUMB SIDE;CENTRE THUMB SIDE BENT;LITTLE"⟩,
  ⟨0x1D866, "SIGNWRITING HAND-", "CLAW;CLAW THUMB SIDE;CLAW NO THUMB;CLAW THUMB FORWARD;HOOK CURLICUE"⟩,
  ⟨0x1D86B, "SIGNWRITING HAND-", "HOOK;CUP OPEN;CUP;CUP OPEN THUMB SIDE;CUP THUMB SIDE;CUP OPEN NO THUMB"⟩,
  ⟨0x1D871, "SIGNWRITING HAND-", "CUP NO THUMB;CUP OPEN THUMB FORWARD;CUP THUMB FORWARD;CURLICUE OPEN"⟩,
  ⟨0x1D875, "SIGNWRITING HAND-", "CURLICUE;CIRCLE;OVAL;OVAL THUMB SIDE;OVAL NO THUMB;OVAL THUMB FORWARD;HINGE OPEN"⟩,
  ⟨0x1D87C, "SIGNWRITING HAND-", "HINGE OPEN THUMB FORWARD;HINGE;HINGE SMALL;HINGE OPEN THUMB SIDE;HINGE THUMB SIDE"⟩,
  ⟨0x1D881, "SIGNWRITING HAND-HINGE ", "OPEN NO THUMB;NO THUMB;THUMB SIDE TOUCHING INDEX;THUMB BETWEEN MIDDLE RING"⟩,
  ⟨0x1D885, "SIGNWRITING HAND-", "ANGLE;FIST INDEX MIDDLE RING;CIRCLE INDEX MIDDLE RING;HINGE INDEX MIDDLE RING"⟩,
  ⟨0x1D889, "SIGNWRITING HAND-", "ANGLE INDEX MIDDLE RING;HINGE LITTLE;FIST INDEX MIDDLE RING BENT"⟩,
  ⟨0x1D88C, "SIGNWRITING HAND-", "FIST INDEX MIDDLE RING CONJOINED;HINGE INDEX MIDDLE RING CONJOINED"⟩,
  ⟨0x1D88E, "SIGNWRITING HAND-FIST LITTLE ", "DOWN;DOWN RIPPLE STRAIGHT;DOWN RIPPLE CURVED;DOWN OTHERS CIRCLED;UP"⟩,
  ⟨0x1D893, "SIGNWRITING HAND-", "FIST THUMB UNDER LITTLE UP;CIRCLE LITTLE UP;OVAL LITTLE UP;ANGLE LITTLE UP"⟩,
  ⟨0x1D897, "SIGNWRITING HAND-FIST LITTLE ", "RAISED KNUCKLE;BENT;TOUCHES THUMB;THUMB"⟩,
  ⟨0x1D89B, "SIGNWRITING HAND-", "HINGE LITTLE THUMB;FIST LITTLE INDEX THUMB;HINGE LITTLE INDEX THUMB"⟩,
  ⟨0x1D89E, "SIGNWRITING HAND-ANGLE LITTLE INDEX THUMB INDEX ", "THUMB OUT;THUMB"⟩,
  ⟨0x1D8A0, "SIGNWRITING HAND-", "FIST LITTLE INDEX;CIRCLE LITTLE INDEX;HINGE LITTLE INDEX"⟩,
  ⟨0x1D8A3, "SIGNWRITING HAND-", "ANGLE LITTLE INDEX;FIST INDEX MIDDLE LITTLE;CIRCLE INDEX MIDDLE LITTLE"⟩,
  ⟨0x1D8A6, "SIGNWRITING HAND-", "HINGE INDEX MIDDLE LITTLE;HINGE RING;ANGLE INDEX MIDDLE LITTLE"⟩,
  ⟨0x1D8A9, "SIGNWRITING HAND-", "FIST INDEX MIDDLE CROSS LITTLE;CIRCLE INDEX MIDDLE CROSS LITTLE;FIST RING DOWN"⟩,
  ⟨0x1D8AC, "SIGNWRITING HAND-", "HINGE RING DOWN INDEX THUMB HOOK MIDDLE;ANGLE RING DOWN MIDDLE THUMB INDEX CROSS"⟩,
  ⟨0x1D8AE, "SIGNWRITING HAND-FIST RING ", "UP;RAISED KNUCKLE;LITTLE"⟩,
  ⟨0x1D8B1, "SIGNWRITING HAND-", "CIRCLE RING LITTLE;OVAL RING LITTLE;ANGLE RING LITTLE"⟩,
  ⟨0x1D8B4, "SIGNWRITING HAND-FIST RING ", "MIDDLE;MIDDLE CONJOINED;MIDDLE RAISED KNUCKLES;INDEX;THUMB"⟩,
  ⟨0x1D8B9, "", "SIGNWRITING HAND-HOOK RING THUMB"⟩,
  ⟨0x1D8BA, "SIGNWRITING HAND-", "FIST INDEX RING LITTLE;CIRCLE INDEX RING LITTLE;CURLICUE INDEX RING LITTLE ON"⟩,
  ⟨0x1D8BD, "SIGNWRITING HAND-HOOK INDEX RING LITTLE ", "OUT;IN;UNDER"⟩,
  ⟨0x1D8C0, "SIGNWRITING HAND-", "CUP INDEX RING LITTLE;HINGE INDEX RING LITTLE"⟩,
  ⟨0x1D8C2, "SIGNWRITING HAND-ANGLE INDEX RING ", "LITTLE OUT;LITTLE"⟩,
  ⟨0x1D8C4, "SIGNWRITING HAND-", "FIST MIDDLE DOWN;HINGE MIDDLE;FIST MIDDLE UP;CIRCLE MIDDLE UP"⟩,
  ⟨0x1D8C8, "SIGNWRITING HAND-", "FIST MIDDLE RAISED KNUCKLE;FIST MIDDLE UP THUMB SIDE;HOOK MIDDLE THUMB"⟩,
  ⟨0x1D8CB, "SIGNWRITING HAND-FIST MIDDLE ", "THUMB LITTLE;LITTLE;RING LITTLE"⟩,
  ⟨0x1D8CE, "", "SIGNWRITING HAND-CIRCLE MIDDLE RING LITTLE"⟩,
  ⟨0x1D8CF, "SIGNWRITING HAND-", "CURLICUE MIDDLE RING LITTLE ON;CUP MIDDLE RING LITTLE;HINGE MIDDLE RING LITTLE"⟩,
  ⟨0x1D8D2, "SIGNWRITING HAND-ANGLE MIDDLE RING ", "LITTLE OUT;LITTLE IN;LITTLE"⟩,
  ⟨0x1D8D5, "", "SIGNWRITING HAND-CIRCLE MIDDLE RING LITTLE BENT"⟩,
  ⟨0x1D8D6, "SIGNWRITING HAND-CLAW MIDDLE RING LITTLE ", "CONJOINED;CONJOINED SIDE"⟩,
  ⟨0x1D8D8, "SIGNWRITING HAND-HOOK MIDDLE RING LITTLE ", "CONJOINED OUT;CONJOINED IN;CONJOINED"⟩,
  ⟨0x1D8DB, "SIGNWRITING HAND-", "HINGE INDEX HINGED;FIST INDEX THUMB SIDE;HINGE INDEX THUMB SIDE"⟩,
  ⟨0x1D8DE, "SIGNWRITING HAND-FIST INDEX THUMB SIDE ", "THUMB DIAGONAL;THUMB CONJOINED;THUMB BENT;INDEX BENT"⟩,
  ⟨0x1D8E2, "SIGNWRITING HAND-FIST INDEX THUMB ", "SIDE BOTH BENT;SIDE INDEX HINGE;FORWARD INDEX STRAIGHT"⟩,
  ⟨0x1D8E5, "SIGNWRITING HAND-FIST INDEX THUMB ", "FORWARD INDEX BENT;HOOK;CURLICUE;CURVE THUMB INSIDE"⟩,
  ⟨0x1D8E9, "SIGNWRITING HAND-", "CLAW INDEX THUMB CURVE THUMB INSIDE;FIST INDEX THUMB CURVE THUMB UNDER"⟩,
  ⟨0x1D8EB, "SIGNWRITING HAND-", "FIST INDEX THUMB CIRCLE;CUP INDEX THUMB;CUP INDEX THUMB OPEN"⟩,
  ⟨0x1D8EE, "SIGNWRITING HAND-HINGE INDEX ", "THUMB OPEN;THUMB LARGE;THUMB;THUMB SMALL"⟩,
  ⟨0x1D8F2, "SIGNWRITING HAND-", "ANGLE INDEX THUMB OUT;ANGLE INDEX THUMB IN;ANGLE INDEX THUMB;FIST THUMB"⟩,
  ⟨0x1D8F6, "SIGNWRITING HAND-FIST THUMB ", "HEEL;SIDE DIAGONAL;SIDE CONJOINED;SIDE BENT;FORWARD"⟩,
  ⟨0x1D8FB, "SIGNWRITING HAND-FIST THUMB BETWEEN ", "INDEX MIDDLE;MIDDLE RING;RING LITTLE"⟩,
  ⟨0x1D8FE, "SIGNWRITING HAND-FIST THUMB ", "UNDER TWO FINGERS;OVER TWO FINGERS;UNDER THREE FINGERS"⟩,
  ⟨0x1D901, "SIGNWRITING HAND-", "FIST THUMB UNDER FOUR FINGERS;FIST THUMB OVER FOUR RAISED KNUCKLES;FIST;FIST HEEL"⟩,
  ⟨0x1D905, "SIGNWRITING ", "TOUCH SINGLE;TOUCH MULTIPLE;TOUCH BETWEEN;GRASP SINGLE;GRASP MULTIPLE"⟩,
  ⟨0x1D90A, "SIGNWRITING ", "GRASP BETWEEN;STRIKE SINGLE;STRIKE MULTIPLE;STRIKE BETWEEN;BRUSH SINGLE;BRUSH MULTIPLE"⟩,
  ⟨0x1D910, "SIGNWRITING ", "BRUSH BETWEEN;RUB SINGLE;RUB MULTIPLE;RUB BETWEEN;SURFACE SYMBOLS;SURFACE BETWEEN"⟩,
  ⟨0x1D916, "SIGNWRITING SQUEEZE ", "LARGE SINGLE;SMALL SINGLE;LARGE MULTIPLE;SMALL MULTIPLE;SEQUENTIAL"⟩,
  ⟨0x1D91B, "SIGNWRITING FLICK ", "LARGE SINGLE;SMALL SINGLE;LARGE MULTIPLE;SMALL MULTIPLE;SEQUENTIAL"⟩,
  ⟨0x1D920, "", "SIGNWRITING SQUEEZE FLICK ALTERNATING"⟩,
  ⟨0x1D921, "SIGNWRITING MOVEMENT-HINGE ", "UP DOWN LARGE;UP DOWN SMALL;UP SEQUENTIAL;DOWN SEQUENTIAL"⟩,
  ⟨0x1D925, "SIGNWRITING MOVEMENT-HINGE UP DOWN ALTERNATING ", "LARGE;SMALL"⟩,
  ⟨0x1D927, "SIGNWRITING MOVEMENT-", "HINGE SIDE TO SIDE SCISSORS;WALLPLANE FINGER CONTACT;FLOORPLANE FINGER CONTACT"⟩,
  ⟨0x1D92A, "SIGNWRITING MOVEMENT-WALLPLANE SINGLE STRAIGHT ", "SMALL;MEDIUM;LARGE;LARGEST"⟩,
  ⟨0x1D92E, "", "SIGNWRITING MOVEMENT-WALLPLANE SINGLE WRIST FLEX"⟩,
  ⟨0x1D92F, "SIGNWRITING MOVEMENT-WALLPLANE DOUBLE ", "STRAIGHT;WRIST FLEX;ALTERNATING;ALTERNATING WRIST FLEX"⟩,
  ⟨0x1D933, "SIGNWRITING MOVEMENT-WALLPLANE ", "CROSS;TRIPLE STRAIGHT MOVEMENT;TRIPLE WRIST FLEX;TRIPLE ALTERNATING"⟩,
  ⟨0x1D937, "SIGNWRITING MOVEMENT-WALLPLANE ", "TRIPLE ALTERNATING WRIST FLEX;BEND SMALL;BEND MEDIUM;BEND LARGE"⟩,
  ⟨0x1D93B, "SIGNWRITING MOVEMENT-WALLPLANE ", "CORNER SMALL;CORNER MEDIUM;CORNER LARGE;CORNER ROTATION;CHECK SMALL"⟩,
  ⟨0x1D940, "SIGNWRITING MOVEMENT-WALLPLANE ", "CHECK MEDIUM;CHECK LARGE;BOX SMALL;BOX MEDIUM;BOX LARGE;ZIGZAG SMALL"⟩,
  ⟨0x1D946, "SIGNWRITING MOVEMENT-WALLPLANE ", "ZIGZAG MEDIUM;ZIGZAG LARGE;PEAKS SMALL;PEAKS MEDIUM;PEAKS LARGE"⟩,
  ⟨0x1D94B, "SIGNWRITING TRAVEL-WALLPLANE ROTATION-WALLPLANE ", "SINGLE;DOUBLE;ALTERNATING"⟩,
  ⟨0x1D94E, "SIGNWRITING TRAVEL-WALLPLANE ROTATION-FLOORPLANE ", "SINGLE;DOUBLE;ALTERNATING"⟩,
  ⟨0x1D951, "SIGNWRITING TRAVEL-WALLPLANE ", "SHAKING;ARM SPIRAL SINGLE;ARM SPIRAL DOUBLE;ARM SPIRAL TRIPLE"⟩,
  ⟨0x1D955, "SIGNWRITING MOVEMENT-DIAGONAL AWAY ", "SMALL;MEDIUM;LARGE;LARGEST"⟩,
  ⟨0x1D959, "SIGNWRITING MOVEMENT-DIAGONAL TOWARDS ", "SMALL;MEDIUM;LARGE;LARGEST"⟩,
  ⟨0x1D95D, "SIGNWRITING MOVEMENT-DIAGONAL BETWEEN AWAY ", "SMALL;MEDIUM;LARGE;LARGEST"⟩,
  ⟨0x1D961, "SIGNWRITING MOVEMENT-DIAGONAL BETWEEN TOWARDS ", "SMALL;MEDIUM;LARGE;LARGEST"⟩,
  ⟨0x1D965, "SIGNWRITING MOVEMENT-FLOORPLANE SINGLE STRAIGHT ", "SMALL;MEDIUM;LARGE;LARGEST"⟩,
  ⟨0x1D969, "SIGNWRITING MOVEMENT-FLOORPLANE ", "SINGLE WRIST FLEX;DOUBLE STRAIGHT;DOUBLE WRIST FLEX"⟩,
  ⟨0x1D96C, "SIGNWRITING MOVEMENT-FLOORPLANE ", "DOUBLE ALTERNATING;DOUBLE ALTERNATING WRIST FLEX;CROSS"⟩,
  ⟨0x1D96F, "SIGNWRITING MOVEMENT-FLOORPLANE TRIPLE ", "STRAIGHT MOVEMENT;WRIST FLEX;ALTERNATING MOVEMENT"⟩,
  ⟨0x1D972, "SIGNWRITING MOVEMENT-FLOORPLANE ", "TRIPLE ALTERNATING WRIST FLEX;BEND;CORNER SMALL;CORNER MEDIUM"⟩,
  ⟨0x1D976, "SIGNWRITING MOVEMENT-FLOORPLANE ", "CORNER LARGE;CHECK;BOX SMALL;BOX MEDIUM;BOX LARGE;ZIGZAG SMALL"⟩,
  ⟨0x1D97C, "SIGNWRITING MOVEMENT-FLOORPLANE ", "ZIGZAG MEDIUM;ZIGZAG LARGE;PEAKS SMALL;PEAKS MEDIUM;PEAKS LARGE"⟩,
  ⟨0x1D981, "SIGNWRITING TRAVEL-FLOORPLANE ROTATION-FLOORPLANE ", "SINGLE;DOUBLE;ALTERNATING"⟩,
  ⟨0x1D984, "SIGNWRITING TRAVEL-FLOORPLANE ROTATION-WALLPLANE ", "SINGLE;DOUBLE;ALTERNATING"⟩,
  ⟨0x1D987, "", "SIGNWRITING TRAVEL-FLOORPLANE SHAKING"⟩,
  ⟨0x1D988, "SIGNWRITING MOVEMENT-WALLPLANE CURVE QUARTER ", "SMALL;MEDIUM;LARGE;LARGEST"⟩,
  ⟨0x1D98C, "SIGNWRITING MOVEMENT-WALLPLANE CURVE HALF-CIRCLE ", "SMALL;MEDIUM;LARGE;LARGEST"⟩,
  ⟨0x1D990, "SIGNWRITING MOVEMENT-WALLPLANE CURVE THREE-QUARTER CIRCLE ", "SMALL;MEDIUM"⟩,
  ⟨0x1D992, "SIGNWRITING MOVEMENT-WALLPLANE HUMP ", "SMALL;MEDIUM;LARGE"⟩,
  ⟨0x1D995, "SIGNWRITING MOVEMENT-WALLPLANE LOOP ", "SMALL;MEDIUM;LARGE;SMALL DOUBLE"⟩,
  ⟨0x1D999, "SIGNWRITING MOVEMENT-WALLPLANE WAVE CURVE DOUBLE ", "SMALL;MEDIUM;LARGE"⟩,
  ⟨0x1D99C, "SIGNWRITING MOVEMENT-WALLPLANE WAVE CURVE TRIPLE ", "SMALL;MEDIUM;LARGE"⟩,
  ⟨0x1D99F, "SIGNWRITING MOVEMENT-WALLPLANE ", "CURVE THEN STRAIGHT;CURVED CROSS SMALL;CURVED CROSS MEDIUM"⟩,
  ⟨0x1D9A2, "SIGNWRITING ROTATION-WALLPLANE ", "SINGLE;DOUBLE;ALTERNATE"⟩,
  ⟨0x1D9A5, "SIGNWRITING MOVEMENT-WALLPLANE ", "SHAKING;CURVE HITTING FRONT WALL;HUMP HITTING FRONT WALL"⟩,
  ⟨0x1D9A8, "SIGNWRITING MOVEMENT-WALLPLANE ", "LOOP HITTING FRONT WALL;WAVE HITTING FRONT WALL"⟩,
  ⟨0x1D9AA, "", "SIGNWRITING ROTATION-WALLPLANE SINGLE HITTING FRONT WALL"⟩,
  ⟨0x1D9AB, "SIGNWRITING ROTATION-WALLPLANE ", "DOUBLE HITTING FRONT WALL;ALTERNATING HITTING FRONT WALL"⟩,
  ⟨0x1D9AD, "", "SIGNWRITING MOVEMENT-WALLPLANE CURVE HITTING CHEST"⟩,
  ⟨0x1D9AE, "SIGNWRITING MOVEMENT-WALLPLANE ", "HUMP HITTING CHEST;LOOP HITTING CHEST;WAVE HITTING CHEST"⟩,
  ⟨0x1D9B1, "SIGNWRITING ROTATION-WALLPLANE ", "SINGLE HITTING CHEST;DOUBLE HITTING CHEST;ALTERNATING HITTING CHEST"⟩,
  ⟨0x1D9B4, "SIGNWRITING MOVEMENT-WALLPLANE WAVE DIAGONAL PATH ", "SMALL;MEDIUM;LARGE"⟩,
  ⟨0x1D9B7, "SIGNWRITING MOVEMENT-FLOORPLANE CURVE HITTING CEILING ", "SMALL;LARGE"⟩,
  ⟨0x1D9B9, "SIGNWRITING MOVEMENT-FLOORPLANE HUMP HITTING CEILING ", "SMALL DOUBLE;LARGE DOUBLE;SMALL TRIPLE"⟩,
  ⟨0x1D9BC, "SIGNWRITING MOVEMENT-FLOORPLANE ", "HUMP HITTING CEILING LARGE TRIPLE;LOOP HITTING CEILING SMALL SINGLE"⟩,
  ⟨0x1D9BE, "SIGNWRITING MOVEMENT-FLOORPLANE LOOP HITTING CEILING ", "LARGE SINGLE;SMALL DOUBLE;LARGE DOUBLE"⟩,
  ⟨0x1D9C1, "SIGNWRITING MOVEMENT-FLOORPLANE WAVE HITTING CEILING ", "SMALL;LARGE"⟩,
  ⟨0x1D9C3, "", "SIGNWRITING ROTATION-FLOORPLANE SINGLE HITTING CEILING"⟩,
  ⟨0x1D9C4, "SIGNWRITING ROTATION-FLOORPLANE ", "DOUBLE HITTING CEILING;ALTERNATING HITTING CEILING"⟩,
  ⟨0x1D9C6, "SIGNWRITING MOVEMENT-FLOORPLANE CURVE HITTING FLOOR ", "SMALL;LARGE"⟩,
  ⟨0x1D9C8, "SIGNWRITING MOVEMENT-FLOORPLANE HUMP HITTING FLOOR ", "SMALL DOUBLE;LARGE DOUBLE"⟩,
  ⟨0x1D9CA, "SIGNWRITING MOVEMENT-FLOORPLANE HUMP HITTING FLOOR TRIPLE ", "SMALL TRIPLE;LARGE TRIPLE"⟩,
  ⟨0x1D9CC, "", "SIGNWRITING MOVEMENT-FLOORPLANE LOOP HITTING FLOOR SMALL SINGLE"⟩,
  ⟨0x1D9CD, "SIGNWRITING MOVEMENT-FLOORPLANE LOOP HITTING FLOOR ", "LARGE SINGLE;SMALL DOUBLE;LARGE DOUBLE"⟩,
  ⟨0x1D9D0, "SIGNWRITING MOVEMENT-FLOORPLANE WAVE HITTING FLOOR ", "SMALL;LARGE"⟩,
  ⟨0x1D9D2, "SIGNWRITING ROTATION-FLOORPLANE ", "SINGLE HITTING FLOOR;DOUBLE HITTING FLOOR;ALTERNATING HITTING FLOOR"⟩,
  ⟨0x1D9D5, "SIGNWRITING MOVEMENT-FLOORPLANE CURVE ", "SMALL;MEDIUM;LARGE;LARGEST;COMBINED"⟩,
  ⟨0x1D9DA, "SIGNWRITING MOVEMENT-FLOORPLANE ", "HUMP SMALL;LOOP SMALL;WAVE SNAKE;WAVE SMALL;WAVE LARGE"⟩,
  ⟨0x1D9DF, "SIGNWRITING ROTATION-FLOORPLANE ", "SINGLE;DOUBLE;ALTERNATING"⟩,
  ⟨0x1D9E2, "", "SIGNWRITING MOVEMENT-FLOORPLANE SHAKING PARALLEL"⟩,
  ⟨0x1D9E3, "SIGNWRITING MOVEMENT-WALLPLANE ARM CIRCLE ", "SMALL SINGLE;MEDIUM SINGLE;SMALL DOUBLE;MEDIUM DOUBLE"⟩,
  ⟨0x1D9E7, "SIGNWRITING MOVEMENT-FLOORPLANE ARM CIRCLE HITTING WALL ", "SMALL SINGLE;MEDIUM SINGLE;LARGE SINGLE"⟩,
  ⟨0x1D9EA, "SIGNWRITING MOVEMENT-FLOORPLANE ARM CIRCLE HITTING WALL ", "SMALL DOUBLE;MEDIUM DOUBLE;LARGE DOUBLE"⟩,
  ⟨0x1D9ED, "SIGNWRITING MOVEMENT-WALLPLANE WRIST CIRCLE FRONT ", "SINGLE;DOUBLE"⟩,
  ⟨0x1D9EF, "SIGNWRITING MOVEMENT-FLOORPLANE WRIST CIRCLE HITTING WALL ", "SINGLE;DOUBLE"⟩,
  ⟨0x1D9F1, "SIGNWRITING MOVEMENT-WALLPLANE FINGER CIRCLES ", "SINGLE;DOUBLE"⟩,
  ⟨0x1D9F3, "SIGNWRITING MOVEMENT-FLOORPLANE FINGER CIRCLES HITTING WALL ", "SINGLE;DOUBLE"⟩,
  ⟨0x1D9F5, "SIGNWRITING DYNAMIC ", "ARROWHEAD SMALL;ARROWHEAD LARGE;FAST;SLOW;TENSE;RELAXED;SIMULTANEOUS"⟩,
  ⟨0x1D9FC, "SIGNWRITING ", "DYNAMIC SIMULTANEOUS ALTERNATING;DYNAMIC EVERY OTHER TIME;DYNAMIC GRADUAL;HEAD;HEAD RIM"⟩,
  ⟨0x1DA01, "SIGNWRITING HEAD MOVEMENT-", "WALLPLANE STRAIGHT;WALLPLANE TILT;FLOORPLANE STRAIGHT;WALLPLANE CURVE"⟩,
  ⟨0x1DA05, "SIGNWRITING HEAD ", "MOVEMENT-FLOORPLANE CURVE;MOVEMENT CIRCLE"⟩,
  ⟨0x1DA07, "SIGNWRITING FACE DIRECTION POSITION NOSE ", "FORWARD TILTING;UP OR DOWN;UP OR DOWN TILTING"⟩,
  ⟨0x1DA0A, "SIGNWRITING EYEBROWS STRAIGHT ", "UP;NEUTRAL;DOWN"⟩,
  ⟨0x1DA0D, "SIGNWRITING DREAMY EYEBROWS ", "NEUTRAL DOWN;DOWN NEUTRAL;UP NEUTRAL;NEUTRAL UP"⟩,
  ⟨0x1DA11, "SIGNWRITING FOREHEAD ", "NEUTRAL;CONTACT;WRINKLED"⟩,
  ⟨0x1DA14, "SIGNWRITING ", "EYES OPEN;EYES SQUEEZED;EYES CLOSED;EYE BLINK SINGLE;EYE BLINK MULTIPLE"⟩,
  ⟨0x1DA19, "SIGNWRITING ", "EYES HALF OPEN;EYES WIDE OPEN;EYES HALF CLOSED;EYES WIDENING MOVEMENT;EYE WINK"⟩,
  ⟨0x1DA1E, "SIGNWRITING EYELASHES ", "UP;DOWN;FLUTTERING"⟩,
  ⟨0x1DA21, "SIGNWRITING EYEGAZE-WALLPLANE ", "STRAIGHT;STRAIGHT DOUBLE;STRAIGHT ALTERNATING"⟩,
  ⟨0x1DA24, "SIGNWRITING EYEGAZE-FLOORPLANE ", "STRAIGHT;STRAIGHT DOUBLE;STRAIGHT ALTERNATING"⟩,
  ⟨0x1DA27, "SIGNWRITING EYEGAZE-", "WALLPLANE CURVED;FLOORPLANE CURVED;WALLPLANE CIRCLING"⟩,
  ⟨0x1DA2A, "SIGNWRITING CHEEKS ", "PUFFED;NEUTRAL;SUCKED"⟩,
  ⟨0x1DA2D, "SIGNWRITING TENSE CHEEKS ", "HIGH;MIDDLE;LOW"⟩,
  ⟨0x1DA30, "SIGNWRITING ", "EARS;NOSE NEUTRAL;NOSE CONTACT;NOSE WRINKLES;NOSE WIGGLES"⟩,
  ⟨0x1DA35, "SIGNWRITING AIR ", "BLOWING OUT;SUCKING IN;BLOW SMALL ROTATIONS;SUCK SMALL ROTATIONS"⟩,
  ⟨0x1DA39, "SIGNWRITING BREATH ", "INHALE;EXHALE"⟩,
  ⟨0x1DA3B, "SIGNWRITING MOUTH CLOSED ", "NEUTRAL;FORWARD;CONTACT"⟩,
  ⟨0x1DA3E, "SIGNWRITING MOUTH ", "SMILE;SMILE WRINKLED;SMILE OPEN;FROWN;FROWN WRINKLED;FROWN OPEN;OPEN CIRCLE"⟩,
  ⟨0x1DA45, "SIGNWRITING MOUTH OPEN ", "FORWARD;WRINKLED;OVAL;OVAL WRINKLED;OVAL YAWN;RECTANGLE;RECTANGLE WRINKLED"⟩,
  ⟨0x1DA4C, "SIGNWRITING MOUTH ", "OPEN RECTANGLE YAWN;KISS;KISS FORWARD;KISS WRINKLED;TENSE;TENSE FORWARD"⟩,
  ⟨0x1DA52, "SIGNWRITING ", "MOUTH TENSE SUCKED;LIPS PRESSED TOGETHER;LIP LOWER OVER UPPER;LIP UPPER OVER LOWER"⟩,
  ⟨0x1DA56, "SIGNWRITING MOUTH ", "CORNERS;WRINKLES SINGLE;WRINKLES DOUBLE"⟩,
  ⟨0x1DA59, "SIGNWRITING TONGUE ", "STICKING OUT FAR;LICKING LIPS;TIP BETWEEN LIPS;TIP TOUCHING INSIDE MOUTH"⟩,
  ⟨0x1DA5D, "SIGNWRITING TONGUE ", "INSIDE MOUTH RELAXED;MOVES AGAINST CHEEK;CENTRE STICKING OUT;CENTRE INSIDE MOUTH"⟩,
  ⟨0x1DA61, "", "SIGNWRITING TEETH"⟩,
  ⟨0x1DA62, "SIGNWRITING TEETH ", "MOVEMENT;ON TONGUE;ON TONGUE MOVEMENT;ON LIPS;ON LIPS MOVEMENT;BITE LIPS"⟩,
  ⟨0x1DA68, "SIGNWRITING ", "MOVEMENT-WALLPLANE JAW;MOVEMENT-FLOORPLANE JAW;NECK;HAIR;EXCITEMENT"⟩,
  ⟨0x1DA6D, "SIGNWRITING SHOULDER HIP ", "SPINE;POSITIONS"⟩,
  ⟨0x1DA6F, "SIGNWRITING ", "WALLPLANE SHOULDER HIP MOVE;FLOORPLANE SHOULDER HIP MOVE;SHOULDER TILTING FROM WAIST"⟩,
  ⟨0x1DA72, "SIGNWRITING TORSO-WALLPLANE ", "STRAIGHT STRETCH;CURVED BEND"⟩,
  ⟨0x1DA74, "SIGNWRITING ", "TORSO-FLOORPLANE TWISTING;UPPER BODY TILTING FROM HIP JOINTS;LIMB COMBINATION"⟩,
  ⟨0x1DA77, "SIGNWRITING LIMB LENGTH-", "1;2;3;4;5;6;7"⟩,
  ⟨0x1DA7E, "SIGNWRITING ", "FINGER;LOCATION-WALLPLANE SPACE;LOCATION-FLOORPLANE SPACE"⟩,
  ⟨0x1DA81, "SIGNWRITING LOCATION ", "HEIGHT;WIDTH;DEPTH;HEAD NECK;TORSO;LIMBS DIGITS"⟩,
  ⟨0x1DA87, "SIGNWRITING ", "COMMA;FULL STOP;SEMICOLON;COLON;PARENTHESIS"⟩,
  ⟨0x1DA9B, "SIGNWRITING FILL MODIFIER-", "2;3;4;5;6"⟩,
  ⟨0x1DAA1, "SIGNWRITING ROTATION MODIFIER-", "2;3;4;5;6;7;8;9;10;11;12;13;14;15;16"⟩,
  ⟨0x1DF00, "LATIN SMALL LETTER ", "FENG DIGRAPH WITH TRILL;REVERSED SCRIPT G"⟩,
  ⟨0x1DF02, "LATIN ", "LETTER SMALL CAPITAL TURNED G;SMALL LETTER REVERSED K;LETTER SMALL CAPITAL L WITH BELT"⟩,
  ⟨0x1DF05, "LATIN SMALL LETTER ", "LEZH WITH RETROFLEX HOOK;TURNED Y WITH BELT;REVERSED ENG"⟩,
  ⟨0x1DF08, "LATIN SMALL LETTER ", "TURNED R WITH LONG LEG AND RETROFLEX HOOK;T WITH HOOK AND RETROFLEX HOOK"⟩,
  ⟨0x1DF0A, "", "LATIN LETTER RETROFLEX CLICK WITH RETROFLEX HOOK"⟩,
  ⟨0x1DF0B, "LATIN SMALL LETTER ", "ESH WITH DOUBLE BAR;ESH WITH DOUBLE BAR AND CURL;TURNED T WITH CURL"⟩,
  ⟨0x1DF0E, "LATIN LETTER ", "INVERTED GLOTTAL STOP WITH CURL;STRETCHED C WITH CURL;SMALL CAPITAL TURNED K"⟩,
  ⟨0x1DF11, "LATIN SMALL LETTER ", "L WITH FISHHOOK;DEZH DIGRAPH WITH PALATAL HOOK"⟩,
  ⟨0x1DF13, "LATIN SMALL LETTER ", "L WITH BELT AND PALATAL HOOK;ENG WITH PALATAL HOOK;TURNED R WITH PALATAL HOOK"⟩,
  ⟨0x1DF16, "LATIN SMALL LETTER ", "R WITH FISHHOOK AND PALATAL HOOK;TESH DIGRAPH WITH PALATAL HOOK"⟩,
  ⟨0x1DF18, "LATIN SMALL LETTER ", "EZH WITH PALATAL HOOK;DEZH DIGRAPH WITH RETROFLEX HOOK"⟩,
  ⟨0x1DF1A, "LATIN SMALL LETTER ", "I WITH STROKE AND RETROFLEX HOOK;O WITH RETROFLEX HOOK"⟩,
  ⟨0x1DF1C, "LATIN SMALL LETTER ", "TESH DIGRAPH WITH RETROFLEX HOOK;C WITH RETROFLEX HOOK;S WITH CURL"⟩,
  ⟨0x1E000, "COMBINING GLAGOLITIC LETTER ", "AZU;BUKY;VEDE;GLAGOLI;DOBRO;YESTU;ZHIVETE"⟩,
  ⟨0x1E008, "COMBINING GLAGOLITIC LETTER ", "ZEMLJA;IZHE;INITIAL IZHE;I;DJERVI"⟩,
  ⟨0x1E00D, "COMBINING GLAGOLITIC LETTER ", "KAKO;LJUDIJE;MYSLITE;NASHI;ONU;POKOJI;RITSI;SLOVO;TVRIDO;UKU;FRITU;HERU"⟩,
  ⟨0x1E01B, "COMBINING GLAGOLITIC LETTER ", "SHTA;TSI;CHRIVI;SHA;YERU;YERI;YATI"⟩,
  ⟨0x1E023, "COMBINING GLAGOLITIC LETTER ", "YU;SMALL YUS"⟩,
  ⟨0x1E026, "COMBINING GLAGOLITIC LETTER ", "YO;IOTATED SMALL YUS;BIG YUS;IOTATED BIG YUS;FITA"⟩,
  ⟨0x1E100, "NYIAKENG PUACHUE HMONG LETTER ", "MA;TSA;NTA"⟩,
  ⟨0x1E103, "NYIAKENG PUACHUE HMONG LETTER ", "TA;HA;NA;XA;NKA;CA;LA;SA;ZA;NCA;NTSA;KA;DA;NYA;NRA;VA;NTXA;TXA;FA;RA"⟩,
  ⟨0x1E117, "NYIAKENG PUACHUE HMONG LETTER ", "QA;YA;NQA;PA;XYA;NPA;DLA;NPLA;HAH;MLA;PLA;GA;RRA;A;AA;I;U;O;OO;E;EE;W"⟩,
  ⟨0x1E130, "NYIAKENG PUACHUE HMONG TONE-", "B;M;J;V;S;G;D"⟩,
  ⟨0x1E137, "NYIAKENG PUACHUE HMONG SIGN FOR ", "PERSON;THING;LOCATION;ANIMAL;INVERTEBRATE"⟩,
  ⟨0x1E13C, "NYIAKENG PUACHUE HMONG ", "SIGN XW XW;SYLLABLE LENGTHENER"⟩,
  ⟨0x1E140, "NYIAKENG PUACHUE HMONG DIGIT ", "ZERO;ONE;TWO;THREE;FOUR;FIVE;SIX;SEVEN;EIGHT;NINE"⟩,
  ⟨0x1E14E, "NYIAKENG PUACHUE HMONG ", "LOGOGRAM NYAJ;CIRCLED CA"⟩,
  ⟨0x1E290, "TOTO LETTER ", "PA;BA;TA;DA;KA;GA;MA;NA;NGA;SA;CHA;YA"⟩,
  ⟨0x1E29C, "TOTO LETTER ", "WA;JA;HA;RA;LA;I;BREATHY I;IU;BREATHY IU;U;E;BREATHY E;EO;BREATHY EO;O;AE;BREATHY AE;A"⟩,
  ⟨0x1E2AE, "", "TOTO SIGN RISING TONE"⟩,
  ⟨0x1E2C0, "WANCHO LETTER ", "AA;A;BA;CA;DA;GA;YA;PHA;LA;NA;PA;TA;THA;FA;SA;SHA;JA;ZA;WA"⟩,
  ⟨0x1E2D3, "WANCHO LETTER ", "VA;KA;O;AU;RA;MA;KHA;HA;E;I;NGA;U;LLHA;TSA;TRA;ONG;AANG;ANG;ING;ON;EN;AAN;NYA;UEN;YIH"⟩,
  ⟨0x1E2EC, "WANCHO TONE ", "TUP;TUPNI;KOI;KOINI"⟩,
  ⟨0x1E2F0, "WANCHO DIGIT ", "ZERO;ONE;TWO;THREE;FOUR;FIVE;SIX;SEVEN;EIGHT;NINE"⟩,
  ⟨0x1E2FF, "", "WANCHO NGUN SIGN"⟩,
  ⟨0x1E7E0, "ETHIOPIC SYLLABLE ", "HHYA;HHYU;HHYI;HHYAA;HHYEE;HHYE;HHYO"⟩,
  ⟨0x1E7E8, "ETHIOPIC SYLLABLE ", "GURAGE HHWA;HHWI;HHWEE;HHWE"⟩,
  ⟨0x1E7ED, "ETHIOPIC SYLLABLE GURAGE ", "MWI;MWEE"⟩,
  ⟨0x1E7F0, "ETHIOPIC SYLLABLE GURAGE ", "QWI;QWEE;QWE;BWI;BWEE;KWI;KWEE;KWE;GWI;GWEE;GWE;FWI;FWEE;PWI;PWEE"⟩,
  ⟨0x1E800, "MENDE KIKAKUI SYLLABLE ", "M001 KI;M002 KA;M003 KU;M065 KEE;M095 KE;M076 KOO"⟩,
  ⟨0x1E806, "MENDE KIKAKUI SYLLABLE ", "M048 KO;M179 KUA;M004 WI;M005 WA;M006 WU;M126 WEE;M118 WE;M114 WOO;M045 WO"⟩,
  ⟨0x1E80F, "MENDE KIKAKUI SYLLABLE ", "M194 WUI;M143 WEI;M061 WVI;M049 WVA;M139 WVE;M007 MIN;M008 MAN;M009 MUN"⟩,
  ⟨0x1E817, "MENDE KIKAKUI SYLLABLE ", "M059 MEN;M094 MON;M154 MUAN;M189 MUEN;M010 BI;M011 BA;M012 BU;M150 BEE"⟩,
  ⟨0x1E81F, "MENDE KIKAKUI SYLLABLE ", "M097 BE;M103 BOO;M138 BO;M013 I;M014 A;M015 U;M163 EE;M100 E;M165 OO"⟩,
  ⟨0x1E828, "MENDE KIKAKUI SYLLABLE ", "M147 O;M137 EI;M131 IN;M135 IN;M195 AN;M178 EN;M019 SI;M020 SA;M021 SU"⟩,
  ⟨0x1E831, "MENDE KIKAKUI SYLLABLE ", "M162 SEE;M116 SE;M136 SOO;M079 SO;M196 SIA;M025 LI;M026 LA;M027 LU;M084 LEE"⟩,
  ⟨0x1E83A, "MENDE KIKAKUI SYLLABLE ", "M073 LE;M054 LOO;M153 LO;M110 LONG LE;M016 DI;M017 DA;M018 DU;M089 DEE"⟩,
  ⟨0x1E842, "MENDE KIKAKUI SYLLABLE ", "M180 DOO;M181 DO;M022 TI;M023 TA;M024 TU;M091 TEE;M055 TE;M104 TOO;M069 TO"⟩,
  ⟨0x1E84B, "MENDE KIKAKUI SYLLABLE ", "M028 JI;M029 JA;M030 JU;M157 JEE;M113 JE;M160 JOO;M063 JO;M175 LONG JO"⟩,
  ⟨0x1E853, "MENDE KIKAKUI SYLLABLE ", "M031 YI;M032 YA;M033 YU;M109 YEE;M080 YE;M141 YOO;M121 YO;M034 FI"⟩,
  ⟨0x1E85B, "MENDE KIKAKUI SYLLABLE ", "M035 FA;M036 FU;M078 FEE;M075 FE;M133 FOO;M088 FO;M197 FUA;M101 FAN;M037 NIN"⟩,
  ⟨0x1E864, "MENDE KIKAKUI SYLLABLE ", "M038 NAN;M039 NUN;M117 NEN;M169 NON;M176 HI;M041 HA;M186 HU;M040 HEE"⟩,
  ⟨0x1E86C, "MENDE KIKAKUI SYLLABLE ", "M096 HE;M042 HOO;M140 HO;M083 HEEI;M128 HOOU;M053 HIN;M130 HAN;M087 HUN"⟩,
  ⟨0x1E874, "MENDE KIKAKUI SYLLABLE ", "M052 HEN;M193 HON;M046 HUAN;M090 NGGI;M043 NGGA;M082 NGGU;M115 NGGEE"⟩,
  ⟨0x1E87B, "MENDE KIKAKUI SYLLABLE ", "M146 NGGE;M156 NGGOO;M120 NGGO;M159 NGGAA;M127 NGGUA;M086 LONG NGGE"⟩,
  ⟨0x1E881, "MENDE KIKAKUI SYLLABLE ", "M106 LONG NGGOO;M183 LONG NGGO;M155 GI;M111 GA;M168 GU;M190 GEE"⟩,
  ⟨0x1E887, "MENDE KIKAKUI SYLLABLE ", "M166 GUEI;M167 GUAN;M184 NGEN;M057 NGON;M177 NGUAN;M068 PI;M099 PA;M050 PU"⟩,
  ⟨0x1E88F, "MENDE KIKAKUI SYLLABLE ", "M081 PEE;M051 PE;M102 POO;M066 PO;M145 MBI;M062 MBA;M122 MBU;M047 MBEE"⟩,
  ⟨0x1E897, "MENDE KIKAKUI SYLLABLE ", "M188 MBEE;M072 MBE;M172 MBOO;M174 MBO;M187 MBUU;M161 LONG MBE;M105 LONG MBOO"⟩,
  ⟨0x1E89E, "MENDE KIKAKUI SYLLABLE ", "M142 LONG MBO;M132 KPI;M092 KPA;M074 KPU;M044 KPEE;M108 KPE;M112 KPOO"⟩,
  ⟨0x1E8A5, "MENDE KIKAKUI SYLLABLE ", "M158 KPO;M124 GBI;M056 GBA;M148 GBU;M093 GBEE;M107 GBE;M071 GBOO;M070 GBO"⟩,
  ⟨0x1E8AD, "MENDE KIKAKUI SYLLABLE ", "M171 RA;M123 NDI;M129 NDA;M125 NDU;M191 NDEE;M119 NDE;M067 NDOO;M064 NDO"⟩,
  ⟨0x1E8B5, "MENDE KIKAKUI SYLLABLE ", "M152 NJA;M192 NJU;M149 NJEE;M134 NJOO;M182 VI;M185 VA;M151 VU;M173 VEE"⟩,
  ⟨0x1E8BD, "MENDE KIKAKUI SYLLABLE ", "M085 VE;M144 VOO;M077 VO;M164 NYIN;M058 NYAN;M170 NYUN;M098 NYEN;M060 NYON"⟩,
  ⟨0x1E8C7, "MENDE KIKAKUI DIGIT ", "ONE;TWO;THREE;FOUR;FIVE;SIX;SEVEN;EIGHT;NINE"⟩,
  ⟨0x1E8D0, "", "MENDE KIKAKUI COMBINING NUMBER TEENS"⟩,
  ⟨0x1E8D1, "MENDE KIKAKUI COMBINING NUMBER ", "TENS;HUNDREDS;THOUSANDS;TEN THOUSANDS;HUNDRED THOUSANDS;MILLIONS"⟩,
  ⟨0x1E900, "ADLAM CAPITAL LETTER ", "ALIF;DAALI;LAAM;MIIM;BA;SINNYIIYHE;PE;BHE;RA;E;FA;I;O"⟩,
  ⟨0x1E90D, "ADLAM CAPITAL LETTER ", "DHA;YHE;WAW;NUN;KAF;YA;U;JIIM;CHI;HA;QAAF;GA;NYA;TU;NHA;VA;KHA;GBE;ZAL;KPO;SHA"⟩,
  ⟨0x1E922, "ADLAM SMALL LETTER ", "ALIF;DAALI;LAAM;MIIM;BA;SINNYIIYHE;PE;BHE;RA;E;FA;I"⟩,
  ⟨0x1E92E, "ADLAM SMALL LETTER ", "O;DHA;YHE;WAW;NUN;KAF;YA;U;JIIM;CHI;HA;QAAF;GA;NYA;TU;NHA;VA;KHA;GBE;ZAL;KPO;SHA"⟩,
  ⟨0x1E944, "ADLAM ", "ALIF LENGTHENER;VOWEL LENGTHENER"⟩,
  ⟨0x1E946, "ADLAM ", "GEMINATION MARK;HAMZA;CONSONANT MODIFIER;GEMINATE CONSONANT MODIFIER;NUKTA;NASALIZATION MARK"⟩,
  ⟨0x1E950, "ADLAM DIGIT ", "ZERO;ONE;TWO;THREE;FOUR;FIVE;SIX;SEVEN;EIGHT;NINE"⟩,
  ⟨0x1E95E, "ADLAM INITIAL ", "EXCLAMATION MARK;QUESTION MARK"⟩,
  ⟨0x1EC71, "INDIC SIYAQ NUMBER ", "ONE;TWO;THREE;FOUR;FIVE;SIX;SEVEN;EIGHT;NINE;TEN"⟩,
  ⟨0x1EC7B, "INDIC SIYAQ NUMBER ", "TWENTY;THIRTY;FORTY;FIFTY;SIXTY;SEVENTY;EIGHTY;NINETY;ONE HUNDRED;TWO HUNDRED"⟩,
  ⟨0x1EC85, "INDIC SIYAQ NUMBER ", "THREE HUNDRED;FOUR HUNDRED;FIVE HUNDRED;SIX HUNDRED;SEVEN HUNDRED;EIGHT HUNDRED"⟩,
  ⟨0x1EC8B, "INDIC SIYAQ NUMBER ", "NINE HUNDRED;ONE THOUSAND;TWO THOUSAND;THREE THOUSAND;FOUR THOUSAND"⟩,
  ⟨0x1EC90, "INDIC SIYAQ NUMBER ", "FIVE THOUSAND;SIX THOUSAND;SEVEN THOUSAND;EIGHT THOUSAND;NINE THOUSAND"⟩,
  ⟨0x1EC95, "INDIC SIYAQ NUMBER ", "TEN THOUSAND;TWENTY THOUSAND;THIRTY THOUSAND;FORTY THOUSAND;FIFTY THOUSAND"⟩,
  ⟨0x1EC9A, "INDIC SIYAQ NUMBER ", "SIXTY THOUSAND;SEVENTY THOUSAND;EIGHTY THOUSAND;NINETY THOUSAND;LAKH;LAKHAN"⟩,
  ⟨0x1ECA0, "INDIC SIYAQ ", "LAKH MARK;NUMBER KAROR;NUMBER KARORAN"⟩,
  ⟨0x1ECA3, "INDIC SIYAQ NUMBER PREFIXED ", "ONE;TWO;THREE;FOUR;FIVE;SIX;SEVEN;EIGHT;NINE"⟩,
  ⟨0x1ECAC, "INDIC SIYAQ ", "PLACEHOLDER;FRACTION ONE QUARTER;FRACTION ONE HALF;FRACTION THREE QUARTERS;RUPEE MARK"⟩,
  ⟨0x1ECB1, "INDIC SIYAQ NUMBER ALTERNATE ", "ONE;TWO;TEN THOUSAND"⟩,
  ⟨0x1ECB4, "", "INDIC SIYAQ ALTERNATE LAKH MARK"⟩,
  ⟨0x1ED01, "OTTOMAN SIYAQ NUMBER ", "ONE;TWO;THREE;FOUR;FIVE;SIX;SEVEN;EIGHT;NINE;TEN;TWENTY;THIRTY;FORTY;FIFTY"⟩,
  ⟨0x1ED0F, "OTTOMAN SIYAQ NUMBER ", "SIXTY;SEVENTY;EIGHTY;NINETY;ONE HUNDRED;TWO HUNDRED;THREE HUNDRED;FOUR HUNDRED"⟩,
  ⟨0x1ED17, "OTTOMAN SIYAQ NUMBER ", "FIVE HUNDRED;SIX HUNDRED;SEVEN HUNDRED;EIGHT HUNDRED;NINE HUNDRED;ONE THOUSAND"⟩,
  ⟨0x1ED1D, "OTTOMAN SIYAQ NUMBER ", "TWO THOUSAND;THREE THOUSAND;FOUR THOUSAND;FIVE THOUSAND;SIX THOUSAND"⟩,
  ⟨0x1ED22, "OTTOMAN SIYAQ NUMBER ", "SEVEN THOUSAND;EIGHT THOUSAND;NINE THOUSAND;TEN THOUSAND;TWENTY THOUSAND"⟩,
  ⟨0x1ED27, "OTTOMAN SIYAQ NUMBER ", "THIRTY THOUSAND;FORTY THOUSAND;FIFTY THOUSAND;SIXTY THOUSAND;SEVENTY THOUSAND"⟩,
  ⟨0x1ED2C, "OTTOMAN SIYAQ ", "NUMBER EIGHTY THOUSAND;NUMBER NINETY THOUSAND;MARRATAN"⟩,
  ⟨0x1ED2F, "OTTOMAN SIYAQ ALTERNATE NUMBER ", "TWO;THREE;FOUR;FIVE;SIX;SEVEN"⟩,
  ⟨0x1ED35, "OTTOMAN SIYAQ ALTERNATE NUMBER ", "EIGHT;NINE;TEN;FOUR HUNDRED;SIX HUNDRED;TWO THOUSAND;TEN THOUSAND"⟩,
  ⟨0x1ED3C, "OTTOMAN SIYAQ FRACTION ONE ", "HALF;SIXTH"⟩,
  ⟨0x1EE00, "ARABIC MATHEMATICAL ", "ALEF;BEH;JEEM;DAL"⟩,
  ⟨0x1EE05, "ARABIC MATHEMATICAL ", "WAW;ZAIN;HAH;TAH;YEH;KAF;LAM;MEEM;NOON;SEEN;AIN;FEH;SAD;QAF;REH;SHEEN;TEH"⟩,
  ⟨0x1EE16, "ARABIC MATHEMATICAL ", "THEH;KHAH;THAL;DAD;ZAH;GHAIN;DOTLESS BEH;DOTLESS NOON;DOTLESS FEH;DOTLESS QAF"⟩,
  ⟨0x1EE21, "ARABIC MATHEMATICAL INITIAL ", "BEH;JEEM"⟩,
  ⟨0x1EE24, "", "ARABIC MATHEMATICAL INITIAL HEH"⟩,
  ⟨0x1EE27, "", "ARABIC MATHEMATICAL INITIAL HAH"⟩,
  ⟨0x1EE29, "ARABIC MATHEMATICAL INITIAL ", "YEH;KAF;LAM;MEEM;NOON;SEEN;AIN;FEH;SAD;QAF"⟩,
  ⟨0x1EE34, "ARABIC MATHEMATICAL INITIAL ", "SHEEN;TEH;THEH;KHAH"⟩,
  ⟨0x1EE39, "", "ARABIC MATHEMATICAL INITIAL DAD"⟩,
  ⟨0x1EE3B, "", "ARABIC MATHEMATICAL INITIAL GHAIN"⟩,
  ⟨0x1EE42, "", "ARABIC MATHEMATICAL TAILED JEEM"⟩,
  ⟨0x1EE47, "", "ARABIC MATHEMATICAL TAILED HAH"⟩,
  ⟨0x1EE49, "", "ARABIC MATHEMATICAL TAILED YEH"⟩,
  ⟨0x1EE4B, "", "ARABIC MATHEMATICAL TAILED LAM"⟩,
  ⟨0x1EE4D, "ARABIC MATHEMATICAL TAILED ", "NOON;SEEN;AIN"⟩,
  ⟨0x1EE51, "ARABIC MATHEMATICAL TAILED ", "SAD;QAF"⟩,
  ⟨0x1EE54, "", "ARABIC MATHEMATICAL TAILED SHEEN"⟩,
  ⟨0x1EE57, "", "ARABIC MATHEMATICAL TAILED KHAH"⟩,
  ⟨0x1EE59, "", "ARABIC MATHEMATICAL TAILED DAD"⟩,
  ⟨0x1EE5B, "", "ARABIC MATHEMATICAL TAILED GHAIN"⟩,
  ⟨0x1EE5D, "", "ARABIC MATHEMATICAL TAILED DOTLESS NOON"⟩,
  ⟨0x1EE5F, "", "ARABIC MATHEMATICAL TAILED DOTLESS QAF"⟩,
  ⟨0x1EE61, "ARABIC MATHEMATICAL STRETCHED ", "BEH;JEEM"⟩,
  ⟨0x1EE64, "", "ARABIC MATHEMATICAL STRETCHED HEH"⟩,
  ⟨0x1EE67, "ARABIC MATHEMATICAL STRETCHED ", "HAH;TAH;YEH;KAF"⟩,
  ⟨0x1EE6C, "ARABIC MATHEMATICAL STRETCHED ", "MEEM;NOON;SEEN;AIN;FEH;SAD;QAF"⟩,
  ⟨0x1EE74, "ARABIC MATHEMATICAL STRETCHED ", "SHEEN;TEH;THEH;KHAH"⟩,
  ⟨0x1EE79, "ARABIC MATHEMATICAL STRETCHED ", "DAD;ZAH;GHAIN;DOTLESS BEH"⟩,
  ⟨0x1EE7E, "", "ARABIC MATHEMATICAL STRETCHED DOTLESS FEH"⟩,
  ⟨0x1EE80, "ARABIC MATHEMATICAL LOOPED ", "ALEF;BEH;JEEM;DAL;HEH;WAW;ZAIN;HAH;TAH;YEH"⟩,
  ⟨0x1EE8B, "ARABIC MATHEMATICAL LOOPED ", "LAM;MEEM"⟩,
  ⟨0x1EE8D, "ARABIC MATHEMATICAL LOOPED ", "NOON;SEEN;AIN;FEH;SAD;QAF;REH;SHEEN;TEH;THEH;KHAH;THAL;DAD;ZAH;GHAIN"⟩,
  ⟨0x1EEA1, "ARABIC MATHEMATICAL DOUBLE-STRUCK ", "BEH;JEEM;DAL"⟩,
  ⟨0x1EEA5, "ARABIC MATHEMATICAL DOUBLE-STRUCK ", "WAW;ZAIN;HAH;TAH;YEH"⟩,
  ⟨0x1EEAB, "ARABIC MATHEMATICAL DOUBLE-STRUCK ", "LAM;MEEM;NOON"⟩,
  ⟨0x1EEAE, "ARABIC MATHEMATICAL DOUBLE-STRUCK ", "SEEN;AIN;FEH;SAD;QAF;REH;SHEEN;TEH;THEH;KHAH;THAL;DAD;ZAH;GHAIN"⟩,
  ⟨0x1EEF0, "ARABIC MATHEMATICAL OPERATOR ", "MEEM WITH HAH WITH TATWEEL;HAH WITH DAL"⟩,
  ⟨0x1F000, "MAHJONG TILE ", "EAST WIND;SOUTH WIND;WEST WIND;NORTH WIND;RED DRAGON"⟩,
  ⟨0x1F005, "MAHJONG TILE ", "GREEN DRAGON;WHITE DRAGON;ONE OF CHARACTERS;TWO OF CHARACTERS;THREE OF CHARACTERS"⟩,
  ⟨0x1F00A, "MAHJONG TILE ", "FOUR OF CHARACTERS;FIVE OF CHARACTERS;SIX OF CHARACTERS;SEVEN OF CHARACTERS"⟩,
  ⟨0x1F00E, "MAHJONG TILE ", "EIGHT OF CHARACTERS;NINE OF CHARACTERS;ONE OF BAMBOOS;TWO OF BAMBOOS;THREE OF BAMBOOS"⟩,
  ⟨0x1F013, "MAHJONG TILE ", "FOUR OF BAMBOOS;FIVE OF BAMBOOS;SIX OF BAMBOOS;SEVEN OF BAMBOOS;EIGHT OF BAMBOOS"⟩,
  ⟨0x1F018, "MAHJONG TILE ", "NINE OF BAMBOOS;ONE OF CIRCLES;TWO OF CIRCLES;THREE OF CIRCLES;FOUR OF CIRCLES"⟩,
  ⟨0x1F01D, "MAHJONG TILE ", "FIVE OF CIRCLES;SIX OF CIRCLES;SEVEN OF CIRCLES;EIGHT OF CIRCLES;NINE OF CIRCLES"⟩,
  ⟨0x1F022, "MAHJONG TILE ", "PLUM;ORCHID;BAMBOO;CHRYSANTHEMUM;SPRING;SUMMER;AUTUMN;WINTER;JOKER;BACK"⟩,
  ⟨0x1F030, "", "DOMINO TILE HORIZONTAL BACK"⟩,
  ⟨0x1F031, "DOMINO TILE HORIZONTAL-00-", "00;01;02;03;04;05;06"⟩,
  ⟨0x1F038, "DOMINO TILE HORIZONTAL-01-", "00;01;02;03;04;05;06"⟩,
  ⟨0x1F03F, "DOMINO TILE HORIZONTAL-02-", "00;01;02;03;04;05;06"⟩,
  ⟨0x1F046, "DOMINO TILE HORIZONTAL-03-", "00;01;02;03;04;05;06"⟩,
  ⟨0x1F04D, "DOMINO TILE HORIZONTAL-04-", "00;01;02;03;04;05;06"⟩,
  ⟨0x1F054, "DOMINO TILE HORIZONTAL-05-", "00;01;02;03;04;05;06"⟩,
  ⟨0x1F05B, "DOMINO TILE HORIZONTAL-06-", "00;01;02;03;04;05;06"⟩,
  ⟨0x1F062, "", "DOMINO TILE VERTICAL BACK"⟩,
  ⟨0x1F063, "DOMINO TILE VERTICAL-00-", "00;01;02;03;04;05;06"⟩,
  ⟨0x1F06A, "DOMINO TILE VERTICAL-01-", "00;01;02;03;04;05;06"⟩,
  ⟨0x1F071, "DOMINO TILE VERTICAL-02-", "00;01;02;03;04;05;06"⟩,
  ⟨0x1F078, "DOMINO TILE VERTICAL-03-", "00;01;02;03;04;05;06"⟩,
  ⟨0x1F07F, "DOMINO TILE VERTICAL-04-", "00;01;02;03;04;05;06"⟩,
  ⟨0x1F086, "DOMINO TILE VERTICAL-05-", "00;01;02;03;04;05;06"⟩,
  ⟨0x1F08D, "DOMINO TILE VERTICAL-06-", "00;01;02;03;04;05;06"⟩,
  ⟨0x1F0A0, "PLAYING CARD ", "BACK;ACE OF SPADES;TWO OF SPADES;THREE OF SPADES;FOUR OF SPADES"⟩,
  ⟨0x1F0A5, "PLAYING CARD ", "FIVE OF SPADES;SIX OF SPADES;SEVEN OF SPADES;EIGHT OF SPADES;NINE OF SPADES"⟩,
  ⟨0x1F0AA, "PLAYING CARD ", "TEN OF SPADES;JACK OF SPADES;KNIGHT OF SPADES;QUEEN OF SPADES;KING OF SPADES"⟩,
  ⟨0x1F0B1, "PLAYING CARD ", "ACE OF HEARTS;TWO OF HEARTS;THREE OF HEARTS;FOUR OF HEARTS"⟩,
  ⟨0x1F0B5, "PLAYING CARD ", "FIVE OF HEARTS;SIX OF HEARTS;SEVEN OF HEARTS;EIGHT OF HEARTS;NINE OF HEARTS"⟩,
  ⟨0x1F0BA, "PLAYING CARD ", "TEN OF HEARTS;JACK OF HEARTS;KNIGHT OF HEARTS;QUEEN OF HEARTS;KING OF HEARTS;RED JOKER"⟩,
  ⟨0x1F0C1, "PLAYING CARD ", "ACE OF DIAMONDS;TWO OF DIAMONDS;THREE OF DIAMONDS;FOUR OF DIAMONDS;FIVE OF DIAMONDS"⟩,
  ⟨0x1F0C6, "PLAYING CARD ", "SIX OF DIAMONDS;SEVEN OF DIAMONDS;EIGHT OF DIAMONDS;NINE OF DIAMONDS;TEN OF DIAMONDS"⟩,
  ⟨0x1F0CB, "PLAYING CARD ", "JACK OF DIAMONDS;KNIGHT OF DIAMONDS;QUEEN OF DIAMONDS;KING OF DIAMONDS;BLACK JOKER"⟩,
  ⟨0x1F0D1, "PLAYING CARD ", "ACE OF CLUBS;TWO OF CLUBS;THREE OF CLUBS;FOUR OF CLUBS"⟩,
  ⟨0x1F0D5, "PLAYING CARD ", "FIVE OF CLUBS;SIX OF CLUBS;SEVEN OF CLUBS;EIGHT OF CLUBS;NINE OF CLUBS;TEN OF CLUBS"⟩,
  ⟨0x1F0DB, "PLAYING CARD ", "JACK OF CLUBS;KNIGHT OF CLUBS;QUEEN OF CLUBS;KING OF CLUBS;WHITE JOKER;FOOL"⟩,
  ⟨0x1F0E1, "PLAYING CARD TRUMP-", "1;2;3;4;5;6;7;8;9;10;11;12;13;14;15;16;17;18;19;20;21"⟩,
  ⟨0x1F100, "DIGIT ", "ZERO FULL STOP;ZERO COMMA;ONE COMMA"⟩,
  ⟨0x1F103, "DIGIT ", "TWO COMMA;THREE COMMA;FOUR COMMA;FIVE COMMA;SIX COMMA;SEVEN COMMA;EIGHT COMMA;NINE COMMA"⟩,
  ⟨0x1F10B, "DINGBAT ", "CIRCLED SANS-SERIF DIGIT ZERO;NEGATIVE CIRCLED SANS-SERIF DIGIT ZERO"⟩,
  ⟨0x1F10D, "CIRCLED ", "ZERO WITH SLASH;ANTICLOCKWISE ARROW;DOLLAR SIGN WITH OVERLAID BACKSLASH"⟩,
  ⟨0x1F110, "PARENTHESIZED LATIN CAPITAL LETTER ", "A;B;C;D;E;F;G;H;I;J;K;L;M;N;O;P;Q;R;S;T;U;V;W;X;Y;Z"⟩,
  ⟨0x1F12A, "", "TORTOISE SHELL BRACKETED LATIN CAPITAL LETTER S"⟩,
  ⟨0x1F12B, "CIRCLED ITALIC LATIN CAPITAL LETTER ", "C;R"⟩,
  ⟨0x1F12D, "", "CIRCLED CD;CIRCLED WZ;COPYLEFT SYMBOL"⟩,
  ⟨0x1F130, "SQUARED LATIN CAPITAL LETTER ", "A;B;C;D;E;F;G;H;I;J;K;L;M;N;O;P;Q;R;S;T;U;V;W;X;Y;Z"⟩,
  ⟨0x1F14A, "SQUARED ", "HV;MV;SD;SS;PPV;WC"⟩,
  ⟨0x1F150, "NEGATIVE CIRCLED LATIN CAPITAL LETTER ", "A;B;C;D;E;F;G;H;I;J;K;L;M;N;O;P;Q;R;S;T;U;V;W;X;Y;Z"⟩,
  ⟨0x1F16A, "RAISED ", "MC SIGN;MD SIGN;MR SIGN"⟩,
  ⟨0x1F16D, "CIRCLED ", "CC;C WITH OVERLAID BACKSLASH;HUMAN FIGURE"⟩,
  ⟨0x1F170, "NEGATIVE SQUARED LATIN CAPITAL LETTER ", "A;B;C;D;E;F;G;H;I;J;K;L;M;N;O;P;Q;R;S;T;U;V;W;X;Y;Z"⟩,
  ⟨0x1F18A, "", "CROSSED NEGATIVE SQUARED LATIN CAPITAL LETTER P"⟩,
  ⟨0x1F18B, "NEGATIVE SQUARED ", "IC;PA;SA;AB;WC"⟩,
  ⟨0x1F190, "", "SQUARE DJ"⟩,
  ⟨0x1F191, "SQUARED ", "CL;COOL;FREE;ID;NEW;NG;OK;SOS;UP WITH EXCLAMATION MARK;VS;THREE D"⟩,
  ⟨0x1F19C, "SQUARED ", "SECOND SCREEN;TWO K;FOUR K;EIGHT K;FIVE POINT ONE;SEVEN POINT ONE;TWENTY-TWO POINT TWO"⟩,
  ⟨0x1F1A3, "SQUARED ", "SIXTY P;ONE HUNDRED TWENTY P;LATIN SMALL LETTER D;HC;HDR;HI-RES;LOSSLESS;SHV;UHD;VOD"⟩,
  ⟨0x1F1AD, "", "MASK WORK SYMBOL"⟩,
  ⟨0x1F1E6, "REGIONAL INDICATOR SYMBOL LETTER ", "A;B;C;D;E;F;G;H;I;J;K;L;M;N;O;P;Q;R;S;T;U;V;W;X;Y;Z"⟩,
  ⟨0x1F200, "", "SQUARE HIRAGANA HOKA;SQUARED KATAKANA KOKO;SQUARED KATAKANA SA"⟩,
  ⟨0x1F210, "SQUARED CJK UNIFIED IDEOGRAPH-", "624B;5B57;53CC"⟩,
  ⟨0x1F213, "", "SQUARED KATAKANA DE"⟩,
  ⟨0x1F214, "SQUARED CJK UNIFIED IDEOGRAPH-", "4E8C;591A;89E3;5929;4EA4;6620;7121;6599;524D;5F8C;518D;65B0"⟩,
  ⟨0x1F220, "SQUARED CJK UNIFIED IDEOGRAPH-", "521D;7D42;751F;8CA9;58F0;5439;6F14;6295;6355;4E00;4E09;904A;5DE6;4E2D"⟩,
  ⟨0x1F22E, "SQUARED CJK UNIFIED IDEOGRAPH-", "53F3;6307;8D70;6253;7981;7A7A;5408;6E80;6709;6708;7533;5272;55B6;914D"⟩,
  ⟨0x1F240, "TORTOISE SHELL BRACKETED CJK UNIFIED IDEOGRAPH-", "672C;4E09;4E8C;5B89;70B9;6253;76D7;52DD;6557"⟩,
  ⟨0x1F250, "CIRCLED IDEOGRAPH ", "ADVANTAGE;ACCEPT"⟩,
  ⟨0x1F260, "ROUNDED SYMBOL FOR ", "FU;LU;SHOU;XI;SHUANGXI;CAI"⟩,
  ⟨0x1F300, "", "CYCLONE;FOGGY;CLOSED UMBRELLA;NIGHT WITH STARS;SUNRISE OVER MOUNTAINS;SUNRISE"⟩,
  ⟨0x1F306, "", "CITYSCAPE AT DUSK;SUNSET OVER BUILDINGS;RAINBOW;BRIDGE AT NIGHT;WATER WAVE;VOLCANO;MILKY WAY"⟩,
  ⟨0x1F30D, "EARTH GLOBE ", "EUROPE-AFRICA;AMERICAS;ASIA-AUSTRALIA"⟩,
  ⟨0x1F310, "", "GLOBE WITH MERIDIANS"⟩,
  ⟨0x1F311, "", "NEW MOON SYMBOL;WAXING CRESCENT MOON SYMBOL;FIRST QUARTER MOON SYMBOL;WAXING GIBBOUS MOON SYMBOL"⟩,
  ⟨0x1F315, "", "FULL MOON SYMBOL;WANING GIBBOUS MOON SYMBOL;LAST QUARTER MOON SYMBOL;WANING CRESCENT MOON SYMBOL"⟩,
  ⟨0x1F319, "", "CRESCENT MOON;NEW MOON WITH FACE;FIRST QUARTER MOON WITH FACE;LAST QUARTER MOON WITH FACE"⟩,
  ⟨0x1F31D, "", "FULL MOON WITH FACE;SUN WITH FACE;GLOWING STAR;SHOOTING STAR;THERMOMETER;BLACK DROPLET;WHITE SUN"⟩,
  ⟨0x1F324, "WHITE SUN ", "WITH SMALL CLOUD;BEHIND CLOUD;BEHIND CLOUD WITH RAIN"⟩,
  ⟨0x1F327, "CLOUD WITH ", "RAIN;SNOW;LIGHTNING;TORNADO"⟩,
  ⟨0x1F32B, "", "FOG;WIND BLOWING FACE;HOT DOG;TACO;BURRITO;CHESTNUT;SEEDLING;EVERGREEN TREE"⟩,
  ⟨0x1F333, "", "DECIDUOUS TREE;PALM TREE;CACTUS;HOT PEPPER;TULIP;CHERRY BLOSSOM;ROSE;HIBISCUS;SUNFLOWER;BLOSSOM"⟩,
  ⟨0x1F33D, "", "EAR OF MAIZE;EAR OF RICE;HERB;FOUR LEAF CLOVER;MAPLE LEAF;FALLEN LEAF;LEAF FLUTTERING IN WIND"⟩,
  ⟨0x1F344, "", "MUSHROOM;TOMATO;AUBERGINE;GRAPES;MELON;WATERMELON;TANGERINE;LEMON;BANANA;PINEAPPLE;RED APPLE"⟩,
  ⟨0x1F34F, "", "GREEN APPLE;PEAR;PEACH;CHERRIES;STRAWBERRY;HAMBURGER;SLICE OF PIZZA;MEAT ON BONE;POULTRY LEG"⟩,
  ⟨0x1F358, "", "RICE CRACKER;RICE BALL;COOKED RICE;CURRY AND RICE;STEAMING BOWL;SPAGHETTI;BREAD;FRENCH FRIES"⟩,
  ⟨0x1F360, "", "ROASTED SWEET POTATO;DANGO;ODEN;SUSHI;FRIED SHRIMP;FISH CAKE WITH SWIRL DESIGN;SOFT ICE CREAM"⟩,
  ⟨0x1F367, "", "SHAVED ICE;ICE CREAM;DOUGHNUT;COOKIE;CHOCOLATE BAR;CANDY;LOLLIPOP;CUSTARD;HONEY POT;SHORTCAKE"⟩,
  ⟨0x1F371, "", "BENTO BOX;POT OF FOOD;COOKING;FORK AND KNIFE;TEACUP WITHOUT HANDLE;SAKE BOTTLE AND CUP;WINE GLASS"⟩,
  ⟨0x1F378, "", "COCKTAIL GLASS;TROPICAL DRINK;BEER MUG;CLINKING BEER MUGS;BABY BOTTLE;FORK AND KNIFE WITH PLATE"⟩,
  ⟨0x1F37E, "", "BOTTLE WITH POPPING CORK;POPCORN;RIBBON;WRAPPED PRESENT;BIRTHDAY CAKE;JACK-O-LANTERN;CHRISTMAS TREE"⟩,
  ⟨0x1F385, "", "FATHER CHRISTMAS;FIREWORKS;FIREWORK SPARKLER;BALLOON;PARTY POPPER;CONFETTI BALL;TANABATA TREE"⟩,
  ⟨0x1F38C, "", "CROSSED FLAGS;PINE DECORATION;JAPANESE DOLLS;CARP STREAMER;WIND CHIME;MOON VIEWING CEREMONY"⟩,
  ⟨0x1F392, "", "SCHOOL SATCHEL;GRADUATION CAP;HEART WITH TIP ON THE LEFT;BOUQUET OF FLOWERS;MILITARY MEDAL"⟩,
  ⟨0x1F397, "", "REMINDER RIBBON;MUSICAL KEYBOARD WITH JACKS;STUDIO MICROPHONE;LEVEL SLIDER;CONTROL KNOBS"⟩,
  ⟨0x1F39C, "BEAMED ", "ASCENDING MUSICAL NOTES;DESCENDING MUSICAL NOTES"⟩,
  ⟨0x1F39E, "", "FILM FRAMES;ADMISSION TICKETS;CAROUSEL HORSE;FERRIS WHEEL;ROLLER COASTER;FISHING POLE AND FISH"⟩,
  ⟨0x1F3A4, "", "MICROPHONE;MOVIE CAMERA;CINEMA;HEADPHONE;ARTIST PALETTE;TOP HAT;CIRCUS TENT;TICKET;CLAPPER BOARD"⟩,
  ⟨0x1F3AD, "", "PERFORMING ARTS;VIDEO GAME;DIRECT HIT;SLOT MACHINE;BILLIARDS;GAME DIE;BOWLING;FLOWER PLAYING CARDS"⟩,
  ⟨0x1F3B5, "", "MUSICAL NOTE;MULTIPLE MUSICAL NOTES;SAXOPHONE;GUITAR;MUSICAL KEYBOARD;TRUMPET;VIOLIN"⟩,
  ⟨0x1F3BC, "", "MUSICAL SCORE;RUNNING SHIRT WITH SASH;TENNIS RACQUET AND BALL;SKI AND SKI BOOT;BASKETBALL AND HOOP"⟩,
  ⟨0x1F3C1, "", "CHEQUERED FLAG;SNOWBOARDER;RUNNER;SURFER;SPORTS MEDAL;TROPHY;HORSE RACING;AMERICAN FOOTBALL"⟩,
  ⟨0x1F3C9, "", "RUGBY FOOTBALL;SWIMMER;WEIGHT LIFTER;GOLFER;RACING MOTORCYCLE;RACING CAR;CRICKET BAT AND BALL"⟩,
  ⟨0x1F3D0, "", "VOLLEYBALL;FIELD HOCKEY STICK AND BALL;ICE HOCKEY STICK AND PUCK;TABLE TENNIS PADDLE AND BALL"⟩,
  ⟨0x1F3D4, "", "SNOW CAPPED MOUNTAIN;CAMPING;BEACH WITH UMBRELLA;BUILDING CONSTRUCTION;HOUSE BUILDINGS"⟩,
  ⟨0x1F3D9, "", "CITYSCAPE;DERELICT HOUSE BUILDING;CLASSICAL BUILDING;DESERT;DESERT ISLAND;NATIONAL PARK"⟩,
  ⟨0x1F3DF, "", "STADIUM;HOUSE BUILDING;HOUSE WITH GARDEN;OFFICE BUILDING;JAPANESE POST OFFICE;EUROPEAN POST OFFICE"⟩,
  ⟨0x1F3E5, "", "HOSPITAL;BANK;AUTOMATED TELLER MACHINE;HOTEL;LOVE HOTEL;CONVENIENCE STORE;SCHOOL;DEPARTMENT STORE"⟩,
  ⟨0x1F3ED, "", "FACTORY;IZAKAYA LANTERN;JAPANESE CASTLE;EUROPEAN CASTLE;WHITE PENNANT;BLACK PENNANT"⟩,
  ⟨0x1F3F3, "WAVING ", "WHITE FLAG;BLACK FLAG"⟩,
  ⟨0x1F3F5, "", "ROSETTE;BLACK ROSETTE;LABEL;BADMINTON RACQUET AND SHUTTLECOCK;BOW AND ARROW;AMPHORA"⟩,
  ⟨0x1F3FB, "EMOJI MODIFIER FITZPATRICK TYPE-", "1-2;3;4;5;6"⟩,
  ⟨0x1F400, "", "RAT;MOUSE;OX;WATER BUFFALO;COW;TIGER;LEOPARD;RABBIT;CAT;DRAGON"⟩,
  ⟨0x1F40A, "", "CROCODILE;WHALE;SNAIL;SNAKE;HORSE;RAM;GOAT;SHEEP;MONKEY;ROOSTER;CHICKEN;DOG;PIG;BOAR;ELEPHANT"⟩,
  ⟨0x1F419, "", "OCTOPUS;SPIRAL SHELL;BUG;ANT;HONEYBEE;LADY BEETLE;FISH;TROPICAL FISH;BLOWFISH;TURTLE;HATCHING CHICK"⟩,
  ⟨0x1F424, "", "BABY CHICK;FRONT-FACING BABY CHICK;BIRD;PENGUIN;KOALA;POODLE;DROMEDARY CAMEL;BACTRIAN CAMEL"⟩,
  ⟨0x1F42C, "", "DOLPHIN;MOUSE FACE;COW FACE;TIGER FACE;RABBIT FACE;CAT FACE;DRAGON FACE;SPOUTING WHALE"⟩,
  ⟨0x1F434, "", "HORSE FACE;MONKEY FACE;DOG FACE;PIG FACE;FROG FACE;HAMSTER FACE;WOLF FACE;BEAR FACE;PANDA FACE"⟩,
  ⟨0x1F43D, "", "PIG NOSE;PAW PRINTS;CHIPMUNK;EYES;EYE;EAR;NOSE;MOUTH;TONGUE;WHITE UP POINTING BACKHAND INDEX"⟩,
  ⟨0x1F447, "WHITE ", "DOWN POINTING BACKHAND INDEX;LEFT POINTING BACKHAND INDEX;RIGHT POINTING BACKHAND INDEX"⟩,
  ⟨0x1F44A, "", "FISTED HAND SIGN;WAVING HAND SIGN;OK HAND SIGN;THUMBS UP SIGN;THUMBS DOWN SIGN"⟩,
  ⟨0x1F44F, "", "CLAPPING HANDS SIGN;OPEN HANDS SIGN;CROWN;WOMANS HAT;EYEGLASSES;NECKTIE;T-SHIRT;JEANS"⟩,
  ⟨0x1F457, "", "DRESS;KIMONO;BIKINI;WOMANS CLOTHES;PURSE;HANDBAG;POUCH;MANS SHOE;ATHLETIC SHOE;HIGH-HEELED SHOE"⟩,
  ⟨0x1F461, "", "WOMANS SANDAL;WOMANS BOOTS;FOOTPRINTS;BUST IN SILHOUETTE;BUSTS IN SILHOUETTE;BOY;GIRL;MAN;WOMAN"⟩,
  ⟨0x1F46A, "", "FAMILY;MAN AND WOMAN HOLDING HANDS;TWO MEN HOLDING HANDS;TWO WOMEN HOLDING HANDS;POLICE OFFICER"⟩,
  ⟨0x1F46F, "", "WOMAN WITH BUNNY EARS;BRIDE WITH VEIL;PERSON WITH BLOND HAIR;MAN WITH GUA PI MAO;MAN WITH TURBAN"⟩,
  ⟨0x1F474, "", "OLDER MAN;OLDER WOMAN;BABY;CONSTRUCTION WORKER;PRINCESS;JAPANESE OGRE;JAPANESE GOBLIN"⟩,
  ⟨0x1F47B, "", "GHOST;BABY ANGEL;EXTRATERRESTRIAL ALIEN;ALIEN MONSTER;IMP;SKULL;INFORMATION DESK PERSON"⟩,
  ⟨0x1F482, "", "GUARDSMAN;DANCER;LIPSTICK;NAIL POLISH;FACE MASSAGE;HAIRCUT;BARBER POLE;SYRINGE;PILL;KISS MARK"⟩,
  ⟨0x1F48C, "", "LOVE LETTER;RING;GEM STONE;KISS;BOUQUET;COUPLE WITH HEART;WEDDING;BEATING HEART;BROKEN HEART"⟩,
  ⟨0x1F495, "", "TWO HEARTS;SPARKLING HEART;GROWING HEART;HEART WITH ARROW;BLUE HEART;GREEN HEART;YELLOW HEART"⟩,
  ⟨0x1F49C, "", "PURPLE HEART;HEART WITH RIBBON;REVOLVING HEARTS;HEART DECORATION;DIAMOND SHAPE WITH A DOT INSIDE"⟩,
  ⟨0x1F4A1, "", "ELECTRIC LIGHT BULB;ANGER SYMBOL;BOMB;SLEEPING SYMBOL;COLLISION SYMBOL;SPLASHING SWEAT SYMBOL"⟩,
  ⟨0x1F4A7, "", "DROPLET;DASH SYMBOL;PILE OF POO;FLEXED BICEPS;DIZZY SYMBOL;SPEECH BALLOON;THOUGHT BALLOON"⟩,
  ⟨0x1F4AE, "", "WHITE FLOWER;HUNDRED POINTS SYMBOL;MONEY BAG;CURRENCY EXCHANGE;HEAVY DOLLAR SIGN;CREDIT CARD"⟩,
  ⟨0x1F4B4, "BANKNOTE WITH ", "YEN SIGN;DOLLAR SIGN;EURO SIGN;POUND SIGN"⟩,
  ⟨0x1F4B8, "", "MONEY WITH WINGS;CHART WITH UPWARDS TREND AND YEN SIGN"⟩,
  ⟨0x1F4BA, "", "SEAT;PERSONAL COMPUTER;BRIEFCASE;MINIDISC;FLOPPY DISK;OPTICAL DISC;DVD;FILE FOLDER;OPEN FILE FOLDER"⟩,
  ⟨0x1F4C3, "", "PAGE WITH CURL;PAGE FACING UP;CALENDAR;TEAR-OFF CALENDAR;CARD INDEX;CHART WITH UPWARDS TREND"⟩,
  ⟨0x1F4C9, "", "CHART WITH DOWNWARDS TREND;BAR CHART;CLIPBOARD;PUSHPIN;ROUND PUSHPIN;PAPERCLIP;STRAIGHT RULER"⟩,
  ⟨0x1F4D0, "", "TRIANGULAR RULER;BOOKMARK TABS;LEDGER;NOTEBOOK;NOTEBOOK WITH DECORATIVE COVER;CLOSED BOOK"⟩,
  ⟨0x1F4D6, "", "OPEN BOOK;GREEN BOOK;BLUE BOOK;ORANGE BOOK;BOOKS;NAME BADGE;SCROLL;MEMO;TELEPHONE RECEIVER"⟩,
  ⟨0x1F4DF, "", "PAGER;FAX MACHINE;SATELLITE ANTENNA;PUBLIC ADDRESS LOUDSPEAKER;CHEERING MEGAPHONE"⟩,
  ⟨0x1F4E4, "", "OUTBOX TRAY;INBOX TRAY;PACKAGE;E-MAIL SYMBOL;INCOMING ENVELOPE;ENVELOPE WITH DOWNWARDS ARROW ABOVE"⟩,
  ⟨0x1F4EA, "CLOSED MAILBOX WITH ", "LOWERED FLAG;RAISED FLAG"⟩,
  ⟨0x1F4EC, "", "OPEN MAILBOX WITH RAISED FLAG;OPEN MAILBOX WITH LOWERED FLAG;POSTBOX;POSTAL HORN"⟩,
  ⟨0x1F4F0, "", "NEWSPAPER;MOBILE PHONE;MOBILE PHONE WITH RIGHTWARDS ARROW AT LEFT;VIBRATION MODE;MOBILE PHONE OFF"⟩,
  ⟨0x1F4F5, "", "NO MOBILE PHONES;ANTENNA WITH BARS;CAMERA;CAMERA WITH FLASH;VIDEO CAMERA;TELEVISION"⟩,
  ⟨0x1F4FB, "", "RADIO;VIDEOCASSETTE;FILM PROJECTOR;PORTABLE STEREO;PRAYER BEADS;TWISTED RIGHTWARDS ARROWS"⟩,
  ⟨0x1F501, "CLOCKWISE RIGHTWARDS AND LEFTWARDS OPEN CIRCLE ", "ARROWS;ARROWS WITH CIRCLED ONE OVERLAY"⟩,
  ⟨0x1F503, "", "CLOCKWISE DOWNWARDS AND UPWARDS OPEN CIRCLE ARROWS"⟩,
  ⟨0x1F504, "", "ANTICLOCKWISE DOWNWARDS AND UPWARDS OPEN CIRCLE ARROWS;LOW BRIGHTNESS SYMBOL;HIGH BRIGHTNESS SYMBOL"⟩,
  ⟨0x1F507, "", "SPEAKER WITH CANCELLATION STROKE;SPEAKER;SPEAKER WITH ONE SOUND WAVE;SPEAKER WITH THREE SOUND WAVES"⟩,
  ⟨0x1F50B, "", "BATTERY;ELECTRIC PLUG;LEFT-POINTING MAGNIFYING GLASS;RIGHT-POINTING MAGNIFYING GLASS"⟩,
  ⟨0x1F50F, "", "LOCK WITH INK PEN;CLOSED LOCK WITH KEY;KEY;LOCK;OPEN LOCK;BELL;BELL WITH CANCELLATION STROKE"⟩,
  ⟨0x1F516, "", "BOOKMARK;LINK SYMBOL;RADIO BUTTON;BACK WITH LEFTWARDS ARROW ABOVE;END WITH LEFTWARDS ARROW ABOVE"⟩,
  ⟨0x1F51B, "", "ON WITH EXCLAMATION MARK WITH LEFT RIGHT ARROW ABOVE;SOON WITH RIGHTWARDS ARROW ABOVE"⟩,
  ⟨0x1F51D, "", "TOP WITH UPWARDS ARROW ABOVE;NO ONE UNDER EIGHTEEN SYMBOL;KEYCAP TEN"⟩,
  ⟨0x1F520, "INPUT SYMBOL FOR ", "LATIN CAPITAL LETTERS;LATIN SMALL LETTERS;NUMBERS;SYMBOLS;LATIN LETTERS"⟩,
  ⟨0x1F525, "", "FIRE;ELECTRIC TORCH;WRENCH"⟩,
  ⟨0x1F528, "", "HAMMER;NUT AND BOLT;HOCHO;PISTOL;MICROSCOPE;TELESCOPE;CRYSTAL BALL;SIX POINTED STAR WITH MIDDLE DOT"⟩,
  ⟨0x1F530, "", "JAPANESE SYMBOL FOR BEGINNER;TRIDENT EMBLEM;BLACK SQUARE BUTTON;WHITE SQUARE BUTTON"⟩,
  ⟨0x1F534, "LARGE ", "RED CIRCLE;BLUE CIRCLE;ORANGE DIAMOND;BLUE DIAMOND"⟩,
  ⟨0x1F538, "", "SMALL ORANGE DIAMOND;SMALL BLUE DIAMOND;UP-POINTING RED TRIANGLE;DOWN-POINTING RED TRIANGLE"⟩,
  ⟨0x1F53C, "", "UP-POINTING SMALL RED TRIANGLE;DOWN-POINTING SMALL RED TRIANGLE;LOWER RIGHT SHADOWED WHITE CIRCLE"⟩,
  ⟨0x1F53F, "", "UPPER RIGHT SHADOWED WHITE CIRCLE;CIRCLED CROSS POMMEE;CROSS POMMEE WITH HALF-CIRCLE BELOW"⟩,
  ⟨0x1F542, "", "CROSS POMMEE;NOTCHED LEFT SEMICIRCLE WITH THREE DOTS;NOTCHED RIGHT SEMICIRCLE WITH THREE DOTS"⟩,
  ⟨0x1F545, "", "SYMBOL FOR MARKS CHAPTER;WHITE LATIN CROSS;HEAVY LATIN CROSS;CELTIC CROSS"⟩,
  ⟨0x1F549, "", "OM SYMBOL;DOVE OF PEACE;KAABA;MOSQUE;SYNAGOGUE;MENORAH WITH NINE BRANCHES;BOWL OF HYGIEIA"⟩,
  ⟨0x1F550, "CLOCK FACE ", "ONE OCLOCK;TWO OCLOCK;THREE OCLOCK"⟩,
  ⟨0x1F553, "CLOCK FACE ", "FOUR OCLOCK;FIVE OCLOCK;SIX OCLOCK;SEVEN OCLOCK;EIGHT OCLOCK;NINE OCLOCK;TEN OCLOCK"⟩,
  ⟨0x1F55A, "CLOCK FACE ", "ELEVEN OCLOCK;TWELVE OCLOCK;ONE-THIRTY;TWO-THIRTY;THREE-THIRTY;FOUR-THIRTY;FIVE-THIRTY"⟩,
  ⟨0x1F561, "CLOCK FACE ", "SIX-THIRTY;SEVEN-THIRTY;EIGHT-THIRTY;NINE-THIRTY;TEN-THIRTY;ELEVEN-THIRTY;TWELVE-THIRTY"⟩,
  ⟨0x1F568, "", "RIGHT SPEAKER;RIGHT SPEAKER WITH ONE SOUND WAVE;RIGHT SPEAKER WITH THREE SOUND WAVES;BULLHORN"⟩,
  ⟨0x1F56C, "", "BULLHORN WITH SOUND WAVES;RINGING BELL;BOOK;CANDLE;MANTELPIECE CLOCK;BLACK SKULL AND CROSSBONES"⟩,
  ⟨0x1F572, "", "NO PIRACY;HOLE;MAN IN BUSINESS SUIT LEVITATING;SLEUTH OR SPY;DARK SUNGLASSES"⟩,
  ⟨0x1F577, "", "SPIDER;SPIDER WEB;JOYSTICK;MAN DANCING;LEFT HAND TELEPHONE RECEIVER;TELEPHONE RECEIVER WITH PAGE"⟩,
  ⟨0x1F57D, "", "RIGHT HAND TELEPHONE RECEIVER;WHITE TOUCHTONE TELEPHONE;BLACK TOUCHTONE TELEPHONE"⟩,
  ⟨0x1F580, "", "TELEPHONE ON TOP OF MODEM;CLAMSHELL MOBILE PHONE;BACK OF ENVELOPE;STAMPED ENVELOPE"⟩,
  ⟨0x1F584, "", "ENVELOPE WITH LIGHTNING;FLYING ENVELOPE;PEN OVER STAMPED ENVELOPE;LINKED PAPERCLIPS;BLACK PUSHPIN"⟩,
  ⟨0x1F589, "LOWER LEFT ", "PENCIL;BALLPOINT PEN;FOUNTAIN PEN;PAINTBRUSH;CRAYON"⟩,
  ⟨0x1F58E, "", "LEFT WRITING HAND;TURNED OK HAND SIGN;RAISED HAND WITH FINGERS SPLAYED"⟩,
  ⟨0x1F591, "REVERSED ", "RAISED HAND WITH FINGERS SPLAYED;THUMBS UP SIGN;THUMBS DOWN SIGN;VICTORY HAND"⟩,
  ⟨0x1F595, "", "REVERSED HAND WITH MIDDLE FINGER EXTENDED;RAISED HAND WITH PART BETWEEN MIDDLE AND RING FINGERS"⟩,
  ⟨0x1F597, "", "WHITE DOWN POINTING LEFT HAND INDEX;SIDEWAYS WHITE LEFT POINTING INDEX"⟩,
  ⟨0x1F599, "SIDEWAYS ", "WHITE RIGHT POINTING INDEX;BLACK LEFT POINTING INDEX;BLACK RIGHT POINTING INDEX"⟩,
  ⟨0x1F59C, "BLACK ", "LEFT POINTING BACKHAND INDEX;RIGHT POINTING BACKHAND INDEX"⟩,
  ⟨0x1F59E, "SIDEWAYS WHITE ", "UP POINTING INDEX;DOWN POINTING INDEX"⟩,
  ⟨0x1F5A0, "SIDEWAYS BLACK ", "UP POINTING INDEX;DOWN POINTING INDEX"⟩,
  ⟨0x1F5A2, "BLACK ", "UP POINTING BACKHAND INDEX;DOWN POINTING BACKHAND INDEX;HEART"⟩,
  ⟨0x1F5A5, "", "DESKTOP COMPUTER;KEYBOARD AND MOUSE;THREE NETWORKED COMPUTERS;PRINTER"⟩,
  ⟨0x1F5A9, "", "POCKET CALCULATOR;BLACK HARD SHELL FLOPPY DISK;WHITE HARD SHELL FLOPPY DISK;SOFT SHELL FLOPPY DISK"⟩,
  ⟨0x1F5AD, "", "TAPE CARTRIDGE;WIRED KEYBOARD;ONE BUTTON MOUSE;TWO BUTTON MOUSE;THREE BUTTON MOUSE"⟩,
  ⟨0x1F5B2, "", "TRACKBALL;OLD PERSONAL COMPUTER;HARD DISK;SCREEN;PRINTER ICON;FAX ICON;OPTICAL DISC ICON"⟩,
  ⟨0x1F5B9, "DOCUMENT WITH ", "TEXT;TEXT AND PICTURE;PICTURE"⟩,
  ⟨0x1F5BC, "FRAME WITH ", "PICTURE;TILES;AN X"⟩,
  ⟨0x1F5BF, "", "BLACK FOLDER;FOLDER;OPEN FOLDER;CARD INDEX DIVIDERS;CARD FILE BOX;FILE CABINET"⟩,
  ⟨0x1F5C5, "EMPTY ", "NOTE;NOTE PAGE;NOTE PAD"⟩,
  ⟨0x1F5C8, "", "NOTE;NOTE PAGE;NOTE PAD;EMPTY DOCUMENT;EMPTY PAGE;EMPTY PAGES;DOCUMENT;PAGE;PAGES;WASTEBASKET"⟩,
  ⟨0x1F5D2, "SPIRAL ", "NOTE PAD;CALENDAR PAD"⟩,
  ⟨0x1F5D4, "", "DESKTOP WINDOW;MINIMIZE;MAXIMIZE;OVERLAP;CLOCKWISE RIGHT AND LEFT SEMICIRCLE ARROWS;CANCELLATION X"⟩,
  ⟨0x1F5DA, "", "INCREASE FONT SIZE SYMBOL;DECREASE FONT SIZE SYMBOL;COMPRESSION;OLD KEY;ROLLED-UP NEWSPAPER"⟩,
  ⟨0x1F5DF, "", "PAGE WITH CIRCLED TEXT;STOCK CHART;DAGGER KNIFE;LIPS;SPEAKING HEAD IN SILHOUETTE"⟩,
  ⟨0x1F5E4, "THREE RAYS ", "ABOVE;BELOW;LEFT;RIGHT"⟩,
  ⟨0x1F5E8, "", "LEFT SPEECH BUBBLE;RIGHT SPEECH BUBBLE;TWO SPEECH BUBBLES;THREE SPEECH BUBBLES"⟩,
  ⟨0x1F5EC, "", "LEFT THOUGHT BUBBLE;RIGHT THOUGHT BUBBLE;LEFT ANGER BUBBLE;RIGHT ANGER BUBBLE;MOOD BUBBLE"⟩,
  ⟨0x1F5F1, "LIGHTNING ", "MOOD BUBBLE;MOOD"⟩,
  ⟨0x1F5F3, "BALLOT ", "BOX WITH BALLOT;SCRIPT X;BOX WITH SCRIPT X;BOLD SCRIPT X;BOX WITH BOLD SCRIPT X"⟩,
  ⟨0x1F5F8, "", "LIGHT CHECK MARK;BALLOT BOX WITH BOLD CHECK;WORLD MAP;MOUNT FUJI;TOKYO TOWER;STATUE OF LIBERTY"⟩,
  ⟨0x1F5FE, "", "SILHOUETTE OF JAPAN;MOYAI;GRINNING FACE;GRINNING FACE WITH SMILING EYES;FACE WITH TEARS OF JOY"⟩,
  ⟨0x1F603, "SMILING FACE WITH OPEN ", "MOUTH;MOUTH AND SMILING EYES;MOUTH AND COLD SWEAT"⟩,
  ⟨0x1F606, "SMILING FACE WITH ", "OPEN MOUTH AND TIGHTLY-CLOSED EYES;HALO;HORNS"⟩,
  ⟨0x1F609, "", "WINKING FACE;SMILING FACE WITH SMILING EYES;FACE SAVOURING DELICIOUS FOOD;RELIEVED FACE"⟩,
  ⟨0x1F60D, "SMILING FACE WITH ", "HEART-SHAPED EYES;SUNGLASSES"⟩,
  ⟨0x1F60F, "", "SMIRKING FACE;NEUTRAL FACE;EXPRESSIONLESS FACE;UNAMUSED FACE"⟩,
  ⟨0x1F613, "", "FACE WITH COLD SWEAT;PENSIVE FACE;CONFUSED FACE;CONFOUNDED FACE;KISSING FACE;FACE THROWING A KISS"⟩,
  ⟨0x1F619, "KISSING FACE WITH ", "SMILING EYES;CLOSED EYES"⟩,
  ⟨0x1F61B, "FACE WITH STUCK-OUT ", "TONGUE;TONGUE AND WINKING EYE;TONGUE AND TIGHTLY-CLOSED EYES"⟩,
  ⟨0x1F61E, "", "DISAPPOINTED FACE;WORRIED FACE;ANGRY FACE;POUTING FACE;CRYING FACE;PERSEVERING FACE"⟩,
  ⟨0x1F624, "", "FACE WITH LOOK OF TRIUMPH;DISAPPOINTED BUT RELIEVED FACE;FROWNING FACE WITH OPEN MOUTH"⟩,
  ⟨0x1F627, "", "ANGUISHED FACE;FEARFUL FACE;WEARY FACE;SLEEPY FACE;TIRED FACE;GRIMACING FACE"⟩,
  ⟨0x1F62D, "", "LOUDLY CRYING FACE;FACE WITH OPEN MOUTH;HUSHED FACE;FACE WITH OPEN MOUTH AND COLD SWEAT"⟩,
  ⟨0x1F631, "", "FACE SCREAMING IN FEAR;ASTONISHED FACE;FLUSHED FACE;SLEEPING FACE;DIZZY FACE;FACE WITHOUT MOUTH"⟩,
  ⟨0x1F637, "", "FACE WITH MEDICAL MASK;GRINNING CAT FACE WITH SMILING EYES;CAT FACE WITH TEARS OF JOY"⟩,
  ⟨0x1F63A, "SMILING CAT FACE WITH ", "OPEN MOUTH;HEART-SHAPED EYES"⟩,
  ⟨0x1F63C, "", "CAT FACE WITH WRY SMILE;KISSING CAT FACE WITH CLOSED EYES;POUTING CAT FACE"⟩,
  ⟨0x1F63F, "", "CRYING CAT FACE;WEARY CAT FACE;SLIGHTLY FROWNING FACE;SLIGHTLY SMILING FACE;UPSIDE-DOWN FACE"⟩,
  ⟨0x1F644, "FACE WITH ", "ROLLING EYES;NO GOOD GESTURE;OK GESTURE"⟩,
  ⟨0x1F647, "", "PERSON BOWING DEEPLY"⟩,
  ⟨0x1F648, "", "SEE-NO-EVIL MONKEY;HEAR-NO-EVIL MONKEY;SPEAK-NO-EVIL MONKEY;HAPPY PERSON RAISING ONE HAND"⟩,
  ⟨0x1F64C, "PERSON ", "RAISING BOTH HANDS IN CELEBRATION;FROWNING;WITH POUTING FACE;WITH FOLDED HANDS"⟩,
  ⟨0x1F650, "", "NORTH WEST POINTING LEAF;SOUTH WEST POINTING LEAF;NORTH EAST POINTING LEAF;SOUTH EAST POINTING LEAF"⟩,
  ⟨0x1F654, "TURNED ", "NORTH WEST POINTING LEAF;SOUTH WEST POINTING LEAF;NORTH EAST POINTING LEAF"⟩,
  ⟨0x1F657, "", "TURNED SOUTH EAST POINTING LEAF;NORTH WEST POINTING VINE LEAF"⟩,
  ⟨0x1F659, "", "SOUTH WEST POINTING VINE LEAF;NORTH EAST POINTING VINE LEAF;SOUTH EAST POINTING VINE LEAF"⟩,
  ⟨0x1F65C, "HEAVY ", "NORTH WEST POINTING VINE LEAF;SOUTH WEST POINTING VINE LEAF;NORTH EAST POINTING VINE LEAF"⟩,
  ⟨0x1F65F, "", "HEAVY SOUTH EAST POINTING VINE LEAF;NORTH WEST POINTING BUD;SOUTH WEST POINTING BUD"⟩,
  ⟨0x1F662, "", "NORTH EAST POINTING BUD;SOUTH EAST POINTING BUD;HEAVY NORTH WEST POINTING BUD"⟩,
  ⟨0x1F665, "HEAVY ", "SOUTH WEST POINTING BUD;NORTH EAST POINTING BUD;SOUTH EAST POINTING BUD"⟩,
  ⟨0x1F668, "HOLLOW QUILT SQUARE ", "ORNAMENT;ORNAMENT IN BLACK SQUARE"⟩,
  ⟨0x1F66A, "SOLID QUILT SQUARE ", "ORNAMENT;ORNAMENT IN BLACK SQUARE"⟩,
  ⟨0x1F66C, "", "LEFTWARDS ROCKET;UPWARDS ROCKET;RIGHTWARDS ROCKET;DOWNWARDS ROCKET"⟩,
  ⟨0x1F670, "", "SCRIPT LIGATURE ET ORNAMENT;HEAVY SCRIPT LIGATURE ET ORNAMENT;LIGATURE OPEN ET ORNAMENT"⟩,
  ⟨0x1F673, "", "HEAVY LIGATURE OPEN ET ORNAMENT;HEAVY AMPERSAND ORNAMENT;SWASH AMPERSAND ORNAMENT"⟩,
  ⟨0x1F676, "SANS-SERIF HEAVY DOUBLE ", "TURNED COMMA QUOTATION MARK ORNAMENT;COMMA QUOTATION MARK ORNAMENT"⟩,
  ⟨0x1F678, "", "SANS-SERIF HEAVY LOW DOUBLE COMMA QUOTATION MARK ORNAMENT"⟩,
  ⟨0x1F679, "", "HEAVY INTERROBANG ORNAMENT;SANS-SERIF INTERROBANG ORNAMENT;HEAVY SANS-SERIF INTERROBANG ORNAMENT"⟩,
  ⟨0x1F67C, "VERY HEAVY ", "SOLIDUS;REVERSE SOLIDUS"⟩,
  ⟨0x1F67E, "", "CHECKER BOARD;REVERSE CHECKER BOARD;ROCKET;HELICOPTER;STEAM LOCOMOTIVE;RAILWAY CAR"⟩,
  ⟨0x1F684, "HIGH-SPEED ", "TRAIN;TRAIN WITH BULLET NOSE"⟩,
  ⟨0x1F686, "", "TRAIN;METRO;LIGHT RAIL;STATION;TRAM;TRAM CAR;BUS;ONCOMING BUS;TROLLEYBUS;BUS STOP;MINIBUS;AMBULANCE"⟩,
  ⟨0x1F692, "", "FIRE ENGINE;POLICE CAR;ONCOMING POLICE CAR;TAXI;ONCOMING TAXI;AUTOMOBILE;ONCOMING AUTOMOBILE"⟩,
  ⟨0x1F699, "", "RECREATIONAL VEHICLE;DELIVERY TRUCK;ARTICULATED LORRY;TRACTOR;MONORAIL;MOUNTAIN RAILWAY"⟩,
  ⟨0x1F69F, "", "SUSPENSION RAILWAY;MOUNTAIN CABLEWAY;AERIAL TRAMWAY;SHIP;ROWBOAT;SPEEDBOAT;HORIZONTAL TRAFFIC LIGHT"⟩,
  ⟨0x1F6A6, "", "VERTICAL TRAFFIC LIGHT;CONSTRUCTION SIGN;POLICE CARS REVOLVING LIGHT;TRIANGULAR FLAG ON POST"⟩,
  ⟨0x1F6AA, "", "DOOR;NO ENTRY SIGN;SMOKING SYMBOL;NO SMOKING SYMBOL;PUT LITTER IN ITS PLACE SYMBOL"⟩,
  ⟨0x1F6AF, "", "DO NOT LITTER SYMBOL;POTABLE WATER SYMBOL;NON-POTABLE WATER SYMBOL;BICYCLE"⟩,
  ⟨0x1F6B3, "", "NO BICYCLES;BICYCLIST;MOUNTAIN BICYCLIST;PEDESTRIAN;NO PEDESTRIANS;CHILDREN CROSSING;MENS SYMBOL"⟩,
  ⟨0x1F6BA, "", "WOMENS SYMBOL;RESTROOM;BABY SYMBOL;TOILET;WATER CLOSET;SHOWER;BATH;BATHTUB;PASSPORT CONTROL;CUSTOMS"⟩,
  ⟨0x1F6C4, "", "BAGGAGE CLAIM;LEFT LUGGAGE;TRIANGLE WITH ROUNDED CORNERS;PROHIBITED SIGN;CIRCLED INFORMATION SOURCE"⟩,
  ⟨0x1F6C9, "", "BOYS SYMBOL;GIRLS SYMBOL;COUCH AND LAMP;SLEEPING ACCOMMODATION;SHOPPING BAGS;BELLHOP BELL"⟩,
  ⟨0x1F6CF, "", "BED;PLACE OF WORSHIP;OCTAGONAL SIGN;SHOPPING TROLLEY;STUPA;PAGODA;HINDU TEMPLE;HUT;ELEVATOR"⟩,
  ⟨0x1F6DD, "", "PLAYGROUND SLIDE"⟩,
  ⟨0x1F6DE, "", "WHEEL;RING BUOY;HAMMER AND WRENCH;SHIELD;OIL DRUM;MOTORWAY;RAILWAY TRACK;MOTOR BOAT"⟩,
  ⟨0x1F6E6, "UP-POINTING ", "MILITARY AIRPLANE;AIRPLANE;SMALL AIRPLANE"⟩,
  ⟨0x1F6E9, "", "SMALL AIRPLANE;NORTHEAST-POINTING AIRPLANE;AIRPLANE DEPARTURE;AIRPLANE ARRIVING"⟩,
  ⟨0x1F6F0, "", "SATELLITE;ONCOMING FIRE ENGINE;DIESEL LOCOMOTIVE;PASSENGER SHIP"⟩,
  ⟨0x1F6F4, "", "SCOOTER;MOTOR SCOOTER;CANOE;SLED;FLYING SAUCER;SKATEBOARD;AUTO RICKSHAW;PICKUP TRUCK;ROLLER SKATE"⟩,
  ⟨0x1F700, "ALCHEMICAL SYMBOL FOR ", "QUINTESSENCE;AIR;FIRE;EARTH;WATER;AQUAFORTIS"⟩,
  ⟨0x1F706, "ALCHEMICAL SYMBOL FOR AQUA ", "REGIA;REGIA-2;VITAE;VITAE-2"⟩,
  ⟨0x1F70A, "ALCHEMICAL SYMBOL FOR ", "VINEGAR;VINEGAR-2;VINEGAR-3;SULFUR;PHILOSOPHERS SULFUR;BLACK SULFUR"⟩,
  ⟨0x1F710, "ALCHEMICAL SYMBOL FOR MERCURY ", "SUBLIMATE;SUBLIMATE-2;SUBLIMATE-3"⟩,
  ⟨0x1F713, "ALCHEMICAL SYMBOL FOR ", "CINNABAR;SALT;NITRE;VITRIOL;VITRIOL-2;ROCK SALT;ROCK SALT-2;GOLD;SILVER"⟩,
  ⟨0x1F71C, "ALCHEMICAL SYMBOL FOR ", "IRON ORE;IRON ORE-2;CROCUS OF IRON;REGULUS OF IRON;COPPER ORE;IRON-COPPER ORE"⟩,
  ⟨0x1F722, "ALCHEMICAL SYMBOL FOR ", "SUBLIMATE OF COPPER;CROCUS OF COPPER;CROCUS OF COPPER-2;COPPER ANTIMONIATE"⟩,
  ⟨0x1F726, "ALCHEMICAL SYMBOL FOR ", "SALT OF COPPER ANTIMONIATE;SUBLIMATE OF SALT OF COPPER;VERDIGRIS"⟩,
  ⟨0x1F729, "ALCHEMICAL SYMBOL FOR ", "TIN ORE;LEAD ORE;ANTIMONY ORE;SUBLIMATE OF ANTIMONY;SALT OF ANTIMONY"⟩,
  ⟨0x1F72E, "ALCHEMICAL SYMBOL FOR ", "SUBLIMATE OF SALT OF ANTIMONY;VINEGAR OF ANTIMONY;REGULUS OF ANTIMONY"⟩,
  ⟨0x1F731, "ALCHEMICAL SYMBOL FOR ", "REGULUS OF ANTIMONY-2;REGULUS;REGULUS-2;REGULUS-3;REGULUS-4"⟩,
  ⟨0x1F736, "ALCHEMICAL SYMBOL FOR ", "ALKALI;ALKALI-2;MARCASITE;SAL-AMMONIAC;ARSENIC;REALGAR;REALGAR-2;AURIPIGMENT"⟩,
  ⟨0x1F73E, "ALCHEMICAL SYMBOL FOR ", "BISMUTH ORE;TARTAR;TARTAR-2;QUICK LIME;BORAX;BORAX-2;BORAX-3;ALUM;OIL;SPIRIT"⟩,
  ⟨0x1F748, "ALCHEMICAL SYMBOL FOR ", "TINCTURE;GUM;WAX;POWDER;CALX;TUTTY;CAPUT MORTUUM;SCEPTER OF JOVE;CADUCEUS"⟩,
  ⟨0x1F751, "ALCHEMICAL SYMBOL FOR ", "TRIDENT;STARRED TRIDENT;LODESTONE;SOAP;URINE;HORSE DUNG;ASHES;POT ASHES"⟩,
  ⟨0x1F759, "ALCHEMICAL SYMBOL FOR ", "BRICK;POWDERED BRICK;AMALGAM;STRATUM SUPER STRATUM;STRATUM SUPER STRATUM-2"⟩,
  ⟨0x1F75E, "ALCHEMICAL SYMBOL FOR ", "SUBLIMATION;PRECIPITATE;DISTILL;DISSOLVE;DISSOLVE-2;PURIFY;PUTREFACTION"⟩,
  ⟨0x1F765, "ALCHEMICAL SYMBOL FOR ", "CRUCIBLE;CRUCIBLE-2;CRUCIBLE-3;CRUCIBLE-4;CRUCIBLE-5;ALEMBIC;BATH OF MARY"⟩,
  ⟨0x1F76C, "ALCHEMICAL SYMBOL FOR ", "BATH OF VAPOURS;RETORT;HOUR;NIGHT;DAY-NIGHT;MONTH;HALF DRAM;HALF OUNCE"⟩,
  ⟨0x1F780, "BLACK ", "LEFT-POINTING ISOSCELES RIGHT TRIANGLE;UP-POINTING ISOSCELES RIGHT TRIANGLE"⟩,
  ⟨0x1F782, "BLACK ", "RIGHT-POINTING ISOSCELES RIGHT TRIANGLE;DOWN-POINTING ISOSCELES RIGHT TRIANGLE"⟩,
  ⟨0x1F784, "", "BLACK SLIGHTLY SMALL CIRCLE;MEDIUM BOLD WHITE CIRCLE;BOLD WHITE CIRCLE;HEAVY WHITE CIRCLE"⟩,
  ⟨0x1F788, "", "VERY HEAVY WHITE CIRCLE;EXTREMELY HEAVY WHITE CIRCLE;WHITE CIRCLE CONTAINING BLACK SMALL CIRCLE"⟩,
  ⟨0x1F78B, "", "ROUND TARGET;BLACK TINY SQUARE;BLACK SLIGHTLY SMALL SQUARE;LIGHT WHITE SQUARE;MEDIUM WHITE SQUARE"⟩,
  ⟨0x1F790, "", "BOLD WHITE SQUARE;HEAVY WHITE SQUARE;VERY HEAVY WHITE SQUARE;EXTREMELY HEAVY WHITE SQUARE"⟩,
  ⟨0x1F794, "WHITE SQUARE CONTAINING BLACK ", "VERY SMALL SQUARE;MEDIUM SQUARE"⟩,
  ⟨0x1F796, "", "SQUARE TARGET;BLACK TINY DIAMOND;BLACK VERY SMALL DIAMOND;BLACK MEDIUM SMALL DIAMOND"⟩,
  ⟨0x1F79A, "WHITE DIAMOND CONTAINING BLACK ", "VERY SMALL DIAMOND;MEDIUM DIAMOND"⟩,
  ⟨0x1F79C, "", "DIAMOND TARGET;BLACK TINY LOZENGE;BLACK VERY SMALL LOZENGE"⟩,
  ⟨0x1F79F, "", "BLACK MEDIUM SMALL LOZENGE;WHITE LOZENGE CONTAINING BLACK SMALL LOZENGE;THIN GREEK CROSS"⟩,
  ⟨0x1F7A2, "", "LIGHT GREEK CROSS;MEDIUM GREEK CROSS;BOLD GREEK CROSS;VERY BOLD GREEK CROSS;VERY HEAVY GREEK CROSS"⟩,
  ⟨0x1F7A7, "", "EXTREMELY HEAVY GREEK CROSS;THIN SALTIRE;LIGHT SALTIRE;MEDIUM SALTIRE;BOLD SALTIRE;HEAVY SALTIRE"⟩,
  ⟨0x1F7AD, "", "VERY HEAVY SALTIRE;EXTREMELY HEAVY SALTIRE;LIGHT FIVE SPOKED ASTERISK;MEDIUM FIVE SPOKED ASTERISK"⟩,
  ⟨0x1F7B1, "", "BOLD FIVE SPOKED ASTERISK;HEAVY FIVE SPOKED ASTERISK;VERY HEAVY FIVE SPOKED ASTERISK"⟩,
  ⟨0x1F7B4, "", "EXTREMELY HEAVY FIVE SPOKED ASTERISK;LIGHT SIX SPOKED ASTERISK;MEDIUM SIX SPOKED ASTERISK"⟩,
  ⟨0x1F7B7, "", "BOLD SIX SPOKED ASTERISK;HEAVY SIX SPOKED ASTERISK;VERY HEAVY SIX SPOKED ASTERISK"⟩,
  ⟨0x1F7BA, "", "EXTREMELY HEAVY SIX SPOKED ASTERISK;LIGHT EIGHT SPOKED ASTERISK;MEDIUM EIGHT SPOKED ASTERISK"⟩,
  ⟨0x1F7BD, "", "BOLD EIGHT SPOKED ASTERISK;HEAVY EIGHT SPOKED ASTERISK;VERY HEAVY EIGHT SPOKED ASTERISK"⟩,
  ⟨0x1F7C0, "", "LIGHT THREE POINTED BLACK STAR;MEDIUM THREE POINTED BLACK STAR;THREE POINTED BLACK STAR"⟩,
  ⟨0x1F7C3, "", "MEDIUM THREE POINTED PINWHEEL STAR;LIGHT FOUR POINTED BLACK STAR;MEDIUM FOUR POINTED BLACK STAR"⟩,
  ⟨0x1F7C6, "", "FOUR POINTED BLACK STAR;MEDIUM FOUR POINTED PINWHEEL STAR;REVERSE LIGHT FOUR POINTED PINWHEEL STAR"⟩,
  ⟨0x1F7C9, "", "LIGHT FIVE POINTED BLACK STAR;HEAVY FIVE POINTED BLACK STAR"⟩,
  ⟨0x1F7CB, "", "MEDIUM SIX POINTED BLACK STAR;HEAVY SIX POINTED BLACK STAR;SIX POINTED PINWHEEL STAR"⟩,
  ⟨0x1F7CE, "", "MEDIUM EIGHT POINTED BLACK STAR;HEAVY EIGHT POINTED BLACK STAR;VERY HEAVY EIGHT POINTED BLACK STAR"⟩,
  ⟨0x1F7D1, "", "HEAVY EIGHT POINTED PINWHEEL STAR;LIGHT TWELVE POINTED BLACK STAR"⟩,
  ⟨0x1F7D3, "HEAVY TWELVE POINTED ", "BLACK STAR;PINWHEEL STAR"⟩,
  ⟨0x1F7D5, "", "CIRCLED TRIANGLE;NEGATIVE CIRCLED TRIANGLE;CIRCLED SQUARE;NEGATIVE CIRCLED SQUARE"⟩,
  ⟨0x1F7E0, "LARGE ", "ORANGE CIRCLE;YELLOW CIRCLE;GREEN CIRCLE;PURPLE CIRCLE;BROWN CIRCLE"⟩,
  ⟨0x1F7E5, "LARGE ", "RED SQUARE;BLUE SQUARE;ORANGE SQUARE;YELLOW SQUARE;GREEN SQUARE;PURPLE SQUARE;BROWN SQUARE"⟩,
  ⟨0x1F7F0, "", "HEAVY EQUALS SIGN"⟩,
  ⟨0x1F800, "", "LEFTWARDS ARROW WITH SMALL TRIANGLE ARROWHEAD;UPWARDS ARROW WITH SMALL TRIANGLE ARROWHEAD"⟩,
  ⟨0x1F802, "", "RIGHTWARDS ARROW WITH SMALL TRIANGLE ARROWHEAD;DOWNWARDS ARROW WITH SMALL TRIANGLE ARROWHEAD"⟩,
  ⟨0x1F804, "", "LEFTWARDS ARROW WITH MEDIUM TRIANGLE ARROWHEAD;UPWARDS ARROW WITH MEDIUM TRIANGLE ARROWHEAD"⟩,
  ⟨0x1F806, "", "RIGHTWARDS ARROW WITH MEDIUM TRIANGLE ARROWHEAD;DOWNWARDS ARROW WITH MEDIUM TRIANGLE ARROWHEAD"⟩,
  ⟨0x1F808, "", "LEFTWARDS ARROW WITH LARGE TRIANGLE ARROWHEAD;UPWARDS ARROW WITH LARGE TRIANGLE ARROWHEAD"⟩,
  ⟨0x1F80A, "", "RIGHTWARDS ARROW WITH LARGE TRIANGLE ARROWHEAD;DOWNWARDS ARROW WITH LARGE TRIANGLE ARROWHEAD"⟩,
  ⟨0x1F810, "", "LEFTWARDS ARROW WITH SMALL EQUILATERAL ARROWHEAD"⟩,
  ⟨0x1F811, "", "UPWARDS ARROW WITH SMALL EQUILATERAL ARROWHEAD;RIGHTWARDS ARROW WITH SMALL EQUILATERAL ARROWHEAD"⟩,
  ⟨0x1F813, "", "DOWNWARDS ARROW WITH SMALL EQUILATERAL ARROWHEAD;LEFTWARDS ARROW WITH EQUILATERAL ARROWHEAD"⟩,
  ⟨0x1F815, "", "UPWARDS ARROW WITH EQUILATERAL ARROWHEAD;RIGHTWARDS ARROW WITH EQUILATERAL ARROWHEAD"⟩,
  ⟨0x1F817, "", "DOWNWARDS ARROW WITH EQUILATERAL ARROWHEAD;HEAVY LEFTWARDS ARROW WITH EQUILATERAL ARROWHEAD"⟩,
  ⟨0x1F819, "HEAVY ", "UPWARDS ARROW WITH EQUILATERAL ARROWHEAD;RIGHTWARDS ARROW WITH EQUILATERAL ARROWHEAD"⟩,
  ⟨0x1F81B, "HEAVY ", "DOWNWARDS ARROW WITH EQUILATERAL ARROWHEAD;LEFTWARDS ARROW WITH LARGE EQUILATERAL ARROWHEAD"⟩,
  ⟨0x1F81D, "", "HEAVY UPWARDS ARROW WITH LARGE EQUILATERAL ARROWHEAD"⟩,
  ⟨0x1F81E, "", "HEAVY RIGHTWARDS ARROW WITH LARGE EQUILATERAL ARROWHEAD"⟩,
  ⟨0x1F81F, "", "HEAVY DOWNWARDS ARROW WITH LARGE EQUILATERAL ARROWHEAD"⟩,
  ⟨0x1F820, "", "LEFTWARDS TRIANGLE-HEADED ARROW WITH NARROW SHAFT"⟩,
  ⟨0x1F821, "", "UPWARDS TRIANGLE-HEADED ARROW WITH NARROW SHAFT;RIGHTWARDS TRIANGLE-HEADED ARROW WITH NARROW SHAFT"⟩,
  ⟨0x1F823, "", "DOWNWARDS TRIANGLE-HEADED ARROW WITH NARROW SHAFT;LEFTWARDS TRIANGLE-HEADED ARROW WITH MEDIUM SHAFT"⟩,
  ⟨0x1F825, "", "UPWARDS TRIANGLE-HEADED ARROW WITH MEDIUM SHAFT;RIGHTWARDS TRIANGLE-HEADED ARROW WITH MEDIUM SHAFT"⟩,
  ⟨0x1F827, "", "DOWNWARDS TRIANGLE-HEADED ARROW WITH MEDIUM SHAFT"⟩,
  ⟨0x1F828, "", "LEFTWARDS TRIANGLE-HEADED ARROW WITH BOLD SHAFT;UPWARDS TRIANGLE-HEADED ARROW WITH BOLD SHAFT"⟩,
  ⟨0x1F82A, "", "RIGHTWARDS TRIANGLE-HEADED ARROW WITH BOLD SHAFT;DOWNWARDS TRIANGLE-HEADED ARROW WITH BOLD SHAFT"⟩,
  ⟨0x1F82C, "", "LEFTWARDS TRIANGLE-HEADED ARROW WITH HEAVY SHAFT;UPWARDS TRIANGLE-HEADED ARROW WITH HEAVY SHAFT"⟩,
  ⟨0x1F82E, "", "RIGHTWARDS TRIANGLE-HEADED ARROW WITH HEAVY SHAFT;DOWNWARDS TRIANGLE-HEADED ARROW WITH HEAVY SHAFT"⟩,
  ⟨0x1F830, "", "LEFTWARDS TRIANGLE-HEADED ARROW WITH VERY HEAVY SHAFT"⟩,
  ⟨0x1F831, "", "UPWARDS TRIANGLE-HEADED ARROW WITH VERY HEAVY SHAFT"⟩,
  ⟨0x1F832, "", "RIGHTWARDS TRIANGLE-HEADED ARROW WITH VERY HEAVY SHAFT"⟩,
  ⟨0x1F833, "", "DOWNWARDS TRIANGLE-HEADED ARROW WITH VERY HEAVY SHAFT"⟩,
  ⟨0x1F834, "", "LEFTWARDS FINGER-POST ARROW;UPWARDS FINGER-POST ARROW;RIGHTWARDS FINGER-POST ARROW"⟩,
  ⟨0x1F837, "", "DOWNWARDS FINGER-POST ARROW;LEFTWARDS SQUARED ARROW;UPWARDS SQUARED ARROW;RIGHTWARDS SQUARED ARROW"⟩,
  ⟨0x1F83B, "", "DOWNWARDS SQUARED ARROW;LEFTWARDS COMPRESSED ARROW;UPWARDS COMPRESSED ARROW"⟩,
  ⟨0x1F83E, "", "RIGHTWARDS COMPRESSED ARROW;DOWNWARDS COMPRESSED ARROW;LEFTWARDS HEAVY COMPRESSED ARROW"⟩,
  ⟨0x1F841, "", "UPWARDS HEAVY COMPRESSED ARROW;RIGHTWARDS HEAVY COMPRESSED ARROW;DOWNWARDS HEAVY COMPRESSED ARROW"⟩,
  ⟨0x1F844, "", "LEFTWARDS HEAVY ARROW;UPWARDS HEAVY ARROW;RIGHTWARDS HEAVY ARROW;DOWNWARDS HEAVY ARROW"⟩,
  ⟨0x1F850, "", "LEFTWARDS SANS-SERIF ARROW;UPWARDS SANS-SERIF ARROW;RIGHTWARDS SANS-SERIF ARROW"⟩,
  ⟨0x1F853, "", "DOWNWARDS SANS-SERIF ARROW;NORTH WEST SANS-SERIF ARROW;NORTH EAST SANS-SERIF ARROW"⟩,
  ⟨0x1F856, "SOUTH ", "EAST SANS-SERIF ARROW;WEST SANS-SERIF ARROW"⟩,
  ⟨0x1F858, "", "LEFT RIGHT SANS-SERIF ARROW;UP DOWN SANS-SERIF ARROW"⟩,
  ⟨0x1F860, "WIDE-HEADED ", "LEFTWARDS LIGHT BARB ARROW;UPWARDS LIGHT BARB ARROW;RIGHTWARDS LIGHT BARB ARROW"⟩,
  ⟨0x1F863, "WIDE-HEADED ", "DOWNWARDS LIGHT BARB ARROW;NORTH WEST LIGHT BARB ARROW;NORTH EAST LIGHT BARB ARROW"⟩,
  ⟨0x1F866, "WIDE-HEADED SOUTH ", "EAST LIGHT BARB ARROW;WEST LIGHT BARB ARROW"⟩,
  ⟨0x1F868, "WIDE-HEADED ", "LEFTWARDS BARB ARROW;UPWARDS BARB ARROW;RIGHTWARDS BARB ARROW;DOWNWARDS BARB ARROW"⟩,
  ⟨0x1F86C, "WIDE-HEADED ", "NORTH WEST BARB ARROW;NORTH EAST BARB ARROW;SOUTH EAST BARB ARROW;SOUTH WEST BARB ARROW"⟩,
  ⟨0x1F870, "WIDE-HEADED ", "LEFTWARDS MEDIUM BARB ARROW;UPWARDS MEDIUM BARB ARROW;RIGHTWARDS MEDIUM BARB ARROW"⟩,
  ⟨0x1F873, "WIDE-HEADED ", "DOWNWARDS MEDIUM BARB ARROW;NORTH WEST MEDIUM BARB ARROW;NORTH EAST MEDIUM BARB ARROW"⟩,
  ⟨0x1F876, "WIDE-HEADED ", "SOUTH EAST MEDIUM BARB ARROW;SOUTH WEST MEDIUM BARB ARROW;LEFTWARDS HEAVY BARB ARROW"⟩,
  ⟨0x1F879, "WIDE-HEADED ", "UPWARDS HEAVY BARB ARROW;RIGHTWARDS HEAVY BARB ARROW;DOWNWARDS HEAVY BARB ARROW"⟩,
  ⟨0x1F87C, "WIDE-HEADED NORTH ", "WEST HEAVY BARB ARROW;EAST HEAVY BARB ARROW"⟩,
  ⟨0x1F87E, "WIDE-HEADED SOUTH ", "EAST HEAVY BARB ARROW;WEST HEAVY BARB ARROW"⟩,
  ⟨0x1F880, "WIDE-HEADED ", "LEFTWARDS VERY HEAVY BARB ARROW;UPWARDS VERY HEAVY BARB ARROW"⟩,
  ⟨0x1F882, "WIDE-HEADED ", "RIGHTWARDS VERY HEAVY BARB ARROW;DOWNWARDS VERY HEAVY BARB ARROW"⟩,
  ⟨0x1F884, "WIDE-HEADED NORTH ", "WEST VERY HEAVY BARB ARROW;EAST VERY HEAVY BARB ARROW"⟩,
  ⟨0x1F886, "WIDE-HEADED SOUTH ", "EAST VERY HEAVY BARB ARROW;WEST VERY HEAVY BARB ARROW"⟩,
  ⟨0x1F890, "", "LEFTWARDS TRIANGLE ARROWHEAD"⟩,
  ⟨0x1F891, "", "UPWARDS TRIANGLE ARROWHEAD;RIGHTWARDS TRIANGLE ARROWHEAD;DOWNWARDS TRIANGLE ARROWHEAD"⟩,
  ⟨0x1F894, "", "LEFTWARDS WHITE ARROW WITHIN TRIANGLE ARROWHEAD;UPWARDS WHITE ARROW WITHIN TRIANGLE ARROWHEAD"⟩,
  ⟨0x1F896, "", "RIGHTWARDS WHITE ARROW WITHIN TRIANGLE ARROWHEAD;DOWNWARDS WHITE ARROW WITHIN TRIANGLE ARROWHEAD"⟩,
  ⟨0x1F898, "", "LEFTWARDS ARROW WITH NOTCHED TAIL;UPWARDS ARROW WITH NOTCHED TAIL"⟩,
  ⟨0x1F89A, "", "RIGHTWARDS ARROW WITH NOTCHED TAIL;DOWNWARDS ARROW WITH NOTCHED TAIL"⟩,
  ⟨0x1F89C, "HEAVY ARROW SHAFT WIDTH ", "ONE;TWO THIRDS;ONE HALF;ONE THIRD"⟩,
  ⟨0x1F8A0, "", "LEFTWARDS BOTTOM-SHADED WHITE ARROW;RIGHTWARDS BOTTOM SHADED WHITE ARROW"⟩,
  ⟨0x1F8A2, "", "LEFTWARDS TOP SHADED WHITE ARROW;RIGHTWARDS TOP SHADED WHITE ARROW"⟩,
  ⟨0x1F8A4, "", "LEFTWARDS LEFT-SHADED WHITE ARROW;RIGHTWARDS RIGHT-SHADED WHITE ARROW"⟩,
  ⟨0x1F8A6, "", "LEFTWARDS RIGHT-SHADED WHITE ARROW;RIGHTWARDS LEFT-SHADED WHITE ARROW"⟩,
  ⟨0x1F8A8, "", "LEFTWARDS BACK-TILTED SHADOWED WHITE ARROW;RIGHTWARDS BACK-TILTED SHADOWED WHITE ARROW"⟩,
  ⟨0x1F8AA, "", "LEFTWARDS FRONT-TILTED SHADOWED WHITE ARROW;RIGHTWARDS FRONT-TILTED SHADOWED WHITE ARROW"⟩,
  ⟨0x1F8AC, "WHITE ARROW SHAFT WIDTH ", "ONE;TWO THIRDS"⟩,
  ⟨0x1F8B0, "ARROW POINTING ", "UPWARDS THEN NORTH WEST;RIGHTWARDS THEN CURVING SOUTH WEST"⟩,
  ⟨0x1F900, "CIRCLED CROSS ", "FORMEE WITH FOUR DOTS;FORMEE WITH TWO DOTS;FORMEE"⟩,
  ⟨0x1F903, "LEFT HALF CIRCLE WITH ", "FOUR DOTS;THREE DOTS;TWO DOTS;DOT"⟩,
  ⟨0x1F907, "", "LEFT HALF CIRCLE"⟩,
  ⟨0x1F908, "DOWNWARD FACING ", "HOOK;NOTCHED HOOK;HOOK WITH DOT;NOTCHED HOOK WITH DOT"⟩,
  ⟨0x1F90C, "", "PINCHED FINGERS;WHITE HEART;BROWN HEART"⟩,
  ⟨0x1F90F, "", "PINCHING HAND;ZIPPER-MOUTH FACE;MONEY-MOUTH FACE;FACE WITH THERMOMETER;NERD FACE;THINKING FACE"⟩,
  ⟨0x1F915, "", "FACE WITH HEAD-BANDAGE;ROBOT FACE;HUGGING FACE;SIGN OF THE HORNS;CALL ME HAND;RAISED BACK OF HAND"⟩,
  ⟨0x1F91B, "", "LEFT-FACING FIST;RIGHT-FACING FIST;HANDSHAKE;HAND WITH INDEX AND MIDDLE FINGERS CROSSED"⟩,
  ⟨0x1F91F, "", "I LOVE YOU HAND SIGN;FACE WITH COWBOY HAT;CLOWN FACE;NAUSEATED FACE;ROLLING ON THE FLOOR LAUGHING"⟩,
  ⟨0x1F924, "", "DROOLING FACE;LYING FACE;FACE PALM;SNEEZING FACE;FACE WITH ONE EYEBROW RAISED"⟩,
  ⟨0x1F929, "GRINNING FACE WITH ", "STAR EYES;ONE LARGE AND ONE SMALL EYE"⟩,
  ⟨0x1F92B, "", "FACE WITH FINGER COVERING CLOSED LIPS;SERIOUS FACE WITH SYMBOLS COVERING MOUTH"⟩,
  ⟨0x1F92D, "", "SMILING FACE WITH SMILING EYES AND HAND COVERING MOUTH;FACE WITH OPEN MOUTH VOMITING"⟩,
  ⟨0x1F92F, "", "SHOCKED FACE WITH EXPLODING HEAD;PREGNANT WOMAN;BREAST-FEEDING;PALMS UP TOGETHER;SELFIE;PRINCE"⟩,
  ⟨0x1F935, "", "MAN IN TUXEDO;MOTHER CHRISTMAS;SHRUG;PERSON DOING CARTWHEEL;JUGGLING;FENCER;MODERN PENTATHLON"⟩,
  ⟨0x1F93C, "", "WRESTLERS;WATER POLO;HANDBALL;DIVING MASK;WILTED FLOWER;DRUM WITH DRUMSTICKS;CLINKING GLASSES"⟩,
  ⟨0x1F943, "", "TUMBLER GLASS;SPOON;GOAL NET;RIFLE;FIRST PLACE MEDAL;SECOND PLACE MEDAL;THIRD PLACE MEDAL"⟩,
  ⟨0x1F94A, "", "BOXING GLOVE;MARTIAL ARTS UNIFORM;CURLING STONE;LACROSSE STICK AND BALL;SOFTBALL;FLYING DISC"⟩,
  ⟨0x1F950, "", "CROISSANT;AVOCADO;CUCUMBER;BACON;POTATO;CARROT;BAGUETTE BREAD;GREEN SALAD;SHALLOW PAN OF FOOD"⟩,
  ⟨0x1F959, "", "STUFFED FLATBREAD;EGG;GLASS OF MILK;PEANUTS;KIWIFRUIT;PANCAKES;DUMPLING;FORTUNE COOKIE;TAKEOUT BOX"⟩,
  ⟨0x1F962, "", "CHOPSTICKS;BOWL WITH SPOON;CUP WITH STRAW;COCONUT;BROCCOLI;PIE;PRETZEL;CUT OF MEAT;SANDWICH"⟩,
  ⟨0x1F96B, "", "CANNED FOOD;LEAFY GREEN;MANGO;MOON CAKE;BAGEL;SMILING FACE WITH SMILING EYES AND THREE HEARTS"⟩,
  ⟨0x1F971, "", "YAWNING FACE;SMILING FACE WITH TEAR;FACE WITH PARTY HORN AND PARTY HAT"⟩,
  ⟨0x1F974, "", "FACE WITH UNEVEN EYES AND WAVY MOUTH;OVERHEATED FACE;FREEZING FACE;NINJA"⟩,
  ⟨0x1F978, "", "DISGUISED FACE;FACE HOLDING BACK TEARS;FACE WITH PLEADING EYES;SARI;LAB COAT;GOGGLES;HIKING BOOT"⟩,
  ⟨0x1F97F, "", "FLAT SHOE;CRAB;LION FACE;SCORPION;TURKEY;UNICORN FACE;EAGLE;DUCK;BAT;SHARK;OWL;FOX FACE;BUTTERFLY"⟩,
  ⟨0x1F98C, "", "DEER;GORILLA;LIZARD;RHINOCEROS;SHRIMP;SQUID;GIRAFFE FACE;ZEBRA FACE;HEDGEHOG;SAUROPOD;T-REX"⟩,
  ⟨0x1F997, "", "CRICKET;KANGAROO;LLAMA;PEACOCK;HIPPOPOTAMUS;PARROT;RACCOON;LOBSTER;MOSQUITO;MICROBE;BADGER;SWAN"⟩,
  ⟨0x1F9A3, "", "MAMMOTH;DODO;SLOTH;OTTER;ORANGUTAN;SKUNK;FLAMINGO;OYSTER;BEAVER;BISON;SEAL;GUIDE DOG;PROBING CANE"⟩,
  ⟨0x1F9B0, "EMOJI COMPONENT ", "RED HAIR;CURLY HAIR;BALD;WHITE HAIR"⟩,
  ⟨0x1F9B4, "", "BONE;LEG;FOOT;TOOTH;SUPERHERO;SUPERVILLAIN;SAFETY VEST;EAR WITH HEARING AID;MOTORIZED WHEELCHAIR"⟩,
  ⟨0x1F9BD, "", "MANUAL WHEELCHAIR;MECHANICAL ARM;MECHANICAL LEG;CHEESE WEDGE;CUPCAKE;SALT SHAKER;BEVERAGE BOX"⟩,
  ⟨0x1F9C4, "", "GARLIC;ONION;FALAFEL;WAFFLE;BUTTER;MATE DRINK;ICE CUBE;BUBBLE TEA;TROLL;STANDING PERSON"⟩,
  ⟨0x1F9CE, "", "KNEELING PERSON;DEAF PERSON;FACE WITH MONOCLE;ADULT;CHILD;OLDER ADULT;BEARDED PERSON"⟩,
  ⟨0x1F9D5, "PERSON ", "WITH HEADSCARF;IN STEAMY ROOM;CLIMBING;IN LOTUS POSITION"⟩,
  ⟨0x1F9D9, "", "MAGE;FAIRY;VAMPIRE;MERPERSON;ELF;GENIE;ZOMBIE;BRAIN;ORANGE HEART;BILLED CAP;SCARF;GLOVES;COAT;SOCKS"⟩,
  ⟨0x1F9E7, "", "RED GIFT ENVELOPE;FIRECRACKER;JIGSAW PUZZLE PIECE;TEST TUBE;PETRI DISH;DNA DOUBLE HELIX;COMPASS"⟩,
  ⟨0x1F9EE, "", "ABACUS;FIRE EXTINGUISHER;TOOLBOX;BRICK;MAGNET;LUGGAGE;LOTION BOTTLE;SPOOL OF THREAD;BALL OF YARN"⟩,
  ⟨0x1F9F7, "", "SAFETY PIN;TEDDY BEAR;BROOM;BASKET;ROLL OF PAPER;BAR OF SOAP;SPONGE;RECEIPT;NAZAR AMULET"⟩,
  ⟨0x1FA00, "NEUTRAL CHESS ", "KING;QUEEN;ROOK;BISHOP;KNIGHT;PAWN"⟩,
  ⟨0x1FA06, "", "WHITE CHESS KNIGHT ROTATED FORTY-FIVE DEGREES"⟩,
  ⟨0x1FA07, "", "BLACK CHESS KNIGHT ROTATED FORTY-FIVE DEGREES;NEUTRAL CHESS KNIGHT ROTATED FORTY-FIVE DEGREES"⟩,
  ⟨0x1FA09, "WHITE CHESS ", "KING ROTATED NINETY DEGREES;QUEEN ROTATED NINETY DEGREES;ROOK ROTATED NINETY DEGREES"⟩,
  ⟨0x1FA0C, "WHITE CHESS ", "BISHOP ROTATED NINETY DEGREES;KNIGHT ROTATED NINETY DEGREES;PAWN ROTATED NINETY DEGREES"⟩,
  ⟨0x1FA0F, "BLACK CHESS ", "KING ROTATED NINETY DEGREES;QUEEN ROTATED NINETY DEGREES;ROOK ROTATED NINETY DEGREES"⟩,
  ⟨0x1FA12, "BLACK CHESS ", "BISHOP ROTATED NINETY DEGREES;KNIGHT ROTATED NINETY DEGREES;PAWN ROTATED NINETY DEGREES"⟩,
  ⟨0x1FA15, "NEUTRAL CHESS ", "KING ROTATED NINETY DEGREES;QUEEN ROTATED NINETY DEGREES"⟩,
  ⟨0x1FA17, "NEUTRAL CHESS ", "ROOK ROTATED NINETY DEGREES;BISHOP ROTATED NINETY DEGREES"⟩,
  ⟨0x1FA19, "NEUTRAL CHESS ", "KNIGHT ROTATED NINETY DEGREES;PAWN ROTATED NINETY DEGREES"⟩,
  ⟨0x1FA1B, "", "WHITE CHESS KNIGHT ROTATED ONE HUNDRED THIRTY-FIVE DEGREES"⟩,
  ⟨0x1FA1C, "", "BLACK CHESS KNIGHT ROTATED ONE HUNDRED THIRTY-FIVE DEGREES"⟩,
  ⟨0x1FA1D, "", "NEUTRAL CHESS KNIGHT ROTATED ONE HUNDRED THIRTY-FIVE DEGREES"⟩,
  ⟨0x1FA1E, "WHITE CHESS TURNED ", "KING;QUEEN;ROOK;BISHOP;KNIGHT;PAWN"⟩,
  ⟨0x1FA24, "BLACK CHESS TURNED ", "KING;QUEEN;ROOK;BISHOP;KNIGHT;PAWN"⟩,
  ⟨0x1FA2A, "NEUTRAL CHESS TURNED ", "KING;QUEEN;ROOK;BISHOP;KNIGHT;PAWN"⟩,
  ⟨0x1FA30, "", "WHITE CHESS KNIGHT ROTATED TWO HUNDRED TWENTY-FIVE DEGREES"⟩,
  ⟨0x1FA31, "", "BLACK CHESS KNIGHT ROTATED TWO HUNDRED TWENTY-FIVE DEGREES"⟩,
  ⟨0x1FA32, "", "NEUTRAL CHESS KNIGHT ROTATED TWO HUNDRED TWENTY-FIVE DEGREES"⟩,
  ⟨0x1FA33, "WHITE CHESS ", "KING ROTATED TWO HUNDRED SEVENTY DEGREES;QUEEN ROTATED TWO HUNDRED SEVENTY DEGREES"⟩,
  ⟨0x1FA35, "WHITE CHESS ", "ROOK ROTATED TWO HUNDRED SEVENTY DEGREES;BISHOP ROTATED TWO HUNDRED SEVENTY DEGREES"⟩,
  ⟨0x1FA37, "WHITE CHESS ", "KNIGHT ROTATED TWO HUNDRED SEVENTY DEGREES;PAWN ROTATED TWO HUNDRED SEVENTY DEGREES"⟩,
  ⟨0x1FA39, "BLACK CHESS ", "KING ROTATED TWO HUNDRED SEVENTY DEGREES;QUEEN ROTATED TWO HUNDRED SEVENTY DEGREES"⟩,
  ⟨0x1FA3B, "BLACK CHESS ", "ROOK ROTATED TWO HUNDRED SEVENTY DEGREES;BISHOP ROTATED TWO HUNDRED SEVENTY DEGREES"⟩,
  ⟨0x1FA3D, "BLACK CHESS ", "KNIGHT ROTATED TWO HUNDRED SEVENTY DEGREES;PAWN ROTATED TWO HUNDRED SEVENTY DEGREES"⟩,
  ⟨0x1FA3F, "NEUTRAL CHESS ", "KING ROTATED TWO HUNDRED SEVENTY DEGREES;QUEEN ROTATED TWO HUNDRED SEVENTY DEGREES"⟩,
  ⟨0x1FA41, "NEUTRAL CHESS ", "ROOK ROTATED TWO HUNDRED SEVENTY DEGREES;BISHOP ROTATED TWO HUNDRED SEVENTY DEGREES"⟩,
  ⟨0x1FA43, "NEUTRAL CHESS ", "KNIGHT ROTATED TWO HUNDRED SEVENTY DEGREES;PAWN ROTATED TWO HUNDRED SEVENTY DEGREES"⟩,
  ⟨0x1FA45, "", "WHITE CHESS KNIGHT ROTATED THREE HUNDRED FIFTEEN DEGREES"⟩,
  ⟨0x1FA46, "", "BLACK CHESS KNIGHT ROTATED THREE HUNDRED FIFTEEN DEGREES"⟩,
  ⟨0x1FA47, "", "NEUTRAL CHESS KNIGHT ROTATED THREE HUNDRED FIFTEEN DEGREES;WHITE CHESS EQUIHOPPER"⟩,
  ⟨0x1FA49, "", "BLACK CHESS EQUIHOPPER;NEUTRAL CHESS EQUIHOPPER;WHITE CHESS EQUIHOPPER ROTATED NINETY DEGREES"⟩,
  ⟨0x1FA4C, "", "BLACK CHESS EQUIHOPPER ROTATED NINETY DEGREES;NEUTRAL CHESS EQUIHOPPER ROTATED NINETY DEGREES"⟩,
  ⟨0x1FA4E, "WHITE CHESS KNIGHT-", "QUEEN;ROOK;BISHOP"⟩,
  ⟨0x1FA51, "BLACK CHESS KNIGHT-", "QUEEN;ROOK;BISHOP"⟩,
  ⟨0x1FA60, "XIANGQI RED ", "GENERAL;MANDARIN;ELEPHANT;HORSE;CHARIOT;CANNON;SOLDIER"⟩,
  ⟨0x1FA67, "XIANGQI BLACK ", "GENERAL;MANDARIN;ELEPHANT;HORSE;CHARIOT;CANNON;SOLDIER"⟩,
  ⟨0x1FA70, "", "BALLET SHOES;ONE-PIECE SWIMSUIT;BRIEFS;SHORTS;THONG SANDAL"⟩,
  ⟨0x1FA78, "", "DROP OF BLOOD;ADHESIVE BANDAGE;STETHOSCOPE;X-RAY;CRUTCH"⟩,
  ⟨0x1FA80, "", "YO-YO;KITE;PARACHUTE;BOOMERANG;MAGIC WAND;PINATA;NESTING DOLLS"⟩,
  ⟨0x1FA90, "", "RINGED PLANET;CHAIR;RAZOR;AXE;DIYA LAMP;BANJO;MILITARY HELMET;ACCORDION;LONG DRUM"⟩,
  ⟨0x1FA99, "", "COIN;CARPENTRY SAW;SCREWDRIVER;LADDER;HOOK;MIRROR;WINDOW;PLUNGER;SEWING NEEDLE;KNOT;BUCKET"⟩,
  ⟨0x1FAA4, "", "MOUSE TRAP;TOOTHBRUSH;HEADSTONE;PLACARD;ROCK;MIRROR BALL;IDENTIFICATION CARD;LOW BATTERY;HAMSA"⟩,
  ⟨0x1FAB0, "", "FLY;WORM;BEETLE;COCKROACH;POTTED PLANT;WOOD;FEATHER;LOTUS;CORAL;EMPTY NEST;NEST WITH EGGS"⟩,
  ⟨0x1FAC0, "", "ANATOMICAL HEART;LUNGS;PEOPLE HUGGING;PREGNANT MAN;PREGNANT PERSON;PERSON WITH CROWN"⟩,
  ⟨0x1FAD0, "", "BLUEBERRIES;BELL PEPPER;OLIVE;FLATBREAD;TAMALE;FONDUE;TEAPOT;POURING LIQUID;BEANS;JAR"⟩,
  ⟨0x1FAE0, "", "MELTING FACE;SALUTING FACE"⟩,
  ⟨0x1FAE2, "FACE WITH ", "OPEN EYES AND HAND OVER MOUTH;PEEKING EYE;DIAGONAL MOUTH"⟩,
  ⟨0x1FAE5, "", "DOTTED LINE FACE;BITING LIP;BUBBLES"⟩,
  ⟨0x1FAF0, "", "HAND WITH INDEX FINGER AND THUMB CROSSED"⟩,
  ⟨0x1FAF1, "", "RIGHTWARDS HAND;LEFTWARDS HAND;PALM DOWN HAND;PALM UP HAND;INDEX POINTING AT THE VIEWER;HEART HANDS"⟩,
  ⟨0x1FB00, "BLOCK SEXTANT-", "1;2;12;3;13;23;123;4;14;24;124;34;134;234;1234;5;15;25;125;35;235;1235"⟩,
  ⟨0x1FB16, "BLOCK SEXTANT-", "45;145;245;1245;345;1345;2345;12345;6;16;26;126;36;136;236;1236;46;146;1246;346;1346"⟩,
  ⟨0x1FB2B, "BLOCK SEXTANT-", "2346;12346;56;156;256;1256;356;1356;2356;12356;456;1456;2456;12456;3456;13456;23456"⟩,
  ⟨0x1FB3C, "LOWER LEFT BLOCK DIAGONAL LOWER MIDDLE LEFT TO LOWER ", "CENTRE;RIGHT"⟩,
  ⟨0x1FB3E, "LOWER LEFT BLOCK DIAGONAL UPPER MIDDLE LEFT TO LOWER ", "CENTRE;RIGHT"⟩,
  ⟨0x1FB40, "", "LOWER LEFT BLOCK DIAGONAL UPPER LEFT TO LOWER CENTRE"⟩,
  ⟨0x1FB41, "LOWER RIGHT BLOCK DIAGONAL UPPER MIDDLE LEFT TO UPPER ", "CENTRE;RIGHT"⟩,
  ⟨0x1FB43, "LOWER RIGHT BLOCK DIAGONAL LOWER MIDDLE LEFT TO UPPER ", "CENTRE;RIGHT"⟩,
  ⟨0x1FB45, "", "LOWER RIGHT BLOCK DIAGONAL LOWER LEFT TO UPPER CENTRE"⟩,
  ⟨0x1FB46, "LOWER RIGHT BLOCK DIAGONAL LOWER ", "MIDDLE LEFT TO UPPER MIDDLE RIGHT;CENTRE TO LOWER MIDDLE RIGHT"⟩,
  ⟨0x1FB48, "LOWER RIGHT BLOCK DIAGONAL LOWER ", "LEFT TO LOWER MIDDLE RIGHT;CENTRE TO UPPER MIDDLE RIGHT"⟩,
  ⟨0x1FB4A, "LOWER RIGHT BLOCK DIAGONAL LOWER ", "LEFT TO UPPER MIDDLE RIGHT;CENTRE TO UPPER RIGHT"⟩,
  ⟨0x1FB4C, "LOWER LEFT BLOCK DIAGONAL UPPER ", "CENTRE TO UPPER MIDDLE RIGHT;LEFT TO UPPER MIDDLE RIGHT"⟩,
  ⟨0x1FB4E, "LOWER LEFT BLOCK DIAGONAL UPPER ", "CENTRE TO LOWER MIDDLE RIGHT;LEFT TO LOWER MIDDLE RIGHT"⟩,
  ⟨0x1FB50, "LOWER LEFT BLOCK DIAGONAL UPPER ", "CENTRE TO LOWER RIGHT;MIDDLE LEFT TO LOWER MIDDLE RIGHT"⟩,
  ⟨0x1FB52, "UPPER RIGHT BLOCK DIAGONAL LOWER MIDDLE LEFT TO LOWER ", "CENTRE;RIGHT"⟩,
  ⟨0x1FB54, "UPPER RIGHT BLOCK DIAGONAL UPPER MIDDLE LEFT TO LOWER ", "CENTRE;RIGHT"⟩,
  ⟨0x1FB56, "", "UPPER RIGHT BLOCK DIAGONAL UPPER LEFT TO LOWER CENTRE"⟩,
  ⟨0x1FB57, "UPPER LEFT BLOCK DIAGONAL UPPER MIDDLE LEFT TO UPPER ", "CENTRE;RIGHT"⟩,
  ⟨0x1FB59, "UPPER LEFT BLOCK DIAGONAL LOWER MIDDLE LEFT TO UPPER ", "CENTRE;RIGHT"⟩,
  ⟨0x1FB5B, "", "UPPER LEFT BLOCK DIAGONAL LOWER LEFT TO UPPER CENTRE"⟩,
  ⟨0x1FB5C, "UPPER LEFT BLOCK DIAGONAL LOWER ", "MIDDLE LEFT TO UPPER MIDDLE RIGHT;CENTRE TO LOWER MIDDLE RIGHT"⟩,
  ⟨0x1FB5E, "UPPER LEFT BLOCK DIAGONAL LOWER ", "LEFT TO LOWER MIDDLE RIGHT;CENTRE TO UPPER MIDDLE RIGHT"⟩,
  ⟨0x1FB60, "UPPER LEFT BLOCK DIAGONAL LOWER ", "LEFT TO UPPER MIDDLE RIGHT;CENTRE TO UPPER RIGHT"⟩,
  ⟨0x1FB62, "UPPER RIGHT BLOCK DIAGONAL UPPER ", "CENTRE TO UPPER MIDDLE RIGHT;LEFT TO UPPER MIDDLE RIGHT"⟩,
  ⟨0x1FB64, "UPPER RIGHT BLOCK DIAGONAL UPPER ", "CENTRE TO LOWER MIDDLE RIGHT;LEFT TO LOWER MIDDLE RIGHT"⟩,
  ⟨0x1FB66, "UPPER RIGHT BLOCK DIAGONAL UPPER ", "CENTRE TO LOWER RIGHT;MIDDLE LEFT TO LOWER MIDDLE RIGHT"⟩,
  ⟨0x1FB68, "", "UPPER AND RIGHT AND LOWER TRIANGULAR THREE QUARTERS BLOCK"⟩,
  ⟨0x1FB69, "", "LEFT AND LOWER AND RIGHT TRIANGULAR THREE QUARTERS BLOCK"⟩,
  ⟨0x1FB6A, "", "UPPER AND LEFT AND LOWER TRIANGULAR THREE QUARTERS BLOCK"⟩,
  ⟨0x1FB6B, "LEFT ", "AND UPPER AND RIGHT TRIANGULAR THREE QUARTERS BLOCK;TRIANGULAR ONE QUARTER BLOCK"⟩,
  ⟨0x1FB6D, "", "UPPER TRIANGULAR ONE QUARTER BLOCK"⟩,
  ⟨0x1FB6E, "", "RIGHT TRIANGULAR ONE QUARTER BLOCK;LOWER TRIANGULAR ONE QUARTER BLOCK"⟩,
  ⟨0x1FB70, "VERTICAL ONE EIGHTH BLOCK-", "2;3;4;5;6;7"⟩,
  ⟨0x1FB76, "HORIZONTAL ONE EIGHTH BLOCK-", "2;3;4;5;6;7"⟩,
  ⟨0x1FB7C, "LEFT AND ", "LOWER ONE EIGHTH BLOCK;UPPER ONE EIGHTH BLOCK"⟩,
  ⟨0x1FB7E, "RIGHT AND ", "UPPER ONE EIGHTH BLOCK;LOWER ONE EIGHTH BLOCK"⟩,
  ⟨0x1FB80, "", "UPPER AND LOWER ONE EIGHTH BLOCK;HORIZONTAL ONE EIGHTH BLOCK-1358;UPPER ONE QUARTER BLOCK"⟩,
  ⟨0x1FB83, "UPPER ", "THREE EIGHTHS BLOCK;FIVE EIGHTHS BLOCK;THREE QUARTERS BLOCK;SEVEN EIGHTHS BLOCK"⟩,
  ⟨0x1FB87, "RIGHT ", "ONE QUARTER BLOCK;THREE EIGHTHS BLOCK;FIVE EIGHTHS BLOCK;THREE QUARTERS BLOCK"⟩,
  ⟨0x1FB8B, "", "RIGHT SEVEN EIGHTHS BLOCK;LEFT HALF MEDIUM SHADE"⟩,
  ⟨0x1FB8D, "", "RIGHT HALF MEDIUM SHADE;UPPER HALF MEDIUM SHADE;LOWER HALF MEDIUM SHADE;INVERSE MEDIUM SHADE"⟩,
  ⟨0x1FB91, "UPPER HALF ", "BLOCK AND LOWER HALF INVERSE MEDIUM SHADE;INVERSE MEDIUM SHADE AND LOWER HALF BLOCK"⟩,
  ⟨0x1FB94, "", "LEFT HALF INVERSE MEDIUM SHADE AND RIGHT HALF BLOCK;CHECKER BOARD FILL;INVERSE CHECKER BOARD FILL"⟩,
  ⟨0x1FB97, "", "HEAVY HORIZONTAL FILL;UPPER LEFT TO LOWER RIGHT FILL;UPPER RIGHT TO LOWER LEFT FILL"⟩,
  ⟨0x1FB9A, "", "UPPER AND LOWER TRIANGULAR HALF BLOCK;LEFT AND RIGHT TRIANGULAR HALF BLOCK"⟩,
  ⟨0x1FB9C, "UPPER ", "LEFT TRIANGULAR MEDIUM SHADE;RIGHT TRIANGULAR MEDIUM SHADE"⟩,
  ⟨0x1FB9E, "LOWER ", "RIGHT TRIANGULAR MEDIUM SHADE;LEFT TRIANGULAR MEDIUM SHADE"⟩,
  ⟨0x1FBA0, "BOX DRAWINGS LIGHT DIAGONAL UPPER CENTRE TO MIDDLE ", "LEFT;RIGHT"⟩,
  ⟨0x1FBA2, "BOX DRAWINGS LIGHT DIAGONAL MIDDLE ", "LEFT TO LOWER CENTRE;RIGHT TO LOWER CENTRE"⟩,
  ⟨0x1FBA4, "BOX DRAWINGS LIGHT DIAGONAL UPPER CENTRE TO MIDDLE ", "LEFT TO LOWER CENTRE;RIGHT TO LOWER CENTRE"⟩,
  ⟨0x1FBA6, "", "BOX DRAWINGS LIGHT DIAGONAL MIDDLE LEFT TO LOWER CENTRE TO MIDDLE RIGHT"⟩,
  ⟨0x1FBA7, "", "BOX DRAWINGS LIGHT DIAGONAL MIDDLE LEFT TO UPPER CENTRE TO MIDDLE RIGHT"⟩,
  ⟨0x1FBA8, "", "BOX DRAWINGS LIGHT DIAGONAL UPPER CENTRE TO MIDDLE LEFT AND MIDDLE RIGHT TO LOWER CENTRE"⟩,
  ⟨0x1FBA9, "", "BOX DRAWINGS LIGHT DIAGONAL UPPER CENTRE TO MIDDLE RIGHT AND MIDDLE LEFT TO LOWER CENTRE"⟩,
  ⟨0x1FBAA, "", "BOX DRAWINGS LIGHT DIAGONAL UPPER CENTRE TO MIDDLE RIGHT TO LOWER CENTRE TO MIDDLE LEFT"⟩,
  ⟨0x1FBAB, "", "BOX DRAWINGS LIGHT DIAGONAL UPPER CENTRE TO MIDDLE LEFT TO LOWER CENTRE TO MIDDLE RIGHT"⟩,
  ⟨0x1FBAC, "", "BOX DRAWINGS LIGHT DIAGONAL MIDDLE LEFT TO UPPER CENTRE TO MIDDLE RIGHT TO LOWER CENTRE"⟩,
  ⟨0x1FBAD, "BOX DRAWINGS LIGHT DIAGONAL ", "MIDDLE RIGHT TO UPPER CENTRE TO MIDDLE LEFT TO LOWER CENTRE;DIAMOND"⟩,
  ⟨0x1FBAF, "", "BOX DRAWINGS LIGHT HORIZONTAL WITH VERTICAL STROKE"⟩,
  ⟨0x1FBB0, "", "ARROWHEAD-SHAPED POINTER;INVERSE CHECK MARK;LEFT HALF RUNNING MAN;RIGHT HALF RUNNING MAN"⟩,
  ⟨0x1FBB4, "", "INVERSE DOWNWARDS ARROW WITH TIP LEFTWARDS;LEFTWARDS ARROW AND UPPER AND LOWER ONE EIGHTH BLOCK"⟩,
  ⟨0x1FBB6, "", "RIGHTWARDS ARROW AND UPPER AND LOWER ONE EIGHTH BLOCK"⟩,
  ⟨0x1FBB7, "", "DOWNWARDS ARROW AND RIGHT ONE EIGHTH BLOCK;UPWARDS ARROW AND RIGHT ONE EIGHTH BLOCK"⟩,
  ⟨0x1FBB9, "", "LEFT HALF FOLDER;RIGHT HALF FOLDER;VOIDED GREEK CROSS;RIGHT OPEN SQUARED DOT"⟩,
  ⟨0x1FBBD, "NEGATIVE DIAGONAL ", "CROSS;MIDDLE RIGHT TO LOWER CENTRE;DIAMOND"⟩,
  ⟨0x1FBC0, "", "WHITE HEAVY SALTIRE WITH ROUNDED CORNERS"⟩,
  ⟨0x1FBC1, "", "LEFT THIRD WHITE RIGHT POINTING INDEX;MIDDLE THIRD WHITE RIGHT POINTING INDEX"⟩,
  ⟨0x1FBC3, "", "RIGHT THIRD WHITE RIGHT POINTING INDEX;NEGATIVE SQUARED QUESTION MARK;STICK FIGURE"⟩,
  ⟨0x1FBC6, "STICK FIGURE ", "WITH ARMS RAISED;LEANING LEFT;LEANING RIGHT;WITH DRESS"⟩,
  ⟨0x1FBCA, "", "WHITE UP-POINTING CHEVRON"⟩,
  ⟨0x1FBF0, "SEGMENTED DIGIT ", "ZERO;ONE;TWO;THREE;FOUR;FIVE;SIX;SEVEN;EIGHT;NINE"⟩,
  ⟨0xE0001, "", "LANGUAGE TAG"⟩,
  ⟨0xE0020, "TAG ", "SPACE;EXCLAMATION MARK;QUOTATION MARK;NUMBER SIGN;DOLLAR SIGN;PERCENT SIGN;AMPERSAND;APOSTROPHE"⟩,
  ⟨0xE0028, "TAG ", "LEFT PARENTHESIS;RIGHT PARENTHESIS;ASTERISK;PLUS SIGN;COMMA;HYPHEN-MINUS;FULL STOP;SOLIDUS"⟩,
  ⟨0xE0030, "TAG DIGIT ", "ZERO;ONE;TWO;THREE;FOUR;FIVE;SIX;SEVEN;EIGHT;NINE"⟩,
  ⟨0xE003A, "TAG ", "COLON;SEMICOLON;LESS-THAN SIGN;EQUALS SIGN;GREATER-THAN SIGN;QUESTION MARK;COMMERCIAL AT"⟩,
  ⟨0xE0041, "TAG LATIN CAPITAL LETTER ", "A;B;C;D;E;F;G;H;I;J;K;L;M;N;O;P;Q;R;S;T;U;V;W;X;Y;Z"⟩,
  ⟨0xE005B, "", "TAG LEFT SQUARE BRACKET"⟩,
  ⟨0xE005C, "TAG ", "REVERSE SOLIDUS;RIGHT SQUARE BRACKET;CIRCUMFLEX ACCENT;LOW LINE;GRAVE ACCENT"⟩,
  ⟨0xE0061, "TAG LATIN SMALL LETTER ", "A;B;C;D;E;F;G;H;I;J;K;L;M;N;O;P;Q;R;S;T;U;V;W;X;Y;Z"⟩,
  ⟨0xE007B, "", "TAG LEFT CURLY BRACKET;TAG VERTICAL LINE;TAG RIGHT CURLY BRACKET;TAG TILDE;CANCEL TAG"⟩,
  ⟨0xE0100, "VARIATION SELECTOR-", "17;18;19;20;21;22;23;24;25;26;27;28;29;30;31;32;33;34;35;36;37;38;39;40;41"⟩,
  ⟨0xE0119, "VARIATION SELECTOR-", "42;43;44;45;46;47;48;49;50;51;52;53;54;55;56;57;58;59;60;61;62;63;64;65;66;67;68"⟩,
  ⟨0xE0134, "VARIATION SELECTOR-", "69;70;71;72;73;74;75;76;77;78;79;80;81;82;83;84;85;86;87;88;89;90;91;92;93;94;95"⟩,
  ⟨0xE014F, "VARIATION SELECTOR-", "96;97;98;99;100;101;102;103;104;105;106;107;108;109;110;111;112;113;114;115;116"⟩,
  ⟨0xE0164, "VARIATION SELECTOR-", "117;118;119;120;121;122;123;124;125;126;127;128;129;130;131;132;133;134;135;136"⟩,
  ⟨0xE0178, "VARIATION SELECTOR-", "137;138;139;140;141;142;143;144;145;146;147;148;149;150;151;152;153;154;155;156"⟩,
  ⟨0xE018C, "VARIATION SELECTOR-", "157;158;159;160;161;162;163;164;165;166;167;168;169;170;171;172;173;174;175;176"⟩,
  ⟨0xE01A0, "VARIATION SELECTOR-", "177;178;179;180;181;182;183;184;185;186;187;188;189;190;191;192;193;194;195;196"⟩,
  ⟨0xE01B4, "VARIATION SELECTOR-", "197;198;199;200;201;202;203;204;205;206;207;208;209;210;211;212;213;214;215;216"⟩,
  ⟨0xE01C8, "VARIATION SELECTOR-", "217;218;219;220;221;222;223;224;225;226;227;228;229;230;231;232;233;234;235;236"⟩,
  ⟨0xE01DC, "VARIATION SELECTOR-", "237;238;239;240;241;242;243;244;245;246;247;248;249;250;251;252;253;254;255;256"⟩]

end HtmlTemplate.CharName
