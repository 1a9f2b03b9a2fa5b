import YangSchema.Unicode.Name.Block

/-!
# Names of characters 0000 to 058F

Latin, phonetic and combining characters, Greek, Cyrillic and Armenian.
-/
namespace YangSchema.Unicode.NameBlock

def latinToArmenian : List NameBlock :=
  [⟨0x0020, "",
    ["SPACE;EXCLAMATION MARK;QUOTATION MARK;NUMBER SIGN;DOLLAR SIGN;PERCENT SIGN;AMPERSAND",
     "APOSTROPHE;LEFT PARENTHESIS;RIGHT PARENTHESIS;ASTERISK;PLUS SIGN;COMMA;HYPHEN-MINUS",
     "FULL STOP;SOLIDUS;DIGIT ZERO;DIGIT ONE;DIGIT TWO;DIGIT THREE;DIGIT FOUR;DIGIT FIVE",
     "DIGIT SIX;DIGIT SEVEN;DIGIT EIGHT;DIGIT NINE;COLON;SEMICOLON;LESS-THAN SIGN;EQUALS SIGN",
     "GREATER-THAN SIGN;QUESTION MARK;COMMERCIAL AT"]⟩,
   ⟨0x0041, "LATIN CAPITAL LETTER ", ["A;B;C;D;E;F;G;H;I;J;K;L;M;N;O;P;Q;R;S;T;U;V;W;X;Y;Z"]⟩,
   ⟨0x005B, "",
    ["LEFT SQUARE BRACKET;REVERSE SOLIDUS;RIGHT SQUARE BRACKET;CIRCUMFLEX ACCENT;LOW LINE",
     "GRAVE ACCENT"]⟩,
   ⟨0x0061, "LATIN SMALL LETTER ", ["A;B;C;D;E;F;G;H;I;J;K;L;M;N;O;P;Q;R;S;T;U;V;W;X;Y;Z"]⟩,
   ⟨0x007B, "", ["LEFT CURLY BRACKET;VERTICAL LINE;RIGHT CURLY BRACKET;TILDE"]⟩,
   ⟨0x00A0, "",
    ["NO-BREAK SPACE;INVERTED EXCLAMATION MARK;CENT SIGN;POUND SIGN;CURRENCY SIGN;YEN SIGN",
     "BROKEN BAR;SECTION SIGN;DIAERESIS;COPYRIGHT SIGN;FEMININE ORDINAL INDICATOR",
     "LEFT-POINTING DOUBLE ANGLE QUOTATION MARK;NOT SIGN;SOFT HYPHEN;REGISTERED SIGN;MACRON",
     "DEGREE SIGN;PLUS-MINUS SIGN;SUPERSCRIPT TWO;SUPERSCRIPT THREE;ACUTE ACCENT;MICRO SIGN",
     "PILCROW SIGN;MIDDLE DOT;CEDILLA;SUPERSCRIPT ONE;MASCULINE ORDINAL INDICATOR",
     "RIGHT-POINTING DOUBLE ANGLE QUOTATION MARK;VULGAR FRACTION ONE QUARTER",
     "VULGAR FRACTION ONE HALF;VULGAR FRACTION THREE QUARTERS;INVERTED QUESTION MARK"]⟩,
   ⟨0x00C0, "LATIN CAPITAL LETTER ",
    ["A WITH GRAVE;A WITH ACUTE;A WITH CIRCUMFLEX;A WITH TILDE;A WITH DIAERESIS",
     "A WITH RING ABOVE;AE;C WITH CEDILLA;E WITH GRAVE;E WITH ACUTE;E WITH CIRCUMFLEX",
     "E WITH DIAERESIS;I WITH GRAVE;I WITH ACUTE;I WITH CIRCUMFLEX;I WITH DIAERESIS;ETH",
     "N WITH TILDE;O WITH GRAVE;O WITH ACUTE;O WITH CIRCUMFLEX;O WITH TILDE;O WITH DIAERESIS"]⟩,
   ⟨0x00D7, "", ["MULTIPLICATION SIGN"]⟩,
   ⟨0x00D8, "LATIN CAPITAL LETTER ",
    ["O WITH STROKE;U WITH GRAVE;U WITH ACUTE;U WITH CIRCUMFLEX;U WITH DIAERESIS;Y WITH ACUTE",
     "THORN"]⟩,
   ⟨0x00DF, "LATIN SMALL LETTER ",
    ["SHARP S;A WITH GRAVE;A WITH ACUTE;A WITH CIRCUMFLEX;A WITH TILDE;A WITH DIAERESIS",
     "A WITH RING ABOVE;AE;C WITH CEDILLA;E WITH GRAVE;E WITH ACUTE;E WITH CIRCUMFLEX",
     "E WITH DIAERESIS;I WITH GRAVE;I WITH ACUTE;I WITH CIRCUMFLEX;I WITH DIAERESIS;ETH",
     "N WITH TILDE;O WITH GRAVE;O WITH ACUTE;O WITH CIRCUMFLEX;O WITH TILDE;O WITH DIAERESIS"]⟩,
   ⟨0x00F7, "", ["DIVISION SIGN"]⟩,
   ⟨0x00F8, "LATIN SMALL LETTER ",
    ["O WITH STROKE;U WITH GRAVE;U WITH ACUTE;U WITH CIRCUMFLEX;U WITH DIAERESIS;Y WITH ACUTE",
     "THORN;Y WITH DIAERESIS"]⟩,
   ⟨0x0100, "LATIN ",
    ["CAPITAL LETTER A WITH MACRON;SMALL LETTER A WITH MACRON;CAPITAL LETTER A WITH BREVE",
     "SMALL LETTER A WITH BREVE;CAPITAL LETTER A WITH OGONEK;SMALL LETTER A WITH OGONEK",
     "CAPITAL LETTER C WITH ACUTE;SMALL LETTER C WITH ACUTE;CAPITAL LETTER C WITH CIRCUMFLEX",
     "SMALL LETTER C WITH CIRCUMFLEX;CAPITAL LETTER C WITH DOT ABOVE",
     "SMALL LETTER C WITH DOT ABOVE;CAPITAL LETTER C WITH CARON;SMALL LETTER C WITH CARON",
     "CAPITAL LETTER D WITH CARON;SMALL LETTER D WITH CARON;CAPITAL LETTER D WITH STROKE",
     "SMALL LETTER D WITH STROKE;CAPITAL LETTER E WITH MACRON;SMALL LETTER E WITH MACRON",
     "CAPITAL LETTER E WITH BREVE;SMALL LETTER E WITH BREVE;CAPITAL LETTER E WITH DOT ABOVE",
     "SMALL LETTER E WITH DOT ABOVE;CAPITAL LETTER E WITH OGONEK;SMALL LETTER E WITH OGONEK",
     "CAPITAL LETTER E WITH CARON;SMALL LETTER E WITH CARON;CAPITAL LETTER G WITH CIRCUMFLEX",
     "SMALL LETTER G WITH CIRCUMFLEX;CAPITAL LETTER G WITH BREVE;SMALL LETTER G WITH BREVE",
     "CAPITAL LETTER G WITH DOT ABOVE;SMALL LETTER G WITH DOT ABOVE",
     "CAPITAL LETTER G WITH CEDILLA;SMALL LETTER G WITH CEDILLA",
     "CAPITAL LETTER H WITH CIRCUMFLEX;SMALL LETTER H WITH CIRCUMFLEX",
     "CAPITAL LETTER H WITH STROKE;SMALL LETTER H WITH STROKE;CAPITAL LETTER I WITH TILDE",
     "SMALL LETTER I WITH TILDE;CAPITAL LETTER I WITH MACRON;SMALL LETTER I WITH MACRON",
     "CAPITAL LETTER I WITH BREVE;SMALL LETTER I WITH BREVE;CAPITAL LETTER I WITH OGONEK",
     "SMALL LETTER I WITH OGONEK;CAPITAL LETTER I WITH DOT ABOVE;SMALL LETTER DOTLESS I",
     "CAPITAL LIGATURE IJ;SMALL LIGATURE IJ;CAPITAL LETTER J WITH CIRCUMFLEX",
     "SMALL LETTER J WITH CIRCUMFLEX;CAPITAL LETTER K WITH CEDILLA;SMALL LETTER K WITH CEDILLA",
     "SMALL LETTER KRA;CAPITAL LETTER L WITH ACUTE;SMALL LETTER L WITH ACUTE",
     "CAPITAL LETTER L WITH CEDILLA;SMALL LETTER L WITH CEDILLA;CAPITAL LETTER L WITH CARON",
     "SMALL LETTER L WITH CARON;CAPITAL LETTER L WITH MIDDLE DOT;SMALL LETTER L WITH MIDDLE DOT",
     "CAPITAL LETTER L WITH STROKE;SMALL LETTER L WITH STROKE;CAPITAL LETTER N WITH ACUTE",
     "SMALL LETTER N WITH ACUTE;CAPITAL LETTER N WITH CEDILLA;SMALL LETTER N WITH CEDILLA",
     "CAPITAL LETTER N WITH CARON;SMALL LETTER N WITH CARON",
     "SMALL LETTER N PRECEDED BY APOSTROPHE;CAPITAL LETTER ENG;SMALL LETTER ENG",
     "CAPITAL LETTER O WITH MACRON;SMALL LETTER O WITH MACRON;CAPITAL LETTER O WITH BREVE",
     "SMALL LETTER O WITH BREVE;CAPITAL LETTER O WITH DOUBLE ACUTE",
     "SMALL LETTER O WITH DOUBLE ACUTE;CAPITAL LIGATURE OE;SMALL LIGATURE OE",
     "CAPITAL LETTER R WITH ACUTE;SMALL LETTER R WITH ACUTE;CAPITAL LETTER R WITH CEDILLA",
     "SMALL LETTER R WITH CEDILLA;CAPITAL LETTER R WITH CARON;SMALL LETTER R WITH CARON",
     "CAPITAL LETTER S WITH ACUTE;SMALL LETTER S WITH ACUTE;CAPITAL LETTER S WITH CIRCUMFLEX",
     "SMALL LETTER S WITH CIRCUMFLEX;CAPITAL LETTER S WITH CEDILLA;SMALL LETTER S WITH CEDILLA",
     "CAPITAL LETTER S WITH CARON;SMALL LETTER S WITH CARON;CAPITAL LETTER T WITH CEDILLA",
     "SMALL LETTER T WITH CEDILLA;CAPITAL LETTER T WITH CARON;SMALL LETTER T WITH CARON",
     "CAPITAL LETTER T WITH STROKE;SMALL LETTER T WITH STROKE;CAPITAL LETTER U WITH TILDE",
     "SMALL LETTER U WITH TILDE;CAPITAL LETTER U WITH MACRON;SMALL LETTER U WITH MACRON",
     "CAPITAL LETTER U WITH BREVE;SMALL LETTER U WITH BREVE;CAPITAL LETTER U WITH RING ABOVE",
     "SMALL LETTER U WITH RING ABOVE;CAPITAL LETTER U WITH DOUBLE ACUTE",
     "SMALL LETTER U WITH DOUBLE ACUTE;CAPITAL LETTER U WITH OGONEK;SMALL LETTER U WITH OGONEK",
     "CAPITAL LETTER W WITH CIRCUMFLEX;SMALL LETTER W WITH CIRCUMFLEX",
     "CAPITAL LETTER Y WITH CIRCUMFLEX;SMALL LETTER Y WITH CIRCUMFLEX",
     "CAPITAL LETTER Y WITH DIAERESIS;CAPITAL LETTER Z WITH ACUTE;SMALL LETTER Z WITH ACUTE",
     "CAPITAL LETTER Z WITH DOT ABOVE;SMALL LETTER Z WITH DOT ABOVE;CAPITAL LETTER Z WITH CARON",
     "SMALL LETTER Z WITH CARON;SMALL LETTER LONG S;SMALL LETTER B WITH STROKE",
     "CAPITAL LETTER B WITH HOOK;CAPITAL LETTER B WITH TOPBAR;SMALL LETTER B WITH TOPBAR",
     "CAPITAL LETTER TONE SIX;SMALL LETTER TONE SIX;CAPITAL LETTER OPEN O",
     "CAPITAL LETTER C WITH HOOK;SMALL LETTER C WITH HOOK;CAPITAL LETTER AFRICAN D",
     "CAPITAL LETTER D WITH HOOK;CAPITAL LETTER D WITH TOPBAR;SMALL LETTER D WITH TOPBAR",
     "SMALL LETTER TURNED DELTA;CAPITAL LETTER REVERSED E;CAPITAL LETTER SCHWA",
     "CAPITAL LETTER OPEN E;CAPITAL LETTER F WITH HOOK;SMALL LETTER F WITH HOOK",
     "CAPITAL LETTER G WITH HOOK;CAPITAL LETTER GAMMA;SMALL LETTER HV;CAPITAL LETTER IOTA",
     "CAPITAL LETTER I WITH STROKE;CAPITAL LETTER K WITH HOOK;SMALL LETTER K WITH HOOK",
     "SMALL LETTER L WITH BAR;SMALL LETTER LAMBDA WITH STROKE;CAPITAL LETTER TURNED M",
     "CAPITAL LETTER N WITH LEFT HOOK;SMALL LETTER N WITH LONG RIGHT LEG",
     "CAPITAL LETTER O WITH MIDDLE TILDE;CAPITAL LETTER O WITH HORN;SMALL LETTER O WITH HORN",
     "CAPITAL LETTER OI;SMALL LETTER OI;CAPITAL LETTER P WITH HOOK;SMALL LETTER P WITH HOOK",
     "LETTER YR;CAPITAL LETTER TONE TWO;SMALL LETTER TONE TWO;CAPITAL LETTER ESH",
     "LETTER REVERSED ESH LOOP;SMALL LETTER T WITH PALATAL HOOK;CAPITAL LETTER T WITH HOOK",
     "SMALL LETTER T WITH HOOK;CAPITAL LETTER T WITH RETROFLEX HOOK;CAPITAL LETTER U WITH HORN",
     "SMALL LETTER U WITH HORN;CAPITAL LETTER UPSILON;CAPITAL LETTER V WITH HOOK",
     "CAPITAL LETTER Y WITH HOOK;SMALL LETTER Y WITH HOOK;CAPITAL LETTER Z WITH STROKE",
     "SMALL LETTER Z WITH STROKE;CAPITAL LETTER EZH;CAPITAL LETTER EZH REVERSED",
     "SMALL LETTER EZH REVERSED;SMALL LETTER EZH WITH TAIL;LETTER TWO WITH STROKE",
     "CAPITAL LETTER TONE FIVE;SMALL LETTER TONE FIVE;LETTER INVERTED GLOTTAL STOP WITH STROKE",
     "LETTER WYNN;LETTER DENTAL CLICK;LETTER LATERAL CLICK;LETTER ALVEOLAR CLICK",
     "LETTER RETROFLEX CLICK;CAPITAL LETTER DZ WITH CARON",
     "CAPITAL LETTER D WITH SMALL LETTER Z WITH CARON;SMALL LETTER DZ WITH CARON",
     "CAPITAL LETTER LJ;CAPITAL LETTER L WITH SMALL LETTER J;SMALL LETTER LJ;CAPITAL LETTER NJ",
     "CAPITAL LETTER N WITH SMALL LETTER J;SMALL LETTER NJ;CAPITAL LETTER A WITH CARON",
     "SMALL LETTER A WITH CARON;CAPITAL LETTER I WITH CARON;SMALL LETTER I WITH CARON",
     "CAPITAL LETTER O WITH CARON;SMALL LETTER O WITH CARON;CAPITAL LETTER U WITH CARON",
     "SMALL LETTER U WITH CARON;CAPITAL LETTER U WITH DIAERESIS AND MACRON",
     "SMALL LETTER U WITH DIAERESIS AND MACRON;CAPITAL LETTER U WITH DIAERESIS AND ACUTE",
     "SMALL LETTER U WITH DIAERESIS AND ACUTE;CAPITAL LETTER U WITH DIAERESIS AND CARON",
     "SMALL LETTER U WITH DIAERESIS AND CARON;CAPITAL LETTER U WITH DIAERESIS AND GRAVE",
     "SMALL LETTER U WITH DIAERESIS AND GRAVE;SMALL LETTER TURNED E",
     "CAPITAL LETTER A WITH DIAERESIS AND MACRON;SMALL LETTER A WITH DIAERESIS AND MACRON",
     "CAPITAL LETTER A WITH DOT ABOVE AND MACRON;SMALL LETTER A WITH DOT ABOVE AND MACRON",
     "CAPITAL LETTER AE WITH MACRON;SMALL LETTER AE WITH MACRON;CAPITAL LETTER G WITH STROKE",
     "SMALL LETTER G WITH STROKE;CAPITAL LETTER G WITH CARON;SMALL LETTER G WITH CARON",
     "CAPITAL LETTER K WITH CARON;SMALL LETTER K WITH CARON;CAPITAL LETTER O WITH OGONEK",
     "SMALL LETTER O WITH OGONEK;CAPITAL LETTER O WITH OGONEK AND MACRON",
     "SMALL LETTER O WITH OGONEK AND MACRON;CAPITAL LETTER EZH WITH CARON",
     "SMALL LETTER EZH WITH CARON;SMALL LETTER J WITH CARON;CAPITAL LETTER DZ",
     "CAPITAL LETTER D WITH SMALL LETTER Z;SMALL LETTER DZ;CAPITAL LETTER G WITH ACUTE",
     "SMALL LETTER G WITH ACUTE;CAPITAL LETTER HWAIR;CAPITAL LETTER WYNN",
     "CAPITAL LETTER N WITH GRAVE;SMALL LETTER N WITH GRAVE",
     "CAPITAL LETTER A WITH RING ABOVE AND ACUTE;SMALL LETTER A WITH RING ABOVE AND ACUTE",
     "CAPITAL LETTER AE WITH ACUTE;SMALL LETTER AE WITH ACUTE",
     "CAPITAL LETTER O WITH STROKE AND ACUTE;SMALL LETTER O WITH STROKE AND ACUTE",
     "CAPITAL LETTER A WITH DOUBLE GRAVE;SMALL LETTER A WITH DOUBLE GRAVE",
     "CAPITAL LETTER A WITH INVERTED BREVE;SMALL LETTER A WITH INVERTED BREVE",
     "CAPITAL LETTER E WITH DOUBLE GRAVE;SMALL LETTER E WITH DOUBLE GRAVE",
     "CAPITAL LETTER E WITH INVERTED BREVE;SMALL LETTER E WITH INVERTED BREVE",
     "CAPITAL LETTER I WITH DOUBLE GRAVE;SMALL LETTER I WITH DOUBLE GRAVE",
     "CAPITAL LETTER I WITH INVERTED BREVE;SMALL LETTER I WITH INVERTED BREVE",
     "CAPITAL LETTER O WITH DOUBLE GRAVE;SMALL LETTER O WITH DOUBLE GRAVE",
     "CAPITAL LETTER O WITH INVERTED BREVE;SMALL LETTER O WITH INVERTED BREVE",
     "CAPITAL LETTER R WITH DOUBLE GRAVE;SMALL LETTER R WITH DOUBLE GRAVE",
     "CAPITAL LETTER R WITH INVERTED BREVE;SMALL LETTER R WITH INVERTED BREVE",
     "CAPITAL LETTER U WITH DOUBLE GRAVE;SMALL LETTER U WITH DOUBLE GRAVE",
     "CAPITAL LETTER U WITH INVERTED BREVE;SMALL LETTER U WITH INVERTED BREVE",
     "CAPITAL LETTER S WITH COMMA BELOW;SMALL LETTER S WITH COMMA BELOW",
     "CAPITAL LETTER T WITH COMMA BELOW;SMALL LETTER T WITH COMMA BELOW;CAPITAL LETTER YOGH",
     "SMALL LETTER YOGH;CAPITAL LETTER H WITH CARON;SMALL LETTER H WITH CARON",
     "CAPITAL LETTER N WITH LONG RIGHT LEG;SMALL LETTER D WITH CURL;CAPITAL LETTER OU",
     "SMALL LETTER OU;CAPITAL LETTER Z WITH HOOK;SMALL LETTER Z WITH HOOK",
     "CAPITAL LETTER A WITH DOT ABOVE;SMALL LETTER A WITH DOT ABOVE",
     "CAPITAL LETTER E WITH CEDILLA;SMALL LETTER E WITH CEDILLA",
     "CAPITAL LETTER O WITH DIAERESIS AND MACRON;SMALL LETTER O WITH DIAERESIS AND MACRON",
     "CAPITAL LETTER O WITH TILDE AND MACRON;SMALL LETTER O WITH TILDE AND MACRON",
     "CAPITAL LETTER O WITH DOT ABOVE;SMALL LETTER O WITH DOT ABOVE",
     "CAPITAL LETTER O WITH DOT ABOVE AND MACRON;SMALL LETTER O WITH DOT ABOVE AND MACRON",
     "CAPITAL LETTER Y WITH MACRON;SMALL LETTER Y WITH MACRON;SMALL LETTER L WITH CURL",
     "SMALL LETTER N WITH CURL;SMALL LETTER T WITH CURL;SMALL LETTER DOTLESS J",
     "SMALL LETTER DB DIGRAPH;SMALL LETTER QP DIGRAPH;CAPITAL LETTER A WITH STROKE",
     "CAPITAL LETTER C WITH STROKE;SMALL LETTER C WITH STROKE;CAPITAL LETTER L WITH BAR",
     "CAPITAL LETTER T WITH DIAGONAL STROKE;SMALL LETTER S WITH SWASH TAIL",
     "SMALL LETTER Z WITH SWASH TAIL;CAPITAL LETTER GLOTTAL STOP;SMALL LETTER GLOTTAL STOP",
     "CAPITAL LETTER B WITH STROKE;CAPITAL LETTER U BAR;CAPITAL LETTER TURNED V",
     "CAPITAL LETTER E WITH STROKE;SMALL LETTER E WITH STROKE;CAPITAL LETTER J WITH STROKE",
     "SMALL LETTER J WITH STROKE;CAPITAL LETTER SMALL Q WITH HOOK TAIL",
     "SMALL LETTER Q WITH HOOK TAIL;CAPITAL LETTER R WITH STROKE;SMALL LETTER R WITH STROKE",
     "CAPITAL LETTER Y WITH STROKE"]⟩,
   ⟨0x024F, "LATIN SMALL LETTER ",
    ["Y WITH STROKE;TURNED A;ALPHA;TURNED ALPHA;B WITH HOOK;OPEN O;C WITH CURL;D WITH TAIL",
     "D WITH HOOK;REVERSED E;SCHWA;SCHWA WITH HOOK;OPEN E;REVERSED OPEN E",
     "REVERSED OPEN E WITH HOOK;CLOSED REVERSED OPEN E;DOTLESS J WITH STROKE;G WITH HOOK",
     "SCRIPT G"]⟩,
   ⟨0x0262, "LATIN ",
    ["LETTER SMALL CAPITAL G;SMALL LETTER GAMMA;SMALL LETTER RAMS HORN;SMALL LETTER TURNED H",
     "SMALL LETTER H WITH HOOK;SMALL LETTER HENG WITH HOOK;SMALL LETTER I WITH STROKE",
     "SMALL LETTER IOTA;LETTER SMALL CAPITAL I;SMALL LETTER L WITH MIDDLE TILDE",
     "SMALL LETTER L WITH BELT;SMALL LETTER L WITH RETROFLEX HOOK;SMALL LETTER LEZH",
     "SMALL LETTER TURNED M;SMALL LETTER TURNED M WITH LONG LEG;SMALL LETTER M WITH HOOK",
     "SMALL LETTER N WITH LEFT HOOK;SMALL LETTER N WITH RETROFLEX HOOK;LETTER SMALL CAPITAL N",
     "SMALL LETTER BARRED O;LETTER SMALL CAPITAL OE;SMALL LETTER CLOSED OMEGA;SMALL LETTER PHI",
     "SMALL LETTER TURNED R;SMALL LETTER TURNED R WITH LONG LEG;SMALL LETTER TURNED R WITH HOOK",
     "SMALL LETTER R WITH LONG LEG;SMALL LETTER R WITH TAIL;SMALL LETTER R WITH FISHHOOK",
     "SMALL LETTER REVERSED R WITH FISHHOOK;LETTER SMALL CAPITAL R",
     "LETTER SMALL CAPITAL INVERTED R"]⟩,
   ⟨0x0282, "LATIN SMALL LETTER ",
    ["S WITH HOOK;ESH;DOTLESS J WITH STROKE AND HOOK;SQUAT REVERSED ESH;ESH WITH CURL;TURNED T",
     "T WITH RETROFLEX HOOK;U BAR;UPSILON;V WITH HOOK;TURNED V;TURNED W;TURNED Y"]⟩,
   ⟨0x028F, "LATIN ",
    ["LETTER SMALL CAPITAL Y;SMALL LETTER Z WITH RETROFLEX HOOK;SMALL LETTER Z WITH CURL",
     "SMALL LETTER EZH;SMALL LETTER EZH WITH CURL;LETTER GLOTTAL STOP",
     "LETTER PHARYNGEAL VOICED FRICATIVE;LETTER INVERTED GLOTTAL STOP;LETTER STRETCHED C",
     "LETTER BILABIAL CLICK;LETTER SMALL CAPITAL B;SMALL LETTER CLOSED OPEN E",
     "LETTER SMALL CAPITAL G WITH HOOK;LETTER SMALL CAPITAL H;SMALL LETTER J WITH CROSSED-TAIL",
     "SMALL LETTER TURNED K;LETTER SMALL CAPITAL L;SMALL LETTER Q WITH HOOK",
     "LETTER GLOTTAL STOP WITH STROKE;LETTER REVERSED GLOTTAL STOP WITH STROKE",
     "SMALL LETTER DZ DIGRAPH;SMALL LETTER DEZH DIGRAPH;SMALL LETTER DZ DIGRAPH WITH CURL",
     "SMALL LETTER TS DIGRAPH;SMALL LETTER TESH DIGRAPH;SMALL LETTER TC DIGRAPH WITH CURL",
     "SMALL LETTER FENG DIGRAPH;SMALL LETTER LS DIGRAPH;SMALL LETTER LZ DIGRAPH",
     "LETTER BILABIAL PERCUSSIVE;LETTER BIDENTAL PERCUSSIVE;SMALL LETTER TURNED H WITH FISHHOOK",
     "SMALL LETTER TURNED H WITH FISHHOOK AND TAIL"]⟩,
   ⟨0x02B0, "MODIFIER LETTER ",
    ["SMALL H;SMALL H WITH HOOK;SMALL J;SMALL R;SMALL TURNED R;SMALL TURNED R WITH HOOK",
     "SMALL CAPITAL INVERTED R;SMALL W;SMALL Y;PRIME;DOUBLE PRIME;TURNED COMMA;APOSTROPHE",
     "REVERSED COMMA;RIGHT HALF RING;LEFT HALF RING;GLOTTAL STOP;REVERSED GLOTTAL STOP",
     "LEFT ARROWHEAD;RIGHT ARROWHEAD;UP ARROWHEAD;DOWN ARROWHEAD;CIRCUMFLEX ACCENT"]⟩,
   ⟨0x02C7, "", ["CARON"]⟩,
   ⟨0x02C8, "MODIFIER LETTER ",
    ["VERTICAL LINE;MACRON;ACUTE ACCENT;GRAVE ACCENT;LOW VERTICAL LINE;LOW MACRON",
     "LOW GRAVE ACCENT;LOW ACUTE ACCENT;TRIANGULAR COLON;HALF TRIANGULAR COLON",
     "CENTRED RIGHT HALF RING;CENTRED LEFT HALF RING;UP TACK;DOWN TACK;PLUS SIGN;MINUS SIGN"]⟩,
   ⟨0x02D8, "", ["BREVE;DOT ABOVE;RING ABOVE;OGONEK;SMALL TILDE;DOUBLE ACUTE ACCENT"]⟩,
   ⟨0x02DE, "MODIFIER LETTER ",
    ["RHOTIC HOOK;CROSS ACCENT;SMALL GAMMA;SMALL L;SMALL S;SMALL X;SMALL REVERSED GLOTTAL STOP",
     "EXTRA-HIGH TONE BAR;HIGH TONE BAR;MID TONE BAR;LOW TONE BAR;EXTRA-LOW TONE BAR",
     "YIN DEPARTING TONE MARK;YANG DEPARTING TONE MARK;VOICING;UNASPIRATED;DOUBLE APOSTROPHE",
     "LOW DOWN ARROWHEAD;LOW UP ARROWHEAD;LOW LEFT ARROWHEAD;LOW RIGHT ARROWHEAD;LOW RING",
     "MIDDLE GRAVE ACCENT;MIDDLE DOUBLE GRAVE ACCENT;MIDDLE DOUBLE ACUTE ACCENT;LOW TILDE",
     "RAISED COLON;BEGIN HIGH TONE;END HIGH TONE;BEGIN LOW TONE;END LOW TONE;SHELF;OPEN SHELF",
     "LOW LEFT ARROW"]⟩,
   ⟨0x0300, "COMBINING ",
    ["GRAVE ACCENT;ACUTE ACCENT;CIRCUMFLEX ACCENT;TILDE;MACRON;OVERLINE;BREVE;DOT ABOVE",
     "DIAERESIS;HOOK ABOVE;RING ABOVE;DOUBLE ACUTE ACCENT;CARON;VERTICAL LINE ABOVE",
     "DOUBLE VERTICAL LINE ABOVE;DOUBLE GRAVE ACCENT;CANDRABINDU;INVERTED BREVE",
     "TURNED COMMA ABOVE;COMMA ABOVE;REVERSED COMMA ABOVE;COMMA ABOVE RIGHT;GRAVE ACCENT BELOW",
     "ACUTE ACCENT BELOW;LEFT TACK BELOW;RIGHT TACK BELOW;LEFT ANGLE ABOVE;HORN",
     "LEFT HALF RING BELOW;UP TACK BELOW;DOWN TACK BELOW;PLUS SIGN BELOW;MINUS SIGN BELOW",
     "PALATALIZED HOOK BELOW;RETROFLEX HOOK BELOW;DOT BELOW;DIAERESIS BELOW;RING BELOW",
     "COMMA BELOW;CEDILLA;OGONEK;VERTICAL LINE BELOW;BRIDGE BELOW;INVERTED DOUBLE ARCH BELOW",
     "CARON BELOW;CIRCUMFLEX ACCENT BELOW;BREVE BELOW;INVERTED BREVE BELOW;TILDE BELOW",
     "MACRON BELOW;LOW LINE;DOUBLE LOW LINE;TILDE OVERLAY;SHORT STROKE OVERLAY",
     "LONG STROKE OVERLAY;SHORT SOLIDUS OVERLAY;LONG SOLIDUS OVERLAY;RIGHT HALF RING BELOW",
     "INVERTED BRIDGE BELOW;SQUARE BELOW;SEAGULL BELOW;X ABOVE;VERTICAL TILDE;DOUBLE OVERLINE",
     "GRAVE TONE MARK;ACUTE TONE MARK;GREEK PERISPOMENI;GREEK KORONIS;GREEK DIALYTIKA TONOS",
     "GREEK YPOGEGRAMMENI;BRIDGE ABOVE;EQUALS SIGN BELOW;DOUBLE VERTICAL LINE BELOW",
     "LEFT ANGLE BELOW;NOT TILDE ABOVE;HOMOTHETIC ABOVE;ALMOST EQUAL TO ABOVE",
     "LEFT RIGHT ARROW BELOW;UPWARDS ARROW BELOW;GRAPHEME JOINER;RIGHT ARROWHEAD ABOVE",
     "LEFT HALF RING ABOVE;FERMATA;X BELOW;LEFT ARROWHEAD BELOW;RIGHT ARROWHEAD BELOW",
     "RIGHT ARROWHEAD AND UP ARROWHEAD BELOW;RIGHT HALF RING ABOVE;DOT ABOVE RIGHT",
     "ASTERISK BELOW;DOUBLE RING BELOW;ZIGZAG ABOVE;DOUBLE BREVE BELOW;DOUBLE BREVE",
     "DOUBLE MACRON;DOUBLE MACRON BELOW;DOUBLE TILDE;DOUBLE INVERTED BREVE",
     "DOUBLE RIGHTWARDS ARROW BELOW"]⟩,
   ⟨0x0363, "COMBINING LATIN SMALL LETTER ", ["A;E;I;O;U;C;D;H;M;R;T;V;X"]⟩,
   ⟨0x0370, "GREEK ",
    ["CAPITAL LETTER HETA;SMALL LETTER HETA;CAPITAL LETTER ARCHAIC SAMPI",
     "SMALL LETTER ARCHAIC SAMPI;NUMERAL SIGN;LOWER NUMERAL SIGN",
     "CAPITAL LETTER PAMPHYLIAN DIGAMMA;SMALL LETTER PAMPHYLIAN DIGAMMA"]⟩,
   ⟨0x037A, "GREEK ",
    ["YPOGEGRAMMENI;SMALL REVERSED LUNATE SIGMA SYMBOL;SMALL DOTTED LUNATE SIGMA SYMBOL",
     "SMALL REVERSED DOTTED LUNATE SIGMA SYMBOL;QUESTION MARK;CAPITAL LETTER YOT"]⟩,
   ⟨0x0384, "GREEK ",
    ["TONOS;DIALYTIKA TONOS;CAPITAL LETTER ALPHA WITH TONOS;ANO TELEIA",
     "CAPITAL LETTER EPSILON WITH TONOS;CAPITAL LETTER ETA WITH TONOS",
     "CAPITAL LETTER IOTA WITH TONOS"]⟩,
   ⟨0x038C, "", ["GREEK CAPITAL LETTER OMICRON WITH TONOS"]⟩,
   ⟨0x038E, "GREEK ",
    ["CAPITAL LETTER UPSILON WITH TONOS;CAPITAL LETTER OMEGA WITH TONOS",
     "SMALL LETTER IOTA WITH DIALYTIKA AND TONOS"]⟩,
   ⟨0x0391, "GREEK CAPITAL LETTER ",
    ["ALPHA;BETA;GAMMA;DELTA;EPSILON;ZETA;ETA;THETA;IOTA;KAPPA;LAMDA;MU;NU;XI;OMICRON;PI;RHO"]⟩,
   ⟨0x03A3, "GREEK CAPITAL LETTER ",
    ["SIGMA;TAU;UPSILON;PHI;CHI;PSI;OMEGA;IOTA WITH DIALYTIKA;UPSILON WITH DIALYTIKA"]⟩,
   ⟨0x03AC, "GREEK SMALL LETTER ",
    ["ALPHA WITH TONOS;EPSILON WITH TONOS;ETA WITH TONOS;IOTA WITH TONOS",
     "UPSILON WITH DIALYTIKA AND TONOS;ALPHA;BETA;GAMMA;DELTA;EPSILON;ZETA;ETA;THETA;IOTA;KAPPA",
     "LAMDA;MU;NU;XI;OMICRON;PI;RHO;FINAL SIGMA;SIGMA;TAU;UPSILON;PHI;CHI;PSI;OMEGA",
     "IOTA WITH DIALYTIKA;UPSILON WITH DIALYTIKA;OMICRON WITH TONOS;UPSILON WITH TONOS",
     "OMEGA WITH TONOS"]⟩,
   ⟨0x03CF, "GREEK ",
    ["CAPITAL KAI SYMBOL;BETA SYMBOL;THETA SYMBOL;UPSILON WITH HOOK SYMBOL",
     "UPSILON WITH ACUTE AND HOOK SYMBOL;UPSILON WITH DIAERESIS AND HOOK SYMBOL;PHI SYMBOL",
     "PI SYMBOL;KAI SYMBOL;LETTER ARCHAIC KOPPA;SMALL LETTER ARCHAIC KOPPA;LETTER STIGMA",
     "SMALL LETTER STIGMA;LETTER DIGAMMA;SMALL LETTER DIGAMMA;LETTER KOPPA;SMALL LETTER KOPPA",
     "LETTER SAMPI;SMALL LETTER SAMPI"]⟩,
   ⟨0x03E2, "COPTIC ",
    ["CAPITAL LETTER SHEI;SMALL LETTER SHEI;CAPITAL LETTER FEI;SMALL LETTER FEI",
     "CAPITAL LETTER KHEI;SMALL LETTER KHEI;CAPITAL LETTER HORI;SMALL LETTER HORI",
     "CAPITAL LETTER GANGIA;SMALL LETTER GANGIA;CAPITAL LETTER SHIMA;SMALL LETTER SHIMA",
     "CAPITAL LETTER DEI;SMALL LETTER DEI"]⟩,
   ⟨0x03F0, "GREEK ",
    ["KAPPA SYMBOL;RHO SYMBOL;LUNATE SIGMA SYMBOL;LETTER YOT;CAPITAL THETA SYMBOL",
     "LUNATE EPSILON SYMBOL;REVERSED LUNATE EPSILON SYMBOL;CAPITAL LETTER SHO;SMALL LETTER SHO",
     "CAPITAL LUNATE SIGMA SYMBOL;CAPITAL LETTER SAN;SMALL LETTER SAN;RHO WITH STROKE SYMBOL",
     "CAPITAL REVERSED LUNATE SIGMA SYMBOL;CAPITAL DOTTED LUNATE SIGMA SYMBOL",
     "CAPITAL REVERSED DOTTED LUNATE SIGMA SYMBOL"]⟩,
   ⟨0x0400, "CYRILLIC CAPITAL LETTER ",
    ["IE WITH GRAVE;IO;DJE;GJE;UKRAINIAN IE;DZE;BYELORUSSIAN-UKRAINIAN I;YI;JE;LJE;NJE;TSHE;KJE",
     "I WITH GRAVE;SHORT U;DZHE;A;BE;VE;GHE;DE;IE;ZHE;ZE;I;SHORT I;KA;EL;EM;EN;O;PE;ER;ES;TE;U",
     "EF;HA;TSE;CHE;SHA;SHCHA;HARD SIGN;YERU;SOFT SIGN;E;YU;YA"]⟩,
   ⟨0x0430, "CYRILLIC SMALL LETTER ",
    ["A;BE;VE;GHE;DE;IE;ZHE;ZE;I;SHORT I;KA;EL;EM;EN;O;PE;ER;ES;TE;U;EF;HA;TSE;CHE;SHA;SHCHA",
     "HARD SIGN;YERU;SOFT SIGN;E;YU;YA;IE WITH GRAVE;IO;DJE;GJE;UKRAINIAN IE;DZE",
     "BYELORUSSIAN-UKRAINIAN I;YI;JE;LJE;NJE;TSHE;KJE;I WITH GRAVE;SHORT U;DZHE"]⟩,
   ⟨0x0460, "CYRILLIC ",
    ["CAPITAL LETTER OMEGA;SMALL LETTER OMEGA;CAPITAL LETTER YAT;SMALL LETTER YAT",
     "CAPITAL LETTER IOTIFIED E;SMALL LETTER IOTIFIED E;CAPITAL LETTER LITTLE YUS",
     "SMALL LETTER LITTLE YUS;CAPITAL LETTER IOTIFIED LITTLE YUS",
     "SMALL LETTER IOTIFIED LITTLE YUS;CAPITAL LETTER BIG YUS;SMALL LETTER BIG YUS",
     "CAPITAL LETTER IOTIFIED BIG YUS;SMALL LETTER IOTIFIED BIG YUS;CAPITAL LETTER KSI",
     "SMALL LETTER KSI;CAPITAL LETTER PSI;SMALL LETTER PSI;CAPITAL LETTER FITA",
     "SMALL LETTER FITA;CAPITAL LETTER IZHITSA;SMALL LETTER IZHITSA",
     "CAPITAL LETTER IZHITSA WITH DOUBLE GRAVE ACCENT",
     "SMALL LETTER IZHITSA WITH DOUBLE GRAVE ACCENT;CAPITAL LETTER UK;SMALL LETTER UK",
     "CAPITAL LETTER ROUND OMEGA;SMALL LETTER ROUND OMEGA;CAPITAL LETTER OMEGA WITH TITLO",
     "SMALL LETTER OMEGA WITH TITLO;CAPITAL LETTER OT;SMALL LETTER OT;CAPITAL LETTER KOPPA",
     "SMALL LETTER KOPPA;THOUSANDS SIGN"]⟩,
   ⟨0x0483, "COMBINING CYRILLIC ",
    ["TITLO;PALATALIZATION;DASIA PNEUMATA;PSILI PNEUMATA;POKRYTIE;HUNDRED THOUSANDS SIGN",
     "MILLIONS SIGN"]⟩,
   ⟨0x048A, "CYRILLIC ",
    ["CAPITAL LETTER SHORT I WITH TAIL;SMALL LETTER SHORT I WITH TAIL",
     "CAPITAL LETTER SEMISOFT SIGN;SMALL LETTER SEMISOFT SIGN;CAPITAL LETTER ER WITH TICK",
     "SMALL LETTER ER WITH TICK;CAPITAL LETTER GHE WITH UPTURN;SMALL LETTER GHE WITH UPTURN",
     "CAPITAL LETTER GHE WITH STROKE;SMALL LETTER GHE WITH STROKE",
     "CAPITAL LETTER GHE WITH MIDDLE HOOK;SMALL LETTER GHE WITH MIDDLE HOOK",
     "CAPITAL LETTER ZHE WITH DESCENDER;SMALL LETTER ZHE WITH DESCENDER",
     "CAPITAL LETTER ZE WITH DESCENDER;SMALL LETTER ZE WITH DESCENDER",
     "CAPITAL LETTER KA WITH DESCENDER;SMALL LETTER KA WITH DESCENDER",
     "CAPITAL LETTER KA WITH VERTICAL STROKE;SMALL LETTER KA WITH VERTICAL STROKE",
     "CAPITAL LETTER KA WITH STROKE;SMALL LETTER KA WITH STROKE;CAPITAL LETTER BASHKIR KA",
     "SMALL LETTER BASHKIR KA;CAPITAL LETTER EN WITH DESCENDER;SMALL LETTER EN WITH DESCENDER",
     "CAPITAL LIGATURE EN GHE;SMALL LIGATURE EN GHE;CAPITAL LETTER PE WITH MIDDLE HOOK",
     "SMALL LETTER PE WITH MIDDLE HOOK;CAPITAL LETTER ABKHASIAN HA;SMALL LETTER ABKHASIAN HA",
     "CAPITAL LETTER ES WITH DESCENDER;SMALL LETTER ES WITH DESCENDER",
     "CAPITAL LETTER TE WITH DESCENDER;SMALL LETTER TE WITH DESCENDER;CAPITAL LETTER STRAIGHT U",
     "SMALL LETTER STRAIGHT U;CAPITAL LETTER STRAIGHT U WITH STROKE",
     "SMALL LETTER STRAIGHT U WITH STROKE;CAPITAL LETTER HA WITH DESCENDER",
     "SMALL LETTER HA WITH DESCENDER;CAPITAL LIGATURE TE TSE;SMALL LIGATURE TE TSE",
     "CAPITAL LETTER CHE WITH DESCENDER;SMALL LETTER CHE WITH DESCENDER",
     "CAPITAL LETTER CHE WITH VERTICAL STROKE;SMALL LETTER CHE WITH VERTICAL STROKE",
     "CAPITAL LETTER SHHA;SMALL LETTER SHHA;CAPITAL LETTER ABKHASIAN CHE",
     "SMALL LETTER ABKHASIAN CHE;CAPITAL LETTER ABKHASIAN CHE WITH DESCENDER",
     "SMALL LETTER ABKHASIAN CHE WITH DESCENDER;LETTER PALOCHKA;CAPITAL LETTER ZHE WITH BREVE",
     "SMALL LETTER ZHE WITH BREVE;CAPITAL LETTER KA WITH HOOK;SMALL LETTER KA WITH HOOK",
     "CAPITAL LETTER EL WITH TAIL;SMALL LETTER EL WITH TAIL;CAPITAL LETTER EN WITH HOOK",
     "SMALL LETTER EN WITH HOOK;CAPITAL LETTER EN WITH TAIL;SMALL LETTER EN WITH TAIL",
     "CAPITAL LETTER KHAKASSIAN CHE;SMALL LETTER KHAKASSIAN CHE;CAPITAL LETTER EM WITH TAIL",
     "SMALL LETTER EM WITH TAIL;SMALL LETTER PALOCHKA;CAPITAL LETTER A WITH BREVE",
     "SMALL LETTER A WITH BREVE;CAPITAL LETTER A WITH DIAERESIS;SMALL LETTER A WITH DIAERESIS",
     "CAPITAL LIGATURE A IE;SMALL LIGATURE A IE;CAPITAL LETTER IE WITH BREVE",
     "SMALL LETTER IE WITH BREVE;CAPITAL LETTER SCHWA;SMALL LETTER SCHWA",
     "CAPITAL LETTER SCHWA WITH DIAERESIS;SMALL LETTER SCHWA WITH DIAERESIS",
     "CAPITAL LETTER ZHE WITH DIAERESIS;SMALL LETTER ZHE WITH DIAERESIS",
     "CAPITAL LETTER ZE WITH DIAERESIS;SMALL LETTER ZE WITH DIAERESIS",
     "CAPITAL LETTER ABKHASIAN DZE;SMALL LETTER ABKHASIAN DZE;CAPITAL LETTER I WITH MACRON",
     "SMALL LETTER I WITH MACRON;CAPITAL LETTER I WITH DIAERESIS;SMALL LETTER I WITH DIAERESIS",
     "CAPITAL LETTER O WITH DIAERESIS;SMALL LETTER O WITH DIAERESIS;CAPITAL LETTER BARRED O",
     "SMALL LETTER BARRED O;CAPITAL LETTER BARRED O WITH DIAERESIS",
     "SMALL LETTER BARRED O WITH DIAERESIS;CAPITAL LETTER E WITH DIAERESIS",
     "SMALL LETTER E WITH DIAERESIS;CAPITAL LETTER U WITH MACRON;SMALL LETTER U WITH MACRON",
     "CAPITAL LETTER U WITH DIAERESIS;SMALL LETTER U WITH DIAERESIS",
     "CAPITAL LETTER U WITH DOUBLE ACUTE;SMALL LETTER U WITH DOUBLE ACUTE",
     "CAPITAL LETTER CHE WITH DIAERESIS;SMALL LETTER CHE WITH DIAERESIS",
     "CAPITAL LETTER GHE WITH DESCENDER;SMALL LETTER GHE WITH DESCENDER",
     "CAPITAL LETTER YERU WITH DIAERESIS;SMALL LETTER YERU WITH DIAERESIS",
     "CAPITAL LETTER GHE WITH STROKE AND HOOK;SMALL LETTER GHE WITH STROKE AND HOOK",
     "CAPITAL LETTER HA WITH HOOK;SMALL LETTER HA WITH HOOK;CAPITAL LETTER HA WITH STROKE",
     "SMALL LETTER HA WITH STROKE;CAPITAL LETTER KOMI DE;SMALL LETTER KOMI DE",
     "CAPITAL LETTER KOMI DJE;SMALL LETTER KOMI DJE;CAPITAL LETTER KOMI ZJE",
     "SMALL LETTER KOMI ZJE;CAPITAL LETTER KOMI DZJE;SMALL LETTER KOMI DZJE",
     "CAPITAL LETTER KOMI LJE;SMALL LETTER KOMI LJE;CAPITAL LETTER KOMI NJE",
     "SMALL LETTER KOMI NJE;CAPITAL LETTER KOMI SJE;SMALL LETTER KOMI SJE",
     "CAPITAL LETTER KOMI TJE;SMALL LETTER KOMI TJE;CAPITAL LETTER REVERSED ZE",
     "SMALL LETTER REVERSED ZE;CAPITAL LETTER EL WITH HOOK;SMALL LETTER EL WITH HOOK",
     "CAPITAL LETTER LHA;SMALL LETTER LHA;CAPITAL LETTER RHA;SMALL LETTER RHA",
     "CAPITAL LETTER YAE;SMALL LETTER YAE;CAPITAL LETTER QA;SMALL LETTER QA;CAPITAL LETTER WE",
     "SMALL LETTER WE;CAPITAL LETTER ALEUT KA;SMALL LETTER ALEUT KA",
     "CAPITAL LETTER EL WITH MIDDLE HOOK;SMALL LETTER EL WITH MIDDLE HOOK",
     "CAPITAL LETTER EN WITH MIDDLE HOOK;SMALL LETTER EN WITH MIDDLE HOOK",
     "CAPITAL LETTER PE WITH DESCENDER;SMALL LETTER PE WITH DESCENDER",
     "CAPITAL LETTER SHHA WITH DESCENDER;SMALL LETTER SHHA WITH DESCENDER",
     "CAPITAL LETTER EN WITH LEFT HOOK;SMALL LETTER EN WITH LEFT HOOK;CAPITAL LETTER DZZHE",
     "SMALL LETTER DZZHE;CAPITAL LETTER DCHE;SMALL LETTER DCHE;CAPITAL LETTER EL WITH DESCENDER",
     "SMALL LETTER EL WITH DESCENDER"]⟩,
   ⟨0x0531, "ARMENIAN CAPITAL LETTER ",
    ["AYB;BEN;GIM;DA;ECH;ZA;EH;ET;TO;ZHE;INI;LIWN;XEH;CA;KEN;HO;JA;GHAD;CHEH;MEN;YI;NOW;SHA;VO",
     "CHA;PEH;JHEH;RA;SEH;VEW;TIWN;REH;CO;YIWN;PIWR;KEH;OH;FEH"]⟩,
   ⟨0x0559, "ARMENIAN ",
    ["MODIFIER LETTER LEFT HALF RING;APOSTROPHE;EMPHASIS MARK;EXCLAMATION MARK;COMMA",
     "QUESTION MARK;ABBREVIATION MARK"]⟩,
   ⟨0x0560, "ARMENIAN SMALL LETTER ",
    ["TURNED AYB;AYB;BEN;GIM;DA;ECH;ZA;EH;ET;TO;ZHE;INI;LIWN;XEH;CA;KEN;HO;JA;GHAD;CHEH;MEN;YI",
     "NOW;SHA;VO;CHA;PEH;JHEH;RA;SEH;VEW;TIWN;REH;CO;YIWN;PIWR;KEH;OH;FEH"]⟩,
   ⟨0x0587, "ARMENIAN ",
    ["SMALL LIGATURE ECH YIWN;SMALL LETTER YI WITH STROKE;FULL STOP;HYPHEN"]⟩,
   ⟨0x058D, "",
    ["RIGHT-FACING ARMENIAN ETERNITY SIGN;LEFT-FACING ARMENIAN ETERNITY SIGN;ARMENIAN DRAM SIGN"]⟩]

end YangSchema.Unicode.NameBlock
