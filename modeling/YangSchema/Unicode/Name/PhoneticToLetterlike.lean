import YangSchema.Unicode.Name.Block

/-!
# Names of characters 1D00 to 214F

Phonetic letters, further Latin and Greek letters, punctuation, currency and letter-like symbols.
-/
namespace YangSchema.Unicode.NameBlock

def phoneticToLetterlike : List NameBlock :=
  [⟨0x1D00, "LATIN ",
    ["LETTER SMALL CAPITAL A;LETTER SMALL CAPITAL AE;SMALL LETTER TURNED AE",
     "LETTER SMALL CAPITAL BARRED B;LETTER SMALL CAPITAL C;LETTER SMALL CAPITAL D",
     "LETTER SMALL CAPITAL ETH;LETTER SMALL CAPITAL E;SMALL LETTER TURNED OPEN E",
     "SMALL LETTER TURNED I;LETTER SMALL CAPITAL J;LETTER SMALL CAPITAL K",
     "LETTER SMALL CAPITAL L WITH STROKE;LETTER SMALL CAPITAL M;LETTER SMALL CAPITAL REVERSED N",
     "LETTER SMALL CAPITAL O;LETTER SMALL CAPITAL OPEN O;SMALL LETTER SIDEWAYS O",
     "SMALL LETTER SIDEWAYS OPEN O;SMALL LETTER SIDEWAYS O WITH STROKE;SMALL LETTER TURNED OE",
     "LETTER SMALL CAPITAL OU;SMALL LETTER TOP HALF O;SMALL LETTER BOTTOM HALF O",
     "LETTER SMALL CAPITAL P;LETTER SMALL CAPITAL REVERSED R;LETTER SMALL CAPITAL TURNED R",
     "LETTER SMALL CAPITAL T;LETTER SMALL CAPITAL U;SMALL LETTER SIDEWAYS U",
     "SMALL LETTER SIDEWAYS DIAERESIZED U;SMALL LETTER SIDEWAYS TURNED M;LETTER SMALL CAPITAL V",
     "LETTER SMALL CAPITAL W;LETTER SMALL CAPITAL Z;LETTER SMALL CAPITAL EZH",
     "LETTER VOICED LARYNGEAL SPIRANT;LETTER AIN"]⟩,
   ⟨0x1D26, "GREEK LETTER SMALL CAPITAL ", ["GAMMA;LAMDA;PI;RHO;PSI"]⟩,
   ⟨0x1D2B, "CYRILLIC LETTER SMALL CAPITAL ", ["EL"]⟩,
   ⟨0x1D2C, "MODIFIER LETTER CAPITAL ",
    ["A;AE;B;BARRED B;D;E;REVERSED E;G;H;I;J;K;L;M;N;REVERSED N;O;OU;P;R;T;U;W"]⟩,
   ⟨0x1D43, "MODIFIER LETTER SMALL ",
    ["A;TURNED A;ALPHA;TURNED AE;B;D;E;SCHWA;OPEN E;TURNED OPEN E;G;TURNED I;K;M;ENG;O;OPEN O",
     "TOP HALF O;BOTTOM HALF O;P;T;U;SIDEWAYS U;TURNED M;V;AIN;BETA;GREEK GAMMA;DELTA;GREEK PHI",
     "CHI"]⟩,
   ⟨0x1D62, "LATIN SUBSCRIPT SMALL LETTER ", ["I;R;U;V"]⟩,
   ⟨0x1D66, "GREEK SUBSCRIPT SMALL LETTER ", ["BETA;GAMMA;RHO;PHI;CHI"]⟩,
   ⟨0x1D6B, "LATIN SMALL LETTER ",
    ["UE;B WITH MIDDLE TILDE;D WITH MIDDLE TILDE;F WITH MIDDLE TILDE;M WITH MIDDLE TILDE",
     "N WITH MIDDLE TILDE;P WITH MIDDLE TILDE;R WITH MIDDLE TILDE",
     "R WITH FISHHOOK AND MIDDLE TILDE;S WITH MIDDLE TILDE;T WITH MIDDLE TILDE",
     "Z WITH MIDDLE TILDE;TURNED G"]⟩,
   ⟨0x1D78, "",
    ["MODIFIER LETTER CYRILLIC EN;LATIN SMALL LETTER INSULAR G",
     "LATIN SMALL LETTER TH WITH STRIKETHROUGH;LATIN SMALL CAPITAL LETTER I WITH STROKE",
     "LATIN SMALL LETTER IOTA WITH STROKE;LATIN SMALL LETTER P WITH STROKE",
     "LATIN SMALL CAPITAL LETTER U WITH STROKE"]⟩,
   ⟨0x1D7F, "LATIN SMALL LETTER ",
    ["UPSILON WITH STROKE;B WITH PALATAL HOOK;D WITH PALATAL HOOK;F WITH PALATAL HOOK",
     "G WITH PALATAL HOOK;K WITH PALATAL HOOK;L WITH PALATAL HOOK;M WITH PALATAL HOOK",
     "N WITH PALATAL HOOK;P WITH PALATAL HOOK;R WITH PALATAL HOOK;S WITH PALATAL HOOK",
     "ESH WITH PALATAL HOOK;V WITH PALATAL HOOK;X WITH PALATAL HOOK;Z WITH PALATAL HOOK",
     "A WITH RETROFLEX HOOK;ALPHA WITH RETROFLEX HOOK;D WITH HOOK AND TAIL",
     "E WITH RETROFLEX HOOK;OPEN E WITH RETROFLEX HOOK;REVERSED OPEN E WITH RETROFLEX HOOK",
     "SCHWA WITH RETROFLEX HOOK;I WITH RETROFLEX HOOK;OPEN O WITH RETROFLEX HOOK",
     "ESH WITH RETROFLEX HOOK;U WITH RETROFLEX HOOK;EZH WITH RETROFLEX HOOK"]⟩,
   ⟨0x1D9B, "MODIFIER LETTER SMALL ",
    ["TURNED ALPHA;C;C WITH CURL;ETH;REVERSED OPEN E;F;DOTLESS J WITH STROKE;SCRIPT G;TURNED H",
     "I WITH STROKE;IOTA;CAPITAL I;CAPITAL I WITH STROKE;J WITH CROSSED-TAIL",
     "L WITH RETROFLEX HOOK;L WITH PALATAL HOOK;CAPITAL L;M WITH HOOK;TURNED M WITH LONG LEG",
     "N WITH LEFT HOOK;N WITH RETROFLEX HOOK;CAPITAL N;BARRED O;PHI;S WITH HOOK;ESH",
     "T WITH PALATAL HOOK;U BAR;UPSILON;CAPITAL U;V WITH HOOK;TURNED V;Z;Z WITH RETROFLEX HOOK",
     "Z WITH CURL;EZH;THETA"]⟩,
   ⟨0x1DC0, "COMBINING ",
    ["DOTTED GRAVE ACCENT;DOTTED ACUTE ACCENT;SNAKE BELOW;SUSPENSION MARK;MACRON-ACUTE",
     "GRAVE-MACRON;MACRON-GRAVE;ACUTE-MACRON;GRAVE-ACUTE-GRAVE;ACUTE-GRAVE-ACUTE",
     "LATIN SMALL LETTER R BELOW;BREVE-MACRON;MACRON-BREVE;DOUBLE CIRCUMFLEX ABOVE;OGONEK ABOVE",
     "ZIGZAG BELOW;IS BELOW;UR ABOVE;US ABOVE"]⟩,
   ⟨0x1DD3, "COMBINING LATIN SMALL LETTER ",
    ["FLATTENED OPEN A ABOVE;AE;AO;AV;C CEDILLA;INSULAR D;ETH;G"]⟩,
   ⟨0x1DDB, "COMBINING LATIN ",
    ["LETTER SMALL CAPITAL G;SMALL LETTER K;SMALL LETTER L;LETTER SMALL CAPITAL L",
     "LETTER SMALL CAPITAL M;SMALL LETTER N;LETTER SMALL CAPITAL N;LETTER SMALL CAPITAL R"]⟩,
   ⟨0x1DE3, "COMBINING LATIN SMALL LETTER ",
    ["R ROTUNDA;S;LONG S;Z;ALPHA;B;BETA;SCHWA;F;L WITH DOUBLE MIDDLE TILDE",
     "O WITH LIGHT CENTRALIZATION STROKE;P;ESH;U WITH LIGHT CENTRALIZATION STROKE;W",
     "A WITH DIAERESIS;O WITH DIAERESIS;U WITH DIAERESIS"]⟩,
   ⟨0x1DF5, "COMBINING ",
    ["UP TACK ABOVE;KAVYKA ABOVE RIGHT;KAVYKA ABOVE LEFT;DOT ABOVE LEFT",
     "WIDE INVERTED BRIDGE BELOW;DOT BELOW LEFT;DELETION MARK;DOUBLE INVERTED BREVE BELOW",
     "ALMOST EQUAL TO BELOW;LEFT ARROWHEAD ABOVE;RIGHT ARROWHEAD AND DOWN ARROWHEAD BELOW"]⟩,
   ⟨0x1E00, "LATIN ",
    ["CAPITAL LETTER A WITH RING BELOW;SMALL LETTER A WITH RING BELOW",
     "CAPITAL LETTER B WITH DOT ABOVE;SMALL LETTER B WITH DOT ABOVE",
     "CAPITAL LETTER B WITH DOT BELOW;SMALL LETTER B WITH DOT BELOW",
     "CAPITAL LETTER B WITH LINE BELOW;SMALL LETTER B WITH LINE BELOW",
     "CAPITAL LETTER C WITH CEDILLA AND ACUTE;SMALL LETTER C WITH CEDILLA AND ACUTE",
     "CAPITAL LETTER D WITH DOT ABOVE;SMALL LETTER D WITH DOT ABOVE",
     "CAPITAL LETTER D WITH DOT BELOW;SMALL LETTER D WITH DOT BELOW",
     "CAPITAL LETTER D WITH LINE BELOW;SMALL LETTER D WITH LINE BELOW",
     "CAPITAL LETTER D WITH CEDILLA;SMALL LETTER D WITH CEDILLA",
     "CAPITAL LETTER D WITH CIRCUMFLEX BELOW;SMALL LETTER D WITH CIRCUMFLEX BELOW",
     "CAPITAL LETTER E WITH MACRON AND GRAVE;SMALL LETTER E WITH MACRON AND GRAVE",
     "CAPITAL LETTER E WITH MACRON AND ACUTE;SMALL LETTER E WITH MACRON AND ACUTE",
     "CAPITAL LETTER E WITH CIRCUMFLEX BELOW;SMALL LETTER E WITH CIRCUMFLEX BELOW",
     "CAPITAL LETTER E WITH TILDE BELOW;SMALL LETTER E WITH TILDE BELOW",
     "CAPITAL LETTER E WITH CEDILLA AND BREVE;SMALL LETTER E WITH CEDILLA AND BREVE",
     "CAPITAL LETTER F WITH DOT ABOVE;SMALL LETTER F WITH DOT ABOVE",
     "CAPITAL LETTER G WITH MACRON;SMALL LETTER G WITH MACRON;CAPITAL LETTER H WITH DOT ABOVE",
     "SMALL LETTER H WITH DOT ABOVE;CAPITAL LETTER H WITH DOT BELOW",
     "SMALL LETTER H WITH DOT BELOW;CAPITAL LETTER H WITH DIAERESIS",
     "SMALL LETTER H WITH DIAERESIS;CAPITAL LETTER H WITH CEDILLA;SMALL LETTER H WITH CEDILLA",
     "CAPITAL LETTER H WITH BREVE BELOW;SMALL LETTER H WITH BREVE BELOW",
     "CAPITAL LETTER I WITH TILDE BELOW;SMALL LETTER I WITH TILDE BELOW",
     "CAPITAL LETTER I WITH DIAERESIS AND ACUTE;SMALL LETTER I WITH DIAERESIS AND ACUTE",
     "CAPITAL LETTER K WITH ACUTE;SMALL LETTER K WITH ACUTE;CAPITAL LETTER K WITH DOT BELOW",
     "SMALL LETTER K WITH DOT BELOW;CAPITAL LETTER K WITH LINE BELOW",
     "SMALL LETTER K WITH LINE BELOW;CAPITAL LETTER L WITH DOT BELOW",
     "SMALL LETTER L WITH DOT BELOW;CAPITAL LETTER L WITH DOT BELOW AND MACRON",
     "SMALL LETTER L WITH DOT BELOW AND MACRON;CAPITAL LETTER L WITH LINE BELOW",
     "SMALL LETTER L WITH LINE BELOW;CAPITAL LETTER L WITH CIRCUMFLEX BELOW",
     "SMALL LETTER L WITH CIRCUMFLEX BELOW;CAPITAL LETTER M WITH ACUTE",
     "SMALL LETTER M WITH ACUTE;CAPITAL LETTER M WITH DOT ABOVE;SMALL LETTER M WITH DOT ABOVE",
     "CAPITAL LETTER M WITH DOT BELOW;SMALL LETTER M WITH DOT BELOW",
     "CAPITAL LETTER N WITH DOT ABOVE;SMALL LETTER N WITH DOT ABOVE",
     "CAPITAL LETTER N WITH DOT BELOW;SMALL LETTER N WITH DOT BELOW",
     "CAPITAL LETTER N WITH LINE BELOW;SMALL LETTER N WITH LINE BELOW",
     "CAPITAL LETTER N WITH CIRCUMFLEX BELOW;SMALL LETTER N WITH CIRCUMFLEX BELOW",
     "CAPITAL LETTER O WITH TILDE AND ACUTE;SMALL LETTER O WITH TILDE AND ACUTE",
     "CAPITAL LETTER O WITH TILDE AND DIAERESIS;SMALL LETTER O WITH TILDE AND DIAERESIS",
     "CAPITAL LETTER O WITH MACRON AND GRAVE;SMALL LETTER O WITH MACRON AND GRAVE",
     "CAPITAL LETTER O WITH MACRON AND ACUTE;SMALL LETTER O WITH MACRON AND ACUTE",
     "CAPITAL LETTER P WITH ACUTE;SMALL LETTER P WITH ACUTE;CAPITAL LETTER P WITH DOT ABOVE",
     "SMALL LETTER P WITH DOT ABOVE;CAPITAL LETTER R WITH DOT ABOVE",
     "SMALL LETTER R WITH DOT ABOVE;CAPITAL LETTER R WITH DOT BELOW",
     "SMALL LETTER R WITH DOT BELOW;CAPITAL LETTER R WITH DOT BELOW AND MACRON",
     "SMALL LETTER R WITH DOT BELOW AND MACRON;CAPITAL LETTER R WITH LINE BELOW",
     "SMALL LETTER R WITH LINE BELOW;CAPITAL LETTER S WITH DOT ABOVE",
     "SMALL LETTER S WITH DOT ABOVE;CAPITAL LETTER S WITH DOT BELOW",
     "SMALL LETTER S WITH DOT BELOW;CAPITAL LETTER S WITH ACUTE AND DOT ABOVE",
     "SMALL LETTER S WITH ACUTE AND DOT ABOVE;CAPITAL LETTER S WITH CARON AND DOT ABOVE",
     "SMALL LETTER S WITH CARON AND DOT ABOVE;CAPITAL LETTER S WITH DOT BELOW AND DOT ABOVE",
     "SMALL LETTER S WITH DOT BELOW AND DOT ABOVE;CAPITAL LETTER T WITH DOT ABOVE",
     "SMALL LETTER T WITH DOT ABOVE;CAPITAL LETTER T WITH DOT BELOW",
     "SMALL LETTER T WITH DOT BELOW;CAPITAL LETTER T WITH LINE BELOW",
     "SMALL LETTER T WITH LINE BELOW;CAPITAL LETTER T WITH CIRCUMFLEX BELOW",
     "SMALL LETTER T WITH CIRCUMFLEX BELOW;CAPITAL LETTER U WITH DIAERESIS BELOW",
     "SMALL LETTER U WITH DIAERESIS BELOW;CAPITAL LETTER U WITH TILDE BELOW",
     "SMALL LETTER U WITH TILDE BELOW;CAPITAL LETTER U WITH CIRCUMFLEX BELOW",
     "SMALL LETTER U WITH CIRCUMFLEX BELOW;CAPITAL LETTER U WITH TILDE AND ACUTE",
     "SMALL LETTER U WITH TILDE AND ACUTE;CAPITAL LETTER U WITH MACRON AND DIAERESIS",
     "SMALL LETTER U WITH MACRON AND DIAERESIS;CAPITAL LETTER V WITH TILDE",
     "SMALL LETTER V WITH TILDE;CAPITAL LETTER V WITH DOT BELOW;SMALL LETTER V WITH DOT BELOW",
     "CAPITAL LETTER W WITH GRAVE;SMALL LETTER W WITH GRAVE;CAPITAL LETTER W WITH ACUTE",
     "SMALL LETTER W WITH ACUTE;CAPITAL LETTER W WITH DIAERESIS;SMALL LETTER W WITH DIAERESIS",
     "CAPITAL LETTER W WITH DOT ABOVE;SMALL LETTER W WITH DOT ABOVE",
     "CAPITAL LETTER W WITH DOT BELOW;SMALL LETTER W WITH DOT BELOW",
     "CAPITAL LETTER X WITH DOT ABOVE;SMALL LETTER X WITH DOT ABOVE",
     "CAPITAL LETTER X WITH DIAERESIS;SMALL LETTER X WITH DIAERESIS",
     "CAPITAL LETTER Y WITH DOT ABOVE;SMALL LETTER Y WITH DOT ABOVE",
     "CAPITAL LETTER Z WITH CIRCUMFLEX;SMALL LETTER Z WITH CIRCUMFLEX",
     "CAPITAL LETTER Z WITH DOT BELOW;SMALL LETTER Z WITH DOT BELOW",
     "CAPITAL LETTER Z WITH LINE BELOW;SMALL LETTER Z WITH LINE BELOW",
     "SMALL LETTER H WITH LINE BELOW;SMALL LETTER T WITH DIAERESIS",
     "SMALL LETTER W WITH RING ABOVE;SMALL LETTER Y WITH RING ABOVE",
     "SMALL LETTER A WITH RIGHT HALF RING;SMALL LETTER LONG S WITH DOT ABOVE",
     "SMALL LETTER LONG S WITH DIAGONAL STROKE;SMALL LETTER LONG S WITH HIGH STROKE",
     "CAPITAL LETTER SHARP S;SMALL LETTER DELTA;CAPITAL LETTER A WITH DOT BELOW",
     "SMALL LETTER A WITH DOT BELOW;CAPITAL LETTER A WITH HOOK ABOVE",
     "SMALL LETTER A WITH HOOK ABOVE;CAPITAL LETTER A WITH CIRCUMFLEX AND ACUTE",
     "SMALL LETTER A WITH CIRCUMFLEX AND ACUTE;CAPITAL LETTER A WITH CIRCUMFLEX AND GRAVE",
     "SMALL LETTER A WITH CIRCUMFLEX AND GRAVE;CAPITAL LETTER A WITH CIRCUMFLEX AND HOOK ABOVE",
     "SMALL LETTER A WITH CIRCUMFLEX AND HOOK ABOVE;CAPITAL LETTER A WITH CIRCUMFLEX AND TILDE",
     "SMALL LETTER A WITH CIRCUMFLEX AND TILDE;CAPITAL LETTER A WITH CIRCUMFLEX AND DOT BELOW",
     "SMALL LETTER A WITH CIRCUMFLEX AND DOT BELOW;CAPITAL LETTER A WITH BREVE AND ACUTE",
     "SMALL LETTER A WITH BREVE AND ACUTE;CAPITAL LETTER A WITH BREVE AND GRAVE",
     "SMALL LETTER A WITH BREVE AND GRAVE;CAPITAL LETTER A WITH BREVE AND HOOK ABOVE",
     "SMALL LETTER A WITH BREVE AND HOOK ABOVE;CAPITAL LETTER A WITH BREVE AND TILDE",
     "SMALL LETTER A WITH BREVE AND TILDE;CAPITAL LETTER A WITH BREVE AND DOT BELOW",
     "SMALL LETTER A WITH BREVE AND DOT BELOW;CAPITAL LETTER E WITH DOT BELOW",
     "SMALL LETTER E WITH DOT BELOW;CAPITAL LETTER E WITH HOOK ABOVE",
     "SMALL LETTER E WITH HOOK ABOVE;CAPITAL LETTER E WITH TILDE;SMALL LETTER E WITH TILDE",
     "CAPITAL LETTER E WITH CIRCUMFLEX AND ACUTE;SMALL LETTER E WITH CIRCUMFLEX AND ACUTE",
     "CAPITAL LETTER E WITH CIRCUMFLEX AND GRAVE;SMALL LETTER E WITH CIRCUMFLEX AND GRAVE",
     "CAPITAL LETTER E WITH CIRCUMFLEX AND HOOK ABOVE",
     "SMALL LETTER E WITH CIRCUMFLEX AND HOOK ABOVE;CAPITAL LETTER E WITH CIRCUMFLEX AND TILDE",
     "SMALL LETTER E WITH CIRCUMFLEX AND TILDE;CAPITAL LETTER E WITH CIRCUMFLEX AND DOT BELOW",
     "SMALL LETTER E WITH CIRCUMFLEX AND DOT BELOW;CAPITAL LETTER I WITH HOOK ABOVE",
     "SMALL LETTER I WITH HOOK ABOVE;CAPITAL LETTER I WITH DOT BELOW",
     "SMALL LETTER I WITH DOT BELOW;CAPITAL LETTER O WITH DOT BELOW",
     "SMALL LETTER O WITH DOT BELOW;CAPITAL LETTER O WITH HOOK ABOVE",
     "SMALL LETTER O WITH HOOK ABOVE;CAPITAL LETTER O WITH CIRCUMFLEX AND ACUTE",
     "SMALL LETTER O WITH CIRCUMFLEX AND ACUTE;CAPITAL LETTER O WITH CIRCUMFLEX AND GRAVE",
     "SMALL LETTER O WITH CIRCUMFLEX AND GRAVE;CAPITAL LETTER O WITH CIRCUMFLEX AND HOOK ABOVE",
     "SMALL LETTER O WITH CIRCUMFLEX AND HOOK ABOVE;CAPITAL LETTER O WITH CIRCUMFLEX AND TILDE",
     "SMALL LETTER O WITH CIRCUMFLEX AND TILDE;CAPITAL LETTER O WITH CIRCUMFLEX AND DOT BELOW",
     "SMALL LETTER O WITH CIRCUMFLEX AND DOT BELOW;CAPITAL LETTER O WITH HORN AND ACUTE",
     "SMALL LETTER O WITH HORN AND ACUTE;CAPITAL LETTER O WITH HORN AND GRAVE",
     "SMALL LETTER O WITH HORN AND GRAVE;CAPITAL LETTER O WITH HORN AND HOOK ABOVE",
     "SMALL LETTER O WITH HORN AND HOOK ABOVE;CAPITAL LETTER O WITH HORN AND TILDE",
     "SMALL LETTER O WITH HORN AND TILDE;CAPITAL LETTER O WITH HORN AND DOT BELOW",
     "SMALL LETTER O WITH HORN AND DOT BELOW;CAPITAL LETTER U WITH DOT BELOW",
     "SMALL LETTER U WITH DOT BELOW;CAPITAL LETTER U WITH HOOK ABOVE",
     "SMALL LETTER U WITH HOOK ABOVE;CAPITAL LETTER U WITH HORN AND ACUTE",
     "SMALL LETTER U WITH HORN AND ACUTE;CAPITAL LETTER U WITH HORN AND GRAVE",
     "SMALL LETTER U WITH HORN AND GRAVE;CAPITAL LETTER U WITH HORN AND HOOK ABOVE",
     "SMALL LETTER U WITH HORN AND HOOK ABOVE;CAPITAL LETTER U WITH HORN AND TILDE",
     "SMALL LETTER U WITH HORN AND TILDE;CAPITAL LETTER U WITH HORN AND DOT BELOW",
     "SMALL LETTER U WITH HORN AND DOT BELOW;CAPITAL LETTER Y WITH GRAVE",
     "SMALL LETTER Y WITH GRAVE;CAPITAL LETTER Y WITH DOT BELOW;SMALL LETTER Y WITH DOT BELOW",
     "CAPITAL LETTER Y WITH HOOK ABOVE;SMALL LETTER Y WITH HOOK ABOVE",
     "CAPITAL LETTER Y WITH TILDE;SMALL LETTER Y WITH TILDE;CAPITAL LETTER MIDDLE-WELSH LL",
     "SMALL LETTER MIDDLE-WELSH LL;CAPITAL LETTER MIDDLE-WELSH V;SMALL LETTER MIDDLE-WELSH V",
     "CAPITAL LETTER Y WITH LOOP;SMALL LETTER Y WITH LOOP"]⟩,
   ⟨0x1F00, "GREEK SMALL LETTER ALPHA WITH ",
    ["PSILI;DASIA;PSILI AND VARIA;DASIA AND VARIA;PSILI AND OXIA;DASIA AND OXIA",
     "PSILI AND PERISPOMENI;DASIA AND PERISPOMENI"]⟩,
   ⟨0x1F08, "GREEK CAPITAL LETTER ALPHA WITH ",
    ["PSILI;DASIA;PSILI AND VARIA;DASIA AND VARIA;PSILI AND OXIA;DASIA AND OXIA",
     "PSILI AND PERISPOMENI;DASIA AND PERISPOMENI"]⟩,
   ⟨0x1F10, "GREEK SMALL LETTER EPSILON WITH ",
    ["PSILI;DASIA;PSILI AND VARIA;DASIA AND VARIA;PSILI AND OXIA;DASIA AND OXIA"]⟩,
   ⟨0x1F18, "GREEK CAPITAL LETTER EPSILON WITH ",
    ["PSILI;DASIA;PSILI AND VARIA;DASIA AND VARIA;PSILI AND OXIA;DASIA AND OXIA"]⟩,
   ⟨0x1F20, "GREEK SMALL LETTER ETA WITH ",
    ["PSILI;DASIA;PSILI AND VARIA;DASIA AND VARIA;PSILI AND OXIA;DASIA AND OXIA",
     "PSILI AND PERISPOMENI;DASIA AND PERISPOMENI"]⟩,
   ⟨0x1F28, "GREEK CAPITAL LETTER ETA WITH ",
    ["PSILI;DASIA;PSILI AND VARIA;DASIA AND VARIA;PSILI AND OXIA;DASIA AND OXIA",
     "PSILI AND PERISPOMENI;DASIA AND PERISPOMENI"]⟩,
   ⟨0x1F30, "GREEK SMALL LETTER IOTA WITH ",
    ["PSILI;DASIA;PSILI AND VARIA;DASIA AND VARIA;PSILI AND OXIA;DASIA AND OXIA",
     "PSILI AND PERISPOMENI;DASIA AND PERISPOMENI"]⟩,
   ⟨0x1F38, "GREEK CAPITAL LETTER IOTA WITH ",
    ["PSILI;DASIA;PSILI AND VARIA;DASIA AND VARIA;PSILI AND OXIA;DASIA AND OXIA",
     "PSILI AND PERISPOMENI;DASIA AND PERISPOMENI"]⟩,
   ⟨0x1F40, "GREEK SMALL LETTER OMICRON WITH ",
    ["PSILI;DASIA;PSILI AND VARIA;DASIA AND VARIA;PSILI AND OXIA;DASIA AND OXIA"]⟩,
   ⟨0x1F48, "GREEK CAPITAL LETTER OMICRON WITH ",
    ["PSILI;DASIA;PSILI AND VARIA;DASIA AND VARIA;PSILI AND OXIA;DASIA AND OXIA"]⟩,
   ⟨0x1F50, "GREEK SMALL LETTER UPSILON WITH ",
    ["PSILI;DASIA;PSILI AND VARIA;DASIA AND VARIA;PSILI AND OXIA;DASIA AND OXIA",
     "PSILI AND PERISPOMENI;DASIA AND PERISPOMENI"]⟩,
   ⟨0x1F59, "", ["GREEK CAPITAL LETTER UPSILON WITH DASIA"]⟩,
   ⟨0x1F5B, "", ["GREEK CAPITAL LETTER UPSILON WITH DASIA AND VARIA"]⟩,
   ⟨0x1F5D, "", ["GREEK CAPITAL LETTER UPSILON WITH DASIA AND OXIA"]⟩,
   ⟨0x1F5F, "", ["GREEK CAPITAL LETTER UPSILON WITH DASIA AND PERISPOMENI"]⟩,
   ⟨0x1F60, "GREEK SMALL LETTER OMEGA WITH ",
    ["PSILI;DASIA;PSILI AND VARIA;DASIA AND VARIA;PSILI AND OXIA;DASIA AND OXIA",
     "PSILI AND PERISPOMENI;DASIA AND PERISPOMENI"]⟩,
   ⟨0x1F68, "GREEK CAPITAL LETTER OMEGA WITH ",
    ["PSILI;DASIA;PSILI AND VARIA;DASIA AND VARIA;PSILI AND OXIA;DASIA AND OXIA",
     "PSILI AND PERISPOMENI;DASIA AND PERISPOMENI"]⟩,
   ⟨0x1F70, "GREEK SMALL LETTER ",
    ["ALPHA WITH VARIA;ALPHA WITH OXIA;EPSILON WITH VARIA;EPSILON WITH OXIA;ETA WITH VARIA",
     "ETA WITH OXIA;IOTA WITH VARIA;IOTA WITH OXIA;OMICRON WITH VARIA;OMICRON WITH OXIA",
     "UPSILON WITH VARIA;UPSILON WITH OXIA;OMEGA WITH VARIA;OMEGA WITH OXIA"]⟩,
   ⟨0x1F80, "GREEK SMALL LETTER ALPHA WITH ",
    ["PSILI AND YPOGEGRAMMENI;DASIA AND YPOGEGRAMMENI;PSILI AND VARIA AND YPOGEGRAMMENI",
     "DASIA AND VARIA AND YPOGEGRAMMENI;PSILI AND OXIA AND YPOGEGRAMMENI",
     "DASIA AND OXIA AND YPOGEGRAMMENI;PSILI AND PERISPOMENI AND YPOGEGRAMMENI",
     "DASIA AND PERISPOMENI AND YPOGEGRAMMENI"]⟩,
   ⟨0x1F88, "GREEK CAPITAL LETTER ALPHA WITH ",
    ["PSILI AND PROSGEGRAMMENI;DASIA AND PROSGEGRAMMENI;PSILI AND VARIA AND PROSGEGRAMMENI",
     "DASIA AND VARIA AND PROSGEGRAMMENI;PSILI AND OXIA AND PROSGEGRAMMENI",
     "DASIA AND OXIA AND PROSGEGRAMMENI;PSILI AND PERISPOMENI AND PROSGEGRAMMENI",
     "DASIA AND PERISPOMENI AND PROSGEGRAMMENI"]⟩,
   ⟨0x1F90, "GREEK SMALL LETTER ETA WITH ",
    ["PSILI AND YPOGEGRAMMENI;DASIA AND YPOGEGRAMMENI;PSILI AND VARIA AND YPOGEGRAMMENI",
     "DASIA AND VARIA AND YPOGEGRAMMENI;PSILI AND OXIA AND YPOGEGRAMMENI",
     "DASIA AND OXIA AND YPOGEGRAMMENI;PSILI AND PERISPOMENI AND YPOGEGRAMMENI",
     "DASIA AND PERISPOMENI AND YPOGEGRAMMENI"]⟩,
   ⟨0x1F98, "GREEK CAPITAL LETTER ETA WITH ",
    ["PSILI AND PROSGEGRAMMENI;DASIA AND PROSGEGRAMMENI;PSILI AND VARIA AND PROSGEGRAMMENI",
     "DASIA AND VARIA AND PROSGEGRAMMENI;PSILI AND OXIA AND PROSGEGRAMMENI",
     "DASIA AND OXIA AND PROSGEGRAMMENI;PSILI AND PERISPOMENI AND PROSGEGRAMMENI",
     "DASIA AND PERISPOMENI AND PROSGEGRAMMENI"]⟩,
   ⟨0x1FA0, "GREEK SMALL LETTER OMEGA WITH ",
    ["PSILI AND YPOGEGRAMMENI;DASIA AND YPOGEGRAMMENI;PSILI AND VARIA AND YPOGEGRAMMENI",
     "DASIA AND VARIA AND YPOGEGRAMMENI;PSILI AND OXIA AND YPOGEGRAMMENI",
     "DASIA AND OXIA AND YPOGEGRAMMENI;PSILI AND PERISPOMENI AND YPOGEGRAMMENI",
     "DASIA AND PERISPOMENI AND YPOGEGRAMMENI"]⟩,
   ⟨0x1FA8, "GREEK CAPITAL LETTER OMEGA WITH ",
    ["PSILI AND PROSGEGRAMMENI;DASIA AND PROSGEGRAMMENI;PSILI AND VARIA AND PROSGEGRAMMENI",
     "DASIA AND VARIA AND PROSGEGRAMMENI;PSILI AND OXIA AND PROSGEGRAMMENI",
     "DASIA AND OXIA AND PROSGEGRAMMENI;PSILI AND PERISPOMENI AND PROSGEGRAMMENI",
     "DASIA AND PERISPOMENI AND PROSGEGRAMMENI"]⟩,
   ⟨0x1FB0, "GREEK SMALL LETTER ALPHA WITH ",
    ["VRACHY;MACRON;VARIA AND YPOGEGRAMMENI;YPOGEGRAMMENI;OXIA AND YPOGEGRAMMENI"]⟩,
   ⟨0x1FB6, "GREEK ",
    ["SMALL LETTER ALPHA WITH PERISPOMENI;SMALL LETTER ALPHA WITH PERISPOMENI AND YPOGEGRAMMENI",
     "CAPITAL LETTER ALPHA WITH VRACHY;CAPITAL LETTER ALPHA WITH MACRON",
     "CAPITAL LETTER ALPHA WITH VARIA;CAPITAL LETTER ALPHA WITH OXIA",
     "CAPITAL LETTER ALPHA WITH PROSGEGRAMMENI;KORONIS;PROSGEGRAMMENI;PSILI;PERISPOMENI",
     "DIALYTIKA AND PERISPOMENI;SMALL LETTER ETA WITH VARIA AND YPOGEGRAMMENI",
     "SMALL LETTER ETA WITH YPOGEGRAMMENI;SMALL LETTER ETA WITH OXIA AND YPOGEGRAMMENI"]⟩,
   ⟨0x1FC6, "GREEK ",
    ["SMALL LETTER ETA WITH PERISPOMENI;SMALL LETTER ETA WITH PERISPOMENI AND YPOGEGRAMMENI",
     "CAPITAL LETTER EPSILON WITH VARIA;CAPITAL LETTER EPSILON WITH OXIA",
     "CAPITAL LETTER ETA WITH VARIA;CAPITAL LETTER ETA WITH OXIA",
     "CAPITAL LETTER ETA WITH PROSGEGRAMMENI;PSILI AND VARIA;PSILI AND OXIA",
     "PSILI AND PERISPOMENI"]⟩,
   ⟨0x1FD0, "GREEK SMALL LETTER IOTA WITH ",
    ["VRACHY;MACRON;DIALYTIKA AND VARIA;DIALYTIKA AND OXIA"]⟩,
   ⟨0x1FD6, "GREEK SMALL LETTER IOTA WITH ", ["PERISPOMENI;DIALYTIKA AND PERISPOMENI"]⟩,
   ⟨0x1FD8, "GREEK CAPITAL LETTER IOTA WITH ", ["VRACHY;MACRON;VARIA;OXIA"]⟩,
   ⟨0x1FDD, "GREEK ",
    ["DASIA AND VARIA;DASIA AND OXIA;DASIA AND PERISPOMENI;SMALL LETTER UPSILON WITH VRACHY",
     "SMALL LETTER UPSILON WITH MACRON;SMALL LETTER UPSILON WITH DIALYTIKA AND VARIA",
     "SMALL LETTER UPSILON WITH DIALYTIKA AND OXIA;SMALL LETTER RHO WITH PSILI",
     "SMALL LETTER RHO WITH DASIA;SMALL LETTER UPSILON WITH PERISPOMENI",
     "SMALL LETTER UPSILON WITH DIALYTIKA AND PERISPOMENI;CAPITAL LETTER UPSILON WITH VRACHY",
     "CAPITAL LETTER UPSILON WITH MACRON;CAPITAL LETTER UPSILON WITH VARIA",
     "CAPITAL LETTER UPSILON WITH OXIA;CAPITAL LETTER RHO WITH DASIA;DIALYTIKA AND VARIA",
     "DIALYTIKA AND OXIA;VARIA"]⟩,
   ⟨0x1FF2, "GREEK SMALL LETTER OMEGA WITH ",
    ["VARIA AND YPOGEGRAMMENI;YPOGEGRAMMENI;OXIA AND YPOGEGRAMMENI"]⟩,
   ⟨0x1FF6, "GREEK ",
    ["SMALL LETTER OMEGA WITH PERISPOMENI;SMALL LETTER OMEGA WITH PERISPOMENI AND YPOGEGRAMMENI",
     "CAPITAL LETTER OMICRON WITH VARIA;CAPITAL LETTER OMICRON WITH OXIA",
     "CAPITAL LETTER OMEGA WITH VARIA;CAPITAL LETTER OMEGA WITH OXIA",
     "CAPITAL LETTER OMEGA WITH PROSGEGRAMMENI;OXIA;DASIA"]⟩,
   ⟨0x2000, "",
    ["EN QUAD;EM QUAD;EN SPACE;EM SPACE;THREE-PER-EM SPACE;FOUR-PER-EM SPACE;SIX-PER-EM SPACE",
     "FIGURE SPACE;PUNCTUATION SPACE;THIN SPACE;HAIR SPACE;ZERO WIDTH SPACE",
     "ZERO WIDTH NON-JOINER;ZERO WIDTH JOINER;LEFT-TO-RIGHT MARK;RIGHT-TO-LEFT MARK;HYPHEN",
     "NON-BREAKING HYPHEN;FIGURE DASH;EN DASH;EM DASH;HORIZONTAL BAR;DOUBLE VERTICAL LINE",
     "DOUBLE LOW LINE;LEFT SINGLE QUOTATION MARK;RIGHT SINGLE QUOTATION MARK",
     "SINGLE LOW-9 QUOTATION MARK;SINGLE HIGH-REVERSED-9 QUOTATION MARK",
     "LEFT DOUBLE QUOTATION MARK;RIGHT DOUBLE QUOTATION MARK;DOUBLE LOW-9 QUOTATION MARK",
     "DOUBLE HIGH-REVERSED-9 QUOTATION MARK;DAGGER;DOUBLE DAGGER;BULLET;TRIANGULAR BULLET",
     "ONE DOT LEADER;TWO DOT LEADER;HORIZONTAL ELLIPSIS;HYPHENATION POINT;LINE SEPARATOR",
     "PARAGRAPH SEPARATOR;LEFT-TO-RIGHT EMBEDDING;RIGHT-TO-LEFT EMBEDDING",
     "POP DIRECTIONAL FORMATTING;LEFT-TO-RIGHT OVERRIDE;RIGHT-TO-LEFT OVERRIDE",
     "NARROW NO-BREAK SPACE;PER MILLE SIGN;PER TEN THOUSAND SIGN;PRIME;DOUBLE PRIME",
     "TRIPLE PRIME;REVERSED PRIME;REVERSED DOUBLE PRIME;REVERSED TRIPLE PRIME;CARET",
     "SINGLE LEFT-POINTING ANGLE QUOTATION MARK;SINGLE RIGHT-POINTING ANGLE QUOTATION MARK",
     "REFERENCE MARK;DOUBLE EXCLAMATION MARK;INTERROBANG;OVERLINE;UNDERTIE;CHARACTER TIE",
     "CARET INSERTION POINT;ASTERISM;HYPHEN BULLET;FRACTION SLASH",
     "LEFT SQUARE BRACKET WITH QUILL;RIGHT SQUARE BRACKET WITH QUILL;DOUBLE QUESTION MARK",
     "QUESTION EXCLAMATION MARK;EXCLAMATION QUESTION MARK;TIRONIAN SIGN ET",
     "REVERSED PILCROW SIGN;BLACK LEFTWARDS BULLET;BLACK RIGHTWARDS BULLET;LOW ASTERISK",
     "REVERSED SEMICOLON;CLOSE UP;TWO ASTERISKS ALIGNED VERTICALLY;COMMERCIAL MINUS SIGN",
     "SWUNG DASH;INVERTED UNDERTIE;FLOWER PUNCTUATION MARK;THREE DOT PUNCTUATION",
     "QUADRUPLE PRIME;FOUR DOT PUNCTUATION;FIVE DOT PUNCTUATION;TWO DOT PUNCTUATION",
     "FOUR DOT MARK;DOTTED CROSS;TRICOLON;VERTICAL FOUR DOTS;MEDIUM MATHEMATICAL SPACE",
     "WORD JOINER;FUNCTION APPLICATION;INVISIBLE TIMES;INVISIBLE SEPARATOR;INVISIBLE PLUS"]⟩,
   ⟨0x2066, "",
    ["LEFT-TO-RIGHT ISOLATE;RIGHT-TO-LEFT ISOLATE;FIRST STRONG ISOLATE;POP DIRECTIONAL ISOLATE",
     "INHIBIT SYMMETRIC SWAPPING;ACTIVATE SYMMETRIC SWAPPING;INHIBIT ARABIC FORM SHAPING",
     "ACTIVATE ARABIC FORM SHAPING;NATIONAL DIGIT SHAPES;NOMINAL DIGIT SHAPES;SUPERSCRIPT ZERO",
     "SUPERSCRIPT LATIN SMALL LETTER I"]⟩,
   ⟨0x2074, "SUPERSCRIPT ",
    ["FOUR;FIVE;SIX;SEVEN;EIGHT;NINE;PLUS SIGN;MINUS;EQUALS SIGN;LEFT PARENTHESIS",
     "RIGHT PARENTHESIS;LATIN SMALL LETTER N"]⟩,
   ⟨0x2080, "SUBSCRIPT ",
    ["ZERO;ONE;TWO;THREE;FOUR;FIVE;SIX;SEVEN;EIGHT;NINE;PLUS SIGN;MINUS;EQUALS SIGN",
     "LEFT PARENTHESIS;RIGHT PARENTHESIS"]⟩,
   ⟨0x2090, "LATIN SUBSCRIPT SMALL LETTER ", ["A;E;O;X;SCHWA;H;K;L;M;N;P;S;T"]⟩,
   ⟨0x20A0, "",
    ["EURO-CURRENCY SIGN;COLON SIGN;CRUZEIRO SIGN;FRENCH FRANC SIGN;LIRA SIGN;MILL SIGN",
     "NAIRA SIGN;PESETA SIGN;RUPEE SIGN;WON SIGN;NEW SHEQEL SIGN;DONG SIGN;EURO SIGN;KIP SIGN",
     "TUGRIK SIGN;DRACHMA SIGN;GERMAN PENNY SIGN;PESO SIGN;GUARANI SIGN;AUSTRAL SIGN",
     "HRYVNIA SIGN;CEDI SIGN;LIVRE TOURNOIS SIGN;SPESMILO SIGN;TENGE SIGN;INDIAN RUPEE SIGN",
     "TURKISH LIRA SIGN;NORDIC MARK SIGN;MANAT SIGN;RUBLE SIGN;LARI SIGN;BITCOIN SIGN;SOM SIGN"]⟩,
   ⟨0x20D0, "COMBINING ",
    ["LEFT HARPOON ABOVE;RIGHT HARPOON ABOVE;LONG VERTICAL LINE OVERLAY",
     "SHORT VERTICAL LINE OVERLAY;ANTICLOCKWISE ARROW ABOVE;CLOCKWISE ARROW ABOVE",
     "LEFT ARROW ABOVE;RIGHT ARROW ABOVE;RING OVERLAY;CLOCKWISE RING OVERLAY",
     "ANTICLOCKWISE RING OVERLAY;THREE DOTS ABOVE;FOUR DOTS ABOVE;ENCLOSING CIRCLE",
     "ENCLOSING SQUARE;ENCLOSING DIAMOND;ENCLOSING CIRCLE BACKSLASH;LEFT RIGHT ARROW ABOVE",
     "ENCLOSING SCREEN;ENCLOSING KEYCAP;ENCLOSING UPWARD POINTING TRIANGLE",
     "REVERSE SOLIDUS OVERLAY;DOUBLE VERTICAL STROKE OVERLAY;ANNUITY SYMBOL;TRIPLE UNDERDOT",
     "WIDE BRIDGE ABOVE;LEFTWARDS ARROW OVERLAY;LONG DOUBLE SOLIDUS OVERLAY",
     "RIGHTWARDS HARPOON WITH BARB DOWNWARDS;LEFTWARDS HARPOON WITH BARB DOWNWARDS",
     "LEFT ARROW BELOW;RIGHT ARROW BELOW;ASTERISK ABOVE"]⟩,
   ⟨0x2100, "",
    ["ACCOUNT OF;ADDRESSED TO THE SUBJECT;DOUBLE-STRUCK CAPITAL C;DEGREE CELSIUS",
     "CENTRE LINE SYMBOL;CARE OF;CADA UNA;EULER CONSTANT;SCRUPLE;DEGREE FAHRENHEIT",
     "SCRIPT SMALL G;SCRIPT CAPITAL H;BLACK-LETTER CAPITAL H;DOUBLE-STRUCK CAPITAL H",
     "PLANCK CONSTANT;PLANCK CONSTANT OVER TWO PI;SCRIPT CAPITAL I;BLACK-LETTER CAPITAL I",
     "SCRIPT CAPITAL L;SCRIPT SMALL L;L B BAR SYMBOL;DOUBLE-STRUCK CAPITAL N;NUMERO SIGN",
     "SOUND RECORDING COPYRIGHT;SCRIPT CAPITAL P;DOUBLE-STRUCK CAPITAL P",
     "DOUBLE-STRUCK CAPITAL Q;SCRIPT CAPITAL R;BLACK-LETTER CAPITAL R;DOUBLE-STRUCK CAPITAL R",
     "PRESCRIPTION TAKE;RESPONSE;SERVICE MARK;TELEPHONE SIGN;TRADE MARK SIGN;VERSICLE",
     "DOUBLE-STRUCK CAPITAL Z;OUNCE SIGN;OHM SIGN;INVERTED OHM SIGN;BLACK-LETTER CAPITAL Z",
     "TURNED GREEK SMALL LETTER IOTA;KELVIN SIGN;ANGSTROM SIGN;SCRIPT CAPITAL B",
     "BLACK-LETTER CAPITAL C;ESTIMATED SYMBOL;SCRIPT SMALL E;SCRIPT CAPITAL E;SCRIPT CAPITAL F",
     "TURNED CAPITAL F;SCRIPT CAPITAL M;SCRIPT SMALL O;ALEF SYMBOL;BET SYMBOL;GIMEL SYMBOL",
     "DALET SYMBOL;INFORMATION SOURCE;ROTATED CAPITAL Q;FACSIMILE SIGN;DOUBLE-STRUCK SMALL PI",
     "DOUBLE-STRUCK SMALL GAMMA;DOUBLE-STRUCK CAPITAL GAMMA;DOUBLE-STRUCK CAPITAL PI",
     "DOUBLE-STRUCK N-ARY SUMMATION;TURNED SANS-SERIF CAPITAL G;TURNED SANS-SERIF CAPITAL L",
     "REVERSED SANS-SERIF CAPITAL L;TURNED SANS-SERIF CAPITAL Y;DOUBLE-STRUCK ITALIC CAPITAL D",
     "DOUBLE-STRUCK ITALIC SMALL D;DOUBLE-STRUCK ITALIC SMALL E;DOUBLE-STRUCK ITALIC SMALL I",
     "DOUBLE-STRUCK ITALIC SMALL J;PROPERTY LINE;TURNED AMPERSAND;PER SIGN;AKTIESELSKAB",
     "TURNED SMALL F;SYMBOL FOR SAMARITAN SOURCE"]⟩]

end YangSchema.Unicode.NameBlock
