import YangSchema.Unicode.Name.Block

/-!
# Names of characters 1AF00 to 1D7FF

Further Kana, shorthand, musical symbols and mathematical letters.
-/
namespace YangSchema.Unicode.NameBlock

def kanaToMathematics : List NameBlock :=
  [⟨0x1AFF0, "KATAKANA LETTER MINNAN TONE-", ["2;3;4;5"]⟩,
   ⟨0x1AFF5, "KATAKANA LETTER MINNAN ",
    ["TONE-7;TONE-8;NASALIZED TONE-1;NASALIZED TONE-2;NASALIZED TONE-3;NASALIZED TONE-4",
     "NASALIZED TONE-5"]⟩,
   ⟨0x1AFFD, "KATAKANA LETTER MINNAN NASALIZED TONE-", ["7;8"]⟩,
   ⟨0x1B000, "", ["KATAKANA LETTER ARCHAIC E;HIRAGANA LETTER ARCHAIC YE"]⟩,
   ⟨0x1B002, "HENTAIGANA LETTER ",
    ["A-1;A-2;A-3;A-WO;I-1;I-2;I-3;I-4;U-1;U-2;U-3;U-4;U-5;E-2;E-3;E-4;E-5;E-6;O-1;O-2;O-3;KA-1",
     "KA-2;KA-3;KA-4;KA-5;KA-6;KA-7;KA-8;KA-9;KA-10;KA-11;KA-KE;KI-1;KI-2;KI-3;KI-4;KI-5;KI-6",
     "KI-7;KI-8;KU-1;KU-2;KU-3;KU-4;KU-5;KU-6;KU-7;KE-1;KE-2;KE-3;KE-4;KE-5;KE-6;KO-1;KO-2;KO-3",
     "KO-KI;SA-1;SA-2;SA-3;SA-4;SA-5;SA-6;SA-7;SA-8;SI-1;SI-2;SI-3;SI-4;SI-5;SI-6;SU-1;SU-2",
     "SU-3;SU-4;SU-5;SU-6;SU-7;SU-8;SE-1;SE-2;SE-3;SE-4;SE-5;SO-1;SO-2;SO-3;SO-4;SO-5;SO-6;SO-7",
     "TA-1;TA-2;TA-3;TA-4;TI-1;TI-2;TI-3;TI-4;TI-5;TI-6;TI-7;TU-1;TU-2;TU-3;TU-4;TU-TO;TE-1",
     "TE-2;TE-3;TE-4;TE-5;TE-6;TE-7;TE-8;TE-9;TO-1;TO-2;TO-3;TO-4;TO-5;TO-6;TO-RA;NA-1;NA-2",
     "NA-3;NA-4;NA-5;NA-6;NA-7;NA-8;NA-9;NI-1;NI-2;NI-3;NI-4;NI-5;NI-6;NI-7;NI-TE;NU-1;NU-2",
     "NU-3;NE-1;NE-2;NE-3;NE-4;NE-5;NE-6;NE-KO;NO-1;NO-2;NO-3;NO-4;NO-5;HA-1;HA-2;HA-3;HA-4",
     "HA-5;HA-6;HA-7;HA-8;HA-9;HA-10;HA-11;HI-1;HI-2;HI-3;HI-4;HI-5;HI-6;HI-7;HU-1;HU-2;HU-3",
     "HE-1;HE-2;HE-3;HE-4;HE-5;HE-6;HE-7;HO-1;HO-2;HO-3;HO-4;HO-5;HO-6;HO-7;HO-8;MA-1;MA-2;MA-3",
     "MA-4;MA-5;MA-6;MA-7;MI-1;MI-2;MI-3;MI-4;MI-5;MI-6;MI-7;MU-1;MU-2;MU-3;MU-4;ME-1;ME-2",
     "ME-MA;MO-1;MO-2;MO-3;MO-4;MO-5;MO-6;YA-1;YA-2;YA-3;YA-4;YA-5;YA-YO;YU-1;YU-2;YU-3;YU-4",
     "YO-1;YO-2;YO-3;YO-4;YO-5;YO-6;RA-1;RA-2;RA-3;RA-4;RI-1;RI-2;RI-3;RI-4;RI-5;RI-6;RI-7;RU-1",
     "RU-2;RU-3;RU-4;RU-5;RU-6;RE-1;RE-2;RE-3;RE-4;RO-1;RO-2;RO-3;RO-4;RO-5;RO-6;WA-1;WA-2;WA-3",
     "WA-4;WA-5;WI-1;WI-2;WI-3;WI-4;WI-5;WE-1;WE-2;WE-3;WE-4;WO-1;WO-2;WO-3;WO-4;WO-5;WO-6;WO-7",
     "N-MU-MO-1;N-MU-MO-2"]⟩,
   ⟨0x1B11F, "",
    ["HIRAGANA LETTER ARCHAIC WU;KATAKANA LETTER ARCHAIC YI;KATAKANA LETTER ARCHAIC YE",
     "KATAKANA LETTER ARCHAIC WU"]⟩,
   ⟨0x1B150, "HIRAGANA LETTER SMALL ", ["WI;WE;WO"]⟩,
   ⟨0x1B164, "KATAKANA LETTER SMALL ", ["WI;WE;WO;N"]⟩,
   ⟨0x1BC00, "DUPLOYAN LETTER ",
    ["H;X;P;T;F;K;L;B;D;V;G;R;P N;D S;F N;K M;R S;TH;SLOAN DH;DH;KK;SLOAN J;HL;LH;RH;M;N;J;S",
     "M N;N M;J M;S J;M WITH DOT;N WITH DOT;J WITH DOT;J WITH DOTS INSIDE AND ABOVE;S WITH DOT",
     "S WITH DOT BELOW;M S;N S;J S;S S;M N S;N M S;J M S;S J S;J S WITH DOT;J N;J N S;S T;S T R",
     "S P;S P R;T S;T R S;W;WH;W R;S N;S M;K R S;G R S;S K;S K R;A;SLOAN OW;OA;O;AOU;I;E;IE",
     "SHORT I;UI;EE;SLOAN EH;ROMANIAN I;SLOAN EE;LONG I;YE;U;EU;XW;U N;LONG U;ROMANIAN U;UH",
     "SLOAN U;OOH;OW;OU;WA;WO;WI;WEI;WOW;NASAL U;NASAL O;NASAL I;NASAL A;PERNIN AN;PERNIN AM",
     "SLOAN EN;SLOAN AN;SLOAN ON;VOCALIC M"]⟩,
   ⟨0x1BC70, "DUPLOYAN AFFIX ",
    ["LEFT HORIZONTAL SECANT;MID HORIZONTAL SECANT;RIGHT HORIZONTAL SECANT;LOW VERTICAL SECANT",
     "MID VERTICAL SECANT;HIGH VERTICAL SECANT;ATTACHED SECANT;ATTACHED LEFT-TO-RIGHT SECANT",
     "ATTACHED TANGENT;ATTACHED TAIL;ATTACHED E HOOK;ATTACHED I HOOK;ATTACHED TANGENT HOOK"]⟩,
   ⟨0x1BC80, "DUPLOYAN AFFIX HIGH ",
    ["ACUTE;TIGHT ACUTE;GRAVE;LONG GRAVE;DOT;CIRCLE;LINE;WAVE;VERTICAL"]⟩,
   ⟨0x1BC90, "DUPLOYAN AFFIX LOW ",
    ["ACUTE;TIGHT ACUTE;GRAVE;LONG GRAVE;DOT;CIRCLE;LINE;WAVE;VERTICAL;ARROW"]⟩,
   ⟨0x1BC9C, "DUPLOYAN ",
    ["SIGN O WITH CROSS;THICK LETTER SELECTOR;DOUBLE MARK;PUNCTUATION CHINOOK FULL STOP"]⟩,
   ⟨0x1BCA0, "SHORTHAND FORMAT ", ["LETTER OVERLAP;CONTINUING OVERLAP;DOWN STEP;UP STEP"]⟩,
   ⟨0x1CF00, "ZNAMENNY COMBINING MARK ",
    ["GORAZDO NIZKO S KRYZHEM ON LEFT;NIZKO S KRYZHEM ON LEFT;TSATA ON LEFT",
     "GORAZDO NIZKO ON LEFT;NIZKO ON LEFT;SREDNE ON LEFT;MALO POVYSHE ON LEFT;POVYSHE ON LEFT",
     "VYSOKO ON LEFT;MALO POVYSHE S KHOKHLOM ON LEFT;POVYSHE S KHOKHLOM ON LEFT",
     "VYSOKO S KHOKHLOM ON LEFT;GORAZDO NIZKO S KRYZHEM ON RIGHT;NIZKO S KRYZHEM ON RIGHT",
     "TSATA ON RIGHT;GORAZDO NIZKO ON RIGHT;NIZKO ON RIGHT;SREDNE ON RIGHT",
     "MALO POVYSHE ON RIGHT;POVYSHE ON RIGHT;VYSOKO ON RIGHT;MALO POVYSHE S KHOKHLOM ON RIGHT",
     "POVYSHE S KHOKHLOM ON RIGHT;VYSOKO S KHOKHLOM ON RIGHT;TSATA S KRYZHEM",
     "MALO POVYSHE S KRYZHEM;STRANNO MALO POVYSHE;POVYSHE S KRYZHEM;POVYSHE STRANNO",
     "VYSOKO S KRYZHEM;MALO POVYSHE STRANNO;GORAZDO VYSOKO;ZELO;ON;RAVNO;TIKHAYA;BORZAYA;UDARKA",
     "PODVERTKA;LOMKA;KUPNAYA;KACHKA;ZEVOK;SKOBA;RAZSEKA;KRYZH ON LEFT"]⟩,
   ⟨0x1CF30, "ZNAMENNY COMBINING ",
    ["TONAL RANGE MARK MRACHNO;TONAL RANGE MARK SVETLO;TONAL RANGE MARK TRESVETLO",
     "MARK ZADERZHKA;MARK DEMESTVENNY ZADERZHKA;MARK OTSECHKA;MARK PODCHASHIE",
     "MARK PODCHASHIE WITH VERTICAL STROKE;MARK CHASHKA;MARK CHASHKA POLNAYA;MARK OBLACHKO",
     "MARK SOROCHYA NOZHKA;MARK TOCHKA;MARK DVOETOCHIE;ATTACHING VERTICAL OMET;MARK CURVED OMET",
     "MARK KRYZH;LOWER TONAL RANGE INDICATOR"]⟩,
   ⟨0x1CF42, "ZNAMENNY PRIZNAK MODIFIER ", ["LEVEL-2;LEVEL-3;DIRECTION FLIP;KRYZH;ROG"]⟩,
   ⟨0x1CF50, "ZNAMENNY NEUME ",
    ["KRYUK;KRYUK TIKHY;PARAKLIT;DVA V CHELNU;KLYUCH;ZANOZHEK;STOPITSA;STOPITSA S OCHKOM",
     "PEREVODKA;PEREVODKA NEPOSTOYANNAYA;STOPITSA WITH SOROCHYA NOZHKA;CHELYUSTKA;PALKA",
     "ZAPYATAYA;GOLUBCHIK BORZY;GOLUBCHIK TIKHY;GOLUBCHIK MRACHNY;GOLUBCHIK SVETLY",
     "GOLUBCHIK TRESVETLY;VRAKHIYA PROSTAYA;VRAKHIYA MRACHNAYA;VRAKHIYA SVETLAYA",
     "VRAKHIYA TRESVETLAYA;VRAKHIYA KLYUCHEVAYA PROSTAYA;VRAKHIYA KLYUCHEVAYA MRACHNAYA",
     "VRAKHIYA KLYUCHEVAYA SVETLAYA;VRAKHIYA KLYUCHEVAYA TRESVETLAYA;DOUBLE ZAPYATAYA",
     "REVERSED CHELYUSTKA;DERBITSA;KHAMILO;CHASHKA;PODCHASHIE;SKAMEYTSA MRACHNAYA",
     "SKAMEYTSA SVETLAYA;SKAMEYTSA TRESVETLAYA;SKAMEYTSA TIKHAYA;DEMESTVENNY KLYUCH",
     "SKAMEYTSA KLYUCHEVAYA SVETLAYA;SKAMEYTSA KLYUCHENEPOSTOYANNAYA",
     "SKAMEYTSA KLYUCHEVAYA TIKHAYA;SKAMEYTSA DVOECHELNAYA PROSTAYA",
     "SKAMEYTSA DVOECHELNAYA SVETLAYA;SKAMEYTSA DVOECHELNAYA NEPOSTOYANNAYA",
     "SKAMEYTSA DVOECHELNAYA KLYUCHEVAYA;SLOZHITIE;SLOZHITIE S ZAPYATOY;SLOZHITIE ZAKRYTOE",
     "SLOZHITIE S KRYZHEM;KRYZH;ROG;FITA;KOBYLA;ZMEYTSA;STATYA;STATYA S ZAPYATOY",
     "STATYA S KRYZHEM;STATYA S ZAPYATOY I KRYZHEM;STATYA S KRYZHEM I ZAPYATOY;STATYA ZAKRYTAYA",
     "STATYA ZAKRYTAYA S ZAPYATOY;STATYA S ROGOM;STATYA S DVUMYA ZAPYATYMI",
     "STATYA S ZAPYATOY I PODCHASHIEM;POLKULIZMY;STATYA NEPOSTOYANNAYA;STRELA PROSTAYA",
     "STRELA MRACHNOTIKHAYA;STRELA KRYZHEVAYA;STRELA POLUPOVODNAYA;STRELA POVODNAYA",
     "STRELA NEPOSTOYANNAYA;STRELA KLYUCHEPOVODNAYA;STRELA KLYUCHENEPOSTOYANNAYA",
     "STRELA TIKHAYA PUTNAYA;STRELA DVOECHELNAYA;STRELA DVOECHELNOKRYZHEVAYA",
     "STRELA DVOECHELNOPOVODNAYA;STRELA DVOECHELNAYA KLYUCHEVAYA",
     "STRELA DVOECHELNOPOVODNAYA KLYUCHEVAYA;STRELA GROMNAYA WITH SINGLE ZAPYATAYA",
     "STRELA GROMOPOVODNAYA WITH SINGLE ZAPYATAYA;STRELA GROMNAYA;STRELA GROMOPOVODNAYA",
     "STRELA GROMOPOVODNAYA WITH DOUBLE ZAPYATAYA;STRELA GROMOKRYZHEVAYA",
     "STRELA GROMOKRYZHEVAYA POVODNAYA;MECHIK;MECHIK POVODNY;MECHIK KLYUCHEVOY",
     "MECHIK KLYUCHEPOVODNY;MECHIK KLYUCHENEPOSTOYANNY;STRELA TRYASOGLASNAYA",
     "STRELA TRYASOPOVODNAYA;STRELA TRYASOSTRELNAYA;OSOKA;OSOKA SVETLAYA;OSOKA TRESVETLAYA",
     "OSOKA KRYUKOVAYA SVETLAYA;OSOKA KLYUCHEVAYA SVETLAYA;OSOKA KLYUCHEVAYA NEPOSTOYANNAYA",
     "STRELA KRYUKOVAYA;STRELA KRYUKOVAYA POVODNAYA",
     "STRELA KRYUKOVAYA GROMNAYA WITH SINGLE ZAPYATAYA",
     "STRELA KRYUKOVAYA GROMOPOVODNAYA WITH SINGLE ZAPYATAYA;STRELA KRYUKOVAYA GROMNAYA",
     "STRELA KRYUKOVAYA GROMOPOVODNAYA;STRELA KRYUKOVAYA GROMOPOVODNAYA WITH DOUBLE ZAPYATAYA",
     "STRELA KRYUKOVAYA GROMOKRYZHEVAYA;STRELA KRYUKOVAYA GROMOKRYZHEVAYA POVODNAYA",
     "STRELA KRYUKOVAYA TRYASKA;KUFISMA;OBLAKO;DUDA;NEMKA;PAUK"]⟩,
   ⟨0x1D000, "BYZANTINE MUSICAL SYMBOL ",
    ["PSILI;DASEIA;PERISPOMENI;OXEIA EKFONITIKON;OXEIA DIPLI;VAREIA EKFONITIKON;VAREIA DIPLI",
     "KATHISTI;SYRMATIKI;PARAKLITIKI;YPOKRISIS;YPOKRISIS DIPLI;KREMASTI;APESO EKFONITIKON",
     "EXO EKFONITIKON;TELEIA;KENTIMATA;APOSTROFOS;APOSTROFOS DIPLI;SYNEVMA;THITA",
     "OLIGON ARCHAION;GORGON ARCHAION;PSILON;CHAMILON;VATHY;ISON ARCHAION;KENTIMA ARCHAION",
     "KENTIMATA ARCHAION;SAXIMATA;PARICHON;STAVROS APODEXIA;OXEIAI ARCHAION;VAREIAI ARCHAION",
     "APODERMA ARCHAION;APOTHEMA;KLASMA;REVMA;PIASMA ARCHAION;TINAGMA;ANATRICHISMA;SEISMA",
     "SYNAGMA ARCHAION;SYNAGMA META STAVROU;OYRANISMA ARCHAION;THEMA;LEMOI;DYO;TRIA;TESSERA",
     "KRATIMATA;APESO EXO NEO;FTHORA ARCHAION;IMIFTHORA;TROMIKON ARCHAION;KATAVA TROMIKON",
     "PELASTON;PSIFISTON;KONTEVMA;CHOREVMA ARCHAION;RAPISMA;PARAKALESMA ARCHAION",
     "PARAKLITIKI ARCHAION;ICHADIN;NANA;PETASMA;KONTEVMA ALLO;TROMIKON ALLO;STRAGGISMATA",
     "GRONTHISMATA;ISON NEO;OLIGON NEO;OXEIA NEO;PETASTI;KOUFISMA;PETASTOKOUFISMA",
     "KRATIMOKOUFISMA;PELASTON NEO;KENTIMATA NEO ANO;KENTIMA NEO ANO;YPSILI;APOSTROFOS NEO",
     "APOSTROFOI SYNDESMOS NEO;YPORROI;KRATIMOYPORROON;ELAFRON;CHAMILI;MIKRON ISON;VAREIA NEO",
     "PIASMA NEO;PSIFISTON NEO;OMALON;ANTIKENOMA;LYGISMA;PARAKLITIKI NEO;PARAKALESMA NEO",
     "ETERON PARAKALESMA;KYLISMA;ANTIKENOKYLISMA;TROMIKON NEO;EKSTREPTON;SYNAGMA NEO;SYRMA",
     "CHOREVMA NEO;EPEGERMA;SEISMA NEO;XIRON KLASMA;TROMIKOPSIFISTON;PSIFISTOLYGISMA",
     "TROMIKOLYGISMA;TROMIKOPARAKALESMA;PSIFISTOPARAKALESMA;TROMIKOSYNAGMA;PSIFISTOSYNAGMA",
     "GORGOSYNTHETON;ARGOSYNTHETON;ETERON ARGOSYNTHETON;OYRANISMA NEO;THEMATISMOS ESO",
     "THEMATISMOS EXO;THEMA APLOUN;THES KAI APOTHES;KATAVASMA;ENDOFONON;YFEN KATO;YFEN ANO",
     "STAVROS;KLASMA ANO;DIPLI ARCHAION;KRATIMA ARCHAION;KRATIMA ALLO;KRATIMA NEO;APODERMA NEO",
     "APLI;DIPLI;TRIPLI;TETRAPLI;KORONIS;LEIMMA ENOS CHRONOU;LEIMMA DYO CHRONON",
     "LEIMMA TRION CHRONON;LEIMMA TESSARON CHRONON;LEIMMA IMISEOS CHRONOU;GORGON NEO ANO",
     "GORGON PARESTIGMENON ARISTERA;GORGON PARESTIGMENON DEXIA;DIGORGON",
     "DIGORGON PARESTIGMENON ARISTERA KATO;DIGORGON PARESTIGMENON ARISTERA ANO",
     "DIGORGON PARESTIGMENON DEXIA;TRIGORGON;ARGON;IMIDIARGON;DIARGON;AGOGI POLI ARGI",
     "AGOGI ARGOTERI;AGOGI ARGI;AGOGI METRIA;AGOGI MESI;AGOGI GORGI;AGOGI GORGOTERI",
     "AGOGI POLI GORGI;MARTYRIA PROTOS ICHOS;MARTYRIA ALLI PROTOS ICHOS;MARTYRIA DEYTEROS ICHOS",
     "MARTYRIA ALLI DEYTEROS ICHOS;MARTYRIA TRITOS ICHOS;MARTYRIA TRIFONIAS",
     "MARTYRIA TETARTOS ICHOS;MARTYRIA TETARTOS LEGETOS ICHOS;MARTYRIA LEGETOS ICHOS",
     "MARTYRIA PLAGIOS ICHOS;ISAKIA TELOUS ICHIMATOS;APOSTROFOI TELOUS ICHIMATOS",
     "FANEROSIS TETRAFONIAS;FANEROSIS MONOFONIAS;FANEROSIS DIFONIAS;MARTYRIA VARYS ICHOS",
     "MARTYRIA PROTOVARYS ICHOS;MARTYRIA PLAGIOS TETARTOS ICHOS;GORTHMIKON N APLOUN",
     "GORTHMIKON N DIPLOUN;ENARXIS KAI FTHORA VOU;IMIFONON;IMIFTHORON",
     "FTHORA ARCHAION DEYTEROU ICHOU;FTHORA DIATONIKI PA;FTHORA DIATONIKI NANA",
     "FTHORA NAOS ICHOS;FTHORA DIATONIKI DI;FTHORA SKLIRON DIATONON DI;FTHORA DIATONIKI KE",
     "FTHORA DIATONIKI ZO;FTHORA DIATONIKI NI KATO;FTHORA DIATONIKI NI ANO",
     "FTHORA MALAKON CHROMA DIFONIAS;FTHORA MALAKON CHROMA MONOFONIAS",
     "FHTORA SKLIRON CHROMA VASIS;FTHORA SKLIRON CHROMA SYNAFI;FTHORA NENANO;CHROA ZYGOS",
     "CHROA KLITON;CHROA SPATHI;FTHORA I YFESIS TETARTIMORION;FTHORA ENARMONIOS ANTIFONIA",
     "YFESIS TRITIMORION;DIESIS TRITIMORION;DIESIS TETARTIMORION;DIESIS APLI DYO DODEKATA",
     "DIESIS MONOGRAMMOS TESSERA DODEKATA;DIESIS DIGRAMMOS EX DODEKATA",
     "DIESIS TRIGRAMMOS OKTO DODEKATA;YFESIS APLI DYO DODEKATA",
     "YFESIS MONOGRAMMOS TESSERA DODEKATA;YFESIS DIGRAMMOS EX DODEKATA",
     "YFESIS TRIGRAMMOS OKTO DODEKATA;GENIKI DIESIS;GENIKI YFESIS;DIASTOLI APLI MIKRI",
     "DIASTOLI APLI MEGALI;DIASTOLI DIPLI;DIASTOLI THESEOS;SIMANSIS THESEOS",
     "SIMANSIS THESEOS DISIMOU;SIMANSIS THESEOS TRISIMOU;SIMANSIS THESEOS TETRASIMOU",
     "SIMANSIS ARSEOS;SIMANSIS ARSEOS DISIMOU;SIMANSIS ARSEOS TRISIMOU",
     "SIMANSIS ARSEOS TETRASIMOU;DIGRAMMA GG;DIFTOGGOS OU;STIGMA;ARKTIKO PA;ARKTIKO VOU",
     "ARKTIKO GA;ARKTIKO DI;ARKTIKO KE;ARKTIKO ZO;ARKTIKO NI;KENTIMATA NEO MESO",
     "KENTIMA NEO MESO;KENTIMATA NEO KATO;KENTIMA NEO KATO;KLASMA KATO;GORGON NEO KATO"]⟩,
   ⟨0x1D100, "MUSICAL SYMBOL ",
    ["SINGLE BARLINE;DOUBLE BARLINE;FINAL BARLINE;REVERSE FINAL BARLINE;DASHED BARLINE",
     "SHORT BARLINE;LEFT REPEAT SIGN;RIGHT REPEAT SIGN;REPEAT DOTS;DAL SEGNO;DA CAPO;SEGNO;CODA",
     "REPEATED FIGURE-1;REPEATED FIGURE-2;REPEATED FIGURE-3;FERMATA;FERMATA BELOW;BREATH MARK",
     "CAESURA;BRACE;BRACKET;ONE-LINE STAFF;TWO-LINE STAFF;THREE-LINE STAFF;FOUR-LINE STAFF",
     "FIVE-LINE STAFF;SIX-LINE STAFF;SIX-STRING FRETBOARD;FOUR-STRING FRETBOARD;G CLEF",
     "G CLEF OTTAVA ALTA;G CLEF OTTAVA BASSA;C CLEF;F CLEF;F CLEF OTTAVA ALTA",
     "F CLEF OTTAVA BASSA;DRUM CLEF-1;DRUM CLEF-2"]⟩,
   ⟨0x1D129, "MUSICAL SYMBOL ",
    ["MULTIPLE MEASURE REST;DOUBLE SHARP;DOUBLE FLAT;FLAT UP;FLAT DOWN;NATURAL UP;NATURAL DOWN",
     "SHARP UP;SHARP DOWN;QUARTER TONE SHARP;QUARTER TONE FLAT;COMMON TIME;CUT TIME;OTTAVA ALTA",
     "OTTAVA BASSA;QUINDICESIMA ALTA;QUINDICESIMA BASSA;MULTI REST;WHOLE REST;HALF REST",
     "QUARTER REST;EIGHTH REST;SIXTEENTH REST;THIRTY-SECOND REST;SIXTY-FOURTH REST",
     "ONE HUNDRED TWENTY-EIGHTH REST;X NOTEHEAD;PLUS NOTEHEAD;CIRCLE X NOTEHEAD",
     "SQUARE NOTEHEAD WHITE;SQUARE NOTEHEAD BLACK"]⟩,
   ⟨0x1D148, "MUSICAL SYMBOL TRIANGLE NOTEHEAD ",
    ["UP WHITE;UP BLACK;LEFT WHITE;LEFT BLACK;RIGHT WHITE;RIGHT BLACK;DOWN WHITE;DOWN BLACK",
     "UP RIGHT WHITE;UP RIGHT BLACK"]⟩,
   ⟨0x1D152, "MUSICAL SYMBOL ",
    ["MOON NOTEHEAD WHITE;MOON NOTEHEAD BLACK;TRIANGLE-ROUND NOTEHEAD DOWN WHITE",
     "TRIANGLE-ROUND NOTEHEAD DOWN BLACK;PARENTHESIS NOTEHEAD;VOID NOTEHEAD;NOTEHEAD BLACK",
     "NULL NOTEHEAD;CLUSTER NOTEHEAD WHITE;CLUSTER NOTEHEAD BLACK;BREVE;WHOLE NOTE;HALF NOTE",
     "QUARTER NOTE;EIGHTH NOTE;SIXTEENTH NOTE;THIRTY-SECOND NOTE;SIXTY-FOURTH NOTE",
     "ONE HUNDRED TWENTY-EIGHTH NOTE;COMBINING STEM;COMBINING SPRECHGESANG STEM",
     "COMBINING TREMOLO-1;COMBINING TREMOLO-2;COMBINING TREMOLO-3;FINGERED TREMOLO-1",
     "FINGERED TREMOLO-2;FINGERED TREMOLO-3;COMBINING AUGMENTATION DOT;COMBINING FLAG-1",
     "COMBINING FLAG-2;COMBINING FLAG-3;COMBINING FLAG-4;COMBINING FLAG-5;BEGIN BEAM;END BEAM",
     "BEGIN TIE;END TIE;BEGIN SLUR;END SLUR;BEGIN PHRASE;END PHRASE;COMBINING ACCENT",
     "COMBINING STACCATO;COMBINING TENUTO;COMBINING STACCATISSIMO;COMBINING MARCATO",
     "COMBINING MARCATO-STACCATO;COMBINING ACCENT-STACCATO;COMBINING LOURE;ARPEGGIATO UP",
     "ARPEGGIATO DOWN;COMBINING DOIT;COMBINING RIP;COMBINING FLIP;COMBINING SMEAR",
     "COMBINING BEND;COMBINING DOUBLE TONGUE;COMBINING TRIPLE TONGUE;RINFORZANDO;SUBITO;Z;PIANO",
     "MEZZO;FORTE;CRESCENDO;DECRESCENDO;GRACE NOTE SLASH;GRACE NOTE NO SLASH;TR;TURN",
     "INVERTED TURN;TURN SLASH;TURN UP"]⟩,
   ⟨0x1D19B, "MUSICAL SYMBOL ORNAMENT STROKE-", ["1;2;3;4;5;6;7;8;9;10;11"]⟩,
   ⟨0x1D1A6, "MUSICAL SYMBOL ",
    ["HAUPTSTIMME;NEBENSTIMME;END OF STIMME;DEGREE SLASH;COMBINING DOWN BOW;COMBINING UP BOW",
     "COMBINING HARMONIC;COMBINING SNAP PIZZICATO;PEDAL MARK;PEDAL UP MARK;HALF PEDAL MARK",
     "GLISSANDO UP;GLISSANDO DOWN;WITH FINGERNAILS;DAMP;DAMP ALL;MAXIMA;LONGA;BREVIS",
     "SEMIBREVIS WHITE;SEMIBREVIS BLACK;MINIMA;MINIMA BLACK;SEMIMINIMA WHITE;SEMIMINIMA BLACK",
     "FUSA WHITE;FUSA BLACK;LONGA PERFECTA REST;LONGA IMPERFECTA REST;BREVIS REST",
     "SEMIBREVIS REST;MINIMA REST;SEMIMINIMA REST;TEMPUS PERFECTUM CUM PROLATIONE PERFECTA",
     "TEMPUS PERFECTUM CUM PROLATIONE IMPERFECTA",
     "TEMPUS PERFECTUM CUM PROLATIONE PERFECTA DIMINUTION-1",
     "TEMPUS IMPERFECTUM CUM PROLATIONE PERFECTA;TEMPUS IMPERFECTUM CUM PROLATIONE IMPERFECTA",
     "TEMPUS IMPERFECTUM CUM PROLATIONE IMPERFECTA DIMINUTION-1",
     "TEMPUS IMPERFECTUM CUM PROLATIONE IMPERFECTA DIMINUTION-2",
     "TEMPUS IMPERFECTUM CUM PROLATIONE IMPERFECTA DIMINUTION-3;CROIX;GREGORIAN C CLEF",
     "GREGORIAN F CLEF;SQUARE B;VIRGA;PODATUS;CLIVIS;SCANDICUS;CLIMACUS;TORCULUS;PORRECTUS",
     "PORRECTUS FLEXUS;SCANDICUS FLEXUS;TORCULUS RESUPINUS;PES SUBPUNCTIS;KIEVAN C CLEF",
     "KIEVAN END OF PIECE;KIEVAN FINAL NOTE;KIEVAN RECITATIVE MARK;KIEVAN WHOLE NOTE",
     "KIEVAN HALF NOTE;KIEVAN QUARTER NOTE STEM DOWN;KIEVAN QUARTER NOTE STEM UP",
     "KIEVAN EIGHTH NOTE STEM DOWN;KIEVAN EIGHTH NOTE STEM UP;KIEVAN FLAT SIGN;SORI;KORON"]⟩,
   ⟨0x1D200, "GREEK VOCAL NOTATION SYMBOL-",
    ["1;2;3;4;5;6;7;8;9;10;11;12;13;14;15;16;17;18;19;20;21;22;23;24;50;51;52;53;54"]⟩,
   ⟨0x1D21D, "GREEK INSTRUMENTAL NOTATION SYMBOL-",
    ["1;2;4;5;7;8;11;12;13;14;17;18;19;23;24;25;26;27;29;30;32;36;37;38;39;40;42;43;45;47;48;49",
     "50;51;52;53;54"]⟩,
   ⟨0x1D242, "",
    ["COMBINING GREEK MUSICAL TRISEME;COMBINING GREEK MUSICAL TETRASEME",
     "COMBINING GREEK MUSICAL PENTASEME;GREEK MUSICAL LEIMMA"]⟩,
   ⟨0x1D2E0, "MAYAN NUMERAL ",
    ["ZERO;ONE;TWO;THREE;FOUR;FIVE;SIX;SEVEN;EIGHT;NINE;TEN;ELEVEN;TWELVE;THIRTEEN;FOURTEEN",
     "FIFTEEN;SIXTEEN;SEVENTEEN;EIGHTEEN;NINETEEN"]⟩,
   ⟨0x1D300, "",
    ["MONOGRAM FOR EARTH;DIGRAM FOR HEAVENLY EARTH;DIGRAM FOR HUMAN EARTH",
     "DIGRAM FOR EARTHLY HEAVEN;DIGRAM FOR EARTHLY HUMAN;DIGRAM FOR EARTH"]⟩,
   ⟨0x1D306, "TETRAGRAM FOR ",
    ["CENTRE;FULL CIRCLE;MIRED;BARRIER;KEEPING SMALL;CONTRARIETY;ASCENT;OPPOSITION",
     "BRANCHING OUT;DEFECTIVENESS OR DISTORTION;DIVERGENCE;YOUTHFULNESS;INCREASE;PENETRATION",
     "REACH;CONTACT;HOLDING BACK;WAITING;FOLLOWING;ADVANCE;RELEASE;RESISTANCE;EASE;JOY",
     "CONTENTION;ENDEAVOUR;DUTIES;CHANGE;DECISIVENESS;BOLD RESOLUTION;PACKING;LEGION;CLOSENESS",
     "KINSHIP;GATHERING;STRENGTH;PURITY;FULLNESS;RESIDENCE;LAW OR MODEL;RESPONSE;GOING TO MEET",
     "ENCOUNTERS;STOVE;GREATNESS;ENLARGEMENT;PATTERN;RITUAL;FLIGHT;VASTNESS OR WASTING",
     "CONSTANCY;MEASURE;ETERNITY;UNITY;DIMINISHMENT;CLOSED MOUTH;GUARDEDNESS;GATHERING IN",
     "MASSING;ACCUMULATION;EMBELLISHMENT;DOUBT;WATCH;SINKING;INNER;DEPARTURE;DARKENING;DIMMING",
     "EXHAUSTION;SEVERANCE;STOPPAGE;HARDNESS;COMPLETION;CLOSURE;FAILURE;AGGRAVATION;COMPLIANCE",
     "ON THE VERGE;DIFFICULTIES;LABOURING;FOSTERING"]⟩,
   ⟨0x1D360, "COUNTING ROD UNIT DIGIT ", ["ONE;TWO;THREE;FOUR;FIVE;SIX;SEVEN;EIGHT;NINE"]⟩,
   ⟨0x1D369, "COUNTING ROD TENS DIGIT ", ["ONE;TWO;THREE;FOUR;FIVE;SIX;SEVEN;EIGHT;NINE"]⟩,
   ⟨0x1D372, "IDEOGRAPHIC TALLY MARK ", ["ONE;TWO;THREE;FOUR;FIVE"]⟩,
   ⟨0x1D377, "TALLY MARK ", ["ONE;FIVE"]⟩,
   ⟨0x1D400, "MATHEMATICAL BOLD CAPITAL ",
    ["A;B;C;D;E;F;G;H;I;J;K;L;M;N;O;P;Q;R;S;T;U;V;W;X;Y;Z"]⟩,
   ⟨0x1D41A, "MATHEMATICAL BOLD SMALL ",
    ["A;B;C;D;E;F;G;H;I;J;K;L;M;N;O;P;Q;R;S;T;U;V;W;X;Y;Z"]⟩,
   ⟨0x1D434, "MATHEMATICAL ITALIC CAPITAL ",
    ["A;B;C;D;E;F;G;H;I;J;K;L;M;N;O;P;Q;R;S;T;U;V;W;X;Y;Z"]⟩,
   ⟨0x1D44E, "MATHEMATICAL ITALIC SMALL ", ["A;B;C;D;E;F;G"]⟩,
   ⟨0x1D456, "MATHEMATICAL ITALIC SMALL ", ["I;J;K;L;M;N;O;P;Q;R;S;T;U;V;W;X;Y;Z"]⟩,
   ⟨0x1D468, "MATHEMATICAL BOLD ITALIC CAPITAL ",
    ["A;B;C;D;E;F;G;H;I;J;K;L;M;N;O;P;Q;R;S;T;U;V;W;X;Y;Z"]⟩,
   ⟨0x1D482, "MATHEMATICAL BOLD ITALIC SMALL ",
    ["A;B;C;D;E;F;G;H;I;J;K;L;M;N;O;P;Q;R;S;T;U;V;W;X;Y;Z"]⟩,
   ⟨0x1D49C, "", ["MATHEMATICAL SCRIPT CAPITAL A"]⟩,
   ⟨0x1D49E, "MATHEMATICAL SCRIPT CAPITAL ", ["C;D"]⟩,
   ⟨0x1D4A2, "", ["MATHEMATICAL SCRIPT CAPITAL G"]⟩,
   ⟨0x1D4A5, "MATHEMATICAL SCRIPT CAPITAL ", ["J;K"]⟩,
   ⟨0x1D4A9, "MATHEMATICAL SCRIPT CAPITAL ", ["N;O;P;Q"]⟩,
   ⟨0x1D4AE, "MATHEMATICAL SCRIPT ",
    ["CAPITAL S;CAPITAL T;CAPITAL U;CAPITAL V;CAPITAL W;CAPITAL X;CAPITAL Y;CAPITAL Z;SMALL A",
     "SMALL B;SMALL C;SMALL D"]⟩,
   ⟨0x1D4BB, "", ["MATHEMATICAL SCRIPT SMALL F"]⟩,
   ⟨0x1D4BD, "MATHEMATICAL SCRIPT SMALL ", ["H;I;J;K;L;M;N"]⟩,
   ⟨0x1D4C5, "MATHEMATICAL SCRIPT SMALL ", ["P;Q;R;S;T;U;V;W;X;Y;Z"]⟩,
   ⟨0x1D4D0, "MATHEMATICAL BOLD SCRIPT CAPITAL ",
    ["A;B;C;D;E;F;G;H;I;J;K;L;M;N;O;P;Q;R;S;T;U;V;W;X;Y;Z"]⟩,
   ⟨0x1D4EA, "MATHEMATICAL BOLD SCRIPT SMALL ",
    ["A;B;C;D;E;F;G;H;I;J;K;L;M;N;O;P;Q;R;S;T;U;V;W;X;Y;Z"]⟩,
   ⟨0x1D504, "MATHEMATICAL FRAKTUR CAPITAL ", ["A;B"]⟩,
   ⟨0x1D507, "MATHEMATICAL FRAKTUR CAPITAL ", ["D;E;F;G"]⟩,
   ⟨0x1D50D, "MATHEMATICAL FRAKTUR CAPITAL ", ["J;K;L;M;N;O;P;Q"]⟩,
   ⟨0x1D516, "MATHEMATICAL FRAKTUR CAPITAL ", ["S;T;U;V;W;X;Y"]⟩,
   ⟨0x1D51E, "MATHEMATICAL FRAKTUR SMALL ",
    ["A;B;C;D;E;F;G;H;I;J;K;L;M;N;O;P;Q;R;S;T;U;V;W;X;Y;Z"]⟩,
   ⟨0x1D538, "MATHEMATICAL DOUBLE-STRUCK CAPITAL ", ["A;B"]⟩,
   ⟨0x1D53B, "MATHEMATICAL DOUBLE-STRUCK CAPITAL ", ["D;E;F;G"]⟩,
   ⟨0x1D540, "MATHEMATICAL DOUBLE-STRUCK CAPITAL ", ["I;J;K;L;M"]⟩,
   ⟨0x1D546, "", ["MATHEMATICAL DOUBLE-STRUCK CAPITAL O"]⟩,
   ⟨0x1D54A, "MATHEMATICAL DOUBLE-STRUCK CAPITAL ", ["S;T;U;V;W;X;Y"]⟩,
   ⟨0x1D552, "MATHEMATICAL DOUBLE-STRUCK SMALL ",
    ["A;B;C;D;E;F;G;H;I;J;K;L;M;N;O;P;Q;R;S;T;U;V;W;X;Y;Z"]⟩,
   ⟨0x1D56C, "MATHEMATICAL BOLD FRAKTUR CAPITAL ",
    ["A;B;C;D;E;F;G;H;I;J;K;L;M;N;O;P;Q;R;S;T;U;V;W;X;Y;Z"]⟩,
   ⟨0x1D586, "MATHEMATICAL BOLD FRAKTUR SMALL ",
    ["A;B;C;D;E;F;G;H;I;J;K;L;M;N;O;P;Q;R;S;T;U;V;W;X;Y;Z"]⟩,
   ⟨0x1D5A0, "MATHEMATICAL SANS-SERIF CAPITAL ",
    ["A;B;C;D;E;F;G;H;I;J;K;L;M;N;O;P;Q;R;S;T;U;V;W;X;Y;Z"]⟩,
   ⟨0x1D5BA, "MATHEMATICAL SANS-SERIF SMALL ",
    ["A;B;C;D;E;F;G;H;I;J;K;L;M;N;O;P;Q;R;S;T;U;V;W;X;Y;Z"]⟩,
   ⟨0x1D5D4, "MATHEMATICAL SANS-SERIF BOLD CAPITAL ",
    ["A;B;C;D;E;F;G;H;I;J;K;L;M;N;O;P;Q;R;S;T;U;V;W;X;Y;Z"]⟩,
   ⟨0x1D5EE, "MATHEMATICAL SANS-SERIF BOLD SMALL ",
    ["A;B;C;D;E;F;G;H;I;J;K;L;M;N;O;P;Q;R;S;T;U;V;W;X;Y;Z"]⟩,
   ⟨0x1D608, "MATHEMATICAL SANS-SERIF ITALIC CAPITAL ",
    ["A;B;C;D;E;F;G;H;I;J;K;L;M;N;O;P;Q;R;S;T;U;V;W;X;Y;Z"]⟩,
   ⟨0x1D622, "MATHEMATICAL SANS-SERIF ITALIC SMALL ",
    ["A;B;C;D;E;F;G;H;I;J;K;L;M;N;O;P;Q;R;S;T;U;V;W;X;Y;Z"]⟩,
   ⟨0x1D63C, "MATHEMATICAL SANS-SERIF BOLD ITALIC CAPITAL ",
    ["A;B;C;D;E;F;G;H;I;J;K;L;M;N;O;P;Q;R;S;T;U;V;W;X;Y;Z"]⟩,
   ⟨0x1D656, "MATHEMATICAL SANS-SERIF BOLD ITALIC SMALL ",
    ["A;B;C;D;E;F;G;H;I;J;K;L;M;N;O;P;Q;R;S;T;U;V;W;X;Y;Z"]⟩,
   ⟨0x1D670, "MATHEMATICAL MONOSPACE CAPITAL ",
    ["A;B;C;D;E;F;G;H;I;J;K;L;M;N;O;P;Q;R;S;T;U;V;W;X;Y;Z"]⟩,
   ⟨0x1D68A, "MATHEMATICAL MONOSPACE SMALL ",
    ["A;B;C;D;E;F;G;H;I;J;K;L;M;N;O;P;Q;R;S;T;U;V;W;X;Y;Z"]⟩,
   ⟨0x1D6A4, "MATHEMATICAL ITALIC SMALL DOTLESS ", ["I;J"]⟩,
   ⟨0x1D6A8, "MATHEMATICAL BOLD CAPITAL ",
    ["ALPHA;BETA;GAMMA;DELTA;EPSILON;ZETA;ETA;THETA;IOTA;KAPPA;LAMDA;MU;NU;XI;OMICRON;PI;RHO",
     "THETA SYMBOL;SIGMA;TAU;UPSILON;PHI;CHI;PSI;OMEGA"]⟩,
   ⟨0x1D6C1, "MATHEMATICAL BOLD ",
    ["NABLA;SMALL ALPHA;SMALL BETA;SMALL GAMMA;SMALL DELTA;SMALL EPSILON;SMALL ZETA;SMALL ETA",
     "SMALL THETA;SMALL IOTA;SMALL KAPPA;SMALL LAMDA;SMALL MU;SMALL NU;SMALL XI;SMALL OMICRON",
     "SMALL PI;SMALL RHO;SMALL FINAL SIGMA;SMALL SIGMA;SMALL TAU;SMALL UPSILON;SMALL PHI",
     "SMALL CHI;SMALL PSI;SMALL OMEGA;PARTIAL DIFFERENTIAL;EPSILON SYMBOL;THETA SYMBOL",
     "KAPPA SYMBOL;PHI SYMBOL;RHO SYMBOL;PI SYMBOL"]⟩,
   ⟨0x1D6E2, "MATHEMATICAL ITALIC CAPITAL ",
    ["ALPHA;BETA;GAMMA;DELTA;EPSILON;ZETA;ETA;THETA;IOTA;KAPPA;LAMDA;MU;NU;XI;OMICRON;PI;RHO",
     "THETA SYMBOL;SIGMA;TAU;UPSILON;PHI;CHI;PSI;OMEGA"]⟩,
   ⟨0x1D6FB, "MATHEMATICAL ITALIC ",
    ["NABLA;SMALL ALPHA;SMALL BETA;SMALL GAMMA;SMALL DELTA;SMALL EPSILON;SMALL ZETA;SMALL ETA",
     "SMALL THETA;SMALL IOTA;SMALL KAPPA;SMALL LAMDA;SMALL MU;SMALL NU;SMALL XI;SMALL OMICRON",
     "SMALL PI;SMALL RHO;SMALL FINAL SIGMA;SMALL SIGMA;SMALL TAU;SMALL UPSILON;SMALL PHI",
     "SMALL CHI;SMALL PSI;SMALL OMEGA;PARTIAL DIFFERENTIAL;EPSILON SYMBOL;THETA SYMBOL",
     "KAPPA SYMBOL;PHI SYMBOL;RHO SYMBOL;PI SYMBOL"]⟩,
   ⟨0x1D71C, "MATHEMATICAL BOLD ITALIC CAPITAL ",
    ["ALPHA;BETA;GAMMA;DELTA;EPSILON;ZETA;ETA;THETA;IOTA;KAPPA;LAMDA;MU;NU;XI;OMICRON;PI;RHO",
     "THETA SYMBOL;SIGMA;TAU;UPSILON;PHI;CHI;PSI;OMEGA"]⟩,
   ⟨0x1D735, "MATHEMATICAL BOLD ITALIC ",
    ["NABLA;SMALL ALPHA;SMALL BETA;SMALL GAMMA;SMALL DELTA;SMALL EPSILON;SMALL ZETA;SMALL ETA",
     "SMALL THETA;SMALL IOTA;SMALL KAPPA;SMALL LAMDA;SMALL MU;SMALL NU;SMALL XI;SMALL OMICRON",
     "SMALL PI;SMALL RHO;SMALL FINAL SIGMA;SMALL SIGMA;SMALL TAU;SMALL UPSILON;SMALL PHI",
     "SMALL CHI;SMALL PSI;SMALL OMEGA;PARTIAL DIFFERENTIAL;EPSILON SYMBOL;THETA SYMBOL",
     "KAPPA SYMBOL;PHI SYMBOL;RHO SYMBOL;PI SYMBOL"]⟩,
   ⟨0x1D756, "MATHEMATICAL SANS-SERIF BOLD CAPITAL ",
    ["ALPHA;BETA;GAMMA;DELTA;EPSILON;ZETA;ETA;THETA;IOTA;KAPPA;LAMDA;MU;NU;XI;OMICRON;PI;RHO",
     "THETA SYMBOL;SIGMA;TAU;UPSILON;PHI;CHI;PSI;OMEGA"]⟩,
   ⟨0x1D76F, "MATHEMATICAL SANS-SERIF BOLD ",
    ["NABLA;SMALL ALPHA;SMALL BETA;SMALL GAMMA;SMALL DELTA;SMALL EPSILON;SMALL ZETA;SMALL ETA",
     "SMALL THETA;SMALL IOTA;SMALL KAPPA;SMALL LAMDA;SMALL MU;SMALL NU;SMALL XI;SMALL OMICRON",
     "SMALL PI;SMALL RHO;SMALL FINAL SIGMA;SMALL SIGMA;SMALL TAU;SMALL UPSILON;SMALL PHI",
     "SMALL CHI;SMALL PSI;SMALL OMEGA;PARTIAL DIFFERENTIAL;EPSILON SYMBOL;THETA SYMBOL",
     "KAPPA SYMBOL;PHI SYMBOL;RHO SYMBOL;PI SYMBOL"]⟩,
   ⟨0x1D790, "MATHEMATICAL SANS-SERIF BOLD ITALIC CAPITAL ",
    ["ALPHA;BETA;GAMMA;DELTA;EPSILON;ZETA;ETA;THETA;IOTA;KAPPA;LAMDA;MU;NU;XI;OMICRON;PI;RHO",
     "THETA SYMBOL;SIGMA;TAU;UPSILON;PHI;CHI;PSI;OMEGA"]⟩,
   ⟨0x1D7A9, "MATHEMATICAL SANS-SERIF BOLD ITALIC ",
    ["NABLA;SMALL ALPHA;SMALL BETA;SMALL GAMMA;SMALL DELTA;SMALL EPSILON;SMALL ZETA;SMALL ETA",
     "SMALL THETA;SMALL IOTA;SMALL KAPPA;SMALL LAMDA;SMALL MU;SMALL NU;SMALL XI;SMALL OMICRON",
     "SMALL PI;SMALL RHO;SMALL FINAL SIGMA;SMALL SIGMA;SMALL TAU;SMALL UPSILON;SMALL PHI",
     "SMALL CHI;SMALL PSI;SMALL OMEGA;PARTIAL DIFFERENTIAL;EPSILON SYMBOL;THETA SYMBOL",
     "KAPPA SYMBOL;PHI SYMBOL;RHO SYMBOL;PI SYMBOL"]⟩,
   ⟨0x1D7CA, "MATHEMATICAL BOLD ", ["CAPITAL DIGAMMA;SMALL DIGAMMA"]⟩,
   ⟨0x1D7CE, "MATHEMATICAL BOLD DIGIT ", ["ZERO;ONE;TWO;THREE;FOUR;FIVE;SIX;SEVEN;EIGHT;NINE"]⟩,
   ⟨0x1D7D8, "MATHEMATICAL DOUBLE-STRUCK DIGIT ",
    ["ZERO;ONE;TWO;THREE;FOUR;FIVE;SIX;SEVEN;EIGHT;NINE"]⟩,
   ⟨0x1D7E2, "MATHEMATICAL SANS-SERIF DIGIT ",
    ["ZERO;ONE;TWO;THREE;FOUR;FIVE;SIX;SEVEN;EIGHT;NINE"]⟩,
   ⟨0x1D7EC, "MATHEMATICAL SANS-SERIF BOLD DIGIT ",
    ["ZERO;ONE;TWO;THREE;FOUR;FIVE;SIX;SEVEN;EIGHT;NINE"]⟩,
   ⟨0x1D7F6, "MATHEMATICAL MONOSPACE DIGIT ",
    ["ZERO;ONE;TWO;THREE;FOUR;FIVE;SIX;SEVEN;EIGHT;NINE"]⟩]

end YangSchema.Unicode.NameBlock
