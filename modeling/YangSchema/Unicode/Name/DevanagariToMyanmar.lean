import YangSchema.Unicode.Name.Block

/-!
# Names of characters 0900 to 109F

The scripts from Devanagari to Sinhala, Thai, Lao, Tibetan and Myanmar.
-/
namespace YangSchema.Unicode.NameBlock

def devanagariToMyanmar : List NameBlock :=
  [⟨0x0900, "DEVANAGARI SIGN ", ["INVERTED CANDRABINDU;CANDRABINDU;ANUSVARA;VISARGA"]⟩,
   ⟨0x0904, "DEVANAGARI LETTER ",
    ["SHORT A;A;AA;I;II;U;UU;VOCALIC R;VOCALIC L;CANDRA E;SHORT E;E;AI;CANDRA O;SHORT O;O;AU;KA",
     "KHA;GA;GHA;NGA;CA;CHA;JA;JHA;NYA;TTA;TTHA;DDA;DDHA;NNA;TA;THA;DA;DHA;NA;NNNA;PA;PHA;BA",
     "BHA;MA;YA;RA;RRA;LA;LLA;LLLA;VA;SHA;SSA;SA;HA"]⟩,
   ⟨0x093A, "DEVANAGARI ", ["VOWEL SIGN OE;VOWEL SIGN OOE;SIGN NUKTA;SIGN AVAGRAHA"]⟩,
   ⟨0x093E, "DEVANAGARI VOWEL SIGN ",
    ["AA;I;II;U;UU;VOCALIC R;VOCALIC RR;CANDRA E;SHORT E;E;AI;CANDRA O;SHORT O;O;AU"]⟩,
   ⟨0x094D, "DEVANAGARI ",
    ["SIGN VIRAMA;VOWEL SIGN PRISHTHAMATRA E;VOWEL SIGN AW;OM;STRESS SIGN UDATTA",
     "STRESS SIGN ANUDATTA;GRAVE ACCENT;ACUTE ACCENT;VOWEL SIGN CANDRA LONG E;VOWEL SIGN UE",
     "VOWEL SIGN UUE;LETTER QA;LETTER KHHA;LETTER GHHA;LETTER ZA;LETTER DDDHA;LETTER RHA",
     "LETTER FA;LETTER YYA;LETTER VOCALIC RR;LETTER VOCALIC LL;VOWEL SIGN VOCALIC L",
     "VOWEL SIGN VOCALIC LL;DANDA;DOUBLE DANDA;DIGIT ZERO;DIGIT ONE;DIGIT TWO;DIGIT THREE",
     "DIGIT FOUR;DIGIT FIVE;DIGIT SIX;DIGIT SEVEN;DIGIT EIGHT;DIGIT NINE;ABBREVIATION SIGN",
     "SIGN HIGH SPACING DOT"]⟩,
   ⟨0x0972, "DEVANAGARI LETTER ",
    ["CANDRA A;OE;OOE;AW;UE;UUE;MARWARI DDA;ZHA;HEAVY YA;GGA;JJA;GLOTTAL STOP;DDDA;BBA"]⟩,
   ⟨0x0980, "BENGALI ", ["ANJI;SIGN CANDRABINDU;SIGN ANUSVARA;SIGN VISARGA"]⟩,
   ⟨0x0985, "BENGALI LETTER ", ["A;AA;I;II;U;UU;VOCALIC R;VOCALIC L"]⟩,
   ⟨0x098F, "BENGALI LETTER ", ["E;AI"]⟩,
   ⟨0x0993, "BENGALI LETTER ",
    ["O;AU;KA;KHA;GA;GHA;NGA;CA;CHA;JA;JHA;NYA;TTA;TTHA;DDA;DDHA;NNA;TA;THA;DA;DHA;NA"]⟩,
   ⟨0x09AA, "BENGALI LETTER ", ["PA;PHA;BA;BHA;MA;YA;RA"]⟩,
   ⟨0x09B2, "", ["BENGALI LETTER LA"]⟩,
   ⟨0x09B6, "BENGALI LETTER ", ["SHA;SSA;SA;HA"]⟩,
   ⟨0x09BC, "BENGALI SIGN ", ["NUKTA;AVAGRAHA"]⟩,
   ⟨0x09BE, "BENGALI VOWEL SIGN ", ["AA;I;II;U;UU;VOCALIC R;VOCALIC RR"]⟩,
   ⟨0x09C7, "BENGALI VOWEL SIGN ", ["E;AI"]⟩,
   ⟨0x09CB, "BENGALI ", ["VOWEL SIGN O;VOWEL SIGN AU;SIGN VIRAMA;LETTER KHANDA TA"]⟩,
   ⟨0x09D7, "BENGALI AU LENGTH ", ["MARK"]⟩,
   ⟨0x09DC, "BENGALI LETTER ", ["RRA;RHA"]⟩,
   ⟨0x09DF, "BENGALI ",
    ["LETTER YYA;LETTER VOCALIC RR;LETTER VOCALIC LL;VOWEL SIGN VOCALIC L;VOWEL SIGN VOCALIC LL"]⟩,
   ⟨0x09E6, "BENGALI ",
    ["DIGIT ZERO;DIGIT ONE;DIGIT TWO;DIGIT THREE;DIGIT FOUR;DIGIT FIVE;DIGIT SIX;DIGIT SEVEN",
     "DIGIT EIGHT;DIGIT NINE;LETTER RA WITH MIDDLE DIAGONAL;LETTER RA WITH LOWER DIAGONAL",
     "RUPEE MARK;RUPEE SIGN;CURRENCY NUMERATOR ONE;CURRENCY NUMERATOR TWO",
     "CURRENCY NUMERATOR THREE;CURRENCY NUMERATOR FOUR",
     "CURRENCY NUMERATOR ONE LESS THAN THE DENOMINATOR;CURRENCY DENOMINATOR SIXTEEN;ISSHAR",
     "GANDA MARK;LETTER VEDIC ANUSVARA;ABBREVIATION SIGN;SANDHI MARK"]⟩,
   ⟨0x0A01, "GURMUKHI SIGN ", ["ADAK BINDI;BINDI;VISARGA"]⟩,
   ⟨0x0A05, "GURMUKHI LETTER ", ["A;AA;I;II;U;UU"]⟩,
   ⟨0x0A0F, "GURMUKHI LETTER ", ["EE;AI"]⟩,
   ⟨0x0A13, "GURMUKHI LETTER ",
    ["OO;AU;KA;KHA;GA;GHA;NGA;CA;CHA;JA;JHA;NYA;TTA;TTHA;DDA;DDHA;NNA;TA;THA;DA;DHA;NA"]⟩,
   ⟨0x0A2A, "GURMUKHI LETTER ", ["PA;PHA;BA;BHA;MA;YA;RA"]⟩,
   ⟨0x0A32, "GURMUKHI LETTER ", ["LA;LLA"]⟩,
   ⟨0x0A35, "GURMUKHI LETTER ", ["VA;SHA"]⟩,
   ⟨0x0A38, "GURMUKHI LETTER ", ["SA;HA"]⟩,
   ⟨0x0A3C, "", ["GURMUKHI SIGN NUKTA"]⟩,
   ⟨0x0A3E, "GURMUKHI VOWEL SIGN ", ["AA;I;II;U;UU"]⟩,
   ⟨0x0A47, "GURMUKHI VOWEL SIGN ", ["EE;AI"]⟩,
   ⟨0x0A4B, "GURMUKHI ", ["VOWEL SIGN OO;VOWEL SIGN AU;SIGN VIRAMA"]⟩,
   ⟨0x0A51, "", ["GURMUKHI SIGN UDAAT"]⟩,
   ⟨0x0A59, "GURMUKHI LETTER ", ["KHHA;GHHA;ZA;RRA"]⟩,
   ⟨0x0A5E, "", ["GURMUKHI LETTER FA"]⟩,
   ⟨0x0A66, "GURMUKHI ",
    ["DIGIT ZERO;DIGIT ONE;DIGIT TWO;DIGIT THREE;DIGIT FOUR;DIGIT FIVE;DIGIT SIX;DIGIT SEVEN",
     "DIGIT EIGHT;DIGIT NINE;TIPPI;ADDAK;IRI;URA;EK ONKAR;SIGN YAKASH;ABBREVIATION SIGN"]⟩,
   ⟨0x0A81, "GUJARATI SIGN ", ["CANDRABINDU;ANUSVARA;VISARGA"]⟩,
   ⟨0x0A85, "GUJARATI ",
    ["LETTER A;LETTER AA;LETTER I;LETTER II;LETTER U;LETTER UU;LETTER VOCALIC R",
     "LETTER VOCALIC L;VOWEL CANDRA E"]⟩,
   ⟨0x0A8F, "GUJARATI ", ["LETTER E;LETTER AI;VOWEL CANDRA O"]⟩,
   ⟨0x0A93, "GUJARATI LETTER ",
    ["O;AU;KA;KHA;GA;GHA;NGA;CA;CHA;JA;JHA;NYA;TTA;TTHA;DDA;DDHA;NNA;TA;THA;DA;DHA;NA"]⟩,
   ⟨0x0AAA, "GUJARATI LETTER ", ["PA;PHA;BA;BHA;MA;YA;RA"]⟩,
   ⟨0x0AB2, "GUJARATI LETTER ", ["LA;LLA"]⟩,
   ⟨0x0AB5, "GUJARATI LETTER ", ["VA;SHA;SSA;SA;HA"]⟩,
   ⟨0x0ABC, "GUJARATI SIGN ", ["NUKTA;AVAGRAHA"]⟩,
   ⟨0x0ABE, "GUJARATI VOWEL SIGN ", ["AA;I;II;U;UU;VOCALIC R;VOCALIC RR;CANDRA E"]⟩,
   ⟨0x0AC7, "GUJARATI VOWEL SIGN ", ["E;AI;CANDRA O"]⟩,
   ⟨0x0ACB, "GUJARATI ", ["VOWEL SIGN O;VOWEL SIGN AU;SIGN VIRAMA"]⟩,
   ⟨0x0AD0, "", ["GUJARATI OM"]⟩,
   ⟨0x0AE0, "GUJARATI ",
    ["LETTER VOCALIC RR;LETTER VOCALIC LL;VOWEL SIGN VOCALIC L;VOWEL SIGN VOCALIC LL"]⟩,
   ⟨0x0AE6, "GUJARATI ",
    ["DIGIT ZERO;DIGIT ONE;DIGIT TWO;DIGIT THREE;DIGIT FOUR;DIGIT FIVE;DIGIT SIX;DIGIT SEVEN",
     "DIGIT EIGHT;DIGIT NINE;ABBREVIATION SIGN;RUPEE SIGN"]⟩,
   ⟨0x0AF9, "GUJARATI ",
    ["LETTER ZHA;SIGN SUKUN;SIGN SHADDA;SIGN MADDAH;SIGN THREE-DOT NUKTA ABOVE",
     "SIGN CIRCLE NUKTA ABOVE;SIGN TWO-CIRCLE NUKTA ABOVE"]⟩,
   ⟨0x0B01, "ORIYA SIGN ", ["CANDRABINDU;ANUSVARA;VISARGA"]⟩,
   ⟨0x0B05, "ORIYA LETTER ", ["A;AA;I;II;U;UU;VOCALIC R;VOCALIC L"]⟩,
   ⟨0x0B0F, "ORIYA LETTER ", ["E;AI"]⟩,
   ⟨0x0B13, "ORIYA LETTER ",
    ["O;AU;KA;KHA;GA;GHA;NGA;CA;CHA;JA;JHA;NYA;TTA;TTHA;DDA;DDHA;NNA;TA;THA;DA;DHA;NA"]⟩,
   ⟨0x0B2A, "ORIYA LETTER ", ["PA;PHA;BA;BHA;MA;YA;RA"]⟩,
   ⟨0x0B32, "ORIYA LETTER ", ["LA;LLA"]⟩,
   ⟨0x0B35, "ORIYA LETTER ", ["VA;SHA;SSA;SA;HA"]⟩,
   ⟨0x0B3C, "ORIYA SIGN ", ["NUKTA;AVAGRAHA"]⟩,
   ⟨0x0B3E, "ORIYA VOWEL SIGN ", ["AA;I;II;U;UU;VOCALIC R;VOCALIC RR"]⟩,
   ⟨0x0B47, "ORIYA VOWEL SIGN ", ["E;AI"]⟩,
   ⟨0x0B4B, "ORIYA ", ["VOWEL SIGN O;VOWEL SIGN AU;SIGN VIRAMA"]⟩,
   ⟨0x0B55, "ORIYA ", ["SIGN OVERLINE;AI LENGTH MARK;AU LENGTH MARK"]⟩,
   ⟨0x0B5C, "ORIYA LETTER ", ["RRA;RHA"]⟩,
   ⟨0x0B5F, "ORIYA ",
    ["LETTER YYA;LETTER VOCALIC RR;LETTER VOCALIC LL;VOWEL SIGN VOCALIC L;VOWEL SIGN VOCALIC LL"]⟩,
   ⟨0x0B66, "ORIYA ",
    ["DIGIT ZERO;DIGIT ONE;DIGIT TWO;DIGIT THREE;DIGIT FOUR;DIGIT FIVE;DIGIT SIX;DIGIT SEVEN",
     "DIGIT EIGHT;DIGIT NINE;ISSHAR;LETTER WA;FRACTION ONE QUARTER;FRACTION ONE HALF",
     "FRACTION THREE QUARTERS;FRACTION ONE SIXTEENTH;FRACTION ONE EIGHTH",
     "FRACTION THREE SIXTEENTHS"]⟩,
   ⟨0x0B82, "TAMIL SIGN ", ["ANUSVARA;VISARGA"]⟩,
   ⟨0x0B85, "TAMIL LETTER ", ["A;AA;I;II;U;UU"]⟩,
   ⟨0x0B8E, "TAMIL LETTER ", ["E;EE;AI"]⟩,
   ⟨0x0B92, "TAMIL LETTER ", ["O;OO;AU;KA"]⟩,
   ⟨0x0B99, "TAMIL LETTER ", ["NGA;CA"]⟩,
   ⟨0x0B9C, "", ["TAMIL LETTER JA"]⟩,
   ⟨0x0B9E, "TAMIL LETTER ", ["NYA;TTA"]⟩,
   ⟨0x0BA3, "TAMIL LETTER ", ["NNA;TA"]⟩,
   ⟨0x0BA8, "TAMIL LETTER ", ["NA;NNNA;PA"]⟩,
   ⟨0x0BAE, "TAMIL LETTER ", ["MA;YA;RA;RRA;LA;LLA;LLLA;VA;SHA;SSA;SA;HA"]⟩,
   ⟨0x0BBE, "TAMIL VOWEL SIGN ", ["AA;I;II;U;UU"]⟩,
   ⟨0x0BC6, "TAMIL VOWEL SIGN ", ["E;EE;AI"]⟩,
   ⟨0x0BCA, "TAMIL ", ["VOWEL SIGN O;VOWEL SIGN OO;VOWEL SIGN AU;SIGN VIRAMA"]⟩,
   ⟨0x0BD0, "TAMIL ", ["OM"]⟩,
   ⟨0x0BD7, "", ["TAMIL AU LENGTH MARK"]⟩,
   ⟨0x0BE6, "TAMIL ",
    ["DIGIT ZERO;DIGIT ONE;DIGIT TWO;DIGIT THREE;DIGIT FOUR;DIGIT FIVE;DIGIT SIX;DIGIT SEVEN",
     "DIGIT EIGHT;DIGIT NINE;NUMBER TEN;NUMBER ONE HUNDRED;NUMBER ONE THOUSAND;DAY SIGN",
     "MONTH SIGN;YEAR SIGN;DEBIT SIGN;CREDIT SIGN;AS ABOVE SIGN;RUPEE SIGN;NUMBER SIGN"]⟩,
   ⟨0x0C00, "TELUGU SIGN ",
    ["COMBINING CANDRABINDU ABOVE;CANDRABINDU;ANUSVARA;VISARGA;COMBINING ANUSVARA ABOVE"]⟩,
   ⟨0x0C05, "TELUGU LETTER ", ["A;AA;I;II;U;UU;VOCALIC R;VOCALIC L"]⟩,
   ⟨0x0C0E, "TELUGU LETTER ", ["E;EE;AI"]⟩,
   ⟨0x0C12, "TELUGU LETTER ",
    ["O;OO;AU;KA;KHA;GA;GHA;NGA;CA;CHA;JA;JHA;NYA;TTA;TTHA;DDA;DDHA;NNA;TA;THA;DA;DHA;NA"]⟩,
   ⟨0x0C2A, "TELUGU LETTER ", ["PA;PHA;BA;BHA;MA;YA;RA;RRA;LA;LLA;LLLA;VA;SHA;SSA;SA;HA"]⟩,
   ⟨0x0C3C, "TELUGU SIGN ", ["NUKTA;AVAGRAHA"]⟩,
   ⟨0x0C3E, "TELUGU VOWEL SIGN ", ["AA;I;II;U;UU;VOCALIC R;VOCALIC RR"]⟩,
   ⟨0x0C46, "TELUGU VOWEL SIGN ", ["E;EE;AI"]⟩,
   ⟨0x0C4A, "TELUGU ", ["VOWEL SIGN O;VOWEL SIGN OO;VOWEL SIGN AU;SIGN VIRAMA"]⟩,
   ⟨0x0C55, "TELUGU ", ["LENGTH MARK;AI LENGTH MARK"]⟩,
   ⟨0x0C58, "TELUGU LETTER ", ["TSA;DZA;RRRA"]⟩,
   ⟨0x0C5D, "", ["TELUGU LETTER NAKAARA POLLU"]⟩,
   ⟨0x0C60, "TELUGU ",
    ["LETTER VOCALIC RR;LETTER VOCALIC LL;VOWEL SIGN VOCALIC L;VOWEL SIGN VOCALIC LL"]⟩,
   ⟨0x0C66, "TELUGU DIGIT ", ["ZERO;ONE;TWO;THREE;FOUR;FIVE;SIX;SEVEN;EIGHT;NINE"]⟩,
   ⟨0x0C77, "TELUGU ",
    ["SIGN SIDDHAM;FRACTION DIGIT ZERO FOR ODD POWERS OF FOUR",
     "FRACTION DIGIT ONE FOR ODD POWERS OF FOUR;FRACTION DIGIT TWO FOR ODD POWERS OF FOUR",
     "FRACTION DIGIT THREE FOR ODD POWERS OF FOUR;FRACTION DIGIT ONE FOR EVEN POWERS OF FOUR",
     "FRACTION DIGIT TWO FOR EVEN POWERS OF FOUR;FRACTION DIGIT THREE FOR EVEN POWERS OF FOUR",
     "SIGN TUUMU"]⟩,
   ⟨0x0C80, "KANNADA SIGN ", ["SPACING CANDRABINDU;CANDRABINDU;ANUSVARA;VISARGA;SIDDHAM"]⟩,
   ⟨0x0C85, "KANNADA LETTER ", ["A;AA;I;II;U;UU;VOCALIC R;VOCALIC L"]⟩,
   ⟨0x0C8E, "KANNADA LETTER ", ["E;EE;AI"]⟩,
   ⟨0x0C92, "KANNADA LETTER ",
    ["O;OO;AU;KA;KHA;GA;GHA;NGA;CA;CHA;JA;JHA;NYA;TTA;TTHA;DDA;DDHA;NNA;TA;THA;DA;DHA;NA"]⟩,
   ⟨0x0CAA, "KANNADA LETTER ", ["PA;PHA;BA;BHA;MA;YA;RA;RRA;LA;LLA"]⟩,
   ⟨0x0CB5, "KANNADA LETTER ", ["VA;SHA;SSA;SA;HA"]⟩,
   ⟨0x0CBC, "KANNADA SIGN ", ["NUKTA;AVAGRAHA"]⟩,
   ⟨0x0CBE, "KANNADA VOWEL SIGN ", ["AA;I;II;U;UU;VOCALIC R;VOCALIC RR"]⟩,
   ⟨0x0CC6, "KANNADA VOWEL SIGN ", ["E;EE;AI"]⟩,
   ⟨0x0CCA, "KANNADA ", ["VOWEL SIGN O;VOWEL SIGN OO;VOWEL SIGN AU;SIGN VIRAMA"]⟩,
   ⟨0x0CD5, "KANNADA ", ["LENGTH MARK;AI LENGTH MARK"]⟩,
   ⟨0x0CDD, "KANNADA LETTER ", ["NAKAARA POLLU;FA"]⟩,
   ⟨0x0CE0, "KANNADA ",
    ["LETTER VOCALIC RR;LETTER VOCALIC LL;VOWEL SIGN VOCALIC L;VOWEL SIGN VOCALIC LL"]⟩,
   ⟨0x0CE6, "KANNADA DIGIT ", ["ZERO;ONE;TWO;THREE;FOUR;FIVE;SIX;SEVEN;EIGHT;NINE"]⟩,
   ⟨0x0CF1, "KANNADA SIGN ", ["JIHVAMULIYA;UPADHMANIYA"]⟩,
   ⟨0x0D00, "MALAYALAM SIGN ", ["COMBINING ANUSVARA ABOVE;CANDRABINDU;ANUSVARA;VISARGA"]⟩,
   ⟨0x0D04, "MALAYALAM LETTER ", ["VEDIC ANUSVARA;A;AA;I;II;U;UU;VOCALIC R;VOCALIC L"]⟩,
   ⟨0x0D0E, "MALAYALAM LETTER ", ["E;EE;AI"]⟩,
   ⟨0x0D12, "MALAYALAM LETTER ",
    ["O;OO;AU;KA;KHA;GA;GHA;NGA;CA;CHA;JA;JHA;NYA;TTA;TTHA;DDA;DDHA;NNA;TA;THA;DA;DHA;NA;NNNA",
     "PA;PHA;BA;BHA;MA;YA;RA;RRA;LA;LLA;LLLA;VA;SHA;SSA;SA;HA;TTTA"]⟩,
   ⟨0x0D3B, "MALAYALAM SIGN ", ["VERTICAL BAR VIRAMA;CIRCULAR VIRAMA;AVAGRAHA"]⟩,
   ⟨0x0D3E, "MALAYALAM VOWEL SIGN ", ["AA;I;II;U;UU;VOCALIC R;VOCALIC RR"]⟩,
   ⟨0x0D46, "MALAYALAM VOWEL SIGN ", ["E;EE;AI"]⟩,
   ⟨0x0D4A, "MALAYALAM ",
    ["VOWEL SIGN O;VOWEL SIGN OO;VOWEL SIGN AU;SIGN VIRAMA;LETTER DOT REPH;SIGN PARA"]⟩,
   ⟨0x0D54, "MALAYALAM ",
    ["LETTER CHILLU M;LETTER CHILLU Y;LETTER CHILLU LLL;AU LENGTH MARK",
     "FRACTION ONE ONE-HUNDRED-AND-SIXTIETH;FRACTION ONE FORTIETH;FRACTION THREE EIGHTIETHS",
     "FRACTION ONE TWENTIETH;FRACTION ONE TENTH;FRACTION THREE TWENTIETHS;FRACTION ONE FIFTH",
     "LETTER ARCHAIC II;LETTER VOCALIC RR;LETTER VOCALIC LL;VOWEL SIGN VOCALIC L",
     "VOWEL SIGN VOCALIC LL"]⟩,
   ⟨0x0D66, "MALAYALAM ",
    ["DIGIT ZERO;DIGIT ONE;DIGIT TWO;DIGIT THREE;DIGIT FOUR;DIGIT FIVE;DIGIT SIX;DIGIT SEVEN",
     "DIGIT EIGHT;DIGIT NINE;NUMBER TEN;NUMBER ONE HUNDRED;NUMBER ONE THOUSAND",
     "FRACTION ONE QUARTER;FRACTION ONE HALF;FRACTION THREE QUARTERS;FRACTION ONE SIXTEENTH",
     "FRACTION ONE EIGHTH;FRACTION THREE SIXTEENTHS;DATE MARK;LETTER CHILLU NN;LETTER CHILLU N",
     "LETTER CHILLU RR;LETTER CHILLU L;LETTER CHILLU LL;LETTER CHILLU K"]⟩,
   ⟨0x0D81, "SINHALA SIGN ", ["CANDRABINDU;ANUSVARAYA;VISARGAYA"]⟩,
   ⟨0x0D85, "SINHALA LETTER ",
    ["AYANNA;AAYANNA;AEYANNA;AEEYANNA;IYANNA;IIYANNA;UYANNA;UUYANNA;IRUYANNA;IRUUYANNA;ILUYANNA",
     "ILUUYANNA;EYANNA;EEYANNA;AIYANNA;OYANNA;OOYANNA;AUYANNA"]⟩,
   ⟨0x0D9A, "SINHALA LETTER ",
    ["ALPAPRAANA KAYANNA;MAHAAPRAANA KAYANNA;ALPAPRAANA GAYANNA;MAHAAPRAANA GAYANNA",
     "KANTAJA NAASIKYAYA;SANYAKA GAYANNA;ALPAPRAANA CAYANNA;MAHAAPRAANA CAYANNA",
     "ALPAPRAANA JAYANNA;MAHAAPRAANA JAYANNA;TAALUJA NAASIKYAYA;TAALUJA SANYOOGA NAAKSIKYAYA",
     "SANYAKA JAYANNA;ALPAPRAANA TTAYANNA;MAHAAPRAANA TTAYANNA;ALPAPRAANA DDAYANNA",
     "MAHAAPRAANA DDAYANNA;MUURDHAJA NAYANNA;SANYAKA DDAYANNA;ALPAPRAANA TAYANNA",
     "MAHAAPRAANA TAYANNA;ALPAPRAANA DAYANNA;MAHAAPRAANA DAYANNA;DANTAJA NAYANNA"]⟩,
   ⟨0x0DB3, "SINHALA LETTER ",
    ["SANYAKA DAYANNA;ALPAPRAANA PAYANNA;MAHAAPRAANA PAYANNA;ALPAPRAANA BAYANNA",
     "MAHAAPRAANA BAYANNA;MAYANNA;AMBA BAYANNA;YAYANNA;RAYANNA"]⟩,
   ⟨0x0DBD, "", ["SINHALA LETTER DANTAJA LAYANNA"]⟩,
   ⟨0x0DC0, "SINHALA LETTER ",
    ["VAYANNA;TAALUJA SAYANNA;MUURDHAJA SAYANNA;DANTAJA SAYANNA;HAYANNA;MUURDHAJA LAYANNA",
     "FAYANNA"]⟩,
   ⟨0x0DCA, "", ["SINHALA SIGN AL-LAKUNA"]⟩,
   ⟨0x0DCF, "SINHALA VOWEL SIGN ",
    ["AELA-PILLA;KETTI AEDA-PILLA;DIGA AEDA-PILLA;KETTI IS-PILLA;DIGA IS-PILLA;KETTI PAA-PILLA"]⟩,
   ⟨0x0DD6, "", ["SINHALA VOWEL SIGN DIGA PAA-PILLA"]⟩,
   ⟨0x0DD8, "SINHALA VOWEL SIGN ",
    ["GAETTA-PILLA;KOMBUVA;DIGA KOMBUVA;KOMBU DEKA;KOMBUVA HAA AELA-PILLA",
     "KOMBUVA HAA DIGA AELA-PILLA;KOMBUVA HAA GAYANUKITTA;GAYANUKITTA"]⟩,
   ⟨0x0DE6, "SINHALA LITH DIGIT ", ["ZERO;ONE;TWO;THREE;FOUR;FIVE;SIX;SEVEN;EIGHT;NINE"]⟩,
   ⟨0x0DF2, "SINHALA ",
    ["VOWEL SIGN DIGA GAETTA-PILLA;VOWEL SIGN DIGA GAYANUKITTA;PUNCTUATION KUNDDALIYA"]⟩,
   ⟨0x0E01, "THAI CHARACTER ",
    ["KO KAI;KHO KHAI;KHO KHUAT;KHO KHWAI;KHO KHON;KHO RAKHANG;NGO NGU;CHO CHAN;CHO CHING",
     "CHO CHANG;SO SO;CHO CHOE;YO YING;DO CHADA;TO PATAK;THO THAN;THO NANGMONTHO;THO PHUTHAO",
     "NO NEN;DO DEK;TO TAO;THO THUNG;THO THAHAN;THO THONG;NO NU;BO BAIMAI;PO PLA;PHO PHUNG",
     "FO FA;PHO PHAN;FO FAN;PHO SAMPHAO;MO MA;YO YAK;RO RUA;RU;LO LING;LU;WO WAEN;SO SALA",
     "SO RUSI;SO SUA;HO HIP;LO CHULA;O ANG;HO NOKHUK;PAIYANNOI;SARA A;MAI HAN-AKAT;SARA AA",
     "SARA AM;SARA I;SARA II;SARA UE;SARA UEE;SARA U;SARA UU;PHINTHU"]⟩,
   ⟨0x0E3F, "", ["THAI CURRENCY SYMBOL BAHT"]⟩,
   ⟨0x0E40, "THAI CHARACTER ",
    ["SARA E;SARA AE;SARA O;SARA AI MAIMUAN;SARA AI MAIMALAI;LAKKHANGYAO;MAIYAMOK;MAITAIKHU",
     "MAI EK;MAI THO;MAI TRI;MAI CHATTAWA;THANTHAKHAT;NIKHAHIT;YAMAKKAN;FONGMAN"]⟩,
   ⟨0x0E50, "THAI ",
    ["DIGIT ZERO;DIGIT ONE;DIGIT TWO;DIGIT THREE;DIGIT FOUR;DIGIT FIVE;DIGIT SIX;DIGIT SEVEN",
     "DIGIT EIGHT;DIGIT NINE;CHARACTER ANGKHANKHU;CHARACTER KHOMUT"]⟩,
   ⟨0x0E81, "LAO LETTER ", ["KO;KHO SUNG"]⟩,
   ⟨0x0E84, "", ["LAO LETTER KHO TAM"]⟩,
   ⟨0x0E86, "LAO LETTER ", ["PALI GHA;NGO;CO;PALI CHA;SO TAM"]⟩,
   ⟨0x0E8C, "LAO LETTER ",
    ["PALI JHA;NYO;PALI NYA;PALI TTA;PALI TTHA;PALI DDA;PALI DDHA;PALI NNA;DO;TO;THO SUNG",
     "THO TAM;PALI DHA;NO;BO;PO;PHO SUNG;FO TAM;PHO TAM;FO SUNG;PALI BHA;MO;YO;LO LING"]⟩,
   ⟨0x0EA5, "", ["LAO LETTER LO LOOT"]⟩,
   ⟨0x0EA7, "LAO ",
    ["LETTER WO;LETTER SANSKRIT SHA;LETTER SANSKRIT SSA;LETTER SO SUNG;LETTER HO SUNG",
     "LETTER PALI LLA;LETTER O;LETTER HO TAM;ELLIPSIS;VOWEL SIGN A;VOWEL SIGN MAI KAN",
     "VOWEL SIGN AA;VOWEL SIGN AM;VOWEL SIGN I;VOWEL SIGN II;VOWEL SIGN Y;VOWEL SIGN YY",
     "VOWEL SIGN U;VOWEL SIGN UU;SIGN PALI VIRAMA;VOWEL SIGN MAI KON;SEMIVOWEL SIGN LO",
     "SEMIVOWEL SIGN NYO"]⟩,
   ⟨0x0EC0, "LAO VOWEL SIGN ", ["E;EI;O;AY;AI"]⟩,
   ⟨0x0EC6, "", ["LAO KO LA"]⟩,
   ⟨0x0EC8, "LAO ",
    ["TONE MAI EK;TONE MAI THO;TONE MAI TI;TONE MAI CATAWA;CANCELLATION MARK;NIGGAHITA"]⟩,
   ⟨0x0ED0, "LAO DIGIT ", ["ZERO;ONE;TWO;THREE;FOUR;FIVE;SIX;SEVEN;EIGHT;NINE"]⟩,
   ⟨0x0EDC, "LAO ", ["HO NO;HO MO;LETTER KHMU GO;LETTER KHMU NYO"]⟩,
   ⟨0x0F00, "TIBETAN ",
    ["SYLLABLE OM;MARK GTER YIG MGO TRUNCATED A;MARK GTER YIG MGO -UM RNAM BCAD MA",
     "MARK GTER YIG MGO -UM GTER TSHEG MA;MARK INITIAL YIG MGO MDUN MA",
     "MARK CLOSING YIG MGO SGAB MA;MARK CARET YIG MGO PHUR SHAD MA;MARK YIG MGO TSHEG SHAD MA",
     "MARK SBRUL SHAD;MARK BSKUR YIG MGO;MARK BKA- SHOG YIG MGO;MARK INTERSYLLABIC TSHEG",
     "MARK DELIMITER TSHEG BSTAR;MARK SHAD;MARK NYIS SHAD;MARK TSHEG SHAD;MARK NYIS TSHEG SHAD",
     "MARK RIN CHEN SPUNGS SHAD;MARK RGYA GRAM SHAD;MARK CARET -DZUD RTAGS ME LONG CAN",
     "MARK GTER TSHEG;LOGOTYPE SIGN CHAD RTAGS;LOGOTYPE SIGN LHAG RTAGS",
     "ASTROLOGICAL SIGN SGRA GCAN -CHAR RTAGS;ASTROLOGICAL SIGN -KHYUD PA",
     "ASTROLOGICAL SIGN SDONG TSHUGS;SIGN RDEL DKAR GCIG;SIGN RDEL DKAR GNYIS",
     "SIGN RDEL DKAR GSUM;SIGN RDEL NAG GCIG;SIGN RDEL NAG GNYIS;SIGN RDEL DKAR RDEL NAG",
     "DIGIT ZERO;DIGIT ONE;DIGIT TWO;DIGIT THREE;DIGIT FOUR;DIGIT FIVE;DIGIT SIX;DIGIT SEVEN",
     "DIGIT EIGHT;DIGIT NINE;DIGIT HALF ONE;DIGIT HALF TWO;DIGIT HALF THREE;DIGIT HALF FOUR",
     "DIGIT HALF FIVE;DIGIT HALF SIX;DIGIT HALF SEVEN;DIGIT HALF EIGHT;DIGIT HALF NINE",
     "DIGIT HALF ZERO;MARK BSDUS RTAGS;MARK NGAS BZUNG NYI ZLA",
     "MARK CARET -DZUD RTAGS BZHI MIG CAN;MARK NGAS BZUNG SGOR RTAGS;MARK CHE MGO",
     "MARK TSA -PHRU;MARK GUG RTAGS GYON;MARK GUG RTAGS GYAS;MARK ANG KHANG GYON",
     "MARK ANG KHANG GYAS;SIGN YAR TSHES;SIGN MAR TSHES;LETTER KA;LETTER KHA;LETTER GA",
     "LETTER GHA;LETTER NGA;LETTER CA;LETTER CHA;LETTER JA"]⟩,
   ⟨0x0F49, "TIBETAN LETTER ",
    ["NYA;TTA;TTHA;DDA;DDHA;NNA;TA;THA;DA;DHA;NA;PA;PHA;BA;BHA;MA;TSA;TSHA;DZA;DZHA;WA;ZHA;ZA",
     "-A;YA;RA;LA;SHA;SSA;SA;HA;A;KSSA;FIXED-FORM RA;KKA;RRA"]⟩,
   ⟨0x0F71, "TIBETAN VOWEL SIGN ",
    ["AA;I;II;U;UU;VOCALIC R;VOCALIC RR;VOCALIC L;VOCALIC LL;E;EE;O;OO"]⟩,
   ⟨0x0F7E, "TIBETAN ",
    ["SIGN RJES SU NGA RO;SIGN RNAM BCAD;VOWEL SIGN REVERSED I;VOWEL SIGN REVERSED II",
     "SIGN NYI ZLA NAA DA;SIGN SNA LDAN;MARK HALANTA;MARK PALUTA;SIGN LCI RTAGS;SIGN YANG RTAGS",
     "SIGN LCE TSA CAN;SIGN MCHU CAN;SIGN GRU CAN RGYINGS;SIGN GRU MED RGYINGS",
     "SIGN INVERTED MCHU CAN;SUBJOINED SIGN LCE TSA CAN;SUBJOINED SIGN MCHU CAN",
     "SUBJOINED SIGN INVERTED MCHU CAN"]⟩,
   ⟨0x0F90, "TIBETAN SUBJOINED LETTER ", ["KA;KHA;GA;GHA;NGA;CA;CHA;JA"]⟩,
   ⟨0x0F99, "TIBETAN SUBJOINED LETTER ",
    ["NYA;TTA;TTHA;DDA;DDHA;NNA;TA;THA;DA;DHA;NA;PA;PHA;BA;BHA;MA;TSA;TSHA;DZA;DZHA;WA;ZHA;ZA",
     "-A;YA;RA;LA;SHA;SSA;SA;HA;A;KSSA;FIXED-FORM WA;FIXED-FORM YA;FIXED-FORM RA"]⟩,
   ⟨0x0FBE, "TIBETAN ",
    ["KU RU KHA;KU RU KHA BZHI MIG CAN;CANTILLATION SIGN HEAVY BEAT",
     "CANTILLATION SIGN LIGHT BEAT;CANTILLATION SIGN CANG TE-U;CANTILLATION SIGN SBUB -CHAL",
     "SYMBOL DRIL BU;SYMBOL RDO RJE;SYMBOL PADMA GDAN;SYMBOL RDO RJE RGYA GRAM;SYMBOL PHUR PA",
     "SYMBOL NOR BU;SYMBOL NOR BU NYIS -KHYIL;SYMBOL NOR BU GSUM -KHYIL",
     "SYMBOL NOR BU BZHI -KHYIL"]⟩,
   ⟨0x0FCE, "",
    ["TIBETAN SIGN RDEL NAG RDEL DKAR;TIBETAN SIGN RDEL NAG GSUM",
     "TIBETAN MARK BSKA- SHOG GI MGO RGYAN;TIBETAN MARK MNYAM YIG GI MGO RGYAN",
     "TIBETAN MARK NYIS TSHEG;TIBETAN MARK INITIAL BRDA RNYING YIG MGO MDUN MA",
     "TIBETAN MARK CLOSING BRDA RNYING YIG MGO SGAB MA;RIGHT-FACING SVASTI SIGN",
     "LEFT-FACING SVASTI SIGN;RIGHT-FACING SVASTI SIGN WITH DOTS",
     "LEFT-FACING SVASTI SIGN WITH DOTS;TIBETAN MARK LEADING MCHAN RTAGS",
     "TIBETAN MARK TRAILING MCHAN RTAGS"]⟩,
   ⟨0x1000, "MYANMAR LETTER ",
    ["KA;KHA;GA;GHA;NGA;CA;CHA;JA;JHA;NYA;NNYA;TTA;TTHA;DDA;DDHA;NNA;TA;THA;DA;DHA;NA;PA;PHA;BA",
     "BHA;MA;YA;RA;LA;WA;SA;HA;LLA;A;SHAN A;I;II;U;UU;E;MON E;O;AU"]⟩,
   ⟨0x102B, "MYANMAR VOWEL SIGN ", ["TALL AA;AA;I;II;U;UU;E;AI;MON II;MON O;E ABOVE"]⟩,
   ⟨0x1036, "MYANMAR ",
    ["SIGN ANUSVARA;SIGN DOT BELOW;SIGN VISARGA;SIGN VIRAMA;SIGN ASAT;CONSONANT SIGN MEDIAL YA",
     "CONSONANT SIGN MEDIAL RA;CONSONANT SIGN MEDIAL WA;CONSONANT SIGN MEDIAL HA",
     "LETTER GREAT SA;DIGIT ZERO;DIGIT ONE;DIGIT TWO;DIGIT THREE;DIGIT FOUR;DIGIT FIVE",
     "DIGIT SIX;DIGIT SEVEN;DIGIT EIGHT;DIGIT NINE;SIGN LITTLE SECTION;SIGN SECTION",
     "SYMBOL LOCATIVE;SYMBOL COMPLETED;SYMBOL AFOREMENTIONED;SYMBOL GENITIVE;LETTER SHA",
     "LETTER SSA;LETTER VOCALIC R;LETTER VOCALIC RR;LETTER VOCALIC L;LETTER VOCALIC LL",
     "VOWEL SIGN VOCALIC R;VOWEL SIGN VOCALIC RR;VOWEL SIGN VOCALIC L;VOWEL SIGN VOCALIC LL",
     "LETTER MON NGA;LETTER MON JHA;LETTER MON BBA;LETTER MON BBE;CONSONANT SIGN MON MEDIAL NA",
     "CONSONANT SIGN MON MEDIAL MA;CONSONANT SIGN MON MEDIAL LA;LETTER SGAW KAREN SHA",
     "VOWEL SIGN SGAW KAREN EU;TONE MARK SGAW KAREN HATHI;TONE MARK SGAW KAREN KE PHO",
     "LETTER WESTERN PWO KAREN THA;LETTER WESTERN PWO KAREN PWA;VOWEL SIGN WESTERN PWO KAREN EU",
     "VOWEL SIGN WESTERN PWO KAREN UE;SIGN WESTERN PWO KAREN TONE-1",
     "SIGN WESTERN PWO KAREN TONE-2;SIGN WESTERN PWO KAREN TONE-3;SIGN WESTERN PWO KAREN TONE-4",
     "SIGN WESTERN PWO KAREN TONE-5;LETTER EASTERN PWO KAREN NNA;LETTER EASTERN PWO KAREN YWA",
     "LETTER EASTERN PWO KAREN GHWA;VOWEL SIGN GEBA KAREN I;VOWEL SIGN KAYAH OE",
     "VOWEL SIGN KAYAH U;VOWEL SIGN KAYAH EE"]⟩,
   ⟨0x1075, "MYANMAR LETTER SHAN ", ["KA;KHA;GA;CA;ZA;NYA;DA;NA;PHA;FA;BA;THA;HA"]⟩,
   ⟨0x1082, "MYANMAR ",
    ["CONSONANT SIGN SHAN MEDIAL WA;VOWEL SIGN SHAN AA;VOWEL SIGN SHAN E",
     "VOWEL SIGN SHAN E ABOVE;VOWEL SIGN SHAN FINAL Y;SIGN SHAN TONE-2;SIGN SHAN TONE-3",
     "SIGN SHAN TONE-5;SIGN SHAN TONE-6;SIGN SHAN COUNCIL TONE-2;SIGN SHAN COUNCIL TONE-3",
     "SIGN SHAN COUNCIL EMPHATIC TONE;LETTER RUMAI PALAUNG FA;SIGN RUMAI PALAUNG TONE-5",
     "SHAN DIGIT ZERO;SHAN DIGIT ONE;SHAN DIGIT TWO;SHAN DIGIT THREE;SHAN DIGIT FOUR",
     "SHAN DIGIT FIVE;SHAN DIGIT SIX;SHAN DIGIT SEVEN;SHAN DIGIT EIGHT;SHAN DIGIT NINE",
     "SIGN KHAMTI TONE-1;SIGN KHAMTI TONE-3;VOWEL SIGN AITON A;VOWEL SIGN AITON AI",
     "SYMBOL SHAN ONE;SYMBOL SHAN EXCLAMATION"]⟩]

end YangSchema.Unicode.NameBlock
