import YangSchema.Unicode.Name.Block

/-!
# Names of characters 11100 to 11FFF

The scripts from Chakma to the Tamil fractions.
-/
namespace YangSchema.Unicode.NameBlock

def chakmaToTamil : List NameBlock :=
  [⟨0x11100, "CHAKMA SIGN ", ["CANDRABINDU;ANUSVARA;VISARGA"]⟩,
   ⟨0x11103, "CHAKMA LETTER ",
    ["AA;I;U;E;KAA;KHAA;GAA;GHAA;NGAA;CAA;CHAA;JAA;JHAA;NYAA;TTAA;TTHAA;DDAA;DDHAA;NNAA;TAA",
     "THAA;DAA;DHAA;NAA;PAA;PHAA;BAA;BHAA;MAA;YYAA;YAA;RAA;LAA;WAA;SAA;HAA"]⟩,
   ⟨0x11127, "CHAKMA VOWEL SIGN ", ["A;I;II;U;UU;E;AI;O;AU;OI"]⟩,
   ⟨0x11131, "CHAKMA ", ["O MARK;AU MARK;VIRAMA;MAAYYAA"]⟩,
   ⟨0x11136, "CHAKMA ",
    ["DIGIT ZERO;DIGIT ONE;DIGIT TWO;DIGIT THREE;DIGIT FOUR;DIGIT FIVE;DIGIT SIX;DIGIT SEVEN",
     "DIGIT EIGHT;DIGIT NINE;SECTION MARK;DANDA;DOUBLE DANDA;QUESTION MARK;LETTER LHAA",
     "VOWEL SIGN AA;VOWEL SIGN EI;LETTER VAA"]⟩,
   ⟨0x11150, "MAHAJANI LETTER ",
    ["A;I;U;E;O;KA;KHA;GA;GHA;CA;CHA;JA;JHA;NYA;TTA;TTHA;DDA;DDHA;NNA;TA;THA;DA;DHA;NA;PA;PHA",
     "BA;BHA;MA;RA;LA;VA;SA;HA;RRA"]⟩,
   ⟨0x11173, "MAHAJANI ", ["SIGN NUKTA;ABBREVIATION SIGN;SECTION MARK;LIGATURE SHRI"]⟩,
   ⟨0x11180, "SHARADA SIGN ", ["CANDRABINDU;ANUSVARA;VISARGA"]⟩,
   ⟨0x11183, "SHARADA LETTER ",
    ["A;AA;I;II;U;UU;VOCALIC R;VOCALIC RR;VOCALIC L;VOCALIC LL;E;AI;O;AU;KA;KHA;GA;GHA;NGA;CA",
     "CHA;JA;JHA;NYA;TTA;TTHA;DDA;DDHA;NNA;TA;THA;DA;DHA;NA;PA;PHA;BA;BHA;MA;YA;RA;LA;LLA;VA",
     "SHA;SSA;SA;HA"]⟩,
   ⟨0x111B3, "SHARADA VOWEL SIGN ",
    ["AA;I;II;U;UU;VOCALIC R;VOCALIC RR;VOCALIC L;VOCALIC LL;E;AI;O;AU"]⟩,
   ⟨0x111C0, "SHARADA ",
    ["SIGN VIRAMA;SIGN AVAGRAHA;SIGN JIHVAMULIYA;SIGN UPADHMANIYA;OM;DANDA;DOUBLE DANDA",
     "ABBREVIATION SIGN;SEPARATOR;SANDHI MARK;SIGN NUKTA;VOWEL MODIFIER MARK",
     "EXTRA SHORT VOWEL MARK;SUTRA MARK;VOWEL SIGN PRISHTHAMATRA E;SIGN INVERTED CANDRABINDU",
     "DIGIT ZERO;DIGIT ONE;DIGIT TWO;DIGIT THREE;DIGIT FOUR;DIGIT FIVE;DIGIT SIX;DIGIT SEVEN",
     "DIGIT EIGHT;DIGIT NINE;EKAM;SIGN SIDDHAM;HEADSTROKE;CONTINUATION SIGN;SECTION MARK-1",
     "SECTION MARK-2"]⟩,
   ⟨0x111E1, "SINHALA ARCHAIC DIGIT ", ["ONE;TWO;THREE;FOUR;FIVE;SIX;SEVEN;EIGHT;NINE"]⟩,
   ⟨0x111EA, "SINHALA ARCHAIC NUMBER ",
    ["TEN;TWENTY;THIRTY;FORTY;FIFTY;SIXTY;SEVENTY;EIGHTY;NINETY;ONE HUNDRED;ONE THOUSAND"]⟩,
   ⟨0x11200, "KHOJKI LETTER ", ["A;AA;I;U;E;AI;O;AU;KA;KHA;GA;GGA;GHA;NGA;CA;CHA;JA;JJA"]⟩,
   ⟨0x11213, "KHOJKI LETTER ",
    ["NYA;TTA;TTHA;DDA;DDHA;NNA;TA;THA;DA;DDDA;DHA;NA;PA;PHA;BA;BBA;BHA;MA;YA;RA;LA;VA;SA;HA",
     "LLA"]⟩,
   ⟨0x1122C, "KHOJKI VOWEL SIGN ", ["AA;I;II;U;E;AI;O;AU"]⟩,
   ⟨0x11234, "KHOJKI ",
    ["SIGN ANUSVARA;SIGN VIRAMA;SIGN NUKTA;SIGN SHADDA;DANDA;DOUBLE DANDA;WORD SEPARATOR",
     "SECTION MARK;DOUBLE SECTION MARK;ABBREVIATION SIGN;SIGN SUKUN"]⟩,
   ⟨0x11280, "MULTANI LETTER ", ["A;I;U;E;KA;KHA;GA"]⟩,
   ⟨0x11288, "", ["MULTANI LETTER GHA"]⟩,
   ⟨0x1128A, "MULTANI LETTER ", ["CA;CHA;JA;JJA"]⟩,
   ⟨0x1128F, "MULTANI LETTER ", ["NYA;TTA;TTHA;DDA;DDDA;DDHA;NNA;TA;THA;DA;DHA;NA;PA;PHA;BA"]⟩,
   ⟨0x1129F, "MULTANI ",
    ["LETTER BHA;LETTER MA;LETTER YA;LETTER RA;LETTER LA;LETTER VA;LETTER SA;LETTER HA",
     "LETTER RRA;LETTER RHA;SECTION MARK"]⟩,
   ⟨0x112B0, "KHUDAWADI LETTER ",
    ["A;AA;I;II;U;UU;E;AI;O;AU;KA;KHA;GA;GGA;GHA;NGA;CA;CHA;JA;JJA;JHA;NYA;TTA;TTHA;DDA;DDDA",
     "RRA;DDHA;NNA;TA;THA;DA;DHA;NA;PA;PHA;BA;BBA;BHA;MA;YA;RA;LA;VA;SHA;SA;HA"]⟩,
   ⟨0x112DF, "KHUDAWADI ",
    ["SIGN ANUSVARA;VOWEL SIGN AA;VOWEL SIGN I;VOWEL SIGN II;VOWEL SIGN U;VOWEL SIGN UU",
     "VOWEL SIGN E;VOWEL SIGN AI;VOWEL SIGN O;VOWEL SIGN AU;SIGN NUKTA;SIGN VIRAMA"]⟩,
   ⟨0x112F0, "KHUDAWADI DIGIT ", ["ZERO;ONE;TWO;THREE;FOUR;FIVE;SIX;SEVEN;EIGHT;NINE"]⟩,
   ⟨0x11300, "GRANTHA SIGN ", ["COMBINING ANUSVARA ABOVE;CANDRABINDU;ANUSVARA;VISARGA"]⟩,
   ⟨0x11305, "GRANTHA LETTER ", ["A;AA;I;II;U;UU;VOCALIC R;VOCALIC L"]⟩,
   ⟨0x1130F, "GRANTHA LETTER ", ["EE;AI"]⟩,
   ⟨0x11313, "GRANTHA LETTER ",
    ["OO;AU;KA;KHA;GA;GHA;NGA;CA;CHA;JA;JHA;NYA;TTA;TTHA;DDA;DDHA;NNA;TA;THA;DA;DHA;NA"]⟩,
   ⟨0x1132A, "GRANTHA LETTER ", ["PA;PHA;BA;BHA;MA;YA;RA"]⟩,
   ⟨0x11332, "GRANTHA LETTER ", ["LA;LLA"]⟩,
   ⟨0x11335, "GRANTHA LETTER ", ["VA;SHA;SSA;SA;HA"]⟩,
   ⟨0x1133B, "", ["COMBINING BINDU BELOW;GRANTHA SIGN NUKTA;GRANTHA SIGN AVAGRAHA"]⟩,
   ⟨0x1133E, "GRANTHA VOWEL SIGN ", ["AA;I;II;U;UU;VOCALIC R;VOCALIC RR"]⟩,
   ⟨0x11347, "GRANTHA VOWEL SIGN ", ["EE;AI"]⟩,
   ⟨0x1134B, "GRANTHA ", ["VOWEL SIGN OO;VOWEL SIGN AU;SIGN VIRAMA"]⟩,
   ⟨0x11350, "", ["GRANTHA OM"]⟩,
   ⟨0x11357, "", ["GRANTHA AU LENGTH MARK"]⟩,
   ⟨0x1135D, "GRANTHA ",
    ["SIGN PLUTA;LETTER VEDIC ANUSVARA;LETTER VEDIC DOUBLE ANUSVARA;LETTER VOCALIC RR",
     "LETTER VOCALIC LL;VOWEL SIGN VOCALIC L;VOWEL SIGN VOCALIC LL"]⟩,
   ⟨0x11366, "COMBINING GRANTHA DIGIT ", ["ZERO;ONE;TWO;THREE;FOUR;FIVE;SIX"]⟩,
   ⟨0x11370, "COMBINING GRANTHA LETTER ", ["A;KA;NA;VI;PA"]⟩,
   ⟨0x11400, "NEWA LETTER ",
    ["A;AA;I;II;U;UU;VOCALIC R;VOCALIC RR;VOCALIC L;VOCALIC LL;E;AI;O;AU;KA;KHA;GA;GHA;NGA;NGHA",
     "CA;CHA;JA;JHA;NYA;NYHA;TTA;TTHA;DDA;DDHA;NNA;TA;THA;DA;DHA;NA;NHA;PA;PHA;BA;BHA;MA;MHA;YA",
     "RA;RHA;LA;LHA;WA;SHA;SSA;SA;HA"]⟩,
   ⟨0x11435, "NEWA VOWEL SIGN ",
    ["AA;I;II;U;UU;VOCALIC R;VOCALIC RR;VOCALIC L;VOCALIC LL;E;AI;O;AU"]⟩,
   ⟨0x11442, "NEWA ",
    ["SIGN VIRAMA;SIGN CANDRABINDU;SIGN ANUSVARA;SIGN VISARGA;SIGN NUKTA;SIGN AVAGRAHA",
     "SIGN FINAL ANUSVARA;OM;SIDDHI;DANDA;DOUBLE DANDA;COMMA;GAP FILLER;ABBREVIATION SIGN",
     "DIGIT ZERO;DIGIT ONE;DIGIT TWO;DIGIT THREE;DIGIT FOUR;DIGIT FIVE;DIGIT SIX;DIGIT SEVEN",
     "DIGIT EIGHT;DIGIT NINE;DOUBLE COMMA;PLACEHOLDER MARK"]⟩,
   ⟨0x1145D, "NEWA ",
    ["INSERTION SIGN;SANDHI MARK;LETTER VEDIC ANUSVARA;SIGN JIHVAMULIYA;SIGN UPADHMANIYA"]⟩,
   ⟨0x11480, "", ["TIRHUTA ANJI"]⟩,
   ⟨0x11481, "TIRHUTA LETTER ",
    ["A;AA;I;II;U;UU;VOCALIC R;VOCALIC RR;VOCALIC L;VOCALIC LL;E;AI;O;AU;KA;KHA;GA;GHA;NGA;CA",
     "CHA;JA;JHA;NYA;TTA;TTHA;DDA;DDHA;NNA;TA;THA;DA;DHA;NA;PA;PHA;BA;BHA;MA;YA;RA;LA;VA;SHA",
     "SSA;SA;HA"]⟩,
   ⟨0x114B0, "TIRHUTA VOWEL SIGN ",
    ["AA;I;II;U;UU;VOCALIC R;VOCALIC RR;VOCALIC L;VOCALIC LL;E;SHORT E;AI;O;SHORT O;AU"]⟩,
   ⟨0x114BF, "TIRHUTA ",
    ["SIGN CANDRABINDU;SIGN ANUSVARA;SIGN VISARGA;SIGN VIRAMA;SIGN NUKTA;SIGN AVAGRAHA;GVANG",
     "ABBREVIATION SIGN;OM"]⟩,
   ⟨0x114D0, "TIRHUTA DIGIT ", ["ZERO;ONE;TWO;THREE;FOUR;FIVE;SIX;SEVEN;EIGHT;NINE"]⟩,
   ⟨0x11580, "SIDDHAM LETTER ",
    ["A;AA;I;II;U;UU;VOCALIC R;VOCALIC RR;VOCALIC L;VOCALIC LL;E;AI;O;AU;KA;KHA;GA;GHA;NGA;CA",
     "CHA;JA;JHA;NYA;TTA;TTHA;DDA;DDHA;NNA;TA;THA;DA;DHA;NA;PA;PHA;BA;BHA;MA;YA;RA;LA;VA;SHA",
     "SSA;SA;HA"]⟩,
   ⟨0x115AF, "SIDDHAM VOWEL SIGN ", ["AA;I;II;U;UU;VOCALIC R;VOCALIC RR"]⟩,
   ⟨0x115B8, "SIDDHAM ",
    ["VOWEL SIGN E;VOWEL SIGN AI;VOWEL SIGN O;VOWEL SIGN AU;SIGN CANDRABINDU;SIGN ANUSVARA",
     "SIGN VISARGA;SIGN VIRAMA;SIGN NUKTA;SIGN SIDDHAM;DANDA;DOUBLE DANDA;SEPARATOR DOT",
     "SEPARATOR BAR;REPETITION MARK-1;REPETITION MARK-2;REPETITION MARK-3;END OF TEXT MARK"]⟩,
   ⟨0x115CA, "SIDDHAM SECTION MARK ",
    ["WITH TRIDENT AND U-SHAPED ORNAMENTS;WITH TRIDENT AND DOTTED CRESCENTS",
     "WITH RAYS AND DOTTED CRESCENTS;WITH RAYS AND DOTTED DOUBLE CRESCENTS",
     "WITH RAYS AND DOTTED TRIPLE CRESCENTS;DOUBLE RING;DOUBLE RING WITH RAYS",
     "WITH DOUBLE CRESCENTS;WITH TRIPLE CRESCENTS;WITH QUADRUPLE CRESCENTS",
     "WITH SEPTUPLE CRESCENTS;WITH CIRCLES AND RAYS;WITH CIRCLES AND TWO ENCLOSURES",
     "WITH CIRCLES AND FOUR ENCLOSURES"]⟩,
   ⟨0x115D8, "SIDDHAM ",
    ["LETTER THREE-CIRCLE ALTERNATE I;LETTER TWO-CIRCLE ALTERNATE I",
     "LETTER TWO-CIRCLE ALTERNATE II;LETTER ALTERNATE U;VOWEL SIGN ALTERNATE U",
     "VOWEL SIGN ALTERNATE UU"]⟩,
   ⟨0x11600, "MODI LETTER ",
    ["A;AA;I;II;U;UU;VOCALIC R;VOCALIC RR;VOCALIC L;VOCALIC LL;E;AI;O;AU;KA;KHA;GA;GHA;NGA;CA",
     "CHA;JA;JHA;NYA;TTA;TTHA;DDA;DDHA;NNA;TA;THA;DA;DHA;NA;PA;PHA;BA;BHA;MA;YA;RA;LA;VA;SHA",
     "SSA;SA;HA;LLA"]⟩,
   ⟨0x11630, "MODI VOWEL SIGN ",
    ["AA;I;II;U;UU;VOCALIC R;VOCALIC RR;VOCALIC L;VOCALIC LL;E;AI;O;AU"]⟩,
   ⟨0x1163D, "MODI ",
    ["SIGN ANUSVARA;SIGN VISARGA;SIGN VIRAMA;SIGN ARDHACANDRA;DANDA;DOUBLE DANDA",
     "ABBREVIATION SIGN;SIGN HUVA"]⟩,
   ⟨0x11650, "MODI DIGIT ", ["ZERO;ONE;TWO;THREE;FOUR;FIVE;SIX;SEVEN;EIGHT;NINE"]⟩,
   ⟨0x11660, "MONGOLIAN ",
    ["BIRGA WITH ORNAMENT;ROTATED BIRGA;DOUBLE BIRGA WITH ORNAMENT;TRIPLE BIRGA WITH ORNAMENT",
     "BIRGA WITH DOUBLE ORNAMENT;ROTATED BIRGA WITH ORNAMENT;ROTATED BIRGA WITH DOUBLE ORNAMENT",
     "INVERTED BIRGA;INVERTED BIRGA WITH DOUBLE ORNAMENT;SWIRL BIRGA;SWIRL BIRGA WITH ORNAMENT",
     "SWIRL BIRGA WITH DOUBLE ORNAMENT;TURNED SWIRL BIRGA WITH DOUBLE ORNAMENT"]⟩,
   ⟨0x11680, "TAKRI LETTER ",
    ["A;AA;I;II;U;UU;E;AI;O;AU;KA;KHA;GA;GHA;NGA;CA;CHA;JA;JHA;NYA;TTA;TTHA;DDA;DDHA;NNA;TA;THA",
     "DA;DHA;NA;PA;PHA;BA;BHA;MA;YA;RA;LA;VA;SHA;SA;HA;RRA"]⟩,
   ⟨0x116AB, "TAKRI ",
    ["SIGN ANUSVARA;SIGN VISARGA;VOWEL SIGN AA;VOWEL SIGN I;VOWEL SIGN II;VOWEL SIGN U",
     "VOWEL SIGN UU;VOWEL SIGN E;VOWEL SIGN AI;VOWEL SIGN O;VOWEL SIGN AU;SIGN VIRAMA",
     "SIGN NUKTA;LETTER ARCHAIC KHA;ABBREVIATION SIGN"]⟩,
   ⟨0x116C0, "TAKRI DIGIT ", ["ZERO;ONE;TWO;THREE;FOUR;FIVE;SIX;SEVEN;EIGHT;NINE"]⟩,
   ⟨0x11700, "AHOM LETTER ",
    ["KA;KHA;NGA;NA;TA;ALTERNATE TA;PA;PHA;BA;MA;JA;CHA;THA;RA;LA;SA;NYA;HA;A;DA;DHA;GA",
     "ALTERNATE GA;GHA;BHA;JHA;ALTERNATE BA"]⟩,
   ⟨0x1171D, "AHOM CONSONANT SIGN MEDIAL ", ["LA;RA;LIGATING RA"]⟩,
   ⟨0x11720, "AHOM VOWEL SIGN ", ["A;AA;I;II;U;UU;E;AW;O;AI;AM"]⟩,
   ⟨0x1172B, "", ["AHOM SIGN KILLER"]⟩,
   ⟨0x11730, "AHOM ",
    ["DIGIT ZERO;DIGIT ONE;DIGIT TWO;DIGIT THREE;DIGIT FOUR;DIGIT FIVE;DIGIT SIX;DIGIT SEVEN",
     "DIGIT EIGHT;DIGIT NINE;NUMBER TEN;NUMBER TWENTY;SIGN SMALL SECTION;SIGN SECTION",
     "SIGN RULAI;SYMBOL VI;LETTER CA;LETTER TTA;LETTER TTHA;LETTER DDA;LETTER DDHA;LETTER NNA",
     "LETTER LLA"]⟩,
   ⟨0x11800, "DOGRA LETTER ",
    ["A;AA;I;II;U;UU;E;AI;O;AU;KA;KHA;GA;GHA;NGA;CA;CHA;JA;JHA;NYA;TTA;TTHA;DDA;DDHA;NNA;TA;THA",
     "DA;DHA;NA;PA;PHA;BA;BHA;MA;YA;RA;LA;VA;SHA;SSA;SA;HA;RRA"]⟩,
   ⟨0x1182C, "DOGRA VOWEL SIGN ", ["AA;I;II;U;UU;VOCALIC R;VOCALIC RR;E;AI;O;AU"]⟩,
   ⟨0x11837, "DOGRA ", ["SIGN ANUSVARA;SIGN VISARGA;SIGN VIRAMA;SIGN NUKTA;ABBREVIATION SIGN"]⟩,
   ⟨0x118A0, "WARANG CITI CAPITAL LETTER ",
    ["NGAA;A;WI;YU;YA;YO;II;UU;E;O;ANG;GA;KO;ENY;YUJ;UC;ENN;ODD;TTE;NUNG;DA;AT;AM;BU;PU;HIYO",
     "HOLO;HORR;HAR;SSUU;SII;VIYO"]⟩,
   ⟨0x118C0, "WARANG CITI SMALL LETTER ",
    ["NGAA;A;WI;YU;YA;YO;II;UU;E;O;ANG;GA;KO;ENY;YUJ;UC;ENN;ODD;TTE;NUNG;DA;AT;AM;BU;PU;HIYO",
     "HOLO;HORR;HAR;SSUU;SII;VIYO"]⟩,
   ⟨0x118E0, "WARANG CITI DIGIT ", ["ZERO;ONE;TWO;THREE;FOUR;FIVE;SIX;SEVEN;EIGHT;NINE"]⟩,
   ⟨0x118EA, "WARANG CITI NUMBER ",
    ["TEN;TWENTY;THIRTY;FORTY;FIFTY;SIXTY;SEVENTY;EIGHTY;NINETY"]⟩,
   ⟨0x118FF, "", ["WARANG CITI OM"]⟩,
   ⟨0x11900, "DIVES AKURU LETTER ", ["A;AA;I;II;U;UU;E"]⟩,
   ⟨0x11909, "", ["DIVES AKURU LETTER O"]⟩,
   ⟨0x1190C, "DIVES AKURU LETTER ", ["KA;KHA;GA;GHA;NGA;CA;CHA;JA"]⟩,
   ⟨0x11915, "DIVES AKURU LETTER ", ["NYA;TTA"]⟩,
   ⟨0x11918, "DIVES AKURU LETTER ",
    ["DDA;DDHA;NNA;TA;THA;DA;DHA;NA;PA;PHA;BA;BHA;MA;YA;YYA;RA;LA;VA;SHA;SSA;SA;HA;LLA;ZA"]⟩,
   ⟨0x11930, "DIVES AKURU VOWEL SIGN ", ["AA;I;II;U;UU;E"]⟩,
   ⟨0x11937, "DIVES AKURU VOWEL SIGN ", ["AI;O"]⟩,
   ⟨0x1193B, "DIVES AKURU ",
    ["SIGN ANUSVARA;SIGN CANDRABINDU;SIGN HALANTA;VIRAMA;PREFIXED NASAL SIGN;MEDIAL YA",
     "INITIAL RA;MEDIAL RA;SIGN NUKTA;DOUBLE DANDA;GAP FILLER;END OF TEXT MARK"]⟩,
   ⟨0x11950, "DIVES AKURU DIGIT ", ["ZERO;ONE;TWO;THREE;FOUR;FIVE;SIX;SEVEN;EIGHT;NINE"]⟩,
   ⟨0x119A0, "NANDINAGARI LETTER ", ["A;AA;I;II;U;UU;VOCALIC R;VOCALIC RR"]⟩,
   ⟨0x119AA, "NANDINAGARI LETTER ",
    ["E;AI;O;AU;KA;KHA;GA;GHA;NGA;CA;CHA;JA;JHA;NYA;TTA;TTHA;DDA;DDHA;NNA;TA;THA;DA;DHA;NA;PA",
     "PHA;BA;BHA;MA;YA;RA;LA;VA;SHA;SSA;SA;HA;LLA;RRA"]⟩,
   ⟨0x119D1, "NANDINAGARI VOWEL SIGN ", ["AA;I;II;U;UU;VOCALIC R;VOCALIC RR"]⟩,
   ⟨0x119DA, "NANDINAGARI ",
    ["VOWEL SIGN E;VOWEL SIGN AI;VOWEL SIGN O;VOWEL SIGN AU;SIGN ANUSVARA;SIGN VISARGA",
     "SIGN VIRAMA;SIGN AVAGRAHA;SIGN SIDDHAM;HEADSTROKE;VOWEL SIGN PRISHTHAMATRA E"]⟩,
   ⟨0x11A00, "ZANABAZAR SQUARE ",
    ["LETTER A;VOWEL SIGN I;VOWEL SIGN UE;VOWEL SIGN U;VOWEL SIGN E;VOWEL SIGN OE;VOWEL SIGN O",
     "VOWEL SIGN AI;VOWEL SIGN AU;VOWEL SIGN REVERSED I;VOWEL LENGTH MARK"]⟩,
   ⟨0x11A0B, "ZANABAZAR SQUARE LETTER ",
    ["KA;KHA;GA;GHA;NGA;CA;CHA;JA;NYA;TTA;TTHA;DDA;DDHA;NNA;TA;THA;DA;DHA;NA;PA;PHA;BA;BHA;MA",
     "TSA;TSHA;DZA;DZHA;ZHA;ZA;-A;YA;RA;LA;VA;SHA;SSA;SA;HA;KSSA"]⟩,
   ⟨0x11A33, "ZANABAZAR SQUARE ",
    ["FINAL CONSONANT MARK;SIGN VIRAMA;SIGN CANDRABINDU;SIGN CANDRABINDU WITH ORNAMENT",
     "SIGN CANDRA WITH ORNAMENT;SIGN ANUSVARA;SIGN VISARGA;CLUSTER-INITIAL LETTER RA",
     "CLUSTER-FINAL LETTER YA;CLUSTER-FINAL LETTER RA;CLUSTER-FINAL LETTER LA",
     "CLUSTER-FINAL LETTER VA;INITIAL HEAD MARK;CLOSING HEAD MARK;MARK TSHEG;MARK SHAD",
     "MARK DOUBLE SHAD;MARK LONG TSHEG;INITIAL DOUBLE-LINED HEAD MARK",
     "CLOSING DOUBLE-LINED HEAD MARK;SUBJOINER"]⟩,
   ⟨0x11A50, "SOYOMBO ",
    ["LETTER A;VOWEL SIGN I;VOWEL SIGN UE;VOWEL SIGN U;VOWEL SIGN E;VOWEL SIGN O;VOWEL SIGN OE",
     "VOWEL SIGN AI;VOWEL SIGN AU;VOWEL SIGN VOCALIC R;VOWEL SIGN VOCALIC L;VOWEL LENGTH MARK"]⟩,
   ⟨0x11A5C, "SOYOMBO LETTER ",
    ["KA;KHA;GA;GHA;NGA;CA;CHA;JA;JHA;NYA;TTA;TTHA;DDA;DDHA;NNA;TA;THA;DA;DHA;NA;PA;PHA;BA;BHA",
     "MA;TSA;TSHA;DZA;ZHA;ZA;-A;YA;RA;LA;VA;SHA;SSA;SA;HA;KSSA"]⟩,
   ⟨0x11A84, "SOYOMBO SIGN ", ["JIHVAMULIYA;UPADHMANIYA"]⟩,
   ⟨0x11A86, "SOYOMBO CLUSTER-INITIAL LETTER ", ["RA;LA;SHA;SA"]⟩,
   ⟨0x11A8A, "SOYOMBO FINAL CONSONANT SIGN ", ["G;K;NG;D;N;B;M;R;L;SH;S;-A"]⟩,
   ⟨0x11A96, "SOYOMBO ",
    ["SIGN ANUSVARA;SIGN VISARGA;GEMINATION MARK;SUBJOINER;MARK TSHEG;MARK SHAD",
     "MARK DOUBLE SHAD;MARK PLUTA;HEAD MARK WITH MOON AND SUN AND TRIPLE FLAME",
     "HEAD MARK WITH MOON AND SUN AND FLAME;HEAD MARK WITH MOON AND SUN;TERMINAL MARK-1",
     "TERMINAL MARK-2"]⟩,
   ⟨0x11AB0, "CANADIAN SYLLABICS NATTILIK ",
    ["HI;HII;HO;HOO;HA;HAA;SHRI;SHRII;SHRO;SHROO;SHRA;SHRAA"]⟩,
   ⟨0x11ABC, "CANADIAN SYLLABICS ", ["SPE;SPI;SPO;SPA"]⟩,
   ⟨0x11AC0, "PAU CIN HAU LETTER ",
    ["PA;KA;LA;MA;DA;ZA;VA;NGA;HA;GA;KHA;SA;BA;CA;TA;THA;NA;PHA;RA;FA;CHA;A;E;I;O;U;UA;IA",
     "FINAL P;FINAL K;FINAL T;FINAL M;FINAL N;FINAL L;FINAL W;FINAL NG;FINAL Y"]⟩,
   ⟨0x11AE5, "PAU CIN HAU ",
    ["RISING TONE LONG;RISING TONE;SANDHI GLOTTAL STOP;RISING TONE LONG FINAL;RISING TONE FINAL",
     "SANDHI GLOTTAL STOP FINAL;SANDHI TONE LONG;SANDHI TONE;SANDHI TONE LONG FINAL",
     "SANDHI TONE FINAL;MID-LEVEL TONE;GLOTTAL STOP VARIANT;MID-LEVEL TONE LONG FINAL",
     "MID-LEVEL TONE FINAL;LOW-FALLING TONE LONG;LOW-FALLING TONE;GLOTTAL STOP",
     "LOW-FALLING TONE LONG FINAL;LOW-FALLING TONE FINAL;GLOTTAL STOP FINAL"]⟩,
   ⟨0x11C00, "BHAIKSUKI LETTER ", ["A;AA;I;II;U;UU;VOCALIC R;VOCALIC RR;VOCALIC L"]⟩,
   ⟨0x11C0A, "BHAIKSUKI LETTER ",
    ["E;AI;O;AU;KA;KHA;GA;GHA;NGA;CA;CHA;JA;JHA;NYA;TTA;TTHA;DDA;DDHA;NNA;TA;THA;DA;DHA;NA;PA",
     "PHA;BA;BHA;MA;YA;RA;LA;VA;SHA;SSA;SA;HA"]⟩,
   ⟨0x11C2F, "BHAIKSUKI VOWEL SIGN ", ["AA;I;II;U;UU;VOCALIC R;VOCALIC RR;VOCALIC L"]⟩,
   ⟨0x11C38, "BHAIKSUKI ",
    ["VOWEL SIGN E;VOWEL SIGN AI;VOWEL SIGN O;VOWEL SIGN AU;SIGN CANDRABINDU;SIGN ANUSVARA",
     "SIGN VISARGA;SIGN VIRAMA;SIGN AVAGRAHA;DANDA;DOUBLE DANDA;WORD SEPARATOR;GAP FILLER-1",
     "GAP FILLER-2"]⟩,
   ⟨0x11C50, "BHAIKSUKI DIGIT ", ["ZERO;ONE;TWO;THREE;FOUR;FIVE;SIX;SEVEN;EIGHT;NINE"]⟩,
   ⟨0x11C5A, "BHAIKSUKI NUMBER ",
    ["ONE;TWO;THREE;FOUR;FIVE;SIX;SEVEN;EIGHT;NINE;TEN;TWENTY;THIRTY;FORTY;FIFTY;SIXTY;SEVENTY",
     "EIGHTY;NINETY"]⟩,
   ⟨0x11C6C, "", ["BHAIKSUKI HUNDREDS UNIT MARK"]⟩,
   ⟨0x11C70, "MARCHEN ", ["HEAD MARK;MARK SHAD"]⟩,
   ⟨0x11C72, "MARCHEN LETTER ",
    ["KA;KHA;GA;NGA;CA;CHA;JA;NYA;TA;THA;DA;NA;PA;PHA;BA;MA;TSA;TSHA;DZA;WA;ZHA;ZA;-A;YA;RA;LA",
     "SHA;SA;HA;A"]⟩,
   ⟨0x11C92, "MARCHEN SUBJOINED LETTER ",
    ["KA;KHA;GA;NGA;CA;CHA;JA;NYA;TA;THA;DA;NA;PA;PHA;BA;MA;TSA;TSHA;DZA;WA;ZHA;ZA"]⟩,
   ⟨0x11CA9, "MARCHEN SUBJOINED LETTER ", ["YA;RA;LA;SHA;SA;HA;A"]⟩,
   ⟨0x11CB0, "MARCHEN ",
    ["VOWEL SIGN AA;VOWEL SIGN I;VOWEL SIGN U;VOWEL SIGN E;VOWEL SIGN O;SIGN ANUSVARA",
     "SIGN CANDRABINDU"]⟩,
   ⟨0x11D00, "MASARAM GONDI LETTER ", ["A;AA;I;II;U;UU;E"]⟩,
   ⟨0x11D08, "MASARAM GONDI LETTER ", ["AI;O"]⟩,
   ⟨0x11D0B, "MASARAM GONDI LETTER ",
    ["AU;KA;KHA;GA;GHA;NGA;CA;CHA;JA;JHA;NYA;TTA;TTHA;DDA;DDHA;NNA;TA;THA;DA;DHA;NA;PA;PHA;BA",
     "BHA;MA;YA;RA;LA;VA;SHA;SSA;SA;HA;LLA;KSSA;JNYA;TRA"]⟩,
   ⟨0x11D31, "MASARAM GONDI VOWEL SIGN ", ["AA;I;II;U;UU;VOCALIC R"]⟩,
   ⟨0x11D3A, "MASARAM GONDI VOWEL SIGN ", ["E"]⟩,
   ⟨0x11D3C, "MASARAM GONDI VOWEL SIGN ", ["AI;O"]⟩,
   ⟨0x11D3F, "MASARAM GONDI ",
    ["VOWEL SIGN AU;SIGN ANUSVARA;SIGN VISARGA;SIGN NUKTA;SIGN CANDRA;SIGN HALANTA;VIRAMA;REPHA",
     "RA-KARA"]⟩,
   ⟨0x11D50, "MASARAM GONDI DIGIT ", ["ZERO;ONE;TWO;THREE;FOUR;FIVE;SIX;SEVEN;EIGHT;NINE"]⟩,
   ⟨0x11D60, "GUNJALA GONDI LETTER ", ["A;AA;I;II;U;UU"]⟩,
   ⟨0x11D67, "GUNJALA GONDI LETTER ", ["EE;AI"]⟩,
   ⟨0x11D6A, "GUNJALA GONDI LETTER ",
    ["OO;AU;YA;VA;BA;BHA;MA;KA;KHA;TA;THA;LA;GA;GHA;DA;DHA;NA;CA;CHA;TTA;TTHA;LLA;JA;JHA;DDA",
     "DDHA;NGA;PA;PHA;HA;RA;SA"]⟩,
   ⟨0x11D8A, "GUNJALA GONDI VOWEL SIGN ", ["AA;I;II;U;UU"]⟩,
   ⟨0x11D90, "GUNJALA GONDI VOWEL SIGN ", ["EE;AI"]⟩,
   ⟨0x11D93, "GUNJALA GONDI ",
    ["VOWEL SIGN OO;VOWEL SIGN AU;SIGN ANUSVARA;SIGN VISARGA;VIRAMA;OM"]⟩,
   ⟨0x11DA0, "GUNJALA GONDI DIGIT ", ["ZERO;ONE;TWO;THREE;FOUR;FIVE;SIX;SEVEN;EIGHT;NINE"]⟩,
   ⟨0x11EE0, "MAKASAR LETTER ", ["KA;GA;NGA;PA;BA;MA;TA;DA;NA;CA;JA;NYA;YA;RA;LA;VA;SA;A"]⟩,
   ⟨0x11EF2, "MAKASAR ",
    ["ANGKA;VOWEL SIGN I;VOWEL SIGN U;VOWEL SIGN E;VOWEL SIGN O;PASSIMBANG;END OF SECTION"]⟩,
   ⟨0x11FB0, "", ["LISU LETTER YHA"]⟩,
   ⟨0x11FC0, "TAMIL FRACTION ",
    ["ONE THREE-HUNDRED-AND-TWENTIETH;ONE ONE-HUNDRED-AND-SIXTIETH;ONE EIGHTIETH",
     "ONE SIXTY-FOURTH;ONE FORTIETH;ONE THIRTY-SECOND;THREE EIGHTIETHS;THREE SIXTY-FOURTHS",
     "ONE TWENTIETH;ONE SIXTEENTH-1;ONE SIXTEENTH-2;ONE TENTH;ONE EIGHTH;THREE TWENTIETHS",
     "THREE SIXTEENTHS;ONE FIFTH;ONE QUARTER;ONE HALF-1;ONE HALF-2;THREE QUARTERS",
     "DOWNSCALING FACTOR KIIZH"]⟩,
   ⟨0x11FD5, "TAMIL SIGN ",
    ["NEL;CEVITU;AAZHAAKKU;UZHAKKU;MUUVUZHAKKU;KURUNI;PATHAKKU;MUKKURUNI;KAACU;PANAM;PON",
     "VARAAKAN;PAARAM;KUZHI;VELI"]⟩,
   ⟨0x11FE4, "TAMIL ",
    ["WET CULTIVATION SIGN;DRY CULTIVATION SIGN;LAND SIGN;SALT PAN SIGN;TRADITIONAL CREDIT SIGN",
     "TRADITIONAL NUMBER SIGN;CURRENT SIGN;AND ODD SIGN;SPENT SIGN;TOTAL SIGN",
     "IN POSSESSION SIGN;STARTING FROM SIGN;SIGN MUTHALIYA;SIGN VAKAIYARAA"]⟩,
   ⟨0x11FFF, "", ["TAMIL PUNCTUATION END OF TEXT"]⟩]

end YangSchema.Unicode.NameBlock
