import YangSchema.Unicode.Name.Block

/-!
# Names of characters 27C0 to 2C5F

Further mathematical symbols and arrows, Braille patterns and Glagolitic.
-/
namespace YangSchema.Unicode.NameBlock

def mathematicsToGlagolitic : List NameBlock :=
  [⟨0x27C0, "",
    ["THREE DIMENSIONAL ANGLE;WHITE TRIANGLE CONTAINING SMALL WHITE TRIANGLE;PERPENDICULAR",
     "OPEN SUBSET;OPEN SUPERSET;LEFT S-SHAPED BAG DELIMITER;RIGHT S-SHAPED BAG DELIMITER",
     "OR WITH DOT INSIDE;REVERSE SOLIDUS PRECEDING SUBSET;SUPERSET PRECEDING SOLIDUS",
     "VERTICAL BAR WITH HORIZONTAL STROKE;MATHEMATICAL RISING DIAGONAL;LONG DIVISION",
     "MATHEMATICAL FALLING DIAGONAL;SQUARED LOGICAL AND;SQUARED LOGICAL OR",
     "WHITE DIAMOND WITH CENTRED DOT;AND WITH DOT;ELEMENT OF OPENING UPWARDS",
     "LOWER RIGHT CORNER WITH DOT;UPPER LEFT CORNER WITH DOT;LEFT OUTER JOIN;RIGHT OUTER JOIN",
     "FULL OUTER JOIN;LARGE UP TACK;LARGE DOWN TACK;LEFT AND RIGHT DOUBLE TURNSTILE",
     "LEFT AND RIGHT TACK;LEFT MULTIMAP;LONG RIGHT TACK;LONG LEFT TACK",
     "UP TACK WITH CIRCLE ABOVE;LOZENGE DIVIDED BY HORIZONTAL RULE;WHITE CONCAVE-SIDED DIAMOND",
     "WHITE CONCAVE-SIDED DIAMOND WITH LEFTWARDS TICK",
     "WHITE CONCAVE-SIDED DIAMOND WITH RIGHTWARDS TICK;WHITE SQUARE WITH LEFTWARDS TICK",
     "WHITE SQUARE WITH RIGHTWARDS TICK;MATHEMATICAL LEFT WHITE SQUARE BRACKET",
     "MATHEMATICAL RIGHT WHITE SQUARE BRACKET;MATHEMATICAL LEFT ANGLE BRACKET",
     "MATHEMATICAL RIGHT ANGLE BRACKET;MATHEMATICAL LEFT DOUBLE ANGLE BRACKET",
     "MATHEMATICAL RIGHT DOUBLE ANGLE BRACKET;MATHEMATICAL LEFT WHITE TORTOISE SHELL BRACKET",
     "MATHEMATICAL RIGHT WHITE TORTOISE SHELL BRACKET;MATHEMATICAL LEFT FLATTENED PARENTHESIS",
     "MATHEMATICAL RIGHT FLATTENED PARENTHESIS;UPWARDS QUADRUPLE ARROW",
     "DOWNWARDS QUADRUPLE ARROW;ANTICLOCKWISE GAPPED CIRCLE ARROW;CLOCKWISE GAPPED CIRCLE ARROW",
     "RIGHT ARROW WITH CIRCLED PLUS;LONG LEFTWARDS ARROW;LONG RIGHTWARDS ARROW",
     "LONG LEFT RIGHT ARROW;LONG LEFTWARDS DOUBLE ARROW;LONG RIGHTWARDS DOUBLE ARROW",
     "LONG LEFT RIGHT DOUBLE ARROW;LONG LEFTWARDS ARROW FROM BAR;LONG RIGHTWARDS ARROW FROM BAR",
     "LONG LEFTWARDS DOUBLE ARROW FROM BAR;LONG RIGHTWARDS DOUBLE ARROW FROM BAR",
     "LONG RIGHTWARDS SQUIGGLE ARROW;BRAILLE PATTERN BLANK"]⟩,
   ⟨0x2801, "BRAILLE PATTERN DOTS-",
    ["1;2;12;3;13;23;123;4;14;24;124;34;134;234;1234;5;15;25;125;35;135;235;1235;45;145;245",
     "1245;345;1345;2345;12345;6;16;26;126;36;136;236;1236;46;146;246;1246;346;1346;2346;12346",
     "56;156;256;1256;356;1356;2356;12356;456;1456;2456;12456;3456;13456;23456;123456;7;17;27",
     "127;37;137;237;1237;47;147;247;1247;347;1347;2347;12347;57;157;257;1257;357;1357;2357",
     "12357;457;1457;2457;12457;3457;13457;23457;123457;67;167;267;1267;367;1367;2367;12367;467",
     "1467;2467;12467;3467;13467;23467;123467;567;1567;2567;12567;3567;13567;23567;123567;4567",
     "14567;24567;124567;34567;134567;234567;1234567;8;18;28;128;38;138;238;1238;48;148;248",
     "1248;348;1348;2348;12348;58;158;258;1258;358;1358;2358;12358;458;1458;2458;12458;3458",
     "13458;23458;123458;68;168;268;1268;368;1368;2368;12368;468;1468;2468;12468;3468;13468",
     "23468;123468;568;1568;2568;12568;3568;13568;23568;123568;4568;14568;24568;124568;34568",
     "134568;234568;1234568;78;178;278;1278;378;1378;2378;12378;478;1478;2478;12478;3478;13478",
     "23478;123478;578;1578;2578;12578;3578;13578;23578;123578;4578;14578;24578;124578;34578",
     "134578;234578;1234578;678;1678;2678;12678;3678;13678;23678;123678;4678;14678;24678;124678",
     "34678;134678;234678;1234678;5678;15678;25678;125678;35678;135678;235678;1235678;45678",
     "145678;245678;1245678;345678;1345678;2345678;12345678"]⟩,
   ⟨0x2900, "",
    ["RIGHTWARDS TWO-HEADED ARROW WITH VERTICAL STROKE",
     "RIGHTWARDS TWO-HEADED ARROW WITH DOUBLE VERTICAL STROKE",
     "LEFTWARDS DOUBLE ARROW WITH VERTICAL STROKE;RIGHTWARDS DOUBLE ARROW WITH VERTICAL STROKE",
     "LEFT RIGHT DOUBLE ARROW WITH VERTICAL STROKE;RIGHTWARDS TWO-HEADED ARROW FROM BAR",
     "LEFTWARDS DOUBLE ARROW FROM BAR;RIGHTWARDS DOUBLE ARROW FROM BAR",
     "DOWNWARDS ARROW WITH HORIZONTAL STROKE;UPWARDS ARROW WITH HORIZONTAL STROKE",
     "UPWARDS TRIPLE ARROW;DOWNWARDS TRIPLE ARROW;LEFTWARDS DOUBLE DASH ARROW",
     "RIGHTWARDS DOUBLE DASH ARROW;LEFTWARDS TRIPLE DASH ARROW;RIGHTWARDS TRIPLE DASH ARROW",
     "RIGHTWARDS TWO-HEADED TRIPLE DASH ARROW;RIGHTWARDS ARROW WITH DOTTED STEM",
     "UPWARDS ARROW TO BAR;DOWNWARDS ARROW TO BAR",
     "RIGHTWARDS ARROW WITH TAIL WITH VERTICAL STROKE",
     "RIGHTWARDS ARROW WITH TAIL WITH DOUBLE VERTICAL STROKE",
     "RIGHTWARDS TWO-HEADED ARROW WITH TAIL",
     "RIGHTWARDS TWO-HEADED ARROW WITH TAIL WITH VERTICAL STROKE",
     "RIGHTWARDS TWO-HEADED ARROW WITH TAIL WITH DOUBLE VERTICAL STROKE;LEFTWARDS ARROW-TAIL",
     "RIGHTWARDS ARROW-TAIL;LEFTWARDS DOUBLE ARROW-TAIL;RIGHTWARDS DOUBLE ARROW-TAIL",
     "LEFTWARDS ARROW TO BLACK DIAMOND;RIGHTWARDS ARROW TO BLACK DIAMOND",
     "LEFTWARDS ARROW FROM BAR TO BLACK DIAMOND;RIGHTWARDS ARROW FROM BAR TO BLACK DIAMOND",
     "NORTH WEST AND SOUTH EAST ARROW;NORTH EAST AND SOUTH WEST ARROW",
     "NORTH WEST ARROW WITH HOOK;NORTH EAST ARROW WITH HOOK;SOUTH EAST ARROW WITH HOOK",
     "SOUTH WEST ARROW WITH HOOK;NORTH WEST ARROW AND NORTH EAST ARROW",
     "NORTH EAST ARROW AND SOUTH EAST ARROW;SOUTH EAST ARROW AND SOUTH WEST ARROW",
     "SOUTH WEST ARROW AND NORTH WEST ARROW;RISING DIAGONAL CROSSING FALLING DIAGONAL",
     "FALLING DIAGONAL CROSSING RISING DIAGONAL;SOUTH EAST ARROW CROSSING NORTH EAST ARROW",
     "NORTH EAST ARROW CROSSING SOUTH EAST ARROW;FALLING DIAGONAL CROSSING NORTH EAST ARROW",
     "RISING DIAGONAL CROSSING SOUTH EAST ARROW;NORTH EAST ARROW CROSSING NORTH WEST ARROW",
     "NORTH WEST ARROW CROSSING NORTH EAST ARROW;WAVE ARROW POINTING DIRECTLY RIGHT",
     "ARROW POINTING RIGHTWARDS THEN CURVING UPWARDS",
     "ARROW POINTING RIGHTWARDS THEN CURVING DOWNWARDS",
     "ARROW POINTING DOWNWARDS THEN CURVING LEFTWARDS",
     "ARROW POINTING DOWNWARDS THEN CURVING RIGHTWARDS;RIGHT-SIDE ARC CLOCKWISE ARROW",
     "LEFT-SIDE ARC ANTICLOCKWISE ARROW;TOP ARC ANTICLOCKWISE ARROW",
     "BOTTOM ARC ANTICLOCKWISE ARROW;TOP ARC CLOCKWISE ARROW WITH MINUS",
     "TOP ARC ANTICLOCKWISE ARROW WITH PLUS;LOWER RIGHT SEMICIRCULAR CLOCKWISE ARROW",
     "LOWER LEFT SEMICIRCULAR ANTICLOCKWISE ARROW;ANTICLOCKWISE CLOSED CIRCLE ARROW",
     "CLOCKWISE CLOSED CIRCLE ARROW;RIGHTWARDS ARROW ABOVE SHORT LEFTWARDS ARROW",
     "LEFTWARDS ARROW ABOVE SHORT RIGHTWARDS ARROW;SHORT RIGHTWARDS ARROW ABOVE LEFTWARDS ARROW",
     "RIGHTWARDS ARROW WITH PLUS BELOW;LEFTWARDS ARROW WITH PLUS BELOW",
     "RIGHTWARDS ARROW THROUGH X;LEFT RIGHT ARROW THROUGH SMALL CIRCLE",
     "UPWARDS TWO-HEADED ARROW FROM SMALL CIRCLE;LEFT BARB UP RIGHT BARB DOWN HARPOON",
     "LEFT BARB DOWN RIGHT BARB UP HARPOON;UP BARB RIGHT DOWN BARB LEFT HARPOON",
     "UP BARB LEFT DOWN BARB RIGHT HARPOON;LEFT BARB UP RIGHT BARB UP HARPOON",
     "UP BARB RIGHT DOWN BARB RIGHT HARPOON;LEFT BARB DOWN RIGHT BARB DOWN HARPOON",
     "UP BARB LEFT DOWN BARB LEFT HARPOON;LEFTWARDS HARPOON WITH BARB UP TO BAR",
     "RIGHTWARDS HARPOON WITH BARB UP TO BAR;UPWARDS HARPOON WITH BARB RIGHT TO BAR",
     "DOWNWARDS HARPOON WITH BARB RIGHT TO BAR;LEFTWARDS HARPOON WITH BARB DOWN TO BAR",
     "RIGHTWARDS HARPOON WITH BARB DOWN TO BAR;UPWARDS HARPOON WITH BARB LEFT TO BAR",
     "DOWNWARDS HARPOON WITH BARB LEFT TO BAR;LEFTWARDS HARPOON WITH BARB UP FROM BAR",
     "RIGHTWARDS HARPOON WITH BARB UP FROM BAR;UPWARDS HARPOON WITH BARB RIGHT FROM BAR",
     "DOWNWARDS HARPOON WITH BARB RIGHT FROM BAR;LEFTWARDS HARPOON WITH BARB DOWN FROM BAR",
     "RIGHTWARDS HARPOON WITH BARB DOWN FROM BAR;UPWARDS HARPOON WITH BARB LEFT FROM BAR",
     "DOWNWARDS HARPOON WITH BARB LEFT FROM BAR",
     "LEFTWARDS HARPOON WITH BARB UP ABOVE LEFTWARDS HARPOON WITH BARB DOWN",
     "UPWARDS HARPOON WITH BARB LEFT BESIDE UPWARDS HARPOON WITH BARB RIGHT",
     "RIGHTWARDS HARPOON WITH BARB UP ABOVE RIGHTWARDS HARPOON WITH BARB DOWN",
     "DOWNWARDS HARPOON WITH BARB LEFT BESIDE DOWNWARDS HARPOON WITH BARB RIGHT",
     "LEFTWARDS HARPOON WITH BARB UP ABOVE RIGHTWARDS HARPOON WITH BARB UP",
     "LEFTWARDS HARPOON WITH BARB DOWN ABOVE RIGHTWARDS HARPOON WITH BARB DOWN",
     "RIGHTWARDS HARPOON WITH BARB UP ABOVE LEFTWARDS HARPOON WITH BARB UP",
     "RIGHTWARDS HARPOON WITH BARB DOWN ABOVE LEFTWARDS HARPOON WITH BARB DOWN",
     "LEFTWARDS HARPOON WITH BARB UP ABOVE LONG DASH",
     "LEFTWARDS HARPOON WITH BARB DOWN BELOW LONG DASH",
     "RIGHTWARDS HARPOON WITH BARB UP ABOVE LONG DASH",
     "RIGHTWARDS HARPOON WITH BARB DOWN BELOW LONG DASH",
     "UPWARDS HARPOON WITH BARB LEFT BESIDE DOWNWARDS HARPOON WITH BARB RIGHT",
     "DOWNWARDS HARPOON WITH BARB LEFT BESIDE UPWARDS HARPOON WITH BARB RIGHT",
     "RIGHT DOUBLE ARROW WITH ROUNDED HEAD;EQUALS SIGN ABOVE RIGHTWARDS ARROW",
     "TILDE OPERATOR ABOVE RIGHTWARDS ARROW;LEFTWARDS ARROW ABOVE TILDE OPERATOR",
     "RIGHTWARDS ARROW ABOVE TILDE OPERATOR;RIGHTWARDS ARROW ABOVE ALMOST EQUAL TO",
     "LESS-THAN ABOVE LEFTWARDS ARROW;LEFTWARDS ARROW THROUGH LESS-THAN",
     "GREATER-THAN ABOVE RIGHTWARDS ARROW;SUBSET ABOVE RIGHTWARDS ARROW",
     "LEFTWARDS ARROW THROUGH SUBSET;SUPERSET ABOVE LEFTWARDS ARROW;LEFT FISH TAIL",
     "RIGHT FISH TAIL;UP FISH TAIL;DOWN FISH TAIL;TRIPLE VERTICAL BAR DELIMITER;Z NOTATION SPOT",
     "Z NOTATION TYPE COLON;LEFT WHITE CURLY BRACKET;RIGHT WHITE CURLY BRACKET",
     "LEFT WHITE PARENTHESIS;RIGHT WHITE PARENTHESIS;Z NOTATION LEFT IMAGE BRACKET",
     "Z NOTATION RIGHT IMAGE BRACKET;Z NOTATION LEFT BINDING BRACKET",
     "Z NOTATION RIGHT BINDING BRACKET;LEFT SQUARE BRACKET WITH UNDERBAR",
     "RIGHT SQUARE BRACKET WITH UNDERBAR;LEFT SQUARE BRACKET WITH TICK IN TOP CORNER",
     "RIGHT SQUARE BRACKET WITH TICK IN BOTTOM CORNER",
     "LEFT SQUARE BRACKET WITH TICK IN BOTTOM CORNER",
     "RIGHT SQUARE BRACKET WITH TICK IN TOP CORNER;LEFT ANGLE BRACKET WITH DOT",
     "RIGHT ANGLE BRACKET WITH DOT;LEFT ARC LESS-THAN BRACKET;RIGHT ARC GREATER-THAN BRACKET",
     "DOUBLE LEFT ARC GREATER-THAN BRACKET;DOUBLE RIGHT ARC LESS-THAN BRACKET",
     "LEFT BLACK TORTOISE SHELL BRACKET;RIGHT BLACK TORTOISE SHELL BRACKET;DOTTED FENCE",
     "VERTICAL ZIGZAG LINE;MEASURED ANGLE OPENING LEFT;RIGHT ANGLE VARIANT WITH SQUARE",
     "MEASURED RIGHT ANGLE WITH DOT;ANGLE WITH S INSIDE;ACUTE ANGLE",
     "SPHERICAL ANGLE OPENING LEFT;SPHERICAL ANGLE OPENING UP;TURNED ANGLE;REVERSED ANGLE",
     "ANGLE WITH UNDERBAR;REVERSED ANGLE WITH UNDERBAR;OBLIQUE ANGLE OPENING UP",
     "OBLIQUE ANGLE OPENING DOWN"]⟩,
   ⟨0x29A8, "MEASURED ANGLE WITH OPEN ARM ENDING IN ARROW POINTING ",
    ["UP AND RIGHT;UP AND LEFT;DOWN AND RIGHT;DOWN AND LEFT;RIGHT AND UP;LEFT AND UP",
     "RIGHT AND DOWN;LEFT AND DOWN"]⟩,
   ⟨0x29B0, "",
    ["REVERSED EMPTY SET;EMPTY SET WITH OVERBAR;EMPTY SET WITH SMALL CIRCLE ABOVE",
     "EMPTY SET WITH RIGHT ARROW ABOVE;EMPTY SET WITH LEFT ARROW ABOVE",
     "CIRCLE WITH HORIZONTAL BAR;CIRCLED VERTICAL BAR;CIRCLED PARALLEL;CIRCLED REVERSE SOLIDUS",
     "CIRCLED PERPENDICULAR",
     "CIRCLE DIVIDED BY HORIZONTAL BAR AND TOP HALF DIVIDED BY VERTICAL BAR",
     "CIRCLE WITH SUPERIMPOSED X;CIRCLED ANTICLOCKWISE-ROTATED DIVISION SIGN",
     "UP ARROW THROUGH CIRCLE;CIRCLED WHITE BULLET;CIRCLED BULLET;CIRCLED LESS-THAN",
     "CIRCLED GREATER-THAN;CIRCLE WITH SMALL CIRCLE TO THE RIGHT",
     "CIRCLE WITH TWO HORIZONTAL STROKES TO THE RIGHT;SQUARED RISING DIAGONAL SLASH",
     "SQUARED FALLING DIAGONAL SLASH;SQUARED ASTERISK;SQUARED SMALL CIRCLE;SQUARED SQUARE",
     "TWO JOINED SQUARES;TRIANGLE WITH DOT ABOVE;TRIANGLE WITH UNDERBAR;S IN TRIANGLE",
     "TRIANGLE WITH SERIFS AT BOTTOM;RIGHT TRIANGLE ABOVE LEFT TRIANGLE",
     "LEFT TRIANGLE BESIDE VERTICAL BAR;VERTICAL BAR BESIDE RIGHT TRIANGLE",
     "BOWTIE WITH LEFT HALF BLACK;BOWTIE WITH RIGHT HALF BLACK;BLACK BOWTIE",
     "TIMES WITH LEFT HALF BLACK;TIMES WITH RIGHT HALF BLACK;WHITE HOURGLASS;BLACK HOURGLASS",
     "LEFT WIGGLY FENCE;RIGHT WIGGLY FENCE;LEFT DOUBLE WIGGLY FENCE;RIGHT DOUBLE WIGGLY FENCE",
     "INCOMPLETE INFINITY;TIE OVER INFINITY;INFINITY NEGATED WITH VERTICAL BAR",
     "DOUBLE-ENDED MULTIMAP;SQUARE WITH CONTOURED OUTLINE;INCREASES AS;SHUFFLE PRODUCT",
     "EQUALS SIGN AND SLANTED PARALLEL;EQUALS SIGN AND SLANTED PARALLEL WITH TILDE ABOVE",
     "IDENTICAL TO AND SLANTED PARALLEL;GLEICH STARK;THERMODYNAMIC",
     "DOWN-POINTING TRIANGLE WITH LEFT HALF BLACK;DOWN-POINTING TRIANGLE WITH RIGHT HALF BLACK",
     "BLACK DIAMOND WITH DOWN ARROW;BLACK LOZENGE;WHITE CIRCLE WITH DOWN ARROW",
     "BLACK CIRCLE WITH DOWN ARROW;ERROR-BARRED WHITE SQUARE;ERROR-BARRED BLACK SQUARE",
     "ERROR-BARRED WHITE DIAMOND;ERROR-BARRED BLACK DIAMOND;ERROR-BARRED WHITE CIRCLE",
     "ERROR-BARRED BLACK CIRCLE;RULE-DELAYED;REVERSE SOLIDUS OPERATOR;SOLIDUS WITH OVERBAR",
     "REVERSE SOLIDUS WITH HORIZONTAL STROKE;BIG SOLIDUS;BIG REVERSE SOLIDUS;DOUBLE PLUS",
     "TRIPLE PLUS;LEFT-POINTING CURVED ANGLE BRACKET;RIGHT-POINTING CURVED ANGLE BRACKET;TINY",
     "MINY;N-ARY CIRCLED DOT OPERATOR;N-ARY CIRCLED PLUS OPERATOR;N-ARY CIRCLED TIMES OPERATOR",
     "N-ARY UNION OPERATOR WITH DOT;N-ARY UNION OPERATOR WITH PLUS",
     "N-ARY SQUARE INTERSECTION OPERATOR;N-ARY SQUARE UNION OPERATOR;TWO LOGICAL AND OPERATOR",
     "TWO LOGICAL OR OPERATOR;N-ARY TIMES OPERATOR;MODULO TWO SUM;SUMMATION WITH INTEGRAL",
     "QUADRUPLE INTEGRAL OPERATOR;FINITE PART INTEGRAL;INTEGRAL WITH DOUBLE STROKE",
     "INTEGRAL AVERAGE WITH SLASH;CIRCULATION FUNCTION;ANTICLOCKWISE INTEGRATION",
     "LINE INTEGRATION WITH RECTANGULAR PATH AROUND POLE",
     "LINE INTEGRATION WITH SEMICIRCULAR PATH AROUND POLE",
     "LINE INTEGRATION NOT INCLUDING THE POLE;INTEGRAL AROUND A POINT OPERATOR",
     "QUATERNION INTEGRAL OPERATOR;INTEGRAL WITH LEFTWARDS ARROW WITH HOOK",
     "INTEGRAL WITH TIMES SIGN;INTEGRAL WITH INTERSECTION;INTEGRAL WITH UNION",
     "INTEGRAL WITH OVERBAR;INTEGRAL WITH UNDERBAR;JOIN;LARGE LEFT TRIANGLE OPERATOR",
     "Z NOTATION SCHEMA COMPOSITION;Z NOTATION SCHEMA PIPING;Z NOTATION SCHEMA PROJECTION",
     "PLUS SIGN WITH SMALL CIRCLE ABOVE;PLUS SIGN WITH CIRCUMFLEX ACCENT ABOVE",
     "PLUS SIGN WITH TILDE ABOVE;PLUS SIGN WITH DOT BELOW;PLUS SIGN WITH TILDE BELOW",
     "PLUS SIGN WITH SUBSCRIPT TWO;PLUS SIGN WITH BLACK TRIANGLE;MINUS SIGN WITH COMMA ABOVE",
     "MINUS SIGN WITH DOT BELOW;MINUS SIGN WITH FALLING DOTS;MINUS SIGN WITH RISING DOTS",
     "PLUS SIGN IN LEFT HALF CIRCLE;PLUS SIGN IN RIGHT HALF CIRCLE;VECTOR OR CROSS PRODUCT",
     "MULTIPLICATION SIGN WITH DOT ABOVE;MULTIPLICATION SIGN WITH UNDERBAR",
     "SEMIDIRECT PRODUCT WITH BOTTOM CLOSED;SMASH PRODUCT",
     "MULTIPLICATION SIGN IN LEFT HALF CIRCLE;MULTIPLICATION SIGN IN RIGHT HALF CIRCLE",
     "CIRCLED MULTIPLICATION SIGN WITH CIRCUMFLEX ACCENT;MULTIPLICATION SIGN IN DOUBLE CIRCLE",
     "CIRCLED DIVISION SIGN;PLUS SIGN IN TRIANGLE;MINUS SIGN IN TRIANGLE",
     "MULTIPLICATION SIGN IN TRIANGLE;INTERIOR PRODUCT;RIGHTHAND INTERIOR PRODUCT",
     "Z NOTATION RELATIONAL COMPOSITION;AMALGAMATION OR COPRODUCT;INTERSECTION WITH DOT",
     "UNION WITH MINUS SIGN;UNION WITH OVERBAR;INTERSECTION WITH OVERBAR",
     "INTERSECTION WITH LOGICAL AND;UNION WITH LOGICAL OR;UNION ABOVE INTERSECTION",
     "INTERSECTION ABOVE UNION;UNION ABOVE BAR ABOVE INTERSECTION",
     "INTERSECTION ABOVE BAR ABOVE UNION;UNION BESIDE AND JOINED WITH UNION",
     "INTERSECTION BESIDE AND JOINED WITH INTERSECTION;CLOSED UNION WITH SERIFS",
     "CLOSED INTERSECTION WITH SERIFS;DOUBLE SQUARE INTERSECTION;DOUBLE SQUARE UNION",
     "CLOSED UNION WITH SERIFS AND SMASH PRODUCT;LOGICAL AND WITH DOT ABOVE",
     "LOGICAL OR WITH DOT ABOVE;DOUBLE LOGICAL AND;DOUBLE LOGICAL OR",
     "TWO INTERSECTING LOGICAL AND;TWO INTERSECTING LOGICAL OR;SLOPING LARGE OR",
     "SLOPING LARGE AND;LOGICAL OR OVERLAPPING LOGICAL AND;LOGICAL AND WITH MIDDLE STEM",
     "LOGICAL OR WITH MIDDLE STEM;LOGICAL AND WITH HORIZONTAL DASH",
     "LOGICAL OR WITH HORIZONTAL DASH;LOGICAL AND WITH DOUBLE OVERBAR;LOGICAL AND WITH UNDERBAR",
     "LOGICAL AND WITH DOUBLE UNDERBAR;SMALL VEE WITH UNDERBAR;LOGICAL OR WITH DOUBLE OVERBAR",
     "LOGICAL OR WITH DOUBLE UNDERBAR;Z NOTATION DOMAIN ANTIRESTRICTION",
     "Z NOTATION RANGE ANTIRESTRICTION;EQUALS SIGN WITH DOT BELOW;IDENTICAL WITH DOT ABOVE",
     "TRIPLE HORIZONTAL BAR WITH DOUBLE VERTICAL STROKE",
     "TRIPLE HORIZONTAL BAR WITH TRIPLE VERTICAL STROKE;TILDE OPERATOR WITH DOT ABOVE",
     "TILDE OPERATOR WITH RISING DOTS;SIMILAR MINUS SIMILAR;CONGRUENT WITH DOT ABOVE",
     "EQUALS WITH ASTERISK;ALMOST EQUAL TO WITH CIRCUMFLEX ACCENT",
     "APPROXIMATELY EQUAL OR EQUAL TO;EQUALS SIGN ABOVE PLUS SIGN;PLUS SIGN ABOVE EQUALS SIGN",
     "EQUALS SIGN ABOVE TILDE OPERATOR;DOUBLE COLON EQUAL;TWO CONSECUTIVE EQUALS SIGNS",
     "THREE CONSECUTIVE EQUALS SIGNS;EQUALS SIGN WITH TWO DOTS ABOVE AND TWO DOTS BELOW",
     "EQUIVALENT WITH FOUR DOTS ABOVE;LESS-THAN WITH CIRCLE INSIDE",
     "GREATER-THAN WITH CIRCLE INSIDE;LESS-THAN WITH QUESTION MARK ABOVE",
     "GREATER-THAN WITH QUESTION MARK ABOVE;LESS-THAN OR SLANTED EQUAL TO",
     "GREATER-THAN OR SLANTED EQUAL TO;LESS-THAN OR SLANTED EQUAL TO WITH DOT INSIDE",
     "GREATER-THAN OR SLANTED EQUAL TO WITH DOT INSIDE",
     "LESS-THAN OR SLANTED EQUAL TO WITH DOT ABOVE",
     "GREATER-THAN OR SLANTED EQUAL TO WITH DOT ABOVE",
     "LESS-THAN OR SLANTED EQUAL TO WITH DOT ABOVE RIGHT",
     "GREATER-THAN OR SLANTED EQUAL TO WITH DOT ABOVE LEFT;LESS-THAN OR APPROXIMATE",
     "GREATER-THAN OR APPROXIMATE;LESS-THAN AND SINGLE-LINE NOT EQUAL TO",
     "GREATER-THAN AND SINGLE-LINE NOT EQUAL TO;LESS-THAN AND NOT APPROXIMATE",
     "GREATER-THAN AND NOT APPROXIMATE;LESS-THAN ABOVE DOUBLE-LINE EQUAL ABOVE GREATER-THAN",
     "GREATER-THAN ABOVE DOUBLE-LINE EQUAL ABOVE LESS-THAN;LESS-THAN ABOVE SIMILAR OR EQUAL",
     "GREATER-THAN ABOVE SIMILAR OR EQUAL;LESS-THAN ABOVE SIMILAR ABOVE GREATER-THAN",
     "GREATER-THAN ABOVE SIMILAR ABOVE LESS-THAN",
     "LESS-THAN ABOVE GREATER-THAN ABOVE DOUBLE-LINE EQUAL",
     "GREATER-THAN ABOVE LESS-THAN ABOVE DOUBLE-LINE EQUAL",
     "LESS-THAN ABOVE SLANTED EQUAL ABOVE GREATER-THAN ABOVE SLANTED EQUAL",
     "GREATER-THAN ABOVE SLANTED EQUAL ABOVE LESS-THAN ABOVE SLANTED EQUAL",
     "SLANTED EQUAL TO OR LESS-THAN;SLANTED EQUAL TO OR GREATER-THAN",
     "SLANTED EQUAL TO OR LESS-THAN WITH DOT INSIDE",
     "SLANTED EQUAL TO OR GREATER-THAN WITH DOT INSIDE;DOUBLE-LINE EQUAL TO OR LESS-THAN",
     "DOUBLE-LINE EQUAL TO OR GREATER-THAN;DOUBLE-LINE SLANTED EQUAL TO OR LESS-THAN",
     "DOUBLE-LINE SLANTED EQUAL TO OR GREATER-THAN;SIMILAR OR LESS-THAN;SIMILAR OR GREATER-THAN",
     "SIMILAR ABOVE LESS-THAN ABOVE EQUALS SIGN;SIMILAR ABOVE GREATER-THAN ABOVE EQUALS SIGN",
     "DOUBLE NESTED LESS-THAN;DOUBLE NESTED GREATER-THAN;DOUBLE NESTED LESS-THAN WITH UNDERBAR",
     "GREATER-THAN OVERLAPPING LESS-THAN;GREATER-THAN BESIDE LESS-THAN",
     "LESS-THAN CLOSED BY CURVE;GREATER-THAN CLOSED BY CURVE",
     "LESS-THAN CLOSED BY CURVE ABOVE SLANTED EQUAL",
     "GREATER-THAN CLOSED BY CURVE ABOVE SLANTED EQUAL;SMALLER THAN;LARGER THAN",
     "SMALLER THAN OR EQUAL TO;LARGER THAN OR EQUAL TO;EQUALS SIGN WITH BUMPY ABOVE",
     "PRECEDES ABOVE SINGLE-LINE EQUALS SIGN;SUCCEEDS ABOVE SINGLE-LINE EQUALS SIGN",
     "PRECEDES ABOVE SINGLE-LINE NOT EQUAL TO;SUCCEEDS ABOVE SINGLE-LINE NOT EQUAL TO",
     "PRECEDES ABOVE EQUALS SIGN;SUCCEEDS ABOVE EQUALS SIGN;PRECEDES ABOVE NOT EQUAL TO",
     "SUCCEEDS ABOVE NOT EQUAL TO;PRECEDES ABOVE ALMOST EQUAL TO;SUCCEEDS ABOVE ALMOST EQUAL TO",
     "PRECEDES ABOVE NOT ALMOST EQUAL TO;SUCCEEDS ABOVE NOT ALMOST EQUAL TO;DOUBLE PRECEDES",
     "DOUBLE SUCCEEDS;SUBSET WITH DOT;SUPERSET WITH DOT;SUBSET WITH PLUS SIGN BELOW",
     "SUPERSET WITH PLUS SIGN BELOW;SUBSET WITH MULTIPLICATION SIGN BELOW",
     "SUPERSET WITH MULTIPLICATION SIGN BELOW;SUBSET OF OR EQUAL TO WITH DOT ABOVE",
     "SUPERSET OF OR EQUAL TO WITH DOT ABOVE;SUBSET OF ABOVE EQUALS SIGN",
     "SUPERSET OF ABOVE EQUALS SIGN;SUBSET OF ABOVE TILDE OPERATOR",
     "SUPERSET OF ABOVE TILDE OPERATOR;SUBSET OF ABOVE ALMOST EQUAL TO",
     "SUPERSET OF ABOVE ALMOST EQUAL TO;SUBSET OF ABOVE NOT EQUAL TO",
     "SUPERSET OF ABOVE NOT EQUAL TO;SQUARE LEFT OPEN BOX OPERATOR",
     "SQUARE RIGHT OPEN BOX OPERATOR;CLOSED SUBSET;CLOSED SUPERSET;CLOSED SUBSET OR EQUAL TO",
     "CLOSED SUPERSET OR EQUAL TO;SUBSET ABOVE SUPERSET;SUPERSET ABOVE SUBSET",
     "SUBSET ABOVE SUBSET;SUPERSET ABOVE SUPERSET;SUPERSET BESIDE SUBSET",
     "SUPERSET BESIDE AND JOINED BY DASH WITH SUBSET;ELEMENT OF OPENING DOWNWARDS",
     "PITCHFORK WITH TEE TOP;TRANSVERSAL INTERSECTION;FORKING;NONFORKING;SHORT LEFT TACK",
     "SHORT DOWN TACK;SHORT UP TACK;PERPENDICULAR WITH S;VERTICAL BAR TRIPLE RIGHT TURNSTILE",
     "DOUBLE VERTICAL BAR LEFT TURNSTILE;VERTICAL BAR DOUBLE LEFT TURNSTILE",
     "DOUBLE VERTICAL BAR DOUBLE LEFT TURNSTILE;LONG DASH FROM LEFT MEMBER OF DOUBLE VERTICAL",
     "SHORT DOWN TACK WITH OVERBAR;SHORT UP TACK WITH UNDERBAR",
     "SHORT UP TACK ABOVE SHORT DOWN TACK;DOUBLE DOWN TACK;DOUBLE UP TACK",
     "DOUBLE STROKE NOT SIGN;REVERSED DOUBLE STROKE NOT SIGN",
     "DOES NOT DIVIDE WITH REVERSED NEGATION SLASH;VERTICAL LINE WITH CIRCLE ABOVE",
     "VERTICAL LINE WITH CIRCLE BELOW;DOWN TACK WITH CIRCLE BELOW",
     "PARALLEL WITH HORIZONTAL STROKE;PARALLEL WITH TILDE OPERATOR",
     "TRIPLE VERTICAL BAR BINARY RELATION;TRIPLE VERTICAL BAR WITH HORIZONTAL STROKE",
     "TRIPLE COLON OPERATOR;TRIPLE NESTED LESS-THAN;TRIPLE NESTED GREATER-THAN",
     "DOUBLE-LINE SLANTED LESS-THAN OR EQUAL TO;DOUBLE-LINE SLANTED GREATER-THAN OR EQUAL TO",
     "TRIPLE SOLIDUS BINARY RELATION;LARGE TRIPLE VERTICAL BAR OPERATOR;DOUBLE SOLIDUS OPERATOR",
     "WHITE VERTICAL BAR;N-ARY WHITE VERTICAL BAR;NORTH EAST WHITE ARROW;NORTH WEST WHITE ARROW",
     "SOUTH EAST WHITE ARROW;SOUTH WEST WHITE ARROW;LEFT RIGHT WHITE ARROW",
     "LEFTWARDS BLACK ARROW;UPWARDS BLACK ARROW;DOWNWARDS BLACK ARROW;NORTH EAST BLACK ARROW",
     "NORTH WEST BLACK ARROW;SOUTH EAST BLACK ARROW;SOUTH WEST BLACK ARROW",
     "LEFT RIGHT BLACK ARROW;UP DOWN BLACK ARROW;RIGHTWARDS ARROW WITH TIP DOWNWARDS",
     "RIGHTWARDS ARROW WITH TIP UPWARDS;LEFTWARDS ARROW WITH TIP DOWNWARDS",
     "LEFTWARDS ARROW WITH TIP UPWARDS;SQUARE WITH TOP HALF BLACK;SQUARE WITH BOTTOM HALF BLACK",
     "SQUARE WITH UPPER RIGHT DIAGONAL HALF BLACK;SQUARE WITH LOWER LEFT DIAGONAL HALF BLACK",
     "DIAMOND WITH LEFT HALF BLACK;DIAMOND WITH RIGHT HALF BLACK;DIAMOND WITH TOP HALF BLACK",
     "DIAMOND WITH BOTTOM HALF BLACK;DOTTED SQUARE;BLACK LARGE SQUARE;WHITE LARGE SQUARE",
     "BLACK VERY SMALL SQUARE;WHITE VERY SMALL SQUARE;BLACK PENTAGON;WHITE PENTAGON",
     "WHITE HEXAGON;BLACK HEXAGON;HORIZONTAL BLACK HEXAGON;BLACK LARGE CIRCLE",
     "BLACK MEDIUM DIAMOND;WHITE MEDIUM DIAMOND;BLACK MEDIUM LOZENGE;WHITE MEDIUM LOZENGE",
     "BLACK SMALL DIAMOND;BLACK SMALL LOZENGE;WHITE SMALL LOZENGE;BLACK HORIZONTAL ELLIPSE",
     "WHITE HORIZONTAL ELLIPSE;BLACK VERTICAL ELLIPSE;WHITE VERTICAL ELLIPSE",
     "LEFT ARROW WITH SMALL CIRCLE;THREE LEFTWARDS ARROWS;LEFT ARROW WITH CIRCLED PLUS",
     "LONG LEFTWARDS SQUIGGLE ARROW;LEFTWARDS TWO-HEADED ARROW WITH VERTICAL STROKE",
     "LEFTWARDS TWO-HEADED ARROW WITH DOUBLE VERTICAL STROKE",
     "LEFTWARDS TWO-HEADED ARROW FROM BAR;LEFTWARDS TWO-HEADED TRIPLE DASH ARROW",
     "LEFTWARDS ARROW WITH DOTTED STEM;LEFTWARDS ARROW WITH TAIL WITH VERTICAL STROKE",
     "LEFTWARDS ARROW WITH TAIL WITH DOUBLE VERTICAL STROKE",
     "LEFTWARDS TWO-HEADED ARROW WITH TAIL",
     "LEFTWARDS TWO-HEADED ARROW WITH TAIL WITH VERTICAL STROKE",
     "LEFTWARDS TWO-HEADED ARROW WITH TAIL WITH DOUBLE VERTICAL STROKE",
     "LEFTWARDS ARROW THROUGH X;WAVE ARROW POINTING DIRECTLY LEFT",
     "EQUALS SIGN ABOVE LEFTWARDS ARROW;REVERSE TILDE OPERATOR ABOVE LEFTWARDS ARROW",
     "LEFTWARDS ARROW ABOVE REVERSE ALMOST EQUAL TO;RIGHTWARDS ARROW THROUGH GREATER-THAN",
     "RIGHTWARDS ARROW THROUGH SUPERSET;LEFTWARDS QUADRUPLE ARROW;RIGHTWARDS QUADRUPLE ARROW",
     "REVERSE TILDE OPERATOR ABOVE RIGHTWARDS ARROW",
     "RIGHTWARDS ARROW ABOVE REVERSE ALMOST EQUAL TO;TILDE OPERATOR ABOVE LEFTWARDS ARROW",
     "LEFTWARDS ARROW ABOVE ALMOST EQUAL TO;LEFTWARDS ARROW ABOVE REVERSE TILDE OPERATOR",
     "RIGHTWARDS ARROW ABOVE REVERSE TILDE OPERATOR;DOWNWARDS TRIANGLE-HEADED ZIGZAG ARROW",
     "SHORT SLANTED NORTH ARROW;SHORT BACKSLANTED SOUTH ARROW;WHITE MEDIUM STAR",
     "BLACK SMALL STAR;WHITE SMALL STAR;BLACK RIGHT-POINTING PENTAGON",
     "WHITE RIGHT-POINTING PENTAGON;HEAVY LARGE CIRCLE;HEAVY OVAL WITH OVAL INSIDE",
     "HEAVY CIRCLE WITH CIRCLE INSIDE;HEAVY CIRCLE;HEAVY CIRCLED SALTIRE",
     "SLANTED NORTH ARROW WITH HOOKED HEAD;BACKSLANTED SOUTH ARROW WITH HOOKED TAIL",
     "SLANTED NORTH ARROW WITH HORIZONTAL TAIL;BACKSLANTED SOUTH ARROW WITH HORIZONTAL TAIL",
     "BENT ARROW POINTING DOWNWARDS THEN NORTH EAST",
     "SHORT BENT ARROW POINTING DOWNWARDS THEN NORTH EAST;LEFTWARDS TRIANGLE-HEADED ARROW",
     "UPWARDS TRIANGLE-HEADED ARROW;RIGHTWARDS TRIANGLE-HEADED ARROW",
     "DOWNWARDS TRIANGLE-HEADED ARROW;LEFT RIGHT TRIANGLE-HEADED ARROW",
     "UP DOWN TRIANGLE-HEADED ARROW;NORTH WEST TRIANGLE-HEADED ARROW",
     "NORTH EAST TRIANGLE-HEADED ARROW;SOUTH EAST TRIANGLE-HEADED ARROW",
     "SOUTH WEST TRIANGLE-HEADED ARROW;LEFTWARDS TRIANGLE-HEADED DASHED ARROW",
     "UPWARDS TRIANGLE-HEADED DASHED ARROW;RIGHTWARDS TRIANGLE-HEADED DASHED ARROW",
     "DOWNWARDS TRIANGLE-HEADED DASHED ARROW;CLOCKWISE TRIANGLE-HEADED OPEN CIRCLE ARROW",
     "ANTICLOCKWISE TRIANGLE-HEADED OPEN CIRCLE ARROW;LEFTWARDS TRIANGLE-HEADED ARROW TO BAR",
     "UPWARDS TRIANGLE-HEADED ARROW TO BAR;RIGHTWARDS TRIANGLE-HEADED ARROW TO BAR",
     "DOWNWARDS TRIANGLE-HEADED ARROW TO BAR"]⟩,
   ⟨0x2B76, "",
    ["NORTH WEST TRIANGLE-HEADED ARROW TO BAR;NORTH EAST TRIANGLE-HEADED ARROW TO BAR",
     "SOUTH EAST TRIANGLE-HEADED ARROW TO BAR;SOUTH WEST TRIANGLE-HEADED ARROW TO BAR",
     "LEFTWARDS TRIANGLE-HEADED ARROW WITH DOUBLE HORIZONTAL STROKE",
     "UPWARDS TRIANGLE-HEADED ARROW WITH DOUBLE HORIZONTAL STROKE",
     "RIGHTWARDS TRIANGLE-HEADED ARROW WITH DOUBLE HORIZONTAL STROKE",
     "DOWNWARDS TRIANGLE-HEADED ARROW WITH DOUBLE HORIZONTAL STROKE;HORIZONTAL TAB KEY",
     "VERTICAL TAB KEY;LEFTWARDS TRIANGLE-HEADED ARROW OVER RIGHTWARDS TRIANGLE-HEADED ARROW",
     "UPWARDS TRIANGLE-HEADED ARROW LEFTWARDS OF DOWNWARDS TRIANGLE-HEADED ARROW",
     "RIGHTWARDS TRIANGLE-HEADED ARROW OVER LEFTWARDS TRIANGLE-HEADED ARROW",
     "DOWNWARDS TRIANGLE-HEADED ARROW LEFTWARDS OF UPWARDS TRIANGLE-HEADED ARROW",
     "LEFTWARDS TRIANGLE-HEADED PAIRED ARROWS;UPWARDS TRIANGLE-HEADED PAIRED ARROWS",
     "RIGHTWARDS TRIANGLE-HEADED PAIRED ARROWS;DOWNWARDS TRIANGLE-HEADED PAIRED ARROWS",
     "LEFTWARDS BLACK CIRCLED WHITE ARROW;UPWARDS BLACK CIRCLED WHITE ARROW",
     "RIGHTWARDS BLACK CIRCLED WHITE ARROW;DOWNWARDS BLACK CIRCLED WHITE ARROW",
     "ANTICLOCKWISE TRIANGLE-HEADED RIGHT U-SHAPED ARROW",
     "ANTICLOCKWISE TRIANGLE-HEADED BOTTOM U-SHAPED ARROW",
     "ANTICLOCKWISE TRIANGLE-HEADED LEFT U-SHAPED ARROW",
     "ANTICLOCKWISE TRIANGLE-HEADED TOP U-SHAPED ARROW;RETURN LEFT;RETURN RIGHT;NEWLINE LEFT",
     "NEWLINE RIGHT;FOUR CORNER ARROWS CIRCLING ANTICLOCKWISE;RIGHTWARDS BLACK ARROW"]⟩,
   ⟨0x2B97, "",
    ["SYMBOL FOR TYPE A ELECTRONICS;THREE-D TOP-LIGHTED LEFTWARDS EQUILATERAL ARROWHEAD",
     "THREE-D RIGHT-LIGHTED UPWARDS EQUILATERAL ARROWHEAD",
     "THREE-D TOP-LIGHTED RIGHTWARDS EQUILATERAL ARROWHEAD",
     "THREE-D LEFT-LIGHTED DOWNWARDS EQUILATERAL ARROWHEAD",
     "BLACK LEFTWARDS EQUILATERAL ARROWHEAD;BLACK UPWARDS EQUILATERAL ARROWHEAD",
     "BLACK RIGHTWARDS EQUILATERAL ARROWHEAD;BLACK DOWNWARDS EQUILATERAL ARROWHEAD",
     "DOWNWARDS TRIANGLE-HEADED ARROW WITH LONG TIP LEFTWARDS",
     "DOWNWARDS TRIANGLE-HEADED ARROW WITH LONG TIP RIGHTWARDS",
     "UPWARDS TRIANGLE-HEADED ARROW WITH LONG TIP LEFTWARDS",
     "UPWARDS TRIANGLE-HEADED ARROW WITH LONG TIP RIGHTWARDS",
     "LEFTWARDS TRIANGLE-HEADED ARROW WITH LONG TIP UPWARDS",
     "RIGHTWARDS TRIANGLE-HEADED ARROW WITH LONG TIP UPWARDS",
     "LEFTWARDS TRIANGLE-HEADED ARROW WITH LONG TIP DOWNWARDS",
     "RIGHTWARDS TRIANGLE-HEADED ARROW WITH LONG TIP DOWNWARDS"]⟩,
   ⟨0x2BA8, "BLACK CURVED ",
    ["DOWNWARDS AND LEFTWARDS ARROW;DOWNWARDS AND RIGHTWARDS ARROW;UPWARDS AND LEFTWARDS ARROW",
     "UPWARDS AND RIGHTWARDS ARROW;LEFTWARDS AND UPWARDS ARROW;RIGHTWARDS AND UPWARDS ARROW",
     "LEFTWARDS AND DOWNWARDS ARROW;RIGHTWARDS AND DOWNWARDS ARROW"]⟩,
   ⟨0x2BB0, "RIBBON ARROW ",
    ["DOWN LEFT;DOWN RIGHT;UP LEFT;UP RIGHT;LEFT UP;RIGHT UP;LEFT DOWN;RIGHT DOWN"]⟩,
   ⟨0x2BB8, "",
    ["UPWARDS WHITE ARROW FROM BAR WITH HORIZONTAL BAR;UP ARROWHEAD IN A RECTANGLE BOX",
     "OVERLAPPING WHITE SQUARES;OVERLAPPING WHITE AND BLACK SQUARES;OVERLAPPING BLACK SQUARES",
     "BALLOT BOX WITH LIGHT X;CIRCLED X;CIRCLED BOLD X;BLACK SQUARE CENTRED",
     "BLACK DIAMOND CENTRED;TURNED BLACK PENTAGON;HORIZONTAL BLACK OCTAGON;BLACK OCTAGON",
     "BLACK MEDIUM UP-POINTING TRIANGLE CENTRED;BLACK MEDIUM DOWN-POINTING TRIANGLE CENTRED",
     "BLACK MEDIUM LEFT-POINTING TRIANGLE CENTRED;BLACK MEDIUM RIGHT-POINTING TRIANGLE CENTRED",
     "NEPTUNE FORM TWO;TOP HALF BLACK CIRCLE;BOTTOM HALF BLACK CIRCLE",
     "LIGHT FOUR POINTED BLACK CUSP;ROTATED LIGHT FOUR POINTED BLACK CUSP",
     "WHITE FOUR POINTED CUSP;ROTATED WHITE FOUR POINTED CUSP;SQUARE POSITION INDICATOR",
     "UNCERTAINTY SIGN;GROUP MARK;PLUTO FORM TWO;PLUTO FORM THREE;PLUTO FORM FOUR",
     "PLUTO FORM FIVE;TRANSPLUTO;PROSERPINA;ASTRAEA;HYGIEA;PHOLUS;NESSUS;WHITE MOON SELENA",
     "BLACK DIAMOND ON CROSS;TRUE LIGHT MOON ARTA;CUPIDO;HADES;ZEUS;KRONOS;APOLLON;ADMETOS",
     "VULCANUS;POSEIDON;LEFT HALF BLACK STAR;RIGHT HALF BLACK STAR;STAR WITH LEFT HALF BLACK",
     "STAR WITH RIGHT HALF BLACK;LEFTWARDS TWO-HEADED ARROW WITH TRIANGLE ARROWHEADS",
     "UPWARDS TWO-HEADED ARROW WITH TRIANGLE ARROWHEADS",
     "RIGHTWARDS TWO-HEADED ARROW WITH TRIANGLE ARROWHEADS",
     "DOWNWARDS TWO-HEADED ARROW WITH TRIANGLE ARROWHEADS;ERIS FORM ONE;ERIS FORM TWO;SEDNA"]⟩,
   ⟨0x2BF3, "RUSSIAN ASTROLOGICAL SYMBOL ",
    ["VIGINTILE;NOVILE;QUINTILE;BINOVILE;SENTAGON;TREDECILE"]⟩,
   ⟨0x2BF9, "",
    ["EQUALS SIGN WITH INFINITY BELOW;UNITED SYMBOL;SEPARATED SYMBOL;DOUBLED SYMBOL",
     "PASSED SYMBOL;REVERSED RIGHT ANGLE;HELLSCHREIBER PAUSE SYMBOL"]⟩,
   ⟨0x2C00, "GLAGOLITIC CAPITAL LETTER ",
    ["AZU;BUKY;VEDE;GLAGOLI;DOBRO;YESTU;ZHIVETE;DZELO;ZEMLJA;IZHE;INITIAL IZHE;I;DJERVI;KAKO",
     "LJUDIJE;MYSLITE;NASHI;ONU;POKOJI;RITSI;SLOVO;TVRIDO;UKU;FRITU;HERU;OTU;PE;SHTA;TSI;CHRIVI",
     "SHA;YERU;YERI;YATI;SPIDERY HA;YU;SMALL YUS;SMALL YUS WITH TAIL;YO;IOTATED SMALL YUS",
     "BIG YUS;IOTATED BIG YUS;FITA;IZHITSA;SHTAPIC;TROKUTASTI A;LATINATE MYSLITE;CAUDATE CHRIVI"]⟩,
   ⟨0x2C30, "GLAGOLITIC SMALL LETTER ",
    ["AZU;BUKY;VEDE;GLAGOLI;DOBRO;YESTU;ZHIVETE;DZELO;ZEMLJA;IZHE;INITIAL IZHE;I;DJERVI;KAKO",
     "LJUDIJE;MYSLITE;NASHI;ONU;POKOJI;RITSI;SLOVO;TVRIDO;UKU;FRITU;HERU;OTU;PE;SHTA;TSI;CHRIVI",
     "SHA;YERU;YERI;YATI;SPIDERY HA;YU;SMALL YUS;SMALL YUS WITH TAIL;YO;IOTATED SMALL YUS",
     "BIG YUS;IOTATED BIG YUS;FITA;IZHITSA;SHTAPIC;TROKUTASTI A;LATINATE MYSLITE;CAUDATE CHRIVI"]⟩]

end YangSchema.Unicode.NameBlock
